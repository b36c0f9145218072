import Remedy.Program

/-!
# What a program asks

A program that runs alone leaves a transcript: its requests, each with its time and its answer. What
a program may ask at all, whatever is answered and whatever the clock shows, is said of the tree;
every run keeps to it, and so does every program that gets its turns among others.
-/

namespace Remedy.Program

variable {Q : Type} {A : Q → Type} {σ α β : Type}

/-- A request with the time at which it was put and the answer it got. -/
structure Exchange (Q : Type) (A : Q → Type) where
  time : Nat
  request : Q
  answer : A request

/-! ## Transcripts -/

/-- What a program that runs alone asks and is answered, oldest first. -/
def transcript (w : World Q A σ) (now : Nat) : Program Q A α → σ → List (Exchange Q A)
  | done _, _ => []
  | abort _, _ => []
  | ask q next, s => ⟨now, q, (w q s).1⟩ :: transcript w now (next (w q s).1) (w q s).2
  | clock next, s => transcript w now (next now) s
  | sleep ms next, s => transcript w (now + ms) next s
  | emit _ next, s => transcript w now next s

theorem run_ask (w : World Q A σ) (now : Nat) (q : Q) (next : A q → Program Q A α) (s : σ) :
    run w now (ask q next) s = run w now (next (w q s).1) (w q s).2 := rfl

theorem transcript_ask (w : World Q A σ) (now : Nat) (q : Q) (next : A q → Program Q A α) (s : σ) :
    transcript w now (ask q next) s =
      ⟨now, q, (w q s).1⟩ :: transcript w now (next (w q s).1) (w q s).2 := rfl

/-- Requests whose answers are those of a world, one after the other. -/
def Answered (w : World Q A σ) : σ → List (Exchange Q A) → Prop
  | _, [] => True
  | s, x :: rest => x.answer = (w x.request s).1 ∧ Answered w (w x.request s).2 rest

theorem transcript_answered (w : World Q A σ) (now : Nat) (p : Program Q A α) (s : σ) :
    Answered w s (transcript w now p s) := by
  induction p generalizing now s with
  | done a | abort p => trivial
  | ask q next ih => exact ⟨rfl, ih (w q s).1 now (w q s).2⟩
  | clock next ih => exact ih now now s
  | sleep ms next ih => exact ih (now + ms) s
  | emit e next ih => exact ih now s

/-- Each answer is what the world gave in one state or another. -/
theorem Answered.answer_mem {w : World Q A σ} {s : σ} {log : List (Exchange Q A)}
    (answered : Answered w s log) {x : Exchange Q A} (among : x ∈ log) :
    ∃ before, x.answer = (w x.request before).1 := by
  induction log generalizing s with
  | nil => cases among
  | cons first rest ih =>
    cases among with
    | head => exact ⟨s, answered.1⟩
    | tail _ later => exact ih answered.2 later

/-- A world that keeps the requests, oldest first. -/
def noting (w : World Q A σ) : World Q A (σ × List Q) := fun q s =>
  ((w q s.1).1, (w q s.1).2, s.2 ++ [q])

/-- Whoever keeps the requests of a run has those of its transcript, and changes nothing else. -/
theorem run_noting (w : World Q A σ) (now : Nat) (p : Program Q A α) (s : σ) (asked : List Q) :
    run (noting w) now p (s, asked) =
      { outcome := (run w now p s).outcome, time := (run w now p s).time,
        events := (run w now p s).events
        world := ((run w now p s).world,
          asked ++ (transcript w now p s).map Exchange.request) } := by
  induction p generalizing now s asked with
  | done a | abort p => simp [run, transcript]
  | ask q next ih =>
    have tail := ih (w q s).1 now (w q s).2 (asked ++ [q])
    simpa [run, transcript, noting] using tail
  | clock next ih => exact ih now now s asked
  | sleep ms next ih => exact ih (now + ms) s asked
  | emit e next ih =>
    simp only [run, transcript]
    rw [ih now s asked]

section Bind

variable (w : World Q A σ) (p : Program Q A α) (f : α → Program Q A β)

theorem bind_bind {γ : Type} (p : Program Q A α) (f : α → Program Q A β) (g : β → Program Q A γ) :
    (p.bind f).bind g = p.bind fun a => (f a).bind g := by
  induction p with
  | done a => rfl
  | abort p => rfl
  | ask q next ih => exact congrArg (ask q) (funext ih)
  | clock next ih => exact congrArg clock (funext ih)
  | sleep ms next ih => exact congrArg (sleep ms) ih
  | emit e next ih => exact congrArg (emit e) ih

/-- A program that goes on with the value of another. -/
theorem run_bind {a : α} {now : Nat} {s : σ} (came : (run w now p s).outcome = .ok a) :
    run w now (p.bind f) s =
      { run w (run w now p s).time (f a) (run w now p s).world with
        events := (run w now p s).events ++
          (run w (run w now p s).time (f a) (run w now p s).world).events } := by
  induction p generalizing now s with
  | done b =>
    cases came
    rfl
  | abort p => cases came
  | ask q next ih => exact ih (w q s).1 came
  | clock next ih => exact ih now came
  | sleep ms next ih => exact ih came
  | emit e next ih =>
    simp only [bind, run]
    rw [ih came]
    rfl

theorem transcript_bind {a : α} {now : Nat} {s : σ} (came : (run w now p s).outcome = .ok a) :
    transcript w now (p.bind f) s = transcript w now p s ++
      transcript w (run w now p s).time (f a) (run w now p s).world := by
  induction p generalizing now s with
  | done b =>
    cases came
    rfl
  | abort p => cases came
  | ask q next ih => exact congrArg (List.cons _) (ih (w q s).1 came)
  | clock next ih => exact ih now came
  | sleep ms next ih => exact ih came
  | emit e next ih => exact ih came

end Bind

/-! ## What may be asked -/

/-- Whatever is answered and whatever the clock shows, each request of a program is one that may
follow those before it, and what the program ends with is a value that may follow them all. -/
def Keeps (may : List Q → Prop) (leaves : List Q → α → Prop) : List Q → Program Q A α → Prop
  | asked, done a => leaves asked a
  | _, abort _ => False
  | asked, ask q next => may (asked ++ [q]) ∧ ∀ a, Keeps may leaves (asked ++ [q]) (next a)
  | asked, clock next => ∀ now, Keeps may leaves asked (next now)
  | asked, sleep _ next => Keeps may leaves asked next
  | asked, emit _ next => Keeps may leaves asked next

section Keeps

variable {may : List Q → Prop} {leaves : List Q → α → Prop} {p : Program Q A α} {asked : List Q}

theorem Keeps.bind {then_ : List Q → β → Prop} {f : α → Program Q A β}
    (first : Keeps may leaves asked p)
    (second : ∀ asked a, leaves asked a → Keeps may then_ asked (f a)) :
    Keeps may then_ asked (p.bind f) := by
  induction p generalizing asked with
  | done a => exact second asked a first
  | abort p => exact first
  | ask q next ih => exact ⟨first.1, fun a => ih a (first.2 a)⟩
  | clock next ih => exact fun now => ih now (first now)
  | sleep ms next ih => exact ih first
  | emit e next ih => exact ih first

/-- A run asks what may be asked, and comes to an end that may follow. -/
theorem Keeps.run (keeps : Keeps may leaves asked p) (before : may asked) (w : World Q A σ)
    (now : Nat) (s : σ) :
    may (asked ++ (transcript w now p s).map Exchange.request) ∧
      ∃ a, (p.run w now s).outcome = .ok a ∧
        leaves (asked ++ (transcript w now p s).map Exchange.request) a := by
  induction p generalizing asked now s with
  | done a =>
    simp only [transcript, List.map_nil, List.append_nil]
    exact ⟨before, a, rfl, keeps⟩
  | abort p => exact keeps.elim
  | ask q next ih =>
    have tail := ih (w q s).1 (keeps.2 _) keeps.1 now (w q s).2
    simpa [transcript, Program.run] using tail
  | clock next ih => exact ih now (keeps now) before now s
  | sleep ms next ih => exact ih keeps before (now + ms) s
  | emit e next ih => exact ih keeps before now s

end Keeps

/-! ## What stops a program -/

section Faults

variable {ε : Type} {fault? : (q : Q) → A q → Option ε}

/-- A program that ends with the fault of an answer as soon as there is one, and only then with a
fault. -/
def Heeds (fault? : (q : Q) → A q → Option ε) : Program Q A (Except ε α) → Prop
  | done result => ∃ a, result = .ok a
  | abort _ => False
  | ask q next => ∀ a,
    match fault? q a with
    | some e => next a = done (.error e)
    | none => Heeds fault? (next a)
  | clock next => ∀ now, Heeds fault? (next now)
  | sleep _ next => Heeds fault? next
  | emit _ next => Heeds fault? next

theorem Heeds.ask {q : Q} {next : A q → Program Q A (Except ε α)}
    (stops : ∀ a e, fault? q a = some e → next a = done (.error e))
    (goes : ∀ a, fault? q a = none → Heeds fault? (next a)) :
    Heeds fault? (Program.ask q next) := by
  intro a
  cases fault : fault? q a with
  | some e => exact stops a e fault
  | none => exact goes a fault

/-- The exchanges of such a program and its end: a value when no answer has a fault, and otherwise
the fault of the last answer, the only one that has a fault. -/
inductive Heeded (fault? : (q : Q) → A q → Option ε) : List (Exchange Q A) → Except ε α → Prop
  | passed {log : List (Exchange Q A)} (a : α)
      (clear : ∀ x ∈ log, fault? x.request x.answer = none) : Heeded fault? log (.ok a)
  | stopped {before : List (Exchange Q A)} {last : Exchange Q A} {e : ε}
      (clear : ∀ x ∈ before, fault? x.request x.answer = none)
      (fault : fault? last.request last.answer = some e) :
      Heeded fault? (before ++ [last]) (.error e)

namespace Heeded

variable {log : List (Exchange Q A)} {result : Except ε α}

theorem cons {x : Exchange Q A} (clear : fault? x.request x.answer = none)
    (heeded : Heeded fault? log result) : Heeded fault? (x :: log) result := by
  cases heeded with
  | passed a rest => exact .passed a (List.forall_mem_cons.2 ⟨clear, rest⟩)
  | stopped rest fault => exact .stopped (List.forall_mem_cons.2 ⟨clear, rest⟩) fault

theorem ok_iff (heeded : Heeded fault? log result) :
    (∃ a, result = .ok a) ↔ ∀ x ∈ log, fault? x.request x.answer = none := by
  cases heeded with
  | passed a clear => exact ⟨fun _ => clear, fun _ => ⟨a, rfl⟩⟩
  | @stopped before last e _ fault =>
    constructor
    · rintro ⟨a, same⟩
      cases same
    · intro clear
      have none_ := clear last (by simp)
      rw [fault] at none_
      cases none_

theorem first {x : Exchange Q A} {e : ε} (fault : fault? x.request x.answer = some e) :
    Heeded fault? [x] (.error e : Except ε α) :=
  have none_ : ∀ y ∈ [], fault? (Exchange.request y) y.answer = none :=
    fun _ among => absurd among List.not_mem_nil
  .stopped none_ fault

/-- Nothing is asked after a fault, and the fault is what the program ends with. -/
theorem of_fault {before after : List (Exchange Q A)} {x : Exchange Q A} {e : ε}
    (heeded : Heeded fault? (before ++ x :: after) result)
    (fault : fault? x.request x.answer = some e) : result = .error e ∧ after = [] := by
  generalize split : before ++ x :: after = log at heeded
  have among : x ∈ log := split ▸ List.mem_append_right _ List.mem_cons_self
  cases heeded with
  | passed a clear =>
    rw [clear x among] at fault
    cases fault
  | @stopped heard last e' clear fault' =>
    rcases List.eq_nil_or_concat after with rfl | ⟨more, y, rfl⟩
    · obtain ⟨-, same⟩ := List.append_inj' split rfl
      obtain rfl := List.singleton_inj.1 same
      exact ⟨congrArg Except.error (Option.some.inj (fault'.symm.trans fault)), rfl⟩
    -- something was asked after `x`, which is then one of those without a fault
    · have whole : (before ++ x :: more) ++ [y] = heard ++ [last] := by simpa using split
      obtain ⟨rfl, -⟩ := List.append_inj' whole rfl
      rw [clear x (List.mem_append_right _ List.mem_cons_self)] at fault
      cases fault

end Heeded

theorem Heeds.run {p : Program Q A (Except ε α)} (heeds : Heeds fault? p) (w : World Q A σ)
    (now : Nat) (s : σ) :
    ∃ result, (p.run w now s).outcome = .ok result ∧
      Heeded fault? (p.transcript w now s) result := by
  induction p generalizing now s with
  | done result =>
    obtain ⟨a, rfl⟩ := heeds
    exact ⟨.ok a, rfl, .passed a fun _ among => absurd among List.not_mem_nil⟩
  | abort p => exact heeds.elim
  | ask q next ih =>
    have next_ := heeds (w q s).1
    cases fault : fault? q (w q s).1 with
    | none =>
      rw [fault] at next_
      obtain ⟨result, came, heeded⟩ := ih (w q s).1 next_ now (w q s).2
      exact ⟨result, came, heeded.cons fault⟩
    | some e =>
      rw [fault] at next_
      rw [run_ask, transcript_ask, next_]
      exact ⟨.error e, rfl, .first fault⟩
  | clock next ih => exact ih now (heeds now) now s
  | sleep ms next ih => exact ih heeds (now + ms) s
  | emit e next ih => exact ih heeds now s

end Faults

end Remedy.Program
