import Remedy.Proofs.Service.Pool

/-!
# Notes on calls

Something may be noted of a call when it begins and whenever it gets a turn. What every step of a
call keeps, of its phase and of the notes on it, holds of every call of a pool, whatever the calls
beside it do.
-/

namespace Remedy

variable {Q : Type} {A : Q → Type} {σ α : Type}

/-- The phase of a call after its turn. -/
def Phase.turned (s : Service Q A) (w : Program.World Q A σ) (m : Moment) (b : Board) (world : σ) :
    Phase Q A → Phase Q A
  | executing e rest =>
    match Program.turn w m.ms rest world with
    | (.on rest, _, _) => executing e rest
    | (.ended outcome, events, _) => ofUndo (e.settle s m outcome (b.emitAll events)).1
  | rollingBack u rest =>
    match Program.turn w m.ms rest world with
    | (.on rest, _, _) => rollingBack u rest
    | (.ended outcome, events, _) => ended (u.settle m outcome (b.emitAll events)).1
  | ended report => ended report

namespace Pool

/-- What is noted of a call at its begin and at its turns. -/
structure Scribe (Q : Type) (A : Q → Type) (σ α : Type) where
  begins : Moment → Ticket → Board → List α
  goes : Moment → Board → σ → Phase Q A → List α

namespace Scribe

/-- What is noted at a move, with the call that it concerns. -/
def notes (n : Scribe Q A σ α) (x : Pool Q A σ) : Move → List (Nat × α)
  | .call m t => (n.begins m t x.board).map (x.calls.length, ·)
  | .step m i =>
    match x.calls[i]?.bind (·.phase) with
    | some phase => (n.goes m x.board x.world phase).map (i, ·)
    | none => []
  | .drop _ => []

/-- The notes on a run, oldest first. -/
def story (n : Scribe Q A σ α) (s : Service Q A) (w : Program.World Q A σ) :
    Pool Q A σ → List Move → List (Nat × α)
  | _, [] => []
  | x, move :: moves => n.notes x move ++ n.story s w (x.step s w move) moves

end Scribe

/-- What a call keeps, of its phase and of the notes on it, from its begin and at its turns. -/
structure Stable (n : Scribe Q A σ α) (s : Service Q A) (w : Program.World Q A σ)
    (P : Ticket → Option (Phase Q A) → List α → Prop) : Prop where
  begins : ∀ m t b, P t (some (.ofExecution (s.receive m t b).1)) (n.begins m t b)
  goes : ∀ t phase notes m b world, P t (some phase) notes →
    P t (some (phase.turned s w m b world)) (notes ++ n.goes m b world phase)
  left : ∀ t phase notes, P t (some phase) notes → P t none notes

/-- Every call of a pool goes with the notes on it. -/
structure Noted (P : Ticket → Option (Phase Q A) → List α → Prop) (x : Pool Q A σ)
    (notes : List (Nat × α)) : Prop where
  tagged : ∀ n ∈ notes, n.1 < x.calls.length
  calls : ∀ i c, x.calls[i]? = some c → P c.ticket c.phase (about i notes)

variable {n : Scribe Q A σ α} {s : Service Q A} {w : Program.World Q A σ} {x : Pool Q A σ}
  {P : Ticket → Option (Phase Q A) → List α → Prop} {notes : List (Nat × α)} {i : Nat}
  {c : Call Q A}

theorem receive_eq_add (s : Service Q A) (m : Moment) (t : Ticket) (x : Pool Q A σ) :
    ∃ c : Call Q A, c.ticket = t ∧ c.phase = some (.ofExecution (s.receive m t x.board).1) ∧
      ∃ b recorded, x.receive s m t = x.add c b recorded := by
  rw [Pool.receive]
  generalize s.receive m t x.board = next
  obtain ⟨report | e, b⟩ := next
  · exact ⟨_, rfl, rfl, _, _, rfl⟩
  · exact ⟨_, rfl, rfl, _, _, rfl⟩

/-- A turn changes the phase of one call. -/
theorem calls_resume (m : Moment) {phase : Phase Q A} (at_ : c.phase = some phase)
    (out : x.calls[i]? = some c) :
    (x.resume s w m i c).calls.length = x.calls.length ∧
      ∀ j d, (x.resume s w m i c).calls[j]? = some d →
        (j = i ∧ d.ticket = c.ticket ∧ d.phase = some (phase.turned s w m x.board x.world)) ∨
          (j ≠ i ∧ x.calls[j]? = some d) := by
  have other (c' : Call Q A) (ticket : c'.ticket = c.ticket)
      (turned : c'.phase = some (phase.turned s w m x.board x.world)) (b : Board) (world : σ)
      (recorded : List (TargetKey × Limiter.Entry)) :
      (x.put i c' b world recorded).calls.length = x.calls.length ∧
        ∀ j d, (x.put i c' b world recorded).calls[j]? = some d →
          (j = i ∧ d.ticket = c.ticket ∧ d.phase = some (phase.turned s w m x.board x.world)) ∨
            (j ≠ i ∧ x.calls[j]? = some d) := by
    refine ⟨List.length_set .., fun j d hd => ?_⟩
    rcases calls_put b world recorded hd with ⟨rfl, rfl⟩ | apart
    · exact .inl ⟨rfl, ticket, turned⟩
    · exact .inr apart
  rw [Pool.resume, at_]
  cases phase with
  | executing e rest =>
    simp only [Phase.turned] at other ⊢
    generalize Program.turn w m.ms rest x.world = next at other ⊢
    obtain ⟨outcome | rest', events, world⟩ := next
    · refine other _ ?_ ?_ _ _ _ <;> rfl
    · refine other _ ?_ ?_ _ _ _ <;> rfl
  | rollingBack u rest =>
    simp only [Phase.turned] at other ⊢
    generalize Program.turn w m.ms rest x.world = next at other ⊢
    obtain ⟨outcome | rest', events, world⟩ := next
    · refine other _ ?_ ?_ _ _ _ <;> rfl
    · refine other _ ?_ ?_ _ _ _ <;> rfl
  | ended report =>
    refine ⟨rfl, fun j d hd => ?_⟩
    by_cases same : j = i
    · subst same
      cases out.symm.trans hd
      exact .inl ⟨rfl, rfl, at_⟩
    · exact .inr ⟨same, hd⟩

section Steps

variable (stable : Stable n s w P)
include stable

theorem Noted.receive (h : x.Noted P notes) (m : Moment) (t : Ticket) :
    (x.receive s m t).Noted P (notes ++ n.notes x (.call m t)) := by
  obtain ⟨c, ticket, phase, b, recorded, same⟩ := receive_eq_add s m t x
  rw [same]
  refine ⟨?_, fun j d hd => ?_⟩
  · rw [Pool.add, List.length_append, List.length_singleton]
    exact tagged_append _ h.tagged (Nat.le_succ _) (Nat.lt_succ_self _)
  · rw [Scribe.notes, about_append, about_eq_nil h.tagged, List.nil_append]
    rcases calls_add hd with ⟨rfl, rfl⟩ | ⟨old, same⟩
    · rw [if_pos rfl, ticket, phase]
      exact stable.begins m t x.board
    · rw [if_neg (Nat.ne_of_lt old)]
      exact h.calls j d same

theorem Noted.resume (h : x.Noted P notes) (m : Moment) (out : x.calls[i]? = some c)
    {phase : Phase Q A} (at_ : c.phase = some phase) :
    (x.resume s w m i c).Noted P (notes ++ (n.goes m x.board x.world phase).map (i, ·)) := by
  obtain ⟨length, calls⟩ := calls_resume (s := s) (w := w) m at_ out
  refine ⟨?_, fun j d hd => ?_⟩
  · rw [length]
    exact tagged_append _ h.tagged (Nat.le_refl _) (List.getElem?_eq_some_iff.1 out).1
  · rw [about_append]
    rcases calls j d hd with ⟨rfl, ticket, turned⟩ | ⟨apart, same⟩
    · have held := h.calls j c out
      rw [at_] at held
      rw [if_pos rfl, ticket, turned]
      exact stable.goes _ _ _ m x.board x.world held
    · rw [if_neg apart]
      exact h.calls j d same

theorem Noted.abandon (h : x.Noted P notes) (out : x.calls[i]? = some c) :
    (x.abandon i c).Noted P notes := by
  have left (phase : Phase Q A) (at_ : c.phase = some phase) (fate : Fate) (b : Board)
      (recorded : List (TargetKey × Limiter.Entry)) :
      (x.put i { c with phase := none, fate } b x.world recorded).Noted P notes := by
    refine ⟨?_, fun j d hd => ?_⟩
    · rw [Pool.put, List.length_set]
      exact h.tagged
    · rcases calls_put b x.world recorded hd with ⟨rfl, rfl⟩ | ⟨apart, same⟩
      · have held := h.calls j c out
        rw [at_] at held
        exact stable.left _ phase _ held
      · exact h.calls j d same
  rw [Pool.abandon]
  split
  · next e rest at_ => exact left _ at_ ..
  · next phase _ at_ => exact left _ at_ ..
  · exact h

theorem Noted.step (h : x.Noted P notes) (move : Move) :
    (x.step s w move).Noted P (notes ++ n.notes x move) := by
  cases move with
  | call m t => exact h.receive stable m t
  | step m i =>
    simp only [Pool.step, Scribe.notes]
    cases out : x.calls[i]? with
    | none => simpa using h
    | some c =>
      cases at_ : c.phase with
      | none => simpa [Pool.resume, at_] using h
      | some phase => simpa [at_] using h.resume stable m out at_
  | drop i =>
    simp only [Pool.step, Scribe.notes, List.append_nil]
    split
    · next c out => exact h.abandon stable out
    · exact h

theorem Noted.run (moves : List Move) :
    ∀ {x : Pool Q A σ} {notes : List (Nat × α)}, x.Noted P notes →
      (x.run s w moves).Noted P (notes ++ n.story s w x moves) := by
  induction moves with
  | nil =>
    intro x notes h
    simpa [Scribe.story, Pool.run] using h
  | cons move rest ih =>
    intro x notes h
    rw [Scribe.story, ← List.append_assoc]
    exact ih (h.step stable move)

/-- Whatever every step of a call keeps holds of every call of a pool. -/
theorem noted_run (b : Board) (world : σ) (moves : List Move) :
    ((⟨[], b, world, []⟩ : Pool Q A σ).run s w moves).Noted P
      (n.story s w (⟨[], b, world, []⟩ : Pool Q A σ) moves) := by
  have fresh : (⟨[], b, world, []⟩ : Pool Q A σ).Noted P ([] : List (Nat × α)) :=
    ⟨by simp, by simp⟩
  exact fresh.run stable moves

end Steps

/-! ## Two scribes -/

section Beside

variable {β : Type}

/-- What two scribes note, told apart. -/
def Scribe.beside (n : Scribe Q A σ α) (n' : Scribe Q A σ β) : Scribe Q A σ (α ⊕ β) where
  begins m t b := (n.begins m t b).map .inl ++ (n'.begins m t b).map .inr
  goes m b world phase := (n.goes m b world phase).map .inl ++ (n'.goes m b world phase).map .inr

/-- What the first of two scribes noted. -/
def firsts (notes : List (α ⊕ β)) : List α := notes.filterMap (·.getLeft?)

/-- What the second of two scribes noted. -/
def seconds (notes : List (α ⊕ β)) : List β := notes.filterMap (·.getRight?)

@[simp] theorem firsts_append (notes more : List (α ⊕ β)) :
    firsts (notes ++ more) = firsts notes ++ firsts more :=
  List.filterMap_append

@[simp] theorem seconds_append (notes more : List (α ⊕ β)) :
    seconds (notes ++ more) = seconds notes ++ seconds more :=
  List.filterMap_append

@[simp] theorem firsts_beside (first : List α) (second : List β) :
    firsts (first.map .inl ++ second.map .inr) = first := by
  simp [firsts, List.filterMap_map, Function.comp_def]

@[simp] theorem seconds_beside (first : List α) (second : List β) :
    seconds (first.map .inl ++ second.map .inr) = second := by
  simp [seconds, List.filterMap_map, Function.comp_def]

theorem about_notes (n : Scribe Q A σ α) (x : Pool Q A σ) (move : Move) (i : Nat) :
    about i (n.notes x move) =
      match move with
      | .call m t => if i = x.calls.length then n.begins m t x.board else []
      | .step m j =>
        match x.calls[j]?.bind (·.phase) with
        | some phase => if i = j then n.goes m x.board x.world phase else []
        | none => []
      | .drop _ => [] := by
  have at_ (j : Nat) (notes : List α) :
      about i (notes.map (j, ·)) = if i = j then notes else [] := about_append j i [] notes
  cases move with
  | call m t => exact at_ _ _
  | step m j =>
    simp only [Scribe.notes]
    cases x.calls[j]?.bind (·.phase) with
    | none => rfl
    | some phase => exact at_ _ _
  | drop j => rfl

theorem notes_beside (n : Scribe Q A σ α) (n' : Scribe Q A σ β) (i : Nat) (x : Pool Q A σ)
    (move : Move) :
    firsts (about i ((n.beside n').notes x move)) = about i (n.notes x move) ∧
      seconds (about i ((n.beside n').notes x move)) = about i (n'.notes x move) := by
  simp only [about_notes]
  cases move with
  | call m t =>
    by_cases own : i = x.calls.length
    · simp only [if_pos own]
      exact ⟨firsts_beside _ _, seconds_beside _ _⟩
    · simp only [if_neg own]
      exact ⟨rfl, rfl⟩
  | step m j =>
    dsimp only
    cases x.calls[j]?.bind (·.phase) with
    | none => exact ⟨rfl, rfl⟩
    | some phase =>
      by_cases own : i = j
      · simp only [if_pos own]
        exact ⟨firsts_beside _ _, seconds_beside _ _⟩
      · simp only [if_neg own]
        exact ⟨rfl, rfl⟩
  | drop j => exact ⟨rfl, rfl⟩

/-- Neither of two scribes is in the way of the other. -/
theorem story_beside (n : Scribe Q A σ α) (n' : Scribe Q A σ β) (i : Nat) (moves : List Move)
    (x : Pool Q A σ) :
    firsts (about i ((n.beside n').story s w x moves)) = about i (n.story s w x moves) ∧
      seconds (about i ((n.beside n').story s w x moves)) = about i (n'.story s w x moves) := by
  induction moves generalizing x with
  | nil => exact ⟨rfl, rfl⟩
  | cons move rest ih =>
    have parts {γ : Type} (notes more : List (Nat × γ)) :
        about i (notes ++ more) = about i notes ++ about i more := by
      simp [about]
    obtain ⟨first, second⟩ := notes_beside n n' i x move
    obtain ⟨firsts, seconds⟩ := ih (x.step s w move)
    simp only [Scribe.story, parts, firsts_append, seconds_append, first, second, firsts, seconds,
      and_self]

/-- What a call keeps of its phase and of what two scribes note. -/
structure StableBeside (n : Scribe Q A σ α) (n' : Scribe Q A σ β) (s : Service Q A)
    (w : Program.World Q A σ) (P : Ticket → Option (Phase Q A) → List α → List β → Prop) :
    Prop where
  begins : ∀ m t b, P t (some (.ofExecution (s.receive m t b).1)) (n.begins m t b)
    (n'.begins m t b)
  goes : ∀ t phase notes notes' m b world, P t (some phase) notes notes' →
    P t (some (phase.turned s w m b world)) (notes ++ n.goes m b world phase)
      (notes' ++ n'.goes m b world phase)
  left : ∀ t phase notes notes', P t (some phase) notes notes' → P t none notes notes'

theorem StableBeside.noted_run {n' : Scribe Q A σ β}
    {P : Ticket → Option (Phase Q A) → List α → List β → Prop}
    (stable : StableBeside n n' s w P) (b : Board) (world : σ) (moves : List Move) :
    let x : Pool Q A σ := ⟨[], b, world, []⟩
    ∀ i c, (x.run s w moves).calls[i]? = some c →
      P c.ticket c.phase (about i (n.story s w x moves)) (about i (n'.story s w x moves)) := by
  intro x i c out
  have both : Stable (n.beside n') s w fun t phase notes =>
      P t phase (firsts notes) (seconds notes) := by
    refine ⟨fun m t b => ?_, fun t phase notes m b world held => ?_, fun t phase notes held => ?_⟩
    · simp only [Scribe.beside, firsts_beside, seconds_beside]
      exact stable.begins m t b
    · dsimp only [Scribe.beside]
      rw [firsts_append, firsts_beside, seconds_append, seconds_beside]
      exact stable.goes t phase _ _ m b world held
    · exact stable.left t phase _ _ held
  have noted := (Pool.noted_run both b world moves).calls i c out
  obtain ⟨first, second⟩ := story_beside (s := s) (w := w) n n' i moves x
  rw [first, second] at noted
  exact noted

end Beside

end Pool

end Remedy
