import Remedy.Proofs.Limiter.Permits
import Remedy.Proofs.Service.Steps

/-!
# Calls in any order

A pool runs calls of one service with no rule for whose turn it is: a call may begin at any time,
any call that is on its way may go on by one request, and any may be given up. The pool notes what
became of each execution and what each call had the limiter record. Starts and ends pair up call by
call, so the executions in flight against a target are those of the calls that execute.
-/

namespace Remedy

variable {Q : Type} {A : Q → Type} {σ : Type}

namespace Program

variable {α : Type}

/-- Where a program stands after one of its requests. -/
inductive Turn (Q : Type) (A : Q → Type) (α : Type) : Type where
  | ended (outcome : Except Panic α)
  | on (rest : Program Q A α)

/-- Answer one request. When a sleeper wakes is left to whoever gives it the turn. -/
def turn (w : World Q A σ) (now : Nat) : Program Q A α → σ → Turn Q A α × List Event × σ
  | done a, s => (.ended (.ok a), [], s)
  | abort p, s => (.ended (.error p), [], s)
  | ask q next, s => (.on (next (w q s).1), [], (w q s).2)
  | clock next, s => (.on (next now), [], s)
  | sleep _ next, s => (.on next, [], s)
  | emit e next, s => (.on next, [e], s)

end Program

namespace Pool

open Limiter

/-- What became of the execution of a call. -/
inductive Fate where
  /-- The call ended before it. -/
  | never
  | running
  | returned (success : Bool)
  | panicked
  /-- The call was given up meanwhile. -/
  | lost
deriving DecidableEq

namespace Fate

def ofOutcome : Except Panic Report → Fate
  | .ok report => returned report.success
  | .error _ => panicked

/-- How an execution that has ended counts. -/
def success? : Fate → Option Bool
  | never | running => none
  | returned success => some success
  | panicked | lost => some false

end Fate

/-- A call of the pool. One that was given up has no phase. -/
structure Call (Q : Type) (A : Q → Type) where
  ticket : Ticket
  begun : Moment
  phase : Option (Phase Q A)
  fate : Fate

namespace Call

def key (config : BlastRadius) (c : Call Q A) : TargetKey :=
  config.keyPolicy.keyFor c.ticket.incident

/-- The permit of an execution that the limiter was asked for. -/
def permit (config : BlastRadius) (c : Call Q A) : Option Permit :=
  if c.ticket.options.skipBlastRadius then none else some (.fresh (c.key config))

/-- What a call has the limiter record: one start when it is admitted and one end when its execution
ends, and nothing when it never executes or does not ask. -/
def entries (config : BlastRadius) (c : Call Q A) : List (TargetKey × Entry) :=
  if c.fate = .never ∨ c.ticket.options.skipBlastRadius = true then []
  else (c.key config, .start c.begun.date) ::
    c.fate.success?.toList.map fun success => (c.key config, .finish success)

/-- A call that executes now, for this target, by leave of the limiter. -/
def holds (config : BlastRadius) (key : TargetKey) (c : Call Q A) : Bool :=
  c.fate = .running && !c.ticket.options.skipBlastRadius && c.key config = key

end Call

end Pool

/-- Calls of one service, what they share, and what was recorded for them, oldest first. -/
structure Pool (Q : Type) (A : Q → Type) (σ : Type) where
  calls : List (Pool.Call Q A)
  board : Board
  world : σ
  ledger : List (Nat × TargetKey × Limiter.Entry)

namespace Pool

open Limiter

inductive Move where
  | call (m : Moment) (t : Ticket)
  | step (m : Moment) (i : Nat)
  | drop (i : Nat)

def new (config : BlastRadius) (world : σ) : Pool Q A σ := ⟨[], .new config, world, []⟩

/-- What was recorded for one call. -/
def entries (x : Pool Q A σ) (i : Nat) : List (TargetKey × Entry) :=
  (x.ledger.filter (·.1 = i)).map (·.2)

/-- The number of calls that execute for a target by leave of the limiter. -/
def holding (config : BlastRadius) (x : Pool Q A σ) (key : TargetKey) : Nat :=
  x.calls.countP (Call.holds config key)

/-- One more call. -/
def add (x : Pool Q A σ) (c : Call Q A) (b : Board) (recorded : List (TargetKey × Entry)) :
    Pool Q A σ :=
  ⟨x.calls ++ [c], b, x.world, x.ledger ++ recorded.map (x.calls.length, ·)⟩

/-- A call goes on to another state. -/
def put (x : Pool Q A σ) (i : Nat) (c : Call Q A) (b : Board) (world : σ)
    (recorded : List (TargetKey × Entry)) : Pool Q A σ :=
  ⟨x.calls.set i c, b, world, x.ledger ++ recorded.map (i, ·)⟩

/-- The start that a permit stands for. -/
def started (now : Time.Instant) (permit : Option Permit) : List (TargetKey × Entry) :=
  permit.toList.map fun p => (p.key, .start now)

/-- The end that a permit still owes. -/
def owed (success : Bool) (permit : Option Permit) : List (TargetKey × Entry) :=
  permit.toList.flatMap (·.owed success)

/-- The limiter when a permit, if there is one, has been given back. -/
def givenBack (success : Bool) (permit : Option Permit) (l : Limiter) : Limiter :=
  match permit with
  | some p => (p.release success l).2
  | none => l

def receive (s : Service Q A) (m : Moment) (t : Ticket) (x : Pool Q A σ) : Pool Q A σ :=
  match s.receive m t x.board with
  | (.ended report, b) => x.add ⟨t, m, some (.ended report), .never⟩ b []
  | (.waiting e, b) =>
    x.add ⟨t, m, some (.executing e e.program), .running⟩ b (started m.date e.permit)

def resume (s : Service Q A) (w : Program.World Q A σ) (m : Moment) (x : Pool Q A σ) (i : Nat)
    (c : Call Q A) : Pool Q A σ :=
  match c.phase with
  | some (.executing e rest) =>
    match Program.turn w m.ms rest x.world with
    | (.on rest, events, world) =>
      x.put i { c with phase := some (.executing e rest) } (x.board.emitAll events) world []
    | (.ended outcome, events, world) =>
      let (next, b) := e.settle s m outcome (x.board.emitAll events)
      let fate := Fate.ofOutcome outcome
      x.put i { c with phase := some (.ofUndo next), fate } b world
        (owed (fate.success?.getD false) e.permit)
  | some (.rollingBack u rest) =>
    match Program.turn w m.ms rest x.world with
    | (.on rest, events, world) =>
      x.put i { c with phase := some (.rollingBack u rest) } (x.board.emitAll events) world []
    | (.ended outcome, events, world) =>
      let (report, b) := u.settle m outcome (x.board.emitAll events)
      x.put i { c with phase := some (.ended report) } b world []
  | some (.ended _) | none => x

def abandon (x : Pool Q A σ) (i : Nat) (c : Call Q A) : Pool Q A σ :=
  match c.phase with
  | some (.executing e rest) =>
    x.put i { c with phase := none, fate := .lost } ((Phase.executing e rest).abandon x.board)
      x.world (owed false e.permit)
  | some phase => x.put i { c with phase := none } (phase.abandon x.board) x.world []
  | none => x

def step (s : Service Q A) (w : Program.World Q A σ) (x : Pool Q A σ) : Move → Pool Q A σ
  | .call m t => x.receive s m t
  | .step m i =>
    match x.calls[i]? with
    | some c => x.resume s w m i c
    | none => x
  | .drop i =>
    match x.calls[i]? with
    | some c => x.abandon i c
    | none => x

def run (s : Service Q A) (w : Program.World Q A σ) (x : Pool Q A σ) (moves : List Move) :
    Pool Q A σ :=
  moves.foldl (step s w) x

/-! ## What a pool keeps -/

/-- A call executes as long as its fate says so, with the permit that it was admitted with. -/
def Call.Sound (config : BlastRadius) (c : Call Q A) : Prop :=
  match c.phase with
  | some (.executing e _) => c.fate = .running ∧ e.permit = c.permit config
  | _ => c.fate ≠ .running

/-- The limiter holds a permit for each call that executes by its leave, and has recorded for each
call what that call should have had it record. -/
structure Coherent (config : BlastRadius) (x : Pool Q A σ) : Prop where
  within : x.board.limiter.Within config (x.holding config)
  recorded : ∃ ops, (Journal.fresh config).run ops = ⟨x.board.limiter, x.ledger.map (·.2)⟩
  tagged : ∀ e ∈ x.ledger, e.1 < x.calls.length
  calls : ∀ i c, x.calls[i]? = some c → c.Sound config ∧ x.entries i = c.entries config

variable {config : BlastRadius} {x : Pool Q A σ} {i : Nat} {c c' : Call Q A}

namespace Call

theorem holds_of_skipped (skipped : c.ticket.options.skipBlastRadius = true) (key : TargetKey) :
    c.holds config key = false := by
  simp [holds, skipped]

theorem holds_of_running (running : c.fate = .running)
    (asked : c.ticket.options.skipBlastRadius = false) (key : TargetKey) :
    c.holds config key = decide (c.key config = key) := by
  simp [holds, running, asked]

theorem holds_of_over (stopped : c.fate ≠ .running) (key : TargetKey) :
    c.holds config key = false := by
  simp [holds, stopped]

theorem permit_of_skipped (skipped : c.ticket.options.skipBlastRadius = true) :
    c.permit config = none := by
  simp [permit, skipped]

theorem permit_of_asked (asked : c.ticket.options.skipBlastRadius = false) :
    c.permit config = some (.fresh (c.key config)) := by
  simp [permit, asked]

theorem entries_of_skipped (skipped : c.ticket.options.skipBlastRadius = true) :
    c.entries config = [] := by
  simp [entries, skipped]

theorem entries_of_running (running : c.fate = .running)
    (asked : c.ticket.options.skipBlastRadius = false) :
    c.entries config = [(c.key config, .start c.begun.date)] := by
  simp [entries, running, asked, Fate.success?]

/-- The end of an execution is what its permit owes. -/
theorem entries_over {success : Bool} (ticket : c'.ticket = c.ticket) (begun : c'.begun = c.begun)
    (was : c.fate = .running) (fate : c'.fate.success? = some success) :
    c'.entries config = c.entries config ++ owed success (c.permit config) := by
  have began : c'.fate ≠ .never := by
    intro never
    rw [never] at fate
    cases fate
  simp only [entries, permit, key]
  rw [ticket, begun, fate, was]
  cases skipped : c.ticket.options.skipBlastRadius with
  | true => simp [owed]
  | false => simp [began, owed, Permit.owed, Permit.fresh, Fate.success?]

end Call

theorem coherent_new (config : BlastRadius) (world : σ) :
    Coherent config (new config world : Pool Q A σ) where
  within := .new config
  recorded := ⟨[], rfl⟩
  tagged := by simp [new]
  calls := by simp [new]

/-! ### Tags -/

section Tags

variable {α : Type}

/-- What was noted for one call, in order. -/
def about (i : Nat) (notes : List (Nat × α)) : List α := (notes.filter (·.1 = i)).map (·.2)

theorem about_append (i j : Nat) (notes : List (Nat × α)) (more : List α) :
    about j (notes ++ more.map (i, ·)) =
      if j = i then about i notes ++ more else about j notes := by
  simp only [about]
  by_cases same : j = i
  · subst same
    simp [List.filter_map, Function.comp_def]
  · have other : (more.map (i, ·)).filter (fun e => decide (e.1 = j)) = [] := by
      rw [List.filter_eq_nil_iff]
      intro e hmem
      obtain ⟨entry, -, rfl⟩ := List.mem_map.1 hmem
      simp [Ne.symm same]
    simp [other, same]

theorem about_eq_nil {notes : List (Nat × α)} {i : Nat} (tagged : ∀ e ∈ notes, e.1 < i) :
    about i notes = [] := by
  simp only [about, List.map_eq_nil_iff, List.filter_eq_nil_iff]
  intro e hmem
  simpa using Nat.ne_of_lt (tagged e hmem)

theorem tagged_append {notes : List (Nat × α)} {i bound bound' : Nat} (more : List α)
    (tagged : ∀ e ∈ notes, e.1 < bound) (le : bound ≤ bound') (lt : i < bound') :
    ∀ e ∈ notes ++ more.map (i, ·), e.1 < bound' := by
  intro e hmem
  rcases List.mem_append.1 hmem with old | new
  · exact Nat.lt_of_lt_of_le (tagged e old) le
  · obtain ⟨a, -, rfl⟩ := List.mem_map.1 new
    exact lt

theorem mem_about {notes : List (Nat × α)} {i : Nat} {a : α} :
    a ∈ about i notes ↔ (i, a) ∈ notes := by
  simp [about]

end Tags

/-! ### A call changes -/

section Put

variable (b : Board) (world : σ) (recorded : List (TargetKey × Entry))

theorem entries_put (x : Pool Q A σ) (i : Nat) (c : Call Q A) (j : Nat) :
    (x.put i c b world recorded).entries j =
      if j = i then x.entries i ++ recorded else x.entries j :=
  about_append i j x.ledger recorded

theorem calls_put {j : Nat} {d : Call Q A}
    (h : (x.put i c b world recorded).calls[j]? = some d) :
    (j = i ∧ d = c) ∨ (j ≠ i ∧ x.calls[j]? = some d) := by
  rw [put] at h
  by_cases same : j = i
  · subst same
    rw [List.getElem?_set] at h
    simp only [if_true] at h
    split at h
    · exact .inl ⟨rfl, (Option.some.inj h).symm⟩
    · cases h
  · rw [List.getElem?_set_ne (Ne.symm same)] at h
    exact .inr ⟨same, h⟩

theorem holding_put (out : x.calls[i]? = some c) (key : TargetKey) :
    (x.put i c' b world recorded).holding config key =
      x.holding config key - (if c.holds config key then 1 else 0) +
        if c'.holds config key then 1 else 0 := by
  obtain ⟨bound, same⟩ := List.getElem?_eq_some_iff.1 out
  simp only [holding, put]
  rw [List.countP_set bound, same]

theorem holding_pos (out : x.calls[i]? = some c) {key : TargetKey}
    (holds : c.holds config key = true) : 0 < x.holding config key :=
  List.countP_pos_iff.2 ⟨c, List.mem_of_getElem? out, holds⟩

variable {b} (h : x.Coherent config) (out : x.calls[i]? = some c)
include h out

theorem Coherent.tagged_put :
    ∀ e ∈ (x.put i c' b world recorded).ledger,
      e.1 < (x.put i c' b world recorded).calls.length := by
  rw [put]
  rw [List.length_set]
  exact tagged_append recorded h.tagged (Nat.le_refl _) (List.getElem?_eq_some_iff.1 out).1

/-- What a call does that leaves its execution as it is concerns no one else. -/
theorem Coherent.put_same (limiter : b.limiter = x.board.limiter) (ticket : c'.ticket = c.ticket)
    (begun : c'.begun = c.begun) (fate : c'.fate = c.fate) (sound : c'.Sound config) :
    Coherent config (x.put i c' b world []) where
  within := by
    have same (key : TargetKey) : (x.put i c' b world []).holding config key =
        x.holding config key := by
      have holds : c'.holds config key = c.holds config key := by
        unfold Call.holds Call.key
        rw [ticket, fate]
      rw [holding_put b world [] out key, holds]
      split
      · next held =>
        have pos := holding_pos out held
        omega
      · rfl
    exact (limiter ▸ h.within).congr same
  recorded := by
    obtain ⟨ops, hops⟩ := h.recorded
    refine ⟨ops, ?_⟩
    rw [hops, ← limiter]
    simp [put]
  tagged := h.tagged_put world [] out
  calls := by
    intro j d hd
    rw [entries_put]
    rcases calls_put b world [] hd with ⟨rfl, rfl⟩ | ⟨other, same⟩
    · refine ⟨sound, ?_⟩
      have entries : d.entries config = c.entries config := by
        simp only [Call.entries, Call.key]
        rw [ticket, begun, fate]
      rw [if_pos rfl, List.append_nil, entries]
      exact (h.calls j c out).2
    · rw [if_neg other]
      exact h.calls j d same

/-- A call whose execution ends gives its permit back with the success that the end counts for. -/
theorem Coherent.put_over {success : Bool}
    (limiter : b.limiter = givenBack success (c.permit config) x.board.limiter)
    (ticket : c'.ticket = c.ticket) (begun : c'.begun = c.begun) (was : c.fate = .running)
    (fate : c'.fate.success? = some success) (sound : c'.Sound config) :
    Coherent config (x.put i c' b world (owed success (c.permit config))) := by
  have stopped : c'.fate ≠ .running := by
    intro running
    rw [running] at fate
    cases fate
  have quiet (key : TargetKey) : c'.holds config key = false := Call.holds_of_over stopped key
  have calls : ∀ j d, (x.put i c' b world (owed success (c.permit config))).calls[j]? = some d →
      d.Sound config ∧
        (x.put i c' b world (owed success (c.permit config))).entries j = d.entries config := by
    intro j d hd
    rw [entries_put]
    rcases calls_put b world _ hd with ⟨rfl, rfl⟩ | ⟨other, same⟩
    · rw [if_pos rfl, (h.calls j c out).2, Call.entries_over ticket begun was fate]
      exact ⟨sound, rfl⟩
    · rw [if_neg other]
      exact h.calls j d same
  obtain ⟨ops, hops⟩ := h.recorded
  cases asked : c.ticket.options.skipBlastRadius with
  | true =>
    rw [Call.permit_of_skipped asked] at limiter calls ⊢
    have limiter : b.limiter = x.board.limiter := limiter
    refine ⟨?_, ⟨ops, ?_⟩, h.tagged_put world _ out, calls⟩
    · apply (limiter ▸ h.within).congr
      intro key
      rw [holding_put b world _ out key, Call.holds_of_skipped asked, quiet]
      simp
    · rw [hops, ← limiter]
      simp [put, owed]
  | false =>
    rw [Call.permit_of_asked asked] at limiter calls ⊢
    have limiter : b.limiter = x.board.limiter.recordEnd (c.key config) success := limiter
    refine ⟨?_, ⟨ops ++ [.finish (.fresh (c.key config)) success], ?_⟩, h.tagged_put world _ out,
      calls⟩
    · apply (limiter ▸ h.within.recordEnd (c.key config) success).congr
      intro key
      rw [holding_put b world _ out key, Call.holds_of_running was asked, quiet, oneLess]
      by_cases own : key = c.key config
      · simp [own]
      · simp [own, Ne.symm own]
    · rw [Journal.run_append, hops, Journal.step_finish]
      simp [put, owed, limiter, Permit.release, Permit.fresh, Function.comp_def]

end Put

/-! ### A call begins -/

theorem calls_add {b : Board} {recorded : List (TargetKey × Entry)} {j : Nat} {d : Call Q A}
    (h : (x.add c b recorded).calls[j]? = some d) :
    (j = x.calls.length ∧ d = c) ∨ (j < x.calls.length ∧ x.calls[j]? = some d) := by
  rw [add] at h
  rcases Nat.lt_or_ge j x.calls.length with old | new
  · rw [List.getElem?_append_left old] at h
    exact .inr ⟨old, h⟩
  · rw [List.getElem?_append_right new, List.getElem?_singleton] at h
    split at h
    · next last => exact .inl ⟨by omega, (Option.some.inj h).symm⟩
    · cases h

theorem Coherent.entries_add (h : x.Coherent config) (c : Call Q A) (b : Board)
    (recorded : List (TargetKey × Entry)) (j : Nat) :
    (x.add c b recorded).entries j =
      if j = x.calls.length then recorded else x.entries j := by
  have added : (x.add c b recorded).entries j =
      if j = x.calls.length then x.entries x.calls.length ++ recorded else x.entries j :=
    about_append x.calls.length j x.ledger recorded
  have before : x.entries x.calls.length = [] := about_eq_nil h.tagged
  rw [added, before]
  rfl

theorem Coherent.add (h : x.Coherent config) {b : Board}
    (within : b.limiter.Within config fun key =>
      x.holding config key + if c.holds config key then 1 else 0)
    (recorded : ∃ ops, (Journal.fresh config).run ops =
      ⟨b.limiter, x.ledger.map (·.2) ++ c.entries config⟩)
    (sound : c.Sound config) : Coherent config (x.add c b (c.entries config)) where
  within := by
    apply within.congr
    intro key
    simp [holding, Pool.add, List.countP_append]
  recorded := by
    obtain ⟨ops, hops⟩ := recorded
    refine ⟨ops, ?_⟩
    rw [hops]
    simp [Pool.add, Function.comp_def]
  tagged := by
    rw [Pool.add]
    rw [List.length_append, List.length_singleton]
    exact tagged_append _ h.tagged (Nat.le_succ _) (Nat.lt_succ_self _)
  calls := by
    intro j d hd
    rw [h.entries_add]
    rcases calls_add hd with ⟨rfl, rfl⟩ | ⟨old, same⟩
    · rw [if_pos rfl]
      exact ⟨sound, rfl⟩
    · rw [if_neg (Nat.ne_of_lt old)]
      exact h.calls j d same

/-- A call that ends before it executes leaves nothing behind. -/
theorem Coherent.add_ended (h : x.Coherent config) {b : Board} (m : Moment) (t : Ticket)
    (report : Report) (within : b.limiter.Within config (x.holding config))
    (recorded : ∃ ops, (Journal.fresh config).run ops = ⟨b.limiter, x.ledger.map (·.2)⟩) :
    Coherent config (x.add ⟨t, m, some (.ended report), .never⟩ b []) := by
  let c : Call Q A := ⟨t, m, some (.ended report), .never⟩
  have nothing : c.entries config = [] := rfl
  have sound : c.Sound config := Fate.noConfusion
  have added := h.add (c := c) within (by rwa [nothing, List.append_nil]) sound
  rwa [nothing] at added

/-- A call that the limiter is not asked about leaves nothing with it either. -/
theorem Coherent.add_unmetered (h : x.Coherent config) {b : Board} (m : Moment) {t : Ticket}
    {e : Execution Q A} (skipped : t.options.skipBlastRadius = true) (permit : e.permit = none)
    (limiter : b.limiter = x.board.limiter) :
    Coherent config (x.add ⟨t, m, some (.executing e e.program), .running⟩ b
      (started m.date e.permit)) := by
  let c : Call Q A := ⟨t, m, some (.executing e e.program), .running⟩
  obtain ⟨ops, hops⟩ := h.recorded
  have nothing : c.entries config = [] := Call.entries_of_skipped skipped
  have sound : c.Sound config := ⟨rfl, permit.trans (Call.permit_of_skipped skipped).symm⟩
  have within : b.limiter.Within config fun k =>
      x.holding config k + if c.holds config k then 1 else 0 := by
    apply (limiter ▸ h.within).congr
    intro k
    rw [Call.holds_of_skipped skipped]
    rfl
  have added := h.add within ⟨ops, by rw [hops, nothing, List.append_nil, limiter]⟩ sound
  have start : started m.date e.permit = c.entries config := by
    rw [permit, nothing]
    rfl
  rw [← start] at added
  exact added

/-- A call that is admitted is recorded with the limiter. -/
theorem Coherent.add_granted (h : x.Coherent config) {b : Board} (m : Moment) {t : Ticket}
    {e : Execution Q A} (asked : t.options.skipBlastRadius = false)
    (passed : (x.board.limiter.validate m.date
      (config.keyPolicy.keyFor t.incident)).1.passed = true)
    (permit : e.permit = some (.fresh (config.keyPolicy.keyFor t.incident)))
    (limiter : b.limiter =
      x.board.limiter.recordStart m.date (config.keyPolicy.keyFor t.incident)) :
    Coherent config (x.add ⟨t, m, some (.executing e e.program), .running⟩ b
      (started m.date e.permit)) := by
  let c : Call Q A := ⟨t, m, some (.executing e e.program), .running⟩
  obtain ⟨ops, hops⟩ := h.recorded
  have one : c.entries config = [(c.key config, .start m.date)] :=
    Call.entries_of_running rfl asked
  have own : c.permit config = some (.fresh (c.key config)) := Call.permit_of_asked asked
  have sound : c.Sound config := ⟨rfl, permit.trans own.symm⟩
  have within : b.limiter.Within config fun k =>
      x.holding config k + if c.holds config k then 1 else 0 := by
    apply (limiter ▸ h.within.recordStart passed).congr
    intro k
    rw [Call.holds_of_running rfl asked, oneMore]
    have named : config.keyPolicy.keyFor t.incident = c.key config := rfl
    rw [named]
    by_cases same : k = c.key config
    · simp [same]
    · simp [same, Ne.symm same]
  have recorded : ∃ ops, (Journal.fresh config).run ops =
      ⟨b.limiter, x.ledger.map (·.2) ++ c.entries config⟩ := by
    refine ⟨ops ++ [.acquire m.date (c.key config)], ?_⟩
    rw [Journal.run_append, hops, Journal.step_acquire, if_pos (by exact passed), one, limiter]
    rfl
  have added := h.add within recorded sound
  have start : started m.date e.permit = c.entries config := by
    rw [permit, one]
    rfl
  rw [← start] at added
  exact added

theorem Coherent.receive (h : x.Coherent config) (s : Service Q A) (m : Moment) (t : Ticket) :
    Coherent config (x.receive s m t) := by
  have key : x.board.limiter.keyFor t.incident = config.keyPolicy.keyFor t.incident := by
    rw [Limiter.keyFor, h.within.config]
  obtain ⟨ops, hops⟩ := h.recorded
  have received := s.receive_received m t x.board
  rw [Pool.receive]
  revert received
  generalize s.receive m t x.board = next
  intro received
  cases received with
  | refused _ _ _ limiter | unresolved _ _ _ _ limiter =>
    exact h.add_ended m t _ (limiter ▸ h.within) ⟨ops, limiter ▸ hops⟩
  | exhausted _ _ denied _ _ limiter =>
    refine h.add_ended m t _ (limiter ▸ h.within.enter _ _)
      ⟨ops ++ [.acquire m.date (x.board.limiter.keyFor t.incident)], ?_⟩
    rw [Journal.run_append, hops, Journal.step_acquire, if_neg (Ticket.not_afforded denied).2,
      limiter]
  | unmetered _ _ _ skipped permit limiter => exact h.add_unmetered m skipped permit limiter
  | granted _ _ _ asked passed permit limiter =>
    rw [key] at permit limiter passed
    exact h.add_granted m asked passed permit limiter

/-! ### A call goes on, or is given up -/

theorem Call.sound_executing {e : Execution Q A} {rest : Program Q A Report}
    (phase : c.phase = some (.executing e rest)) (sound : c.Sound config) :
    c.fate = .running ∧ e.permit = c.permit config := by
  rw [Call.Sound] at sound
  rw [phase] at sound
  exact sound

theorem Call.stopped_of_idle (sound : c.Sound config)
    (idle : ∀ e rest, c.phase ≠ some (.executing e rest)) : c.fate ≠ .running := by
  rw [Call.Sound] at sound
  split at sound
  · next e rest phase => exact absurd phase (idle e rest)
  · exact sound

theorem drop_limiter (b : Board) (permit : Option Permit) :
    (b.drop permit).limiter = givenBack false permit b.limiter := by
  cases permit <;> rfl

theorem finish_limiter (b : Board) (permit : Option Permit) (success : Bool) :
    (b.finish permit success).limiter = givenBack success permit b.limiter := by
  cases permit with
  | none => rfl
  | some p => exact congrArg Prod.snd (p.finish_eq_release success b.limiter)

/-- The limiter after the permit of an execution has been given back. -/
theorem settle_limiter (e : Execution Q A) (s : Service Q A) (m : Moment)
    (outcome : Except Panic Report) (b : Board) :
    (e.settle s m outcome b).2.limiter =
      givenBack ((Fate.ofOutcome outcome).success?.getD false) e.permit b.limiter := by
  have settled := e.settle_settled s m outcome b
  revert settled
  generalize e.settle s m outcome b = next
  intro settled
  cases settled with
  | panicked broke _ limiter =>
    subst broke
    exact limiter.trans (drop_limiter b e.permit)
  | ended came _ limiter | undoing came _ _ _ limiter =>
    subst came
    exact limiter.trans (finish_limiter b e.permit _)

theorem ofUndo_not_executing (next : Next (Undo Q A)) (ticket : Ticket) (begun : Moment)
    {fate : Fate} (stopped : fate ≠ .running) :
    (⟨ticket, begun, some (.ofUndo next), fate⟩ : Call Q A).Sound config := by
  cases next with
  | ended report => exact stopped
  | waiting u => exact stopped

theorem Coherent.resume (h : x.Coherent config) (s : Service Q A) (w : Program.World Q A σ)
    (m : Moment) (out : x.calls[i]? = some c) : Coherent config (x.resume s w m i c) := by
  have sound := (h.calls i c out).1
  rw [Pool.resume]
  split
  · next e rest phase =>
    obtain ⟨running, permit⟩ := Call.sound_executing phase sound
    split
    · exact h.put_same _ out rfl rfl rfl rfl ⟨running, permit⟩
    · next outcome events world _ =>
      have limiter := settle_limiter e s m outcome (x.board.emitAll events)
      rw [permit] at limiter ⊢
      have stopped : Fate.ofOutcome outcome ≠ .running := by
        cases outcome <;> exact Fate.noConfusion
      have fate : (Fate.ofOutcome outcome).success? =
          some ((Fate.ofOutcome outcome).success?.getD false) := by
        cases outcome <;> rfl
      exact h.put_over _ out limiter rfl rfl running fate
        (ofUndo_not_executing _ c.ticket c.begun stopped)
  · next u rest phase =>
    have stopped := Call.stopped_of_idle sound (by simp [phase])
    split
    · exact h.put_same _ out rfl rfl rfl rfl stopped
    · exact h.put_same _ out (u.settle_limiter m _ _) rfl rfl rfl stopped
  · exact h
  · exact h

theorem abandon_board (x : Pool Q A σ) (i : Nat) (c : Call Q A) :
    (x.abandon i c).board = c.phase.elim x.board (·.abandon x.board) := by
  rw [Pool.abandon]
  rcases c.phase with - | - | - | - <;> rfl

theorem Coherent.abandon (h : x.Coherent config) (out : x.calls[i]? = some c) :
    Coherent config (x.abandon i c) := by
  have sound := (h.calls i c out).1
  rw [Pool.abandon]
  cases phase : c.phase with
  | none => exact h
  | some standing =>
    cases standing with
    | executing e rest =>
      obtain ⟨running, permit⟩ := Call.sound_executing phase sound
      have limiter : ((Phase.executing e rest).abandon x.board).limiter =
          givenBack false e.permit x.board.limiter :=
        drop_limiter x.board e.permit
      dsimp only
      rw [permit] at limiter ⊢
      exact h.put_over _ out limiter rfl rfl running rfl Fate.noConfusion
    | rollingBack u rest =>
      have stopped := Call.stopped_of_idle sound (by simp [phase])
      exact h.put_same _ out rfl rfl rfl rfl stopped
    | ended report =>
      have stopped := Call.stopped_of_idle sound (by simp [phase])
      exact h.put_same _ out rfl rfl rfl rfl stopped

theorem Coherent.step (h : x.Coherent config) (s : Service Q A) (w : Program.World Q A σ)
    (move : Move) : Coherent config (x.step s w move) := by
  cases move with
  | call m t => exact h.receive s m t
  | step m i =>
    simp only [Pool.step]
    split
    · next c out => exact h.resume s w m out
    · exact h
  | drop i =>
    simp only [Pool.step]
    split
    · next c out => exact h.abandon out
    · exact h

theorem coherent_run (s : Service Q A) (w : Program.World Q A σ) (config : BlastRadius)
    (world : σ) (moves : List Move) :
    Coherent config ((new config world : Pool Q A σ).run s w moves) := by
  induction moves using List.reverseRecOn with
  | nil => exact coherent_new config world
  | append_singleton moves move ih =>
    have last : (new config world : Pool Q A σ).run s w (moves ++ [move]) =
        ((new config world : Pool Q A σ).run s w moves).step s w move := by
      simp [run]
    rw [last]
    exact ih.step s w move

/-! ## Pairs -/

theorem Call.running_iff (sound : c.Sound config) :
    c.fate = .running ↔ ∃ e rest, c.phase = some (.executing e rest) := by
  constructor
  · intro running
    by_contra idle
    simp only [not_exists] at idle
    exact Call.stopped_of_idle sound idle running
  · rintro ⟨e, rest, phase⟩
    exact (Call.sound_executing phase sound).1

/-- A call executes from its begin, unless something stops it for good. -/
theorem receive_fate (s : Service Q A) (m : Moment) (t : Ticket) (x : Pool Q A σ) :
    ∃ c : Call Q A, (x.receive s m t).calls = x.calls ++ [c] ∧ c.ticket = t ∧ c.begun = m ∧
      (c.fate = .running ∧ s.Executes t x.board.limiter m.date ∨
        c.fate = .never ∧ ¬ s.Executes t x.board.limiter m.date) := by
  have received := s.receive_received m t x.board
  rw [Pool.receive]
  revert received
  generalize s.receive m t x.board = next
  intro received
  obtain ⟨report | e, b⟩ := next
  · exact ⟨_, rfl, rfl, rfl, .inr ⟨rfl, Service.not_executes_of_ended received⟩⟩
  · exact ⟨_, rfl, rfl, rfl, .inl ⟨rfl, Service.executes_of_waiting received⟩⟩

/-- When nothing executes, nothing is in flight. -/
theorem Coherent.inFlight_eq_zero (h : x.Coherent config)
    (stopped : ∀ c ∈ x.calls, c.fate ≠ .running) (now : Time.Instant) (key : TargetKey) :
    (x.board.limiter.snapshot now key).1.inFlight = 0 := by
  have none : x.holding config key = 0 := by
    rw [holding, List.countP_eq_zero]
    intro c hmem
    rw [Call.holds_of_over (stopped c hmem) key]
    exact Bool.false_ne_true
  have inFlight := h.within.snapshot_inFlight now key
  rw [none] at inFlight
  exact UInt32.toNat_inj.1 inFlight

/-- Whatever calls a service gets, and in whatever order they begin, go on and are given up, each
call has the limiter record what it should: one start when it is admitted, one end when its
execution ends, both for the target of its incident, and nothing when it does not execute or does
not ask. The end counts as the success that was returned, or as a failure. So the limiter finds in
flight what executes by its leave, never more than it may, and nothing when nothing executes. -/
theorem starts_pair_with_ends (s : Service Q A) (w : Program.World Q A σ) (config : BlastRadius)
    (world : σ) (moves : List Move) :
    let x := (new config world : Pool Q A σ).run s w moves
    (∃ ops, (Journal.fresh config).run ops = ⟨x.board.limiter, x.ledger.map (·.2)⟩) ∧
    (∀ e ∈ x.ledger, e.1 < x.calls.length) ∧
    (∀ i c, x.calls[i]? = some c → x.entries i = c.entries config ∧
      (c.fate = .running ↔ ∃ e rest, c.phase = some (.executing e rest))) ∧
    (∀ m t, ∃ c : Call Q A, (x.step s w (.call m t)).calls = x.calls ++ [c] ∧
      c.ticket = t ∧ c.begun = m ∧
      (c.fate = .running ∧ s.Executes t x.board.limiter m.date ∨
        c.fate = .never ∧ ¬ s.Executes t x.board.limiter m.date)) ∧
    (∀ now key, (x.board.limiter.snapshot now key).1.inFlight.toNat = x.holding config key ∧
      x.holding config key ≤ config.maxConcurrentPerTarget.toNat) ∧
    ((∀ c ∈ x.calls, c.fate ≠ .running) →
      ∀ now key, (x.board.limiter.snapshot now key).1.inFlight = 0) := by
  intro x
  have coherent : Coherent config x := coherent_run s w config world moves
  refine ⟨coherent.recorded, coherent.tagged, ?_, fun m t => receive_fate s m t x, ?_,
    coherent.inFlight_eq_zero⟩
  · intro i c out
    obtain ⟨sound, entries⟩ := coherent.calls i c out
    exact ⟨entries, Call.running_iff sound⟩
  · intro now key
    exact ⟨coherent.within.snapshot_inFlight now key, coherent.within.limit key⟩

/-- A call that is given up makes room for the next one; the one between was refused. -/
theorem starts_pair_with_ends_given_up :
    let remediator : Remediator Unit fun _ => Unit :=
      .plain .noOp fun _ _ => .done (.succeeded "done" [] 0.0)
    let s : Service Unit fun _ => Unit :=
      ⟨Registry.empty.register remediator, ⟨Stage.preValidation, []⟩, ⟨Stage.postValidation, []⟩⟩
    let w : Program.World Unit (fun _ => Unit) Unit := fun _ u => (u, u)
    let t : Ticket := ⟨.new ⟨7⟩ ⟨1700000000, 0⟩ .github "flaky_test", .new .noOp "", .standard⟩
    let moves : List Move := [.call ⟨0, ⟨1700000000, 0⟩⟩ t, .call ⟨1, ⟨1700000001, 0⟩⟩ t, .drop 0,
      .call ⟨2, ⟨1700000002, 0⟩⟩ t, .step ⟨3, ⟨1700000003, 0⟩⟩ 2]
    let config : BlastRadius := ⟨10, 5, 1, .standard⟩
    (run s w (new config ()) moves).entries 0 =
        [(.global, .start ⟨1700000000, 0⟩), (.global, .finish false)] ∧
      (run s w (new config ()) moves).entries 1 = [] ∧
      (run s w (new config ()) moves).entries 2 =
        [(.global, .start ⟨1700000002, 0⟩), (.global, .finish true)] ∧
      ((run s w (new config ()) moves).board.limiter.snapshot
        ⟨1700000003, 0⟩ .global).1.inFlight = 0 := by
  intro remediator s w t moves config
  obtain ⟨-, -, calls, -, -, idle⟩ := starts_pair_with_ends s w config () moves
  have stopped : ∀ c ∈ (run s w (new config ()) moves).calls, c.fate ≠ .running := by decide +kernel
  have entries (i : Nat) (h : i < (run s w (new config ()) moves).calls.length) :=
    (calls i _ (List.getElem?_eq_getElem h)).1
  have first := entries 0 (by decide +kernel)
  have second := entries 1 (by decide +kernel)
  have third := entries 2 (by decide +kernel)
  refine ⟨first.trans ?_, second.trans ?_, third.trans ?_, idle stopped _ _⟩ <;> decide +kernel

end Pool

end Remedy
