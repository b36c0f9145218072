import Remedy.Proofs.Service.Pool

/-!
# Schedules

A call that runs alone, and the calls of a batch, go on in an order that their sleeps decide. Each
of these orders is one that a pool may take, with the same board, the same world and the same ends.
What is said of pools holds of both.
-/

namespace Remedy

variable {Q : Type} {A : Q → Type} {σ : Type}

theorem Board.emitAll_nil (b : Board) : b.emitAll [] = b := by
  simp [emitAll]

theorem Board.emitAll_emitAll (b : Board) (es es' : List Event) :
    (b.emitAll es).emitAll es' = b.emitAll (es ++ es') := by
  simp [emitAll]

namespace Program

variable {α : Type} {w : World Q A σ}

/-- A program that has nothing left to do but to end. -/
def ofOutcome : Except Panic α → Program Q A α
  | .ok a => done a
  | .error p => abort p

/-- What a program that stands still goes on with. -/
def Standing.rest : Standing Q A α → Program Q A α
  | ended outcome => ofOutcome outcome
  | asleep _ rest => rest

/-- One program turns into another, at whatever moments it gets its turns. -/
inductive Turns (w : World Q A σ) : Program Q A α → σ → Program Q A α → List Event → σ → Prop where
  | rest (p : Program Q A α) (s : σ) : Turns w p s p [] s
  | turn {p p' p'' : Program Q A α} {s s' s'' : σ} {es es' : List Event} (now : Nat)
      (next : turn w now p s = (.on p', es, s')) (tail : Turns w p' s' p'' es' s'') :
      Turns w p s p'' (es ++ es') s''

theorem turns_advance (now : Nat) (p : Program Q A α) (s : σ) :
    Turns w p s (advance w now p s).1.rest (advance w now p s).2.1 (advance w now p s).2.2 := by
  induction p generalizing s with
  | done a => exact .rest _ _
  | abort p => exact .rest _ _
  | ask q next ih =>
    have first : turn w now (ask q next) s = (.on (next (w q s).1), [], (w q s).2) := rfl
    exact .turn now first (ih (w q s).1 (w q s).2)
  | clock next ih =>
    have first : turn w now (clock next) s = (.on (next now), [], s) := rfl
    exact .turn now first (ih now s)
  | sleep ms next ih =>
    have first : turn w now (sleep ms next) s = (.on next, [], s) := rfl
    exact .turn now first (.rest next s)
  | emit e next ih =>
    have first : turn w now (emit e next) s = (.on next, [e], s) := rfl
    exact .turn now first (ih s)

theorem turns_run (now : Nat) (p : Program Q A α) (s : σ) :
    Turns w p s (ofOutcome (run w now p s).outcome) (run w now p s).events
      (run w now p s).world := by
  induction p generalizing now s with
  | done a => exact .rest _ _
  | abort p => exact .rest _ _
  | ask q next ih =>
    have first : turn w now (ask q next) s = (.on (next (w q s).1), [], (w q s).2) := rfl
    exact .turn now first (ih (w q s).1 now (w q s).2)
  | clock next ih =>
    have first : turn w now (clock next) s = (.on (next now), [], s) := rfl
    exact .turn now first (ih now now s)
  | sleep ms next ih =>
    have first : turn w now (sleep ms next) s = (.on next, [], s) := rfl
    exact .turn now first (ih (now + ms) s)
  | emit e next ih =>
    have first : turn w now (emit e next) s = (.on next, [e], s) := rfl
    exact .turn now first (ih now s)

theorem turn_ofOutcome (now : Nat) (outcome : Except Panic α) (s : σ) :
    turn w now (ofOutcome outcome) s = (.ended outcome, [], s) := by
  cases outcome <;> rfl

end Program

namespace Pool

variable {s : Service Q A} {w : Program.World Q A σ} {x : Pool Q A σ} {i : Nat} {c : Call Q A}

theorem run_append (x : Pool Q A σ) (moves moves' : List Move) :
    x.run s w (moves ++ moves') = (x.run s w moves).run s w moves' := by
  simp [run]

theorem put_self (out : x.calls[i]? = some c) : x.put i c x.board x.world [] = x := by
  obtain ⟨bound, same⟩ := List.getElem?_eq_some_iff.1 out
  rw [put]
  rw [← same, List.set_getElem_self]
  simp

theorem put_put (c c' : Call Q A) (b b' : Board) (world world' : σ)
    (recorded : List (TargetKey × Limiter.Entry)) :
    (x.put i c b world []).put i c' b' world' recorded = x.put i c' b' world' recorded := by
  simp [put]

theorem calls_put_self (out : x.calls[i]? = some c) (c' : Call Q A) (b : Board) (world : σ)
    (recorded : List (TargetKey × Limiter.Entry)) :
    (x.put i c' b world recorded).calls[i]? = some c' :=
  List.getElem?_set_self (List.getElem?_eq_some_iff.1 out).1

theorem step_resume (out : x.calls[i]? = some c) (m : Moment) :
    x.step s w (.step m i) = x.resume s w m i c := by
  simp [step, out]

/-- Turns of one call, and of no other. -/
def turnsOf (i : Nat) (moments : List Moment) : List Move := moments.map (.step · i)

theorem turnsOf_append (i : Nat) (moments more : List Moment) :
    turnsOf i (moments ++ more) = turnsOf i moments ++ turnsOf i more :=
  List.map_append

/-- The phases of a kind go on as their programs do. -/
def Follows {α : Type} (s : Service Q A) (w : Program.World Q A σ)
    (kind : Program Q A α → Phase Q A) : Prop :=
  ∀ (x : Pool Q A σ) (m : Moment) (i : Nat) (c : Call Q A) (p p' : Program Q A α)
    (es : List Event) (world : σ), c.phase = some (kind p) →
    Program.turn w m.ms p x.world = (.on p', es, world) →
    x.resume s w m i c = x.put i { c with phase := some (kind p') } (x.board.emitAll es) world []

theorem follows_executing (e : Execution Q A) : Follows s w (.executing e) := by
  intro x m i c p p' es world phase next
  rw [resume]
  rw [phase]
  simp only [next]

theorem follows_rollingBack (u : Undo Q A) : Follows s w (.rollingBack u) := by
  intro x m i c p p' es world phase next
  rw [resume]
  rw [phase]
  simp only [next]

theorem exists_run_turns {α : Type} {kind : Program Q A α → Phase Q A}
    (follows : Follows s w kind) {p p' : Program Q A α} {world world' : σ} {es : List Event}
    (turns : Program.Turns w p world p' es world') :
    ∀ {x : Pool Q A σ} {c : Call Q A}, x.calls[i]? = some c → c.phase = some (kind p) →
      x.world = world → ∃ moments, x.run s w (turnsOf i moments) =
        x.put i { c with phase := some (kind p') } (x.board.emitAll es) world' [] := by
  induction turns with
  | rest p world =>
    intro x c out phase same
    subst same
    refine ⟨[], ?_⟩
    rw [Board.emitAll_nil, ← phase, put_self out]
    rfl
  | @turn p p' p'' world world' world'' es es' now next tail ih =>
    intro x c out phase same
    subst same
    have first := follows x ⟨now, .earliest⟩ i c p p' es world' phase next
    obtain ⟨moments, rest⟩ := ih (calls_put_self out { c with phase := some (kind p') }
      (x.board.emitAll es) world' []) rfl rfl
    refine ⟨⟨now, .earliest⟩ :: moments, ?_⟩
    have begun : x.run s w (turnsOf i (⟨now, .earliest⟩ :: moments)) =
        (x.step s w (.step ⟨now, .earliest⟩ i)).run s w (turnsOf i moments) := rfl
    rw [begun, step_resume out, first, rest, put_put, ← Board.emitAll_emitAll]
    rfl

/-! ## From one phase of a call to another -/

/-- Turns of one call alone take it to a phase. -/
def Reaches (s : Service Q A) (w : Program.World Q A σ) (x : Pool Q A σ) (i : Nat)
    (phase : Phase Q A) (b : Board) (world : σ) : Prop :=
  ∃ moments c, (x.run s w (turnsOf i moments)).calls = x.calls.set i c ∧ c.phase = some phase ∧
    (x.run s w (turnsOf i moments)).board = b ∧ (x.run s w (turnsOf i moments)).world = world

theorem reaches_self {phase : Phase Q A} (out : x.calls[i]? = some c)
    (at_ : c.phase = some phase) : x.Reaches s w i phase x.board x.world := by
  refine ⟨[], c, ?_, at_, rfl, rfl⟩
  obtain ⟨bound, same⟩ := List.getElem?_eq_some_iff.1 out
  rw [← same, List.set_getElem_self]
  rfl

theorem Reaches.trans {phase phase' : Phase Q A} {b b' : Board} {world world' : σ}
    (out : x.calls[i]? = some c) (first : x.Reaches s w i phase b world)
    (second : ∀ {y : Pool Q A σ} {c : Call Q A}, y.calls[i]? = some c → c.phase = some phase →
      y.board = b → y.world = world → y.Reaches s w i phase' b' world') :
    x.Reaches s w i phase' b' world' := by
  obtain ⟨moments, c', calls, at_, board, same⟩ := first
  have out' : (x.run s w (turnsOf i moments)).calls[i]? = some c' := by
    rw [calls]
    exact List.getElem?_set_self (List.getElem?_eq_some_iff.1 out).1
  obtain ⟨more, c'', calls', rest⟩ := second out' at_ board same
  refine ⟨moments ++ more, c'', ?_, ?_⟩
  · rw [turnsOf_append, run_append, calls', calls, List.set_set]
  · rw [turnsOf_append, run_append]
    exact rest

theorem reaches_turns {α : Type} {kind : Program Q A α → Phase Q A} (follows : Follows s w kind)
    (out : x.calls[i]? = some c) {p p' : Program Q A α} {world : σ} {es : List Event}
    (at_ : c.phase = some (kind p)) (turns : Program.Turns w p x.world p' es world) :
    x.Reaches s w i (kind p') (x.board.emitAll es) world := by
  obtain ⟨moments, done⟩ := exists_run_turns follows turns out at_ rfl
  refine ⟨moments, { c with phase := some (kind p') }, ?_, rfl, ?_, ?_⟩ <;> rw [done] <;> rfl

theorem reaches_resume {m : Moment} {c' : Call Q A} {phase : Phase Q A} {b : Board} {world : σ}
    {recorded : List (TargetKey × Limiter.Entry)} (out : x.calls[i]? = some c)
    (next : x.resume s w m i c = x.put i c' b world recorded) (at_ : c'.phase = some phase) :
    x.Reaches s w i phase b world := by
  have moved : x.run s w (turnsOf i [m]) = x.put i c' b world recorded := by
    rw [← next, ← step_resume out m]
    rfl
  refine ⟨[m], c', ?_, at_, ?_, ?_⟩ <;> rw [moved] <;> rfl

/-- A rollback that is over ends its call. -/
theorem reaches_undone (m : Moment) {u : Undo Q A} {outcome : Except Panic (Except Fault String)}
    (out : x.calls[i]? = some c)
    (at_ : c.phase = some (.rollingBack u (Program.ofOutcome outcome))) :
    x.Reaches s w i (.ended (u.settle m outcome x.board).1) (u.settle m outcome x.board).2
      x.world := by
  have next : x.resume s w m i c =
      x.put i { c with phase := some (.ended (u.settle m outcome x.board).1) }
        (u.settle m outcome x.board).2 x.world [] := by
    rw [resume]
    rw [at_]
    simp only [Program.turn_ofOutcome, Board.emitAll_nil]
  exact reaches_resume out next rfl

/-- An execution that is over goes on to its rollback or its end. -/
theorem reaches_settled (m : Moment) {e : Execution Q A} {outcome : Except Panic Report}
    (out : x.calls[i]? = some c)
    (at_ : c.phase = some (.executing e (Program.ofOutcome outcome))) :
    x.Reaches s w i (.ofUndo (e.settle s m outcome x.board).1) (e.settle s m outcome x.board).2
      x.world := by
  have next : x.resume s w m i c =
      x.put i { c with
          phase := some (.ofUndo (e.settle s m outcome x.board).1)
          fate := .ofOutcome outcome }
        (e.settle s m outcome x.board).2 x.world
        (owed ((Fate.ofOutcome outcome).success?.getD false) e.permit) := by
    rw [resume]
    rw [at_]
    simp only [Program.turn_ofOutcome, Board.emitAll_nil]
  exact reaches_resume out next rfl

/-! ## Batches -/

theorem reaches_advanceUndo (m : Moment) {u : Undo Q A} {rest : Program Q A (Except Fault String)}
    (out : x.calls[i]? = some c) (at_ : c.phase = some (.rollingBack u rest)) :
    let a := Phase.advanceUndo w m u rest x.board x.world
    x.Reaches s w i a.phase a.board a.world := by
  have turns := Program.turns_advance (w := w) m.ms rest x.world
  rw [Phase.advanceUndo]
  revert turns
  generalize Program.advance w m.ms rest x.world = advanced
  obtain ⟨standing, es, world⟩ := advanced
  intro turns
  have first := reaches_turns (s := s) (follows_rollingBack u) out at_ turns
  cases standing with
  | asleep wake rest' => exact first
  | ended outcome =>
    refine first.trans out fun {y d} out' at' board same => ?_
    have undone := reaches_undone (s := s) (w := w) m out' at'
    rw [board, same] at undone
    exact undone

theorem reaches_advance (m : Moment) {phase : Phase Q A} (out : x.calls[i]? = some c)
    (at_ : c.phase = some phase) :
    let a := Phase.advance s w m x.board x.world phase
    x.Reaches s w i a.phase a.board a.world := by
  cases phase with
  | ended report => exact reaches_self out at_
  | rollingBack u rest => exact reaches_advanceUndo m out at_
  | executing e rest =>
    have turns := Program.turns_advance (w := w) m.ms rest x.world
    simp only [Phase.advance]
    revert turns
    generalize Program.advance w m.ms rest x.world = advanced
    obtain ⟨standing, es, world⟩ := advanced
    intro turns
    have first := reaches_turns (s := s) (follows_executing e) out at_ turns
    cases standing with
    | asleep wake rest' => exact first
    | ended outcome =>
      refine first.trans out fun {y d} out' at' board same => ?_
      have settled := reaches_settled (s := s) (w := w) m out' at'
      rw [board, same] at settled
      dsimp only
      revert settled
      generalize e.settle s m outcome (x.board.emitAll es) = next
      obtain ⟨report | u, b⟩ := next
      · exact fun settled => settled
      · intro settled
        refine settled.trans out' fun {z f} out'' at'' board' same' => ?_
        have undone := reaches_advanceUndo (s := s) (w := w) m out'' at''
        rw [board', same'] at undone
        exact undone

/-- A batch stands where a pool does. -/
structure Matches (y : Batch Q A σ) (x : Pool Q A σ) : Prop where
  phases : x.calls.map (·.phase) = y.tasks.map fun task => some task.phase
  board : x.board = y.board
  world : x.world = y.world

theorem Matches.phase {y : Batch Q A σ} (h : Matches y x) {task : Task Q A}
    (is : y.tasks[i]? = some task) : ∃ c, x.calls[i]? = some c ∧ c.phase = some task.phase := by
  have same : (x.calls.map (·.phase))[i]? = some (some task.phase) := by
    rw [h.phases, List.getElem?_map, is]
    rfl
  rw [List.getElem?_map, Option.map_eq_some_iff] at same
  exact same

theorem receive_phase (s : Service Q A) (m : Moment) (t : Ticket) (x : Pool Q A σ) :
    ∃ c : Call Q A, (x.receive s m t).calls = x.calls ++ [c] ∧
      c.phase = some (.ofExecution (s.receive m t x.board).1) ∧
      (x.receive s m t).board = (s.receive m t x.board).2 ∧ (x.receive s m t).world = x.world := by
  rw [Pool.receive]
  generalize s.receive m t x.board = next
  obtain ⟨report | e, b⟩ := next
  · exact ⟨_, rfl, rfl, rfl, rfl⟩
  · exact ⟨_, rfl, rfl, rfl, rfl⟩

theorem Matches.start {y : Batch Q A σ} (h : Matches y x) (date : Nat → Time.Instant)
    (t : Ticket) : ∃ moments, Matches (y.start s w date t) (x.run s w
      (.call ⟨y.now, date y.now⟩ t :: turnsOf x.calls.length moments)) := by
  obtain ⟨c, calls, at_, board, world⟩ := receive_phase s ⟨y.now, date y.now⟩ t x
  have out : (x.receive s ⟨y.now, date y.now⟩ t).calls[x.calls.length]? = some c := by
    rw [calls, List.getElem?_concat_length]
  obtain ⟨moments, d, calls', at', board', world'⟩ := reaches_advance (s := s) (w := w)
    ⟨y.now, date y.now⟩ out at_
  rw [board, world, h.board, h.world] at at' board' world'
  refine ⟨moments, ?_, board', world'⟩
  change ((x.receive s ⟨y.now, date y.now⟩ t).run s w
    (turnsOf x.calls.length moments)).calls.map _ = _
  rw [calls', calls, List.set_append_right _ _ (Nat.le_refl _), Nat.sub_self, List.set_cons_zero,
    List.map_append, h.phases]
  simp only [Batch.start, List.map_append, List.map_cons, List.map_nil, at']

theorem Matches.resume {y : Batch Q A σ} (h : Matches y x) (date : Nat → Time.Instant)
    {task : Task Q A} (is : y.tasks[i]? = some task) :
    ∃ moments, Matches (y.resume s w date i task) (x.run s w (turnsOf i moments)) := by
  obtain ⟨c, out, at_⟩ := h.phase is
  obtain ⟨moments, d, calls, at', board, world⟩ := reaches_advance (s := s) (w := w)
    ⟨max y.now task.wake, date (max y.now task.wake)⟩ out at_
  rw [h.board, h.world] at at' board world
  refine ⟨moments, ?_, board, world⟩
  rw [calls, List.map_set, h.phases, at']
  simp only [Batch.resume, List.map_set]

end Pool

/-- The next task to run is one of the tasks, and is not over. -/
theorem Task.of_next? {tasks : List (Task Q A)} {i : Nat} {task : Task Q A}
    (h : Task.next? tasks = some (i, task)) : tasks[i]? = some task ∧ task.isOver = false := by
  rw [Task.next?] at h
  revert i task
  refine List.foldlRecOn (motive := fun best => ∀ {i : Nat} {task : Task Q A},
    best = some (i, task) → tasks[i]? = some task ∧ task.isOver = false) tasks.zipIdx _ ?_ ?_
  · intro i task h
    cases h
  · intro best earlier e hmem i task h
    have is : tasks[e.2]? = some e.1 := List.mk_mem_zipIdx_iff_getElem?.1 hmem
    dsimp only at h
    split at h
    · exact earlier h
    · next going =>
      have chosen : tasks[e.2]? = some e.1 ∧ e.1.isOver = false := ⟨is, Bool.eq_false_iff.2 going⟩
      split at h
      · cases h
        exact chosen
      · split at h
        · cases h
          exact chosen
        · exact earlier h

namespace Pool

theorem exists_run_drain {s : Service Q A} {w : Program.World Q A σ} (date : Nat → Time.Instant)
    (fuel : Nat) {y : Batch Q A σ} {x : Pool Q A σ} (h : Matches y x) :
    ∃ moves, Matches (y.drain s w date fuel) (x.run s w moves) := by
  induction fuel generalizing y x with
  | zero => exact ⟨[], h⟩
  | succ fuel ih =>
    rw [Batch.drain]
    split
    · exact ⟨[], h⟩
    · next i task next =>
      obtain ⟨moments, first⟩ := h.resume (s := s) (w := w) date (Task.of_next? next).1
      obtain ⟨moves, rest⟩ := ih first
      refine ⟨turnsOf i moments ++ moves, ?_⟩
      rw [run_append]
      exact rest

theorem exists_run_starts {s : Service Q A} {w : Program.World Q A σ} (date : Nat → Time.Instant)
    (tickets : List Ticket) {y : Batch Q A σ} {x : Pool Q A σ} (h : Matches y x) :
    ∃ moves, Matches (tickets.foldl (Batch.start s w date) y) (x.run s w moves) := by
  induction tickets generalizing y x with
  | nil => exact ⟨[], h⟩
  | cons t tickets ih =>
    obtain ⟨moments, first⟩ := h.start (s := s) (w := w) date t
    obtain ⟨moves, rest⟩ := ih first
    refine ⟨.call ⟨y.now, date y.now⟩ t :: turnsOf x.calls.length moments ++ moves, ?_⟩
    rw [run_append]
    exact rest

/-- A batch is one of the runs of a pool. -/
theorem exists_run_executeBatch (s : Service Q A) (w : Program.World Q A σ)
    (date : Nat → Time.Instant) (now fuel : Nat) (tickets : List Ticket) (config : BlastRadius)
    (world : σ) : ∃ moves, Matches (s.executeBatch w date now fuel tickets (.new config) world)
      ((new config world : Pool Q A σ).run s w moves) := by
  have fresh : Matches (⟨[], now, 0, .new config, world⟩ : Batch Q A σ) (new config world) :=
    ⟨rfl, rfl, rfl⟩
  obtain ⟨moves, started⟩ := exists_run_starts (s := s) (w := w) date tickets fresh
  obtain ⟨moves', drained⟩ := exists_run_drain (s := s) (w := w) date fuel started
  refine ⟨moves ++ moves', ?_⟩
  rw [run_append]
  exact drained

/-- A batch whose calls are over leaves nothing in flight. -/
theorem executeBatch_inFlight (s : Service Q A) (w : Program.World Q A σ)
    (date : Nat → Time.Instant) (now fuel : Nat) (tickets : List Ticket) (config : BlastRadius)
    (world : σ)
    (done : ∀ task ∈ (s.executeBatch w date now fuel tickets (.new config) world).tasks,
      task.isOver = true) (reading : Time.Instant) (key : TargetKey) :
    ((s.executeBatch w date now fuel tickets (.new config) world).board.limiter.snapshot
      reading key).1.inFlight = 0 := by
  obtain ⟨moves, same⟩ := exists_run_executeBatch s w date now fuel tickets config world
  have coherent := coherent_run s w config world moves
  rw [← same.board]
  refine coherent.inFlight_eq_zero (fun c hmem running => ?_) reading key
  obtain ⟨i, out⟩ := List.mem_iff_getElem?.1 hmem
  obtain ⟨e, rest, at_⟩ := (Call.running_iff (coherent.calls i c out).1).1 running
  have is : some (.executing e rest) ∈ (s.executeBatch w date now fuel tickets (.new config)
      world).tasks.map fun task => some task.phase := by
    rw [← same.phases, ← at_]
    exact List.mem_map_of_mem hmem
  obtain ⟨task, htask, phase⟩ := List.mem_map.1 is
  have ended := done task htask
  rw [Task.isOver, Option.some.inj phase] at ended
  cases ended

/-! ## Calls alone -/

theorem reaches_concludeUndo {s : Service Q A} {w : Program.World Q A σ} {x : Pool Q A σ}
    {i : Nat} {c : Call Q A} (date : Nat → Time.Instant) (now : Nat) {u : Undo Q A}
    (out : x.calls[i]? = some c) (at_ : c.phase = some (.rollingBack u u.program)) :
    let d := u.conclude w date now x.board x.world
    x.Reaches s w i (.ended d.report) d.board d.world := by
  have first := reaches_turns (s := s) (follows_rollingBack u) out at_
    (Program.turns_run (w := w) now u.program x.world)
  simp only [Undo.conclude]
  generalize Program.run w now u.program x.world = done at first ⊢
  refine first.trans out fun {y f} out' at' board same => ?_
  have undone := reaches_undone (s := s) (w := w) ⟨done.time, date done.time⟩ out' at'
  rw [board, same] at undone
  exact undone

theorem reaches_conclude {s : Service Q A} {w : Program.World Q A σ} {x : Pool Q A σ}
    {i : Nat} {c : Call Q A} (date : Nat → Time.Instant) (now : Nat) {e : Execution Q A}
    (out : x.calls[i]? = some c) (at_ : c.phase = some (.executing e e.program)) :
    let d := e.conclude s w date now x.board x.world
    x.Reaches s w i (.ended d.report) d.board d.world := by
  have first := reaches_turns (s := s) (follows_executing e) out at_
    (Program.turns_run (w := w) now e.program x.world)
  simp only [Execution.conclude]
  generalize Program.run w now e.program x.world = done at first ⊢
  refine first.trans out fun {y f} out' at' board same => ?_
  have settled := reaches_settled (s := s) (w := w) ⟨done.time, date done.time⟩ out' at'
  rw [board, same] at settled
  revert settled
  generalize e.settle s ⟨done.time, date done.time⟩ done.outcome (x.board.emitAll done.events)
    = next
  obtain ⟨report | u, b⟩ := next
  · exact fun settled => settled
  · intro settled
    refine settled.trans out' fun {z g} out'' at'' board' same' => ?_
    have undone := reaches_concludeUndo (s := s) (w := w) date done.time out'' at''
    rw [board', same'] at undone
    exact undone

/-- A call alone is one of the runs of a pool. -/
theorem exists_run_execute (s : Service Q A) (w : Program.World Q A σ) (date : Nat → Time.Instant)
    (now : Nat) (t : Ticket) (x : Pool Q A σ) :
    let d := s.execute w date now t x.board x.world
    ∃ moves c, (x.run s w moves).calls = x.calls ++ [c] ∧ c.phase = some (.ended d.report) ∧
      (x.run s w moves).board = d.board ∧ (x.run s w moves).world = d.world := by
  obtain ⟨c, calls, at_, board, world⟩ := receive_phase s ⟨now, date now⟩ t x
  have out : (x.receive s ⟨now, date now⟩ t).calls[x.calls.length]? = some c := by
    rw [calls, List.getElem?_concat_length]
  have reached : let d := s.execute w date now t x.board x.world
      (x.receive s ⟨now, date now⟩ t).Reaches s w x.calls.length (.ended d.report) d.board
        d.world := by
    rw [Service.execute]
    revert at_ board
    generalize s.receive ⟨now, date now⟩ t x.board = next
    obtain ⟨report | e, b⟩ := next
    · intro at_ board
      have ended := reaches_self (s := s) (w := w) out at_
      rw [board, world] at ended
      exact ended
    · intro at_ board
      have concluded := reaches_conclude (s := s) (w := w) date now out at_
      rw [board, world] at concluded
      exact concluded
  obtain ⟨moments, d, calls', rest⟩ := reached
  refine ⟨.call ⟨now, date now⟩ t :: turnsOf x.calls.length moments, d, ?_, rest⟩
  change ((x.receive s ⟨now, date now⟩ t).run s w (turnsOf x.calls.length moments)).calls = _
  rw [calls', calls, List.set_append_right _ _ (Nat.le_refl _), Nat.sub_self, List.set_cons_zero]

end Pool

end Remedy
