import Remedy.Proofs.Limiter.Sweep
import Remedy.Proofs.Limiter.Window
import Remedy.Proofs.Service.Pool
import Remedy.Proofs.Service.Trail

/-!
# Dry runs

A dry run says what a call would be told by the gates, and nothing that follows can tell whether it
was made. It may drop attempts that have left the window; boards that differ in such attempts only
take the same steps, so a run with dry runs in it goes as the same run without them. The cutoffs of
the readings may not decrease for that: a dry run inside a leap second drops attempts that a later
call has in its window.
-/

namespace Remedy

variable {Q : Type} {A : Q → Type} {σ : Type}

/-! ## Boards that cannot be told apart -/

/-- Boards that differ only in attempts that have left the window at a cutoff. -/
structure Board.Agrees (cutoff : Time.Instant) (b b' : Board) : Prop where
  limiter : b.limiter.sweep cutoff = b'.limiter.sweep cutoff
  counters : b.counters = b'.counters
  events : b.events = b'.events

/-- The same result, with boards that cannot be told apart. -/
def SameAfter {W : Type} (cutoff : Time.Instant) (x y : W × Board) : Prop :=
  x.1 = y.1 ∧ x.2.Agrees cutoff y.2

variable {cutoff : Time.Instant} {b b' : Board}

namespace Board.Agrees

theorem symm (h : b.Agrees cutoff b') : b'.Agrees cutoff b :=
  ⟨h.limiter.symm, h.counters.symm, h.events.symm⟩

theorem trans {b'' : Board} (h : b.Agrees cutoff b') (h' : b'.Agrees cutoff b'') :
    b.Agrees cutoff b'' :=
  ⟨h.limiter.trans h'.limiter, h.counters.trans h'.counters, h.events.trans h'.events⟩

theorem later (h : b.Agrees cutoff b') {next : Time.Instant} (le : cutoff ≤ next) :
    b.Agrees next b' where
  limiter := Limiter.sweep_mono le h.limiter
  counters := h.counters
  events := h.events

theorem config (h : b.Agrees cutoff b') : b.limiter.config = b'.limiter.config :=
  Limiter.config_of_sweep h.limiter

theorem keyFor (h : b.Agrees cutoff b') (incident : Incident) :
    b.limiter.keyFor incident = b'.limiter.keyFor incident := by
  simp only [Limiter.keyFor]
  rw [h.config]

theorem emit (h : b.Agrees cutoff b') (e : Event) : (b.emit e).Agrees cutoff (b'.emit e) where
  limiter := h.limiter
  counters := h.counters
  events := congrArg (· ++ [e]) h.events

theorem emitAll (h : b.Agrees cutoff b') (es : List Event) :
    (b.emitAll es).Agrees cutoff (b'.emitAll es) where
  limiter := h.limiter
  counters := h.counters
  events := congrArg (· ++ es) h.events

theorem count (h : b.Agrees cutoff b') (c : Counter) :
    (b.count c).Agrees cutoff (b'.count c) where
  limiter := h.limiter
  counters := congrArg (·.increment c) h.counters
  events := congrArg (fun es => es ++ [Event.counted c]) h.events

/-- Another limiter for both. -/
theorem withLimiter (h : b.Agrees cutoff b') (l : Limiter) :
    Agrees cutoff { b with limiter := l } { b' with limiter := l } :=
  ⟨rfl, h.counters, h.events⟩

theorem finish (h : b.Agrees cutoff b') (permit : Option Limiter.Permit) (success : Bool) :
    (b.finish permit success).Agrees cutoff (b'.finish permit success) := by
  cases permit with
  | none => exact h
  | some p =>
    refine ⟨?_, h.counters, h.events⟩
    simp only [Board.finish, Limiter.Permit.finish_eq_release]
    exact p.release_congr success h.limiter

theorem drop (h : b.Agrees cutoff b') (permit : Option Limiter.Permit) :
    (b.drop permit).Agrees cutoff (b'.drop permit) := by
  cases permit with
  | none => exact h
  | some p => exact ⟨p.release_congr false h.limiter, h.counters, h.events⟩

end Board.Agrees

/-! ## Steps of a call -/

theorem ending_same {W : Type} {x y : Report × Board} (h : SameAfter cutoff x y) :
    SameAfter cutoff (ending x : Next W × Board) (ending y) :=
  ⟨congrArg Next.ended h.1, h.2⟩

namespace Record

variable (h : b.Agrees cutoff b') (r : Record) (m : Moment)
include h

theorem finish_same (report : Report) :
    SameAfter cutoff (r.finish m report b) (r.finish m report b') := by
  refine ⟨rfl, ?_⟩
  simp only [finish]
  split
  · exact (h.count _).emit _
  · exact h.emit _

theorem refuse_same (stage title : String) (v : Validation) :
    SameAfter cutoff (r.refuse m stage title v b) (r.refuse m stage title v b') :=
  finish_same ((h.emit _).count _) r m _

theorem fault_same (f : Fault) : SameAfter cutoff (r.fault m f b) (r.fault m f b') :=
  finish_same h _ m _

theorem aborted_same (p : Panic) : SameAfter cutoff (r.aborted m p b) (r.aborted m p b') :=
  finish_same h _ m _

theorem close_same (report : Report) :
    SameAfter cutoff (r.close m report b) (r.close m report b') :=
  finish_same h _ m _

theorem execute_same (remediator : Remediator Q A) (permit : Option Limiter.Permit) :
    SameAfter cutoff (r.execute m remediator permit b) (r.execute m remediator permit b') := by
  simp only [execute]
  rw [h.keyFor]
  exact ⟨rfl, (h.emit _).count _⟩

/-- The limiter drops what has left the window before it looks, so it admits alike. -/
theorem blastRadiusGate_same (le : cutoff ≤ b.limiter.config.cutoff m.date)
    (remediator : Remediator Q A) :
    SameAfter cutoff (r.blastRadiusGate m remediator b) (r.blastRadiusGate m remediator b') := by
  have admitted := Limiter.tryAcquire_congr h.limiter (b'.limiter.keyFor r.ticket.incident) le
  simp only [blastRadiusGate]
  rw [h.keyFor, admitted]
  generalize b'.limiter.tryAcquire m.date (b'.limiter.keyFor r.ticket.incident) = result
  obtain ⟨admission, l⟩ := result
  split
  · exact execute_same h _ m remediator none
  · cases admission with
    | denied v => exact ending_same (refuse_same (h.withLimiter l) _ m _ _ v)
    | granted v permit => exact execute_same (h.withLimiter l) _ m remediator (some permit)

theorem resolve_same (le : cutoff ≤ b.limiter.config.cutoff m.date) (s : Service Q A) :
    SameAfter cutoff (r.resolve s m b) (r.resolve s m b') := by
  rw [resolve, resolve]
  split
  · exact ending_same (fault_same h r m _)
  · exact blastRadiusGate_same h r m le _

theorem attemptRollback_same (remediator : Remediator Q A) (report : Report) :
    SameAfter cutoff (r.attemptRollback m remediator report b)
      (r.attemptRollback m remediator report b') := by
  rw [attemptRollback, attemptRollback]
  split
  · exact ending_same (close_same h _ m _)
  · exact ⟨rfl, h⟩

theorem postValidate_same (s : Service Q A) (remediator : Remediator Q A) (report : Report) :
    SameAfter cutoff (r.postValidate s m remediator report b)
      (r.postValidate s m remediator report b') := by
  simp only [postValidate]
  split
  · exact ending_same (close_same h _ m _)
  · split
    · exact attemptRollback_same h _ m _ _
    · exact ending_same (close_same h _ m _)

end Record

section Steps

variable (h : b.Agrees cutoff b') (s : Service Q A) (m : Moment)
include h

theorem Service.receive_same (le : cutoff ≤ b.limiter.config.cutoff m.date) (t : Ticket) :
    SameAfter cutoff (s.receive m t b) (s.receive m t b') := by
  have spanned := h.emit
    (.span (Record.fresh t m.ms).incidentText (Record.fresh t m.ms).actionName)
  simp only [Service.receive]
  split
  · exact Record.resolve_same spanned _ m le s
  · split
    · exact Record.resolve_same spanned _ m le s
    · exact ending_same (Record.refuse_same spanned _ m _ _ _)

theorem Execution.settle_same (e : Execution Q A) (outcome : Except Panic Report) :
    SameAfter cutoff (e.settle s m outcome b) (e.settle s m outcome b') := by
  cases outcome with
  | error p => exact ending_same (Record.aborted_same (h.drop e.permit) _ m p)
  | ok returned =>
    have given := h.finish e.permit returned.success
    simp only [Execution.settle]
    split
    · exact Record.attemptRollback_same given _ m _ _
    · split
      · exact Record.postValidate_same given _ m s _ _
      · exact ending_same (Record.close_same given _ m _)

omit s in
theorem Undo.settle_same (u : Undo Q A) (outcome : Except Panic (Except Fault String)) :
    SameAfter cutoff (u.settle m outcome b) (u.settle m outcome b') := by
  rcases outcome with p | f | description
  · exact Record.aborted_same h _ m p
  · exact Record.close_same (h.emit _) _ m _
  · exact Record.close_same ((h.count _).emit _) _ m _

end Steps

/-! ## A call alone -/

/-- Ends that differ only in attempts that have left the window. -/
structure CallEnd.Agrees (cutoff : Time.Instant) (d d' : CallEnd Q A σ) : Prop where
  report : d.report = d'.report
  time : d.time = d'.time
  board : d.board.Agrees cutoff d'.board
  world : d.world = d'.world
  ran : d.ran = d'.ran

section Call

variable (h : b.Agrees cutoff b') (s : Service Q A) (w : Program.World Q A σ)
  (date : Nat → Time.Instant) (now : Nat) (world : σ)
include h

omit s in
theorem Undo.conclude_agrees (u : Undo Q A) :
    (u.conclude w date now b world).Agrees cutoff (u.conclude w date now b' world) := by
  simp only [Undo.conclude]
  generalize Program.run w now u.program world = done
  obtain ⟨report, board⟩ := u.settle_same (h.emitAll done.events) ⟨done.time, date done.time⟩
    done.outcome
  exact ⟨report, rfl, board, rfl, rfl⟩

theorem Execution.conclude_agrees (e : Execution Q A) :
    (e.conclude s w date now b world).Agrees cutoff (e.conclude s w date now b' world) := by
  simp only [Execution.conclude]
  generalize Program.run w now e.program world = done
  have settled := e.settle_same (h.emitAll done.events) s ⟨done.time, date done.time⟩ done.outcome
  revert settled
  generalize e.settle s ⟨done.time, date done.time⟩ done.outcome (b.emitAll done.events) = x
  generalize e.settle s ⟨done.time, date done.time⟩ done.outcome (b'.emitAll done.events) = y
  obtain ⟨next, board⟩ := x
  obtain ⟨next', board'⟩ := y
  rintro ⟨rfl, agrees⟩
  cases next with
  | ended report => exact ⟨rfl, rfl, agrees, rfl, rfl⟩
  | waiting u =>
    have concluded := u.conclude_agrees agrees w date done.time done.world
    exact ⟨concluded.report, concluded.time, concluded.board, concluded.world,
      congrArg (List.cons (Ran.execution e.remediator done.outcome)) concluded.ran⟩

theorem Service.execute_agrees (le : cutoff ≤ b.limiter.config.cutoff (date now)) (t : Ticket) :
    (s.execute w date now t b world).Agrees cutoff (s.execute w date now t b' world) := by
  have received := s.receive_same h ⟨now, date now⟩ le t
  simp only [Service.execute]
  revert received
  generalize s.receive ⟨now, date now⟩ t b = x
  generalize s.receive ⟨now, date now⟩ t b' = y
  obtain ⟨next, board⟩ := x
  obtain ⟨next', board'⟩ := y
  rintro ⟨rfl, agrees⟩
  cases next with
  | ended report => exact ⟨rfl, rfl, agrees, rfl, rfl⟩
  | waiting e => exact e.conclude_agrees agrees s w date now world

end Call

/-! ## Calls in any order -/

namespace Pool

/-- Pools that differ only in attempts that have left the window. -/
structure Agrees (cutoff : Time.Instant) (x y : Pool Q A σ) : Prop where
  calls : x.calls = y.calls
  board : x.board.Agrees cutoff y.board
  world : x.world = y.world
  ledger : x.ledger = y.ledger

variable {x y : Pool Q A σ}

theorem Agrees.refl (cutoff : Time.Instant) (x : Pool Q A σ) : x.Agrees cutoff x :=
  ⟨rfl, ⟨rfl, rfl, rfl⟩, rfl, rfl⟩

theorem Agrees.symm (h : x.Agrees cutoff y) : y.Agrees cutoff x :=
  ⟨h.calls.symm, h.board.symm, h.world.symm, h.ledger.symm⟩

theorem Agrees.trans {z : Pool Q A σ} (h : x.Agrees cutoff y) (h' : y.Agrees cutoff z) :
    x.Agrees cutoff z :=
  ⟨h.calls.trans h'.calls, h.board.trans h'.board, h.world.trans h'.world,
    h.ledger.trans h'.ledger⟩

theorem Agrees.later (h : x.Agrees cutoff y) {next : Time.Instant} (le : cutoff ≤ next) :
    x.Agrees next y :=
  ⟨h.calls, h.board.later le, h.world, h.ledger⟩

theorem Agrees.add (h : x.Agrees cutoff y) (c : Call Q A) (boards : b.Agrees cutoff b')
    (recorded : List (TargetKey × Limiter.Entry)) :
    (x.add c b recorded).Agrees cutoff (y.add c b' recorded) := by
  refine ⟨?_, boards, h.world, ?_⟩
  · simp only [Pool.add]
    rw [h.calls]
  · simp only [Pool.add]
    rw [h.calls, h.ledger]

theorem Agrees.put (h : x.Agrees cutoff y) (i : Nat) (c : Call Q A) (boards : b.Agrees cutoff b')
    (world : σ) (recorded : List (TargetKey × Limiter.Entry)) :
    (x.put i c b world recorded).Agrees cutoff (y.put i c b' world recorded) := by
  refine ⟨?_, boards, rfl, ?_⟩
  · simp only [Pool.put]
    rw [h.calls]
  · simp only [Pool.put]
    rw [h.ledger]

theorem Agrees.receive (h : x.Agrees cutoff y) (s : Service Q A) (m : Moment)
    (le : cutoff ≤ x.board.limiter.config.cutoff m.date) (t : Ticket) :
    (x.receive s m t).Agrees cutoff (y.receive s m t) := by
  have received := s.receive_same h.board m le t
  simp only [Pool.receive]
  revert received
  generalize s.receive m t x.board = r
  generalize s.receive m t y.board = r'
  obtain ⟨next, board⟩ := r
  obtain ⟨next', board'⟩ := r'
  rintro ⟨rfl, boards⟩
  cases next with
  | ended report => exact h.add _ boards _
  | waiting e => exact h.add _ boards _

theorem Agrees.resume (h : x.Agrees cutoff y) (s : Service Q A) (w : Program.World Q A σ)
    (m : Moment) (i : Nat) (c : Call Q A) :
    (x.resume s w m i c).Agrees cutoff (y.resume s w m i c) := by
  simp only [Pool.resume]
  rw [← h.world]
  split
  · next e rest _ =>
    split
    · exact h.put i _ (h.board.emitAll _) _ _
    · next outcome events world _ =>
      obtain ⟨next, boards⟩ := e.settle_same (h.board.emitAll events) s m outcome
      rw [next]
      exact h.put i _ boards _ _
  · next u rest _ =>
    split
    · exact h.put i _ (h.board.emitAll _) _ _
    · next outcome events world _ =>
      obtain ⟨report, boards⟩ := u.settle_same (h.board.emitAll events) m outcome
      rw [report]
      exact h.put i _ boards _ _
  · exact h
  · exact h

theorem Agrees.abandon (h : x.Agrees cutoff y) (i : Nat) (c : Call Q A) :
    (x.abandon i c).Agrees cutoff (y.abandon i c) := by
  simp only [Pool.abandon]
  rw [← h.world]
  rcases c.phase with - | ⟨e, rest⟩ | - | -
  · exact h
  · exact h.put i _ (h.board.drop e.permit) _ _
  · exact h.put i _ h.board _ _
  · exact h.put i _ h.board _ _

/-- The reading that a move has the limiter take. -/
def Move.reading? : Move → Option Time.Instant
  | call m _ => some m.date
  | step .. | drop _ => none

theorem Agrees.step (h : x.Agrees cutoff y) (s : Service Q A) (w : Program.World Q A σ)
    {move : Move} (le : ∀ r, move.reading? = some r → cutoff ≤ x.board.limiter.config.cutoff r) :
    (x.step s w move).Agrees cutoff (y.step s w move) := by
  cases move with
  | call m t => exact h.receive s m (le m.date rfl) t
  | step m i =>
    simp only [Pool.step]
    rw [← h.calls]
    split
    · exact h.resume s w m i _
    · exact h
  | drop i =>
    simp only [Pool.step]
    rw [← h.calls]
    split
    · exact h.abandon i _
    · exact h

/-! ### The configuration stays -/

theorem receive_config (s : Service Q A) (m : Moment) (t : Ticket) (x : Pool Q A σ) :
    (x.receive s m t).board.limiter.config = x.board.limiter.config := by
  have received := s.receive_received m t x.board
  rw [Pool.receive]
  revert received
  generalize s.receive m t x.board = next
  intro received
  cases received with
  | refused _ _ _ limiter | unresolved _ _ _ _ limiter | exhausted _ _ _ _ _ limiter
  | unmetered _ _ _ _ _ limiter | granted _ _ _ _ _ _ limiter =>
    have same := congrArg Limiter.config limiter
    exact same

theorem givenBack_config (success : Bool) (permit : Option Limiter.Permit) (l : Limiter) :
    (givenBack success permit l).config = l.config := by
  cases permit with
  | none => rfl
  | some p =>
    simp only [givenBack, Limiter.Permit.release]
    split
    · rfl
    · exact l.recordEnd_config p.key success

theorem resume_config (s : Service Q A) (w : Program.World Q A σ) (m : Moment) (x : Pool Q A σ)
    (i : Nat) (c : Call Q A) :
    (x.resume s w m i c).board.limiter.config = x.board.limiter.config := by
  rw [Pool.resume]
  split
  · next e rest _ =>
    split
    · rfl
    · next outcome events world _ =>
      change (e.settle s m outcome (x.board.emitAll events)).2.limiter.config = _
      rw [settle_limiter]
      exact givenBack_config ..
  · next u rest _ =>
    split
    · rfl
    · next outcome events world _ =>
      exact congrArg Limiter.config (u.settle_limiter m outcome (x.board.emitAll events))
  · rfl
  · rfl

theorem abandon_config (x : Pool Q A σ) (i : Nat) (c : Call Q A) :
    (x.abandon i c).board.limiter.config = x.board.limiter.config := by
  rw [abandon_board]
  rcases c.phase with - | ⟨e, rest⟩ | - | -
  · rfl
  · exact (congrArg Limiter.config (drop_limiter x.board e.permit)).trans (givenBack_config ..)
  · rfl
  · rfl

theorem step_config (s : Service Q A) (w : Program.World Q A σ) (x : Pool Q A σ) (move : Move) :
    (x.step s w move).board.limiter.config = x.board.limiter.config := by
  cases move with
  | call m t => exact receive_config s m t x
  | step m i =>
    simp only [Pool.step]
    split
    · exact resume_config ..
    · rfl
  | drop i =>
    simp only [Pool.step]
    split
    · exact abandon_config ..
    · rfl

/-! ## Visits -/

/-- What is asked of a service: that a call begins or goes on, a dry run, or a look at a target. -/
inductive Visit where
  | move (move : Move)
  | dryRun (now : Time.Instant) (t : Ticket)
  | look (now : Time.Instant) (key : TargetKey)

namespace Visit

def reading? : Visit → Option Time.Instant
  | move m => m.reading?
  | dryRun now _ | look now _ => some now

end Visit

/-- The readings of the clock that the limiter gets. -/
def readings (visits : List Visit) : List Time.Instant := visits.filterMap Visit.reading?

def visit (s : Service Q A) (w : Program.World Q A σ) (x : Pool Q A σ) : Visit → Pool Q A σ
  | .move m => x.step s w m
  | .dryRun now t => { x with board := (s.validatePlan now t x.board).2 }
  | .look now key =>
    { x with board := { x.board with limiter := (x.board.limiter.snapshot now key).2 } }

def attend (s : Service Q A) (w : Program.World Q A σ) (x : Pool Q A σ) (visits : List Visit) :
    Pool Q A σ :=
  visits.foldl (visit s w) x

/-- The same visits in the same order, but for some dry runs that are left out. -/
inductive Spares : List Visit → List Visit → Prop where
  | none : Spares [] []
  | keep (v : Visit) {visits fewer : List Visit} (rest : Spares visits fewer) :
      Spares (v :: visits) (v :: fewer)
  | skip (now : Time.Instant) (t : Ticket) {visits fewer : List Visit}
      (rest : Spares visits fewer) : Spares (.dryRun now t :: visits) fewer

theorem visit_config (s : Service Q A) (w : Program.World Q A σ) (x : Pool Q A σ) (v : Visit) :
    (x.visit s w v).board.limiter.config = x.board.limiter.config := by
  cases v with
  | move m => exact step_config s w x m
  | dryRun now t =>
    simp only [visit, Service.validatePlan]
    split
    · rfl
    · exact Limiter.look_config ..
  | look now key => exact Limiter.look_config ..

/-- A dry run cannot be told from none, as soon as the cutoff has got to that of its reading. -/
theorem agrees_dryRun (s : Service Q A) (w : Program.World Q A σ) (x : Pool Q A σ)
    {now : Time.Instant} (t : Ticket) (le : x.board.limiter.config.cutoff now ≤ cutoff) :
    (x.visit s w (.dryRun now t)).Agrees cutoff x := by
  refine ⟨rfl, ⟨?_, ?_, ?_⟩, rfl, rfl⟩ <;> simp only [visit, Service.validatePlan] <;> split
  · rfl
  · exact Limiter.look_sweep _ _ le
  all_goals rfl

theorem agrees_look (s : Service Q A) (w : Program.World Q A σ) (x : Pool Q A σ)
    {now : Time.Instant} (key : TargetKey) (le : x.board.limiter.config.cutoff now ≤ cutoff) :
    (x.visit s w (.look now key)).Agrees cutoff x :=
  ⟨rfl, ⟨Limiter.look_sweep _ _ le, rfl, rfl⟩, rfl, rfl⟩

/-- The cutoff that a visit gets to. -/
def Visit.reached (config : BlastRadius) (cutoff : Time.Instant) (v : Visit) : Time.Instant :=
  v.reading?.elim cutoff config.cutoff

/-- A visit keeps pools from being told apart, unless its cutoff goes back. -/
theorem Agrees.visit (h : x.Agrees cutoff y) (s : Service Q A) (w : Program.World Q A σ)
    {v : Visit} (le : cutoff ≤ v.reached x.board.limiter.config cutoff) :
    (x.visit s w v).Agrees (v.reached x.board.limiter.config cutoff) (y.visit s w v) := by
  cases v with
  | move m =>
    refine (h.step s w fun r hr => ?_).later le
    have reached : (Visit.move m).reached x.board.limiter.config cutoff =
        x.board.limiter.config.cutoff r := by
      simp only [Visit.reached, Visit.reading?]
      rw [hr]
      rfl
    exact reached ▸ le
  | dryRun now t =>
    have other := agrees_dryRun s w y t (Time.Instant.le_refl (y.board.limiter.config.cutoff now))
    rw [← h.board.config] at other
    exact ((agrees_dryRun s w x t (Time.Instant.le_refl _)).trans (h.later le)).trans other.symm
  | look now key =>
    have other := agrees_look s w y key (Time.Instant.le_refl (y.board.limiter.config.cutoff now))
    rw [← h.board.config] at other
    exact ((agrees_look s w x key (Time.Instant.le_refl _)).trans (h.later le)).trans other.symm

theorem readings_cons (v : Visit) (visits : List Visit) :
    readings (v :: visits) = v.reading?.toList ++ readings visits := by
  cases hv : v.reading? <;> simp [readings, hv]

/-- A visit comes no earlier than what was before it, and what follows comes no earlier than it. -/
theorem pairwise_reached {config : BlastRadius} {v : Visit} {visits : List Visit}
    {later : Time.Instant}
    (steady : (cutoff :: (readings (v :: visits) ++ [later]).map config.cutoff).Pairwise (· ≤ ·)) :
    cutoff ≤ v.reached config cutoff ∧
      (v.reached config cutoff :: (readings visits ++ [later]).map config.cutoff).Pairwise
        (· ≤ ·) := by
  rw [readings_cons] at steady
  rw [Visit.reached]
  cases hv : v.reading? with
  | none =>
    rw [hv] at steady
    exact ⟨Time.Instant.le_refl _, steady⟩
  | some r =>
    rw [hv] at steady
    obtain ⟨first, rest⟩ := List.pairwise_cons.1 steady
    exact ⟨first _ List.mem_cons_self, rest⟩

/-- Runs that differ in dry runs only cannot be told apart afterwards. -/
theorem attend_agrees (s : Service Q A) (w : Program.World Q A σ) {config : BlastRadius}
    {later : Time.Instant} {visits fewer : List Visit} (spares : Spares visits fewer) :
    ∀ {x y : Pool Q A σ} {cutoff : Time.Instant}, x.Agrees cutoff y →
      x.board.limiter.config = config →
      (cutoff :: (readings visits ++ [later]).map config.cutoff).Pairwise (· ≤ ·) →
      (x.attend s w visits).Agrees (config.cutoff later) (y.attend s w fewer) := by
  induction spares with
  | none =>
    intro x y cutoff h _ steady
    exact h.later ((List.pairwise_cons.1 steady).1 _ List.mem_cons_self)
  | keep v rest ih =>
    intro x y cutoff h same steady
    obtain ⟨le, steady⟩ := pairwise_reached steady
    rw [← same] at le
    have next := h.visit s w le
    rw [same] at next
    exact ih next ((visit_config s w x v).trans same) steady
  | skip now t rest ih =>
    intro x y cutoff h same steady
    obtain ⟨le, steady⟩ := pairwise_reached steady
    have dry := agrees_dryRun s w x t (Time.Instant.le_refl (x.board.limiter.config.cutoff now))
    rw [same] at dry
    exact ih (dry.trans (h.later le)) ((visit_config s w x _).trans same) steady

/-- Whatever is asked of two pools at a reading, both answer the same. -/
structure SameAt (s : Service Q A) (w : Program.World Q A σ) (reading : Time.Instant)
    (x y : Pool Q A σ) : Prop where
  calls : x.calls = y.calls
  world : x.world = y.world
  ledger : x.ledger = y.ledger
  counters : x.board.counters = y.board.counters
  events : x.board.events = y.board.events
  tracked : x.board.limiter.tracked = y.board.limiter.tracked
  usage : ∀ key,
    (x.board.limiter.snapshot reading key).1 = (y.board.limiter.snapshot reading key).1
  dryRun : ∀ t, (s.validatePlan reading t x.board).1 = (s.validatePlan reading t y.board).1
  execute : ∀ (date : Nat → Time.Instant) (now : Nat) (t : Ticket), date now = reading →
    let d := s.execute w date now t x.board x.world
    let d' := s.execute w date now t y.board y.world
    d.report = d'.report ∧ d.time = d'.time ∧ d.world = d'.world ∧ d.ran = d'.ran

theorem Agrees.sameAt (h : x.Agrees cutoff y) (s : Service Q A) (w : Program.World Q A σ)
    {reading : Time.Instant} (le : cutoff ≤ x.board.limiter.config.cutoff reading) :
    x.SameAt s w reading y where
  calls := h.calls
  world := h.world
  ledger := h.ledger
  counters := h.board.counters
  events := h.board.events
  tracked := Limiter.tracked_congr h.board.limiter
  usage := fun key => Limiter.look_congr h.board.limiter key le
  dryRun := by
    intro t
    have said := Limiter.validate_congr h.board.limiter (y.board.limiter.keyFor t.incident) le
    simp only [Service.validatePlan]
    split
    · rfl
    · rw [h.board.keyFor, said]
  execute := by
    intro date now t at_
    have same := s.execute_agrees h.board w date now x.world (at_ ▸ le) t
    rw [← h.world]
    exact ⟨same.report, same.time, same.world, same.ran⟩

/-- The configuration stays whatever is asked. -/
theorem attend_config (s : Service Q A) (w : Program.World Q A σ) (visits : List Visit) :
    ∀ x : Pool Q A σ, (x.attend s w visits).board.limiter.config = x.board.limiter.config := by
  induction visits with
  | nil => exact fun _ => rfl
  | cons v rest ih => exact fun x => (ih (x.visit s w v)).trans (visit_config s w x v)

/-- A pool is like itself at any cutoff, so also at one that comes before all that are read. -/
theorem attend_sameAt (s : Service Q A) (w : Program.World Q A σ) {visits fewer : List Visit}
    {later : Time.Instant} (spares : Spares visits fewer) (x : Pool Q A σ)
    (cutoffs : ((readings visits ++ [later]).map x.board.limiter.config.cutoff).Pairwise (· ≤ ·)) :
    Pool.SameAt s w later (x.attend s w visits) (x.attend s w fewer) := by
  obtain ⟨first, rest, hall⟩ : ∃ first rest,
      (readings visits ++ [later]).map x.board.limiter.config.cutoff = first :: rest := by
    cases readings visits <;> exact ⟨_, _, rfl⟩
  have steady : (first :: (readings visits ++ [later]).map x.board.limiter.config.cutoff).Pairwise
      (· ≤ ·) := by
    rw [hall] at cutoffs ⊢
    obtain ⟨least, ordered⟩ := List.pairwise_cons.1 cutoffs
    refine List.pairwise_cons.2 ⟨fun c held => ?_, cutoffs⟩
    rcases List.mem_cons.1 held with rfl | held
    · exact Time.Instant.le_refl _
    · exact least c held
  have agrees := attend_agrees s w spares (Agrees.refl first x) rfl steady
  have same := attend_config s w visits x
  refine agrees.sameAt s w ?_
  rw [same]
  exact Time.Instant.le_refl _

end Pool

namespace Service

section Foretold

variable (s : Service Q A) (w : Program.World Q A σ) (date : Nat → Time.Instant) (now : Nat)
  (t : Ticket) (b : Board) (world : σ)

/-- A call executes just when nothing stops it. -/
theorem executions_iff :
    (s.execute w date now t b world).executions ≠ [] ↔ s.Executes t b.limiter (date now) := by
  obtain ⟨x, received, hd⟩ := s.execute_cases w date now b world t
  rw [hd]
  obtain ⟨report | e, b'⟩ := x
  · have never := not_executes_of_ended received
    exact ⟨fun executed => (executed rfl).elim, fun all => (never all).elim⟩
  · have all := executes_of_waiting received
    refine ⟨fun _ => all, fun _ => ?_⟩
    have once := (e.conclude_executions s w date now b' world).1
    change (e.conclude s w date now b' world).executions ≠ []
    rw [once]
    exact List.cons_ne_nil _ _

/-- The verdict of the checks is the call's own, whatever the call comes to. -/
theorem execute_preValidation {v : Validation} (checked : s.checked? t = some v) :
    (s.execute w date now t b world).report.validationDetails.get? Stage.preValidation =
      some v := by
  refine s.execute_keeps w date now t b world ?_
  rw [verdict?, if_pos rfl, checked]

/-- The verdict of the limiter is the call's own when the call gets to it; a call that does not has
none. -/
theorem execute_blastRadius {v : Validation} (asked : t.budgeted? b.limiter (date now) = some v) :
    (s.execute w date now t b world).report.validationDetails.get? Stage.blastRadius =
      if s.reachesLimiter t then some v else none := by
  by_cases reaches : s.reachesLimiter t = true
  · rw [if_pos reaches]
    refine s.execute_keeps w date now t b world ?_
    rw [verdict?, if_neg (by decide), if_pos ⟨rfl, reaches⟩, asked]
  · have begun := s.receive_blastRadius ⟨now, date now⟩ t b
    rw [if_neg reaches] at begun ⊢
    have received := s.receive_received ⟨now, date now⟩ t b
    rw [execute]
    revert begun received
    generalize s.receive ⟨now, date now⟩ t b = next
    obtain ⟨report | e, b'⟩ := next
    · exact fun begun _ => begun
    · intro _ received
      obtain ⟨cleared, ⟨r, found⟩, -⟩ := executes_of_waiting received
      refine absurd ?_ reaches
      rw [reachesLimiter, cleared, found]
      rfl

end Foretold

/-- A dry run foretells a call that begins in the same state at the same reading. The call executes
just when the dry run passes and the action has a remediator that accepts the incident, and both
have the same verdicts of the gates that both ask; a call that gets to the limiter asks it, and one
that does not reports no verdict of it. Dry runs that were made before, between or beside calls have
run nothing and changed nothing that can be asked of the service afterwards, as long as neither the
readings nor their cutoffs decrease. -/
theorem dry_run_foretells (s : Service Q A) (w : Program.World Q A σ) (date : Nat → Time.Instant)
    (now : Nat) (t : Ticket) (b : Board) (world : σ) :
    let foretold := (s.validatePlan (date now) t b).1
    let d := s.execute w date now t b world
    (d.executions ≠ [] ↔
      foretold.passed = true ∧ ∃ r, s.registry.resolve t.incident t.plan = .ok r) ∧
    (foretold.details.get? Stage.preValidation = s.checked? t ∧
      foretold.details.get? Stage.blastRadius = t.budgeted? b.limiter (date now)) ∧
    (∀ v, foretold.details.get? Stage.preValidation = some v →
      d.report.validationDetails.get? Stage.preValidation = some v) ∧
    (∀ v, foretold.details.get? Stage.blastRadius = some v →
      d.report.validationDetails.get? Stage.blastRadius =
        if s.reachesLimiter t then some v else none) ∧
    (∀ (x : Pool Q A σ) (visits fewer : List Pool.Visit) (later : Time.Instant),
      Pool.Spares visits fewer →
      x.board.limiter.config.Steady (Pool.readings visits ++ [later]) →
      Pool.SameAt s w later (x.attend s w visits) (x.attend s w fewer)) := by
  intro foretold d
  have checked : foretold.details.get? Stage.preValidation = s.checked? t := by
    rw [validatePlan_details, if_neg (by decide), if_pos rfl]
  have budgeted : foretold.details.get? Stage.blastRadius = t.budgeted? b.limiter (date now) := by
    rw [validatePlan_details, if_pos rfl]
  refine ⟨?_, ⟨checked, budgeted⟩, ?_, ?_, ?_⟩
  · rw [executions_iff, validatePlan_passed]
    exact ⟨fun ⟨cleared, found, afforded⟩ => ⟨⟨cleared, afforded⟩, found⟩,
      fun ⟨⟨cleared, afforded⟩, found⟩ => ⟨cleared, found, afforded⟩⟩
  · intro v said
    exact s.execute_preValidation w date now t b world (checked.symm.trans said)
  · intro v said
    exact s.execute_blastRadius w date now t b world (budgeted.symm.trans said)
  · intro x visits fewer later spares steady
    have cutoffs := List.pairwise_map.2 (List.Pairwise.imp And.right steady)
    exact Pool.attend_sameAt s w spares x cutoffs

/-- A target with a budget of one: a dry run passes before the first call and not after it, and a
second call finds what it would have found without them. -/
theorem dry_run_foretells_spent :
    let remediator : Remediator Unit fun _ => Unit :=
      .plain .noOp fun _ _ => .done (.succeeded "done" [] 0.0)
    let s : Service Unit fun _ => Unit :=
      ⟨Registry.empty.register remediator, ⟨Stage.preValidation, []⟩, ⟨Stage.postValidation, []⟩⟩
    let world : Program.World Unit (fun _ => Unit) Unit := fun _ u => (u, u)
    let date : Nat → Time.Instant := fun ms => ⟨1700000000 + ms / 1000, 0⟩
    let t : Ticket := ⟨.new ⟨7⟩ ⟨1700000000, 0⟩ .github "flaky_test", .new .noOp "", .standard⟩
    let b : Board := .new ⟨10, 1, 1, .standard⟩
    let spent : Board := (s.execute world date 0 t b ()).board
    let x : Pool Unit (fun _ => Unit) Unit := ⟨[], b, (), []⟩
    let call : Pool.Visit := .move (.call ⟨0, date 0⟩ t)
    let visits : List Pool.Visit := [.dryRun (date 0) t, call, .dryRun (date 1000) t]
    (s.execute world date 0 t b ()).executions ≠ [] ∧
      (s.execute world date 1000 t spent ()).executions = [] ∧
      (s.execute world date 1000 t spent ()).report.validationDetails.get? Stage.blastRadius =
        some (spent.limiter.validate (date 1000) (spent.limiter.keyFor t.incident)).1 ∧
      (b.limiter.config.Steady (Pool.readings visits ++ [date 1000]) ∧
        Pool.Spares visits [call]) ∧
      Pool.SameAt s world (date 1000) (x.attend s world visits) (x.attend s world [call]) := by
  intro remediator s world date t b spent x call visits
  have found : s.registry.resolve t.incident t.plan = .ok remediator := by rfl
  have open_ : (s.validatePlan (date 0) t b).1.passed = true := by decide +kernel
  have shut : (s.validatePlan (date 1000) t spent).1.passed = false := by decide +kernel
  have reaches : s.reachesLimiter t = true := by decide +kernel
  have steady : b.limiter.config.Steady (Pool.readings visits ++ [date 1000]) := by decide
  have spares : Pool.Spares visits [call] := .skip _ _ (.keep call (.skip _ _ .none))
  obtain ⟨first, -, -, -, same⟩ := s.dry_run_foretells world date 0 t b ()
  obtain ⟨second, ⟨-, asked⟩, -, budgeted, -⟩ := s.dry_run_foretells world date 1000 t spent ()
  refine ⟨first.2 ⟨open_, remediator, found⟩, ?_, ?_, ⟨steady, spares⟩,
    same x visits [call] (date 1000) spares steady⟩
  · by_contra executed
    have passed := (second.1 executed).1
    rw [shut] at passed
    cases passed
  · rw [budgeted _ (asked.trans rfl), if_pos reaches]

/-- In a leap second the cutoff runs ahead. A dry run then drops an attempt that a call a moment
later has in its window, so the call executes; without the dry run it is stopped. -/
theorem leap_second_dry_run_admits :
    let remediator : Remediator Unit fun _ => Unit :=
      .plain .noOp fun _ _ => .done (.succeeded "done" [] 0.0)
    let s : Service Unit fun _ => Unit :=
      ⟨Registry.empty.register remediator, ⟨Stage.preValidation, []⟩, ⟨Stage.postValidation, []⟩⟩
    let world : Program.World Unit (fun _ => Unit) Unit := fun _ u => (u, u)
    let t : Ticket := ⟨.new ⟨7⟩ ⟨1483228790, 0⟩ .github "flaky_test", .new .noOp "", .standard⟩
    let first : Time.Instant := ⟨1483228790, 300000000⟩
    let leap : Time.Instant := ⟨1483228799, 1500000000⟩
    let later : Time.Instant := ⟨1483228800, 200000000⟩
    let b : Board := (s.execute world (fun _ => first) 0 t (.new ⟨10, 1, 5, .standard⟩) ()).board
    let looked : Board := (s.validatePlan leap t b).2
    (first ≤ leap ∧ leap ≤ later) ∧
      (s.execute world (fun _ => later) 0 t b ()).report.outcome = .rejected ∧
      (s.execute world (fun _ => later) 0 t looked ()).report.outcome = .success := by
  decide +kernel

end Service

end Remedy
