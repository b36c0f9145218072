import Remedy.Proofs.Limiter.Usage
import Remedy.Service.Batch

/-!
# The steps of a call

A call takes at most three steps on the board. For each step its cases are listed once, with what
they do to the limiter, what they say of the report, and what they hand to the next step. Whatever
is said of calls, alone or side by side, follows from these cases.
-/

namespace Remedy

variable {Q : Type} {A : Q → Type}

/-- What a step leaves: a report that ends the call, or something for the call to wait for. -/
def Next.Leaves {W : Type} (ended : Report → Prop) (waits : W → Prop) : Next W → Prop
  | .ended report => ended report
  | .waiting w => waits w

/-! ## Endings leave the limiter alone -/

@[simp] theorem Board.emit_limiter (b : Board) (e : Event) : (b.emit e).limiter = b.limiter := rfl

@[simp] theorem Board.count_limiter (b : Board) (c : Counter) :
    (b.count c).limiter = b.limiter := rfl

namespace Record

variable (r : Record) (m : Moment) (b : Board)

@[simp] theorem executed_ticket (report : Report) : (r.executed m report).ticket = r.ticket := by
  unfold executed
  dsimp only
  split <;> rfl

@[simp] theorem finish_success (report : Report) :
    (r.finish m report b).1.success = report.success := rfl

@[simp] theorem finish_limiter (report : Report) :
    (r.finish m report b).2.limiter = b.limiter := by
  rw [finish]
  dsimp only
  split <;> rfl

@[simp] theorem refuse_success (stage title : String) (v : Validation) :
    (r.refuse m stage title v b).1.success = false := rfl

@[simp] theorem refuse_outcome (stage title : String) (v : Validation) :
    (r.refuse m stage title v b).1.outcome = .rejected := rfl

@[simp] theorem refuse_limiter (stage title : String) (v : Validation) :
    (r.refuse m stage title v b).2.limiter = b.limiter := by
  simp [refuse]

@[simp] theorem fault_success (f : Fault) : (r.fault m f b).1.success = false := rfl

@[simp] theorem fault_outcome (f : Fault) : (r.fault m f b).1.outcome = .failed := rfl

@[simp] theorem fault_limiter (f : Fault) : (r.fault m f b).2.limiter = b.limiter := by
  simp [fault]

@[simp] theorem aborted_success (p : Panic) : (r.aborted m p b).1.success = false := rfl

@[simp] theorem aborted_limiter (p : Panic) : (r.aborted m p b).2.limiter = b.limiter := by
  simp [aborted]

@[simp] theorem close_success (report : Report) :
    (r.close m report b).1.success = report.success := by
  simp [close]

@[simp] theorem close_limiter (report : Report) :
    (r.close m report b).2.limiter = b.limiter := by
  simp [close]

end Record

/-! ## Up to the execution -/

namespace Service

/-- The checks before execution let a ticket through, or are skipped. -/
def clears (s : Service Q A) (t : Ticket) : Bool :=
  t.options.skipPreValidation || (s.pre.validate (t.context none)).passed

end Service

/-- The limiter admits a ticket, or is not asked. -/
def Ticket.affords (t : Ticket) (l : Limiter) (now : Time.Instant) : Bool :=
  t.options.skipBlastRadius || (l.tryAcquire now (l.keyFor t.incident)).1.isGranted

/-- Nothing stops a ticket before its execution. -/
def Service.Executes (s : Service Q A) (t : Ticket) (l : Limiter) (now : Time.Instant) : Prop :=
  s.clears t = true ∧ (∃ r, s.registry.resolve t.incident t.plan = .ok r) ∧
    t.affords l now = true

/-- How a call can begin. -/
inductive Received (s : Service Q A) (m : Moment) (t : Ticket) (b : Board) :
    Next (Execution Q A) × Board → Prop where
  | refused {report : Report} {b' : Board} (stopped : s.clears t = false)
      (failed : report.success = false) (rejected : report.outcome = .rejected)
      (limiter : b'.limiter = b.limiter) : Received s m t b (.ended report, b')
  | unresolved {report : Report} {b' : Board} {f : Fault} (cleared : s.clears t = true)
      (none : s.registry.resolve t.incident t.plan = .error f)
      (failed : report.success = false) (outcome : report.outcome = .failed)
      (limiter : b'.limiter = b.limiter) : Received s m t b (.ended report, b')
  | exhausted {report : Report} {b' : Board} {remediator : Remediator Q A}
      (cleared : s.clears t = true)
      (found : s.registry.resolve t.incident t.plan = .ok remediator)
      (denied : t.affords b.limiter m.date = false)
      (failed : report.success = false) (rejected : report.outcome = .rejected)
      (limiter : b'.limiter = (b.limiter.enter m.date (b.limiter.keyFor t.incident)).2) :
      Received s m t b (.ended report, b')
  | unmetered {e : Execution Q A} {b' : Board} (cleared : s.clears t = true)
      (found : s.registry.resolve t.incident t.plan = .ok e.remediator)
      (ticket : e.record.ticket = t) (skipped : t.options.skipBlastRadius = true)
      (permit : e.permit = none) (limiter : b'.limiter = b.limiter) :
      Received s m t b (.waiting e, b')
  | granted {e : Execution Q A} {b' : Board} (cleared : s.clears t = true)
      (found : s.registry.resolve t.incident t.plan = .ok e.remediator)
      (ticket : e.record.ticket = t) (asked : t.options.skipBlastRadius = false)
      (passed : (b.limiter.validate m.date (b.limiter.keyFor t.incident)).1.passed = true)
      (permit : e.permit = some (.fresh (b.limiter.keyFor t.incident)))
      (limiter : b'.limiter = b.limiter.recordStart m.date (b.limiter.keyFor t.incident)) :
      Received s m t b (.waiting e, b')

theorem Ticket.affords_of_skipped {t : Ticket} (skipped : t.options.skipBlastRadius = true)
    (l : Limiter) (now : Time.Instant) : t.affords l now = true := by
  simp [affords, skipped]

theorem Ticket.affords_of_asked {t : Ticket} (asked : t.options.skipBlastRadius = false)
    (l : Limiter) (now : Time.Instant) :
    t.affords l now = (l.validate now (l.keyFor t.incident)).1.passed := by
  simp [affords, asked, Limiter.tryAcquire_isGranted]

theorem Ticket.not_afforded {t : Ticket} {l : Limiter} {now : Time.Instant}
    (denied : t.affords l now = false) : t.options.skipBlastRadius = false ∧
      ¬ (l.validate now (l.keyFor t.incident)).1.passed = true := by
  rw [affords] at denied
  rw [Bool.or_eq_false_iff, Limiter.tryAcquire_isGranted] at denied
  exact ⟨denied.1, Bool.eq_false_iff.1 denied.2⟩

namespace Record

variable {s : Service Q A} {m : Moment} {t : Ticket} {b b' : Board} {r : Record}
  {remediator : Remediator Q A}

theorem blastRadiusGate_received (ticket : r.ticket = t) (same : b'.limiter = b.limiter)
    (cleared : s.clears t = true)
    (found : s.registry.resolve t.incident t.plan = .ok remediator) :
    Received s m t b (r.blastRadiusGate m remediator b') := by
  subst ticket
  rw [blastRadiusGate]
  by_cases skipped : r.ticket.options.skipBlastRadius = true
  · rw [if_pos skipped]
    exact .unmetered cleared found rfl skipped rfl same
  · have asked : r.ticket.options.skipBlastRadius = false := Bool.eq_false_iff.2 skipped
    have affords := Ticket.affords_of_asked asked b.limiter m.date
    have eq := b.limiter.tryAcquire_eq m.date (b.limiter.keyFor r.ticket.incident)
    rw [if_neg skipped]
    by_cases passed : (b.limiter.validate m.date (b.limiter.keyFor r.ticket.incident)).1.passed
    · rw [if_pos passed] at eq
      simp only [same, eq]
      exact .granted cleared found rfl asked passed rfl rfl
    · rw [if_neg passed] at eq
      simp only [same, eq]
      refine .exhausted cleared found ?_ ?_ ?_ ?_
      · rw [affords]
        exact Bool.eq_false_iff.2 passed
      · exact refuse_success ..
      · exact refuse_outcome ..
      · exact refuse_limiter ..

theorem resolve_received (ticket : r.ticket = t) (same : b'.limiter = b.limiter)
    (cleared : s.clears t = true) : Received s m t b (r.resolve s m b') := by
  rw [resolve]
  cases found : s.registry.resolve r.ticket.incident r.ticket.plan with
  | error f =>
    rw [ticket] at found
    exact .unresolved cleared found (fault_success ..) (fault_outcome ..)
      ((fault_limiter ..).trans same)
  | ok remediator =>
    rw [ticket] at found
    exact blastRadiusGate_received ticket same cleared found

end Record

theorem Service.receive_received (s : Service Q A) (m : Moment) (t : Ticket) (b : Board) :
    Received s m t b (s.receive m t b) := by
  rw [receive]
  by_cases skipped : t.options.skipPreValidation = true
  · have cleared : s.clears t = true := by simp [clears, skipped]
    simp only [if_pos skipped]
    exact Record.resolve_received rfl rfl cleared
  · simp only [if_neg skipped]
    by_cases passed : (s.pre.validate (t.context none)).passed = true
    · have cleared : s.clears t = true := by simp [clears, passed]
      simp only [if_pos passed]
      exact Record.resolve_received rfl rfl cleared
    · have stopped : s.clears t = false := by simp [clears, skipped, passed]
      simp only [if_neg passed]
      exact .refused stopped (Record.refuse_success ..) (Record.refuse_outcome ..)
        (Record.refuse_limiter ..)

theorem Service.executes_of_waiting {s : Service Q A} {m : Moment} {t : Ticket} {b b' : Board}
    {e : Execution Q A} (received : Received s m t b (.waiting e, b')) :
    s.Executes t b.limiter m.date := by
  cases received with
  | unmetered cleared found _ skipped =>
    exact ⟨cleared, ⟨_, found⟩, Ticket.affords_of_skipped skipped _ _⟩
  | granted cleared found _ asked passed =>
    exact ⟨cleared, ⟨_, found⟩, (Ticket.affords_of_asked asked _ _).trans passed⟩

theorem Service.not_executes_of_ended {s : Service Q A} {m : Moment} {t : Ticket} {b b' : Board}
    {report : Report} (received : Received s m t b (.ended report, b')) :
    ¬ s.Executes t b.limiter m.date := by
  rintro ⟨cleared, ⟨r, found⟩, afforded⟩
  cases received with
  | refused stopped =>
    rw [stopped] at cleared
    cases cleared
  | unresolved _ none =>
    rw [none] at found
    cases found
  | exhausted _ _ denied =>
    rw [denied] at afforded
    cases afforded

/-! ## After the execution -/

@[simp] theorem Report.handedOn_success (report : Report) :
    report.handedOn.success = report.success := rfl

/-- The checks after execution let a result through, or are skipped. -/
def Service.confirms (s : Service Q A) (t : Ticket) (returned : Report) : Bool :=
  t.options.skipPostValidation ||
    (s.post.validate (t.context (some returned.handedOn))).passed

/-- How a call can go on when its execution is over. -/
inductive Settled (s : Service Q A) (e : Execution Q A) (outcome : Except Panic Report)
    (b : Board) : Next (Undo Q A) × Board → Prop where
  | panicked {report : Report} {b' : Board} {p : Panic} (broke : outcome = .error p)
      (failed : report.success = false) (limiter : b'.limiter = (b.drop e.permit).limiter) :
      Settled s e outcome b (.ended report, b')
  | ended {report : Report} {b' : Board} {returned : Report} (came : outcome = .ok returned)
      (success : report.success = true →
        returned.success = true ∧ s.confirms e.record.ticket returned = true)
      (limiter : b'.limiter = (b.finish e.permit returned.success).limiter) :
      Settled s e outcome b (.ended report, b')
  | undoing {u : Undo Q A} {b' : Board} {returned : Report} (came : outcome = .ok returned)
      (ticket : u.record.ticket = e.record.ticket)
      (offered : e.remediator.rollback = some u.rollback) (failed : u.report.success = false)
      (limiter : b'.limiter = (b.finish e.permit returned.success).limiter) :
      Settled s e outcome b (.waiting u, b')

namespace Record

variable {s : Service Q A} {m : Moment} {e : Execution Q A} {b b' : Board} {r : Record}
  {report returned : Report}

theorem attemptRollback_settled (ticket : r.ticket = e.record.ticket)
    (failed : report.success = false)
    (same : b'.limiter = (b.finish e.permit returned.success).limiter) :
    Settled s e (.ok returned) b (r.attemptRollback m e.remediator report b') := by
  rw [attemptRollback]
  cases offered : e.remediator.rollback with
  | none =>
    refine .ended rfl ?_ ((close_limiter ..).trans same)
    intro success
    rw [close_success] at success
    exact absurd success (Bool.eq_false_iff.1 failed)
  | some rollback => exact .undoing rfl ticket offered failed same

theorem postValidate_settled (ticket : r.ticket = e.record.ticket)
    (success : returned.success = true)
    (same : b'.limiter = (b.finish e.permit returned.success).limiter) :
    Settled s e (.ok returned) b (r.postValidate s m e.remediator returned.handedOn b') := by
  rw [postValidate]
  by_cases passed : (s.post.validate (r.ticket.context (some returned.handedOn))).passed = true
  · simp only [if_pos passed]
    refine .ended rfl (fun _ => ⟨success, ?_⟩) ((close_limiter ..).trans same)
    rw [ticket] at passed
    simp [Service.confirms, passed]
  · simp only [if_neg passed]
    split
    · exact attemptRollback_settled ticket rfl same
    · refine .ended rfl ?_ ((close_limiter ..).trans same)
      intro fine
      rw [close_success] at fine
      cases fine

end Record

theorem Execution.settle_settled (e : Execution Q A) (s : Service Q A) (m : Moment)
    (outcome : Except Panic Report) (b : Board) :
    Settled s e outcome b (e.settle s m outcome b) := by
  cases outcome with
  | error p =>
    exact .panicked rfl (Record.aborted_success ..) (Record.aborted_limiter ..)
  | ok returned =>
    simp only [settle]
    by_cases undone : (!returned.handedOn.success && returned.handedOn.rollbackRequired) = true
    · rw [if_pos undone]
      rw [Bool.and_eq_true, Bool.not_eq_true'] at undone
      exact Record.attemptRollback_settled (Record.executed_ticket ..) undone.1 rfl
    · rw [if_neg undone]
      by_cases checked : (returned.handedOn.success &&
          !(e.record.executed m returned).ticket.options.skipPostValidation) = true
      · rw [if_pos checked]
        rw [Bool.and_eq_true] at checked
        exact Record.postValidate_settled (Record.executed_ticket ..) checked.1 rfl
      · rw [if_neg checked]
        refine .ended rfl ?_ (Record.close_limiter ..)
        intro success
        rw [Record.close_success, Report.handedOn_success] at success
        refine ⟨success, ?_⟩
        simp only [Report.handedOn_success, success, Record.executed_ticket] at checked
        simp [Service.confirms] at checked ⊢
        exact .inl checked

@[simp] theorem Undo.settle_limiter (u : Undo Q A) (m : Moment)
    (outcome : Except Panic (Except Fault String)) (b : Board) :
    (u.settle m outcome b).2.limiter = b.limiter := by
  rcases outcome with p | f | description
  · exact Record.aborted_limiter ..
  · simp [settle]
  · simp [settle]

/-- A rollback makes no success of a failure. -/
theorem Undo.settle_success (u : Undo Q A) (m : Moment)
    (outcome : Except Panic (Except Fault String)) (b : Board)
    (failed : u.report.success = false) : (u.settle m outcome b).1.success = false := by
  rcases outcome with p | f | description
  · exact Record.aborted_success ..
  · simp [settle, failed]
  · simp [settle, failed]

end Remedy
