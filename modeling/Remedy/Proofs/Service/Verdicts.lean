import Remedy.Proofs.Service.Gates

/-!
# Verdicts

A dry run gives the verdicts of both gates. A call has every verdict that it has got to, in its
report when a gate stops it and in what it takes to its execution otherwise. Both ask the gates the
same, so a dry run passes just when neither gate would stop the call.
-/

namespace Remedy

variable {Q : Type} {A : Q → Type}

/-! ## What a dry run says -/

namespace PlanValidation

@[simp] theorem ofDetails_details (action : ActionType) (details : Dict Validation) :
    (ofDetails action details).details = details := by
  simp only [ofDetails]
  split <;> rfl

theorem ofDetails_passed (action : ActionType) (details : Dict Validation) :
    (ofDetails action details).passed = true ↔
      ∀ stage v, details.get? stage = some v → v.passed = true := by
  have none : (details.filter fun _ v => !v.passed).keys.isEmpty = true ↔
      ∀ stage v, details.get? stage = some v → v.passed = true := by
    rw [Dict.keys_isEmpty_iff]
    simp [Dict.get?_filter, Option.filter_eq_none_iff]
  rw [← none]
  simp only [ofDetails]
  split
  · next empty => simp [empty]
  · next some => simp [some]

end PlanValidation

/-- The verdict of the checks before execution, unless the caller skips them. -/
def Service.checked? (s : Service Q A) (t : Ticket) : Option Validation :=
  if t.options.skipPreValidation then none else some (s.pre.validate (t.context none))

/-- The verdict of the limiter, unless the caller skips it. -/
def Ticket.budgeted? (t : Ticket) (l : Limiter) (now : Time.Instant) : Option Validation :=
  if t.options.skipBlastRadius then none else some (l.validate now (l.keyFor t.incident)).1

theorem Service.clears_iff {s : Service Q A} {t : Ticket} :
    s.clears t = true ↔ ∀ v, s.checked? t = some v → v.passed = true := by
  rw [clears, checked?]
  by_cases skipped : t.options.skipPreValidation = true
  · simp [skipped]
  · simp [skipped]

theorem Ticket.affords_iff {t : Ticket} {l : Limiter} {now : Time.Instant} :
    t.affords l now = true ↔ ∀ v, t.budgeted? l now = some v → v.passed = true := by
  rw [budgeted?]
  cases skipped : t.options.skipBlastRadius with
  | true => simp [affords_of_skipped skipped]
  | false => simp [affords_of_asked skipped]

namespace Service

variable (s : Service Q A) (now : Time.Instant) (t : Ticket) (b : Board)

/-- A dry run has the verdicts of the two gates and no other. -/
theorem validatePlan_details (stage : String) :
    (s.validatePlan now t b).1.details.get? stage =
      if stage = Stage.blastRadius then t.budgeted? b.limiter now
      else if stage = Stage.preValidation then s.checked? t else none := by
  have checks : (if t.options.skipPreValidation then Dict.empty
      else Dict.empty.insert Stage.preValidation (s.pre.validate (t.context none))).get? stage =
      if stage = Stage.preValidation then s.checked? t else none := by
    rw [checked?]
    split
    · split <;> rfl
    · exact Dict.get?_insert ..
  have apart : (if Stage.blastRadius = Stage.preValidation then s.checked? t else none) = none :=
    if_neg (by decide)
  rw [validatePlan, Ticket.budgeted?]
  dsimp only
  split
  · rw [PlanValidation.ofDetails_details, checks]
    by_cases blast : stage = Stage.blastRadius
    · rw [if_pos blast, blast, apart]
    · rw [if_neg blast]
  · rw [PlanValidation.ofDetails_details, Dict.get?_insert, checks]

theorem validatePlan_passed :
    (s.validatePlan now t b).1.passed = true ↔
      s.clears t = true ∧ t.affords b.limiter now = true := by
  have made : (s.validatePlan now t b).1.passed = true ↔
      ∀ stage v, (s.validatePlan now t b).1.details.get? stage = some v → v.passed = true := by
    rw [validatePlan]
    dsimp only
    split <;> rw [PlanValidation.ofDetails_passed, PlanValidation.ofDetails_details]
  rw [made, clears_iff, Ticket.affords_iff]
  constructor
  · intro all
    have apart : Stage.preValidation ≠ Stage.blastRadius := by decide
    constructor
    · intro v held
      apply all Stage.preValidation
      rw [validatePlan_details, if_neg apart, if_pos rfl]
      exact held
    · intro v held
      apply all Stage.blastRadius
      rw [validatePlan_details, if_pos rfl]
      exact held
  · rintro ⟨checked, budgeted⟩ stage v held
    rw [validatePlan_details] at held
    split at held
    · exact budgeted v held
    · split at held
      · exact checked v held
      · cases held

end Service

/-! ## What a call keeps -/

/-- A verdict that the end of a call reports, or that the call takes with it. -/
def Next.Keeps {W : Type} (record : W → Record) (stage : String) (verdict : Option Validation) :
    Next W → Prop
  | .ended report => report.validationDetails.get? stage = verdict
  | .waiting w => (record w).details.get? stage = verdict

namespace Record

variable {r : Record} {stage : String} (m : Moment) (b : Board)

theorem verdict_details (r : Record) (at_ : String) (v : Validation) (stage : String) :
    (r.verdict m at_ v).details.get? stage =
      if stage = at_ then some v else r.details.get? stage :=
  Dict.get?_insert ..

@[simp] theorem executed_details (report : Report) :
    (r.executed m report).details = r.details := by
  simp only [executed]
  split <;> rfl

theorem finish_details (r : Record) (report : Report) (stage : String) :
    (r.finish m report b).1.validationDetails.get? stage =
      (r.details.get? stage).or (report.validationDetails.get? stage) :=
  Dict.get?_union ..

/-- A report that is made when nothing was returned has the verdicts of the call only. -/
theorem finish_details_of_empty (r : Record) {report : Report}
    (empty : report.validationDetails = Dict.empty) (stage : String) :
    (r.finish m report b).1.validationDetails.get? stage = r.details.get? stage := by
  rw [finish_details, empty]
  exact Option.or_none

@[simp] theorem refuse_details (at_ title : String) (v : Validation) :
    (r.refuse m at_ title v b).1.validationDetails.get? stage = r.details.get? stage :=
  r.finish_details_of_empty m _ rfl stage

@[simp] theorem fault_details (f : Fault) :
    (r.fault m f b).1.validationDetails.get? stage = r.details.get? stage :=
  (r.add m .error Stage.orchestrator f.text).finish_details_of_empty m _ rfl stage

@[simp] theorem aborted_details (p : Panic) :
    (r.aborted m p b).1.validationDetails.get? stage = r.details.get? stage :=
  (r.add m .error Stage.orchestrator _).finish_details_of_empty m _ rfl stage

/-! ### Up to the execution -/

theorem blastRadiusGate_keeps (other : stage ≠ Stage.blastRadius) (remediator : Remediator Q A) :
    (r.blastRadiusGate m remediator b).1.Keeps Execution.record stage (r.details.get? stage) := by
  have same (v : Validation) :
      (r.verdict m Stage.blastRadius v).details.get? stage = r.details.get? stage := by
    rw [verdict_details, if_neg other]
  simp only [blastRadiusGate]
  split
  · rfl
  · split
    · exact (refuse_details ..).trans (same _)
    · exact same _

theorem resolve_keeps (other : stage ≠ Stage.blastRadius) (s : Service Q A) :
    (r.resolve s m b).1.Keeps Execution.record stage (r.details.get? stage) := by
  rw [resolve]
  split
  · exact fault_details ..
  · exact blastRadiusGate_keeps m b other _

/-- The limiter's verdict is kept whichever way it goes. -/
theorem blastRadiusGate_verdict (unasked : r.details.get? Stage.blastRadius = none)
    (remediator : Remediator Q A) :
    (r.blastRadiusGate m remediator b).1.Keeps Execution.record Stage.blastRadius
      (r.ticket.budgeted? b.limiter m.date) := by
  have said := b.limiter.tryAcquire_validation m.date (b.limiter.keyFor r.ticket.incident)
  have own (v : Validation) :
      (r.verdict m Stage.blastRadius v).details.get? Stage.blastRadius = some v := by
    rw [verdict_details, if_pos rfl]
  rw [Ticket.budgeted?, ← said]
  simp only [blastRadiusGate]
  split
  · exact unasked
  · split
    · exact (refuse_details ..).trans (own _)
    · exact own _

end Record

namespace Service

variable (s : Service Q A) (m : Moment) (t : Ticket) (b : Board)

theorem receive_preValidation :
    (s.receive m t b).1.Keeps Execution.record Stage.preValidation (s.checked? t) := by
  have apart : Stage.preValidation ≠ Stage.blastRadius := by decide
  simp only [receive, checked?]
  split
  · exact Record.resolve_keeps m _ apart s
  · have own : ((Record.fresh t m.ms).verdict m Stage.preValidation
        (s.pre.validate (t.context none))).details.get? Stage.preValidation =
        some (s.pre.validate (t.context none)) := by
      rw [Record.verdict_details, if_pos rfl]
    rw [← own]
    split
    · exact Record.resolve_keeps m _ apart s
    · exact Record.refuse_details ..

/-- The limiter is asked when the checks let the ticket through and its remediator is found. -/
def reachesLimiter (t : Ticket) : Bool :=
  s.clears t && (s.registry.resolve t.incident t.plan).isOk

theorem resolve_blastRadius {r : Record} (unasked : r.details.get? Stage.blastRadius = none) :
    (r.resolve s m b).1.Keeps Execution.record Stage.blastRadius
      (if (s.registry.resolve r.ticket.incident r.ticket.plan).isOk then
        r.ticket.budgeted? b.limiter m.date else none) := by
  rw [Record.resolve]
  cases s.registry.resolve r.ticket.incident r.ticket.plan with
  | error f => exact (Record.fault_details ..).trans unasked
  | ok remediator => exact Record.blastRadiusGate_verdict m b unasked remediator

theorem receive_blastRadius :
    (s.receive m t b).1.Keeps Execution.record Stage.blastRadius
      (if s.reachesLimiter t then t.budgeted? b.limiter m.date else none) := by
  have checked (v : Validation) :
      ((Record.fresh t m.ms).verdict m Stage.preValidation v).details.get? Stage.blastRadius =
        none := by
    rw [Record.verdict_details, if_neg (by decide)]
    rfl
  simp only [receive, reachesLimiter, clears]
  by_cases skipped : t.options.skipPreValidation = true
  · simp only [skipped, if_true, Bool.true_or, Bool.true_and]
    exact s.resolve_blastRadius m _ rfl
  · by_cases passed : (s.pre.validate (t.context none)).passed = true
    · simp only [skipped, passed, if_true, Bool.or_true, Bool.true_and]
      exact s.resolve_blastRadius m _ (checked _)
    · simp only [skipped, passed, Bool.or_false, Bool.false_and]
      exact (Record.refuse_details ..).trans (checked _)

end Service

end Remedy
