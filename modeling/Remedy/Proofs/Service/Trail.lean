import Mathlib.Data.List.Basic
import Remedy.Proofs.Service.Deeds
import Remedy.Proofs.Service.Notes
import Remedy.Proofs.Service.Verdicts

/-!
# The trail of a call

However a call ends, its report says how it came to that end. The log has what every leg of the call
logs, one leg after the other, and a last entry of the service's own when a leg broke off. For every
stage that ran there is the verdict that the service came to, whatever the remediator returned under
the name of that stage.
-/

namespace Remedy

variable {Q : Type} {A : Q → Type} {σ : Type}

/-- A leg of a call, with the moment it was over and what came of it. -/
inductive Leg where
  /-- Up to the execution, with the limiter as it was found. -/
  | gates (m : Moment) (limiter : Limiter)
  | execution (m : Moment) (outcome : Except Panic Report)
  | rollback (m : Moment) (outcome : Except Panic (Except Fault String))

namespace Leg

def returned? : Leg → Option Report
  | execution _ (.ok returned) => some returned
  | execution _ (.error _) | gates _ _ | rollback _ _ => none

def losesResult : Leg → Bool
  | rollback _ (.error _) => true
  | rollback _ (.ok _) | gates _ _ | execution _ _ => false

/-- The result of the remediator that the report is made from. A rollback that
breaks off loses it. -/
def kept? (legs : List Leg) : Option Report :=
  if legs.any losesResult then none else legs.findSome? returned?

theorem kept?_rollback_ok (legs : List Leg) (m : Moment) (undone : Except Fault String) :
    kept? (legs ++ [rollback m (.ok undone)]) = kept? legs := by
  simp [kept?, losesResult, returned?]

theorem kept?_rollback_error (legs : List Leg) (m : Moment) (p : Panic) :
    kept? (legs ++ [rollback m (.error p)]) = none := by
  simp [kept?, losesResult]

end Leg

/-! ## What the stages say -/

/-- The verdict on a result. Successes are checked, unless the caller skips that. -/
def Service.reviewed? (s : Service Q A) (t : Ticket) (returned : Report) : Option Validation :=
  if returned.success && !t.options.skipPostValidation then
    some (s.post.validate (t.context (some returned.handedOn)))
  else none

/-- The verdict of a stage that runs in a leg. -/
def Service.verdict? (s : Service Q A) (t : Ticket) (stage : String) : Leg → Option Validation
  | .gates m l =>
    if stage = Stage.preValidation then s.checked? t
    else if stage = Stage.blastRadius ∧ s.reachesLimiter t = true then t.budgeted? l m.date
    else none
  | .execution _ (.ok returned) =>
    if stage = Stage.postValidation then s.reviewed? t returned else none
  | .execution _ (.error _) | .rollback _ _ => none

/-- The stages that run. -/
inductive Service.Runs (s : Service Q A) (t : Ticket) (legs : List Leg) : String → Prop where
  | preValidation (asked : t.options.skipPreValidation = false) : Runs s t legs Stage.preValidation
  | blastRadius (reached : s.reachesLimiter t = true) (asked : t.options.skipBlastRadius = false) :
      Runs s t legs Stage.blastRadius
  | postValidation {m : Moment} {returned : Report} (came : .execution m (.ok returned) ∈ legs)
      (success : returned.success = true) (asked : t.options.skipPostValidation = false) :
      Runs s t legs Stage.postValidation

/-! ## What is logged -/

namespace Moment

variable (m : Moment)

def verdictEntry (stage : String) (v : Validation) : LogEntry :=
  ⟨m.date, if v.passed then .info else .error, stage, v.message⟩

/-- A gate is logged with its verdict, or as skipped. -/
def gateEntry (stage skipped : String) : Option Validation → LogEntry
  | some v => m.verdictEntry stage v
  | none => ⟨m.date, .warn, stage, skipped⟩

def startEntry (t : Ticket) (l : Limiter) : LogEntry :=
  ⟨m.date, .info, Stage.execution,
    "executing " ++ t.plan.actionType.name ++ " against " ++ (l.keyFor t.incident).text⟩

def endEntry (returned : Report) : LogEntry :=
  if returned.success then ⟨m.date, .info, Stage.execution, returned.message⟩
  else ⟨m.date, .error, Stage.execution,
    returned.message ++ ": " ++ returned.errorMessage.getD "no error detail"⟩

def errorEntry (text : String) : LogEntry := ⟨m.date, .error, Stage.orchestrator, text⟩

end Moment

namespace Ticket

variable (t : Ticket) (m : Moment)

/-- The note that checks after the execution were skipped. -/
def skipEntries : List LogEntry :=
  if t.options.skipPostValidation then
    [⟨m.date, .warn, Stage.postValidation, "post-validation skipped by caller"⟩]
  else []

/-- What is logged of a rollback that was tried. -/
def rollbackEntries : Except Panic (Except Fault String) → List LogEntry
  | .error p => [m.errorEntry ("remediation panicked: " ++ p.message)]
  | .ok (.error f) =>
    ⟨m.date, .error, Stage.rollback, "rollback failed: " ++ f.text⟩ :: t.skipEntries m
  | .ok (.ok description) =>
    ⟨m.date, .info, Stage.rollback, "rollback performed: " ++ description⟩ :: t.skipEntries m

end Ticket

namespace Service

variable (s : Service Q A) (t : Ticket) (m : Moment)

/-- The limiter is asked, and then the execution starts. -/
def budgetEntries (l : Limiter) : List LogEntry :=
  m.gateEntry Stage.blastRadius "blast-radius check skipped by caller" (t.budgeted? l m.date) ::
    if t.affords l m.date then [m.startEntry t l] else []

/-- The checks before execution, and then the limiter if a remediator is found. -/
def gateEntries (l : Limiter) : List LogEntry :=
  m.gateEntry Stage.preValidation "pre-validation skipped by caller" (s.checked? t) ::
    if s.clears t then
      match s.registry.resolve t.incident t.plan with
      | .error f => [m.errorEntry f.text]
      | .ok _ => budgetEntries t m l
    else []

/-- The remediator of a ticket can roll back. -/
def reversible : Bool :=
  match s.registry.resolve t.incident t.plan with
  | .error _ => false
  | .ok remediator => remediator.rollback.isSome

/-- A result is to be rolled back. -/
def undoes (returned : Report) : Bool :=
  if returned.success then
    (s.reviewed? t returned).any (!·.passed) && t.plan.requiresRollbackSnapshot
  else returned.rollbackRequired

/-- What is logged when nothing is left to do but a rollback that the remediator has. -/
def closingEntries (undoes : Bool) : List LogEntry :=
  if undoes then
    if s.reversible t then []
    else ⟨m.date, .info, Stage.rollback, "rollback not applicable to " ++ t.plan.actionType.name⟩ ::
      t.skipEntries m
  else t.skipEntries m

/-- The entries of the remediator, how it ended, and what is made of its result. -/
def executionEntries : Except Panic Report → List LogEntry
  | .error p => [m.errorEntry ("remediation panicked: " ++ p.message)]
  | .ok returned =>
    returned.executionLogs ++ m.endEntry returned ::
      ((s.reviewed? t returned).toList.map (m.verdictEntry Stage.postValidation) ++
        s.closingEntries t m (s.undoes t returned))

/-- What a leg logs. -/
def entries : Leg → List LogEntry
  | .gates m l => s.gateEntries t m l
  | .execution m outcome => s.executionEntries t m outcome
  | .rollback m outcome => t.rollbackEntries m outcome

/-- A leg ends in an error of the service, or breaks off. -/
def breaks : Leg → Bool
  | .gates _ _ => s.clears t && !(s.registry.resolve t.incident t.plan).isOk
  | .execution _ outcome => !outcome.isOk
  | .rollback _ outcome => !outcome.isOk

end Service

/-- What a report tells of the legs of its call. -/
structure Report.Trails (report : Report) (s : Service Q A) (t : Ticket) (legs : List Leg) :
    Prop where
  log : report.executionLogs = legs.flatMap (s.entries t)
  verdicts : ∀ stage v, legs.findSome? (s.verdict? t stage) = some v →
    report.validationDetails.get? stage = some v
  /-- A stage that did not run has what the remediator returned for it. -/
  others : ∀ stage, legs.findSome? (s.verdict? t stage) = none →
    report.validationDetails.get? stage = (Leg.kept? legs).bind (·.validationDetails.get? stage)
  stages : (∀ returned, Leg.kept? legs = some returned → returned.validationDetails = Dict.empty) →
    ∀ stage, report.validationDetails.contains stage = true ↔ s.Runs t legs stage
  broken : report.executionLogs.getLast?.map (·.stage) = some Stage.orchestrator ↔
    ∃ leg ∈ legs, s.breaks t leg = true

/-! ## Verdicts and last entries of legs -/

section Legs

variable {s : Service Q A} {t : Ticket} {legs : List Leg} {stage : String}

theorem Service.reviewed?_isSome_iff {returned : Report} :
    (s.reviewed? t returned).isSome = true ↔
      returned.success = true ∧ t.options.skipPostValidation = false := by
  rw [reviewed?]
  split
  · next asked => simpa using asked
  · next unasked => simpa using unasked

/-- The stages that run are those with a verdict. -/
theorem Service.verdicts_isSome_iff {m : Moment} {l : Limiter} (begun : .gates m l ∈ legs) :
    (legs.findSome? (s.verdict? t stage)).isSome = true ↔ s.Runs t legs stage := by
  rw [List.findSome?_isSome_iff]
  constructor
  · rintro ⟨leg, among, found⟩
    cases leg with
    | gates m l =>
      simp only [verdict?] at found
      split at found
      · next same =>
        subst same
        refine .preValidation ?_
        simpa [checked?] using found
      · split at found
        · next same =>
          obtain ⟨rfl, reached⟩ := same
          refine .blastRadius reached ?_
          simpa [Ticket.budgeted?] using found
        · cases found
    | execution m outcome =>
      cases outcome with
      | error p => cases found
      | ok returned =>
        simp only [verdict?] at found
        split at found
        · next same =>
          subst same
          obtain ⟨success, asked⟩ := reviewed?_isSome_iff.1 found
          exact .postValidation among success asked
        · cases found
    | rollback m outcome => cases found
  · intro runs
    cases runs with
    | preValidation asked =>
      exact ⟨_, begun, by simp [verdict?, checked?, asked]⟩
    | blastRadius reached asked =>
      have apart : Stage.blastRadius ≠ Stage.preValidation := by decide
      exact ⟨_, begun, by simp [verdict?, apart, reached, Ticket.budgeted?, asked]⟩
    | postValidation came success asked =>
      exact ⟨_, came, by simp [verdict?, reviewed?, success, asked]⟩

/-- No entry is an error of the service. -/
def Quiet (entries : List LogEntry) : Prop := ∀ e ∈ entries, e.stage ≠ Stage.orchestrator

theorem quiet_nil : Quiet [] := List.forall_mem_nil _

theorem quiet_cons {e : LogEntry} {entries : List LogEntry} (first : e.stage ≠ Stage.orchestrator)
    (rest : Quiet entries) : Quiet (e :: entries) :=
  List.forall_mem_cons.2 ⟨first, rest⟩

theorem Quiet.last {entries : List LogEntry} (quiet : Quiet entries) :
    entries.getLast?.map (·.stage) ≠ some Stage.orchestrator := by
  intro last
  obtain ⟨e, found, same⟩ := Option.map_eq_some_iff.1 last
  exact quiet e (List.mem_of_getLast? found) same

theorem Moment.gateEntry_stage (m : Moment) (skipped : String) (v : Option Validation) :
    (m.gateEntry stage skipped v).stage = stage := by
  cases v <;> rfl

theorem Moment.endEntry_stage (m : Moment) (returned : Report) :
    (m.endEntry returned).stage = Stage.execution := by
  rw [endEntry]
  split <;> rfl

theorem Ticket.quiet_skip (t : Ticket) (m : Moment) : Quiet (t.skipEntries m) := by
  have apart : Stage.postValidation ≠ Stage.orchestrator := by decide
  rw [skipEntries]
  split
  · exact quiet_cons apart quiet_nil
  · exact quiet_nil

theorem Ticket.quiet_rollback (t : Ticket) (m : Moment) (undone : Except Fault String) :
    Quiet (t.rollbackEntries m (.ok undone)) := by
  have apart : Stage.rollback ≠ Stage.orchestrator := by decide
  cases undone with
  | error f => exact quiet_cons apart (t.quiet_skip m)
  | ok description => exact quiet_cons apart (t.quiet_skip m)

namespace Service

variable (s t)

theorem quiet_closing (m : Moment) (undoes : Bool) : Quiet (s.closingEntries t m undoes) := by
  have apart : Stage.rollback ≠ Stage.orchestrator := by decide
  rw [closingEntries]
  split
  · split
    · exact quiet_nil
    · exact quiet_cons apart (t.quiet_skip m)
  · exact t.quiet_skip m

theorem quiet_budget (m : Moment) (l : Limiter) : Quiet (budgetEntries t m l) := by
  have started : Stage.execution ≠ Stage.orchestrator := by decide
  rw [budgetEntries]
  refine quiet_cons ?_ ?_
  · rw [Moment.gateEntry_stage]
    decide
  · split
    · exact quiet_cons started quiet_nil
    · exact quiet_nil

/-- Once an execution returned, the service has no error to log. -/
theorem quiet_returned (m : Moment) (returned : Report) :
    Quiet (m.endEntry returned ::
      ((s.reviewed? t returned).toList.map (m.verdictEntry Stage.postValidation) ++
        s.closingEntries t m (s.undoes t returned))) := by
  have apart : Stage.postValidation ≠ Stage.orchestrator := by decide
  refine quiet_cons ?_ fun e among => ?_
  · rw [Moment.endEntry_stage]
    decide
  · rcases List.mem_append.1 among with reviewed | closing
    · obtain ⟨v, -, rfl⟩ := List.mem_map.1 reviewed
      exact apart
    · exact s.quiet_closing t m _ e closing

/-- The last entry of a leg is an error of the service just when the leg breaks off. -/
theorem entries_getLast? (leg : Leg) :
    s.entries t leg ≠ [] ∧ ((s.entries t leg).getLast?.map (·.stage) = some Stage.orchestrator ↔
      s.breaks t leg = true) := by
  have whole {entries : List LogEntry} (quiet : Quiet entries) :
      entries.getLast?.map (·.stage) = some Stage.orchestrator ↔ false = true :=
    ⟨fun last => absurd last quiet.last, nofun⟩
  cases leg with
  | gates m l =>
    have first : (m.gateEntry Stage.preValidation "pre-validation skipped by caller"
        (s.checked? t)).stage ≠ Stage.orchestrator := by
      rw [Moment.gateEntry_stage]
      decide
    refine ⟨List.cons_ne_nil _ _, ?_⟩
    simp only [entries, gateEntries, breaks]
    cases s.clears t with
    | false => exact whole (quiet_cons first quiet_nil)
    | true =>
      cases s.registry.resolve t.incident t.plan with
      | error f => exact ⟨fun _ => rfl, fun _ => rfl⟩
      | ok remediator => exact whole (quiet_cons first (quiet_budget t m l))
  | execution m outcome =>
    cases outcome with
    | error p => exact ⟨List.cons_ne_nil _ _, fun _ => rfl, fun _ => rfl⟩
    | ok returned =>
      have some := List.cons_ne_nil (m.endEntry returned)
        ((s.reviewed? t returned).toList.map (m.verdictEntry Stage.postValidation) ++
          s.closingEntries t m (s.undoes t returned))
      refine ⟨List.append_ne_nil_of_right_ne_nil _ some, ?_⟩
      simp only [entries, executionEntries]
      rw [List.getLast?_append_of_ne_nil _ some]
      exact whole (s.quiet_returned t m returned)
  | rollback m outcome =>
    cases outcome with
    | error p => exact ⟨List.cons_ne_nil _ _, fun _ => rfl, fun _ => rfl⟩
    | ok undone =>
      refine ⟨?_, whole (t.quiet_rollback m undone)⟩
      cases undone <;> exact List.cons_ne_nil _ _

end Service

/-! ## What a call gathers -/

/-- What a call has gathered on its legs. -/
structure Record.Gathers (r : Record) (s : Service Q A) (t : Ticket) (legs : List Leg) : Prop where
  ticket : r.ticket = t
  log : r.log = legs.flatMap (s.entries t)
  details : ∀ stage, r.details.get? stage = legs.findSome? (s.verdict? t stage)
  begun : ∃ m l, .gates m l ∈ legs
  whole : ∀ leg ∈ legs, s.breaks t leg = false

/-- A report that is made from what was gathered, and from what the remediator returned. -/
theorem Report.trails_of_last {report : Report} {leg : Leg}
    (log : report.executionLogs = (legs ++ [leg]).flatMap (s.entries t))
    (details : ∀ stage, report.validationDetails.get? stage =
      ((legs ++ [leg]).findSome? (s.verdict? t stage)).or
        ((Leg.kept? (legs ++ [leg])).bind (·.validationDetails.get? stage)))
    (begun : ∃ m l, .gates m l ∈ legs ++ [leg]) (whole : ∀ x ∈ legs, s.breaks t x = false) :
    report.Trails s t (legs ++ [leg]) where
  log := log
  verdicts stage v found := by
    rw [details, found]
    rfl
  others stage none := by
    rw [details, none]
    rfl
  stages bare stage := by
    have empty : (Leg.kept? (legs ++ [leg])).bind (·.validationDetails.get? stage) = none := by
      rw [Option.bind_eq_none_iff]
      intro returned kept
      rw [bare returned kept]
      rfl
    obtain ⟨m, l, begun⟩ := begun
    rw [Dict.contains, details, empty, Option.or_none]
    exact s.verdicts_isSome_iff begun
  broken := by
    obtain ⟨some, last⟩ := s.entries_getLast? t leg
    have only : (∃ x ∈ legs ++ [leg], s.breaks t x = true) ↔ s.breaks t leg = true := by
      constructor
      · rintro ⟨x, among, broke⟩
        rcases List.mem_append.1 among with before | same
        · rw [whole x before] at broke
          cases broke
        · rw [← List.mem_singleton.1 same]
          exact broke
      · exact fun broke => ⟨leg, List.mem_append_right _ (List.mem_singleton_self _), broke⟩
    rw [log, only, ← last, List.flatMap_append, List.flatMap_singleton,
      List.getLast?_append_of_ne_nil _ some]

end Legs

/-! ## Up to the execution -/

/-- The log that a step leaves, in the report or with what it hands on. -/
def Next.Logs {W : Type} (record : W → Record) (log : List LogEntry) : Next W → Prop :=
  Leaves (fun report => report.executionLogs = log) fun w => (record w).log = log

section Gates

variable (s : Service Q A) (m : Moment) (b : Board)

theorem Record.blastRadiusGate_logs (r : Record) (remediator : Remediator Q A) :
    (r.blastRadiusGate m remediator b).1.Logs Execution.record
      (r.log ++ Service.budgetEntries r.ticket m b.limiter) := by
  have eq := b.limiter.tryAcquire_eq m.date (b.limiter.keyFor r.ticket.incident)
  simp only [blastRadiusGate, Service.budgetEntries]
  cases asked : r.ticket.options.skipBlastRadius with
  | true =>
    have unasked : r.ticket.budgeted? b.limiter m.date = none := by simp [Ticket.budgeted?, asked]
    rw [if_pos rfl, unasked, if_pos (Ticket.affords_of_skipped asked _ _)]
    exact List.append_assoc ..
  | false =>
    have verdict : r.ticket.budgeted? b.limiter m.date =
        some (b.limiter.validate m.date (b.limiter.keyFor r.ticket.incident)).1 := by
      simp [Ticket.budgeted?, asked]
    rw [if_neg Bool.false_ne_true, verdict, Ticket.affords_of_asked asked, eq]
    cases (b.limiter.validate m.date (b.limiter.keyFor r.ticket.incident)).1.passed with
    | true => exact List.append_assoc ..
    | false => exact rfl

theorem Record.resolve_logs (r : Record) :
    (r.resolve s m b).1.Logs Execution.record (r.log ++
      match s.registry.resolve r.ticket.incident r.ticket.plan with
      | .error f => [m.errorEntry f.text]
      | .ok _ => Service.budgetEntries r.ticket m b.limiter) := by
  rw [resolve]
  cases s.registry.resolve r.ticket.incident r.ticket.plan with
  | error f => exact rfl
  | ok remediator => exact r.blastRadiusGate_logs m b remediator

theorem Service.receive_logs (t : Ticket) :
    (s.receive m t b).1.Logs Execution.record (s.gateEntries t m b.limiter) := by
  simp only [receive, gateEntries, clears, checked?]
  by_cases skipped : t.options.skipPreValidation = true
  · simp only [skipped, if_true, Bool.true_or]
    exact Record.resolve_logs s m _ _
  · simp only [skipped, if_false, Bool.false_or, Bool.false_eq_true]
    by_cases passed : (s.pre.validate (t.context none)).passed = true
    · simp only [passed, if_true]
      exact Record.resolve_logs s m _ _
    · simp only [passed, if_false, Bool.false_eq_true]
      exact rfl

/-- A stage other than the gates has no verdict before the execution. -/
theorem Service.receive_unasked (t : Ticket) {stage : String}
    (unchecked : stage ≠ Stage.preValidation) (unbudgeted : stage ≠ Stage.blastRadius) :
    (s.receive m t b).1.Keeps Execution.record stage none := by
  have checked (v : Validation) :
      ((Record.fresh t m.ms).verdict m Stage.preValidation v).details.get? stage = none := by
    rw [Record.verdict_details, if_neg unchecked]
    rfl
  simp only [receive]
  split
  · exact Record.resolve_keeps m _ unbudgeted s
  · split
    · rw [← checked (s.pre.validate (t.context none))]
      exact Record.resolve_keeps m _ unbudgeted s
    · exact (Record.refuse_details ..).trans (checked _)

theorem Service.receive_verdicts (t : Ticket) (stage : String) :
    (s.receive m t b).1.Keeps Execution.record stage
      (s.verdict? t stage (.gates m b.limiter)) := by
  simp only [verdict?]
  split
  · next same =>
    subst same
    exact s.receive_preValidation m t b
  · next unchecked =>
    by_cases same : stage = Stage.blastRadius
    · subst same
      simp only [true_and]
      exact s.receive_blastRadius m t b
    · rw [if_neg fun both => same both.1]
      exact s.receive_unasked m b t unchecked same

/-- An execution that is about to start. -/
structure Execution.Trails (e : Execution Q A) (s : Service Q A) (t : Ticket) (legs : List Leg) :
    Prop where
  gathered : e.record.Gathers s t legs
  found : s.registry.resolve t.incident t.plan = .ok e.remediator
  first : ∃ m l, legs = [.gates m l]

theorem Service.receive_trails (t : Ticket) :
    (s.receive m t b).1.Leaves (Report.Trails · s t [.gates m b.limiter])
      (Execution.Trails · s t [.gates m b.limiter]) := by
  have logs := s.receive_logs m b t
  have verdicts (stage : String) := s.receive_verdicts m b t stage
  have received := s.receive_received m t b
  generalize s.receive m t b = next at logs verdicts received
  obtain ⟨report | e, b'⟩ := next
  · have trails : report.Trails s t ([] ++ [.gates m b.limiter]) := by
      refine Report.trails_of_last ?_ (fun stage => ?_) ⟨_, _, List.mem_singleton_self _⟩
        (List.forall_mem_nil _)
      · rw [List.nil_append, List.flatMap_singleton]
        exact logs
      · rw [List.nil_append, List.findSome?_singleton]
        exact (verdicts stage).trans Option.or_none.symm
    exact trails
  · have begun : e.record.ticket = t ∧
        s.registry.resolve t.incident t.plan = .ok e.remediator := by
      cases received with
      | unmetered _ found ticket => exact ⟨ticket, found⟩
      | granted _ found ticket => exact ⟨ticket, found⟩
    refine ⟨⟨begun.1, ?_, fun stage => ?_, ⟨_, _, List.mem_singleton_self _⟩, ?_⟩, begun.2, _, _,
      rfl⟩
    · rw [List.flatMap_singleton]
      exact logs
    · rw [List.findSome?_singleton]
      exact verdicts stage
    · rw [List.forall_mem_singleton, breaks, begun.2]
      exact Bool.and_false _

end Gates

/-! ## After the execution -/

/-- A step after an execution that returned: the log and the verdicts that it leaves. What the
remediator returned for other stages stays in the report. -/
def Next.Follows (log : List LogEntry) (verdicts : String → Option Validation) (returned : Report) :
    Next (Undo Q A) → Prop :=
  Leaves
    (fun report => report.executionLogs = log ∧ ∀ stage, report.validationDetails.get? stage =
      (verdicts stage).or (returned.validationDetails.get? stage))
    fun u => u.record.log = log ∧ (∀ stage, u.record.details.get? stage = verdicts stage) ∧
      u.report.validationDetails = returned.validationDetails

namespace Record

variable {s : Service Q A} (r : Record) (m : Moment) (b : Board)

theorem executed_log (returned : Report) :
    (r.executed m returned).log = r.log ++ (returned.executionLogs ++ [m.endEntry returned]) := by
  rw [← List.append_assoc]
  simp only [executed, Moment.endEntry]
  split <;> rfl

theorem close_log (report : Report) :
    (r.close m report b).1.executionLogs = r.log ++ r.ticket.skipEntries m := by
  simp only [close, Ticket.skipEntries]
  split
  · rfl
  · exact (List.append_nil _).symm

theorem close_details (report : Report) (stage : String) :
    (r.close m report b).1.validationDetails.get? stage =
      (r.details.get? stage).or (report.validationDetails.get? stage) := by
  simp only [close]
  split
  · exact finish_details m b (r.add m .warn Stage.postValidation _) report stage
  · exact finish_details m b r report stage

theorem close_follows (s : Service Q A) (report : Report) :
    Next.Follows (Q := Q) (A := A) (r.log ++ s.closingEntries r.ticket m false)
      (r.details.get? ·) report (ending (r.close m report b)).1 :=
  ⟨r.close_log m b report, r.close_details m b report⟩

theorem attemptRollback_follows {remediator : Remediator Q A}
    (found : s.registry.resolve r.ticket.incident r.ticket.plan = .ok remediator)
    (report : Report) :
    (r.attemptRollback m remediator report b).1.Follows
      (r.log ++ s.closingEntries r.ticket m true) (r.details.get? ·) report := by
  rw [attemptRollback]
  simp only [Service.closingEntries, if_true, Service.reversible, found]
  cases remediator.rollback with
  | none =>
    refine ⟨(close_log ..).trans (List.append_assoc ..), fun stage => ?_⟩
    exact close_details (r.add m .info Stage.rollback _) m b _ stage
  | some rollback => exact ⟨(List.append_nil _).symm, fun _ => rfl, rfl⟩

/-- A success is checked, and rolled back when the checks object and the plan asks for that. -/
theorem postValidate_follows {remediator : Remediator Q A} {returned : Report}
    (found : s.registry.resolve r.ticket.incident r.ticket.plan = .ok remediator)
    (success : returned.success = true) (asked : r.ticket.options.skipPostValidation = false) :
    (r.postValidate s m remediator returned.handedOn b).1.Follows
      (r.log ++ ((s.reviewed? r.ticket returned).toList.map (m.verdictEntry Stage.postValidation) ++
        s.closingEntries r.ticket m (s.undoes r.ticket returned)))
      (fun stage =>
        (if stage = Stage.postValidation then s.reviewed? r.ticket returned else none).or
          (r.details.get? stage)) returned := by
  have reviewed : s.reviewed? r.ticket returned =
      some (s.post.validate (r.ticket.context (some returned.handedOn))) := by
    simp [Service.reviewed?, success, asked]
  simp only [postValidate, Service.undoes, reviewed, success, if_true]
  generalize s.post.validate (r.ticket.context (some returned.handedOn)) = v
  have verdicts : ((r.verdict m Stage.postValidation v).details.get? ·) = fun stage =>
      (if stage = Stage.postValidation then some v else none).or (r.details.get? stage) := by
    funext stage
    rw [verdict_details]
    split <;> rfl
  have log (closing : List LogEntry) : (r.verdict m Stage.postValidation v).log ++ closing =
      r.log ++ ([m.verdictEntry Stage.postValidation v] ++ closing) := List.append_assoc ..
  rw [← verdicts, Option.toList_some, List.map_singleton, ← log]
  cases passed : v.passed with
  | true =>
    rw [if_pos rfl]
    simp only [Option.any_some, passed, Bool.not_true, Bool.false_and]
    exact close_follows (r.verdict m Stage.postValidation v) m b s returned.handedOn
  | false =>
    rw [if_neg Bool.false_ne_true]
    simp only [Option.any_some, passed, Bool.not_false, Bool.true_and]
    cases snapshot : (r.verdict m Stage.postValidation v).ticket.plan.requiresRollbackSnapshot with
    | true =>
      rw [if_pos rfl, show r.ticket.plan.requiresRollbackSnapshot = true from snapshot]
      exact attemptRollback_follows (r.verdict m Stage.postValidation v) m b found _
    | false =>
      rw [if_neg Bool.false_ne_true,
        show r.ticket.plan.requiresRollbackSnapshot = false from snapshot]
      exact close_follows (r.verdict m Stage.postValidation v) m b s _

end Record

theorem Execution.settle_follows {e : Execution Q A} {s : Service Q A} {t : Ticket}
    (ticket : e.record.ticket = t)
    (found : s.registry.resolve t.incident t.plan = .ok e.remediator) (m : Moment)
    (returned : Report) (b : Board) :
    (e.settle s m (.ok returned) b).1.Follows
      (e.record.log ++ s.executionEntries t m (.ok returned))
      (fun stage => (if stage = Stage.postValidation then s.reviewed? t returned else none).or
        (e.record.details.get? stage)) returned := by
  subst ticket
  have log (rest : List LogEntry) : (e.record.executed m returned).log ++ rest =
      e.record.log ++ (returned.executionLogs ++ m.endEntry returned :: rest) := by
    simp [Record.executed_log]
  have ticket := e.record.executed_ticket m returned
  have details := e.record.executed_details m returned
  rw [Service.executionEntries, ← log]
  simp only [settle, Report.handedOn_success, ticket]
  generalize e.record.executed m returned = r at ticket details
  rw [← ticket] at found ⊢
  rw [← details]
  have unreviewed (unasked : s.reviewed? r.ticket returned = none) (stage : String) :
      (if stage = Stage.postValidation then s.reviewed? r.ticket returned else none).or
        (r.details.get? stage) = r.details.get? stage := by
    rw [unasked, ite_self, Option.none_or]
  cases success : returned.success with
  | true =>
    simp only [Bool.not_true, Bool.false_and, Bool.true_and, if_neg Bool.false_ne_true]
    cases asked : r.ticket.options.skipPostValidation with
    | false => exact r.postValidate_follows m _ found success asked
    | true =>
      have unasked : s.reviewed? r.ticket returned = none := by simp [Service.reviewed?, asked]
      have kept : s.undoes r.ticket returned = false := by simp [Service.undoes, success, unasked]
      simp only [unreviewed unasked]
      rw [unasked, kept]
      exact r.close_follows m _ s returned.handedOn
  | false =>
    have unasked : s.reviewed? r.ticket returned = none := by simp [Service.reviewed?, success]
    have undoes : s.undoes r.ticket returned = returned.handedOn.rollbackRequired := by
      simp [Service.undoes, success, Report.handedOn]
    simp only [unreviewed unasked]
    simp only [unasked, undoes, Bool.not_false, Bool.true_and, Bool.false_and]
    cases returned.handedOn.rollbackRequired with
    | true => exact r.attemptRollback_follows m _ found returned.handedOn
    | false => exact r.close_follows m _ s returned.handedOn

/-- A rollback that is about to start. -/
structure Undo.Trails (u : Undo Q A) (s : Service Q A) (t : Ticket) (legs : List Leg) : Prop where
  gathered : u.record.Gathers s t legs
  kept : ∃ returned, Leg.kept? legs = some returned ∧
    u.report.validationDetails = returned.validationDetails

section Settle

variable {s : Service Q A} {t : Ticket} {legs : List Leg}

theorem flatMap_entries_append (leg : Leg) :
    (legs ++ [leg]).flatMap (s.entries t) = legs.flatMap (s.entries t) ++ s.entries t leg := by
  rw [List.flatMap_append, List.flatMap_singleton]

/-- A leg without a verdict leaves it at those before. -/
theorem findSome?_verdict_append {leg : Leg} {stage : String}
    (none : s.verdict? t stage leg = none) :
    (legs ++ [leg]).findSome? (s.verdict? t stage) = legs.findSome? (s.verdict? t stage) := by
  rw [List.findSome?_append, List.findSome?_singleton, none, Option.or_none]

/-- The checks after an execution are the only ones that can speak of that stage. -/
theorem Execution.Trails.verdicts {e : Execution Q A} (h : e.Trails s t legs) (m : Moment)
    (returned : Report) (stage : String) :
    (legs ++ [Leg.execution m (.ok returned)]).findSome? (s.verdict? t stage) =
      (if stage = Stage.postValidation then s.reviewed? t returned else none).or
        (legs.findSome? (s.verdict? t stage)) := by
  obtain ⟨m', l, rfl⟩ := h.first
  rw [List.findSome?_append, List.findSome?_singleton, List.findSome?_singleton]
  by_cases same : stage = Stage.postValidation
  · have unasked : s.verdict? t stage (.gates m' l) = none := by
      subst same
      simp [Service.verdict?, Stage.postValidation, Stage.preValidation, Stage.blastRadius]
    rw [unasked, Option.none_or, Option.or_none, Service.verdict?]
  · have unasked : s.verdict? t stage (.execution m (.ok returned)) = none := if_neg same
    rw [unasked, if_neg same, Option.or_none, Option.none_or]

theorem Execution.Trails.begun {e : Execution Q A} (h : e.Trails s t legs) (leg : Leg) :
    ∃ m l, .gates m l ∈ legs ++ [leg] := by
  obtain ⟨m, l, among⟩ := h.gathered.begun
  exact ⟨m, l, List.mem_append_left _ among⟩

theorem Execution.Trails.aborted {e : Execution Q A} (h : e.Trails s t legs) (m : Moment)
    (p : Panic) (b : Board) :
    (e.record.aborted m p b).1.Trails s t (legs ++ [.execution m (.error p)]) := by
  have lost : Leg.kept? (legs ++ [.execution m (.error p)]) = none := by
    obtain ⟨m', l, rfl⟩ := h.first
    rfl
  refine Report.trails_of_last ?_ (fun stage => ?_) (h.begun _) h.gathered.whole
  · rw [flatMap_entries_append, ← h.gathered.log]
    rfl
  · rw [findSome?_verdict_append rfl, ← h.gathered.details, lost]
    exact (Record.aborted_details ..).trans Option.or_none.symm

theorem Execution.Trails.settle {e : Execution Q A} (h : e.Trails s t legs) (m : Moment)
    (outcome : Except Panic Report) (b : Board) :
    (e.settle s m outcome b).1.Leaves (Report.Trails · s t (legs ++ [.execution m outcome]))
      (Undo.Trails · s t (legs ++ [.execution m outcome])) := by
  cases outcome with
  | error p => exact h.aborted m p _
  | ok returned =>
    have follows := Execution.settle_follows h.gathered.ticket h.found m returned b
    have ticket (u : Undo Q A) (b' : Board)
        (next : e.settle s m (.ok returned) b = (.waiting u, b')) : u.record.ticket = t := by
      obtain ⟨_, _, brings⟩ := Execution.settle_waiting next
      exact brings.ticket.trans h.gathered.ticket
    have kept : Leg.kept? (legs ++ [.execution m (.ok returned)]) = some returned := by
      obtain ⟨m', l, rfl⟩ := h.first
      rfl
    have log : (legs ++ [Leg.execution m (.ok returned)]).flatMap (s.entries t) =
        e.record.log ++ s.executionEntries t m (.ok returned) := by
      rw [flatMap_entries_append, h.gathered.log]
      rfl
    have verdicts (stage : String) := (h.verdicts m returned stage).trans
      (congrArg _ (h.gathered.details stage).symm)
    generalize e.settle s m (.ok returned) b = next at follows ticket
    obtain ⟨report | u, b'⟩ := next
    · refine Report.trails_of_last (follows.1.trans log.symm) (fun stage => ?_) (h.begun _)
        h.gathered.whole
      rw [verdicts, kept]
      exact follows.2 stage
    · obtain ⟨logged, details, own⟩ := follows
      refine ⟨⟨ticket u b' rfl, logged.trans log.symm, fun stage => ?_, h.begun _, ?_⟩, returned,
        kept, own⟩
      · rw [verdicts]
        exact details stage
      · intro leg among
        rcases List.mem_append.1 among with before | last
        · exact h.gathered.whole leg before
        · rw [List.mem_singleton.1 last]
          rfl

theorem Undo.Trails.settle {u : Undo Q A} (h : u.Trails s t legs) (m : Moment)
    (outcome : Except Panic (Except Fault String)) (b : Board) :
    (u.settle m outcome b).1.Trails s t (legs ++ [.rollback m outcome]) := by
  obtain ⟨returned, kept, own⟩ := h.kept
  have ticket := h.gathered.ticket
  have begun : ∃ m' l, .gates m' l ∈ legs ++ [.rollback m outcome] := by
    obtain ⟨m', l, among⟩ := h.gathered.begun
    exact ⟨m', l, List.mem_append_left _ among⟩
  have trails (log : (u.settle m outcome b).1.executionLogs =
        u.record.log ++ t.rollbackEntries m outcome)
      (details : ∀ stage, (u.settle m outcome b).1.validationDetails.get? stage =
        (u.record.details.get? stage).or ((Leg.kept? (legs ++ [.rollback m outcome])).bind
          (·.validationDetails.get? stage))) :
      (u.settle m outcome b).1.Trails s t (legs ++ [.rollback m outcome]) := by
    refine Report.trails_of_last ?_ (fun stage => ?_) begun h.gathered.whole
    · rw [log, flatMap_entries_append, h.gathered.log]
      rfl
    · rw [details, findSome?_verdict_append rfl, h.gathered.details]
  rcases outcome with p | f | description
  · refine trails rfl fun stage => ?_
    rw [Leg.kept?_rollback_error]
    exact (Record.aborted_details ..).trans Option.or_none.symm
  · refine trails ?_ fun stage => ?_
    · rw [← ticket]
      exact (Record.close_log ..).trans (List.append_assoc ..)
    · rw [Leg.kept?_rollback_ok, kept, Option.bind_some, ← own]
      exact Record.close_details (u.record.add m .error Stage.rollback _) m _ _ stage
  · refine trails ?_ fun stage => ?_
    · rw [← ticket]
      exact (Record.close_log ..).trans (List.append_assoc ..)
    · rw [Leg.kept?_rollback_ok, kept, Option.bind_some, ← own]
      exact Record.close_details (u.record.add m .info Stage.rollback _) m _ _ stage

end Settle

/-! ## A call alone -/

section Alone

variable (s : Service Q A) (w : Program.World Q A σ) (date : Nat → Time.Instant) (now : Nat)
  (t : Ticket) (b : Board) (world : σ)

/-- The legs of a call from its execution. -/
def Execution.legs (e : Execution Q A) : List Leg :=
  let done := Program.run w now e.program world
  let m : Moment := ⟨done.time, date done.time⟩
  .execution m done.outcome ::
    match e.settle s m done.outcome (b.emitAll done.events) with
    | (.ended _, _) => []
    | (.waiting u, _) =>
      let undone := Program.run w done.time u.program done.world
      [.rollback ⟨undone.time, date undone.time⟩ undone.outcome]

/-- The legs of a call with nothing beside it. -/
def Service.legs : List Leg :=
  let m : Moment := ⟨now, date now⟩
  .gates m b.limiter ::
    match s.receive m t b with
    | (.ended _, _) => []
    | (.waiting e, b) => e.legs s w date now b world

theorem Execution.Trails.conclude {e : Execution Q A} {legs : List Leg} (h : e.Trails s t legs) :
    (e.conclude s w date now b world).report.Trails s t (legs ++ e.legs s w date now b world) := by
  simp only [Execution.conclude, Execution.legs]
  generalize Program.run w now e.program world = done
  have settled := h.settle ⟨done.time, date done.time⟩ done.outcome (b.emitAll done.events)
  generalize e.settle s ⟨done.time, date done.time⟩ done.outcome (b.emitAll done.events) = next
    at settled
  obtain ⟨report | u, b'⟩ := next
  · exact settled
  · rw [List.append_cons]
    exact Undo.Trails.settle settled ..

theorem Service.execute_trails :
    (s.execute w date now t b world).report.Trails s t (s.legs w date now t b world) := by
  have received := s.receive_trails ⟨now, date now⟩ b t
  simp only [execute, legs]
  generalize s.receive ⟨now, date now⟩ t b = next at received
  obtain ⟨report | e, b'⟩ := next
  · exact received
  · exact Execution.Trails.conclude s w date now t b' world received

/-- What a gate says is in the report, whatever the call comes to. -/
theorem Service.execute_keeps {stage : String} {v : Validation}
    (said : s.verdict? t stage (.gates ⟨now, date now⟩ b.limiter) = some v) :
    (s.execute w date now t b world).report.validationDetails.get? stage = some v := by
  have trails := s.execute_trails w date now t b world
  refine trails.verdicts stage v ?_
  rw [legs, List.findSome?_cons, said]

end Alone

/-! ## Calls of a pool -/

namespace Pool

/-- The legs of a call, each noted with the move that ends it. -/
def legs (w : Program.World Q A σ) : Scribe Q A σ Leg where
  begins m _ b := [.gates m b.limiter]
  goes m _ world
    | .executing _ rest =>
      match Program.turn w m.ms rest world with
      | (.on _, _, _) => []
      | (.ended outcome, _, _) => [.execution m outcome]
    | .rollingBack _ rest =>
      match Program.turn w m.ms rest world with
      | (.on _, _, _) => []
      | (.ended outcome, _, _) => [.rollback m outcome]
    | .ended _ => []

/-- Where a call stands on its legs. -/
def Trails (s : Service Q A) (t : Ticket) : Option (Phase Q A) → List Leg → Prop
  | some (.executing e _), legs => e.Trails s t legs
  | some (.rollingBack u _), legs => u.Trails s t legs
  | some (.ended report), legs => report.Trails s t legs
  | none, _ => True

theorem stable_trails (s : Service Q A) (w : Program.World Q A σ) :
    Stable (legs w) s w (Trails s) where
  begins m t b := by
    have received := s.receive_trails m b t
    generalize s.receive m t b = next at received
    obtain ⟨report | e, b'⟩ := next
    · exact received
    · exact received
  goes t phase notes m b world held := by
    cases phase with
    | executing e rest =>
      simp only [Phase.turned, legs]
      generalize Program.turn w m.ms rest world = turn
      obtain ⟨outcome | rest', events, world'⟩ := turn
      · have settled := Execution.Trails.settle held m outcome (b.emitAll events)
        dsimp only
        generalize e.settle s m outcome (b.emitAll events) = next at settled
        obtain ⟨report | u, b'⟩ := next
        · exact settled
        · exact settled
      · dsimp only
        rw [List.append_nil]
        exact held
    | rollingBack u rest =>
      simp only [Phase.turned, legs]
      generalize Program.turn w m.ms rest world = turn
      obtain ⟨outcome | rest', events, world'⟩ := turn
      · exact Undo.Trails.settle held m outcome (b.emitAll events)
      · dsimp only
        rw [List.append_nil]
        exact held
    | ended report =>
      simp only [Phase.turned, legs, List.append_nil]
      exact held
  left _ _ _ _ := trivial

end Pool

namespace Service

/-- However a call ends, its report tells of its legs: the log is what each of them logs, in order
and with an error of the service's own last just when a leg broke off, and a stage that ran has the
verdict that the service came to, whatever the remediator returned for it. So it is for a call alone
and for every call of a pool. -/
theorem report_trails (s : Service Q A) (w : Program.World Q A σ) (b : Board) (world : σ) :
    (∀ (date : Nat → Time.Instant) (now : Nat) (t : Ticket),
      (s.execute w date now t b world).report.Trails s t (s.legs w date now t b world)) ∧
    (∀ (moves : List Pool.Move) (i : Nat) (c : Pool.Call Q A) (report : Report),
      let x : Pool Q A σ := ⟨[], b, world, []⟩
      (x.run s w moves).calls[i]? = some c → c.phase = some (.ended report) →
        report.Trails s c.ticket (Pool.about i ((Pool.legs w).story s w x moves))) := by
  refine ⟨fun date now t => s.execute_trails w date now t b world, ?_⟩
  intro moves i c report x out ended
  have held := (Pool.noted_run (Pool.stable_trails s w) b world moves).calls i c out
  rw [ended] at held
  exact held

/-- A remediator that vouches for itself, and a rollback that breaks off: the log has it all, and of
the verdicts only the service's own are left. -/
theorem report_trails_of_panic :
    let vouched : Validation := ⟨true, "all is well", []⟩
    let returned : Report :=
      { Report.succeeded "done" ["did it"] 0.0 with
        executionLogs := [⟨⟨1700000000, 0⟩, .info, "agent", "pulled the lever"⟩]
        validationDetails :=
          (Dict.empty.insert Stage.postValidation vouched).insert "agent" vouched }
    let remediator : Remediator Unit fun _ => Unit :=
      { Remediator.plain .noOp fun _ _ => .done returned with
        rollback := some fun _ _ => .abort (.text "undo exploded") }
    let smoke : NamedCheck := ⟨"smoke", fun _ => .fail "smoke" "still failing" .critical⟩
    let s : Service Unit fun _ => Unit :=
      ⟨Registry.empty.register remediator, ⟨Stage.preValidation, []⟩,
        ⟨Stage.postValidation, [smoke]⟩⟩
    let w : Program.World Unit (fun _ => Unit) Unit := fun _ u => (u, u)
    let plan : Plan := { Plan.new .noOp "" with requiresRollbackSnapshot := true }
    let t : Ticket := ⟨.new ⟨7⟩ ⟨1700000000, 0⟩ .github "flaky_test", plan, .standard⟩
    let b : Board := .new ⟨10, 1, 1, .standard⟩
    let m : Moment := ⟨0, ⟨1700000000, 0⟩⟩
    let d := s.execute w (fun _ => ⟨1700000000, 0⟩) 0 t b ()
    let x : Pool Unit (fun _ => Unit) Unit := ⟨[], b, (), []⟩
    let moves : List Pool.Move := [.call m t, .step m 0, .step m 0]
    (d.report.executionLogs.map (·.stage) = [Stage.preValidation, Stage.blastRadius,
        Stage.execution, "agent", Stage.execution, Stage.postValidation, Stage.orchestrator] ∧
      d.report.validationDetails.get? Stage.postValidation = s.reviewed? t returned ∧
      d.report.validationDetails.get? "agent" = none) ∧
      ∃ c report, (x.run s w moves).calls[0]? = some c ∧ c.phase = some (.ended report) ∧
        report.Trails s t (Pool.about 0 ((Pool.legs w).story s w x moves)) := by
  intro vouched returned remediator smoke s w plan t b m d x moves
  obtain ⟨alone, among⟩ := s.report_trails w b ()
  have trails : d.report.Trails s t (s.legs w (fun _ => ⟨1700000000, 0⟩) 0 t b ()) := alone _ 0 t
  have verdict : (s.legs w (fun _ => ⟨1700000000, 0⟩) 0 t b ()).findSome?
      (s.verdict? t Stage.postValidation) = s.reviewed? t returned := by
    rfl
  have lost : Leg.kept? (s.legs w (fun _ => ⟨1700000000, 0⟩) 0 t b ()) = none := by rfl
  obtain ⟨c, report, out, ended⟩ : ∃ c report, (x.run s w moves).calls[0]? = some c ∧
      c.phase = some (.ended report) := ⟨_, _, rfl, rfl⟩
  refine ⟨⟨?_, ?_, ?_⟩, c, report, out, ended, ?_⟩
  · rw [trails.log]
    rfl
  · obtain ⟨v, reviewed⟩ : ∃ v, s.reviewed? t returned = some v := ⟨_, rfl⟩
    rw [reviewed]
    exact trails.verdicts _ v (verdict.trans reviewed)
  · rw [trails.others "agent" rfl, lost]
    rfl
  · have ticket : (x.run s w moves).calls[0]?.map (·.ticket) = some t := by rfl
    rw [out] at ticket
    rw [← Option.some.inj ticket]
    exact among moves 0 c report out ended

end Service

end Remedy
