import Remedy.Proofs.Service.Reruns
import Remedy.Proofs.Service.Results

/-!
# Coherent reports

Whether a call succeeded, its outcome, the error and the flags are written at different places, and
are read one without the others. If remediators return results whose parts agree, so do the parts of
every report, whatever happened to the call.
-/

namespace Remedy

open Workflow

variable {Q : Type} {A : Q → Type} {σ : Type}

/-- A result whose parts agree, and that tells of nothing that only the service can do. -/
structure Report.WellFormed (returned : Report) : Prop where
  success_iff : returned.success = true ↔ returned.outcome = .success
  notRejected : returned.outcome ≠ .rejected
  notRolledBack : returned.outcome ≠ .rolledBack
  explained : returned.success = false → returned.errorMessage.isSome = true
  untouched : returned.rollbackPerformed = false

/-- Whatever the remediator returns is well-formed. It may break off. -/
def Remediator.WellFormed (r : Remediator Q A) (w : Program.World Q A σ) : Prop :=
  ∀ incident plan, (r.execute incident plan).Ends w fun outcome =>
    ∀ returned, outcome = .ok returned → returned.WellFormed

def Service.WellFormed (s : Service Q A) (w : Program.World Q A σ) : Prop :=
  ∀ action remediator, s.registry.get? action = some remediator → remediator.WellFormed w

/-- A gate refused the call that went these legs. -/
def Service.Refused (s : Service Q A) (t : Ticket) (legs : List Leg) : Prop :=
  ∃ m l, .gates m l ∈ legs ∧ s.refuses t l m.date = true

/-- A check that did not pass makes a failure. -/
def Report.Heeds (report : Report) : Prop :=
  report.preValidationPassed = false ∨ report.postValidationPassed = false → report.success = false

/-- The parts of a report agree with each other and with what the gates said. -/
structure Report.Coheres (report : Report) (s : Service Q A) (t : Ticket) (legs : List Leg) :
    Prop where
  success_iff : report.success = true ↔ report.outcome = .success
  explained : report.success = false → report.errorMessage.isSome = true
  rolledBack_iff : report.outcome = .rolledBack ↔ report.rollbackPerformed = true
  undone : report.rollbackPerformed = true →
    report.rollbackRequired = true ∧ report.success = false
  rejected_iff : report.outcome = .rejected ↔ s.Refused t legs
  idle : report.outcome = .rejected → report.actionsPerformed = []
  /-- A remediator that leaves the flags alone leaves them to the service. -/
  heeds : (∀ m returned, .execution m (.ok returned) ∈ legs →
    returned.preValidationPassed = true ∧ returned.postValidationPassed = true) → report.Heeds

/-! ## Reports of the service's own -/

section Own

variable {s : Service Q A} {t : Ticket} {legs : List Leg} {report expected : Report}

theorem Report.Resembles.coheres (comes : report.Resembles expected)
    (h : expected.Coheres s t legs) : report.Coheres s t legs := by
  rw [comes]
  exact ⟨h.success_iff, h.explained, h.rolledBack_iff, h.undone, h.rejected_iff, h.idle, h.heeds⟩

/-- A well-formed report of a call that was let through. -/
theorem Report.WellFormed.coheres (h : report.WellFormed) (open_ : ¬ s.Refused t legs)
    (heeds : (∀ m returned, .execution m (.ok returned) ∈ legs →
      returned.preValidationPassed = true ∧ returned.postValidationPassed = true) → report.Heeds) :
    report.Coheres s t legs where
  success_iff := h.success_iff
  explained := h.explained
  rolledBack_iff := by simp [h.notRolledBack, h.untouched]
  undone := by simp [h.untouched]
  rejected_iff := by simp [h.notRejected, open_]
  idle rejected := absurd rejected h.notRejected
  heeds := heeds

theorem Report.WellFormed.of_failed (failed : report.success = false)
    (outcome : report.outcome = .failed) (explained : report.errorMessage.isSome = true)
    (untouched : report.rollbackPerformed = false) : report.WellFormed where
  success_iff := by simp [failed, outcome]
  notRejected := by simp [outcome]
  notRolledBack := by simp [outcome]
  explained _ := explained
  untouched := untouched

theorem Report.ofFault_wellFormed (message : String) (f : Fault) (seconds : Float)
    (required : Bool) : (Report.ofFault message f seconds required).WellFormed :=
  .of_failed rfl rfl rfl rfl

theorem Ticket.broken_wellFormed (t : Ticket) (p : Panic) : (t.broken p).WellFormed :=
  .of_failed rfl rfl rfl rfl

theorem Report.rejected_coheres (message : String) (refused : s.Refused t legs) :
    (Report.rejected message).Coheres s t legs where
  success_iff := ⟨nofun, nofun⟩
  explained _ := rfl
  rolledBack_iff := ⟨nofun, nofun⟩
  undone := nofun
  rejected_iff := ⟨fun _ => refused, fun _ => rfl⟩
  idle _ := rfl
  heeds _ _ := rfl

theorem Service.not_refused {m : Moment} {l : Limiter} {rest : List Leg}
    (opens : s.Executes t l m.date) (only : ∀ leg ∈ rest, ∀ m l, leg ≠ .gates m l) :
    ¬ s.Refused t (.gates m l :: rest) := by
  rintro ⟨m', l', among, refuses⟩
  obtain ⟨cleared, -, afforded⟩ := opens
  rcases List.mem_cons.1 among with same | among
  · cases same
    simp [Service.refuses, cleared, afforded] at refuses
  · exact only _ among m' l' rfl

theorem Service.refusal_coheres {m : Moment} {l : Limiter} (barred : ¬ s.Executes t l m.date) :
    (s.refusal t m l).Coheres s t [.gates m l] := by
  have refused (refuses : s.refuses t l m.date = true) : s.Refused t [.gates m l] :=
    ⟨m, l, List.mem_singleton_self _, refuses⟩
  rw [Service.refusal]
  cases cleared : s.clears t with
  | false =>
    have rejected := Report.rejected_coheres ("Pre-validation failed: " ++
      (s.pre.validate (t.context none)).reasons) (refused (by simp [Service.refuses, cleared]))
    exact { rejected with heeds := fun _ _ => rfl }
  | true =>
    rw [if_pos rfl]
    cases found : s.registry.resolve t.incident t.plan with
    | error f =>
      refine (Report.ofFault_wellFormed _ f _ _).coheres ?_ fun _ _ => rfl
      rintro ⟨m', l', among, refuses⟩
      cases List.mem_singleton.1 among
      simp [Service.refuses, cleared, found, Except.isOk, Except.toBool] at refuses
    | ok remediator =>
      refine Report.rejected_coheres _ (refused ?_)
      have denied : t.affords l m.date = false := by
        rw [Bool.eq_false_iff]
        intro afforded
        exact barred ⟨cleared, ⟨remediator, found⟩, afforded⟩
      simp [Service.refuses, cleared, found, denied, Except.isOk, Except.toBool]

end Own

/-! ## Reports of what was returned -/

namespace Service

variable {s : Service Q A} {t : Ticket} {returned : Report}

theorem judged_wellFormed (h : returned.WellFormed) : (s.judged t returned).WellFormed := by
  rw [judged]
  split
  · exact ⟨h.success_iff, h.notRejected, h.notRolledBack, h.explained, h.untouched⟩
  · split
    · exact ⟨h.success_iff, h.notRejected, h.notRolledBack, h.explained, h.untouched⟩
    · exact .of_failed rfl rfl rfl h.untouched

theorem judged_heeds (h : returned.Heeds) : (s.judged t returned).Heeds := by
  rw [judged]
  split
  · exact h
  · split
    · exact h
    · exact fun _ => rfl

/-- What is to be rolled back is a failure by then. -/
theorem judged_of_undoes (due : s.undoes t returned = true) :
    (s.judged t returned).success = false ∧ (s.judged t returned).rollbackRequired = true := by
  rw [undoes] at due
  cases success : returned.success with
  | false =>
    have unreviewed : s.reviewed? t returned = none := by simp [reviewed?, success]
    rw [success, if_neg Bool.false_ne_true] at due
    rw [judged_of_unreviewed unreviewed]
    exact ⟨success, due⟩
  | true =>
    rw [success, if_pos rfl, Bool.and_eq_true, Option.any_eq_true] at due
    obtain ⟨⟨v, reviewed, failed⟩, snapshot⟩ := due
    rw [judged_of_failed reviewed (by simpa using failed)]
    exact ⟨rfl, by simp [snapshot]⟩

theorem undoes_of_rollsBack (due : s.rollsBack t (.ok returned) = true) :
    s.undoes t returned = true := by
  rw [rollsBack, Bool.and_eq_true] at due
  exact due.1

theorem reported_wellFormed {outcome : Except Panic Report}
    (h : ∀ returned, outcome = .ok returned → returned.WellFormed) :
    (s.reported t outcome).WellFormed := by
  cases outcome with
  | error p => exact t.broken_wellFormed p
  | ok returned =>
    have judged := judged_wellFormed (s := s) (t := t) (h returned rfl)
    rw [reported]
    split
    · exact ⟨judged.success_iff, judged.notRejected, judged.notRolledBack, judged.explained, rfl⟩
    · exact judged

theorem reported_heeds {outcome : Except Panic Report}
    (h : ∀ returned, outcome = .ok returned → returned.Heeds) : (s.reported t outcome).Heeds := by
  cases outcome with
  | error p => exact fun _ => rfl
  | ok returned =>
    have judged := judged_heeds (s := s) (t := t) (h returned rfl)
    rw [reported]
    split
    · exact judged
    · exact judged

/-- A rollback is the only thing that makes a report one of a rollback. -/
theorem unwound_coheres {legs : List Leg} (h : returned.WellFormed)
    (due : s.rollsBack t (.ok returned) = true) (open_ : ¬ s.Refused t legs)
    (undone : Except Panic (Except Fault String)) :
    (s.unwound t returned undone).Coheres s t legs := by
  have judged := judged_wellFormed (s := s) (t := t) h
  obtain ⟨failed, required⟩ := judged_of_undoes (undoes_of_rollsBack due)
  rcases undone with p | f | description
  · exact (t.broken_wellFormed p).coheres open_ fun _ _ => rfl
  · have same : (s.unwound t returned (.ok (.error f))).WellFormed :=
      ⟨judged.success_iff, judged.notRejected, judged.notRolledBack, judged.explained, rfl⟩
    exact same.coheres open_ fun _ _ => failed
  · refine ⟨?_, judged.explained, ?_, fun _ => ⟨required, failed⟩, ?_, nofun, fun _ _ => failed⟩
    · simp [unwound, failed]
    · simp [unwound]
    · simp [unwound, open_]

/-- Whichever way a call goes, its report coheres. -/
theorem Goes.coheres {legs : List Leg} {report : Report}
    (goes : s.Goes t (some (.ended report)) legs)
    (sane : ∀ m returned, .execution m (.ok returned) ∈ legs → returned.WellFormed) :
    report.Coheres s t legs := by
  cases goes with
  | stopped barred comes => exact comes.coheres (refusal_coheres barred)
  | @closed m m' l outcome report opens kept comes =>
    have came (returned : Report) (same : outcome = .ok returned) :
        Leg.execution m' (.ok returned) ∈ [.gates m l, .execution m' outcome] := by
      simp [same]
    refine comes.coheres (Report.WellFormed.coheres ?_ (not_refused opens (by simp)) ?_)
    · exact reported_wellFormed fun returned same => sane m' returned (came returned same)
    · intro alone
      apply reported_heeds
      intro returned same
      obtain ⟨pre, post⟩ := alone m' returned (came returned same)
      simp [Report.Heeds, pre, post]
  | @undone m m' m'' l returned report undone opens due comes =>
    have came := sane m' returned (by simp)
    exact comes.coheres (unwound_coheres came due (not_refused opens (by simp)) undone)

theorem WellFormed.ends {w : Program.World Q A σ} (sane : s.WellFormed w) (t : Ticket) :
    s.Ends w t (fun outcome => ∀ returned, outcome = .ok returned → returned.WellFormed)
      fun _ => True where
  execute remediator found := sane _ remediator (Registry.resolve_ok found).1 _ _
  rollback _ _ _ _ := Program.ends_trivial _

theorem Abides.coheres {w : Program.World Q A σ} {legs : List Leg} {report : Report}
    (abides : s.Abides w t (some (.ended report)) legs) (sane : s.WellFormed w) :
    report.Coheres s t legs := by
  obtain ⟨-, kept⟩ := abides.keeps _ _ (sane.ends t)
  exact abides.goes.coheres fun m returned among => kept _ among returned rfl

/-- Whatever gates, executions and rollbacks come to, breaking off included, the report of a call
coheres if remediators return well-formed results: success, outcome and the error go together, it is
a rollback just when one was performed on a failure that required it, a rejection just when a gate
refused the call, which then did nothing, and no check that failed is passed over. So it is for a
call alone and for every call of a pool. -/
theorem reports_cohere (s : Service Q A) (w : Program.World Q A σ) (b : Board) (world : σ)
    (sane : s.WellFormed w) :
    (∀ (date : Nat → Time.Instant) (now : Nat) (t : Ticket),
      (s.execute w date now t b world).report.Coheres s t (s.legs w date now t b world)) ∧
    (∀ (moves : List Pool.Move) (i : Nat) (c : Pool.Call Q A) (report : Report),
      let x : Pool Q A σ := ⟨[], b, world, []⟩
      (x.run s w moves).calls[i]? = some c → c.phase = some (.ended report) →
        report.Coheres s c.ticket (Pool.about i ((Pool.legs w).story s w x moves))) := by
  constructor
  · intro date now t
    exact Abides.coheres ((s.stable_abides w).alone date now t b world) sane
  · intro moves i c report x out ended
    have abides := (Pool.noted_run (s.stable_abides w) b world moves).calls i c out
    rw [ended] at abides
    exact abides.coheres sane

/-- A failure that is rolled back, and a call that the limiter refuses meanwhile. -/
theorem reports_cohere_of_rollback :
    let returned : Report := (Report.failure "half done" "disk full" 0.0 true).withActions ["began"]
    let remediator : Remediator Unit fun _ => Unit :=
      { Remediator.plain .noOp fun _ _ => .done returned with
        rollback := some fun _ _ => .done (.ok "cleaned up") }
    let s : Service Unit fun _ => Unit :=
      ⟨Registry.empty.register remediator, ⟨Stage.preValidation, []⟩, ⟨Stage.postValidation, []⟩⟩
    let w : Program.World Unit (fun _ => Unit) Unit := fun _ u => (u, u)
    let t : Ticket := ⟨.new ⟨7⟩ ⟨1700000000, 0⟩ .github "flaky_test", .new .noOp "", .standard⟩
    let b : Board := .new ⟨10, 1, 1, .standard⟩
    let m : Moment := ⟨0, ⟨1700000000, 0⟩⟩
    let d := s.execute w (fun _ => ⟨1700000000, 0⟩) 0 t b ()
    let x : Pool Unit (fun _ => Unit) Unit := ⟨[], b, (), []⟩
    let moves : List Pool.Move := [.call m t, .call m t, .step m 0, .step m 0]
    s.WellFormed w ∧
    (d.report.outcome = .rolledBack ∧ d.report.rollbackPerformed = true ∧
      d.report.success = false) ∧
    ∃ c report, (x.run s w moves).calls[1]? = some c ∧ c.phase = some (.ended report) ∧
      report.outcome = .rejected ∧ report.actionsPerformed = [] := by
  intro returned remediator s w t b m d x moves
  have sane : s.WellFormed w := by
    intro action r registered
    cases Registry.eq_of_get?_register_empty registered
    intro incident plan outcome same
    cases same
    exact .of_failed rfl rfl rfl rfl
  obtain ⟨alone, among⟩ := s.reports_cohere w b () sane
  have coheres : d.report.Coheres s t _ := alone (fun _ => ⟨1700000000, 0⟩) 0 t
  have undone : d.report.outcome = .rolledBack := by decide +kernel
  have performed := coheres.rolledBack_iff.1 undone
  have second : (((x.run s w moves).calls[1]?.bind (·.phase)).bind Phase.report?).map (·.outcome) =
      some .rejected := by
    decide +kernel
  obtain ⟨report, reported, outcome⟩ := Option.map_eq_some_iff.1 second
  obtain ⟨c, out, ended⟩ := Pool.ended_of_report? reported
  refine ⟨sane, ⟨undone, performed, (coheres.undone performed).2⟩, c, report, out, ended, outcome,
    ?_⟩
  exact (among moves 1 c report out ended).idle outcome

end Service

/-! ## Reruns -/

namespace Rerun

theorem reportOf_wellFormed (p : Parameters) (elapsed : Nat)
    (done : List String × Except RunError Progress) : (reportOf p elapsed done).WellFormed := by
  have failed (e : RunError) {report : Report} (success : report.success = false)
      (outcome : report.outcome = .failed ∨ report.outcome = .timedOut)
      (explained : report.errorMessage.isSome = true)
      (untouched : report.rollbackPerformed = false) : report.WellFormed := by
    rcases outcome with outcome | outcome
    · exact .of_failed success outcome explained untouched
    · exact ⟨by simp [success, outcome], by simp [outcome], by simp [outcome], fun _ => explained,
        untouched⟩
  have fine {report : Report} (success : report.success = true)
      (outcome : report.outcome = .success) (untouched : report.rollbackPerformed = false) :
      report.WellFormed :=
    ⟨by simp [success, outcome], by simp [outcome], by simp [outcome], by simp [success], untouched⟩
  obtain ⟨actions, e | progress⟩ := done
  · cases e with
    | api cause => exact failed (.api cause) rfl (.inl rfl) rfl rfl
    | timeout took limit => exact failed (.timeout took limit) rfl (.inr rfl) rfl rfl
  · cases progress with
    | triggered => exact fine rfl rfl rfl
    | completed c =>
      simp only [reportOf, progressReport]
      split
      · exact fine rfl rfl rfl
      · exact .of_failed rfl rfl rfl rfl

end Rerun

/-- Every report of a service that only reruns coheres, for its remediator is well-formed. -/
theorem Service.ofReruns_wellFormed [Timer] (config : Config) (defaults : Rerun.Defaults)
    (w : Program.World Request Request.Answer σ) : (ofReruns config defaults).WellFormed w := by
  intro action r registered
  rw [Registry.eq_of_get?_register_empty registered]
  intro incident plan
  have told {such : Report} (sane : such.WellFormed) :
      ∀ returned, (.ok such : Except Panic Report) = .ok returned → returned.WellFormed := by
    intro returned same
    cases same
    exact sane
  change (Rerun.execute Provider.direct defaults incident plan).Ends w _
  cases resolved : Rerun.Parameters.resolve incident plan defaults with
  | error fault =>
    rw [Rerun.execute_unresolved defaults incident plan resolved]
    exact fun started now => told (Report.ofFault_wellFormed _ fault _ _)
  | ok p =>
    rw [Rerun.execute_resolved defaults incident plan resolved]
    intro started
    apply Program.Ends.bind
    · intro broke returned came
      cases came
    · intro done now
      exact told (Rerun.reportOf_wellFormed p (now - started) done)

end Remedy
