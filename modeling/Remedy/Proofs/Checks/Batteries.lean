import Mathlib.Data.List.Forall2
import Remedy.Checks
import Remedy.Proofs.Rule.Rejections

/-!
# What the standard batteries ask for

A guard is a check with the condition outside which it blocks. A chain of guards passes just when
all their conditions hold, and the reasons it gives name the conditions that do not, in order. The
two standard batteries are chains of guards; the confidence of an incident and the duration of an
execution are looked at by guards that never block.
-/

namespace Remedy

open NamedCheck

variable {Q : Type} {A : Q → Type}

/-! ## When a check blocks -/

namespace NamedCheck

variable (ctx : CheckContext)

theorem remediatorAvailable_isBlocking (reg : Registry Q A) :
    ((remediatorAvailable reg).run ctx).isBlocking = !(reg.resolve ctx.incident ctx.plan).isOk := by
  simp only [remediatorAvailable]
  cases reg.resolve ctx.incident ctx.plan <;> rfl

theorem guardRules_isBlocking (rules : RuleSet) :
    ((guardRules rules).run ctx).isBlocking =
      !(rules.evaluate ctx.incident ctx.incident.context ctx.analysis).passed := by
  simp only [guardRules]
  split
  · next passed => rw [passed]; rfl
  · next failed =>
    rw [Bool.eq_false_iff.2 failed]
    rfl

theorem approval_isBlocking :
    (approval.run ctx).isBlocking = !(!ctx.plan.requiresApproval || ctx.approved) := by
  simp only [approval]
  cases ctx.plan.requiresApproval <;> cases ctx.approved <;> rfl

theorem riskWithinLimit_isBlocking (limit : RiskLevel) :
    ((riskWithinLimit limit).run ctx).isBlocking = !decide (ctx.plan.riskLevel ≤ limit) := by
  simp only [riskWithinLimit]
  split
  · next within => rw [decide_eq_true within]; rfl
  · next beyond => rw [decide_eq_false beyond]; rfl

/-- An incident of little confidence is warned of and goes on. -/
theorem incidentConfidence_isBlocking (least : Float) :
    ((incidentConfidence least).run ctx).isBlocking = false := by
  simp only [incidentConfidence]
  split <;> rfl

theorem parameters_isBlocking (reg : Registry Q A) :
    ((parameters reg).run ctx).isBlocking = !(reg.get? ctx.plan.actionType).any fun r =>
      (r.validateParameters ctx.incident ctx.plan).isOk := by
  simp only [parameters]
  cases reg.get? ctx.plan.actionType with
  | none => rfl
  | some r =>
    simp only [Option.any_some]
    cases r.validateParameters ctx.incident ctx.plan <;> rfl

theorem executionSucceeded_isBlocking :
    (executionSucceeded.run ctx).isBlocking = !ctx.report.any (·.success) := by
  simp only [executionSucceeded]
  cases ctx.report with
  | none => rfl
  | some report =>
    simp only [Option.any_some]
    cases report.success <;> rfl

theorem actionsRecorded_isBlocking :
    (actionsRecorded.run ctx).isBlocking = !ctx.report.any (!·.actionsPerformed.isEmpty) := by
  simp only [actionsRecorded]
  cases ctx.report with
  | none => rfl
  | some report =>
    cases acted : report.actionsPerformed <;>
      simp [acted, Check.isBlocking, Check.fail, Check.pass, CheckSeverity.isBlocking]

/-- An execution that took long is warned of and stands. -/
theorem durationWithinEstimate_isBlocking (tolerance : Float) :
    ((durationWithinEstimate tolerance).run ctx).isBlocking = false := by
  simp only [durationWithinEstimate]
  split
  · split <;> rfl
  · rfl

end NamedCheck

/-! ## Guards -/

/-- A check with the condition outside which it blocks, under its own name. -/
structure Guard where
  check : NamedCheck
  condition : CheckContext → Bool
  named : ∀ ctx, (check.run ctx).name = check.name
  blocks : ∀ ctx, (check.run ctx).isBlocking = !condition ctx

namespace Guard

/-- What a guard says when its condition does not hold. -/
def reason (g : Guard) (ctx : CheckContext) : String :=
  g.check.name ++ ": " ++ (g.check.run ctx).message

/-- The guards whose conditions do not hold. -/
def violated (guards : List Guard) (ctx : CheckContext) : List Guard :=
  guards.filter fun g => !g.condition ctx

/-- A chain of guards. -/
def chain (stage : String) (guards : List Guard) : CheckChain := ⟨stage, guards.map check⟩

section Chain

variable (stage : String) (guards : List Guard) (ctx : CheckContext)

theorem violated_eq_nil_iff : violated guards ctx = [] ↔ ∀ g ∈ guards, g.condition ctx = true := by
  simp [violated, List.filter_eq_nil_iff]

theorem chain_names : ((chain stage guards).validate ctx).checks.map Check.name =
    (chain stage guards).names := by
  have same : (guards.map fun g => (g.check.run ctx).name) = guards.map fun g => g.check.name :=
    List.map_congr_left fun g _ => g.named ctx
  simpa [chain, CheckChain.names, CheckChain.validate] using same

theorem chain_passed_iff :
    ((chain stage guards).validate ctx).passed = true ↔ ∀ g ∈ guards, g.condition ctx = true := by
  rw [CheckChain.validate, Validation.ofChecks_passed_iff]
  simp [chain, blocks]

theorem chain_reasons :
    ((chain stage guards).validate ctx).blockingReasons =
      (violated guards ctx).map (·.reason ctx) := by
  simp only [chain, CheckChain.validate, Validation.blockingReasons, Validation.ofChecks_checks,
    List.map_map, violated, List.filter_map]
  have kept : (guards.filter (Check.isBlocking ∘ (fun check => check.run ctx) ∘ check)) =
      guards.filter fun g => !g.condition ctx := List.filter_congr fun g _ => g.blocks ctx
  rw [kept]
  refine List.map_congr_left fun g _ => ?_
  simp only [Function.comp_apply, g.named, reason]

/-- Reasons are given just when the chain does not pass. -/
theorem chain_reasons_eq_nil_iff :
    ((chain stage guards).validate ctx).blockingReasons = [] ↔
      ((chain stage guards).validate ctx).passed = true := by
  rw [chain_reasons, List.map_eq_nil_iff, violated_eq_nil_iff, chain_passed_iff]

end Chain

section Agree

variable {stage : String} {guards : List Guard} {ctx : CheckContext}

/-- Two guards, each at a context of its own, that hold together and object with the same words. -/
structure Agree (ctx ctx' : CheckContext) (g g' : Guard) : Prop where
  condition : g.condition ctx = g'.condition ctx'
  reason : g.condition ctx = false → g.reason ctx = g'.reason ctx'

theorem Agree.of_run {ctx' : CheckContext} {g : Guard} (same : g.check.run ctx = g.check.run ctx') :
    Agree ctx ctx' g g where
  condition := by
    rw [← Bool.not_inj_iff, ← g.blocks, ← g.blocks, same]
  reason _ := by rw [Guard.reason, same, Guard.reason]

theorem Agree.of_advice {ctx' : CheckContext} {g g' : Guard} (holds : g.condition ctx = true)
    (holds' : g'.condition ctx' = true) : Agree ctx ctx' g g' where
  condition := holds.trans holds'.symm
  reason fails := by
    rw [holds] at fails
    cases fails

theorem reasons_congr {guards' : List Guard} {ctx' : CheckContext}
    (agree : List.Forall₂ (Agree ctx ctx') guards guards') :
    (violated guards ctx).map (·.reason ctx) = (violated guards' ctx').map (·.reason ctx') := by
  induction agree with
  | nil => rfl
  | @cons g g' guards guards' first _ ih =>
    -- both guards are kept or both are dropped, and only those that are kept have to say the same
    simp only [violated, List.filter_cons, ← first.condition] at ih ⊢
    cases holds : g.condition ctx with
    | true => simpa using ih
    | false => simpa [first.reason holds] using ih

/-- Chains that agree give the same reasons, and so the same verdict. -/
theorem chain_congr {guards' : List Guard} {ctx' : CheckContext} {stage' : String}
    (agree : List.Forall₂ (Agree ctx ctx') guards guards') :
    ((chain stage guards).validate ctx).blockingReasons =
        ((chain stage' guards').validate ctx').blockingReasons ∧
      ((chain stage guards).validate ctx).passed =
        ((chain stage' guards').validate ctx').passed := by
  have same : ((chain stage guards).validate ctx).blockingReasons =
      ((chain stage' guards').validate ctx').blockingReasons := by
    rw [chain_reasons, chain_reasons, reasons_congr agree]
  refine ⟨same, ?_⟩
  rw [Bool.eq_iff_iff, ← chain_reasons_eq_nil_iff, ← chain_reasons_eq_nil_iff, same]

end Agree

end Guard

/-! ## The standard batteries as guards -/

namespace Guard

def remediatorAvailable (reg : Registry Q A) : Guard where
  check := .remediatorAvailable reg
  condition ctx := (reg.resolve ctx.incident ctx.plan).isOk
  named ctx := by
    simp only [NamedCheck.remediatorAvailable]
    split <;> rfl
  blocks ctx := remediatorAvailable_isBlocking ctx reg

def rules (rules : RuleSet) : Guard where
  check := .guardRules rules
  condition ctx := rules.all fun r =>
    (r.evaluate ctx.incident ctx.incident.context ctx.analysis).passed
  named ctx := by
    simp only [NamedCheck.guardRules]
    split <;> rfl
  blocks ctx := by rw [guardRules_isBlocking, RuleSet.evaluate_passed]

def approval : Guard where
  check := .approval
  condition ctx := !ctx.plan.requiresApproval || ctx.approved
  named ctx := by
    simp only [NamedCheck.approval]
    split
    · rfl
    · split <;> rfl
  blocks := approval_isBlocking

def riskWithinLimit (limit : RiskLevel) : Guard where
  check := .riskWithinLimit limit
  condition ctx := ctx.plan.riskLevel ≤ limit
  named ctx := by
    simp only [NamedCheck.riskWithinLimit]
    split <;> rfl
  blocks ctx := riskWithinLimit_isBlocking ctx limit

def incidentConfidence (least : Float) : Guard where
  check := .incidentConfidence least
  condition _ := true
  named ctx := by
    simp only [NamedCheck.incidentConfidence]
    split <;> rfl
  blocks ctx := incidentConfidence_isBlocking ctx least

def parameters (reg : Registry Q A) : Guard where
  check := .parameters reg
  condition ctx := (reg.get? ctx.plan.actionType).any fun r =>
    (r.validateParameters ctx.incident ctx.plan).isOk
  named ctx := by
    simp only [NamedCheck.parameters]
    split
    · rfl
    · split <;> rfl
  blocks ctx := parameters_isBlocking ctx reg

def executionSucceeded : Guard where
  check := .executionSucceeded
  condition ctx := ctx.report.any (·.success)
  named ctx := by
    simp only [NamedCheck.executionSucceeded]
    split
    · rfl
    · split <;> rfl
  blocks := executionSucceeded_isBlocking

def actionsRecorded : Guard where
  check := .actionsRecorded
  condition ctx := ctx.report.any (!·.actionsPerformed.isEmpty)
  named ctx := by
    simp only [NamedCheck.actionsRecorded]
    split <;> rfl
  blocks := actionsRecorded_isBlocking

def durationWithinEstimate (tolerance : Float) : Guard where
  check := .durationWithinEstimate tolerance
  condition _ := true
  named ctx := by
    simp only [NamedCheck.durationWithinEstimate]
    split
    · split <;> rfl
    · rfl
  blocks ctx := durationWithinEstimate_isBlocking ctx tolerance

/-- The six guards before an execution, in order. -/
def preExecution (reg : Registry Q A) (ruleSet : RuleSet) (t : Thresholds) : List Guard :=
  [remediatorAvailable reg, rules ruleSet, approval, riskWithinLimit t.maxAutoRisk,
    incidentConfidence t.minConfidence, parameters reg]

/-- The three guards after an execution, in order. -/
def postExecution (t : Thresholds) : List Guard :=
  [executionSucceeded, actionsRecorded, durationWithinEstimate t.durationTolerance]

end Guard

namespace CheckChain

theorem preExecution_eq (reg : Registry Q A) (rules : RuleSet) (t : Thresholds) :
    preExecution reg rules t = Guard.chain Stage.preValidation (Guard.preExecution reg rules t) :=
  rfl

theorem postExecution_eq (t : Thresholds) :
    postExecution t = Guard.chain Stage.postValidation (Guard.postExecution t) := rfl

/-- What a plan has to meet before it is executed for an incident. -/
structure Ready (reg : Registry Q A) (rules : RuleSet) (limit : RiskLevel) (ctx : CheckContext) :
    Prop where
  resolved : ∃ r, reg.resolve ctx.incident ctx.plan = .ok r
  unopposed : ∀ r ∈ rules, r.Passes ctx.incident ctx.incident.context ctx.analysis
  approved : ctx.plan.requiresApproval = true → ctx.approved = true
  bearable : ctx.plan.riskLevel ≤ limit
  prepared : ∃ r, reg.get? ctx.plan.actionType = some r ∧
    r.validateParameters ctx.incident ctx.plan = .ok ()

theorem preExecution_passed_iff (reg : Registry Q A) (rules : RuleSet) (t : Thresholds)
    (ctx : CheckContext) :
    ((preExecution reg rules t).validate ctx).passed = true ↔
      Ready reg rules t.maxAutoRisk ctx := by
  have resolved : (reg.resolve ctx.incident ctx.plan).isOk = true ↔
      ∃ r, reg.resolve ctx.incident ctx.plan = .ok r := by
    cases reg.resolve ctx.incident ctx.plan <;> simp [Except.isOk, Except.toBool]
  have approved : (!ctx.plan.requiresApproval || ctx.approved) = true ↔
      (ctx.plan.requiresApproval = true → ctx.approved = true) := by
    cases ctx.plan.requiresApproval <;> simp
  have prepared : ((reg.get? ctx.plan.actionType).any fun r =>
      (r.validateParameters ctx.incident ctx.plan).isOk) = true ↔
      ∃ r, reg.get? ctx.plan.actionType = some r ∧
        r.validateParameters ctx.incident ctx.plan = .ok () := by
    cases reg.get? ctx.plan.actionType with
    | none => simp
    | some r =>
      simp only [Option.any_some, Option.some.injEq, exists_eq_left']
      cases r.validateParameters ctx.incident ctx.plan <;> simp [Except.isOk, Except.toBool]
  rw [preExecution_eq, Guard.chain_passed_iff]
  simp only [Guard.preExecution, List.forall_mem_cons]
  constructor
  · rintro ⟨h1, h2, h3, h4, -, h6, -⟩
    exact ⟨resolved.1 h1, List.all_eq_true.1 h2, approved.1 h3, of_decide_eq_true h4, prepared.1 h6⟩
  · rintro ⟨h1, h2, h3, h4, h6⟩
    exact ⟨resolved.2 h1, List.all_eq_true.2 h2, approved.2 h3, decide_eq_true h4, rfl,
      prepared.2 h6, List.forall_mem_nil _⟩

/-- The standard checks after an execution ask for a success and for an action, and for nothing that
blocks beyond that. -/
theorem postExecution_passed_iff (t : Thresholds) (ctx : CheckContext) :
    ((postExecution t).validate ctx).passed = true ↔
      ∃ report, ctx.report = some report ∧ report.success = true ∧
        report.actionsPerformed ≠ [] := by
  rw [postExecution_eq, Guard.chain_passed_iff]
  simp only [Guard.postExecution, List.forall_mem_cons, Guard.executionSucceeded,
    Guard.actionsRecorded, Guard.durationWithinEstimate]
  cases ctx.report <;> simp

/-- The check of the rules says what the first rule that rejects says, and whether a human is to
know. -/
theorem check?_guardRules (reg : Registry Q A) {rules : RuleSet} (t : Thresholds)
    (ctx : CheckContext) {before after : RuleSet} {r : Rule} (list : rules = before ++ r :: after)
    (passes : ∀ b ∈ before, b.Passes ctx.incident ctx.incident.context ctx.analysis)
    (rejects : ¬ r.Passes ctx.incident ctx.incident.context ctx.analysis) :
    let verdict := r.evaluate ctx.incident ctx.incident.context ctx.analysis
    ((preExecution reg rules t).validate ctx).check? "guard_rules" =
      some (.fail "guard_rules" ("rule '" ++ verdict.rule ++ "' rejected: " ++
        verdict.reason.getD "rejected" ++
          if verdict.escalate then " (escalated for manual review)" else "") .critical) := by
  intro verdict
  have rejected : verdict.passed = false := Bool.eq_false_iff.2 rejects
  have first : rules.evaluate ctx.incident ctx.incident.context ctx.analysis = verdict :=
    list ▸ RuleSet.evaluate_first passes rejects
  have escalates : verdict.shouldEscalate = verdict.escalate := by
    rw [Verdict.shouldEscalate, rejected, Bool.not_false, Bool.true_and]
  have run : (guardRules rules).run ctx = .fail "guard_rules" (rejection verdict) .critical := by
    simp only [guardRules, first, rejected, Bool.false_eq_true, if_false]
  have other : ((NamedCheck.remediatorAvailable reg).run ctx).name = "remediator_available" :=
    (Guard.remediatorAvailable reg).named ctx
  rw [rejection, escalates] at run
  simp [validate, preExecution, Validation.check?, other, run, Check.fail]

end CheckChain

/-! ## What the batteries do not look at -/

namespace CheckContext

/-- The same incident with another confidence. -/
def withConfidence (ctx : CheckContext) (confidence : Float) : CheckContext :=
  { ctx with incident := ctx.incident.withConfidence confidence }

/-- The same execution, expected to take another time or having taken another time. -/
def timed (ctx : CheckContext) (estimate : Option UInt64) (duration : Float) : CheckContext :=
  { ctx with
    plan := { ctx.plan with estimatedSeconds := estimate }
    report := ctx.report.map fun r => { r with durationSeconds := duration } }

/-- The rules, and the remediator that a plan asks for, say of an incident what they would say of it
with another confidence. -/
structure Impartial (reg : Registry Q A) (rules : RuleSet) (ctx : CheckContext)
    (confidence : Float) : Prop where
  handles : ∀ r, reg.get? ctx.plan.actionType = some r →
    r.canHandle (ctx.incident.withConfidence confidence) ctx.plan =
      r.canHandle ctx.incident ctx.plan
  validates : ∀ r, reg.get? ctx.plan.actionType = some r →
    r.validateParameters (ctx.incident.withConfidence confidence) ctx.plan =
      r.validateParameters ctx.incident ctx.plan
  judges : ∀ r ∈ rules,
    r.evaluate (ctx.incident.withConfidence confidence) ctx.incident.context ctx.analysis =
      r.evaluate ctx.incident ctx.incident.context ctx.analysis

end CheckContext

namespace CheckChain

theorem preExecution_confidence {reg : Registry Q A} {rules : RuleSet} {ctx : CheckContext}
    {confidence : Float} (impartial : ctx.Impartial reg rules confidence) (t : Thresholds)
    (least : Float) :
    let v := (preExecution reg rules t).validate ctx
    let v' := (preExecution reg rules { t with minConfidence := least }).validate
      (ctx.withConfidence confidence)
    v.blockingReasons = v'.blockingReasons ∧ v.passed = v'.passed := by
  have remediator : (NamedCheck.remediatorAvailable reg).run ctx =
      (NamedCheck.remediatorAvailable reg).run (ctx.withConfidence confidence) := by
    have resolved : reg.resolve (ctx.incident.withConfidence confidence) ctx.plan =
        reg.resolve ctx.incident ctx.plan := by
      have handles := impartial.handles
      simp only [Registry.resolve]
      cases found : reg.get? ctx.plan.actionType with
      | none => rfl
      | some r => simp only [handles r found]; rfl
    simp only [NamedCheck.remediatorAvailable, CheckContext.withConfidence, resolved]
  have guard : (NamedCheck.guardRules rules).run ctx =
      (NamedCheck.guardRules rules).run (ctx.withConfidence confidence) := by
    have same : rules.evaluate (ctx.incident.withConfidence confidence) ctx.incident.context
        ctx.analysis = rules.evaluate ctx.incident ctx.incident.context ctx.analysis := by
      rw [RuleSet.evaluate, RuleSet.evaluate, List.map_congr_left impartial.judges]
    have context : (ctx.incident.withConfidence confidence).context = ctx.incident.context := rfl
    simp only [NamedCheck.guardRules, CheckContext.withConfidence, context, same]
  have parameters : (NamedCheck.parameters reg).run ctx =
      (NamedCheck.parameters reg).run (ctx.withConfidence confidence) := by
    have validates := impartial.validates
    simp only [NamedCheck.parameters, CheckContext.withConfidence]
    cases found : reg.get? ctx.plan.actionType with
    | none => rfl
    | some r => simp only [validates r found]
  -- only the guard on the confidence may speak differently, and it never blocks
  have agree : List.Forall₂ (Guard.Agree ctx (ctx.withConfidence confidence))
      (Guard.preExecution reg rules t)
      (Guard.preExecution reg rules { t with minConfidence := least }) :=
    .cons (.of_run remediator) <| .cons (.of_run guard) <| .cons (.of_run rfl) <|
      .cons (.of_run rfl) <| .cons (.of_advice rfl rfl) <| .cons (.of_run parameters) .nil
  exact Guard.chain_congr agree

theorem postExecution_timed (t : Thresholds) (ctx : CheckContext) (tolerance : Float)
    (estimate : Option UInt64) (duration : Float) :
    let v := (postExecution t).validate ctx
    let v' := (postExecution { t with durationTolerance := tolerance }).validate
      (ctx.timed estimate duration)
    v.blockingReasons = v'.blockingReasons ∧ v.passed = v'.passed := by
  have succeeded : NamedCheck.executionSucceeded.run ctx =
      NamedCheck.executionSucceeded.run (ctx.timed estimate duration) := by
    simp only [NamedCheck.executionSucceeded, CheckContext.timed]
    cases ctx.report <;> rfl
  have acted : NamedCheck.actionsRecorded.run ctx =
      NamedCheck.actionsRecorded.run (ctx.timed estimate duration) := by
    simp only [NamedCheck.actionsRecorded, CheckContext.timed]
    cases ctx.report <;> rfl
  have agree : List.Forall₂ (Guard.Agree ctx (ctx.timed estimate duration))
      (Guard.postExecution t) (Guard.postExecution { t with durationTolerance := tolerance }) :=
    .cons (.of_run succeeded) <| .cons (.of_run acted) <| .cons (.of_advice rfl rfl) .nil
  exact Guard.chain_congr agree

/-! ## The verdicts -/

/-- Before an execution a plan passes just when it is ready: there is a remediator for it with the
parameters it needs, no rule objects, a human has approved where that is needed, and the risk is
bearable. There are always the six checks, in order, and a reason for every condition that does not
hold and for no other; the rules speak through the first that rejects. After an execution it takes a
success and an action to pass. Confidence and durations have no say, and in any stage only failures
of severity error and critical have one. -/
theorem standard_batteries_judge (reg : Registry Q A) (rules : RuleSet) (t : Thresholds) :
    (∀ ctx : CheckContext,
      let v := (preExecution reg rules t).validate ctx
      (v.passed = true ↔ Ready reg rules t.maxAutoRisk ctx) ∧
      v.checks.map Check.name = ["remediator_available", "guard_rules", "approval", "risk_level",
        "incident_confidence", "parameters"] ∧
      v.blockingReasons =
        (Guard.violated (Guard.preExecution reg rules t) ctx).map (·.reason ctx) ∧
      (v.blockingReasons = [] ↔ v.passed = true) ∧
      (∀ (before after : RuleSet) (r : Rule), rules = before ++ r :: after →
        (∀ b ∈ before, b.Passes ctx.incident ctx.incident.context ctx.analysis) →
        ¬ r.Passes ctx.incident ctx.incident.context ctx.analysis →
        let verdict := r.evaluate ctx.incident ctx.incident.context ctx.analysis
        v.check? "guard_rules" = some (.fail "guard_rules" ("rule '" ++ verdict.rule ++
          "' rejected: " ++ verdict.reason.getD "rejected" ++
            if verdict.escalate then " (escalated for manual review)" else "") .critical)) ∧
      ∀ least confidence : Float, ctx.Impartial reg rules confidence →
        let v' := (preExecution reg rules { t with minConfidence := least }).validate
          (ctx.withConfidence confidence)
        v.blockingReasons = v'.blockingReasons ∧ v.passed = v'.passed) ∧
    (∀ ctx : CheckContext,
      let v := (postExecution t).validate ctx
      (v.passed = true ↔ ∃ report, ctx.report = some report ∧ report.success = true ∧
        report.actionsPerformed ≠ []) ∧
      v.checks.map Check.name =
        ["execution_succeeded", "actions_recorded", "duration_within_estimate"] ∧
      v.blockingReasons = (Guard.violated (Guard.postExecution t) ctx).map (·.reason ctx) ∧
      (v.blockingReasons = [] ↔ v.passed = true) ∧
      ∀ (tolerance : Float) (estimate : Option UInt64) (duration : Float),
        let v' := (postExecution { t with durationTolerance := tolerance }).validate
          (ctx.timed estimate duration)
        v.blockingReasons = v'.blockingReasons ∧ v.passed = v'.passed) ∧
    ∀ (stage : String) (checks : List Check),
      (Validation.ofChecks stage checks).passed = true ↔
        ∀ c ∈ checks, c.passed = false → c.severity ≠ .error ∧ c.severity ≠ .critical := by
  refine ⟨fun ctx => ?_, fun ctx => ?_, fun stage checks => ?_⟩
  · let guards := Guard.preExecution reg rules t
    exact ⟨preExecution_passed_iff reg rules t ctx, Guard.chain_names _ guards ctx,
      Guard.chain_reasons _ guards ctx, Guard.chain_reasons_eq_nil_iff _ guards ctx,
      fun before after r list passes rejects => check?_guardRules reg t ctx list passes rejects,
      fun least confidence impartial => preExecution_confidence impartial t least⟩
  · let guards := Guard.postExecution t
    exact ⟨postExecution_passed_iff t ctx, Guard.chain_names _ guards ctx,
      Guard.chain_reasons _ guards ctx, Guard.chain_reasons_eq_nil_iff _ guards ctx,
      postExecution_timed t ctx⟩
  · rw [Validation.ofChecks_passed_iff]
    refine forall₂_congr fun c _ => ?_
    rw [Check.isBlocking]
    cases c.passed <;> cases c.severity <;> simp [CheckSeverity.isBlocking]

/-- A plan that nothing stands against but the second of two rules. -/
theorem standard_batteries_judge_of_veto :
    let reg : Registry Unit (fun _ => Unit) :=
      Registry.empty.register (.plain .noOp fun _ _ => .done (.succeeded "done" [] 0))
    let calm : Rule := ⟨"calm", fun _ _ _ => .pass "calm"⟩
    let freeze : Rule := ⟨"freeze", fun _ _ _ => .reject "freeze" "no changes today" true⟩
    let ctx : CheckContext :=
      ⟨.new ⟨7⟩ ⟨1700000000, 0⟩ .github "flaky_test", .new .noOp "", false, none, none⟩
    let v := (preExecution reg [calm, freeze] .standard).validate ctx
    (([calm, freeze] : RuleSet) = [calm] ++ freeze :: [] ∧
      (∀ b ∈ [calm], b.Passes ctx.incident ctx.incident.context ctx.analysis) ∧
      ¬ freeze.Passes ctx.incident ctx.incident.context ctx.analysis ∧
      ctx.Impartial reg [calm, freeze] 0.0) ∧
    v.check? "guard_rules" = some (.fail "guard_rules"
      "rule 'freeze' rejected: no changes today (escalated for manual review)" .critical) ∧
    v.blockingReasons =
      ["guard_rules: rule 'freeze' rejected: no changes today (escalated for manual review)"] ∧
    v.passed = false ∧
    ((preExecution reg [calm, freeze] .standard).validate (ctx.withConfidence 0.0)).passed =
      false := by
  intro reg calm freeze ctx v
  have list : ([calm, freeze] : RuleSet) = [calm] ++ freeze :: [] := rfl
  have passes : ∀ b ∈ [calm], b.Passes ctx.incident ctx.incident.context ctx.analysis := by
    simp [calm, Rule.Passes, Verdict.pass]
  have rejects : ¬ freeze.Passes ctx.incident ctx.incident.context ctx.analysis := by
    simp [freeze, Rule.Passes, Verdict.reject]
  have impartial : ctx.Impartial reg [calm, freeze] 0.0 := by
    refine ⟨fun r found => ?_, fun r found => ?_, by simp [calm, freeze]⟩
    · cases found
      rfl
    · cases found
      rfl
  obtain ⟨-, -, reasons, iff_, rules, same⟩ :=
    (standard_batteries_judge reg [calm, freeze] .standard).1 ctx
  have reason : v.blockingReasons =
      ["guard_rules: rule 'freeze' rejected: no changes today (escalated for manual review)"] :=
    reasons.trans (by decide +kernel)
  have failed : v.passed = false := by
    rw [Bool.eq_false_iff, ne_eq, ← iff_, reason]
    exact List.cons_ne_nil _ _
  have again := (same Thresholds.standard.minConfidence 0.0 impartial).2
  exact ⟨⟨list, passes, rejects, impartial⟩, rules _ _ _ list passes rejects, reason, failed,
    again.symm.trans failed⟩

end CheckChain

end Remedy
