import Remedy.Config
import Remedy.Remediator

/-!
# The checks before and after an execution

A chain runs its checks in order and makes a verdict of them. The standard chains are fixed
batteries: six checks before an execution, three after it.
-/

namespace Remedy

/-- All that a check may look at. -/
structure CheckContext where
  incident : Incident
  plan : Plan
  approved : Bool
  analysis : Option Analysis
  /-- The report, after an execution. -/
  report : Option Report

structure NamedCheck where
  name : String
  run : CheckContext → Check

structure CheckChain where
  stage : String
  checks : List NamedCheck

namespace CheckChain

def names (c : CheckChain) : List String := c.checks.map (·.name)

def withCheck (c : CheckChain) (check : NamedCheck) : CheckChain :=
  { c with checks := c.checks ++ [check] }

def validate (c : CheckChain) (ctx : CheckContext) : Validation :=
  .ofChecks c.stage (c.checks.map fun check => check.run ctx)

end CheckChain

namespace NamedCheck

variable {Q : Type} {A : Q → Type}

def remediatorAvailable (reg : Registry Q A) : NamedCheck where
  name := "remediator_available"
  run ctx :=
    match reg.resolve ctx.incident ctx.plan with
    | .ok _ =>
      .pass "remediator_available" ("remediator registered for " ++ ctx.plan.actionType.name)
    | .error fault => .fail "remediator_available" fault.text .critical

def rejection (v : Verdict) : String :=
  "rule '" ++ v.rule ++ "' rejected: " ++ v.reason.getD "rejected"
    ++ (if v.shouldEscalate then " (escalated for manual review)" else "")

def guardRules (rules : RuleSet) : NamedCheck where
  name := "guard_rules"
  run ctx :=
    let v := rules.evaluate ctx.incident ctx.incident.context ctx.analysis
    if v.passed then .pass "guard_rules" (toString rules.length ++ " guard rule(s) passed")
    else .fail "guard_rules" (rejection v) .critical

def approval : NamedCheck where
  name := "approval"
  run ctx :=
    if !ctx.plan.requiresApproval then .pass "approval" "plan does not require approval"
    else if ctx.approved then .pass "approval" "plan approved"
    else .fail "approval" "plan requires approval before execution" .error

def riskWithinLimit (limit : RiskLevel) : NamedCheck where
  name := "risk_level"
  run ctx :=
    let risk := ctx.plan.riskLevel
    if risk ≤ limit then
      .pass "risk_level" ("risk " ++ risk.name ++ " within automatic limit " ++ limit.name)
    else
      .fail "risk_level" ("risk " ++ risk.name ++ " exceeds automatic limit " ++ limit.name) .error

def incidentConfidence (least : Float) : NamedCheck where
  name := "incident_confidence"
  run ctx :=
    let shown := "confidence " ++ Decimal.places 2 ctx.incident.confidence
    if least ≤ ctx.incident.confidence then .pass "incident_confidence" shown
    else .fail "incident_confidence" (shown ++ " below " ++ Decimal.places 2 least) .warning

def parameters (reg : Registry Q A) : NamedCheck where
  name := "parameters"
  run ctx :=
    match reg.get? ctx.plan.actionType with
    | none =>
      .fail "parameters"
        ("no remediator to validate parameters for " ++ ctx.plan.actionType.name) .error
    | some r =>
      match r.validateParameters ctx.incident ctx.plan with
      | .ok () => .pass "parameters" "parameters resolved"
      | .error fault => .fail "parameters" fault.text .error

def executionSucceeded : NamedCheck where
  name := "execution_succeeded"
  run ctx :=
    match ctx.report with
    | none => .fail "execution_succeeded" "no execution result" .critical
    | some r =>
      if r.success then .pass "execution_succeeded" "execution reported success"
      else .fail "execution_succeeded" (r.errorMessage.getD "execution reported failure") .critical

def actionsRecorded : NamedCheck where
  name := "actions_recorded"
  run ctx :=
    let count := (ctx.report.map fun r => r.actionsPerformed.length).getD 0
    if 0 < count then .pass "actions_recorded" (toString count ++ " action(s) recorded")
    else .fail "actions_recorded" "no actions were performed" .error

def durationWithinEstimate (tolerance : Float) : NamedCheck where
  name := "duration_within_estimate"
  run ctx :=
    match ctx.plan.estimatedSeconds, ctx.report with
    | some estimate, some r =>
      let limit := Decimal.nearest estimate.toNat 0 * tolerance
      let took := "took " ++ Decimal.places 1 r.durationSeconds ++ "s"
      let expected := toString estimate.toNat ++ "s"
      if r.durationSeconds ≤ limit then
        .pass "duration_within_estimate" (took ++ " (estimate " ++ expected ++ ")")
      else
        .fail "duration_within_estimate"
          (took ++ ", more than " ++ Decimal.places 1 tolerance ++ "x the " ++ expected
            ++ " estimate") .warning
    | _, _ => .pass "duration_within_estimate" "no duration estimate"

end NamedCheck

namespace CheckChain

variable {Q : Type} {A : Q → Type}

/-- The standard battery before an execution. -/
def preExecution (reg : Registry Q A) (rules : RuleSet) (t : Thresholds) : CheckChain :=
  { stage := Stage.preValidation
    checks :=
      [.remediatorAvailable reg, .guardRules rules, .approval, .riskWithinLimit t.maxAutoRisk,
        .incidentConfidence t.minConfidence, .parameters reg] }

/-- The standard battery after an execution. -/
def postExecution (t : Thresholds) : CheckChain :=
  { stage := Stage.postValidation
    checks := [.executionSucceeded, .actionsRecorded, .durationWithinEstimate t.durationTolerance] }

end CheckChain

end Remedy
