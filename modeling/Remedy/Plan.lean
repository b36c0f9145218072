import Remedy.Incident

/-!
# Remediation plans

The one action chosen for an incident, with its risk and its parameters. Parameters win over what
the incident says.
-/

namespace Remedy

open Json

/-- One remediator serves each type of action. -/
inductive ActionType where
  | rerunWorkflow
  | restartPod
  | rollbackDeployment
  | scaleDeployment
  | clearCache
  | noOp
deriving DecidableEq

namespace ActionType

def name : ActionType → String
  | rerunWorkflow => "rerun_workflow"
  | restartPod => "restart_pod"
  | rollbackDeployment => "rollback_deployment"
  | scaleDeployment => "scale_deployment"
  | clearCache => "clear_cache"
  | noOp => "no_op"

def all : List ActionType :=
  [rerunWorkflow, restartPod, rollbackDeployment, scaleDeployment, clearCache, noOp]

instance : Coded ActionType := codedByName all name

end ActionType

inductive RiskLevel where
  | low
  | medium
  | high
  | critical
deriving DecidableEq

namespace RiskLevel

def name : RiskLevel → String
  | low => "low"
  | medium => "medium"
  | high => "high"
  | critical => "critical"

def all : List RiskLevel := [low, medium, high, critical]

def ofName? (s : String) : Option RiskLevel := all.find? fun r => r.name == s

/-- Higher is riskier. -/
def rank : RiskLevel → Nat
  | low => 0
  | medium => 1
  | high => 2
  | critical => 3

instance : LE RiskLevel := ⟨fun a b => a.rank ≤ b.rank⟩

instance (a b : RiskLevel) : Decidable (a ≤ b) := inferInstanceAs (Decidable (a.rank ≤ b.rank))

instance : Coded RiskLevel := codedByName all name

end RiskLevel

structure Plan where
  actionType : ActionType
  riskLevel : RiskLevel
  parameters : Context
  requiresApproval : Bool
  requiresRollbackSnapshot : Bool
  estimatedSeconds : Option UInt64
  reason : String

namespace Plan

def new (actionType : ActionType) (reason : String) : Plan :=
  { actionType, riskLevel := .low, parameters := .empty, requiresApproval := false,
    requiresRollbackSnapshot := false, estimatedSeconds := none, reason }

def withParameter (p : Plan) (key : String) (value : Json) : Plan :=
  { p with parameters := p.parameters.set key value }

def withRiskLevel (p : Plan) (riskLevel : RiskLevel) : Plan := { p with riskLevel }

def withApprovalRequired (p : Plan) (required : Bool) : Plan :=
  { p with requiresApproval := required }

def withRollbackSnapshot (p : Plan) (required : Bool) : Plan :=
  { p with requiresRollbackSnapshot := required }

def withEstimatedDuration (p : Plan) (seconds : UInt64) : Plan :=
  { p with estimatedSeconds := some seconds }

def fields : List String :=
  ["action_type", "risk_level", "parameters", "requires_approval", "requires_rollback_snapshot",
    "estimated_duration_seconds", "reason"]

instance : Coded Plan where
  encode p := .obj <|
    [("action_type", encode p.actionType), ("risk_level", encode p.riskLevel),
      ("parameters", encode p.parameters), ("requires_approval", encode p.requiresApproval),
      ("requires_rollback_snapshot", encode p.requiresRollbackSnapshot)]
    ++ present "estimated_duration_seconds" p.estimatedSeconds
    ++ [("reason", encode p.reason)]
  decode r := do
    let fs ← Fields.of? fields r
    some
      { actionType := ← fs.required "action_type"
        riskLevel := ← fs.defaulting "risk_level" RiskLevel.low
        parameters := ← fs.defaulting "parameters" Context.empty
        requiresApproval := ← fs.defaulting "requires_approval" false
        requiresRollbackSnapshot := ← fs.defaulting "requires_rollback_snapshot" false
        estimatedSeconds := ← fs.defaulting "estimated_duration_seconds" none
        reason := ← fs.defaulting "reason" "" }

end Plan

end Remedy
