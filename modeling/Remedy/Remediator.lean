import Remedy.Program
import Remedy.Report

/-!
# Remediators

A remediator carries out one type of action. It says which incidents it can handle and whether it
has the parameters it needs, and may offer to roll back. A registry holds one remediator for each
type of action.
-/

namespace Remedy

structure Remediator (Q : Type) (A : Q → Type) where
  actionType : ActionType
  canHandle : Incident → Plan → Bool
  validateParameters : Incident → Plan → Except Fault Unit
  /-- Failures are reports too; only a panic leaves none. -/
  execute : Incident → Plan → Program Q A Report
  /-- Says what was rolled back. -/
  rollback : Option (Incident → Plan → Program Q A (Except Fault String))

namespace Remediator

variable {Q : Type} {A : Q → Type}

/-- Handles every incident of its type, needs no parameters and cannot roll back. -/
def plain (actionType : ActionType) (execute : Incident → Plan → Program Q A Report) :
    Remediator Q A :=
  { actionType, canHandle := fun _ plan => plan.actionType == actionType,
    validateParameters := fun _ _ => .ok (), execute, rollback := none }

end Remediator

/-- Remediators under the names of their action types. -/
abbrev Registry (Q : Type) (A : Q → Type) : Type := Dict (Remediator Q A)

namespace Registry

variable {Q : Type} {A : Q → Type}

def empty : Registry Q A := Dict.empty

/-- A remediator that is there for the same type is replaced. -/
def register (reg : Registry Q A) (r : Remediator Q A) : Registry Q A :=
  Dict.insert reg r.actionType.name r

def get? (reg : Registry Q A) (action : ActionType) : Option (Remediator Q A) :=
  Dict.get? reg action.name

/-- The remediator that will execute a plan for an incident. -/
def resolve (reg : Registry Q A) (incident : Incident) (plan : Plan) :
    Except Fault (Remediator Q A) :=
  match reg.get? plan.actionType with
  | none => .error (.noRemediator plan.actionType)
  | some r =>
    if r.canHandle incident plan then .ok r
    else .error (.unsupported plan.actionType incident.id)

/-- The types that are served, by name. -/
def actionTypes (reg : Registry Q A) : List ActionType := reg.entries.map (·.2.actionType)

end Registry

end Remedy
