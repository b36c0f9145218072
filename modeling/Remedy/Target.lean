import Remedy.Incident

/-!
# Targets

Incidents that hit the same target share a budget. A policy lists the fields that may name the
target; the first one that an incident has is used, and incidents without any share one key.
-/

namespace Remedy

open Json

inductive TargetField where
  | service
  | namespace
  | repository
deriving DecidableEq

namespace TargetField

def name : TargetField → String
  | service => "service"
  | «namespace» => "namespace"
  | repository => "repository"

def all : List TargetField := [service, «namespace», repository]

def read? : TargetField → Incident → Option String
  | service => Incident.service?
  | «namespace» => Incident.namespace?
  | repository => Incident.repository?

instance : Coded TargetField := codedByName all name

end TargetField

structure TargetKey where
  text : String
deriving DecidableEq

namespace TargetKey

/-- The key of incidents that name no target. -/
def global : TargetKey := ⟨"global"⟩

def of (field : TargetField) (value : String) : TargetKey := ⟨field.name ++ ":" ++ value⟩

/-- A key names one field and one value, whatever the value holds. -/
theorem of_inj {field field' : TargetField} {value value' : String} :
    of field value = of field' value' ↔ field = field' ∧ value = value' := by
  cases field <;> cases field' <;>
    simp [of, TargetField.name, ← String.toList_inj]

/-- The shared key is that of no field. -/
theorem of_ne_global (field : TargetField) (value : String) : of field value ≠ global := by
  cases field <;> simp [of, global, TargetField.name, ← String.toList_inj]

instance : Coded TargetKey where
  encode k := .str k.text
  decode
    | .str s => some ⟨s⟩
    | _ => none

end TargetKey

structure TargetKeyPolicy where
  fields : List TargetField
deriving DecidableEq

namespace TargetKeyPolicy

def standard : TargetKeyPolicy := ⟨[.service, .namespace, .repository]⟩

/-- The first field of the policy that the incident has, with its value. -/
def target? (p : TargetKeyPolicy) (incident : Incident) : Option (TargetField × String) :=
  p.fields.findSome? fun f => (f.read? incident).map fun v => (f, v)

def keyFor (p : TargetKeyPolicy) (incident : Incident) : TargetKey :=
  match p.target? incident with
  | some (field, value) => .of field value
  | none => .global

instance : Coded TargetKeyPolicy where
  encode p := .obj [("fields", encode p.fields)]
  decode r := do
    let fs ← Fields.of? ["fields"] r
    some { fields := ← fs.required "fields" }

end TargetKeyPolicy

end Remedy
