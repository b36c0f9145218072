import Remedy.Incident

/-!
# Guard rules

A rule looks at an incident and what the caller knows of its target and gives a verdict. A rule set
asks its rules in order and answers with the first rejection. The blacklist rejects the targets it
lists, by service, by namespace and by repository, in that order.
-/

namespace Remedy

open Json

structure Verdict where
  rule : String
  passed : Bool
  reason : Option String
  /-- A rejection should reach a human. -/
  escalate : Bool
deriving DecidableEq

namespace Verdict

def pass (rule : String) : Verdict := ⟨rule, true, none, false⟩

def reject (rule reason : String) (escalate : Bool) : Verdict :=
  ⟨rule, false, some reason, escalate⟩

def shouldEscalate (v : Verdict) : Bool := !v.passed && v.escalate

def fields : List String := ["rule", "passed", "reason", "escalate"]

instance : Coded Verdict where
  encode v := .obj
    [("rule", encode v.rule), ("passed", encode v.passed), ("reason", encode v.reason),
      ("escalate", encode v.escalate)]
  decode r := do
    let fs ← Fields.of? fields r
    some
      { rule := ← fs.required "rule"
        passed := ← fs.required "passed"
        reason := ← fs.optional "reason"
        escalate := ← fs.required "escalate" }

end Verdict

structure Rule where
  name : String
  evaluate : Incident → Context → Option Analysis → Verdict

/-- Rules in the order in which they are asked. -/
abbrev RuleSet : Type := List Rule

namespace RuleSet

/-- The first rejection, or a pass of the whole set. -/
def evaluate (rules : RuleSet) (incident : Incident) (context : Context)
    (analysis : Option Analysis) : Verdict :=
  ((rules.map fun r => r.evaluate incident context analysis).find? (!·.passed)).getD
    (.pass "rule_set")

end RuleSet

/-! ## The blacklist -/

structure Blacklist where
  services : NameSet
  namespaces : NameSet
  repositories : NameSet
  escalate : Bool

namespace Blacklist

def empty : Blacklist := ⟨Dict.empty, Dict.empty, Dict.empty, false⟩

def withService (b : Blacklist) (name : String) : Blacklist :=
  { b with services := b.services.insert name }

def withNamespace (b : Blacklist) (name : String) : Blacklist :=
  { b with namespaces := b.namespaces.insert name }

def withRepository (b : Blacklist) (name : String) : Blacklist :=
  { b with repositories := b.repositories.insert name }

def isEmpty (b : Blacklist) : Bool :=
  b.services.isEmpty && b.namespaces.isEmpty && b.repositories.isEmpty

def fields : List String := ["services", "namespaces", "repositories", "escalate"]

instance : Coded Blacklist where
  encode b := .obj
    [("services", encode b.services), ("namespaces", encode b.namespaces),
      ("repositories", encode b.repositories), ("escalate", encode b.escalate)]
  decode r := do
    let fs ← Fields.of? fields r
    some
      { services := ← fs.defaulting "services" empty.services
        namespaces := ← fs.defaulting "namespaces" empty.namespaces
        repositories := ← fs.defaulting "repositories" empty.repositories
        escalate := ← fs.defaulting "escalate" empty.escalate }

/-- The value of a field: what the caller supplies, or else what the incident says. -/
def service? (incident : Incident) (context : Context) : Option String :=
  (context.text? ["service", "service_name"]).or incident.service?

def namespace? (incident : Incident) (context : Context) : Option String :=
  (context.text? ["namespace"]).or incident.namespace?

def repository? (incident : Incident) (context : Context) : Option String :=
  (context.text? ["repository", "repo"]).or incident.repository?

/-- The fields of a target with the names that are listed for them. -/
def lookups (b : Blacklist) (incident : Incident) (context : Context) :
    List (String × Option String × NameSet) :=
  [("service", service? incident context, b.services),
    ("namespace", namespace? incident context, b.namespaces),
    ("repository", repository? incident context, b.repositories)]

/-- The first field whose value is listed. -/
def hit? (b : Blacklist) (incident : Incident) (context : Context) : Option (String × String) :=
  (b.lookups incident context).findSome? fun (field, value, listed) =>
    value.bind fun v => if listed.contains v then some (field, v) else none

def ruleName : String := "blacklist"

def rule (b : Blacklist) : Rule where
  name := ruleName
  evaluate incident context _ :=
    match b.hit? incident context with
    | some (field, value) =>
      .reject ruleName (field ++ " '" ++ value ++ "' is blacklisted for automated remediation")
        b.escalate
    | none => .pass ruleName

end Blacklist

end Remedy
