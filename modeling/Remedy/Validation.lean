import Remedy.Json.Codec

/-!
# Checks and the verdict of a stage

A stage runs a list of named checks. A failed check blocks the stage when its severity is error or
critical; any other failure is a warning.
-/

namespace Remedy

open Json

inductive CheckSeverity where
  | info
  | warning
  | error
  | critical
deriving DecidableEq

namespace CheckSeverity

def name : CheckSeverity → String
  | info => "info"
  | warning => "warning"
  | error => "error"
  | critical => "critical"

def all : List CheckSeverity := [info, warning, error, critical]

def isBlocking : CheckSeverity → Bool
  | error | critical => true
  | _ => false

instance : Coded CheckSeverity := codedByName all name

end CheckSeverity

structure Check where
  name : String
  passed : Bool
  message : String
  severity : CheckSeverity
deriving DecidableEq

namespace Check

def pass (name message : String) : Check := ⟨name, true, message, .info⟩

def fail (name message : String) (severity : CheckSeverity) : Check :=
  ⟨name, false, message, severity⟩

def isBlocking (c : Check) : Bool := !c.passed && c.severity.isBlocking

def fields : List String := ["name", "passed", "message", "severity"]

instance : Coded Check where
  encode c := .obj
    [("name", encode c.name), ("passed", encode c.passed), ("message", encode c.message),
      ("severity", encode c.severity)]
  decode r := do
    let fs ← Fields.of? fields r
    some
      { name := ← fs.required "name"
        passed := ← fs.required "passed"
        message := ← fs.required "message"
        severity := ← fs.required "severity" }

end Check

/-- The verdict of a stage with the checks that it rests on. -/
structure Validation where
  passed : Bool
  message : String
  checks : List Check
deriving DecidableEq

namespace Validation

/-- A stage passes unless a check blocks it; its message counts what it does not name. -/
def ofChecks (stage : String) (checks : List Check) : Validation :=
  let blocking := (checks.filter Check.isBlocking).map Check.name
  let warnings := checks.countP (!·.passed) - blocking.length
  let count := toString checks.length ++ " check(s)"
  if !blocking.isEmpty then
    ⟨false, stage ++ " failed: [" ++ ", ".intercalate blocking ++ "]", checks⟩
  else if 0 < warnings then
    ⟨true, stage ++ " passed with " ++ toString warnings ++ " warning(s) (" ++ count ++ ")", checks⟩
  else
    ⟨true, stage ++ " passed (" ++ count ++ ")", checks⟩

/-- The verdict keeps all checks, in order. -/
@[simp] theorem ofChecks_checks (stage : String) (checks : List Check) :
    (ofChecks stage checks).checks = checks := by
  unfold ofChecks
  dsimp only
  split
  · rfl
  · split <;> rfl

theorem ofChecks_passed_iff (stage : String) (checks : List Check) :
    (ofChecks stage checks).passed = true ↔ ∀ c ∈ checks, c.isBlocking = false := by
  have blocked : (checks.filter Check.isBlocking).map Check.name = [] ↔
      ∀ c ∈ checks, c.isBlocking = false := by
    simp [List.filter_eq_nil_iff]
  rw [← blocked]
  unfold ofChecks
  cases (checks.filter Check.isBlocking).map Check.name with
  | nil =>
    simp only [List.isEmpty_nil, Bool.not_true, Bool.false_eq_true, if_false]
    split <;> simp
  | cons name rest => simp

def check? (v : Validation) (name : String) : Option Check := v.checks.find? (·.name == name)

def failedChecks (v : Validation) : List Check := v.checks.filter (!·.passed)

/-- One line for each check that blocks. -/
def blockingReasons (v : Validation) : List String :=
  (v.checks.filter Check.isBlocking).map fun c => c.name ++ ": " ++ c.message

def fields : List String := ["passed", "message", "checks"]

instance : Coded Validation where
  encode v := .obj
    [("passed", encode v.passed), ("message", encode v.message), ("checks", encode v.checks)]
  decode r := do
    let fs ← Fields.of? fields r
    some
      { passed := ← fs.required "passed"
        message := ← fs.required "message"
        checks := ← fs.required "checks" }

end Validation

end Remedy
