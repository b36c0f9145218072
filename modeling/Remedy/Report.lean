import Remedy.Fault
import Remedy.Validation

/-!
# Reports

The one artifact that every remediation ends with: what came of it, what was done, the verdicts of
the stages it went through, and a log in the order of what happened.
-/

namespace Remedy

open Json

/-- The stages under whose names verdicts are kept. -/
def Stage.preValidation : String := "pre_validation"
def Stage.blastRadius : String := "blast_radius"
def Stage.postValidation : String := "post_validation"

inductive Outcome where
  | success
  | failed
  | partialSuccess
  | rejected
  | timedOut
  | rolledBack
deriving DecidableEq

namespace Outcome

def name : Outcome → String
  | success => "success"
  | failed => "failed"
  | partialSuccess => "partial_success"
  | rejected => "rejected"
  | timedOut => "timed_out"
  | rolledBack => "rolled_back"

def all : List Outcome := [success, failed, partialSuccess, rejected, timedOut, rolledBack]

instance : Coded Outcome := codedByName all name

end Outcome

inductive LogLevel where
  | info
  | warn
  | error
deriving DecidableEq

namespace LogLevel

def name : LogLevel → String
  | info => "info"
  | warn => "warn"
  | error => "error"

def all : List LogLevel := [info, warn, error]

instance : Coded LogLevel := codedByName all name

end LogLevel

structure LogEntry where
  time : Time.Instant
  level : LogLevel
  stage : String
  message : String
deriving DecidableEq

namespace LogEntry

def fields : List String := ["timestamp", "level", "stage", "message"]

instance : Coded LogEntry where
  encode e := .obj
    [("timestamp", encode e.time), ("level", encode e.level), ("stage", encode e.stage),
      ("message", encode e.message)]
  decode r := do
    let fs ← Fields.of? fields r
    some
      { time := ← fs.required "timestamp"
        level := ← fs.required "level"
        stage := ← fs.required "stage"
        message := ← fs.required "message" }

/-- Level, stage and message. -/
def brief (e : LogEntry) : Json := .arr [encode e.level, .str e.stage, .str e.message]

end LogEntry

/-- Entries in the order in which they were added. -/
abbrev ExecutionLog : Type := List LogEntry

namespace ExecutionLog

def add (log : ExecutionLog) (time : Time.Instant) (level : LogLevel) (stage message : String) :
    ExecutionLog :=
  log ++ [⟨time, level, stage, message⟩]

/-- Append entries that were recorded elsewhere. -/
def extend (log : ExecutionLog) (entries : List LogEntry) : ExecutionLog := log ++ entries

/-- No entry is older than the one before it. -/
def isChronological (log : ExecutionLog) : Bool :=
  (log.zip log.tail).all fun (a, b) => a.time ≤ b.time

end ExecutionLog

structure Report where
  success : Bool
  outcome : Outcome
  message : String
  errorMessage : Option String
  errorTraceback : Option String
  durationSeconds : Float
  actionsPerformed : List String
  metadata : Dict Json
  preValidationPassed : Bool
  postValidationPassed : Bool
  rollbackRequired : Bool
  rollbackPerformed : Bool
  executionLogs : List LogEntry
  validationDetails : Dict Validation

namespace Report

def base (success : Bool) (outcome : Outcome) (message : String) : Report :=
  { success, outcome, message, errorMessage := none, errorTraceback := none,
    durationSeconds := 0.0, actionsPerformed := [], metadata := Dict.empty,
    preValidationPassed := true, postValidationPassed := true, rollbackRequired := false,
    rollbackPerformed := false, executionLogs := [], validationDetails := Dict.empty }

def succeeded (message : String) (actions : List String) (seconds : Float) : Report :=
  { base true .success message with actionsPerformed := actions, durationSeconds := seconds }

def failure (message error : String) (seconds : Float) (rollbackRequired : Bool) : Report :=
  { base false .failed message with
    errorMessage := some error, durationSeconds := seconds, rollbackRequired }

def withOutcome (r : Report) (outcome : Outcome) : Report := { r with outcome }

def withTraceback (r : Report) (traceback : String) : Report :=
  { r with errorTraceback := some traceback }

def withActions (r : Report) (actions : List String) : Report :=
  { r with actionsPerformed := actions }

/-- Values are kept in canonical form. -/
def withMetadata (r : Report) (key : String) (value : Json) : Report :=
  { r with metadata := r.metadata.insert key value.canonical }

def withLogs (r : Report) (log : ExecutionLog) : Report := { r with executionLogs := log }

/-- A failure whose traceback is the chain of causes. -/
def ofFault (message : String) (fault : Fault) (seconds : Float) (rollbackRequired : Bool) :
    Report :=
  (failure message fault.text seconds rollbackRequired).withTraceback fault.chain

/-- Nothing was executed. -/
def rejected (message : String) : Report :=
  { base false .rejected message with errorMessage := some message }

def fields : List String :=
  ["success", "outcome", "message", "error_message", "error_traceback", "duration_seconds",
    "actions_performed", "metadata", "pre_validation_passed", "post_validation_passed",
    "rollback_required", "rollback_performed", "execution_logs", "validation_details"]

/-- The members of a report whose log is written like this. -/
def members (r : Report) (log : Json) : List (String × Json) :=
  [("success", encode r.success), ("outcome", encode r.outcome), ("message", encode r.message),
    ("error_message", encode r.errorMessage), ("error_traceback", encode r.errorTraceback),
    ("duration_seconds", encode r.durationSeconds),
    ("actions_performed", encode r.actionsPerformed), ("metadata", encode r.metadata),
    ("pre_validation_passed", encode r.preValidationPassed),
    ("post_validation_passed", encode r.postValidationPassed),
    ("rollback_required", encode r.rollbackRequired),
    ("rollback_performed", encode r.rollbackPerformed), ("execution_logs", log),
    ("validation_details", encode r.validationDetails)]

/-- A report without the times of its log. -/
def brief (r : Report) : Json := .obj (r.members (.arr (r.executionLogs.map LogEntry.brief)))

instance : Coded Report where
  encode r := .obj (r.members (encode r.executionLogs))
  decode r := do
    let fs ← Fields.of? fields r
    some
      { success := ← fs.required "success"
        outcome := ← fs.required "outcome"
        message := ← fs.required "message"
        errorMessage := ← fs.optional "error_message"
        errorTraceback := ← fs.optional "error_traceback"
        durationSeconds := ← fs.required "duration_seconds"
        actionsPerformed := ← fs.required "actions_performed"
        metadata := ← fs.required "metadata"
        preValidationPassed := ← fs.required "pre_validation_passed"
        postValidationPassed := ← fs.required "post_validation_passed"
        rollbackRequired := ← fs.required "rollback_required"
        rollbackPerformed := ← fs.required "rollback_performed"
        executionLogs := ← fs.required "execution_logs"
        validationDetails := ← fs.required "validation_details" }

end Report

end Remedy
