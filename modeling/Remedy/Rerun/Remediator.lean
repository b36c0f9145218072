import Remedy.Config
import Remedy.Remediator
import Remedy.Workflow.Monitor

/-!
# Rerunning a workflow

Looks at the run once, asks for a rerun of it or of its failed jobs, and then waits for the end or
does not. What was done before a failure is kept in the report of the failure.
-/

namespace Remedy.Rerun

open Json Workflow

variable {Q : Type} {A : Q → Type}

/-- Milliseconds as seconds: whole seconds and a fraction, each a double, added. -/
def seconds (ms : Nat) : Float :=
  Decimal.nearest (ms / 1000) 0 + Decimal.nearest (ms % 1000 * 1000000) 0 / 1000000000.0

/-- How far a rerun came. -/
inductive Progress where
  | triggered
  | completed (report : Completion)

def rerunAction (failedOnly : Bool) : String :=
  if failedOnly then "Reran only failed jobs" else "Reran entire workflow"

/-- The actions that were performed, and how it ended. -/
def drive [Timer] (p : Provider Q A) (params : Parameters) :
    Program Q A (List String × Except RunError Progress) := do
  match ← (p.call params.run .getRun).run with
  | .error e => return ([], .error e)
  | .ok _ =>
    match ← (p.rerun params.run params.failedOnly).run with
    | .error e => return ([], .error e)
    | .ok () =>
      let action := rerunAction params.failedOnly
      if !params.waitForCompletion then
        return ([action, "triggered rerun"], .ok .triggered)
      let limit := params.timeoutSeconds.toNat * 1000
      let interval := params.pollIntervalSeconds.toNat * 1000
      match ← (p.waitForCompletion params.run limit interval).run with
      | .error e => return ([action], .error e)
      | .ok report => return ([action], .ok (.completed report))

/-- The report of a request or a wait that failed. -/
def failureReport (run : RunRef) (actions : List String) (e : RunError) (duration : Float) :
    Report :=
  let of (message : String) (outcome : Outcome) : Report :=
    ((Report.ofFault message (.run e) duration false).withOutcome outcome).withActions actions
  match e with
  | .timeout elapsed limit =>
    (of ("Workflow run " ++ run.text ++ " did not complete within the " ++ toString (limit / 1000)
        ++ "s timeout") .timedOut)
      |>.withMetadata "elapsed_seconds" (ofFloat (seconds elapsed))
      |>.withMetadata "timeout_seconds" (natural (limit / 1000))
  | .api cause =>
    (of ("CI provider request failed while rerunning " ++ run.text) .failed)
      |>.withMetadata "api_error_kind" (.str cause.kind.name)
      |>.withMetadata "http_status"
        ((cause.status?.map fun s => natural s.toNat).getD .null)

/-- The report of a rerun that got somewhere. -/
def progressReport (run : RunRef) (actions : List String) (duration : Float) : Progress → Report
  | .triggered =>
    (Report.succeeded ("Triggered rerun of " ++ run.text ++ "; completion was not awaited") actions
        duration)
      |>.withMetadata "run" (.str run.text)
      |>.withMetadata "completion_awaited" (.bool false)
  | .completed c =>
    if c.success then
      (Report.succeeded ("Workflow rerun of " ++ run.text ++ " completed successfully")
          (actions ++ ["workflow completed successfully"]) duration)
        |>.withMetadata "run" (.str run.text)
        |>.withMetadata "completion_awaited" (.bool true)
        |>.withMetadata "polls" (encode c.polls)
        |>.withMetadata "html_url" (encode c.run.url)
    else
      let reason :=
        c.failureReason.getD ("workflow '" ++ c.run.displayName ++ "' did not succeed")
      ((Report.failure ("Workflow rerun of " ++ run.text ++ " failed") reason duration
          false).withActions actions)
        |>.withMetadata "run" (.str run.text)
        |>.withMetadata "completion_awaited" (.bool true)
        |>.withMetadata "polls" (encode c.polls)
        |>.withMetadata "conclusion" (encode c.conclusion)
        |>.withMetadata "failure_reason" (.str reason)
        |>.withMetadata "failed_jobs" (encode c.failedJobs)

def execute [Timer] (p : Provider Q A) (defaults : Defaults) (incident : Incident) (plan : Plan) :
    Program Q A Report := do
  let started ← Program.now
  match Parameters.resolve incident plan defaults with
  | .error fault =>
    let now ← Program.now
    let duration := seconds (now - started)
    return .ofFault "Cannot rerun workflow: invalid parameters" fault duration false
  | .ok params =>
    let (actions, outcome) ← drive p params
    let now ← Program.now
    let duration := seconds (now - started)
    match outcome with
    | .ok progress => return progressReport params.run actions duration progress
    | .error e =>
      return (failureReport params.run actions e duration).withMetadata "run" (.str params.run.text)

/-- Rolling back a rerun stops it if it still runs. -/
def rollback (p : Provider Q A) (defaults : Defaults) (incident : Incident) (plan : Plan) :
    Program Q A (Except Fault String) := do
  match Parameters.resolve incident plan defaults with
  | .error fault => return .error fault
  | .ok params =>
    match ← (p.cancel params.run).run with
    | .error e => return .error (.run e)
    | .ok cancelled =>
      return .ok (if cancelled then "cancelled workflow run " ++ params.run.text
        else "workflow run " ++ params.run.text ++ " already completed; nothing to cancel")

/-- Only incidents from the provider or entered by hand name a run. -/
def handles (source : IncidentSource) : Bool := source == .github || source == .manual

def remediator [Timer] (p : Provider Q A) (defaults : Defaults) : Remediator Q A :=
  { actionType := .rerunWorkflow
    canHandle := fun incident plan =>
      plan.actionType == .rerunWorkflow && handles incident.source
    validateParameters := fun incident plan =>
      (Parameters.resolve incident plan defaults).map fun _ => ()
    execute := execute p defaults
    rollback := some (rollback p defaults) }

/-- With the defaults of a configuration. -/
def remediatorOf [Timer] (p : Provider Q A) (config : Config) : Remediator Q A :=
  remediator p config.rerun

end Remedy.Rerun
