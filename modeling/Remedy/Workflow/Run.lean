import Remedy.Time.Rfc3339

/-!
# Workflow runs

What a provider of continuous integration reports about a run and its jobs. Statuses and conclusions
that are not known are kept as `unknown`; only a completed run is at its end.
-/

namespace Remedy.Workflow

open Json

inductive RunStatus where
  | queued
  | inProgress
  | waiting
  | requested
  | pending
  | completed
  | unknown
deriving DecidableEq

namespace RunStatus

def name : RunStatus → String
  | queued => "queued"
  | inProgress => "in_progress"
  | waiting => "waiting"
  | requested => "requested"
  | pending => "pending"
  | completed => "completed"
  | unknown => "unknown"

def all : List RunStatus := [queued, inProgress, waiting, requested, pending, completed, unknown]

def ofName (s : String) : RunStatus := (all.find? fun r => r.name == s).getD unknown

def isTerminal (s : RunStatus) : Bool := s == completed

instance : Coded RunStatus where
  encode s := .str s.name
  decode
    | .str s => some (ofName s)
    | _ => none

end RunStatus

inductive Conclusion where
  | success
  | failure
  | cancelled
  | skipped
  | timedOut
  | actionRequired
  | neutral
  | startupFailure
  | stale
  | unknown
deriving DecidableEq

namespace Conclusion

def name : Conclusion → String
  | success => "success"
  | failure => "failure"
  | cancelled => "cancelled"
  | skipped => "skipped"
  | timedOut => "timed_out"
  | actionRequired => "action_required"
  | neutral => "neutral"
  | startupFailure => "startup_failure"
  | stale => "stale"
  | unknown => "unknown"

def all : List Conclusion :=
  [success, failure, cancelled, skipped, timedOut, actionRequired, neutral, startupFailure, stale,
    unknown]

def ofName (s : String) : Conclusion := (all.find? fun c => c.name == s).getD unknown

/-- Jobs that end like this are reported as failed. -/
def isFailure : Conclusion → Bool
  | failure | cancelled | timedOut | actionRequired | startupFailure => true
  | _ => false

instance : Coded Conclusion where
  encode c := .str c.name
  decode
    | .str s => some (ofName s)
    | _ => none

end Conclusion

/-- Names one run of one repository. -/
structure RunRef where
  owner : String
  repo : String
  runId : UInt64
deriving DecidableEq

namespace RunRef

def text (r : RunRef) : String := r.owner ++ "/" ++ r.repo ++ "#" ++ toString r.runId.toNat

def fields : List String := ["owner", "repo", "run_id"]

instance : Coded RunRef where
  encode r := .obj
    [("owner", encode r.owner), ("repo", encode r.repo), ("run_id", encode r.runId)]
  decode r := do
    let fs ← Fields.of? fields r
    some
      { owner := ← fs.required "owner"
        repo := ← fs.required "repo"
        runId := ← fs.required "run_id" }

end RunRef

structure Run where
  id : UInt64
  name : Option String
  status : RunStatus
  conclusion : Option Conclusion
  url : Option String
  number : Option UInt64
  attempt : Option UInt32
deriving DecidableEq

namespace Run

def displayName (r : Run) : String := r.name.getD "workflow"

def fields : List String :=
  ["id", "name", "status", "conclusion", "html_url", "run_number", "run_attempt"]

instance : Coded Run where
  encode r := .obj
    [("id", encode r.id), ("name", encode r.name), ("status", encode r.status),
      ("conclusion", encode r.conclusion), ("html_url", encode r.url),
      ("run_number", encode r.number), ("run_attempt", encode r.attempt)]
  decode r := do
    let fs ← Fields.of? fields r
    some
      { id := ← fs.required "id"
        name := ← fs.defaulting "name" none
        status := ← fs.required "status"
        conclusion := ← fs.defaulting "conclusion" none
        url := ← fs.defaulting "html_url" none
        number := ← fs.defaulting "run_number" none
        attempt := ← fs.defaulting "run_attempt" none }

end Run

structure Job where
  id : UInt64
  name : String
  status : Option RunStatus
  conclusion : Option Conclusion
  startedAt : Option Time.Instant
  completedAt : Option Time.Instant
  url : Option String
deriving DecidableEq

namespace Job

def failed (j : Job) : Bool := j.conclusion.any Conclusion.isFailure

def fields : List String :=
  ["id", "name", "status", "conclusion", "started_at", "completed_at", "html_url"]

instance : Coded Job where
  encode j := .obj
    [("id", encode j.id), ("name", encode j.name), ("status", encode j.status),
      ("conclusion", encode j.conclusion), ("started_at", encode j.startedAt),
      ("completed_at", encode j.completedAt), ("html_url", encode j.url)]
  decode r := do
    let fs ← Fields.of? fields r
    some
      { id := ← fs.required "id"
        name := ← fs.required "name"
        status := ← fs.defaulting "status" none
        conclusion := ← fs.defaulting "conclusion" none
        startedAt := ← fs.defaulting "started_at" none
        completedAt := ← fs.defaulting "completed_at" none
        url := ← fs.defaulting "html_url" none }

end Job

/-- What a report keeps of a job that failed. -/
structure FailedJob where
  id : UInt64
  name : String
  conclusion : Option Conclusion
  url : Option String
deriving DecidableEq

namespace FailedJob

def ofJob (j : Job) : FailedJob := ⟨j.id, j.name, j.conclusion, j.url⟩

/-- The jobs that failed, in the order of the list. -/
def select (jobs : List Job) : List FailedJob := (jobs.filter Job.failed).map ofJob

def fields : List String := ["id", "name", "conclusion", "html_url"]

instance : Coded FailedJob where
  encode j := .obj
    [("id", encode j.id), ("name", encode j.name), ("conclusion", encode j.conclusion),
      ("html_url", encode j.url)]
  decode r := do
    let fs ← Fields.of? fields r
    some
      { id := ← fs.required "id"
        name := ← fs.required "name"
        conclusion := ← fs.optional "conclusion"
        url := ← fs.optional "html_url" }

end FailedJob

/-- A run and the names of its failed jobs. -/
structure StatusSummary where
  runId : UInt64
  name : Option String
  status : RunStatus
  conclusion : Option Conclusion
  url : Option String
  number : Option UInt64
  totalJobs : UInt64
  failedJobs : List String
deriving DecidableEq

namespace StatusSummary

def of (run : Run) (jobs : List Job) : StatusSummary :=
  { runId := run.id, name := run.name, status := run.status, conclusion := run.conclusion,
    url := run.url, number := run.number, totalJobs := jobs.length.toUInt64,
    failedJobs := (jobs.filter Job.failed).map Job.name }

def fields : List String :=
  ["run_id", "name", "status", "conclusion", "html_url", "run_number", "total_jobs",
    "failed_jobs"]

instance : Coded StatusSummary where
  encode s := .obj
    [("run_id", encode s.runId), ("name", encode s.name), ("status", encode s.status),
      ("conclusion", encode s.conclusion), ("html_url", encode s.url),
      ("run_number", encode s.number), ("total_jobs", encode s.totalJobs),
      ("failed_jobs", encode s.failedJobs)]
  decode r := do
    let fs ← Fields.of? fields r
    some
      { runId := ← fs.required "run_id"
        name := ← fs.optional "name"
        status := ← fs.required "status"
        conclusion := ← fs.optional "conclusion"
        url := ← fs.optional "html_url"
        number := ← fs.optional "run_number"
        totalJobs := ← fs.required "total_jobs"
        failedJobs := ← fs.required "failed_jobs" }

end StatusSummary

end Remedy.Workflow
