import Remedy.Workflow.Provider

/-!
# A scripted provider

Answers from a script. Before a rerun it reports one state, afterwards it goes through a list of
states, one for each look, and stays at the last. Every call is counted, and then fails when the
script says so.
-/

namespace Remedy.Workflow

open Json

abbrev RunState : Type := RunStatus × Option Conclusion

/-- The kinds of calls that can be counted and made to fail. -/
inductive CallKind where
  | getRun
  | rerun
  | rerunFailedJobs
  | listJobs
  | cancelRun
  | jobLogs
deriving DecidableEq

namespace CallKind

def name : CallKind → String
  | getRun => "get_run"
  | rerun => "rerun"
  | rerunFailedJobs => "rerun_failed_jobs"
  | listJobs => "list_jobs"
  | cancelRun => "cancel_run"
  | jobLogs => "download_job_logs"

def all : List CallKind := [getRun, rerun, rerunFailedJobs, listJobs, cancelRun, jobLogs]

instance : Coded CallKind := codedByName all name

end CallKind

def Call.kind : Call → CallKind
  | getRun => .getRun
  | rerun => .rerun
  | rerunFailedJobs => .rerunFailedJobs
  | listJobs => .listJobs
  | cancelRun => .cancelRun
  | jobLogs _ => .jobLogs

structure Script where
  name : String
  initial : RunState
  afterRerun : List RunState
  rerunTriggered : Bool
  cancelled : Bool
  pollsAfterRerun : Nat
  jobs : List Job
  logs : List (UInt64 × List UInt8)
  errors : List (CallKind × ApiError)
  calls : List CallKind

namespace Script

/-- A failed run whose rerun succeeds at the first look. -/
def new : Script :=
  { name := "CI", initial := (.completed, some .failure),
    afterRerun := [(.completed, some .success)], rerunTriggered := false, cancelled := false,
    pollsAfterRerun := 0, jobs := [], logs := [], errors := [], calls := [] }

def withStates (s : Script) (states : List RunState) : Script := { s with afterRerun := states }

/-- A rerun that stays in progress. -/
def neverCompletes : Script := new.withStates [(.inProgress, none)]

/-- A rerun that is queued, in progress, and then completed. -/
def completesWith (c : Conclusion) : Script :=
  new.withStates [(.queued, none), (.inProgress, none), (.completed, some c)]

/-- A completed job. -/
def job (id : UInt64) (name : String) (conclusion : Conclusion) : Job :=
  { id, name, status := some .completed, conclusion := some conclusion, startedAt := none,
    completedAt := none, url := some ("https://ci.example/jobs/" ++ toString id.toNat) }

def withLog (s : Script) (job : UInt64) (content : List UInt8) : Script :=
  { s with logs := (job, content) :: s.logs }

/-- Make every call of a kind fail. -/
def failOn (s : Script) (kind : CallKind) (error : ApiError) : Script :=
  { s with errors := (kind, error) :: s.errors }

/-- How often a kind of call has been made. -/
def count (s : Script) (kind : CallKind) : Nat := s.calls.count kind

/-- How often each kind of call has been made, and what came of them. -/
def tally (s : Script) : Json := .obj <|
  (CallKind.all.map fun k => (k.name, natural (s.count k)))
  ++ [("polls_after_rerun", natural s.pollsAfterRerun), ("cancelled", .bool s.cancelled)]

/-- The state to report, and the script after reporting it. -/
def look (s : Script) : RunState × Script :=
  if s.cancelled then ((.completed, some .cancelled), s)
  else if s.rerunTriggered then
    let s := { s with pollsAfterRerun := s.pollsAfterRerun + 1 }
    match s.afterRerun with
    | [] => ((.unknown, none), s)
    | [last] => (last, s)
    | state :: rest => (state, { s with afterRerun := rest })
  else (s.initial, s)

def runFor (s : Script) (r : RunRef) (state : RunState) : Run :=
  { id := r.runId, name := some s.name, status := state.1, conclusion := state.2,
    url := some ("https://ci.example/" ++ r.owner ++ "/" ++ r.repo ++ "/runs/"
      ++ toString r.runId.toNat),
    number := some 1, attempt := some (if s.rerunTriggered then 2 else 1) }

/-- The reply of a call that the script does not make fail. -/
def reply (s : Script) (run : RunRef) : (c : Call) → Except ApiError c.Reply × Script
  | .getRun =>
    let (state, s) := s.look
    (.ok (s.runFor run state), s)
  | .rerun => (.ok (), { s with rerunTriggered := true })
  | .rerunFailedJobs => (.ok (), { s with rerunTriggered := true })
  | .listJobs => (.ok s.jobs, s)
  | .cancelRun => (.ok (), { s with cancelled := true })
  | .jobLogs job =>
    match s.logs.lookup job with
    | some content => (.ok content, s)
    | none => (.error (.http 404 ("no logs for job " ++ toString job.toNat)), s)

def answer : Program.World Request Request.Answer Script := fun r s =>
  let s := { s with calls := r.call.kind :: s.calls }
  match s.errors.lookup r.call.kind with
  | some error => (.error error, s)
  | none => s.reply r.run r.call

end Script

end Remedy.Workflow
