import Remedy.Text.Utf8
import Remedy.Workflow.Provider

/-!
# Watching workflow runs

Operations on a run that are made of requests to a provider. Waiting is the only one that sleeps. It
looks before it sleeps, never starts a look at or after its deadline, and gives up on its own side
only: the run goes on.
-/

namespace Remedy.Workflow

open Json

/-- The shortest interval between two looks, in milliseconds. -/
def minPollInterval : Nat := 100

/-- A clock cannot show a deadline beyond this many milliseconds. -/
def clockRange : Nat := Decimal.maxMagnitude64 * 1000

/-- The end of a run as it was seen. The looks are counted in 32 bits. -/
structure Completion where
  run : Run
  success : Bool
  conclusion : Option Conclusion
  failureReason : Option String
  failedJobs : List FailedJob
  polls : UInt32
  elapsed : Nat
deriving DecidableEq

def Completion.json (c : Completion) : Json := .obj
  [("run", encode c.run), ("success", .bool c.success), ("conclusion", encode c.conclusion),
    ("failure_reason", encode c.failureReason), ("failed_jobs", encode c.failedJobs),
    ("polls", encode c.polls), ("elapsed_ms", natural c.elapsed)]

structure JobLog where
  job : UInt64
  name : String
  content : String
deriving DecidableEq

def JobLog.json (l : JobLog) : Json := .obj
  [("job_id", encode l.job), ("job_name", .str l.name), ("content", .str l.content)]

def conclusionText (c : Option Conclusion) : String := (c.map Conclusion.name).getD "no conclusion"

/-- Why a run did not succeed, with the jobs that failed. -/
def failureReason (workflow concluded : String) (failed : List FailedJob) : String :=
  let head := "workflow '" ++ workflow ++ "' concluded with " ++ concluded
  if failed.isEmpty then head
  else
    let jobs := failed.map fun j =>
      j.name ++ " (" ++ (j.conclusion.map Conclusion.name).getD "unknown" ++ ")"
    head ++ ": " ++ toString failed.length ++ " job(s) failed: " ++ ", ".intercalate jobs

variable {Q : Type} {A : Q → Type}

/-- Programs that may fail on the way. -/
abbrev Operation (Q : Type) (A : Q → Type) : Type → Type := ExceptT RunError (Program Q A)

namespace Operation

def now : Operation Q A Nat := ExceptT.lift Program.now

def pause [Timer] (ms : Nat) : Operation Q A Unit := ExceptT.lift (Program.pause ms)

def tell (e : Event) : Operation Q A Unit := ExceptT.lift (Program.tell e)

end Operation

namespace Provider

/-- Put a request; a failure has it as its cause. -/
def call (p : Provider Q A) (run : RunRef) (c : Call) : Operation Q A c.Reply :=
  ExceptT.adapt RunError.api (ExceptT.mk (p ⟨run, c⟩))

/-- Rerun the failed jobs of a run, or all of it. -/
def rerun (p : Provider Q A) (run : RunRef) (failedOnly : Bool) : Operation Q A Unit :=
  if failedOnly then p.call run .rerunFailedJobs else p.call run .rerun

/-- What to report of a run that is over. Without the list of its jobs the report says so. -/
def complete (p : Provider Q A) (run : RunRef) (current : Run) (polls : UInt32)
    (elapsed : Nat) : Program Q A Completion := do
  let report : Completion :=
    { run := current, success := current.conclusion == some .success,
      conclusion := current.conclusion, failureReason := none, failedJobs := [], polls, elapsed }
  if report.success then return report
  let concluded := conclusionText current.conclusion
  match ← p ⟨run, .listJobs⟩ with
  | .ok jobs =>
    let failedJobs := FailedJob.select jobs
    return { report with
      failedJobs, failureReason := some (failureReason current.displayName concluded failedJobs) }
  | .error e =>
    return { report with
      failureReason := some ("workflow '" ++ current.displayName ++ "' concluded with " ++ concluded
        ++ " (job details unavailable: " ++ e.text ++ ")") }

/-- The looks that are left, each before the deadline, with a pause between two of them. The counter
of looks starts again from zero when it is full. -/
def poll [Timer] (p : Provider Q A) (run : RunRef) (started limit interval : Nat) :
    Nat → UInt32 → Operation Q A Completion
  | 0, _ => do
    let now ← Operation.now
    throw (.timeout (now - started) limit)
  | left + 1, polls => do
    let now ← Operation.now
    if started + limit ≤ now then
      throw (.timeout (now - started) limit)
    let current ← p.call run .getRun
    Operation.tell (.poll run.text (polls + 1) current.status.name)
    if current.status.isTerminal then
      let seen ← Operation.now
      return ← ExceptT.lift <| p.complete run current (polls + 1) (seen - started)
    Operation.pause interval
    poll p run started limit interval left (polls + 1)

/-- The time between two looks that a caller gets who asks for this one. -/
def interval [Timer] (asked : Nat) : Nat := Timer.lasts (max asked minPollInterval)

/-- Wait until the run is over, for `limit` milliseconds at most. A limit beyond the range of the
clock is none. -/
def waitForCompletion [Timer] (p : Provider Q A) (run : RunRef) (limit pollInterval : Nat) :
    Operation Q A Completion := do
  let gap := interval pollInterval
  let started ← Operation.now
  p.poll run started limit (max pollInterval minPollInterval)
    ((min limit clockRange + gap - 1) / gap) 0

/-- Whether the run succeeded, once it is over. -/
def checkSuccess (p : Provider Q A) (run : RunRef) : Operation Q A (Option Bool) := do
  let current ← p.call run .getRun
  return if current.status.isTerminal then some (current.conclusion == some .success) else none

/-- Cancel the run unless it is over; says whether it did. -/
def cancel (p : Provider Q A) (run : RunRef) : Operation Q A Bool := do
  let current ← p.call run .getRun
  if current.status.isTerminal then return false
  p.call run .cancelRun
  return true

/-- Fetch the logs of jobs one after the other. -/
def fetchLogs (p : Provider Q A) (run : RunRef) : List Job → Operation Q A (List JobLog)
  | [] => return []
  | job :: jobs => do
    let bytes ← p.call run (.jobLogs job.id)
    let others ← fetchLogs p run jobs
    return ⟨job.id, job.name, Text.ofBytes bytes⟩ :: others

/-- The logs of the jobs of a run, or of those that failed. -/
def logs (p : Provider Q A) (run : RunRef) (failedOnly : Bool) : Operation Q A (List JobLog) := do
  let jobs ← p.call run .listJobs
  p.fetchLogs run (jobs.filter fun j => !failedOnly || j.failed)

def summary (p : Provider Q A) (run : RunRef) : Operation Q A StatusSummary := do
  let current ← p.call run .getRun
  let jobs ← p.call run .listJobs
  return .of current jobs

end Provider

end Remedy.Workflow
