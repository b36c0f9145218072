import Remedy.Github.Connection
import Remedy.Http
import Remedy.Text.Blank
import Remedy.Workflow.Provider

/-!
# GitHub as a provider

Every call is one request, except that the list of jobs comes in pages. An answer that does not
report success is an error with its status and a message: what the body says, or else the standard
phrase. Requests are put through a transport, which may follow redirections.
-/

namespace Remedy.Github

open Json Workflow Http

/-- How requests are carried out. -/
abbrev Transport (Q : Type) (A : Q → Type) : Type := Http.Request → Program Q A Answer

/-- Requests are put as they are. -/
def direct : Transport Http.Request (fun _ => Answer) := Program.request

/-! ## Addresses -/

def repositoryUrl (c : Connection) (run : RunRef) : String :=
  c.baseUrl ++ "/repos/" ++ run.owner ++ "/" ++ run.repo

def runUrl (c : Connection) (run : RunRef) : String :=
  repositoryUrl c run ++ "/actions/runs/" ++ toString run.runId.toNat

def rerunUrl (c : Connection) (run : RunRef) : String := runUrl c run ++ "/rerun"

def rerunFailedJobsUrl (c : Connection) (run : RunRef) : String :=
  runUrl c run ++ "/rerun-failed-jobs"

def cancelUrl (c : Connection) (run : RunRef) : String := runUrl c run ++ "/cancel"

def jobsPerPage : Nat := 100

/-- Pages are counted from one. -/
def jobsUrl (c : Connection) (run : RunRef) (page : Nat) : String :=
  runUrl c run ++ "/jobs?per_page=" ++ toString jobsPerPage ++ "&page=" ++ toString page

def jobLogsUrl (c : Connection) (run : RunRef) (job : UInt64) : String :=
  repositoryUrl c run ++ "/actions/jobs/" ++ toString job.toNat ++ "/logs"

/-! ## Answers -/

/-- The message of a body that has one. -/
def statedMessage? (body : String) : Option String := do
  let fs ← (Raw.read? body).bind (Fields.of? ["message"])
  let m : String ← fs.required "message"
  if m = "" then none else some m

/-- Why a request was refused: the message in the body, the body itself, or the standard phrase. A
body that did not come is empty. -/
def refusal (r : Response) : String :=
  let body := Text.ofBytes (r.body.toOption.getD [])
  ((statedMessage? body).or (Text.trimmed? body)).getD
    ((reason? r.status).getD "request failed")

/-- An answer that reports success, or an error. -/
def accepted : Answer → Except ApiError Response
  | .error e => .error e
  | .ok r => if r.isSuccess then .ok r else .error (.http r.status (refusal r))

/-- The value that a body holds. -/
def parsed {α : Type} [Coded α] (bytes : List UInt8) : Except ApiError α :=
  match fromBytes? bytes with
  | some a => .ok a
  | none => .error (.malformed "the body has another form")

structure JobsPage where
  totalCount : UInt64
  jobs : List Job

def JobsPage.fields : List String := ["total_count", "jobs"]

instance : Coded JobsPage where
  encode p := .obj [("total_count", encode p.totalCount), ("jobs", encode p.jobs)]
  decode r := do
    let fs ← Fields.of? JobsPage.fields r
    some { totalCount := ← fs.required "total_count", jobs := ← fs.required "jobs" }

variable {Q : Type} {A : Q → Type}

/-- The body of an answer to a get. -/
def fetch (t : Transport Q A) (url : String) : ExceptT ApiError (Program Q A) (List UInt8) := do
  let answer ← ExceptT.lift (t ⟨.get, url⟩)
  let r ← ExceptT.mk (pure (accepted answer))
  ExceptT.mk (pure r.body)

def fetchJson {α : Type} [Coded α] (t : Transport Q A) (url : String) :
    ExceptT ApiError (Program Q A) α := do
  let bytes ← fetch t url
  ExceptT.mk (pure (parsed bytes))

def post (t : Transport Q A) (url : String) : ExceptT ApiError (Program Q A) Unit := do
  let answer ← ExceptT.lift (t ⟨.post, url⟩)
  let _ ← ExceptT.mk (pure (accepted answer))

/-- More pages than any total needs, as no total exceeds 64 bits. -/
def maxPages : Nat := Decimal.maxWord64 / jobsPerPage + 1

/-- Read pages from `page` on, after the jobs `before`, until one is not full or the total is
reached. Pages are counted without a bound; a signed counter of 32 bits does as well for all that
can be held, as it counts more than two hundred thousand million jobs. -/
def listJobsFrom (c : Connection) (t : Transport Q A) (run : RunRef) :
    Nat → Nat → List Job → ExceptT ApiError (Program Q A) (List Job)
  | 0, _, before => return before
  | left + 1, page, before => do
    let batch : JobsPage ← fetchJson t (jobsUrl c run page)
    let jobs := before ++ batch.jobs
    if batch.jobs.length < jobsPerPage ∨ batch.totalCount.toNat ≤ jobs.length then return jobs
    else listJobsFrom c t run left (page + 1) jobs

def listJobs (c : Connection) (t : Transport Q A) (run : RunRef) :
    ExceptT ApiError (Program Q A) (List Job) :=
  listJobsFrom c t run maxPages 1 []

/-- The calls of a provider as requests to GitHub. -/
def answer (c : Connection) (t : Transport Q A) (run : RunRef) :
    (call : Call) → ExceptT ApiError (Program Q A) call.Reply
  | .getRun => (fetchJson t (runUrl c run) : ExceptT ApiError (Program Q A) Run)
  | .rerun => post t (rerunUrl c run)
  | .rerunFailedJobs => post t (rerunFailedJobsUrl c run)
  | .listJobs => listJobs c t run
  | .cancelRun => post t (cancelUrl c run)
  | .jobLogs job => fetch t (jobLogsUrl c run job)

def provider (c : Connection) (t : Transport Q A) : Provider Q A :=
  fun r => (answer c t r.run r.call).run

end Remedy.Github
