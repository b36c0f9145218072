import Remedy.Fault
import Remedy.Json.Printer
import Remedy.Workflow.Run

/-!
# The parameters of a rerun

Every parameter may be given under several names, by the plan or by the context of the incident; the
plan comes first. What names the run may also be found in the event of the provider. A repository
may be written as `owner/name`. All parameters that are missing are reported together, before any
that cannot be read.
-/

namespace Remedy.Rerun

open Json Workflow

def ownerKeys : List String := ["owner", "repo_owner", "repository_owner", "organization"]
def repoKeys : List String := ["repo", "repository", "repository_name", "repo_name"]
def runIdKeys : List String := ["run_id", "workflow_run_id", "run"]
def waitKeys : List String := ["wait_for_completion", "wait"]
def timeoutKeys : List String := ["timeout_seconds", "timeout"]
def pollKeys : List String := ["poll_interval_seconds", "poll_interval"]
def failedOnlyKeys : List String := ["rerun_failed_only", "failed_jobs_only"]

def payloadOwner : List (List String) :=
  [["repository", "owner", "login"], ["workflow_run", "repository", "owner", "login"]]

def payloadRepo : List (List String) :=
  [["repository", "name"], ["workflow_run", "repository", "name"]]

def payloadFullName : List (List String) :=
  [["repository", "full_name"], ["workflow_run", "repository", "full_name"]]

def payloadRunId : List (List String) := [["workflow_run", "id"], ["run_id"]]

/-- The longest wait that a rerun may ask for, one week. -/
def maxTimeoutSeconds : Nat := 7 * 24 * 60 * 60

/-- What holds when neither plan nor context says otherwise. -/
structure Defaults where
  waitForCompletion : Bool
  timeoutSeconds : UInt64
  pollIntervalSeconds : UInt64
  failedOnly : Bool
deriving DecidableEq

namespace Defaults

def standard : Defaults := ⟨true, 600, 10, true⟩

def fields : List String :=
  ["wait_for_completion", "timeout_seconds", "poll_interval_seconds", "rerun_failed_only"]

instance : Coded Defaults where
  encode d := .obj
    [("wait_for_completion", encode d.waitForCompletion),
      ("timeout_seconds", encode d.timeoutSeconds),
      ("poll_interval_seconds", encode d.pollIntervalSeconds),
      ("rerun_failed_only", encode d.failedOnly)]
  decode r := do
    let fs ← Fields.of? fields r
    some
      { waitForCompletion := ← fs.defaulting "wait_for_completion" standard.waitForCompletion
        timeoutSeconds := ← fs.defaulting "timeout_seconds" standard.timeoutSeconds
        pollIntervalSeconds := ← fs.defaulting "poll_interval_seconds" standard.pollIntervalSeconds
        failedOnly := ← fs.defaulting "rerun_failed_only" standard.failedOnly }

end Defaults

structure Parameters where
  run : RunRef
  waitForCompletion : Bool
  timeoutSeconds : UInt64
  pollIntervalSeconds : UInt64
  failedOnly : Bool
deriving DecidableEq

def Parameters.json (p : Parameters) : Json := .obj
  [("run", encode p.run), ("display", .str p.run.text),
    ("wait_for_completion", .bool p.waitForCompletion),
    ("timeout_seconds", encode p.timeoutSeconds),
    ("poll_interval_seconds", encode p.pollIntervalSeconds),
    ("rerun_failed_only", .bool p.failedOnly)]

/-! ## Finding values -/

/-- Null and blank text are no value. -/
def nonEmpty? : Json → Option Json
  | .null => none
  | .str s => if Text.trim s = "" then none else some (.str s)
  | j => some j

def valueUnder? (c : Context) (key : String) : Option Json := (c.get? key).bind nonEmpty?

/-- Every value under the keys, context by context. -/
def valuesUnder (cs : List Context) (keys : List String) : List Json :=
  cs.flatMap fun c => keys.filterMap (valueUnder? c)

/-- The first value under the keys. -/
def lookup? (cs : List Context) (keys : List String) : Option Json :=
  (valuesUnder cs keys).head?

/-- The first value at one of the paths. -/
def payloadAt? (payload : Option Json) (paths : List (List String)) : Option Json :=
  payload.bind fun p => paths.findSome? fun path => (p.at? path).bind nonEmpty?

/-- Text, trimmed, or the digits of a number. -/
def asText? : Json → Option String
  | .str s => some (Text.trim s)
  | .num n => some n.text
  | _ => none

/-- The two parts of `owner/name` around the first slash, both trimmed and neither empty. -/
def splitFullName? (full : String) : Option (String × String) :=
  let cs := full.toList
  match cs.dropWhile (· != '/') with
  | [] => none
  | _ :: rest => do
    let owner ← Text.trimmed? (String.ofList (cs.takeWhile (· != '/')))
    let name ← Text.trimmed? (String.ofList rest)
    some (owner, name)

/-! ## Reading values -/

/-- A whole number that is not negative, also as text. -/
def readNat (field : String) (v : Json) : Except Fault UInt64 :=
  let refuse (got : String) : Except Fault UInt64 :=
    .error (.validation (field ++ " must be a non-negative integer, got " ++ got))
  match v with
  | .num (.int (.ofNat n)) => .ok n.toUInt64
  | .str s =>
    match Decimal.natural? Decimal.maxWord64 (Text.trim s) with
    | some n => .ok n.toUInt64
    | none => refuse ("'" ++ s ++ "'")
  | v => refuse v.compact

/-- The words for yes and no, in any case. -/
def word? (s : String) : Option Bool :=
  match String.ofList ((Text.trim s).toList.map Char.toLower) with
  | "true" | "yes" | "1" => some true
  | "false" | "no" | "0" => some false
  | _ => none

def readBool (field : String) (v : Json) : Except Fault Bool :=
  let refuse (got : String) : Except Fault Bool :=
    .error (.validation (field ++ " must be a boolean, got " ++ got))
  match v with
  | .bool b => .ok b
  | .str s =>
    match word? s with
    | some b => .ok b
    | none => refuse ("'" ++ s ++ "'")
  | v => refuse v.compact

/-- The value found, or else the default. -/
def orDefault {α : Type} (read : Json → Except Fault α) (found : Option Json) (default : α) :
    Except Fault α :=
  match found with
  | some v => read v
  | none => .ok default

/-! ## Resolution -/

/-- What names a run, as far as it can be found. -/
structure Located where
  owner : Option String
  repo : Option String
  runId : Option Json

def locate (incident : Incident) (plan : Plan) : Located :=
  let cs := [plan.parameters, incident.context]
  let declared := (valuesUnder cs repoKeys).filterMap asText?
  let fullName := ((payloadAt? incident.payload payloadFullName).bind text?).bind splitFullName?
  let declaredRepo := declared.head?.map fun d =>
    match splitFullName? d with
    | some (_, name) => name
    | none => d
  { owner := ((lookup? cs ownerKeys).bind asText?)
      |>.or ((declared.findSome? splitFullName?).map (·.1))
      |>.or ((payloadAt? incident.payload payloadOwner).bind asText?)
      |>.or (fullName.map (·.1))
    repo := declaredRepo
      |>.or ((payloadAt? incident.payload payloadRepo).bind asText?)
      |>.or (fullName.map (·.2))
    runId := (lookup? cs runIdKeys).or (payloadAt? incident.payload payloadRunId) }

def Located.missing (l : Located) : List String :=
  [("owner", l.owner.isNone), ("repo", l.repo.isNone), ("run_id", l.runId.isNone)].filterMap
    fun (name, absent) => if absent then some name else none

def Parameters.resolve (incident : Incident) (plan : Plan) (defaults : Defaults) :
    Except Fault Parameters := do
  let cs := [plan.parameters, incident.context]
  let located := locate incident plan
  match located with
  | ⟨some owner, some repo, some runId⟩ =>
    let runId ← readNat "run_id" runId
    let waitForCompletion ←
      orDefault (readBool "wait_for_completion") (lookup? cs waitKeys) defaults.waitForCompletion
    let failedOnly ←
      orDefault (readBool "rerun_failed_only") (lookup? cs failedOnlyKeys) defaults.failedOnly
    let timeoutSeconds ←
      orDefault (readNat "timeout_seconds") (lookup? cs timeoutKeys) defaults.timeoutSeconds
    if maxTimeoutSeconds < timeoutSeconds.toNat then
      throw (.validation ("timeout_seconds must be at most " ++ toString maxTimeoutSeconds
        ++ ", got " ++ toString timeoutSeconds.toNat))
    let pollIntervalSeconds ←
      orDefault (readNat "poll_interval_seconds") (lookup? cs pollKeys)
        defaults.pollIntervalSeconds
    return { run := ⟨owner, repo, runId⟩, waitForCompletion, timeoutSeconds,
             pollIntervalSeconds, failedOnly }
  | _ => throw (.missingParameters located.missing)

end Remedy.Rerun
