import Remedy.Digest
import Remedy.Json.Printer
import Remedy.Report
import Remedy.Text.Utf8

/-!
# Audit artifacts

The report of a run is kept in a directory of its own, named for the run, beside the digest of its
bytes. Reading recomputes the digest and refuses a report that does not match. A file system may
refuse any step of a write; the steps before it stay done.
-/

namespace Remedy

open Json

structure Artifact where
  runId : String
  recordedAt : Time.Instant
  report : Report

/-- Files by their path from the directory of all artifacts. -/
abbrev Disk : Type := Dict (List UInt8)

namespace Artifact

def fields : List String := ["run_id", "recorded_at", "result"]

instance : Coded Artifact where
  encode a := .obj
    [("run_id", encode a.runId), ("recorded_at", encode a.recordedAt), ("result", encode a.report)]
  decode r := do
    let fs ← Fields.of? fields r
    some
      { runId := ← fs.required "run_id"
        recordedAt := ← fs.required "recorded_at"
        report := ← fs.required "result" }

/-- Whether a name is one component of a path. -/
def isPlain (runId : String) : Bool :=
  !runId.isEmpty && runId != "." && runId != ".."
    && runId.toList.all fun c => c != '/' && c != '\\' && c != '\x00'

/-- A run identifier names a directory, and no other place. -/
def checkName (runId : String) : Except Fault Unit :=
  if isPlain runId then .ok ()
  else .error (.validation ("artifact run id '" ++ runId ++ "' must be a single path component"))

def pathOf (runId file : String) : String := runId ++ "/" ++ file

def reportPath (runId : String) : String := pathOf runId "remediation.json"

def digestPath (runId : String) : String := pathOf runId "remediation.digest"

/-- The bytes that an artifact is stored as. -/
def bytes (a : Artifact) : List UInt8 := Text.toBytes ((encode a).pretty 0)

/-! ## Writing -/

/-- The steps of a write that need the file system, in order. -/
inductive Step where
  | makeDirectory
  | writeReport
  | writeDigest
deriving DecidableEq

/-- Which steps a file system refuses, and why. -/
abbrev Refusals : Type := Step → Option String

/-- Names of files and directories have at most this many bytes. -/
def nameLimit : Nat := 255

/-- A file system that only refuses names that are too long. -/
def tooLong (runId : String) : Refusals
  | .makeDirectory =>
    if nameLimit < (Text.toBytes runId).length then some "file name too long" else none
  | _ => none

/-- Take a step unless it is refused. -/
def attempt (refusals : Refusals) (step : Step) (d : Disk) (change : Disk → Disk) :
    Except Fault Disk :=
  match refusals step with
  | some reason => .error (.io reason)
  | none => .ok (change d)

/-- Store a report under the name of its run; gives the path of the stored report, and the disk
whether or not that succeeded. -/
def write (refusals : Refusals) (now : Time.Instant) (runId : String) (report : Report) (d : Disk) :
    Except Fault String × Disk :=
  let stored := bytes ⟨runId, now, report⟩
  let digest := Text.toBytes (Digest.hex stored)
  match checkName runId with
  | .error f => (.error f, d)
  | .ok () =>
    match attempt refusals .makeDirectory d id with
    | .error f => (.error f, d)
    | .ok d =>
      match attempt refusals .writeReport d (·.insert (reportPath runId) stored) with
      | .error f => (.error f, d)
      | .ok d =>
        match attempt refusals .writeDigest d (·.insert (digestPath runId) digest) with
        | .error f => (.error f, d)
        | .ok d => (.ok (reportPath runId), d)

/-! ## Reading -/

/-- The bytes of a file that must be there. -/
def fileBytes (d : Disk) (path : String) : Except Fault (List UInt8) :=
  match d.get? path with
  | some bytes => .ok bytes
  | none => .error (.io "no such file")

/-- The artifact that bytes hold. -/
def ofBytes? (bytes : List UInt8) : Option Artifact := fromBytes? bytes

/-- Read the artifact of a run and check its digest. White space around the stored digest is no part
of it. -/
def read (runId : String) (d : Disk) : Except Fault Artifact := do
  checkName runId
  let stored ← fileBytes d (reportPath runId)
  let digest ← fileBytes d (digestPath runId)
  match Text.bytes? digest with
  | none => throw (.io "the digest is no text")
  | some digest =>
    let expected := Text.trim digest
    let actual := Digest.hex stored
    if actual = expected then
      match ofBytes? stored with
      | some a => return a
      | none => throw (.serialization (.ofText "the stored report cannot be read"))
    else throw (.digestMismatch expected actual)

end Artifact

end Remedy
