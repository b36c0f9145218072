import Remedy.Proofs.Json.Stability
import Remedy.Proofs.Json.Texts

/-!
# Artifacts are read as they were written

What a disk holds after any number of writes under the names of many runs, some of them refused. The
last report stored for a run is the one that is read for it; no write under another name changes
that, and bytes that were put in the place of a stored report are found out by its digest.
-/

namespace Remedy

/-- The digits of a digest are all that there is to its text. -/
theorem Text.trim_hexBytes (bytes : List UInt8) : trim (hexBytes bytes) = hexBytes bytes := by
  refine trim_of_visible fun c among => ?_
  rw [hexBytes, String.toList_ofList] at among
  obtain ⟨b, -, among⟩ := List.mem_flatMap.1 among
  obtain ⟨d, small, rfl⟩ := exists_hexDigit_of_mem_hexOf among
  have visible : ∀ d < 16, isBlank (hexDigit d) = false := by decide
  exact visible d small

/-! ## The document of an artifact -/

open Json

theorem Check.legible {room : Nat} (c : Check) : (encode c).Legible (room + 1) := by
  refine .obj ?_
  simp only [List.forall_mem_cons]
  exact ⟨.str _, .bool _, .str _, .str _, List.forall_mem_nil _⟩

theorem Validation.legible {room : Nat} (v : Validation) : (encode v).Legible (room + 3) := by
  have checks : (encode v.checks).Legible (room + 2) := legible_list fun c _ => c.legible
  refine .obj ?_
  simp only [List.forall_mem_cons]
  exact ⟨.bool _, .str _, checks, List.forall_mem_nil _⟩

theorem LogEntry.legible {room : Nat} (e : LogEntry) : (encode e).Legible (room + 1) := by
  refine .obj ?_
  simp only [List.forall_mem_cons]
  exact ⟨.str _, .str _, .str _, .str _, List.forall_mem_nil _⟩

namespace Report

/-- The metadata stands inside three containers: the artifact, its report, and the object of all
metadata. -/
def metadataRoom : Nat := Raw.maxDepth - 3

/-- A report that its document can give back. The duration and the numbers in the metadata are such
that their own text gives them back, which takes that they are finite; the metadata is in canonical
form, as it is when it was added to a report, and not nested too deeply; and the times of the log
are such as a clock can show. -/
structure IsStorable (r : Report) : Prop where
  duration : (Number.real r.durationSeconds).Legible
  legible : ∀ e ∈ r.metadata.entries, e.2.Legible metadataRoom
  canonical : ∀ e ∈ r.metadata.entries, e.2.canonical = e.2
  times : ∀ e ∈ r.executionLogs, e.time.OnClock

theorem IsStorable.restored {r : Report} (h : r.IsStorable) : Restored r :=
  Report.restored (restored_dict fun e among => restored_json (h.canonical e among))
    (restored_list fun e among => LogEntry.restored (restored_instant (h.times e among)))

theorem legible {room : Nat} {r : Report} (duration : (Number.real r.durationSeconds).Legible)
    (metadata : ∀ e ∈ r.metadata.entries, e.2.Legible (room + 3)) :
    (encode r).Legible (room + 5) := by
  have actions : (encode r.actionsPerformed).Legible (room + 4) := legible_list fun s _ => .str s
  have values : (encode r.metadata).Legible (room + 4) := legible_dict metadata
  have logs : (encode r.executionLogs).Legible (room + 4) := legible_list fun e _ => e.legible
  have details : (encode r.validationDetails).Legible (room + 4) :=
    legible_dict fun e _ => e.2.legible
  have text? (text : Option String) : (encode text).Legible (room + 4) :=
    legible_option (fun s => .str s) text
  refine .obj ?_
  simp only [members, List.forall_mem_cons]
  exact ⟨.bool _, .str _, .str _, text? _, text? _, .num duration, actions, values,
    .bool _, .bool _, .bool _, .bool _, logs, details, List.forall_mem_nil _⟩

end Report

namespace Artifact

/-- The bytes of an artifact give it back. -/
theorem ofBytes?_bytes {a : Artifact} (storable : a.report.IsStorable)
    (shown : a.recordedAt.OnClock) : ofBytes? (bytes a) = some a := by
  have report : (encode a.report).Legible 126 :=
    Report.legible storable.duration storable.legible
  have document : (encode a).Legible Raw.maxDepth := .obj (by
    simp only [List.forall_mem_cons]
    exact ⟨.str _, .str _, report, List.forall_mem_nil _⟩)
  have back : decode (encode a).raw = some a :=
    Artifact.restored (restored_instant shown) storable.restored
  rw [ofBytes?, bytes, fromBytes?_toBytes, fromText?, read?_pretty document,
    Option.bind_some, back]

/-! ## Names and paths -/

theorem isPlain_iff {runId : String} :
    isPlain runId = true ↔ runId ≠ "" ∧ runId ≠ "." ∧ runId ≠ ".." ∧ '/' ∉ runId.toList ∧
      '\\' ∉ runId.toList ∧ '\x00' ∉ runId.toList := by
  have chars : (∀ c ∈ runId.toList, c ≠ '/' ∧ c ≠ '\\' ∧ c ≠ '\x00') ↔
      '/' ∉ runId.toList ∧ '\\' ∉ runId.toList ∧ '\x00' ∉ runId.toList := by
    constructor
    · intro h
      exact ⟨fun among => (h _ among).1 rfl, fun among => (h _ among).2.1 rfl,
        fun among => (h _ among).2.2 rfl⟩
    · rintro ⟨slash, backslash, nul⟩ c among
      exact ⟨fun same => slash (same ▸ among), fun same => backslash (same ▸ among),
        fun same => nul (same ▸ among)⟩
  rw [← chars]
  simp only [isPlain, Bool.and_eq_true, List.all_eq_true, bne_iff_ne, Bool.not_eq_true',
    String.isEmpty_eq_false_iff, and_assoc]

theorem checkName_of_plain {runId : String} (h : isPlain runId = true) : checkName runId = .ok () :=
  if_pos h

/-- The complaint about a name that is no single component of a path. -/
def nameFault (runId : String) : Fault :=
  .validation ("artifact run id '" ++ runId ++ "' must be a single path component")

theorem checkName_of_not_plain {runId : String} (h : isPlain runId = false) :
    checkName runId = .error (nameFault runId) :=
  if_neg (by simp [h])

theorem pathOf_injective {a b file : String} (h : pathOf a file = pathOf b file) : a = b := by
  have chars := congrArg String.toList h
  simp only [pathOf, String.toList_append, List.append_assoc] at chars
  exact String.toList_inj.1 (List.append_cancel_right chars)

theorem reportPath_ne_digestPath (a b : String) : reportPath a ≠ digestPath b := by
  intro same
  have last := congrArg (fun path => path.toList.getLast?) same
  simp [reportPath, digestPath, pathOf] at last

/-! ## One write -/

/-- The bytes of the digest that is stored with an artifact. -/
def digestBytes (a : Artifact) : List UInt8 := Text.toBytes (Digest.hex (bytes a))

section

variable {refusals : Refusals} {now : Time.Instant} {runId : String} {report : Report} {d : Disk}

theorem write_of_not_plain (h : isPlain runId = false) :
    write refusals now runId report d = (.error (nameFault runId), d) := by
  rw [write, checkName_of_not_plain h]

/-- A write under a name that is allowed stores nothing, or the report alone, or both the report and
its digest. Only the last is a success. -/
theorem write_cases (h : isPlain runId = true) :
    let a : Artifact := ⟨runId, now, report⟩
    (∃ f, write refusals now runId report d = (.error f, d)) ∨
    (∃ f, write refusals now runId report d = (.error f, d.insert (reportPath runId) (bytes a))) ∨
    write refusals now runId report d = (.ok (reportPath runId),
      (d.insert (reportPath runId) (bytes a)).insert (digestPath runId) (digestBytes a)) := by
  rw [write, checkName_of_plain h]
  simp only [attempt, id]
  cases refusals .makeDirectory with
  | some reason => exact .inl ⟨_, rfl⟩
  | none =>
    cases refusals .writeReport with
    | some reason => exact .inl ⟨_, rfl⟩
    | none =>
      cases refusals .writeDigest with
      | some reason => exact .inr (.inl ⟨_, rfl⟩)
      | none => exact .inr (.inr rfl)

/-- A write only changes files directly in the directory of its run. -/
theorem get?_write {path : String}
    (changed : (write refusals now runId report d).2.get? path ≠ d.get? path) :
    isPlain runId = true ∧ (path = reportPath runId ∨ path = digestPath runId) := by
  cases plain : isPlain runId with
  | false =>
    rw [write_of_not_plain plain] at changed
    exact absurd rfl changed
  | true =>
    refine ⟨rfl, ?_⟩
    by_cases first : path = reportPath runId
    · exact .inl first
    by_cases second : path = digestPath runId
    · exact .inr second
    rcases write_cases plain with ⟨f, same⟩ | ⟨f, same⟩ | same <;>
      rw [same] at changed <;>
      exact absurd (by simp [Dict.get?_insert, first, second]) changed

end

/-! ## What a disk holds -/

/-- The two files of an artifact are there as they were written. -/
structure Holds (d : Disk) (a : Artifact) : Prop where
  plain : isPlain a.runId = true
  report : d.get? (reportPath a.runId) = some (bytes a)
  digest : d.get? (digestPath a.runId) = some (digestBytes a)

theorem read_eq {a : Artifact} {d : Disk} (plain : isPlain a.runId = true) {stored : List UInt8}
    (report : d.get? (reportPath a.runId) = some stored)
    (digest : d.get? (digestPath a.runId) = some (digestBytes a)) :
    read a.runId d =
      if Digest.hex stored = Digest.hex (bytes a) then
        match ofBytes? stored with
        | some a => .ok a
        | none => .error (.serialization (.ofText "the stored report cannot be read"))
      else .error (.digestMismatch (Digest.hex (bytes a)) (Digest.hex stored)) := by
  have trimmed : Text.trim (Digest.hex (bytes a)) = Digest.hex (bytes a) := Text.trim_hexBytes _
  simp only [read, checkName_of_plain plain, fileBytes, report, digest, digestBytes, bind,
    Except.bind, Text.bytes?_toBytes, trimmed]
  rfl

theorem Holds.read_eq {a : Artifact} {d : Disk} (h : Holds d a) (storable : a.report.IsStorable)
    (shown : a.recordedAt.OnClock) : read a.runId d = .ok a := by
  rw [Artifact.read_eq h.plain h.report h.digest, if_pos rfl, ofBytes?_bytes storable shown]

/-- Other bytes in place of the report are found out by the digest that was left. -/
theorem Holds.read_tampered {a : Artifact} {d : Disk} (h : Holds d a) {other : List UInt8}
    (noCollision : Digest.hex other ≠ Digest.hex (bytes a)) :
    read a.runId (d.insert (reportPath a.runId) other) =
      .error (.digestMismatch (Digest.hex (bytes a)) (Digest.hex other)) := by
  have report : (d.insert (reportPath a.runId) other).get? (reportPath a.runId) = some other := by
    rw [Dict.get?_insert, if_pos rfl]
  have digest : (d.insert (reportPath a.runId) other).get? (digestPath a.runId) =
      some (digestBytes a) := by
    rw [Dict.get?_insert, if_neg (reportPath_ne_digestPath _ _).symm, h.digest]
  rw [Artifact.read_eq h.plain report digest, if_neg noCollision]

/-- What is read for a run rests on its own two files. -/
theorem read_congr {runId : String} {d d' : Disk}
    (report : d.get? (reportPath runId) = d'.get? (reportPath runId))
    (digest : d.get? (digestPath runId) = d'.get? (digestPath runId)) :
    read runId d = read runId d' := by
  simp only [read, fileBytes, report, digest]

/-! ## Many writes -/

/-- A write that is asked for, at a time and of a file system. -/
structure Writing where
  refusals : Refusals
  now : Time.Instant
  runId : String
  report : Report

namespace Writing

/-- What is to be stored. -/
def artifact (w : Writing) : Artifact := ⟨w.runId, w.now, w.report⟩

def run (w : Writing) (d : Disk) : Except Fault String × Disk :=
  write w.refusals w.now w.runId w.report d

/-- The disk after all of these writes, whatever came of each. -/
def runAll (ws : List Writing) (d : Disk) : Disk := ws.foldl (fun d w => (w.run d).2) d

/-- No write touches the files of another run. -/
theorem get?_run_of_ne {w : Writing} {runId : String} (other : runId ≠ w.runId) (d : Disk) :
    (w.run d).2.get? (reportPath runId) = d.get? (reportPath runId) ∧
      (w.run d).2.get? (digestPath runId) = d.get? (digestPath runId) := by
  constructor
  · by_cases same : (w.run d).2.get? (reportPath runId) = d.get? (reportPath runId)
    · exact same
    rcases get?_write same with ⟨-, own | own⟩
    · exact absurd (pathOf_injective own) other
    · exact absurd own (reportPath_ne_digestPath _ _)
  · by_cases same : (w.run d).2.get? (digestPath runId) = d.get? (digestPath runId)
    · exact same
    rcases get?_write same with ⟨-, own | own⟩
    · exact absurd own.symm (reportPath_ne_digestPath _ _)
    · exact absurd (pathOf_injective own) other

theorem holds_run_of_ne {w : Writing} {a : Artifact} (other : a.runId ≠ w.runId) {d : Disk}
    (h : Holds d a) : Holds (w.run d).2 a := by
  obtain ⟨report, digest⟩ := get?_run_of_ne other d
  exact ⟨h.plain, report.trans h.report, digest.trans h.digest⟩

theorem holds_runAll_of_ne {ws : List Writing} {a : Artifact} (others : ∀ w ∈ ws, w.runId ≠ a.runId)
    {d : Disk} (h : Holds d a) : Holds (runAll ws d) a := by
  induction ws generalizing d with
  | nil => exact h
  | cons w ws ih =>
    have first := holds_run_of_ne (others w List.mem_cons_self).symm h
    exact ih (fun w among => others w (List.mem_cons_of_mem _ among)) first

/-- A successful write leaves its artifact on the disk. -/
theorem holds_run {w : Writing} {d : Disk} {path : String} (done : (w.run d).1 = .ok path) :
    Holds (w.run d).2 w.artifact := by
  unfold run at done ⊢
  cases plain : isPlain w.runId with
  | false =>
    rw [write_of_not_plain plain] at done
    cases done
  | true =>
    rcases write_cases plain with ⟨f, same⟩ | ⟨f, same⟩ | same
    · rw [same] at done
      cases done
    · rw [same] at done
      cases done
    · rw [same]
      refine ⟨plain, ?_, ?_⟩
      · rw [Dict.get?_insert, if_neg (reportPath_ne_digestPath _ _), Dict.get?_insert]
        exact if_pos rfl
      · rw [Dict.get?_insert]
        exact if_pos rfl

theorem runAll_append (before : List Writing) (w : Writing) (after : List Writing) (d : Disk) :
    runAll (before ++ w :: after) d = runAll after (w.run (runAll before d)).2 := by
  simp [runAll]

end Writing

open Writing

/-- Whatever was written before, by whom and with what success, the last report that was stored for
a run is the one that is read for it, and other bytes put in its place do not pass for it. A write
changes nothing of what is read for other runs. A name that is no single component of a path is
refused, and the files of any other name are directly in the directory of that name. -/
theorem last_report_is_read :
    (∀ (start : Disk) (before after : List Writing) (w : Writing) (path : String),
      (w.run (runAll before start)).1 = .ok path → (∀ v ∈ after, v.runId ≠ w.runId) →
      w.report.IsStorable → w.now.OnClock →
      let d := runAll (before ++ w :: after) start
      read w.runId d = .ok ⟨w.runId, w.now, w.report⟩ ∧
      d.get? (reportPath w.runId) = some (bytes w.artifact) ∧
      ∀ other : List UInt8, other ≠ bytes w.artifact →
        (Digest.hex other = Digest.hex (bytes w.artifact) → other = bytes w.artifact) →
        read w.runId (d.insert (reportPath w.runId) other) =
          .error (.digestMismatch (Digest.hex (bytes w.artifact)) (Digest.hex other))) ∧
    (∀ (w : Writing) (d : Disk) (runId : String), runId ≠ w.runId →
      read runId (w.run d).2 = read runId d) ∧
    (∀ runId : String, (runId = "" ∨ runId = "." ∨ runId = ".." ∨ '/' ∈ runId.toList ∨
        '\\' ∈ runId.toList ∨ '\x00' ∈ runId.toList) →
      ∃ complaint, (∀ d, read runId d = .error (.validation complaint)) ∧
        ∀ refusals now report d,
          write refusals now runId report d = (.error (.validation complaint), d)) ∧
    ∀ (w : Writing) (d : Disk) (path : String), (w.run d).2.get? path ≠ d.get? path →
      isPlain w.runId = true ∧ ∃ file, isPlain file = true ∧ path = w.runId ++ "/" ++ file := by
  refine ⟨?_, ?_, ?_, ?_⟩
  · intro start before after w path done last storable shown
    have held : Holds (runAll (before ++ w :: after) start) w.artifact := by
      rw [runAll_append]
      exact holds_runAll_of_ne last (holds_run done)
    refine ⟨held.read_eq storable shown, held.report, fun other different noCollision => ?_⟩
    exact held.read_tampered fun same => different (noCollision same)
  · intro w d runId other
    obtain ⟨report, digest⟩ := get?_run_of_ne other d
    exact read_congr report digest
  · intro runId form
    have bad : isPlain runId = false := by
      rw [Bool.eq_false_iff, ne_eq, isPlain_iff]
      tauto
    refine ⟨_, fun d => ?_, fun refusals now report d => write_of_not_plain bad⟩
    rw [read, checkName_of_not_plain bad]
    rfl
  · intro w d path changed
    obtain ⟨plain, own | own⟩ := get?_write changed
    · exact ⟨plain, _, by decide, own⟩
    · exact ⟨plain, _, by decide, own⟩

/-- A report with a log, a verdict and nested metadata. -/
def sampleReport : Report :=
  { Report.succeeded "Workflow rerun of o/r#1 completed \u2713" ["Reran only failed jobs"] 4.5 with
    metadata := Dict.empty.insert "run" (.obj [("attempts", .arr [.num (.int 2), .null])])
    executionLogs := [⟨⟨1700000000, 250000000⟩, .info, Stage.preValidation, "approval is given"⟩]
    validationDetails := Dict.empty.insert Stage.preValidation
      (Validation.ofChecks Stage.preValidation [.pass "approval" "not required"]) }

theorem isStorable_sampleReport : sampleReport.IsStorable where
  duration := ⟨by decide, by rfl⟩
  legible e among := by
    obtain rfl : e = _ := List.mem_singleton.1 among
    have attempts : (Json.arr [.num (.int 2), .null]).Legible 123 := .arr (by
      simp only [List.forall_mem_cons]
      exact ⟨.num ⟨by decide, by decide⟩, .null, List.forall_mem_nil _⟩)
    exact .obj (by simpa using attempts)
  canonical e among := by
    obtain rfl : e = _ := List.mem_singleton.1 among
    rfl
  times e among := by
    obtain rfl : e = _ := List.mem_singleton.1 among
    exact ⟨by decide, by decide, by decide⟩

/-- Store the sample under this name. -/
def sampleWriting (runId : String) : Writing :=
  ⟨tooLong runId, ⟨1700000001, 0⟩, runId, sampleReport⟩

/-- A run that is reported as stopped, and then by the sample, which is read although another run
was stored after it; an empty file in its place is found out. -/
theorem last_report_is_read_after_two_writes :
    let stopped : Writing := ⟨fun _ => none, ⟨1700000000, 0⟩, "run-1", Report.rejected "stopped"⟩
    let d := runAll [stopped, sampleWriting "run-1", sampleWriting "run-2"] Dict.empty
    let stored := bytes (sampleWriting "run-1").artifact
    read "run-1" d = .ok (sampleWriting "run-1").artifact ∧
      read "run-1" (d.insert (reportPath "run-1") []) =
        .error (.digestMismatch (Digest.hex stored) (Digest.hex [])) := by
  intro stopped d stored
  have shown : (sampleWriting "run-1").now.OnClock := ⟨by decide, by decide, by decide⟩
  obtain ⟨found, -, told⟩ := last_report_is_read.1 Dict.empty [stopped] [sampleWriting "run-2"]
    (sampleWriting "run-1") "run-1/remediation.json" rfl (by simp [sampleWriting])
    isStorable_sampleReport shown
  have other : Digest.hex [] ≠ Digest.hex stored := by decide +kernel
  exact ⟨found,
    told [] (fun same => other (congrArg Digest.hex same)) fun same => absurd same other⟩

end Artifact

end Remedy
