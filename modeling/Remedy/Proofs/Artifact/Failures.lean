import Remedy.Proofs.Artifact.Storage

/-!
# Writes that fail

A write replaces the report first and the digest after it. A write that fails before it has touched
the report changes nothing of what is read. One that fails later leaves a report beside the digest
of the former one: it is refused, and the former report is gone. Wherever a write was broken off,
nothing is read after it but the former report or the new one, and other runs are read as before.
-/

namespace Remedy.Artifact

/-! ## What a reading rests on -/

/-- What a stored report and a stored digest are read as. -/
def verified (stored digest : List UInt8) : Except Fault Artifact :=
  match Text.bytes? digest with
  | none => .error (.io "the digest is no text")
  | some text =>
    if Digest.hex stored = Text.trim text then
      match ofBytes? stored with
      | some a => .ok a
      | none => .error (.serialization (.ofText "the stored report cannot be read"))
    else .error (.digestMismatch (Text.trim text) (Digest.hex stored))

section Reading

variable {runId : String} {d : Disk} {stored digest : List UInt8} {a : Artifact}

theorem read_files (plain : isPlain runId = true) (report : d.get? (reportPath runId) = some stored)
    (beside : d.get? (digestPath runId) = some digest) : read runId d = verified stored digest := by
  simp only [read, checkName_of_plain plain, fileBytes, report, beside, bind, Except.bind, verified]
  rfl

/-- Without a file for the digest there is nothing to check a report against. -/
theorem read_of_no_digest (plain : isPlain runId = true) (none : d.get? (digestPath runId) = none) :
    read runId d = .error (.io "no such file") := by
  simp only [read, checkName_of_plain plain, fileBytes, none, bind, Except.bind]
  cases d.get? (reportPath runId) with
  | none => rfl
  | some stored => rfl

theorem verified_eq_ok_iff :
    verified stored digest = .ok a ↔
      (Text.bytes? digest).map Text.trim = some (Digest.hex stored) ∧ ofBytes? stored = some a := by
  rw [verified]
  cases Text.bytes? digest with
  | none => simp
  | some text =>
    by_cases same : Digest.hex stored = Text.trim text
    · simp only [same, if_true, Option.map_some, true_and]
      cases ofBytes? stored with
      | none => simp
      | some b => simp
    · have differs : ¬ Text.trim text = Digest.hex stored := fun h => same h.symm
      simp [same, differs]

/-- What is read is what the stored report says, and the digest that is stored is its own. -/
theorem exists_of_read (h : read runId d = .ok a) :
    isPlain runId = true ∧ ∃ stored digest, d.get? (reportPath runId) = some stored ∧
      d.get? (digestPath runId) = some digest ∧ verified stored digest = .ok a := by
  cases plain : isPlain runId with
  | false =>
    rw [read, checkName_of_not_plain plain] at h
    cases h
  | true =>
    cases beside : d.get? (digestPath runId) with
    | none =>
      rw [read_of_no_digest plain beside] at h
      cases h
    | some digest =>
      cases report : d.get? (reportPath runId) with
      | none =>
        simp only [read, checkName_of_plain plain, fileBytes, report, bind, Except.bind] at h
        cases h
      | some stored =>
        rw [read_files plain report beside] at h
        exact ⟨rfl, stored, digest, rfl, rfl, h⟩

/-- Another report beside a digest that was good is refused, unless it has the same digest. -/
theorem verified_other {other : List UInt8} (h : verified stored digest = .ok a)
    (differs : Digest.hex other ≠ Digest.hex stored) :
    verified other digest = .error (.digestMismatch (Digest.hex stored) (Digest.hex other)) := by
  obtain ⟨own, -⟩ := verified_eq_ok_iff.1 h
  obtain ⟨text, held, trimmed⟩ := Option.map_eq_some_iff.1 own
  rw [verified, held]
  simp only [trimmed]
  exact if_neg differs

end Reading

/-! ## Where a write fails -/

namespace Writing

variable {w : Writing} {d : Disk} {f : Fault}

/-- The write gets as far as the report. -/
def Begins (w : Writing) : Prop :=
  isPlain w.runId = true ∧ w.refusals .makeDirectory = none

/-- The write has replaced the report. -/
def Replaces (w : Writing) : Prop := w.Begins ∧ w.refusals .writeReport = none

theorem run_of_not_replaces (h : ¬ w.Replaces) : ∃ f, w.run d = (.error f, d) := by
  cases plain : isPlain w.runId with
  | false => exact ⟨_, write_of_not_plain plain⟩
  | true =>
    rw [run, write, checkName_of_plain plain]
    simp only [attempt, id]
    cases directory : w.refusals .makeDirectory with
    | some reason => exact ⟨_, rfl⟩
    | none =>
      cases report : w.refusals .writeReport with
      | some reason => exact ⟨_, rfl⟩
      | none => exact absurd ⟨⟨plain, directory⟩, report⟩ h

theorem run_of_replaces (h : w.Replaces) {reason : String}
    (refused : w.refusals .writeDigest = some reason) :
    w.run d = (.error (.io reason), d.insert (reportPath w.runId) (bytes w.artifact)) := by
  obtain ⟨⟨plain, directory⟩, report⟩ := h
  rw [run, write, checkName_of_plain plain]
  simp only [attempt, directory, report, refused]
  rfl

/-- The new report stands beside the former digest. -/
theorem get?_run_of_replaces (h : w.Replaces) {reason : String}
    (refused : w.refusals .writeDigest = some reason) :
    (w.run d).2.get? (reportPath w.runId) = some (bytes w.artifact) ∧
      (w.run d).2.get? (digestPath w.runId) = d.get? (digestPath w.runId) := by
  rw [run_of_replaces h refused]
  constructor
  · rw [Dict.get?_insert, if_pos rfl]
  · rw [Dict.get?_insert, if_neg (reportPath_ne_digestPath _ _).symm]

/-- A write that has replaced the report can fail at the digest only. -/
theorem refused_of_failed (h : w.Replaces) (failed : (w.run d).1 = .error f) :
    ∃ reason, w.refusals .writeDigest = some reason ∧ f = .io reason := by
  cases refused : w.refusals .writeDigest with
  | some reason =>
    rw [run_of_replaces h refused] at failed
    cases failed
    exact ⟨reason, rfl, rfl⟩
  | none =>
    obtain ⟨⟨plain, directory⟩, report⟩ := h
    rw [run, write, checkName_of_plain plain] at failed
    simp only [attempt, directory, report, refused] at failed
    cases failed

/-- The disks that a failed write may leave: as they were when the refused step began, or with
anything at all in the file that was to be written. -/
inductive Leaves (w : Writing) (d : Disk) : Disk → Prop
  | whole {f : Fault} (failed : (w.run d).1 = .error f) : Leaves w d (w.run d).2
  | tornReport {reason : String} (begun : w.Begins)
      (refused : w.refusals .writeReport = some reason)
      (left : List UInt8) : Leaves w d (d.insert (reportPath w.runId) left)
  | tornDigest {reason : String} (replaced : w.Replaces)
      (refused : w.refusals .writeDigest = some reason) (left : List UInt8) :
      Leaves w d ((w.run d).2.insert (digestPath w.runId) left)

namespace Leaves

variable {d' : Disk}

/-- The files of other runs are as they were. -/
theorem get?_of_ne (h : w.Leaves d d') {runId : String} (other : runId ≠ w.runId) :
    d'.get? (reportPath runId) = d.get? (reportPath runId) ∧
      d'.get? (digestPath runId) = d.get? (digestPath runId) := by
  have report : reportPath runId ≠ reportPath w.runId := fun same => other (pathOf_injective same)
  have digest : digestPath runId ≠ digestPath w.runId := fun same => other (pathOf_injective same)
  have whole := get?_run_of_ne other d
  cases h with
  | whole failed => exact whole
  | tornReport begun refused left =>
    rw [Dict.get?_insert, if_neg report, Dict.get?_insert,
      if_neg (reportPath_ne_digestPath _ _).symm]
    exact ⟨rfl, rfl⟩
  | tornDigest replaced refused left =>
    rw [Dict.get?_insert, if_neg (reportPath_ne_digestPath _ _), Dict.get?_insert, if_neg digest]
    exact whole

/-- The new report is there as it was to be written, or the digest is still the former one. -/
theorem report_or_digest (h : w.Leaves d d') :
    d'.get? (reportPath w.runId) = some (bytes w.artifact) ∨
      d'.get? (digestPath w.runId) = d.get? (digestPath w.runId) := by
  cases h with
  | whole failed =>
    by_cases replaced : w.Replaces
    · obtain ⟨reason, refused, -⟩ := refused_of_failed replaced failed
      left
      rw [run_of_replaces replaced refused, Dict.get?_insert, if_pos rfl]
    · obtain ⟨f, same⟩ := run_of_not_replaces replaced
      right
      rw [same]
  | tornReport begun refused left =>
    right
    rw [Dict.get?_insert, if_neg (reportPath_ne_digestPath _ _).symm]
  | tornDigest replaced refused left =>
    left
    rw [Dict.get?_insert, if_neg (reportPath_ne_digestPath _ _)]
    exact (get?_run_of_replaces replaced refused).1

/-- Nothing is read but the former report or the new one. The digests that have to differ are those
of the former report and of the one that is there now. -/
theorem former_or_new (h : w.Leaves d d') {a b : Artifact} {old now : List UInt8}
    (before : read w.runId d = .ok a) (held : d.get? (reportPath w.runId) = some old)
    (holds : d'.get? (reportPath w.runId) = some now)
    (noCollision : Digest.hex now = Digest.hex old → now = old)
    (after : read w.runId d' = .ok b) : b = a ∨ ofBytes? (bytes w.artifact) = some b := by
  obtain ⟨-, stored, digest, report, beside, good⟩ := exists_of_read before
  obtain ⟨-, stored', digest', report', beside', good'⟩ := exists_of_read after
  obtain rfl : stored = old := Option.some_inj.1 (report.symm.trans held)
  obtain rfl : stored' = now := Option.some_inj.1 (report'.symm.trans holds)
  obtain ⟨own, said⟩ := verified_eq_ok_iff.1 good
  obtain ⟨own', said'⟩ := verified_eq_ok_iff.1 good'
  rcases h.report_or_digest with new | same
  · right
    rw [holds] at new
    rwa [← Option.some_inj.1 new]
  · left
    obtain rfl : digest' = digest := Option.some_inj.1 (beside'.symm.trans (same.trans beside))
    have digests : Digest.hex stored' = Digest.hex stored :=
      Option.some_inj.1 (own'.symm.trans own)
    rw [noCollision digests] at said'
    exact Option.some_inj.1 (said'.symm.trans said)

end Leaves

end Writing

open Writing

/-- A write that fails before it has replaced the report changes nothing of what is read. One that
fails after that, which is at the digest, leaves the new report beside the digest of the former one:
the former report, if there was one, is refused from then on, unless the new one has the same
digest; and where there was no digest, none can be read, as before. Even if a file is left with
anything at all in it, other runs are read as before, and what is read for the run is the former
report or the new one. -/
theorem failed_write_keeps_or_refuses (w : Writing) (d : Disk) (f : Fault)
    (failed : (w.run d).1 = .error f) :
    (¬ w.Replaces → ∀ runId, read runId (w.run d).2 = read runId d) ∧
    (w.Replaces →
      (∃ reason, w.refusals .writeDigest = some reason ∧ f = .io reason) ∧
      (d.get? (digestPath w.runId) = none → read w.runId (w.run d).2 = .error (.io "no such file") ∧
        read w.runId d = .error (.io "no such file")) ∧
      ∀ digest, d.get? (digestPath w.runId) = some digest →
        read w.runId (w.run d).2 = verified (bytes w.artifact) digest ∧
        ∀ a old, read w.runId d = .ok a → d.get? (reportPath w.runId) = some old →
          Digest.hex (bytes w.artifact) ≠ Digest.hex old →
          read w.runId (w.run d).2 =
            .error (.digestMismatch (Digest.hex old) (Digest.hex (bytes w.artifact)))) ∧
    ∀ d', w.Leaves d d' →
      (∀ runId, runId ≠ w.runId → read runId d' = read runId d) ∧
      ∀ a b old now, read w.runId d = .ok a → read w.runId d' = .ok b →
        d.get? (reportPath w.runId) = some old → d'.get? (reportPath w.runId) = some now →
        (Digest.hex now = Digest.hex old → now = old) →
        b = a ∨ ofBytes? (bytes w.artifact) = some b := by
  refine ⟨?_, ?_, ?_⟩
  · intro early runId
    obtain ⟨g, same⟩ := run_of_not_replaces early
    rw [same]
  · intro replaced
    obtain ⟨reason, refused, cause⟩ := refused_of_failed replaced failed
    have plain := replaced.1.1
    obtain ⟨report, digest⟩ := get?_run_of_replaces (d := d) replaced refused
    refine ⟨⟨reason, refused, cause⟩, ?_, ?_⟩
    · intro none
      exact ⟨read_of_no_digest plain (digest.trans none), read_of_no_digest plain none⟩
    · intro former held
      have after := read_files plain report (digest.trans held)
      refine ⟨after, ?_⟩
      intro a old before there differs
      rw [after]
      rw [read_files plain there held] at before
      exact verified_other before differs
  · intro d' left
    constructor
    · intro runId other
      obtain ⟨report, digest⟩ := left.get?_of_ne other
      exact read_congr report digest
    · intro a b old now before after held holds noCollision
      exact left.former_or_new before held holds noCollision after

/-- A disk with the sample. -/
def sampleDisk : Disk := ((sampleWriting "run-1").run Dict.empty).2

theorem holds_sampleDisk : Holds sampleDisk (sampleWriting "run-1").artifact := holds_run rfl

theorem read_sampleDisk : read "run-1" sampleDisk = .ok (sampleWriting "run-1").artifact :=
  holds_sampleDisk.read_eq isStorable_sampleReport ⟨by decide, by decide, by decide⟩

/-- Another report for the run of the sample. There is no space left for its digest. -/
def crampedWriting : Writing where
  refusals step := if step = .writeDigest then some "no space left" else none
  now := ⟨1700000002, 0⟩
  runId := "run-1"
  report := Report.rejected "stopped"

theorem hex_crampedWriting :
    Digest.hex (bytes crampedWriting.artifact) ≠
      Digest.hex (bytes (sampleWriting "run-1").artifact) := by
  decide +kernel

/-- The sample is refused after the other report has taken its place without a digest of its own,
and other runs are as they were. -/
theorem failed_write_keeps_or_refuses_when_cramped :
    (crampedWriting.run sampleDisk).1 = .error (.io "no space left") ∧ crampedWriting.Replaces ∧
      read "run-1" (crampedWriting.run sampleDisk).2 =
        .error (.digestMismatch (Digest.hex (bytes (sampleWriting "run-1").artifact))
          (Digest.hex (bytes crampedWriting.artifact))) ∧
      read "run-2" (crampedWriting.run sampleDisk).2 = read "run-2" sampleDisk := by
  have failed : (crampedWriting.run sampleDisk).1 = .error (.io "no space left") := rfl
  have replaced : crampedWriting.Replaces := ⟨⟨by decide, rfl⟩, rfl⟩
  obtain ⟨-, late, torn⟩ := failed_write_keeps_or_refuses crampedWriting sampleDisk _ failed
  obtain ⟨-, -, beside⟩ := late replaced
  obtain ⟨-, refused⟩ := beside _ holds_sampleDisk.digest
  obtain ⟨others, -⟩ := torn _ (.whole failed)
  exact ⟨failed, replaced,
    refused _ _ read_sampleDisk holds_sampleDisk.report hex_crampedWriting,
    others "run-2" (by decide)⟩

/-- A report can be read until a write that fails at its digest; the write has taken it away. -/
theorem failed_write_takes_report_away :
    read "run-1" sampleDisk = .ok (sampleWriting "run-1").artifact ∧
      (crampedWriting.run sampleDisk).1 = .error (.io "no space left") ∧
      read "run-1" (crampedWriting.run sampleDisk).2 ≠ read "run-1" sampleDisk := by
  refine ⟨read_sampleDisk, rfl, ?_⟩
  have replaced : crampedWriting.Replaces := ⟨⟨by decide, rfl⟩, rfl⟩
  obtain ⟨report, digest⟩ :=
    get?_run_of_replaces (w := crampedWriting) (d := sampleDisk) replaced rfl
  have beside := digest.trans holds_sampleDisk.digest
  have former := (read_files holds_sampleDisk.plain holds_sampleDisk.report
    holds_sampleDisk.digest).symm.trans read_sampleDisk
  have after : read "run-1" (crampedWriting.run sampleDisk).2 = _ :=
    read_files (by decide) report beside
  rw [after, verified_other former hex_crampedWriting, read_sampleDisk]
  intro same
  cases same

end Remedy.Artifact
