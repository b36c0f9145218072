import Remedy.Artifact
import Remedy.Config
import Remedy.Github.Connection
import Remedy.Proofs.Json.Restored
import Remedy.Service.Basic

/-!
# Decoding is stable

Every type with a JSON form is stable: a value that some document decodes to is what its own JSON
form decodes to. Most types have no loss at all. The others hold times or values of free form, which
are only given back when they could have been read: times that a clock can show, and values in
canonical form.
-/

namespace Remedy

open Json

/-! ## Names -/

instance : Lossless IncidentSource := ⟨fun a => by cases a <;> rfl⟩
instance : Lossless Severity := ⟨fun a => by cases a <;> rfl⟩
instance : Lossless ActionType := ⟨fun a => by cases a <;> rfl⟩
instance : Lossless RiskLevel := ⟨fun a => by cases a <;> rfl⟩
instance : Lossless Outcome := ⟨fun a => by cases a <;> rfl⟩
instance : Lossless LogLevel := ⟨fun a => by cases a <;> rfl⟩
instance : Lossless CheckSeverity := ⟨fun a => by cases a <;> rfl⟩
instance : Lossless TargetField := ⟨fun a => by cases a <;> rfl⟩
instance : Lossless ApiErrorKind := ⟨fun a => by cases a <;> rfl⟩
instance : Lossless TargetKey := ⟨fun _ => rfl⟩

namespace Workflow

/-- A status that is not known is written as one that is read back as not known. -/
instance : Lossless RunStatus := ⟨fun a => by cases a <;> rfl⟩
instance : Lossless Conclusion := ⟨fun a => by cases a <;> rfl⟩

instance : Substantial RunStatus := ⟨fun _ => Json.noConfusion⟩
instance : Substantial Conclusion := ⟨fun _ => Json.noConfusion⟩

end Workflow

/-! ## Records without loss -/

instance : Lossless Check where
  restored _ := restored_record (fun _ => rfl) rfl (by simp) (by simp [List.lookup_cons])

instance : Lossless Validation where
  restored _ := restored_record (fun _ => rfl) rfl (by simp) (by simp [List.lookup_cons])

instance : Lossless Verdict where
  restored _ := restored_record (fun _ => rfl) rfl (by simp) (by simp [List.lookup_cons])

instance : Lossless Blacklist where
  restored _ := restored_record (fun _ => rfl) rfl (by simp) (by simp [List.lookup_cons])

instance : Lossless TargetKeyPolicy where
  restored _ := restored_record (fun _ => rfl) rfl (by simp) (by simp)

instance : Lossless BlastRadius where
  restored _ := restored_record (fun _ => rfl) rfl (by simp) (by simp [List.lookup_cons])

instance : Lossless TargetUsage where
  restored _ := restored_record (fun _ => rfl) rfl (by simp) (by simp [List.lookup_cons])

instance : Lossless Thresholds where
  restored _ := restored_record (fun _ => rfl) rfl (by simp) (by simp [List.lookup_cons])

instance : Lossless Rerun.Defaults where
  restored _ := restored_record (fun _ => rfl) rfl (by simp) (by simp [List.lookup_cons])

instance : Lossless Config where
  restored _ := restored_record (fun _ => rfl) rfl (by simp) (by simp [List.lookup_cons])

instance : Lossless PlanValidation where
  restored _ := restored_record (fun _ => rfl) rfl (by simp) (by simp [List.lookup_cons])

instance : Lossless Github.Connection where
  restored _ := restored_record (fun _ => rfl) rfl (by simp) (by simp [List.lookup_cons])

namespace Workflow

instance : Lossless RunRef where
  restored _ := restored_record (fun _ => rfl) rfl (by simp) (by simp [List.lookup_cons])

instance : Lossless Run where
  restored _ := restored_record (fun _ => rfl) rfl (by simp) (by simp [List.lookup_cons])

instance : Lossless FailedJob where
  restored _ := restored_record (fun _ => rfl) rfl (by simp) (by simp [List.lookup_cons])

instance : Lossless StatusSummary where
  restored _ := restored_record (fun _ => rfl) rfl (by simp) (by simp [List.lookup_cons])

end Workflow

/-! ## Records with times and values of free form -/

theorem LogEntry.restored {e : LogEntry} (time : Restored e.time) : Restored e := by
  rw [Restored] at time
  exact restored_record (fun _ => rfl) rfl (by simp) (by simp [List.lookup_cons, time])

instance : Stable LogEntry where
  restored {r e} h := by
    obtain ⟨fs, -, h⟩ := Option.bind_eq_some_iff.1 h
    simp only [Option.bind_eq_bind, Option.bind_eq_some_iff] at h
    obtain ⟨time, isTime, level, -, stage, -, message, -, same⟩ := h
    cases same
    exact LogEntry.restored (Fields.restored_of_required isTime)

theorem Workflow.Job.restored {j : Job} (started : Restored j.startedAt)
    (completed : Restored j.completedAt) : Restored j := by
  rw [Restored] at started completed
  exact restored_record (fun _ => rfl) rfl (by simp)
    (by simp [List.lookup_cons, started, completed])

instance : Stable Workflow.Job where
  restored {r j} h := by
    obtain ⟨fs, -, h⟩ := Option.bind_eq_some_iff.1 h
    simp only [Option.bind_eq_bind, Option.bind_eq_some_iff] at h
    obtain ⟨id, -, name, -, status, -, conclusion, -, started, isStarted, completed, isCompleted,
      url, -, same⟩ := h
    cases same
    exact Workflow.Job.restored (Fields.restored_of_defaulting isStarted restored_none)
      (Fields.restored_of_defaulting isCompleted restored_none)

theorem Analysis.restored {a : Analysis} (details : Restored a.details) : Restored a := by
  rw [Restored] at details
  exact restored_record (fun _ => rfl) rfl (by simp) (by simp [List.lookup_cons, details])

instance : Stable Analysis where
  restored {r a} h := by
    obtain ⟨fs, -, h⟩ := Option.bind_eq_some_iff.1 h
    simp only [Option.bind_eq_bind, Option.bind_eq_some_iff] at h
    obtain ⟨cause, -, confidence, -, details, isDetails, same⟩ := h
    cases same
    exact Analysis.restored (Fields.restored_of_defaulting isDetails (restored_json rfl))

instance : Substantial Analysis := ⟨fun _ => Json.noConfusion⟩

theorem Options.restored {o : Options} (analysis : Restored o.analysis) : Restored o := by
  rw [Restored] at analysis
  exact restored_record (fun _ => rfl) rfl (by simp) (by simp [List.lookup_cons, analysis])

instance : Stable Options where
  restored {r o} h := by
    obtain ⟨fs, -, h⟩ := Option.bind_eq_some_iff.1 h
    simp only [Option.bind_eq_bind, Option.bind_eq_some_iff] at h
    obtain ⟨pre, -, radius, -, post, -, approved, -, analysis, isAnalysis, same⟩ := h
    cases same
    exact Options.restored (Fields.restored_of_defaulting isAnalysis restored_none)

theorem Plan.restored {p : Plan} (parameters : Restored p.parameters) : Restored p := by
  rw [Restored] at parameters
  obtain ⟨actionType, riskLevel, _, approval, snapshot, seconds, reason⟩ := p
  cases seconds with
  | none =>
    exact restored_record (fun _ => rfl) rfl (by simp [present])
      (by simp [present, List.lookup_cons, parameters])
  | some n =>
    have estimate : from? (encode n) = some (some n) := Lossless.restored (some n)
    exact restored_record (fun _ => rfl) rfl (by simp [present])
      (by simp [present, List.lookup_cons, parameters, estimate])

theorem restored_empty : Restored (Dict.empty : Dict Json) := restored_dict (by simp [Dict.empty])

instance : Stable Plan where
  restored {r p} h := by
    obtain ⟨fs, -, h⟩ := Option.bind_eq_some_iff.1 h
    simp only [Option.bind_eq_bind, Option.bind_eq_some_iff] at h
    obtain ⟨actionType, -, risk, -, parameters, isParameters, approval, -, snapshot, -, seconds, -,
      reason, -, same⟩ := h
    cases same
    exact Plan.restored (Fields.restored_of_defaulting isParameters restored_empty)

/-- An incident comes back with what its payload comes back as. -/
theorem Incident.from?_encode {i : Incident} (context : Restored i.context)
    (time : Restored i.detectedAt) {payload : Option Json}
    (back : from? (encode i.payload) = some payload) :
    from? (encode i) = some { i with payload } := by
  rw [Restored] at context time
  obtain ⟨id, source, severity, failureType, _, p, confidence, _⟩ := i
  cases p with
  | none =>
    cases back
    refine (from?_record (fun _ => rfl) rfl (by simp [present])).trans ?_
    simp [present, List.lookup_cons, context, time]
  | some j =>
    have back : from? (encode j) = some payload := back
    refine (from?_record (fun _ => rfl) rfl (by simp [present])).trans ?_
    simp [present, List.lookup_cons, context, back, time]

theorem Incident.restored {i : Incident} (context : Restored i.context)
    (payload : Restored i.payload) (time : Restored i.detectedAt) : Restored i :=
  Incident.from?_encode context time payload

/-- Only null is read as null, so a payload that is there stays there. -/
instance : Stable (Option Json) where
  restored {r oj} h := by
    cases oj with
    | none => exact restored_none
    | some j =>
      refine restored_some (restored_of_decode_some h) ?_
      rintro (rfl : j = .null)
      cases r with
      | null => cases h
      | arr items => simp [decode, Raw.json?] at h
      | obj members => simp [decode, Raw.json?] at h
      | _ => cases h

instance : Stable Incident where
  restored {r i} h := by
    obtain ⟨fs, -, h⟩ := Option.bind_eq_some_iff.1 h
    simp only [Option.bind_eq_bind, Option.bind_eq_some_iff] at h
    obtain ⟨id, -, source, -, severity, -, failureType, -, context, isContext, payload, isPayload,
      confidence, -, time, isTime, same⟩ := h
    cases same
    exact Incident.restored (Fields.restored_of_defaulting isContext restored_empty)
      (Fields.restored_of_defaulting isPayload restored_none) (Fields.restored_of_required isTime)

theorem Report.restored {r : Report} (metadata : Restored r.metadata)
    (logs : Restored r.executionLogs) : Restored r := by
  rw [Restored] at metadata logs
  exact restored_record (fun _ => rfl) rfl (by simp [Report.members])
    (by simp [Report.members, List.lookup_cons, metadata, logs])

instance : Stable Report where
  restored {r report} h := by
    obtain ⟨fs, -, h⟩ := Option.bind_eq_some_iff.1 h
    -- seven fields before the metadata, and four between it and the log
    iterate 7 obtain ⟨_, -, h⟩ := Option.bind_eq_some_iff.1 h
    obtain ⟨metadata, isMetadata, h⟩ := Option.bind_eq_some_iff.1 h
    iterate 4 obtain ⟨_, -, h⟩ := Option.bind_eq_some_iff.1 h
    obtain ⟨logs, areLogs, h⟩ := Option.bind_eq_some_iff.1 h
    obtain ⟨details, -, same⟩ := Option.bind_eq_some_iff.1 h
    cases same
    exact Report.restored (Fields.restored_of_required isMetadata)
      (Fields.restored_of_required areLogs)

theorem Artifact.restored {a : Artifact} (time : Restored a.recordedAt)
    (report : Restored a.report) : Restored a := by
  rw [Restored] at time report
  exact restored_record (fun _ => rfl) rfl (by simp) (by simp [List.lookup_cons, time, report])

instance : Stable Artifact where
  restored {r a} h := by
    obtain ⟨fs, -, h⟩ := Option.bind_eq_some_iff.1 h
    simp only [Option.bind_eq_bind, Option.bind_eq_some_iff] at h
    obtain ⟨runId, -, time, isTime, report, isReport, same⟩ := h
    cases same
    exact Artifact.restored (Fields.restored_of_required isTime)
      (Fields.restored_of_required isReport)

/-! ## All types -/

/-- Whatever document a value was decoded from, with fields left out, members that are no fields or
names that are not known, its own JSON form decodes to the same value. -/
theorem decoding_is_stable :
    (Stable Incident ∧ Stable IncidentSource ∧ Stable Severity ∧ Stable Analysis) ∧
    (Stable Plan ∧ Stable ActionType ∧ Stable RiskLevel) ∧
    (Stable Report ∧ Stable Outcome ∧ Stable LogEntry ∧ Stable LogLevel) ∧
    (Stable Validation ∧ Stable Check ∧ Stable CheckSeverity) ∧
    (Stable Config ∧ Stable BlastRadius ∧ Stable TargetKeyPolicy ∧ Stable TargetField ∧
      Stable Blacklist ∧ Stable Thresholds ∧ Stable Rerun.Defaults) ∧
    (Stable TargetKey ∧ Stable TargetUsage ∧ Stable Verdict) ∧
    (Stable Options ∧ Stable PlanValidation ∧ Stable Artifact) ∧
    (Stable Workflow.RunRef ∧ Stable Workflow.Run ∧ Stable Workflow.RunStatus ∧
      Stable Workflow.Conclusion ∧ Stable Workflow.Job ∧ Stable Workflow.FailedJob ∧
      Stable Workflow.StatusSummary) ∧
    Stable ApiErrorKind ∧ Stable Github.Connection := by
  and_intros <;> infer_instance

/-- Settings that leave out all but one set, which repeats a name, and a run whose status is not
known: both documents hold a member that nobody asks for. -/
theorem decoding_is_stable_for_sparse_documents :
    let settings : Raw := .obj
      [("blacklist",
          .obj [("repositories", .arr [.str "acme/web", .str "acme/api", .str "acme/web"])]),
        ("colour", .str "red")]
    let paused : Raw := .obj
      [("status", .str "paused"), ("actor", .str "octocat"), ("id", .num (.int 42))]
    (∃ c : Config, decode settings = some c ∧
      c.blacklist.repositories.names = ["acme/api", "acme/web"] ∧
      c.blastRadius.windowSeconds = 600 ∧ from? (encode c) = some c) ∧
    ∃ r : Workflow.Run, decode paused = some r ∧ r.status = .unknown ∧ r.name = none ∧
      from? (encode r) = some r := by
  intro settings paused
  obtain ⟨-, -, -, -, ⟨stableConfig, -⟩, -, -, ⟨-, stableRun, -⟩, -⟩ := decoding_is_stable
  have decodes : (decode settings : Option Config).isSome = true := by decide +kernel
  obtain ⟨c, isConfig⟩ := Option.isSome_iff_exists.1 decodes
  have names : (decode settings : Option Config).map (·.blacklist.repositories.names) =
      some ["acme/api", "acme/web"] := by decide +kernel
  have window : (decode settings : Option Config).map (·.blastRadius.windowSeconds) = some 600 := by
    decide +kernel
  rw [isConfig] at names window
  refine ⟨⟨c, isConfig, Option.some.inj names, Option.some.inj window,
    stableConfig.restored isConfig⟩, ?_⟩
  have isRun : decode paused =
      some (⟨42, none, .unknown, none, none, none, none⟩ : Workflow.Run) := by
    decide +kernel
  exact ⟨_, isRun, rfl, rfl, stableRun.restored isRun⟩

end Remedy
