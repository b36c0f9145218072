import Remedy.Proofs.Json.Stability

/-!
# Incidents and their JSON form

Whatever an incident was built of, its JSON form gives it back, but for one thing: a payload that is
null is written as a payload and read as none.
-/

namespace Remedy

open Json

namespace Incident

/-- Incidents as they are built: a new one, and what is set in it. -/
inductive Built : Incident → Prop
  | new (id : Identifier) (detectedAt : Time.Instant) (source : IncidentSource)
      (failureType : String) : Built (.new id detectedAt source failureType)
  | withSeverity {i : Incident} (built : Built i) (severity : Severity) :
      Built (i.withSeverity severity)
  | withConfidence {i : Incident} (built : Built i) (confidence : Float) :
      Built (i.withConfidence confidence)
  | withContext {i : Incident} (built : Built i) (key : String) (value : Json) :
      Built (i.withContext key value)
  | withPayload {i : Incident} (built : Built i) (payload : Json) : Built (i.withPayload payload)

/-- The values of free form in an incident are in canonical form. -/
structure Canonical (i : Incident) : Prop where
  context : ∀ e ∈ i.context.entries, e.2.canonical = e.2
  payload : ∀ j ∈ i.payload, j.canonical = j

variable {i : Incident}

theorem Canonical.set (canonical : i.Canonical) (key : String) (value : Json) :
    (i.withContext key value).Canonical where
  context e among := by
    rcases mem_insertSorted among with rfl | before
    · exact canonical_canonical value
    · exact canonical.context e before
  payload := canonical.payload

theorem Built.canonical (built : i.Built) : i.Canonical := by
  induction built with
  | new => exact ⟨fun _ among => absurd among List.not_mem_nil, fun _ none => by cases none⟩
  | withSeverity _ _ ih => exact ⟨ih.context, ih.payload⟩
  | withConfidence _ _ ih => exact ⟨ih.context, ih.payload⟩
  | withContext _ key value ih => exact ih.set key value
  | withPayload _ payload ih =>
    refine ⟨ih.context, fun j same => ?_⟩
    cases same
    exact canonical_canonical payload

/-- A payload comes back unless it is null. -/
theorem from?_payload {payload : Option Json} (canonical : ∀ j ∈ payload, j.canonical = j) :
    from? (encode payload) = some (payload.filter (!·.isNull)) := by
  cases payload with
  | none => rfl
  | some j =>
    by_cases null : j = .null
    -- the form of a null is also that of nothing
    · rw [null]
      rfl
    · have kept : (some j).filter (!·.isNull) = some j := by
        cases j with
        | null => exact absurd rfl null
        | _ => rfl
      rw [kept]
      exact restored_some (restored_json (canonical j rfl)) null

theorem filter_payload_iff {payload : Option Json} :
    payload.filter (!·.isNull) = payload ↔ payload ≠ some .null := by
  cases payload with
  | none => simp
  | some j => cases j <;> simp [Json.isNull]

/-- An incident of a finite confidence and of a time that its text gives back, however it was built,
has a JSON form that decodes to the same incident, except that a payload that is null becomes none.
So an incident comes back as it was just when its payload is not null, whatever is inside of the
payload. It comes back alike from every text that holds its form. -/
theorem built_incidents_come_back (built : i.Built) (finite : i.confidence.isFinite = true)
    (shown : Time.Instant.ofText? i.detectedAt.text = some i.detectedAt) :
    (encode i).member? "confidence" = some (ofFloat i.confidence) ∧
    from? (encode i) = some { i with payload := i.payload.filter (!·.isNull) } ∧
    (from? (encode i) = some i ↔ i.payload ≠ some .null) ∧
    ∀ text, Raw.read? text = some (encode i).raw →
      fromText? text = some { i with payload := i.payload.filter (!·.isNull) } := by
  have canonical := built.canonical
  have context : Restored i.context :=
    restored_dict fun e among => restored_json (canonical.context e among)
  have time : Restored i.detectedAt := shown
  have back : from? (encode i) = some { i with payload := i.payload.filter (!·.isNull) } :=
    Incident.from?_encode context time (from?_payload canonical.payload)
  refine ⟨?_, back, ?_, fun text holds => ?_⟩
  · rw [ofFloat, if_pos finite]
    cases payload : i.payload <;> simp [encode, payload, present, member?, List.lookup_cons]
  · rw [back, ← filter_payload_iff, Option.some.injEq]
    constructor
    · intro same
      exact congrArg Incident.payload same
    · intro same
      rw [same]
  · rw [fromText?, holds, Option.bind_some]
    exact back

/-- An event with nulls inside. -/
theorem built_incidents_come_back_with_event :
    let event : Json := .obj [("workflow_run", .obj [("id", .null)]), ("jobs", .arr [.null])]
    let i := ((Incident.new ⟨7⟩ ⟨1714564800, 500000000⟩ .github "flaky_test").withContext "run_id"
      (Json.natural 42)).withPayload event
    (i.Built ∧ i.confidence.isFinite = true ∧
      Time.Instant.ofText? i.detectedAt.text = some i.detectedAt) ∧
    i.payload ≠ some .null ∧ from? (encode i) = some i := by
  intro event i
  have built : i.Built := .withPayload (.withContext (.new ..) ..) _
  have finite : i.confidence.isFinite = true := by decide +kernel
  have shown : Time.Instant.ofText? i.detectedAt.text = some i.detectedAt :=
    Time.Instant.ofText?_text ⟨by decide, by decide, by decide⟩
  have present : i.payload ≠ some .null := by simp [i, withPayload, event, canonical]
  obtain ⟨-, -, same, -⟩ := built_incidents_come_back built finite shown
  exact ⟨⟨built, finite, shown⟩, present, same.2 present⟩

/-- A payload that is null is gone when the incident comes back. -/
theorem null_payload_is_lost :
    let i := (Incident.new ⟨7⟩ ⟨1714564800, 0⟩ .github "flaky_test").withPayload .null
    (i.Built ∧ i.confidence.isFinite = true ∧
      Time.Instant.ofText? i.detectedAt.text = some i.detectedAt) ∧
    i.payload = some .null ∧ from? (encode i) = some { i with payload := none } ∧
    from? (encode i) ≠ some i := by
  intro i
  have built : i.Built := .withPayload (.new ..) _
  have finite : i.confidence.isFinite = true := by decide +kernel
  have time : Restored i.detectedAt := restored_instant ⟨by decide, by decide, by decide⟩
  have context : Restored i.context := restored_empty
  have gone : from? (encode i.payload) = some (none : Option Json) := rfl
  have back := Incident.from?_encode context time gone
  refine ⟨⟨built, finite, time⟩, rfl, back, fun same => ?_⟩
  have other := Option.some.inj (back.symm.trans same)
  exact absurd (congrArg Incident.payload other) (Option.some_ne_none _).symm

end Incident

end Remedy
