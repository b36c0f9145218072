import Remedy.Rerun.Parameters

/-!
# Resolving the parameters of a rerun

First the run is located, then its number is read, and then it is settled how the run is rerun. What
is missing is reported alone. Every other fault names the parameter that it is about.
-/

namespace Remedy.Rerun

open Json Workflow

/-! ## Reading -/

/-- A fault that says what is wrong with a parameter. -/
def Concerns (field : String) (f : Fault) : Prop :=
  ∃ complaint, f = .validation (field ++ complaint)

theorem concerns_of_readNat {field : String} {v : Json} {f : Fault}
    (h : readNat field v = .error f) : Concerns field f := by
  have refused (got : String) : Concerns field
      (.validation (field ++ " must be a non-negative integer, got " ++ got)) :=
    ⟨_, by rw [String.append_assoc]⟩
  simp only [readNat] at h
  split at h
  · cases h
  · split at h <;> cases h
    exact refused _
  · cases h
    exact refused _

theorem concerns_of_readBool {field : String} {v : Json} {f : Fault}
    (h : readBool field v = .error f) : Concerns field f := by
  have refused (got : String) : Concerns field
      (.validation (field ++ " must be a boolean, got " ++ got)) :=
    ⟨_, by rw [String.append_assoc]⟩
  simp only [readBool] at h
  split at h
  · cases h
  · split at h <;> cases h
    exact refused _
  · cases h
    exact refused _

theorem concerns_of_orDefault {α : Type} {field : String} {read : Json → Except Fault α}
    (reads : ∀ {v f}, read v = .error f → Concerns field f) {found : Option Json} {default : α}
    {f : Fault} (h : orDefault read found default = .error f) : Concerns field f := by
  cases found with
  | none => cases h
  | some v => exact reads h

/-! ## Settling -/

/-- How a run that has been located is rerun. -/
def settle (cs : List Context) (defaults : Defaults) (run : RunRef) : Except Fault Parameters := do
  let waitForCompletion ←
    orDefault (readBool "wait_for_completion") (lookup? cs waitKeys) defaults.waitForCompletion
  let failedOnly ←
    orDefault (readBool "rerun_failed_only") (lookup? cs failedOnlyKeys) defaults.failedOnly
  let timeoutSeconds ←
    orDefault (readNat "timeout_seconds") (lookup? cs timeoutKeys) defaults.timeoutSeconds
  if maxTimeoutSeconds < timeoutSeconds.toNat then
    throw (.validation ("timeout_seconds must be at most " ++ toString maxTimeoutSeconds
      ++ ", got " ++ toString timeoutSeconds.toNat))
  let pollIntervalSeconds ←
    orDefault (readNat "poll_interval_seconds") (lookup? cs pollKeys) defaults.pollIntervalSeconds
  return { run, waitForCompletion, timeoutSeconds, pollIntervalSeconds, failedOnly }

/-- The names under which the plan or the context may say how a run is rerun. -/
def settingKeys : List (List String) := [waitKeys, timeoutKeys, pollKeys, failedOnlyKeys]

/-- The parameters that have a default. -/
def settings : List String :=
  ["wait_for_completion", "rerun_failed_only", "timeout_seconds", "poll_interval_seconds"]

section Settle

variable {cs : List Context} {defaults : Defaults} {run : RunRef}

/-- Settling changes nothing about the run, and bounds the wait. -/
theorem ok_of_settle {p : Parameters} (h : settle cs defaults run = .ok p) :
    p.run = run ∧ p.timeoutSeconds.toNat ≤ maxTimeoutSeconds := by
  unfold settle at h
  obtain ⟨waits, -, h⟩ := bind_eq_ok_iff.1 h
  obtain ⟨failedOnly, -, h⟩ := bind_eq_ok_iff.1 h
  obtain ⟨timeout, -, h⟩ := bind_eq_ok_iff.1 h
  split at h
  · cases h
  · next short =>
    obtain ⟨poll, -, made⟩ := bind_eq_ok_iff.1 h
    cases made
    exact ⟨rfl, Nat.le_of_not_lt short⟩

/-- Once a run is located and its number is read, only what has a default can still be wrong. -/
theorem concerns_of_settle {f : Fault} (h : settle cs defaults run = .error f) :
    ∃ field ∈ settings, Concerns field f := by
  unfold settle at h
  obtain broke | ⟨waits, -, h⟩ := bind_eq_error_iff.1 h
  · exact ⟨_, by simp [settings], concerns_of_orDefault concerns_of_readBool broke⟩
  obtain broke | ⟨failedOnly, -, h⟩ := bind_eq_error_iff.1 h
  · exact ⟨_, by simp [settings], concerns_of_orDefault concerns_of_readBool broke⟩
  obtain broke | ⟨timeout, -, h⟩ := bind_eq_error_iff.1 h
  · exact ⟨_, by simp [settings], concerns_of_orDefault concerns_of_readNat broke⟩
  split at h
  · cases h
    have bound : "timeout_seconds must be at most " =
        "timeout_seconds" ++ " must be at most " := rfl
    exact ⟨"timeout_seconds", by simp [settings], _, by
      rw [bound, String.append_assoc, String.append_assoc, String.append_assoc]⟩
  · obtain broke | ⟨poll, -, made⟩ := bind_eq_error_iff.1 h
    · exact ⟨_, by simp [settings], concerns_of_orDefault concerns_of_readNat broke⟩
    · cases made

theorem settle_ne_missing {names : List String} :
    settle cs defaults run ≠ .error (.missingParameters names) := by
  intro h
  obtain ⟨field, -, complaint, same⟩ := concerns_of_settle h
  cases same

/-- A fault of what has a default is no fault of the number of the run. -/
theorem not_concerns_runId {field : String} {f : Fault} (among : field ∈ settings)
    (h : Concerns field f) : ¬ Concerns "run_id" f := by
  obtain ⟨complaint, rfl⟩ := h
  rintro ⟨other, same⟩
  have texts := congrArg String.toList (Fault.validation.inj same)
  simp only [settings, List.mem_cons, List.not_mem_nil, or_false] at among
  rcases among with rfl | rfl | rfl | rfl <;> simp [String.toList_append] at texts

/-- Where the same is found under all keys, the same is settled, whatever holds by default. -/
theorem settle_congr {cs' : List Context}
    (h : ∀ keys ∈ settingKeys, ∃ v, lookup? cs keys = some v ∧ lookup? cs' keys = some v)
    (defaults defaults' : Defaults) (run : RunRef) :
    settle cs defaults run = settle cs' defaults' run := by
  simp only [settingKeys, List.forall_mem_cons, List.not_mem_nil, false_implies, implies_true,
    and_true] at h
  obtain ⟨⟨waits, wait, wait'⟩, ⟨time, timeout, timeout'⟩, ⟨often, poll, poll'⟩, only, failed,
    failed'⟩ := h
  simp only [settle, wait, wait', timeout, timeout', poll, poll', failed, failed', orDefault]

end Settle

/-! ## Resolving -/

theorem Located.whole_or_missing (l : Located) :
    (∃ owner repo v, l = ⟨some owner, some repo, some v⟩) ∨ l.missing ≠ [] := by
  obtain ⟨owner, repo, v⟩ := l
  cases owner <;> cases repo <;> cases v <;> simp [missing]

section Resolve

variable {incident : Incident} {plan : Plan} {defaults : Defaults}

theorem resolve_of_located (defaults : Defaults) {owner repo : String} {v : Json}
    (h : locate incident plan = ⟨some owner, some repo, some v⟩) :
    Parameters.resolve incident plan defaults = readNat "run_id" v >>= fun runId =>
      settle [plan.parameters, incident.context] defaults ⟨owner, repo, runId⟩ := by
  simp only [Parameters.resolve, h]
  rfl

theorem resolve_of_missing (defaults : Defaults) (h : (locate incident plan).missing ≠ []) :
    Parameters.resolve incident plan defaults =
      .error (.missingParameters (locate incident plan).missing) := by
  simp only [Parameters.resolve]
  split
  · next located =>
    rw [located] at h
    exact absurd rfl h
  · rfl

/-- What is missing is reported together and before all else, and nothing else is. -/
theorem resolve_eq_missing_iff (names : List String) :
    Parameters.resolve incident plan defaults = .error (.missingParameters names) ↔
      names = (locate incident plan).missing ∧ names ≠ [] := by
  obtain ⟨owner, repo, v, located⟩ | some_ := (locate incident plan).whole_or_missing
  · have none_ : (locate incident plan).missing = [] := by
      rw [located]
      rfl
    rw [resolve_of_located defaults located, none_]
    refine ⟨fun broke => ?_, fun ⟨same, some_⟩ => absurd same some_⟩
    obtain unread | ⟨runId, -, unsettled⟩ := bind_eq_error_iff.1 broke
    · obtain ⟨complaint, same⟩ := concerns_of_readNat unread
      cases same
    · exact absurd unsettled settle_ne_missing
  · rw [resolve_of_missing defaults some_]
    constructor
    · intro same
      cases same
      exact ⟨rfl, some_⟩
    · rintro ⟨rfl, -⟩
      rfl

/-- What is resolved was located, read and settled. -/
theorem located_of_resolve {p : Parameters}
    (resolved : Parameters.resolve incident plan defaults = .ok p) :
    ∃ v, locate incident plan = ⟨some p.run.owner, some p.run.repo, some v⟩ ∧
      readNat "run_id" v = .ok p.run.runId ∧
        settle [plan.parameters, incident.context] defaults p.run = .ok p := by
  obtain ⟨owner, repo, v, located⟩ | some_ := (locate incident plan).whole_or_missing
  · rw [resolve_of_located defaults located] at resolved
    obtain ⟨runId, read, settled⟩ := bind_eq_ok_iff.1 resolved
    rw [(ok_of_settle settled).1]
    exact ⟨v, located, read, settled⟩
  · rw [resolve_of_missing defaults some_] at resolved
    cases resolved

/-- No rerun is waited for longer than the longest wait. -/
theorem timeout_of_resolve {p : Parameters}
    (resolved : Parameters.resolve incident plan defaults = .ok p) :
    p.timeoutSeconds.toNat ≤ maxTimeoutSeconds := by
  obtain ⟨v, -, -, settled⟩ := located_of_resolve resolved
  exact (ok_of_settle settled).2

end Resolve

end Remedy.Rerun
