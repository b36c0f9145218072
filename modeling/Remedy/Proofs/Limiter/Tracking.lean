import Remedy.Config
import Remedy.Proofs.Limiter.Forgetting

/-!
# What is tracked

An admission forgets every idle target and enters its own, so right after it the records are those
of the targets with an execution in flight or an attempt in the window, and that of the target that
was asked for. A refusal leaves that target on record even when it is idle. It can be idle then only
where a limit is zero, since a target with nothing against it is within every other budget; the next
admission forgets it.
-/

namespace Remedy.Limiter

/-! ## Records after an admission -/

section Entered

variable {l : Limiter} {now : Time.Instant} {k key : TargetKey}

/-- A target without a record has nothing that could be counted against it. -/
theorem tracks_of_not_idle (busy : ¬ l.Idle now key) : l.Tracks key := by
  by_contra untracked
  apply busy
  have none : l.targets.get? key.text = none := by
    simpa [Tracks] using untracked
  rw [Idle, target, none]
  rfl

theorem tracks_enter_iff : (l.enter now k).2.Tracks key ↔ key = k ∨ ¬ l.Idle now key := by
  constructor
  · intro tracked
    by_cases own : key = k
    · exact .inl own
    · right
      intro idle
      have evicted : (evictIdle l.targets (l.config.cutoff now)).get? key.text = none := by
        rw [evictIdle, Dict.get?_filter, Dict.get?_map]
        rw [Idle, target] at idle
        cases held : l.targets.get? key.text with
        | none => rfl
        | some t =>
          rw [held] at idle
          simpa [Option.filter] using idle
      rw [Tracks, enter, Dict.get?_insert, if_neg (text_ne own), evicted] at tracked
      cases tracked
  · rintro (rfl | busy)
    · exact tracks_enter l now key
    · exact (tracks_of_not_idle busy).enter k busy

/-- A start is recorded for a target that has been entered. -/
theorem tracks_recordStart_iff : (l.recordStart now k).Tracks key ↔ key = k ∨ ¬ l.Idle now key := by
  constructor
  · intro tracked
    by_cases own : key = k
    · exact .inl own
    · rw [← tracks_enter_iff]
      change ((l.enter now k).2.targets.insert k.text _).get? key.text |>.isSome at tracked
      rwa [Dict.get?_insert, if_neg (text_ne own)] at tracked
  · intro entered
    exact (tracks_enter_iff.2 entered).insert k _

/-- Nothing counts against an idle target, so only a budget of nothing refuses it. -/
theorem limit_eq_zero_of_refused (idle : l.Idle now key)
    (refused : (l.tryAcquire now key).1.isGranted = false) :
    l.config.maxAttemptsPerWindow = 0 ∨ l.config.maxConcurrentPerTarget = 0 := by
  rw [tryAcquire_isGranted, validate_eq, Bool.eq_false_iff, ne_eq, verdict_passed_iff, not_and_or]
    at refused
  rw [Idle, Target.isIdle_iff] at idle
  generalize (l.target key).prune (l.config.cutoff now) = t at idle refused
  obtain ⟨attempts, inFlight⟩ := idle
  rcases refused with many | busy
  · left
    simpa [Target.usage, attempts] using many
  · right
    simpa [Target.usage, inFlight] using busy

end Entered

namespace Op

/-- An admission that the budget does not allow. -/
def Refused (l : Limiter) : Op → Prop
  | acquire now key => (l.tryAcquire now key).1.isGranted = false
  | validate .. | snapshot .. | recordStart .. | recordEnd .. | finish .. | drop _ => False

instance (l : Limiter) (op : Op) : Decidable (op.Refused l) := by
  cases op <;> unfold Refused <;> infer_instance

theorem Refused.not_granted {op : Op} {l : Limiter} {now : Time.Instant} (refused : op.Refused l)
    (admission : op.admission? = some now) : (l.tryAcquire now op.key).1.isGranted = false := by
  cases op with
  | acquire time k =>
    obtain rfl : time = now := Option.some_inj.1 admission
    exact refused
  | validate | snapshot | recordStart | recordEnd | finish | drop => exact refused.elim

end Op

namespace Journal

variable {j : Journal} {b : BlastRadius} {op : Op} {now : Time.Instant} {key : TargetKey}

theorem step_of_refused (admission : op.admission? = some now) (refused : op.Refused j.limiter) :
    j.step op = ⟨(j.limiter.enter now op.key).2, j.history⟩ := by
  have failed := refused.not_granted admission
  rw [tryAcquire_isGranted, Bool.eq_false_iff] at failed
  cases op with
  | acquire time k =>
    obtain rfl : time = now := Option.some_inj.1 admission
    rw [step_acquire]
    exact if_neg failed
  | validate | snapshot | recordStart | recordEnd | finish | drop => exact refused.elim

theorem step_of_admitted (admission : op.admission? = some now) (allowed : ¬ op.Refused j.limiter) :
    j.step op = ⟨j.limiter.recordStart now op.key, j.history ++ [(op.key, .start now)]⟩ := by
  cases op with
  | acquire time k =>
    obtain rfl : time = now := Option.some_inj.1 admission
    have passed := Bool.of_not_eq_false allowed
    rw [tryAcquire_isGranted] at passed
    rw [step_acquire]
    exact if_pos passed
  | recordStart time k =>
    obtain rfl : time = now := Option.some_inj.1 admission
    rfl
  | validate | snapshot | recordEnd | finish | drop => cases admission

theorem entries_of_refused (admission : op.admission? = some now) (refused : op.Refused j.limiter) :
    (j.step op).entries key = j.entries key := by
  rw [step_of_refused admission refused]
  rfl

theorem entries_of_admitted (admission : op.admission? = some now)
    (allowed : ¬ op.Refused j.limiter) :
    (j.step op).entries key =
      if key = op.key then j.entries key ++ [.start now] else j.entries key := by
  rw [step_of_admitted admission allowed]
  exact entries_append j.limiter _ j.history op.key (.start now) key

/-- Whatever the readings were, an admission leaves the records of its own target and of those that
it does not find idle. -/
theorem tracks_step_iff (admission : op.admission? = some now) :
    (j.step op).limiter.Tracks key ↔ key = op.key ∨ ¬ j.limiter.Idle now key := by
  by_cases refused : op.Refused j.limiter
  · rw [step_of_refused admission refused]
    exact tracks_enter_iff
  · rw [step_of_admitted admission refused]
    exact tracks_recordStart_iff

/-! ## Live targets -/

/-- An execution in flight, or an attempt after the cutoff. -/
def Live (j : Journal) (cutoff : Time.Instant) (key : TargetKey) : Prop :=
  0 < balance (j.entries key) ∨ ∃ time ∈ starts (j.entries key), cutoff < time

instance (j : Journal) (cutoff : Time.Instant) (key : TargetKey) : Decidable (j.Live cutoff key) :=
  inferInstanceAs (Decidable (_ ∨ ∃ time ∈ starts (j.entries key), _))

/-- An admission that is not refused makes its own target live, and no other. -/
theorem live_step_iff (admission : op.admission? = some now) (cutoff : Time.Instant) :
    (j.step op).Live cutoff key ↔ key = op.key ∧ ¬ op.Refused j.limiter ∨ j.Live cutoff key := by
  by_cases refused : op.Refused j.limiter
  · rw [Live, entries_of_refused admission refused]
    simp [refused, Live]
  · rw [Live, entries_of_admitted admission refused]
    by_cases own : key = op.key
    · have running : 0 < balance (j.entries key ++ [.start now]) := by
        rw [balance_append]
        exact Nat.succ_pos _
      rw [if_pos own]
      exact iff_of_true (.inl running) (.inl ⟨own, refused⟩)
    · simp [own, Live]

/-- A record is idle just when the journal has nothing that counts against its target. -/
theorem Faithful.idle_iff {before : List Time.Instant} (h : j.Faithful b before)
    (steady : b.Steady (before ++ [now]))
    (few : (starts (j.entries key)).length < UInt32.size) :
    j.limiter.Idle now key ↔ ¬ j.Live (b.cutoff now) key := by
  have reflects := h.reflects key
  have attempts : ((j.limiter.target key).prune (b.cutoff now)).attempts = [] ↔
      ¬ ∃ time ∈ starts (j.entries key), b.cutoff now < time := by
    rw [← List.length_eq_zero_iff, reflects.length_prune steady, startsAfter, List.countP_eq_zero]
    simp
  have inFlight : (j.limiter.target key).inFlight = 0 ↔ ¬ 0 < balance (j.entries key) := by
    rw [← UInt32.toNat_inj, reflects.inFlight few, UInt32.toNat_zero]
    omega
  rw [Idle, Target.isIdle_iff, h.config, attempts, Target.prune_inFlight, inFlight, Live, not_or]
  exact and_comm

/-! ## Right after an admission -/

/-- A limit of zero, the only one that refuses a target with nothing against it. -/
theorem Faithful.zero_of_refused {before : List Time.Instant} (h : j.Faithful b before)
    (admission : op.admission? = some now) (refused : op.Refused j.limiter)
    (idle : j.limiter.Idle now op.key) :
    b.maxAttemptsPerWindow = 0 ∨ b.maxConcurrentPerTarget = 0 := by
  rw [← h.config]
  exact limit_eq_zero_of_refused idle (refused.not_granted admission)

/-- The targets that are tracked are those that are live, and that of a refusal for want of a
budget. -/
theorem Faithful.tracks_step_live_iff {before : List Time.Instant} (h : j.Faithful b before)
    (admission : op.admission? = some now) (steady : b.Steady (before ++ [now]))
    (few : (starts (j.entries key)).length < UInt32.size) :
    (j.step op).limiter.Tracks key ↔
      (j.step op).Live (b.cutoff now) key ∨
        key = op.key ∧ op.Refused j.limiter ∧
          (b.maxAttemptsPerWindow = 0 ∨ b.maxConcurrentPerTarget = 0) := by
  rw [tracks_step_iff admission, h.idle_iff steady few, not_not, live_step_iff admission]
  constructor
  · rintro (own | live)
    · by_cases refused : op.Refused j.limiter
      · by_cases live : j.Live (b.cutoff now) key
        · exact .inl (.inr live)
        · have idle := (h.idle_iff steady few).2 live
          rw [own] at idle
          exact .inr ⟨own, refused, h.zero_of_refused admission refused idle⟩
      · exact .inl (.inl ⟨own, refused⟩)
    · exact .inl (.inr live)
  · rintro ((⟨own, -⟩ | live) | ⟨own, -⟩)
    · exact .inl own
    · exact .inr live
    · exact .inl own

/-- With a budget of its own, a target that is refused was on record before. -/
theorem Faithful.tracks_of_refused {before : List Time.Instant} (h : j.Faithful b before)
    (admission : op.admission? = some now) (refused : op.Refused j.limiter)
    (attempts : b.maxAttemptsPerWindow ≠ 0) (inFlight : b.maxConcurrentPerTarget ≠ 0)
    (held : (j.step op).limiter.Tracks key) : j.limiter.Tracks key := by
  rw [tracks_step_iff admission] at held
  rcases held with rfl | busy
  · refine tracks_of_not_idle fun idle : j.limiter.Idle now op.key => ?_
    rcases h.zero_of_refused admission refused idle with none | none
    · exact attempts none
    · exact inFlight none
  · exact tracks_of_not_idle busy

/-- A refusal changes nothing of what is counted later. -/
theorem snapshot_step_of_refused (admission : op.admission? = some now)
    (refused : op.Refused j.limiter) {next : Time.Instant}
    (later : j.limiter.config.cutoff now ≤ j.limiter.config.cutoff next) :
    let seen := (j.limiter.snapshot next key).1
    let still := ((j.step op).limiter.snapshot next key).1
    still.attemptsInWindow = seen.attemptsInWindow ∧ still.inFlight = seen.inFlight := by
  rw [step_of_refused admission refused]
  exact snapshot_enter j.limiter later op.key key

/-- Right after an admission, granted or refused, the tracked targets are those with an execution in
flight or an attempt in the window, and one more where a limit is zero: the target that has just
been refused. A refusal records nothing, and no reading from then on counts more or less for any
target; where both limits are positive, it does not track a target that was not tracked either.
Without any condition on the readings, the tracked targets are the one that was asked for and those
that were not found idle. -/
theorem admissions_track_live_targets (b : BlastRadius) (ops : List Op) (op : Op)
    (now : Time.Instant) (admission : op.admission? = some now) :
    let j := (fresh b).run ops
    let after := j.step op
    (∀ key, after.limiter.Tracks key ↔ key = op.key ∨ ¬ j.limiter.Idle now key) ∧
    (b.Steady (readings ops ++ [now]) → ∀ key,
      (starts (j.entries key)).length < UInt32.size →
      (after.limiter.Tracks key ↔
        after.Live (b.cutoff now) key ∨
          key = op.key ∧ op.Refused j.limiter ∧
            (b.maxAttemptsPerWindow = 0 ∨ b.maxConcurrentPerTarget = 0))) ∧
    (op.Refused j.limiter →
      after.history = j.history ∧
      (∀ key next, b.cutoff now ≤ b.cutoff next →
        let seen := (j.limiter.snapshot next key).1
        let still := (after.limiter.snapshot next key).1
        still.attemptsInWindow = seen.attemptsInWindow ∧ still.inFlight = seen.inFlight) ∧
      (b.maxAttemptsPerWindow ≠ 0 → b.maxConcurrentPerTarget ≠ 0 →
        ∀ key, after.limiter.Tracks key → j.limiter.Tracks key)) := by
  intro j after
  have faithful : j.Faithful b (readings ops) := faithful_run b ops
  refine ⟨fun key => tracks_step_iff admission, ?_, ?_⟩
  · intro steady key few
    exact faithful.tracks_step_live_iff admission steady few
  · intro refused
    have same : after = ⟨(j.limiter.enter now op.key).2, j.history⟩ :=
      step_of_refused admission refused
    refine ⟨?_, ?_, ?_⟩
    · rw [same]
    · intro key next later
      rw [← faithful.config] at later
      exact snapshot_step_of_refused admission refused later
    · intro attempts inFlight key held
      exact faithful.tracks_of_refused admission refused attempts inFlight held

/-- A target whose attempt has left the window is forgotten when another one is refused, and that
one stays, since its execution is still in flight. -/
theorem admissions_track_live_targets_when_refused :
    let b : BlastRadius := ⟨10, 2, 1, .standard⟩
    let api : TargetKey := ⟨"service:api"⟩
    let web : TargetKey := ⟨"service:web"⟩
    let ops : List Op := [.recordStart ⟨1700000000, 0⟩ api, .recordEnd api true,
      .recordStart ⟨1700000005, 0⟩ web]
    let now : Time.Instant := ⟨1700000020, 0⟩
    let op : Op := .acquire now web
    let j := (fresh b).run ops
    (op.admission? = some now ∧ b.Steady (readings ops ++ [now]) ∧ op.Refused j.limiter ∧
      ∀ key ∈ [api, web], (starts (j.entries key)).length < UInt32.size) ∧
    j.limiter.Tracks api ∧ ¬ (j.step op).limiter.Tracks api ∧ (j.step op).limiter.Tracks web := by
  intro b api web ops now op j
  have steady : b.Steady (readings ops ++ [now]) := by decide
  have few : ∀ key ∈ [api, web], (starts (j.entries key)).length < UInt32.size := by decide +kernel
  have refused : op.Refused j.limiter := by decide +kernel
  obtain ⟨-, told, -⟩ := admissions_track_live_targets b ops op now rfl
  have gone := told steady api (few api List.mem_cons_self)
  have kept := told steady web (few web (List.mem_cons_of_mem _ List.mem_cons_self))
  have idle : ¬ (j.step op).Live (b.cutoff now) api := by decide +kernel
  have live : (j.step op).Live (b.cutoff now) web := by decide +kernel
  refine ⟨⟨rfl, steady, refused, few⟩, by decide +kernel, ?_, kept.2 (.inl live)⟩
  rw [gone]
  rintro (live | ⟨own, -⟩)
  · exact idle live
  · exact absurd own (by decide)

/-- A limit of zero is accepted, and the target that it refuses is on record with nothing against
it. -/
theorem refused_idle_target_is_tracked :
    let b : BlastRadius := ⟨600, 0, 1, .standard⟩
    let key : TargetKey := ⟨"service:api"⟩
    let now : Time.Instant := ⟨1700000000, 0⟩
    let op : Op := .acquire now key
    let j := fresh b
    Config.validate { Config.standard with blastRadius := b } = .ok () ∧
      b.Steady (readings [op]) ∧ op.Refused j.limiter ∧ ¬ j.limiter.Tracks key ∧
      ¬ (j.step op).Live (b.cutoff now) key ∧
      (j.step op).limiter.Tracks key ∧ (j.step op).limiter.tracked = 1 := by
  refine ⟨rfl, ?_⟩
  decide +kernel

end Journal

end Remedy.Limiter
