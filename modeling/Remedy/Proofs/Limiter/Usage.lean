import Remedy.Limiter

/-!
# What counts against a target

Every target has a record, tracked or not: one that is not tracked has a fresh one. With this view
each operation of the limiter has one equation for the record of every target, and a target that is
forgotten while idle differs from one that is kept in its counters of ends only.
-/

namespace Remedy

namespace Target

/-- What eviction makes of a record that has been pruned. -/
def settled (t : Target) : Target := if t.isIdle then fresh else t

@[simp] theorem prune_attempts (t : Target) (cutoff : Time.Instant) :
    (t.prune cutoff).attempts = t.attempts.dropWhile fun time => decide (time ≤ cutoff) := rfl

@[simp] theorem prune_inFlight (t : Target) (cutoff : Time.Instant) :
    (t.prune cutoff).inFlight = t.inFlight := rfl

/-- What a cutoff drops, a later one drops as well. -/
theorem prune_prune (t : Target) {cutoff later : Time.Instant} (h : cutoff ≤ later) :
    (t.prune cutoff).prune later = t.prune later := by
  have drop (times : List Time.Instant) :
      (times.dropWhile fun time => decide (time ≤ cutoff)).dropWhile
          (fun time => decide (time ≤ later)) =
        times.dropWhile fun time => decide (time ≤ later) := by
    induction times with
    | nil => rfl
    | cons first rest ih =>
      by_cases old : first ≤ cutoff
      · have older : first ≤ later := Time.Instant.le_trans old h
        simp [old, older, ih]
      · simp [List.dropWhile_cons, old]
  simp only [prune]
  rw [drop]

@[simp] theorem start_attempts (t : Target) (now : Time.Instant) :
    (t.start now).attempts = t.attempts ++ [now] := rfl

@[simp] theorem start_inFlight (t : Target) (now : Time.Instant) :
    (t.start now).inFlight = t.inFlight + 1 := rfl

@[simp] theorem finish_attempts (t : Target) (success : Bool) :
    (t.finish success).attempts = t.attempts := by
  cases success <;> rfl

theorem finish_inFlight (t : Target) (success : Bool) :
    (t.finish success).inFlight.toNat = t.inFlight.toNat - 1 := by
  have hin : (t.finish success).inFlight = if t.inFlight = 0 then 0 else t.inFlight - 1 := by
    cases success <;> rfl
  rw [hin]
  by_cases hz : t.inFlight = 0
  · simp [hz]
  · have hpos : t.inFlight.toNat ≠ 0 := fun h => hz (UInt32.toNat_inj.1 h)
    have hle : (1 : UInt32) ≤ t.inFlight := UInt32.le_iff_toNat_le.2 (Nat.one_le_iff_ne_zero.2 hpos)
    rw [if_neg hz, UInt32.toNat_sub_of_le _ _ hle]
    rfl

theorem isIdle_iff {t : Target} : t.isIdle = true ↔ t.attempts = [] ∧ t.inFlight = 0 := by
  simp [isIdle]

@[simp] theorem settled_attempts (t : Target) : t.settled.attempts = t.attempts := by
  rw [settled]
  split
  · next idle => exact (isIdle_iff.1 idle).1.symm
  · rfl

@[simp] theorem settled_inFlight (t : Target) : t.settled.inFlight = t.inFlight := by
  rw [settled]
  split
  · next idle => exact (isIdle_iff.1 idle).2.symm
  · rfl

end Target

namespace Limiter

/-- The record of a target, fresh if the target is not tracked. -/
def target (l : Limiter) (key : TargetKey) : Target := (l.targets.get? key.text).getD .fresh

theorem text_ne {k key : TargetKey} (h : k ≠ key) : k.text ≠ key.text := by
  intro same
  cases k
  cases key
  cases same
  exact h rfl

theorem target_insert (l : Limiter) (key : TargetKey) (t : Target) (k : TargetKey) :
    target { l with targets := l.targets.insert key.text t } k =
      if k = key then t else l.target k := by
  simp only [target]
  rw [Dict.get?_insert]
  by_cases h : k = key
  · simp [h]
  · simp [h, text_ne h]

/-! ## Looking -/

@[simp] theorem look_config (l : Limiter) (now : Time.Instant) (key : TargetKey) :
    (l.look now key).2.config = l.config := by
  rw [look]
  split <;> rfl

theorem look_usage (l : Limiter) (now : Time.Instant) (key : TargetKey) :
    (l.look now key).1 = ((l.target key).prune (l.config.cutoff now)).usage := by
  rw [look, target]
  cases l.targets.get? key.text with
  | none => rfl
  | some t => rfl

theorem target_look (l : Limiter) (now : Time.Instant) (key k : TargetKey) :
    (l.look now key).2.target k =
      if k = key then (l.target k).prune (l.config.cutoff now) else l.target k := by
  rw [look]
  split
  · next t tracked =>
    rw [target_insert]
    by_cases h : k = key
    · simp [h, target, tracked]
    · simp [h]
  · next untracked =>
    by_cases h : k = key
    · simp [h, target, untracked, Target.prune, Target.fresh]
    · simp [h]

/-! ## Entering -/

@[simp] theorem enter_config (l : Limiter) (now : Time.Instant) (key : TargetKey) :
    (l.enter now key).2.config = l.config := rfl

theorem evictIdle_get? (targets : Dict Target) (cutoff : Time.Instant) (k : String) :
    ((evictIdle targets cutoff).get? k).getD .fresh =
      (((targets.get? k).getD .fresh).prune cutoff).settled := by
  rw [evictIdle]
  rw [Dict.get?_filter, Dict.get?_map]
  cases targets.get? k with
  | none => rfl
  | some t =>
    by_cases idle : (t.prune cutoff).isIdle = true
    · simp [Option.filter, Target.settled, idle]
    · simp [Option.filter, Target.settled, idle]

theorem enter_target (l : Limiter) (now : Time.Instant) (key : TargetKey) :
    (l.enter now key).1 = ((l.target key).prune (l.config.cutoff now)).settled :=
  evictIdle_get? l.targets (l.config.cutoff now) key.text

theorem target_enter (l : Limiter) (now : Time.Instant) (key k : TargetKey) :
    (l.enter now key).2.target k = ((l.target k).prune (l.config.cutoff now)).settled := by
  have held := evictIdle_get? l.targets (l.config.cutoff now) k.text
  by_cases h : k = key
  · subst h
    simp only [enter, target, Dict.get?_insert, if_true, Option.getD_some]
    exact held
  · simp only [enter, target, Dict.get?_insert, text_ne h, if_false]
    exact held

/-- Entering a target drops nothing that a reading with a later cutoff would count. -/
theorem snapshot_enter (l : Limiter) {now next : Time.Instant}
    (later : l.config.cutoff now ≤ l.config.cutoff next) (key k : TargetKey) :
    ((l.enter now key).2.snapshot next k).1.attemptsInWindow =
        (l.snapshot next k).1.attemptsInWindow ∧
      ((l.enter now key).2.snapshot next k).1.inFlight = (l.snapshot next k).1.inFlight := by
  have entered := look_usage (l.enter now key).2 next k
  have direct := look_usage l next k
  rw [target_enter, enter_config] at entered
  constructor
  · change ((l.enter now key).2.look next k).1.attemptsInWindow = (l.look next k).1.attemptsInWindow
    rw [entered, direct]
    change (List.length _).toUInt32 = (List.length _).toUInt32
    rw [Target.prune_attempts, Target.settled_attempts, ← Target.prune_attempts,
      Target.prune_prune _ later]
  · change ((l.enter now key).2.look next k).1.inFlight = (l.look next k).1.inFlight
    rw [entered, direct]
    exact Target.settled_inFlight _

/-! ## The verdict -/

theorem attemptsCheck_isBlocking (b : BlastRadius) (key : TargetKey) (attempts : UInt32) :
    (attemptsCheck b key attempts).isBlocking = false ↔ attempts < b.maxAttemptsPerWindow := by
  rw [attemptsCheck]
  by_cases h : attempts < b.maxAttemptsPerWindow
  · simp [h, Check.isBlocking, Check.pass]
  · simp [h, Check.isBlocking, Check.fail, CheckSeverity.isBlocking]

theorem concurrencyCheck_isBlocking (b : BlastRadius) (key : TargetKey) (inFlight : UInt32) :
    (concurrencyCheck b key inFlight).isBlocking = false ↔ inFlight < b.maxConcurrentPerTarget := by
  rw [concurrencyCheck]
  by_cases h : inFlight < b.maxConcurrentPerTarget
  · simp [h, Check.isBlocking, Check.pass]
  · simp [h, Check.isBlocking, Check.fail, CheckSeverity.isBlocking]

theorem verdict_passed_iff (b : BlastRadius) (key : TargetKey) (u : TargetUsage) :
    (verdict b key u).passed = true ↔
      u.attemptsInWindow < b.maxAttemptsPerWindow ∧ u.inFlight < b.maxConcurrentPerTarget := by
  rw [verdict]
  rw [Validation.ofChecks_passed_iff, ← attemptsCheck_isBlocking b key,
    ← concurrencyCheck_isBlocking b key]
  simp

/-- The counters of ends have no part in a verdict. -/
theorem verdict_congr (b : BlastRadius) (key : TargetKey) {u u' : TargetUsage}
    (attempts : u.attemptsInWindow = u'.attemptsInWindow) (inFlight : u.inFlight = u'.inFlight) :
    verdict b key u = verdict b key u' := by
  simp only [verdict]
  rw [attempts, inFlight]

theorem validate_eq (l : Limiter) (now : Time.Instant) (key : TargetKey) :
    (l.validate now key).1 =
      verdict l.config key ((l.target key).prune (l.config.cutoff now)).usage := by
  rw [← look_usage]
  rfl

theorem verdict_enter (l : Limiter) (now : Time.Instant) (key : TargetKey) :
    verdict l.config key (l.enter now key).1.usage = (l.validate now key).1 := by
  rw [validate_eq, enter_target]
  apply verdict_congr <;> simp [Target.usage]

/-! ## Starts and ends -/

/-- Admission is validation, followed by a recorded start when it passes. -/
theorem tryAcquire_eq (l : Limiter) (now : Time.Instant) (key : TargetKey) :
    l.tryAcquire now key =
      if (l.validate now key).1.passed then
        (.granted (l.validate now key).1 (.fresh key), l.recordStart now key)
      else (.denied (l.validate now key).1, (l.enter now key).2) := by
  rw [← verdict_enter]
  rfl

theorem tryAcquire_validation (l : Limiter) (now : Time.Instant) (key : TargetKey) :
    (l.tryAcquire now key).1.validation = (l.validate now key).1 := by
  rw [tryAcquire_eq]
  split <;> rfl

theorem tryAcquire_isGranted (l : Limiter) (now : Time.Instant) (key : TargetKey) :
    (l.tryAcquire now key).1.isGranted = (l.validate now key).1.passed := by
  rw [tryAcquire_eq]
  split
  · next passed => exact passed.symm
  · next failed => exact (Bool.eq_false_iff.2 failed).symm

@[simp] theorem recordEnd_config (l : Limiter) (key : TargetKey) (success : Bool) :
    (l.recordEnd key success).config = l.config := by
  rw [recordEnd]
  split <;> rfl

theorem target_recordStart (l : Limiter) (now : Time.Instant) (key k : TargetKey) :
    (l.recordStart now key).target k =
      if k = key then (((l.target k).prune (l.config.cutoff now)).settled).start now
      else ((l.target k).prune (l.config.cutoff now)).settled := by
  have recorded : l.recordStart now key = { (l.enter now key).2 with
      targets :=
        (l.enter now key).2.targets.insert key.text ((l.enter now key).1.start now) } := rfl
  rw [recorded, target_insert, enter_target, target_enter]
  by_cases h : k = key
  · simp [h]
  · simp [h]

theorem recordStart_attempts (l : Limiter) (now : Time.Instant) (key k : TargetKey) :
    ((l.recordStart now key).target k).attempts =
      ((l.target k).prune (l.config.cutoff now)).attempts ++ if k = key then [now] else [] := by
  rw [target_recordStart]
  by_cases h : k = key
  · rw [if_pos h, if_pos h, Target.start_attempts, Target.settled_attempts]
  · rw [if_neg h, if_neg h, Target.settled_attempts, List.append_nil]

theorem recordStart_inFlight (l : Limiter) (now : Time.Instant) (key k : TargetKey) :
    ((l.recordStart now key).target k).inFlight =
      (l.target k).inFlight + if k = key then 1 else 0 := by
  rw [target_recordStart]
  by_cases h : k = key
  · rw [if_pos h, if_pos h, Target.start_inFlight, Target.settled_inFlight, Target.prune_inFlight]
  · rw [if_neg h, if_neg h, Target.settled_inFlight, Target.prune_inFlight, UInt32.add_zero]

theorem recordEnd_attempts (l : Limiter) (key : TargetKey) (success : Bool) (k : TargetKey) :
    ((l.recordEnd key success).target k).attempts = (l.target k).attempts := by
  rw [recordEnd]
  split
  · next t tracked =>
    rw [target_insert]
    by_cases h : k = key
    · simp [h, target, tracked]
    · simp [h]
  · rfl

theorem recordEnd_inFlight (l : Limiter) (key : TargetKey) (success : Bool) (k : TargetKey) :
    ((l.recordEnd key success).target k).inFlight.toNat =
      (l.target k).inFlight.toNat - if k = key then 1 else 0 := by
  rw [recordEnd]
  split
  · next t tracked =>
    rw [target_insert]
    by_cases h : k = key
    · simp [h, target, tracked, Target.finish_inFlight]
    · simp [h]
  · next untracked =>
    by_cases h : k = key
    · simp [h, target, untracked, Target.fresh]
    · simp [h]

namespace Permit

/-- A permit that has recorded an end records no other. -/
theorem finish_eq_release (p : Permit) (success : Bool) (l : Limiter) :
    p.finish success l = p.release success l := by
  simp only [finish, drop]
  simp only [release]
  by_cases spent : p.finished = true
  · simp [spent]
  · simp [spent]

end Permit

end Limiter

end Remedy
