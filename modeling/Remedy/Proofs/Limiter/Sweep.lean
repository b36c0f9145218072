import Remedy.Proofs.Limiter.Usage

/-!
# What has left the window does not matter

Looking at a target drops the attempts that have left the window. Limiters that differ only in such
attempts give the same answers from then on, as long as the cutoff does not go back: they are equal
once each has been swept at the cutoff.
-/

namespace Remedy

namespace Target

theorem prune_finish (t : Target) (success : Bool) (cutoff : Time.Instant) :
    (t.finish success).prune cutoff = (t.prune cutoff).finish success := by
  cases success <;> rfl

end Target

namespace Limiter

/-- Every record without the attempts that are not after the cutoff. -/
def sweep (l : Limiter) (cutoff : Time.Instant) : Limiter :=
  { l with targets := l.targets.map (·.prune cutoff) }

variable {l l' : Limiter} {cutoff later now : Time.Instant}

@[simp] theorem sweep_config (l : Limiter) (cutoff : Time.Instant) :
    (l.sweep cutoff).config = l.config := rfl

theorem sweep_sweep (l : Limiter) (le : cutoff ≤ later) :
    (l.sweep cutoff).sweep later = l.sweep later := by
  have pruned : (fun t : Target => (t.prune cutoff).prune later) = fun t => t.prune later :=
    funext fun t => t.prune_prune le
  simp only [sweep, Dict.map_map, pruned]

theorem sweep_mono (le : cutoff ≤ later) (same : l.sweep cutoff = l'.sweep cutoff) :
    l.sweep later = l'.sweep later := by
  rw [← l.sweep_sweep le, same, l'.sweep_sweep le]

theorem config_of_sweep (same : l.sweep cutoff = l'.sweep cutoff) : l.config = l'.config := by
  rw [← l.sweep_config cutoff, same, sweep_config]

/-! ## Looking -/

/-- Looking drops nothing that a later cutoff keeps. -/
theorem look_sweep (l : Limiter) (key : TargetKey) (le : l.config.cutoff now ≤ later) :
    (l.look now key).2.sweep later = l.sweep later := by
  rw [look]
  split
  · next t tracked =>
    have held : (l.targets.map (·.prune later)).get? key.text = some (t.prune later) := by
      rw [Dict.get?_map, tracked]
      rfl
    simp only [sweep, Dict.map_insert]
    rw [Target.prune_prune t le, Dict.insert_of_get? held]
  · rfl

theorem sweep_look (l : Limiter) (key : TargetKey) (le : cutoff ≤ l.config.cutoff now) :
    ((l.sweep cutoff).look now key).1 = (l.look now key).1 := by
  have swept : (l.sweep cutoff).target key = (l.target key).prune cutoff := by
    simp only [target, sweep, Dict.get?_map]
    cases l.targets.get? key.text <;> rfl
  rw [look_usage, look_usage, swept, sweep_config, Target.prune_prune _ le]

/-- Limiters that agree once swept see the same usage. -/
theorem look_congr (same : l.sweep cutoff = l'.sweep cutoff) (key : TargetKey)
    (le : cutoff ≤ l.config.cutoff now) : (l.look now key).1 = (l'.look now key).1 := by
  have le' : cutoff ≤ l'.config.cutoff now := config_of_sweep same ▸ le
  rw [← l.sweep_look key le, same, l'.sweep_look key le']

theorem validate_congr (same : l.sweep cutoff = l'.sweep cutoff) (key : TargetKey)
    (le : cutoff ≤ l.config.cutoff now) : (l.validate now key).1 = (l'.validate now key).1 := by
  change verdict l.config key (l.look now key).1 = verdict l'.config key (l'.look now key).1
  rw [look_congr same key le, config_of_sweep same]

theorem tracked_congr (same : l.sweep cutoff = l'.sweep cutoff) : l.tracked = l'.tracked := by
  have sizes : (l.sweep cutoff).tracked = (l'.sweep cutoff).tracked := congrArg tracked same
  simpa [tracked, sweep, Dict.size, Dict.map] using sizes

/-! ## Entering -/

/-- Entering sweeps every target, so it cannot tell whether that has been done before. -/
theorem enter_congr (same : l.sweep cutoff = l'.sweep cutoff) (key : TargetKey)
    (le : cutoff ≤ l.config.cutoff now) : l.enter now key = l'.enter now key := by
  have evicted (m : Limiter) (at_ : cutoff ≤ m.config.cutoff now) :
      (m.sweep cutoff).enter now key = m.enter now key := by
    have pruned : (fun t : Target => (t.prune cutoff).prune (m.config.cutoff now)) =
        fun t => t.prune (m.config.cutoff now) :=
      funext fun t => t.prune_prune at_
    simp only [enter, evictIdle, sweep, Dict.map_map, pruned]
  have le' : cutoff ≤ l'.config.cutoff now := config_of_sweep same ▸ le
  rw [← evicted l le, same, evicted l' le']

theorem tryAcquire_congr (same : l.sweep cutoff = l'.sweep cutoff) (key : TargetKey)
    (le : cutoff ≤ l.config.cutoff now) : l.tryAcquire now key = l'.tryAcquire now key := by
  simp only [tryAcquire]
  rw [enter_congr same key le, config_of_sweep same]

/-! ## Ends -/

theorem recordEnd_sweep (l : Limiter) (key : TargetKey) (success : Bool) (cutoff : Time.Instant) :
    (l.recordEnd key success).sweep cutoff = (l.sweep cutoff).recordEnd key success := by
  simp only [recordEnd, sweep, Dict.get?_map]
  cases l.targets.get? key.text with
  | none => rfl
  | some t => simp only [Option.map_some, Dict.map_insert, Target.prune_finish]

theorem Permit.release_congr (p : Permit) (success : Bool)
    (same : l.sweep cutoff = l'.sweep cutoff) :
    (p.release success l).2.sweep cutoff = (p.release success l').2.sweep cutoff := by
  rw [release, release]
  split
  · exact same
  · change (l.recordEnd _ _).sweep cutoff = (l'.recordEnd _ _).sweep cutoff
    rw [recordEnd_sweep, recordEnd_sweep, same]

end Limiter

end Remedy
