import Remedy.Proofs.Limiter.Window

/-!
# Readings that go back

A record keeps its attempts in the order in which they were recorded, and what has left the window
is dropped from its front only. When a clock goes back, or callers enter in another order than that
of their readings, an attempt may stand behind a newer one. It is counted as long as that one is,
although it has left the window. The first attempt that is counted is always in the window, so a
target whose attempts have all left it is not charged for any.
-/

namespace Remedy.Limiter

/-- The attempts of a target that are counted at a reading. -/
def charged (l : Limiter) (now : Time.Instant) (key : TargetKey) : List Time.Instant :=
  ((l.target key).prune (l.config.cutoff now)).attempts

section Front

variable {cutoff : Time.Instant} {times : List Time.Instant}

/-- Nothing old is left when what is old is dropped from the front, just when nothing old stands
behind what is not. -/
theorem forall_lt_dropWhile_iff :
    (∀ time ∈ times.dropWhile fun time => decide (time ≤ cutoff), cutoff < time) ↔
      times.Pairwise fun earlier later => cutoff < earlier → cutoff < later := by
  induction times with
  | nil => simp
  | cons first rest ih =>
    rw [List.pairwise_cons]
    by_cases old : first ≤ cutoff
    · have outside : ¬ cutoff < first := fun inside => inside old
      rw [List.dropWhile_cons_of_pos (by simpa using old), ih]
      exact ⟨fun h => ⟨fun _ _ inside => absurd inside outside, h⟩, fun h => h.2⟩
    · rw [List.dropWhile_cons_of_neg (by simpa using old), List.forall_mem_cons]
      constructor
      · rintro ⟨-, all⟩
        exact ⟨fun time among _ => all time among,
          List.pairwise_of_forall_mem_list fun _ _ later among _ => all later among⟩
      · rintro ⟨all, -⟩
        exact ⟨old, fun time among => all time among old⟩

theorem lt_of_mem_head?_dropWhile {time : Time.Instant}
    (first : time ∈ (times.dropWhile fun time => decide (time ≤ cutoff)).head?) :
    cutoff < time := by
  have kept := List.head?_dropWhile_not (fun time => decide (time ≤ cutoff)) times
  rw [Option.mem_def.1 first] at kept
  exact of_decide_eq_false kept

end Front

section Counts

variable (l : Limiter) (now : Time.Instant) (key : TargetKey)

theorem snapshot_charged :
    (l.snapshot now key).1.attemptsInWindow = (l.charged now key).length.toUInt32 := by
  change (l.look now key).1.attemptsInWindow = _
  rw [look_usage]
  rfl

/-- A target is refused for attempts only when one of them is in the window, or when none are
allowed at all. -/
theorem reason_of_refused (refused : (l.tryAcquire now key).1.isGranted = false) :
    ¬ (l.snapshot now key).1.inFlight < l.config.maxConcurrentPerTarget ∨
      l.config.maxAttemptsPerWindow = 0 ∨
        ∃ time ∈ l.charged now key, l.config.cutoff now < time := by
  have verdict : (l.validate now key).1 = verdict l.config key (l.snapshot now key).1 := rfl
  rw [tryAcquire_isGranted, verdict, Bool.eq_false_iff, ne_eq, verdict_passed_iff,
    not_and_or] at refused
  rcases refused with many | busy
  · right
    cases charged : l.charged now key with
    | nil =>
      left
      rw [snapshot_charged, charged] at many
      simpa using many
    | cons first rest =>
      have among : first ∈ (l.charged now key).head? := by simp [charged]
      exact .inr ⟨first, List.mem_cons_self, lt_of_mem_head?_dropWhile among⟩
  · exact .inl busy

end Counts

namespace Journal

/-- What is counted of a target, whatever the readings were: its attempts without some of the first,
each of which was out of the window at some reading. -/
theorem Faithful.charged {b : BlastRadius} {before : List Time.Instant} {j : Journal}
    (h : j.Faithful b before) (now : Time.Instant) (key : TargetKey) :
    ∃ gone, starts (j.entries key) = gone ++ j.limiter.charged now key ∧
      ∀ time ∈ gone, ∃ r ∈ before ++ [now], time ≤ b.cutoff r := by
  have pruned := ((h.reflects key).read now).prune (List.mem_append_right _ List.mem_cons_self)
  rw [Limiter.charged, h.config]
  exact pruned.kept

/-- Attempts that were recorded in the order of their readings are counted in the window only. -/
theorem Faithful.charged_of_ordered {b : BlastRadius} {before : List Time.Instant} {j : Journal}
    (h : j.Faithful b before) (now : Time.Instant) {key : TargetKey}
    (ordered : (starts (j.entries key)).Pairwise (· ≤ ·)) :
    ∀ time ∈ j.limiter.charged now key, b.cutoff now < time := by
  obtain ⟨gone, split, -⟩ := (h.reflects key).kept
  rw [split] at ordered
  have record := (List.pairwise_append.1 ordered).2.1
  rw [Limiter.charged, h.config]
  exact forall_lt_dropWhile_iff.2
    (record.imp fun le inside => Time.Instant.lt_of_lt_of_le inside le)

/-- Whatever the readings are, and in whatever order they come, every operation that looks at
a target counts its attempts without some of the first, each of which was out of the window at
some reading, and the first that it counts is in the window. So a target is not refused for
attempts that have all left the window. An attempt that has left it is counted just when it
stands in the record behind one that has not, and never where the attempts were recorded in
the order of their readings. -/
theorem expired_attempts_stand_behind_newer (b : BlastRadius) (ops : List Op) (now : Time.Instant)
    (key : TargetKey) :
    let j := (fresh b).run ops
    let record := (j.limiter.target key).attempts
    let charged := j.limiter.charged now key
    let usage := (j.limiter.snapshot now key).1
    (usage.attemptsInWindow = charged.length.toUInt32 ∧
      (j.limiter.validate now key).1 = verdict b key usage ∧
      (j.limiter.tryAcquire now key).1.validation = verdict b key usage) ∧
    (∃ gone, starts (j.entries key) = gone ++ charged ∧
      ∀ time ∈ gone, ∃ r ∈ readings ops ++ [now], time ≤ b.cutoff r) ∧
    (∀ time ∈ charged.head?, b.cutoff now < time) ∧
    ((j.limiter.tryAcquire now key).1.isGranted = false →
      ¬ usage.inFlight < b.maxConcurrentPerTarget ∨ b.maxAttemptsPerWindow = 0 ∨
        ∃ time ∈ charged, b.cutoff now < time) ∧
    ((∀ time ∈ charged, b.cutoff now < time) ↔
      record.Pairwise fun earlier later => b.cutoff now < earlier → b.cutoff now < later) ∧
    ((starts (j.entries key)).Pairwise (· ≤ ·) → ∀ time ∈ charged, b.cutoff now < time) := by
  intro j record charged usage
  have faithful := faithful_run b ops
  have config : j.limiter.config = b := faithful.config
  have kept : charged = record.dropWhile fun time => decide (time ≤ b.cutoff now) :=
    config ▸ rfl
  have verdict : (j.limiter.validate now key).1 = verdict b key usage := config ▸ rfl
  refine ⟨⟨snapshot_charged .., verdict, (tryAcquire_validation ..).trans verdict⟩,
    faithful.charged now key, ?_, ?_, ?_, faithful.charged_of_ordered now⟩
  · rw [kept]
    exact fun time first => lt_of_mem_head?_dropWhile first
  · exact config ▸ reason_of_refused j.limiter now key
  · rw [kept]
    exact forall_lt_dropWhile_iff

/-- A clock that was a hundred seconds ahead at the first start, or two callers who enter in the
other order of their readings: the second attempt has left the window, and is counted behind the
first one. The target is refused, although only one of its two attempts is in the window. -/
theorem clock_set_back_charges_expired :
    let b : BlastRadius := ⟨10, 2, 5, .standard⟩
    let key : TargetKey := ⟨"service:api"⟩
    let expired : Time.Instant := ⟨1700000000, 0⟩
    let ops : List Op := [.recordStart ⟨1700000100, 0⟩ key, .recordStart expired key]
    let now : Time.Instant := ⟨1700000105, 0⟩
    let j := (fresh b).run ops
    expired ∈ j.limiter.charged now key ∧ expired ≤ b.cutoff now ∧
      startsAfter (b.cutoff now) (j.entries key) = 1 ∧
      (j.limiter.snapshot now key).1.attemptsInWindow = 2 ∧
      (j.limiter.snapshot now key).1.inFlight < b.maxConcurrentPerTarget ∧
      (j.limiter.tryAcquire now key).1.isGranted = false := by
  decide +kernel

end Journal

end Remedy.Limiter
