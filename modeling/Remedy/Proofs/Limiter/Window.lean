import Remedy.Proofs.Limiter.Usage
import Mathlib.Data.List.Induction
import Mathlib.Data.List.TakeWhile

/-!
# The sliding window

A journal runs a limiter and keeps every start and every end that the limiter recorded. A limiter
drops attempts when it happens to look at them and forgets whole targets, so its records are only
parts of the journal. What it answers is the journal's own count nevertheless: the starts after the
cutoff, and the starts that have no end. The readings of the clock may not decrease for that, and
neither may their cutoffs. The second follows from the first outside leap seconds, and only there.
-/

namespace Remedy

namespace BlastRadius

/-- The cutoff of an ordinary reading lies a window before it, as far as the calendar goes. -/
theorem cutoff_eq (b : BlastRadius) {now : Time.Instant} (h : now.IsOrdinary) :
    b.cutoff now =
      if b.windowSeconds.toNat ≤ 9223372036854775 ∧
          Time.Instant.firstSecond ≤ now.second - b.windowSeconds.toNat then
        ⟨now.second - b.windowSeconds.toNat, now.nano⟩
      else .earliest := by
  have last := (Time.Instant.inRange_iff.1 h.1).2
  have hr : (⟨now.second - b.windowSeconds.toNat, now.nano⟩ : Time.Instant).inRange = true ↔
      Time.Instant.firstSecond ≤ now.second - b.windowSeconds.toNat := by
    rw [Time.Instant.inRange_iff]
    dsimp only
    omega
  unfold cutoff
  dsimp only
  rw [Time.Instant.shift?_seconds h.2]
  by_cases fits : b.windowSeconds.toNat ≤ 9223372036854775
  · by_cases first : Time.Instant.firstSecond ≤ now.second - b.windowSeconds.toNat
    · simp [fits, first, hr]
    · simp [fits, first, hr]
  · simp [fits]

theorem cutoff_mono (b : BlastRadius) {r now : Time.Instant} (hr : r.IsOrdinary)
    (hnow : now.IsOrdinary) (le : r ≤ now) : b.cutoff r ≤ b.cutoff now := by
  rw [b.cutoff_eq hr, b.cutoff_eq hnow]
  rw [Time.Instant.le_iff] at le
  split
  · next early =>
    rw [if_pos ⟨early.1, by omega⟩, Time.Instant.le_iff]
    dsimp only
    omega
  · split
    · next late =>
      rw [Time.Instant.le_iff]
      change Time.Instant.firstSecond < _ ∨ Time.Instant.firstSecond = _ ∧ 0 ≤ now.nano
      dsimp only
      omega
    · exact Time.Instant.le_refl _

/-- A reading at most a window after `s` has its cutoff at `s` or before. -/
theorem cutoff_le (b : BlastRadius) {s now : Time.Instant} (h : now.IsOrdinary)
    (hs : Time.Instant.earliest ≤ s)
    (within : now ≤ ⟨s.second + b.windowSeconds.toNat, s.nano⟩) : b.cutoff now ≤ s := by
  rw [b.cutoff_eq h]
  split
  · rw [Time.Instant.le_iff] at within ⊢
    dsimp only at within ⊢
    omega
  · exact hs

/-- Neither the readings nor their cutoffs decrease. -/
def Steady (b : BlastRadius) (readings : List Time.Instant) : Prop :=
  readings.Pairwise fun r now => r ≤ now ∧ b.cutoff r ≤ b.cutoff now

instance (b : BlastRadius) (readings : List Time.Instant) : Decidable (b.Steady readings) :=
  inferInstanceAs (Decidable (List.Pairwise _ readings))

theorem steady_of_ordinary (b : BlastRadius) {readings : List Time.Instant}
    (ordered : readings.Pairwise (· ≤ ·)) (ordinary : ∀ r ∈ readings, r.IsOrdinary) :
    b.Steady readings := by
  apply List.Pairwise.imp_of_mem _ ordered
  intro r now hr hnow le
  exact ⟨le, b.cutoff_mono (ordinary r hr) (ordinary now hnow) le⟩

end BlastRadius

namespace Limiter

/-! ## Journals -/

/-- What is recorded for a target. -/
inductive Entry where
  | start (time : Time.Instant)
  | finish (success : Bool)
deriving DecidableEq

namespace Entry

def time? : Entry → Option Time.Instant
  | start time => some time
  | finish _ => none

/-- Executions in flight after an entry; an end without a start leaves none. -/
def count (inFlight : Nat) : Entry → Nat
  | start _ => inFlight + 1
  | finish _ => inFlight - 1

end Entry

/-- The times of the starts, oldest first. -/
def starts (entries : List Entry) : List Time.Instant := entries.filterMap Entry.time?

/-- The number of starts after a cutoff. -/
def startsAfter (cutoff : Time.Instant) (entries : List Entry) : Nat :=
  (starts entries).countP fun time => cutoff < time

/-- Starts less ends. -/
def balance (entries : List Entry) : Nat := entries.foldl Entry.count 0

/-- An operation on a limiter, with the reading of the clock that its caller made. -/
inductive Op where
  | acquire (now : Time.Instant) (key : TargetKey)
  | validate (now : Time.Instant) (key : TargetKey)
  | snapshot (now : Time.Instant) (key : TargetKey)
  | recordStart (now : Time.Instant) (key : TargetKey)
  | recordEnd (key : TargetKey) (success : Bool)
  | finish (permit : Permit) (success : Bool)
  | drop (permit : Permit)

def Op.reading? : Op → Option Time.Instant
  | acquire now _ | validate now _ | snapshot now _ | recordStart now _ => some now
  | recordEnd .. | finish .. | drop _ => none

def readings (ops : List Op) : List Time.Instant := ops.filterMap Op.reading?

/-- The end that a permit records when it is released. -/
def Permit.owed (p : Permit) (success : Bool) : List (TargetKey × Entry) :=
  if p.finished then [] else [(p.key, .finish success)]

/-- A limiter with all that it has recorded, oldest first. -/
structure Journal where
  limiter : Limiter
  history : List (TargetKey × Entry)

namespace Journal

def fresh (config : BlastRadius) : Journal := ⟨.new config, []⟩

/-- What was recorded for one target. -/
def entries (j : Journal) (key : TargetKey) : List Entry :=
  j.history.filterMap fun e => if e.1 = key then some e.2 else none

def step (j : Journal) : Op → Journal
  | .acquire now key =>
    match j.limiter.tryAcquire now key with
    | (.granted .., l) => ⟨l, j.history ++ [(key, .start now)]⟩
    | (.denied _, l) => ⟨l, j.history⟩
  | .validate now key => ⟨(j.limiter.validate now key).2, j.history⟩
  | .snapshot now key => ⟨(j.limiter.snapshot now key).2, j.history⟩
  | .recordStart now key => ⟨j.limiter.recordStart now key, j.history ++ [(key, .start now)]⟩
  | .recordEnd key success =>
    ⟨j.limiter.recordEnd key success, j.history ++ [(key, .finish success)]⟩
  | .finish permit success =>
    ⟨(permit.finish success j.limiter).2, j.history ++ permit.owed success⟩
  | .drop permit => ⟨(permit.drop j.limiter).2, j.history ++ permit.owed false⟩

def run (j : Journal) (ops : List Op) : Journal := ops.foldl step j

/-- An admission records the start that it grants, and nothing when it grants none. -/
theorem step_acquire (j : Journal) (now : Time.Instant) (key : TargetKey) :
    j.step (.acquire now key) =
      if (j.limiter.validate now key).1.passed then
        ⟨j.limiter.recordStart now key, j.history ++ [(key, .start now)]⟩
      else ⟨(j.limiter.enter now key).2, j.history⟩ := by
  simp only [step, tryAcquire_eq]
  by_cases passed : (j.limiter.validate now key).1.passed = true
  · rw [if_pos passed, if_pos passed]
  · rw [if_neg passed, if_neg passed]

theorem step_finish (j : Journal) (permit : Permit) (success : Bool) :
    j.step (.finish permit success) =
      ⟨(permit.release success j.limiter).2, j.history ++ permit.owed success⟩ := by
  simp only [step, Permit.finish_eq_release]

@[simp] theorem run_append (j : Journal) (ops : List Op) (op : Op) :
    j.run (ops ++ [op]) = (j.run ops).step op := by
  simp [run]

theorem entries_append (l l' : Limiter) (history : List (TargetKey × Entry)) (key : TargetKey)
    (e : Entry) (k : TargetKey) :
    (⟨l', history ++ [(key, e)]⟩ : Journal).entries k =
      if k = key then (⟨l, history⟩ : Journal).entries k ++ [e]
      else (⟨l, history⟩ : Journal).entries k := by
  by_cases h : k = key
  · simp [entries, h]
  · simp [entries, h, Ne.symm h]

end Journal

@[simp] theorem starts_append_start (entries : List Entry) (now : Time.Instant) :
    starts (entries ++ [.start now]) = starts entries ++ [now] := by
  simp [starts, Entry.time?]

@[simp] theorem starts_append_finish (entries : List Entry) (success : Bool) :
    starts (entries ++ [.finish success]) = starts entries := by
  simp [starts, Entry.time?]

@[simp] theorem balance_append (entries : List Entry) (e : Entry) :
    balance (entries ++ [e]) = e.count (balance entries) := by
  simp [balance]

theorem balance_le_starts (entries : List Entry) : balance entries ≤ (starts entries).length := by
  induction entries using List.reverseRecOn with
  | nil => exact Nat.le_refl _
  | append_singleton entries e ih =>
    cases e with
    | start now => simpa [Entry.count] using ih
    | finish success =>
      simp only [balance_append, starts_append_finish, Entry.count]
      omega

/-- In ascending order, dropping what is in front counts what is after the cutoff. -/
theorem length_dropWhile_le_cutoff (cutoff : Time.Instant) {times : List Time.Instant}
    (sorted : times.Pairwise (· ≤ ·)) :
    (times.dropWhile fun time => decide (time ≤ cutoff)).length =
      times.countP fun time => decide (cutoff < time) := by
  induction times with
  | nil => rfl
  | cons first rest ih =>
    obtain ⟨least, tail⟩ := List.pairwise_cons.1 sorted
    by_cases old : first ≤ cutoff
    · have inside : ¬ cutoff < first := fun after => after old
      rw [List.dropWhile_cons_of_pos (by simpa using old), ih tail,
        List.countP_cons_of_neg (by simpa using inside)]
    · have all : ∀ time ∈ first :: rest, decide (cutoff < time) = true := by
        intro time hmem
        rcases List.mem_cons.1 hmem with same | later
        · exact decide_eq_true (same ▸ old)
        · exact decide_eq_true (Time.Instant.lt_of_lt_of_le old (least time later))
      rw [List.dropWhile_cons_of_neg (by simpa using old), List.countP_eq_length.2 all]

/-! ## Records follow from journals -/

/-- A record follows from what was recorded for its target when it has lost no more than starts
that were outside the window at some reading. -/
structure Reflects (b : BlastRadius) (readings : List Time.Instant) (t : Target)
    (entries : List Entry) : Prop where
  /-- Starts were made at readings, in their order. -/
  timed : (starts entries).Sublist readings
  kept : ∃ gone, starts entries = gone ++ t.attempts ∧
    ∀ time ∈ gone, ∃ r ∈ readings, time ≤ b.cutoff r
  inFlight : (starts entries).length < UInt32.size → t.inFlight.toNat = balance entries

namespace Reflects

variable {b : BlastRadius} {readings : List Time.Instant} {t : Target} {entries : List Entry}

theorem fresh (b : BlastRadius) : Reflects b [] .fresh [] where
  timed := List.Sublist.refl _
  kept := ⟨[], rfl, by simp⟩
  inFlight := fun _ => rfl

/-- More readings do no harm. -/
theorem read (h : Reflects b readings t entries) (now : Time.Instant) :
    Reflects b (readings ++ [now]) t entries where
  timed := h.timed.trans (List.sublist_append_left _ _)
  kept := by
    obtain ⟨gone, split, old⟩ := h.kept
    refine ⟨gone, split, fun time hmem => ?_⟩
    obtain ⟨r, hr, le⟩ := old time hmem
    exact ⟨r, List.mem_append_left _ hr, le⟩
  inFlight := h.inFlight

theorem prune (h : Reflects b readings t entries) {now : Time.Instant} (hnow : now ∈ readings) :
    Reflects b readings (t.prune (b.cutoff now)) entries where
  timed := h.timed
  kept := by
    obtain ⟨gone, split, old⟩ := h.kept
    refine ⟨gone ++ t.attempts.takeWhile fun time => decide (time ≤ b.cutoff now), ?_, ?_⟩
    · rw [Target.prune_attempts, List.append_assoc, List.takeWhile_append_dropWhile]
      exact split
    · intro time hmem
      rcases List.mem_append.1 hmem with hmem | hmem
      · exact old time hmem
      · exact ⟨now, hnow, by simpa using List.mem_takeWhile_imp hmem⟩
  inFlight := h.inFlight

/-- Only the attempts and the executions in flight matter. -/
theorem congr {t' : Target} (h : Reflects b readings t entries)
    (attempts : t'.attempts = t.attempts) (inFlight : t'.inFlight = t.inFlight) :
    Reflects b readings t' entries where
  timed := h.timed
  kept := attempts ▸ h.kept
  inFlight := inFlight ▸ h.inFlight

theorem length_attempts (h : Reflects b readings t entries) :
    t.attempts.length ≤ (starts entries).length := by
  obtain ⟨gone, split, -⟩ := h.kept
  rw [split, List.length_append]
  omega

theorem settled (h : Reflects b readings t entries) : Reflects b readings t.settled entries :=
  h.congr t.settled_attempts t.settled_inFlight

theorem start (h : Reflects b readings t entries) (now : Time.Instant) :
    Reflects b (readings ++ [now]) ((t.prune (b.cutoff now)).settled.start now)
      (entries ++ [.start now]) where
  timed := by
    rw [starts_append_start]
    exact h.timed.append (List.Sublist.refl _)
  kept := by
    have pruned := ((h.read now).prune (List.mem_append_right _ List.mem_cons_self)).settled
    obtain ⟨gone, split, old⟩ := pruned.kept
    refine ⟨gone, ?_, old⟩
    rw [starts_append_start, Target.start_attempts, split, List.append_assoc]
  inFlight := by
    intro few
    rw [starts_append_start, List.length_append, List.length_singleton] at few
    have before := h.inFlight (by omega)
    have bound := balance_le_starts entries
    have room : balance entries + 1 < UInt32.size := by omega
    simp only [Target.start_inFlight, Target.settled_inFlight, Target.prune_inFlight,
      balance_append, Entry.count, UInt32.toNat_add, before]
    exact Nat.mod_eq_of_lt room

/-- An end takes one execution away and leaves the attempts alone. -/
theorem finish {t' : Target} (h : Reflects b readings t entries)
    (attempts : t'.attempts = t.attempts) (inFlight : t'.inFlight.toNat = t.inFlight.toNat - 1)
    (success : Bool) : Reflects b readings t' (entries ++ [.finish success]) where
  timed := by
    rw [starts_append_finish]
    exact h.timed
  kept := by
    rw [starts_append_finish, attempts]
    exact h.kept
  inFlight := by
    intro few
    rw [starts_append_finish] at few
    rw [inFlight, h.inFlight few, balance_append]
    rfl

/-- What is left in the window is the journal's count, since what is gone stays outside it. -/
theorem length_prune (h : Reflects b readings t entries) {now : Time.Instant}
    (steady : b.Steady (readings ++ [now])) :
    (t.prune (b.cutoff now)).attempts.length = startsAfter (b.cutoff now) entries := by
  obtain ⟨gone, split, old⟩ := h.kept
  obtain ⟨ordered, -, last⟩ := List.pairwise_append.1 steady
  have outside : gone.countP (fun time => decide (b.cutoff now < time)) = 0 := by
    rw [List.countP_eq_zero]
    intro time hmem after
    obtain ⟨r, hr, le⟩ := old time hmem
    have later := (last r hr now List.mem_cons_self).2
    exact of_decide_eq_true after (Time.Instant.le_trans le later)
  have sorted : t.attempts.Pairwise (· ≤ ·) := by
    have inner : t.attempts.Sublist readings :=
      (split ▸ List.sublist_append_right gone t.attempts).trans h.timed
    exact (ordered.imp fun both => both.1).sublist inner
  rw [startsAfter]
  rw [split, List.countP_append, outside, Nat.zero_add, Target.prune_attempts]
  exact length_dropWhile_le_cutoff (b.cutoff now) sorted

end Reflects

namespace Journal

/-- Every record follows from the journal. -/
structure Faithful (b : BlastRadius) (readings : List Time.Instant) (j : Journal) : Prop where
  config : j.limiter.config = b
  reflects : ∀ key, Reflects b readings (j.limiter.target key) (j.entries key)

theorem faithful_fresh (b : BlastRadius) : (fresh b).Faithful b [] where
  config := rfl
  reflects := fun _ => .fresh b

variable {b : BlastRadius} {before : List Time.Instant} {j : Journal}

theorem Faithful.look (h : j.Faithful b before) (now : Time.Instant) (key : TargetKey) :
    Faithful b (before ++ [now]) ⟨(j.limiter.look now key).2, j.history⟩ where
  config := by
    rw [look_config]
    exact h.config
  reflects := by
    intro k
    have read := (h.reflects k).read now
    rw [target_look, h.config]
    split
    · exact read.prune (List.mem_append_right _ List.mem_cons_self)
    · exact read

theorem Faithful.enter (h : j.Faithful b before) (now : Time.Instant) (key : TargetKey) :
    Faithful b (before ++ [now]) ⟨(j.limiter.enter now key).2, j.history⟩ where
  config := h.config
  reflects := by
    intro k
    rw [target_enter, h.config]
    exact (((h.reflects k).read now).prune (List.mem_append_right _ List.mem_cons_self)).settled

theorem Faithful.recordStart (h : j.Faithful b before) (now : Time.Instant) (key : TargetKey) :
    Faithful b (before ++ [now])
      ⟨j.limiter.recordStart now key, j.history ++ [(key, .start now)]⟩ where
  config := h.config
  reflects := by
    intro k
    rw [entries_append j.limiter, target_recordStart, h.config]
    split
    · exact (h.reflects k).start now
    · exact (((h.reflects k).read now).prune (List.mem_append_right _ List.mem_cons_self)).settled

theorem Faithful.recordEnd (h : j.Faithful b before) (key : TargetKey) (success : Bool) :
    Faithful b before
      ⟨j.limiter.recordEnd key success, j.history ++ [(key, .finish success)]⟩ where
  config := by
    rw [recordEnd_config]
    exact h.config
  reflects := by
    intro k
    have attempts := recordEnd_attempts j.limiter key success k
    have inFlight := recordEnd_inFlight j.limiter key success k
    rw [entries_append j.limiter]
    split
    · next same =>
      rw [if_pos same] at inFlight
      exact (h.reflects k).finish attempts inFlight success
    · next other =>
      rw [if_neg other, Nat.sub_zero] at inFlight
      exact (h.reflects k).congr attempts (UInt32.toNat_inj.1 inFlight)

theorem Faithful.release (h : j.Faithful b before) (permit : Permit) (success : Bool) :
    Faithful b before
      ⟨(permit.release success j.limiter).2, j.history ++ permit.owed success⟩ := by
  rw [Permit.release, Permit.owed]
  split
  · simpa using h
  · exact h.recordEnd permit.key success

theorem Faithful.step (h : j.Faithful b before) (op : Op) :
    (j.step op).Faithful b (before ++ op.reading?.toList) := by
  cases op with
  | acquire now key =>
    rw [step_acquire]
    split
    · exact h.recordStart now key
    · exact h.enter now key
  | validate now key => exact h.look now key
  | snapshot now key => exact h.look now key
  | recordStart now key => exact h.recordStart now key
  | recordEnd key success => simpa [Op.reading?, Journal.step] using h.recordEnd key success
  | finish permit success =>
    simpa [Op.reading?, step_finish] using h.release permit success
  | drop permit => simpa [Op.reading?, Journal.step, Permit.drop] using h.release permit false

theorem Faithful.run (ops : List Op) :
    ∀ {before : List Time.Instant} {j : Journal}, j.Faithful b before →
      (j.run ops).Faithful b (before ++ readings ops) := by
  induction ops with
  | nil =>
    intro before j h
    simpa [Journal.run, readings] using h
  | cons op rest ih =>
    intro before j h
    have tail := ih (h.step op)
    have split : readings (op :: rest) = op.reading?.toList ++ readings rest := by
      cases hr : op.reading? <;> simp [readings, hr]
    rw [split, ← List.append_assoc]
    exact tail

theorem faithful_run (b : BlastRadius) (ops : List Op) :
    ((fresh b).run ops).Faithful b (readings ops) := by
  simpa using (faithful_fresh b).run ops

/-- As long as a record is short enough to be counted, its count is the journal's. -/
theorem Faithful.attempts (h : j.Faithful b before) {now : Time.Instant}
    (steady : b.Steady (before ++ [now])) {key : TargetKey}
    (short : (j.limiter.target key).attempts.length < UInt32.size) :
    (j.limiter.snapshot now key).1.attemptsInWindow.toNat =
      startsAfter (b.cutoff now) (j.entries key) := by
  have left := (h.reflects key).length_prune steady
  have bound : startsAfter (b.cutoff now) (j.entries key) < UInt32.size := by
    rw [← left, Target.prune_attempts]
    exact Nat.lt_of_le_of_lt (List.length_dropWhile_le _ _) short
  change (j.limiter.look now key).1.attemptsInWindow.toNat = _
  rw [look_usage, h.config]
  change (List.length _).toUInt32.toNat = _
  rw [left]
  simpa using Nat.mod_eq_of_lt bound

theorem Faithful.inFlight (h : j.Faithful b before) (now : Time.Instant) {key : TargetKey}
    (few : (starts (j.entries key)).length < UInt32.size) :
    (j.limiter.snapshot now key).1.inFlight.toNat = balance (j.entries key) := by
  change (j.limiter.look now key).1.inFlight.toNat = _
  rw [look_usage]
  exact (h.reflects key).inFlight few

/-- Whatever was done before, a limiter answers for the window and the executions in flight of the
journal: it reads them off, admits by them, and validates as it would admit. -/
theorem answers_eq_journal (b : BlastRadius) (ops : List Op) (now : Time.Instant) (key : TargetKey)
    (steady : b.Steady (readings ops ++ [now]))
    (few : (starts (((fresh b).run ops).entries key)).length < UInt32.size) :
    let j := (fresh b).run ops
    let attempts := startsAfter (b.cutoff now) (j.entries key)
    let inFlight := balance (j.entries key)
    let usage := (j.limiter.snapshot now key).1
    (usage.attemptsInWindow.toNat = attempts ∧ usage.inFlight.toNat = inFlight) ∧
    ((j.limiter.tryAcquire now key).1.isGranted = true ↔
      attempts < b.maxAttemptsPerWindow.toNat ∧ inFlight < b.maxConcurrentPerTarget.toNat) ∧
    (j.limiter.validate now key).1 = verdict b key usage ∧
    (j.limiter.tryAcquire now key).1.validation = (j.limiter.validate now key).1 := by
  intro j attempts inFlight usage
  have faithful := faithful_run b ops
  have short := Nat.lt_of_le_of_lt (faithful.reflects key).length_attempts few
  have hattempts : usage.attemptsInWindow.toNat = attempts := faithful.attempts steady short
  have hinFlight : usage.inFlight.toNat = inFlight := faithful.inFlight now few
  have hverdict : (j.limiter.validate now key).1 = verdict b key usage := by
    rw [← faithful.config]
    rfl
  refine ⟨⟨hattempts, hinFlight⟩, ?_, hverdict, tryAcquire_validation j.limiter now key⟩
  rw [tryAcquire_isGranted, hverdict, verdict_passed_iff, UInt32.lt_iff_toNat_lt,
    UInt32.lt_iff_toNat_lt, hattempts, hinFlight]

/-- An attempt that lies at the cutoff is out of the window; one that still runs keeps the next
execution out. -/
theorem answers_eq_journal_at_cutoff :
    let b : BlastRadius := ⟨10, 2, 1, .standard⟩
    let key : TargetKey := ⟨"service:api"⟩
    let ops : List Op := [.acquire ⟨1700000000, 0⟩ key, .finish (.fresh key) true,
      .recordStart ⟨1700000005, 0⟩ key, .acquire ⟨1700000010, 0⟩ .global]
    let now : Time.Instant := ⟨1700000010, 0⟩
    (b.Steady (readings ops ++ [now]) ∧
      (starts (((fresh b).run ops).entries key)).length < UInt32.size) ∧
      (((fresh b).run ops).limiter.snapshot now key).1.attemptsInWindow.toNat = 1 ∧
      (((fresh b).run ops).limiter.tryAcquire now key).1.isGranted = false := by
  intro b key ops now
  have steady : b.Steady (readings ops ++ [now]) := by decide
  have few : (starts (((fresh b).run ops).entries key)).length < UInt32.size := by decide +kernel
  obtain ⟨⟨attempts, -⟩, granted, -⟩ := answers_eq_journal b ops now key steady few
  have count : startsAfter (b.cutoff now) (((fresh b).run ops).entries key) = 1 := by
    decide +kernel
  have busy : balance (((fresh b).run ops).entries key) = 1 := by decide +kernel
  refine ⟨⟨steady, few⟩, attempts.trans count, ?_⟩
  rw [Bool.eq_false_iff, ne_eq, granted, busy]
  exact fun free => absurd free.2 (by decide)

/-- In a leap second the cutoff runs ahead. An attempt that is dropped then is missing when a later
reading has it in its window. -/
theorem leap_second_loses_attempt :
    let b : BlastRadius := ⟨10, 5, 5, .standard⟩
    let key : TargetKey := ⟨"service:api"⟩
    let ops : List Op := [.recordStart ⟨1483228790, 300000000⟩ key,
      .snapshot ⟨1483228799, 1500000000⟩ key]
    let now : Time.Instant := ⟨1483228800, 200000000⟩
    let j := (fresh b).run ops
    (readings ops ++ [now]).Pairwise (· ≤ ·) ∧ (starts (j.entries key)).length < UInt32.size ∧
      (j.limiter.snapshot now key).1.attemptsInWindow.toNat = 0 ∧
      startsAfter (b.cutoff now) (j.entries key) = 1 := by
  decide

end Journal

end Limiter

end Remedy
