import Remedy.Proofs.Limiter.Window

/-!
# Forgetting

A target without attempts in the window and without executions in flight is forgotten by the next
admission, whichever target that is for, and not before: a look at an idle target still shows how
its executions ended. So the counts of ends are those since the last admission that found the target
idle, and they are the only part of a report that depends on what is done to other targets.
-/

namespace Remedy

/-- The ends of one kind. -/
def TargetUsage.ends (u : TargetUsage) : Bool → UInt64
  | true => u.succeeded
  | false => u.failed

namespace Target

variable (t : Target) (success kind : Bool)

@[simp] theorem ends_prune (cutoff : Time.Instant) :
    (t.prune cutoff).usage.ends kind = t.usage.ends kind := by
  cases kind <;> rfl

@[simp] theorem ends_start (now : Time.Instant) :
    (t.start now).usage.ends kind = t.usage.ends kind := by
  cases kind <;> rfl

theorem ends_finish :
    (t.finish success).usage.ends kind = t.usage.ends kind + if kind = success then 1 else 0 := by
  cases success <;> cases kind <;> simp [finish, usage, TargetUsage.ends]

theorem settled_of_idle {t : Target} (idle : t.isIdle = true) : t.settled = fresh := if_pos idle

theorem settled_of_busy {t : Target} (busy : ¬ t.isIdle = true) : t.settled = t := if_neg busy

end Target

namespace Limiter

/-- Nothing in the window at this reading, and nothing in flight. -/
def Idle (l : Limiter) (now : Time.Instant) (key : TargetKey) : Prop :=
  ((l.target key).prune (l.config.cutoff now)).isIdle = true

instance (l : Limiter) (now : Time.Instant) (key : TargetKey) : Decidable (l.Idle now key) :=
  inferInstanceAs (Decidable (_ = true))

/-- The limiter has a record of the target. -/
def Tracks (l : Limiter) (key : TargetKey) : Prop := (l.targets.get? key.text).isSome = true

instance (l : Limiter) (key : TargetKey) : Decidable (l.Tracks key) :=
  inferInstanceAs (Decidable (_ = true))

/-- A target is reported without attempts and executions just when it is idle. -/
theorem idle_iff {l : Limiter} {now : Time.Instant} {key : TargetKey}
    (short : (l.target key).attempts.length < UInt32.size) :
    (l.snapshot now key).1.attemptsInWindow = 0 ∧ (l.snapshot now key).1.inFlight = 0 ↔
      l.Idle now key := by
  have report : (l.snapshot now key).1 = ((l.target key).prune (l.config.cutoff now)).usage :=
    look_usage l now key
  have few : ((l.target key).prune (l.config.cutoff now)).attempts.length < UInt32.size :=
    Nat.lt_of_le_of_lt (List.length_dropWhile_le _ _) short
  rw [Idle, Target.isIdle_iff, report]
  generalize (l.target key).prune (l.config.cutoff now) = t at few ⊢
  refine and_congr_left fun _ => ?_
  change t.attempts.length.toUInt32 = 0 ↔ _
  rw [← UInt32.toNat_inj, ← List.length_eq_zero_iff]
  have count : t.attempts.length.toUInt32.toNat = t.attempts.length := by
    simpa using Nat.mod_eq_of_lt few
  rw [count]
  rfl

/-- A target that is not tracked has nothing in flight. -/
theorem tracks_of_running {l : Limiter} {key : TargetKey} (running : (l.target key).inFlight ≠ 0) :
    l.Tracks key := by
  rw [Tracks]
  cases tracked : l.targets.get? key.text with
  | none =>
    rw [target, tracked] at running
    exact absurd rfl running
  | some t => rfl

/-- What is put on record is tracked. -/
theorem tracks_insert (l : Limiter) (key : TargetKey) (t : Target) :
    Tracks { l with targets := l.targets.insert key.text t } key := by
  rw [Tracks, Dict.get?_insert, if_pos rfl]
  rfl

theorem tracks_enter (l : Limiter) (now : Time.Instant) (key : TargetKey) :
    (l.enter now key).2.Tracks key :=
  tracks_insert { l with targets := evictIdle l.targets (l.config.cutoff now) } key _

namespace Tracks

variable {l : Limiter} {key : TargetKey}

theorem insert (h : l.Tracks key) (k : TargetKey) (t : Target) :
    Tracks { l with targets := l.targets.insert k.text t } key := by
  rw [Tracks, Dict.get?_insert]
  split
  · rfl
  · exact h

theorem look (h : l.Tracks key) (now : Time.Instant) (k : TargetKey) :
    (l.look now k).2.Tracks key := by
  rw [Limiter.look]
  split
  · exact h.insert k _
  · exact h

theorem enter (h : l.Tracks key) {now : Time.Instant} (k : TargetKey) (busy : ¬ l.Idle now key) :
    (l.enter now k).2.Tracks key := by
  obtain ⟨t, tracked⟩ := Option.isSome_iff_exists.1 h
  have kept : (evictIdle l.targets (l.config.cutoff now)).get? key.text =
      some (t.prune (l.config.cutoff now)) := by
    rw [Idle, target, tracked] at busy
    rw [evictIdle, Dict.get?_filter, Dict.get?_map, tracked]
    simpa [Option.filter] using busy
  have entered : Tracks { l with targets := evictIdle l.targets (l.config.cutoff now) } key := by
    rw [Tracks, kept]
    rfl
  exact entered.insert k _

theorem recordEnd (h : l.Tracks key) (k : TargetKey) (success : Bool) :
    (l.recordEnd k success).Tracks key := by
  rw [Limiter.recordEnd]
  split
  · exact h.insert k _
  · exact h

end Tracks

theorem target_recordEnd (l : Limiter) (key : TargetKey) (success : Bool) (k : TargetKey) :
    (l.recordEnd key success).target k =
      if k = key ∧ l.Tracks key then (l.target k).finish success else l.target k := by
  rw [recordEnd]
  cases tracked : l.targets.get? key.text with
  | none => simp [Tracks, tracked]
  | some t =>
    rw [target_insert]
    by_cases same : k = key
    · simp [same, target, Tracks, tracked]
    · simp [same]

/-! ## What is counted of the ends -/

section Ends

variable (l : Limiter) (now : Time.Instant) (k key : TargetKey) (kind success : Bool)

/-- The ends of one kind that are counted for a target. -/
def ended : UInt64 := (l.target key).usage.ends kind

theorem ends_snapshot : (l.snapshot now key).1.ends kind = l.ended key kind := by
  change (l.look now key).1.ends kind = _
  rw [look_usage, Target.ends_prune]
  rfl

theorem ended_look : (l.look now k).2.ended key kind = l.ended key kind := by
  rw [ended, target_look]
  split
  · exact Target.ends_prune ..
  · rfl

theorem ends_settled :
    ((l.target key).prune (l.config.cutoff now)).settled.usage.ends kind =
      if l.Idle now key then 0 else l.ended key kind := by
  by_cases idle : l.Idle now key
  · rw [if_pos idle, Target.settled_of_idle idle]
    cases kind <;> rfl
  · rw [if_neg idle, Target.settled_of_busy idle, Target.ends_prune]
    rfl

theorem ended_enter :
    (l.enter now k).2.ended key kind = if l.Idle now key then 0 else l.ended key kind := by
  rw [ended, target_enter, ends_settled]

theorem ended_recordStart :
    (l.recordStart now k).ended key kind = if l.Idle now key then 0 else l.ended key kind := by
  rw [ended, target_recordStart]
  split
  · rw [Target.ends_start, ends_settled]
  · exact ends_settled ..

theorem ended_recordEnd :
    (l.recordEnd k success).ended key kind =
      l.ended key kind + if (k, success) = (key, kind) ∧ l.Tracks key then 1 else 0 := by
  rw [ended, target_recordEnd]
  by_cases same : key = k
  · subst same
    by_cases tracked : l.Tracks key
    · simp [tracked, Target.ends_finish, ended, eq_comm (a := kind)]
    · simp [tracked, ended]
  · simp [same, Ne.symm same, ended]

end Ends

/-! ## What operations make of it -/

namespace Op

/-- The target that an operation is about. -/
def key : Op → TargetKey
  | acquire _ key | validate _ key | snapshot _ key | recordStart _ key | recordEnd key _ => key
  | finish permit _ | drop permit => permit.key

/-- The reading of an admission, which checks a budget or does not. -/
def admission? : Op → Option Time.Instant
  | acquire now _ | recordStart now _ => some now
  | validate .. | snapshot .. | recordEnd .. | finish .. | drop _ => none

/-- The end that an operation records: how the execution ended, and for which target. -/
def end? : Op → Option (TargetKey × Bool)
  | recordEnd key success => some (key, success)
  | finish permit success => if permit.finished then none else some (permit.key, success)
  | drop permit => if permit.finished then none else some (permit.key, false)
  | acquire .. | validate .. | snapshot .. | recordStart .. => none

theorem reading?_of_admission? {op : Op} {r : Time.Instant} (h : op.admission? = some r) :
    op.reading? = some r := by
  cases op with
  | acquire now key => exact h
  | recordStart now key => exact h
  | validate | snapshot | recordEnd | finish | drop => cases h

/-- An admission that finds the target idle. -/
def Forgets (op : Op) (l : Limiter) (key : TargetKey) : Prop :=
  ∃ r, op.admission? = some r ∧ l.Idle r key

theorem forgets_iff (op : Op) {l : Limiter} {key : TargetKey} {r : Time.Instant}
    (admission : op.admission? = some r) : op.Forgets l key ↔ l.Idle r key := by
  simp [Forgets, admission]

theorem not_forgets {op : Op} {l : Limiter} {key : TargetKey} (h : op.admission? = none) :
    ¬ op.Forgets l key := by
  simp [Forgets, h]

instance (op : Op) (l : Limiter) (key : TargetKey) : Decidable (op.Forgets l key) :=
  match admission : op.admission? with
  | some _ => decidable_of_iff _ (forgets_iff op admission).symm
  | none => isFalse (not_forgets admission)

/-- What an operation does to a limiter: it looks at its target, enters it or starts an execution of
it, records an end, or does nothing. -/
inductive Does (op : Op) (l : Limiter) : Limiter → Prop
  | looks (now : Time.Instant) (quiet : op.admission? = none) (endless : op.end? = none) :
      Does op l (l.look now op.key).2
  | enters {now : Time.Instant} (admission : op.admission? = some now) (endless : op.end? = none) :
      Does op l (l.enter now op.key).2
  | starts {now : Time.Instant} (admission : op.admission? = some now) (endless : op.end? = none) :
      Does op l (l.recordStart now op.key)
  | ends {success : Bool} (quiet : op.admission? = none)
      (recorded : op.end? = some (op.key, success)) : Does op l (l.recordEnd op.key success)
  | nothing (quiet : op.admission? = none) (endless : op.end? = none) : Does op l l

end Op

/-- The number of ends of one kind that are recorded for a target. -/
def endsIn (key : TargetKey) (kind : Bool) (ops : List Op) : Nat :=
  ops.countP fun op => decide (op.end? = some (key, kind))

theorem endsIn_cons (key : TargetKey) (kind : Bool) (op : Op) (ops : List Op) :
    endsIn key kind (op :: ops) =
      (if op.end? = some (key, kind) then 1 else 0) + endsIn key kind ops := by
  rw [endsIn, List.countP_cons, Nat.add_comm]
  simp [endsIn]

namespace Journal

variable {j : Journal} {key : TargetKey}

/-- What a permit does that is released, whoever releases it. -/
theorem does_release {op : Op} {permit : Permit} {success : Bool} (key : op.key = permit.key)
    (quiet : op.admission? = none)
    (end_ : op.end? = if permit.finished then none else some (permit.key, success)) :
    op.Does j.limiter (permit.release success j.limiter).2 := by
  rw [Permit.release]
  by_cases spent : permit.finished = true
  · rw [if_pos spent] at end_ ⊢
    exact .nothing quiet end_
  · rw [if_neg spent] at end_ ⊢
    rw [← key] at end_ ⊢
    exact .ends quiet end_

theorem does_step (j : Journal) (op : Op) : op.Does j.limiter (j.step op).limiter := by
  cases op with
  | acquire now k =>
    rw [step_acquire]
    split
    · exact .starts rfl rfl
    · exact .enters rfl rfl
  | validate now k => exact .looks now rfl rfl
  | snapshot now k => exact .looks now rfl rfl
  | recordStart now k => exact .starts rfl rfl
  | recordEnd k success => exact .ends rfl rfl
  | finish permit success =>
    rw [step_finish]
    exact does_release rfl rfl rfl
  | drop permit => exact does_release rfl rfl rfl

/-- An admission that finds a target idle takes its ends away, and an end that is recorded for a
tracked target adds one. -/
theorem ended_step (j : Journal) (op : Op) (key : TargetKey) (kind : Bool) :
    (j.step op).limiter.ended key kind =
      if op.Forgets j.limiter key then 0
      else j.limiter.ended key kind +
        if op.end? = some (key, kind) ∧ j.limiter.Tracks key then 1 else 0 := by
  have does := does_step j op
  generalize (j.step op).limiter = next at does
  cases does with
  | looks now quiet endless =>
    rw [if_neg (Op.not_forgets quiet), ended_look]
    simp [endless]
  | enters admission endless =>
    simp only [Op.forgets_iff op admission, ended_enter]
    simp [endless]
  | starts admission endless =>
    simp only [Op.forgets_iff op admission, ended_recordStart]
    simp [endless]
  | ends quiet recorded =>
    rw [if_neg (Op.not_forgets quiet), ended_recordEnd]
    simp [recorded]
  | nothing quiet endless =>
    rw [if_neg (Op.not_forgets quiet)]
    simp [endless]

/-- Whatever is done, a target counts no more ends than it did and those that are recorded. -/
theorem ended_run_le (ops : List Op) (j : Journal) (key : TargetKey) (kind : Bool) :
    ((j.run ops).limiter.ended key kind).toNat ≤
      (j.limiter.ended key kind).toNat + endsIn key kind ops := by
  induction ops generalizing j with
  | nil => exact Nat.le_refl _
  | cons op rest ih =>
    have first : ((j.step op).limiter.ended key kind).toNat ≤
        (j.limiter.ended key kind).toNat + if op.end? = some (key, kind) then 1 else 0 := by
      rw [ended_step]
      split
      · exact Nat.zero_le _
      · rw [UInt64.toNat_add]
        refine Nat.le_trans (Nat.mod_le _ _) (Nat.add_le_add_left ?_ _)
        by_cases recorded : op.end? = some (key, kind)
        · rw [if_pos recorded]
          split <;> decide
        · simp [recorded]
    have later := ih (j.step op)
    rw [endsIn_cons]
    change (((j.step op).run rest).limiter.ended key kind).toNat ≤ _
    omega

/-! ## Records that are kept -/

/-- None of the operations forgets the target. -/
def Retains (key : TargetKey) : Journal → List Op → Prop
  | _, [] => True
  | j, op :: ops => ¬ op.Forgets j.limiter key ∧ Retains key (j.step op) ops

/-- An operation that does not forget a target keeps its record. -/
theorem tracks_step {op : Op} (tracked : j.limiter.Tracks key)
    (kept : ¬ op.Forgets j.limiter key) : (j.step op).limiter.Tracks key := by
  have does := does_step j op
  generalize (j.step op).limiter = next at does
  cases does with
  | looks now => exact tracked.look now _
  | enters admission => exact tracked.enter _ (mt (Op.forgets_iff op admission).2 kept)
  | starts admission =>
    have entered := tracked.enter op.key (mt (Op.forgets_iff op admission).2 kept)
    exact entered.insert _ _
  | ends => exact tracked.recordEnd _ _
  | nothing => exact tracked

/-- An admission tracks its own target, whether it grants the start or not. -/
theorem tracks_of_admission {op : Op} {r : Time.Instant} (admission : op.admission? = some r) :
    (j.step op).limiter.Tracks op.key := by
  have does := does_step j op
  generalize (j.step op).limiter = next at does
  cases does with
  | looks now quiet => simp [quiet] at admission
  | enters => exact tracks_enter _ _ _
  | starts => exact tracks_insert _ _ _
  | ends quiet => simp [quiet] at admission
  | nothing quiet => simp [quiet] at admission

/-- A target that is tracked and not forgotten counts every end that is recorded. -/
theorem ended_run (ops : List Op) {j : Journal} (tracked : j.limiter.Tracks key)
    (kept : Retains key j ops) (kind : Bool) :
    (j.run ops).limiter.ended key kind =
      j.limiter.ended key kind + (endsIn key kind ops).toUInt64 := by
  induction ops generalizing j with
  | nil => exact (UInt64.add_zero _).symm
  | cons op rest ih =>
    have first := ended_step j op key kind
    have later := ih (tracks_step tracked kept.1) kept.2
    rw [if_neg kept.1] at first
    change ((j.step op).run rest).limiter.ended key kind = _
    rw [later, first, endsIn_cons]
    by_cases recorded : op.end? = some (key, kind)
    · simp [recorded, tracked, UInt64.add_assoc]
    · simp [recorded]

/-! ## Other targets -/

/-- What an operation does to the record of a target that it is not about. -/
theorem target_step_of_other {op : Op} (other : op.key ≠ key) :
    (j.step op).limiter.target key = match op.admission? with
      | some r => ((j.limiter.target key).prune (j.limiter.config.cutoff r)).settled
      | none => j.limiter.target key := by
  have apart : key ≠ op.key := Ne.symm other
  have does := does_step j op
  generalize (j.step op).limiter = next at does
  cases does with
  | looks now quiet =>
    rw [quiet]
    exact (target_look ..).trans (if_neg apart)
  | enters admission =>
    rw [admission]
    exact target_enter ..
  | starts admission =>
    rw [admission]
    exact (target_recordStart ..).trans (if_neg apart)
  | ends quiet =>
    rw [quiet]
    exact (target_recordEnd ..).trans (if_neg fun both => apart both.1)
  | nothing quiet =>
    rw [quiet]

/-- Whatever is done to another target, the same attempts and executions are reported, and the same
ends unless the target is forgotten. -/
theorem Faithful.snapshot_step_of_other {b : BlastRadius} {before : List Time.Instant}
    (h : j.Faithful b before) {op : Op} (other : op.key ≠ key) {now : Time.Instant}
    (later : ∀ r, op.reading? = some r → b.cutoff r ≤ b.cutoff now) :
    let report := (j.limiter.snapshot now key).1
    let next := ((j.step op).limiter.snapshot now key).1
    (next.attemptsInWindow = report.attemptsInWindow ∧ next.inFlight = report.inFlight) ∧
      (op.Forgets j.limiter key → next = .none) ∧ (¬ op.Forgets j.limiter key → next = report) := by
  intro report next
  have reported : report = ((j.limiter.target key).prune (b.cutoff now)).usage :=
    h.config ▸ look_usage j.limiter now key
  have goes : next = (((j.step op).limiter.target key).prune (b.cutoff now)).usage :=
    (h.step op).config ▸ look_usage (j.step op).limiter now key
  rw [target_step_of_other other, h.config] at goes
  cases admission : op.admission? with
  | none =>
    rw [admission] at goes
    have same : next = report := goes.trans reported.symm
    exact ⟨same ▸ ⟨rfl, rfl⟩, fun forgets => absurd forgets (Op.not_forgets admission),
      fun _ => same⟩
  | some r =>
    simp only [admission] at goes
    have le : b.cutoff r ≤ b.cutoff now := later r (Op.reading?_of_admission? admission)
    rw [← Target.prune_prune _ le] at reported
    rw [Op.forgets_iff op admission, Idle, h.config]
    generalize (j.limiter.target key).prune (b.cutoff r) = t at goes reported ⊢
    by_cases idle : t.isIdle = true
    · rw [Target.settled_of_idle idle] at goes
      obtain ⟨empty, still⟩ := Target.isIdle_iff.1 idle
      have attempts : report.attemptsInWindow = 0 := by
        rw [reported]
        change (List.length (t.attempts.dropWhile _)).toUInt32 = 0
        rw [empty]
        rfl
      have inFlight : report.inFlight = 0 := reported ▸ still
      rw [attempts, inFlight]
      exact ⟨goes ▸ ⟨rfl, rfl⟩, fun _ => goes, fun kept => absurd idle kept⟩
    · rw [Target.settled_of_busy idle] at goes
      have same : next = report := goes.trans reported.symm
      exact ⟨same ▸ ⟨rfl, rfl⟩, fun forgets => absurd forgets idle, fun _ => same⟩

/-- Nothing in the window and nothing in flight is what is reported of an idle target. An admission,
for whichever target, takes away the ends of a target that it finds idle; everything else adds the
end that it records, so a target with nothing in the window and nothing in flight is reported
without ends only as long as none have been recorded since. What is done to other targets changes
nothing but that. -/
theorem admissions_forget_idle_targets (b : BlastRadius) (ops : List Op) (key : TargetKey) :
    let j := (fresh b).run ops
    (∀ now, (j.limiter.target key).attempts.length < UInt32.size →
      let report := (j.limiter.snapshot now key).1
      (report.attemptsInWindow = 0 ∧ report.inFlight = 0 ↔ j.limiter.Idle now key)) ∧
    (∀ op now kind, ((j.step op).limiter.snapshot now key).1.ends kind =
      if op.Forgets j.limiter key then 0
      else (j.limiter.snapshot now key).1.ends kind +
        if op.end? = some (key, kind) ∧ j.limiter.Tracks key then 1 else 0) ∧
    ((j.limiter.target key).inFlight ≠ 0 → j.limiter.Tracks key) ∧
    (∀ op later now kind, op.Forgets j.limiter key →
      let report := ((j.run (op :: later)).limiter.snapshot now key).1
      (report.ends kind).toNat ≤ endsIn key kind later ∧
        (op.key = key → Retains key (j.step op) later →
          report.ends kind = (endsIn key kind later).toUInt64)) ∧
    (∀ op now, op.key ≠ key → (∀ r, op.reading? = some r → b.cutoff r ≤ b.cutoff now) →
      let report := (j.limiter.snapshot now key).1
      let next := ((j.step op).limiter.snapshot now key).1
      (next.attemptsInWindow = report.attemptsInWindow ∧ next.inFlight = report.inFlight) ∧
        (op.Forgets j.limiter key → next = .none) ∧
        (¬ op.Forgets j.limiter key → next = report)) := by
  intro j
  refine ⟨fun now short => idle_iff short, fun op now kind => ?_, tracks_of_running,
    fun op later now kind forgets => ?_,
    fun op now other later => (faithful_run b ops).snapshot_step_of_other other later⟩
  · rw [ends_snapshot, ends_snapshot]
    exact ended_step j op key kind
  · intro report
    have started : (j.step op).limiter.ended key kind = 0 := by
      rw [ended_step, if_pos forgets]
    have counted : report.ends kind = ((j.step op).run later).limiter.ended key kind :=
      ends_snapshot ..
    rw [counted]
    constructor
    · simpa [started] using ended_run_le later (j.step op) key kind
    · intro own kept
      obtain ⟨r, admission, -⟩ := forgets
      have tracked : (j.step op).limiter.Tracks key := own ▸ tracks_of_admission admission
      rw [ended_run later tracked kept, started, UInt64.zero_add]

/-- Ten seconds after the only execution has ended nothing is in the window, and its end is still
reported; an admission for another target takes it away. -/
theorem idle_target_keeps_ends :
    let b : BlastRadius := ⟨10, 5, 5, .standard⟩
    let key : TargetKey := ⟨"service:api"⟩
    let ops : List Op := [.recordStart ⟨1700000000, 0⟩ key, .recordEnd key true]
    let now : Time.Instant := ⟨1700000020, 0⟩
    let j := (fresh b).run ops
    let foreign : Op := .acquire now ⟨"service:web"⟩
    b.Steady (readings (ops ++ [foreign]) ++ [now]) ∧ foreign.key ≠ key ∧
      (j.limiter.snapshot now key).1 = ⟨0, 0, 1, 0⟩ ∧
      ((j.step foreign).limiter.snapshot now key).1 = ⟨0, 0, 0, 0⟩ := by
  decide +kernel

end Journal

end Limiter

end Remedy
