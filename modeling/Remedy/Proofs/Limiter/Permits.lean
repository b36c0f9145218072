import Remedy.Proofs.Limiter.Window

/-!
# Permits

When only admission starts executions, the limiter's own records never exceed its limits: no target
keeps more attempts than a window may hold, and each has as many executions in flight as permits
are out. A session keeps the permits of its callers, who may finish or drop any of them at any time
and more than once.
-/

namespace Remedy

/-- The window after a time: what is later, but not by more than its seconds. -/
def BlastRadius.covers (b : BlastRadius) (since time : Time.Instant) : Bool :=
  since < time && time ≤ ⟨since.second + b.windowSeconds.toNat, since.nano⟩

namespace Limiter

/-! ## Limits kept by admission -/

/-- The records stay within the limits, with so many permits held for each target. -/
structure Within (b : BlastRadius) (held : TargetKey → Nat) (l : Limiter) : Prop where
  config : l.config = b
  attempts : ∀ key, (l.target key).attempts.length ≤ b.maxAttemptsPerWindow.toNat
  inFlight : ∀ key, (l.target key).inFlight.toNat = held key
  limit : ∀ key, held key ≤ b.maxConcurrentPerTarget.toNat

/-- One more permit for a target. -/
def oneMore (held : TargetKey → Nat) (key k : TargetKey) : Nat :=
  held k + if k = key then 1 else 0

/-- One permit less for a target. -/
def oneLess (held : TargetKey → Nat) (key k : TargetKey) : Nat :=
  held k - if k = key then 1 else 0

theorem length_prune_le (t : Target) (cutoff : Time.Instant) :
    (t.prune cutoff).attempts.length ≤ t.attempts.length :=
  List.length_dropWhile_le _ _

theorem length_settled_le (t : Target) (cutoff : Time.Instant) :
    (t.prune cutoff).settled.attempts.length ≤ t.attempts.length := by
  rw [Target.settled_attempts]
  exact length_prune_le t cutoff

/-- A record that keeps fewer than `UInt32.size` attempts is counted without wrapping. -/
theorem usage_attempts {t : Target} (short : t.attempts.length < UInt32.size) :
    t.usage.attemptsInWindow.toNat = t.attempts.length := by
  change t.attempts.length.toUInt32.toNat = _
  simpa using Nat.mod_eq_of_lt short

namespace Within

variable {b : BlastRadius} {held : TargetKey → Nat} {l : Limiter}

theorem new (b : BlastRadius) : Within b (fun _ => 0) (.new b) where
  config := rfl
  attempts := fun _ => Nat.zero_le _
  inFlight := fun _ => rfl
  limit := fun _ => Nat.zero_le _

theorem short (h : l.Within b held) (key : TargetKey) :
    (l.target key).attempts.length < UInt32.size :=
  Nat.lt_of_le_of_lt (h.attempts key) b.maxAttemptsPerWindow.toNat_lt

theorem congr {held' : TargetKey → Nat} (h : l.Within b held) (same : ∀ key, held' key = held key) :
    l.Within b held' := by
  have eq : held' = held := funext same
  exact eq ▸ h

theorem look (h : l.Within b held) (now : Time.Instant) (key : TargetKey) :
    (l.look now key).2.Within b held where
  config := by
    rw [look_config]
    exact h.config
  attempts := by
    intro k
    rw [target_look]
    split
    · exact Nat.le_trans (length_prune_le _ _) (h.attempts k)
    · exact h.attempts k
  inFlight := by
    intro k
    rw [target_look]
    split
    · exact h.inFlight k
    · exact h.inFlight k
  limit := h.limit

theorem enter (h : l.Within b held) (now : Time.Instant) (key : TargetKey) :
    (l.enter now key).2.Within b held where
  config := h.config
  attempts := by
    intro k
    rw [target_enter]
    exact Nat.le_trans (length_settled_le _ _) (h.attempts k)
  inFlight := by
    intro k
    rw [target_enter, Target.settled_inFlight]
    exact h.inFlight k
  limit := h.limit

/-- A target that passes has room for one more attempt and one more execution. -/
theorem room (h : l.Within b held) {now : Time.Instant} {key : TargetKey}
    (passed : (l.validate now key).1.passed = true) :
    ((l.target key).prune (b.cutoff now)).attempts.length < b.maxAttemptsPerWindow.toNat ∧
      held key < b.maxConcurrentPerTarget.toNat := by
  rw [validate_eq, verdict_passed_iff, h.config, UInt32.lt_iff_toNat_lt, UInt32.lt_iff_toNat_lt]
    at passed
  obtain ⟨attempts, inFlight⟩ := passed
  rw [usage_attempts (Nat.lt_of_le_of_lt (length_prune_le _ _) (h.short key))] at attempts
  exact ⟨attempts, h.inFlight key ▸ inFlight⟩

/-- An admitted start is counted without wrapping. -/
theorem start_inFlight (h : l.Within b held) {key : TargetKey}
    (free : held key < b.maxConcurrentPerTarget.toNat) :
    ((l.target key).inFlight + 1).toNat = held key + 1 := by
  have top := b.maxConcurrentPerTarget.toNat_lt
  rw [UInt32.toNat_add, h.inFlight key]
  exact Nat.mod_eq_of_lt (by simpa using by omega)

theorem recordStart (h : l.Within b held) {now : Time.Instant} {key : TargetKey}
    (passed : (l.validate now key).1.passed = true) :
    (l.recordStart now key).Within b (oneMore held key) where
  config := h.config
  attempts := by
    intro k
    rw [recordStart_attempts, List.length_append]
    split
    · next same =>
      rw [List.length_singleton, h.config, same]
      exact (h.room passed).1
    · exact Nat.le_trans (length_prune_le _ _) (h.attempts k)
  inFlight := by
    intro k
    rw [oneMore, recordStart_inFlight]
    by_cases same : k = key
    · rw [if_pos same, if_pos same, same]
      exact h.start_inFlight (h.room passed).2
    · rw [if_neg same, if_neg same, UInt32.add_zero]
      exact h.inFlight k
  limit := by
    intro k
    rw [oneMore]
    by_cases same : k = key
    · rw [if_pos same, same]
      exact (h.room passed).2
    · rw [if_neg same]
      exact h.limit k

theorem recordEnd (h : l.Within b held) (key : TargetKey) (success : Bool) :
    (l.recordEnd key success).Within b (oneLess held key) where
  config := by
    rw [recordEnd_config]
    exact h.config
  attempts := by
    intro k
    rw [recordEnd_attempts]
    exact h.attempts k
  inFlight := by
    intro k
    rw [recordEnd_inFlight, h.inFlight k]
    rfl
  limit := fun k => Nat.le_trans (Nat.sub_le _ _) (h.limit k)

theorem snapshot_inFlight (h : l.Within b held) (now : Time.Instant) (key : TargetKey) :
    (l.snapshot now key).1.inFlight.toNat = held key := by
  change (l.look now key).1.inFlight.toNat = _
  rw [look_usage]
  exact h.inFlight key

end Within

/-! ## Sessions -/

/-- What a caller may do. Permits are named by their place in the order of their admission. -/
inductive Act where
  | acquire (now : Time.Instant) (key : TargetKey)
  | validate (now : Time.Instant) (key : TargetKey)
  | snapshot (now : Time.Instant) (key : TargetKey)
  | finish (i : Nat) (success : Bool)
  | drop (i : Nat)

def Act.reading? : Act → Option Time.Instant
  | acquire now _ | validate now _ | snapshot now _ => some now
  | finish .. | drop _ => none

def Admission.permit? : Admission → Option Permit
  | granted _ permit => some permit
  | denied _ => none

/-- A journal with all permits that were ever given. -/
structure Session where
  journal : Journal
  permits : List Permit

namespace Session

def fresh (config : BlastRadius) : Session := ⟨.fresh config, []⟩

def limiter (s : Session) : Limiter := s.journal.limiter

/-- The number of permits of a target that are neither finished nor dropped. -/
def held (s : Session) (key : TargetKey) : Nat :=
  s.permits.countP fun p => p.key = key && !p.finished

/-- The answer of a limiter to a caller who asks for the executions in flight. -/
def inFlight (s : Session) (now : Time.Instant) (key : TargetKey) : Nat :=
  (s.limiter.snapshot now key).1.inFlight.toNat

def step (s : Session) : Act → Session
  | .acquire now key =>
    ⟨s.journal.step (.acquire now key),
      s.permits ++ (s.limiter.tryAcquire now key).1.permit?.toList⟩
  | .validate now key => ⟨s.journal.step (.validate now key), s.permits⟩
  | .snapshot now key => ⟨s.journal.step (.snapshot now key), s.permits⟩
  | .finish i success =>
    match s.permits[i]? with
    | some p =>
      ⟨s.journal.step (.finish p success), s.permits.set i (p.finish success s.limiter).1⟩
    | none => s
  | .drop i =>
    match s.permits[i]? with
    | some p => ⟨s.journal.step (.drop p), s.permits.set i (p.drop s.limiter).1⟩
    | none => s

def run (s : Session) (acts : List Act) : Session := acts.foldl step s

@[simp] theorem run_append (s : Session) (acts : List Act) (act : Act) :
    s.run (acts ++ [act]) = (s.run acts).step act := by
  simp [run]

/-! ### What an act does -/

variable {s : Session} {now : Time.Instant} {key : TargetKey} {i : Nat} {p : Permit}

theorem step_granted (passed : (s.limiter.validate now key).1.passed = true) :
    s.step (.acquire now key) =
      ⟨⟨s.limiter.recordStart now key, s.journal.history ++ [(key, .start now)]⟩,
        s.permits ++ [.fresh key]⟩ := by
  have eq := tryAcquire_eq s.limiter now key
  have journal := s.journal.step_acquire now key
  rw [if_pos passed] at eq
  rw [if_pos (by exact passed)] at journal
  simp only [step, journal, eq, Admission.permit?, Option.toList_some]
  rfl

theorem step_denied (failed : ¬ (s.limiter.validate now key).1.passed = true) :
    s.step (.acquire now key) =
      ⟨⟨(s.limiter.enter now key).2, s.journal.history⟩, s.permits⟩ := by
  have eq := tryAcquire_eq s.limiter now key
  have journal := s.journal.step_acquire now key
  rw [if_neg failed] at eq
  rw [if_neg (by exact failed)] at journal
  simp only [step, journal, eq, Admission.permit?, Option.toList_none, List.append_nil]
  rfl

/-- To drop a permit is to finish it in failure. -/
theorem step_drop (s : Session) (i : Nat) : s.step (.drop i) = s.step (.finish i false) := by
  simp only [step]
  cases s.permits[i]? with
  | none => rfl
  | some p => simp only [Journal.step, Permit.finish_eq_release, Permit.drop]

theorem step_finish (out : s.permits[i]? = some p) (running : p.finished = false)
    (success : Bool) :
    s.step (.finish i success) =
      ⟨⟨s.limiter.recordEnd p.key success, s.journal.history ++ [(p.key, .finish success)]⟩,
        s.permits.set i { p with finished := true }⟩ := by
  simp [step, out, Journal.step, Permit.finish_eq_release, Permit.release, Permit.owed, running,
    limiter]

/-- A permit that was finished or dropped does nothing more. -/
theorem step_finish_spent (out : s.permits[i]? = some p) (spent : p.finished = true)
    (success : Bool) : s.step (.finish i success) = s := by
  have inside : s.permits.set i p = s.permits := by
    obtain ⟨bound, same⟩ := List.getElem?_eq_some_iff.1 out
    rw [← same, List.set_getElem_self]
  simp [step, out, Journal.step, Permit.finish_eq_release, Permit.release, Permit.owed, spent,
    inside]

/-- To finish a permit does nothing, or records the end of the execution that it stands for. -/
theorem finish_cases (s : Session) (i : Nat) (success : Bool) :
    s.step (.finish i success) = s ∨
      ∃ p, s.permits[i]? = some p ∧ p.finished = false ∧ s.step (.finish i success) =
        ⟨⟨s.limiter.recordEnd p.key success, s.journal.history ++ [(p.key, .finish success)]⟩,
          s.permits.set i { p with finished := true }⟩ := by
  cases out : s.permits[i]? with
  | none => exact .inl (by simp [step, out])
  | some p =>
    cases running : p.finished with
    | true => exact .inl (step_finish_spent out running success)
    | false => exact .inr ⟨p, rfl, running, step_finish out running success⟩

/-! ### What a session keeps -/

theorem held_append (j : Journal) (s : Session) (key k : TargetKey) :
    (⟨j, s.permits ++ [.fresh key]⟩ : Session).held k = oneMore s.held key k := by
  simp only [held, oneMore]
  rw [List.countP_append]
  by_cases same : k = key
  · simp [Permit.fresh, same]
  · simp [Permit.fresh, same, Ne.symm same]

theorem held_set (j : Journal) (out : s.permits[i]? = some p) (running : p.finished = false)
    (k : TargetKey) :
    (⟨j, s.permits.set i { p with finished := true }⟩ : Session).held k =
      oneLess s.held p.key k := by
  obtain ⟨bound, same⟩ := List.getElem?_eq_some_iff.1 out
  simp only [held, oneLess]
  rw [List.countP_set bound, same]
  by_cases own : k = p.key
  · simp [own, running]
  · simp [own, Ne.symm own]

theorem held_pos (out : s.permits[i]? = some p) (running : p.finished = false) :
    0 < s.held p.key := by
  rw [held]
  rw [List.countP_pos_iff]
  exact ⟨p, List.mem_of_getElem? out, by simp [running]⟩

/-- The limiter stays within its limits and follows from the journal. -/
structure Sound (b : BlastRadius) (readings : List Time.Instant) (s : Session) : Prop where
  within : s.limiter.Within b s.held
  faithful : s.journal.Faithful b readings

variable {b : BlastRadius} {before : List Time.Instant}

theorem sound_fresh (b : BlastRadius) : (fresh b).Sound b [] where
  within := .new b
  faithful := Journal.faithful_fresh b

theorem Sound.finish (h : s.Sound b before) (i : Nat) (success : Bool) :
    (s.step (.finish i success)).Sound b before := by
  rcases s.finish_cases i success with same | ⟨p, out, running, ended⟩
  · rw [same]
    exact h
  · rw [ended]
    exact ⟨(h.within.recordEnd p.key success).congr (held_set _ out running),
      h.faithful.recordEnd p.key success⟩

theorem Sound.step (h : s.Sound b before) (act : Act) :
    (s.step act).Sound b (before ++ act.reading?.toList) := by
  cases act with
  | acquire now key =>
    by_cases passed : (s.limiter.validate now key).1.passed = true
    · rw [step_granted passed]
      exact ⟨(h.within.recordStart passed).congr (held_append _ s key),
        h.faithful.recordStart now key⟩
    · rw [step_denied passed]
      exact ⟨h.within.enter now key, h.faithful.enter now key⟩
  | validate now key => exact ⟨h.within.look now key, h.faithful.look now key⟩
  | snapshot now key => exact ⟨h.within.look now key, h.faithful.look now key⟩
  | finish i success => simpa [Act.reading?] using h.finish i success
  | drop i =>
    rw [step_drop]
    simpa [Act.reading?] using h.finish i false

def readings (acts : List Act) : List Time.Instant := acts.filterMap Act.reading?

theorem readings_append (acts : List Act) (act : Act) :
    readings (acts ++ [act]) = readings acts ++ act.reading?.toList := by
  cases hr : act.reading? <;> simp [readings, hr]

theorem sound_run (b : BlastRadius) (acts : List Act) :
    ((fresh b).run acts).Sound b (readings acts) := by
  induction acts using List.reverseRecOn with
  | nil => exact sound_fresh b
  | append_singleton acts act ih =>
    rw [run_append, readings_append]
    exact ih.step act

/-- A permit that is over stays as it is, whatever is done. -/
theorem step_spent (out : s.permits[i]? = some p) (spent : p.finished = true) (act : Act) :
    (s.step act).permits[i]? = some p := by
  have bound := (List.getElem?_eq_some_iff.1 out).1
  have finish (j : Nat) (success : Bool) : (s.step (.finish j success)).permits[i]? = some p := by
    rcases s.finish_cases j success with same | ⟨q, out', running, ended⟩
    · rw [same]
      exact out
    · have other : j ≠ i := by
        rintro rfl
        rw [out] at out'
        cases out'
        rw [spent] at running
        cases running
      rw [ended]
      exact (List.getElem?_set_ne other).trans out
  cases act with
  | acquire now key => exact (List.getElem?_append_left bound).trans out
  | validate now key => exact out
  | snapshot now key => exact out
  | finish j success => exact finish j success
  | drop j =>
    rw [step_drop]
    exact finish j false

theorem run_spent (acts : List Act) (out : s.permits[i]? = some p) (spent : p.finished = true) :
    (s.run acts).permits[i]? = some p := by
  induction acts using List.reverseRecOn with
  | nil => exact out
  | append_singleton acts act ih =>
    rw [run_append]
    exact step_spent ih spent act

/-! ### The rate of admission -/

/-- Only an admission adds a start, and none but its own. -/
theorem starts_step (s : Session) (act : Act) (key : TargetKey) :
    starts ((s.step act).journal.entries key) = starts (s.journal.entries key) ∨
      ∃ now, act = .acquire now key ∧ (s.limiter.validate now key).1.passed = true ∧
        starts ((s.step act).journal.entries key) = starts (s.journal.entries key) ++ [now] := by
  have finish (i : Nat) (success : Bool) :
      starts ((s.step (.finish i success)).journal.entries key) =
        starts (s.journal.entries key) := by
    rcases s.finish_cases i success with same | ⟨p, -, -, ended⟩
    · rw [same]
    · rw [ended, Journal.entries_append s.limiter]
      split
      · exact starts_append_finish _ success
      · rfl
  cases act with
  | acquire now k =>
    by_cases passed : (s.limiter.validate now k).1.passed = true
    · by_cases same : key = k
      · subst same
        refine .inr ⟨now, rfl, passed, ?_⟩
        rw [step_granted passed, Journal.entries_append s.limiter, if_pos rfl]
        exact starts_append_start _ now
      · left
        rw [step_granted passed, Journal.entries_append s.limiter, if_neg same]
        rfl
    · left
      rw [step_denied passed]
      rfl
  | validate now k => exact .inl rfl
  | snapshot now k => exact .inl rfl
  | finish i success => exact .inl (finish i success)
  | drop i =>
    rw [step_drop]
    exact .inl (finish i false)

/-- An admission in a window finds every earlier one of that window still counted. -/
theorem Sound.room (h : s.Sound b before) {now since : Time.Instant} {key : TargetKey}
    (steady : b.Steady (before ++ [now])) (ordinary : now.IsOrdinary)
    (calendar : Time.Instant.earliest ≤ since) (inside : b.covers since now = true)
    (passed : (s.limiter.validate now key).1.passed = true) :
    (starts (s.journal.entries key)).countP (b.covers since) < b.maxAttemptsPerWindow.toNat := by
  have cutoff : b.cutoff now ≤ since := by
    simp only [BlastRadius.covers, Bool.and_eq_true, decide_eq_true_eq] at inside
    exact b.cutoff_le ordinary calendar inside.2
  have counted : (starts (s.journal.entries key)).countP (b.covers since) ≤
      startsAfter (b.cutoff now) (s.journal.entries key) := by
    apply List.countP_mono_left
    intro time _ covered
    simp only [BlastRadius.covers, Bool.and_eq_true, decide_eq_true_eq] at covered
    exact decide_eq_true (Time.Instant.lt_of_le_of_lt cutoff covered.1)
  have left := (h.faithful.reflects key).length_prune steady
  have free := (h.within.room passed).1
  change ((s.journal.limiter.target key).prune (b.cutoff now)).attempts.length < _ at free
  omega

theorem admissions_le (b : BlastRadius) {key : TargetKey} {since : Time.Instant}
    (calendar : Time.Instant.earliest ≤ since) (acts : List Act)
    (ordered : (readings acts).Pairwise (· ≤ ·))
    (ordinary : ∀ r ∈ readings acts, r.IsOrdinary) :
    (starts (((fresh b).run acts).journal.entries key)).countP (b.covers since) ≤
      b.maxAttemptsPerWindow.toNat := by
  induction acts using List.reverseRecOn with
  | nil => exact Nat.zero_le _
  | append_singleton acts act ih =>
    rw [readings_append] at ordered ordinary
    have earlier := ih (List.pairwise_append.1 ordered).1
      fun r hr => ordinary r (List.mem_append_left _ hr)
    rw [run_append]
    rcases starts_step ((fresh b).run acts) act key with same | ⟨now, rfl, passed, added⟩
    · rw [same]
      exact earlier
    · have steady : b.Steady (readings acts ++ [now]) := b.steady_of_ordinary ordered ordinary
      have hnow : now.IsOrdinary := ordinary now (List.mem_append_right _ List.mem_cons_self)
      rw [added, List.countP_append, List.countP_singleton]
      by_cases inside : b.covers since now = true
      · rw [if_pos inside]
        exact (sound_run b acts).room steady hnow calendar inside passed
      · rw [if_neg inside]
        exact earlier

/-! ### The limits -/

theorem Sound.inFlight (h : s.Sound b before) (now : Time.Instant) (key : TargetKey) :
    s.inFlight now key = s.held key :=
  h.within.snapshot_inFlight now key

/-- A permit that is out takes itself away from its target when it ends, and from no other. -/
theorem Sound.inFlight_finish (h : s.Sound b before) (out : s.permits[i]? = some p)
    (running : p.finished = false) (success : Bool) (now : Time.Instant) (key : TargetKey) :
    (s.step (.finish i success)).inFlight now key + (if key = p.key then 1 else 0) =
      s.inFlight now key := by
  have after : (s.step (.finish i success)).inFlight now key =
      (s.step (.finish i success)).held key := (h.finish i success).inFlight now key
  have pos := held_pos out running
  rw [after, h.inFlight now key, step_finish out running, held_set _ out running, oneLess]
  by_cases own : key = p.key
  · rw [if_pos own, own]
    omega
  · rw [if_neg own]
    rfl

/-- No count wraps: a record keeps too few attempts, and an admission finds too few executions. -/
theorem Sound.unwrapped (h : s.Sound b before) (now : Time.Instant) (key : TargetKey) :
    (s.limiter.snapshot now key).1.attemptsInWindow.toNat =
        ((s.limiter.target key).prune (b.cutoff now)).attempts.length ∧
      (s.limiter.enter now key).1.usage.attemptsInWindow.toNat =
        (s.limiter.enter now key).1.attempts.length ∧
      ((s.limiter.tryAcquire now key).1.isGranted = true →
        (s.step (.acquire now key)).inFlight now key = s.inFlight now key + 1) := by
  have short := h.within.short key
  refine ⟨?_, ?_, ?_⟩
  · change (s.limiter.look now key).1.attemptsInWindow.toNat = _
    rw [look_usage, h.within.config]
    exact usage_attempts (Nat.lt_of_le_of_lt (length_prune_le _ _) short)
  · rw [enter_target]
    exact usage_attempts (Nat.lt_of_le_of_lt (length_settled_le _ _) short)
  · intro granted
    rw [tryAcquire_isGranted] at granted
    rw [(h.step (.acquire now key)).inFlight, h.inFlight, step_granted granted, held_append,
      oneMore, if_pos rfl]

/-- Callers who start nothing but what is admitted keep both limits. In no window are there more
admissions of a target than allowed, as long as the clock neither goes back nor reads a leap second.
At every moment the executions in flight are the permits that are out, and every permit that is out
is taken away once, by its first end. -/
theorem keeps_limits (b : BlastRadius) (acts : List Act) :
    let s := (fresh b).run acts
    ((readings acts).Pairwise (· ≤ ·) → (∀ r ∈ readings acts, r.IsOrdinary) →
      ∀ key since, Time.Instant.earliest ≤ since →
        (starts (s.journal.entries key)).countP (b.covers since) ≤
          b.maxAttemptsPerWindow.toNat) ∧
    (∀ now key, s.inFlight now key = s.held key ∧
      s.inFlight now key ≤ b.maxConcurrentPerTarget.toNat) ∧
    (∀ i p, s.permits[i]? = some p →
      s.step (.drop i) = s.step (.finish i false) ∧
      (p.finished = false → ∀ success,
        (s.step (.finish i success)).permits[i]? = some { p with finished := true } ∧
        ∀ now key, (s.step (.finish i success)).inFlight now key +
          (if key = p.key then 1 else 0) = s.inFlight now key) ∧
      (p.finished = true → ∀ rest success,
        (s.run rest).step (.finish i success) = s.run rest)) ∧
    (∀ now key,
      (s.limiter.snapshot now key).1.attemptsInWindow.toNat =
          ((s.limiter.target key).prune (b.cutoff now)).attempts.length ∧
        (s.limiter.enter now key).1.usage.attemptsInWindow.toNat =
          (s.limiter.enter now key).1.attempts.length ∧
        ((s.limiter.tryAcquire now key).1.isGranted = true →
          (s.step (.acquire now key)).inFlight now key = s.inFlight now key + 1)) := by
  intro s
  have sound : s.Sound b (readings acts) := sound_run b acts
  refine ⟨?_, ?_, ?_, sound.unwrapped⟩
  · intro ordered ordinary key since calendar
    exact admissions_le b calendar acts ordered ordinary
  · intro now key
    rw [sound.inFlight now key]
    exact ⟨rfl, sound.within.limit key⟩
  · intro i p out
    refine ⟨step_drop s i, ?_, ?_⟩
    · intro running success
      refine ⟨?_, sound.inFlight_finish out running success⟩
      rw [step_finish out running]
      exact List.getElem?_set_self (List.getElem?_eq_some_iff.1 out).1
    · intro spent rest success
      exact step_finish_spent (run_spent rest out spent) spent success

/-- Two admissions fill a window of two: the third is refused, and the permit of the second is
still out. -/
theorem keeps_limits_when_full :
    let b : BlastRadius := ⟨10, 2, 2, .standard⟩
    let key : TargetKey := ⟨"service:api"⟩
    let acts : List Act := [.acquire ⟨1700000000, 0⟩ key, .finish 0 true,
      .acquire ⟨1700000005, 0⟩ key, .drop 0, .acquire ⟨1700000009, 0⟩ key]
    let since : Time.Instant := ⟨1699999999, 0⟩
    let s := (fresh b).run acts
    (starts (s.journal.entries key)).countP (b.covers since) = 2 ∧
      (starts (s.journal.entries key)).countP (b.covers since) ≤ b.maxAttemptsPerWindow.toNat ∧
      s.inFlight ⟨1700000009, 0⟩ key = 1 ∧
      (s.step (.finish 1 true)).inFlight ⟨1700000009, 0⟩ key + 1 = 1 := by
  intro b key acts since s
  obtain ⟨rate, flight, ends, -⟩ := keeps_limits b acts
  have full : (starts (s.journal.entries key)).countP (b.covers since) = 2 := by decide +kernel
  have held : s.held key = 1 := by decide +kernel
  have out : s.permits[1]? = some (.fresh key) := by decide +kernel
  have one : s.inFlight ⟨1700000009, 0⟩ key = 1 := (flight ⟨1700000009, 0⟩ key).1.trans held
  have lowered := ((ends 1 (.fresh key) out).2.1 rfl true).2 ⟨1700000009, 0⟩ key
  rw [one] at lowered
  exact ⟨full, rate (by decide) (by decide) key since (by decide), one, lowered⟩

/-- A reading inside a leap second drops an admission from a window that a later one is still in. -/
theorem leap_second_exceeds_rate :
    let b : BlastRadius := ⟨10, 1, 5, .standard⟩
    let key : TargetKey := ⟨"service:api"⟩
    let acts : List Act := [.acquire ⟨1483228790, 300000000⟩ key, .finish 0 true,
      .snapshot ⟨1483228799, 1500000000⟩ key, .acquire ⟨1483228800, 200000000⟩ key]
    let since : Time.Instant := ⟨1483228790, 200000000⟩
    let s := (fresh b).run acts
    (readings acts).Pairwise (· ≤ ·) ∧ Time.Instant.earliest ≤ since ∧
      b.maxAttemptsPerWindow.toNat = 1 ∧
      (starts (s.journal.entries key)).countP (b.covers since) = 2 := by
  decide +kernel

end Session

end Limiter

end Remedy
