import Remedy.Proofs.Service.Pool
import Remedy.Proofs.Service.Verdicts

/-!
# How many calls are admitted

Calls for one target that was idle when the first of them asked, all within one window. Whatever
their order, and wherever their ends fall between them, the attempts that the limiter counts are the
calls that it admitted, and what it finds in flight is among these. A call is refused only when one
of the two limits is reached.
-/

namespace Remedy

variable {Q : Type} {A : Q → Type} {σ : Type}

/-! ## One window -/

/-- The window that ends at this reading still reaches back beyond the first one. -/
structure BlastRadius.Spans (b : BlastRadius) (first now : Time.Instant) : Prop where
  later : first ≤ now
  steady : b.cutoff first ≤ b.cutoff now
  within : b.cutoff now < first

/-- Outside leap seconds, and after the earliest instant, a clock that has moved by less than the
window is still within it. -/
theorem BlastRadius.spans_of_ordinary (b : BlastRadius) {first now : Time.Instant}
    (ordinaryFirst : first.IsOrdinary) (ordinaryNow : now.IsOrdinary)
    (started : Time.Instant.earliest < first) (later : first ≤ now)
    (moved : now < ⟨first.second + b.windowSeconds.toNat, first.nano⟩) : b.Spans first now where
  later := later
  steady := b.cutoff_mono ordinaryFirst ordinaryNow later
  within := by
    rw [b.cutoff_eq ordinaryNow]
    split
    · intro reached
      apply moved
      rw [Time.Instant.le_iff] at reached ⊢
      dsimp only at reached ⊢
      omega
    · exact started

/-- Attempts of which every reading within the window counts the last `n` and no others. -/
def BlastRadius.Counts (b : BlastRadius) (first : Time.Instant) (times : List Time.Instant)
    (n : Nat) : Prop :=
  ∃ old new, times = old ++ new ∧ (∀ t ∈ old, t ≤ b.cutoff first) ∧ (∀ t ∈ new, first ≤ t) ∧
    new.length = n

namespace BlastRadius.Counts

variable {b : BlastRadius} {first now : Time.Instant} {times : List Time.Instant} {n : Nat}

theorem dropWhile (h : b.Counts first times n) (spans : b.Spans first now) :
    b.Counts first (times.dropWhile fun t => decide (t ≤ b.cutoff now)) n ∧
      (times.dropWhile fun t => decide (t ≤ b.cutoff now)).length = n := by
  obtain ⟨old, new, rfl, before, after, length⟩ := h
  have gone : ∀ t ∈ old, decide (t ≤ b.cutoff now) = true := by
    intro t among
    simpa using Time.Instant.le_trans (before t among) spans.steady
  have kept : new.dropWhile (fun t => decide (t ≤ b.cutoff now)) = new := by
    cases new with
    | nil => rfl
    | cons t rest =>
      have recent : ¬ t ≤ b.cutoff now := fun early =>
        spans.within (Time.Instant.le_trans (after t List.mem_cons_self) early)
      simp [recent]
  rw [List.dropWhile_append_of_pos gone, kept]
  exact ⟨⟨[], new, rfl, List.forall_mem_nil _, after, length⟩, length⟩

theorem append (h : b.Counts first times n) (later : first ≤ now) :
    b.Counts first (times ++ [now]) (n + 1) := by
  obtain ⟨old, new, rfl, before, after, length⟩ := h
  refine ⟨old, new ++ [now], List.append_assoc .., before, ?_, by simp [length]⟩
  intro t among
  rcases List.mem_append.1 among with earlier | last
  · exact after t earlier
  · rw [List.mem_singleton.1 last]
    exact later

/-- What is dropped at the first reading is never counted again. -/
theorem of_idle {t : Target} (idle : (t.prune (b.cutoff first)).attempts = []) :
    b.Counts first t.attempts 0 := by
  refine ⟨t.attempts, [], (List.append_nil _).symm, ?_, List.forall_mem_nil _, rfl⟩
  intro time among
  have dropped := List.dropWhile_eq_nil_iff.1 idle time among
  simpa using dropped

end BlastRadius.Counts

/-! ## Beginning a call -/

namespace Received

variable {s : Service Q A} {m : Moment} {t : Ticket} {b b' : Board} {next : Next (Execution Q A)}

theorem config (h : Received s m t b (next, b')) : b'.limiter.config = b.limiter.config := by
  cases h with
  | refused _ _ _ limiter | unresolved _ _ _ _ limiter | unmetered _ _ _ _ _ limiter =>
    rw [limiter]
  | exhausted _ _ _ _ _ limiter => rw [limiter, Limiter.enter_config]
  | granted _ _ _ _ _ _ limiter =>
    rw [limiter]
    rfl

/-- A call for one target does no more to another than to forget what has left the window. -/
theorem other (h : Received s m t b (next, b')) {key : TargetKey}
    (other : b.limiter.keyFor t.incident ≠ key) :
    b'.limiter.target key = b.limiter.target key ∨
      b'.limiter.target key =
        ((b.limiter.target key).prune (b.limiter.config.cutoff m.date)).settled := by
  cases h with
  | refused _ _ _ limiter | unresolved _ _ _ _ limiter | unmetered _ _ _ _ _ limiter =>
    exact .inl (by rw [limiter])
  | exhausted _ _ _ _ _ limiter =>
    exact .inr (by rw [limiter, Limiter.target_enter])
  | granted _ _ _ _ _ _ limiter =>
    refine .inr ?_
    rw [limiter, Limiter.target_recordStart, if_neg (Ne.symm other)]

end Received

/-- A report of a call that the limiter refused, with the verdict of the limiter in it. -/
def Report.Exhausted (r : Report) : Prop :=
  r.outcome = .rejected ∧
    ∃ v, r.validationDetails.get? Stage.blastRadius = some v ∧ v.passed = false

/-- A ticket that only the limiter can stop. -/
structure Service.Asks (s : Service Q A) (t : Ticket) : Prop where
  clears : s.clears t = true
  resolves : ∃ r, s.registry.resolve t.incident t.plan = .ok r
  asks : t.options.skipBlastRadius = false

/-- Such a ticket ends at the limiter with its verdict, or is admitted and charged. -/
theorem Service.Asks.received {s : Service Q A} {t : Ticket} (h : s.Asks t) (m : Moment)
    (b : Board) :
    let key := b.limiter.keyFor t.incident
    (∃ report b', s.receive m t b = (.ended report, b') ∧ report.Exhausted ∧
        (b.limiter.validate m.date key).1.passed = false ∧
        b'.limiter = (b.limiter.enter m.date key).2) ∨
      ∃ e b', s.receive m t b = (.waiting e, b') ∧ e.permit = some (.fresh key) ∧
        (b.limiter.validate m.date key).1.passed = true ∧
        b'.limiter = b.limiter.recordStart m.date key := by
  intro key
  have keeps := s.receive_blastRadius m t b
  have received := s.receive_received m t b
  obtain ⟨r, found⟩ := h.resolves
  have reaches : s.reachesLimiter t = true := by
    rw [Service.reachesLimiter, h.clears, found]
    rfl
  rw [if_pos reaches, Ticket.budgeted?, if_neg (by simp [h.asks])] at keeps
  generalize s.receive m t b = next at keeps received ⊢
  cases received with
  | refused stopped =>
    rw [h.clears] at stopped
    cases stopped
  | unresolved _ none =>
    rw [found] at none
    cases none
  | unmetered _ _ _ skipped =>
    rw [h.asks] at skipped
    cases skipped
  | exhausted _ _ denied _ rejected limiter =>
    have failed := Bool.eq_false_iff.2 (Ticket.not_afforded denied).2
    exact .inl ⟨_, _, rfl, ⟨rejected, _, keeps, failed⟩, failed, limiter⟩
  | granted _ _ _ _ passed permit limiter => exact .inr ⟨_, _, rfl, permit, passed, limiter⟩

namespace Pool

open Limiter

/-! ## What is counted -/

/-- A call that the limiter admitted for this target. -/
def Call.admitted (config : BlastRadius) (key : TargetKey) (c : Call Q A) : Bool :=
  c.fate ≠ .never && !c.ticket.options.skipBlastRadius && c.key config = key

/-- The number of calls that the limiter admitted for a target. -/
def admissions (config : BlastRadius) (x : Pool Q A σ) (key : TargetKey) : Nat :=
  x.calls.countP (Call.admitted config key)

/-- The number of calls for a target. -/
def asking (config : BlastRadius) (x : Pool Q A σ) (key : TargetKey) : Nat :=
  x.calls.countP fun c => c.key config = key

variable {config : BlastRadius} {key : TargetKey} {first : Time.Instant} {x : Pool Q A σ} {i : Nat}
  {c c' : Call Q A}

theorem Call.admitted_of_holds (holds : c.holds config key = true) :
    c.admitted config key = true := by
  simp only [Call.holds, Bool.and_eq_true, decide_eq_true_eq] at holds
  simp [Call.admitted, holds.1.1, holds.1.2, holds.2]

theorem holding_le_admissions (config : BlastRadius) (key : TargetKey) (x : Pool Q A σ) :
    x.holding config key ≤ x.admissions config key :=
  List.countP_mono_left fun _ _ => Call.admitted_of_holds

/-- What the limiter and the calls for one target agree on while the window lasts. -/
structure Tallies (config : BlastRadius) (key : TargetKey) (first : Time.Instant)
    (x : Pool Q A σ) : Prop where
  configured : x.board.limiter.config = config
  sound : ∀ (i : Nat) (c : Call Q A), x.calls[i]? = some c → c.Sound config
  attempts : config.Counts first (x.board.limiter.target key).attempts (x.admissions config key)
  inFlight : (x.board.limiter.target key).inFlight.toNat = x.holding config key
  most : x.admissions config key ≤ config.maxAttemptsPerWindow.toNat
  least : min (x.asking config key)
      (min config.maxAttemptsPerWindow.toNat config.maxConcurrentPerTarget.toNat) ≤
    x.admissions config key
  refused : ∀ (i : Nat) (c : Call Q A), x.calls[i]? = some c → c.key config = key →
    c.fate = .never →
    ∃ report, c.phase = some (.ended report) ∧ report.Exhausted

/-- The limiter lets the next call through when neither limit is reached. -/
theorem Tallies.passed_iff (h : x.Tallies config key first) {now : Time.Instant}
    (spans : config.Spans first now) :
    (x.board.limiter.validate now key).1.passed = true ↔
      x.admissions config key < config.maxAttemptsPerWindow.toNat ∧
        x.holding config key < config.maxConcurrentPerTarget.toNat := by
  have length := (h.attempts.dropWhile spans).2
  have most := h.most
  have top := config.maxAttemptsPerWindow.toNat_lt
  rw [validate_eq, verdict_passed_iff, h.configured, UInt32.lt_iff_toNat_lt, UInt32.lt_iff_toNat_lt]
  rw [usage_attempts (by rw [Target.prune_attempts, length]; exact Nat.lt_of_le_of_lt most top)]
  rw [Target.prune_attempts, length, ← h.inFlight]
  exact Iff.rfl

/-! ## One more call -/

section Add

variable {b : Board} {recorded : List (TargetKey × Entry)}

theorem admissions_add (x : Pool Q A σ) :
    (x.add c b recorded).admissions config key =
      x.admissions config key + if c.admitted config key then 1 else 0 := by
  simp [admissions, add, List.countP_append]

theorem asking_add (x : Pool Q A σ) :
    (x.add c b recorded).asking config key =
      x.asking config key + if c.key config = key then 1 else 0 := by
  simp [asking, add, List.countP_append]

theorem holding_add (x : Pool Q A σ) :
    (x.add c b recorded).holding config key =
      x.holding config key + if c.holds config key then 1 else 0 := by
  simp [holding, add, List.countP_append]

/-- One more call: what is to be seen to is the call itself, and each count with the call in it. -/
theorem Tallies.add (h : x.Tallies config key first) (configured : b.limiter.config = config)
    (sound : c.Sound config)
    (refused : c.key config = key → c.fate = .never →
      ∃ report, c.phase = some (.ended report) ∧ report.Exhausted)
    (attempts : config.Counts first (b.limiter.target key).attempts
      (x.admissions config key + if c.admitted config key then 1 else 0))
    (inFlight : (b.limiter.target key).inFlight.toNat =
      x.holding config key + if c.holds config key then 1 else 0)
    (most : x.admissions config key + (if c.admitted config key then 1 else 0) ≤
      config.maxAttemptsPerWindow.toNat)
    (least : min (x.asking config key + if c.key config = key then 1 else 0)
        (min config.maxAttemptsPerWindow.toNat config.maxConcurrentPerTarget.toNat) ≤
      x.admissions config key + if c.admitted config key then 1 else 0) :
    (x.add c b recorded).Tallies config key first := by
  constructor
  · exact configured
  · intro j d out
    rcases calls_add out with ⟨rfl, rfl⟩ | ⟨-, old⟩
    · exact sound
    · exact h.sound j d old
  · rw [admissions_add]
    exact attempts
  · rw [holding_add]
    exact inFlight
  · rw [admissions_add]
    exact most
  · rw [admissions_add, asking_add]
    exact least
  · intro j d out own never
    rcases calls_add out with ⟨rfl, rfl⟩ | ⟨-, old⟩
    · exact refused own never
    · exact h.refused j d old own never

/-- A call for another target changes nothing. -/
theorem Tallies.add_other (h : x.Tallies config key first) {now : Time.Instant}
    (spans : config.Spans first now) (other : c.key config ≠ key) (sound : c.Sound config)
    (same : b.limiter.config = config)
    (target : b.limiter.target key = x.board.limiter.target key ∨
      b.limiter.target key = ((x.board.limiter.target key).prune (config.cutoff now)).settled) :
    (x.add c b recorded).Tallies config key first := by
  have admitted : ¬ c.admitted config key = true := by simp [Call.admitted, other]
  have holds : ¬ c.holds config key = true := by simp [Call.holds, other]
  refine h.add same sound (fun own => absurd own other) ?_ ?_ ?_ ?_
  · rw [if_neg admitted]
    rcases target with same | pruned
    · rw [same]
      exact h.attempts
    · rw [pruned, Target.settled_attempts]
      exact (h.attempts.dropWhile spans).1
  · rw [if_neg holds, Nat.add_zero, ← h.inFlight]
    rcases target with same | pruned
    · rw [same]
    · rw [pruned, Target.settled_inFlight]
      rfl
  · rw [if_neg admitted]
    exact h.most
  · rw [if_neg admitted, if_neg other]
    exact h.least

/-- A call that is refused meets a limit that is reached. -/
theorem Tallies.add_refused (h : x.Tallies config key first) {m : Moment} {t : Ticket}
    {report : Report} (spans : config.Spans first m.date) (exhausted : report.Exhausted)
    (failed : (x.board.limiter.validate m.date key).1.passed = false)
    (limiter : b.limiter = (x.board.limiter.enter m.date key).2) :
    (x.add ⟨t, m, some (.ended report), .never⟩ b recorded).Tallies config key first := by
  have target := x.board.limiter.target_enter m.date key key
  rw [← limiter, h.configured] at target
  have full : ¬ (x.admissions config key < config.maxAttemptsPerWindow.toNat ∧
      x.holding config key < config.maxConcurrentPerTarget.toNat) := by
    rw [← h.passed_iff spans, failed]
    exact Bool.false_ne_true
  have fewer := holding_le_admissions config key x
  have admitted : ¬ (⟨t, m, some (.ended report), .never⟩ : Call Q A).admitted config key =
      true := by
    simp [Call.admitted]
  have holds : ¬ (⟨t, m, some (.ended report), .never⟩ : Call Q A).holds config key = true := by
    simp [Call.holds]
  refine h.add ?_ Fate.noConfusion (fun _ _ => ⟨report, rfl, exhausted⟩) ?_ ?_ ?_ ?_
  · rw [limiter, enter_config, h.configured]
  · rw [if_neg admitted, target, Target.settled_attempts]
    exact (h.attempts.dropWhile spans).1
  · rw [if_neg holds, Nat.add_zero, ← h.inFlight, target, Target.settled_inFlight]
    rfl
  · rw [if_neg admitted]
    exact h.most
  · rw [if_neg admitted]
    omega

/-- A call that is admitted is one more attempt, and one more execution in flight. -/
theorem Tallies.add_admitted (h : x.Tallies config key first) {m : Moment} {t : Ticket}
    {e : Execution Q A} (spans : config.Spans first m.date)
    (own : config.keyPolicy.keyFor t.incident = key) (asked : t.options.skipBlastRadius = false)
    (passed : (x.board.limiter.validate m.date key).1.passed = true)
    (permit : e.permit = some (.fresh key))
    (limiter : b.limiter = x.board.limiter.recordStart m.date key) :
    (x.add ⟨t, m, some (.executing e e.program), .running⟩ b recorded).Tallies
      config key first := by
  have named : (⟨t, m, some (.executing e e.program), .running⟩ : Call Q A).key config = key := own
  have admitted :
      (⟨t, m, some (.executing e e.program), .running⟩ : Call Q A).admitted config key = true := by
    simp [Call.admitted, named, asked]
  have holds :
      (⟨t, m, some (.executing e e.program), .running⟩ : Call Q A).holds config key = true := by
    simp [Call.holds, named, asked]
  obtain ⟨room, free⟩ := (h.passed_iff spans).1 passed
  have attempts := x.board.limiter.recordStart_attempts m.date key key
  have inFlight := x.board.limiter.recordStart_inFlight m.date key key
  rw [if_pos rfl, ← limiter] at attempts inFlight
  rw [h.configured] at attempts
  have least := h.least
  refine h.add ?_ ⟨rfl, ?_⟩ (fun _ => Fate.noConfusion) ?_ ?_ ?_ ?_
  · rw [limiter]
    exact h.configured
  · rw [Call.permit_of_asked asked, named]
    exact permit
  · rw [if_pos admitted, attempts]
    exact (h.attempts.dropWhile spans).1.append spans.later
  · have top := config.maxConcurrentPerTarget.toNat_lt
    rw [if_pos holds, inFlight, UInt32.toNat_add, h.inFlight]
    exact Nat.mod_eq_of_lt (by simpa using by omega)
  · rw [if_pos admitted]
    exact room
  · rw [if_pos admitted, if_pos named]
    omega

end Add

theorem Tallies.receive (h : x.Tallies config key first) (s : Service Q A) {m : Moment} {t : Ticket}
    (spans : config.Spans first m.date)
    (asks : config.keyPolicy.keyFor t.incident = key → s.Asks t) :
    (x.receive s m t).Tallies config key first := by
  have named : x.board.limiter.keyFor t.incident = config.keyPolicy.keyFor t.incident := by
    rw [keyFor, h.configured]
  by_cases own : config.keyPolicy.keyFor t.incident = key
  · have begun := (asks own).received m x.board
    rw [named, own] at begun
    rw [Pool.receive]
    rcases begun with ⟨report, b, eq, exhausted, failed, limiter⟩ |
      ⟨e, b, eq, permit, passed, limiter⟩
    · rw [eq]
      exact h.add_refused spans exhausted failed limiter
    · rw [eq]
      exact h.add_admitted spans own (asks own).asks passed permit limiter
  · have received := s.receive_received m t x.board
    rw [Pool.receive]
    generalize s.receive m t x.board = next at received ⊢
    obtain ⟨next, b⟩ := next
    have same := received.config.trans h.configured
    have target := received.other (named ▸ own)
    rw [h.configured] at target
    cases next with
    | ended report => exact h.add_other spans own Fate.noConfusion same target
    | waiting e =>
      refine h.add_other spans own ⟨rfl, ?_⟩ same target
      cases received with
      | unmetered _ _ _ skipped permit =>
        exact permit.trans (Call.permit_of_skipped skipped).symm
      | granted _ _ _ asked _ permit =>
        rw [permit, Call.permit_of_asked asked, named]
        rfl

/-! ## A call goes on -/

section Put

variable {b : Board} {world : σ} {recorded : List (TargetKey × Entry)}

/-- A call that goes on is the call that it was for whoever counts the admitted ones. -/
theorem Tallies.put (h : x.Tallies config key first) (out : x.calls[i]? = some c)
    (ticket : c'.ticket = c.ticket) (sound : c'.Sound config)
    (fate : c'.fate = .never ↔ c.fate = .never)
    (refused : c.key config = key → c.fate ≠ .never)
    (same : b.limiter.config = config)
    (attempts : (b.limiter.target key).attempts = (x.board.limiter.target key).attempts)
    (inFlight : (b.limiter.target key).inFlight.toNat =
      x.holding config key - (if c.holds config key then 1 else 0) +
        if c'.holds config key then 1 else 0) :
    (x.put i c' b world recorded).Tallies config key first := by
  obtain ⟨bound, at_⟩ := List.getElem?_eq_some_iff.1 out
  have unchanged (p : Call Q A → Bool) (eq : p c' = p c) :
      (x.calls.set i c').countP p = x.calls.countP p := by
    rw [List.countP_set bound, at_, eq]
    by_cases holds : p c = true
    · have some : 0 < x.calls.countP p :=
        List.countP_pos_iff.2 ⟨c, List.mem_of_getElem? out, holds⟩
      simp only [holds, if_true]
      omega
    · simp [holds]
  have named : c'.key config = c.key config := by
    rw [Call.key, Call.key, ticket]
  have admissions : (x.put i c' b world recorded).admissions config key =
      x.admissions config key := by
    refine unchanged _ ?_
    simp [Call.admitted, named, ticket, fate]
  have asking : (x.put i c' b world recorded).asking config key = x.asking config key := by
    refine unchanged _ ?_
    simp [named]
  constructor
  · exact same
  · intro j d held
    rcases calls_put b world recorded held with ⟨rfl, rfl⟩ | ⟨-, old⟩
    · exact sound
    · exact h.sound j d old
  · rw [admissions]
    change config.Counts first (b.limiter.target key).attempts _
    rw [attempts]
    exact h.attempts
  · rw [holding_put b world recorded out key]
    exact inFlight
  · rw [admissions]
    exact h.most
  · rw [admissions, asking]
    exact h.least
  · intro j d held own never
    rcases calls_put b world recorded held with ⟨rfl, rfl⟩ | ⟨-, old⟩
    · rw [Call.key, ticket] at own
      exact absurd (fate.1 never) (refused own)
    · exact h.refused j d old own never

/-- A call that goes on as it was, with a limiter that nothing was asked of. -/
theorem Tallies.put_same (h : x.Tallies config key first) (c' : Call Q A)
    (out : x.calls[i]? = some c) (limiter : b.limiter = x.board.limiter)
    (ticket : c'.ticket = c.ticket) (fate : c'.fate = c.fate) (sound : c'.Sound config)
    (refused : c.key config = key → c.fate ≠ .never) :
    (x.put i c' b world recorded).Tallies config key first := by
  have holds : c'.holds config key = c.holds config key := by
    rw [Call.holds, Call.holds, Call.key, Call.key, ticket, fate]
  refine h.put out ticket sound (by rw [fate]) refused ?_ ?_ ?_
  · rw [limiter, h.configured]
  · rw [limiter]
  · rw [limiter, h.inFlight, holds]
    split
    · next held =>
      have := holding_pos out held
      omega
    · rfl

/-- The limiter when the permit of a call is given back: one execution less is in flight. -/
theorem givenBack_target (config : BlastRadius) (key : TargetKey) (l : Limiter) (success : Bool)
    (c : Call Q A) (running : c.fate = .running) :
    ((givenBack success (c.permit config) l).target key).attempts = (l.target key).attempts ∧
      ((givenBack success (c.permit config) l).target key).inFlight.toNat =
        (l.target key).inFlight.toNat - if c.holds config key then 1 else 0 := by
  cases skipped : c.ticket.options.skipBlastRadius with
  | true =>
    rw [Call.permit_of_skipped skipped, Call.holds_of_skipped skipped]
    exact ⟨rfl, rfl⟩
  | false =>
    rw [Call.permit_of_asked skipped, Call.holds_of_running running skipped]
    have ended := recordEnd_inFlight l (c.key config) success key
    refine ⟨recordEnd_attempts l (c.key config) success key, ended.trans ?_⟩
    by_cases own : key = c.key config
    · simp [own]
    · simp [own, Ne.symm own]

theorem givenBack_config_eq (success : Bool) (permit : Option Permit) (l : Limiter) :
    (givenBack success permit l).config = l.config := by
  cases permit with
  | none => rfl
  | some p =>
    simp only [givenBack, Permit.release]
    split
    · rfl
    · exact recordEnd_config ..

/-- A call whose execution is over, and whose permit is given back. -/
theorem Tallies.put_over {success : Bool} (h : x.Tallies config key first) (c' : Call Q A)
    (out : x.calls[i]? = some c)
    (limiter : b.limiter = givenBack success (c.permit config) x.board.limiter)
    (ticket : c'.ticket = c.ticket) (running : c.fate = .running) (stopped : c'.fate ≠ .running)
    (begun : c'.fate ≠ .never) (sound : c'.Sound config) :
    (x.put i c' b world recorded).Tallies config key first := by
  obtain ⟨attempts, inFlight⟩ := givenBack_target config key x.board.limiter success c running
  have began : c.fate ≠ .never := by simp [running]
  have idle : c'.holds config key = false := Call.holds_of_over stopped key
  refine h.put out ticket sound ⟨fun never => absurd never begun, fun never => absurd never began⟩
    (fun _ => began) ?_ ?_ ?_
  · rw [limiter, givenBack_config_eq, h.configured]
  · rw [limiter, attempts]
  · rw [limiter, inFlight, h.inFlight, idle]
    rfl

end Put

theorem Tallies.resume (h : x.Tallies config key first) (s : Service Q A) (w : Program.World Q A σ)
    (m : Moment) (out : x.calls[i]? = some c) : (x.resume s w m i c).Tallies config key first := by
  have sound := h.sound i c out
  rw [Pool.resume]
  split
  · next e rest phase =>
    obtain ⟨running, permit⟩ := Call.sound_executing phase sound
    split
    · exact h.put_same _ out rfl rfl rfl ⟨running, permit⟩ fun _ => by simp [running]
    · next outcome events world _ =>
      have limiter := settle_limiter e s m outcome (x.board.emitAll events)
      rw [permit] at limiter ⊢
      have stopped : Fate.ofOutcome outcome ≠ .running := by
        cases outcome <;> exact Fate.noConfusion
      have begun : Fate.ofOutcome outcome ≠ .never := by cases outcome <;> exact Fate.noConfusion
      exact h.put_over _ out limiter rfl running stopped begun
        (ofUndo_not_executing _ c.ticket c.begun stopped)
  · next u rest phase =>
    have stopped := Call.stopped_of_idle sound (by simp [phase])
    -- a call that was refused has its report, so this one was not
    have began (own : c.key config = key) : c.fate ≠ .never := by
      intro never
      obtain ⟨report, told, -⟩ := h.refused i c out own never
      rw [phase] at told
      cases told
    split
    · exact h.put_same _ out rfl rfl rfl stopped began
    · exact h.put_same _ out (u.settle_limiter m _ _) rfl rfl stopped began
  · exact h
  · exact h

end Pool

end Remedy
