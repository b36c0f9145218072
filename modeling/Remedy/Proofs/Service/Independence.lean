import Remedy.Proofs.Service.Crews
import Remedy.Proofs.Service.Endings
import Remedy.Proofs.Service.Results

/-!
# Jobs for different targets

The jobs of a batch share one limiter, and every admission sweeps all of it. But what it remembers
of a target is changed only by calls for that target, so a job that has its target to itself comes
to the report that it would come to with nothing beside it, whatever turns the others get.
-/

namespace Remedy

variable {Q : Type} {A : Q → Type} {σ : Type}

/-! ## What a limiter remembers of one target -/

namespace Limiter

/-- Limiters with the same limits that count the same for a target. -/
structure Recalls (l l' : Limiter) (now : Time.Instant) (key : TargetKey) : Prop where
  config : l.config = l'.config
  attempts : (l.snapshot now key).1.attemptsInWindow = (l'.snapshot now key).1.attemptsInWindow
  inFlight : (l.snapshot now key).1.inFlight = (l'.snapshot now key).1.inFlight

variable {l l' : Limiter} {now : Time.Instant} {key : TargetKey}

theorem Recalls.refl (l : Limiter) (now : Time.Instant) (key : TargetKey) :
    l.Recalls l now key :=
  ⟨rfl, rfl, rfl⟩

theorem Recalls.symm (h : l.Recalls l' now key) : l'.Recalls l now key :=
  ⟨h.config.symm, h.attempts.symm, h.inFlight.symm⟩

theorem Recalls.trans {l'' : Limiter} (h : l.Recalls l' now key) (h' : l'.Recalls l'' now key) :
    l.Recalls l'' now key :=
  ⟨h.config.trans h'.config, h.attempts.trans h'.attempts, h.inFlight.trans h'.inFlight⟩

theorem Recalls.keyFor (h : l.Recalls l' now key) (incident : Incident) :
    l.keyFor incident = l'.keyFor incident := by
  rw [Limiter.keyFor, h.config]
  rfl

theorem Recalls.validate (h : l.Recalls l' now key) :
    (l.validate now key).1 = (l'.validate now key).1 := by
  change verdict l.config key (l.snapshot now key).1 = verdict l'.config key (l'.snapshot now key).1
  rw [h.config]
  exact verdict_congr _ _ h.attempts h.inFlight

/-- To forget what has left the window, or to be forgotten while idle, changes no count. -/
theorem recalls_of_target (config : l'.config = l.config)
    (same : l'.target key = l.target key ∨
      l'.target key = ((l.target key).prune (l.config.cutoff now)).settled) :
    l'.Recalls l now key := by
  have usage : (l'.snapshot now key).1 = ((l'.target key).prune (l.config.cutoff now)).usage := by
    rw [← config]
    exact look_usage l' now key
  have usage' : (l.snapshot now key).1 = ((l.target key).prune (l.config.cutoff now)).usage :=
    look_usage l now key
  rcases same with same | settled
  · rw [same] at usage
    exact ⟨config, by rw [usage, usage'], by rw [usage, usage']⟩
  · rw [settled] at usage
    refine ⟨config, ?_, ?_⟩
    · have kept : (((l.target key).prune (l.config.cutoff now)).settled.prune
          (l.config.cutoff now)).attempts =
          ((l.target key).prune (l.config.cutoff now)).attempts := by
        have twice := (l.target key).prune_prune (Time.Instant.le_refl (l.config.cutoff now))
        simpa using congrArg Target.attempts twice
      rw [usage, usage']
      exact congrArg (·.length.toUInt32) kept
    · rw [usage, usage']
      simp [Target.usage]

/-- An end leaves every other target as it was. -/
theorem recalls_recordEnd (l : Limiter) {key other : TargetKey} (apart : other ≠ key)
    (success : Bool) (now : Time.Instant) : (l.recordEnd key success).Recalls l now other := by
  refine recalls_of_target (recordEnd_config l key success) (.inl ?_)
  rw [recordEnd]
  split
  · rw [target_insert, if_neg apart]
  · rfl

end Limiter

/-- A call for one target changes no count of another when it begins. -/
theorem Received.recalls {s : Service Q A} {m : Moment} {t : Ticket} {b b' : Board}
    {next : Next (Execution Q A)} (h : Received s m t b (next, b')) {key : TargetKey}
    (apart : b.limiter.keyFor t.incident ≠ key) : b'.limiter.Recalls b.limiter m.date key :=
  Limiter.recalls_of_target h.config (h.other apart)

/-! ## Times -/

/-- An entry without its time. -/
def LogEntry.undated (e : LogEntry) : LogEntry := { e with time := .earliest }

/-- A report without the time that its call took and the times of its log. -/
def Report.untimed (r : Report) : Report :=
  { r with durationSeconds := 0.0, executionLogs := r.executionLogs.map LogEntry.undated }

namespace Leg

/-- Legs of calls for one ticket that differ in their moments, and in what the limiter remembers of
other targets. The gates are asked at one time. -/
inductive Alike (t : Ticket) : Leg → Leg → Prop where
  | gates {m m' : Moment} {l l' : Limiter} (date : m'.date = m.date)
      (recalls : l.Recalls l' m.date (l.keyFor t.incident)) : Alike t (.gates m l) (.gates m' l')
  | execution {m m' : Moment} (outcome : Except Panic Report) :
      Alike t (.execution m outcome) (.execution m' outcome)
  | rollback {m m' : Moment} (outcome : Except Panic (Except Fault String)) :
      Alike t (.rollback m outcome) (.rollback m' outcome)

end Leg

section Gates

variable {s : Service Q A} {t : Ticket} {l l' : Limiter} {now : Time.Instant}

theorem Ticket.budgeted?_congr (recalls : l.Recalls l' now (l.keyFor t.incident)) :
    t.budgeted? l now = t.budgeted? l' now := by
  rw [budgeted?, budgeted?, ← recalls.keyFor, recalls.validate]

theorem Ticket.affords_congr (recalls : l.Recalls l' now (l.keyFor t.incident)) :
    t.affords l now = t.affords l' now := by
  rw [affords, affords, Limiter.tryAcquire_isGranted, Limiter.tryAcquire_isGranted,
    ← recalls.keyFor, recalls.validate]

theorem Service.executes_congr (recalls : l.Recalls l' now (l.keyFor t.incident)) :
    s.Executes t l now ↔ s.Executes t l' now := by
  rw [Executes, Executes, Ticket.affords_congr recalls]

theorem Service.refusal_congr {m m' : Moment} (date : m'.date = m.date)
    (recalls : l.Recalls l' m.date (l.keyFor t.incident)) :
    s.refusal t m l = s.refusal t m' l' := by
  rw [refusal, refusal, date, ← recalls.keyFor, recalls.validate]

theorem Service.gateEntries_congr {m m' : Moment} (date : m'.date = m.date)
    (recalls : l.Recalls l' m.date (l.keyFor t.incident)) :
    s.gateEntries t m l = s.gateEntries t m' l' := by
  have entry (stage skipped : String) (v : Option Validation) :
      m.gateEntry stage skipped v = m'.gateEntry stage skipped v := by
    cases v with
    | none => rw [Moment.gateEntry, Moment.gateEntry, date]
    | some v =>
      rw [Moment.gateEntry, Moment.gateEntry, Moment.verdictEntry, Moment.verdictEntry, date]
  have budget : budgetEntries t m l = budgetEntries t m' l' := by
    rw [budgetEntries, budgetEntries, entry, Moment.startEntry, Moment.startEntry, date,
      ← recalls.keyFor, Ticket.budgeted?_congr recalls, Ticket.affords_congr recalls]
  have error (text : String) : m.errorEntry text = m'.errorEntry text := by
    rw [Moment.errorEntry, Moment.errorEntry, date]
  simp only [gateEntries, entry, error, budget]

end Gates

section Undated

variable (s : Service Q A) (t : Ticket) (m m' : Moment)

theorem Ticket.undated_skipEntries :
    (t.skipEntries m).map LogEntry.undated = (t.skipEntries m').map LogEntry.undated := by
  rw [skipEntries, skipEntries]
  split <;> rfl

theorem Ticket.undated_rollbackEntries (undone : Except Panic (Except Fault String)) :
    (t.rollbackEntries m undone).map LogEntry.undated =
      (t.rollbackEntries m' undone).map LogEntry.undated := by
  rcases undone with p | f | description
  · rfl
  · exact congrArg (List.cons _) (t.undated_skipEntries m m')
  · exact congrArg (List.cons _) (t.undated_skipEntries m m')

theorem Service.undated_closingEntries (undoes : Bool) :
    (s.closingEntries t m undoes).map LogEntry.undated =
      (s.closingEntries t m' undoes).map LogEntry.undated := by
  have skipped := t.undated_skipEntries m m'
  rw [closingEntries, closingEntries]
  split
  · split
    · rfl
    · exact congrArg (List.cons _) skipped
  · exact skipped

theorem Service.undated_executionEntries (outcome : Except Panic Report) :
    (s.executionEntries t m outcome).map LogEntry.undated =
      (s.executionEntries t m' outcome).map LogEntry.undated := by
  cases outcome with
  | error p => rfl
  | ok returned =>
    have ended : (m.endEntry returned).undated = (m'.endEntry returned).undated := by
      rw [Moment.endEntry, Moment.endEntry]
      split <;> rfl
    have reviewed : ((s.reviewed? t returned).toList.map
        (m.verdictEntry Stage.postValidation)).map LogEntry.undated =
        ((s.reviewed? t returned).toList.map
          (m'.verdictEntry Stage.postValidation)).map LogEntry.undated := by
      cases s.reviewed? t returned <;> rfl
    simp only [executionEntries, List.map_append, List.map_cons, ended, reviewed]
    rw [s.undated_closingEntries t m m']

end Undated

namespace Leg.Alike

variable {s : Service Q A} {t : Ticket} {leg leg' : Leg} {legs legs' : List Leg}

theorem entries (h : leg.Alike t leg') :
    (s.entries t leg).map LogEntry.undated = (s.entries t leg').map LogEntry.undated := by
  cases h with
  | gates date recalls =>
    rw [Service.entries, Service.entries, Service.gateEntries_congr date recalls]
  | @execution m m' outcome => exact s.undated_executionEntries t m m' outcome
  | @rollback m m' outcome => exact t.undated_rollbackEntries m m' outcome

theorem verdict? (h : leg.Alike t leg') (stage : String) :
    s.verdict? t stage leg = s.verdict? t stage leg' := by
  cases h with
  | gates date recalls => simp only [Service.verdict?, date, Ticket.budgeted?_congr recalls]
  | execution outcome => cases outcome <;> rfl
  | rollback outcome => rfl

theorem returned? (h : leg.Alike t leg') : leg.returned? = leg'.returned? := by
  cases h with
  | gates date recalls => rfl
  | execution outcome => cases outcome <;> rfl
  | rollback outcome => rfl

theorem losesResult (h : leg.Alike t leg') : leg.losesResult = leg'.losesResult := by
  cases h with
  | gates date recalls => rfl
  | execution outcome => rfl
  | rollback outcome => cases outcome <;> rfl

end Leg.Alike

/-! ### Legs together -/

/-- The legs of two calls, one by one. -/
abbrev Leg.AllAlike (t : Ticket) : List Leg → List Leg → Prop := List.Forall₂ (Leg.Alike t)

namespace Leg.AllAlike

variable {s : Service Q A} {t : Ticket} {legs legs' : List Leg}

theorem entries (h : AllAlike t legs legs') :
    (legs.flatMap (s.entries t)).map LogEntry.undated =
      (legs'.flatMap (s.entries t)).map LogEntry.undated := by
  induction h with
  | nil => rfl
  | cons first _ ih =>
    rw [List.flatMap_cons, List.flatMap_cons, List.map_append, List.map_append, first.entries, ih]

theorem verdict? (h : AllAlike t legs legs') (stage : String) :
    legs.findSome? (s.verdict? t stage) = legs'.findSome? (s.verdict? t stage) := by
  induction h with
  | nil => rfl
  | cons first _ ih => rw [List.findSome?_cons, List.findSome?_cons, first.verdict?, ih]

theorem losesResult (h : AllAlike t legs legs') :
    legs.any Leg.losesResult = legs'.any Leg.losesResult := by
  induction h with
  | nil => rfl
  | cons first _ ih => rw [List.any_cons, List.any_cons, first.losesResult, ih]

theorem returned? (h : AllAlike t legs legs') :
    legs.findSome? Leg.returned? = legs'.findSome? Leg.returned? := by
  induction h with
  | nil => rfl
  | cons first _ ih => rw [List.findSome?_cons, List.findSome?_cons, first.returned?, ih]

theorem kept? (h : AllAlike t legs legs') : Leg.kept? legs = Leg.kept? legs' := by
  rw [Leg.kept?, Leg.kept?, h.losesResult, h.returned?]

end Leg.AllAlike

/-! ## Reports -/

section Reports

variable {s : Service Q A} {t : Ticket} {report report' expected : Report} {legs legs' : List Leg}

theorem Report.Trails.details (h : report.Trails s t legs) (stage : String) :
    report.validationDetails.get? stage = (legs.findSome? (s.verdict? t stage)).or
      ((Leg.kept? legs).bind (·.validationDetails.get? stage)) := by
  cases found : legs.findSome? (s.verdict? t stage) with
  | none => exact h.others stage found
  | some v => exact h.verdicts stage v found

/-- Reports that tell of alike legs, and that are otherwise the same. -/
theorem Report.untimed_eq (alike : Leg.AllAlike t legs legs') (trails : report.Trails s t legs)
    (trails' : report'.Trails s t legs') (comes : report.Resembles expected)
    (comes' : report'.Resembles expected) : report.untimed = report'.untimed := by
  have log : report.executionLogs.map LogEntry.undated =
      report'.executionLogs.map LogEntry.undated := by
    rw [trails.log, trails'.log, alike.entries]
  have details : report.validationDetails = report'.validationDetails := by
    apply Dict.eq_of_get?
    intro stage
    rw [trails.details, trails'.details, alike.verdict?, alike.kept?]
  have only (report : Report) (comes : report.Resembles expected) :
      report.untimed = { expected with
        durationSeconds := 0.0
        executionLogs := report.executionLogs.map LogEntry.undated
        validationDetails := report.validationDetails } := by
    rw [Report.untimed]
    rw [comes]
  rw [only report comes, only report' comes', log, details]

/-- Calls for one ticket that find the same at the limiter, and whose programs end the same way. -/
theorem Service.Goes.alike {m m' : Moment} {l l' : Limiter} {executed : Except Panic Report}
    {undone : Except Panic (Except Fault String)}
    (goes : s.Goes t (some (.ended report)) (.gates m l :: legs))
    (goes' : s.Goes t (some (.ended report')) (.gates m' l' :: legs'))
    (kept : ∀ leg ∈ legs, leg.Keeps (· = executed) (· = undone))
    (kept' : ∀ leg ∈ legs', leg.Keeps (· = executed) (· = undone))
    (date : m'.date = m.date) (recalls : l.Recalls l' m.date (l.keyFor t.incident)) :
    Leg.AllAlike t (.gates m l :: legs) (.gates m' l' :: legs') ∧
      ∃ expected, report.Resembles expected ∧ report'.Resembles expected := by
  have executes : s.Executes t l m.date ↔ s.Executes t l' m'.date := by
    rw [date]
    exact executes_congr recalls
  have first : Leg.Alike t (.gates m l) (.gates m' l') := .gates date recalls
  cases goes with
  | stopped barred comes =>
    cases goes' with
    | stopped barred' comes' =>
      rw [← refusal_congr date recalls] at comes'
      exact ⟨.cons first .nil, _, comes, comes'⟩
    | closed opens' | undone opens' => exact absurd (executes.2 opens') barred
  | closed opens unrolled comes =>
    obtain rfl := List.forall_mem_singleton.1 kept
    cases goes' with
    | stopped barred' => exact absurd (executes.1 opens) barred'
    | closed _ _ comes' =>
      obtain rfl := List.forall_mem_singleton.1 kept'
      exact ⟨.cons first (.cons (.execution _) .nil), _, comes, comes'⟩
    | undone _ due' =>
      obtain ⟨same, -⟩ := List.forall_mem_cons.1 kept'
      cases same
      rw [unrolled] at due'
      cases due'
  | undone opens due comes =>
    obtain ⟨same, rest⟩ := List.forall_mem_cons.1 kept
    obtain rfl := List.forall_mem_singleton.1 rest
    cases same
    cases goes' with
    | stopped barred' => exact absurd (executes.1 opens) barred'
    | closed _ unrolled' =>
      obtain rfl := List.forall_mem_singleton.1 kept'
      rw [due] at unrolled'
      cases unrolled'
    | undone _ _ comes' =>
      obtain ⟨same', rest'⟩ := List.forall_mem_cons.1 kept'
      obtain rfl := List.forall_mem_singleton.1 rest'
      cases same'
      exact ⟨.cons first (.cons (.execution _) (.cons (.rollback _) .nil)), _, comes, comes'⟩

end Reports

/-! ## Calls that have their target to themselves -/

namespace Service

/-- Whatever else happens, the programs of the remediator of a ticket end the same way. -/
def Steady (s : Service Q A) (w : Program.World Q A σ) (t : Ticket) : Prop :=
  ∃ executed undone, s.Ends w t (· = executed) (· = undone)

/-- A report is the one that a call comes to with nothing beside it, times aside, on a service whose
limiter has the same history for the target of the ticket. -/
def AsAlone (s : Service Q A) (w : Program.World Q A σ) (l : Limiter) (reading : Time.Instant)
    (t : Ticket) (report : Report) : Prop :=
  ∀ (date : Nat → Time.Instant) (now : Nat) (b : Board) (world : σ), date now = reading →
    b.limiter.Recalls l reading (l.keyFor t.incident) →
    report.untimed = (s.execute w date now t b world).report.untimed

/-- Where a call stands that found at the limiter what this one remembers of its target. -/
def Secluded (s : Service Q A) (w : Program.World Q A σ) (l : Limiter) (reading : Time.Instant)
    (t : Ticket) (phase : Phase Q A) : Prop :=
  ∃ m l' legs, m.date = reading ∧ l'.Recalls l reading (l.keyFor t.incident) ∧
    s.Abides w t (some phase) (.gates m l' :: legs) ∧
    Pool.Trails s t (some phase) (.gates m l' :: legs)

variable {s : Service Q A} {w : Program.World Q A σ} {l : Limiter} {reading : Time.Instant}
  {t : Ticket}

theorem secluded_receive {m : Moment} {b : Board} (now : m.date = reading)
    (recalls : b.limiter.Recalls l reading (l.keyFor t.incident)) :
    s.Secluded w l reading t (.ofExecution (s.receive m t b).1) :=
  ⟨m, b.limiter, [], now, recalls, (s.stable_abides w).begins m t b,
    (Pool.stable_trails s w).begins m t b⟩

theorem Secluded.turned {phase : Phase Q A} (h : s.Secluded w l reading t phase) (m : Moment)
    (b : Board) (world : σ) : s.Secluded w l reading t (phase.turned s w m b world) := by
  obtain ⟨m', l', legs, now, recalls, abides, trails⟩ := h
  exact ⟨m', l', _, now, recalls, (s.stable_abides w).goes t phase _ m b world abides,
    (Pool.stable_trails s w).goes t phase _ m b world trails⟩

/-- The permit of such a call is for its own target. -/
theorem Secluded.permit {e : Execution Q A} {rest : Program Q A Report}
    (h : s.Secluded w l reading t (.executing e rest)) :
    e.permit = none ∨ e.permit = some (.fresh (l.keyFor t.incident)) := by
  obtain ⟨m, l', legs, -, recalls, abides, -⟩ := h
  cases abides.goes with
  | executing opens ready =>
    rw [ready.permit, recalls.keyFor]
    split
    · exact .inl rfl
    · exact .inr rfl

/-- Such a call comes to the report that it would come to alone. -/
theorem Secluded.asAlone {report : Report} (h : s.Secluded w l reading t (.ended report))
    (steady : s.Steady w t) : s.AsAlone w l reading t report := by
  obtain ⟨m, l', legs, now, recalls, abides, trails⟩ := h
  obtain ⟨executed, undone, ends⟩ := steady
  intro date now' b world same found
  have abides' := Pool.Stable.alone (s.stable_abides w) date now' t b world
  have trails' := Pool.Stable.alone (Pool.stable_trails s w) date now' t b world
  have both : l'.Recalls b.limiter m.date (l'.keyFor t.incident) := by
    rw [now, recalls.keyFor]
    exact recalls.trans found.symm
  have kept := (abides.keeps _ _ ends).2
  have kept' := (abides'.keeps _ _ ends).2
  obtain ⟨alike, expected, comes, comes'⟩ := Goes.alike abides.goes abides'.goes
    (List.forall_mem_cons.1 kept).2 (List.forall_mem_cons.1 kept').2 (same.trans now.symm) both
  exact Report.untimed_eq alike trails trails' comes comes'

end Service

/-- A turn of such a call changes no count of another target. -/
theorem Pool.resume_recalls {s : Service Q A} {w : Program.World Q A σ} {x : Pool Q A σ} {i : Nat}
    {c : Call Q A} {l : Limiter} {reading : Time.Instant} {phase : Phase Q A} (m : Moment)
    (at_ : c.phase = some phase) (secluded : s.Secluded w l reading c.ticket phase)
    {key : TargetKey} (apart : key ≠ l.keyFor c.ticket.incident) :
    (x.resume s w m i c).board.limiter.Recalls x.board.limiter reading key := by
  have still : x.board.limiter.Recalls x.board.limiter reading key := .refl _ _ _
  rw [Pool.resume, at_]
  cases phase with
  | ended report => exact still
  | rollingBack u rest =>
    dsimp only
    generalize Program.turn w m.ms rest x.world = turn
    obtain ⟨outcome | rest', events, world⟩ := turn
    · have limiter := u.settle_limiter m outcome (x.board.emitAll events)
      simp only [Pool.put, limiter]
      exact still
    · exact still
  | executing e rest =>
    dsimp only
    generalize Program.turn w m.ms rest x.world = turn
    obtain ⟨outcome | rest', events, world⟩ := turn
    · have limiter := settle_limiter e s m outcome (x.board.emitAll events)
      simp only [Pool.put, limiter]
      rcases secluded.permit with none | held
      · rw [none]
        exact still
      · rw [held]
        exact Limiter.recalls_recordEnd _ apart _ reading
    · exact still

/-! ## Crews -/

namespace Crew

open Pool

variable {s : Service Q A} {w : Program.World Q A σ} {jobs : List Ticket} {x : Crew Q A σ}
  {l : Limiter} {reading : Time.Instant}

/-- The limiter remembers of the target of a job that waits what it remembered of it before the
batch, and each call found its own target like that. -/
structure Parted (s : Service Q A) (w : Program.World Q A σ) (jobs : List Ticket) (l : Limiter)
    (reading : Time.Instant) (x : Crew Q A σ) : Prop where
  waits : ∀ (i : Nat) (t : Ticket), jobs[i]? = some t → x.handles[i]? = some none →
    x.pool.board.limiter.Recalls l reading (l.keyFor t.incident)
  calls : ∀ (j : Nat) (c : Call Q A), x.pool.calls[j]? = some c →
    ∃ phase, c.phase = some phase ∧ s.Secluded w l reading c.ticket phase

/-- Every call began at this reading of the clock. -/
def Still (x : Crew Q A σ) (reading : Time.Instant) : Prop :=
  ∀ c ∈ x.pool.calls, c.begun.date = reading

theorem still_iff_heads : x.Still reading ↔
    ∀ head ∈ x.pool.calls.map Call.head, head.2.date = reading := by
  rw [List.forall_mem_map]
  rfl

theorem parted_assembled (s : Service Q A) (w : Program.World Q A σ) (jobs : List Ticket)
    (b : Board) (world : σ) (reading : Time.Instant) :
    (assembled jobs b world).Parted s w jobs b.limiter reading where
  waits i t job waits := .refl _ _ _
  calls j c out := by cases out

/-- Two jobs of which one has begun and one waits are for different targets. -/
theorem keys_ne (apart : (jobs.map fun t => l.keyFor t.incident).Nodup) {i i' : Nat}
    {t t' : Ticket} (job : jobs[i]? = some t) (job' : jobs[i']? = some t') (ne : i ≠ i') :
    l.keyFor t.incident ≠ l.keyFor t'.incident := by
  intro same
  apply ne
  have bound : i < (jobs.map fun t => l.keyFor t.incident).length := by
    simpa using (List.getElem?_eq_some_iff.1 job).1
  apply (List.getElem?_inj bound apart).1
  rw [List.getElem?_map, List.getElem?_map, job, job', Option.map_some, Option.map_some, same]

theorem Parted.goes (h : x.Parted s w jobs l reading) (staffed : x.Staffed jobs)
    (apart : (jobs.map fun t => l.keyFor t.incident).Nodup) (m : Moment) {i j : Nat}
    (handle : x.handles[i]? = some (some j)) :
    ({ x with pool := x.pool.step s w (.step m j) } : Crew Q A σ).Parted s w jobs l reading := by
  obtain ⟨c, out, job⟩ := staffed.called i j handle
  obtain ⟨phase, at_, secluded⟩ := h.calls j c out
  rw [step_resume out]
  refine ⟨fun i' t' job' waits => ?_, fun j' c' out' => ?_⟩
  · have ne : i' ≠ i := by
      rintro rfl
      rw [handle] at waits
      cases waits
    exact (resume_recalls m at_ secluded (keys_ne apart job' job ne)).trans
      (h.waits i' t' job' waits)
  · obtain ⟨-, calls⟩ := calls_resume (s := s) (w := w) m at_ out
    rcases calls j' c' out' with ⟨rfl, ticket, turned⟩ | ⟨-, same⟩
    · rw [ticket]
      exact ⟨_, turned, secluded.turned m x.pool.board x.pool.world⟩
    · exact h.calls j' c' same

theorem Parted.begins (h : x.Parted s w jobs l reading)
    (apart : (jobs.map fun t => l.keyFor t.incident).Nodup) {m : Moment} (now : m.date = reading)
    {i : Nat} {t : Ticket} (job : jobs[i]? = some t) (waits : x.handles[i]? = some none) (j : Nat) :
    (⟨x.pool.step s w (.call m t), x.handles.set i (some j)⟩ :
      Crew Q A σ).Parted s w jobs l reading := by
  have recalls := h.waits i t job waits
  refine ⟨fun i' t' job' waits' => ?_, fun j' c' out' => ?_⟩
  · have ne : i ≠ i' := by
      rintro rfl
      rw [List.getElem?_set_self (List.getElem?_eq_some_iff.1 waits).1] at waits'
      cases waits'
    have other : x.handles[i']? = some none := by
      rw [← waits', List.getElem?_set_ne ne]
    have kept : (x.pool.step s w (.call m t)).board.limiter.Recalls x.pool.board.limiter reading
        (l.keyFor t'.incident) := by
      obtain ⟨-, -, -, board, -⟩ := receive_phase s m t x.pool
      have received := s.receive_received m t x.pool.board
      rw [← now, Pool.step, board]
      apply received.recalls
      rw [recalls.keyFor]
      exact keys_ne apart job job' ne
    exact kept.trans (h.waits i' t' job' other)
  · obtain ⟨c, ticket, begun, b, recorded, same⟩ := receive_eq_add s m t x.pool
    have added : x.pool.step s w (.call m t) = x.pool.add c b recorded := same
    dsimp only at out'
    rw [added] at out'
    rcases calls_add out' with ⟨rfl, rfl⟩ | ⟨-, earlier⟩
    · rw [ticket]
      exact ⟨_, begun, Service.secluded_receive now recalls⟩
    · exact h.calls j' c' earlier

theorem Parted.turn (h : x.Parted s w jobs l reading) (staffed : x.Staffed jobs)
    (apart : (jobs.map fun t => l.keyFor t.incident).Nodup) (m : Moment) (i : Nat)
    (still : (x.turn s w jobs m i).Still reading) :
    (x.turn s w jobs m i).Parted s w jobs l reading := by
  rw [Crew.turn] at still ⊢
  split at still
  · next j handle => exact h.goes staffed apart m handle
  · next waits =>
    split at still
    · next t job =>
      obtain ⟨c, calls, -, begun, -⟩ := receive_fate s m t x.pool
      have among : c ∈ (x.pool.step s w (.call m t)).calls :=
        calls.symm ▸ List.mem_append_right _ List.mem_cons_self
      exact h.begins apart (begun ▸ still c among) job waits _
    · exact h
  · exact h

theorem parted_run (s : Service Q A) (w : Program.World Q A σ) (b : Board) (world : σ)
    (apart : (jobs.map fun t => b.limiter.keyFor t.incident).Nodup) (turns : List (Moment × Nat))
    (still : ((assembled jobs b world).run s w jobs turns).Still reading) :
    ((assembled jobs b world).run s w jobs turns).Parted s w jobs b.limiter reading := by
  induction turns using List.reverseRecOn with
  | nil => exact parted_assembled s w jobs b world reading
  | append_singleton turns turn ih =>
    have staffed : ((assembled jobs b world).run s w jobs turns).Staffed jobs :=
      (staffed_assembled jobs b world).run turns
    rw [run_append] at still ⊢
    refine (ih fun c among => ?_).turn staffed apart turn.1 turn.2 still
    obtain ⟨c', among', begun⟩ := begun_turn turn.1 turn.2 among
    exact begun ▸ still c' among'

/-- The jobs of a crew come to the reports that they would come to alone. -/
theorem Parted.asAlone (h : x.Parted s w jobs l reading) (staffed : x.Staffed jobs)
    (steady : ∀ t ∈ jobs, s.Steady w t) {i : Nat} {t : Ticket} {report : Report}
    (job : jobs[i]? = some t) (reported : x.reports[i]? = some (some report)) :
    s.AsAlone w l reading t report := by
  obtain ⟨j, c, handle, out, ended⟩ := report_of_reports reported
  obtain ⟨c', out', job'⟩ := staffed.called i j handle
  cases out.symm.trans out'
  cases job.symm.trans job'
  obtain ⟨phase, at_, secluded⟩ := h.calls j c out
  cases at_.symm.trans ended
  exact secluded.asAlone (steady c.ticket (List.mem_of_getElem? job))

/-! ### Every job comes to its report -/

theorem exists_report_of_begun (staffed : x.Staffed jobs) (parted : x.Parted s w jobs l reading)
    {i j : Nat} (handle : x.handles[i]? = some (some j)) (still : x.Still reading) :
    ∃ (moments : List Moment) (report : Report),
      (x.run s w jobs (moments.map (·, i))).Still reading ∧
      (x.run s w jobs (moments.map (·, i))).reports[i]? = some (some report) := by
  obtain ⟨c, out, -⟩ := staffed.called i j handle
  obtain ⟨phase, at_, -⟩ := parted.calls j c out
  obtain ⟨moments, c', report, out', ended⟩ := concludes (s := s) (w := w) out at_
  refine ⟨moments, report, ?_⟩
  rw [run_turnsOf jobs handle]
  refine ⟨?_, reports_of_call handle out' ended⟩
  rw [still_iff_heads, heads_turns]
  exact still_iff_heads.1 still

/-- Turns of its own bring every job to its report. -/
theorem exists_report (staffed : x.Staffed jobs) (parted : x.Parted s w jobs l reading)
    (apart : (jobs.map fun t => l.keyFor t.incident).Nodup) (still : x.Still reading) {i : Nat}
    {t : Ticket} (job : jobs[i]? = some t) :
    ∃ more report, (∀ turn ∈ more, turn.2 = i) ∧ (x.run s w jobs more).Still reading ∧
      (x.run s w jobs more).reports[i]? = some (some report) := by
  have own (moments : List Moment) : ∀ turn ∈ moments.map (·, i), turn.2 = i := by
    intro turn among
    obtain ⟨m, -, rfl⟩ := List.mem_map.1 among
    rfl
  have bound : i < x.handles.length := by
    rw [staffed.length]
    exact (List.getElem?_eq_some_iff.1 job).1
  have handle := List.getElem?_eq_getElem bound
  cases begun : x.handles[i] with
  | some j =>
    rw [begun] at handle
    obtain ⟨moments, report, rest⟩ := exists_report_of_begun staffed parted handle still
    exact ⟨_, report, own moments, rest⟩
  | none =>
    rw [begun] at handle
    let m : Moment := ⟨0, reading⟩
    have first : x.turn s w jobs m i =
        ⟨x.pool.step s w (.call m t), x.handles.set i (some x.pool.calls.length)⟩ := by
      rw [Crew.turn, handle]
      dsimp only
      rw [job]
    have later : (x.turn s w jobs m i).Still reading := by
      rw [still_iff_heads, first]
      dsimp only
      rw [heads_call]
      exact List.forall_mem_append.2
        ⟨still_iff_heads.1 still, List.forall_mem_singleton.2 rfl⟩
    have handle' : (x.turn s w jobs m i).handles[i]? = some (some x.pool.calls.length) := by
      rw [first]
      exact List.getElem?_set_self bound
    obtain ⟨moments, report, rest⟩ := exists_report_of_begun (staffed.turn m i)
      (parted.turn staffed apart m i later) handle' later
    exact ⟨(m, i) :: moments.map (·, i), report,
      List.forall_mem_cons.2 ⟨rfl, own moments⟩, rest⟩

/-- Jobs for different targets do not touch each other. If their remediators answer whatever else
goes on and the clock of the limiter stands still, then whatever turns the jobs of a batch get, each
comes to the report that it comes to with nothing beside it, and none is kept from it by the others.
So it is for the batch whose tasks run until they sleep, when it has had enough wake-ups. -/
theorem jobs_are_independent (s : Service Q A) (w : Program.World Q A σ) (jobs : List Ticket)
    (b : Board) (world : σ) (reading : Time.Instant)
    (apart : (jobs.map fun t => b.limiter.keyFor t.incident).Nodup)
    (steady : ∀ t ∈ jobs, s.Steady w t) :
    (∀ turns,
      let x : Crew Q A σ := (assembled jobs b world).run s w jobs turns
      x.Still reading → ∀ (i : Nat) (t : Ticket), jobs[i]? = some t →
        (∀ report, x.reports[i]? = some (some report) →
          s.AsAlone w b.limiter reading t report) ∧
        ∃ more report, (∀ turn ∈ more, turn.2 = i) ∧
          (x.run s w jobs more).reports[i]? = some (some report) ∧
          s.AsAlone w b.limiter reading t report) ∧
    ∀ date now, date now = reading → ∃ least, ∀ fuel, least ≤ fuel →
      List.Forall₂ (s.AsAlone w b.limiter reading) jobs
        (s.executeBatch w date now fuel jobs b world).reports := by
  have staffed (turns : List (Moment × Nat)) :
      ((assembled jobs b world).run s w jobs turns).Staffed jobs :=
    (staffed_assembled jobs b world).run turns
  have alone {turns : List (Moment × Nat)} {i : Nat} {t : Ticket} {report : Report}
      (still : ((assembled jobs b world).run s w jobs turns).Still reading)
      (job : jobs[i]? = some t)
      (reported : ((assembled jobs b world).run s w jobs turns).reports[i]? = some (some report)) :
      s.AsAlone w b.limiter reading t report :=
    (parted_run s w b world apart turns still).asAlone (staffed turns) steady job reported
  constructor
  · intro turns x still i t job
    refine ⟨fun report => alone still job, ?_⟩
    have parted := parted_run s w b world apart turns still
    obtain ⟨more, report, own, later, reported⟩ :=
      exists_report (staffed turns) parted apart still job
    refine ⟨more, report, own, reported, ?_⟩
    rw [← run_append] at later reported
    exact alone later job reported
  · intro date now same
    obtain ⟨least, finished⟩ := Batch.exists_drain_isOver s w date
      (jobs.foldl (Batch.start s w date) ⟨[], now, 0, b, world⟩)
    refine ⟨least, fun fuel le => ?_⟩
    obtain ⟨turns, mirrors⟩ := exists_turns_executeBatch s w date now fuel jobs b world
    have still : ((assembled jobs b world).run s w jobs turns).Still reading := by
      rw [still_iff_heads]
      intro head among
      rw [mirrors.begun head among]
      exact same
    have reports := mirrors.reports.trans (Batch.map_report? (finished fuel le))
    have length := congrArg List.length reports
    simp only [Crew.reports, List.length_map, (staffed turns).length] at length
    rw [List.forall₂_iff_get]
    refine ⟨length, fun i bound bound' => alone still (List.getElem?_eq_getElem bound) ?_⟩
    rw [reports, List.getElem?_map, List.getElem?_eq_getElem bound']
    rfl

/-- One service has had its attempts, and the job for it is refused. The job for another comes to
the report that it comes to where the limiter has seen neither. -/
theorem jobs_are_independent_of_refusals :
    let remediator : Remediator Unit fun _ => Unit := .plain .noOp fun incident _ =>
      .ask () fun _ => .sleep 10
        (.done (.succeeded ("mended " ++ incident.failureType) ["did it"] 1.5))
    let s : Service Unit fun _ => Unit :=
      ⟨Registry.empty.register remediator, ⟨Stage.preValidation, []⟩, ⟨Stage.postValidation, []⟩⟩
    let w : Program.World Unit (fun _ => Unit) Unit := fun _ u => (u, u)
    let config : BlastRadius := ⟨600, 1, 1, .standard⟩
    let reading : Time.Instant := ⟨1700000000, 0⟩
    let b : Board :=
      { Board.new config with limiter := (Limiter.new config).recordStart reading ⟨"service:api"⟩ }
    let job (service : String) : Ticket :=
      ⟨(Incident.new ⟨7⟩ reading .github "flaky_test").withContext "service" (.str service),
        .new .noOp "", .standard⟩
    let jobs : List Ticket := [job "api", job "web"]
    let m : Moment := ⟨0, reading⟩
    let x := (assembled jobs b ()).run s w jobs [(m, 1), (m, 0), (m, 1), (m, 1), (m, 1)]
    (jobs.map fun t => b.limiter.keyFor t.incident).Nodup ∧ (∀ t ∈ jobs, s.Steady w t) ∧
    ∃ refused report, x.reports = [some refused, some report] ∧ refused.outcome = .rejected ∧
      report.untimed =
        (s.execute w (fun _ => reading) 5 (job "web") (.new config) ()).report.untimed ∧
      ∃ fuel,
        ((s.executeBatch w (fun _ => reading) 0 fuel jobs b ()).reports.map Report.untimed)[1]? =
        some report.untimed := by
  intro remediator s w config reading b job jobs m x
  have apart : (jobs.map fun t => b.limiter.keyFor t.incident).Nodup := by decide +kernel
  have steady : ∀ t ∈ jobs, s.Steady w t := by
    intro t _
    refine ⟨.ok (.succeeded ("mended " ++ t.incident.failureType) ["did it"] 1.5), .ok (.ok ""),
      fun r found => ?_, fun r rollback found offered => ?_⟩
    · cases Registry.eq_of_get?_register_empty (Registry.resolve_ok found).1
      exact fun world => rfl
    · cases Registry.eq_of_get?_register_empty (Registry.resolve_ok found).1
      cases offered
  obtain ⟨among, batch⟩ := jobs_are_independent s w jobs b () reading apart steady
  have still : x.Still reading := by
    have dates : x.pool.calls.map (fun c => c.begun.date) = [reading, reading] := by decide +kernel
    intro c among
    have date : c.begun.date ∈ x.pool.calls.map fun c => c.begun.date := List.mem_map_of_mem among
    rw [dates] at date
    simpa using date
  have outcomes : x.reports.map (·.map Report.outcome) = [some .rejected, some .success] := by
    decide +kernel
  have unseen : (Board.new config).limiter.Recalls b.limiter reading
      (b.limiter.keyFor (job "web").incident) := by
    refine ⟨rfl, ?_, ?_⟩ <;> decide +kernel
  obtain ⟨_, rest, reports, rejected, later⟩ := List.map_eq_cons_iff.1 outcomes
  obtain ⟨_, rfl, succeeded⟩ := List.map_eq_singleton_iff.1 later
  obtain ⟨refused, rfl, outcome⟩ := Option.map_eq_some_iff.1 rejected
  obtain ⟨report, rfl, -⟩ := Option.map_eq_some_iff.1 succeeded
  have reported : x.reports[1]? = some (some report) := by
    rw [reports]
    rfl
  have same := (among _ still 1 (job "web") rfl).1 report reported (fun _ => reading) 5
    (.new config) () rfl unseen
  obtain ⟨least, enough⟩ := batch (fun _ => reading) 0 rfl
  have all : List.Forall₂ _ [job "api", job "web"] _ := enough least (Nat.le_refl least)
  refine ⟨apart, steady, refused, report, reports, outcome, same, least, ?_⟩
  generalize (s.executeBatch w (fun _ => reading) 0 least jobs b ()).reports = produced at all ⊢
  cases all with
  | cons _ rest =>
    cases rest with
    | cons second _ =>
      have again := second (fun _ => reading) 5 (.new config) () rfl unseen
      exact congrArg some (again.trans same.symm)

end Crew

end Remedy
