import Remedy.Proofs.Service.Admissions
import Remedy.Proofs.Service.Schedules

/-!
# Batches under any scheduler

The jobs of a batch are tasks, and a scheduler may give the next turn to any of them. A job begins
its call with its first turn. Whatever the scheduler does, each job has one call, and its report
stands at its own place; how many of the jobs for one target are admitted is bounded on both sides.
The scheduler that lets each task run until it sleeps is one of these.
-/

namespace Remedy

variable {Q : Type} {A : Q → Type} {σ : Type}

/-! ## What a move leaves of a call -/

namespace Pool

variable {s : Service Q A} {w : Program.World Q A σ} {x : Pool Q A σ} {i : Nat} {c : Call Q A}

/-- What a call is about, and when it began. -/
def Call.head (c : Call Q A) : Ticket × Moment := (c.ticket, c.begun)

theorem heads_put {c' : Call Q A} {b : Board} {world : σ}
    {recorded : List (TargetKey × Limiter.Entry)} (out : x.calls[i]? = some c)
    (same : c'.head = c.head) :
    (x.put i c' b world recorded).calls.map Call.head = x.calls.map Call.head := by
  obtain ⟨bound, at_⟩ := List.getElem?_eq_some_iff.1 out
  rw [Pool.put, List.map_set, same, ← at_]
  have inside : i < (x.calls.map Call.head).length := by simpa using bound
  rw [← List.getElem_map Call.head (h := inside), List.set_getElem_self]

theorem heads_resume (m : Moment) (out : x.calls[i]? = some c) :
    (x.resume s w m i c).calls.map Call.head = x.calls.map Call.head := by
  rw [Pool.resume]
  split
  · split
    · exact heads_put out rfl
    · exact heads_put out rfl
  · split
    · exact heads_put out rfl
    · exact heads_put out rfl
  · rfl
  · rfl

theorem heads_step (m : Moment) (i : Nat) :
    (x.step s w (.step m i)).calls.map Call.head = x.calls.map Call.head := by
  simp only [Pool.step]
  split
  · next c out => exact heads_resume m out
  · rfl

theorem heads_turns (moments : List Moment) (i : Nat) :
    (x.run s w (turnsOf i moments)).calls.map Call.head = x.calls.map Call.head := by
  induction moments generalizing x with
  | nil => rfl
  | cons m moments ih =>
    have first := heads_step (s := s) (w := w) (x := x) m i
    exact (ih (x := x.step s w (.step m i))).trans first

theorem heads_call (m : Moment) (t : Ticket) :
    (x.step s w (.call m t)).calls.map Call.head = x.calls.map Call.head ++ [(t, m)] := by
  obtain ⟨c, calls, ticket, begun, -⟩ := receive_fate s m t x
  have same : (x.step s w (.call m t)).calls = x.calls ++ [c] := calls
  rw [same, List.map_append, List.map_singleton, Call.head, ticket, begun]

end Pool

/-! ## Crews -/

/-- The calls of the jobs of a batch. A job that has had no turn yet has no call. -/
structure Crew (Q : Type) (A : Q → Type) (σ : Type) where
  pool : Pool Q A σ
  /-- For each job the place of its call in the pool. -/
  handles : List (Option Nat)

namespace Crew

open Pool

/-- The jobs of a batch before any of them has had a turn. -/
def assembled (jobs : List Ticket) (b : Board) (world : σ) : Crew Q A σ :=
  ⟨⟨[], b, world, []⟩, jobs.map fun _ => none⟩

/-- The next turn goes to this job. -/
def turn (s : Service Q A) (w : Program.World Q A σ) (jobs : List Ticket) (x : Crew Q A σ)
    (m : Moment) (i : Nat) : Crew Q A σ :=
  match x.handles[i]? with
  | some (some j) => { x with pool := x.pool.step s w (.step m j) }
  | some none =>
    match jobs[i]? with
    | some t => ⟨x.pool.step s w (.call m t), x.handles.set i (some x.pool.calls.length)⟩
    | none => x
  | none => x

def run (s : Service Q A) (w : Program.World Q A σ) (jobs : List Ticket) (x : Crew Q A σ)
    (turns : List (Moment × Nat)) : Crew Q A σ :=
  turns.foldl (fun x turn => x.turn s w jobs turn.1 turn.2) x

/-- For each job its report, once there is one. -/
def reports (x : Crew Q A σ) : List (Option Report) :=
  x.handles.map fun handle => (handle.bind fun j => x.pool.calls[j]?).bind fun c =>
    c.phase.bind Phase.report?

/-- The jobs that have had a turn. -/
def begun (jobs : List Ticket) (x : Crew Q A σ) : List Ticket :=
  (jobs.zip x.handles).filterMap fun e => e.2.map fun _ => e.1

/-- Each job that has had a turn has one call, and there are no others. -/
structure Staffed (jobs : List Ticket) (x : Crew Q A σ) : Prop where
  length : x.handles.length = jobs.length
  called : ∀ i j : Nat, x.handles[i]? = some (some j) →
    ∃ c, x.pool.calls[j]? = some c ∧ jobs[i]? = some c.ticket
  apart : ∀ i i' j : Nat, x.handles[i]? = some (some j) → x.handles[i']? = some (some j) → i = i'
  all : (x.pool.calls.map (·.ticket)).Perm (x.begun jobs)

variable {s : Service Q A} {w : Program.World Q A σ} {jobs : List Ticket} {x : Crew Q A σ}

theorem run_append (x : Crew Q A σ) (turns more : List (Moment × Nat)) :
    x.run s w jobs (turns ++ more) = (x.run s w jobs turns).run s w jobs more := by
  simp [run]

theorem not_begun_assembled (jobs : List Ticket) (b : Board) (world : σ) (i j : Nat) :
    (assembled jobs b world : Crew Q A σ).handles[i]? ≠ some (some j) := by
  intro handle
  rw [assembled, List.getElem?_map, Option.map_eq_some_iff] at handle
  obtain ⟨_, _, same⟩ := handle
  cases same

theorem staffed_assembled (jobs : List Ticket) (b : Board) (world : σ) :
    (assembled jobs b world : Crew Q A σ).Staffed jobs where
  length := List.length_map _
  called i j handle := absurd handle (not_begun_assembled jobs b world i j)
  apart i i' j handle := absurd handle (not_begun_assembled jobs b world i j)
  all := by
    have none : (assembled jobs b world : Crew Q A σ).begun jobs = [] := by
      simp only [begun, assembled, List.filterMap_eq_nil_iff]
      intro e among
      obtain ⟨-, right⟩ := List.of_mem_zip among
      obtain ⟨-, -, handle⟩ := List.mem_map.1 right
      rw [← handle]
      rfl
    rw [none]
    exact .nil

/-- One more job has had its first turn. -/
theorem begun_set {jobs : List Ticket} {handles : List (Option Nat)} {i j : Nat} {t : Ticket}
    (job : jobs[i]? = some t) (waits : handles[i]? = some none) :
    ((jobs.zip (handles.set i (some j))).filterMap fun e => e.2.map fun _ => e.1).Perm
      (((jobs.zip handles).filterMap fun e => e.2.map fun _ => e.1) ++ [t]) := by
  induction jobs generalizing handles i with
  | nil => simp at job
  | cons first jobs ih =>
    cases handles with
    | nil => simp at waits
    | cons handle handles =>
      cases i with
      | zero =>
        rw [List.getElem?_cons_zero] at job waits
        cases job
        cases waits
        simpa using (List.perm_append_singleton _ _).symm
      | succ i =>
        rw [List.getElem?_cons_succ] at job waits
        have tail := ih job waits
        cases handle with
        | none => simpa using tail
        | some place => simpa using tail

theorem begun_of_all (length : x.handles.length = jobs.length)
    (all : ∀ handle ∈ x.handles, handle.isSome = true) : x.begun jobs = jobs := by
  have same : ∀ (jobs : List Ticket) (handles : List (Option Nat)), handles.length = jobs.length →
      (∀ handle ∈ handles, handle.isSome = true) →
      ((jobs.zip handles).filterMap fun e => e.2.map fun _ => e.1) = jobs := by
    intro jobs
    induction jobs with
    | nil => intros; rfl
    | cons t jobs ih =>
      intro handles length all
      cases handles with
      | nil => cases length
      | cons handle handles =>
        obtain ⟨first, rest⟩ := List.forall_mem_cons.1 all
        obtain ⟨place, rfl⟩ := Option.isSome_iff_exists.1 first
        have tail := ih handles (Nat.succ.inj length) rest
        simpa using tail
  exact same jobs x.handles length all

theorem tickets_of_heads {calls calls' : List (Call Q A)}
    (same : calls'.map Call.head = calls.map Call.head) :
    calls'.map (·.ticket) = calls.map (·.ticket) := by
  have tickets := congrArg (List.map Prod.fst) same
  rw [List.map_map, List.map_map] at tickets
  exact tickets

theorem ticket_of_heads {calls calls' : List (Call Q A)} {j : Nat} {c : Call Q A}
    (same : calls'.map Call.head = calls.map Call.head) (out : calls[j]? = some c) :
    ∃ c', calls'[j]? = some c' ∧ c'.ticket = c.ticket := by
  have at_ := congrArg (·[j]?) same
  simp only [List.getElem?_map, out, Option.map_some, Option.map_eq_some_iff] at at_
  obtain ⟨c', out', head⟩ := at_
  exact ⟨c', out', congrArg Prod.fst head⟩

theorem Staffed.lt_length (h : x.Staffed jobs) {i j : Nat}
    (handle : x.handles[i]? = some (some j)) :
    j < x.pool.calls.length := by
  obtain ⟨c, out, -⟩ := h.called i j handle
  exact (List.getElem?_eq_some_iff.1 out).1

/-- A call that goes on is still the call of its job. -/
theorem Staffed.goes (h : x.Staffed jobs) (m : Moment) (j : Nat) :
    ({ x with pool := x.pool.step s w (.step m j) } : Crew Q A σ).Staffed jobs := by
  have heads := heads_step (s := s) (w := w) (x := x.pool) m j
  refine ⟨h.length, ?_, h.apart, ?_⟩
  · intro i' j' handle
    obtain ⟨c, out, job⟩ := h.called i' j' handle
    obtain ⟨c', out', same⟩ := ticket_of_heads heads out
    exact ⟨c', out', same ▸ job⟩
  · rw [tickets_of_heads heads]
    exact h.all

theorem handle_of_set {handles : List (Option Nat)} {i i' j j' : Nat}
    (handle : (handles.set i (some j))[i']? = some (some j')) :
    i' = i ∧ j' = j ∨ handles[i']? = some (some j') := by
  by_cases own : i' = i
  · subst own
    rw [List.getElem?_set, if_pos rfl] at handle
    split at handle
    · cases handle
      exact .inl ⟨rfl, rfl⟩
    · cases handle
  · rw [List.getElem?_set_ne (Ne.symm own)] at handle
    exact .inr handle

/-- A job that has its first turn gets the call that comes after all others. -/
theorem Staffed.begins (h : x.Staffed jobs) (m : Moment) {i : Nat} {t : Ticket}
    (job : jobs[i]? = some t) (waits : x.handles[i]? = some none) :
    (⟨x.pool.step s w (.call m t), x.handles.set i (some x.pool.calls.length)⟩ :
      Crew Q A σ).Staffed jobs := by
  obtain ⟨c, calls, ticket, -⟩ := receive_fate s m t x.pool
  have calls : (x.pool.step s w (.call m t)).calls = x.pool.calls ++ [c] := calls
  constructor
  · exact (List.length_set ..).trans h.length
  · intro i' j' handle
    dsimp only
    rw [calls]
    rcases handle_of_set handle with ⟨rfl, rfl⟩ | earlier
    · exact ⟨c, List.getElem?_concat_length .., ticket ▸ job⟩
    · obtain ⟨c', out, job'⟩ := h.called i' j' earlier
      rw [List.getElem?_append_left (h.lt_length earlier)]
      exact ⟨c', out, job'⟩
  · intro i' i'' j' handle handle'
    rcases handle_of_set handle with ⟨rfl, rfl⟩ | earlier
    · rcases handle_of_set handle' with ⟨rfl, -⟩ | earlier
      · rfl
      · exact absurd (h.lt_length earlier) (Nat.lt_irrefl _)
    · rcases handle_of_set handle' with ⟨rfl, rfl⟩ | earlier'
      · exact absurd (h.lt_length earlier) (Nat.lt_irrefl _)
      · exact h.apart i' i'' j' earlier earlier'
  · dsimp only
    rw [calls, List.map_append, List.map_singleton, ticket]
    exact (h.all.append_right [t]).trans (begun_set job waits).symm

theorem Staffed.turn (h : x.Staffed jobs) (m : Moment) (i : Nat) :
    (x.turn s w jobs m i).Staffed jobs := by
  rw [Crew.turn]
  split
  · next j handle => exact h.goes m j
  · next waits =>
    split
    · next t job => exact h.begins m job waits
    · exact h
  · exact h

theorem Staffed.run (h : x.Staffed jobs) (turns : List (Moment × Nat)) :
    (x.run s w jobs turns).Staffed jobs := by
  induction turns generalizing x with
  | nil => exact h
  | cons turn turns ih => exact ih (h.turn turn.1 turn.2)

/-- The report of a job is that of its call. -/
theorem report_of_reports {i : Nat} {r : Report} (reported : x.reports[i]? = some (some r)) :
    ∃ j c, x.handles[i]? = some (some j) ∧ x.pool.calls[j]? = some c ∧
      c.phase = some (.ended r) := by
  simp only [reports, List.getElem?_map, Option.map_eq_some_iff] at reported
  obtain ⟨handle, at_, found⟩ := reported
  obtain ⟨c, out, ended⟩ := Option.bind_eq_some_iff.1 found
  obtain ⟨j, rfl, out⟩ := Option.bind_eq_some_iff.1 out
  obtain ⟨phase, standing, report⟩ := Option.bind_eq_some_iff.1 ended
  refine ⟨j, c, at_, out, ?_⟩
  rw [standing]
  cases phase with
  | ended r' =>
    cases report
    rfl
  | executing | rollingBack => cases report

theorem reports_of_call {i j : Nat} {c : Call Q A} {r : Report}
    (handle : x.handles[i]? = some (some j)) (out : x.pool.calls[j]? = some c)
    (ended : c.phase = some (.ended r)) : x.reports[i]? = some (some r) := by
  simp [reports, handle, out, ended, Phase.report?]

/-! ## Admission -/

section Admission

variable {config : BlastRadius} {key : TargetKey} {first : Time.Instant}

/-- No turn takes a call away or changes when it began. -/
theorem begun_turn (m : Moment) (i : Nat) {c : Call Q A} (among : c ∈ x.pool.calls) :
    ∃ c' ∈ (x.turn s w jobs m i).pool.calls, c'.begun = c.begun := by
  rw [Crew.turn]
  split
  · next j handle =>
    have head : c.head ∈ (x.pool.step s w (.step m j)).calls.map Call.head := by
      rw [heads_step]
      exact List.mem_map_of_mem among
    obtain ⟨c', among', same⟩ := List.mem_map.1 head
    exact ⟨c', among', congrArg Prod.snd same⟩
  · split
    · next t job =>
      obtain ⟨c', calls, -⟩ := receive_fate s m t x.pool
      exact ⟨c, calls.symm ▸ List.mem_append_left _ among, rfl⟩
    · exact ⟨c, among, rfl⟩
  · exact ⟨c, among, rfl⟩

/-- What is counted of the calls for one target stays right at a turn, when the readings of the
clock are within one window. -/
theorem tallies_turn (asks : ∀ t ∈ jobs, config.keyPolicy.keyFor t.incident = key → s.Asks t)
    (h : x.pool.Tallies config key first) (m : Moment) (i : Nat)
    (spans : ∀ c ∈ (x.turn s w jobs m i).pool.calls, config.Spans first c.begun.date) :
    (x.turn s w jobs m i).pool.Tallies config key first := by
  rw [Crew.turn] at spans ⊢
  split at spans
  · simp only [Pool.step]
    split
    · next c out => exact h.resume s w m out
    · exact h
  · split at spans
    · next t job =>
      obtain ⟨c, calls, ticket, begun, -⟩ := receive_fate s m t x.pool
      have among : c ∈ (x.pool.step s w (.call m t)).calls :=
        calls.symm ▸ List.mem_append_right _ List.mem_cons_self
      have now := spans c among
      rw [begun] at now
      exact h.receive s now (asks t (List.mem_of_getElem? job))
    · exact h
  · exact h

theorem tallies_run (asks : ∀ t ∈ jobs, config.keyPolicy.keyFor t.incident = key → s.Asks t)
    (fresh : x.pool.Tallies config key first) (turns : List (Moment × Nat))
    (spans : ∀ c ∈ (x.run s w jobs turns).pool.calls, config.Spans first c.begun.date) :
    (x.run s w jobs turns).pool.Tallies config key first := by
  induction turns using List.reverseRecOn with
  | nil => exact fresh
  | append_singleton turns turn ih =>
    rw [run_append] at spans ⊢
    refine tallies_turn asks (ih fun c among => ?_) turn.1 turn.2 spans
    obtain ⟨c', among', begun⟩ := begun_turn turn.1 turn.2 among
    exact begun ▸ spans c' among'

/-- A target that is idle before the first turn. -/
theorem tallies_assembled (jobs : List Ticket) {b : Board} (world : σ)
    (idle : ((b.limiter.target key).prune (b.limiter.config.cutoff first)).isIdle = true) :
    (assembled jobs b world : Crew Q A σ).pool.Tallies b.limiter.config key first := by
  obtain ⟨attempts, inFlight⟩ := Target.isIdle_iff.1 idle
  rw [Target.prune_inFlight] at inFlight
  constructor
  · rfl
  · intro i c out
    cases out
  · exact .of_idle attempts
  · change (b.limiter.target key).inFlight.toNat = _
    rw [inFlight]
    rfl
  · exact Nat.zero_le _
  · exact Nat.min_le_left ..
  · intro i c out
    cases out

end Admission

/-! ## Tasks that run until they sleep -/

theorem run_turnsOf (jobs : List Ticket) {i j : Nat} (handle : x.handles[i]? = some (some j))
    (moments : List Moment) :
    x.run s w jobs (moments.map (·, i)) =
      { x with pool := x.pool.run s w (turnsOf j moments) } := by
  induction moments generalizing x with
  | nil => rfl
  | cons m moments ih =>
    have first : x.turn s w jobs m i = { x with pool := x.pool.step s w (.step m j) } := by
      simp [turn, handle]
    have rest := ih (x := { x with pool := x.pool.step s w (.step m j) }) handle
    change (x.turn s w jobs m i).run s w jobs (moments.map (·, i)) = _
    rw [first, rest]
    rfl

/-- A batch of which the first jobs have been started, in order and at one moment. -/
structure Mirrors (jobs : List Ticket) (begin_ : Moment) (k : Nat) (y : Batch Q A σ)
    (x : Crew Q A σ) : Prop where
  stands : Matches y x.pool
  handles : x.handles = (List.range k).map some ++ List.replicate (jobs.length - k) none
  count : x.pool.calls.length = k
  begun : ∀ head ∈ x.pool.calls.map Call.head, head.2 = begin_

theorem Mirrors.handle {begin_ : Moment} {k i : Nat} {y : Batch Q A σ}
    (h : x.Mirrors jobs begin_ k y) (lt : i < k) : x.handles[i]? = some (some i) := by
  rw [h.handles, List.getElem?_append_left (by simpa using lt)]
  simp [lt]

/-- The first job that waits is given the next handle. -/
theorem set_handles {n k : Nat} (inside : k < n) :
    ((List.range k).map some ++ List.replicate (n - k) none).set k (some k) =
      (List.range (k + 1)).map some ++ List.replicate (n - (k + 1)) none := by
  have one : n - k = (n - (k + 1)) + 1 := by omega
  rw [one, List.replicate_succ, List.set_append_right _ _ (by simp)]
  simp [List.range_succ]

theorem Mirrors.start {begin_ : Moment} {y : Batch Q A σ} {t : Ticket} {k : Nat}
    (h : x.Mirrors jobs begin_ k y) (date : Nat → Time.Instant) (job : jobs[k]? = some t)
    (now : begin_ = ⟨y.now, date y.now⟩) :
    ∃ turns, (x.run s w jobs turns).Mirrors jobs begin_ (k + 1) (y.start s w date t) := by
  obtain ⟨moments, started⟩ := h.stands.start (s := s) (w := w) date t
  have inside : k < jobs.length := (List.getElem?_eq_some_iff.1 job).1
  have waits : x.handles[k]? = some none := by
    rw [h.handles, List.getElem?_append_right (by simp), List.length_map, List.length_range,
      Nat.sub_self, List.getElem?_replicate, if_pos (by omega)]
  let called : Crew Q A σ :=
    ⟨x.pool.step s w (.call begin_ t), x.handles.set k (some x.pool.calls.length)⟩
  have first : x.turn s w jobs begin_ k = called := by
    simp [turn, waits, job, called]
  have handles : called.handles =
      (List.range (k + 1)).map some ++ List.replicate (jobs.length - (k + 1)) none := by
    change x.handles.set k (some x.pool.calls.length) = _
    rw [h.handles, h.count, set_handles inside]
  have handle : called.handles[k]? = some (some k) := by
    rw [handles, List.getElem?_append_left (by simp)]
    simp
  have going := run_turnsOf (s := s) (w := w) (x := called) jobs handle moments
  have heads : (called.pool.run s w (turnsOf k moments)).calls.map Call.head =
      x.pool.calls.map Call.head ++ [(t, begin_)] :=
    (heads_turns moments k).trans (heads_call (w := w) begin_ t)
  refine ⟨(begin_, k) :: moments.map (·, k), ?_⟩
  have whole : x.run s w jobs ((begin_, k) :: moments.map (·, k)) =
      { called with pool := called.pool.run s w (turnsOf k moments) } := by
    rw [← going, ← first]
    rfl
  rw [whole]
  constructor
  · rw [h.count, ← now] at started
    exact started
  · exact handles
  · have length := congrArg List.length heads
    simpa [h.count] using length
  · intro head among
    dsimp only at among
    rw [heads] at among
    rcases List.mem_append.1 among with old | new
    · exact h.begun head old
    · rw [List.mem_singleton.1 new]

theorem Mirrors.starts {begin_ : Moment} (rest : List Ticket) {k : Nat} {y : Batch Q A σ}
    (h : x.Mirrors jobs begin_ k y) (date : Nat → Time.Instant) (left : jobs.drop k = rest)
    (now : begin_ = ⟨y.now, date y.now⟩) :
    ∃ turns, (x.run s w jobs turns).Mirrors jobs begin_ (k + rest.length)
      (rest.foldl (Batch.start s w date) y) := by
  induction rest generalizing k x y with
  | nil => exact ⟨[], h⟩
  | cons t rest ih =>
    have job : jobs[k]? = some t := by
      have at_ := congrArg (·[0]?) left
      simpa using at_
    have later : jobs.drop (k + 1) = rest := by
      rw [← List.drop_drop, left]
      rfl
    obtain ⟨turns, started⟩ := h.start (s := s) (w := w) date job now
    obtain ⟨more, finished⟩ := ih started later now
    refine ⟨turns ++ more, ?_⟩
    rw [run_append, List.length_cons, Nat.add_comm rest.length, ← Nat.add_assoc]
    exact finished

theorem Mirrors.resume {begin_ : Moment} {y : Batch Q A σ} {i k : Nat} {task : Task Q A}
    (h : x.Mirrors jobs begin_ k y) (date : Nat → Time.Instant) (is : y.tasks[i]? = some task) :
    ∃ turns, (x.run s w jobs turns).Mirrors jobs begin_ k (y.resume s w date i task) := by
  obtain ⟨c, out, -⟩ := h.stands.phase is
  have lt : i < k := h.count ▸ (List.getElem?_eq_some_iff.1 out).1
  obtain ⟨moments, resumed⟩ := h.stands.resume (s := s) (w := w) date is
  refine ⟨moments.map (·, i), ?_⟩
  rw [run_turnsOf jobs (h.handle lt)]
  have heads := heads_turns (s := s) (w := w) (x := x.pool) moments i
  constructor
  · exact resumed
  · exact h.handles
  · have length := congrArg List.length heads
    simpa [h.count] using length
  · dsimp only
    rw [heads]
    exact h.begun

theorem Mirrors.drain {begin_ : Moment} (fuel : Nat) {y : Batch Q A σ} {k : Nat}
    (h : x.Mirrors jobs begin_ k y) (date : Nat → Time.Instant) :
    ∃ turns, (x.run s w jobs turns).Mirrors jobs begin_ k (y.drain s w date fuel) := by
  induction fuel generalizing x y with
  | zero => exact ⟨[], h⟩
  | succ fuel ih =>
    rw [Batch.drain]
    split
    · exact ⟨[], h⟩
    · next i task next =>
      obtain ⟨turns, first⟩ := h.resume (s := s) (w := w) date (Task.of_next? next).1
      obtain ⟨more, rest⟩ := ih first
      refine ⟨turns ++ more, ?_⟩
      rw [run_append]
      exact rest

theorem Mirrors.reports {begin_ : Moment} {y : Batch Q A σ}
    (h : x.Mirrors jobs begin_ jobs.length y) :
    x.reports = y.tasks.map (·.phase.report?) := by
  have phases := h.stands.phases
  have handles : x.handles = (List.range x.pool.calls.length).map some := by
    rw [h.handles, h.count]
    simp
  apply List.ext_getElem?
  intro i
  have at_ := congrArg (·[i]?) phases
  simp only [List.getElem?_map] at at_
  rw [Crew.reports, handles, List.getElem?_map, List.getElem?_map, List.getElem?_map]
  by_cases inside : i < x.pool.calls.length
  · rw [List.getElem?_eq_getElem inside] at at_
    cases task : y.tasks[i]? with
    | none =>
      rw [task] at at_
      cases at_
    | some task' =>
      rw [task] at at_
      simp only [Option.map_some, Option.some.injEq] at at_
      simp [inside, at_]
  · rw [List.getElem?_eq_none (Nat.not_lt.1 inside)] at at_
    cases task : y.tasks[i]? with
    | none => simp [inside]
    | some task' =>
      rw [task] at at_
      cases at_

/-- A batch whose tasks run until they sleep is one of the runs of its crew, and all of its calls
begin at one moment. -/
theorem exists_turns_executeBatch (s : Service Q A) (w : Program.World Q A σ)
    (date : Nat → Time.Instant) (now fuel : Nat) (jobs : List Ticket) (b : Board) (world : σ) :
    ∃ turns, (((assembled jobs b world).run s w jobs turns).Mirrors jobs ⟨now, date now⟩ jobs.length
      (s.executeBatch w date now fuel jobs b world)) := by
  have fresh : (assembled jobs b world : Crew Q A σ).Mirrors jobs ⟨now, date now⟩ 0
      ⟨[], now, 0, b, world⟩ := by
    refine ⟨⟨rfl, rfl, rfl⟩, ?_, rfl, List.forall_mem_nil _⟩
    simp [assembled, List.map_const']
  obtain ⟨turns, started⟩ := fresh.starts (s := s) (w := w) jobs date rfl rfl
  rw [Nat.zero_add] at started
  obtain ⟨more, drained⟩ := started.drain (s := s) (w := w) fuel date
  refine ⟨turns ++ more, ?_⟩
  rw [run_append]
  exact drained

/-! ## What a batch promises -/

theorem asking_of_all (staffed : x.Staffed jobs) (ended : ∀ r ∈ x.reports, r.isSome = true)
    (config : BlastRadius) (key : TargetKey) :
    x.pool.asking config key =
      jobs.countP fun t => config.keyPolicy.keyFor t.incident = key := by
  have all : ∀ handle ∈ x.handles, handle.isSome = true := by
    intro handle among
    have reported := ended _ (List.mem_map_of_mem among)
    cases handle with
    | none => cases reported
    | some j => rfl
  have calls := staffed.all
  rw [begun_of_all staffed.length all] at calls
  rw [← calls.countP_eq, List.countP_map]
  rfl

end Crew

end Remedy
