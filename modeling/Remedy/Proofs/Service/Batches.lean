import Mathlib.Order.Filter.AtTopBot.Basic
import Mathlib.Order.Filter.Finite
import Remedy.Proofs.Service.Crews
import Remedy.Proofs.Service.Endings
import Remedy.Proofs.Service.Notes

/-!
# Batches

Every job of a batch comes to a report of its own. Whatever the tasks do to each other, a turn takes
a call that is not over one step down the tree of its program, so a scheduler that forgets no job
brings all of them to their reports; the scheduler that lets each task run until it sleeps does so
after enough wake-ups. The jobs for one target are admitted as far as its limits allow, in whatever
order they ask.
-/

namespace Remedy

variable {Q : Type} {A : Q → Type} {σ : Type}

/-! ## Turns of a call -/

namespace Phase

variable {s : Service Q A} {w : Program.World Q A σ}

/-- What becomes of a phase that is not over at a turn. -/
def Turned (s : Service Q A) (w : Program.World Q A σ) (next phase : Phase Q A) : Prop :=
  phase.report? = none ∧ ∃ m b world, next = phase.turned s w m b world

theorem acc_turned_ended (report : Report) : Acc (Turned s w) (.ended report) := by
  refine ⟨_, fun next after => ?_⟩
  cases after.1

theorem acc_turned_of {phase : Phase Q A}
    (all : ∀ m b world, Acc (Turned s w) (phase.turned s w m b world)) :
    Acc (Turned s w) phase := by
  refine ⟨_, fun next after => ?_⟩
  obtain ⟨-, m, b, world, rfl⟩ := after
  exact all m b world

theorem acc_turned_rollingBack (u : Undo Q A) (rest : Program Q A (Except Fault String)) :
    Acc (Turned s w) (.rollingBack u rest) := by
  apply acc_turned_of
  induction rest with
  | done a => exact fun m b world => acc_turned_ended _
  | abort p => exact fun m b world => acc_turned_ended _
  | ask q next ih => exact fun m b world => acc_turned_of (ih (w q world).1)
  | clock next ih => exact fun m b world => acc_turned_of (ih m.ms)
  | sleep ms next ih => exact fun m b world => acc_turned_of ih
  | emit event next ih => exact fun m b world => acc_turned_of ih

theorem acc_turned_executing (e : Execution Q A) (rest : Program Q A Report) :
    Acc (Turned s w) (.executing e rest) := by
  have settled (next : Next (Undo Q A)) : Acc (Turned s w) (.ofUndo next) := by
    cases next with
    | ended report => exact acc_turned_ended report
    | waiting u => exact acc_turned_rollingBack u u.program
  apply acc_turned_of
  induction rest with
  | done a => exact fun m b world => settled (e.settle s m (.ok a) (b.emitAll [])).1
  | abort p => exact fun m b world => settled (e.settle s m (.error p) (b.emitAll [])).1
  | ask q next ih => exact fun m b world => acc_turned_of (ih (w q world).1)
  | clock next ih => exact fun m b world => acc_turned_of (ih m.ms)
  | sleep ms next ih => exact fun m b world => acc_turned_of ih
  | emit event next ih => exact fun m b world => acc_turned_of ih

/-- No call takes turns for ever. -/
theorem acc_turned (phase : Phase Q A) : Acc (Turned s w) phase := by
  cases phase with
  | ended report => exact acc_turned_ended report
  | rollingBack u rest => exact acc_turned_rollingBack u rest
  | executing e rest => exact acc_turned_executing e rest

end Phase

namespace Pool

variable {s : Service Q A} {w : Program.World Q A σ} {x : Pool Q A σ}

/-- Where a call stands. -/
def phase? (x : Pool Q A σ) (j : Nat) : Option (Phase Q A) := x.calls[j]?.bind (·.phase)

/-- A turn changes where its own call stands, and no other. -/
theorem phase?_step (m : Moment) (i j : Nat) :
    (x.step s w (.step m i)).phase? j =
      if j = i then (x.phase? i).map (·.turned s w m x.board x.world) else x.phase? j := by
  cases out : x.calls[i]? with
  | none =>
    have still : x.step s w (.step m i) = x := by simp only [step, out]
    split
    · next same => simp [same, still, phase?, out]
    · rw [still]
  | some c =>
    have goes : x.step s w (.step m i) = x.resume s w m i c := by simp only [step, out]
    cases at_ : c.phase with
    | none =>
      have still : x.resume s w m i c = x := by simp only [resume, at_]
      split
      · next same => simp [same, goes, still, phase?, out, at_]
      · rw [goes, still]
    | some phase =>
      obtain ⟨length, calls⟩ := calls_resume (s := s) (w := w) m at_ out
      rw [goes]
      cases found : (x.resume s w m i c).calls[j]? with
      | none =>
        have beyond := List.getElem?_eq_none_iff.1 found
        rw [length] at beyond
        have nothing : x.calls[j]? = none := List.getElem?_eq_none_iff.2 beyond
        have apart : j ≠ i := by
          rintro rfl
          rw [out] at nothing
          cases nothing
        rw [if_neg apart, phase?, phase?, found, nothing]
      | some d =>
        rcases calls j d found with ⟨same, -, turned⟩ | ⟨apart, old⟩
        · rw [if_pos same, phase?, phase?, found, out, Option.bind_some, Option.bind_some, turned,
            at_]
          rfl
        · rw [if_neg apart, phase?, phase?, found, old]

/-- A new call stands where it began, and the others where they stood. -/
theorem phase?_call (m : Moment) (t : Ticket) (j : Nat) :
    (x.step s w (.call m t)).phase? j =
      if j = x.calls.length then some (.ofExecution (s.receive m t x.board).1)
      else x.phase? j := by
  obtain ⟨c, -, phase, b, recorded, same⟩ := receive_eq_add s m t x
  have added : (x.step s w (.call m t)).calls = x.calls ++ [c] := by
    simp only [step, same, add]
  rw [phase?, added]
  split
  · next last => rw [last, List.getElem?_concat_length, Option.bind_some, phase]
  · next other =>
    rw [phase?]
    rcases Nat.lt_or_gt_of_ne other with old | beyond
    · rw [List.getElem?_append_left old]
    · rw [List.getElem?_eq_none_iff.2 (by simpa using Nat.succ_le_of_lt beyond),
        List.getElem?_eq_none_iff.2 (Nat.le_of_lt beyond)]

end Pool

namespace Crew

open Pool

variable {s : Service Q A} {w : Program.World Q A σ} {jobs : List Ticket} {x : Crew Q A σ}

/-! ## Where the jobs stand -/

/-- Where the call of a job stands, once the job has had a turn. -/
def standing? (x : Crew Q A σ) (i : Nat) : Option (Phase Q A) :=
  x.handles[i]?.join.bind x.pool.phase?

/-- The jobs that have had a turn are those whose calls stand somewhere. -/
def Attended (x : Crew Q A σ) : Prop :=
  ∀ i j : Nat, x.handles[i]? = some (some j) → (x.pool.phase? j).isSome = true

/-- What becomes of where a job stands that is not over, at its turn: its call
begins, or takes one. -/
inductive Onward (s : Service Q A) (w : Program.World Q A σ) :
    Option (Phase Q A) → Option (Phase Q A) → Prop
  | begins (phase : Phase Q A) : Onward s w (some phase) none
  | goes {next phase : Phase Q A} (turned : Phase.Turned s w next phase) :
      Onward s w (some next) (some phase)

theorem wellFounded_onward : WellFounded (Onward s w) := by
  have started (phase : Phase Q A) : Acc (Onward s w) (some phase) := by
    induction Phase.acc_turned (s := s) (w := w) phase with
    | intro phase _ ih =>
      refine ⟨_, fun next onward => ?_⟩
      cases onward with
      | goes turned => exact ih _ turned
  refine ⟨fun standing => ?_⟩
  cases standing with
  | some phase => exact started phase
  | none =>
    refine ⟨_, fun next onward => ?_⟩
    cases onward with
    | begins phase => exact started phase

theorem reports_getElem? (x : Crew Q A σ) (i : Nat) :
    x.reports[i]? = x.handles[i]?.map fun _ => (x.standing? i).bind Phase.report? := by
  rw [reports, List.getElem?_map]
  cases handle : x.handles[i]? with
  | none => rfl
  | some place =>
    simp only [Option.map_some, standing?, handle, Option.join_some, Pool.phase?,
      Option.bind_assoc]

theorem attended_assembled (jobs : List Ticket) (b : Board) (world : σ) :
    (assembled jobs b world : Crew Q A σ).Attended :=
  fun i j handle => absurd handle (not_begun_assembled jobs b world i j)

/-- The three kinds of turns: a job begins its call, a job goes on, and there is no such job. -/
theorem turn_cases (s : Service Q A) (w : Program.World Q A σ)
    (length : x.handles.length = jobs.length) (m : Moment) (i : Nat) :
    (∃ t, jobs[i]? = some t ∧ x.handles[i]? = some none ∧ x.turn s w jobs m i =
      ⟨x.pool.step s w (.call m t), x.handles.set i (some x.pool.calls.length)⟩) ∨
    (∃ j, x.handles[i]? = some (some j) ∧
      x.turn s w jobs m i = { x with pool := x.pool.step s w (.step m j) }) ∨
    jobs.length ≤ i ∧ x.turn s w jobs m i = x := by
  cases handle : x.handles[i]? with
  | none =>
    have beyond := List.getElem?_eq_none_iff.1 handle
    rw [length] at beyond
    exact .inr (.inr ⟨beyond, by simp only [Crew.turn, handle]⟩)
  | some place =>
    cases place with
    | some j => exact .inr (.inl ⟨j, rfl, by simp only [Crew.turn, handle]⟩)
    | none =>
      have bound := (List.getElem?_eq_some_iff.1 handle).1
      rw [length] at bound
      have job := List.getElem?_eq_getElem bound
      exact .inl ⟨_, job, rfl, by simp only [Crew.turn, handle, job]⟩

theorem Attended.turn (h : x.Attended) (staffed : x.Staffed jobs) (m : Moment) (i : Nat) :
    (x.turn s w jobs m i).Attended := by
  obtain ⟨t, job, waits, same⟩ | ⟨j, handle, same⟩ | ⟨-, same⟩ :=
    turn_cases s w staffed.length m i
  · rw [same]
    intro i' j' handle'
    rw [phase?_call]
    split
    · rfl
    · next other =>
      rcases handle_of_set handle' with ⟨-, rfl⟩ | earlier
      · exact absurd rfl other
      · exact h i' j' earlier
  · rw [same]
    intro i' j' handle'
    rw [phase?_step]
    split
    · rw [Option.isSome_map]
      exact h i j handle
    · exact h i' j' handle'
  · rw [same]
    exact h

theorem Attended.run (h : x.Attended) (staffed : x.Staffed jobs) (turns : List (Moment × Nat)) :
    (x.run s w jobs turns).Attended := by
  induction turns generalizing x with
  | nil => exact h
  | cons turn turns ih =>
    exact ih (h.turn staffed turn.1 turn.2) (staffed.turn turn.1 turn.2)

/-- A turn leaves the other jobs where they stand. -/
theorem standing?_turn_of_ne (staffed : x.Staffed jobs) (m : Moment) {i i' : Nat} (apart : i' ≠ i) :
    (x.turn s w jobs m i).standing? i' = x.standing? i' := by
  obtain ⟨t, job, waits, same⟩ | ⟨j, handle, same⟩ | ⟨-, same⟩ :=
    turn_cases s w staffed.length m i
  · rw [same, standing?, standing?, List.getElem?_set_ne (Ne.symm apart)]
    cases handle' : x.handles[i']?.join with
    | none => rfl
    | some j' =>
      have older := staffed.lt_length (Option.join_eq_some_iff.1 handle')
      rw [Option.bind_some, Option.bind_some, phase?_call, if_neg (Nat.ne_of_lt older)]
  · rw [same, standing?, standing?]
    cases handle' : x.handles[i']?.join with
    | none => rfl
    | some j' =>
      have other : j' ≠ j := by
        rintro rfl
        exact apart (staffed.apart i' i j' (Option.join_eq_some_iff.1 handle') handle)
      rw [Option.bind_some, Option.bind_some, phase?_step, if_neg other]
  · rw [same]

/-- A job that is not over goes on at its turn. -/
theorem onward_turn (staffed : x.Staffed jobs) (attended : x.Attended) (m : Moment) {i : Nat}
    (bound : i < jobs.length) (going : (x.standing? i).bind Phase.report? = none) :
    Onward s w ((x.turn s w jobs m i).standing? i) (x.standing? i) := by
  obtain ⟨t, job, waits, same⟩ | ⟨j, handle, same⟩ | ⟨beyond, -⟩ :=
    turn_cases s w staffed.length m i
  · have before : x.standing? i = none := by simp [standing?, waits]
    have inside : i < x.handles.length := staffed.length.symm ▸ bound
    have after : (x.turn s w jobs m i).standing? i =
        some (.ofExecution (s.receive m t x.pool.board).1) := by
      rw [same, standing?, List.getElem?_set_self inside, Option.join_some, Option.bind_some,
        phase?_call, if_pos rfl]
    rw [before, after]
    exact .begins _
  · obtain ⟨phase, stands⟩ := Option.isSome_iff_exists.1 (attended i j handle)
    have before : x.standing? i = some phase := by simp [standing?, handle, stands]
    have after : (x.turn s w jobs m i).standing? i =
        some (phase.turned s w m x.pool.board x.pool.world) := by
      rw [same, standing?, handle, Option.join_some, Option.bind_some, phase?_step, if_pos rfl,
        stands, Option.map_some]
    rw [before] at going ⊢
    rw [after]
    exact .goes ⟨going, m, x.pool.board, x.pool.world, rfl⟩
  · exact absurd bound (Nat.not_lt_of_le beyond)

/-- A job that is over stays so, whoever has a turn. -/
theorem standing?_turn_of_ended (staffed : x.Staffed jobs) (m : Moment) {i : Nat} {report : Report}
    (ended : x.standing? i = some (.ended report)) (i' : Nat) :
    (x.turn s w jobs m i').standing? i = some (.ended report) := by
  by_cases own : i = i'
  · subst own
    obtain ⟨t, job, waits, same⟩ | ⟨j, handle, same⟩ | ⟨-, same⟩ :=
      turn_cases s w staffed.length m i
    · simp [standing?, waits] at ended
    · rw [standing?, handle, Option.join_some, Option.bind_some] at ended
      rw [same, standing?, handle, Option.join_some, Option.bind_some, phase?_step, if_pos rfl,
        ended]
      rfl
    · rw [same, ended]
  · rw [standing?_turn_of_ne staffed m own, ended]

/-! ## Schedules -/

/-- A schedule gives one turn after the other. It is fair when it goes on giving
turns to each job. -/
def Fair (count : Nat) (schedule : Nat → Moment × Nat) : Prop :=
  ∀ i < count, ∀ n, ∃ k, (schedule (n + k)).2 = i

/-- The jobs after so many turns of a schedule. -/
def after (s : Service Q A) (w : Program.World Q A σ) (jobs : List Ticket) (x : Crew Q A σ)
    (schedule : Nat → Moment × Nat) (n : Nat) : Crew Q A σ :=
  x.run s w jobs ((List.range n).map schedule)

section Schedule

variable {schedule : Nat → Moment × Nat}

theorem after_succ (n : Nat) :
    x.after s w jobs schedule (n + 1) =
      (x.after s w jobs schedule n).turn s w jobs (schedule n).1 (schedule n).2 := by
  rw [after, List.range_succ, List.map_append, run_append]
  rfl

variable (staffed : x.Staffed jobs) (attended : x.Attended)
include staffed

/-- What holds of where a job stands when it is over goes on holding. -/
theorem standing?_after_of_ended {i m : Nat} {report : Report}
    (ended : (x.after s w jobs schedule m).standing? i = some (.ended report)) {n : Nat}
    (later : m ≤ n) : (x.after s w jobs schedule n).standing? i = some (.ended report) := by
  induction later with
  | refl => exact ended
  | step _ ih =>
    rw [after_succ]
    exact standing?_turn_of_ended (staffed.run _) _ ih _

include attended

/-- A job that is not over is waited for by the schedule until it goes on. -/
theorem exists_onward {i k : Nat} (bound : i < jobs.length) (n : Nat)
    (own : (schedule (n + k)).2 = i)
    (going : ((x.after s w jobs schedule n).standing? i).bind Phase.report? = none) :
    ∃ m, Onward s w ((x.after s w jobs schedule m).standing? i)
      ((x.after s w jobs schedule n).standing? i) := by
  induction k generalizing n with
  | zero =>
    refine ⟨n + 1, ?_⟩
    obtain rfl : (schedule n).2 = i := own
    rw [after_succ]
    exact onward_turn (staffed.run _) (attended.run staffed _) _ bound going
  | succ k ih =>
    by_cases now : (schedule n).2 = i
    · subst now
      refine ⟨n + 1, ?_⟩
      rw [after_succ]
      exact onward_turn (staffed.run _) (attended.run staffed _) _ bound going
    · have still : (x.after s w jobs schedule (n + 1)).standing? i =
          (x.after s w jobs schedule n).standing? i := by
        rw [after_succ]
        exact standing?_turn_of_ne (staffed.run _) _ (Ne.symm now)
      have next : n + 1 + k = n + (k + 1) := by omega
      rw [← still] at going ⊢
      exact ih (n + 1) (next ▸ own) going

/-- A fair schedule brings every job to its report. -/
theorem exists_ended (fair : Fair jobs.length schedule) {i : Nat} (bound : i < jobs.length)
    (n : Nat) :
    ∃ m report, (x.after s w jobs schedule m).standing? i = some (.ended report) := by
  induction same : (x.after s w jobs schedule n).standing? i using
    (wellFounded_onward (s := s) (w := w)).induction generalizing n with
  | _ standing ih =>
    cases told : standing.bind Phase.report? with
    | some report =>
      obtain ⟨phase, rfl, ended⟩ := Option.bind_eq_some_iff.1 told
      cases phase with
      | ended _ => exact ⟨n, _, same⟩
      | executing | rollingBack => cases ended
    | none =>
      obtain ⟨k, own⟩ := fair i bound n
      obtain ⟨m, onward⟩ := exists_onward staffed attended bound n own (same ▸ told)
      exact ih _ (same ▸ onward) m rfl

/-- From some turn of a fair schedule on every job has its report. -/
theorem exists_reports (fair : Fair jobs.length schedule) : ∃ least, ∀ n, least ≤ n →
    ∀ r ∈ (x.after s w jobs schedule n).reports, r.isSome = true := by
  have each : ∀ i ∈ Finset.range jobs.length, ∀ᶠ n in Filter.atTop, ∃ report,
      (x.after s w jobs schedule n).standing? i = some (.ended report) := by
    intro i among
    obtain ⟨m, report, ended⟩ := exists_ended staffed attended fair (Finset.mem_range.1 among) 0
    exact Filter.eventually_atTop.2
      ⟨m, fun n later => ⟨report, standing?_after_of_ended staffed ended later⟩⟩
  obtain ⟨least, all⟩ := Filter.eventually_atTop.1 ((Filter.eventually_all_finset _).2 each)
  refine ⟨least, fun n later r among => ?_⟩
  obtain ⟨i, at_⟩ := List.mem_iff_getElem?.1 among
  rw [reports_getElem?, Option.map_eq_some_iff] at at_
  obtain ⟨handle, place, rfl⟩ := at_
  have length : (x.after s w jobs schedule n).handles.length = jobs.length := (staffed.run _).length
  have bound := (List.getElem?_eq_some_iff.1 place).1
  rw [length] at bound
  obtain ⟨report, ended⟩ := all n later i (Finset.mem_range.2 bound)
  rw [ended]
  rfl

end Schedule

/-! ## What a batch promises -/

/-- Each job has its own place and its own call, and its report is that of its call. -/
structure Served (jobs : List Ticket) (x : Crew Q A σ) : Prop where
  length : x.reports.length = jobs.length
  own : ∀ (i : Nat) (r : Report), x.reports[i]? = some (some r) →
    ∃ j c, x.handles[i]? = some (some j) ∧ x.pool.calls[j]? = some c ∧
      jobs[i]? = some c.ticket ∧ c.phase = some (.ended r)
  apart : ∀ i i' j : Nat, x.handles[i]? = some (some j) → x.handles[i']? = some (some j) → i = i'

/-- Of `n` jobs for one target as many were admitted as its limits allow, and the limiter refused
the others. -/
structure Rationed (config : BlastRadius) (key : TargetKey) (n : Nat) (x : Crew Q A σ) : Prop where
  least : min n (min config.maxAttemptsPerWindow.toNat config.maxConcurrentPerTarget.toNat) ≤
    x.pool.admissions config key
  most : x.pool.admissions config key ≤ min n config.maxAttemptsPerWindow.toNat
  exact : n ≤ config.maxConcurrentPerTarget.toNat →
    x.pool.admissions config key = min n config.maxAttemptsPerWindow.toNat
  refused : ∀ (i j : Nat) (c : Call Q A), x.handles[i]? = some (some j) →
    x.pool.calls[j]? = some c → c.key config = key → c.admitted config key = false →
    ∃ r, x.reports[i]? = some (some r) ∧ r.Exhausted

theorem Staffed.served (staffed : x.Staffed jobs) : x.Served jobs where
  length := (List.length_map _).trans staffed.length
  own i r reported := by
    obtain ⟨j, c, handle, out, ended⟩ := report_of_reports reported
    obtain ⟨c', out', job⟩ := staffed.called i j handle
    cases out.symm.trans out'
    exact ⟨j, c, handle, out, job, ended⟩
  apart := staffed.apart

/-- When all jobs are over, what is counted of the calls for one target is what its limits allow. -/
theorem Staffed.rationed {config : BlastRadius} {key : TargetKey} {first : Time.Instant}
    (staffed : x.Staffed jobs) (tallies : x.pool.Tallies config key first)
    (asks : ∀ t ∈ jobs, config.keyPolicy.keyFor t.incident = key → s.Asks t)
    (ended : ∀ r ∈ x.reports, r.isSome = true) :
    x.Rationed config key (jobs.countP fun t => config.keyPolicy.keyFor t.incident = key) := by
  have asking := asking_of_all staffed ended config key
  have fewer : x.pool.admissions config key ≤ x.pool.asking config key := by
    refine List.countP_mono_left fun c _ is => ?_
    simp only [Call.admitted, Bool.and_eq_true] at is
    exact is.2
  have least := tallies.least
  have most := tallies.most
  rw [asking] at fewer least
  refine ⟨least, by omega, by omega, ?_⟩
  intro i j c handle out own refused
  obtain ⟨c', out', job⟩ := staffed.called i j handle
  cases out.symm.trans out'
  have asked := (asks c.ticket (List.mem_of_getElem? job) own).asks
  have never : c.fate = .never := by
    by_contra began
    simp [Call.admitted, began, asked, own] at refused
  obtain ⟨r, ended, exhausted⟩ := tallies.refused j c out own never
  exact ⟨r, reports_of_call handle out ended, exhausted⟩

/-- After enough wake-ups a batch has a report for each of its jobs, and they are those of some
turns. All of its calls begin at one moment. -/
theorem exists_turns_reports (s : Service Q A) (w : Program.World Q A σ) (jobs : List Ticket)
    (b : Board) (world : σ) (date : Nat → Time.Instant) (now : Nat) :
    ∃ least, ∀ fuel, least ≤ fuel →
      let y := s.executeBatch w date now fuel jobs b world
      y.reports.length = jobs.length ∧ ∃ turns,
        let x := (assembled jobs b world).run s w jobs turns
        x.reports = y.reports.map some ∧ x.pool.board = y.board ∧
          ∀ c ∈ x.pool.calls, c.begun = ⟨now, date now⟩ := by
  obtain ⟨least, finished⟩ := Batch.exists_drain_isOver s w date
    (jobs.foldl (Batch.start s w date) ⟨[], now, 0, b, world⟩)
  refine ⟨least, fun fuel enough => ?_⟩
  obtain ⟨turns, mirrors⟩ := exists_turns_executeBatch s w date now fuel jobs b world
  have staffed : ((assembled jobs b world).run s w jobs turns).Staffed jobs :=
    (staffed_assembled jobs b world).run turns
  have reports := mirrors.reports.trans (Batch.map_report? (finished fuel enough))
  have length := congrArg List.length reports
  rw [staffed.served.length, List.length_map] at length
  refine ⟨length.symm, turns, reports, mirrors.stands.board, fun c among => ?_⟩
  exact mirrors.begun c.head (List.mem_map_of_mem among)

/-- Whatever turns the jobs of a batch get, each has one call of its own, and its report is that of
its call; a schedule that forgets no job brings all of them to their reports. The batch whose tasks
run until they sleep is one of these at every number of wake-ups, and after enough of them it has a
report for each job. When all jobs are over, those for one target that was idle, all of which got as
far as the limiter and asked it within one window, were admitted up to the limit of attempts, and at
least as many as both limits allow; each of the others was refused by the limiter and says so. -/
theorem batch_is_bounded (s : Service Q A) (w : Program.World Q A σ) (jobs : List Ticket)
    (b : Board) (world : σ) :
    let config := b.limiter.config
    let start : Crew Q A σ := assembled jobs b world
    (∀ turns, (start.run s w jobs turns).Served jobs) ∧
    (∀ schedule, Fair jobs.length schedule → ∃ least, ∀ k, least ≤ k →
      ∀ r ∈ (start.after s w jobs schedule k).reports, r.isSome = true) ∧
    (∀ date now,
      (∀ fuel, ∃ turns,
        let x := start.run s w jobs turns
        let y := s.executeBatch w date now fuel jobs b world
        x.reports = y.tasks.map (·.phase.report?) ∧ x.pool.board = y.board ∧
          ∀ c ∈ x.pool.calls, c.begun = ⟨now, date now⟩) ∧
      ∃ least, ∀ fuel, least ≤ fuel →
        let y := s.executeBatch w date now fuel jobs b world
        y.reports.length = jobs.length ∧ ∃ turns,
          let x := start.run s w jobs turns
          x.reports = y.reports.map some ∧ x.pool.board = y.board) ∧
    ∀ key first, (∀ t ∈ jobs, b.limiter.keyFor t.incident = key → s.Asks t) →
      ((b.limiter.target key).prune (config.cutoff first)).isIdle = true →
      let n := jobs.countP fun t => b.limiter.keyFor t.incident = key
      (∀ turns,
        let x := start.run s w jobs turns
        (∀ c ∈ x.pool.calls, config.Spans first c.begun.date) →
          (∀ r ∈ x.reports, r.isSome = true) → x.Rationed config key n) ∧
      ∀ date now, config.Spans first (date now) → ∃ least, ∀ fuel, least ≤ fuel → ∃ turns,
        let x := start.run s w jobs turns
        x.reports = (s.executeBatch w date now fuel jobs b world).reports.map some ∧
          x.Rationed config key n := by
  intro config start
  have staffed (turns : List (Moment × Nat)) : (start.run s w jobs turns).Staffed jobs :=
    (staffed_assembled jobs b world).run turns
  refine ⟨fun turns => (staffed turns).served, fun schedule fair => ?_,
    fun date now => ⟨fun fuel => ?_, ?_⟩, fun key first asks idle => ?_⟩
  · exact exists_reports (staffed_assembled jobs b world) (attended_assembled jobs b world) fair
  · obtain ⟨turns, mirrors⟩ := exists_turns_executeBatch s w date now fuel jobs b world
    refine ⟨turns, mirrors.reports, mirrors.stands.board, fun c among => ?_⟩
    exact mirrors.begun c.head (List.mem_map_of_mem among)
  · obtain ⟨least, enough⟩ := exists_turns_reports s w jobs b world date now
    refine ⟨least, fun fuel le => ?_⟩
    obtain ⟨length, turns, reports, board, -⟩ := enough fuel le
    exact ⟨length, turns, reports, board⟩
  · intro n
    have rationed (turns : List (Moment × Nat))
        (spans : ∀ c ∈ (start.run s w jobs turns).pool.calls, config.Spans first c.begun.date)
        (ended : ∀ r ∈ (start.run s w jobs turns).reports, r.isSome = true) :
        (start.run s w jobs turns).Rationed config key n :=
      (staffed turns).rationed (tallies_run asks (tallies_assembled jobs world idle) turns spans)
        asks ended
    refine ⟨rationed, fun date now within => ?_⟩
    obtain ⟨least, enough⟩ := exists_turns_reports s w jobs b world date now
    refine ⟨least, fun fuel le => ?_⟩
    obtain ⟨-, turns, reports, -, begun⟩ := enough fuel le
    refine ⟨turns, reports, rationed turns (fun c among => ?_) fun r among => ?_⟩
    · rw [begun c among]
      exact within
    · have told : r ∈ (start.run s w jobs turns).reports := among
      rw [reports] at told
      obtain ⟨report, -, rfl⟩ := List.mem_map.1 told
      rfl

/-- Two jobs for one target that may be attempted once, each of which sleeps: the second to begin is
refused while the first is asleep. Every schedule that goes on serving both brings them to their
reports, and the batch has them after one wake-up, but not before. -/
theorem batch_is_bounded_by_attempts :
    let remediator : Remediator Unit fun _ => Unit := .plain .noOp fun _ _ =>
      .ask () fun _ => .sleep 10 (.done (.succeeded "done" ["did it"] 0.0))
    let s : Service Unit fun _ => Unit :=
      ⟨Registry.empty.register remediator, ⟨Stage.preValidation, []⟩, ⟨Stage.postValidation, []⟩⟩
    let w : Program.World Unit (fun _ => Unit) Unit := fun _ u => (u, u)
    let t : Ticket := ⟨.new ⟨7⟩ ⟨1700000000, 0⟩ .github "flaky_test", .new .noOp "", .standard⟩
    let config : BlastRadius := ⟨10, 1, 5, .standard⟩
    let b : Board := .new config
    let m (ms : Nat) : Moment := ⟨ms, ⟨1700000000 + ms / 1000, 0⟩⟩
    let x := (assembled [t, t] b ()).run s w [t, t]
      [(m 0, 1), (m 1, 1), (m 2000, 0), (m 2001, 1), (m 2011, 1)]
    let batch (fuel : Nat) := s.executeBatch w (fun _ => ⟨1700000000, 0⟩) 0 fuel [t, t] b ()
    (x.pool.admissions config .global = 1 ∧ ∃ r, x.reports[0]? = some (some r) ∧ r.Exhausted) ∧
    (∃ least, ∀ n, least ≤ n →
      ∀ r ∈ ((assembled [t, t] b ()).after s w [t, t] (fun n => (m n, n % 2)) n).reports,
        r.isSome = true) ∧
    (∃ least, ∀ fuel, least ≤ fuel → (batch fuel).reports.length = 2 ∧
      ∃ turns, let y := (assembled [t, t] b ()).run s w [t, t] turns
        y.reports = (batch fuel).reports.map some ∧ y.pool.admissions config .global = 1) ∧
    (batch 0).reports.map Report.outcome = [.failed, .rejected] ∧
    (batch 1).reports.map Report.outcome = [.success, .rejected] := by
  intro remediator s w t config b m x batch
  have asks : s.Asks t := ⟨by decide +kernel, ⟨remediator, rfl⟩, rfl⟩
  obtain ⟨-, fairly, batched, shared⟩ := batch_is_bounded s w [t, t] b ()
  obtain ⟨bounded, rationed⟩ := shared .global ⟨1700000000, 0⟩ (by simp [asks]) (by decide +kernel)
  have two : [t, t].countP (fun t => decide (b.limiter.keyFor t.incident = .global)) = 2 := by
    decide +kernel
  rw [two] at bounded rationed
  have one {y : Crew Unit (fun _ => Unit) Unit} (rationed : y.Rationed config .global 2) :
      y.pool.admissions config .global = 1 :=
    Nat.le_antisymm rationed.most rationed.least
  refine ⟨?_, fairly _ fun i among n => ?_, ?_, ?_, ?_⟩
  · have promised := bounded [(m 0, 1), (m 1, 1), (m 2000, 0), (m 2001, 1), (m 2011, 1)]
    have begun : x.pool.calls.map (fun c => c.begun.date) = [⟨1700000000, 0⟩, ⟨1700000002, 0⟩] := by
      decide +kernel
    have spans : ∀ c ∈ x.pool.calls, config.Spans ⟨1700000000, 0⟩ c.begun.date := by
      intro c among
      have date : c.begun.date ∈ x.pool.calls.map fun c => c.begun.date :=
        List.mem_map_of_mem among
      rw [begun] at date
      rcases List.mem_cons.1 date with date | date
      · rw [date]
        apply config.spans_of_ordinary <;> decide +kernel
      · rw [List.mem_singleton.1 date]
        apply config.spans_of_ordinary <;> decide +kernel
    have rationed := promised spans (by decide +kernel)
    have handle : x.handles[0]? = some (some 1) := by decide +kernel
    have called : (x.pool.calls[1]?).isSome = true := by decide +kernel
    obtain ⟨c, out⟩ := Option.isSome_iff_exists.1 called
    have own : (x.pool.calls[1]?).map (fun c => c.key config) = some .global := by decide +kernel
    have never : (x.pool.calls[1]?).map (·.admitted config .global) = some false := by
      decide +kernel
    rw [out] at own never
    exact ⟨one rationed,
      rationed.refused 0 1 c handle out (Option.some.inj own) (Option.some.inj never)⟩
  · have which : i = 0 ∨ i = 1 := by
      change i < 2 at among
      omega
    refine ⟨(n + i) % 2, ?_⟩
    change (n + (n + i) % 2) % 2 = i
    omega
  · obtain ⟨least, enough⟩ := (batched (fun _ => ⟨1700000000, 0⟩) 0).2
    obtain ⟨later, admits⟩ := rationed (fun _ => ⟨1700000000, 0⟩) 0
      (by apply config.spans_of_ordinary <;> decide +kernel)
    refine ⟨max least later, fun fuel le => ⟨(enough fuel (by omega)).1, ?_⟩⟩
    obtain ⟨turns, reports, rationed⟩ := admits fuel (by omega)
    exact ⟨turns, reports, one rationed⟩
  · decide +kernel
  · decide +kernel

/-- At the earliest instant no reading is within the window of itself, as the cutoff can lie no
earlier: attempts are forgotten at once, and a clock that stands still admits more of them than it
may. -/
theorem earliest_instant_admits_all :
    let remediator : Remediator Unit fun _ => Unit :=
      .plain .noOp fun _ _ => .done (.succeeded "done" ["did it"] 0.0)
    let s : Service Unit fun _ => Unit :=
      ⟨Registry.empty.register remediator, ⟨Stage.preValidation, []⟩, ⟨Stage.postValidation, []⟩⟩
    let w : Program.World Unit (fun _ => Unit) Unit := fun _ u => (u, u)
    let t : Ticket := ⟨.new ⟨7⟩ ⟨1700000000, 0⟩ .github "flaky_test", .new .noOp "", .standard⟩
    let config : BlastRadius := ⟨600, 1, 5, .standard⟩
    let m : Moment := ⟨0, .earliest⟩
    let x := (assembled [t, t] (.new config) ()).run s w [t, t] [(m, 0), (m, 0), (m, 1), (m, 1)]
    s.Asks t ∧ (Board.new config).limiter.targets.keys = [] ∧
      x.pool.calls.map (·.begun.date) = [.earliest, .earliest] ∧
      x.reports.map (·.map Report.outcome) = [some .success, some .success] ∧
      x.pool.admissions config .global = 2 ∧
      ¬ x.pool.admissions config .global ≤ min 2 config.maxAttemptsPerWindow.toNat := by
  intro remediator s w t config m x
  refine ⟨⟨by decide +kernel, ⟨remediator, rfl⟩, rfl⟩, ?_, ?_, ?_, ?_, ?_⟩ <;> decide +kernel

end Crew

end Remedy
