import Mathlib.Logic.Hydra
import Remedy.Proofs.Service.Schedules

/-!
# Calls and batches come to an end

A program is a tree without endless branches, so a call that gets its turns comes to its report. A
batch runs one task at a time, and the phase of that task goes down such a tree; whatever the tasks
do to each other, after enough wake-ups all of them are over.
-/

namespace Remedy

variable {Q : Type} {A : Q → Type} {σ : Type}

/-! ## Calls -/

namespace Pool

variable {s : Service Q A} {w : Program.World Q A σ} {x : Pool Q A σ} {i : Nat} {c : Call Q A}

/-- Turns of its own bring a call to its report. -/
def Concludes (s : Service Q A) (w : Program.World Q A σ) (x : Pool Q A σ) (i : Nat) : Prop :=
  ∃ moments c report, (x.run s w (turnsOf i moments)).calls[i]? = some c ∧
    c.phase = some (.ended report)

theorem Reaches.concludes {phase : Phase Q A} {b : Board} {world : σ} (out : x.calls[i]? = some c)
    (first : x.Reaches s w i phase b world)
    (later : ∀ {y : Pool Q A σ} {c : Call Q A}, y.calls[i]? = some c → c.phase = some phase →
      y.Concludes s w i) : x.Concludes s w i := by
  obtain ⟨moments, c', calls, at_, -, -⟩ := first
  have out' : (x.run s w (turnsOf i moments)).calls[i]? = some c' := by
    rw [calls]
    exact List.getElem?_set_self (List.getElem?_eq_some_iff.1 out).1
  obtain ⟨more, rest⟩ := later out' at_
  refine ⟨moments ++ more, ?_⟩
  rw [turnsOf_append, run_append]
  exact rest

theorem concludes_of_ended {report : Report} (out : x.calls[i]? = some c)
    (at_ : c.phase = some (.ended report)) : x.Concludes s w i :=
  ⟨[], c, report, out, at_⟩

theorem concludes_of_rollingBack {u : Undo Q A} {rest : Program Q A (Except Fault String)}
    (out : x.calls[i]? = some c) (at_ : c.phase = some (.rollingBack u rest)) :
    x.Concludes s w i := by
  have turns := Program.turns_run (w := w) 0 rest x.world
  refine (reaches_turns (follows_rollingBack u) out at_ turns).concludes out fun out' at' => ?_
  exact (reaches_undone ⟨0, .earliest⟩ out' at').concludes out' concludes_of_ended

/-- Wherever a call stands, it can be brought to its report. -/
theorem concludes {phase : Phase Q A} (out : x.calls[i]? = some c) (at_ : c.phase = some phase) :
    x.Concludes s w i := by
  cases phase with
  | ended report => exact concludes_of_ended out at_
  | rollingBack u rest => exact concludes_of_rollingBack out at_
  | executing e rest =>
    have turns := Program.turns_run (w := w) 0 rest x.world
    refine (reaches_turns (follows_executing e) out at_ turns).concludes out
      fun {y d} out' at' => ?_
    refine (reaches_settled ⟨0, .earliest⟩ out' at').concludes out' fun out'' at'' => ?_
    generalize (e.settle s ⟨0, .earliest⟩ _ y.board).1 = next at at''
    cases next with
    | ended report => exact concludes_of_ended out'' at''
    | waiting u => exact concludes_of_rollingBack out'' at''

end Pool

/-! ## Phases -/

theorem Board.emitAll_cons (b : Board) (e : Event) (es : List Event) :
    b.emitAll (e :: es) = (b.emit e).emitAll es := by
  simp [emitAll, emit]

namespace Phase

/-- What becomes of a phase that runs at some moment. -/
def After (s : Service Q A) (w : Program.World Q A σ) (next phase : Phase Q A) : Prop :=
  phase.report? = none ∧ ∃ m b world, next = (phase.advance s w m b world).phase

variable {s : Service Q A} {w : Program.World Q A σ}

theorem advanceUndo_emit (m : Moment) (u : Undo Q A) (e : Event)
    (rest : Program Q A (Except Fault String)) (b : Board) (world : σ) :
    advanceUndo w m u (.emit e rest) b world = advanceUndo w m u rest (b.emit e) world := by
  simp only [advanceUndo, Program.advance]
  generalize Program.advance w m.ms rest world = advanced
  obtain ⟨outcome | ⟨wake, rest⟩, es, world⟩ := advanced
  · simp only [Board.emitAll_cons]
  · simp only [Board.emitAll_cons]

theorem advance_emit (m : Moment) (e : Execution Q A) (event : Event) (rest : Program Q A Report)
    (b : Board) (world : σ) :
    (executing e (.emit event rest)).advance s w m b world =
      (executing e rest).advance s w m (b.emit event) world := by
  simp only [advance, Program.advance]
  generalize Program.advance w m.ms rest world = advanced
  obtain ⟨outcome | ⟨wake, rest⟩, es, world⟩ := advanced
  · simp only [Board.emitAll_cons]
  · simp only [Board.emitAll_cons]

theorem acc_ended (report : Report) : Acc (After s w) (.ended report) := by
  refine ⟨_, fun next after => ?_⟩
  cases after.1

theorem acc_advanceUndo {u : Undo Q A} {rest : Program Q A (Except Fault String)}
    (acc : Acc (After s w) (.rollingBack u rest)) (m : Moment) (b : Board) (world : σ) :
    Acc (After s w) (advanceUndo w m u rest b world).phase :=
  acc.inv ⟨rfl, m, b, world, rfl⟩

theorem acc_rollingBack (u : Undo Q A) (rest : Program Q A (Except Fault String)) :
    Acc (After s w) (.rollingBack u rest) := by
  have whole {rest : Program Q A (Except Fault String)}
      (all : ∀ m b world, Acc (After s w) (advanceUndo w m u rest b world).phase) :
      Acc (After s w) (.rollingBack u rest) := by
    refine ⟨_, fun next after => ?_⟩
    obtain ⟨-, m, b, world, rfl⟩ := after
    exact all m b world
  apply whole
  induction rest with
  | done a => exact fun m b world => acc_ended _
  | abort p => exact fun m b world => acc_ended _
  | ask q next ih => exact fun m b world => ih (w q world).1 m b (w q world).2
  | clock next ih => exact fun m b world => ih m.ms m b world
  | sleep ms next ih => exact fun m b world => whole ih
  | emit e next ih =>
    intro m b world
    rw [advanceUndo_emit]
    exact ih m (b.emit e) world

theorem acc_executing (e : Execution Q A) (rest : Program Q A Report) :
    Acc (After s w) (.executing e rest) := by
  have whole {rest : Program Q A Report}
      (all : ∀ m b world, Acc (After s w) ((executing e rest).advance s w m b world).phase) :
      Acc (After s w) (.executing e rest) := by
    refine ⟨_, fun next after => ?_⟩
    obtain ⟨-, m, b, world, rfl⟩ := after
    exact all m b world
  have settled (m : Moment) (outcome : Except Panic Report) (b : Board) (world : σ) :
      Acc (After s w) ((executing e (Program.ofOutcome outcome)).advance s w m b world).phase := by
    have ended : Program.advance w m.ms (Program.ofOutcome outcome) world =
        (.ended outcome, [], world) := by
      cases outcome <;> rfl
    simp only [advance, ended]
    generalize e.settle s m outcome (b.emitAll []) = next
    obtain ⟨report | u, b'⟩ := next
    · exact acc_ended report
    · exact acc_advanceUndo (acc_rollingBack u u.program) m b' world
  apply whole
  induction rest with
  | done a => exact fun m b world => settled m (.ok a) b world
  | abort p => exact fun m b world => settled m (.error p) b world
  | ask q next ih => exact fun m b world => ih (w q world).1 m b (w q world).2
  | clock next ih => exact fun m b world => ih m.ms m b world
  | sleep ms next ih => exact fun m b world => whole ih
  | emit event next ih =>
    intro m b world
    rw [advance_emit]
    exact ih m (b.emit event) world

/-- No call runs and sleeps for ever. -/
theorem wellFounded_after : WellFounded (After s w) := by
  refine ⟨fun phase => ?_⟩
  cases phase with
  | ended report => exact acc_ended report
  | rollingBack u rest => exact acc_rollingBack u rest
  | executing e rest => exact acc_executing e rest

end Phase

/-! ## Batches -/

/-- A search that finds nothing has passed everything by. -/
theorem foldl_eq_none {α β : Type} {f : Option β → α → Option β} {p : α → Prop}
    (step : ∀ best a, f best a = none → best = none ∧ p a) (entries : List α) :
    ∀ best, entries.foldl f best = none → best = none ∧ ∀ a ∈ entries, p a := by
  induction entries with
  | nil => exact fun best found => ⟨found, List.forall_mem_nil _⟩
  | cons e entries ih =>
    intro best found
    obtain ⟨first, rest⟩ := ih _ found
    obtain ⟨none, passed⟩ := step best e first
    exact ⟨none, List.forall_mem_cons.2 ⟨passed, rest⟩⟩

/-- When there is no task to run, all of them are over. -/
theorem Task.isOver_of_next?_eq_none {tasks : List (Task Q A)} (none : Task.next? tasks = none) :
    ∀ task ∈ tasks, task.isOver = true := by
  have all : ∀ e ∈ tasks.zipIdx, e.1.isOver = true := by
    refine (foldl_eq_none (fun best e found => ?_) tasks.zipIdx _ none).2
    dsimp only at found
    split at found
    · next done => exact ⟨found, done⟩
    · split at found
      · cases found
      · split at found <;> cases found
  intro task among
  obtain ⟨i, at_⟩ := List.mem_iff_getElem?.1 among
  exact all (task, i) (List.mk_mem_zipIdx_iff_getElem?.2 at_)

namespace Batch

variable {s : Service Q A} {w : Program.World Q A σ} {date : Nat → Time.Instant}

/-- When every task is over, the reports of a batch are those of its tasks. -/
theorem map_report? {x : Batch Q A σ} (done : ∀ task ∈ x.tasks, task.isOver = true) :
    x.tasks.map (·.phase.report?) = x.reports.map some := by
  rw [reports, List.map_map]
  refine List.map_congr_left fun task among => ?_
  obtain ⟨report, came⟩ := Option.isSome_iff_exists.1 (done task among)
  simp [came]

def phases (x : Batch Q A σ) : Multiset (Phase Q A) := x.tasks.map (·.phase)

/-- Something lower in the place of one of a list. -/
theorem cutExpand_set {α : Type} {r : α → α → Prop} {entries : List α} {i : Nat} {a b : α}
    (at_ : entries[i]? = some a) (lower : r b a) :
    Relation.CutExpand r (entries.set i b : Multiset α) entries := by
  obtain ⟨bound, rfl⟩ := List.getElem?_eq_some_iff.1 at_
  have before := Multiset.coe_eq_coe.2 (List.getElem_cons_eraseIdx_perm bound)
  have later := Multiset.coe_eq_coe.2 (List.set_perm_cons_eraseIdx bound b)
  rw [← before, later, ← Multiset.cons_coe, ← Multiset.cons_coe, ← Multiset.singleton_add,
    ← Multiset.singleton_add]
  exact Relation.cutExpand_single_add lower _

/-- A wake-up lowers the phase of one task and leaves the others. -/
theorem phases_resume {x : Batch Q A σ} {i : Nat} {task : Task Q A}
    (next : Task.next? x.tasks = some (i, task)) :
    Relation.CutExpand (Phase.After s w) (x.resume s w date i task).phases x.phases := by
  obtain ⟨is, going⟩ := Task.of_next? next
  have unended : task.phase.report? = none := by simpa [Task.isOver] using going
  have at_ : (x.tasks.map (·.phase))[i]? = some task.phase := by
    rw [List.getElem?_map, is]
    rfl
  rw [phases, resume, List.map_set]
  exact cutExpand_set at_ ⟨unended, _, _, _, rfl⟩

/-- After enough wake-ups every task is over. -/
theorem exists_drain_isOver (s : Service Q A) (w : Program.World Q A σ)
    (date : Nat → Time.Instant) (x : Batch Q A σ) : ∃ least, ∀ fuel, least ≤ fuel →
    ∀ task ∈ (x.drain s w date fuel).tasks, task.isOver = true := by
  have wf : WellFounded (Relation.CutExpand (Phase.After s w)) := Phase.wellFounded_after.cutExpand
  induction same : x.phases using wf.induction generalizing x with
  | _ phases ih =>
  cases next : Task.next? x.tasks with
  | none =>
    refine ⟨0, fun fuel _ => ?_⟩
    have still : x.drain s w date fuel = x := by
      cases fuel with
      | zero => rfl
      | succ fuel => rw [drain, next]
    rw [still]
    exact Task.isOver_of_next?_eq_none next
  | some chosen =>
    obtain ⟨i, task⟩ := chosen
    obtain ⟨least, enough⟩ := ih _ (same ▸ phases_resume next) (x.resume s w date i task) rfl
    refine ⟨least + 1, fun fuel le => ?_⟩
    obtain ⟨fuel, rfl⟩ := Nat.exists_eq_add_of_le' (Nat.le_trans (Nat.le_add_left 1 least) le)
    rw [drain, next]
    exact enough fuel (by omega)

end Batch

end Remedy
