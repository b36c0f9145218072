import Remedy.Proofs.Rerun.Conversations

/-!
# What a rerun never does

Whatever a provider answers and whatever the clock shows, a rerun asks for one rerun at most and
cancels nothing. What it reports never asks for a rollback, and a success always has an action.
-/

namespace Remedy.Rerun

open Json Workflow

/-! ## Requests -/

/-- A request for a rerun. -/
def isOrder (r : Request) : Bool := r.call == .rerun || r.call == .rerunFailedJobs

/-- One rerun was asked for at most, and nothing was cancelled. -/
structure Restrained (asked : List Request) : Prop where
  orders : asked.countP isOrder ≤ 1
  cancels : ∀ r ∈ asked, r.call ≠ .cancelRun

theorem restrained_nil : Restrained [] := ⟨Nat.zero_le 1, List.forall_mem_nil _⟩

/-- Looking at a run and listing its jobs leaves things as they are. -/
theorem Restrained.quiet {asked : List Request} (h : Restrained asked) {r : Request}
    (unordered : isOrder r = false) (uncancelled : r.call ≠ .cancelRun) :
    Restrained (asked ++ [r]) where
  orders := by
    rw [List.countP_append, List.countP_singleton, unordered]
    exact h.orders
  cancels := by
    intro q among
    rcases List.mem_append.1 among with old | new
    · exact h.cancels q old
    · obtain rfl := List.mem_singleton.1 new
      exact uncancelled

/-- A rerun may be asked for when none was. -/
theorem Restrained.order {asked : List Request} (h : Restrained asked)
    (first : asked.countP isOrder = 0) {r : Request} (uncancelled : r.call ≠ .cancelRun) :
    Restrained (asked ++ [r]) where
  orders := by
    rw [List.countP_append, List.countP_singleton, first]
    split <;> decide
  cancels := by
    intro q among
    rcases List.mem_append.1 among with old | new
    · exact h.cancels q old
    · obtain rfl := List.mem_singleton.1 new
      exact uncancelled

section Wait

variable {asked : List Request} (run : RunRef)

theorem complete_keeps (h : Restrained asked) (current : Run) (polls : UInt32) (elapsed : Nat) :
    Program.Keeps Restrained (fun asked (_ : Completion) => Restrained asked) asked
      (Provider.complete Provider.direct run current polls elapsed) := by
  by_cases success : current.conclusion = some .success
  · rw [Provider.complete_of_success run polls elapsed Provider.direct success]
    exact h
  · obtain ⟨next, same, reports⟩ := Provider.complete_of_failure run polls elapsed success
    have listed : Restrained (asked ++ [⟨run, .listJobs⟩]) := h.quiet rfl Call.noConfusion
    rw [same]
    refine ⟨listed, fun jobs => ?_⟩
    obtain ⟨c, came, -⟩ := reports jobs
    rw [came]
    exact listed

/-- Waiting is looking, and listing the jobs in the end. -/
theorem poll_keeps [Timer] (started limit interval left : Nat) (polls : UInt32)
    (h : Restrained asked) :
    Program.Keeps Restrained (fun asked (_ : Except RunError Completion) => Restrained asked) asked
      (Provider.poll Provider.direct run started limit interval left polls) := by
  induction left generalizing polls asked with
  | zero => exact fun now => h
  | succ left ih =>
    have looked : Restrained (asked ++ [⟨run, .getRun⟩]) := h.quiet rfl Call.noConfusion
    rw [Provider.poll_succ]
    intro now
    dsimp only
    split
    · exact h
    · refine ⟨looked, fun answer => ?_⟩
      cases answer with
      | error e => exact looked
      | ok current =>
        simp only [Provider.afterLook]
        split
        · intro seen
          exact (complete_keeps run looked current (polls + 1) (seen - started)).bind
            fun asked c done => done
        · exact ih (polls + 1) looked

end Wait

/-! ## Reports -/

/-- A report that asks for no rollback and says of none, and a success of which has an action. -/
structure Harmless (report : Report) : Prop where
  required : report.rollbackRequired = false
  performed : report.rollbackPerformed = false
  outcome : report.outcome ≠ .rolledBack
  actions : report.success = true → report.actionsPerformed ≠ []

/-- What got somewhere has an action. -/
def Acted (done : List String × Except RunError Progress) : Prop :=
  done.2.isOk = true → done.1 ≠ []

theorem harmless_reportOf (p : Parameters) (elapsed : Nat)
    {done : List String × Except RunError Progress} (acted : Acted done) :
    Harmless (reportOf p elapsed done) := by
  obtain ⟨actions, e | progress⟩ := done
  · cases e with
    | api cause => exact ⟨rfl, rfl, nofun, nofun⟩
    | timeout took limit => exact ⟨rfl, rfl, nofun, nofun⟩
  · have some : actions ≠ [] := acted rfl
    cases progress with
    | triggered => exact ⟨rfl, rfl, nofun, fun _ => some⟩
    | completed c =>
      simp only [reportOf, progressReport]
      split
      · exact ⟨rfl, rfl, nofun, fun _ => List.append_ne_nil_of_left_ne_nil some _⟩
      · exact ⟨rfl, rfl, nofun, nofun⟩

section Execute

variable [Timer] (p : Parameters)

theorem afterOrder_keeps {asked : List Request} (h : Restrained asked)
    (accepted : Except ApiError Unit) :
    Program.Keeps Restrained (fun _ done => Acted done) asked (afterOrder p accepted) := by
  have waits (result : Except RunError Completion) (asked : List Request) :
      Program.Keeps Restrained (fun _ done => Acted done) asked (afterWait p result) := by
    cases result with
    | error e => exact nofun
    | ok report => exact fun _ => List.cons_ne_nil _ _
  rcases accepted with e | -
  · exact nofun
  · simp only [afterOrder]
    split
    · exact fun _ => List.cons_ne_nil _ _
    · have polled : Program.Keeps Restrained (fun asked _ => Restrained asked) asked (wait p) :=
        fun started => poll_keeps _ _ _ _ _ _ h
      exact polled.bind fun asked result _ => waits result asked

theorem drive_keeps :
    Program.Keeps Restrained (fun _ done => Acted done) [] (drive Provider.direct p) := by
  have looked : Restrained [⟨p.run, .getRun⟩] := restrained_nil.quiet rfl Call.noConfusion
  rw [drive_eq]
  refine ⟨looked, fun seen => ?_⟩
  cases seen with
  | error e => exact nofun
  | ok before =>
    simp only [afterLook]
    split
    · have ordered := looked.order (r := ⟨p.run, .rerunFailedJobs⟩) rfl Call.noConfusion
      exact ⟨ordered, fun accepted => afterOrder_keeps p ordered accepted⟩
    · have ordered := looked.order (r := ⟨p.run, .rerun⟩) rfl Call.noConfusion
      exact ⟨ordered, fun accepted => afterOrder_keeps p ordered accepted⟩

/-- An execution is restrained and its report is harmless, whatever is answered. -/
theorem execute_keeps_restrained (defaults : Defaults) (incident : Incident) (plan : Plan) :
    Program.Keeps Restrained (fun _ report => Harmless report) []
      (execute Provider.direct defaults incident plan) := by
  cases resolved : Parameters.resolve incident plan defaults with
  | error fault =>
    rw [execute_unresolved defaults incident plan resolved]
    exact fun started now => ⟨rfl, rfl, nofun, nofun⟩
  | ok p =>
    rw [execute_resolved defaults incident plan resolved]
    intro started
    exact (drive_keeps p).bind fun asked done acted now =>
      harmless_reportOf p (now - started) acted

end Execute

end Remedy.Rerun
