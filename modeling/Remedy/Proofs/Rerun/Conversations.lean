import Remedy.Proofs.Workflow.Waiting
import Remedy.Rerun.Remediator

/-!
# The conversation of a rerun

Whatever a provider answers, a rerun puts its requests in one order, and what it reports follows
from the answers. There is one case for each way it can end.
-/

namespace Remedy.Rerun

open Json Workflow

variable [Timer] {σ : Type}

/-! ## What is asked -/

/-- The request for a rerun. -/
def order (p : Parameters) (time : Nat) (answer : Except ApiError Unit) : Exchange :=
  if p.failedOnly then ⟨time, ⟨p.run, .rerunFailedJobs⟩, answer⟩
  else ⟨time, ⟨p.run, .rerun⟩, answer⟩

/-- The limit of a wait in milliseconds. -/
def Parameters.limit (p : Parameters) : Nat := p.timeoutSeconds.toNat * 1000

/-- The time between two looks in milliseconds. -/
def Parameters.interval (p : Parameters) : Nat :=
  Provider.interval (p.pollIntervalSeconds.toNat * 1000)

/-- The ways in which a rerun can go that begins now: what is asked and answered, what was done and
how far it came, and when it ends. -/
inductive Course (p : Parameters) (now : Nat) :
    List Exchange → List String × Except RunError Progress → Nat → Prop
  | unseen {e : ApiError} : Course p now [look p.run now (.error e)] ([], .error (.api e)) now
  | refused {before : Run} {e : ApiError} :
      Course p now [look p.run now (.ok before), order p now (.error e)] ([], .error (.api e)) now
  | triggered {before : Run} (hasty : p.waitForCompletion = false) :
      Course p now [look p.run now (.ok before), order p now (.ok ())]
        ([rerunAction p.failedOnly, "triggered rerun"], .ok .triggered) now
  | awaited {before : Run} {rest : List Exchange} {result : Except RunError Completion} {time : Nat}
      (waits : p.waitForCompletion = true)
      (awaited : Awaited p.run now p.limit p.interval 0 (lookCount p.limit p.interval) rest result
        time) :
      Course p now (look p.run now (.ok before) :: order p now (.ok ()) :: rest)
        ([rerunAction p.failedOnly], result.map .completed) time

/-- The wait for the end of a run. -/
def wait (p : Parameters) : Conversation (Except RunError Completion) :=
  Provider.direct.waitForCompletion p.run p.limit (p.pollIntervalSeconds.toNat * 1000)

/-- What follows the wait. -/
def afterWait (p : Parameters) :
    Except RunError Completion → Conversation (List String × Except RunError Progress)
  | .error e => .done ([rerunAction p.failedOnly], .error e)
  | .ok report => .done ([rerunAction p.failedOnly], .ok (.completed report))

/-- What follows the answer to the request for a rerun. -/
def afterOrder (p : Parameters) :
    Except ApiError Unit → Conversation (List String × Except RunError Progress)
  | .error e => .done ([], .error (.api e))
  | .ok () =>
    if !p.waitForCompletion then
      .done ([rerunAction p.failedOnly, "triggered rerun"], .ok .triggered)
    else (wait p).bind (afterWait p)

/-- What follows the first look. -/
def afterLook (p : Parameters) :
    Except ApiError Run → Conversation (List String × Except RunError Progress)
  | .error e => .done ([], .error (.api e))
  | .ok _ =>
    if p.failedOnly then .ask ⟨p.run, .rerunFailedJobs⟩ (afterOrder p)
    else .ask ⟨p.run, .rerun⟩ (afterOrder p)

theorem drive_eq (p : Parameters) :
    drive Provider.direct p =
      (.ask ⟨p.run, .getRun⟩ (afterLook p) :
        Conversation (List String × Except RunError Progress)) := by
  obtain ⟨run, waits, timeout, poll, failedOnly⟩ := p
  refine congrArg (Program.ask _) (funext fun seen => ?_)
  cases seen with
  | error e => rfl
  | ok before =>
    cases failedOnly with
    | true =>
      refine congrArg (Program.ask _) (funext fun accepted => ?_)
      rcases accepted with e | -
      · rfl
      · cases waits <;> rfl
    | false =>
      refine congrArg (Program.ask _) (funext fun accepted => ?_)
      rcases accepted with e | -
      · rfl
      · cases waits <;> rfl

section Drive

variable (w : Program.World Request Request.Answer σ) (p : Parameters) (now : Nat) (s : σ)

/-- A rerun that was accepted: it is waited for, or it is not. -/
theorem afterOrder_course (before : Run) (accepted : Except ApiError Unit) :
    ∃ done, (Program.run w now (afterOrder p accepted) s).outcome = .ok done ∧
      Course p now (look p.run now (.ok before) :: order p now accepted ::
        Program.transcript w now (afterOrder p accepted) s) done
        (Program.run w now (afterOrder p accepted) s).time := by
  rcases accepted with e | -
  · exact ⟨_, rfl, .refused⟩
  · cases waits : p.waitForCompletion with
    | false =>
      simp only [afterOrder, waits]
      exact ⟨_, rfl, .triggered waits⟩
    | true =>
      obtain ⟨result, came, awaited⟩ : ∃ result,
          (Program.run w now (wait p) s).outcome = .ok result ∧ _ :=
        Provider.waitForCompletion_awaited w p.run p.limit _ now s
      have goes := Program.run_bind w (wait p) (afterWait p) came
      have asks := Program.transcript_bind w (wait p) (afterWait p) came
      have same : afterOrder p (.ok ()) = (wait p).bind (afterWait p) := by
        simp only [afterOrder, waits]
        rfl
      rw [same, goes, asks]
      cases result with
      | error e =>
        refine ⟨_, rfl, ?_⟩
        simp only [afterWait, Program.transcript, List.append_nil]
        exact .awaited waits awaited
      | ok report =>
        refine ⟨_, rfl, ?_⟩
        simp only [afterWait, Program.transcript, List.append_nil]
        exact .awaited waits awaited

/-- A run that was seen is ordered to run again. -/
theorem afterLook_orders (before : Run) : ∃ accepted s',
    Program.run w now (afterLook p (.ok before)) s = Program.run w now (afterOrder p accepted) s' ∧
      Program.transcript w now (afterLook p (.ok before)) s =
        order p now accepted :: Program.transcript w now (afterOrder p accepted) s' := by
  simp only [afterLook, order]
  split
  · exact ⟨_, _, rfl, rfl⟩
  · exact ⟨_, _, rfl, rfl⟩

/-- Whatever the provider answers, the rerun goes one of its ways. -/
theorem drive_course :
    ∃ done, (Program.run w now (drive Provider.direct p) s).outcome = .ok done ∧
      Course p now (Program.transcript w now (drive Provider.direct p) s) done
        (Program.run w now (drive Provider.direct p) s).time := by
  obtain ⟨seen, first⟩ : ∃ seen : Except ApiError Run, (w ⟨p.run, .getRun⟩ s).1 = seen := ⟨_, rfl⟩
  have goes : Program.run w now (drive Provider.direct p) s =
      Program.run w now (afterLook p seen) (w ⟨p.run, .getRun⟩ s).2 := by
    rw [drive_eq, ← first]
    rfl
  have asks : Program.transcript w now (drive Provider.direct p) s = look p.run now seen ::
      Program.transcript w now (afterLook p seen) (w ⟨p.run, .getRun⟩ s).2 := by
    rw [drive_eq, ← first]
    rfl
  rw [goes, asks]
  cases seen with
  | error e => exact ⟨_, rfl, .unseen⟩
  | ok before =>
    obtain ⟨accepted, s', goes, asks⟩ := afterLook_orders w p now (w ⟨p.run, .getRun⟩ s).2 before
    rw [goes, asks]
    exact afterOrder_course w p now s' before accepted

end Drive

/-! ## What is reported -/

/-- The report of a rerun after so many milliseconds. -/
def reportOf (p : Parameters) (elapsed : Nat) : List String × Except RunError Progress → Report
  | (actions, .ok progress) => progressReport p.run actions (seconds elapsed) progress
  | (actions, .error e) =>
    (failureReport p.run actions e (seconds elapsed)).withMetadata "run" (.str p.run.text)

section Execute

variable (w : Program.World Request Request.Answer σ) (defaults : Defaults) (incident : Incident)
  (plan : Plan) (now : Nat) (s : σ)

/-- Without parameters nothing is asked. -/
theorem execute_unresolved {fault : Fault}
    (unresolved : Parameters.resolve incident plan defaults = .error fault) :
    execute Provider.direct defaults incident plan =
      (.clock fun started => .clock fun now => .done
        (.ofFault "Cannot rerun workflow: invalid parameters" fault (seconds (now - started))
          false) : Conversation Report) := by
  simp only [execute, unresolved]
  rfl

theorem execute_resolved {p : Parameters}
    (resolved : Parameters.resolve incident plan defaults = .ok p) :
    execute Provider.direct defaults incident plan =
      (.clock fun started => (drive Provider.direct p).bind fun done =>
        .clock fun now => .done (reportOf p (now - started) done) : Conversation Report) := by
  simp only [execute, resolved]
  refine congrArg Program.clock (funext fun started => ?_)
  change Program.bind (drive Provider.direct p) _ = _
  refine congrArg (Program.bind _) (funext fun done => ?_)
  obtain ⟨actions, e | progress⟩ := done <;> rfl

theorem execute_course {p : Parameters}
    (resolved : Parameters.resolve incident plan defaults = .ok p) :
    let d := Program.run w now (execute Provider.direct defaults incident plan) s
    ∃ done, d.outcome = .ok (reportOf p (d.time - now) done) ∧
      Course p now (Program.transcript w now (execute Provider.direct defaults incident plan) s)
        done d.time := by
  intro d
  obtain ⟨done, came, course⟩ := drive_course w p now s
  let finish (done : List String × Except RunError Progress) : Conversation Report :=
    .clock fun ended => .done (reportOf p (ended - now) done)
  have goes := Program.run_bind w _ finish came
  have asks := Program.transcript_bind w _ finish came
  have same : d = Program.run w now ((drive Provider.direct p).bind finish) s := by
    simp only [d, execute_resolved _ _ _ resolved]
    rfl
  have said : Program.transcript w now (execute Provider.direct defaults incident plan) s =
      Program.transcript w now ((drive Provider.direct p).bind finish) s := by
    rw [execute_resolved _ _ _ resolved]
    rfl
  rw [said, same, goes, asks]
  refine ⟨done, rfl, ?_⟩
  simp only [finish, Program.run, Program.transcript, List.append_nil]
  exact course

end Execute

end Remedy.Rerun
