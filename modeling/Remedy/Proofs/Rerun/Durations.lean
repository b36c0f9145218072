import Remedy.Proofs.Rerun.Reports
import Remedy.Proofs.Workflow.Deadlines

/-!
# How long a rerun is waited for

The limit of a wait is a week at most. A wait that ends with the run or with an error is over before
its limit. One that is given up has lasted as many whole intervals as cover the limit, since the
deadline is looked at between two pauses and no pause is cut short. Nothing bounds the interval, so
a wait with a short limit may outlast the week.
-/

namespace Remedy.Rerun

open Json Workflow

/-- The longest wait that a rerun may ask for, in milliseconds. -/
def longestWait : Nat := maxTimeoutSeconds * 1000

namespace Parameters

variable {p : Parameters}

theorem limit_le_longestWait (short : p.timeoutSeconds.toNat ≤ maxTimeoutSeconds) :
    p.limit ≤ longestWait :=
  Nat.mul_le_mul_right 1000 short

variable [Timer]

/-- How long a wait lasts that is given up, in milliseconds: the whole intervals that cover its
limit. -/
def patience (p : Parameters) : Nat := (p.limit + p.interval - 1) / p.interval * p.interval

theorem patience_eq (short : p.limit ≤ longestWait) :
    p.patience = lookCount p.limit p.interval * p.interval := by
  have week : longestWait ≤ clockRange := by decide
  rw [patience, lookCount, Nat.min_eq_left (Nat.le_trans short week)]

theorem limit_le_patience (short : p.limit ≤ longestWait) : p.limit ≤ p.patience := by
  have week : longestWait ≤ clockRange := by decide
  rw [patience_eq short]
  exact le_lookCount_mul (interval_pos _) (Nat.le_trans short week)

theorem patience_lt (short : p.limit ≤ longestWait) : p.patience < p.limit + p.interval := by
  rw [patience_eq short]
  exact lookCount_mul_lt (interval_pos _)

end Parameters

/-- How a wait ends, and when. -/
inductive Lasts [Timer] (p : Parameters) (now : Nat) : Except RunError Completion → Nat → Prop
  | late : Lasts p now (.error (.timeout p.patience p.limit)) (now + p.patience)
  | broken {e : ApiError} {time : Nat} (early : time < now + p.limit) :
      Lasts p now (.error (.api e)) time
  | finished {c : Completion} {time : Nat} (early : time < now + p.limit) : Lasts p now (.ok c) time

section Wait

variable [Timer] {σ : Type} (w : Program.World Request Request.Answer σ) {p : Parameters}
  (now : Nat) (s : σ)

/-- Whatever a provider answers, a wait is over before its limit or after its patience. -/
theorem wait_lasts (short : p.limit ≤ longestWait) :
    let d := Program.run w now (wait p) s
    ∃ result, d.outcome = .ok result ∧ Lasts p now result d.time := by
  intro d
  obtain ⟨result, came, awaited⟩ : ∃ result, d.outcome = .ok result ∧ Awaited p.run now p.limit
      p.interval 0 (lookCount p.limit p.interval) _ result d.time :=
    Provider.waitForCompletion_awaited w p.run p.limit _ now s
  refine ⟨result, came, ?_⟩
  cases found_of_awaited awaited with
  | late _ _ ended =>
    rw [← Parameters.patience_eq short] at ended ⊢
    rw [ended]
    exact .late
  | broken _ _ early => exact .broken early
  | finished _ _ early => exact .finished early

theorem Lasts.time_le {result : Except RunError Completion} {time : Nat}
    (h : Lasts p now result time) (short : p.limit ≤ longestWait) :
    time ≤ now + p.patience := by
  have covered := Parameters.limit_le_patience short
  cases h with
  | late => exact Nat.le_refl _
  | broken early => omega
  | finished early => omega

end Wait

/-! ## A run that does not end -/

/-- A script that shows a run on its way, and goes on showing it. -/
structure Unending (s : Script) : Prop where
  errors : s.errors = []
  cancelled : s.cancelled = false
  rerunTriggered : s.rerunTriggered = false
  going : s.initial.1.isTerminal = false

/-- A look is answered with the run on its way, and changes nothing but the calls
that are counted. -/
theorem Unending.answer {s : Script} (h : Unending s) (run : RunRef) :
    Script.answer ⟨run, .getRun⟩ s =
      (.ok (s.runFor run s.initial), { s with calls := .getRun :: s.calls }) := by
  simp [Script.answer, Script.reply, Script.look, Script.runFor, Call.kind, h.errors, h.cancelled,
    h.rerunTriggered]

theorem Unending.shown {s : Script} (h : Unending s) (run : RunRef) (k : Nat) :
    ends (shown Script.answer run s k) = false := by
  induction k generalizing s with
  | zero =>
    rw [Workflow.shown, h.answer]
    exact h.going
  | succ k ih =>
    have next : Unending { s with calls := .getRun :: s.calls } :=
      ⟨h.errors, h.cancelled, h.rerunTriggered, h.going⟩
    rw [Workflow.shown, h.answer]
    exact ih next

/-- A run that does not end is waited for until the patience is over. -/
theorem Unending.run_wait [Timer] {s : Script} (h : Unending s) {p : Parameters} (now : Nat)
    (short : p.limit ≤ longestWait) :
    let d := Program.run Script.answer now (wait p) s
    d.outcome = .ok (.error (.timeout p.patience p.limit)) ∧ d.time = now + p.patience := by
  intro d
  obtain ⟨result, came, concluded⟩ : ∃ result, d.outcome = .ok result ∧ Concluded p.run now p.limit
      p.interval (Workflow.shown Script.answer p.run s) _ result d.time :=
    Provider.wait_concludes p.run p.limit _ now Script.answer s
  obtain ⟨-, late, time⟩ := concluded.of_going fun k _ => h.shown p.run k
  rw [Parameters.patience_eq short, came, late]
  exact ⟨rfl, time⟩

/-- A wait that ends with the run or with an error is over before its limit, which is a week at
most. One that is given up has lasted the whole intervals that cover the limit, less than one
interval more than that. No wait lasts longer than a week just when these intervals do not. -/
theorem waits_last_whole_intervals [Timer] {incident : Incident} {plan : Plan}
    {defaults : Defaults} {p : Parameters}
    (resolved : Parameters.resolve incident plan defaults = .ok p) :
    (p.limit ≤ longestWait ∧ p.limit ≤ p.patience ∧ p.patience < p.limit + p.interval) ∧
    (∀ {σ : Type} (w : Program.World Request Request.Answer σ) (now : Nat) (s : σ),
      let d := Program.run w now (wait p) s
      ∃ result, d.outcome = .ok result ∧ Lasts p now result d.time) ∧
    ((∀ {σ : Type} (w : Program.World Request Request.Answer σ) (now : Nat) (s : σ),
      (Program.run w now (wait p) s).time ≤ now + longestWait) ↔ p.patience ≤ longestWait) := by
  have short := Parameters.limit_le_longestWait (timeout_of_resolve resolved)
  refine ⟨⟨short, Parameters.limit_le_patience short, Parameters.patience_lt short⟩,
    fun w now s => wait_lasts w now s short, fun bounded => ?_, fun patient σ w now s => ?_⟩
  · let going : Script := { Script.new with initial := (.inProgress, none) }
    have unending : Unending going := ⟨rfl, rfl, rfl, rfl⟩
    have time := bounded Script.answer 0 going
    rw [(unending.run_wait 0 short).2] at time
    omega
  · obtain ⟨result, -, lasts⟩ := wait_lasts w now s short
    have time := lasts.time_le now short
    omega

section ThirtyYears

attribute [local instance] Timer.thirtyYears

/-- With looks every eleven seconds a wait of a week is given up two seconds late. -/
theorem waits_last_whole_intervals_past_week :
    let incident : Incident := .new ⟨7⟩ ⟨1700000000, 0⟩ .github "flaky_test"
    let plan : Plan := ((((Plan.new .rerunWorkflow "").withParameter "repo"
      (.str "acme/widgets")).withParameter "run_id" (natural 42)).withParameter "timeout_seconds"
      (natural 604800)).withParameter "poll_interval_seconds" (natural 11)
    let p : Parameters := ⟨⟨"acme", "widgets", 42⟩, true, 604800, 11, true⟩
    Parameters.resolve incident plan .standard = .ok p ∧ p.patience = longestWait + 2000 ∧
      ¬ ∀ {σ : Type} (w : Program.World Request Request.Answer σ) (now : Nat) (s : σ),
        (Program.run w now (wait p) s).time ≤ now + longestWait := by
  intro incident plan p
  have resolved : Parameters.resolve incident plan .standard = .ok p := by rfl
  have patience : p.patience = longestWait + 2000 := by decide
  obtain ⟨-, -, bounded⟩ := waits_last_whole_intervals resolved
  refine ⟨resolved, patience, fun all => ?_⟩
  have within := bounded.1 all
  omega

/-- The limit is a second, and the first pause is a second longer than a week. -/
theorem long_interval_outlasts_week :
    let incident : Incident := .new ⟨7⟩ ⟨1700000000, 0⟩ .github "flaky_test"
    let plan : Plan := ((((Plan.new .rerunWorkflow "").withParameter "repo"
      (.str "acme/widgets")).withParameter "run_id" (natural 42)).withParameter "timeout_seconds"
      (natural 1)).withParameter "poll_interval_seconds" (natural 604801)
    let p : Parameters := ⟨⟨"acme", "widgets", 42⟩, true, 1, 604801, true⟩
    let script : Script := { Script.new with initial := (.inProgress, none) }
    let d := Program.run Script.answer 0 (wait p) script
    Parameters.resolve incident plan .standard = .ok p ∧
      d.outcome = .ok (.error (.timeout 604801000 1000)) ∧ d.time = 604801000 ∧
      longestWait < d.time := by
  intro incident plan p script d
  have unending : Unending script := ⟨rfl, rfl, rfl, rfl⟩
  have limit : p.limit = 1000 := by decide
  have patience : p.patience = 604801000 := by decide
  have short : p.limit ≤ longestWait := by decide
  obtain ⟨outcome, time⟩ := unending.run_wait 0 short
  rw [patience, limit] at outcome
  rw [patience, Nat.zero_add] at time
  exact ⟨by rfl, outcome, time, time ▸ by decide⟩

end ThirtyYears

end Remedy.Rerun
