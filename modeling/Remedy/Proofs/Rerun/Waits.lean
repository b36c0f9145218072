import Mathlib.Tactic.IntervalCases
import Remedy.Proofs.Rerun.Durations

/-!
# Waits, exactly

What a wait comes to is said in one theorem, for every provider, limit and interval. Two things may
be smaller than they should be: the looks are counted in 32 bits, and a timer cuts the intervals
that it cannot hold. Parameters that are resolved ask for a week at most, which keeps the count in
its bits.
-/

namespace Remedy.Rerun

open Json Workflow Program

variable {σ : Type}

/-! ## The looks of resolved parameters -/

/-- The most looks that a wait of a week can have. -/
def mostLooks : Nat := longestWait / minPollInterval

theorem lookCount_le_mostLooks [Timer] {limit : Nat} (short : limit ≤ longestWait) (asked : Nat) :
    lookCount limit (Provider.interval asked) ≤ mostLooks := by
  have floor := le_interval asked
  have within : lookCount limit (Provider.interval asked) * Provider.interval asked <
      limit + Provider.interval asked := lookCount_mul_lt (interval_pos asked)
  generalize lookCount limit (Provider.interval asked) = looks at within ⊢
  have most : mostLooks = 6048000 := by decide
  have week : longestWait = 604800000 := by decide
  rcases Nat.eq_zero_or_pos looks with rfl | some
  · exact Nat.zero_le _
  · -- all looks but the last are a whole interval before the last one, which is in time
    obtain ⟨n, rfl⟩ := Nat.exists_eq_succ_of_ne_zero (Nat.ne_of_gt some)
    have apart : n * minPollInterval ≤ n * Provider.interval asked := Nat.mul_le_mul_left n floor
    rw [Nat.succ_mul] at within
    rw [minPollInterval] at apart
    omega

theorem toNat_ofNat_of_le_mostLooks {n : Nat} (few : n ≤ mostLooks) : (UInt32.ofNat n).toNat = n :=
  UInt32.toNat_ofNat_of_lt (Nat.lt_of_le_of_lt few (by decide))

section Resolved

variable [Timer] {p : Parameters}

/-- At a provider that answers at once a look that comes before the limit has a number that is told
as it is. -/
theorem number_of_look (short : p.limit ≤ longestWait) {k : Nat}
    (early : k * p.interval < p.limit) :
    k + 1 ≤ mostLooks ∧ (UInt32.ofNat (k + 1)).toNat = k + 1 := by
  have week : longestWait ≤ clockRange := by decide
  have among : k < lookCount p.limit p.interval :=
    (Provider.lt_lookCount_iff (interval_pos _) (Nat.le_trans short week) k).2 early
  have few : k + 1 ≤ mostLooks :=
    Nat.le_trans (Nat.succ_le_of_lt among) (lookCount_le_mostLooks short _)
  exact ⟨few, toNat_ofNat_of_le_mostLooks few⟩

/-- The wait for the end of a run, at a provider that takes its time. -/
def slowWait (p : Parameters) : Program Request Timed (Except RunError Completion) :=
  Provider.slow.waitForCompletion p.run p.limit (p.pollIntervalSeconds.toNat * 1000)

/-- However long the answers take, the looks are few and counted as they are. -/
theorem slowWait_counts (short : p.limit ≤ longestWait) (w : World Request Timed σ) (now : Nat)
    (s : σ) :
    let log := transcript w now (slowWait p) s
    looksAmong log ≤ mostLooks ∧
      ∀ c, (Program.run w now (slowWait p) s).outcome = .ok (.ok c) →
        c.polls.toNat = looksAmong log := by
  intro log
  have week : longestWait ≤ clockRange := by decide
  obtain ⟨result, came, within, -, endured⟩ := Provider.wait_endures p.run p.limit
    (p.pollIntervalSeconds.toNat * 1000) now (Nat.le_trans short week) w s
  have few : looksAmong log ≤ mostLooks :=
    Nat.le_trans within (lookCount_le_mostLooks short _)
  refine ⟨few, fun c ended => ?_⟩
  cases came.symm.trans ended
  cases endured with
  | finished terminal reports listed =>
    rw [reports.polls, UInt32.zero_add]
    exact toNat_ofNat_of_le_mostLooks few

end Resolved

/-! ## Waits -/

/-- A wait at a provider that answers at once looks when it begins and after each interval, as long
as that is before the deadline. The first answer that ends it is the one that it reports, with the
number of its look, as 32 bits hold it, and the time since the begin; without such an answer the
wait is given up when as many intervals are over as cover the limit. At a provider that takes its
time no look is started at or after the deadline, a wait that is given up has lasted as long as its
limit, the looks are counted, and what is reported of the jobs is what the provider says of them.
The interval is what was asked for, but no less than the shortest one, as long as the timer holds
that. For parameters that were resolved the limit is a week at most, and no count of looks is too
large for its bits. -/
theorem wait_is_exact [Timer] (run : RunRef) (limit asked now : Nat)
    (representable : now + limit ≤ clockRange) :
    let gap := Provider.interval asked
    let count := (limit + gap - 1) / gap
    gap = min (max asked minPollInterval) (Timer.longest * 1000) ∧
    (asked ≤ 68719476000 → gap = max asked minPollInterval) ∧
    (∀ {σ : Type} (w : World Request Request.Answer σ) (s : σ),
      let p : Conversation (Except RunError Completion) :=
        Provider.direct.waitForCompletion run limit asked
      let log := transcript w now p s
      let done := Program.run w now p s
      let answers := shown w run s
      (∀ k, k * gap < limit → ends (answers k) = true → (∀ j < k, ends (answers j) = false) →
        ∃ listed result, log = looks run gap now ((List.range (k + 1)).map answers) ++ listed ∧
          done.outcome = .ok result ∧ done.time = now + k * gap ∧
          Reported run (now + k * gap) (UInt32.ofNat (k + 1)) (k * gap) (answers k) listed
            result) ∧
      ((∀ k, k * gap < limit → ends (answers k) = false) →
        log = looks run gap now ((List.range count).map answers) ∧
          (∀ k, k < count ↔ k * gap < limit) ∧
          done.outcome = .ok (.error (.timeout (count * gap) limit)) ∧
          done.time = now + count * gap ∧ limit ≤ count * gap)) ∧
    (∀ {σ : Type} (w : World Request Timed σ) (s : σ),
      let p : Program Request Timed (Except RunError Completion) :=
        Provider.slow.waitForCompletion run limit asked
      let log := transcript w now p s
      let done := Program.run w now p s
      LooksBefore (now + limit) log ∧ looksAmong log ≤ count ∧
        ∃ result, done.outcome = .ok result ∧
          Endured run limit (done.time - now) (UInt32.ofNat (looksAmong log)) log result) ∧
    (∀ {incident : Incident} {plan : Plan} {defaults : Defaults} {p : Parameters},
      Parameters.resolve incident plan defaults = .ok p →
        p.limit ≤ longestWait ∧ longestWait ≤ clockRange ∧ mostLooks < 2 ^ 32 ∧
        (∀ k, k * p.interval < p.limit →
          k + 1 ≤ mostLooks ∧ (UInt32.ofNat (k + 1)).toNat = k + 1) ∧
        ∀ {σ : Type} (w : World Request Timed σ) (now : Nat) (s : σ),
          let log := transcript w now (slowWait p) s
          looksAmong log ≤ mostLooks ∧
            ∀ c, (Program.run w now (slowWait p) s).outcome = .ok (.ok c) →
              c.polls.toNat = looksAmong log) := by
  intro gap count
  have pos : 0 < gap := interval_pos asked
  have short : limit ≤ clockRange := by omega
  have looksFit : lookCount limit gap = count := by
    rw [lookCount, Nat.min_eq_left short]
  have within := Provider.lt_lookCount_iff pos short
  have cover := le_lookCount_mul pos short
  rw [looksFit] at within cover
  refine ⟨rfl, interval_of_le, ?_, ?_, ?_⟩
  · intro σ w s p log done answers
    obtain ⟨result, came, concluded⟩ : ∃ result, done.outcome = .ok result ∧
        Concluded run now limit gap answers log result done.time :=
      Provider.wait_concludes run limit asked now w s
    constructor
    · intro k early at_ first
      have inTime : k < lookCount limit gap := looksFit ▸ (within k).2 early
      obtain ⟨listed, looked, time, reported⟩ := concluded.of_end inTime first at_
      exact ⟨listed, result, looked, came, time, reported⟩
    · intro going
      obtain ⟨looked, late, time⟩ := concluded.of_going going
      rw [late] at came
      rw [looksFit] at looked came time
      exact ⟨looked, within, came, time, cover⟩
  · intro σ w s p log done
    obtain ⟨result, came, few, before, endured⟩ :=
      Provider.wait_endures run limit asked now short w s
    rw [UInt32.zero_add] at endured
    exact ⟨before, looksFit ▸ few, result, came, endured⟩
  · intro incident plan defaults p resolved
    have week := Parameters.limit_le_longestWait (timeout_of_resolve resolved)
    exact ⟨week, by decide, by decide, fun k => number_of_look week,
      fun w now s => slowWait_counts week w now s⟩

section ThirtyYears

attribute [local instance] Timer.thirtyYears

/-- The rerun of a run is seen queued and on its way, and then as a failure. One that
is not over at the third look is given up after three tenths of a second when the
limit is a quarter of a second. -/
theorem wait_is_exact_for_three_looks :
    let going : Script := { Script.completesWith .failure with rerunTriggered := true }
    let stuck : Script := { Script.neverCompletes with rerunTriggered := true }
    let p : Parameters := ⟨⟨"acme", "widgets", 5⟩, true, 600, 10, true⟩
    let wait (limit : Nat) : Conversation (Except RunError Completion) :=
      Provider.direct.waitForCompletion p.run limit 0
    let incident : Incident := .new ⟨7⟩ ⟨1700000000, 0⟩ .github "flaky_test"
    let plan : Plan := ((Plan.new .rerunWorkflow "").withParameter "repo"
      (.str "acme/widgets")).withParameter "run_id" (natural 5)
    (∃ c, (Program.run Script.answer 0 (wait 1000) going).outcome = .ok (.ok c) ∧
      (Program.run Script.answer 0 (wait 1000) going).time = 200 ∧ c.polls = 3 ∧ c.elapsed = 200 ∧
      c.success = false ∧ c.failureReason.isSome = true ∧
      (transcript Script.answer 0 (wait 1000) going).map (fun x => (x.time, x.request.call)) =
        [(0, .getRun), (100, .getRun), (200, .getRun), (200, .listJobs)]) ∧
    ((Program.run Script.answer 0 (wait 250) stuck).outcome =
        .ok (.error (.timeout 300 250)) ∧
      (Program.run Script.answer 0 (wait 250) stuck).time = 300 ∧
      (transcript Script.answer 0 (wait 250) stuck).length = 3) ∧
    Parameters.resolve incident plan .standard = .ok p ∧ p.limit ≤ longestWait := by
  intro going stuck p wait incident plan
  have resolved : Parameters.resolve incident plan .standard = .ok p := by rfl
  refine ⟨?_, ?_, resolved, ?_⟩
  · obtain ⟨-, -, atOnce, -⟩ := wait_is_exact p.run 1000 0 0 (by decide)
    have pending (j : Nat) (early : j < 2) : ends (shown Script.answer p.run going j) = false := by
      rcases Nat.lt_succ_iff_lt_or_eq.1 early with first | rfl
      · obtain rfl := Nat.lt_one_iff.1 first
        rfl
      · rfl
    obtain ⟨found, -⟩ := atOnce Script.answer going
    obtain ⟨listed, result, -, came, time, reported⟩ := found 2 (by decide) (by rfl) pending
    obtain ⟨last, shows, failed⟩ : ∃ last, shown Script.answer p.run going 2 = .ok last ∧
        last.conclusion = some .failure := ⟨_, rfl, rfl⟩
    rw [shows] at reported
    cases reported with
    | @ended _ jobs c reports =>
      have unsuccessful : c.success = false := by
        rw [Bool.eq_false_iff, ne_eq, reports.success, failed]
        decide
      exact ⟨c, came, time, reports.polls, reports.elapsed, unsuccessful,
        reports.reason unsuccessful, by rfl⟩
  · obtain ⟨-, -, atOnce, -⟩ := wait_is_exact p.run 250 0 0 (by decide)
    have gap : Provider.interval 0 = 100 := by decide
    have never (k : Nat) (early : k * Provider.interval 0 < 250) :
        ends (shown Script.answer p.run stuck k) = false := by
      rw [gap] at early
      have few : k < 3 := by omega
      interval_cases k <;> rfl
    obtain ⟨-, given⟩ := atOnce Script.answer stuck
    obtain ⟨looked, -, came, time, -⟩ := given never
    exact ⟨came, time, by rfl⟩
  · obtain ⟨-, -, -, -, parameters⟩ := wait_is_exact p.run 1000 0 0 (by decide)
    exact (parameters resolved).1

end ThirtyYears

/-! ## Where a count starts again, and where an interval is cut -/

/-- A run that is on its way for so many looks, and then at its end. -/
def runAfter (n : Nat) (run : RunRef) (looked : Nat) : Run :=
  ⟨run.runId, none, if looked < n then .inProgress else .completed, some .success, none, none, none⟩

/-- A provider that shows such a run. -/
def overAfter (n : Nat) : World Request Request.Answer Nat
  | ⟨run, .getRun⟩, looked => (.ok (runAfter n run looked), looked + 1)
  | ⟨_, _⟩, looked => (.error (.network "no answer"), looked)

theorem shown_overAfter (n : Nat) (run : RunRef) (k looked : Nat) :
    shown (overAfter n) run looked k = .ok (runAfter n run (looked + k)) := by
  induction k generalizing looked with
  | zero => rfl
  | succ k ih =>
    have next := ih (looked + 1)
    rw [Nat.add_right_comm] at next
    exact next

theorem isTerminal_runAfter (n : Nat) (run : RunRef) (looked : Nat) :
    (runAfter n run looked).status.isTerminal = !decide (looked < n) := by
  by_cases going : looked < n
  · simp only [runAfter, going, if_true, decide_true]
    rfl
  · simp only [runAfter, going, if_false, decide_false]
    rfl

/-- A wait says the number of the look that ends it as far as 32 bits hold it. -/
theorem wait_overAfter [Timer] (run : RunRef) {n : Nat} (short : (n + 1) * 100 ≤ clockRange) :
    let p : Conversation (Except RunError Completion) :=
      Provider.direct.waitForCompletion run ((n + 1) * 100) 100
    ∃ c, (Program.run (overAfter n) 0 p 0).outcome = .ok (.ok c) ∧
      c.polls = UInt32.ofNat (n + 1) ∧ c.elapsed = n * 100 := by
  intro p
  have gap : Provider.interval 100 = 100 := interval_of_le (by decide)
  obtain ⟨result, came, concluded⟩ : ∃ result,
      (Program.run (overAfter n) 0 p 0).outcome = .ok result ∧ Concluded run 0 ((n + 1) * 100)
        (Provider.interval 100) (shown (overAfter n) run 0) _ result _ :=
    Provider.wait_concludes run ((n + 1) * 100) 100 0 (overAfter n) 0
  have shows (j : Nat) : shown (overAfter n) run 0 j = .ok (runAfter n run j) := by
    rw [shown_overAfter, Nat.zero_add]
  have ends_iff (j : Nat) : ends (shown (overAfter n) run 0 j) = !decide (j < n) := by
    rw [shows]
    exact isTerminal_runAfter n run j
  have within : n < lookCount ((n + 1) * 100) 100 :=
    (Provider.lt_lookCount_iff (by decide) short n).2 (by omega)
  rw [gap] at concluded
  obtain ⟨listed, -, -, reported⟩ := concluded.of_end within
    (fun j early => by simp [ends_iff, early]) (by simp [ends_iff])
  rw [shows] at reported
  cases reported with
  | ended reports => exact ⟨_, came, reports.polls, reports.elapsed⟩

/-- An interval that the timer does not hold is cut, and a wait is given up when the longest pause
is over. -/
theorem wait_cut [Timer] (run : RunRef) {limit asked : Nat} (some : 0 < limit)
    (short : limit ≤ Timer.longest * 1000) (long : Timer.longest * 1000 ≤ asked)
    {script : Script} (unending : Unending script) :
    let p : Conversation (Except RunError Completion) :=
      Provider.direct.waitForCompletion run limit asked
    (Program.run Script.answer 0 p script).outcome =
      .ok (.error (.timeout (Timer.longest * 1000) limit)) := by
  intro p
  have gap : Provider.interval asked = Timer.longest * 1000 := by
    have least := Timer.least
    rw [Provider.interval, Timer.lasts, minPollInterval]
    omega
  have once : lookCount limit (Timer.longest * 1000) = 1 := by
    have ticks : 0 < min limit clockRange := Nat.lt_min.2 ⟨some, by decide⟩
    have few : min limit clockRange ≤ Timer.longest * 1000 :=
      Nat.le_trans (Nat.min_le_left ..) short
    exact Nat.div_eq_of_lt_le (by omega) (by omega)
  obtain ⟨result, came, concluded⟩ : ∃ result, (Program.run Script.answer 0 p script).outcome =
      .ok result ∧ Concluded run 0 limit (Provider.interval asked)
        (shown Script.answer run script) _
        result _ := Provider.wait_concludes run limit asked 0 Script.answer script
  obtain ⟨-, late, -⟩ := concluded.of_going fun k _ => unending.shown run k
  rw [came, late, gap, once, Nat.one_mul]

section ThirtyYears

attribute [local instance] Timer.thirtyYears

/-- A run that is over at the look with the number 2 ^ 32 is reported after no look at all. And with
a timer that holds thirty years, a wait of one second that looks once and then sleeps is over after
thirty years, whatever interval was asked for. -/
theorem wait_is_bounded_by_word_and_timer :
    let run : RunRef := ⟨"acme", "widgets", 5⟩
    let wait (limit asked : Nat) : Conversation (Except RunError Completion) :=
      Provider.direct.waitForCompletion run limit asked
    let stuck : Script := { Script.new with initial := (.inProgress, none) }
    let asked := 1000000000000000
    let gap := max asked minPollInterval
    (∃ c, (Program.run (overAfter (2 ^ 32 - 1)) 0 (wait (2 ^ 32 * 100) 100) 0).outcome =
        .ok (.ok c) ∧
      c.polls = 0 ∧ c.elapsed = (2 ^ 32 - 1) * 100) ∧
    (∀ k, k * gap < 1000 → ends (shown Script.answer run stuck k) = false) ∧
      (Program.run Script.answer 0 (wait 1000 asked) stuck).outcome =
        .ok (.error (.timeout 946080000000 1000)) ∧
      (1000 + gap - 1) / gap * gap = 1000000000000000 := by
  intro run wait stuck asked gap
  have unending : Unending stuck := ⟨rfl, rfl, rfl, rfl⟩
  refine ⟨?_, fun k _ => unending.shown run k, ?_, by decide⟩
  · exact wait_overAfter run (n := 2 ^ 32 - 1) (by decide)
  · exact wait_cut run (by decide) (by decide) (by decide) unending

end ThirtyYears

end Remedy.Rerun
