import Remedy.Proofs.Decimal.Whole
import Remedy.Proofs.Rerun.Conversations
import Remedy.Proofs.Rerun.Resolution
import Remedy.Workflow.Script

/-!
# What a rerun reports

The report of a rerun follows from the conversation with the provider: whether the rerun was
accepted, and how the run was found at its end, if it was found there before the deadline. An
accepted rerun is among the actions however it ends.
-/

namespace Remedy.Rerun

open Json Workflow

variable {σ : Type}

/-! ## What a conversation says -/

/-- The run that a look found. -/
def seen? : Exchange → Option Run
  | ⟨_, ⟨_, .getRun⟩, answer⟩ => answer.toOption
  | _ => none

/-- A request for a rerun that the provider took. -/
def accepts : Exchange → Bool
  | ⟨_, ⟨_, .rerun⟩, answer⟩ | ⟨_, ⟨_, .rerunFailedJobs⟩, answer⟩ => answer.isOk
  | _ => false

def Accepted (log : List Exchange) : Prop := ∃ x ∈ log, accepts x = true

/-- The first run at its end that was found after the request for a rerun. -/
def finished? (log : List Exchange) : Option Run :=
  ((log.drop 2).filterMap seen?).find? (·.status.isTerminal)

/-- The jobs of the run were asked for. -/
def Listed (log : List Exchange) : Prop := ∃ x ∈ log, x.request.call = .listJobs

section Log

variable (run : RunRef) (time interval : Nat)

@[simp] theorem seen?_look (answer : Except ApiError Run) :
    seen? (look run time answer) = answer.toOption := rfl

@[simp] theorem accepts_look (answer : Except ApiError Run) :
    accepts (look run time answer) = false := rfl

@[simp] theorem accepts_order (p : Parameters) (answer : Except ApiError Unit) :
    accepts (order p time answer) = answer.isOk := by
  rw [order]
  split <;> rfl

theorem order_call (p : Parameters) (answer : Except ApiError Unit) :
    (order p time answer).request.call ≠ .listJobs := by
  rw [order]
  split <;> exact Call.noConfusion

/-- Looks are nothing but looks, each at its time. -/
theorem mem_looks {answers : List (Except ApiError Run)} {x : Exchange}
    (h : x ∈ looks run interval time answers) :
    ∃ k < answers.length, ∃ answer, x = look run (time + k * interval) answer := by
  induction answers generalizing time with
  | nil => cases h
  | cons answer rest ih =>
    rcases List.mem_cons.1 h with rfl | later
    · exact ⟨0, Nat.succ_pos _, answer, by simp⟩
    · obtain ⟨k, lt, answer', rfl⟩ := ih (time + interval) later
      refine ⟨k + 1, Nat.succ_lt_succ lt, answer', ?_⟩
      rw [Nat.succ_mul, Nat.add_assoc, Nat.add_comm interval]

theorem filterMap_looks (answers : List (Except ApiError Run)) :
    (looks run interval time answers).filterMap seen? = answers.filterMap Except.toOption := by
  induction answers generalizing time with
  | nil => rfl
  | cons answer rest ih =>
    rw [looks, List.filterMap_cons, List.filterMap_cons, seen?_look, ih]

/-- Runs that are on their way are no end, however many are seen. -/
theorem find_looks {pending : List Run} (going : ∀ r ∈ pending, r.status.isTerminal = false)
    (last : List (Except ApiError Run)) :
    ((looks run interval time (pending.map .ok ++ last)).filterMap seen?).find?
        (·.status.isTerminal) =
      (last.filterMap Except.toOption).find? (·.status.isTerminal) := by
  have same : (pending.map Except.ok).filterMap (@Except.toOption ApiError Run) = pending := by
    simp [List.filterMap_map, Function.comp_def, Except.toOption]
  have none : pending.find? (·.status.isTerminal) = none := by
    simpa using going
  rw [filterMap_looks, List.filterMap_append, same, List.find?_append, none, Option.none_or]

theorem not_listed_looks (answers : List (Except ApiError Run)) :
    ¬ Listed (looks run interval time answers) := by
  rintro ⟨x, among, listJobs⟩
  obtain ⟨k, -, answer, rfl⟩ := mem_looks run time interval among
  cases listJobs

theorem filterMap_listing (last : Run) (jobs : Except ApiError (List Job)) :
    (listing run time last jobs).filterMap seen? = [] := by
  rw [listing]
  split <;> rfl

theorem listed_listing (last : Run) (jobs : Except ApiError (List Job)) :
    Listed (listing run time last jobs) ↔ last.conclusion ≠ some .success := by
  rw [listing]
  split
  · next success => simp [Listed, success]
  · next failed => simp [Listed, failed]

end Log

theorem listed_append (log more : List Exchange) :
    Listed (log ++ more) ↔ Listed log ∨ Listed more := by
  simp [Listed, or_and_right, exists_or]

/-! ## What a wait comes to -/

/-- What a wait says of its looks, and of the time at which it ended. -/
inductive Found (started limit interval : Nat) (rest : List Exchange) (time : Nat) :
    Except RunError Completion → Prop
  | late (found : (rest.filterMap seen?).find? (·.status.isTerminal) = none)
      (unlisted : ¬ Listed rest) (ended : time = started + lookCount limit interval * interval) :
      Found started limit interval rest time
        (.error (.timeout (lookCount limit interval * interval) limit))
  | broken {e : ApiError} (found : (rest.filterMap seen?).find? (·.status.isTerminal) = none)
      (unlisted : ¬ Listed rest) (early : time < started + limit) :
      Found started limit interval rest time (.error (.api e))
  | finished {c : Completion} {last : Run}
      (found : (rest.filterMap seen?).find? (·.status.isTerminal) = some last)
      (listed : Listed rest ↔ last.conclusion ≠ some .success) (early : time < started + limit)
      (success : c.success = true ↔ last.conclusion = some .success) :
      Found started limit interval rest time (.ok c)

section Wait

variable {run : RunRef} {started limit interval time : Nat} {rest : List Exchange}
  {result : Except RunError Completion}

theorem found_of_awaited
    (h : Awaited run started limit interval 0 (lookCount limit interval) rest result time) :
    Found started limit interval rest time result := by
  have soon {k : Nat} (early : k < lookCount limit interval) :
      started + (0 + k) * interval < started + limit := by
    have := mul_lt_of_lt_lookCount early
    rw [Nat.zero_add]
    omega
  cases h with
  | @expired pending going all =>
    have found := find_looks run (started + 0 * interval) interval going []
    rw [List.append_nil] at found
    rw [Nat.zero_add]
    exact .late found (not_listed_looks _ _ _ _) rfl
  | @broken pending e going early =>
    have found := find_looks run (started + 0 * interval) interval going [.error e]
    exact .broken found (not_listed_looks _ _ _ _) (soon early)
  | @finished pending last c jobs going early terminal reports =>
    have found := find_looks run (started + 0 * interval) interval going [.ok last]
    refine .finished ?_ ?_ (soon early) reports.success
    · rw [List.filterMap_append, filterMap_listing, List.append_nil, found]
      simp [Except.toOption, terminal]
    · rw [listed_append, listed_listing]
      exact or_iff_right (not_listed_looks _ _ _ _)

/-- Whatever is asked in a wait is asked before its deadline. -/
theorem time_lt_of_awaited
    (h : Awaited run started limit interval 0 (lookCount limit interval) rest result time)
    {x : Exchange} (among : x ∈ rest) : x.time < started + limit := by
  have looked {answers : List (Except ApiError Run)}
      (few : answers.length ≤ lookCount limit interval)
      (h : x ∈ looks run interval (started + 0 * interval) answers) : x.time < started + limit := by
    obtain ⟨k, lt, answer, rfl⟩ := mem_looks _ _ _ h
    have := mul_lt_of_lt_lookCount (Nat.lt_of_lt_of_le lt few)
    change started + 0 * interval + k * interval < _
    omega
  cases h with
  | expired _ going all => exact looked (by simp [all]) among
  | broken _ going early => exact looked (by simpa [Nat.succ_le_iff] using early) among
  | @finished pending last c jobs going early =>
    rcases List.mem_append.1 among with look | list
    · exact looked (by simpa [Nat.succ_le_iff] using early) look
    · rw [listing] at list
      split at list
      · cases list
      · have := mul_lt_of_lt_lookCount early
        obtain rfl := List.mem_singleton.1 list
        change started + (0 + pending.length) * interval < _
        rw [Nat.zero_add]
        omega

end Wait

/-! ## What a report says -/

/-- What a report says of the requests that were made for it. The seconds of a wait that timed out
are those that passed, as a number of the report, and no fewer than those of its limit. -/
structure Told (p : Parameters) (now : Nat) (log : List Exchange) (time : Nat) (report : Report) :
    Prop where
  success : report.success = true ↔ Accepted log ∧ (p.waitForCompletion = true →
    ∃ last, finished? log = some last ∧ last.conclusion = some .success)
  undone : report.actionsPerformed = [] ↔ ¬ Accepted log
  begins : Accepted log → [rerunAction p.failedOnly] <+: report.actionsPerformed
  succeeded : report.success = true → report.outcome = .success
  failed : report.success = false → report.outcome = .timedOut ∨ report.outcome = .failed
  late : report.outcome = .timedOut ↔
    Accepted log ∧ p.waitForCompletion = true ∧ now + p.limit ≤ time
  elapsed : report.outcome = .timedOut → ∃ whole x, time = now + whole * 1000 ∧
    x = seconds (whole * 1000) ∧ report.metadata.get? "elapsed_seconds" = some (real x) ∧
    report.metadata.get? "timeout_seconds" = some (natural p.timeoutSeconds.toNat) ∧
    p.timeoutSeconds.toNat ≤ whole ∧ Decimal.nearest p.timeoutSeconds.toNat 0 ≤ x
  listed : Listed log ↔ ∃ last, finished? log = some last ∧ last.conclusion ≠ some .success
  looked : ∀ x ∈ log.drop 2, x.time < now + p.limit
  rollbackRequired : report.rollbackRequired = false
  rollbackPerformed : report.rollbackPerformed = false

section Course

variable {p : Parameters} {now time : Nat} {log : List Exchange}

theorem metadata_withMetadata (r : Report) (key : String) (value : Json) (k : String) :
    (r.withMetadata key value).metadata.get? k =
      if k = key then some value.canonical else r.metadata.get? k :=
  Dict.get?_insert ..

theorem Parameters.limit_div (p : Parameters) : p.limit / 1000 = p.timeoutSeconds.toNat := by
  rw [limit]
  omega

/-- The pause between two looks is a tenth of a second, or some seconds. -/
theorem Parameters.interval_tenth_or_whole [Timer] (p : Parameters) :
    p.interval = 100 ∨ ∃ step ≤ 2 ^ 52, p.interval = step * 1000 := by
  have least := Timer.least
  rw [Parameters.interval, Provider.interval, Timer.lasts, minPollInterval]
  rcases Nat.eq_zero_or_pos p.pollIntervalSeconds.toNat with none | some
  · exact .inl (by omega)
  · have most : min p.pollIntervalSeconds.toNat Timer.longest ≤ 2 ^ 52 :=
      Nat.le_trans (Nat.min_le_right ..) Timer.most
    exact .inr ⟨_, most, by omega⟩

/-- A wait until the deadline takes whole seconds: looks a tenth of a second apart meet the
deadline. -/
theorem Parameters.wait_whole [Timer] (p : Parameters)
    (short : p.timeoutSeconds.toNat ≤ maxTimeoutSeconds) :
    ∃ whole, lookCount p.limit p.interval * p.interval = whole * 1000 ∧
      p.timeoutSeconds.toNat ≤ whole ∧ whole < 2 ^ 53 := by
  have some : 0 < p.interval := interval_pos _
  have week : maxTimeoutSeconds * 1000 ≤ clockRange := by decide
  have limit : p.limit = p.timeoutSeconds.toNat * 1000 := rfl
  have lower : p.limit ≤ lookCount p.limit p.interval * p.interval :=
    le_lookCount_mul some (Nat.le_trans (Nat.mul_le_mul_right 1000 short) week)
  have upper : lookCount p.limit p.interval * p.interval < p.limit + p.interval :=
    lookCount_mul_lt some
  generalize lookCount p.limit p.interval = looks at lower upper ⊢
  rw [maxTimeoutSeconds] at short
  rcases p.interval_tenth_or_whole with tenth | ⟨step, few, whole⟩
  · rw [tenth] at lower upper ⊢
    exact ⟨p.timeoutSeconds.toNat, by omega, Nat.le_refl _, by omega⟩
  · rw [whole, ← Nat.mul_assoc] at lower upper ⊢
    exact ⟨looks * step, rfl, by omega, by omega⟩

/-- A look that failed, or a rerun that was refused. -/
theorem told_of_unaccepted {e : ApiError} (unaccepted : ¬ Accepted log) (unlisted : ¬ Listed log)
    (short : log.drop 2 = []) :
    Told p now log time (reportOf p (time - now) ([], .error (.api e))) where
  success := ⟨nofun, fun h => absurd h.1 unaccepted⟩
  undone := ⟨fun _ => unaccepted, fun _ => rfl⟩
  begins h := absurd h unaccepted
  succeeded := nofun
  failed _ := .inr rfl
  late := ⟨nofun, fun h => absurd h.1 unaccepted⟩
  elapsed := nofun
  listed := by simp [unlisted, finished?, short]
  looked := by simp [short]
  rollbackRequired := rfl
  rollbackPerformed := rfl

theorem told_of_triggered (hasty : p.waitForCompletion = false) (accepted : Accepted log)
    (unlisted : ¬ Listed log) (short : log.drop 2 = []) :
    Told p now log time (reportOf p (time - now)
      ([rerunAction p.failedOnly, "triggered rerun"], .ok .triggered)) where
  success := ⟨fun _ => ⟨accepted, fun waits => by simp [hasty] at waits⟩, fun _ => rfl⟩
  undone := ⟨nofun, fun h => absurd accepted h⟩
  begins _ := ⟨["triggered rerun"], rfl⟩
  succeeded _ := rfl
  failed := nofun
  late := ⟨nofun, fun h => by simp [hasty] at h⟩
  elapsed := nofun
  listed := by simp [unlisted, finished?, short]
  looked := by simp [short]
  rollbackRequired := rfl
  rollbackPerformed := rfl

section Awaited

variable {rest : List Exchange} (waits : p.waitForCompletion = true) (accepted : Accepted log)
  (polled : log.drop 2 = rest) (listed : Listed log ↔ Listed rest)
  (looked : ∀ x ∈ rest, x.time < now + p.limit)
include waits accepted polled listed looked

theorem told_of_late {whole : Nat}
    (found : (rest.filterMap seen?).find? (·.status.isTerminal) = none) (unlisted : ¬ Listed rest)
    (ended : time = now + whole * 1000) (reached : p.timeoutSeconds.toNat ≤ whole)
    (short : whole < 2 ^ 53) :
    Told p now log time (reportOf p (time - now)
      ([rerunAction p.failedOnly], .error (.timeout (whole * 1000) p.limit))) where
  success := ⟨nofun, fun h => by simpa [finished?, polled, found] using h.2 waits⟩
  undone := ⟨nofun, fun h => absurd accepted h⟩
  begins _ := List.prefix_rfl
  succeeded := nofun
  failed _ := .inl rfl
  late := by
    have deadline : now + p.limit ≤ time := by
      rw [Parameters.limit]
      omega
    exact ⟨fun _ => ⟨accepted, waits, deadline⟩, fun _ => rfl⟩
  elapsed _ := by
    have holds := Decimal.holds_seconds short
    have least := Decimal.holds_nearest (Nat.lt_of_le_of_lt reached short)
    refine ⟨whole, _, ended, rfl, ?_, ?_, reached, least.le holds reached⟩
    · simp only [reportOf, failureReport, metadata_withMetadata]
      simp [ofFloat, holds.isFinite]
      rfl
    · simp only [reportOf, failureReport, metadata_withMetadata]
      simp [p.limit_div]
      rfl
  listed := by simp [listed, unlisted, finished?, polled, found]
  looked := polled ▸ looked
  rollbackRequired := rfl
  rollbackPerformed := rfl

theorem told_of_broken {e : ApiError}
    (found : (rest.filterMap seen?).find? (·.status.isTerminal) = none) (unlisted : ¬ Listed rest)
    (early : time < now + p.limit) :
    Told p now log time
      (reportOf p (time - now) ([rerunAction p.failedOnly], .error (.api e))) where
  success := ⟨nofun, fun h => by simpa [finished?, polled, found] using h.2 waits⟩
  undone := ⟨nofun, fun h => absurd accepted h⟩
  begins _ := List.prefix_rfl
  succeeded := nofun
  failed _ := .inr rfl
  late := ⟨nofun, fun h => absurd h.2.2 (Nat.not_le_of_lt early)⟩
  elapsed := nofun
  listed := by simp [listed, unlisted, finished?, polled, found]
  looked := polled ▸ looked
  rollbackRequired := rfl
  rollbackPerformed := rfl

theorem told_of_completed {c : Completion} {last : Run}
    (found : (rest.filterMap seen?).find? (·.status.isTerminal) = some last)
    (jobs : Listed rest ↔ last.conclusion ≠ some .success) (early : time < now + p.limit)
    (success : c.success = true ↔ last.conclusion = some .success) :
    Told p now log time
      (reportOf p (time - now) ([rerunAction p.failedOnly], .ok (.completed c))) := by
  have ended : finished? log = some last := by rw [finished?, polled, found]
  have punctual : ¬ now + p.limit ≤ time := Nat.not_le_of_lt early
  have jobs' : Listed log ↔
      ∃ last, finished? log = some last ∧ last.conclusion ≠ some .success := by
    simp [listed, jobs, ended]
  cases fine : c.success with
  | true =>
    have concluded := success.1 fine
    simp only [reportOf, progressReport, fine, if_true]
    exact {
      success := ⟨fun _ => ⟨accepted, fun _ => ⟨last, ended, concluded⟩⟩, fun _ => rfl⟩
      undone := ⟨nofun, fun h => absurd accepted h⟩
      begins := fun _ => List.prefix_append ..
      succeeded := fun _ => rfl
      failed := nofun
      late := ⟨nofun, fun h => absurd h.2.2 punctual⟩
      elapsed := nofun
      listed := jobs'
      looked := polled ▸ looked
      rollbackRequired := rfl
      rollbackPerformed := rfl }
  | false =>
    have concluded : last.conclusion ≠ some .success := fun h => by simp [success.2 h] at fine
    simp only [reportOf, progressReport, fine]
    exact {
      success := ⟨nofun, fun h => by simpa [ended, concluded] using h.2 waits⟩
      undone := ⟨nofun, fun h => absurd accepted h⟩
      begins := fun _ => List.prefix_rfl
      succeeded := nofun
      failed := fun _ => .inr rfl
      late := ⟨nofun, fun h => absurd h.2.2 punctual⟩
      elapsed := nofun
      listed := jobs'
      looked := polled ▸ looked
      rollbackRequired := rfl
      rollbackPerformed := rfl }

end Awaited

/-- An order that is not for the list of jobs, after a look. -/
theorem listed_ordered (p : Parameters) (now : Nat) (seen : Except ApiError Run)
    (answer : Except ApiError Unit) (rest : List Exchange) :
    Listed (look p.run now seen :: order p now answer :: rest) ↔ Listed rest := by
  have other := order_call now p answer
  simp [Listed, look, other]

theorem Course.told [Timer] {done : List String × Except RunError Progress}
    (course : Course p now log done time) (short : p.timeoutSeconds.toNat ≤ maxTimeoutSeconds) :
    Told p now log time (reportOf p (time - now) done) := by
  cases course with
  | unseen => exact told_of_unaccepted (by simp [Accepted]) (by simp [Listed, look]) rfl
  | refused =>
    refine told_of_unaccepted ?_ ?_ rfl
    · simp [Accepted, Except.isOk, Except.toBool]
    · rw [listed_ordered]
      simp [Listed]
  | triggered hasty =>
    refine told_of_triggered hasty ?_ ?_ rfl
    · simp [Accepted, Except.isOk, Except.toBool]
    · rw [listed_ordered]
      simp [Listed]
  | @awaited before rest result time waits awaited =>
    have accepted : Accepted (look p.run now (.ok before) :: order p now (.ok ()) :: rest) :=
      ⟨order p now (.ok ()), by simp, by simp [Except.isOk, Except.toBool]⟩
    have listed := listed_ordered p now (.ok before) (.ok ()) rest
    have looked : ∀ x ∈ rest, x.time < now + p.limit := fun x among =>
      time_lt_of_awaited awaited among
    cases found_of_awaited awaited with
    | late found unlisted ended =>
      obtain ⟨whole, elapsed, reached, exact⟩ := p.wait_whole short
      rw [elapsed] at ended ⊢
      exact told_of_late waits accepted rfl listed looked found unlisted ended reached exact
    | broken found unlisted early =>
      exact told_of_broken waits accepted rfl listed looked found unlisted early
    | finished found jobs early success =>
      exact told_of_completed waits accepted rfl listed looked found jobs early success

end Course

/-! ## Every conversation -/

/-- Whatever a provider answers, a rerun comes to an end with a report. Without parameters nothing
is asked. With them the requests are those of one of its courses, and the report is made of that
course: it is a success when the rerun was accepted and the run, if it was waited for, was found to
have ended in success; an accepted rerun is the first of its actions, however it ends; and it timed
out when the deadline was reached and not otherwise, with the seconds that had passed by then. -/
theorem execute_tells [Timer] (w : Program.World Request Request.Answer σ) (defaults : Defaults)
    (incident : Incident) (plan : Plan) (now : Nat) (s : σ) :
    let program : Conversation Report := execute Provider.direct defaults incident plan
    let log := Program.transcript w now program s
    let d := Program.run w now program s
    ∃ report, d.outcome = .ok report ∧
      match Parameters.resolve incident plan defaults with
      | .error _ => log = [] ∧ report.success = false ∧ report.outcome = .failed ∧
          report.actionsPerformed = [] ∧ report.rollbackRequired = false ∧
          report.rollbackPerformed = false
      | .ok p => (∃ done, Course p now log done d.time ∧ report = reportOf p (d.time - now) done) ∧
          Told p now log d.time report := by
  intro program log d
  cases resolved : Parameters.resolve incident plan defaults with
  | error fault =>
    have same : program = _ := execute_unresolved defaults incident plan resolved
    have outcome : d.outcome = _ := congrArg (fun q => (Program.run w now q s).outcome) same
    have asked : log = [] := congrArg (fun q => Program.transcript w now q s) same
    exact ⟨_, outcome, asked, rfl, rfl, rfl, rfl, rfl⟩
  | ok p =>
    obtain ⟨done, outcome, course⟩ := execute_course w defaults incident plan now s resolved
    exact ⟨_, outcome, ⟨done, course, rfl⟩, course.told (timeout_of_resolve resolved)⟩

section ThirtyYears

attribute [local instance] Timer.thirtyYears

/-- A rerun that is accepted, seen queued and on its way, and then found to have failed. -/
theorem execute_tells_of_polled_failure :
    let incident : Incident := .new ⟨7⟩ ⟨1700000000, 0⟩ .github "flaky_test"
    let plan : Plan := ((Plan.new .rerunWorkflow "").withParameter "repo"
      (.str "acme/widgets")).withParameter "run_id" (natural 42)
    let p : Parameters := ⟨⟨"acme", "widgets", 42⟩, true, 600, 10, true⟩
    let program : Conversation Report := execute Provider.direct .standard incident plan
    let script := Script.completesWith .failure
    let log := Program.transcript Script.answer 0 program script
    let d := Program.run Script.answer 0 program script
    Parameters.resolve incident plan .standard = .ok p ∧ Accepted log ∧
      log.map (fun x => (x.time, x.request.call)) =
        [(0, .getRun), (0, .rerunFailedJobs), (0, .getRun), (10000, .getRun), (20000, .getRun),
          (20000, .listJobs)] ∧
      ∃ report, d.outcome = .ok report ∧ report.success = false ∧ report.outcome = .failed ∧
        ["Reran only failed jobs"] <+: report.actionsPerformed := by
  intro incident plan p program script log d
  have resolved : Parameters.resolve incident plan .standard = .ok p := by rfl
  have accepted : Accepted log := List.any_eq_true.1 (by decide +kernel : log.any accepts = true)
  have found : (finished? log).map Run.conclusion = some (some .failure) := by decide +kernel
  have soon : d.time = 20000 := by decide +kernel
  obtain ⟨report, came, tells⟩ := execute_tells Script.answer .standard incident plan 0 script
  rw [resolved] at tells
  obtain ⟨-, told⟩ := tells
  have failed : report.success = false := by
    rw [Bool.eq_false_iff]
    intro fine
    obtain ⟨last, same, success⟩ := (told.success.1 fine).2 rfl
    have conclusion := found.symm.trans (congrArg (Option.map Run.conclusion) same)
    rw [Option.map_some, success] at conclusion
    cases conclusion
  have inTime : report.outcome ≠ .timedOut := by
    intro late
    have reached : 0 + p.limit ≤ d.time := (told.late.1 late).2.2
    rw [soon] at reached
    exact absurd reached (by decide)
  exact ⟨resolved, accepted, by decide +kernel, report, came, failed,
    (told.failed failed).resolve_left inTime, told.begins accepted⟩

end ThirtyYears

end Remedy.Rerun
