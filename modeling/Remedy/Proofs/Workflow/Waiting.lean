import Remedy.Proofs.Program.Transcripts
import Remedy.Workflow.Monitor

/-!
# Waiting for a run

A provider that answers at once is looked at when the wait begins and then after each interval,
until it reports an error or the end of the run, or until no look before the deadline is left. A run
that is seen to have ended otherwise than in success has its jobs listed, once.
-/

namespace Remedy.Workflow

open Program

variable {Q : Type} {A : Q → Type} {σ : Type}

/-- A request to a provider with its time and its answer. -/
abbrev Exchange : Type := Program.Exchange Request Request.Answer

/-! ## Looks -/

def look (run : RunRef) (time : Nat) (answer : Except ApiError Run) : Exchange :=
  ⟨time, ⟨run, .getRun⟩, answer⟩

/-- Looks at a run with an interval between two of them, the first one now. -/
def looks (run : RunRef) (interval : Nat) : Nat → List (Except ApiError Run) → List Exchange
  | _, [] => []
  | now, answer :: rest => look run now answer :: looks run interval (now + interval) rest

/-- The number of looks that fit before the deadline. -/
def lookCount (limit interval : Nat) : Nat := (min limit clockRange + interval - 1) / interval

theorem mul_lt_of_lt_lookCount {limit interval k : Nat} (lt : k < lookCount limit interval) :
    k * interval < limit := by
  rcases Nat.eq_zero_or_pos interval with none | some
  · simp [lookCount, none] at lt
  · have fits := (Nat.le_div_iff_mul_le some).1 (Nat.succ_le_of_lt lt)
    rw [Nat.succ_mul] at fits
    omega

theorem le_lookCount_mul {limit interval : Nat} (some : 0 < interval) (short : limit ≤ clockRange) :
    limit ≤ lookCount limit interval * interval := by
  have whole := Nat.div_add_mod (limit + interval - 1) interval
  have rest := Nat.mod_lt (limit + interval - 1) some
  rw [lookCount, Nat.min_eq_left short, Nat.mul_comm]
  omega

/-- The first look that would come after the deadline is less than an interval late. -/
theorem lookCount_mul_lt {limit interval : Nat} (some : 0 < interval) :
    lookCount limit interval * interval < limit + interval := by
  have fits := Nat.div_mul_le_self (min limit clockRange + interval - 1) interval
  rw [lookCount]
  omega

section Interval

variable [Timer]

theorem le_interval (asked : Nat) : minPollInterval ≤ Provider.interval asked := by
  have least := Timer.least
  rw [Provider.interval, Timer.lasts, minPollInterval]
  omega

theorem interval_pos (asked : Nat) : 0 < Provider.interval asked :=
  Nat.lt_of_lt_of_le (by decide) (le_interval asked)

/-- A timer keeps what it can hold, which is two years at least. -/
theorem interval_of_le {asked : Nat} (held : asked ≤ 68719476000) :
    Provider.interval asked = max asked minPollInterval := by
  have least := Timer.least
  rw [Provider.interval, Timer.lasts, minPollInterval]
  omega

end Interval

/-! ## The end of a run as it is reported -/

/-- What a completion says of the look that it rests on and of the jobs that were listed. -/
structure Completion.Reports (c : Completion) (last : Run) (jobs : Except ApiError (List Job))
    (polls : UInt32) (elapsed : Nat) : Prop where
  run : c.run = last
  success : c.success = true ↔ last.conclusion = some .success
  conclusion : c.conclusion = last.conclusion
  reason : c.success = false → c.failureReason.isSome = true
  failedJobs : c.failedJobs =
    if c.success then [] else (jobs.toOption.map FailedJob.select).getD []
  polls : c.polls = polls
  elapsed : c.elapsed = elapsed

/-- The jobs of a run are listed unless it ended in success. -/
def listing (run : RunRef) (time : Nat) (last : Run) (jobs : Except ApiError (List Job)) :
    List Exchange :=
  if last.conclusion = some .success then [] else [⟨time, ⟨run, .listJobs⟩, jobs⟩]

namespace Provider

section Complete

variable (run : RunRef) {last : Run} (polls : UInt32) (elapsed : Nat)

theorem complete_of_success (p : Provider Q A) (success : last.conclusion = some .success) :
    complete p run last polls elapsed =
      .done ⟨last, true, last.conclusion, none, [], polls, elapsed⟩ := by
  simp only [complete, success]
  rfl

/-- Whatever is answered about the jobs of a run, and however long that takes, its completion is
reported. -/
theorem complete_eq (p : Provider Q A) (failed : last.conclusion ≠ some .success) :
    ∃ report : Except ApiError (List Job) → Completion,
      complete p run last polls elapsed =
          (p ⟨run, .listJobs⟩).bind (fun jobs => .done (report jobs)) ∧
        ∀ jobs, (report jobs).Reports last jobs polls elapsed := by
  have beq : (last.conclusion == some .success) = false := by simpa using failed
  let bare : Completion := ⟨last, false, last.conclusion, none, [], polls, elapsed⟩
  let report : Except ApiError (List Job) → Completion
    | .ok jobs => { bare with
        failedJobs := FailedJob.select jobs
        failureReason := some (failureReason last.displayName (conclusionText last.conclusion)
          (FailedJob.select jobs)) }
    | .error e => { bare with
        failureReason := some ("workflow '" ++ last.displayName ++ "' concluded with "
          ++ conclusionText last.conclusion ++ " (job details unavailable: " ++ e.text ++ ")") }
  refine ⟨report, ?_, ?_⟩
  · simp only [complete, beq]
    refine congrArg (Program.bind _) (funext fun jobs => ?_)
    cases jobs <;> rfl
  · intro jobs
    cases jobs with
    | ok jobs => exact ⟨rfl, by simp [report, bare, failed], rfl, fun _ => rfl, rfl, rfl, rfl⟩
    | error e => exact ⟨rfl, by simp [report, bare, failed], rfl, fun _ => rfl, rfl, rfl, rfl⟩

theorem complete_of_failure (failed : last.conclusion ≠ some .success) :
    ∃ next, (complete direct run last polls elapsed : Conversation Completion) =
        .ask ⟨run, .listJobs⟩ next ∧
      ∀ jobs, ∃ c, next jobs = .done c ∧ c.Reports last jobs polls elapsed := by
  obtain ⟨report, same, reports⟩ := complete_eq run polls elapsed direct failed
  exact ⟨fun jobs => .done (report jobs), same, fun jobs => ⟨report jobs, rfl, reports jobs⟩⟩

theorem complete_reports (w : World Request Request.Answer σ) (last : Run) (now : Nat) (s : σ) :
    let p : Conversation Completion := complete direct run last polls elapsed
    ∃ c jobs, (Program.run w now p s).outcome = .ok c ∧ (Program.run w now p s).time = now ∧
      transcript w now p s = listing run now last jobs ∧ c.Reports last jobs polls elapsed := by
  intro p
  by_cases success : last.conclusion = some .success
  · have same := complete_of_success run polls elapsed direct success
    refine ⟨_, .ok [], congrArg (fun p => (Program.run w now p s).outcome) same,
      congrArg (fun p => (Program.run w now p s).time) same, ?_,
      ⟨rfl, by simp [success], rfl, nofun, rfl, rfl, rfl⟩⟩
    rw [listing, if_pos success]
    exact congrArg (fun p => transcript w now p s) same
  · obtain ⟨next, same, reports⟩ := complete_of_failure run polls elapsed success
    obtain ⟨jobs, answer⟩ : ∃ jobs : Except ApiError (List Job), (w ⟨run, .listJobs⟩ s).1 = jobs :=
      ⟨_, rfl⟩
    obtain ⟨c, came, told⟩ := reports jobs
    have same : p = .ask ⟨run, .listJobs⟩ next := same
    refine ⟨c, jobs, ?_, ?_, ?_, told⟩
    · rw [same, run_ask, answer, came]
      rfl
    · rw [same, run_ask, answer, came]
      rfl
    · rw [same, transcript_ask, answer, came, listing, if_neg success]
      rfl

end Complete

end Provider

/-! ## The looks of a wait -/

/-- How a wait goes on that has made some looks and has some left: with runs that are on their way,
until the deadline, an error or a run that is over. It ends at the given time. The number of a look
is told as far as 32 bits hold it. -/
inductive Awaited (run : RunRef) (started limit interval polls left : Nat) :
    List Exchange → Except RunError Completion → Nat → Prop
  | expired (pending : List Run) (going : ∀ r ∈ pending, r.status.isTerminal = false)
      (all : pending.length = left) :
      Awaited run started limit interval polls left
        (looks run interval (started + polls * interval) (pending.map .ok))
        (.error (.timeout ((polls + left) * interval) limit)) (started + (polls + left) * interval)
  | broken (pending : List Run) {e : ApiError}
      (going : ∀ r ∈ pending, r.status.isTerminal = false) (early : pending.length < left) :
      Awaited run started limit interval polls left
        (looks run interval (started + polls * interval) (pending.map .ok ++ [.error e]))
        (.error (.api e)) (started + (polls + pending.length) * interval)
  | finished (pending : List Run) {last : Run} {c : Completion} {jobs : Except ApiError (List Job)}
      (going : ∀ r ∈ pending, r.status.isTerminal = false) (early : pending.length < left)
      (terminal : last.status.isTerminal = true)
      (reports : c.Reports last jobs (UInt32.ofNat (polls + pending.length + 1))
        ((polls + pending.length) * interval)) :
      Awaited run started limit interval polls left
        (looks run interval (started + polls * interval) (pending.map .ok ++ [.ok last]) ++
          listing run (started + (polls + pending.length) * interval) last jobs)
        (.ok c) (started + (polls + pending.length) * interval)

/-- One more look at a run that is on its way, before those that follow. -/
theorem Awaited.again {run : RunRef} {started limit interval polls left time : Nat}
    {rest : List Exchange} {result : Except RunError Completion} {current : Run}
    (tail : Awaited run started limit interval (polls + 1) left rest result time)
    (going : current.status.isTerminal = false) :
    Awaited run started limit interval polls (left + 1)
      (look run (started + polls * interval) (.ok current) :: rest) result time := by
  have next : started + (polls + 1) * interval = started + polls * interval + interval := by
    rw [Nat.succ_mul, Nat.add_assoc]
  have first (pending : List Run) (h : ∀ r ∈ pending, r.status.isTerminal = false) :
      ∀ r ∈ current :: pending, r.status.isTerminal = false :=
    List.forall_mem_cons.2 ⟨going, h⟩
  have shift (n : Nat) : polls + 1 + n = polls + (n + 1) := by omega
  cases tail with
  | @expired pending h all =>
    rw [next, shift]
    exact .expired (current :: pending) (first pending h) (congrArg (· + 1) all)
  | @broken pending e h early =>
    rw [next, shift]
    exact .broken (current :: pending) (first pending h) (Nat.succ_lt_succ early)
  | @finished pending last c jobs h early terminal reports =>
    rw [shift] at reports ⊢
    rw [next]
    exact .finished (current :: pending) (first pending h) (Nat.succ_lt_succ early) terminal
      reports

namespace Provider

section Poll

variable [Timer] (w : World Request Request.Answer σ) (run : RunRef)
  (started limit interval : Nat)

/-- What follows a look that was answered. -/
def afterLook (p : Provider Q A) (left : Nat) (polls : UInt32) :
    Except ApiError Run → Program Q A (Except RunError Completion)
  | .error e => .done (.error (.api e))
  | .ok current => .emit (.poll run.text (polls + 1) current.status.name) <|
    if current.status.isTerminal then
      .clock fun seen => (complete p run current (polls + 1) (seen - started)).bind fun c =>
        .done (.ok c)
    else .sleep (Timer.lasts interval) (poll p run started limit interval left (polls + 1))

/-- One look of a wait, whatever it takes to answer it. -/
theorem poll_eq (p : Provider Q A) (left : Nat) (polls : UInt32) :
    poll p run started limit interval (left + 1) polls =
      (.clock fun now =>
        if started + limit ≤ now then .done (.error (.timeout (now - started) limit))
        else (p ⟨run, .getRun⟩).bind (afterLook run started limit interval p left polls) :
      Program Q A (Except RunError Completion)) := by
  refine congrArg Program.clock (funext fun now => ?_)
  change ite _ _ _ = _
  by_cases late : started + limit ≤ now
  · rw [if_pos late, if_pos late]
    rfl
  · rw [if_neg late, if_neg late]
    change ((p ⟨run, .getRun⟩).bind _).bind _ = _
    rw [bind_bind]
    refine congrArg (Program.bind _) (funext fun a => ?_)
    cases a with
    | error e => rfl
    | ok current =>
      refine congrArg (Program.emit _) ?_
      change ite _ _ _ = _
      by_cases terminal : current.status.isTerminal = true
      · rw [if_pos terminal, if_pos terminal]
        rfl
      · rw [if_neg terminal, if_neg terminal]
        rfl

theorem poll_succ (left : Nat) (polls : UInt32) :
    poll direct run started limit interval (left + 1) polls =
      (.clock fun now =>
        if started + limit ≤ now then .done (.error (.timeout (now - started) limit))
        else .ask ⟨run, .getRun⟩ (afterLook run started limit interval direct left polls) :
      Conversation (Except RunError Completion)) :=
  poll_eq run started limit interval direct left polls

/-- A look before the deadline, and what follows its answer. -/
theorem run_poll_succ {now : Nat} (soon : ¬ started + limit ≤ now) (left : Nat) (polls : UInt32)
    {s : σ} {answer : Except ApiError Run} (seen : (w ⟨run, .getRun⟩ s).1 = answer) :
    let p : Conversation (Except RunError Completion) :=
      poll direct run started limit interval (left + 1) polls
    let next := afterLook run started limit interval direct left polls answer
    Program.run w now p s = Program.run w now next (w ⟨run, .getRun⟩ s).2 ∧
      transcript w now p s =
        look run now answer :: transcript w now next (w ⟨run, .getRun⟩ s).2 := by
  subst seen
  intro p next
  have same : p = _ := poll_succ run started limit interval left polls
  rw [same]
  simp only [Program.run, transcript, if_neg soon]
  exact ⟨rfl, rfl⟩

/-- A look at a run that is over ends the wait. -/
theorem afterLook_over {current : Run} (terminal : current.status.isTerminal = true)
    (left : Nat) (polls : UInt32) (now : Nat) (s : σ) :
    let p : Conversation (Except RunError Completion) :=
      afterLook run started limit interval direct left polls (.ok current)
    ∃ c jobs, (Program.run w now p s).outcome = .ok (.ok c) ∧ (Program.run w now p s).time = now ∧
      transcript w now p s = listing run now current jobs ∧
      c.Reports current jobs (polls + 1) (now - started) := by
  obtain ⟨c, jobs, came, ended, asked, told⟩ :=
    complete_reports run (polls + 1) (now - started) w current now s
  let report (c : Completion) : Conversation (Except RunError Completion) := .done (.ok c)
  have bound := run_bind w _ report came
  have listed := transcript_bind w _ report came
  rw [asked, ended] at listed
  simp only [afterLook, if_pos terminal, Program.run, transcript]
  rw [bound, ended, listed]
  exact ⟨c, jobs, rfl, rfl, List.append_nil _, told⟩

variable {limit interval}

/-- The loop of a wait, at the time of its next look. -/
theorem poll_awaited {gap : Nat} (lasts : Timer.lasts interval = gap) (left polls : Nat)
    (early : ∀ k < polls + left, k * gap < limit) (s : σ) :
    let p : Conversation (Except RunError Completion) :=
      poll direct run started limit interval left (UInt32.ofNat polls)
    let now := started + polls * gap
    ∃ result, (Program.run w now p s).outcome = .ok result ∧
      Awaited run started limit gap polls left (transcript w now p s) result
        (Program.run w now p s).time := by
  induction left generalizing polls s with
  | zero =>
    intro p now
    have elapsed : now - started = (polls + 0) * gap := Nat.add_sub_cancel_left ..
    refine ⟨.error (.timeout (now - started) limit), rfl, ?_⟩
    rw [elapsed]
    exact .expired [] (List.forall_mem_nil _) rfl
  | succ left ih =>
    intro p now
    have counted : UInt32.ofNat polls + 1 = UInt32.ofNat (polls + 1) := (UInt32.ofNat_add ..).symm
    have soon : ¬ started + limit ≤ now := by
      have := early polls (by omega)
      omega
    obtain ⟨answer, seen⟩ : ∃ answer : Except ApiError Run, (w ⟨run, .getRun⟩ s).1 = answer :=
      ⟨_, rfl⟩
    obtain ⟨goes, asks⟩ :=
      run_poll_succ w run started limit interval soon left (UInt32.ofNat polls) seen
    rw [goes, asks]
    cases answer with
    | error e =>
      exact ⟨.error (.api e), rfl,
        .broken [] (List.forall_mem_nil _) (Nat.succ_pos left)⟩
    | ok current =>
      by_cases terminal : current.status.isTerminal = true
      · obtain ⟨c, jobs, came, ended, asked, told⟩ := afterLook_over w run started limit interval
          terminal left (UInt32.ofNat polls) now (w ⟨run, .getRun⟩ s).2
        have elapsed : now - started = polls * gap := Nat.add_sub_cancel_left ..
        rw [elapsed, counted] at told
        rw [came, ended, asked]
        exact ⟨.ok c, rfl,
          .finished [] (List.forall_mem_nil _) (Nat.succ_pos left) terminal told⟩
      · have later : now + gap = started + (polls + 1) * gap := by
          rw [Nat.succ_mul, ← Nat.add_assoc]
        obtain ⟨result, came, tail⟩ := ih (polls + 1) (fun k lt => early k (by omega))
          (w ⟨run, .getRun⟩ s).2
        rw [← later] at came tail
        simp only [afterLook, if_neg terminal, Program.run, transcript, lasts, counted]
        exact ⟨result, came, tail.again (Bool.eq_false_iff.2 terminal)⟩

/-- A wait looks until the run is over, and not at or after its deadline. -/
theorem waitForCompletion_awaited (limit pollInterval now : Nat) (s : σ) :
    let p : Conversation (Except RunError Completion) :=
      waitForCompletion direct run limit pollInterval
    let gap := Provider.interval pollInterval
    ∃ result, (Program.run w now p s).outcome = .ok result ∧
      Awaited run now limit gap 0 (lookCount limit gap) (transcript w now p s) result
        (Program.run w now p s).time := by
  intro p gap
  have early : ∀ k < 0 + lookCount limit gap, k * gap < limit := fun k lt =>
    mul_lt_of_lt_lookCount (by omega)
  have looked := poll_awaited w run now (rfl : Timer.lasts _ = gap) (lookCount limit gap) 0 early s
  rw [Nat.zero_mul, Nat.add_zero] at looked
  exact looked

end Poll

end Provider

end Remedy.Workflow
