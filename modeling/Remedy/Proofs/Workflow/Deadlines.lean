import Remedy.Proofs.Workflow.Waiting
import Remedy.Workflow.Script

/-!
# What a wait finds, and when

A provider that answers at once decides a wait by what it would answer to one look after another:
the first answer that ends the wait is the one that is reported, if its look comes before the
deadline, and otherwise the wait is over after as many intervals as cover the limit. At a provider
that takes its time no look is started at or after the deadline either, and no wait is given up
before it.
-/

namespace Remedy.Workflow

open Program

variable {Q : Type} {A : Q → Type} {σ : Type}

/-! ## The answers that decide -/

/-- An error ends a wait, and so does a run that is over. -/
def ends : Except ApiError Run → Bool
  | .error _ => true
  | .ok current => current.status.isTerminal

section Shown

variable (w : World Request Request.Answer σ) (run : RunRef)

/-- What a provider answers to one look after another, counted from 0. -/
def shown (s : σ) : Nat → Except ApiError Run
  | 0 => (w ⟨run, .getRun⟩ s).1
  | k + 1 => shown (w ⟨run, .getRun⟩ s).2 k

theorem map_shown_succ (s : σ) (n : Nat) :
    (List.range (n + 1)).map (shown w run s) =
      shown w run s 0 :: (List.range n).map (shown w run (w ⟨run, .getRun⟩ s).2) := by
  rw [List.range_succ_eq_map, List.map_cons, List.map_map]
  rfl

/-- Looks that a world has answered were answered as it answers one look after another. -/
theorem shown_of_answered {interval now : Nat} {s : σ} {answers : List (Except ApiError Run)}
    (rest : List Exchange) (answered : Answered w s (looks run interval now answers ++ rest)) :
    answers = (List.range answers.length).map (shown w run s) := by
  induction answers generalizing now s with
  | nil => rfl
  | cons answer answers ih =>
    obtain ⟨first, later⟩ := answered
    have tail := ih later
    rw [List.length_cons, map_shown_succ]
    exact List.cons_eq_cons.2 ⟨first, tail⟩

end Shown

theorem ends_of_going {pending : List Run} (going : ∀ r ∈ pending, r.status.isTerminal = false)
    {answer : Except ApiError Run} (among : answer ∈ pending.map Except.ok) :
    ends answer = false := by
  obtain ⟨r, hr, rfl⟩ := List.mem_map.1 among
  exact going r hr

/-- Runs that are on their way, and then an answer that ends the wait: what was shown first to end
it is the last of them. -/
theorem shown_pending {answers : Nat → Except ApiError Run} {pending : List Run}
    (last : List (Except ApiError Run)) (going : ∀ r ∈ pending, r.status.isTerminal = false)
    (same : pending.map Except.ok ++ last =
      (List.range (pending.map Except.ok ++ last).length).map answers) :
    (∀ j < pending.length, ends (answers j) = false) ∧
      ∀ answer, last = [answer] → answers pending.length = answer := by
  have at_ (j : Nat) (h : j < (pending.map Except.ok ++ last).length) :
      (pending.map Except.ok ++ last)[j] = answers j := by
    rw [List.getElem_of_eq same h]
    simp
  constructor
  · intro j lt
    have inside : j < (pending.map Except.ok : List (Except ApiError Run)).length := by
      simpa using lt
    rw [← at_ j (by simp; omega), List.getElem_append_left inside]
    exact ends_of_going going (List.getElem_mem inside)
  · rintro answer rfl
    rw [← at_ pending.length (by simp), List.getElem_append_right (by simp)]
    simp

/-- The look that ends a wait is the only first one. -/
theorem first_unique {answers : Nat → Except ApiError Run} {j k : Nat}
    (atJ : ends (answers j) = true) (beforeJ : ∀ i < j, ends (answers i) = false)
    (atK : ends (answers k) = true) (beforeK : ∀ i < k, ends (answers i) = false) : j = k := by
  rcases Nat.lt_trichotomy j k with earlier | same | later
  · simp [beforeK j earlier] at atJ
  · exact same
  · simp [beforeJ k later] at atK

/-! ## At once -/

/-- What a wait reports of the answer that ended it, and what it asks after that answer. -/
inductive Reported (run : RunRef) (time : Nat) (polls : UInt32) (elapsed : Nat) :
    Except ApiError Run → List Exchange → Except RunError Completion → Prop
  | error (e : ApiError) : Reported run time polls elapsed (.error e) [] (.error (.api e))
  | ended {last : Run} {jobs : Except ApiError (List Job)} {c : Completion}
      (reports : c.Reports last jobs polls elapsed) :
      Reported run time polls elapsed (.ok last) (listing run time last jobs) (.ok c)

section Concluded

variable {run : RunRef} {now limit gap time : Nat} {answers : Nat → Except ApiError Run}
  {log : List Exchange} {result : Except RunError Completion}

/-- How a wait ends: by the first answer that ends it, or at the end of the looks before the
deadline. -/
inductive Concluded (run : RunRef) (now limit gap : Nat) (answers : Nat → Except ApiError Run) :
    List Exchange → Except RunError Completion → Nat → Prop
  | found {k : Nat} {listed : List Exchange} {result : Except RunError Completion}
      (early : k * gap < limit) (first : ∀ j < k, ends (answers j) = false)
      (at_ : ends (answers k) = true)
      (reported : Reported run (now + k * gap) (UInt32.ofNat (k + 1)) (k * gap) (answers k) listed
        result) :
      Concluded run now limit gap answers
        (looks run gap now ((List.range (k + 1)).map answers) ++ listed) result (now + k * gap)
  | late (going : ∀ j < lookCount limit gap, ends (answers j) = false) :
      Concluded run now limit gap answers
        (looks run gap now ((List.range (lookCount limit gap)).map answers))
        (.error (.timeout (lookCount limit gap * gap) limit)) (now + lookCount limit gap * gap)

/-- The first answer that ends a wait ends it, if its look comes before the deadline. -/
theorem Concluded.of_end (h : Concluded run now limit gap answers log result time) {k : Nat}
    (within : k < lookCount limit gap) (first : ∀ j < k, ends (answers j) = false)
    (at_ : ends (answers k) = true) :
    ∃ listed, log = looks run gap now ((List.range (k + 1)).map answers) ++ listed ∧
      time = now + k * gap ∧
      Reported run (now + k * gap) (UInt32.ofNat (k + 1)) (k * gap) (answers k) listed result := by
  cases h with
  | @found j listed result _ firstJ atJ reported =>
    obtain rfl := first_unique atJ firstJ at_ first
    exact ⟨listed, rfl, rfl, reported⟩
  | late going =>
    rw [going k within] at at_
    cases at_

/-- Without an answer that ends it before the deadline, a wait is given up at the
end of its looks. -/
theorem Concluded.of_going (h : Concluded run now limit gap answers log result time)
    (going : ∀ k, k * gap < limit → ends (answers k) = false) :
    log = looks run gap now ((List.range (lookCount limit gap)).map answers) ∧
      result = .error (.timeout (lookCount limit gap * gap) limit) ∧
      time = now + lookCount limit gap * gap := by
  cases h with
  | found early _ atJ _ =>
    rw [going _ early] at atJ
    cases atJ
  | late => exact ⟨rfl, rfl, rfl⟩

/-- A wait that was answered by a world ends as the answers of that world say. -/
theorem Awaited.concluded {w : World Request Request.Answer σ} {s : σ}
    (h : Awaited run now limit gap 0 (lookCount limit gap) log result time)
    (answered : Answered w s log) :
    Concluded run now limit gap (shown w run s) log result time := by
  have last_early {pending : List Run} (early : pending.length < lookCount limit gap) :
      pending.length * gap < limit := mul_lt_of_lt_lookCount early
  cases h with
  | expired pending going all =>
    have same := shown_of_answered w run []
      (by simpa only [List.append_nil] using answered)
    have quiet := shown_pending [] going (by simpa using same)
    rw [List.length_map, all] at same
    rw [Nat.zero_mul, Nat.add_zero, Nat.zero_add, same]
    exact .late fun j lt => quiet.1 j (all ▸ lt)
  | @broken pending e going early =>
    have same := shown_of_answered w run []
      (by simpa only [List.append_nil] using answered)
    obtain ⟨quiet, atEnd⟩ := shown_pending _ going same
    have error := atEnd _ rfl
    rw [List.length_append, List.length_map, List.length_singleton] at same
    rw [Nat.zero_mul, Nat.add_zero, Nat.zero_add, same]
    have reported : Reported run (now + pending.length * gap)
        (UInt32.ofNat (pending.length + 1)) (pending.length * gap) (shown w run s pending.length) []
        (.error (.api e)) := by
      rw [error]
      exact .error e
    have found := Concluded.found (last_early early) quiet (by rw [error]; rfl) reported
    rwa [List.append_nil] at found
  | @finished pending last c jobs going early terminal reports =>
    have same := shown_of_answered w run _ answered
    obtain ⟨quiet, atEnd⟩ := shown_pending _ going same
    have answer := atEnd _ rfl
    rw [List.length_append, List.length_map, List.length_singleton] at same
    rw [Nat.zero_add] at reports
    rw [Nat.zero_mul, Nat.add_zero, Nat.zero_add, same]
    exact .found (last_early early) quiet (by rw [answer]; exact terminal)
      (by rw [answer]; exact .ended reports)

end Concluded

/-! ## Answers that take time -/

/-- An answer with the time that it takes. -/
abbrev Timed (r : Request) : Type := r.Answer × Nat

namespace Provider

/-- Requests are put as they are, and answered after a while. -/
def slow : Provider Request Timed := fun r => .ask r fun a => .sleep a.2 (.done a.1)

end Provider

/-- The number of looks at a run among what was asked. -/
def looksAmong (log : List (Program.Exchange Request Timed)) : Nat :=
  log.countP fun x => x.request.call = .getRun

theorem looksAmong_cons_look (time : Nat) (run : RunRef) (answer : Timed ⟨run, .getRun⟩)
    (log : List (Program.Exchange Request Timed)) :
    looksAmong (⟨time, ⟨run, .getRun⟩, answer⟩ :: log) = looksAmong log + 1 :=
  List.countP_cons_of_pos rfl

/-- How a wait ends at a provider that takes its time, after looks that were counted. Whatever is
said of the jobs of a run is what the provider answered. -/
inductive Endured (run : RunRef) (limit elapsed : Nat) (polls : UInt32)
    (log : List (Program.Exchange Request Timed)) : Except RunError Completion → Prop
  | late (spent : limit ≤ elapsed) :
      Endured run limit elapsed polls log (.error (.timeout elapsed limit))
  | broken (e : ApiError) : Endured run limit elapsed polls log (.error (.api e))
  | finished {last : Run} {jobs : Except ApiError (List Job)} {seen : Nat} {c : Completion}
      (terminal : last.status.isTerminal = true) (reports : c.Reports last jobs polls seen)
      (listed : c.success = false →
        ∃ time lasted, ⟨time, ⟨run, .listJobs⟩, (jobs, lasted)⟩ ∈ log) :
      Endured run limit elapsed polls log (.ok c)

/-- Every look at a run is started before this time. -/
def LooksBefore (deadline : Nat) (log : List (Program.Exchange Request Timed)) : Prop :=
  ∀ x ∈ log, x.request.call = .getRun → x.time < deadline

theorem looksBefore_nil (deadline : Nat) : LooksBefore deadline [] := List.forall_mem_nil _

theorem LooksBefore.cons {deadline : Nat} {log : List (Program.Exchange Request Timed)}
    (h : LooksBefore deadline log) {x : Program.Exchange Request Timed}
    (first : x.request.call = .getRun → x.time < deadline) : LooksBefore deadline (x :: log) := by
  rintro y (_ | ⟨_, later⟩)
  · exact first
  · exact h y later

/-- What was asked before does not matter to how a wait ends. -/
theorem Endured.cons {run : RunRef} {limit elapsed : Nat} {polls : UInt32}
    {log : List (Program.Exchange Request Timed)} {result : Except RunError Completion}
    (h : Endured run limit elapsed polls log result) (x : Program.Exchange Request Timed) :
    Endured run limit elapsed polls (x :: log) result := by
  cases h with
  | late spent => exact .late spent
  | broken e => exact .broken e
  | finished terminal reports listed =>
    refine .finished terminal reports fun failed => ?_
    obtain ⟨time, lasted, among⟩ := listed failed
    exact ⟨time, lasted, List.mem_cons_of_mem x among⟩

/-- From here on, after some looks and with some left, a program starts no look at or after the
deadline, and ends as a wait may end. -/
def Endures (w : World Request Timed σ) (run : RunRef) (started limit : Nat) (polls : UInt32)
    (left now : Nat) (s : σ) (p : Program Request Timed (Except RunError Completion)) : Prop :=
  ∃ result, (Program.run w now p s).outcome = .ok result ∧
    looksAmong (transcript w now p s) ≤ left ∧
    LooksBefore (started + limit) (transcript w now p s) ∧
    Endured run limit ((Program.run w now p s).time - started)
      (polls + UInt32.ofNat (looksAmong (transcript w now p s))) (transcript w now p s) result

namespace Provider

section Slow

variable (w : World Request Timed σ) (run : RunRef) (started limit interval : Nat)

/-- A wait that ends here without a completion asks nothing more. -/
theorem endures_done {now : Nat} {e : RunError} (s : σ) (polls : UInt32) (left : Nat)
    (ended : Endured run limit (now - started) (polls + UInt32.ofNat 0) [] (.error e)) :
    Endures w run started limit polls left now s (.done (.error e)) :=
  ⟨_, rfl, Nat.zero_le left, looksBefore_nil _, ended⟩

/-- A look that is started before the deadline, and what follows its answer. -/
theorem endures_look {now left : Nat} {polls : UInt32} {s : σ}
    {next : Except ApiError Run → Program Request Timed (Except RunError Completion)}
    (early : now < started + limit) (later : Endures w run started limit (polls + 1) left
      (now + (w ⟨run, .getRun⟩ s).1.2) (w ⟨run, .getRun⟩ s).2 (next (w ⟨run, .getRun⟩ s).1.1)) :
    Endures w run started limit polls (left + 1) now s ((slow ⟨run, .getRun⟩).bind next) := by
  obtain ⟨result, came, few, before, endured⟩ := later
  have asks : transcript w now ((slow ⟨run, .getRun⟩).bind next) s =
      ⟨now, ⟨run, .getRun⟩, (w ⟨run, .getRun⟩ s).1⟩ :: transcript w
        (now + (w ⟨run, .getRun⟩ s).1.2) (next (w ⟨run, .getRun⟩ s).1.1)
          (w ⟨run, .getRun⟩ s).2 := rfl
  refine ⟨result, came, ?_, ?_, ?_⟩
  · rw [asks, looksAmong_cons_look]
    exact Nat.succ_le_succ few
  · rw [asks]
    exact before.cons fun _ => early
  · rw [asks, looksAmong_cons_look, UInt32.ofNat_add, UInt32.add_comm (UInt32.ofNat _),
      ← UInt32.add_assoc]
    exact endured.cons _

variable [Timer]

/-- A run that is over ends the wait, whenever its jobs are listed. -/
theorem endures_terminal {current : Run} (terminal : current.status.isTerminal = true)
    (left : Nat) (polls : UInt32) (now : Nat) (s : σ) :
    Endures w run started limit (polls + 1) left now s
      (afterLook run started limit interval slow left polls (.ok current)) := by
  simp only [Endures, afterLook, if_pos terminal, Program.run, transcript]
  by_cases success : current.conclusion = some .success
  · rw [complete_of_success run (polls + 1) (now - started) slow success]
    have reports : Completion.Reports
        ⟨current, true, current.conclusion, none, [], polls + 1, now - started⟩ current (.ok [])
        (polls + 1 + UInt32.ofNat 0) (now - started) :=
      ⟨rfl, by simp [success], rfl, fun failed => Bool.noConfusion failed, rfl,
        (UInt32.add_zero _).symm, rfl⟩
    exact ⟨_, rfl, Nat.zero_le left, looksBefore_nil _,
      .finished terminal reports fun failed => Bool.noConfusion failed⟩
  · obtain ⟨report, same, reports⟩ := complete_eq run (polls + 1) (now - started) slow success
    rw [same]
    have told := reports (w ⟨run, .listJobs⟩ s).1.1
    rw [← UInt32.add_zero (polls + 1)] at told
    refine ⟨_, rfl, Nat.zero_le left, ?_, .finished terminal told fun _ =>
      ⟨now, (w ⟨run, .listJobs⟩ s).1.2, List.mem_singleton.2 rfl⟩⟩
    exact (looksBefore_nil _).cons fun look => Call.noConfusion look

variable {interval}

/-- The loop of a wait at a provider that takes its time, with enough looks left to reach the
deadline. -/
theorem endures_poll {gap : Nat} (lasts : Timer.lasts interval = gap) (left : Nat) (polls : UInt32)
    (now : Nat) (begun : started ≤ now) (enough : started + limit ≤ now + left * gap) (s : σ) :
    Endures w run started limit polls left now s
      (poll slow run started limit interval left polls) := by
  induction left generalizing polls now s with
  | zero => exact endures_done w run started limit s polls 0 (.late (by omega))
  | succ left ih =>
    rw [poll_eq]
    change Endures w run started limit polls (left + 1) now s (ite _ _ _)
    by_cases late : started + limit ≤ now
    · rw [if_pos late]
      exact endures_done w run started limit s polls (left + 1) (.late (by omega))
    · rw [if_neg late]
      refine endures_look w run started limit (Nat.lt_of_not_le late) ?_
      cases (w ⟨run, .getRun⟩ s).1.1 with
      | error e => exact endures_done w run started limit _ _ left (.broken e)
      | ok current =>
        by_cases terminal : current.status.isTerminal = true
        · exact endures_terminal w run started limit interval terminal left polls _ _
        · have later := ih (polls + 1) (now + (w ⟨run, .getRun⟩ s).1.2 + gap) (by omega)
            (by rw [Nat.succ_mul] at enough; omega) (w ⟨run, .getRun⟩ s).2
          simpa only [Endures, afterLook, if_neg terminal, Program.run, transcript, lasts]
            using later

end Slow

/-! ## Waits -/

/-- The looks before the deadline are those at whole intervals before it. -/
theorem lt_lookCount_iff {limit interval : Nat} (some : 0 < interval) (short : limit ≤ clockRange)
    (k : Nat) : k < lookCount limit interval ↔ k * interval < limit := by
  constructor
  · exact mul_lt_of_lt_lookCount
  · intro early
    have cover := le_lookCount_mul some short
    exact Nat.lt_of_mul_lt_mul_right (Nat.lt_of_lt_of_le early cover)

section Wait

variable [Timer] (run : RunRef) (limit asked now : Nat)

/-- A wait at a provider that answers at once ends as its answers to one look after another say. -/
theorem wait_concludes (w : World Request Request.Answer σ) (s : σ) :
    let p : Conversation (Except RunError Completion) := waitForCompletion direct run limit asked
    let done := Program.run w now p s
    ∃ result, done.outcome = .ok result ∧ Concluded run now limit (Provider.interval asked)
      (shown w run s) (transcript w now p s) result done.time := by
  intro p done
  obtain ⟨result, came, awaited⟩ := waitForCompletion_awaited w run limit asked now s
  exact ⟨result, came, awaited.concluded (transcript_answered w now p s)⟩

/-- A wait at a provider that takes its time starts no look at or after its deadline, and no more
looks than fit before it. -/
theorem wait_endures (short : limit ≤ clockRange) (w : World Request Timed σ) (s : σ) :
    let p : Program Request Timed (Except RunError Completion) :=
      waitForCompletion slow run limit asked
    Endures w run now limit 0 (lookCount limit (Provider.interval asked)) now s p := by
  have cover := le_lookCount_mul (interval_pos asked) short
  exact endures_poll w run now limit rfl _ 0 now (Nat.le_refl now)
    (Nat.add_le_add_left cover now) s

end Wait

end Provider

end Remedy.Workflow
