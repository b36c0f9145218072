import Remedy.Proofs.Rerun.Reports
import Remedy.Workflow.Script

/-!
# Which attempt is reported

A rerun that is waited for reports the first end of the run that it is shown after the request was
accepted. Whether that is the end of the new attempt is up to the provider: the attempt that it was
shown before is not compared.
-/

namespace Remedy.Rerun

open Json Workflow

variable {σ : Type}

/-- One look found a later attempt of the run than the other. -/
def Later (before after : Run) : Prop :=
  ∃ a b, before.attempt = some a ∧ after.attempt = some b ∧ a < b

/-- A report that rests on an end of the run: a success, or a failure with a conclusion. -/
def Concludes (report : Report) : Prop :=
  report.success = true ∨ (report.metadata.get? "conclusion").isSome = true

section Report

variable (p : Parameters) (elapsed : Nat) (actions : List String)

/-- A failed request and a deadline that was reached have no conclusion. -/
theorem not_concludes_of_error (e : RunError) :
    ¬ Concludes (reportOf p elapsed (actions, .error e)) := by
  rintro (fine | concluded)
  · cases e <;> cases fine
  · cases e with
    | api cause =>
      simp [reportOf, failureReport, metadata_withMetadata] at concluded
      cases concluded
    | timeout took limit =>
      simp [reportOf, failureReport, metadata_withMetadata] at concluded
      cases concluded

theorem canonical_conclusion (c : Option Conclusion) : (encode c).canonical = encode c := by
  cases c <;> rfl

/-- The conclusion of a run that did not succeed is in the report. -/
theorem reportOf_conclusion {c : Completion} (failed : c.success = false) :
    (reportOf p elapsed (actions, .ok (.completed c))).metadata.get? "conclusion" =
      some (encode c.conclusion) := by
  simp only [reportOf, progressReport, failed, Bool.false_eq_true, if_false, metadata_withMetadata]
  simp [canonical_conclusion]

theorem reportOf_success (c : Completion) :
    (reportOf p elapsed (actions, .ok (.completed c))).success = c.success := by
  simp only [reportOf, progressReport]
  split
  · next fine => exact fine.symm
  · next failed => exact (Bool.eq_false_iff.2 failed).symm

end Report

/-- What a report rests on that has a conclusion: after the rerun was accepted the run was found on
its way, and then at its end. -/
structure Rests [Timer] (p : Parameters) (now : Nat) (log : List Exchange) (time : Nat)
    (report : Report) (before last : Run) : Prop where
  asked : ∃ (pending : List Run) (jobs : Except ApiError (List Job)),
    (∀ r ∈ pending, r.status.isTerminal = false) ∧
      log = look p.run now (.ok before) :: order p now (.ok ()) ::
        (looks p.run p.interval now (pending.map .ok ++ [.ok last]) ++ listing p.run time last jobs)
  ended : last.status.isTerminal = true
  success : report.success = true ↔ last.conclusion = some .success
  conclusion : report.success = false →
    report.metadata.get? "conclusion" = some (encode last.conclusion)

/-- The run that a report rests on is the first one that was found at its end. -/
theorem Rests.finished [Timer] {p : Parameters} {now time : Nat} {log : List Exchange}
    {report : Report} {before last : Run} (h : Rests p now log time report before last) :
    finished? log = some last := by
  obtain ⟨pending, jobs, going, rfl⟩ := h.asked
  have found := find_looks p.run now p.interval going [.ok last]
  simp only [finished?, List.drop_succ_cons, List.drop_zero]
  rw [List.filterMap_append, filterMap_listing, List.append_nil, found]
  simp [Except.toOption, h.ended]

theorem Course.rests [Timer] {p : Parameters} {now time elapsed : Nat} {log : List Exchange}
    {done : List String × Except RunError Progress} (course : Course p now log done time)
    (waits : p.waitForCompletion = true) (concludes : Concludes (reportOf p elapsed done)) :
    ∃ before last, Rests p now log time (reportOf p elapsed done) before last := by
  cases course with
  | unseen | refused => exact absurd concludes (not_concludes_of_error _ _ _ _)
  | triggered hasty =>
    rw [waits] at hasty
    cases hasty
  | @awaited before rest result time _ awaited =>
    cases awaited with
    | expired | broken => exact absurd concludes (not_concludes_of_error _ _ _ _)
    | @finished pending last c jobs going early terminal reports =>
      refine ⟨before, last, ⟨⟨pending, jobs, going, ?_⟩, terminal, ?_, fun failed => ?_⟩⟩
      · rw [Nat.zero_mul, Nat.add_zero]
      · rw [← reports.success]
        exact Bool.eq_iff_iff.1 (reportOf_success ..)
      · have failed : c.success = false := (reportOf_success ..).symm.trans failed
        rw [← reports.conclusion]
        exact reportOf_conclusion _ _ _ failed

/-- A provider shows no end of an attempt that is not later, once it has accepted the rerun. -/
def Renews (before : Run) (log : List Exchange) : Prop :=
  ∀ r ∈ (log.drop 2).filterMap seen?, r.status.isTerminal = true → Later before r

/-- Whatever a provider answers, a rerun that is waited for and reported with a conclusion rests on
the first end of the run that it was shown after the request was accepted. That is an end of a later
attempt than was seen before when the provider shows no end of the earlier attempt any more. -/
theorem completion_is_of_new_attempt [Timer] (w : Program.World Request Request.Answer σ)
    (defaults : Defaults) (incident : Incident) (plan : Plan) (now : Nat) (s : σ) {p : Parameters}
    (resolved : Parameters.resolve incident plan defaults = .ok p)
    (waits : p.waitForCompletion = true) :
    let program : Conversation Report := execute Provider.direct defaults incident plan
    let log := Program.transcript w now program s
    let d := Program.run w now program s
    ∀ report, d.outcome = .ok report → Concludes report → ∃ before last,
      Rests p now log d.time report before last ∧ finished? log = some last ∧
        (Renews before log → Later before last) := by
  intro program log d report came concludes
  obtain ⟨done, outcome, course⟩ := execute_course w defaults incident plan now s resolved
  cases came.symm.trans outcome
  obtain ⟨before, last, rests⟩ := course.rests waits concludes
  have finished := rests.finished
  refine ⟨before, last, rests, finished, fun renews => ?_⟩
  exact renews last (List.mem_of_find?_eq_some finished) rests.ended

/-- The run that was seen first. -/
theorem Rests.before [Timer] {p : Parameters} {now time : Nat} {log : List Exchange}
    {report : Report} {before last : Run} (h : Rests p now log time report before last) :
    (log.filterMap seen?).head? = some before := by
  obtain ⟨pending, jobs, -, rfl⟩ := h.asked
  rfl

section ThirtyYears

attribute [local instance] Timer.thirtyYears

/-- The rerun of a run that failed is found queued, on its way and at its end. -/
theorem completion_is_of_new_attempt_scripted :
    let incident : Incident := .new ⟨7⟩ ⟨1700000000, 0⟩ .github "flaky_test"
    let plan : Plan := (((Plan.new .rerunWorkflow "").withParameter "owner"
      (.str "acme")).withParameter "repo" (.str "widgets")).withParameter "run_id" (natural 42)
    let p : Parameters := ⟨⟨"acme", "widgets", 42⟩, true, 600, 10, true⟩
    let program : Conversation Report := execute Provider.direct .standard incident plan
    let log := Program.transcript Script.answer 0 program (Script.completesWith .success)
    let d := Program.run Script.answer 0 program (Script.completesWith .success)
    Parameters.resolve incident plan .standard = .ok p ∧ p.waitForCompletion = true ∧
      ∃ report, d.outcome = .ok report ∧ Concludes report ∧ ∃ before last,
        Rests p 0 log d.time report before last ∧ Later before last := by
  intro incident plan p program log d
  have resolved : Parameters.resolve incident plan .standard = .ok p := by rfl
  obtain ⟨report, came⟩ : ∃ report, d.outcome = .ok report := ⟨_, rfl⟩
  have fine : d.outcome.toOption.map Report.success = some true := by rfl
  rw [came] at fine
  have concludes : Concludes report := .inl (Option.some.inj fine)
  obtain ⟨before, last, rests, -, later⟩ := completion_is_of_new_attempt Script.answer .standard
    incident plan 0 (Script.completesWith .success) resolved rfl report came concludes
  have attempts : (log.filterMap seen?).map Run.attempt = [some 1, some 2, some 2, some 2] := by rfl
  have new : ((log.drop 2).filterMap seen?).map Run.attempt = [some 2, some 2, some 2] := by rfl
  have old : before.attempt = some 1 := by
    have first := congrArg List.head? attempts
    rw [List.head?_map, rests.before] at first
    exact Option.some.inj first
  refine ⟨resolved, rfl, report, came, concludes, before, last, rests, later fun r among _ => ?_⟩
  have attempt := List.mem_map_of_mem (f := Run.attempt) among
  rw [new] at attempt
  exact ⟨1, 2, old, by simpa using attempt, by decide⟩

/-- A run that has been rerun once and is asked for again: the provider accepts, and still shows the
end of the attempt that it showed before. That end is reported as the success of the new attempt. -/
theorem stale_end_is_reported :
    let incident : Incident := .new ⟨7⟩ ⟨1700000000, 0⟩ .github "flaky_test"
    let plan : Plan := (((Plan.new .rerunWorkflow "").withParameter "owner"
      (.str "acme")).withParameter "repo" (.str "widgets")).withParameter "run_id" (natural 42)
    let program : Conversation Report := execute Provider.direct .standard incident plan
    let first := Program.run Script.answer 0 program Script.new
    let log := Program.transcript Script.answer first.time program first.world
    let d := Program.run Script.answer first.time program first.world
    ∃ report before last, d.outcome = .ok report ∧ report.success = true ∧
      finished? log = some last ∧ (log.filterMap seen?).head? = some before ∧
      log.map accepts = [false, true, false] ∧ before.attempt = some 2 ∧ last.attempt = some 2 ∧
      ¬ Later before last := by
  intro incident plan program first log d
  obtain ⟨report, came⟩ : ∃ report, d.outcome = .ok report := ⟨_, rfl⟩
  have fine : d.outcome.toOption.map Report.success = some true := by decide +kernel
  rw [came] at fine
  have new : (finished? log).map Run.attempt = some (some 2) := by decide +kernel
  have old : (log.filterMap seen?).head?.map Run.attempt = some (some 2) := by decide +kernel
  obtain ⟨last, finished, new⟩ := Option.map_eq_some_iff.1 new
  obtain ⟨before, looked, old⟩ := Option.map_eq_some_iff.1 old
  have accepted : log.map accepts = [false, true, false] := by decide +kernel
  refine ⟨report, before, last, came, Option.some.inj fine, finished, looked, accepted, old, new,
    ?_⟩
  rintro ⟨a, b, ha, hb, lt⟩
  rw [old] at ha
  rw [new] at hb
  cases ha
  cases hb
  exact absurd lt (by decide)

end ThirtyYears

end Remedy.Rerun
