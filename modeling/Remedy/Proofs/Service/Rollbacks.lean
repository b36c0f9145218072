import Remedy.Proofs.Service.Deeds
import Remedy.Proofs.Service.Gates

/-!
# Rollbacks

A call that rolls back reports what came of that beside what was known before: what the execution
did, that it had to be rolled back and what the checks after it said. That holds of a call alone and
of every call among others. A rollback that breaks off is the exception, since the call then ends
with a report that is made afresh.
-/

namespace Remedy

variable {Q : Type} {A : Q → Type} {σ : Type}

section Call

variable (s : Service Q A) (w : Program.World Q A σ) (date : Nat → Time.Instant) (now : Nat)
  (b : Board) (world : σ) {undone : Except Panic (Except Fault String)}

/-- A rollback comes after an execution that returned. -/
theorem Execution.conclude_rollback {e : Execution Q A}
    (rolled : .rollback undone ∈ (e.conclude s w date now b world).ran) :
    ∃ returned, (e.conclude s w date now b world).ran =
        [.execution e.remediator (.ok returned), .rollback undone] ∧
      (e.conclude s w date now b world).report.Tells s e.record.ticket returned undone := by
  simp only [conclude] at rolled ⊢
  generalize Program.run w now e.program world = done at rolled ⊢
  generalize hnext : e.settle s ⟨done.time, date done.time⟩ done.outcome (b.emitAll done.events)
    = next at rolled ⊢
  obtain ⟨report | u, b'⟩ := next
  · cases rolled with
    | tail _ none => cases none
  · obtain ⟨returned, came, brings⟩ := Execution.settle_waiting hnext
    refine ⟨returned, ?_⟩
    dsimp only at rolled ⊢
    rw [came] at rolled ⊢
    rw [Undo.conclude] at rolled ⊢
    generalize Program.run w done.time u.program done.world = last at rolled ⊢
    cases rolled with
    | tail _ rolled =>
      cases List.mem_singleton.1 rolled
      exact ⟨rfl, brings.tells ..⟩

theorem Service.execute_rollback {t : Ticket}
    (rolled : .rollback undone ∈ (s.execute w date now t b world).ran) :
    ∃ remediator returned, (s.execute w date now t b world).ran =
        [.execution remediator (.ok returned), .rollback undone] ∧
      (s.execute w date now t b world).report.Tells s t returned undone := by
  obtain ⟨x, received, hd⟩ := s.execute_cases w date now b world t
  rw [hd] at rolled ⊢
  cases received with
  | refused | unresolved | exhausted => cases rolled
  | @unmetered e b' _ _ ticket | @granted e b' _ _ ticket =>
    obtain ⟨returned, concluded⟩ := Execution.conclude_rollback s w date now b' world rolled
    rw [ticket] at concluded
    exact ⟨e.remediator, returned, concluded⟩

end Call

namespace Pool

/-- A call that rolled back did so after an execution that returned, and ended with it. -/
theorem Course.rolledBack {s : Service Q A} {t : Ticket} {phase : Option (Phase Q A)}
    {deeds : List Deed} (course : Course s t phase deeds)
    {outcome : Except Panic (Except Fault String)} (rolled : .undone outcome ∈ deeds) :
    ∃ returned report, deeds =
        [.began, .executed (.ok returned), .undone outcome, .ended false report] ∧
      report.Tells s t returned outcome := by
  induction course with
  | stopped | executing | closed | rollingBack => simp at rolled
  | undone tells =>
    have same := by simpa using rolled
    subst same
    exact ⟨_, _, rfl, tells⟩
  | left _ ih => exact ih rolled

end Pool

namespace Service

/-- However a rollback ends, the report of its call says that the call failed, whether it was rolled
back, and, unless the rollback broke off, all that was known before it: the actions of the
execution, that a rollback was required, and that the checks after the execution objected. So it is
for a call alone and for every call of a pool. -/
theorem rollback_is_told (s : Service Q A) (w : Program.World Q A σ)
    (undone : Except Panic (Except Fault String)) (b : Board) (world : σ) :
    (∀ (date : Nat → Time.Instant) (now : Nat) (t : Ticket),
      let d := s.execute w date now t b world
      .rollback undone ∈ d.ran → ∃ remediator returned,
        d.ran = [.execution remediator (.ok returned), .rollback undone] ∧
        d.report.Tells s t returned undone) ∧
    (∀ (moves : List Pool.Move) (i : Nat),
      let x : Pool Q A σ := ⟨[], b, world, []⟩
      let notes := x.chronicle s w moves
      (i, .undone undone) ∈ notes → ∃ c returned report,
        (x.run s w moves).calls[i]? = some c ∧
        Pool.about i notes =
          [.began, .executed (.ok returned), .undone undone, .ended false report] ∧
        report.Tells s c.ticket returned undone) := by
  refine ⟨fun date now t => s.execute_rollback w date now b world, fun moves i => ?_⟩
  intro x notes rolled
  obtain ⟨c, out, course, done⟩ := (Pool.chronicled_run s w b world moves).course rolled
  obtain ⟨returned, report, deeds, tells⟩ := course.rolledBack done
  exact ⟨c, returned, report, out, deeds, tells⟩

/-- A result that the checks object to, and a rollback that fails. -/
theorem rollback_is_told_of_fault :
    let remediator : Remediator Unit fun _ => Unit :=
      { Remediator.plain .noOp fun _ _ => .done (.succeeded "done" ["did it"] 0.0) with
        rollback := some fun _ _ => .done (.error (.rollback "no way back")) }
    let smoke : NamedCheck := ⟨"smoke", fun _ => .fail "smoke" "still failing" .critical⟩
    let s : Service Unit fun _ => Unit :=
      ⟨Registry.empty.register remediator, ⟨Stage.preValidation, []⟩,
        ⟨Stage.postValidation, [smoke]⟩⟩
    let w : Program.World Unit (fun _ => Unit) Unit := fun _ u => (u, u)
    let plan : Plan := { Plan.new .noOp "" with requiresRollbackSnapshot := true }
    let t : Ticket := ⟨.new ⟨7⟩ ⟨1700000000, 0⟩ .github "flaky_test", plan, .standard⟩
    let d := s.execute w (fun _ => ⟨1700000000, 0⟩) 0 t (.new ⟨10, 1, 1, .standard⟩) ()
    let undone : Except Panic (Except Fault String) := .ok (.error (.rollback "no way back"))
    .rollback undone ∈ d.ran ∧ d.report.success = false ∧ d.report.rollbackPerformed = false ∧
      ["did it"] <+: d.report.actionsPerformed ∧ d.report.rollbackRequired = true ∧
      d.report.postValidationPassed = false := by
  intro remediator smoke s w plan t d undone
  have ran : d.ran = [.execution remediator (.ok (.succeeded "done" ["did it"] 0.0)),
      .rollback undone] := by rfl
  have rolled : .rollback undone ∈ d.ran := by
    rw [ran]
    exact .tail _ (.head _)
  obtain ⟨found, returned, ran', tells⟩ :=
    (s.rollback_is_told w undone (.new ⟨10, 1, 1, .standard⟩) ()).1 _ 0 t rolled
  cases ran'.symm.trans ran
  obtain ⟨actions, required, checked⟩ := tells.kept nofun
  have unperformed : d.report.rollbackPerformed = false := by
    rw [Bool.eq_false_iff, ne_eq, tells.performed]
    rintro ⟨description, fine⟩
    simp [undone] at fine
  exact ⟨rolled, tells.failed, unperformed, actions, required, (checked rfl).2⟩

/-- A rollback that breaks off: what the execution did is in the report no more, nor that it had to
be rolled back and that the checks after it objected. -/
theorem rollback_is_not_told_of_panic :
    let remediator : Remediator Unit fun _ => Unit :=
      { Remediator.plain .noOp fun _ _ => .done (.succeeded "done" ["did it"] 0.0) with
        rollback := some fun _ _ => .abort (.text "undo exploded") }
    let smoke : NamedCheck := ⟨"smoke", fun _ => .fail "smoke" "still failing" .critical⟩
    let s : Service Unit fun _ => Unit :=
      ⟨Registry.empty.register remediator, ⟨Stage.preValidation, []⟩,
        ⟨Stage.postValidation, [smoke]⟩⟩
    let w : Program.World Unit (fun _ => Unit) Unit := fun _ u => (u, u)
    let plan : Plan := { Plan.new .noOp "" with requiresRollbackSnapshot := true }
    let t : Ticket := ⟨.new ⟨7⟩ ⟨1700000000, 0⟩ .github "flaky_test", plan, .standard⟩
    let d := s.execute w (fun _ => ⟨1700000000, 0⟩) 0 t (.new ⟨10, 1, 1, .standard⟩) ()
    (∃ returned, d.ran = [.execution remediator (.ok returned),
        .rollback (.error (.text "undo exploded"))] ∧
      returned.actionsPerformed = ["did it"] ∧ returned.success = true ∧
      s.confirms t returned = false) ∧
      d.report.actionsPerformed = [] ∧ d.report.rollbackRequired = false ∧
      d.report.postValidationPassed = true := by
  intro remediator smoke s w plan t d
  exact ⟨⟨.succeeded "done" ["did it"] 0.0, by rfl, by rfl, by rfl, by decide +kernel⟩, by rfl,
    by rfl, by rfl⟩

end Service

end Remedy
