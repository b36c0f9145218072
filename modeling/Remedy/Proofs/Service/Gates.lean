import Remedy.Proofs.Service.Steps

/-!
# Nothing is executed past a gate

A call executes when the checks let it through, its action has a remediator that accepts it and its
target has budget left, and it executes once. Whoever is stopped before that leaves the world and
the limiter as they were.
-/

namespace Remedy

variable {Q : Type} {A : Q → Type} {σ : Type}

/-- The execution among what a call ran, with the remediator that carried it out. -/
def Ran.execution? : Ran Q A → Option (Remediator Q A × Except Panic Report)
  | execution remediator outcome => some (remediator, outcome)
  | rollback _ => none

def CallEnd.executions (d : CallEnd Q A σ) : List (Remediator Q A × Except Panic Report) :=
  d.ran.filterMap Ran.execution?

/-- Only a remediator that is registered for the action and accepts the pair is found. -/
theorem Registry.resolve_ok {reg : Registry Q A} {incident : Incident} {plan : Plan}
    {r : Remediator Q A} (found : reg.resolve incident plan = .ok r) :
    reg.get? plan.actionType = some r ∧ r.canHandle incident plan = true := by
  rw [resolve] at found
  split at found
  · cases found
  · next registered =>
    split at found
    · next accepted =>
      cases found
      exact ⟨registered, accepted⟩
    · cases found

theorem Registry.eq_of_get?_register_empty {r r' : Remediator Q A} {action : ActionType}
    (registered : (empty.register r).get? action = some r') : r' = r := by
  have only := Dict.get?_insert (empty : Registry Q A) r.actionType.name r action.name
  have same := only.symm.trans registered
  split at same
  · exact (Option.some.inj same).symm
  · cases same

theorem Undo.conclude_success (u : Undo Q A) (w : Program.World Q A σ)
    (date : Nat → Time.Instant) (now : Nat) (b : Board) (world : σ)
    (failed : u.report.success = false) :
    (u.conclude w date now b world).report.success = false :=
  u.settle_success _ _ _ failed

/-- A call that executes runs its execution once, and is a success only as that says. -/
theorem Execution.conclude_executions (e : Execution Q A) (s : Service Q A)
    (w : Program.World Q A σ) (date : Nat → Time.Instant) (now : Nat) (b : Board) (world : σ) :
    let d := e.conclude s w date now b world
    let outcome := (Program.run w now e.program world).outcome
    d.executions = [(e.remediator, outcome)] ∧
      (d.report.success = true → ∃ returned, outcome = .ok returned ∧ returned.success = true ∧
        s.confirms e.record.ticket returned = true) := by
  intro d outcome
  obtain ⟨done, hdone⟩ : ∃ done, Program.run w now e.program world = done := ⟨_, rfl⟩
  have settled := e.settle_settled s ⟨done.time, date done.time⟩ done.outcome
    (b.emitAll done.events)
  obtain ⟨next, hnext⟩ : ∃ next, e.settle s ⟨done.time, date done.time⟩ done.outcome
    (b.emitAll done.events) = next := ⟨_, rfl⟩
  have hd : d = e.conclude s w date now b world := rfl
  have ho : outcome = done.outcome := by rw [← hdone]
  simp only [conclude, hdone, hnext] at hd
  rw [hnext] at settled
  rw [hd, ho]
  cases settled with
  | panicked broke failed =>
    refine ⟨rfl, fun success => ?_⟩
    exact Bool.noConfusion (failed.symm.trans success)
  | ended came success => exact ⟨rfl, fun fine => ⟨_, came, success fine⟩⟩
  | @undoing u b' returned came ticket offered failed limiter =>
    refine ⟨rfl, fun success => ?_⟩
    have none := u.conclude_success w date done.time b' done.world failed
    exact Bool.noConfusion (none.symm.trans success)

namespace Service

section Call

variable (s : Service Q A) (w : Program.World Q A σ) (date : Nat → Time.Instant) (now : Nat)
  {t : Ticket} (b : Board) (world : σ)

/-- A call after its first step. -/
def proceed : Next (Execution Q A) × Board → CallEnd Q A σ
  | (.ended report, b) => ⟨report, now, b, world, []⟩
  | (.waiting e, b) => e.conclude s w date now b world

theorem execute_cases (t : Ticket) : ∃ x, Received s ⟨now, date now⟩ t b x ∧
    s.execute w date now t b world = s.proceed w date now world x := by
  refine ⟨_, s.receive_received ⟨now, date now⟩ t b, ?_⟩
  rw [execute]
  rfl

theorem execute_refused (stopped : s.clears t = false) :
    let d := s.execute w date now t b world
    d.report.success = false ∧ d.report.outcome = .rejected ∧ d.ran = [] ∧ d.world = world ∧
      d.board.limiter = b.limiter := by
  intro d
  obtain ⟨x, received, hd⟩ := s.execute_cases w date now b world t
  change d = _ at hd
  rw [hd]
  cases received with
  | refused _ failed rejected limiter => exact ⟨failed, rejected, rfl, rfl, limiter⟩
  | unresolved cleared | exhausted cleared | unmetered cleared | granted cleared =>
    rw [stopped] at cleared
    cases cleared

theorem execute_unresolved {f : Fault} (cleared : s.clears t = true)
    (none : s.registry.resolve t.incident t.plan = .error f) :
    let d := s.execute w date now t b world
    d.report.success = false ∧ d.report.outcome = .failed ∧ d.ran = [] ∧ d.world = world ∧
      d.board.limiter = b.limiter := by
  intro d
  obtain ⟨x, received, hd⟩ := s.execute_cases w date now b world t
  change d = _ at hd
  rw [hd]
  cases received with
  | refused stopped =>
    rw [stopped] at cleared
    cases cleared
  | unresolved _ _ failed outcome limiter => exact ⟨failed, outcome, rfl, rfl, limiter⟩
  | exhausted _ found | unmetered _ found | granted _ found =>
    rw [none] at found
    cases found

theorem execute_exhausted {r : Remediator Q A} (cleared : s.clears t = true)
    (found : s.registry.resolve t.incident t.plan = .ok r)
    (denied : t.affords b.limiter (date now) = false) :
    let d := s.execute w date now t b world
    d.report.success = false ∧ d.report.outcome = .rejected ∧ d.ran = [] ∧ d.world = world ∧
      d.board.limiter = (b.limiter.enter (date now) (b.limiter.keyFor t.incident)).2 := by
  intro d
  obtain ⟨x, received, hd⟩ := s.execute_cases w date now b world t
  change d = _ at hd
  rw [hd]
  cases received with
  | refused stopped =>
    rw [stopped] at cleared
    cases cleared
  | unresolved _ none =>
    rw [found] at none
    cases none
  | exhausted _ _ _ failed rejected limiter => exact ⟨failed, rejected, rfl, rfl, limiter⟩
  | unmetered _ _ _ skipped =>
    rw [Ticket.affords_of_skipped skipped] at denied
    cases denied
  | granted _ _ _ asked passed =>
    rw [Ticket.affords_of_asked asked, passed] at denied
    cases denied

/-- A call that nothing stops runs the execution of its remediator. -/
theorem execute_executes {r : Remediator Q A} (cleared : s.clears t = true)
    (found : s.registry.resolve t.incident t.plan = .ok r)
    (afforded : t.affords b.limiter (date now) = true) :
    let d := s.execute w date now t b world
    let outcome := (Program.run w now (r.execute t.incident t.plan) world).outcome
    d.executions = [(r, outcome)] ∧
      (d.report.success = true → ∃ returned, outcome = .ok returned ∧ returned.success = true ∧
        s.confirms t returned = true) := by
  intro d outcome
  obtain ⟨x, received, hd⟩ := s.execute_cases w date now b world t
  change d = _ at hd
  rw [hd]
  cases received with
  | refused stopped =>
    rw [stopped] at cleared
    cases cleared
  | unresolved _ none =>
    rw [found] at none
    cases none
  | exhausted _ _ denied =>
    rw [afforded] at denied
    cases denied
  | @unmetered e b' _ found' ticket | @granted e b' _ found' ticket =>
    rw [found] at found'
    cases found'
    have concluded := e.conclude_executions s w date now b' world
    rw [Execution.program, ticket] at concluded
    exact concluded

/-- A gate that a ticket gets to stops it. -/
def stops (t : Ticket) : Prop :=
  s.clears t = false ∨
    (∃ r, s.registry.resolve t.incident t.plan = .ok r) ∧ t.affords b.limiter (date now) = false

theorem execute_stopped (stopped : s.stops date now b t) :
    let d := s.execute w date now t b world
    d.report.success = false ∧ d.report.outcome = .rejected ∧ d.ran = [] ∧ d.world = world ∧
      ∀ next, b.limiter.config.cutoff (date now) ≤ b.limiter.config.cutoff next → ∀ key,
        (d.board.limiter.snapshot next key).1.attemptsInWindow =
            (b.limiter.snapshot next key).1.attemptsInWindow ∧
          (d.board.limiter.snapshot next key).1.inFlight =
            (b.limiter.snapshot next key).1.inFlight := by
  cases cleared : s.clears t with
  | false =>
    obtain ⟨failed, rejected, ran, same, limiter⟩ :=
      s.execute_refused w date now b world cleared
    refine ⟨failed, rejected, ran, same, fun next _ key => ?_⟩
    rw [limiter]
    exact ⟨rfl, rfl⟩
  | true =>
    rcases stopped with refused | ⟨⟨r, found⟩, denied⟩
    · rw [cleared] at refused
      cases refused
    · obtain ⟨failed, rejected, ran, same, limiter⟩ :=
        s.execute_exhausted w date now b world cleared found denied
      refine ⟨failed, rejected, ran, same, fun next later key => ?_⟩
      rw [limiter]
      exact b.limiter.snapshot_enter later (b.limiter.keyFor t.incident) key

/-- A call executes at most once, and only when both gates are open or skipped and its action has a
remediator that accepts it. A gate that stops it leaves everything as it was: nothing of a
remediator runs, and the limiter gives the same counts for every target, at the reading of the call
and at every reading whose cutoff is no earlier. A success is a success of the execution that no
check after it objects to. -/
theorem execute_keeps_gates (t : Ticket) :
    let d := s.execute w date now t b world
    d.executions.length ≤ 1 ∧
    (d.executions ≠ [] ↔ s.Executes t b.limiter (date now)) ∧
    (∀ r outcome, (r, outcome) ∈ d.executions →
      s.registry.get? t.plan.actionType = some r ∧ r.canHandle t.incident t.plan = true ∧
      outcome = (Program.run w now (r.execute t.incident t.plan) world).outcome) ∧
    (s.stops date now b t →
      d.report.success = false ∧ d.report.outcome = .rejected ∧ d.ran = [] ∧ d.world = world ∧
      ∀ next, b.limiter.config.cutoff (date now) ≤ b.limiter.config.cutoff next → ∀ key,
        (d.board.limiter.snapshot next key).1.attemptsInWindow =
            (b.limiter.snapshot next key).1.attemptsInWindow ∧
          (d.board.limiter.snapshot next key).1.inFlight =
            (b.limiter.snapshot next key).1.inFlight) ∧
    (∀ f, s.clears t = true → s.registry.resolve t.incident t.plan = .error f →
      d.report.success = false ∧ d.report.outcome = .failed ∧ d.ran = [] ∧ d.world = world ∧
      d.board.limiter = b.limiter) ∧
    (d.report.success = true → ∃ r returned,
      d.executions = [(r, .ok returned)] ∧ returned.success = true ∧
      s.confirms t returned = true) := by
  intro d
  have unresolved : ∀ f, s.clears t = true →
      s.registry.resolve t.incident t.plan = .error f → _ :=
    fun _ cleared none => s.execute_unresolved w date now b world cleared none
  by_cases opens : s.Executes t b.limiter (date now)
  · obtain ⟨cleared, ⟨r, found⟩, afforded⟩ := opens
    obtain ⟨executed, success⟩ := s.execute_executes w date now b world cleared found afforded
    change d.executions = _ at executed
    refine ⟨?_, ?_, ?_, s.execute_stopped w date now b world, unresolved, ?_⟩
    · rw [executed]
      exact Nat.le_refl 1
    · rw [executed]
      exact ⟨fun _ => ⟨cleared, ⟨r, found⟩, afforded⟩, fun _ => List.cons_ne_nil _ _⟩
    · intro r' outcome hmem
      rw [executed, List.mem_singleton] at hmem
      cases hmem
      obtain ⟨registered, accepted⟩ := Registry.resolve_ok found
      exact ⟨registered, accepted, rfl⟩
    · intro fine
      obtain ⟨returned, came, rest⟩ := success fine
      exact ⟨r, returned, came ▸ executed, rest⟩
  · have nothing : d.report.success = false ∧ d.executions = [] := by
      cases cleared : s.clears t with
      | false =>
        obtain ⟨failed, -, ran, -⟩ := s.execute_refused w date now b world cleared
        exact ⟨failed, congrArg (List.filterMap Ran.execution?) ran⟩
      | true =>
        cases found : s.registry.resolve t.incident t.plan with
        | error f =>
          obtain ⟨failed, -, ran, -⟩ := unresolved f cleared found
          exact ⟨failed, congrArg (List.filterMap Ran.execution?) ran⟩
        | ok r =>
          have denied : t.affords b.limiter (date now) = false :=
            Bool.eq_false_iff.2 fun afforded => opens ⟨cleared, ⟨r, found⟩, afforded⟩
          obtain ⟨failed, -, ran, -⟩ :=
            s.execute_exhausted w date now b world cleared found denied
          exact ⟨failed, congrArg (List.filterMap Ran.execution?) ran⟩
    obtain ⟨failed, none⟩ := nothing
    refine ⟨?_, ?_, ?_, s.execute_stopped w date now b world, unresolved, ?_⟩
    · rw [none]
      exact Nat.zero_le 1
    · exact ⟨fun some => absurd none some, fun all => absurd all opens⟩
    · intro r outcome hmem
      rw [none] at hmem
      cases hmem
    · intro fine
      rw [failed] at fine
      cases fine

end Call

/-- A target with a budget of one: the first call executes, the second is stopped. -/
theorem execute_keeps_gates_twice :
    let remediator : Remediator Unit fun _ => Unit :=
      .plain .noOp fun _ _ => .done (.succeeded "done" [] 0.0)
    let s : Service Unit fun _ => Unit :=
      ⟨Registry.empty.register remediator, ⟨Stage.preValidation, []⟩, ⟨Stage.postValidation, []⟩⟩
    let world : Program.World Unit (fun _ => Unit) Unit := fun _ u => (u, u)
    let date : Nat → Time.Instant := fun ms => ⟨1700000000 + ms / 1000, 0⟩
    let t : Ticket := ⟨.new ⟨7⟩ ⟨1700000000, 0⟩ .github "flaky_test", .new .noOp "", .standard⟩
    let b : Board := (s.execute world date 0 t (.new ⟨10, 1, 1, .standard⟩) ()).board
    (s.execute world date 0 t (.new ⟨10, 1, 1, .standard⟩) ()).executions ≠ [] ∧
      (s.execute world date 1000 t b ()).ran = [] ∧
      (s.execute world date 1000 t b ()).report.outcome = .rejected ∧
      ((s.execute world date 1000 t b ()).board.limiter.snapshot (date 1000)
        .global).1.attemptsInWindow = 1 := by
  intro remediator s world date t b
  have found : s.registry.resolve t.incident t.plan = .ok remediator := by rfl
  have cleared : s.clears t = true := by decide +kernel
  have afforded : t.affords (.new ⟨10, 1, 1, .standard⟩) (date 0) = true := by decide +kernel
  have denied : t.affords b.limiter (date 1000) = false := by decide +kernel
  obtain ⟨-, executes, -⟩ :=
    s.execute_keeps_gates world date 0 (.new ⟨10, 1, 1, .standard⟩) () t
  obtain ⟨-, -, -, stops, -⟩ := s.execute_keeps_gates world date 1000 b () t
  obtain ⟨-, rejected, ran, -, same⟩ := stops (.inr ⟨⟨remediator, found⟩, denied⟩)
  have one : (b.limiter.snapshot (date 1000) .global).1.attemptsInWindow = 1 := by
    decide +kernel
  have kept := (same (date 1000) (Time.Instant.le_refl _) .global).1
  exact ⟨executes.2 ⟨cleared, ⟨remediator, found⟩, afforded⟩, ran, rejected, kept.trans one⟩

end Service

end Remedy
