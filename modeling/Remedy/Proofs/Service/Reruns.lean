import Remedy.Proofs.Checks.Batteries
import Remedy.Proofs.Rerun.Restraint
import Remedy.Proofs.Service.Gates
import Remedy.Proofs.Service.Notes
import Remedy.Workflow.Script

/-!
# A service that only reruns

A service whose only remediator reruns workflows asks for one rerun at most in every call and
cancels nothing. The standard checks after an execution pass every rerun that succeeded, and no
rerun asks to be rolled back, so no call gets to a rollback.
-/

namespace Remedy

open Workflow

/-- The service of a configuration whose only remediator reruns workflows. -/
def Service.ofReruns [Timer] (config : Config) (defaults : Rerun.Defaults) :
    Service Request Request.Answer :=
  .ofConfig config (Registry.empty.register (Rerun.remediator Provider.direct defaults))

variable {σ : Type}

/-! ## The steps of a call -/

/-- A step that ends a call without a rollback. -/
def Next.Unrolled {W : Type} : Next W → Prop :=
  Leaves (fun report => report.outcome ≠ .rolledBack ∧ report.rollbackPerformed = false)
    fun _ => True

section Receive

variable {Q : Type} {A : Q → Type} (r : Record) (m : Moment) (b : Board)

theorem Record.blastRadiusGate_unrolled (remediator : Remediator Q A) :
    (r.blastRadiusGate m remediator b).1.Unrolled := by
  simp only [blastRadiusGate]
  split
  · trivial
  · split
    · exact ⟨Outcome.noConfusion, rfl⟩
    · trivial

theorem Service.receive_unrolled (s : Service Q A) (t : Ticket) :
    (s.receive m t b).1.Unrolled := by
  have resolved (r : Record) (b : Board) : (r.resolve s m b).1.Unrolled := by
    rw [Record.resolve]
    split
    · exact ⟨Outcome.noConfusion, rfl⟩
    · exact r.blastRadiusGate_unrolled m b _
  simp only [receive]
  split
  · exact resolved ..
  · split
    · exact resolved ..
    · exact ⟨Outcome.noConfusion, rfl⟩

end Receive

section Reruns

variable [Timer] (config : Config) (defaults : Rerun.Defaults)

theorem Service.resolve_ofReruns {incident : Incident} {plan : Plan}
    {r : Remediator Request Request.Answer}
    (found : (ofReruns config defaults).registry.resolve incident plan = .ok r) :
    r = Rerun.remediator Provider.direct defaults :=
  Registry.eq_of_get?_register_empty (Registry.resolve_ok found).1

/-- A call that executes is about to rerun. -/
theorem Service.receive_ofReruns (m : Moment) (t : Ticket) (b : Board) {b' : Board}
    {e : Execution Request Request.Answer}
    (next : (ofReruns config defaults).receive m t b = (.waiting e, b')) :
    Program.Keeps Rerun.Restrained (fun _ report => Rerun.Harmless report) [] e.program := by
  have received := (ofReruns config defaults).receive_received m t b
  rw [next] at received
  have found : (ofReruns config defaults).registry.resolve t.incident t.plan =
      .ok e.remediator := by
    cases received with
    | unmetered _ found => exact found
    | granted _ found => exact found
  rw [Execution.program, resolve_ofReruns config defaults found]
  exact Rerun.execute_keeps_restrained defaults _ _

/-- A harmless report passes the checks and is not rolled back. -/
theorem Execution.settle_harmless (e : Execution Request Request.Answer) (m : Moment)
    {report : Report} (harmless : Rerun.Harmless report) (b : Board) :
    ∃ out b', e.settle (Service.ofReruns config defaults) m (.ok report) b = (.ended out, b') ∧
      out.outcome = report.outcome ∧ out.rollbackPerformed = false := by
  have unasked : ¬ (!report.handedOn.success && report.handedOn.rollbackRequired) = true := by
    simp [Report.handedOn, harmless.required]
  have closed (r : Record) (b : Board) :
      ∃ out b', (ending (r.close m report.handedOn b) :
          Next (Undo Request Request.Answer) × Board) = (.ended out, b') ∧
        out.outcome = report.outcome ∧ out.rollbackPerformed = false :=
    ⟨_, _, rfl, rfl, harmless.performed⟩
  simp only [settle, if_neg unasked]
  split
  · next checked =>
    rw [Bool.and_eq_true] at checked
    have passed (r : Record) : ((Service.ofReruns config defaults).post.validate
        (r.ticket.context (some report.handedOn))).passed = true := by
      rw [Service.ofReruns, Service.ofConfig, CheckChain.postExecution_passed_iff]
      exact ⟨_, rfl, checked.1, harmless.actions checked.1⟩
    simp only [Record.postValidate, passed, if_true]
    exact closed ..
  · exact closed ..

/-! ## A call alone -/

section Alone

variable (w : Program.World Request Request.Answer σ) (date : Nat → Time.Instant) (now : Nat)
  (b : Board) (world : σ)

theorem Execution.conclude_restrained {e : Execution Request Request.Answer}
    (keeps : Program.Keeps Rerun.Restrained (fun _ report => Rerun.Harmless report) [] e.program) :
    let d := e.conclude (Service.ofReruns config defaults) (Program.noting w) date now b (world, [])
    Rerun.Restrained d.world.2 ∧ d.report.outcome ≠ .rolledBack ∧
      d.report.rollbackPerformed = false ∧ ∀ undone, .rollback undone ∉ d.ran := by
  intro d
  obtain ⟨restrained, report, came, harmless⟩ :=
    keeps.run Rerun.restrained_nil w now world
  have noted := Program.run_noting w now e.program world []
  obtain ⟨out, b', next, outcome, performed⟩ := e.settle_harmless config defaults
    ⟨(Program.run w now e.program world).time, date (Program.run w now e.program world).time⟩
    harmless (b.emitAll (Program.run w now e.program world).events)
  have same : d = ⟨out, (Program.run w now e.program world).time, b',
      ((Program.run w now e.program world).world,
        [] ++ (Program.transcript w now e.program world).map Program.Exchange.request),
      [.execution e.remediator (.ok report)]⟩ := by
    simp only [d, conclude, noted, came, next]
  rw [same]
  refine ⟨restrained, ?_, performed, fun undone rolled => ?_⟩
  · rw [outcome]
    exact harmless.outcome
  · cases rolled with
    | tail _ none => cases none

theorem Service.execute_restrained (t : Ticket) :
    let d := (ofReruns config defaults).execute (Program.noting w) date now t b (world, [])
    Rerun.Restrained d.world.2 ∧ d.report.outcome ≠ .rolledBack ∧
      d.report.rollbackPerformed = false ∧ ∀ undone, .rollback undone ∉ d.ran := by
  have unrolled := receive_unrolled ⟨now, date now⟩ b (ofReruns config defaults) t
  have waits (e : Execution Request Request.Answer) (b' : Board)
      (next : (ofReruns config defaults).receive ⟨now, date now⟩ t b = (.waiting e, b')) :=
    receive_ofReruns config defaults ⟨now, date now⟩ t b next
  simp only [execute]
  generalize (ofReruns config defaults).receive ⟨now, date now⟩ t b = next at unrolled waits
  obtain ⟨report | e, b'⟩ := next
  · exact ⟨Rerun.restrained_nil, unrolled.1, unrolled.2, fun _ => List.not_mem_nil⟩
  · exact Execution.conclude_restrained config defaults w date now b' world (waits e b' rfl)

end Alone

end Reruns

/-! ## Calls of a pool -/

/-- The request that a program is about to put. -/
def Program.asking {Q : Type} {A : Q → Type} {α : Type} : Program Q A α → List Q
  | ask q _ => [q]
  | _ => []

/-- A turn of a program that keeps to what may be asked. -/
theorem Program.Keeps.turn {Q : Type} {A : Q → Type} {α : Type} {may : List Q → Prop}
    {leaves : List Q → α → Prop} {p : Program Q A α} {asked : List Q}
    (keeps : p.Keeps may leaves asked) (before : may asked) (w : World Q A σ) (now : Nat) (s : σ) :
    match Program.turn w now p s with
    | (.on rest, _, _) => may (asked ++ p.asking) ∧ rest.Keeps may leaves (asked ++ p.asking)
    | (.ended outcome, _, _) => p.asking = [] ∧ ∃ a, outcome = .ok a ∧ leaves asked a := by
  cases p with
  | done a => exact ⟨rfl, a, rfl, keeps⟩
  | abort p => exact keeps.elim
  | ask q next => exact ⟨keeps.1, keeps.2 _⟩
  | clock next =>
    simp only [Program.turn, asking, List.append_nil]
    exact ⟨before, keeps now⟩
  | sleep ms next =>
    simp only [Program.turn, asking, List.append_nil]
    exact ⟨before, keeps⟩
  | emit e next =>
    simp only [Program.turn, asking, List.append_nil]
    exact ⟨before, keeps⟩

namespace Pool

/-- The requests of a call, each noted with the turn that puts it. -/
def asks (Q : Type) (A : Q → Type) (σ : Type) : Scribe Q A σ Q where
  begins _ _ _ := []
  goes _ _ _
    | .executing _ rest => rest.asking
    | .rollingBack _ rest => rest.asking
    | .ended _ => []

/-- A call that asks for one rerun at most, and gets to no rollback. -/
def Reruns (_ : Ticket) : Option (Phase Request Request.Answer) → List Request → Prop
  | some (.executing _ rest), asked => Rerun.Restrained asked ∧
      rest.Keeps Rerun.Restrained (fun _ report => Rerun.Harmless report) asked
  | some (.rollingBack ..), _ => False
  | some (.ended report), asked => Rerun.Restrained asked ∧ report.outcome ≠ .rolledBack ∧
      report.rollbackPerformed = false
  | none, asked => Rerun.Restrained asked

theorem restrained_of_reruns {t : Ticket} {phase : Option (Phase Request Request.Answer)}
    {asked : List Request} (held : Reruns t phase asked) :
    Rerun.Restrained asked ∧ (∀ u rest, phase ≠ some (.rollingBack u rest)) ∧
      ∀ report, phase = some (.ended report) →
        report.outcome ≠ .rolledBack ∧ report.rollbackPerformed = false := by
  rcases phase with - | ⟨e, rest⟩ | ⟨u, rest⟩ | report
  · exact ⟨held, by simp, by simp⟩
  · exact ⟨held.1, by simp, by simp⟩
  · exact held.elim
  · refine ⟨held.1, by simp, fun out ended => ?_⟩
    cases ended
    exact held.2

theorem stable_reruns [Timer] (config : Config) (defaults : Rerun.Defaults)
    (w : Program.World Request Request.Answer σ) :
    Stable (asks Request Request.Answer σ) (Service.ofReruns config defaults) w Reruns where
  begins m t b := by
    have unrolled := Service.receive_unrolled m b (Service.ofReruns config defaults) t
    have waits (e : Execution Request Request.Answer) (b' : Board)
        (next : (Service.ofReruns config defaults).receive m t b = (.waiting e, b')) :=
      Service.receive_ofReruns config defaults m t b next
    generalize (Service.ofReruns config defaults).receive m t b = next at unrolled waits
    obtain ⟨report | e, b'⟩ := next
    · exact ⟨Rerun.restrained_nil, unrolled⟩
    · exact ⟨Rerun.restrained_nil, waits e b' rfl⟩
  goes t phase asked m b world held := by
    cases phase with
    | executing e rest =>
      have next := held.2.turn held.1 w m.ms world
      simp only [Phase.turned, asks]
      generalize Program.turn w m.ms rest world = turn at next
      obtain ⟨outcome | rest', events, world'⟩ := turn
      · obtain ⟨quiet, report, rfl, harmless⟩ := next
        obtain ⟨out, b', settled, outcome, performed⟩ :=
          e.settle_harmless config defaults m harmless (b.emitAll events)
        rw [quiet, List.append_nil]
        simp only [settled]
        exact ⟨held.1, outcome ▸ harmless.outcome, performed⟩
      · exact next
    | rollingBack u rest => exact held.elim
    | ended report =>
      simp only [Phase.turned, asks, List.append_nil]
      exact held
  left t phase asked held := by
    cases phase with
    | executing e rest => exact held.1
    | rollingBack u rest => exact held.elim
    | ended report => exact held.1

end Pool

namespace Service

/-- Whatever a provider answers, a call of a service that only reruns asks for one rerun at most and
cancels nothing, and no report says that it was rolled back: alone, with its requests kept by the
world, and among other calls, with the requests noted of each. A rerun that succeeded passes the
standard checks after it, however long it took and whatever the plan says. -/
theorem reruns_are_restrained [Timer] (config : Config) (defaults : Rerun.Defaults)
    (w : Program.World Request Request.Answer σ) (b : Board) (world : σ) :
    let s := ofReruns config defaults
    (∀ (date : Nat → Time.Instant) (now : Nat) (t : Ticket),
      let d := s.execute (Program.noting w) date now t b (world, [])
      Rerun.Restrained d.world.2 ∧ d.report.outcome ≠ .rolledBack ∧
        d.report.rollbackPerformed = false ∧ ∀ undone, .rollback undone ∉ d.ran) ∧
    (∀ (moves : List Pool.Move) (i : Nat) (c : Pool.Call Request Request.Answer),
      let x : Pool Request Request.Answer σ := ⟨[], b, world, []⟩
      (x.run s w moves).calls[i]? = some c →
        Rerun.Restrained (Pool.about i ((Pool.asks _ _ σ).story s w x moves)) ∧
        (∀ u rest, c.phase ≠ some (.rollingBack u rest)) ∧
        ∀ report, c.phase = some (.ended report) →
          report.outcome ≠ .rolledBack ∧ report.rollbackPerformed = false) ∧
    (∀ (incident : Incident) (plan : Plan) (now : Nat) (returned : Report),
      (Program.run w now (Rerun.execute Provider.direct defaults incident plan) world).outcome =
          .ok returned → returned.success = true →
        ∀ (ctx : CheckContext) (duration : Float),
          ctx.report = some { returned with durationSeconds := duration } →
          (s.post.validate ctx).passed = true) := by
  intro s
  refine ⟨fun date now t => execute_restrained config defaults w date now b world t, ?_, ?_⟩
  · intro moves i c x out
    have held := (Pool.noted_run (Pool.stable_reruns config defaults w) b world moves).calls i c out
    exact Pool.restrained_of_reruns held
  · intro incident plan now returned came success ctx duration told
    obtain ⟨-, report, same, harmless⟩ :=
      (Rerun.execute_keeps_restrained defaults incident plan).run
      Rerun.restrained_nil w now world
    cases came.symm.trans same
    exact (CheckChain.postExecution_passed_iff ..).2 ⟨_, told, success, harmless.actions success⟩

section ThirtyYears

attribute [local instance] Timer.thirtyYears

/-- A rerun that takes longer than it may, and one that takes two hours instead of a minute. -/
theorem reruns_are_restrained_late :
    let s := ofReruns .standard .standard
    let incident : Incident := .new ⟨7⟩ ⟨1700000000, 0⟩ .github "flaky_test"
    let plan : Plan := (((((Plan.new .rerunWorkflow "").withParameter "owner"
      (.str "acme")).withParameter "repo" (.str "widgets")).withParameter "run_id"
        (Json.natural 42)).withParameter "timeout_seconds"
          (Json.natural 20)).withRollbackSnapshot true
          |>.withEstimatedDuration 60
    let t : Ticket := ⟨incident, plan, Options.standard.withoutPreValidation⟩
    let b : Board := .new ⟨10, 1, 1, .standard⟩
    let d := s.execute (Program.noting Script.answer) (fun _ => ⟨1700000000, 0⟩) 0 t b
      (Script.neverCompletes, [])
    let x : Pool Request Request.Answer Script := ⟨[], b, .neverCompletes, []⟩
    let moves : List Pool.Move := [.call ⟨0, ⟨1700000000, 0⟩⟩ t, .step ⟨0, ⟨1700000000, 0⟩⟩ 0]
    let program := Rerun.execute Provider.direct .standard incident plan
    (d.report.outcome = .timedOut ∧ d.world.2.map Request.call =
      [.getRun, .rerunFailedJobs, .getRun, .getRun] ∧ Rerun.Restrained d.world.2) ∧
      (∃ c, (x.run s Script.answer moves).calls[0]? = some c ∧
        Rerun.Restrained (Pool.about 0 ((Pool.asks _ _ Script).story s Script.answer x moves))) ∧
      ∃ returned, (Program.run Script.answer 0 program Script.new).outcome = .ok returned ∧
        returned.success = true ∧
        (s.post.validate
          (t.context (some { returned with durationSeconds := 7200.0 }))).passed = true := by
  intro s incident plan t b d x moves program
  have late := reruns_are_restrained .standard .standard Script.answer b .neverCompletes
  have soon := reruns_are_restrained .standard .standard Script.answer b .new
  obtain ⟨restrained, -⟩ := late.1 (fun _ => ⟨1700000000, 0⟩) 0 t
  obtain ⟨c, out⟩ : ∃ c, (x.run s Script.answer moves).calls[0]? = some c := ⟨_, rfl⟩
  obtain ⟨returned, came⟩ : ∃ returned,
      (Program.run Script.answer 0 program Script.new).outcome = .ok returned := ⟨_, rfl⟩
  have fine : (Program.run Script.answer 0 program Script.new).outcome.toOption.map
      Report.success = some true := by rfl
  rw [came] at fine
  refine ⟨⟨by decide +kernel, by decide +kernel, restrained⟩, ⟨c, out, ?_⟩, returned, came,
    Option.some.inj fine, ?_⟩
  · exact (late.2.1 moves 0 c out).1
  · exact soon.2.2 incident plan 0 returned came (Option.some.inj fine) _ 7200.0 rfl

end ThirtyYears

end Service

end Remedy
