import Remedy.Proofs.Checks.Batteries
import Remedy.Proofs.Rule.Blacklist
import Remedy.Proofs.Service.Gates
import Remedy.Proofs.Service.Pool
import Remedy.Workflow.Script

/-!
# The blacklist

The guard compares what the incident itself says of its target with the names that are listed. An
incident that names a listed service, namespace or repository has nothing executed for it, whatever
the plan asks for. What a rerun takes its run from is more than that: an owner that is given apart,
a plan, an event of the provider and other names of the context can lead it to a listed repository
that the incident does not name, and then the guard has no say.
-/

namespace Remedy

variable {Q : Type} {A : Q → Type} {σ : Type}

namespace Blacklist

/-- The incident names a target that is listed. -/
def Lists (b : Blacklist) (i : Incident) : Prop :=
  (∃ name, i.service? = some name ∧ b.services.contains name = true) ∨
    (∃ name, i.namespace? = some name ∧ b.namespaces.contains name = true) ∨
    ∃ name, i.repository? = some name ∧ b.repositories.contains name = true

theorem lists_iff {b : Blacklist} {i : Incident} :
    b.Lists i ↔ ∃ f value, b.Forbids i i.context f value := by
  simp only [Forbids, names_context]
  constructor
  · rintro (⟨name, said, listed⟩ | ⟨name, said, listed⟩ | ⟨name, said, listed⟩)
    · exact ⟨.service, name, said, listed⟩
    · exact ⟨.namespace, name, said, listed⟩
    · exact ⟨.repository, name, said, listed⟩
  · rintro ⟨f, name, said, listed⟩
    cases f with
    | service => exact .inl ⟨name, said, listed⟩
    | «namespace» => exact .inr (.inl ⟨name, said, listed⟩)
    | repository => exact .inr (.inr ⟨name, said, listed⟩)

/-- The rule objects to the incidents that name a listed target, and to no other. -/
theorem rule_passed_iff (b : Blacklist) (i : Incident) (analysis : Option Analysis) :
    (b.rule.evaluate i i.context analysis).passed = true ↔ ¬ b.Lists i := by
  rw [lists_iff, ← passed_eq_false_iff, Bool.not_eq_false]

theorem not_lists_empty (i : Incident) : ¬ empty.Lists i := by
  rintro (⟨name, -, listed⟩ | ⟨name, -, listed⟩ | ⟨name, -, listed⟩) <;> cases listed

end Blacklist

/-- The check of the rules says the same of every single rule that passes. -/
theorem NamedCheck.guardRules_of_passes {rule : Rule} {ctx : CheckContext}
    (passes : (rule.evaluate ctx.incident ctx.incident.context ctx.analysis).passed = true) :
    (NamedCheck.guardRules [rule]).run ctx =
      .pass "guard_rules" (toString 1 ++ " guard rule(s) passed") := by
  have clear : (RuleSet.evaluate [rule] ctx.incident ctx.incident.context ctx.analysis).passed =
      true := by
    rw [RuleSet.evaluate_passed, List.all_cons, passes]
    rfl
  simp only [NamedCheck.guardRules, clear, if_true]
  rfl

namespace Service

/-- An incident that names a listed target does not get past the checks. -/
theorem not_clears_of_lists {config : Config} (registry : Registry Q A) {t : Ticket}
    (asked : t.options.skipPreValidation = false) (lists : config.blacklist.Lists t.incident) :
    (ofConfig config registry).clears t = false := by
  have guard : NamedCheck.guardRules [config.blacklist.rule] ∈
      (ofConfig config registry).pre.checks := by simp [ofConfig, CheckChain.preExecution]
  rw [clears, asked, Bool.false_or, Bool.eq_false_iff]
  intro passed
  have unblocked := (Validation.ofChecks_passed_iff _ _).1 passed _ (List.mem_map_of_mem guard)
  rw [NamedCheck.guardRules_isBlocking, RuleSet.evaluate_passed, List.all_cons, List.all_nil,
    Bool.and_true, Bool.not_eq_false'] at unblocked
  exact (config.blacklist.rule_passed_iff t.incident _).1 unblocked lists

/-- Where the rule has nothing against an incident, the checks before an execution say what they say
when nothing is listed. -/
theorem validate_of_not_lists {config : Config} (registry : Registry Q A) (ctx : CheckContext)
    (unnamed : ¬ config.blacklist.Lists ctx.incident) :
    (ofConfig config registry).pre.validate ctx =
      (ofConfig { config with blacklist := .empty } registry).pre.validate ctx := by
  have passes := (config.blacklist.rule_passed_iff _ ctx.analysis).2 unnamed
  have free := (Blacklist.empty.rule_passed_iff _ ctx.analysis).2
    (Blacklist.not_lists_empty ctx.incident)
  simp only [ofConfig, CheckChain.preExecution, CheckChain.validate, List.map_cons,
    NamedCheck.guardRules_of_passes passes, NamedCheck.guardRules_of_passes free]

/-- A call for an incident that names no listed target begins as it does when nothing is listed. -/
theorem receive_of_not_lists {config : Config} (registry : Registry Q A) (m : Moment) {t : Ticket}
    (b : Board) (unnamed : ¬ config.blacklist.Lists t.incident) :
    (ofConfig config registry).receive m t b =
      (ofConfig { config with blacklist := .empty } registry).receive m t b := by
  have same := validate_of_not_lists registry (t.context none) unnamed
  simp only [receive, same]
  rfl

/-- The blacklist stops the calls for incidents that name a listed target themselves, alone and
among other calls: such a call ends where it begins, refused, and the world stays as it is. It has
no say in any other call. So a run in a listed repository is left alone when its incident names the
repository in full; when the name comes from elsewhere, the call goes as if nothing were listed. -/
theorem named_target_is_left_alone (config : Config) (registry : Registry Q A) {t : Ticket}
    (asked : t.options.skipPreValidation = false) :
    let s := ofConfig config registry
    let free := ofConfig { config with blacklist := .empty } registry
    (config.blacklist.Lists t.incident → ∀ {σ : Type} (w : Program.World Q A σ),
      (∀ (date : Nat → Time.Instant) (now : Nat) (b : Board) (world : σ),
        let d := s.execute w date now t b world
        d.ran = [] ∧ d.world = world ∧ d.report.success = false ∧ d.report.outcome = .rejected) ∧
      (∀ (x : Pool Q A σ) (m : Moment), ∃ report,
        (x.step s w (.call m t)).calls = x.calls ++ [⟨t, m, some (.ended report), .never⟩] ∧
          (x.step s w (.call m t)).world = x.world ∧ report.success = false ∧
          report.outcome = .rejected)) ∧
    (¬ config.blacklist.Lists t.incident → ∀ {σ : Type} (w : Program.World Q A σ),
      (∀ (date : Nat → Time.Instant) (now : Nat) (b : Board) (world : σ),
        s.execute w date now t b world = free.execute w date now t b world) ∧
      ∀ (x : Pool Q A σ) (m : Moment), x.step s w (.call m t) = x.step free w (.call m t)) ∧
    ∀ {defaults : Rerun.Defaults} {p : Rerun.Parameters},
      Rerun.Parameters.resolve t.incident t.plan defaults = .ok p →
      config.blacklist.repositories.contains (p.run.owner ++ "/" ++ p.run.repo) = true →
      t.incident.repository? = some (p.run.owner ++ "/" ++ p.run.repo) →
        config.blacklist.Lists t.incident := by
  intro s free
  refine ⟨fun lists σ w => ?_, fun unnamed σ w => ?_, fun _ listed named =>
    .inr (.inr ⟨_, named, listed⟩)⟩
  · have stopped : s.clears t = false := not_clears_of_lists registry asked lists
    constructor
    · intro date now b world
      obtain ⟨failed, rejected, ran, same, -⟩ := s.execute_refused w date now b world stopped
      exact ⟨ran, same, failed, rejected⟩
    · intro x m
      have received := s.receive_received m t x.board
      simp only [Pool.step, Pool.receive]
      revert received
      generalize s.receive m t x.board = next
      intro received
      cases received with
      | @refused report _ _ failed rejected => exact ⟨report, rfl, rfl, failed, rejected⟩
      | unresolved cleared | exhausted cleared | unmetered cleared | granted cleared =>
        rw [stopped] at cleared
        cases cleared
  · have same (m : Moment) (b : Board) : s.receive m t b = free.receive m t b :=
      receive_of_not_lists registry m b unnamed
    constructor
    · intro date now b world
      simp only [execute, same]
      rfl
    · intro x m
      simp only [Pool.step, Pool.receive, same]

section ThirtyYears

attribute [local instance] Timer.thirtyYears

/-- A rerun of a listed repository that the incident names in full. -/
theorem named_target_is_left_alone_by_rerun :
    let config : Config :=
      { Config.standard with blacklist := Blacklist.empty.withRepository "acme/widgets" }
    let s := ofConfig config
      (Registry.empty.register (Rerun.remediatorOf Workflow.Provider.direct config))
    let incident := ((Incident.new ⟨7⟩ ⟨1700000000, 0⟩ .github "flaky_test").withContext "repo"
      (.str "acme/widgets")).withContext "run_id" (Json.natural 7)
    let t : Ticket := ⟨incident, .new .rerunWorkflow "", .standard⟩
    let p : Rerun.Parameters := ⟨⟨"acme", "widgets", 7⟩, true, 600, 10, true⟩
    let d := s.execute Workflow.Script.answer (fun _ => ⟨1700000000, 0⟩) 0 t
      (.new ⟨10, 1, 1, .standard⟩) .new
    (t.options.skipPreValidation = false ∧ config.blacklist.Lists t.incident) ∧
      Rerun.Parameters.resolve t.incident t.plan config.rerun = .ok p ∧
      d.report.outcome = .rejected ∧ d.world.count .rerun = 0 ∧
      d.world.count .rerunFailedJobs = 0 := by
  intro config s incident t p d
  have asked : t.options.skipPreValidation = false := rfl
  have resolved : Rerun.Parameters.resolve t.incident t.plan config.rerun = .ok p := by rfl
  obtain ⟨alone, -, link⟩ := named_target_is_left_alone config
    (Registry.empty.register (Rerun.remediatorOf Workflow.Provider.direct config)) asked
  have lists : config.blacklist.Lists t.incident :=
    link resolved (by decide +kernel) (by decide +kernel)
  obtain ⟨-, same, -, rejected⟩ := (alone lists Workflow.Script.answer).1
    (fun _ => ⟨1700000000, 0⟩) 0 (.new ⟨10, 1, 1, .standard⟩) .new
  have world : d.world = .new := same
  refine ⟨⟨asked, lists⟩, resolved, rejected, ?_, ?_⟩
  · rw [world]
    rfl
  · rw [world]
    rfl

/-- A rerun of a listed repository whose owner the context gives apart: nothing stops it. -/
theorem rerun_of_listed_repository :
    let config : Config :=
      { Config.standard with blacklist := Blacklist.empty.withRepository "acme/widgets" }
    let s := ofConfig config
      (Registry.empty.register (Rerun.remediatorOf Workflow.Provider.direct config))
    let incident := (((Incident.new ⟨7⟩ ⟨1700000000, 0⟩ .github "flaky_test").withContext "owner"
      (.str "acme")).withContext "repo" (.str "widgets")).withContext "run_id" (Json.natural 7)
    let t : Ticket := ⟨incident, .new .rerunWorkflow "", .standard⟩
    let d := s.execute Workflow.Script.answer (fun _ => ⟨1700000000, 0⟩) 0 t
      (.new ⟨10, 1, 1, .standard⟩) .new
    (Rerun.Parameters.resolve t.incident t.plan config.rerun).toOption.map (·.run) =
        some ⟨"acme", "widgets", 7⟩ ∧
      config.blacklist.repositories.contains "acme/widgets" = true ∧
      t.options.skipPreValidation = false ∧ d.world.count .rerunFailedJobs = 1 := by
  intro config s incident t d
  have passed : (s.pre.validate (t.context none)).passed = true := by
    refine (Validation.ofChecks_passed_iff _ _).2 ?_
    simp only [s, ofConfig, CheckChain.preExecution, List.map_cons, List.map_nil,
      List.forall_mem_cons]
    exact ⟨by decide +kernel, by decide +kernel, by decide +kernel, by decide +kernel,
      NamedCheck.incidentConfidence_isBlocking .., by decide +kernel, by simp⟩
  refine ⟨by decide +kernel, by decide +kernel, rfl, ?_⟩
  simp only [d, execute, receive, if_pos passed]
  decide +kernel

end ThirtyYears

end Service

end Remedy
