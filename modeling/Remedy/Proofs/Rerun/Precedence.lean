import Remedy.Proofs.Rerun.Sources

/-!
# What a plan decides

A plan that names owner, repository and run by itself decides which run is rerun, and nothing that
an incident brings along changes that. A plan that gives only the full name of a repository decides
the name of the repository; an owner that the context of the incident names comes before the one in
the full name.
-/

namespace Remedy.Rerun

open Json Workflow

theorem valuesUnder_cons (c : Context) (cs : List Context) (keys : List String) :
    valuesUnder (c :: cs) keys = valuesUnder [c] keys ++ valuesUnder cs keys := by
  simp [valuesUnder]

/-- A value that the first context has is looked for no further. -/
theorem lookup?_cons {c : Context} {keys : List String} {v : Json} (h : lookup? [c] keys = some v)
    (cs : List Context) : lookup? (c :: cs) keys = some v := by
  rw [lookup?] at h
  rw [lookup?, valuesUnder_cons, List.head?_append, h]
  rfl

/-! ## Full names -/

/-- The owner that the context of an incident names. -/
def contextOwner? (incident : Incident) : Option String :=
  (lookup? [incident.context] ownerKeys).bind usable?

section FullName

variable {plan : Plan} {text owner name : String}

theorem leading_repoSources (incident : Incident)
    (given : ((valuesUnder [plan.parameters] repoKeys).filterMap usable?).head? = some text) :
    leading (repoSources incident plan) = some (nameIn text) := by
  rw [repoSources, leading_cons, valuesUnder_cons, List.filterMap_append, List.head?_map,
    List.head?_append, given]
  rfl

theorem leading_ownerSources (incident : Incident)
    (ownerless : valuesUnder [plan.parameters] ownerKeys = [])
    (given : ((valuesUnder [plan.parameters] repoKeys).filterMap usable?).head? = some text)
    (full : splitFullName? text = some (owner, name)) :
    leading (ownerSources incident plan) = some ((contextOwner? incident).getD owner) := by
  have context : ((valuesUnder [plan.parameters, incident.context] ownerKeys).map
      usable?).head?.join = contextOwner? incident := by
    rw [valuesUnder_cons, ownerless, List.nil_append, List.head?_map, contextOwner?, lookup?]
    cases List.head? _ <;> rfl
  -- The full name is the first text of all, so no later one is asked for an owner.
  have first : (valuesUnder [plan.parameters, incident.context] repoKeys).findSome? fullName? =
      some (owner, name) := by
    rw [valuesUnder_cons, ← findSome?_splitFullName?, List.filterMap_append]
    obtain ⟨rest, same⟩ := List.head?_eq_some_iff.1 given
    rw [same, List.cons_append, List.findSome?_cons, full]
  rw [ownerSources, leading_cons, context, leading_cons, first]
  cases contextOwner? incident <;> rfl

end FullName

/-- A repository that is named in full by the plan, and by the first text there that names one, is
the one that is rerun, whatever the event of the provider says. Its owner is the one of the full
name unless the context names an owner. -/
theorem full_name_of_plan_is_rerun {incident : Incident} {plan : Plan} {defaults : Defaults}
    {text owner name : String} {p : Parameters}
    (given : ((valuesUnder [plan.parameters] repoKeys).filterMap usable?).head? = some text)
    (full : splitFullName? text = some (owner, name))
    (ownerless : valuesUnder [plan.parameters] ownerKeys = [])
    (resolved : Parameters.resolve incident plan defaults = .ok p) :
    p.run.repo = name ∧ p.run.owner = (contextOwner? incident).getD owner := by
  obtain ⟨v, located, -, -⟩ := located_of_resolve resolved
  rw [locate_eq, leading_ownerSources incident ownerless given full,
    leading_repoSources incident given] at located
  obtain ⟨owned, named, -⟩ := Located.mk.inj located
  have part : nameIn text = name := by rw [nameIn, full]
  exact ⟨(Option.some.inj named).symm.trans part, (Option.some.inj owned).symm⟩

/-- The event names another repository of another owner. -/
theorem full_name_of_plan_is_rerun_despite_event :
    let incident := (Incident.new ⟨7⟩ ⟨1700000000, 0⟩ .github "flaky_test").withPayload (.obj
      [("repository", .obj [("full_name", .str "intruder/gadgets"), ("name", .str "gadgets"),
        ("owner", .obj [("login", .str "intruder")])]), ("run_id", natural 42)])
    let plan := (Plan.new .rerunWorkflow "").withParameter "repository" (.str " acme / widgets ")
    let p : Parameters := ⟨⟨"acme", "widgets", 42⟩, true, 600, 10, true⟩
    (((valuesUnder [plan.parameters] repoKeys).filterMap usable?).head? = some "acme / widgets" ∧
      splitFullName? "acme / widgets" = some ("acme", "widgets") ∧
      valuesUnder [plan.parameters] ownerKeys = [] ∧
      Parameters.resolve incident plan .standard = .ok p) ∧
    p.run.repo = "widgets" ∧ p.run.owner = (contextOwner? incident).getD "acme" ∧
      contextOwner? incident = none := by
  intro incident plan p
  have given : ((valuesUnder [plan.parameters] repoKeys).filterMap usable?).head? =
    some "acme / widgets" := by decide +kernel
  have full : splitFullName? "acme / widgets" = some ("acme", "widgets") := by decide +kernel
  have ownerless : valuesUnder [plan.parameters] ownerKeys = [] := by rfl
  have resolved : Parameters.resolve incident plan .standard = .ok p := by decide +kernel
  obtain ⟨repo, owner⟩ := full_name_of_plan_is_rerun given full ownerless resolved
  exact ⟨⟨given, full, ownerless, resolved⟩, repo, owner, by decide +kernel⟩

/-- An owner in the context of the incident is put before the name of another owner's repository. -/
theorem context_owner_takes_full_name :
    let incident := ((Incident.new ⟨7⟩ ⟨1700000000, 0⟩ .github "flaky_test").withContext "owner"
      (.str "intruder")).withContext "run_id" (natural 42)
    let plan := (Plan.new .rerunWorkflow "").withParameter "repository" (.str "acme/widgets")
    splitFullName? "acme/widgets" = some ("acme", "widgets") ∧
      ((valuesUnder [plan.parameters] repoKeys).filterMap usable?).head? = some "acme/widgets" ∧
      valuesUnder [plan.parameters] ownerKeys = [] ∧
      (Parameters.resolve incident plan .standard).toOption.map (·.run) =
        some ⟨"intruder", "widgets", 42⟩ := by
  intro incident plan
  exact ⟨by decide +kernel, by decide +kernel, by rfl, by decide +kernel⟩

/-! ## Complete plans -/

/-- A plan that says by itself which run is meant. -/
structure Complete (plan : Plan) : Prop where
  owner : ∃ v, lookup? [plan.parameters] ownerKeys = some v ∧ (usable? v).isSome = true
  repo : ∃ v ∈ valuesUnder [plan.parameters] repoKeys, (usable? v).isSome = true
  runId : valuesUnder [plan.parameters] runIdKeys ≠ []

/-- A plan that also says how the run is rerun. -/
def Settles (plan : Plan) : Prop :=
  ∀ keys ∈ settingKeys, valuesUnder [plan.parameters] keys ≠ []

theorem exists_lookup? {c : Context} {keys : List String} (h : valuesUnder [c] keys ≠ []) :
    ∃ v, lookup? [c] keys = some v :=
  ⟨_, List.head?_eq_some_head h⟩

/-- Which run a complete plan means is located in the plan. -/
theorem Complete.locates {plan : Plan} (complete : Complete plan) :
    ∃ owner repo v, ∀ incident, locate incident plan = ⟨some owner, some repo, some v⟩ := by
  obtain ⟨w, first, usable⟩ := complete.owner
  obtain ⟨owner, names⟩ := Option.isSome_iff_exists.1 usable
  obtain ⟨u, among, usable'⟩ := complete.repo
  obtain ⟨text, named⟩ := Option.isSome_iff_exists.1 usable'
  obtain ⟨v, numbered⟩ := exists_lookup? complete.runId
  have texts : (valuesUnder [plan.parameters] repoKeys).filterMap usable? ≠ [] :=
    List.ne_nil_of_mem (List.mem_filterMap.2 ⟨u, among, named⟩)
  refine ⟨owner, nameIn (List.head _ texts), v, fun incident => ?_⟩
  have owned : leading (ownerSources incident plan) = some owner := by
    have found := lookup?_cons first [incident.context]
    rw [lookup?] at found
    rw [ownerSources, leading_cons, List.head?_map, found, Option.map_some, names]
    rfl
  have numbered : (runIdValues incident plan).head? = some v := by
    have found := lookup?_cons numbered [incident.context]
    rw [lookup?] at found
    rw [runIdValues, List.head?_append, found]
    rfl
  rw [locate_eq, owned, numbered,
    leading_repoSources incident (List.head?_eq_some_head texts)]

/-- What the plan settles is settled, whatever the context says and whatever holds by default. -/
theorem Settles.settle_eq {plan : Plan} (settles : Settles plan) (c c' : Context)
    (defaults defaults' : Defaults) (run : RunRef) :
    settle [plan.parameters, c] defaults run = settle [plan.parameters, c'] defaults' run := by
  refine settle_congr (fun keys among => ?_) defaults defaults' run
  obtain ⟨v, found⟩ := exists_lookup? (settles keys among)
  exact ⟨v, lookup?_cons found [c], lookup?_cons found [c']⟩

/-- A complete plan cannot be steered: two incidents and two sets of defaults never lead it to
different runs, nothing is ever missing, and what is wrong with the number of the run is wrong for
both. When it also says how the run is rerun, the outcome is the same altogether. -/
theorem complete_plan_decides {plan : Plan} (complete : Complete plan)
    (incident incident' : Incident) (defaults defaults' : Defaults) :
    let outcome := Parameters.resolve incident plan defaults
    let outcome' := Parameters.resolve incident' plan defaults'
    (∀ names, outcome ≠ .error (.missingParameters names)) ∧
      (∀ p p', outcome = .ok p → outcome' = .ok p' → p.run = p'.run) ∧
      (∀ f, Concerns "run_id" f → (outcome = .error f ↔ outcome' = .error f)) ∧
      (Settles plan → outcome = outcome') := by
  obtain ⟨owner, repo, v, located⟩ := complete.locates
  intro outcome outcome'
  have resolved : outcome = _ := resolve_of_located defaults (located incident)
  have resolved' : outcome' = _ := resolve_of_located defaults' (located incident')
  rw [resolved, resolved']
  -- Incident and defaults come in only behind the number, and there only a setting can be wrong.
  cases read : readNat "run_id" v with
  | error f =>
    refine ⟨fun names same => ?_, fun p p' came => ?_, fun _ _ => Iff.rfl, fun _ => rfl⟩
    · obtain ⟨complaint, rfl⟩ := concerns_of_readNat read
      cases same
    · cases came
  | ok runId =>
    have sound (incident : Incident) (defaults : Defaults) {f : Fault}
        (about : Concerns "run_id" f) :
        settle [plan.parameters, incident.context] defaults ⟨owner, repo, runId⟩ ≠ .error f := by
      intro broke
      obtain ⟨field, among, concerns⟩ := concerns_of_settle broke
      exact not_concerns_runId among concerns about
    refine ⟨fun names => settle_ne_missing, fun p p' came came' => ?_, fun f about => ?_,
      fun settles => settles.settle_eq ..⟩
    · exact (ok_of_settle came).1.trans (ok_of_settle came').1.symm
    · exact iff_of_false (sound incident defaults about) (sound incident' defaults' about)

/-- Another owner and repository in the context and in the event, and other defaults, change
nothing. A number that cannot be read is refused for both incidents alike. -/
theorem complete_plan_decides_against_intruder :
    let incident := Incident.new ⟨7⟩ ⟨1700000000, 0⟩ .github "flaky_test"
    let intruder := ((incident.withContext "owner" (.str "intruder")).withContext "wait"
      (.str "perhaps")).withPayload (.obj [("repository", .obj
        [("full_name", .str "intruder/gadgets")])])
    let named := ((Plan.new .rerunWorkflow "").withParameter "repo_owner"
      (.str "acme")).withParameter "repository" (.str "acme/widgets")
    let vague := named.withParameter "run" (.str "latest")
    let settled := ((((named.withParameter "run" (natural 42)).withParameter "wait"
      (.str "yes")).withParameter "timeout" (natural 30)).withParameter "poll_interval"
      (natural 5)).withParameter "failed_jobs_only" (.bool false)
    let hasty : Defaults := ⟨false, 1, 1, true⟩
    (Complete vague ∧ Complete settled ∧ Settles settled) ∧
      Parameters.resolve intruder vague hasty =
        .error (.validation "run_id must be a non-negative integer, got 'latest'") ∧
      Parameters.resolve intruder settled hasty =
        .ok ⟨⟨"acme", "widgets", 42⟩, true, 30, 5, false⟩ := by
  intro incident intruder named vague settled hasty
  have complete (plan : Plan) (owners : lookup? [plan.parameters] ownerKeys = some (.str "acme"))
      (repos : valuesUnder [plan.parameters] repoKeys = [.str "acme/widgets"])
      (runs : (valuesUnder [plan.parameters] runIdKeys).isEmpty = false) : Complete plan :=
    ⟨⟨_, owners, by decide +kernel⟩, ⟨_, repos ▸ List.mem_singleton_self _, by decide +kernel⟩,
      List.isEmpty_eq_false_iff.1 runs⟩
  have unread : Complete vague := complete vague (by rfl) (by rfl) (by rfl)
  have whole : Complete settled := complete settled (by rfl) (by rfl) (by rfl)
  have settles : Settles settled := by
    simp only [Settles, settingKeys, List.forall_mem_cons, ← List.isEmpty_eq_false_iff]
    exact ⟨by rfl, by rfl, by rfl, by rfl, List.forall_mem_nil _⟩
  have refused : Parameters.resolve incident vague .standard =
    .error (.validation "run_id must be a non-negative integer, got 'latest'") := by decide +kernel
  have resolved : Parameters.resolve incident settled .standard =
    .ok ⟨⟨"acme", "widgets", 42⟩, true, 30, 5, false⟩ := by decide +kernel
  obtain ⟨-, -, wrong, -⟩ := complete_plan_decides unread incident intruder .standard hasty
  obtain ⟨-, -, -, same⟩ := complete_plan_decides whole incident intruder .standard hasty
  refine ⟨⟨unread, whole, settles⟩, ?_, ?_⟩
  · exact (wrong _ ⟨" must be a non-negative integer, got 'latest'", rfl⟩).1 refused
  · exact (same settles).symm.trans resolved

end Remedy.Rerun
