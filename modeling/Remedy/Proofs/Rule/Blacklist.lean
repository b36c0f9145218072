import Remedy.Proofs.Rule.Rejections
import Remedy.Proofs.Target.Naming

/-!
# What the blacklist rejects

The rule looks at what the caller says under few keys before it looks at what the incident says
under all of them; where the caller says what the incident says, the few keys are the first of all,
and so the rule looks at the very values that name a target.
-/

namespace Remedy

/-! ## What is looked up -/

namespace Context

theorem text?_append (c : Context) (keys more : List String) :
    c.text? (keys ++ more) = (c.text? keys).or (c.text? more) :=
  List.findSome?_append

/-- A value that is looked up under the first keys is looked up no further under all of them. -/
theorem text?_or_append (c : Context) (keys more : List String) :
    (c.text? keys).or (c.text? (keys ++ more)) = c.text? (keys ++ more) := by
  rw [text?_append, ← Option.or_assoc, Option.or_self]

end Context

namespace TargetField

/-- The keys under which the rule first looks. -/
def ruleKeys : TargetField → List String
  | service => ["service", "service_name"]
  | «namespace» => ["namespace"]
  | repository => ["repository", "repo"]

theorem mem_all (f : TargetField) : f ∈ all := by
  cases f <;> simp [all]

/-- What the rule looks up for a field. -/
def lookup? (f : TargetField) (i : Incident) (c : Context) : Option String :=
  (c.text? f.ruleKeys).or (f.read? i)

/-- The keys of the rule are the first ones of an incident. -/
theorem lookup?_context (f : TargetField) (i : Incident) :
    f.lookup? i i.context = f.read? i := by
  have first : ∃ more, f.keys = f.ruleKeys ++ more := by
    cases f
    · exact ⟨["app"], rfl⟩
    · exact ⟨["k8s_namespace"], rfl⟩
    · exact ⟨["repository_name", "repo_name"], rfl⟩
  obtain ⟨more, same⟩ := first
  rw [lookup?, read?_eq, same, Context.text?_or_append]

end TargetField

namespace Blacklist

variable (b : Blacklist) (i : Incident) (c : Context)

/-- The value of a field: what the caller says under the keys of the rule, or, when that is nothing,
what the incident says under its own. -/
def Names (f : TargetField) (value : String) : Prop :=
  c.Says f.ruleKeys value ∨ (∀ v, ¬ c.Says f.ruleKeys v) ∧ i.context.Says f.keys value

/-- The names that are listed for a field. -/
def listed : TargetField → NameSet
  | .service => b.services
  | .namespace => b.namespaces
  | .repository => b.repositories

/-- A field has a value that is listed for it. -/
def Forbids (f : TargetField) (value : String) : Prop :=
  Names i c f value ∧ (b.listed f).contains value = true

/-- A field has a value that is listed, and no field before it has. -/
def ForbidsFirst (f : TargetField) (value : String) : Prop :=
  b.Forbids i c f value ∧
    ∃ before after, TargetField.all = before ++ f :: after ∧
      ∀ f' ∈ before, ∀ v, ¬ b.Forbids i c f' v

variable {b i c} {f : TargetField} {value : String}

theorem lookup?_eq_some_iff : f.lookup? i c = some value ↔ Names i c f value := by
  rw [TargetField.lookup?, Option.or_eq_some_iff, Context.text?_eq_some_iff,
    Context.text?_eq_none_iff, TargetField.read?_eq, Context.text?_eq_some_iff, Names]

theorem names_context : Names i i.context f value ↔ f.read? i = some value := by
  rw [← lookup?_eq_some_iff, TargetField.lookup?_context]

/-- What is found against a field. -/
def finding? (b : Blacklist) (i : Incident) (c : Context) (f : TargetField) :
    Option (String × String) :=
  (f.lookup? i c).bind fun v => if (b.listed f).contains v then some (f.name, v) else none

theorem hit?_eq : b.hit? i c = TargetField.all.findSome? (b.finding? i c) := rfl

theorem finding?_eq_some_iff {hit : String × String} :
    b.finding? i c f = some hit ↔ ∃ value, hit = (f.name, value) ∧ b.Forbids i c f value := by
  simp only [finding?, Option.bind_eq_some_iff, lookup?_eq_some_iff, Forbids,
    Option.ite_none_right_eq_some, Option.some.injEq]
  refine exists_congr fun value => ?_
  constructor
  · rintro ⟨named, listed, same⟩
    exact ⟨same.symm, named, listed⟩
  · rintro ⟨same, named, listed⟩
    exact ⟨named, listed, same.symm⟩

theorem finding?_eq_none_iff :
    b.finding? i c f = none ↔ ∀ value, ¬ b.Forbids i c f value := by
  rw [Option.eq_none_iff_forall_ne_some]
  constructor
  · intro nothing value forbids
    exact nothing _ (finding?_eq_some_iff.2 ⟨value, rfl, forbids⟩)
  · intro spared hit found
    obtain ⟨value, -, forbids⟩ := finding?_eq_some_iff.1 found
    exact spared value forbids

theorem hit?_eq_some_iff {hit : String × String} :
    b.hit? i c = some hit ↔ ∃ f value, hit = (f.name, value) ∧ b.ForbidsFirst i c f value := by
  rw [hit?_eq, List.findSome?_eq_some_iff]
  simp only [finding?_eq_some_iff, finding?_eq_none_iff, ForbidsFirst]
  constructor
  · rintro ⟨before, f, after, all, ⟨value, same, forbids⟩, spared⟩
    exact ⟨f, value, same, forbids, before, after, all, spared⟩
  · rintro ⟨f, value, same, forbids, before, after, all, spared⟩
    exact ⟨before, f, after, all, ⟨value, same, forbids⟩, spared⟩

theorem hit?_eq_none_iff : b.hit? i c = none ↔ ∀ f value, ¬ b.Forbids i c f value := by
  rw [hit?_eq, List.findSome?_eq_none_iff]
  simp only [finding?_eq_none_iff]
  exact ⟨fun spared f => spared f f.mem_all, fun spared f _ => spared f⟩

/-- When something is found against a field, there is a first such field. -/
theorem exists_forbidsFirst_iff :
    (∃ f value, b.ForbidsFirst i c f value) ↔ ∃ f value, b.Forbids i c f value := by
  constructor
  · rintro ⟨f, value, forbids, -⟩
    exact ⟨f, value, forbids⟩
  · rintro ⟨f, value, forbids⟩
    -- the search itself finds the first one
    cases found : b.hit? i c with
    | none => exact absurd forbids (hit?_eq_none_iff.1 found f value)
    | some hit =>
      obtain ⟨f, value, -, first⟩ := hit?_eq_some_iff.1 found
      exact ⟨f, value, first⟩

theorem evaluate_of_forbidsFirst (first : b.ForbidsFirst i c f value)
    (analysis : Option Analysis) :
    b.rule.evaluate i c analysis = .reject "blacklist"
      (f.name ++ " '" ++ value ++ "' is blacklisted for automated remediation") b.escalate := by
  have found : b.hit? i c = some (f.name, value) := hit?_eq_some_iff.2 ⟨f, value, rfl, first⟩
  simp only [rule, found]
  rfl

theorem passed_eq_false_iff {analysis : Option Analysis} :
    (b.rule.evaluate i c analysis).passed = false ↔ ∃ f value, b.Forbids i c f value := by
  constructor
  · intro rejected
    cases found : b.hit? i c with
    | none => simp [rule, found, Verdict.pass] at rejected
    | some hit =>
      obtain ⟨f, value, -, forbids, -⟩ := hit?_eq_some_iff.1 found
      exact ⟨f, value, forbids⟩
  · intro forbidden
    obtain ⟨f, value, first⟩ := exists_forbidsFirst_iff.2 forbidden
    rw [evaluate_of_forbidsFirst first]
    rfl

end Blacklist

/-- The rule rejects an incident just when its service, its namespace or its repository is listed;
it names the first of them, with its value, and escalates as it was told to. Where the caller says
what the incident says, the values it looks at are those of the incident, which are the ones that
name a target, so no target that is listed for its field gets past the rule, whatever fields a
policy looks at. -/
theorem blacklist_rejects_what_it_lists (b : Blacklist) (i : Incident)
    (analysis : Option Analysis) :
    (∀ c : Context,
      ((b.rule.evaluate i c analysis).passed = false ↔ ∃ f value, b.Forbids i c f value) ∧
      ((∃ f value, b.Forbids i c f value) → ∃ f value, b.ForbidsFirst i c f value) ∧
      ∀ f value, b.ForbidsFirst i c f value →
        b.rule.evaluate i c analysis = .reject "blacklist"
          (f.name ++ " '" ++ value ++ "' is blacklisted for automated remediation") b.escalate) ∧
    (∀ f value, Blacklist.Names i i.context f value ↔ f.read? i = some value) ∧
    ∀ (p : TargetKeyPolicy) (f : TargetField) (value : String), p.keyFor i = .of f value →
      (b.listed f).contains value = true →
        (b.rule.evaluate i i.context analysis).passed = false := by
  refine ⟨fun c => ⟨Blacklist.passed_eq_false_iff, Blacklist.exists_forbidsFirst_iff.2,
    fun f value first => Blacklist.evaluate_of_forbidsFirst first analysis⟩,
    fun f value => Blacklist.names_context, fun p f value key listed => ?_⟩
  have named : Blacklist.Names i i.context f value :=
    Blacklist.names_context.2 (TargetKeyPolicy.read?_of_keyFor key)
  exact Blacklist.passed_eq_false_iff.2 ⟨f, value, named, listed⟩

/-- A service that is named only under the last of its keys. -/
theorem blacklist_rejects_what_it_lists_under_last_key :
    let b := Blacklist.empty.withService "payments"
    let i := ((Incident.new ⟨7⟩ ⟨1700000000, 0⟩ .kubernetes "crash_loop").withContext "service"
      (.str "  ")).withContext "app" (.str " payments ")
    let p : TargetKeyPolicy := ⟨[.repository, .service]⟩
    (p.keyFor i = .of .service "payments" ∧ (b.listed .service).contains "payments" = true ∧
      b.ForbidsFirst i i.context .service "payments") ∧
    (b.rule.evaluate i i.context none).passed = false ∧
    b.rule.evaluate i i.context none =
      .reject "blacklist" "service 'payments' is blacklisted for automated remediation" false := by
  intro b i p
  have key : p.keyFor i = .of .service "payments" := by decide +kernel
  have listed : (b.listed .service).contains "payments" = true := by decide +kernel
  obtain ⟨rejects, named, always⟩ := blacklist_rejects_what_it_lists b i none
  have read : TargetField.service.read? i = some "payments" := by decide +kernel
  have first : b.ForbidsFirst i i.context .service "payments" :=
    ⟨⟨(named _ _).2 read, listed⟩, [], [.namespace, .repository], rfl, List.forall_mem_nil _⟩
  exact ⟨⟨key, listed, first⟩, always p _ _ key listed,
    ((rejects i.context).2.2 _ _ first).trans (by decide +kernel)⟩

end Remedy
