import Mathlib.Data.List.ReduceOption
import Remedy.Proofs.Rerun.Resolution

/-!
# Where the names of a run come from

Owner and repository are looked for in several sources, one after the other: names given to them,
the parts of a full name, and what the event of the provider says. Of each source only the first
value counts. It names what is looked for or it does not, and a value that does not can stand before
one that would: then the source is passed over.
-/

namespace Remedy.Rerun

open Json Workflow

/-! ## Values -/

/-- What a value names: a text that is not blank, trimmed, or the digits of a number. -/
def usable? : Json → Option String
  | .str s => Text.trimmed? s
  | .num n => some n.text
  | _ => none

/-- The full name `owner/name` that a value is. -/
def fullName? (v : Json) : Option (String × String) := (usable? v).bind splitFullName?

/-- Every value at the paths that is neither null nor blank. -/
def payloadValues (payload : Option Json) (paths : List (List String)) : List Json :=
  payload.toList.flatMap fun p => paths.filterMap fun path => (p.at? path).bind nonEmpty?

theorem asText?_of_nonEmpty {j v : Json} (h : nonEmpty? j = some v) : asText? v = usable? v := by
  unfold nonEmpty? at h
  split at h
  · cases h
  · next s =>
    split at h
    · cases h
    · next some_ =>
      cases h
      rw [asText?, usable?, Text.trimmed?, if_neg some_]
  · next other =>
    cases h
    unfold asText? usable?
    split <;> simp_all

/-- Wherever values are looked for, those that are found are neither null nor blank. -/
theorem exists_nonEmpty?_of_mem {α β : Type} {at? : α → β → Option Json} {as : List α} {bs : List β}
    {v : Json} (h : v ∈ as.flatMap fun a => bs.filterMap fun b => (at? a b).bind nonEmpty?) :
    ∃ j, nonEmpty? j = some v := by
  obtain ⟨a, -, among⟩ := List.mem_flatMap.1 h
  obtain ⟨b, -, found⟩ := List.mem_filterMap.1 among
  obtain ⟨j, -, some_⟩ := Option.bind_eq_some_iff.1 found
  exact ⟨j, some_⟩

theorem payloadAt?_eq (payload : Option Json) (paths : List (List String)) :
    payloadAt? payload paths = (payloadValues payload paths).head? := by
  cases payload with
  | none => rfl
  | some p => simp [payloadAt?, payloadValues]

theorem bind_asText?_head? {vs : List Json} (h : ∀ v ∈ vs, ∃ j, nonEmpty? j = some v) :
    vs.head?.bind asText? = (vs.map usable?).head?.join := by
  cases vs with
  | nil => rfl
  | cons v rest =>
    obtain ⟨j, some_⟩ := h v List.mem_cons_self
    exact asText?_of_nonEmpty some_

theorem filterMap_asText? {vs : List Json} (h : ∀ v ∈ vs, ∃ j, nonEmpty? j = some v) :
    vs.filterMap asText? = vs.filterMap usable? := by
  refine List.filterMap_congr fun v among => ?_
  obtain ⟨j, some_⟩ := h v among
  exact asText?_of_nonEmpty some_

/-! ## Sources -/

section Sources

variable {α : Type}

/-- What the sources name in the order in which they are searched. -/
def candidates (sources : List (List (Option α))) : List α := sources.flatten.reduceOption

/-- The first name, when only the first value of each source counts. -/
def leading (sources : List (List (Option α))) : Option α := sources.findSome? (·.head?.join)

/-- The source with the first candidate does not begin with it. -/
def Obscured (sources : List (List (Option α))) : Prop :=
  ∃ before source after, sources = before ++ source :: after ∧ candidates before = [] ∧
    source.head? = some none ∧ ∃ a, some a ∈ source

theorem leading_nil : leading ([] : List (List (Option α))) = none := rfl

theorem leading_append (sources more : List (List (Option α))) :
    leading (sources ++ more) = (leading sources).or (leading more) := List.findSome?_append

theorem leading_cons (source : List (Option α)) (sources : List (List (Option α))) :
    leading (source :: sources) = source.head?.join.or (leading sources) := by
  rw [leading, List.findSome?_cons]
  cases source.head?.join <;> rfl

theorem candidates_append (sources more : List (List (Option α))) :
    candidates (sources ++ more) = candidates sources ++ candidates more := by
  rw [candidates, List.flatten_append, List.reduceOption_append, candidates, candidates]

theorem mem_candidates {a : α} {sources : List (List (Option α))} :
    a ∈ candidates sources ↔ ∃ source ∈ sources, some a ∈ source := by
  rw [candidates, List.reduceOption_mem_iff, List.mem_flatten]

theorem mem_candidates_of_leading {a : α} {sources : List (List (Option α))}
    (h : leading sources = some a) : a ∈ candidates sources := by
  obtain ⟨source, among, first⟩ := List.exists_of_findSome?_eq_some h
  refine mem_candidates.2 ⟨source, among, List.mem_of_mem_head? ?_⟩
  exact Option.mem_def.2 (Option.join_eq_some_iff.1 first)

theorem leading_eq_none {sources : List (List (Option α))} (h : candidates sources = []) :
    leading sources = none := by
  rw [Option.eq_none_iff_forall_ne_some]
  intro a first
  have among := mem_candidates_of_leading first
  rw [h] at among
  cases among

/-- Unless a candidate is obscured, the first one of all is found. -/
theorem leading_eq_head? {sources : List (List (Option α))} (clear : ¬ Obscured sources) :
    leading sources = (candidates sources).head? := by
  -- By induction on the sources: one without a candidate is passed by, and of the first one with a
  -- candidate only the head is looked at, which is where being clear comes in.
  induction sources with
  | nil => rfl
  | cons source sources ih =>
    rw [← List.singleton_append, leading_append, candidates_append, List.head?_append]
    by_cases silent : candidates [source] = []
    · have later : ¬ Obscured sources := by
        rintro ⟨before, s, after, rfl, quiet, first, named⟩
        refine clear ⟨[source] ++ before, s, after, rfl, ?_, first, named⟩
        rw [candidates_append, silent, quiet]
        rfl
      rw [leading_eq_none silent, silent, ih later]
      rfl
    · cases source with
      | nil => exact absurd rfl silent
      | cons first rest =>
        cases first with
        | some a => rfl
        | none =>
          obtain ⟨a, among⟩ := List.exists_mem_of_ne_nil _ silent
          obtain ⟨source, same, named⟩ := mem_candidates.1 among
          obtain rfl := List.mem_singleton.1 same
          exact absurd ⟨[], none :: rest, sources, rfl, rfl, rfl, a, named⟩ clear

end Sources

/-- Who may own the repository: names given to the owner, the first full name that is given, and
what the event says. -/
def ownerSources (incident : Incident) (plan : Plan) : List (List (Option String)) :=
  let cs := [plan.parameters, incident.context]
  [(valuesUnder cs ownerKeys).map usable?,
    [((valuesUnder cs repoKeys).findSome? fullName?).map (·.1)],
    (payloadValues incident.payload payloadOwner).map usable?,
    (payloadValues incident.payload payloadFullName).map fun v =>
      (v.text?.bind splitFullName?).map (·.1)]

/-- The name in a full name, or the whole text. -/
def nameIn (text : String) : String :=
  match splitFullName? text with
  | some (_, name) => name
  | none => text

/-- How the repository may be named: by any text given to it, and by what the event says. -/
def repoSources (incident : Incident) (plan : Plan) : List (List (Option String)) :=
  let cs := [plan.parameters, incident.context]
  [((valuesUnder cs repoKeys).filterMap usable?).map fun text => some (nameIn text),
    (payloadValues incident.payload payloadRepo).map usable?,
    (payloadValues incident.payload payloadFullName).map fun v =>
      (v.text?.bind splitFullName?).map (·.2)]

/-- The values that may be the number of the run. -/
def runIdValues (incident : Incident) (plan : Plan) : List Json :=
  valuesUnder [plan.parameters, incident.context] runIdKeys
    ++ payloadValues incident.payload payloadRunId

theorem findSome?_splitFullName? (vs : List Json) :
    (vs.filterMap usable?).findSome? splitFullName? = vs.findSome? fullName? := by
  rw [← List.head?_filterMap, List.filterMap_filterMap, List.head?_filterMap]
  rfl

/-- What is located is what leads the sources. -/
theorem locate_eq (incident : Incident) (plan : Plan) :
    locate incident plan =
      ⟨leading (ownerSources incident plan), leading (repoSources incident plan),
        (runIdValues incident plan).head?⟩ := by
  have given (keys : List String) : ∀ v ∈ valuesUnder [plan.parameters, incident.context] keys,
      ∃ j, nonEmpty? j = some v := fun v => exists_nonEmpty?_of_mem
  have shown (paths : List (List String)) : ∀ v ∈ payloadValues incident.payload paths,
      ∃ j, nonEmpty? j = some v := fun v => exists_nonEmpty?_of_mem
  have part {β : Type} (f : String × String → β) :
      (((payloadAt? incident.payload payloadFullName).bind text?).bind splitFullName?).map f =
        ((payloadValues incident.payload payloadFullName).map fun v =>
          (v.text?.bind splitFullName?).map f).head?.join := by
    rw [payloadAt?_eq, List.head?_map]
    cases (payloadValues incident.payload payloadFullName).head? <;> rfl
  have declared : ((valuesUnder [plan.parameters, incident.context] repoKeys).filterMap
      usable?).head?.map nameIn =
        (((valuesUnder [plan.parameters, incident.context] repoKeys).filterMap usable?).map
          fun text =>
          some (nameIn text)).head?.join := by
    rw [List.head?_map]
    cases List.head? _ <;> rfl
  simp only [ownerSources, repoSources, runIdValues, leading_cons, leading_nil, Option.or_none,
    List.head?_cons, Option.join_some, List.head?_append, ← part, ← declared,
    ← bind_asText?_head? (given _), ← bind_asText?_head? (shown _), ← payloadAt?_eq]
  simp only [locate, lookup?, filterMap_asText? (given _), findSome?_splitFullName?,
    Option.or_assoc]
  rfl

/-! ## What is taken -/

/-- The names of what was not found, in order. -/
def lacking (owner repo : Option String) (runId : Option Json) : List String :=
  (if owner.isNone then ["owner"] else []) ++ (if repo.isNone then ["repo"] else [])
    ++ if runId.isNone then ["run_id"] else []

theorem missing_eq (l : Located) : l.missing = lacking l.owner l.repo l.runId := by
  obtain ⟨owner, repo, runId⟩ := l
  cases owner <;> cases repo <;> cases runId <;> rfl

/-- What is found in sources is one of their candidates, and the first one unless that is obscured.
A source that begins with a value that names nothing is passed over as a whole. -/
structure Taken (sources : List (List (Option String))) (found : Option String) : Prop where
  candidate : ∀ name, found = some name → name ∈ candidates sources
  first : ¬ Obscured sources → found = (candidates sources).head?
  passed : ∀ before source after, sources = before ++ source :: after → candidates before = [] →
    source.head? = some none → found = leading after

theorem taken_leading (sources : List (List (Option String))) :
    Taken sources (leading sources) where
  candidate _ := mem_candidates_of_leading
  first := leading_eq_head?
  passed before source after same silent unnamed := by
    rw [same, leading_append, leading_eq_none silent, leading_cons, unnamed]
    rfl

/-- Owner and repository of a run are the first of their candidates, unless the source of that one
begins with a value that names nothing; its number is the first value that is neither null nor
blank. What is found nowhere is reported together, in order, and before anything else is wrong. -/
theorem first_candidates_are_taken (incident : Incident) (plan : Plan) (defaults : Defaults) :
    ∃ owner repo, Taken (ownerSources incident plan) owner ∧
      Taken (repoSources incident plan) repo ∧
      let runId := (runIdValues incident plan).head?
      (∀ names, Parameters.resolve incident plan defaults = .error (.missingParameters names) ↔
        names = lacking owner repo runId ∧ names ≠ []) ∧
      ∀ p, Parameters.resolve incident plan defaults = .ok p →
        owner = some p.run.owner ∧ repo = some p.run.repo ∧
          ∃ v, runId = some v ∧ readNat "run_id" v = .ok p.run.runId := by
  refine ⟨_, _, taken_leading _, taken_leading _, fun names => ?_, fun p resolved => ?_⟩
  · rw [resolve_eq_missing_iff, missing_eq, locate_eq]
  · obtain ⟨v, located, read, -⟩ := located_of_resolve resolved
    rw [locate_eq] at located
    obtain ⟨owned, named, numbered⟩ := Located.mk.inj located
    exact ⟨owned, named, v, numbered, read⟩

/-- An owner that is no text hides the owner under the next name: it is reported as missing. -/
theorem unusable_owner_hides_alias :
    let incident := ((((Incident.new ⟨7⟩ ⟨1700000000, 0⟩ .github "flaky_test").withContext "owner"
      (.bool true)).withContext "repo_owner" (.str "acme")).withContext "repo"
      (.str "widgets")).withContext "run_id" (natural 42)
    let plan := Plan.new .rerunWorkflow ""
    candidates (ownerSources incident plan) = ["acme"] ∧
      candidates (repoSources incident plan) = ["widgets"] ∧
      Parameters.resolve incident plan .standard = .error (.missingParameters ["owner"]) := by
  decide +kernel

end Remedy.Rerun
