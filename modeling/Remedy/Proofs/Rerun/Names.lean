import Remedy.Proofs.Decimal.Written
import Remedy.Proofs.Rerun.Sources
import Remedy.Proofs.Text.Trimming

/-!
# The names in a run

Owner and repository of a run that was found are some text without white space at the ends, wherever
they come from. An owner out of a full name has no slash in it. Any other slash in a name was there
in what the name was taken from: names are taken as they are given.
-/

namespace Remedy.Rerun

open Json Workflow

/-! ## Full names -/

/-- A full name is cut at its first slash. -/
theorem splitFullName?_of_slash {full : String} {a b : List Char} (h : full.toList = a ++ '/' :: b)
    (first : '/' ∉ a) : splitFullName? full = (Text.trimmed? (String.ofList a)).bind fun owner =>
      (Text.trimmed? (String.ofList b)).bind fun name => some (owner, name) := by
  have front : ∀ c ∈ a, (c != '/') = true := by
    intro c among
    simp only [bne_iff_ne]
    rintro rfl
    exact first among
  have left : full.toList.takeWhile (· != '/') = a := by
    rw [h, List.takeWhile_append_of_pos front]
    simp
  have right : full.toList.dropWhile (· != '/') = '/' :: b := by
    rw [h, List.dropWhile_append_of_pos front]
    simp
  simp only [splitFullName?, left, right]
  rfl

theorem splitFullName?_of_no_slash {full : String} (h : '/' ∉ full.toList) :
    splitFullName? full = none := by
  have all : full.toList.dropWhile (· != '/') = [] := by
    refine List.dropWhile_eq_nil_iff.2 fun c among => ?_
    simp only [bne_iff_ne]
    rintro rfl
    exact h among
  simp only [splitFullName?, all]

theorem exists_of_splitFullName? {full owner name : String}
    (h : splitFullName? full = some (owner, name)) : ∃ a b, full.toList = a ++ '/' :: b ∧ '/' ∉ a ∧
      Text.trimmed? (String.ofList a) = some owner ∧
        Text.trimmed? (String.ofList b) = some name := by
  by_cases slash : '/' ∈ full.toList
  · obtain ⟨a, b, cut, first⟩ := List.eq_append_cons_of_mem slash
    rw [splitFullName?_of_slash cut first] at h
    obtain ⟨owner', left, h⟩ := Option.bind_eq_some_iff.1 h
    obtain ⟨name', right, h⟩ := Option.bind_eq_some_iff.1 h
    cases h
    exact ⟨a, b, cut, first, left, right⟩
  · rw [splitFullName?_of_no_slash slash] at h
    cases h

/-- No slash stands in a text but one that has text on both sides. -/
def Regular (text : String) : Prop :=
  '/' ∉ text.toList ∨ ∃ a b, text.toList = a ++ '/' :: b ∧ '/' ∉ a ∧ '/' ∉ b ∧
    Text.trim (String.ofList a) ≠ "" ∧ Text.trim (String.ofList b) ≠ ""

/-- A regular text gives a name without a slash. -/
theorem Regular.not_mem_nameIn {text : String} (h : Regular text) : '/' ∉ (nameIn text).toList := by
  rcases h with plain | ⟨a, b, cut, first, last, left, right⟩
  · rw [nameIn, splitFullName?_of_no_slash plain]
    exact plain
  · rw [nameIn, splitFullName?_of_slash cut first, Text.trimmed?, if_neg left, Text.trimmed?,
      if_neg right]
    intro among
    have among := Text.mem_of_mem_trim among
    rw [String.toList_ofList] at among
    exact last among

section Parts

variable {full owner name : String} (h : splitFullName? full = some (owner, name))
include h

theorem neat_owner_of_splitFullName? : Text.Neat owner := by
  obtain ⟨a, b, -, -, left, -⟩ := exists_of_splitFullName? h
  exact Text.neat_of_trimmed? left

theorem neat_name_of_splitFullName? : Text.Neat name := by
  obtain ⟨a, b, -, -, -, right⟩ := exists_of_splitFullName? h
  exact Text.neat_of_trimmed? right

/-- The owner stands in front of the first slash. -/
theorem not_mem_owner_of_splitFullName? : '/' ∉ owner.toList := by
  obtain ⟨a, b, -, first, left, -⟩ := exists_of_splitFullName? h
  intro among
  have among := Text.mem_of_trimmed? left among
  rw [String.toList_ofList] at among
  exact first among

theorem nameIn_of_splitFullName? : nameIn full = name := by
  rw [nameIn, h]

end Parts

theorem neat_of_usable? {v : Json} {text : String} (h : usable? v = some text) :
    Text.Neat text := by
  unfold usable? at h
  split at h
  · exact Text.neat_of_trimmed? h
  · next n =>
    cases h
    have visible := n.visible_text
    refine .of_visible (fun none_ => visible.some_ ?_) visible.all
    rw [none_]
    rfl
  · cases h

theorem neat_nameIn {text : String} (h : Text.Neat text) : Text.Neat (nameIn text) := by
  unfold nameIn
  split
  · next owner name split => exact neat_name_of_splitFullName? split
  · exact h

/-! ## Names of runs -/

/-- The values that are taken for an owner as they are. -/
def ownerValues (incident : Incident) (plan : Plan) : List Json :=
  valuesUnder [plan.parameters, incident.context] ownerKeys
    ++ payloadValues incident.payload payloadOwner

/-- The texts that may be full names. -/
def repoTexts (incident : Incident) (plan : Plan) : List String :=
  (valuesUnder [plan.parameters, incident.context] repoKeys).filterMap usable?
    ++ (payloadValues incident.payload payloadFullName).filterMap text?

/-- What the names of a run are like: neat, and with a slash only where what they are taken from has
one that does not divide owner and name. -/
structure Named (incident : Incident) (plan : Plan) (run : RunRef) : Prop where
  owner : Text.Neat run.owner
  repo : Text.Neat run.repo
  ownerSlash : '/' ∈ run.owner.toList → ∃ v ∈ ownerValues incident plan, usable? v = some run.owner
  repoSlash : '/' ∈ run.repo.toList →
    (∃ text ∈ repoTexts incident plan, nameIn text = run.repo ∧ ¬ Regular text) ∨
      ∃ v ∈ payloadValues incident.payload payloadRepo, usable? v = some run.repo

theorem owner_of_leading {incident : Incident} {plan : Plan} {owner : String}
    (h : leading (ownerSources incident plan) = some owner) :
    (∃ v ∈ ownerValues incident plan, usable? v = some owner) ∨
      ∃ full name, splitFullName? full = some (owner, name) := by
  obtain ⟨source, among, said⟩ := mem_candidates.1 (mem_candidates_of_leading h)
  simp only [ownerSources, List.mem_cons, List.not_mem_nil, or_false] at among
  rcases among with rfl | rfl | rfl | rfl
  · obtain ⟨v, given, usable⟩ := List.mem_map.1 said
    exact .inl ⟨v, List.mem_append_left _ given, usable⟩
  · have said := (List.mem_singleton.1 said).symm
    obtain ⟨⟨_, name⟩, found, rfl⟩ := Option.map_eq_some_iff.1 said
    obtain ⟨v, -, full⟩ := List.exists_of_findSome?_eq_some found
    obtain ⟨text, -, split⟩ := Option.bind_eq_some_iff.1 full
    exact .inr ⟨text, name, split⟩
  · obtain ⟨v, given, usable⟩ := List.mem_map.1 said
    exact .inl ⟨v, List.mem_append_right _ given, usable⟩
  · obtain ⟨v, -, full⟩ := List.mem_map.1 said
    obtain ⟨⟨_, name⟩, split, rfl⟩ := Option.map_eq_some_iff.1 full
    obtain ⟨text, -, split⟩ := Option.bind_eq_some_iff.1 split
    exact .inr ⟨text, name, split⟩

theorem repo_of_leading {incident : Incident} {plan : Plan} {repo : String}
    (h : leading (repoSources incident plan) = some repo) :
    (∃ text ∈ repoTexts incident plan, nameIn text = repo ∧ Text.Neat repo) ∨
      ∃ v ∈ payloadValues incident.payload payloadRepo, usable? v = some repo := by
  obtain ⟨source, among, said⟩ := mem_candidates.1 (mem_candidates_of_leading h)
  simp only [repoSources, List.mem_cons, List.not_mem_nil, or_false] at among
  rcases among with rfl | rfl | rfl
  · obtain ⟨text, given, same⟩ := List.mem_map.1 said
    obtain rfl := Option.some.inj same
    obtain ⟨v, -, usable⟩ := List.mem_filterMap.1 given
    exact .inl ⟨text, List.mem_append_left _ given, rfl, neat_nameIn (neat_of_usable? usable)⟩
  · obtain ⟨v, given, usable⟩ := List.mem_map.1 said
    exact .inr ⟨v, given, usable⟩
  · obtain ⟨v, given, full⟩ := List.mem_map.1 said
    obtain ⟨⟨owner, _⟩, split, rfl⟩ := Option.map_eq_some_iff.1 full
    obtain ⟨text, shown, split⟩ := Option.bind_eq_some_iff.1 split
    exact .inl ⟨text, List.mem_append_right _ (List.mem_filterMap.2 ⟨v, given, shown⟩),
      nameIn_of_splitFullName? split, neat_name_of_splitFullName? split⟩

theorem named_of_resolve {incident : Incident} {plan : Plan} {defaults : Defaults} {p : Parameters}
    (resolved : Parameters.resolve incident plan defaults = .ok p) : Named incident plan p.run := by
  obtain ⟨v, located, -, -⟩ := located_of_resolve resolved
  rw [locate_eq] at located
  obtain ⟨owned, named, -⟩ := Located.mk.inj located
  have owner := owner_of_leading owned
  have repo := repo_of_leading named
  refine ⟨?_, ?_, fun slash => ?_, fun slash => ?_⟩
  · rcases owner with ⟨v, -, usable⟩ | ⟨full, name, split⟩
    · exact neat_of_usable? usable
    · exact neat_owner_of_splitFullName? split
  · rcases repo with ⟨text, -, -, neat⟩ | ⟨v, -, usable⟩
    · exact neat
    · exact neat_of_usable? usable
  · rcases owner with given | ⟨full, name, split⟩
    · exact given
    · exact absurd slash (not_mem_owner_of_splitFullName? split)
  · rcases repo with ⟨text, given, same, -⟩ | shown
    · exact .inl ⟨text, given, same, fun regular => regular.not_mem_nameIn (same ▸ slash)⟩
    · exact .inr shown

end Remedy.Rerun
