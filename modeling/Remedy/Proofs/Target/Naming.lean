import Remedy.Target

/-!
# What names a target

A context says of a field what stands under the first of its keys that holds a text with something
to see. A policy picks the first of its fields of which the context of an incident says something,
and names the target by that field and that value; an incident of which no field is said anything
has the shared key.
-/

namespace Remedy

/-! ## What a context says -/

namespace Context

/-- A key holds a text with something to see, here without the white space at its ends. -/
def Holds (c : Context) (key value : String) : Prop :=
  ∃ text, Dict.get? c key = some (.str text) ∧ value = Text.trim text ∧ value ≠ ""

/-- A value stands under the first of the keys that holds one. -/
def Says (c : Context) (keys : List String) (value : String) : Prop :=
  ∃ before key after, keys = before ++ key :: after ∧ c.Holds key value ∧
    ∀ k ∈ before, ∀ v, ¬ c.Holds k v

variable {c : Context} {keys : List String} {value : String}

theorem held_iff {key : String} :
    ((Dict.get? c key).bind fun j => j.text?.bind Text.trimmed?) = some value ↔
      c.Holds key value := by
  simp only [Option.bind_eq_some_iff, Text.trimmed?_eq_some, Holds]
  constructor
  · rintro ⟨j, found, text, isText, trimmed⟩
    cases j with
    | str s =>
      cases isText
      exact ⟨_, found, trimmed⟩
    | _ => cases isText
  · rintro ⟨text, found, trimmed⟩
    exact ⟨_, found, text, rfl, trimmed⟩

theorem text?_eq_some_iff : c.text? keys = some value ↔ c.Says keys value := by
  have nothing (k : String) : ((Dict.get? c k).bind fun j => j.text?.bind Text.trimmed?) = none ↔
      ∀ v, ¬ c.Holds k v := by
    rw [Option.eq_none_iff_forall_ne_some]
    exact forall_congr' fun v => not_congr held_iff
  simp only [text?, List.findSome?_eq_some_iff, held_iff, nothing, Says]

theorem text?_eq_none_iff : c.text? keys = none ↔ ∀ v, ¬ c.Says keys v := by
  rw [Option.eq_none_iff_forall_ne_some]
  exact forall_congr' fun v => not_congr text?_eq_some_iff

end Context

/-! ## What an incident has -/

namespace TargetField

/-- The keys under which an incident may name a field. -/
def keys : TargetField → List String
  | service => Incident.serviceKeys
  | «namespace» => Incident.namespaceKeys
  | repository => Incident.repositoryKeys

/-- The value that the context of an incident gives a field. -/
def Has (f : TargetField) (i : Incident) (value : String) : Prop := i.context.Says f.keys value

variable {f : TargetField} {i : Incident} {value : String}

theorem read?_eq (f : TargetField) (i : Incident) : f.read? i = i.context.text? f.keys := by
  cases f <;> rfl

theorem read?_eq_some_iff : f.read? i = some value ↔ f.Has i value := by
  rw [read?_eq, Context.text?_eq_some_iff, Has]

theorem read?_eq_none_iff : f.read? i = none ↔ ∀ value, ¬ f.Has i value := by
  rw [read?_eq, Context.text?_eq_none_iff]
  rfl

end TargetField

/-! ## What a policy picks -/

namespace TargetKeyPolicy

/-- No field of the policy has a value. -/
def Unnamed (p : TargetKeyPolicy) (i : Incident) : Prop := ∀ f ∈ p.fields, ∀ v, ¬ f.Has i v

/-- The first field of the policy that has a value, with this value. -/
structure Picks (p : TargetKeyPolicy) (i : Incident) (f : TargetField) (value : String) : Prop where
  first : ∃ before after, p.fields = before ++ f :: after ∧ ∀ f' ∈ before, ∀ v, ¬ f'.Has i v
  has : f.Has i value

variable {p : TargetKeyPolicy} {i : Incident} {f : TargetField} {value : String}

theorem target?_eq_some_iff : p.target? i = some (f, value) ↔ p.Picks i f value := by
  simp only [target?, List.findSome?_eq_some_iff, Option.map_eq_some_iff, Option.map_eq_none_iff,
    TargetField.read?_eq_some_iff, TargetField.read?_eq_none_iff, Prod.mk.injEq]
  constructor
  · rintro ⟨before, f', after, fields, ⟨v, has, rfl, rfl⟩, nothing⟩
    exact ⟨⟨before, after, fields, nothing⟩, has⟩
  · rintro ⟨⟨before, after, fields, nothing⟩, has⟩
    exact ⟨before, f, after, fields, ⟨value, has, rfl, rfl⟩, nothing⟩

theorem target?_eq_none_iff : p.target? i = none ↔ p.Unnamed i := by
  simp only [target?, List.findSome?_eq_none_iff, Option.map_eq_none_iff,
    TargetField.read?_eq_none_iff, Unnamed]

/-- A key that is made of a field and a value is that of the incidents of which the policy picks
them. -/
theorem keyFor_eq_of_iff : p.keyFor i = .of f value ↔ p.Picks i f value := by
  rw [← target?_eq_some_iff, keyFor]
  cases p.target? i with
  | none => exact iff_of_false (TargetKey.of_ne_global f value).symm (Option.some_ne_none _).symm
  | some named => rw [TargetKey.of_inj, Option.some_inj, ← Prod.mk.injEq]

theorem keyFor_eq_global_iff : p.keyFor i = .global ↔ p.Unnamed i := by
  rw [← target?_eq_none_iff, keyFor]
  cases p.target? i with
  | none => exact iff_of_true rfl rfl
  | some named => exact iff_of_false (TargetKey.of_ne_global _ _) (Option.some_ne_none _)

theorem picks_or_unnamed (p : TargetKeyPolicy) (i : Incident) :
    (∃ f value, p.Picks i f value) ∨ p.Unnamed i := by
  cases target : p.target? i with
  | none => exact .inr (target?_eq_none_iff.1 target)
  | some named => exact .inl ⟨named.1, named.2, target?_eq_some_iff.1 target⟩

theorem read?_of_keyFor (key : p.keyFor i = .of f value) : f.read? i = some value :=
  TargetField.read?_eq_some_iff.2 (keyFor_eq_of_iff.1 key).has

end TargetKeyPolicy

end Remedy
