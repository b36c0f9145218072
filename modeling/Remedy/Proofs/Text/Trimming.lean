import Mathlib.Data.List.DropRight
import Remedy.Text.Blank

/-!
# Trimmed texts

What is left of a text when the white space is taken off both ends starts and ends with something to
see.
-/

namespace Remedy.Text

/-- Nothing but white space. -/
def Blank (s : String) : Prop := ∀ c ∈ s.toList, isBlank c = true

instance (s : String) : Decidable (Blank s) :=
  decidable_of_iff (s.toList.all isBlank = true) List.all_eq_true

/-- Some text without white space at its ends. -/
structure Neat (s : String) : Prop where
  some_ : s ≠ ""
  front : ∀ c ∈ s.toList.head?, isBlank c = false
  back : ∀ c ∈ s.toList.getLast?, isBlank c = false

theorem Neat.of_visible {s : String} (some_ : s ≠ "") (h : ∀ c ∈ s.toList, isBlank c = false) :
    Neat s where
  some_ := some_
  front c front := h c (List.mem_of_mem_head? front)
  back c back := h c (List.mem_of_mem_getLast? back)

theorem Neat.not_blank {s : String} (neat : Neat s) : ¬ Blank s := by
  intro blank
  cases shown : s.toList with
  | nil => exact neat.some_ (String.toList_eq_nil_iff.1 shown)
  | cons c rest =>
    have seen := neat.front c (by rw [shown]; rfl)
    have unseen := blank c (by rw [shown]; exact List.mem_cons_self)
    rw [unseen] at seen
    cases seen

theorem trimRight_eq (cs : List Char) : trimRight cs = cs.rdropWhile isBlank := rfl

theorem trimLeft_front (cs : List Char) : ∀ c ∈ (trimLeft cs).head?, isBlank c = false := by
  intro c front
  have visible := List.head?_dropWhile_not isBlank cs
  rw [trimLeft] at front
  rw [Option.mem_def.1 front] at visible
  exact visible

theorem trimRight_back (cs : List Char) : ∀ c ∈ (trimRight cs).getLast?, isBlank c = false := by
  intro c back
  rw [trimRight, List.getLast?_reverse] at back
  exact trimLeft_front _ c back

/-- What is taken off at the end leaves the front as it is. -/
theorem trimRight_front {cs : List Char} {c : Char} (h : c ∈ (trimRight cs).head?) :
    c ∈ cs.head? := by
  obtain ⟨rest, same⟩ : trimRight cs <+: cs := trimRight_eq cs ▸ List.rdropWhile_prefix isBlank cs
  rw [← same, List.head?_append, Option.mem_def.1 h]
  rfl

theorem neat_of_trimmed? {s t : String} (h : trimmed? s = some t) : Neat t := by
  obtain ⟨rfl, some_⟩ := trimmed?_eq_some.1 h
  have left : (trim s).toList = trimRight (trimLeft s.toList) := String.toList_ofList
  refine ⟨some_, fun c front => ?_, fun c back => ?_⟩
  · rw [left] at front
    exact trimLeft_front _ c (trimRight_front front)
  · rw [left] at back
    exact trimRight_back _ c back

/-- What is left was there. -/
theorem mem_of_mem_trim {s : String} {c : Char} (h : c ∈ (trim s).toList) : c ∈ s.toList := by
  rw [trim, String.toList_ofList, trimChars, trimRight_eq] at h
  exact (List.dropWhile_sublist _).mem ((List.rdropWhile_prefix _ _).mem h)

theorem mem_of_trimmed? {s t : String} {c : Char} (h : trimmed? s = some t) (among : c ∈ t.toList) :
    c ∈ s.toList := by
  rw [(trimmed?_eq_some.1 h).1] at among
  exact mem_of_mem_trim among

end Remedy.Text
