import Remedy.Config.Overrides
import Remedy.Proofs.Text.Trimming

/-!
# Lists of names

A list of names is one text with commas between its parts. A blank part adds nothing, and any other
part adds what is left of it without the white space at its ends. So the names of a text are added
as a union of sets, and a set of names can be written down as a list and read again.
-/

namespace Remedy

/-! ## Sets of names -/

namespace NameSet

theorem contains_insert (s : NameSet) (added name : String) :
    (s.insert added).contains name = true ↔ name = added ∨ s.contains name = true := by
  rw [insert, contains, Dict.contains, Dict.get?_insert]
  split
  · next same => simp [same]
  · next other => simp [other, contains, Dict.contains]

theorem contains_foldl_insert (names : List String) (s : NameSet) (name : String) :
    (names.foldl insert s).contains name = true ↔ s.contains name = true ∨ name ∈ names := by
  induction names generalizing s with
  | nil => simp
  | cons first rest ih =>
    rw [List.foldl_cons, ih, contains_insert, List.mem_cons]
    constructor
    · rintro ((rfl | before) | later)
      · exact .inr (.inl rfl)
      · exact .inl before
      · exact .inr (.inr later)
    · rintro (before | rfl | later)
      · exact .inl (.inr before)
      · exact .inl (.inl rfl)
      · exact .inr later

theorem not_contains_empty (name : String) : ¬ contains Dict.empty name = true :=
  Bool.false_ne_true

/-- A set is what it contains. -/
theorem eq_of_contains {s t : NameSet}
    (same : ∀ name, s.contains name = true ↔ t.contains name = true) : s = t := by
  apply Dict.eq_of_get?
  intro name
  have both := same name
  rw [contains, contains, Dict.contains, Dict.contains] at both
  cases left : Dict.get? s name with
  | none =>
    cases right : Dict.get? t name with
    | none => rfl
    | some _ =>
      rw [left, right] at both
      exact absurd (both.2 rfl) Bool.false_ne_true
  | some _ =>
    cases right : Dict.get? t name with
    | none =>
      rw [left, right] at both
      exact absurd (both.1 rfl) Bool.false_ne_true
    | some _ => rfl

end NameSet

/-! ## White space around a name -/

namespace Text

/-- A name with white space in front and at the end, if any. -/
def Padded (name part : String) : Prop :=
  ∃ left right, Blank left ∧ Blank right ∧ part = left ++ name ++ right

theorem trimLeft_of_front {cs : List Char} (front : ∀ c ∈ cs.head?, isBlank c = false) :
    trimLeft cs = cs := by
  cases cs with
  | nil => rfl
  | cons c cs => exact trimLeft_cons cs (front c rfl)

theorem trimRight_of_back {cs : List Char} (back : ∀ c ∈ cs.getLast?, isBlank c = false) :
    trimRight cs = cs := by
  have front : ∀ c ∈ cs.reverse.head?, isBlank c = false := by
    intro c among
    exact back c (List.head?_reverse ▸ among)
  rw [trimRight, trimLeft_of_front front, List.reverse_reverse]

theorem trimLeft_blank_append {left : List Char} (blank : ∀ c ∈ left, isBlank c = true)
    (cs : List Char) : trimLeft (left ++ cs) = trimLeft cs :=
  List.dropWhile_append_of_pos blank

theorem trimRight_append_blank {right : List Char} (blank : ∀ c ∈ right, isBlank c = true)
    (cs : List Char) : trimRight (cs ++ right) = trimRight cs := by
  have back : ∀ c ∈ right.reverse, isBlank c = true := by
    intro c among
    exact blank c (List.mem_reverse.1 among)
  rw [trimRight, List.reverse_append, trimLeft_blank_append back, trimRight]

theorem trim_blank {s : String} (blank : Blank s) : trim s = "" := by
  have gone := trimLeft_blank_append blank []
  rw [List.append_nil] at gone
  rw [trim, trimChars, gone]
  rfl

theorem Neat.trim_padded {name part : String} (neat : Neat name) (padded : Padded name part) :
    trim part = name := by
  obtain ⟨left, right, blankLeft, blankRight, rfl⟩ := padded
  have visible : ∀ c ∈ (name.toList ++ right.toList).head?, isBlank c = false := by
    intro c first
    cases shown : name.toList with
    | nil => exact absurd (String.toList_eq_nil_iff.1 shown) neat.some_
    | cons d rest =>
      rw [shown] at first
      exact neat.front c (by rw [shown]; exact first)
  rw [trim, trimChars, String.toList_append, String.toList_append, List.append_assoc,
    trimLeft_blank_append blankLeft, trimLeft_of_front visible, trimRight_append_blank blankRight,
    trimRight_of_back neat.back, String.ofList_toList]

end Text

namespace Config

/-! ## The parts of a list -/

theorem splitCommas_eq_splitOn (cs : List Char) : splitCommas cs = cs.splitOn ',' := by
  induction cs with
  | nil => rfl
  | cons c cs ih =>
    rw [splitCommas, ih, List.splitOn, List.splitOn, List.splitOnP_cons_eq_if_modifyHead]
    by_cases comma : c = ','
    · simp [comma]
    · cases parts : List.splitOnP (· == ',') cs with
      | nil => exact absurd parts (List.splitOnP_ne_nil _ _)
      | cons part rest => simp [comma]

/-- A name that a text lists: what is left of a part between its commas, unless nothing is left. -/
def Lists (raw name : String) : Prop :=
  name ≠ "" ∧ ∃ part ∈ raw.toList.splitOn ',', Text.trim (String.ofList part) = name

theorem mem_listed {raw name : String} : name ∈ listed raw ↔ Lists raw name := by
  rw [listed, splitCommas_eq_splitOn, List.mem_filterMap]
  constructor
  · rintro ⟨part, among, kept⟩
    obtain ⟨rfl, some_⟩ := Text.trimmed?_eq_some.1 kept
    exact ⟨some_, part, among, rfl⟩
  · rintro ⟨some_, part, among, rfl⟩
    exact ⟨part, among, Text.trimmed?_eq_some.2 ⟨rfl, some_⟩⟩

/-- The names of a text are added to those that are there. -/
theorem contains_addListed (names : NameSet) (raw name : String) :
    (addListed names raw).contains name = true ↔ names.contains name = true ∨ Lists raw name := by
  rw [addListed, NameSet.contains_foldl_insert, mem_listed]

/-! ## Writing a set down -/

/-- The parts of a list that has just these names: each part is blank or a padded name. -/
structure Enumerates (parts : List String) (names : NameSet) : Prop where
  only : ∀ part ∈ parts,
    Text.Blank part ∨ ∃ name, names.contains name = true ∧ Text.Padded name part
  all : ∀ name, names.contains name = true → ∃ part ∈ parts, Text.Padded name part

/-- A name that can stand in a list. -/
structure Listable (name : String) : Prop where
  some_ : name ≠ ""
  trimmed : Text.trim name = name
  noComma : ',' ∉ name.toList

theorem Listable.neat {name : String} (h : Listable name) : Text.Neat name :=
  Text.neat_of_trimmed? (Text.trimmed?_eq_some.2 ⟨h.trimmed.symm, h.some_⟩)

theorem comma_not_mem_blank {s : String} (blank : Text.Blank s) : ',' ∉ s.toList := by
  intro among
  have no : Text.isBlank ',' = false := by decide
  rw [blank ',' among] at no
  cases no

theorem Listable.comma_not_mem_padded {name part : String} (h : Listable name)
    (padded : Text.Padded name part) : ',' ∉ part.toList := by
  obtain ⟨left, right, blankLeft, blankRight, rfl⟩ := padded
  rw [String.toList_append, String.toList_append, List.mem_append, List.mem_append]
  rintro ((among | among) | among)
  · exact comma_not_mem_blank blankLeft among
  · exact h.noComma among
  · exact comma_not_mem_blank blankRight among

/-- Text without commas, put together with commas, is taken apart again. -/
theorem splitOn_intercalate {parts : List String} (some_ : parts ≠ [])
    (noComma : ∀ part ∈ parts, ',' ∉ part.toList) :
    (",".intercalate parts).toList.splitOn ',' = parts.map String.toList := by
  have comma : ",".toList = [','] := rfl
  rw [String.toList_intercalate, comma]
  refine List.splitOn_intercalate ',' ?_ ?_
  · intro cs among
    obtain ⟨part, there, rfl⟩ := List.mem_map.1 among
    exact noComma part there
  · intro empty
    exact some_ (List.map_eq_nil_iff.1 empty)

theorem lists_intercalate {parts : List String} (noComma : ∀ part ∈ parts, ',' ∉ part.toList)
    (name : String) :
    Lists (",".intercalate parts) name ↔ name ≠ "" ∧ ∃ part ∈ parts, Text.trim part = name := by
  by_cases none : parts = []
  · subst none
    constructor
    · rintro ⟨some_, part, among, rfl⟩
      -- The empty text has one part, and that is empty too.
      have only : part = [] := List.mem_singleton.1 among
      exact absurd (only ▸ rfl) some_
    · rintro ⟨_, part, among, _⟩
      cases among
  · rw [Lists, splitOn_intercalate none noComma]
    constructor
    · rintro ⟨some_, cs, among, same⟩
      obtain ⟨part, there, rfl⟩ := List.mem_map.1 among
      exact ⟨some_, part, there, by rw [← same, String.ofList_toList]⟩
    · rintro ⟨some_, part, there, same⟩
      exact ⟨some_, part.toList, List.mem_map_of_mem there, by rw [String.ofList_toList, same]⟩

/-- A set that is written down as a list is read again. -/
theorem Enumerates.lists_iff {parts : List String} {names : NameSet} (h : Enumerates parts names)
    (listable : ∀ name, names.contains name = true → Listable name) (name : String) :
    Lists (",".intercalate parts) name ↔ names.contains name = true := by
  have noComma : ∀ part ∈ parts, ',' ∉ part.toList := by
    intro part among
    rcases h.only part among with blank | ⟨written, held, padded⟩
    · exact comma_not_mem_blank blank
    · exact (listable written held).comma_not_mem_padded padded
  rw [lists_intercalate noComma]
  constructor
  · rintro ⟨some_, part, among, rfl⟩
    rcases h.only part among with blank | ⟨written, held, padded⟩
    · exact absurd (Text.trim_blank blank) some_
    · rw [(listable written held).neat.trim_padded padded]
      exact held
  · intro held
    obtain ⟨part, among, padded⟩ := h.all name held
    have can := listable name held
    exact ⟨can.some_, part, among, can.neat.trim_padded padded⟩

theorem Enumerates.addListed_empty {parts : List String} {names : NameSet}
    (h : Enumerates parts names)
    (listable : ∀ name, names.contains name = true → Listable name) :
    addListed Dict.empty (",".intercalate parts) = names := by
  apply NameSet.eq_of_contains
  intro name
  rw [contains_addListed, h.lists_iff listable]
  constructor
  · rintro (none | held)
    · exact absurd none (NameSet.not_contains_empty name)
    · exact held
  · exact .inr

end Config

end Remedy
