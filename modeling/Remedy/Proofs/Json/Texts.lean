import Remedy.Json.Codec
import Remedy.Proofs.Json.Scalars

/-!
# Values in JSON text

A written value reads back when its numbers do and its containers are not nested too deeply. The
reader is followed step by step: what it does with a container in terms of what it does with the
first item or member and with the others.
-/

namespace Remedy.Json

namespace Raw

/-! ## Steps of the reader -/

/-- White space of the kind that lines are laid out with. -/
def IsGap (ws : List Char) : Prop := ∀ c ∈ ws, isSpace c = true

theorem skipSpace_append {ws : List Char} (gap : IsGap ws) (cs : List Char) :
    skipSpace (ws ++ cs) = skipSpace cs :=
  List.dropWhile_append_of_pos gap

theorem skipSpace_cons {c : Char} (h : isSpace c = false) (cs : List Char) :
    skipSpace (c :: cs) = c :: cs := by
  simp [skipSpace, h]

theorem value_append {ws : List Char} (gap : IsGap ws) (fuel depth : Nat) (cs : List Char) :
    value fuel depth (ws ++ cs) = value fuel depth cs := by
  cases fuel with
  | zero => rfl
  | succ fuel => rw [value, value, skipSpace_append gap]

theorem items_append {ws : List Char} (gap : IsGap ws) (fuel depth : Nat) (cs : List Char) :
    items fuel depth (ws ++ cs) = items fuel depth cs := by
  cases fuel with
  | zero => rfl
  | succ fuel => rw [items, items, value_append gap]

theorem members_append {ws : List Char} (gap : IsGap ws) (fuel depth : Nat) (cs : List Char) :
    members fuel depth (ws ++ cs) = members fuel depth cs := by
  cases fuel with
  | zero => rfl
  | succ fuel => rw [members, members, skipSpace_append gap]

/-- A character that begins a number begins nothing else. -/
theorem number_start {c : Char} (first : c.isDigit = true ∨ c = '-') :
    isSpace c = false ∧ c ∉ ['n', 't', 'f', '"', '[', ']', '\x7b'] := by
  rcases first with digit | rfl
  · constructor
    · simp only [isSpace, Bool.or_eq_false_iff, beq_eq_false_iff_ne]
      refine ⟨⟨⟨?_, ?_⟩, ?_⟩, ?_⟩ <;> (rintro rfl; simp at digit)
    · intro among
      simp only [List.mem_cons, List.not_mem_nil, or_false] at among
      rcases among with rfl | rfl | rfl | rfl | rfl | rfl | rfl <;> simp at digit
  · decide

theorem value_number {fuel depth : Nat} {c : Char} {cs : List Char}
    (first : c.isDigit = true ∨ c = '-') : value (fuel + 1) depth (c :: cs) = number (c :: cs) := by
  obtain ⟨visible, other⟩ := number_start first
  simp only [List.mem_cons, List.not_mem_nil, or_false, not_or] at other
  rw [value, skipSpace_cons visible]
  split <;> simp_all

section

variable {fuel depth : Nat} {cs after rest : List Char} {item : Raw}

theorem value_string {s : String} (h : string cs = some (some s, rest)) :
    value (fuel + 1) depth ('"' :: cs) = some (str s, rest) := by
  simp [value, skipSpace, isSpace, h]

theorem value_arr {is : List Raw} {c : Char} (start : skipSpace cs = c :: after) (other : c ≠ ']')
    (h : items fuel (depth + 1) (c :: after) = some (is, rest)) (room : depth < maxDepth) :
    value (fuel + 1) depth ('[' :: cs) = some (arr is, rest) := by
  have visible : skipSpace ('[' :: cs) = '[' :: cs := skipSpace_cons rfl cs
  rw [value, visible]
  simp [start, other, h, room]

theorem value_obj {ms : List (String × Raw)} {c : Char} (start : skipSpace cs = c :: after)
    (other : c ≠ '}') (h : members fuel (depth + 1) (c :: after) = some (some ms, rest))
    (room : depth < maxDepth) :
    value (fuel + 1) depth ('{' :: cs) = some (obj ms, rest) := by
  have visible : skipSpace ('{' :: cs) = '{' :: cs := skipSpace_cons rfl cs
  rw [value, visible]
  simp [start, other, h, room]

theorem items_last (h : value fuel depth cs = some (item, after))
    (close : skipSpace after = ']' :: rest) : items (fuel + 1) depth cs = some ([item], rest) := by
  simp [items, h, close]

theorem items_cons {more : List Char} {others : List Raw}
    (h : value fuel depth cs = some (item, after)) (comma : skipSpace after = ',' :: more)
    (later : items fuel depth more = some (others, rest)) :
    items (fuel + 1) depth cs = some (item :: others, rest) := by
  simp [items, h, comma, later]

theorem members_last {name : String} {named placed : List Char}
    (start : skipSpace cs = '"' :: named)
    (read : string named = some (some name, placed)) {colon : List Char}
    (sep : skipSpace placed = ':' :: colon) (h : value fuel depth colon = some (item, after))
    (close : skipSpace after = '}' :: rest) :
    members (fuel + 1) depth cs = some (some [(name, item)], rest) := by
  simp [members, start, read, sep, h, close]

theorem members_cons {name : String} {named placed : List Char}
    (start : skipSpace cs = '"' :: named)
    (read : string named = some (some name, placed)) {colon : List Char}
    (sep : skipSpace placed = ':' :: colon) (h : value fuel depth colon = some (item, after))
    {more : List Char} {others : List (String × Raw)} (comma : skipSpace after = ',' :: more)
    (later : members fuel depth more = some (some others, rest)) :
    members (fuel + 1) depth cs = some (some ((name, item) :: others), rest) := by
  simp [members, start, read, sep, h, comma, later]

end

end Raw

/-! ## The text of a value -/

/-- A value whose text can be read: its numbers are legible, and containers are nested in it at most
`room` deep. -/
inductive Legible : Nat → Json → Prop
  | null {room : Nat} : Legible room .null
  | bool {room : Nat} (b : Bool) : Legible room (.bool b)
  | num {room : Nat} {n : Number} (h : n.Legible) : Legible room (.num n)
  | str {room : Nat} (s : String) : Legible room (.str s)
  | arr {room : Nat} {items : List Json} (h : ∀ j ∈ items, Legible room j) :
    Legible (room + 1) (.arr items)
  | obj {room : Nat} {members : List (String × Json)} (h : ∀ m ∈ members, Legible room m.2) :
    Legible (room + 1) (.obj members)

/-- The start of a line. -/
def gap (level : Nat) : List Char := '\n' :: List.replicate (2 * level) ' '

theorem isGap_gap (level : Nat) : Raw.IsGap (gap level) := by
  intro c among
  rcases List.mem_cons.1 among with rfl | space
  · rfl
  · rw [List.eq_of_mem_replicate space]
    rfl

theorem Raw.Ends.gap (level : Nat) (cs : List Char) : Raw.Ends (Json.gap level ++ cs) := by
  simp [Raw.Ends, Json.gap]

/-- What stands between two items. -/
def separator (level : Nat) : String := "," ++ String.ofList (gap level)

theorem toList_block {opening closing : String} {level : Nat} {lines : List String}
    (some_ : lines ≠ []) :
    (block opening closing level lines).toList = opening.toList ++ (gap (level + 1) ++
      (((separator (level + 1)).intercalate lines).toList ++ (gap level ++ closing.toList))) := by
  have filled : lines.isEmpty = false := List.isEmpty_eq_false_iff.2 some_
  simp [block, filled, gap, separator]

theorem exists_block_eq_cons (opening : Char) (closing : String) (level : Nat)
    (lines : List String) :
    ∃ cs, (block (String.ofList [opening]) closing level lines).toList = opening :: cs := by
  unfold block
  split <;> exact ⟨_, by simp; rfl⟩

/-- The first character of a value is visible and closes no list. -/
theorem exists_pretty_eq_cons {room : Nat} {j : Json} (legible : j.Legible room) (level : Nat) :
    ∃ c cs, (j.pretty level).toList = c :: cs ∧ Raw.isSpace c = false ∧ c ≠ ']' := by
  cases legible with
  | null => exact ⟨'n', ['u', 'l', 'l'], by simp [pretty], rfl, by decide⟩
  | bool b =>
    cases b with
    | false => exact ⟨'f', ['a', 'l', 's', 'e'], by simp [pretty], rfl, by decide⟩
    | true => exact ⟨'t', ['r', 'u', 'e'], by simp [pretty], rfl, by decide⟩
  | num h =>
    obtain ⟨c, cs, text, first⟩ := exists_text_eq_cons h
    obtain ⟨visible, other⟩ := Raw.number_start first
    exact ⟨c, cs, text, visible, fun same => other (by simp [same])⟩
  | str s => exact ⟨'"', _, Raw.toList_quoted s, rfl, by decide⟩
  | arr h =>
    obtain ⟨cs, text⟩ := exists_block_eq_cons '[' "]" level (prettyItems (level + 1) _)
    exact ⟨'[', cs, text, rfl, by decide⟩
  | obj h =>
    obtain ⟨cs, text⟩ := exists_block_eq_cons '\x7b' "\x7d" level
      (prettyMembers (level + 1) _)
    exact ⟨'\x7b', cs, text, rfl, by decide⟩

theorem exists_fuel {room : Nat} {j : Json} (legible : j.Legible room) {level fuel : Nat}
    (enough : 2 * (j.pretty level).toList.length ≤ fuel) : ∃ left, fuel = left + 1 := by
  obtain ⟨c, cs, text, -⟩ := exists_pretty_eq_cons legible level
  rw [text, List.length_cons] at enough
  exact ⟨fuel - 1, by omega⟩

/-- The text of items or members, with the start of a line after each comma. -/
def body (level : Nat) (lines : List String) : List Char :=
  ((separator level).intercalate lines).toList

theorem body_singleton (level : Nat) (line : String) : body level [line] = line.toList := by
  rw [body, String.intercalate_singleton]

theorem body_cons (level : Nat) (line next : String) (lines : List String) :
    body level (line :: next :: lines) =
      line.toList ++ ',' :: (gap level ++ body level (next :: lines)) := by
  simp [body, String.intercalate_cons_cons, separator]

theorem body_items_singleton (level : Nat) (j : Json) :
    body level (prettyItems level [j]) = (j.pretty level).toList := by
  rw [prettyItems, prettyItems, body_singleton]

theorem body_items_cons (level : Nat) (j k : Json) (ks : List Json) :
    body level (prettyItems level (j :: k :: ks)) =
      (j.pretty level).toList ++
        ',' :: (gap level ++ body level (prettyItems level (k :: ks))) := by
  rw [prettyItems, prettyItems, body_cons]

/-- A list of items in lines opens with the first one. -/
theorem exists_body_eq_cons {room : Nat} {j : Json} (legible : j.Legible room) (level : Nat)
    (js : List Json) :
    ∃ c cs, body level (prettyItems level (j :: js)) = c :: cs ∧ Raw.isSpace c = false ∧
      c ≠ ']' := by
  obtain ⟨c, cs, text, visible, other⟩ := exists_pretty_eq_cons legible level
  cases js with
  | nil => exact ⟨c, cs, by rw [body_items_singleton, text], visible, other⟩
  | cons k ks =>
    have whole := body_items_cons level j k ks
    rw [text, List.cons_append] at whole
    exact ⟨c, _, whole, visible, other⟩

/-- The text of a member from its name on. -/
def memberText (level : Nat) (name : String) (j : Json) : List Char :=
  name.toList.flatMap escaped ++ '"' :: ':' :: ' ' :: (j.pretty level).toList

theorem toList_member (level : Nat) (name : String) (j : Json) :
    (quoted name ++ ": " ++ j.pretty level).toList = '"' :: memberText level name j := by
  simp [memberText, Raw.toList_quoted]

theorem body_members_singleton (level : Nat) (name : String) (j : Json) :
    body level (prettyMembers level [(name, j)]) = '"' :: memberText level name j := by
  rw [prettyMembers, prettyMembers, body_singleton, toList_member]

theorem body_members_cons (level : Nat) (name : String) (j : Json) (m : String × Json)
    (ms : List (String × Json)) :
    body level (prettyMembers level ((name, j) :: m :: ms)) =
      '"' :: (memberText level name j ++
        ',' :: (gap level ++ body level (prettyMembers level (m :: ms)))) := by
  rw [prettyMembers, prettyMembers, body_cons, toList_member, List.cons_append]

theorem exists_members_eq_cons (level : Nat) (name : String) (j : Json)
    (others : List (String × Json)) :
    ∃ cs, body level (prettyMembers level ((name, j) :: others)) = '"' :: cs := by
  cases others with
  | nil => exact ⟨_, body_members_singleton level name j⟩
  | cons m ms => exact ⟨_, body_members_cons level name j m ms⟩

section

open Raw

/-- A list that has items is read as they are. -/
theorem value_items {fuel depth level room : Nat} {j : Json} {js : List Json} {rest : List Char}
    (legible : j.Legible room) (inside : depth < maxDepth)
    (read : items fuel (depth + 1) (body (level + 1) (prettyItems (level + 1) (j :: js)) ++
      (gap level ++ ']' :: rest)) = some (rawItems (j :: js), rest)) :
    value (fuel + 1) depth ((pretty level (.arr (j :: js))).toList ++ rest) =
      some (raw (.arr (j :: js)), rest) := by
  have some_ : prettyItems (level + 1) (j :: js) ≠ [] := by simp [prettyItems]
  obtain ⟨c, cs, text, visible, other⟩ := exists_body_eq_cons legible (level + 1) js
  have start : skipSpace (gap (level + 1) ++
      (body (level + 1) (prettyItems (level + 1) (j :: js)) ++
      (gap level ++ ']' :: rest))) = c :: (cs ++ (gap level ++ ']' :: rest)) := by
    rw [skipSpace_append (isGap_gap _), text, List.cons_append, skipSpace_cons visible]
  rw [text, List.cons_append] at read
  have whole := value_arr start other read inside
  rw [pretty, toList_block some_, ← body, raw]
  simpa using whole

/-- An object that has members is read as they are. -/
theorem value_members {fuel depth level : Nat} {name : String} {j : Json}
    {ms : List (String × Json)} {rest : List Char} (inside : depth < maxDepth)
    (read : members fuel (depth + 1)
      (body (level + 1) (prettyMembers (level + 1) ((name, j) :: ms)) ++
      (gap level ++ '\x7d' :: rest)) = some (some (rawMembers ((name, j) :: ms)), rest)) :
    value (fuel + 1) depth ((pretty level (.obj ((name, j) :: ms))).toList ++ rest) =
      some (raw (.obj ((name, j) :: ms)), rest) := by
  have some_ : prettyMembers (level + 1) ((name, j) :: ms) ≠ [] := by simp [prettyMembers]
  obtain ⟨cs, text⟩ := exists_members_eq_cons (level + 1) name j ms
  have start : skipSpace (gap (level + 1) ++ (body (level + 1)
      (prettyMembers (level + 1) ((name, j) :: ms)) ++ (gap level ++ '\x7d' :: rest))) =
      '"' :: (cs ++ (gap level ++ '\x7d' :: rest)) := by
    rw [skipSpace_append (isGap_gap _), text, List.cons_append, skipSpace_cons rfl]
  rw [text, List.cons_append] at read
  have whole := value_obj start (by decide) read inside
  rw [pretty, toList_block some_, ← body, raw]
  simpa using whole

section

variable {fuel depth level : Nat} {j : Json} {after rest : List Char}

/-- The value of a member, with the blank in front of it. -/
theorem value_blank
    (h : value fuel depth ((j.pretty level).toList ++ after) = some (j.raw, after)) :
    value fuel depth (' ' :: ((j.pretty level).toList ++ after)) = some (j.raw, after) := by
  have blank : IsGap [' '] := by simp [IsGap, isSpace]
  rw [← h]
  exact value_append blank fuel depth _

theorem members_memberText_last (name : String)
    (h : value fuel depth ((j.pretty level).toList ++ after) = some (j.raw, after))
    (close : skipSpace after = '}' :: rest) :
    members (fuel + 1) depth ('"' :: (memberText level name j ++ after)) =
      some (some [(name, j.raw)], rest) := by
  have named := string_quoted name (':' :: ' ' :: ((j.pretty level).toList ++ after))
  have whole :=
    members_last (skipSpace_cons rfl _) named (skipSpace_cons rfl _) (value_blank h) close
  simpa [memberText] using whole

theorem members_memberText_cons (name : String)
    (h : value fuel depth ((j.pretty level).toList ++ after) = some (j.raw, after))
    {more : List Char} {others : List (String × Raw)} (comma : skipSpace after = ',' :: more)
    (later : members fuel depth more = some (some others, rest)) :
    members (fuel + 1) depth ('"' :: (memberText level name j ++ after)) =
      some (some ((name, j.raw) :: others), rest) := by
  have named := string_quoted name (':' :: ' ' :: ((j.pretty level).toList ++ after))
  have whole := members_cons (skipSpace_cons rfl _) named (skipSpace_cons rfl _) (value_blank h)
    comma later
  simpa [memberText] using whole

end

/-- A container has the text of its items or members in it, and more. -/
theorem length_body_lt (opening closing : String) (level : Nat) {lines : List String}
    (some_ : lines ≠ []) :
    (body (level + 1) lines).length < (block opening closing level lines).toList.length := by
  rw [toList_block some_, ← body]
  simp only [gap, List.length_append, List.length_cons]
  omega

mutual

-- The induction is on the value. Fuel for twice the length of a text is enough: a value and each of
-- its items or members take one unit, and each has a character at least.

/-- A legible value is read in front of whatever does not go on with a number. -/
theorem value_pretty : ∀ (j : Json) (fuel depth level : Nat) (rest : List Char) {room : Nat},
    j.Legible room → room + depth ≤ maxDepth → 2 * (j.pretty level).toList.length ≤ fuel →
    Ends rest → value fuel depth ((j.pretty level).toList ++ rest) = some (j.raw, rest) := by
  intro j fuel depth level rest room legible fits enough ends
  obtain ⟨fuel, rfl⟩ := exists_fuel legible enough
  cases j with
  | null => simp [pretty, value, skipSpace, isSpace, raw]
  | bool b => cases b <;> simp [pretty, value, skipSpace, isSpace, raw]
  | num n =>
    cases legible with
    | num legible =>
      obtain ⟨c, cs, text, first⟩ := exists_text_eq_cons legible
      have read := number_text legible ends
      rw [text, List.cons_append] at read
      rw [pretty, text, List.cons_append, value_number first, read, raw]
  | str s =>
    rw [pretty, toList_quoted, raw]
    simpa using value_string (string_quoted s rest)
  | arr items =>
    cases legible with
    | @arr room _ each =>
      have inside : depth < maxDepth := by omega
      cases items with
      | nil => simp [pretty, prettyItems, block, value, skipSpace, isSpace, raw, rawItems, inside]
      | cons j js =>
        have some_ : prettyItems (level + 1) (j :: js) ≠ [] := by simp [prettyItems]
        have longer := length_body_lt "[" "]" level some_
        rw [pretty] at enough
        have read := items_pretty (j :: js) fuel (depth + 1) (level + 1) level rest (by simp) each
          (by omega) (by omega)
        exact value_items (each j List.mem_cons_self) inside read
  | obj members =>
    cases legible with
    | @obj room _ each =>
      have inside : depth < maxDepth := by omega
      cases members with
      | nil =>
        simp [pretty, prettyMembers, block, value, skipSpace, isSpace, raw, rawMembers, inside]
      | cons m ms =>
        obtain ⟨name, j⟩ := m
        have some_ : prettyMembers (level + 1) ((name, j) :: ms) ≠ [] := by simp [prettyMembers]
        have longer := length_body_lt "\x7b" "\x7d" level some_
        rw [pretty] at enough
        have read := members_pretty ((name, j) :: ms) fuel (depth + 1) (level + 1) level rest
          (by simp) each (by omega) (by omega)
        exact value_members inside read

theorem items_pretty : ∀ (items : List Json) (fuel depth level outer : Nat) (rest : List Char)
    {room : Nat}, items ≠ [] → (∀ j ∈ items, j.Legible room) → room + depth ≤ maxDepth →
    2 * (body level (prettyItems level items)).length + 1 ≤ fuel →
    Raw.items fuel depth (body level (prettyItems level items) ++ (gap outer ++ ']' :: rest)) =
      some (rawItems items, rest) := by
  intro items fuel depth level outer rest room some_ each fits enough
  obtain ⟨fuel, rfl⟩ : ∃ left, fuel = left + 1 := ⟨fuel - 1, by omega⟩
  cases items with
  | nil => exact absurd rfl some_
  | cons j js =>
    have legible := each j List.mem_cons_self
    cases js with
    | nil =>
      rw [body_items_singleton] at enough ⊢
      have read := value_pretty j fuel depth level _ legible fits (by omega)
        (Ends.gap outer (']' :: rest))
      exact items_last read (skipSpace_append (isGap_gap outer) _)
    | cons k ks =>
      rw [body_items_cons] at enough ⊢
      simp only [List.length_append, List.length_cons] at enough
      have later := items_pretty (k :: ks) fuel depth level outer rest (by simp)
        (fun j among => each j (List.mem_cons_of_mem _ among)) fits (by omega)
      rw [← items_append (isGap_gap level)] at later
      have ends : Ends (',' :: (gap level ++ (body level (prettyItems level (k :: ks)) ++
          (gap outer ++ ']' :: rest)))) := by simp [Ends]
      have read := value_pretty j fuel depth level _ legible fits (by omega) ends
      have whole := items_cons read (skipSpace_cons rfl _) later
      simpa [rawItems] using whole

theorem members_pretty : ∀ (members : List (String × Json)) (fuel depth level outer : Nat)
    (rest : List Char) {room : Nat}, members ≠ [] → (∀ m ∈ members, m.2.Legible room) →
    room + depth ≤ maxDepth →
    2 * (body level (prettyMembers level members)).length + 1 ≤ fuel →
    Raw.members fuel depth
        (body level (prettyMembers level members) ++ (gap outer ++ '\x7d' :: rest)) =
      some (some (rawMembers members), rest) := by
  intro members fuel depth level outer rest room some_ each fits enough
  obtain ⟨fuel, rfl⟩ : ∃ left, fuel = left + 1 := ⟨fuel - 1, by omega⟩
  cases members with
  | nil => exact absurd rfl some_
  | cons m ms =>
    obtain ⟨name, j⟩ := m
    have legible : j.Legible room := each (name, j) List.mem_cons_self
    cases ms with
    | nil =>
      rw [body_members_singleton] at enough ⊢
      simp only [memberText, List.length_cons, List.length_append] at enough
      have read := value_pretty j fuel depth level _ legible fits (by omega)
        (Ends.gap outer ('\x7d' :: rest))
      exact members_memberText_last name read (skipSpace_append (isGap_gap outer) _)
    | cons m' ms =>
      rw [body_members_cons] at enough ⊢
      simp only [memberText, List.length_cons, List.length_append] at enough
      have later := members_pretty (m' :: ms) fuel depth level outer rest (by simp)
        (fun m among => each m (List.mem_cons_of_mem _ among)) fits (by omega)
      rw [← members_append (isGap_gap level)] at later
      have ends : Ends (',' :: (gap level ++ (body level (prettyMembers level (m' :: ms)) ++
          (gap outer ++ '\x7d' :: rest)))) := by simp [Ends]
      have read := value_pretty j fuel depth level _ legible fits (by omega) ends
      have whole := members_memberText_cons name read (skipSpace_cons rfl _) later
      simpa [rawMembers] using whole

end

end

/-- A legible value is what its text denotes. -/
theorem read?_pretty {j : Json} (legible : j.Legible Raw.maxDepth) :
    Raw.read? (j.pretty 0) = some j.raw := by
  have read := value_pretty j (2 * (j.pretty 0).toList.length + 2) 0 0 [] legible (by omega)
    (by omega) Raw.Ends.nil
  rw [List.append_nil] at read
  rw [Raw.read?, read]
  rfl

/-! ## Values that are written -/

section Written

variable {α : Type} [Coded α] {room : Nat}

theorem legible_word (n : UInt64) : (encode n).Legible room := by
  have small : n.toNat < Decimal.maxWord64 + 1 := n.toNat_lt
  refine .num ?_
  change Raw.IsWord (n.toNat : Int)
  rw [Raw.IsWord]
  omega

theorem legible_option (h : ∀ a : α, (encode a).Legible room) (a? : Option α) :
    (encode a?).Legible room := by
  cases a? with
  | none => exact .null
  | some a => exact h a

theorem legible_list {as : List α} (h : ∀ a ∈ as, (encode a).Legible room) :
    (encode as).Legible (room + 1) :=
  .arr (List.forall_mem_map.2 h)

theorem legible_dict {d : Dict α} (h : ∀ e ∈ d.entries, (encode e.2).Legible room) :
    (encode d).Legible (room + 1) :=
  .obj (List.forall_mem_map.2 h)

end Written

end Remedy.Json
