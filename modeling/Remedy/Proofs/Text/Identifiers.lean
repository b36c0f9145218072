import Mathlib.Algebra.Ring.Nat
import Remedy.Identifier

/-!
# Identifiers and their text

Every identifier reads back from its text.
-/

namespace Remedy

namespace Text

theorem ofHex?_append (cs : List Char) (c : Char) :
    ofHex? (cs ++ [c]) = (ofHex? cs).bind fun n => (hexDigit? c).map fun d => 16 * n + d := by
  simp only [ofHex?, List.foldl_append, List.foldl_cons, List.foldl_nil, Option.bind_eq_bind]
  cases List.foldl _ (some 0) cs with
  | none => rfl
  | some n => cases hexDigit? c <;> rfl

/-- The last digits of a number read back as what they leave of it. -/
theorem ofHex?_hexOf (n width : Nat) : ofHex? (hexOf n width) = some (n % 16 ^ width) := by
  induction width generalizing n with
  | zero => simp [hexOf, ofHex?, Nat.mod_one]
  | succ width ih =>
    have digit := hexDigit?_hexDigit (Nat.mod_lt n (by decide : 0 < 16))
    rw [hexOf, ofHex?_append, ih, digit, Nat.pow_succ, Nat.mul_comm (16 ^ width),
      Nat.mod_mul, Option.bind_some, Option.map_some, Nat.add_comm]

end Text

namespace Identifier

open Text

theorem hyphenate_cons (n m : Nat) (rest : List Nat) (cs : List Char) :
    hyphenate (n :: m :: rest) cs = cs.take n ++ '-' :: hyphenate (m :: rest) (cs.drop n) := rfl

theorem ungroup?_cons_append {n m : Nat} {rest : List Nat} {digits tail : List Char}
    (taken : digits.length = n) : ungroup? (n :: m :: rest) (digits ++ '-' :: tail) =
      (ungroup? (m :: rest) tail).map (digits ++ ·) := by
  have long : ¬ (digits ++ '-' :: tail).length < n := by
    rw [List.length_append, taken]
    omega
  rw [ungroup?, List.drop_left' taken, List.take_left' taken]
  · exact if_neg long
  · exact List.cons_ne_nil m rest

theorem ungroup?_hyphenate {lengths : List Nat} {cs : List Char} (some_ : lengths ≠ [])
    (total : cs.length = lengths.sum) : ungroup? lengths (hyphenate lengths cs) = some cs := by
  induction lengths generalizing cs with
  | nil => exact absurd rfl some_
  | cons n lengths ih =>
    cases lengths with
    | nil =>
      rw [List.sum_singleton] at total
      exact if_pos total
    | cons m rest =>
      have fits : n ≤ cs.length := by
        rw [total, List.sum_cons]
        exact Nat.le_add_right _ _
      have taken : (cs.take n).length = n := List.length_take_of_le fits
      have later : (cs.drop n).length = (m :: rest).sum := by
        rw [List.length_drop, total, List.sum_cons, Nat.add_sub_cancel_left]
      have again := ih (by simp) later
      rw [hyphenate_cons, ungroup?_cons_append taken, again, Option.map_some,
        List.take_append_drop]

theorem length_hyphenate (lengths : List Nat) (cs : List Char) :
    (hyphenate lengths cs).length = cs.length + (lengths.length - 1) := by
  induction lengths generalizing cs with
  | nil => rfl
  | cons n lengths ih =>
    cases lengths with
    | nil => rfl
    | cons m rest =>
      have tail := ih (cs.drop n)
      rw [hyphenate_cons, List.length_append, List.length_cons, tail]
      simp only [List.length_take, List.length_drop, List.length_cons]
      omega

/-- An identifier reads back from its text, which begins with a digit and is longer than the digits
alone, so that it is taken for none of the other forms. -/
theorem ofText?_text (i : Identifier) : ofText? i.text = some i := by
  have length : (hexOf i.value.toNat 32).length = 32 := length_hexOf _ _
  have total : (hexOf i.value.toNat 32).length = groups.sum := length.trans (by decide)
  have whole := ungroup?_hyphenate (by decide) total
  have long : (hyphenate groups (hexOf i.value.toNat 32)).length = 36 := by
    rw [length_hyphenate, length]
    decide
  have value : ofHex? (hexOf i.value.toNat 32) = some i.value.toNat := by
    have small : i.value.toNat < 16 ^ 32 := i.value.isLt
    rw [ofHex?_hexOf, Nat.mod_eq_of_lt small]
  obtain ⟨c, cs, text, plain⟩ : ∃ c cs, hyphenate groups (hexOf i.value.toNat 32) = c :: cs ∧
      c ≠ '{' ∧ c.toLower ≠ 'u' := by
    cases digits : hexOf i.value.toNat 32 with
    | nil => rw [digits] at length; cases length
    | cons c cs =>
      have among : c ∈ hexOf i.value.toNat 32 := by simp [digits]
      obtain ⟨d, small, rfl⟩ := exists_hexDigit_of_mem_hexOf among
      have plain : ∀ d < 16, hexDigit d ≠ '{' ∧ (hexDigit d).toLower ≠ 'u' := by decide
      exact ⟨_, _, rfl, plain d small⟩
  have noUrn :
      ((hyphenate groups (hexOf i.value.toNat 32)).take urn.length).map Char.toLower ≠ urn := by
    intro same
    rw [text] at same
    exact plain.2 (List.cons.inj same).1
  rw [ofText?, Identifier.text, String.toList_ofList]
  split
  · next same =>
    rw [text] at same
    exact absurd (List.cons.inj same).1 plain.1
  · simp only [if_neg noUrn, long, whole]
    simp [value]

end Identifier

end Remedy
