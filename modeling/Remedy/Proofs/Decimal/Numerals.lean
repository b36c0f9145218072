import Mathlib.Algebra.Ring.Nat
import Mathlib.Data.List.TakeDrop
import Mathlib.Data.List.TakeWhile
import Remedy.Decimal.Reading

/-!
# Numerals

The decimal digits of a natural read back as that natural, and a reader of digits stops where they
end.
-/

namespace Remedy.Decimal

/-- The digits of a natural, the first one not zero unless it is the only one. -/
def numeral (n : Nat) : List Char := (toString n).toList

theorem numeral_eq (n : Nat) : numeral n = Nat.toDigits 10 n := Nat.toList_repr

theorem ofDigits_eq (ds : List Char) : ofDigits ds = Nat.ofDigitChars 10 ds 0 :=
  Nat.ofDigitChars_eq_foldl.symm

theorem ofDigits_numeral (n : Nat) : ofDigits (numeral n) = n := by
  rw [ofDigits_eq, numeral_eq, Nat.ofDigitChars_ten_toDigits]

theorem isDigit_of_mem_numeral {n : Nat} {c : Char} (h : c ∈ numeral n) : c.isDigit = true :=
  Nat.isDigit_of_mem_toDigits (by decide) (by decide) (numeral_eq n ▸ h)

theorem numeral_ne_nil (n : Nat) : numeral n ≠ [] := by
  rw [numeral_eq]
  exact Nat.toDigits_ne_nil

theorem length_numeral_le {n k : Nat} (pos : 0 < k) (h : n < 10 ^ k) : (numeral n).length ≤ k := by
  rw [numeral_eq]
  exact (Nat.length_toDigits_le_iff (by decide) pos).2 h

/-- Only zero begins with the digit zero. -/
theorem head?_numeral {n : Nat} (pos : 0 < n) : (numeral n).head? ≠ some '0' := by
  rw [numeral_eq]
  induction n using Nat.base_induction 10 (by decide) with
  | single m short =>
    rw [Nat.toDigits_of_lt_base short]
    simp
    omega
  | digit m k short mpos ih =>
    rw [← Nat.toDigits_append_toDigits (by decide) mpos short, List.head?_append]
    have first := ih mpos
    cases before : Nat.toDigits 10 m with
    | nil => exact absurd before Nat.toDigits_ne_nil
    | cons d ds =>
      rw [before] at first
      simpa using first

theorem toList_toString_int (i : Int) :
    (toString i).toList = if 0 ≤ i then numeral i.natAbs else '-' :: numeral i.natAbs := by
  rw [Int.toString_eq_repr, Int.repr_eq_if]
  split
  · next plain =>
    have same : i.toNat = i.natAbs := by omega
    rw [same]
    rfl
  · next negative =>
    have same : (-i).toNat = i.natAbs := by omega
    rw [same]
    simp [numeral]

/-- No digit stands in front. -/
def Stops (cs : List Char) : Prop := ∀ c ∈ cs.head?, c.isDigit = false

theorem Stops.nil : Stops [] := by simp [Stops]

theorem Stops.cons {c : Char} {cs : List Char} (h : c.isDigit = false) : Stops (c :: cs) := by
  simpa [Stops] using h

theorem spanDigits_append {ds rest : List Char} (digits : ∀ d ∈ ds, d.isDigit = true)
    (stops : Stops rest) : spanDigits (ds ++ rest) = (ds, rest) := by
  rw [spanDigits, List.span_eq_takeWhile_dropWhile, List.takeWhile_append_of_pos digits,
    List.dropWhile_append_of_pos digits]
  cases rest with
  | nil => simp
  | cons c cs =>
    have other : c.isDigit = false := stops c rfl
    simp [other]

/-- Text after a number changes only what is left after its digits. -/
theorem spanDigits_append_right {rest : List Char} (stops : Stops rest) (cs : List Char) :
    spanDigits (cs ++ rest) = ((spanDigits cs).1, (spanDigits cs).2 ++ rest) := by
  have split : (spanDigits cs).1 ++ (spanDigits cs).2 = cs := by
    rw [spanDigits, List.span_eq_takeWhile_dropWhile, List.takeWhile_append_dropWhile]
  have digits : ∀ d ∈ (spanDigits cs).1, d.isDigit = true := by
    intro d among
    rw [spanDigits, List.span_eq_takeWhile_dropWhile] at among
    exact List.mem_takeWhile_imp among
  have later : Stops ((spanDigits cs).2 ++ rest) := by
    rw [spanDigits, List.span_eq_takeWhile_dropWhile]
    cases left : cs.dropWhile Char.isDigit with
    | nil => simpa [left] using stops
    | cons c after =>
      have other := List.head?_dropWhile_not Char.isDigit cs
      simp only [left, List.head?_cons] at other ⊢
      exact .cons (by simpa using other)
  calc spanDigits (cs ++ rest)
      = spanDigits ((spanDigits cs).1 ++ ((spanDigits cs).2 ++ rest)) := by
        rw [← List.append_assoc, split]
    _ = _ := spanDigits_append digits later

theorem isDigit_of_mem_spanDigits {cs : List Char} {d : Char} (h : d ∈ (spanDigits cs).1) :
    d.isDigit = true := by
  rw [spanDigits, List.span_eq_takeWhile_dropWhile] at h
  exact List.mem_takeWhile_imp h

theorem ofDigits_lt {ds : List Char} (digits : ∀ d ∈ ds, d.isDigit = true) :
    ofDigits ds < 10 ^ ds.length := by
  induction ds with
  | nil => decide
  | cons d ds ih =>
    have after := ih fun c among => digits c (List.mem_cons_of_mem d among)
    have first : d.toNat - '0'.toNat ≤ 9 := by
      have digit := digits d List.mem_cons_self
      simp only [Char.isDigit, Bool.and_eq_true, decide_eq_true_eq] at digit
      have high : d.toNat ≤ 57 := digit.2
      have zero : '0'.toNat = 48 := rfl
      omega
    have value : ofDigits (d :: ds) = 10 ^ ds.length * (d.toNat - '0'.toNat) + ofDigits ds := by
      rw [ofDigits_eq, ofDigits_eq, Nat.ofDigitChars_cons, Nat.ofDigitChars_eq_ofDigitChars_zero,
        Nat.mul_zero, Nat.zero_add]
    calc ofDigits (d :: ds) < 10 ^ ds.length * 9 + 10 ^ ds.length := by
          rw [value]
          exact Nat.add_lt_add_of_le_of_lt (Nat.mul_le_mul_left _ first) after
      _ = 10 ^ (d :: ds).length := by
          rw [List.length_cons, Nat.pow_succ]
          omega

end Remedy.Decimal
