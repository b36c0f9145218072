import Remedy.Json.Printer
import Remedy.Proofs.Decimal.Numerals
import Remedy.Text.Blank

/-!
# What numbers are written with

A number is written as some text, whatever its value, and with no white space anywhere in it.
-/

namespace Remedy

namespace Decimal

open Text (isBlank)

/-- There is something, and all of it can be seen. -/
structure Visible (cs : List Char) : Prop where
  some_ : cs ≠ []
  all : ∀ c ∈ cs, isBlank c = false

/-- A text that is written out can be tested character by character. -/
theorem visible_of_any {cs : List Char} (h : cs.any isBlank = false) :
    ∀ c ∈ cs, isBlank c = false := by
  simpa using h

theorem Visible.cons {c : Char} {cs : List Char} (seen : isBlank c = false) (h : Visible cs) :
    Visible (c :: cs) where
  some_ := List.cons_ne_nil c cs
  all := List.forall_mem_cons.2 ⟨seen, h.all⟩

theorem Visible.append {cs ds : List Char} (h : Visible cs) (h' : ∀ d ∈ ds, isBlank d = false) :
    Visible (cs ++ ds) where
  some_ := List.append_ne_nil_of_left_ne_nil h.some_ ds
  all c among := (List.mem_append.1 among).elim (h.all c) (h' c)

theorem visible_numeral (n : Nat) : Visible (numeral n) where
  some_ := numeral_ne_nil n
  all _ among := Text.isBlank_of_isDigit (isDigit_of_mem_numeral among)

theorem visible_setPoint {ds : List Char} (h : Visible ds) (places : Nat) :
    Visible (setPoint ds places) := by
  have padded : ∀ c ∈ List.replicate (places + 1 - ds.length) '0' ++ ds, isBlank c = false := by
    intro c among
    rcases List.mem_append.1 among with zero | digit
    · rw [List.eq_of_mem_replicate zero]
      decide
    · exact h.all c digit
  unfold setPoint
  split
  · exact ⟨List.append_ne_nil_of_right_ne_nil _ h.some_, padded⟩
  · refine ⟨by simp, fun c among => ?_⟩
    rcases List.mem_append.1 among with whole | point
    · exact padded c (List.mem_of_mem_take whole)
    · rcases List.mem_cons.1 point with rfl | part
      · decide
      · exact padded c (List.mem_of_mem_drop part)

theorem Digits.visible_plain (d : Digits) : Visible d.plain := by
  unfold plain
  split
  · exact visible_numeral _
  · exact visible_setPoint (visible_numeral _) _

theorem Digits.visible_scientific (d : Digits) : Visible d.scientific := by
  have digits : Visible (digitChars d.digits) := visible_numeral _
  have exponent : ∀ c ∈ (['e', if 0 ≤ d.exponent + ((digitChars d.digits).length : Int) - 1
      then '+' else '-'] : List Char), isBlank c = false := by
    split <;> exact visible_of_any (by decide)
  unfold scientific
  simp only []
  refine (Visible.append ?mantissa exponent).append (visible_numeral _).all
  split
  · next a b r same =>
    rw [same] at digits
    obtain ⟨first, rest⟩ := List.forall_mem_cons.1 digits.all
    exact .cons first (.cons (by decide) ⟨List.cons_ne_nil b r, rest⟩)
  · exact digits

theorem Digits.visible_point (d : Digits) : Visible d.point := by
  unfold point
  simp only []
  split
  · exact ⟨by decide, visible_of_any (by decide)⟩
  · split
    · split
      · exact d.visible_plain.append (visible_of_any (by decide))
      · exact d.visible_plain
    · exact d.visible_scientific

theorem visible_point (x : Float) : Visible (point x).toList := by
  unfold point signed
  split
  · exact ⟨by decide, visible_of_any (by decide)⟩
  · have magnitude : Visible (if x.isInf then "inf".toList else (shortest .even x).point) := by
      split
      · exact ⟨by decide, visible_of_any (by decide)⟩
      · exact Digits.visible_point _
    simp only [String.toList_ofList]
    split
    · exact .cons (by decide) magnitude
    · exact magnitude

end Decimal

theorem Json.Number.visible_text (n : Json.Number) : Decimal.Visible n.text.toList := by
  cases n with
  | int i =>
    rw [text, Decimal.toList_toString_int]
    split
    · exact Decimal.visible_numeral _
    · exact .cons (by decide) (Decimal.visible_numeral _)
  | real x =>
    rw [text]
    split
    · exact Decimal.visible_point x
    · exact ⟨by decide, Decimal.visible_of_any (by decide)⟩

end Remedy
