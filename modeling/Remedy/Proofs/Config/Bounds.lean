import Remedy.Config.Document
import Remedy.Proofs.Config.Overrides

/-!
# Bounds of a configuration

Validation bounds the window and the timeout, whole numbers both, and the confidence and the
tolerance, which are doubles. It asks that the confidence lies between two bounds, which no number
that is none does, and it asks that the tolerance is not zero or less: that is true of everything
above zero, and also of what is not a number. However a configuration has come about, from a text,
from a file or by overrides, it is accepted exactly if it passes.
-/

namespace Remedy.Decimal

open Float.Model Float.Model.UnpackedFloat

/-! ## Doubles next to zero -/

theorem le_iff_compare {x y : Float} :
    x ≤ y ↔ (x.toModel.unpack.compare y.toModel.unpack).any (·.isLE) = true := by
  change decide (x.toModel.le y.toModel = true) = true ↔ _
  rw [decide_eq_true_iff]
  rfl

theorem lt_iff_compare {x y : Float} :
    x < y ↔ (x.toModel.unpack.compare y.toModel.unpack == some .lt) = true := by
  change decide (x.toModel.lt y.toModel = true) = true ↔ _
  rw [decide_eq_true_iff]
  rfl

/-- A double is above zero, or it is at most zero, or it is not a number. -/
theorem not_le_zero_iff {x : Float} : ¬ x ≤ 0.0 ↔ 0.0 < x ∨ x.isNaN = true := by
  have zero : (0.0 : Float).toModel.unpack = .zero .positive := by rfl
  have nan : x.isNaN = x.toModel.unpack.isNaN := rfl
  rw [le_iff_compare, lt_iff_compare, zero, nan]
  cases x.toModel.unpack with
  | notANumber => decide
  | infinity s => cases s <;> decide
  | zero s => cases s <;> decide
  | finite s m e pos =>
    cases s with
    | positive =>
      constructor
      · exact fun _ => .inl rfl
      · exact fun _ => Bool.false_ne_true
    | negative =>
      constructor
      · exact fun above => absurd rfl above
      · rintro (above | none)
        · cases above
        · cases none

theorem not_isNaN_of_zero_lt {x : Float} (above : 0.0 < x) : x.isNaN = false := by
  have nan : x.isNaN = x.toModel.unpack.isNaN := rfl
  rw [lt_iff_compare] at above
  rw [nan]
  cases read : x.toModel.unpack with
  | notANumber =>
    rw [read] at above
    cases above
  | infinity s => rfl
  | zero s => rfl
  | finite s m e pos => rfl

end Remedy.Decimal

namespace Remedy.Config

/-! ## Validation -/

/-- The bounds that validation puts to all settings but the tolerance. -/
structure Bounded (c : Config) : Prop where
  window_pos : 1 ≤ c.blastRadius.windowSeconds.toNat
  window_le : c.blastRadius.windowSeconds.toNat ≤ maxWindowSeconds
  timeout_le : c.rerun.timeoutSeconds.toNat ≤ Rerun.maxTimeoutSeconds
  confidence_nonneg : 0.0 ≤ c.validation.minConfidence
  confidence_le_one : c.validation.minConfidence ≤ 1.0

/-- A configuration with all its settings in range. -/
structure InRange (c : Config) : Prop extends Bounded c where
  tolerance_pos : 0.0 < c.validation.durationTolerance

/-- A configuration in range, apart from a tolerance that is not a number. -/
structure Runnable (c : Config) : Prop extends Bounded c where
  tolerance : 0.0 < c.validation.durationTolerance ∨ c.validation.durationTolerance.isNaN = true

/-- A check in a row of checks. -/
theorem check_eq_none_iff {bad : Prop} [Decidable bad] {message : String} {rest : Option String} :
    (if bad then some message else rest) = none ↔ ¬ bad ∧ rest = none := by
  by_cases h : bad
  · simp [h]
  · simp [h]

theorem validate_eq_ok_iff_problem? {c : Config} : c.validate = .ok () ↔ c.problem? = none := by
  rw [validate]
  cases c.problem? with
  | none => simp
  | some message => simp

theorem validate_eq_ok_iff {c : Config} : c.validate = .ok () ↔ Runnable c := by
  simp only [validate_eq_ok_iff_problem?, problem?, check_eq_none_iff, Bool.not_eq_true',
    Bool.not_eq_false, Bool.and_eq_true, decide_eq_true_eq, Decimal.not_le_zero_iff]
  constructor
  · rintro ⟨window_pos, window_le, timeout_le, ⟨confidence_nonneg, confidence_le_one⟩, tolerance, -⟩
    constructor
    · constructor
      · omega
      · omega
      · omega
      · exact confidence_nonneg
      · exact confidence_le_one
    · exact tolerance
  · rintro ⟨⟨window_pos, window_le, timeout_le, confidence_nonneg, confidence_le_one⟩, tolerance⟩
    exact ⟨by omega, by omega, by omega, ⟨confidence_nonneg, confidence_le_one⟩, tolerance, trivial⟩

theorem Runnable.inRange_iff {c : Config} (h : Runnable c) :
    InRange c ↔ c.validation.durationTolerance.isNaN = false := by
  constructor
  · intro range
    exact Decimal.not_isNaN_of_zero_lt range.tolerance_pos
  · intro number
    rcases h.tolerance with above | none
    · exact ⟨h.toBounded, above⟩
    · rw [number] at none
      cases none

theorem InRange.runnable {c : Config} (h : InRange c) : Runnable c :=
  ⟨h.toBounded, .inl h.tolerance_pos⟩

/-! ## Documents -/

theorem ofText_eq_ok_iff {text : String} {c : Config} :
    ofText text = .ok c ↔ read? text = some c ∧ Runnable c := by
  rw [ofText, ← validate_eq_ok_iff]
  cases read? text with
  | none =>
    constructor
    · intro h
      cases h
    · rintro ⟨h, -⟩
      cases h
  | some c' =>
    constructor
    · intro h
      obtain ⟨⟨⟩, valid, same⟩ := bind_eq_ok_iff.1 h
      cases same
      exact ⟨rfl, valid⟩
    · rintro ⟨same, valid⟩
      cases same
      exact bind_eq_ok_iff.2 ⟨(), valid, rfl⟩

theorem ofFile_eq_ok_iff {file : Option (List UInt8)} {c : Config} :
    ofFile file = .ok c ↔
      ∃ text, file.bind Text.bytes? = some text ∧ read? text = some c ∧ Runnable c := by
  rw [ofFile]
  cases file.bind Text.bytes? with
  | none => simp
  | some text => simp [ofText_eq_ok_iff]

/-- A configuration is accepted, from whatever source, exactly if it can be read and is in range,
its tolerance apart: that may also be something that is not a number. -/
theorem accepted_are_in_range (c : Config) :
    (∀ text, ofText text = .ok c ↔ read? text = some c ∧ Runnable c) ∧
    (∀ file, ofFile file = .ok c ↔
      ∃ text, file.bind Text.bytes? = some text ∧ read? text = some c ∧ Runnable c) ∧
    (∀ base lookup, base.withOverrides lookup = .ok c ↔ Overridden lookup base c ∧ Runnable c) ∧
    (∀ lookup, ofEnvironment lookup = .ok c ↔ Overridden lookup standard c ∧ Runnable c) ∧
    (Runnable c →
      (InRange c ↔ c.validation.durationTolerance.isNaN = false)) ∧
    (InRange c → Runnable c) := by
  have overridden (base : Config) (lookup : String → Option String) :
      base.withOverrides lookup = .ok c ↔ Overridden lookup base c ∧ Runnable c := by
    rw [withOverrides_eq_ok_iff, validate_eq_ok_iff]
  exact ⟨fun _ => ofText_eq_ok_iff, fun _ => ofFile_eq_ok_iff, overridden, overridden standard,
    Runnable.inRange_iff, InRange.runnable⟩

/-- A text that sets all that is bounded, as far as it may go, and one that goes too far. -/
theorem accepted_are_in_range_up_to_their_bounds :
    let furthest :=
      "[blast_radius]\nwindow_seconds = 2592000\n[rerun]\ntimeout_seconds = 604800\n" ++
      "[validation]\nmin_confidence = 1.0\nduration_tolerance = 0.25"
    (∃ c, ofText furthest = .ok c ∧ InRange c ∧ c.blastRadius.windowSeconds = 2592000 ∧
      c.rerun.timeoutSeconds = 604800 ∧ c.validation.minConfidence == 1.0 ∧
      c.validation.durationTolerance == 0.25) ∧
    (read? "[rerun]\ntimeout_seconds = 604801").isSome = true ∧
    ∀ c, ofText "[rerun]\ntimeout_seconds = 604801" ≠ .ok c := by
  intro furthest
  have reads : (read? furthest).isSome = true := by decide +kernel
  obtain ⟨c, read⟩ := Option.isSome_iff_exists.1 reads
  have sets : (read? furthest).any (fun c =>
      c.blastRadius.windowSeconds == 2592000 && c.rerun.timeoutSeconds == 604800 &&
        c.validation.minConfidence == 1.0 && c.validation.durationTolerance == 0.25) = true := by
    decide +kernel
  have inside : (read? furthest).any (fun c => decide (0.0 ≤ c.validation.minConfidence) &&
      decide (c.validation.minConfidence ≤ 1.0) &&
        decide (0.0 < c.validation.durationTolerance)) = true := by decide +kernel
  rw [read] at sets inside
  simp only [Option.any_some, Bool.and_eq_true, beq_iff_eq, decide_eq_true_eq] at sets inside
  obtain ⟨⟨⟨window, timeout⟩, confidence⟩, tolerance⟩ := sets
  obtain ⟨⟨nonneg, le_one⟩, above⟩ := inside
  obtain ⟨texts, -, -, -, -, runnable⟩ := accepted_are_in_range c
  have range : InRange c := by
    refine ⟨⟨?_, ?_, ?_, nonneg, le_one⟩, above⟩
    · rw [window]
      decide
    · rw [window]
      decide
    · rw [timeout]
      decide
  refine ⟨⟨c, (texts furthest).2 ⟨read, runnable range⟩, range, window, timeout, confidence,
    tolerance⟩, by decide +kernel, fun d accepted => ?_⟩
  obtain ⟨texts, -⟩ := accepted_are_in_range d
  obtain ⟨read, bounded⟩ := (texts _).1 accepted
  have late : (read? "[rerun]\ntimeout_seconds = 604801").map (·.rerun.timeoutSeconds) =
      some 604801 := by decide +kernel
  rw [read] at late
  have late : d.rerun.timeoutSeconds = 604801 := Option.some.inj late
  have most := bounded.timeout_le
  rw [late] at most
  exact absurd most (by decide)

/-- A tolerance that is not a number is accepted, though it is not positive. -/
theorem tolerance_without_number_is_accepted :
    ∃ c, ofText "[validation]\nduration_tolerance = nan" = .ok c ∧
      c.validation.durationTolerance.isNaN = true ∧ ¬ InRange c := by
  have none : (ofText "[validation]\nduration_tolerance = nan").toOption.any
      (·.validation.durationTolerance.isNaN) = true := by decide +kernel
  cases accepted : ofText "[validation]\nduration_tolerance = nan" with
  | error e =>
    rw [accepted] at none
    cases none
  | ok c =>
    rw [accepted] at none
    refine ⟨c, rfl, none, ?_⟩
    intro range
    have number := Decimal.not_isNaN_of_zero_lt range.tolerance_pos
    exact Bool.false_ne_true (number.symm.trans none)

end Remedy.Config
