import Mathlib.Algebra.Group.Nat.Defs
import Remedy.Rerun.Remediator

/-!
# Whole seconds as doubles

A whole number below `2 ^ 53` is a double just as it is, so whole numbers compare as their doubles
do. Each is followed through the arithmetic of the format: it is rounded to the mantissa of 53 bits
that it fits into, packed, read again, multiplied by one and added to zero, and comes out the same.
-/

namespace Remedy.Decimal

open Float.Model Float.Model.UnpackedFloat

/-! ## Full mantissas -/

/-- A mantissa that has all the bits that the format has room for. -/
def Full (m : Nat) : Prop := 2 ^ 52 ≤ m ∧ m < 2 ^ 53

theorem Full.pos {m : Nat} (full : Full m) : 0 < m := Nat.lt_of_lt_of_le (by decide) full.1

theorem log2_mul_two_pow {m : Nat} (full : Full m) (j : Nat) : (m * 2 ^ j).log2 = 52 + j := by
  have nonzero : m * 2 ^ j ≠ 0 := Nat.ne_of_gt (Nat.mul_pos full.pos (Nat.two_pow_pos j))
  rw [Nat.log2_eq_iff nonzero, Nat.pow_add, Nat.add_right_comm, Nat.pow_add]
  exact ⟨Nat.mul_le_mul_right _ full.1, Nat.mul_lt_mul_of_pos_right full.2 (Nat.two_pow_pos j)⟩

/-- Zeros are shifted out without a trace. -/
theorem repeat_shiftRightOne (m j : Nat) :
    j.repeat ExtendedMantissa.shiftRightOne ⟨m * 2 ^ j, false, false⟩ = ⟨m, false, false⟩ := by
  induction j generalizing m with
  | zero => simp [Nat.repeat]
  | succ j ih =>
    have split : m * 2 ^ (j + 1) = m * 2 * 2 ^ j := by
      rw [Nat.pow_succ, Nat.mul_assoc, Nat.mul_comm 2]
    rw [Nat.repeat, split, ih]
    simp [ExtendedMantissa.shiftRightOne]

theorem shiftToTargetExponent_full {m : Nat} (full : Full m) {e : Int} (least : -1074 ≤ e)
    (j : Nat) :
    shiftToTargetExponent Format.binary64 (m * 2 ^ j) (e - j) .exact = (⟨m, false, false⟩, e) := by
  have target : Format.binary64.targetExponent (totalExponent (m * 2 ^ j) (e - j)) = e := by
    have lowest : Format.binary64.minExponent = -1074 := rfl
    have bits : Format.binary64.mantissaBits = 53 := rfl
    rw [Format.targetExponent, totalExponent, log2_mul_two_pow full, lowest, bits]
    omega
  have amount : (e - (e - j)).toNat = j := by omega
  have back : e - j + j = e := by omega
  simp only [shiftToTargetExponent, shiftToExponent, target, amount, back]
  exact congrArg (·, e) (repeat_shiftRightOne m j)

/-- A full mantissa is not rounded, whatever zeros follow it. -/
theorem roundWithAccuracy_full (s : Sign) {m : Nat} (full : Full m) {e : Int} (least : -1074 ≤ e)
    (j : Nat) :
    roundWithAccuracy Format.binary64 s (m * 2 ^ j) (e - j) .exact = .finite s m e full.pos := by
  have again := shiftToTargetExponent_full full least 0
  rw [Nat.pow_zero, Nat.mul_one, Int.natCast_zero, Int.sub_zero] at again
  have rounded : (⟨m, false, false⟩ : ExtendedMantissa).roundedMantissa = m := rfl
  rw [roundWithAccuracy, shiftToTargetExponent_full full least]
  dsimp only
  rw [rounded, again]
  exact dif_neg (Nat.ne_of_gt full.pos)

/-! ## Packing -/

/-- The first bit of a full mantissa is left out and put back. -/
theorem toNat_implicit {m : Nat} (full : Full m) : (1#1 ++ BitVec.ofNat 52 m).toNat = m := by
  obtain ⟨low, high⟩ := full
  have rest : (BitVec.ofNat 52 m).toNat = m - 2 ^ 52 := by
    rw [BitVec.toNat_ofNat]
    omega
  have small : m - 2 ^ 52 < 2 ^ 52 := by omega
  rw [BitVec.toNat_append, rest, ← Nat.shiftLeft_add_eq_or_of_lt small]
  simp only [BitVec.toNat_ofNat, Nat.shiftLeft_eq]
  omega

/-- The sign of a packed double stands above its exponent and its mantissa. -/
theorem unpackSign_pack (sign : Sign) (exponent : BitVec 11) (mantissa : BitVec 52) :
    unpackSign (packComponents Format.binary64 sign exponent mantissa) = sign.toBitVec := by
  change (sign.toBitVec ++ exponent ++ mantissa).extractLsb' 63 1 = sign.toBitVec
  rw [BitVec.extractLsb'_append_eq_of_le (by decide),
    BitVec.extractLsb'_append_eq_of_le (by decide), BitVec.extractLsb'_eq_self]

/-- A number with a full mantissa is packed with its first bit left out. -/
theorem pack_full {m : Nat} (full : Full m) {e : Int} {n : Nat} (biased : (n : Int) = e + 1075)
    (room : n + 1 < 2048) :
    UnpackedFloat.pack Format.binary64 (.finite .positive m e full.pos) =
      packComponents Format.binary64 .positive (BitVec.ofNat 11 n) (BitVec.ofNat 52 m) := by
  have exponent : (e + Format.binary64.exponentBias +
      Format.binary64.mantissaBitsWithoutImplicit).toNat = n := by
    change (e + 1023 + 52).toNat = n
    omega
  have small : ¬ 2 ^ Format.binary64.exponentBits ≤ (e + Format.binary64.exponentBias +
      Format.binary64.mantissaBitsWithoutImplicit).toNat + 1 := by
    rw [exponent]
    exact Nat.not_le_of_lt room
  have bits : m.log2 + 1 = Format.binary64.mantissaBits := by
    have log2 := log2_mul_two_pow full 0
    rw [Nat.pow_zero, Nat.mul_one] at log2
    rw [log2]
    rfl
  refine (if_neg small).trans ((if_pos bits).trans ?_)
  rw [exponent]

theorem finite_congr {s t : Sign} {m k : Nat} {d e : Int} {posM : 0 < m} {posK : 0 < k}
    (sign : s = t) (mantissa : m = k) (exponent : d = e) :
    UnpackedFloat.finite s m d posM = .finite t k e posK := by
  subst sign mantissa exponent
  rfl

/-- What is read of components whose exponent is none of the two that are kept free, for what is no
number and for numbers without the implicit bit. -/
theorem unpack_components {n m k : Nat} {e : Int} (differs : n ≠ 0) (room : n + 1 < 2048)
    (implicit : (1#1 ++ BitVec.ofNat 52 m).toNat = k) (biased : (n : Int) = e + 1075)
    (pos : 0 < k) :
    UnpackedFloat.unpack Format.binary64
        (packComponents Format.binary64 .positive (BitVec.ofNat 11 n) (BitVec.ofNat 52 m)) =
      .finite .positive k e pos := by
  generalize packed : packComponents Format.binary64 .positive (BitVec.ofNat 11 n)
    (BitVec.ofNat 52 m) = b
  have sign : unpackSign b = Sign.toBitVec .positive := packed ▸ unpackSign_pack ..
  have exponent : unpackExponent b = BitVec.ofNat 11 n := packed ▸ unpackExponent_packComponents
  have mantissa : unpackMantissa b = BitVec.ofNat 52 m := packed ▸ unpackMantissa_packComponents
  have value : (BitVec.ofNat 11 n).toNat = n := by
    rw [BitVec.toNat_ofNat]
    omega
  have other {c : BitVec 11} (ne : n ≠ c.toNat) : unpackExponent b ≠ c := by
    rw [exponent]
    rintro rfl
    exact ne value.symm
  have finite : unpackExponent b ≠ -1#11 := other (by change n ≠ 2047; omega)
  have normal : unpackExponent b ≠ 0#11 := other differs
  have back : ((unpackExponent b).toNat : Int) - (1023 + 52) = e := by
    rw [exponent, value, biased]
    omega
  refine (if_neg finite).trans ((if_neg normal).trans (finite_congr ?_ ?_ back))
  · rw [sign]
    rfl
  · rw [mantissa, implicit]

/-- A number with a full mantissa is read as it was packed. -/
theorem unpack_pack_full {m : Nat} (full : Full m) {e : Int} (least : -1074 ≤ e) (most : e ≤ 0) :
    (Float.Model.pack (.finite .positive m e full.pos)).unpack =
      .finite .positive m e full.pos := by
  obtain ⟨n, biased⟩ : ∃ n : Nat, (n : Int) = e + 1075 := ⟨(e + 1075).toNat, by omega⟩
  have room : n + 1 < 2048 := by omega
  change UnpackedFloat.unpack Format.binary64 (UnpackedFloat.pack Format.binary64 _) = _
  rw [pack_full full biased room]
  exact unpack_components (by omega) room (toNat_implicit full) biased full.pos

/-! ## Whole numbers -/

/-- The exponent of a whole number. -/
def wholeExponent (k : Nat) : Int := k.log2 - 52

def wholeMantissa (k : Nat) : Nat := k * 2 ^ (52 - k.log2)

theorem least_wholeExponent (k : Nat) : -1074 ≤ wholeExponent k := by
  rw [wholeExponent]
  omega

section Whole

variable {k : Nat} (pos : 0 < k) (short : k < 2 ^ 53)
include pos short

theorem log2_le : k.log2 ≤ 52 :=
  Nat.lt_succ_iff.1 ((Nat.log2_lt (Nat.ne_of_gt pos)).2 short)

theorem full_wholeMantissa : Full (wholeMantissa k) := by
  have bits : k.log2 + (52 - k.log2) = 52 := Nat.add_sub_cancel' (log2_le pos short)
  have more : k.log2 + 1 + (52 - k.log2) = 53 := by omega
  constructor
  · have low := Nat.mul_le_mul_right (2 ^ (52 - k.log2)) (Nat.log2_self_le (Nat.ne_of_gt pos))
    rwa [← Nat.pow_add, bits] at low
  · have high := Nat.mul_lt_mul_of_pos_right (Nat.lt_log2_self (n := k))
      (Nat.two_pow_pos (52 - k.log2))
    rwa [← Nat.pow_add, more] at high

theorem wholeExponent_most : wholeExponent k ≤ 0 := by
  have := log2_le pos short
  rw [wholeExponent]
  omega

/-- A whole number is shifted up to a full mantissa. -/
theorem round_whole :
    UnpackedFloat.round Format.binary64 .positive k 0 =
      .finite .positive (wholeMantissa k) (wholeExponent k) (full_wholeMantissa pos short).pos := by
  have target : Format.binary64.targetExponent (totalExponent k 0) = wholeExponent k := by
    have lowest : Format.binary64.minExponent = -1074 := rfl
    have bits : Format.binary64.mantissaBits = 53 := rfl
    rw [Format.targetExponent, totalExponent, wholeExponent, lowest, bits]
    omega
  have shifted : decreaseExponent k 0 (wholeExponent k) = (wholeMantissa k, wholeExponent k) := by
    have amount : (0 - wholeExponent k).toNat = 52 - k.log2 := by
      rw [wholeExponent]
      omega
    have below : (0 : Int) - (52 - k.log2 : Nat) = wholeExponent k := by
      have := log2_le pos short
      rw [wholeExponent]
      omega
    rw [decreaseExponent, amount, below, Nat.shiftLeft_eq, wholeMantissa]
  have exact := roundWithAccuracy_full .positive (full_wholeMantissa pos short)
    (least_wholeExponent k) 0
  rw [Nat.pow_zero, Nat.mul_one, Int.natCast_zero, Int.sub_zero] at exact
  rw [UnpackedFloat.round, target, shifted]
  exact exact

end Whole

/-- A double that has a whole number for its value. -/
inductive Holds : Nat → Float → Prop where
  | zero {x : Float} (read : x.toModel.unpack = .zero .positive) : Holds 0 x
  | whole {k : Nat} {x : Float} (pos : 0 < k) (short : k < 2 ^ 53)
      (read : x.toModel.unpack =
        .finite .positive (wholeMantissa k) (wholeExponent k) (full_wholeMantissa pos short).pos) :
      Holds k x

theorem Holds.isFinite {k : Nat} {x : Float} (h : Holds k x) : x.isFinite = true := by
  change x.toModel.unpack.isFinite = true
  cases h with
  | zero read =>
    rw [read]
    rfl
  | whole pos short read =>
    rw [read]
    rfl

/-- Whole numbers compare as their doubles do. -/
theorem Holds.le {a b : Nat} {x y : Float} (hx : Holds a x) (hy : Holds b y) (le : a ≤ b) :
    x ≤ y := by
  refine decide_eq_true (p := x.toModel.le y.toModel = true) ?_
  change (x.toModel.unpack.compare y.toModel.unpack).any (·.isLE) = true
  cases hx with
  | zero readX =>
    cases hy with
    | zero readY =>
      rw [readX, readY]
      rfl
    | whole pos short readY =>
      rw [readX, readY]
      rfl
  | whole posX shortX readX =>
    cases hy with
    | zero readY => exact absurd le (Nat.not_le_of_lt posX)
    | whole posY shortY readY =>
      rw [readX, readY]
      change ((compare (wholeExponent a) (wholeExponent b)).then
        (compare (wholeMantissa a) (wholeMantissa b))).isLE = true
      have log2 : a.log2 ≤ b.log2 :=
        (Nat.le_log2 (Nat.ne_of_gt posY)).2
          (Nat.le_trans (Nat.log2_self_le (Nat.ne_of_gt posX)) le)
      rw [Ordering.isLE_then_iff_or, Int.compare_eq_lt, Int.compare_eq_eq, Nat.isLE_compare,
        wholeExponent, wholeExponent]
      rcases Nat.lt_or_eq_of_le log2 with less | same
      · exact .inl (by omega)
      · refine .inr ⟨by omega, ?_⟩
        rw [wholeMantissa, wholeMantissa, same]
        exact Nat.mul_le_mul_right _ le

/-- Adding zero leaves a whole number as it is. -/
theorem Holds.add_zero {k : Nat} {x y : Float} (h : Holds k x)
    (zero : y.toModel.unpack = .zero .positive) : Holds k (x + y) := by
  cases h with
  | zero read =>
    refine .zero ?_
    change (Float.Model.pack (UnpackedFloat.add _ x.toModel.unpack y.toModel.unpack)).unpack = _
    rw [read, zero]
    rfl
  | whole pos short read =>
    refine .whole pos short ?_
    change (Float.Model.pack (UnpackedFloat.add _ x.toModel.unpack y.toModel.unpack)).unpack = _
    rw [read, zero]
    exact unpack_pack_full (full_wholeMantissa pos short) (least_wholeExponent k)
      (wholeExponent_most pos short)

/-- A whole number is read exactly: it is made a double, and multiplied by one. -/
theorem holds_ofScientific {k : Nat} (pos : 0 < k) (short : k < 2 ^ 53) :
    Holds k (Float.ofScientific k false 0) := by
  have full := full_wholeMantissa pos short
  have made : k.toUInt64.toFloat.toModel.unpack =
      .finite .positive (wholeMantissa k) (wholeExponent k) full.pos := by
    have same : k.toUInt64.toNat = k := UInt64.toNat_ofNat_of_lt (Nat.lt_trans short (by decide))
    have more : compare (k : Int) 0 = .gt := Int.compare_eq_gt.2 (Int.natCast_pos.2 pos)
    change (Float.Model.pack (UnpackedFloat.ofUInt64 _ k.toUInt64)).unpack = _
    rw [UnpackedFloat.ofUInt64, UnpackedFloat.ofNat, UnpackedFloat.ofInt, same,
      UnpackedFloat.normalize, more]
    change (Float.Model.pack (UnpackedFloat.round _ .positive k 0)).unpack = _
    rw [round_whole pos short]
    exact unpack_pack_full full (least_wholeExponent k) (wholeExponent_most pos short)
  have one : (Float.exactlyRepresentablePowersOfTen[0]).toModel.unpack =
      .finite .positive (1 * 2 ^ 52) (0 - (52 : Nat)) (by decide) := by rfl
  refine .whole pos short ?_
  rw [Float.ofScientific, dif_pos ⟨short, Nat.zero_le 22⟩]
  change (Float.Model.pack (UnpackedFloat.mul _ k.toUInt64.toFloat.toModel.unpack
    (Float.exactlyRepresentablePowersOfTen[0]).toModel.unpack)).unpack = _
  rw [made, one]
  have exact := roundWithAccuracy_full .positive full (least_wholeExponent k) 52
  change (Float.Model.pack (roundWithAccuracy _ .positive (wholeMantissa k * (1 * 2 ^ 52))
    (wholeExponent k + (0 - (52 : Nat))) .exact)).unpack = _
  rw [Nat.one_mul, Int.zero_sub, ← Int.sub_eq_add_neg, exact]
  exact unpack_pack_full full (least_wholeExponent k) (wholeExponent_most pos short)

theorem holds_nearest {k : Nat} (short : k < 2 ^ 53) : Holds k (nearest k 0) := by
  rcases Nat.eq_zero_or_pos k with rfl | pos
  · exact .zero rfl
  · have digits : (toString k).length ≤ 16 := by
      rw [Nat.toString_eq_repr, Nat.length_repr_le_iff (by decide)]
      exact Nat.lt_trans short (by decide)
    have some : ¬ (k = 0 ∨ (0 : Int) + (toString k).length < -400) := by omega
    have few : ¬ (400 : Int) < 0 + (toString k).length := by omega
    simp only [nearest]
    rw [if_neg some, if_neg few]
    exact holds_ofScientific pos short

/-- Whole seconds are reported as they are. -/
theorem holds_seconds {k : Nat} (short : k < 2 ^ 53) : Holds k (Rerun.seconds (k * 1000)) := by
  have none : (nearest 0 0 / 1000000000.0).toModel.unpack = .zero .positive := by rfl
  rw [Rerun.seconds, Nat.mul_div_cancel _ (by decide), Nat.mul_mod_left, Nat.zero_mul]
  exact (holds_nearest short).add_zero none

end Remedy.Decimal
