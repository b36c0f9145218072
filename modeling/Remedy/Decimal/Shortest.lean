import Remedy.Decimal.Power

/-!
# The fewest digits that identify a double

A finite double stands for an interval of reals, those that round to it. The digits chosen are the
fewest that name a point of the interval, and of those the ones nearest to the double itself. All
comparisons are between naturals, so nothing is rounded on the way.
-/

namespace Remedy.Decimal

/-- A finite double without its sign: `mantissa * 2 ^ exponent`. -/
structure Binary where
  mantissa : Nat
  exponent : Int
  /-- The next double below is half as far away as the next one above. -/
  narrowBelow : Bool

def Binary.ofFloat (x : Float) : Binary :=
  let bits : Nat := x.toBits.toNat
  let biased : Nat := bits / twoTo 52 % twoTo 11
  let fraction : Nat := bits % twoTo 52
  if biased = 0 then ⟨fraction, -1074, false⟩
  else ⟨twoTo 52 + fraction, (biased : Int) - 1075, decide (fraction = 0 ∧ 1 < biased)⟩

/-- Whether the sign bit is set; it is for `-0.0`. -/
def isNegative (x : Float) : Bool := x.toBits.toNat / twoTo 63 == 1

/-- A decimal `digits * 10 ^ exponent`. -/
structure Digits where
  digits : Nat
  exponent : Int

/-- The reals between `low / scale` and `high / scale`, which round to `mid / scale`. -/
structure Interval where
  low : Nat
  mid : Nat
  high : Nat
  scale : Nat
  closed : Bool

def Interval.around (x : Binary) : Interval :=
  let unit := twoTo x.exponent.toNat
  { low := (4 * x.mantissa - (if x.narrowBelow then 1 else 2)) * unit
    mid := 4 * x.mantissa * unit
    high := (4 * x.mantissa + 2) * unit
    scale := 4 * twoTo (-x.exponent).toNat
    closed := x.mantissa % 2 == 0 }

/-- The ends belong to the interval when the mantissa is even. -/
def Interval.holds (i : Interval) (d : Digits) : Bool :=
  let point := d.digits * tenTo d.exponent.toNat * i.scale
  let shift := tenTo (-d.exponent).toNat
  if i.closed then i.low * shift ≤ point && point ≤ i.high * shift
  else i.low * shift < point && point < i.high * shift

/-- The last multiple of `10 ^ e` that is not above the middle, counted in units of `10 ^ e`. -/
def Interval.below (i : Interval) (e : Int) : Nat :=
  i.mid * tenTo (-e).toNat / (i.scale * tenTo e.toNat)

/-- Which of two neighbours wins when the double lies halfway between them. -/
inductive Tie where
  | even
  | up

/-- The better of the two grid points around the middle, if one of them is in the interval. -/
def Interval.onGrid (i : Interval) (tie : Tie) (e : Int) : Option Digits :=
  let lower : Digits := ⟨i.below e, e⟩
  let upper : Digits := ⟨i.below e + 1, e⟩
  match i.holds lower, i.holds upper with
  | false, false => none
  | true, false => some lower
  | false, true => some upper
  | true, true =>
    let twice := 2 * i.mid * tenTo (-e).toNat
    let halfway := (2 * lower.digits + 1) * (i.scale * tenTo e.toNat)
    match compare twice halfway, tie with
    | .lt, _ => some lower
    | .gt, _ => some upper
    | .eq, .up => some upper
    | .eq, .even => some (if lower.digits % 2 == 0 then lower else upper)

/-- The place of the leading digit: the least `k` with the middle below `10 ^ k`, less one. -/
def Interval.leading (i : Interval) : Int :=
  let guess : Int := ((Nat.log2 i.mid : Int) - Nat.log2 i.scale) * 30103 / 100000 - 2
  let fits (k : Int) : Bool := i.mid * tenTo (-k).toNat < i.scale * tenTo k.toNat
  (((List.range 6).map fun n => guess + Int.ofNat n).find? fits).getD (guess + 6) - 1

/-- Move the zeros at the end into the exponent. -/
def Digits.strip : Nat → Digits → Digits
  | 0, d => d
  | fuel + 1, d =>
    if d.digits != 0 && d.digits % 10 == 0 then strip fuel ⟨d.digits / 10, d.exponent + 1⟩ else d

/-- Seventeen digits always identify a double; the last case keeps its exact value. -/
def shortest (tie : Tie) (x : Float) : Digits :=
  let b := Binary.ofFloat x
  let i := Interval.around b
  if b.mantissa = 0 then ⟨0, 0⟩
  else
    let grids := (List.range 17).map fun n => i.leading - Int.ofNat n
    match grids.findSome? (i.onGrid tie) with
    | some d => d.strip 400
    | none =>
      ⟨b.mantissa * twoTo b.exponent.toNat * Nat.pow 5 (-b.exponent).toNat, -(-b.exponent).toNat⟩

end Remedy.Decimal
