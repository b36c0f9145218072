import Remedy.Decimal.Shortest

/-!
# Writing doubles

Three written forms: `plain` never uses an exponent, `point` shows at least one place and an
exponent for very large and very small values, and `places` rounds the exact value to a fixed number
of places, a half going to the even neighbour.
-/

namespace Remedy.Decimal

def digitChars (n : Nat) : List Char := (toString n).toList

/-- Digits with the point moved `places` from the right, with a zero in front where none is left. -/
def setPoint (ds : List Char) (places : Nat) : List Char :=
  let padded := List.replicate (places + 1 - ds.length) '0' ++ ds
  let whole := padded.length - places
  if places = 0 then padded else padded.take whole ++ '.' :: padded.drop whole

/-- Positional notation without an exponent. -/
def Digits.plain (d : Digits) : List Char :=
  if 0 ≤ d.exponent then digitChars (d.digits * tenTo d.exponent.toNat)
  else setPoint (digitChars d.digits) (-d.exponent).toNat

/-- One digit, the rest after a point, and a signed exponent. -/
def Digits.scientific (d : Digits) : List Char :=
  let ds := digitChars d.digits
  let e : Int := d.exponent + (ds.length : Int) - 1
  let mantissa := match ds with
    | a :: b :: r => a :: '.' :: b :: r
    | short => short
  mantissa ++ ['e', if 0 ≤ e then '+' else '-'] ++ digitChars e.natAbs

/-- Positional from `10 ^ -5` up to but not including `10 ^ 16`, always with a place. -/
def Digits.point (d : Digits) : List Char :=
  let lead : Int := d.exponent + ((digitChars d.digits).length : Int) - 1
  if d.digits = 0 then ['0', '.', '0']
  else if -5 ≤ lead ∧ lead < 16 then
    if 0 ≤ d.exponent then d.plain ++ ['.', '0'] else d.plain
  else d.scientific

/-- Write the sign, and give the values that have no digits their names. -/
def signed (body : Float → List Char) (x : Float) : String :=
  if x.isNaN then "NaN"
  else
    let magnitude := if x.isInf then "inf".toList else body x
    String.ofList (if isNegative x then '-' :: magnitude else magnitude)

/-- The fewest digits, without an exponent: `2`, `0.1`, `0.0000001`. -/
def plain : Float → String := signed fun x => (shortest .up x).plain

/-- The fewest digits, with a place or an exponent: `2.0`, `0.1`, `1e-7`. -/
def point : Float → String := signed fun x => (shortest .even x).point

/-- A quotient rounded to the nearest natural, a half to the even one. -/
def roundDiv (num den : Nat) : Nat :=
  let q := num / den
  match compare (2 * (num % den)) den with
  | .lt => q
  | .gt => q + 1
  | .eq => if q % 2 == 0 then q else q + 1

/-- The exact value rounded to `n` places. -/
def places (n : Nat) : Float → String := signed fun x =>
  let b := Binary.ofFloat x
  let scaled := b.mantissa * twoTo b.exponent.toNat * tenTo n
  setPoint (digitChars (roundDiv scaled (twoTo (-b.exponent).toNat))) n

end Remedy.Decimal
