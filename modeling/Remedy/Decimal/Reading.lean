import Remedy.Decimal.Power

/-!
# Reading numbers

Unsigned integers with an optional plus, and doubles as a decimal with optional sign, point and
exponent or one of the names of the values without digits. Neither allows blanks or separators.
-/

namespace Remedy.Decimal

/-- The value of a run of decimal digits. -/
def ofDigits (ds : List Char) : Nat :=
  ds.foldl (fun n d => 10 * n + (d.toNat - '0'.toNat)) 0

/-- Split off the decimal digits in front. -/
def spanDigits (cs : List Char) : List Char × List Char := cs.span Char.isDigit

/-- An optional plus and at least one digit, with a value up to `bound`. -/
def natural? (bound : Nat) (s : String) : Option Nat :=
  let cs := match s.toList with
    | '+' :: rest => rest
    | cs => cs
  if cs.isEmpty || !cs.all Char.isDigit || bound < ofDigits cs then none
  else some (ofDigits cs)

/-- The double nearest to `m * 10 ^ e`; far outside the range it is zero or infinite. -/
def nearest (m : Nat) (e : Int) : Float :=
  let magnitude : Int := e + (toString m).length
  if m = 0 ∨ magnitude < -400 then 0.0
  else if 400 < magnitude then 1.0 / 0.0
  else Float.ofScientific m (e < 0) e.natAbs

/-- What follows the digits: nothing, or `e`, a sign and digits. -/
def exponent? : List Char → Option Int
  | [] => some 0
  | c :: rest =>
    let (sign, ds) : Int × List Char := match rest with
      | '-' :: r => (-1, r)
      | '+' :: r => (1, r)
      | r => (1, r)
    if (c == 'e' || c == 'E') && !ds.isEmpty && ds.all Char.isDigit then some (sign * ofDigits ds)
    else none

/-- A decimal without its sign; one of the two runs of digits may be empty. -/
def unsigned? (cs : List Char) : Option Float :=
  let (whole, rest) := spanDigits cs
  let (part, rest) := match rest with
    | '.' :: r => spanDigits r
    | r => ([], r)
  if whole.isEmpty && part.isEmpty then none
  else (exponent? rest).map fun e => nearest (ofDigits (whole ++ part)) (e - part.length)

/-- The names are read in any case. -/
def named? (cs : List Char) : Option Float :=
  match String.ofList (cs.map Char.toLower) with
  | "inf" | "infinity" => some (1.0 / 0.0)
  | "nan" => some (0.0 / 0.0)
  | _ => none

def float? (s : String) : Option Float :=
  let (negative, cs) := match s.toList with
    | '-' :: r => (true, r)
    | '+' :: r => (false, r)
    | r => (false, r)
  ((named? cs).or (unsigned? cs)).map fun x => if negative then -x else x

end Remedy.Decimal
