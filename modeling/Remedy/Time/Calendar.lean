/-!
# The Gregorian calendar, extended in both directions

Days are counted from 1 January 1970. A year is counted from March, so that the leap day is its last
day and the months before it have fixed lengths.
-/

namespace Remedy.Time

structure Date where
  year : Int
  month : Nat
  day : Nat
deriving DecidableEq

def isLeapYear (y : Int) : Bool := y % 4 == 0 && (y % 100 != 0 || y % 400 == 0)

def monthLength (y : Int) (m : Nat) : Nat :=
  match m with
  | 2 => if isLeapYear y then 29 else 28
  | 4 | 6 | 9 | 11 => 30
  | _ => 31

def Date.isValid (d : Date) : Bool :=
  1 ≤ d.month && d.month ≤ 12 && 1 ≤ d.day && d.day ≤ monthLength d.year d.month

/-- Days from the start of a year that begins in March to the start of its month `m`. -/
def daysBeforeMonth (m : Nat) : Nat := (153 * m + 2) / 5

def Date.dayNumber (d : Date) : Int :=
  let y : Int := if d.month ≤ 2 then d.year - 1 else d.year
  let m : Nat := (d.month + 9) % 12
  365 * y + y / 4 - y / 100 + y / 400 + daysBeforeMonth m + d.day - 719469

/-- The year from March, and the day in it, of a day counted from 1 March of the year 0. -/
def yearAndDay (n : Int) : Int × Nat :=
  let era := n / 146097
  let inEra := (n % 146097).toNat
  let y := (inEra - inEra / 1460 + inEra / 36524 - inEra / 146096) / 365
  (era * 400 + y, inEra - (365 * y + y / 4 - y / 100))

def Date.ofDayNumber (n : Int) : Date :=
  let (y, d) := yearAndDay (n + 719468)
  let m := (5 * d + 2) / 153
  let month := if m < 10 then m + 3 else m - 9
  ⟨if month ≤ 2 then y + 1 else y, month, d - daysBeforeMonth m + 1⟩

end Remedy.Time
