import Remedy.Json.Codec
import Remedy.Time.Instant
import Remedy.Text.Blank

/-!
# Instants as text

Written in coordinated time with as few of 0, 3, 6 or 9 places as are exact. Read in a relaxed form
of the same notation: blanks around the parts, `t` or a blank between date and time, one digit where
two are usual, any number of places, and any offset of less than a day.
-/

namespace Remedy.Time

open Text Decimal

/-- Digits padded with zeros to a width. -/
def padded (width n : Nat) : List Char :=
  let ds := (toString n).toList
  List.replicate (width - ds.length) '0' ++ ds

/-- Four digits, with a sign outside the years 0 to 9999. -/
def yearText (y : Int) : List Char :=
  if 0 ≤ y ∧ y ≤ 9999 then padded 4 y.toNat
  else (if y < 0 then '-' else '+') :: padded 4 y.natAbs

def fractionText (nano : Nat) : List Char :=
  if nano = 0 then []
  else if nano % 1000000 = 0 then '.' :: padded 3 (nano / 1000000)
  else if nano % 1000 = 0 then '.' :: padded 6 (nano / 1000)
  else '.' :: padded 9 nano

def Instant.text (t : Instant) : String :=
  let date := Date.ofDayNumber (t.second / secondsPerDay)
  let inDay := (t.second % secondsPerDay).toNat
  let second := inDay % 60 + t.nano / nanosPerSecond
  String.ofList (yearText date.year ++ '-' :: padded 2 date.month ++ '-' :: padded 2 date.day
    ++ 'T' :: padded 2 (inDay / 3600) ++ ':' :: padded 2 (inDay / 60 % 60)
    ++ ':' :: padded 2 second ++ fractionText (t.nano % nanosPerSecond) ++ ['Z'])

/-! ## Reading -/

/-- At least one digit and at most `width`, after blanks. -/
def upTo? (width : Nat) (cs : List Char) : Option (Nat × List Char) :=
  let cs := trimLeft cs
  let ds := (cs.take width).takeWhile Char.isDigit
  if ds.isEmpty then none else some (ofDigits ds, cs.drop ds.length)

/-- Four digits at most, or any number of them after a sign. -/
def year? (cs : List Char) : Option (Int × List Char) :=
  match trimLeft cs with
  | '-' :: rest => (signedYear? rest).map fun (n, rest) => (-(n : Int), rest)
  | '+' :: rest => (signedYear? rest).map fun (n, rest) => ((n : Int), rest)
  | rest => (upTo? 4 rest).map fun (n, rest) => ((n : Int), rest)
where
  signedYear? (cs : List Char) : Option (Nat × List Char) :=
    let (ds, rest) := spanDigits cs
    if ds.isEmpty then none else some (ofDigits ds, rest)

/-- A separator after blanks. -/
def after? (c : Char) (cs : List Char) : Option (List Char) :=
  match trimLeft cs with
  | d :: rest => if d = c then some rest else none
  | [] => none

def date? (cs : List Char) : Option (Date × List Char) := do
  let (year, rest) ← year? cs
  let rest ← after? '-' rest
  let (month, rest) ← upTo? 2 rest
  let rest ← after? '-' rest
  let (day, rest) ← upTo? 2 rest
  let date : Date := ⟨year, month, day⟩
  if date.isValid then some (date, rest) else none

/-- The nanoseconds of a fraction; places after the ninth are dropped. -/
def fraction? : List Char → Option (Nat × List Char)
  | '.' :: rest =>
    let (ds, rest) := spanDigits rest
    let kept := ds.take 9
    if ds.isEmpty then none else some (ofDigits kept * tenTo (9 - kept.length), rest)
  | rest => some (0, rest)

/-- Seconds and nanoseconds in a day; second 60 is a leap second. -/
def clockTime? (cs : List Char) : Option ((Nat × Nat) × List Char) := do
  let (hour, rest) ← upTo? 2 cs
  let rest ← after? ':' rest
  let (minute, rest) ← upTo? 2 rest
  let rest ← after? ':' rest
  let (second, rest) ← upTo? 2 rest
  let (nano, rest) ← fraction? rest
  if 23 < hour ∨ 59 < minute ∨ 60 < second then none
  else if second = 60 then some ((hour * 3600 + minute * 60 + 59, nano + nanosPerSecond), rest)
  else some ((hour * 3600 + minute * 60 + second, nano), rest)

/-- The seconds by which a clock is ahead: `Z`, `UTC`, or a signed number of hours and minutes. -/
def offset? (cs : List Char) : Option (Int × List Char) := do
  let cs := trimLeft cs
  match cs with
  | 'Z' :: rest | 'z' :: rest => return (0, rest)
  | u :: t :: c :: rest =>
    if String.ofList ([u, t, c].map Char.toUpper) = "UTC" then return (0, rest)
  | _ => pure ()
  let (sign, rest) : Int × List Char ← match cs with
    | '+' :: rest => some (1, rest)
    | '-' :: rest | '−' :: rest => some (-1, rest)
    | _ => none
  let (hours, rest) ← pair? rest
  let (minutes, rest) ← pair? (rest.dropWhile fun c => c == ':' || isBlank c)
  if 59 < minutes ∨ 23 < hours then none
  else some (sign * (hours * 3600 + minutes * 60 : Nat), rest)
where
  pair? : List Char → Option (Nat × List Char)
    | a :: b :: rest => if a.isDigit && b.isDigit then some (ofDigits [a, b], rest) else none
    | _ => none

def Instant.ofText? (s : String) : Option Instant := do
  let (date, rest) ← date? s.toList
  let rest ← match rest with
    | 't' :: rest | 'T' :: rest | ' ' :: rest => some rest
    | _ => none
  let ((inDay, nano), rest) ← clockTime? rest
  let (ahead, rest) ← offset? rest
  let here : Instant := ⟨date.dayNumber * secondsPerDay + inDay, nano⟩
  let t : Instant := ⟨here.second - ahead, nano⟩
  if (trimLeft rest).isEmpty && here.inRange && t.inRange then some t else none

instance : Json.Coded Instant where
  encode t := .str t.text
  decode
    | .str s => Instant.ofText? s
    | _ => none

end Remedy.Time
