import Remedy.Decimal.Reading
import Remedy.Text.Hex
import Remedy.Time.Calendar
import Remedy.Toml.Value

/-!
# Strings, numbers and dates of TOML

Each reader takes the text in front of it and gives what it read with the text that is left.
Integers have 64 bits and a sign; digits may be separated by single underscores.
-/

namespace Remedy.Toml

abbrev Reader (α : Type) : Type := List Char → Option (α × List Char)

def isSpace (c : Char) : Bool := c == ' ' || c == '\t'

def skipSpace (cs : List Char) : List Char := cs.dropWhile isSpace

/-- Characters of one line: no control character but the tab. -/
def isPlain (c : Char) : Bool := c == '\t' || (' ' ≤ c && c != '\x7f')

/-- Take off spaces and line breaks. -/
def skipLines : List Char → List Char
  | '\n' :: rest => skipLines rest
  | '\r' :: '\n' :: rest => skipLines rest
  | c :: rest => if isSpace c then skipLines rest else c :: rest
  | [] => []

/-- Take off one line break, which must be there. -/
def lineBreak? : List Char → Option (List Char)
  | '\n' :: rest => some rest
  | '\r' :: '\n' :: rest => some rest
  | _ => none

/-! ## Strings -/

/-- A character by its number in `width` hexadecimal digits. -/
def numbered (width : Nat) : Reader Char := fun cs => do
  let ds := cs.take width
  if ds.length ≠ width then none
  let n ← Text.ofHex? ds
  if n.isValidChar then some (Char.ofNat n, cs.drop width) else none

/-- What stands after a backslash. -/
def escape : Reader Char
  | 'b' :: rest => some ('\x08', rest)
  | 't' :: rest => some ('\t', rest)
  | 'n' :: rest => some ('\n', rest)
  | 'f' :: rest => some ('\x0c', rest)
  | 'r' :: rest => some ('\r', rest)
  | '"' :: rest => some ('"', rest)
  | '\\' :: rest => some ('\\', rest)
  | 'u' :: rest => numbered 4 rest
  | 'U' :: rest => numbered 8 rest
  | _ => none

/-- The text up to the closing quote of a string on one line. Only double quotes know escapes. -/
def oneLine (quote : Char) : Nat → Reader (List Char)
  | 0, _ => none
  | _ + 1, [] => none
  | fuel + 1, c :: rest =>
    if c = quote then some ([], rest)
    else if quote = '"' ∧ c = '\\' then do
      let (c, rest) ← escape rest
      let (text, rest) ← oneLine quote fuel rest
      some (c :: text, rest)
    else if isPlain c then (oneLine quote fuel rest).map fun (text, rest) => (c :: text, rest)
    else none

/-- The text up to three closing quotes. One or two quotes before those belong to the text, and a
backslash at the end of a line takes the white space after it away. -/
def manyLines (quote : Char) : Nat → Reader (List Char)
  | 0, _ => none
  | _ + 1, [] => none
  | fuel + 1, c :: rest =>
    if c = quote ∧ rest.take 2 = [quote, quote] then
      let after := rest.drop 2
      let extra := min 2 (after.takeWhile (· == quote)).length
      some (List.replicate extra quote, after.drop extra)
    else if quote = '"' ∧ c = '\\' then
      match lineBreak? (skipSpace rest) with
      | some rest => manyLines quote fuel (skipLines rest)
      | none => do
        let (c, rest) ← escape rest
        let (text, rest) ← manyLines quote fuel rest
        some (c :: text, rest)
    else
      match lineBreak? (c :: rest) with
      | some rest => (manyLines quote fuel rest).map fun (text, rest) => ('\n' :: text, rest)
      | none =>
        if isPlain c then (manyLines quote fuel rest).map fun (text, rest) => (c :: text, rest)
        else none

/-- A string from its opening quotes on. A line break right after three quotes is dropped. -/
def string : Reader String
  | [] => none
  | quote :: rest =>
    let read := if rest.take 2 = [quote, quote] then
        let body := rest.drop 2
        manyLines quote (body.length + 1) ((lineBreak? body).getD body)
      else oneLine quote (rest.length + 1) rest
    read.map fun (text, rest) => (String.ofList text, rest)

/-! ## Numbers -/

/-- More digits, each perhaps after an underscore. -/
def moreDigits (isDigit : Char → Bool) : Reader (List Char)
  | '_' :: d :: rest =>
    if isDigit d then (moreDigits isDigit rest).map fun (ds, rest) => (d :: ds, rest) else none
  | ['_'] => none
  | c :: rest =>
    if isDigit c then (moreDigits isDigit rest).map fun (ds, rest) => (c :: ds, rest)
    else some ([], c :: rest)
  | [] => some ([], [])

/-- At least one digit. -/
def digits (isDigit : Char → Bool) : Reader (List Char)
  | d :: rest => if isDigit d then moreDigits isDigit (d :: rest) else none
  | [] => none

/-- A zero alone, or digits that begin with another. -/
def wholePart : Reader (List Char)
  | '0' :: rest => some (['0'], rest)
  | cs => digits Char.isDigit cs

/-- The exponent after its letter. -/
def exponent : Reader Int
  | '-' :: rest => (digits Char.isDigit rest).map fun (ds, rest) =>
    (-(Decimal.ofDigits ds : Int), rest)
  | '+' :: rest => (digits Char.isDigit rest).map fun (ds, rest) =>
    ((Decimal.ofDigits ds : Int), rest)
  | cs => (digits Char.isDigit cs).map fun (ds, rest) => ((Decimal.ofDigits ds : Int), rest)

/-- What may follow the whole part of a float: a fraction, an exponent, or one after the other. -/
def floatTail : List Char → Option (Option (List Char × Int) × List Char)
  | '.' :: rest => do
    let (fraction, rest) ← digits Char.isDigit rest
    match rest with
    | c :: r =>
      if c == 'e' || c == 'E' then
        let (e, rest) ← exponent r
        some (some (fraction, e), rest)
      else some (some (fraction, 0), rest)
    | [] => some (some (fraction, 0), [])
  | c :: rest =>
    if c == 'e' || c == 'E' then (exponent rest).map fun (e, rest) => (some ([], e), rest)
    else some (none, c :: rest)
  | [] => some (none, [])

/-- An integer has 64 bits. -/
def integer? (i : Int) : Option Value :=
  if -(Decimal.maxMagnitude64 : Int) ≤ i ∧ i < Decimal.maxMagnitude64 then some (.int i) else none

/-- A float of too large a magnitude is refused, unless it is negative. -/
def float? (negative : Bool) (x : Float) : Option Value :=
  if negative then some (.real (-x)) else if x.isInf then none else some (.real x)

def decimal (negative : Bool) : Reader Value := fun cs => do
  let (whole, rest) ← wholePart cs
  let (tail, rest) ← floatTail rest
  let v ← match tail with
    | some (fraction, e) =>
      float? negative
        (Decimal.nearest (Decimal.ofDigits (whole ++ fraction)) (e - fraction.length))
    | none =>
      let n : Int := Decimal.ofDigits whole
      integer? (if negative then -n else n)
  some (v, rest)

/-- The values without digits, which have no limit on their sign. -/
def special (negative : Bool) : Reader Value
  | 'i' :: 'n' :: 'f' :: rest => some (.real (if negative then -1.0 / 0.0 else 1.0 / 0.0), rest)
  | 'n' :: 'a' :: 'n' :: rest => some (.real (0.0 / 0.0), rest)
  | _ => none

def signed (negative : Bool) (cs : List Char) : Option (Value × List Char) :=
  (special negative cs).or (decimal negative cs)

/-- Digits of another base than ten, after the mark of the base. -/
def based (base : Nat) : Reader Value := fun cs => do
  let valueOf (c : Char) : Nat := (Text.hexDigit? c).getD 16
  let (ds, rest) ← digits (fun c => valueOf c < base) cs
  let v ← integer? (ds.foldl (fun n d => base * n + valueOf d) 0 : Nat)
  some (v, rest)

def number : Reader Value
  | '+' :: rest => signed false rest
  | '-' :: rest => signed true rest
  | '0' :: 'x' :: rest => based 16 rest
  | '0' :: 'o' :: rest => based 8 rest
  | '0' :: 'b' :: rest => based 2 rest
  | cs => signed false cs

/-! ## Dates -/

/-- Two digits with a value in a range. -/
def two (lo hi : Nat) : Reader Nat
  | a :: b :: rest =>
    let n := Decimal.ofDigits [a, b]
    if a.isDigit && b.isDigit && lo ≤ n && n ≤ hi then some (n, rest) else none
  | _ => none

def exactly (c : Char) : List Char → Option (List Char)
  | d :: rest => if c = d then some rest else none
  | [] => none

/-- The minutes and seconds of a time, after its hour and the colon. -/
def minutes (cs : List Char) : Option (List Char) := do
  let (_, cs) ← two 0 59 cs
  let cs ← exactly ':' cs
  let (_, cs) ← two 0 60 cs
  some <| match cs with
    | '.' :: d :: rest => if d.isDigit then rest.dropWhile Char.isDigit else cs
    | cs => cs

def zone (sign : Char) (cs : List Char) : Option (List Char) :=
  if sign == 'Z' || sign == 'z' then some cs
  else if sign == '+' || sign == '-' then do
    let (_, cs) ← two 0 23 cs
    let cs ← exactly ':' cs
    let (_, cs) ← two 0 59 cs
    some cs
  else some (sign :: cs)

/-- A time and its zone after a date, if there is a time. -/
def timeAfterDate (cs : List Char) : Option (List Char) :=
  match cs with
  | d :: rest =>
    if d == 'T' || d == 't' || d == ' ' then
      match two 0 23 rest with
      | some (_, ':' :: rest) => do
        match ← minutes rest with
        | sign :: rest => zone sign rest
        | [] => some []
      | _ => some cs
    else some cs
  | [] => some []

/-- The month and day, after a year and its hyphen. -/
def dayInYear (year : Nat) (cs : List Char) : Option (List Char) := do
  let (month, cs) ← two 1 12 cs
  let cs ← exactly '-' cs
  let (day, cs) ← two 1 31 cs
  if day ≤ Time.monthLength year month then some cs else none

/-- A number, a date or a time: four digits before a hyphen begin a date, two before a colon a
time. -/
def numberOrDate (cs : List Char) : Option (Value × List Char) :=
  let year := cs.take 4
  if year.length = 4 ∧ year.all Char.isDigit ∧ (cs.drop 4).head? = some '-' then do
    let rest ← dayInYear (Decimal.ofDigits year) (cs.drop 5)
    let rest ← timeAfterDate rest
    some (.date, rest)
  else match two 0 23 cs with
    | some (_, ':' :: rest) => (minutes rest).map fun rest => (.date, rest)
    | _ => number cs

end Remedy.Toml
