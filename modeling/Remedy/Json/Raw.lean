import Remedy.Decimal.Reading
import Remedy.Json.Basic
import Remedy.Text.Hex

/-!
# Reading JSON

The reader is strict about form: no comments, no trailing text, no control characters in strings.
Some text of the right form denotes no value: a number beyond the doubles, a string with half of a
surrogate pair, a container nested too deeply. The reader keeps its place as `void`, so that a
member nobody asks for may hold it. Members keep their order and their repetitions.
-/

namespace Remedy.Json

inductive Raw where
  | null
  | bool (b : Bool)
  | num (n : Number)
  | str (s : String)
  | arr (items : List Raw)
  | obj (members : List (String × Raw))
  | void

namespace Raw

/-- Containers may be nested this deep. -/
def maxDepth : Nat := 127

def isSpace (c : Char) : Bool := c == ' ' || c == '\n' || c == '\t' || c == '\r'

def skipSpace (cs : List Char) : List Char := cs.dropWhile isSpace

/-! ## Strings -/

/-- A string is made of characters and of the 16-bit units that escapes give by number. -/
inductive Piece where
  | char (c : Char)
  | unit (n : Nat)

def hexUnit? (a b c d : Char) : Option Nat := Text.ofHex? [a, b, c, d]

/-- The character that a letter after a backslash stands for. -/
def escape? : Char → Option Char
  | '"' => some '"'
  | '\\' => some '\\'
  | '/' => some '/'
  | 'b' => some '\x08'
  | 'f' => some '\x0c'
  | 'n' => some '\n'
  | 'r' => some '\r'
  | 't' => some '\t'
  | _ => none

/-- The pieces up to the closing quote, and what follows it. -/
def pieces : List Char → Option (List Piece × List Char)
  | [] => none
  | '"' :: rest => some ([], rest)
  | '\\' :: 'u' :: a :: b :: c :: d :: rest => do
    let n ← hexUnit? a b c d
    let (ps, rest) ← pieces rest
    some (.unit n :: ps, rest)
  | '\\' :: e :: rest => do
    let c ← escape? e
    let (ps, rest) ← pieces rest
    some (.char c :: ps, rest)
  | c :: rest => do
    if c == '\\' || c < ' ' then none
    let (ps, rest) ← pieces rest
    some (.char c :: ps, rest)

/-- Two units that form a surrogate pair are one character; half of a pair is none. -/
def join : List Piece → Option (List Char)
  | [] => some []
  | .char c :: ps => (join ps).map (c :: ·)
  | .unit hi :: .unit lo :: ps =>
    if 0xD800 ≤ hi ∧ hi < 0xDC00 then
      if 0xDC00 ≤ lo ∧ lo < 0xE000 then
        (join ps).map (Char.ofNat (0x10000 + (hi - 0xD800) * 0x400 + (lo - 0xDC00)) :: ·)
      else none
    else if 0xDC00 ≤ hi ∧ hi < 0xE000 then none
    else (join (.unit lo :: ps)).map (Char.ofNat hi :: ·)
  | .unit n :: ps => if 0xD800 ≤ n ∧ n < 0xE000 then none else (join ps).map (Char.ofNat n :: ·)

/-- A string after its opening quote; the text is missing when the pieces do not join. -/
def string (cs : List Char) : Option (Option String × List Char) := do
  let (ps, rest) ← pieces cs
  some ((join ps).map String.ofList, rest)

/-! ## Numbers -/

/-- The leading digits that keep a number within 64 bits, starting from `n`, and the rest. -/
def takeWord (n : Nat) : List Char → Nat × List Char
  | [] => (n, [])
  | d :: ds =>
    let next := 10 * n + (d.toNat - '0'.toNat)
    if maxWord < next then (n, d :: ds) else takeWord next ds
where
  maxWord : Nat := Decimal.maxWord64

/-- Scale by a power of ten that is itself a double; a larger divisor is applied in parts. -/
def scale : Nat → Float → Int → Option Float
  | 0, _, _ => some 0.0
  | fuel + 1, x, e =>
    if x == 0.0 then some 0.0
    else if 308 < e then none
    else if 0 ≤ e then
      let y := x * Decimal.nearest 1 e
      if y.isInf then none else some y
    else if -308 ≤ e then some (x / Decimal.nearest 1 (-e))
    else scale fuel (x / Decimal.nearest 1 308) (e + 308)

/-- The value of a literal with a fraction, an exponent or more digits than an integer may have:
the digits that fit 64 bits, scaled once. -/
def real? (whole fraction : List Char) (e : Int) : Option Float :=
  let (n, restWhole) := takeWord 0 whole
  let (m, restFraction) := takeWord n fraction
  let used := fraction.length - restFraction.length
  scale 3 (Decimal.nearest m 0) (e + restWhole.length - used)

/-- An integer in 64 bits stays one; minus zero and all else is a double. -/
def number? (negative : Bool) (whole fraction : List Char) (e : Option Int) : Option Number :=
  let n := Decimal.ofDigits whole
  let sign (x : Float) : Number := .real (if negative then -x else x)
  if fraction.isEmpty && e.isNone then
    if negative then
      if 0 < n ∧ n ≤ Decimal.maxMagnitude64 then some (.int (-(n : Int)))
      else (real? whole [] 0).map sign
    else if n ≤ Decimal.maxWord64 then some (.int n)
    else (real? whole [] 0).map sign
  else (real? whole fraction (e.getD 0)).map sign

/-- An exponent, if there is one: `e`, an optional sign, and at least one digit. -/
def exponent : List Char → Option (Option Int × List Char)
  | c :: rest =>
    if c == 'e' || c == 'E' then
      let (sign, rest) : Int × List Char := match rest with
        | '-' :: r => (-1, r)
        | '+' :: r => (1, r)
        | r => (1, r)
      let (ds, rest) := Decimal.spanDigits rest
      if ds.isEmpty then none else some (some (sign * Decimal.ofDigits ds), rest)
    else some (none, c :: rest)
  | [] => some (none, [])

def number (cs : List Char) : Option (Raw × List Char) := do
  let (negative, cs) := match cs with
    | '-' :: r => (true, r)
    | r => (false, r)
  let (whole, rest) := Decimal.spanDigits cs
  if whole.isEmpty || (whole.length != 1 && whole.head? == some '0') then none
  let (fraction, rest) ← match rest with
    | '.' :: r =>
      let (ds, rest) := Decimal.spanDigits r
      if ds.isEmpty then none else some (ds, rest)
    | r => some ([], r)
  let (e, rest) ← exponent rest
  some (((number? negative whole fraction e).map num).getD void, rest)

/-! ## Values -/

mutual

/-- A value in front of the text, `depth` containers deep. -/
def value : Nat → Nat → List Char → Option (Raw × List Char)
  | 0, _, _ => none
  | fuel + 1, depth, cs =>
    match skipSpace cs with
    | 'n' :: 'u' :: 'l' :: 'l' :: rest => some (null, rest)
    | 't' :: 'r' :: 'u' :: 'e' :: rest => some (bool true, rest)
    | 'f' :: 'a' :: 'l' :: 's' :: 'e' :: rest => some (bool false, rest)
    | '"' :: rest => (string rest).map fun (s, rest) => ((s.map str).getD void, rest)
    | '[' :: rest => do
      let (items, rest) ← match skipSpace rest with
        | ']' :: rest => some ([], rest)
        | rest => items fuel (depth + 1) rest
      some (if depth < maxDepth then arr items else void, rest)
    | '{' :: rest => do
      let (members, rest) ← match skipSpace rest with
        | '}' :: rest => some (some [], rest)
        | rest => members fuel (depth + 1) rest
      some (if depth < maxDepth then (members.map obj).getD void else void, rest)
    | rest => number rest

/-- Items up to the closing bracket. -/
def items : Nat → Nat → List Char → Option (List Raw × List Char)
  | 0, _, _ => none
  | fuel + 1, depth, cs => do
    let (item, rest) ← value fuel depth cs
    match skipSpace rest with
    | ']' :: rest => some ([item], rest)
    | ',' :: rest => (items fuel depth rest).map fun (others, rest) => (item :: others, rest)
    | _ => none

/-- Members up to the closing brace; none when a name is no text. -/
def members : Nat → Nat → List Char → Option (Option (List (String × Raw)) × List Char)
  | 0, _, _ => none
  | fuel + 1, depth, cs => do
    let (name, rest) ← match skipSpace cs with
      | '"' :: rest => string rest
      | _ => none
    let rest ← match skipSpace rest with
      | ':' :: rest => some rest
      | _ => none
    let (v, rest) ← value fuel depth rest
    match skipSpace rest with
    | '}' :: rest => some (name.map fun n => [(n, v)], rest)
    | ',' :: rest => do
      let (others, rest) ← members fuel depth rest
      some (name.bind fun n => others.map fun o => (n, v) :: o, rest)
    | _ => none

end

/-- Read a text that holds one value and nothing else. -/
def read? (text : String) : Option Raw := do
  let cs := text.toList
  let (v, rest) ← value (2 * cs.length + 2) 0 cs
  if (skipSpace rest).isEmpty then some v else none

mutual

/-- The value that a text denotes, in canonical form. -/
def json? : Raw → Option Json
  | null => some .null
  | bool b => some (.bool b)
  | num n => some (.num n)
  | str s => some (.str s)
  | arr items => (jsonItems items).map .arr
  | obj members => (jsonMembers members).map fun ms => .obj (Dict.ofList ms).entries
  | void => none

def jsonItems : List Raw → Option (List Json)
  | [] => some []
  | r :: rest => do
    let j ← json? r
    let js ← jsonItems rest
    some (j :: js)

def jsonMembers : List (String × Raw) → Option (List (String × Json))
  | [] => some []
  | (k, r) :: rest => do
    let j ← json? r
    let js ← jsonMembers rest
    some ((k, j) :: js)

end

end Raw

mutual

/-- A value as a reader would have it. -/
def raw : Json → Raw
  | .null => .null
  | .bool b => .bool b
  | .num n => .num n
  | .str s => .str s
  | .arr items => .arr (rawItems items)
  | .obj members => .obj (rawMembers members)

def rawItems : List Json → List Raw
  | [] => []
  | j :: rest => raw j :: rawItems rest

def rawMembers : List (String × Json) → List (String × Raw)
  | [] => []
  | (k, j) :: rest => (k, raw j) :: rawMembers rest

end

/-- Read a text as a value in canonical form. -/
def read? (text : String) : Option Json := (Raw.read? text).bind Raw.json?

end Remedy.Json
