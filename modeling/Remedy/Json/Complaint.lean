import Remedy.Decimal.Reading

/-!
# Complaints about JSON

What is wrong with a value or a text, and where. A message that ends with a place, such as
` at line 3 column 7`, is taken apart; line 0 is no place.
-/

namespace Remedy.Json

structure Complaint where
  message : String
  line : Nat
  column : Nat
deriving DecidableEq

namespace Complaint

def lineMark : List Char := " at line ".toList

def columnMark : List Char := " column ".toList

/-- The text before the last line mark and the text after it. -/
def splitPlace? : List Char → Option (List Char × List Char)
  | [] => none
  | c :: cs =>
    match splitPlace? cs with
    | some (before, after) => some (c :: before, after)
    | none => (lineMark.isPrefixOf? (c :: cs)).map fun after => ([], after)

/-- The number that digits and nothing else make, in 64 bits. -/
def number? (cs : List Char) : Option Nat :=
  if cs.all Char.isDigit then Decimal.natural? Decimal.maxWord64 (String.ofList cs) else none

/-- The complaint that ends with its place. -/
def placed? (s : String) : Option Complaint := do
  let (message, place) ← splitPlace? s.toList
  let (line, rest) := Decimal.spanDigits place
  let column ← columnMark.isPrefixOf? rest
  some ⟨String.ofList message, ← number? line, ← number? column⟩

def ofText (s : String) : Complaint := (placed? s).getD ⟨s, 0, 0⟩

def text (c : Complaint) : String :=
  if c.line = 0 then c.message
  else c.message ++ " at line " ++ toString c.line ++ " column " ++ toString c.column

end Complaint

end Remedy.Json
