import Remedy.Json.Codec
import Remedy.Text.Hex

/-!
# Identifiers of 128 bits

Written as 32 lower-case hexadecimal digits in five groups. Read from that form with digits of
either case, also inside braces or after `urn:uuid:` in any case, and from the 32 digits alone.
-/

namespace Remedy

structure Identifier where
  value : BitVec 128
deriving DecidableEq

namespace Identifier

/-- The lengths of the groups. -/
def groups : List Nat := [8, 4, 4, 4, 12]

/-- Cut digits into groups with hyphens between them. -/
def hyphenate : List Nat → List Char → List Char
  | [], cs => cs
  | [_], cs => cs
  | n :: rest, cs => cs.take n ++ '-' :: hyphenate rest (cs.drop n)

def text (i : Identifier) : String :=
  String.ofList (hyphenate groups (Text.hexOf i.value.toNat 32))

/-- Take the hyphens out of digits in groups. -/
def ungroup? : List Nat → List Char → Option (List Char)
  | [], cs => if cs.isEmpty then some [] else none
  | [n], cs => if cs.length = n then some cs else none
  | n :: rest, cs =>
    match cs.drop n with
    | '-' :: r => if cs.length < n then none else (ungroup? rest r).map (cs.take n ++ ·)
    | _ => none

def urn : List Char := "urn:uuid:".toList

def ofText? (s : String) : Option Identifier := do
  let cs := s.toList
  let digits ← match cs with
    | '{' :: rest =>
      if rest.getLast? == some '}' then ungroup? groups rest.dropLast else none
    | cs =>
      if (cs.take urn.length).map Char.toLower = urn then ungroup? groups (cs.drop urn.length)
      else if cs.length = 32 then some cs
      else ungroup? groups cs
  (Text.ofHex? digits).map fun n => ⟨BitVec.ofNat 128 n⟩

end Identifier

instance : Json.Coded Identifier where
  encode i := .str i.text
  decode
    | .str s => Identifier.ofText? s
    | _ => none

end Remedy
