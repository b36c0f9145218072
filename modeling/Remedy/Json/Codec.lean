import Remedy.Json.Raw
import Remedy.Text.Utf8

/-!
# Types with a JSON form

A coded type is written as a JSON value and read back from a raw one. A record is read from an
object or from an array of its fields in order. An object may leave out a field that has a default
or may be absent, may hold members that are not fields, and must not repeat a field; an array may
only leave out fields with a default at its end.
-/

namespace Remedy.Json

class Coded (α : Type) where
  encode : α → Json
  decode : Raw → Option α

export Coded (encode decode)

/-- Read a text that holds the JSON form of a value. -/
def fromText? {α : Type} [Coded α] (text : String) : Option α := (Raw.read? text).bind decode

/-- What stands for bytes that are no text: in a string half of a surrogate pair, which a letter
keeps apart from what comes before it; anywhere else nothing that a document may hold. -/
def noText : List Char := "g\\udc00".toList

/-- Read bytes that hold the JSON form of a value. A member nobody asks for may hold bytes that are
no text, as long as they stand in a string. -/
def fromBytes? {α : Type} [Coded α] (bytes : List UInt8) : Option α :=
  fromText? ((Text.bytes? bytes).getD (String.ofList (Text.decodeFrom noText 0 bytes)))

theorem fromBytes?_toBytes {α : Type} [Coded α] (text : String) :
    (fromBytes? (Text.toBytes text) : Option α) = fromText? text := by
  rw [fromBytes?, Text.bytes?_toBytes, Option.getD_some]

/-- Read a value that is already in memory. -/
def from? {α : Type} [Coded α] (j : Json) : Option α := decode j.raw

instance : Coded Json := ⟨id, Raw.json?⟩

instance : Coded Bool where
  encode := .bool
  decode
    | .bool b => some b
    | _ => none

instance : Coded String where
  encode := .str
  decode
    | .str s => some s
    | _ => none

/-- A natural number up to `bound`, written as an integer. -/
def decodeNat (bound : Nat) : Raw → Option Nat
  | .num (.int (.ofNat n)) => if n ≤ bound then some n else none
  | _ => none

instance : Coded UInt64 where
  encode n := natural n.toNat
  decode r := (decodeNat Decimal.maxWord64 r).map Nat.toUInt64

instance : Coded UInt32 where
  encode n := natural n.toNat
  decode r := (decodeNat Decimal.maxWord32 r).map Nat.toUInt32

/-- The double nearest to an integer. -/
def realOfInt (i : Int) : Float :=
  let x := Decimal.nearest i.natAbs 0
  if i < 0 then -x else x

instance : Coded Float where
  encode := real
  decode
    | .num (.real x) => some x
    | .num (.int i) => some (realOfInt i)
    | _ => none

def decodeAll {α : Type} (f : Raw → Option α) : List Raw → Option (List α)
  | [] => some []
  | r :: rest => do
    let a ← f r
    let others ← decodeAll f rest
    some (a :: others)

def decodeMembers {α : Type} (f : Raw → Option α) :
    List (String × Raw) → Option (List (String × α))
  | [] => some []
  | (k, r) :: rest => do
    let a ← f r
    let others ← decodeMembers f rest
    some ((k, a) :: others)

instance {α : Type} [Coded α] : Coded (Option α) where
  encode
    | some a => encode a
    | none => .null
  decode
    | .null => some none
    | r => (decode r).map some

instance {α : Type} [Coded α] : Coded (List α) where
  encode as := .arr (as.map encode)
  decode
    | .arr items => decodeAll decode items
    | _ => none

instance {α : Type} [Coded α] : Coded (Dict α) where
  encode d := .obj (d.map encode).entries
  decode
    | .obj members => (decodeMembers decode members).map Dict.ofList
    | _ => none

instance : Coded NameSet where
  encode s := encode s.names
  decode r := (decode r : Option (List String)).map NameSet.ofList

/-- A name is written as a string and read from one, or from an object that maps it to null. -/
def decodeName {α : Type} (named? : String → Option α) : Raw → Option α
  | .str s => named? s
  | .obj [(s, .null)] => named? s
  | _ => none

/-- A type of finitely many named values. -/
abbrev codedByName {α : Type} (all : List α) (name : α → String) : Coded α where
  encode a := .str (name a)
  decode := decodeName fun s => all.find? fun a => name a == s

/-! ## Records -/

/-- The fields found in a raw value. -/
structure Fields where
  positional : Bool
  found : List (String × Raw)

def Fields.of? (names : List String) : Raw → Option Fields
  | .obj members =>
    if names.all fun n => members.countP (·.1 == n) ≤ 1 then some ⟨false, members⟩ else none
  | .arr items => if items.length ≤ names.length then some ⟨true, names.zip items⟩ else none
  | _ => none

namespace Fields

variable {α : Type} [Coded α]

def required (fs : Fields) (name : String) : Option α := (fs.found.lookup name).bind decode

/-- A field that may be absent from an object. -/
def optional (fs : Fields) (name : String) : Option (Option α) :=
  match fs.found.lookup name with
  | some r => decode r
  | none => if fs.positional then none else some none

def defaulting (fs : Fields) (name : String) (default : α) : Option α :=
  match fs.found.lookup name with
  | some r => decode r
  | none => some default

end Fields

/-- A member that is left out when there is no value. -/
def present {α : Type} [Coded α] (name : String) : Option α → List (String × Json)
  | some a => [(name, encode a)]
  | none => []

end Remedy.Json
