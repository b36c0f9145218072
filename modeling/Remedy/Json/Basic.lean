import Remedy.Dict

/-!
# JSON values

Integers are kept exactly and apart from doubles, so `1` and `1.0` are different values. A value is
in canonical form when the members of every object in it stand in ascending order, one for each
name.
-/

namespace Remedy

inductive Json.Number where
  | int (i : Int)
  | real (x : Float)

inductive Json where
  | null
  | bool (b : Bool)
  | num (n : Json.Number)
  | str (s : String)
  | arr (items : List Json)
  | obj (members : List (String × Json))

namespace Json

instance : Inhabited Json := ⟨.null⟩

mutual

/-- Sort the members of every object by name and keep the last of those with one name. -/
def canonical : Json → Json
  | .arr items => .arr (canonicalItems items)
  | .obj members => .obj (Dict.ofList (canonicalMembers members)).entries
  | atom => atom

def canonicalItems : List Json → List Json
  | [] => []
  | j :: rest => canonical j :: canonicalItems rest

def canonicalMembers : List (String × Json) → List (String × Json)
  | [] => []
  | (k, j) :: rest => (k, canonical j) :: canonicalMembers rest

end

def natural (n : Nat) : Json := .num (.int n)

def real (x : Float) : Json := .num (.real x)

/-- The value of a double; one that is not finite has none. -/
def ofFloat (x : Float) : Json := if x.isFinite then real x else null

/-- A member of an object. -/
def member? (k : String) : Json → Option Json
  | .obj members => members.lookup k
  | _ => none

def text? : Json → Option String
  | .str s => some s
  | _ => none

def isNull : Json → Bool
  | .null => true
  | _ => false

/-- Follow a path of names through objects. -/
def at? : List String → Json → Option Json
  | [], j => some j
  | k :: path, j => (member? k j).bind (at? path)

end Json

end Remedy
