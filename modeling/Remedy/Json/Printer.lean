import Remedy.Decimal.Notation
import Remedy.Json.Basic
import Remedy.Text.Hex

/-!
# Writing JSON

Two forms: `compact` has no space at all, `pretty` puts every item and member on a line of its own,
indented by two spaces a level. Control characters, quotes and backslashes are escaped and nothing
else is. A double that is not finite has no JSON form and is written as null.
-/

namespace Remedy.Json

def escaped (c : Char) : List Char :=
  match c with
  | '"' => ['\\', '"']
  | '\\' => ['\\', '\\']
  | '\x08' => ['\\', 'b']
  | '\x0c' => ['\\', 'f']
  | '\n' => ['\\', 'n']
  | '\r' => ['\\', 'r']
  | '\t' => ['\\', 't']
  | c => if c < ' ' then ['\\', 'u'] ++ Text.hexOf c.toNat 4
    else [c]

def quoted (s : String) : String :=
  String.ofList ('"' :: s.toList.flatMap escaped ++ ['"'])

def Number.text : Number → String
  | .int i => toString i
  | .real x => if x.isFinite then Decimal.point x else "null"

mutual

def compact : Json → String
  | .null => "null"
  | .bool b => if b then "true" else "false"
  | .num n => Number.text n
  | .str s => quoted s
  | .arr items => "[" ++ ",".intercalate (compactItems items) ++ "]"
  | .obj members => "\x7b" ++ ",".intercalate (compactMembers members) ++ "\x7d"

def compactItems : List Json → List String
  | [] => []
  | j :: rest => compact j :: compactItems rest

def compactMembers : List (String × Json) → List String
  | [] => []
  | (k, j) :: rest => (quoted k ++ ":" ++ compact j) :: compactMembers rest

end

/-- Lines between two brackets, one level further in. -/
def block (opening closing : String) (level : Nat) (lines : List String) : String :=
  let indent (n : Nat) := String.ofList ('\n' :: List.replicate (2 * n) ' ')
  if lines.isEmpty then opening ++ closing
  else opening ++ indent (level + 1) ++ ("," ++ indent (level + 1)).intercalate lines
    ++ indent level ++ closing

mutual

def pretty (level : Nat) : Json → String
  | .null => "null"
  | .bool b => if b then "true" else "false"
  | .num n => Number.text n
  | .str s => quoted s
  | .arr items => block "[" "]" level (prettyItems (level + 1) items)
  | .obj members => block "\x7b" "\x7d" level (prettyMembers (level + 1) members)

def prettyItems (level : Nat) : List Json → List String
  | [] => []
  | j :: rest => pretty level j :: prettyItems level rest

def prettyMembers (level : Nat) : List (String × Json) → List String
  | [] => []
  | (k, j) :: rest => (quoted k ++ ": " ++ pretty level j) :: prettyMembers level rest

end

end Remedy.Json
