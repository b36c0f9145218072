import Remedy.Json.Raw
import Remedy.Toml.Value

/-!
# What a TOML value is read as

TOML has several ways to write what a type expects. A record may be a list of its fields in order,
with more items than there are fields. A name may be the only key of a table, with nothing under it.
A date is a record without fields.
-/

namespace Remedy.Toml

open Json (Raw)

inductive Shape where
  | plain
  | name
  | list (item : Shape)
  | record (fields : List (String × Shape))

namespace Shape

/-- The shape of what stands under a key. -/
def field (s : Shape) (key : String) : Shape :=
  match s with
  | record fields => (fields.lookup key).getD plain
  | _ => plain

end Shape

/-- Whether there is nothing in a list or a table. -/
def Value.isEmpty : Value → Bool
  | .arr items => items.isEmpty
  | .tables elements => elements.isEmpty
  | .table _ entries => entries.isEmpty
  | _ => false

/-- The name that a table stands for: its only key, when there is nothing under it. -/
def Table.name? : Table → Raw
  | [(k, v)] => if v.isEmpty then .obj [(k, .null)] else .void
  | _ => .void

mutual

/-- A value as it is read for a shape. -/
def Value.raw (s : Shape) : Value → Raw
  | .int i => .num (.int i)
  | .real x => .num (.real x)
  | .bool b => .bool b
  | .str t => .str t
  | .date => .obj []
  | .arr items => .arr (rawItems s items)
  | .tables elements => .arr (rawItems s elements)
  | .table _ entries =>
    match s with
    | .name => Table.name? entries
    | s => .obj (rawMembers s entries)

/-- The items of a list, or of a record without the names of its fields. -/
def rawItems : Shape → List Value → List Raw
  | .list s, v :: rest => Value.raw s v :: rawItems (.list s) rest
  | .record ((_, s) :: fields), v :: rest => Value.raw s v :: rawItems (.record fields) rest
  | .record [], _ => []
  | _, v :: rest => Value.raw .plain v :: rawItems .plain rest
  | _, [] => []

def rawMembers (s : Shape) : List (String × Value) → List (String × Raw)
  | [] => []
  | (k, v) :: rest => (k, Value.raw (s.field k) v) :: rawMembers s rest

end

end Remedy.Toml
