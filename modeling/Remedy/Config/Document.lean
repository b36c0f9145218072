import Remedy.Config
import Remedy.Text.Utf8
import Remedy.Toml.Document
import Remedy.Toml.Shape

/-!
# Configuration documents

A configuration is written in TOML, a table for each section. What is left out has its default, and
what is not known is ignored. A file that is missing or is no text cannot be read at all.
-/

namespace Remedy.Config

open Toml (Shape)

/-- A record of plain fields. -/
def plainRecord (fields : List String) : Shape := .record (fields.map fun f => (f, .plain))

def keyPolicyShape : Shape := .record [("fields", .list .name)]

def shape : Shape := .record
  [("blast_radius", .record
      [("window_seconds", .plain), ("max_attempts_per_window", .plain),
        ("max_concurrent_per_target", .plain), ("key_policy", keyPolicyShape)]),
    ("blacklist", plainRecord Blacklist.fields),
    ("validation", .record
      [("min_confidence", .plain), ("max_auto_risk", .name), ("duration_tolerance", .plain)]),
    ("rerun", plainRecord Rerun.Defaults.fields)]

/-- The configuration that a text denotes, whether or not the engine can run with it. -/
def read? (text : String) : Option Config := do
  let t ← Toml.Table.ofText? text
  Json.decode (Toml.Value.raw shape (.table .heading t))

def ofText (text : String) : Except Fault Config :=
  match read? text with
  | none => .error .configText
  | some c => do
    c.validate
    return c

/-- The configuration in a file, given by its bytes if there is one. -/
def ofFile (file : Option (List UInt8)) : Except Fault Config :=
  match file.bind Text.bytes? with
  | none => .error (.io "the file cannot be read as text")
  | some text => ofText text

end Remedy.Config
