/-!
# TOML values

A table remembers where it comes from, because that decides who may add to it: a heading may
complete a table that only deeper headings have mentioned, a dotted key may add to tables made by
dotted keys, and a table written out in braces is closed. Entries keep the order in which they were
added.
-/

namespace Remedy.Toml

inductive Origin where
  | braces
  | heading
  /-- Only tables below it have been opened. -/
  | implied
  | dottedKey
deriving DecidableEq

inductive Value where
  | int (i : Int)
  | real (x : Float)
  | bool (b : Bool)
  | str (s : String)
  /-- A date, a time or both; nothing here looks into one. -/
  | date
  | arr (items : List Value)
  /-- The tables under headings in double brackets. -/
  | tables (elements : List Value)
  | table (origin : Origin) (entries : List (String × Value))

abbrev Table : Type := List (String × Value)

namespace Table

/-- Replace the value of a key that is there. -/
def replace (key : String) (v : Value) (t : Table) : Table :=
  t.map fun e => if e.1 = key then (key, v) else e

/-- Put a value under a dotted key. The last part is new, and the table it goes into is the one that
the key starts from or was made by a dotted key. -/
def assign (v : Value) : List String → Bool → Table → Option Table
  | [], _, _ => none
  | [key], mayEnd, t => if mayEnd && (t.lookup key).isNone then some (t ++ [(key, v)]) else none
  | key :: keys, _, t =>
    match t.lookup key with
    | none => (assign v keys true []).map fun c => t ++ [(key, .table .dottedKey c)]
    | some (.table .dottedKey c) =>
      (assign v keys true c).map fun c => t.replace key (.table .dottedKey c)
    | some (.table .implied c) =>
      (assign v keys false c).map fun c => t.replace key (.table .implied c)
    | some (.tables elements) =>
      match elements.getLast? with
      | some (.table o c) => (assign v keys false c).map fun c =>
        t.replace key (.tables (elements.dropLast ++ [.table o c]))
      | _ => none
    | some _ => none

/-- Put values under dotted keys, one after the other. -/
def assignAll (entries : List (List String × Value)) (t : Table) : Option Table :=
  entries.foldlM (fun t (keys, v) => assign v keys true t) t

/-- Change the table that holds the last part of the path of a heading; tables on the way that are
not there are implied. -/
def within (change : String → Table → Option Table) : List String → Table → Option Table
  | [], _ => none
  | [key], t => change key t
  | key :: keys, t =>
    match t.lookup key with
    | none => (within change keys []).map fun c => t ++ [(key, .table .implied c)]
    | some (.table .braces _) => none
    | some (.table o c) => (within change keys c).map fun c => t.replace key (.table o c)
    | some (.tables elements) =>
      match elements.getLast? with
      | some (.table o c) => (within change keys c).map fun c =>
        t.replace key (.tables (elements.dropLast ++ [.table o c]))
      | _ => none
    | some _ => none

/-- Open a table with its entries. It is new, or was implied and is completed. -/
def openTable (entries : List (List String × Value)) (key : String) (t : Table) : Option Table :=
  match t.lookup key with
  | none => (assignAll entries []).map fun c => t ++ [(key, .table .heading c)]
  | some (.table .implied c) =>
    (assignAll entries c).map fun c => t.replace key (.table .heading c)
  | some _ => none

/-- Add one more table to an array of tables. -/
def openElement (entries : List (List String × Value)) (key : String) (t : Table) : Option Table :=
  match t.lookup key with
  | none => (assignAll entries []).map fun c => t ++ [(key, .tables [.table .heading c])]
  | some (.tables elements) =>
    (assignAll entries []).map fun c => t.replace key (.tables (elements ++ [.table .heading c]))
  | some _ => none

end Table

end Remedy.Toml
