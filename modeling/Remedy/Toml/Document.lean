import Remedy.Toml.Scalar

/-!
# TOML documents

A document is a list of lines, each a heading or a key with its value; values may go on over several
lines. Entries belong to the heading before them.
-/

namespace Remedy.Toml

/-- Values may be nested less than this deep, and keys may have fewer parts. -/
def maxDepth : Nat := 80

/-! ## Keys -/

def isBare (c : Char) : Bool := c.isAlphanum || c == '-' || c == '_'

/-- One part of a key, bare or in quotes. -/
def simpleKey (cs : List Char) : Option (String × List Char) :=
  match cs with
  | '"' :: rest => quotedKey '"' rest
  | '\'' :: rest => quotedKey '\'' rest
  | cs =>
    let name := cs.takeWhile isBare
    if name.isEmpty then none else some (String.ofList name, cs.dropWhile isBare)
where
  quotedKey (quote : Char) (rest : List Char) : Option (String × List Char) :=
    (oneLine quote (rest.length + 1) rest).map fun (text, rest) => (String.ofList text, rest)

/-- Parts with points between them and spaces around them, `left` of them at most. -/
def keyParts : Nat → Reader (List String)
  | 0, _ => none
  | left + 1, cs => do
    let (part, rest) ← simpleKey (skipSpace cs)
    match skipSpace rest with
    | '.' :: rest => (keyParts left rest).map fun (parts, rest) => (part :: parts, rest)
    | rest => some ([part], rest)

def key : Reader (List String) := keyParts (maxDepth - 1)

/-! ## Values -/

/-- Take off a comment, if there is one. -/
def skipComment : List Char → List Char
  | '#' :: rest => rest.dropWhile isPlain
  | cs => cs

/-- Take off spaces, line breaks, and comments that end with a line break. -/
def skipGaps : Nat → List Char → Option (List Char)
  | 0, _ => none
  | fuel + 1, cs =>
    match skipLines cs with
    | '#' :: rest => (lineBreak? (rest.dropWhile isPlain)).bind (skipGaps fuel)
    | rest => some rest

mutual

/-- A value, `depth` containers deep. -/
def value : Nat → Nat → Reader Value
  | 0, _, _ => none
  | fuel + 1, depth, cs =>
    match cs with
    | '[' :: rest =>
      if maxDepth ≤ depth + 1 then none
      else do
        let rest ← skipGaps fuel rest
        let (vs, rest) ← items fuel (depth + 1) rest
        some (.arr vs, rest)
    | '{' :: rest =>
      if maxDepth ≤ depth + 1 then none
      else do
        let (entries, rest) ← match skipSpace rest with
          | '}' :: rest => some ([], rest)
          | rest => members fuel (depth + 1) rest
        let t ← Table.assignAll entries []
        some (.table .braces t, rest)
    | 't' :: 'r' :: 'u' :: 'e' :: rest => some (.bool true, rest)
    | 'f' :: 'a' :: 'l' :: 's' :: 'e' :: rest => some (.bool false, rest)
    | c :: rest =>
      if c == '"' || c == '\'' then (string (c :: rest)).map fun (s, rest) => (.str s, rest)
      else if c == '+' || c == '-' || c.isDigit then numberOrDate (c :: rest)
      else special false (c :: rest)
    | [] => none

/-- Items up to the closing bracket; a comma may follow the last one. -/
def items : Nat → Nat → Reader (List Value)
  | 0, _, _ => none
  | fuel + 1, depth, cs =>
    match cs with
    | ']' :: rest => some ([], rest)
    | cs => do
      let (v, rest) ← value fuel depth cs
      let rest ← skipGaps fuel rest
      match rest with
      | ',' :: rest => do
        let rest ← skipGaps fuel rest
        let (vs, rest) ← items fuel depth rest
        some (v :: vs, rest)
      | ']' :: rest => some ([v], rest)
      | _ => none

/-- Entries up to the closing brace, on one line and without a comma after the last one. -/
def members : Nat → Nat → Reader (List (List String × Value))
  | 0, _, _ => none
  | fuel + 1, depth, cs => do
    let (k, rest) ← key cs
    let rest ← exactly '=' rest
    let (v, rest) ← value fuel depth (skipSpace rest)
    match skipSpace rest with
    | '}' :: rest => some ([(k, v)], rest)
    | ',' :: rest => (members fuel depth rest).map fun (es, rest) => ((k, v) :: es, rest)
    | _ => none

end

/-! ## Lines -/

inductive Line where
  /-- `[path]` -/
  | table (path : List String)
  /-- `[[path]]` -/
  | element (path : List String)
  | entry (key : List String) (v : Value)

/-- The end of a line, perhaps after a comment, or of the text. -/
def lineEnd? (cs : List Char) : Option (List Char) :=
  match skipComment (skipSpace cs) with
  | [] => some []
  | rest => lineBreak? rest

def lines : Nat → List Char → Option (List Line)
  | 0, _ => none
  | fuel + 1, cs =>
    match skipLines cs with
    | [] => some []
    | '#' :: rest => (lineEnd? ('#' :: rest)).bind (lines fuel)
    | '[' :: '[' :: rest => do
      let (path, rest) ← key rest
      let rest ← exactly ']' rest
      let rest ← exactly ']' rest
      let rest ← lineEnd? rest
      (lines fuel rest).map (.element path :: ·)
    | '[' :: rest => do
      let (path, rest) ← key rest
      let rest ← exactly ']' rest
      let rest ← lineEnd? rest
      (lines fuel rest).map (.table path :: ·)
    | cs => do
      let (k, rest) ← key cs
      let rest ← exactly '=' rest
      let rest := skipSpace rest
      let (v, rest) ← value (2 * rest.length + 2) 0 rest
      let rest ← lineEnd? rest
      (lines fuel rest).map (.entry k v :: ·)

/-- A heading with its entries, as a change to the whole document. -/
abbrev Section : Type := Table → Option Table

/-- The entries before the first heading, and the headings with theirs. -/
def sections : List Line → List (List String × Value) × List Section
  | [] => ([], [])
  | .entry k v :: rest =>
    let (entries, others) := sections rest
    ((k, v) :: entries, others)
  | .table path :: rest =>
    let (entries, others) := sections rest
    ([], Table.within (Table.openTable entries) path :: others)
  | .element path :: rest =>
    let (entries, others) := sections rest
    ([], Table.within (Table.openElement entries) path :: others)

/-- The table that a text denotes. A byte order mark in front is no part of it. -/
def Table.ofText? (text : String) : Option Table := do
  let cs := match text.toList with
    | '\uFEFF' :: rest => rest
    | cs => cs
  let (entries, others) := sections (← lines (cs.length + 1) cs)
  others.foldlM (fun t change => change t) (← Table.assignAll entries [])

end Remedy.Toml
