import Remedy.Config

/-!
# Overrides

Named values from the environment that replace single settings or add to the blacklist. They are
read in a fixed order, and the first that cannot be read is reported. The result is validated.
-/

namespace Remedy.Config

namespace Variable

def window : String := "AUTOHEAL_BLAST_WINDOW_SECS"
def maxAttempts : String := "AUTOHEAL_BLAST_MAX_ATTEMPTS"
def maxConcurrent : String := "AUTOHEAL_BLAST_MAX_CONCURRENT"
def services : String := "AUTOHEAL_BLACKLIST_SERVICES"
def namespaces : String := "AUTOHEAL_BLACKLIST_NAMESPACES"
def repositories : String := "AUTOHEAL_BLACKLIST_REPOSITORIES"
def minConfidence : String := "AUTOHEAL_MIN_CONFIDENCE"
def maxAutoRisk : String := "AUTOHEAL_MAX_AUTO_RISK"

end Variable

/-- Read a trimmed text. -/
def parse {α : Type} (read? : String → Option α) (key raw : String) : Except Fault α :=
  match read? (Text.trim raw) with
  | some a => .ok a
  | none => .error (.config (key ++ ": cannot parse '" ++ raw ++ "'"))

def parseRisk (raw : String) : Except Fault RiskLevel :=
  let word := String.ofList ((Text.trim raw).toList.map Char.toLower)
  match RiskLevel.ofName? word with
  | some r => .ok r
  | none => .error (.config (Variable.maxAutoRisk ++ ": unknown risk level '" ++ word ++ "'"))

/-- The text between commas. -/
def splitCommas : List Char → List (List Char)
  | [] => [[]]
  | c :: cs =>
    if c = ',' then [] :: splitCommas cs
    else match splitCommas cs with
      | part :: parts => (c :: part) :: parts
      | [] => [[c]]

/-- The parts of a list that are not blank, trimmed. -/
def listed (raw : String) : List String :=
  (splitCommas raw.toList).filterMap fun part => Text.trimmed? (String.ofList part)

def addListed (names : NameSet) (raw : String) : NameSet := (listed raw).foldl NameSet.insert names

/-- Apply one override if there is a value for it. -/
def override (lookup : String → Option String) (key : String)
    (apply : Config → String → Except Fault Config) (c : Config) : Except Fault Config :=
  match lookup key with
  | some raw => apply c raw
  | none => .ok c

def word32? (s : String) : Option UInt32 :=
  (Decimal.natural? Decimal.maxWord32 s).map Nat.toUInt32

def word64? (s : String) : Option UInt64 :=
  (Decimal.natural? Decimal.maxWord64 s).map Nat.toUInt64

def withOverrides (c : Config) (lookup : String → Option String) : Except Fault Config := do
  let c ← override lookup Variable.window (fun c raw => do
    let windowSeconds ← parse word64? Variable.window raw
    return { c with blastRadius := { c.blastRadius with windowSeconds } }) c
  let c ← override lookup Variable.maxAttempts (fun c raw => do
    let maxAttemptsPerWindow ← parse word32? Variable.maxAttempts raw
    return { c with blastRadius := { c.blastRadius with maxAttemptsPerWindow } }) c
  let c ← override lookup Variable.maxConcurrent (fun c raw => do
    let maxConcurrentPerTarget ← parse word32? Variable.maxConcurrent raw
    return { c with blastRadius := { c.blastRadius with maxConcurrentPerTarget } }) c
  let c ← override lookup Variable.services (fun c raw =>
    .ok { c with blacklist := { c.blacklist with
      services := addListed c.blacklist.services raw } }) c
  let c ← override lookup Variable.namespaces (fun c raw =>
    .ok { c with blacklist := { c.blacklist with
      namespaces := addListed c.blacklist.namespaces raw } }) c
  let c ← override lookup Variable.repositories (fun c raw =>
    .ok { c with blacklist := { c.blacklist with
      repositories := addListed c.blacklist.repositories raw } }) c
  let c ← override lookup Variable.minConfidence (fun c raw => do
    let minConfidence ← parse Decimal.float? Variable.minConfidence raw
    return { c with validation := { c.validation with minConfidence } }) c
  let c ← override lookup Variable.maxAutoRisk (fun c raw => do
    let maxAutoRisk ← parseRisk raw
    return { c with validation := { c.validation with maxAutoRisk } }) c
  c.validate
  return c

/-- The defaults with overrides. -/
def ofEnvironment (lookup : String → Option String) : Except Fault Config :=
  standard.withOverrides lookup

end Remedy.Config
