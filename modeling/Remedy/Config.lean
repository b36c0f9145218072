import Remedy.Limiter
import Remedy.Rerun.Parameters
import Remedy.Rule

/-!
# Configuration

Four sections, each with defaults of its own. A configuration is accepted when the engine can run
with it.
-/

namespace Remedy

open Json

/-- Thresholds of the standard checks. -/
structure Thresholds where
  /-- Incidents below this confidence pass with a warning. -/
  minConfidence : Float
  /-- The highest risk that needs no human. -/
  maxAutoRisk : RiskLevel
  /-- The multiple of the estimated duration that is not worth a warning. -/
  durationTolerance : Float

namespace Thresholds

def standard : Thresholds := ⟨0.5, .medium, 2.0⟩

def fields : List String := ["min_confidence", "max_auto_risk", "duration_tolerance"]

instance : Coded Thresholds where
  encode t := .obj
    [("min_confidence", encode t.minConfidence), ("max_auto_risk", encode t.maxAutoRisk),
      ("duration_tolerance", encode t.durationTolerance)]
  decode r := do
    let fs ← Fields.of? fields r
    some
      { minConfidence := ← fs.defaulting "min_confidence" standard.minConfidence
        maxAutoRisk := ← fs.defaulting "max_auto_risk" standard.maxAutoRisk
        durationTolerance := ← fs.defaulting "duration_tolerance" standard.durationTolerance }

end Thresholds

structure Config where
  blastRadius : BlastRadius
  blacklist : Blacklist
  validation : Thresholds
  rerun : Rerun.Defaults

namespace Config

def standard : Config := ⟨.standard, .empty, .standard, .standard⟩

def fields : List String := ["blast_radius", "blacklist", "validation", "rerun"]

instance : Coded Config where
  encode c := .obj
    [("blast_radius", encode c.blastRadius), ("blacklist", encode c.blacklist),
      ("validation", encode c.validation), ("rerun", encode c.rerun)]
  decode r := do
    let fs ← Fields.of? fields r
    some
      { blastRadius := ← fs.defaulting "blast_radius" standard.blastRadius
        blacklist := ← fs.defaulting "blacklist" standard.blacklist
        validation := ← fs.defaulting "validation" standard.validation
        rerun := ← fs.defaulting "rerun" standard.rerun }

/-- The first setting that the engine cannot run with. -/
def problem? (c : Config) : Option String :=
  let window := c.blastRadius.windowSeconds.toNat
  let timeout := c.rerun.timeoutSeconds.toNat
  let confidence := c.validation.minConfidence
  if window = 0 then some "blast_radius.window_seconds must be greater than zero"
  else if maxWindowSeconds < window then
    some ("blast_radius.window_seconds must be at most " ++ toString maxWindowSeconds ++ ", got "
      ++ toString window)
  else if Rerun.maxTimeoutSeconds < timeout then
    some ("rerun.timeout_seconds must be at most " ++ toString Rerun.maxTimeoutSeconds ++ ", got "
      ++ toString timeout)
  else if !(0.0 ≤ confidence && confidence ≤ 1.0) then
    some ("validation.min_confidence must be within [0, 1], got " ++ Decimal.plain confidence)
  else if c.validation.durationTolerance ≤ 0.0 then
    some "validation.duration_tolerance must be positive"
  else none

def validate (c : Config) : Except Fault Unit :=
  match c.problem? with
  | some message => .error (.config message)
  | none => .ok ()

end Config

end Remedy
