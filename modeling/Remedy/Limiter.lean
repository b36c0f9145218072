import Remedy.Report
import Remedy.Target

/-!
# The blast-radius limiter

Bounds how much automated remediation one target absorbs in a sliding window, and how many
executions may be in flight against it. A start is recorded in the same step that admits it. Every
operation takes the reading of the clock that its caller made. Attempts that have left the window
are dropped when their target is looked at, and targets without attempts or executions are forgotten
when a start is recorded.
-/

namespace Remedy

open Json

/-- The longest window that a configuration may ask for, thirty days. -/
def maxWindowSeconds : Nat := 30 * 24 * 60 * 60

structure BlastRadius where
  windowSeconds : UInt64
  maxAttemptsPerWindow : UInt32
  maxConcurrentPerTarget : UInt32
  keyPolicy : TargetKeyPolicy
deriving DecidableEq

namespace BlastRadius

def standard : BlastRadius := ⟨600, 10, 1, .standard⟩

def fields : List String :=
  ["window_seconds", "max_attempts_per_window", "max_concurrent_per_target", "key_policy"]

instance : Coded BlastRadius where
  encode b := .obj
    [("window_seconds", encode b.windowSeconds),
      ("max_attempts_per_window", encode b.maxAttemptsPerWindow),
      ("max_concurrent_per_target", encode b.maxConcurrentPerTarget),
      ("key_policy", encode b.keyPolicy)]
  decode r := do
    let fs ← Fields.of? fields r
    some
      { windowSeconds := ← fs.defaulting "window_seconds" standard.windowSeconds
        maxAttemptsPerWindow :=
          ← fs.defaulting "max_attempts_per_window" standard.maxAttemptsPerWindow
        maxConcurrentPerTarget :=
          ← fs.defaulting "max_concurrent_per_target" standard.maxConcurrentPerTarget
        keyPolicy := ← fs.defaulting "key_policy" standard.keyPolicy }

/-- Attempts up to this time have left the window. Without such a time the window holds them all but
those of the earliest instant. -/
def cutoff (b : BlastRadius) (now : Time.Instant) : Time.Instant :=
  let window := b.windowSeconds.toNat
  if window ≤ 9223372036854775 then
    (now.shift? (-(window * Time.nanosPerSecond : Nat))).getD .earliest
  else .earliest

end BlastRadius

/-- What counts against one target. Ends count from when the target was last idle. -/
structure TargetUsage where
  attemptsInWindow : UInt32
  inFlight : UInt32
  succeeded : UInt64
  failed : UInt64
deriving DecidableEq

namespace TargetUsage

def none : TargetUsage := ⟨0, 0, 0, 0⟩

def fields : List String := ["attempts_in_window", "in_flight", "succeeded", "failed"]

instance : Coded TargetUsage where
  encode u := .obj
    [("attempts_in_window", encode u.attemptsInWindow), ("in_flight", encode u.inFlight),
      ("succeeded", encode u.succeeded), ("failed", encode u.failed)]
  decode r := do
    let fs ← Fields.of? fields r
    some
      { attemptsInWindow := ← fs.required "attempts_in_window"
        inFlight := ← fs.required "in_flight"
        succeeded := ← fs.required "succeeded"
        failed := ← fs.required "failed" }

end TargetUsage

/-- The record of one target: the times of its starts, oldest first, and its ends. -/
structure Target where
  attempts : List Time.Instant
  inFlight : UInt32
  succeeded : UInt64
  failed : UInt64

namespace Target

def fresh : Target := ⟨[], 0, 0, 0⟩

/-- Drop the attempts in front that are not after the cutoff. -/
def prune (t : Target) (cutoff : Time.Instant) : Target :=
  { t with attempts := t.attempts.dropWhile fun time => decide (time ≤ cutoff) }

def isIdle (t : Target) : Bool := t.attempts.isEmpty && t.inFlight == 0

def usage (t : Target) : TargetUsage :=
  ⟨t.attempts.length.toUInt32, t.inFlight, t.succeeded, t.failed⟩

def start (t : Target) (now : Time.Instant) : Target :=
  { t with attempts := t.attempts ++ [now], inFlight := t.inFlight + 1 }

/-- Count an end; a target with nothing in flight stays at nothing. -/
def finish (t : Target) (success : Bool) : Target :=
  let inFlight := if t.inFlight = 0 then 0 else t.inFlight - 1
  if success then { t with inFlight, succeeded := t.succeeded + 1 }
  else { t with inFlight, failed := t.failed + 1 }

end Target

structure Limiter where
  config : BlastRadius
  targets : Dict Target

namespace Limiter

def new (config : BlastRadius) : Limiter := ⟨config, Dict.empty⟩

def keyFor (l : Limiter) (incident : Incident) : TargetKey := l.config.keyPolicy.keyFor incident

def tracked (l : Limiter) : Nat := l.targets.size

/-- Look at one target after dropping what has left the window. -/
def look (l : Limiter) (now : Time.Instant) (key : TargetKey) : TargetUsage × Limiter :=
  match l.targets.get? key.text with
  | some target =>
    let target := target.prune (l.config.cutoff now)
    (target.usage, { l with targets := l.targets.insert key.text target })
  | none => (.none, l)

def attemptsCheck (b : BlastRadius) (key : TargetKey) (attempts : UInt32) : Check :=
  let limit := toString b.maxAttemptsPerWindow.toNat
  let seen := toString attempts.toNat
  let against := " attempt(s) against " ++ key.text ++ " in the last "
    ++ toString b.windowSeconds.toNat ++ "s"
  if attempts < b.maxAttemptsPerWindow then
    .pass "attempts_in_window" (seen ++ " of " ++ limit ++ against)
  else .fail "attempts_in_window" (seen ++ against ++ "; limit is " ++ limit) .critical

def concurrencyCheck (b : BlastRadius) (key : TargetKey) (inFlight : UInt32) : Check :=
  let limit := toString b.maxConcurrentPerTarget.toNat
  let seen := toString inFlight.toNat
  if inFlight < b.maxConcurrentPerTarget then
    .pass "concurrent_executions"
      (seen ++ " of " ++ limit ++ " execution(s) in flight against " ++ key.text)
  else
    .fail "concurrent_executions"
      (seen ++ " execution(s) already in flight against " ++ key.text ++ "; limit is " ++ limit)
      .critical

/-- The verdict on a target with this usage. -/
def verdict (b : BlastRadius) (key : TargetKey) (usage : TargetUsage) : Validation :=
  .ofChecks Stage.blastRadius
    [attemptsCheck b key usage.attemptsInWindow, concurrencyCheck b key usage.inFlight]

/-- Check the budget of a target and record nothing. -/
def validate (l : Limiter) (now : Time.Instant) (key : TargetKey) : Validation × Limiter :=
  let (usage, l') := l.look now key
  (verdict l.config key usage, l')

def snapshot (l : Limiter) (now : Time.Instant) (key : TargetKey) : TargetUsage × Limiter :=
  l.look now key

/-- Forget the targets that are idle at this cutoff. -/
def evictIdle (targets : Dict Target) (cutoff : Time.Instant) : Dict Target :=
  (targets.map (·.prune cutoff)).filter fun _ t => !t.isIdle

/-- The record of a target after idle targets have been forgotten; a new one is tracked. -/
def enter (l : Limiter) (now : Time.Instant) (key : TargetKey) : Target × Limiter :=
  let targets := evictIdle l.targets (l.config.cutoff now)
  let target := (targets.get? key.text).getD .fresh
  (target, { l with targets := targets.insert key.text target })

/-- Record the end of an execution; a target that is not tracked has none. -/
def recordEnd (l : Limiter) (key : TargetKey) (success : Bool) : Limiter :=
  match l.targets.get? key.text with
  | some target => { l with targets := l.targets.insert key.text (target.finish success) }
  | none => l

/-- Stands for a start that has been recorded. Whoever holds it owes the matching end. -/
structure Permit where
  key : TargetKey
  finished : Bool
deriving DecidableEq

namespace Permit

def fresh (key : TargetKey) : Permit := ⟨key, false⟩

/-- Record the end of the execution, unless that has been done. -/
def release (p : Permit) (success : Bool) (l : Limiter) : Permit × Limiter :=
  if p.finished then (p, l) else ({ p with finished := true }, l.recordEnd p.key success)

/-- A permit that goes out of use; without an end so far, the execution counts as failed. -/
def drop (p : Permit) (l : Limiter) : Permit × Limiter := p.release false l

/-- Record how the execution ended. The permit goes out of use with that. -/
def finish (p : Permit) (success : Bool) (l : Limiter) : Permit × Limiter :=
  let (p, l) := p.release success l
  p.drop l

end Permit

inductive Admission where
  /-- The start has been recorded. -/
  | granted (validation : Validation) (permit : Permit)
  | denied (validation : Validation)

namespace Admission

def validation : Admission → Validation
  | granted v _ | denied v => v

def isGranted : Admission → Bool
  | granted .. => true
  | denied _ => false

end Admission

/-- Check the budget and, if it allows, record the start. -/
def tryAcquire (l : Limiter) (now : Time.Instant) (key : TargetKey) : Admission × Limiter :=
  let (target, l') := l.enter now key
  let v := verdict l.config key target.usage
  if v.passed then
    (.granted v (.fresh key), { l' with targets := l'.targets.insert key.text (target.start now) })
  else (.denied v, l')

/-- Record a start whatever the budget is. -/
def recordStart (l : Limiter) (now : Time.Instant) (key : TargetKey) : Limiter :=
  let (target, l') := l.enter now key
  { l' with targets := l'.targets.insert key.text (target.start now) }

end Limiter

end Remedy
