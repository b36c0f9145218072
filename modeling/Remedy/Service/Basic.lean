import Remedy.Checks

/-!
# The remediation service

A service decides whether a proposed remediation is safe: its plan has to pass the checks before
execution and its target has to have budget left. All calls of a service share a board with the
limiter, the counters and the events. A dry run asks both gates and records nothing.
-/

namespace Remedy

open Json

/-- What a caller may switch off, and what it knows. -/
structure Options where
  skipPreValidation : Bool
  skipBlastRadius : Bool
  skipPostValidation : Bool
  /-- A human has approved the plan. -/
  approved : Bool
  analysis : Option Analysis

namespace Options

def standard : Options := ⟨false, false, false, false, none⟩

def approve (o : Options) : Options := { o with approved := true }

def withAnalysis (o : Options) (a : Analysis) : Options := { o with analysis := some a }

def withoutPreValidation (o : Options) : Options := { o with skipPreValidation := true }

def withoutBlastRadius (o : Options) : Options := { o with skipBlastRadius := true }

def withoutPostValidation (o : Options) : Options := { o with skipPostValidation := true }

def fields : List String :=
  ["skip_pre_validation", "skip_blast_radius", "skip_post_validation", "approved", "analysis"]

instance : Coded Options where
  encode o := .obj
    [("skip_pre_validation", encode o.skipPreValidation),
      ("skip_blast_radius", encode o.skipBlastRadius),
      ("skip_post_validation", encode o.skipPostValidation), ("approved", encode o.approved),
      ("analysis", encode o.analysis)]
  decode r := do
    let fs ← Fields.of? fields r
    some
      { skipPreValidation := ← fs.defaulting "skip_pre_validation" false
        skipBlastRadius := ← fs.defaulting "skip_blast_radius" false
        skipPostValidation := ← fs.defaulting "skip_post_validation" false
        approved := ← fs.defaulting "approved" false
        analysis := ← fs.defaulting "analysis" none }

end Options

/-- The verdict of a dry run. -/
structure PlanValidation where
  passed : Bool
  message : String
  details : Dict Validation

namespace PlanValidation

def fields : List String := ["passed", "message", "validation_details"]

instance : Coded PlanValidation where
  encode v := .obj
    [("passed", encode v.passed), ("message", encode v.message),
      ("validation_details", encode v.details)]
  decode r := do
    let fs ← Fields.of? fields r
    some
      { passed := ← fs.required "passed"
        message := ← fs.required "message"
        details := ← fs.required "validation_details" }

/-- A plan is admitted when every stage that was asked passes. -/
def ofDetails (action : ActionType) (details : Dict Validation) : PlanValidation :=
  let failed := (details.filter fun _ v => !v.passed).keys
  if failed.isEmpty then
    ⟨true, "plan for " ++ action.name ++ " would be admitted", details⟩
  else
    ⟨false, "plan for " ++ action.name ++ " would be rejected by: " ++ ", ".intercalate failed,
      details⟩

end PlanValidation

/-- An incident with the plan for it and the switches of the caller. -/
structure Ticket where
  incident : Incident
  plan : Plan
  options : Options

def Ticket.context (t : Ticket) (report : Option Report) : CheckContext :=
  { incident := t.incident, plan := t.plan, approved := t.options.approved,
    analysis := t.options.analysis, report }

/-- What the calls of a service share. -/
structure Board where
  limiter : Limiter
  counters : Counters
  /-- The events so far, oldest first. -/
  events : List Event

namespace Board

def new (config : BlastRadius) : Board := ⟨.new config, .zero, []⟩

def emit (b : Board) (e : Event) : Board := { b with events := b.events ++ [e] }

def emitAll (b : Board) (es : List Event) : Board := { b with events := b.events ++ es }

/-- Moving a counter is an event too. -/
def count (b : Board) (c : Counter) : Board :=
  { b with counters := b.counters.increment c }.emit (.counted c)

end Board

structure Service (Q : Type) (A : Q → Type) where
  registry : Registry Q A
  pre : CheckChain
  post : CheckChain

namespace Service

variable {Q : Type} {A : Q → Type}

/-- The standard chains, with the blacklist as the only rule. -/
def ofConfig (config : Config) (registry : Registry Q A) : Service Q A :=
  { registry
    pre := .preExecution registry [config.blacklist.rule] config.validation
    post := .postExecution config.validation }

/-- Ask the gates without executing or recording anything. -/
def validatePlan (s : Service Q A) (now : Time.Instant) (t : Ticket) (b : Board) :
    PlanValidation × Board :=
  let details : Dict Validation :=
    if t.options.skipPreValidation then Dict.empty
    else Dict.empty.insert Stage.preValidation (s.pre.validate (t.context none))
  if t.options.skipBlastRadius then (.ofDetails t.plan.actionType details, b)
  else
    let (v, limiter) := b.limiter.validate now (b.limiter.keyFor t.incident)
    (.ofDetails t.plan.actionType (details.insert Stage.blastRadius v), { b with limiter })

end Service

end Remedy
