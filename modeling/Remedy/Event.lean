import Remedy.Json.Codec

/-!
# Lifecycle events and counters

What an observer sees of remediations: one span for each call, an event for each step of its
lifecycle, and counters of how calls end. A counter also makes an event when it moves.
-/

namespace Remedy

open Json

inductive EventLevel where
  | trace
  | debug
  | info
  | warn
deriving DecidableEq

def EventLevel.name : EventLevel → String
  | .trace => "TRACE"
  | .debug => "DEBUG"
  | .info => "INFO"
  | .warn => "WARN"

inductive Counter where
  | started
  | succeeded
  | failed
  | rejected
  | rollbacks
deriving DecidableEq

def Counter.metric : Counter → String
  | .started => "remediations_started"
  | .succeeded => "remediations_succeeded"
  | .failed => "remediations_failed"
  | .rejected => "remediations_rejected"
  | .rollbacks => "rollbacks_attempted"

structure Counters where
  started : UInt64
  succeeded : UInt64
  failed : UInt64
  rejected : UInt64
  rollbacks : UInt64
deriving DecidableEq

inductive Event where
  | span (incident action : String)
  | started (incident action target : String)
  | rejected (incident stage reason : String)
  | finished (incident outcome : String) (milliseconds : UInt64) (success : Bool)
  | poll (run : String) (poll : UInt32) (status : String)
  | rollback (incident action : String) (performed : Bool)
  | counted (c : Counter)
  | flushed (c : Counters)
deriving DecidableEq

namespace Event

/-- Rejections and rollbacks that failed are warnings. -/
def level : Event → EventLevel
  | rejected .. => .warn
  | rollback _ _ performed => if performed then .info else .warn
  | poll .. => .debug
  | counted _ => .trace
  | _ => .info

def fields : Event → List (String × Json)
  | span incident action => [("incident_id", .str incident), ("action_type", .str action)]
  | started incident action target =>
    [("event", .str "remediation.started"), ("incident_id", .str incident),
      ("action_type", .str action), ("target_key", .str target)]
  | rejected incident stage reason =>
    [("event", .str "remediation.rejected"), ("incident_id", .str incident),
      ("stage", .str stage), ("reason", .str reason)]
  | finished incident outcome milliseconds success =>
    [("event", .str "remediation.finished"), ("incident_id", .str incident),
      ("outcome", .str outcome), ("duration_ms", encode milliseconds), ("success", .bool success)]
  | poll run n status =>
    [("event", .str "workflow.poll"), ("run", .str run), ("poll", encode n),
      ("status", .str status)]
  | rollback incident action performed =>
    [("event", .str "rollback.attempted"), ("incident_id", .str incident),
      ("action_type", .str action), ("performed", .bool performed)]
  | counted c => [("metric", .str c.metric), ("message", .str "counter incremented")]
  | flushed c =>
    [("metric", .str "flush"), (Counter.metric .started, encode c.started),
      (Counter.metric .succeeded, encode c.succeeded), (Counter.metric .failed, encode c.failed),
      (Counter.metric .rejected, encode c.rejected),
      (Counter.metric .rollbacks, encode c.rollbacks)]

def json (e : Event) : Json :=
  match e with
  | span .. => .obj [("span", .str "autoheal.remediation"), ("fields", .obj e.fields)]
  | _ => .obj [("level", .str e.level.name), ("fields", .obj e.fields)]

end Event

namespace Counters

def zero : Counters := ⟨0, 0, 0, 0, 0⟩

def increment (cs : Counters) : Counter → Counters
  | .started => { cs with started := cs.started + 1 }
  | .succeeded => { cs with succeeded := cs.succeeded + 1 }
  | .failed => { cs with failed := cs.failed + 1 }
  | .rejected => { cs with rejected := cs.rejected + 1 }
  | .rollbacks => { cs with rollbacks := cs.rollbacks + 1 }

def toList (cs : Counters) : List UInt64 :=
  [cs.started, cs.succeeded, cs.failed, cs.rejected, cs.rollbacks]

end Counters

end Remedy
