import Remedy.Identifier
import Remedy.Text.Blank
import Remedy.Time.Rfc3339

/-!
# Incidents

A detected failure of a pipeline or a deployment, as it is handed over by detection and analysis.
Its context is free-form; the accessors look for a target under several usual names and take the
first text that is not blank.
-/

namespace Remedy

open Json

inductive IncidentSource where
  | github
  | gitlab
  | kubernetes
  | argocd
  | jenkins
  | manual
  | other
deriving DecidableEq

namespace IncidentSource

def name : IncidentSource → String
  | github => "github"
  | gitlab => "gitlab"
  | kubernetes => "kubernetes"
  | argocd => "argocd"
  | jenkins => "jenkins"
  | manual => "manual"
  | other => "other"

def all : List IncidentSource := [github, gitlab, kubernetes, argocd, jenkins, manual, other]

instance : Coded IncidentSource := codedByName all name

end IncidentSource

inductive Severity where
  | low
  | medium
  | high
  | critical
deriving DecidableEq

namespace Severity

def name : Severity → String
  | low => "low"
  | medium => "medium"
  | high => "high"
  | critical => "critical"

def all : List Severity := [low, medium, high, critical]

instance : Coded Severity := codedByName all name

end Severity

/-- Free-form values by name. -/
abbrev Context : Type := Dict Json

namespace Context

def empty : Context := Dict.empty

/-- Values are kept in canonical form. -/
def set (c : Context) (key : String) (value : Json) : Context := Dict.insert c key value.canonical

/-- The first text under any of the keys that is not blank, trimmed. -/
def text? (c : Context) (keys : List String) : Option String :=
  keys.findSome? fun k => (Dict.get? c k).bind fun v => v.text?.bind Text.trimmed?

end Context

structure Incident where
  id : Identifier
  source : IncidentSource
  severity : Severity
  failureType : String
  context : Context
  /-- The event of the provider that the incident was made from. -/
  payload : Option Json
  confidence : Float
  detectedAt : Time.Instant

namespace Incident

def serviceKeys : List String := ["service", "service_name", "app"]
def namespaceKeys : List String := ["namespace", "k8s_namespace"]
def repositoryKeys : List String := ["repository", "repo", "repository_name", "repo_name"]

def service? (i : Incident) : Option String := i.context.text? serviceKeys
def namespace? (i : Incident) : Option String := i.context.text? namespaceKeys
def repository? (i : Incident) : Option String := i.context.text? repositoryKeys

/-- A new incident is of medium severity and fully confident. -/
def new (id : Identifier) (detectedAt : Time.Instant) (source : IncidentSource)
    (failureType : String) : Incident :=
  { id, source, severity := .medium, failureType, context := .empty, payload := none,
    confidence := 1.0, detectedAt }

def withSeverity (i : Incident) (severity : Severity) : Incident := { i with severity }

def withConfidence (i : Incident) (confidence : Float) : Incident := { i with confidence }

def withContext (i : Incident) (key : String) (value : Json) : Incident :=
  { i with context := i.context.set key value }

def withPayload (i : Incident) (payload : Json) : Incident :=
  { i with payload := some payload.canonical }

def fields : List String :=
  ["id", "source", "severity", "failure_type", "context", "raw_payload", "confidence",
    "detected_at"]

instance : Coded Incident where
  encode i := .obj <|
    [("id", encode i.id), ("source", encode i.source), ("severity", encode i.severity),
      ("failure_type", encode i.failureType), ("context", encode i.context)]
    ++ present "raw_payload" i.payload
    ++ [("confidence", encode i.confidence), ("detected_at", encode i.detectedAt)]
  decode r := do
    let fs ← Fields.of? fields r
    some
      { id := ← fs.required "id"
        source := ← fs.required "source"
        severity := ← fs.required "severity"
        failureType := ← fs.required "failure_type"
        context := ← fs.defaulting "context" Context.empty
        payload := ← fs.defaulting "raw_payload" none
        confidence := ← fs.required "confidence"
        detectedAt := ← fs.required "detected_at" }

end Incident

/-- What the analysis before the engine found out; the engine only carries it. -/
structure Analysis where
  rootCause : Option String
  confidence : Float
  details : Json

namespace Analysis

def fields : List String := ["root_cause", "confidence", "details"]

instance : Coded Analysis where
  encode a := .obj
    [("root_cause", encode a.rootCause), ("confidence", encode a.confidence),
      ("details", encode a.details)]
  decode r := do
    let fs ← Fields.of? fields r
    some
      { rootCause := ← fs.optional "root_cause"
        confidence := ← fs.required "confidence"
        details := ← fs.defaulting "details" Json.null }

end Analysis

end Remedy
