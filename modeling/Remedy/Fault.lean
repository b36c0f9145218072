import Remedy.Json.Complaint
import Remedy.Plan

/-!
# What can go wrong

Three layers of causes: a request to a provider, an operation on a workflow run that is made of
requests, and a remediation. Every cause has one text; a report adds the causes below it, a line for
each.
-/

namespace Remedy

open Json

inductive ApiErrorKind where
  | network
  | timeout
  | rateLimited
  | notFound
  | unauthorized
  | serviceUnavailable
  | gatewayTimeout
  | serverError
  | clientError
  | malformed
deriving DecidableEq

namespace ApiErrorKind

def name : ApiErrorKind → String
  | network => "network"
  | timeout => "timeout"
  | rateLimited => "rate_limited"
  | notFound => "not_found"
  | unauthorized => "unauthorized"
  | serviceUnavailable => "service_unavailable"
  | gatewayTimeout => "gateway_timeout"
  | serverError => "server_error"
  | clientError => "client_error"
  | malformed => "malformed"

def all : List ApiErrorKind :=
  [network, timeout, rateLimited, notFound, unauthorized, serviceUnavailable, gatewayTimeout,
    serverError, clientError, malformed]

/-- The same request may succeed later. -/
def isTransient : ApiErrorKind → Bool
  | network | timeout | rateLimited | serviceUnavailable | gatewayTimeout => true
  | _ => false

instance : Coded ApiErrorKind := codedByName all name

end ApiErrorKind

/-- A request to a provider that failed. -/
inductive ApiError where
  | network (message : String)
  | timeout (message : String)
  | http (status : UInt16) (message : String)
  | malformed (message : String)
deriving DecidableEq

namespace ApiError

def kindOfStatus (status : Nat) : ApiErrorKind :=
  if status = 401 ∨ status = 403 then .unauthorized
  else if status = 404 then .notFound
  else if status = 429 then .rateLimited
  else if status = 503 then .serviceUnavailable
  else if status = 504 then .gatewayTimeout
  else if 500 ≤ status ∧ status ≤ 599 then .serverError
  else .clientError

def kind : ApiError → ApiErrorKind
  | network _ => .network
  | timeout _ => .timeout
  | http status _ => kindOfStatus status.toNat
  | malformed _ => .malformed

def status? : ApiError → Option UInt16
  | http status _ => some status
  | _ => none

def text : ApiError → String
  | network m => "network error: " ++ m
  | timeout m => "request timed out: " ++ m
  | http status m => "HTTP " ++ toString status.toNat ++ ": " ++ m
  | malformed m => "malformed response: " ++ m

/-- The status and message of a refusal; of other errors the kind and text. -/
def json (e : ApiError) : Json :=
  match e with
  | http status m =>
    .obj [("error", .str "http"), ("status", natural status.toNat), ("message", .str m)]
  | e => .obj [("error", .str e.kind.name), ("message", .str e.text)]

end ApiError

/-- An operation on a workflow run that failed. Times are in milliseconds. -/
inductive RunError where
  | api (cause : ApiError)
  /-- The wait was given up; the run goes on. -/
  | timeout (elapsed limit : Nat)
deriving DecidableEq

namespace RunError

def text : RunError → String
  | api cause => "CI provider API error (" ++ cause.kind.name ++ "): " ++ cause.text
  | timeout elapsed limit =>
    "workflow run did not complete within " ++ toString (limit / 1000) ++ "s (elapsed "
      ++ toString (elapsed / 1000) ++ "s)"

def kind : RunError → String
  | api _ => "Adapter.Api"
  | timeout .. => "Adapter.Timeout"

/-- The text and what it is about. -/
def details (e : RunError) : List (String × Json) :=
  ("message", .str e.text) :: match e with
    | api cause => [("api", cause.json)]
    | timeout elapsed limit => [("elapsed_ms", natural elapsed), ("timeout_ms", natural limit)]

def json (e : RunError) : Json := .obj (("error", .str e.kind) :: e.details)

end RunError

inductive Fault where
  | validation (message : String)
  | missingParameters (names : List String)
  | noRemediator (action : ActionType)
  | unsupported (action : ActionType) (incident : Identifier)
  | run (cause : RunError)
  | rollback (message : String)
  | config (message : String)
  /-- The text of a configuration has no value of the right form. -/
  | configText
  | digestMismatch (expected actual : String)
  | serialization (complaint : Complaint)
  | io (message : String)
deriving DecidableEq

namespace Fault

def text : Fault → String
  | validation m => "parameter validation failed: " ++ m
  | missingParameters names => "missing required parameters: " ++ ", ".intercalate names
  | noRemediator action => "no remediator registered for action type " ++ action.name
  | unsupported action incident =>
    "remediator for " ++ action.name ++ " cannot handle incident " ++ incident.text
  | run cause => cause.text
  | rollback m => "rollback failed: " ++ m
  | config m => "invalid configuration: " ++ m
  | configText => "invalid configuration: the text cannot be read"
  | digestMismatch expected actual =>
    "digest mismatch: expected " ++ expected ++ ", got " ++ actual
  | serialization c => "serialization error: " ++ c.text
  | io m => "io error: " ++ m

/-- What kind of fault it is. -/
def kind : Fault → String
  | validation _ => "Validation"
  | missingParameters _ => "MissingParameters"
  | noRemediator _ => "NoRemediator"
  | unsupported .. => "Unsupported"
  | run cause => cause.kind
  | rollback _ => "Rollback"
  | config _ | configText => "Config"
  | digestMismatch .. => "DigestMismatch"
  | serialization _ => "Serialization"
  | io _ => "Io"

/-- The kind with the text and what else there is to know. A text that is made below this library
is left out. -/
def json (f : Fault) : Json :=
  let details := match f with
    | missingParameters names => [("message", .str f.text), ("missing", encode names)]
    | run cause => cause.details
    | configText | serialization _ | io _ => []
    | _ => [("message", .str f.text)]
  .obj (("error", .str f.kind) :: details)

/-- The texts of the causes below, nearest first. -/
def causes : Fault → List String
  | run (.api cause) => [cause.text]
  | serialization c => [c.text]
  | io m => [m]
  | _ => []

/-- The text of a fault and of each cause below it. -/
def chain (f : Fault) : String := "\ncaused by: ".intercalate (f.text :: f.causes)

end Fault

/-! ## Steps that can fail -/

section Steps

variable {ε α β : Type} {x : Except ε α} {f : α → Except ε β}

theorem bind_eq_ok_iff {b : β} : x >>= f = .ok b ↔ ∃ a, x = .ok a ∧ f a = .ok b := by
  cases x with
  | error e =>
    constructor
    · intro h
      cases h
    · rintro ⟨a, h, -⟩
      cases h
  | ok a =>
    constructor
    · intro h
      exact ⟨a, rfl, h⟩
    · rintro ⟨a', same, h⟩
      cases same
      exact h

theorem bind_eq_error_iff {e : ε} :
    x >>= f = .error e ↔ x = .error e ∨ ∃ a, x = .ok a ∧ f a = .error e := by
  cases x with
  | error e' =>
    constructor
    · intro h
      cases h
      exact .inl rfl
    · rintro (h | ⟨a, h, -⟩)
      · cases h
        rfl
      · cases h
  | ok a =>
    constructor
    · intro h
      exact .inr ⟨a, rfl, h⟩
    · rintro (h | ⟨a', same, h⟩)
      · cases h
      · cases same
        exact h

end Steps

end Remedy
