import Remedy.Fault
import Remedy.Program
import Remedy.Workflow.Run

/-!
# Providers

The requests that a provider of continuous integration answers, each with a reply of its own type or
an error. A provider is a program for every request; one that only asks is the provider itself.
-/

namespace Remedy.Workflow

inductive Call where
  | getRun
  | rerun
  | rerunFailedJobs
  | listJobs
  | cancelRun
  | jobLogs (job : UInt64)
deriving DecidableEq

/-- What the provider sends when a call succeeds. -/
def Call.Reply : Call → Type
  | getRun => Run
  | listJobs => List Job
  | jobLogs _ => List UInt8
  | rerun | rerunFailedJobs | cancelRun => Unit

structure Request where
  run : RunRef
  call : Call
deriving DecidableEq

abbrev Request.Answer (r : Request) : Type := Except ApiError r.call.Reply

/-- Programs that ask a provider. -/
abbrev Conversation (α : Type) : Type := Program Request Request.Answer α

/-- How requests are carried out by programs over other requests. -/
abbrev Provider (Q : Type) (A : Q → Type) : Type := (r : Request) → Program Q A r.Answer

namespace Provider

/-- Requests are put as they are. -/
def direct : Provider Request Request.Answer := Program.request

end Provider

end Remedy.Workflow
