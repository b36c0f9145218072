import Remedy.Rerun.Remediator
import Remedy.Service.Basic

/-!
# A call of the service

A call goes through the gates, executes, gives its permit back, and then rolls back or validates the
result. It waits only while a program of its remediator runs, so it is made of three steps on the
board: up to the execution, from there to the rollback, and from there to the end. However a call
ends, a report comes out; what was logged and validated before the end is in it.
-/

namespace Remedy

open Json

namespace Stage

def execution : String := "execution"
def rollback : String := "rollback"
def orchestrator : String := "orchestrator"

end Stage

/-- A point in time: the milliseconds of the clock that measures durations, and the date. -/
structure Moment where
  ms : Nat
  date : Time.Instant

/-- What a call has gathered. It outlives an execution that breaks off. -/
structure Record where
  ticket : Ticket
  startedAt : Nat
  log : ExecutionLog
  details : Dict Validation
  preValidationPassed : Bool

namespace Record

def fresh (t : Ticket) (startedAt : Nat) : Record := ⟨t, startedAt, [], Dict.empty, true⟩

def add (r : Record) (m : Moment) (level : LogLevel) (stage message : String) : Record :=
  { r with log := r.log.add m.date level stage message }

/-- Keep the verdict of a stage and log it. -/
def verdict (r : Record) (m : Moment) (stage : String) (v : Validation) : Record :=
  { r.add m (if v.passed then .info else .error) stage v.message with
    details := r.details.insert stage v }

def incidentText (r : Record) : String := r.ticket.incident.id.text

def actionName (r : Record) : String := r.ticket.plan.actionType.name

end Record

/-- A call whose remediator executes. The permit is there when the limiter admitted it. -/
structure Execution (Q : Type) (A : Q → Type) where
  record : Record
  remediator : Remediator Q A
  permit : Option Limiter.Permit

/-- A call whose remediator rolls back. -/
structure Undo (Q : Type) (A : Q → Type) where
  record : Record
  report : Report
  rollback : Incident → Plan → Program Q A (Except Fault String)

/-- What follows a step: the end of the call, or a program of its remediator. -/
inductive Next (W : Type) where
  | ended (report : Report)
  | waiting (w : W)

variable {Q : Type} {A : Q → Type} {σ : Type}

def Execution.program (e : Execution Q A) : Program Q A Report :=
  e.remediator.execute e.record.ticket.incident e.record.ticket.plan

def Undo.program (u : Undo Q A) : Program Q A (Except Fault String) :=
  u.rollback u.record.ticket.incident u.record.ticket.plan

/-- The call ends with this step. -/
def ending {W : Type} (e : Report × Board) : Next W × Board := (.ended e.1, e.2)

namespace Record

/-! ## Endings -/

/-- The whole milliseconds of a duration in seconds. -/
def milliseconds (seconds : Float) : UInt64 := (seconds * 1000.0).toUInt64

/-- The counter of a call that was not refused; a refusal has been counted at its gate. -/
def endCounter? (r : Report) : Option Counter :=
  if r.outcome = .rejected then none else if r.success then some .succeeded else some .failed

/-- Complete a report with what the call has gathered, and announce it. -/
def finish (r : Record) (m : Moment) (report : Report) (b : Board) : Report × Board :=
  let report := { report with
    durationSeconds := Rerun.seconds (m.ms - r.startedAt)
    preValidationPassed := report.preValidationPassed && r.preValidationPassed
    validationDetails := report.validationDetails.union r.details
    executionLogs := r.log }
  let b := match endCounter? report with
    | some c => b.count c
    | none => b
  (report, b.emit (.finished r.incidentText report.outcome.name
    (milliseconds report.durationSeconds) report.success))

/-- A call that a gate refused. -/
def refuse (r : Record) (m : Moment) (stage title : String) (v : Validation) (b : Board) :
    Report × Board :=
  let reasons := "; ".intercalate v.blockingReasons
  r.finish m (.rejected (title ++ reasons))
    ((b.emit (.rejected r.incidentText stage reasons)).count .rejected)

/-- A call that could not be executed. -/
def fault (r : Record) (m : Moment) (f : Fault) (b : Board) : Report × Board :=
  (r.add m .error Stage.orchestrator f.text).finish m
    (.ofFault "Remediation could not be executed" f 0.0 false) b

/-- A call whose remediator broke off. -/
def aborted (r : Record) (m : Moment) (p : Panic) (b : Board) : Report × Board :=
  let error := "remediation panicked: " ++ p.message
  (r.add m .error Stage.orchestrator error).finish m
    ((Report.failure "Remediation aborted by an unexpected panic" error 0.0 false).withTraceback
      ("panic in remediation pipeline for incident " ++ r.incidentText ++ ": " ++ p.message)) b

/-- Note a skipped validation and end. -/
def close (r : Record) (m : Moment) (report : Report) (b : Board) : Report × Board :=
  let r :=
    if r.ticket.options.skipPostValidation then
      r.add m .warn Stage.postValidation "post-validation skipped by caller"
    else r
  r.finish m report b

/-! ## Up to the execution -/

/-- Start executing. The target is named whether or not its budget is charged. -/
def execute (r : Record) (m : Moment) (remediator : Remediator Q A)
    (permit : Option Limiter.Permit) (b : Board) : Next (Execution Q A) × Board :=
  let target := ((permit.map (·.key)).getD (b.limiter.keyFor r.ticket.incident)).text
  let b := (b.emit (.started r.incidentText r.actionName target)).count .started
  let r := r.add m .info Stage.execution ("executing " ++ r.actionName ++ " against " ++ target)
  (.waiting ⟨r, remediator, permit⟩, b)

/-- Ask for budget unless the caller skips it. -/
def blastRadiusGate (r : Record) (m : Moment) (remediator : Remediator Q A) (b : Board) :
    Next (Execution Q A) × Board :=
  if r.ticket.options.skipBlastRadius then
    (r.add m .warn Stage.blastRadius "blast-radius check skipped by caller").execute m remediator
      none b
  else
    let key := b.limiter.keyFor r.ticket.incident
    let (admission, limiter) := b.limiter.tryAcquire m.date key
    let b := { b with limiter }
    let r := r.verdict m Stage.blastRadius admission.validation
    match admission with
    | .denied v => ending (r.refuse m Stage.blastRadius "Blast radius limit exceeded: " v b)
    | .granted _ permit => r.execute m remediator (some permit) b

/-- Find the remediator, or end. -/
def resolve (r : Record) (s : Service Q A) (m : Moment) (b : Board) :
    Next (Execution Q A) × Board :=
  match s.registry.resolve r.ticket.incident r.ticket.plan with
  | .error f => ending (r.fault m f b)
  | .ok remediator => r.blastRadiusGate m remediator b

/-! ## After the execution -/

/-- Roll back through the remediator, if it can. -/
def attemptRollback (r : Record) (m : Moment) (remediator : Remediator Q A) (report : Report)
    (b : Board) : Next (Undo Q A) × Board :=
  match remediator.rollback with
  | none =>
    ending ((r.add m .info Stage.rollback ("rollback not applicable to " ++ r.actionName)).close m
      { report with rollbackPerformed := false } b)
  | some rollback => (.waiting ⟨r, report, rollback⟩, b)

/-- A result that did not pass the checks after execution. -/
def failedAfter (r : Record) (report : Report) (v : Validation) : Report :=
  { report with
    success := false
    outcome := .failed
    postValidationPassed := false
    message := "Post-validation failed after " ++ r.actionName
    errorMessage :=
      some ("Post-validation failed: " ++ "; ".intercalate v.blockingReasons) }

/-- Check a result, and roll it back when the plan asks for that. -/
def postValidate (r : Record) (s : Service Q A) (m : Moment) (remediator : Remediator Q A)
    (report : Report) (b : Board) : Next (Undo Q A) × Board :=
  let v := s.post.validate (r.ticket.context (some report))
  let r := r.verdict m Stage.postValidation v
  if v.passed then ending (r.close m report b)
  else
    let report := r.failedAfter report v
    if r.ticket.plan.requiresRollbackSnapshot then
      r.attemptRollback m remediator { report with rollbackRequired := true } b
    else ending (r.close m report b)

/-- Take over the log of the remediator and note how it ended. -/
def executed (r : Record) (m : Moment) (report : Report) : Record :=
  let r := { r with log := r.log.extend report.executionLogs }
  if report.success then r.add m .info Stage.execution report.message
  else r.add m .error Stage.execution
    (report.message ++ ": " ++ report.errorMessage.getD "no error detail")

end Record

/-- The result of a remediator as it is handed on: its log has been taken over, and how long it took
is kept aside. -/
def Report.handedOn (report : Report) : Report :=
  { report with
    executionLogs := []
    metadata := report.metadata.insert "remediator_duration_seconds"
      (ofFloat report.durationSeconds) }

/-- The permit is given back with the success of the execution. -/
def Board.finish (b : Board) (permit : Option Limiter.Permit) (success : Bool) : Board :=
  match permit with
  | some p => { b with limiter := (p.finish success b.limiter).2 }
  | none => b

/-- The permit is lost with the execution that held it. -/
def Board.drop (b : Board) (permit : Option Limiter.Permit) : Board :=
  match permit with
  | some p => { b with limiter := (p.drop b.limiter).2 }
  | none => b

/-! ## The three steps -/

/-- Run the checks before execution unless the caller skips them, and go on to the execution. -/
def Service.receive (s : Service Q A) (m : Moment) (t : Ticket) (b : Board) :
    Next (Execution Q A) × Board :=
  let r := Record.fresh t m.ms
  let b := b.emit (.span r.incidentText r.actionName)
  if t.options.skipPreValidation then
    (r.add m .warn Stage.preValidation "pre-validation skipped by caller").resolve s m b
  else
    let v := s.pre.validate (t.context none)
    let r := r.verdict m Stage.preValidation v
    if v.passed then r.resolve s m b
    else
      ending ({ r with preValidationPassed := false }.refuse m Stage.preValidation
        "Pre-validation failed: " v b)

/-- Give the permit back and settle the result. An execution that broke off counts as a failure. -/
def Execution.settle (e : Execution Q A) (s : Service Q A) (m : Moment)
    (outcome : Except Panic Report) (b : Board) : Next (Undo Q A) × Board :=
  match outcome with
  | .error p => ending (e.record.aborted m p (b.drop e.permit))
  | .ok report =>
    let b := b.finish e.permit report.success
    let r := e.record.executed m report
    let report := report.handedOn
    if !report.success && report.rollbackRequired then r.attemptRollback m e.remediator report b
    else if report.success && !r.ticket.options.skipPostValidation then
      r.postValidate s m e.remediator report b
    else ending (r.close m report b)

/-- Note what came of a rollback. One that failed changes no outcome. -/
def Undo.settle (u : Undo Q A) (m : Moment) (outcome : Except Panic (Except Fault String))
    (b : Board) : Report × Board :=
  let r := u.record
  match outcome with
  | .error p => r.aborted m p b
  | .ok (.ok description) =>
    let b := (b.count .rollbacks).emit (.rollback r.incidentText r.actionName true)
    (r.add m .info Stage.rollback ("rollback performed: " ++ description)).close m
      { u.report with
        rollbackPerformed := true
        outcome := .rolledBack
        actionsPerformed := u.report.actionsPerformed ++ ["rollback: " ++ description] } b
  | .ok (.error f) =>
    let b := b.emit (.rollback r.incidentText r.actionName false)
    (r.add m .error Stage.rollback ("rollback failed: " ++ f.text)).close m
      { u.report with
        rollbackPerformed := false
        metadata := u.report.metadata.insert "rollback_error" (.str f.text) } b

/-! ## A call alone -/

/-- A program of a remediator that a call ran, and how it ended. -/
inductive Ran (Q : Type) (A : Q → Type) where
  | execution (remediator : Remediator Q A) (outcome : Except Panic Report)
  | rollback (outcome : Except Panic (Except Fault String))

/-- What is left when a call is over. -/
structure CallEnd (Q : Type) (A : Q → Type) (σ : Type) where
  report : Report
  time : Nat
  board : Board
  world : σ
  /-- The programs of remediators that were run, in order. -/
  ran : List (Ran Q A)

/-- Run a call from its rollback to its end. -/
def Undo.conclude (u : Undo Q A) (w : Program.World Q A σ) (date : Nat → Time.Instant) (now : Nat)
    (b : Board) (world : σ) : CallEnd Q A σ :=
  let undone := Program.run w now u.program world
  let (report, b) :=
    u.settle ⟨undone.time, date undone.time⟩ undone.outcome (b.emitAll undone.events)
  ⟨report, undone.time, b, undone.world, [.rollback undone.outcome]⟩

/-- Run a call from its execution to its end. -/
def Execution.conclude (e : Execution Q A) (s : Service Q A) (w : Program.World Q A σ)
    (date : Nat → Time.Instant) (now : Nat) (b : Board) (world : σ) : CallEnd Q A σ :=
  let done := Program.run w now e.program world
  let ran := .execution e.remediator done.outcome
  match e.settle s ⟨done.time, date done.time⟩ done.outcome (b.emitAll done.events) with
  | (.ended report, b) => ⟨report, done.time, b, done.world, [ran]⟩
  | (.waiting u, b) =>
    let d := u.conclude w date done.time b done.world
    { d with ran := ran :: d.ran }

/-- Run one call from its begin to its end with nothing beside it. -/
def Service.execute (s : Service Q A) (w : Program.World Q A σ) (date : Nat → Time.Instant)
    (now : Nat) (t : Ticket) (b : Board) (world : σ) : CallEnd Q A σ :=
  match s.receive ⟨now, date now⟩ t b with
  | (.ended report, b) => ⟨report, now, b, world, []⟩
  | (.waiting e, b) => e.conclude s w date now b world

end Remedy
