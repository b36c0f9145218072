import Remedy.Proofs.Service.Schedules
import Remedy.Proofs.Service.Trail

/-!
# What the legs of a call come to

A report goes with the legs of its call. Its trail tells the log and the verdicts; this tells the
rest but for the time that the call took: what the gates made of the call, what became of the
execution and of the checks after it, and what came of the rollback.
-/

namespace Remedy

variable {Q : Type} {A : Q → Type} {σ : Type}

/-- Why a verdict is a refusal. -/
def Validation.reasons (v : Validation) : String := "; ".intercalate v.blockingReasons

/-- The same report, but for what every call puts into it when it ends. -/
def Report.Resembles (report expected : Report) : Prop :=
  report = { expected with
    durationSeconds := report.durationSeconds
    executionLogs := report.executionLogs
    validationDetails := report.validationDetails }

/-! ## What is reported -/

/-- A call whose remediator broke off. -/
def Ticket.broken (t : Ticket) (p : Panic) : Report :=
  (Report.failure "Remediation aborted by an unexpected panic"
    ("remediation panicked: " ++ p.message) 0.0 false).withTraceback
    ("panic in remediation pipeline for incident " ++ t.incident.id.text ++ ": " ++ p.message)

namespace Service

variable (s : Service Q A) (t : Ticket)

/-- A call that is stopped before it executes. -/
def refusal (m : Moment) (l : Limiter) : Report :=
  if s.clears t then
    match s.registry.resolve t.incident t.plan with
    | .error f => .ofFault "Remediation could not be executed" f 0.0 false
    | .ok _ => .rejected ("Blast radius limit exceeded: " ++
        (l.validate m.date (l.keyFor t.incident)).1.reasons)
  else
    { Report.rejected ("Pre-validation failed: " ++ (s.pre.validate (t.context none)).reasons) with
      preValidationPassed := false }

/-- A result when the checks after the execution have spoken. -/
def judged (returned : Report) : Report :=
  match s.reviewed? t returned with
  | none => returned.handedOn
  | some v =>
    if v.passed then returned.handedOn
    else { returned.handedOn with
      success := false
      outcome := .failed
      message := "Post-validation failed after " ++ t.plan.actionType.name
      errorMessage := some ("Post-validation failed: " ++ v.reasons)
      postValidationPassed := false
      rollbackRequired := t.plan.requiresRollbackSnapshot || returned.rollbackRequired }

section Judged

variable {s t} {returned : Report} {v : Validation}

theorem judged_of_unreviewed (none : s.reviewed? t returned = none) :
    s.judged t returned = returned.handedOn := by
  rw [judged, none]

theorem judged_of_passed (reviewed : s.reviewed? t returned = some v) (passed : v.passed = true) :
    s.judged t returned = returned.handedOn := by
  rw [judged, reviewed]
  exact if_pos passed

theorem judged_of_failed (reviewed : s.reviewed? t returned = some v) (failed : v.passed = false) :
    s.judged t returned = { returned.handedOn with
      success := false
      outcome := .failed
      message := "Post-validation failed after " ++ t.plan.actionType.name
      errorMessage := some ("Post-validation failed: " ++ v.reasons)
      postValidationPassed := false
      rollbackRequired := t.plan.requiresRollbackSnapshot || returned.rollbackRequired } := by
  rw [judged, reviewed]
  exact if_neg (Bool.eq_false_iff.1 failed)

end Judged

/-- A call goes on to a rollback. -/
def rollsBack : Except Panic Report → Bool
  | .ok returned => s.undoes t returned && s.reversible t
  | .error _ => false

/-- A call that ends with its execution. A rollback that is due and that the remediator cannot do
has not been performed. -/
def reported : Except Panic Report → Report
  | .ok returned =>
    if s.undoes t returned then { s.judged t returned with rollbackPerformed := false }
    else s.judged t returned
  | .error p => t.broken p

/-- A call that ends with its rollback. -/
def unwound (returned : Report) : Except Panic (Except Fault String) → Report
  | .ok (.ok description) =>
    { s.judged t returned with
      rollbackPerformed := true
      outcome := .rolledBack
      actionsPerformed := (s.judged t returned).actionsPerformed ++ ["rollback: " ++ description] }
  | .ok (.error f) =>
    { s.judged t returned with
      rollbackPerformed := false
      metadata := (s.judged t returned).metadata.insert "rollback_error" (.str f.text) }
  | .error p => t.broken p

end Service

/-! ## The steps -/

/-- What a call takes into its execution. -/
structure Execution.Ready (e : Execution Q A) (s : Service Q A) (t : Ticket) (l : Limiter) :
    Prop where
  ticket : e.record.ticket = t
  cleared : e.record.preValidationPassed = true
  found : s.registry.resolve t.incident t.plan = .ok e.remediator
  permit : e.permit =
    if t.options.skipBlastRadius then none else some (.fresh (l.keyFor t.incident))

/-- What a call takes into its rollback. -/
structure Undo.Due (u : Undo Q A) (s : Service Q A) (t : Ticket) (returned : Report) : Prop where
  ticket : u.record.ticket = t
  cleared : u.record.preValidationPassed = true
  offered : ∃ remediator, s.registry.resolve t.incident t.plan = .ok remediator ∧
    remediator.rollback = some u.rollback
  due : s.undoes t returned = true
  report : u.report = s.judged t returned

theorem Undo.Due.rollsBack {u : Undo Q A} {s : Service Q A} {t : Ticket} {returned : Report}
    (h : u.Due s t returned) : s.rollsBack t (.ok returned) = true := by
  obtain ⟨remediator, found, offered⟩ := h.offered
  simp [Service.rollsBack, Service.reversible, h.due, found, offered]

namespace Record

variable {s : Service Q A} {r : Record} {m : Moment} {b : Board} {report : Report}

theorem finish_resembles (cleared : r.preValidationPassed = true) :
    (r.finish m report b).1.Resembles report := by
  simp [Report.Resembles, finish, cleared]

theorem close_resembles (cleared : r.preValidationPassed = true) :
    (r.close m report b).1.Resembles report := by
  rw [close]
  split
  · exact finish_resembles cleared
  · exact finish_resembles cleared

@[simp] theorem executed_preValidationPassed (returned : Report) :
    (r.executed m returned).preValidationPassed = r.preValidationPassed := by
  simp only [executed]
  split <;> rfl

/-! ### Up to the execution -/

theorem blastRadiusGate_results (cleared : r.preValidationPassed = true)
    (remediator : Remediator Q A) :
    (r.blastRadiusGate m remediator b).1.Leaves
      (Report.Resembles · (.rejected ("Blast radius limit exceeded: " ++
        (b.limiter.validate m.date (b.limiter.keyFor r.ticket.incident)).1.reasons)))
      (·.record.preValidationPassed = true) := by
  have eq := b.limiter.tryAcquire_eq m.date (b.limiter.keyFor r.ticket.incident)
  rw [blastRadiusGate]
  split
  · exact cleared
  · simp only [eq]
    cases (b.limiter.validate m.date (b.limiter.keyFor r.ticket.incident)).1.passed with
    | true => exact cleared
    | false => exact finish_resembles cleared

theorem resolve_results (cleared : r.preValidationPassed = true) :
    (r.resolve s m b).1.Leaves
      (Report.Resembles ·
        (match s.registry.resolve r.ticket.incident r.ticket.plan with
        | .error f => .ofFault "Remediation could not be executed" f 0.0 false
        | .ok _ => .rejected ("Blast radius limit exceeded: " ++
            (b.limiter.validate m.date (b.limiter.keyFor r.ticket.incident)).1.reasons)))
      (·.record.preValidationPassed = true) := by
  rw [resolve]
  cases s.registry.resolve r.ticket.incident r.ticket.plan with
  | error f => exact finish_resembles cleared
  | ok remediator => exact blastRadiusGate_results cleared remediator

end Record

theorem Service.receive_results (s : Service Q A) (m : Moment) (t : Ticket) (b : Board) :
    (s.receive m t b).1.Leaves (Report.Resembles · (s.refusal t m b.limiter))
      (·.record.preValidationPassed = true) := by
  simp only [receive, refusal, clears]
  by_cases skipped : t.options.skipPreValidation = true
  · simp only [skipped, if_true, Bool.true_or]
    exact Record.resolve_results rfl
  · simp only [skipped, Bool.false_or, Bool.false_eq_true, if_false]
    by_cases passed : (s.pre.validate (t.context none)).passed = true
    · simp only [passed, if_true]
      exact Record.resolve_results rfl
    · simp only [passed, Bool.false_eq_true, if_false]
      exact rfl

/-- A call that is not stopped is ready to execute. -/
theorem Service.receive_ready {s : Service Q A} {m : Moment} {t : Ticket} {b b' : Board}
    {e : Execution Q A} (next : s.receive m t b = (.waiting e, b')) : e.Ready s t b.limiter := by
  have results := s.receive_results m t b
  have received := s.receive_received m t b
  rw [next] at results received
  cases received with
  | unmetered _ found ticket skipped permit =>
    refine ⟨ticket, results, found, ?_⟩
    rw [if_pos skipped]
    exact permit
  | granted _ found ticket asked _ permit =>
    refine ⟨ticket, results, found, ?_⟩
    rw [if_neg (by simp [asked])]
    exact permit

/-! ### After the execution -/

namespace Record

variable {s : Service Q A} {t : Ticket} {r : Record} {m : Moment} {b : Board}
  {remediator : Remediator Q A} {returned report : Report}

theorem attemptRollback_results (ticket : r.ticket = t) (cleared : r.preValidationPassed = true)
    (found : s.registry.resolve t.incident t.plan = .ok remediator)
    (due : s.undoes t returned = true) (same : report = s.judged t returned) :
    (r.attemptRollback m remediator report b).1.Leaves
      (fun report => s.rollsBack t (.ok returned) = false ∧
        report.Resembles (s.reported t (.ok returned)))
      (Undo.Due · s t returned) := by
  rw [attemptRollback]
  cases offered : remediator.rollback with
  | none =>
    refine ⟨by simp [Service.rollsBack, Service.reversible, found, offered], ?_⟩
    simp only [Service.reported, due, if_true, ← same]
    exact close_resembles cleared
  | some rollback => exact ⟨ticket, cleared, ⟨remediator, found, offered⟩, due, same⟩

theorem postValidate_results (ticket : r.ticket = t) (cleared : r.preValidationPassed = true)
    (found : s.registry.resolve t.incident t.plan = .ok remediator)
    (success : returned.success = true) (asked : t.options.skipPostValidation = false) :
    (r.postValidate s m remediator returned.handedOn b).1.Leaves
      (fun report => s.rollsBack t (.ok returned) = false ∧
        report.Resembles (s.reported t (.ok returned)))
      (Undo.Due · s t returned) := by
  have reviewed : s.reviewed? t returned =
      some (s.post.validate (t.context (some returned.handedOn))) := by
    simp [Service.reviewed?, success, asked]
  simp only [postValidate, ticket]
  generalize s.post.validate (t.context (some returned.handedOn)) = v at reviewed
  have undoes : s.undoes t returned = (!v.passed && t.plan.requiresRollbackSnapshot) := by
    simp [Service.undoes, success, reviewed]
  have kept {report : Report} (none : s.undoes t returned = false)
      (same : report = s.judged t returned) : s.rollsBack t (.ok returned) = false ∧
        ((r.verdict m Stage.postValidation v).close m report b).1.Resembles
          (s.reported t (.ok returned)) := by
    refine ⟨by simp [Service.rollsBack, none], ?_⟩
    simp only [Service.reported, none, Bool.false_eq_true, if_false, ← same]
    exact close_resembles cleared
  cases passed : v.passed with
  | true =>
    rw [if_pos rfl]
    refine kept (by simp [undoes, passed]) ?_
    rw [Service.judged_of_passed reviewed passed]
  | false =>
    have failed := Service.judged_of_failed reviewed passed
    subst ticket
    rw [if_neg Bool.false_ne_true]
    have same : (r.verdict m Stage.postValidation v).ticket.plan.requiresRollbackSnapshot =
        r.ticket.plan.requiresRollbackSnapshot := rfl
    rw [same]
    cases snapshot : r.ticket.plan.requiresRollbackSnapshot with
    | true =>
      rw [if_pos rfl]
      refine attemptRollback_results rfl cleared found (by simp [undoes, passed, snapshot]) ?_
      rw [failed, snapshot]
      rfl
    | false =>
      rw [if_neg Bool.false_ne_true]
      refine kept (by simp [undoes, passed, snapshot]) ?_
      rw [failed, snapshot]
      rfl

end Record

section Settle

variable {s : Service Q A} {t : Ticket} {l : Limiter} {returned : Report}

theorem aborted_resembles {r : Record} (ticket : r.ticket = t)
    (cleared : r.preValidationPassed = true) (m : Moment) (p : Panic) (b : Board) :
    (r.aborted m p b).1.Resembles (t.broken p) := by
  subst ticket
  exact Record.finish_resembles cleared

/-- An execution that has returned ends its call, or goes on to the rollback that is due. -/
theorem Execution.Ready.settle {e : Execution Q A} (h : e.Ready s t l) (m : Moment)
    (returned : Report) (b : Board) :
    (e.settle s m (.ok returned) b).1.Leaves
      (fun report => s.rollsBack t (.ok returned) = false ∧
        report.Resembles (s.reported t (.ok returned)))
      (Undo.Due · s t returned) := by
  have ticket := (e.record.executed_ticket m returned).trans h.ticket
  have cleared : (e.record.executed m returned).preValidationPassed = true :=
    (Record.executed_preValidationPassed returned).trans h.cleared
  have kept (whole : s.undoes t returned = false) (unreviewed : s.reviewed? t returned = none)
      (b : Board) : s.rollsBack t (.ok returned) = false ∧
        ((e.record.executed m returned).close m returned.handedOn b).1.Resembles
          (s.reported t (.ok returned)) := by
    refine ⟨by simp [Service.rollsBack, whole], ?_⟩
    simp only [Service.reported, whole, Bool.false_eq_true, if_false]
    rw [Service.judged_of_unreviewed unreviewed]
    exact Record.close_resembles cleared
  simp only [Execution.settle, Report.handedOn_success, ticket]
  cases success : returned.success with
  | false =>
    have unreviewed : s.reviewed? t returned = none := by simp [Service.reviewed?, success]
    have undoes : s.undoes t returned = returned.handedOn.rollbackRequired := by
      simp [Service.undoes, success, Report.handedOn]
    simp only [Bool.not_false, Bool.true_and, Bool.false_and]
    cases required : returned.handedOn.rollbackRequired with
    | true =>
      rw [if_pos rfl]
      exact Record.attemptRollback_results ticket cleared h.found (undoes.trans required)
        (Service.judged_of_unreviewed unreviewed).symm
    | false =>
      rw [if_neg Bool.false_ne_true, if_neg Bool.false_ne_true]
      exact kept (undoes.trans required) unreviewed _
  | true =>
    simp only [Bool.not_true, Bool.false_and, Bool.true_and, if_neg Bool.false_ne_true]
    cases asked : t.options.skipPostValidation with
    | false =>
      rw [Bool.not_false, if_pos rfl]
      exact Record.postValidate_results ticket cleared h.found success asked
    | true =>
      have unreviewed : s.reviewed? t returned = none := by simp [Service.reviewed?, asked]
      rw [Bool.not_true, if_neg Bool.false_ne_true]
      exact kept (by simp [Service.undoes, success, unreviewed]) unreviewed _

theorem Undo.Due.settle {u : Undo Q A} (h : u.Due s t returned) (m : Moment)
    (undone : Except Panic (Except Fault String)) (b : Board) :
    (u.settle m undone b).1.Resembles (s.unwound t returned undone) := by
  rcases undone with p | f | description
  · exact aborted_resembles h.ticket h.cleared m p b
  · simp only [Service.unwound, ← h.report]
    exact Record.close_resembles h.cleared
  · simp only [Service.unwound, ← h.report]
    exact Record.close_resembles h.cleared

end Settle

/-! ## Ways through a call -/

/-- The ways that a call can go, up to where it stands. -/
inductive Service.Goes (s : Service Q A) (t : Ticket) : Option (Phase Q A) → List Leg → Prop where
  | stopped {m : Moment} {l : Limiter} {report : Report} (barred : ¬ s.Executes t l m.date)
      (comes : report.Resembles (s.refusal t m l)) :
      Goes s t (some (.ended report)) [.gates m l]
  | executing {m : Moment} {l : Limiter} {e : Execution Q A} {rest : Program Q A Report}
      (opens : s.Executes t l m.date) (ready : e.Ready s t l) :
      Goes s t (some (.executing e rest)) [.gates m l]
  | closed {m m' : Moment} {l : Limiter} {outcome : Except Panic Report} {report : Report}
      (opens : s.Executes t l m.date) (kept : s.rollsBack t outcome = false)
      (comes : report.Resembles (s.reported t outcome)) :
      Goes s t (some (.ended report)) [.gates m l, .execution m' outcome]
  | rollingBack {m m' : Moment} {l : Limiter} {returned : Report} {u : Undo Q A}
      {rest : Program Q A (Except Fault String)} (opens : s.Executes t l m.date)
      (due : u.Due s t returned) :
      Goes s t (some (.rollingBack u rest)) [.gates m l, .execution m' (.ok returned)]
  | undone {m m' m'' : Moment} {l : Limiter} {returned report : Report}
      {undone : Except Panic (Except Fault String)} (opens : s.Executes t l m.date)
      (due : s.rollsBack t (.ok returned) = true)
      (comes : report.Resembles (s.unwound t returned undone)) :
      Goes s t (some (.ended report))
        [.gates m l, .execution m' (.ok returned), .rollback m'' undone]
  | left {phase : Phase Q A} {legs : List Leg} (goes : Goes s t (some phase) legs) :
      Goes s t none legs

namespace Service

variable {s : Service Q A} {t : Ticket}

theorem Goes.due {u : Undo Q A} {rest : Program Q A (Except Fault String)} {legs : List Leg}
    (goes : s.Goes t (some (.rollingBack u rest)) legs) : ∃ returned, u.Due s t returned := by
  cases goes with
  | rollingBack opens due => exact ⟨_, due⟩

theorem goes_receive (s : Service Q A) (m : Moment) (t : Ticket) (b : Board) :
    s.Goes t (some (.ofExecution (s.receive m t b).1)) [.gates m b.limiter] := by
  have results := s.receive_results m t b
  have received := s.receive_received m t b
  cases next : s.receive m t b with
  | mk step b' =>
    rw [next] at results received
    cases step with
    | ended report => exact .stopped (not_executes_of_ended received) results
    | waiting e => exact .executing (executes_of_waiting received) (receive_ready next)

theorem goes_settle {m : Moment} {l : Limiter} {e : Execution Q A} (opens : s.Executes t l m.date)
    (ready : e.Ready s t l) (m' : Moment) (outcome : Except Panic Report) (b : Board) :
    s.Goes t (some (.ofUndo (e.settle s m' outcome b).1)) [.gates m l, .execution m' outcome] := by
  cases outcome with
  | error p => exact .closed opens rfl (aborted_resembles ready.ticket ready.cleared m' p _)
  | ok returned =>
    have settled := ready.settle m' returned b
    cases next : e.settle s m' (.ok returned) b with
    | mk step b' =>
      rw [next] at settled
      cases step with
      | ended report => exact .closed opens settled.1 settled.2
      | waiting u => exact .rollingBack opens settled

/-- Every step of a call keeps to one of the ways. -/
theorem stable_goes (s : Service Q A) (w : Program.World Q A σ) :
    Pool.Stable (Pool.legs w) s w s.Goes where
  begins m t b := s.goes_receive m t b
  goes t phase legs m b world goes := by
    cases goes with
    | executing opens ready =>
      simp only [Phase.turned, Pool.legs]
      cases Program.turn w m.ms _ world with
      | mk turn rest =>
        cases turn with
        | ended outcome => exact goes_settle opens ready m outcome _
        | on rest => exact .executing opens ready
    | rollingBack opens due =>
      simp only [Phase.turned, Pool.legs]
      cases Program.turn w m.ms _ world with
      | mk turn rest =>
        cases turn with
        | ended undone => exact .undone opens due.rollsBack (due.settle m undone _)
        | on rest => exact .rollingBack opens due
    | stopped barred comes => exact .stopped barred comes
    | closed opens kept comes => exact .closed opens kept comes
    | undone opens due comes => exact .undone opens due comes
  left _ _ _ goes := .left goes

end Service

/-! ## What programs end with -/

/-- However the world stands and the clocks read, a program ends with such an outcome. -/
def Program.Ends {α : Type} (w : Program.World Q A σ) (such : Except Panic α → Prop) :
    Program Q A α → Prop
  | .done a => such (.ok a)
  | .abort p => such (.error p)
  | .ask q next => ∀ world, (next (w q world).1).Ends w such
  | .clock next => ∀ now, (next now).Ends w such
  | .sleep _ next => next.Ends w such
  | .emit _ next => next.Ends w such

section Ends

variable {α : Type} {w : Program.World Q A σ}

theorem Program.Ends.turn {such : Except Panic α → Prop} {p : Program Q A α} (h : p.Ends w such)
    (now : Nat) (world : σ) :
    match (Program.turn w now p world).1 with
    | .ended outcome => such outcome
    | .on rest => rest.Ends w such := by
  cases p with
  | done a => exact h
  | abort p => exact h
  | ask q next => exact h world
  | clock next => exact h now
  | sleep ms next => exact h
  | emit e next => exact h

theorem Program.ends_trivial (p : Program Q A α) : p.Ends w fun _ => True := by
  induction p with
  | done a => trivial
  | abort p => trivial
  | ask q next ih => exact fun world => ih _
  | clock next ih => exact ih
  | sleep ms next ih => exact ih
  | emit e next ih => exact ih

/-- A program that goes on by another ends as that does, if breaking off is such an end too. -/
theorem Program.Ends.bind {β : Type} {such : Except Panic β → Prop} (broke : ∀ p, such (.error p))
    {next : α → Program Q A β} (then_ : ∀ a, (next a).Ends w such) (p : Program Q A α) :
    (p.bind next).Ends w such := by
  induction p with
  | done a => exact then_ a
  | abort p => exact broke p
  | ask q next ih => exact fun world => ih _
  | clock next ih => exact ih
  | sleep ms next ih => exact ih
  | emit e next ih => exact ih

/-- What the programs of the remediator of a ticket end with. -/
structure Service.Ends (s : Service Q A) (w : Program.World Q A σ) (t : Ticket)
    (executed : Except Panic Report → Prop) (undone : Except Panic (Except Fault String) → Prop) :
    Prop where
  execute : ∀ remediator, s.registry.resolve t.incident t.plan = .ok remediator →
    (remediator.execute t.incident t.plan).Ends w executed
  rollback : ∀ remediator rollback, s.registry.resolve t.incident t.plan = .ok remediator →
    remediator.rollback = some rollback → (rollback t.incident t.plan).Ends w undone

/-- What is left of the program that a call runs keeps to what programs end with. -/
def Phase.Keeps (w : Program.World Q A σ) (executed : Except Panic Report → Prop)
    (undone : Except Panic (Except Fault String) → Prop) : Option (Phase Q A) → Prop
  | some (.executing _ rest) => rest.Ends w executed
  | some (.rollingBack _ rest) => rest.Ends w undone
  | some (.ended _) | none => True

/-- A leg keeps to what programs end with. -/
def Leg.Keeps (executed : Except Panic Report → Prop)
    (undone : Except Panic (Except Fault String) → Prop) : Leg → Prop
  | .gates _ _ => True
  | .execution _ outcome => executed outcome
  | .rollback _ outcome => undone outcome

/-- A call goes one of the ways, and keeps to whatever its programs end with. -/
structure Service.Abides (s : Service Q A) (w : Program.World Q A σ) (t : Ticket)
    (phase : Option (Phase Q A)) (legs : List Leg) : Prop where
  goes : s.Goes t phase legs
  keeps : ∀ executed undone, s.Ends w t executed undone →
    Phase.Keeps w executed undone phase ∧ ∀ leg ∈ legs, leg.Keeps executed undone

theorem Execution.Ready.ends {s : Service Q A} {t : Ticket} {l : Limiter} {e : Execution Q A}
    (h : e.Ready s t l) {executed : Except Panic Report → Prop}
    {undone : Except Panic (Except Fault String) → Prop} (ends : s.Ends w t executed undone) :
    e.program.Ends w executed := by
  have same := ends.execute e.remediator h.found
  rw [Execution.program, h.ticket]
  exact same

theorem Undo.Due.ends {s : Service Q A} {t : Ticket} {returned : Report} {u : Undo Q A}
    (h : u.Due s t returned) {executed : Except Panic Report → Prop}
    {undone : Except Panic (Except Fault String) → Prop} (ends : s.Ends w t executed undone) :
    u.program.Ends w undone := by
  obtain ⟨remediator, found, offered⟩ := h.offered
  rw [Undo.program, h.ticket]
  exact ends.rollback remediator u.rollback found offered

/-- Every step of a call keeps to what its programs end with. -/
theorem Service.stable_abides (s : Service Q A) (w : Program.World Q A σ) :
    Pool.Stable (Pool.legs w) s w (s.Abides w) where
  begins m t b := by
    refine ⟨s.goes_receive m t b, fun executed undone ends => ⟨?_, fun leg among => ?_⟩⟩
    · cases next : s.receive m t b with
      | mk step b' =>
        cases step with
        | ended report => trivial
        | waiting e => exact (receive_ready next).ends ends
    · rw [List.mem_singleton.1 among]
      trivial
  goes t phase legs m b world held := by
    have gone := (s.stable_goes w).goes t phase legs m b world held.goes
    refine ⟨gone, fun executed undone ends => ?_⟩
    obtain ⟨rests, kept⟩ := held.keeps executed undone ends
    cases phase with
    | executing e rest =>
      have next := Program.Ends.turn rests m.ms world
      simp only [Phase.turned, Pool.legs] at gone ⊢
      generalize Program.turn w m.ms rest world = turn at gone next ⊢
      obtain ⟨outcome | rest', events, world'⟩ := turn
      · refine ⟨?_, List.forall_mem_append.2 ⟨kept, List.forall_mem_singleton.2 next⟩⟩
        dsimp only at gone ⊢
        generalize e.settle s m outcome (b.emitAll events) = settled at gone ⊢
        obtain ⟨report | u, b'⟩ := settled
        · trivial
        · obtain ⟨returned, due⟩ := gone.due
          exact due.ends ends
      · rw [List.append_nil]
        exact ⟨next, kept⟩
    | rollingBack u rest =>
      have next := Program.Ends.turn rests m.ms world
      simp only [Phase.turned, Pool.legs]
      generalize Program.turn w m.ms rest world = turn at next ⊢
      obtain ⟨outcome | rest', events, world'⟩ := turn
      · exact ⟨trivial, List.forall_mem_append.2 ⟨kept, List.forall_mem_singleton.2 next⟩⟩
      · rw [List.append_nil]
        exact ⟨next, kept⟩
    | ended report =>
      rw [Pool.legs, List.append_nil]
      exact ⟨trivial, kept⟩
  left t phase legs held := by
    refine ⟨.left held.goes, fun executed undone ends => ⟨trivial, ?_⟩⟩
    exact (held.keeps executed undone ends).2

end Ends

/-! ## A call alone -/

namespace Pool

section Alone

variable {s : Service Q A} {w : Program.World Q A σ}
  {P : Ticket → Option (Phase Q A) → List Leg → Prop} (stable : Stable (legs w) s w P)
  {t : Ticket} {notes : List Leg}
include stable

theorem Stable.executing {e : Execution Q A} {p p' : Program Q A Report} {world world' : σ}
    {es : List Event} (turns : Program.Turns w p world p' es world')
    (held : P t (some (.executing e p)) notes) : P t (some (.executing e p')) notes := by
  induction turns with
  | rest => exact held
  | @turn p p' p'' world world' world'' es es' now next tail ih =>
    apply ih
    have gone := stable.goes t _ notes ⟨now, .earliest⟩ (.new .standard) world held
    simpa only [Phase.turned, legs, next, List.append_nil] using gone

theorem Stable.rollingBack {u : Undo Q A} {p p' : Program Q A (Except Fault String)}
    {world world' : σ} {es : List Event} (turns : Program.Turns w p world p' es world')
    (held : P t (some (.rollingBack u p)) notes) : P t (some (.rollingBack u p')) notes := by
  induction turns with
  | rest => exact held
  | @turn p p' p'' world world' world'' es es' now next tail ih =>
    apply ih
    have gone := stable.goes t _ notes ⟨now, .earliest⟩ (.new .standard) world held
    simpa only [Phase.turned, legs, next, List.append_nil] using gone

theorem Stable.executed {e : Execution Q A} {outcome : Except Panic Report}
    (held : P t (some (.executing e (Program.ofOutcome outcome))) notes) (m : Moment) (b : Board)
    (world : σ) :
    P t (some (.ofUndo (e.settle s m outcome b).1)) (notes ++ [.execution m outcome]) := by
  have gone := stable.goes t _ notes m b world held
  simpa only [Phase.turned, legs, Program.turn_ofOutcome, Board.emitAll_nil] using gone

theorem Stable.undone {u : Undo Q A} {undone : Except Panic (Except Fault String)}
    (held : P t (some (.rollingBack u (Program.ofOutcome undone))) notes) (m : Moment) (b : Board)
    (world : σ) :
    P t (some (.ended (u.settle m undone b).1)) (notes ++ [.rollback m undone]) := by
  have gone := stable.goes t _ notes m b world held
  simpa only [Phase.turned, legs, Program.turn_ofOutcome, Board.emitAll_nil] using gone

/-- What every step of a call keeps holds of a call with nothing beside it when it is over. -/
theorem Stable.alone (date : Nat → Time.Instant) (now : Nat) (t : Ticket) (b : Board)
    (world : σ) : P t (some (.ended (s.execute w date now t b world).report))
      (s.legs w date now t b world) := by
  have begun := stable.begins ⟨now, date now⟩ t b
  simp only [Service.execute, Service.legs]
  generalize s.receive ⟨now, date now⟩ t b = next at begun
  obtain ⟨report | e, b'⟩ := next
  · exact begun
  · have returned := stable.executing (Program.turns_run now e.program world) begun
    simp only [Execution.conclude, Execution.legs]
    generalize Program.run w now e.program world = done at returned
    have settled := stable.executed returned ⟨done.time, date done.time⟩ (b'.emitAll done.events)
      done.world
    generalize e.settle s ⟨done.time, date done.time⟩ done.outcome (b'.emitAll done.events) = next
      at settled
    obtain ⟨report | u, b''⟩ := next
    · exact settled
    · have back := stable.rollingBack (Program.turns_run done.time u.program done.world) settled
      exact stable.undone back _ _ done.world

end Alone

/-- A call whose report has come out has ended with it. -/
theorem ended_of_report? {x : Pool Q A σ} {i : Nat} {report : Report}
    (came : (x.calls[i]?.bind (·.phase)).bind Phase.report? = some report) :
    ∃ c, x.calls[i]? = some c ∧ c.phase = some (.ended report) := by
  obtain ⟨phase, at_, came⟩ := Option.bind_eq_some_iff.1 came
  obtain ⟨c, out, at_⟩ := Option.bind_eq_some_iff.1 at_
  cases phase with
  | ended report' =>
    cases came
    exact ⟨c, out, at_⟩
  | executing e rest => cases came
  | rollingBack u rest => cases came

end Pool

end Remedy
