import Remedy.Proofs.Service.Endings
import Remedy.Proofs.Service.Fates

/-!
# What a call announces

Every event on a board is of one call, which emits it itself or has it from a program of its
remediator. The events of its own that mark its lifecycle go with its legs: each leg announces what
it came to, and the report is announced last.
-/

namespace Remedy

variable {Q : Type} {A : Q → Type} {σ : Type}

/-! ## Events of a lifecycle -/

/-- The events that mark where a call stands. -/
def Event.isLifecycle : Event → Bool
  | started .. | rejected .. | finished .. | rollback .. => true
  | span .. | poll .. | counted _ | flushed _ => false

/-- The events that a board has got since. -/
def Board.since (b b' : Board) : List Event := b'.events.drop b.events.length

/-- A board has got further events, and of its lifecycle these. -/
def Board.Emits (b b' : Board) (lifecycle : List Event) : Prop :=
  ∃ es, b'.events = b.events ++ es ∧ es.filter Event.isLifecycle = lifecycle

namespace Board

variable {b b' b'' : Board} {es es' : List Event}

theorem Emits.since (h : b.Emits b' es) :
    b'.events = b.events ++ b.since b' ∧ (b.since b').filter Event.isLifecycle = es := by
  obtain ⟨added, events, lifecycle⟩ := h
  have same : b.since b' = added := by
    rw [Board.since, events]
    exact List.drop_left
  rw [same]
  exact ⟨events, lifecycle⟩

theorem Emits.trans (h : b.Emits b' es) (h' : b'.Emits b'' es') : b.Emits b'' (es ++ es') := by
  obtain ⟨added, events, lifecycle⟩ := h
  obtain ⟨added', events', lifecycle'⟩ := h'
  refine ⟨added ++ added', ?_, ?_⟩
  · rw [events', events, List.append_assoc]
  · rw [List.filter_append, lifecycle, lifecycle']

theorem emits_of_events (same : b'.events = b.events) : b.Emits b' [] :=
  ⟨[], by rw [same, List.append_nil], rfl⟩

theorem emits_emit (b : Board) (e : Event) :
    b.Emits (b.emit e) (if e.isLifecycle then [e] else []) :=
  ⟨[e], rfl, by cases mark : e.isLifecycle <;> simp [mark]⟩

theorem emits_count (b : Board) (c : Counter) : b.Emits (b.count c) [] :=
  ⟨[.counted c], rfl, rfl⟩

@[simp] theorem finish_events (b : Board) (permit : Option Limiter.Permit) (success : Bool) :
    (b.finish permit success).events = b.events := by
  cases permit <;> rfl

@[simp] theorem drop_events (b : Board) (permit : Option Limiter.Permit) :
    (b.drop permit).events = b.events := by
  cases permit <;> rfl

end Board

/-- How a call announces its report. -/
def Ticket.finished (t : Ticket) (report : Report) : Event :=
  .finished t.incident.id.text report.outcome.name (Record.milliseconds report.durationSeconds)
    report.success

/-- What a step that ends a call announces at its end. -/
def Next.farewell {W : Type} (t : Ticket) : Next W → List Event
  | .ended report => [t.finished report]
  | .waiting _ => []

/-! ## What the legs announce -/

namespace Service

variable (s : Service Q A) (t : Ticket)

/-- The gate that refuses a ticket. -/
def refuser : String := if s.clears t then Stage.blastRadius else Stage.preValidation

/-- Why a gate refuses a ticket. -/
def objection (m : Moment) (l : Limiter) : String :=
  if s.clears t then (l.validate m.date (l.keyFor t.incident)).1.reasons
  else (s.pre.validate (t.context none)).reasons

def announces : Leg → List Event
  | .gates m l =>
    if s.refuses t l m.date then
      [.rejected t.incident.id.text (s.refuser t) (s.objection t m l)]
    else if (s.registry.resolve t.incident t.plan).isOk then
      [.started t.incident.id.text t.plan.actionType.name (l.keyFor t.incident).text]
    else []
  | .execution _ _ | .rollback _ (.error _) => []
  | .rollback _ (.ok undone) =>
    [.rollback t.incident.id.text t.plan.actionType.name undone.isOk]

end Service

namespace Record

variable (r : Record) (m : Moment) (b : Board)

theorem finish_emits (report : Report) :
    b.Emits (r.finish m report b).2 [r.ticket.finished (r.finish m report b).1] := by
  simp only [finish]
  split
  · exact (b.emits_count _).trans (Board.emits_emit _ _)
  · exact b.emits_emit _

theorem close_emits (report : Report) :
    b.Emits (r.close m report b).2 [r.ticket.finished (r.close m report b).1] := by
  simp only [close]
  split
  · exact finish_emits _ m b report
  · exact finish_emits r m b report

theorem fault_emits (f : Fault) :
    b.Emits (r.fault m f b).2 [r.ticket.finished (r.fault m f b).1] :=
  finish_emits (r.add m .error Stage.orchestrator f.text) m b _

theorem aborted_emits (p : Panic) :
    b.Emits (r.aborted m p b).2 [r.ticket.finished (r.aborted m p b).1] :=
  finish_emits (r.add m .error Stage.orchestrator ("remediation panicked: " ++ p.message)) m b _

theorem refuse_emits (stage title : String) (v : Validation) :
    b.Emits (r.refuse m stage title v b).2
      [.rejected r.incidentText stage v.reasons,
        r.ticket.finished (r.refuse m stage title v b).1] := by
  have said := (b.emits_emit (.rejected r.incidentText stage v.reasons)).trans
    (Board.emits_count _ .rejected)
  exact said.trans (r.finish_emits m _ _)

theorem execute_emits (remediator : Remediator Q A) (permit : Option Limiter.Permit) :
    b.Emits (r.execute m remediator permit b).2
      [.started r.incidentText r.actionName
        ((permit.map (·.key)).getD (b.limiter.keyFor r.ticket.incident)).text] :=
  (b.emits_emit _).trans (Board.emits_count _ .started)

/-- Asking the limiter, a call starts or is refused. -/
theorem blastRadiusGate_emits (remediator : Remediator Q A) :
    b.Emits (r.blastRadiusGate m remediator b).2
      ((if r.ticket.affords b.limiter m.date then
          [.started r.incidentText r.actionName (b.limiter.keyFor r.ticket.incident).text]
        else [.rejected r.incidentText Stage.blastRadius
          (b.limiter.validate m.date (b.limiter.keyFor r.ticket.incident)).1.reasons]) ++
        (r.blastRadiusGate m remediator b).1.farewell r.ticket) := by
  have eq := b.limiter.tryAcquire_eq m.date (b.limiter.keyFor r.ticket.incident)
  rw [blastRadiusGate]
  cases skipped : r.ticket.options.skipBlastRadius with
  | true =>
    have afforded := Ticket.affords_of_skipped skipped b.limiter m.date
    rw [if_pos rfl, if_pos afforded]
    exact execute_emits _ m b remediator none
  | false =>
    have affords := Ticket.affords_of_asked skipped b.limiter m.date
    rw [if_neg Bool.false_ne_true, affords]
    simp only [eq]
    cases (b.limiter.validate m.date (b.limiter.keyFor r.ticket.incident)).1.passed with
    | true => exact execute_emits _ m _ remediator _
    | false => exact refuse_emits _ m _ _ _ _

theorem resolve_emits {s : Service Q A} (cleared : s.clears r.ticket = true) :
    b.Emits (r.resolve s m b).2
      (s.announces r.ticket (.gates m b.limiter) ++ (r.resolve s m b).1.farewell r.ticket) := by
  rw [resolve]
  cases found : s.registry.resolve r.ticket.incident r.ticket.plan with
  | error f =>
    have quiet : s.announces r.ticket (.gates m b.limiter) = [] := by
      simp [Service.announces, Service.refuses, cleared, found, Except.isOk, Except.toBool]
    rw [quiet]
    exact fault_emits r m b f
  | ok remediator =>
    have said := blastRadiusGate_emits r m b remediator
    have announces : s.announces r.ticket (.gates m b.limiter) =
        if r.ticket.affords b.limiter m.date then
          [.started r.incidentText r.actionName (b.limiter.keyFor r.ticket.incident).text]
        else [.rejected r.incidentText Stage.blastRadius
          (b.limiter.validate m.date (b.limiter.keyFor r.ticket.incident)).1.reasons] := by
      simp only [Service.announces, Service.refuses, Service.refuser, Service.objection, cleared,
        found, Except.isOk, Except.toBool, Bool.not_true, Bool.false_or, Bool.true_and, if_true]
      cases r.ticket.affords b.limiter m.date <;> rfl
    rw [announces]
    exact said

end Record

/-- The gates are announced with what they come to. -/
theorem Service.receive_emits (s : Service Q A) (m : Moment) (t : Ticket) (b : Board) :
    b.Emits (s.receive m t b).2
      (s.announces t (.gates m b.limiter) ++ (s.receive m t b).1.farewell t) := by
  have span : b.Emits (b.emit (.span t.incident.id.text t.plan.actionType.name)) [] :=
    b.emits_emit _
  simp only [receive]
  by_cases skipped : t.options.skipPreValidation = true
  · have cleared : s.clears t = true := by simp [clears, skipped]
    simp only [if_pos skipped]
    exact span.trans (Record.resolve_emits _ m _ cleared)
  · simp only [if_neg skipped]
    by_cases passed : (s.pre.validate (t.context none)).passed = true
    · have cleared : s.clears t = true := by simp [clears, passed]
      simp only [if_pos passed]
      exact span.trans (Record.resolve_emits _ m _ cleared)
    · have stopped : s.clears t = false := by simp [clears, skipped, passed]
      have announces : s.announces t (.gates m b.limiter) =
          [.rejected t.incident.id.text Stage.preValidation
            (s.pre.validate (t.context none)).reasons] := by
        simp [Service.announces, refuses, refuser, objection, stopped]
      simp only [if_neg passed]
      rw [announces]
      exact span.trans (Record.refuse_emits _ m _ _ _ _)

/-! ## After the gates -/

namespace Record

variable (r : Record) (m : Moment) (b : Board)

theorem attemptRollback_emits (remediator : Remediator Q A) (report : Report) :
    b.Emits (r.attemptRollback m remediator report b).2
      ((r.attemptRollback m remediator report b).1.farewell r.ticket) := by
  rw [attemptRollback]
  split
  · exact close_emits _ m b _
  · exact Board.emits_of_events rfl

theorem postValidate_emits (s : Service Q A) (remediator : Remediator Q A) (report : Report) :
    b.Emits (r.postValidate s m remediator report b).2
      ((r.postValidate s m remediator report b).1.farewell r.ticket) := by
  simp only [postValidate]
  generalize s.post.validate (r.ticket.context (some report)) = v
  split
  · exact close_emits (r.verdict m Stage.postValidation v) m b report
  · split
    · exact attemptRollback_emits (r.verdict m Stage.postValidation v) m b remediator _
    · exact close_emits (r.verdict m Stage.postValidation v) m b
        ((r.verdict m Stage.postValidation v).failedAfter report v)

end Record

/-- An execution is announced by nothing but the end of its call. -/
theorem Execution.settle_emits (e : Execution Q A) (s : Service Q A) (m : Moment)
    (outcome : Except Panic Report) (b : Board) :
    b.Emits (e.settle s m outcome b).2 ((e.settle s m outcome b).1.farewell e.record.ticket) := by
  cases outcome with
  | error p =>
    have dropped : b.Emits (b.drop e.permit) [] := Board.emits_of_events (b.drop_events e.permit)
    exact dropped.trans (e.record.aborted_emits m _ p)
  | ok returned =>
    have finished : b.Emits (b.finish e.permit returned.success) [] :=
      Board.emits_of_events (b.finish_events e.permit _)
    have same : (e.record.executed m returned).ticket = e.record.ticket :=
      e.record.executed_ticket m returned
    simp only [settle]
    split
    · have said := Record.attemptRollback_emits (e.record.executed m returned) m
        (b.finish e.permit returned.success) e.remediator returned.handedOn
      rw [same] at said
      exact finished.trans said
    · split
      · have said := Record.postValidate_emits (e.record.executed m returned) m
          (b.finish e.permit returned.success) s e.remediator returned.handedOn
        rw [same] at said
        exact finished.trans said
      · have said := Record.close_emits (e.record.executed m returned) m
          (b.finish e.permit returned.success) returned.handedOn
        rw [same] at said
        exact finished.trans said

/-- A rollback is announced unless it broke off. -/
theorem Undo.settle_emits (u : Undo Q A) (s : Service Q A) (m : Moment)
    (undone : Except Panic (Except Fault String)) (b : Board) :
    b.Emits (u.settle m undone b).2 (s.announces u.record.ticket (.rollback m undone) ++
      [u.record.ticket.finished (u.settle m undone b).1]) := by
  rcases undone with p | f | description
  · exact u.record.aborted_emits m b p
  · exact (b.emits_emit _).trans (Record.close_emits _ m _ _)
  · have counted := (b.emits_count .rollbacks).trans (Board.emits_emit _
      (.rollback u.record.incidentText u.record.actionName true))
    exact counted.trans (Record.close_emits _ m _ _)

/-! ## Events of a pool -/

/-- An event of a call: of its own, or of a program that it runs. -/
inductive Voice where
  | own (e : Event)
  | program (e : Event)

namespace Voice

def event : Voice → Event
  | own e | program e => e

def lifecycle? : Voice → Option Event
  | own e => if e.isLifecycle then some e else none
  | program _ => none

/-- The events of a call's own that mark its lifecycle. -/
def lifecycle (voices : List Voice) : List Event := voices.filterMap lifecycle?

@[simp] theorem lifecycle_append (voices more : List Voice) :
    lifecycle (voices ++ more) = lifecycle voices ++ lifecycle more :=
  List.filterMap_append

@[simp] theorem lifecycle_program (es : List Event) : lifecycle (es.map program) = [] := by
  simp [lifecycle, List.filterMap_map, Function.comp_def, lifecycle?]

@[simp] theorem lifecycle_own (es : List Event) :
    lifecycle (es.map own) = es.filter Event.isLifecycle := by
  simp only [lifecycle, List.filterMap_map]
  rw [← List.filterMap_eq_filter]
  rfl

@[simp] theorem map_event_own (es : List Event) : (es.map own).map event = es := by
  simp [Function.comp_def, event]

@[simp] theorem map_event_program (es : List Event) : (es.map program).map event = es := by
  simp [Function.comp_def, event]

end Voice

namespace Pool

/-- The events of a call. -/
def voices (s : Service Q A) (w : Program.World Q A σ) : Scribe Q A σ Voice where
  begins m t b := (b.since (s.receive m t b).2).map .own
  goes m b world
    | .executing e rest =>
      match Program.turn w m.ms rest world with
      | (.on _, events, _) => events.map .program
      | (.ended outcome, events, _) =>
        let b := b.emitAll events
        events.map .program ++ (b.since (e.settle s m outcome b).2).map .own
    | .rollingBack u rest =>
      match Program.turn w m.ms rest world with
      | (.on _, events, _) => events.map .program
      | (.ended undone, events, _) =>
        let b := b.emitAll events
        events.map .program ++ (b.since (u.settle m undone b).2).map .own
    | .ended _ => []

section Events

variable (s : Service Q A) (w : Program.World Q A σ) {x : Pool Q A σ} {i : Nat} {c : Call Q A}

theorem resume_events (m : Moment) {phase : Phase Q A} (at_ : c.phase = some phase) :
    (x.resume s w m i c).board.events = x.board.events ++
      ((voices s w).goes m x.board x.world phase).map Voice.event := by
  rw [Pool.resume, at_]
  cases phase with
  | executing e rest =>
    simp only [voices]
    generalize Program.turn w m.ms rest x.world = turn
    obtain ⟨outcome | rest', events, world⟩ := turn
    · have settled := (e.settle_emits s m outcome (x.board.emitAll events)).since.1
      simp only [List.map_append, Voice.map_event_program, Voice.map_event_own]
      exact settled.trans (List.append_assoc ..)
    · exact congrArg _ (Voice.map_event_program events).symm
  | rollingBack u rest =>
    simp only [voices]
    generalize Program.turn w m.ms rest x.world = turn
    obtain ⟨undone | rest', events, world⟩ := turn
    · have settled := (u.settle_emits s m undone (x.board.emitAll events)).since.1
      simp only [List.map_append, Voice.map_event_program, Voice.map_event_own]
      exact settled.trans (List.append_assoc ..)
    · exact congrArg _ (Voice.map_event_program events).symm
  | ended report => exact (List.append_nil _).symm

theorem step_events (x : Pool Q A σ) (move : Move) :
    (x.step s w move).board.events = x.board.events ++
      ((voices s w).notes x move).map (·.2.event) := by
  have tags (i : Nat) (notes : List Voice) :
      (notes.map (i, ·)).map (·.2.event) = notes.map Voice.event := by
    simp [Function.comp_def]
  cases move with
  | call m t =>
    have received := (s.receive_emits m t x.board).since.1
    rw [Scribe.notes, tags, voices, Voice.map_event_own]
    rw [Pool.step, Pool.receive]
    generalize s.receive m t x.board = next at received
    obtain ⟨report | e, b⟩ := next
    · exact received
    · exact received
  | step m i =>
    simp only [Pool.step, Scribe.notes]
    cases out : x.calls[i]? with
    | none => simp
    | some c =>
      cases at_ : c.phase with
      | none => simp [Pool.resume, at_]
      | some phase =>
        have resumed := resume_events s w (x := x) (i := i) m at_
        simp only [at_, Option.bind_some]
        rw [tags]
        exact resumed
  | drop i =>
    simp only [Pool.step, Scribe.notes, List.map_nil, List.append_nil]
    split
    · next c out =>
      rw [abandon_board]
      cases c.phase with
      | none => rfl
      | some phase =>
        cases phase with
        | executing e rest => exact x.board.drop_events e.permit
        | rollingBack u rest => rfl
        | ended report => rfl
    · rfl

/-- Every event on the board is of a call. -/
theorem run_events (moves : List Move) : ∀ x : Pool Q A σ,
    (x.run s w moves).board.events = x.board.events ++
      ((voices s w).story s w x moves).map (·.2.event) := by
  induction moves with
  | nil => exact fun x => (List.append_nil _).symm
  | cons move rest ih =>
    intro x
    have first := step_events s w x move
    have later := ih (x.step s w move)
    rw [Scribe.story, List.map_append, ← List.append_assoc, ← first]
    exact later

end Events

end Pool

/-- What a call announces when it ends. -/
def Phase.farewell (t : Ticket) : Phase Q A → List Event
  | .ended report => [t.finished report]
  | .executing _ _ | .rollingBack _ _ => []

theorem Phase.farewell_ofExecution (t : Ticket) (next : Next (Execution Q A)) :
    (ofExecution next).farewell t = next.farewell t := by
  cases next <;> rfl

theorem Phase.farewell_ofUndo (t : Ticket) (next : Next (Undo Q A)) :
    (ofUndo next).farewell t = next.farewell t := by
  cases next <;> rfl

/-- A call has announced its legs, up to where it stands or stood when it was left. -/
structure Service.Speaks (s : Service Q A) (t : Ticket) (phase : Option (Phase Q A))
    (legs : List Leg) (voices : List Voice) : Prop where
  goes : s.Goes t phase legs
  said : ∃ standing : Phase Q A, (∀ p, phase = some p → p = standing) ∧
    Voice.lifecycle voices = legs.flatMap (s.announces t) ++ standing.farewell t

theorem Service.Speaks.of_standing {s : Service Q A} {t : Ticket} {phase : Phase Q A}
    {legs : List Leg} {voices : List Voice} (goes : s.Goes t (some phase) legs)
    (said : Voice.lifecycle voices = legs.flatMap (s.announces t) ++ phase.farewell t) :
    s.Speaks t (some phase) legs voices :=
  ⟨goes, phase, fun _ same => (Option.some.inj same).symm, said⟩

/-- Every step of a call announces its leg. -/
theorem Service.stable_speaks (s : Service Q A) (w : Program.World Q A σ) :
    Pool.StableBeside (Pool.legs w) (Pool.voices s w) s w s.Speaks where
  begins m t b := by
    refine .of_standing (s.goes_receive m t b) ?_
    rw [Phase.farewell_ofExecution, Pool.voices, Voice.lifecycle_own, Pool.legs,
      List.flatMap_singleton]
    exact (s.receive_emits m t b).since.2
  goes t phase legs voices m b world held := by
    have gone := (s.stable_goes w).goes t phase legs m b world held.goes
    obtain ⟨standing, same, said⟩ := held.said
    cases same phase rfl
    refine .of_standing gone ?_
    rw [Voice.lifecycle_append, said, List.flatMap_append, List.append_assoc, List.append_assoc]
    congr 1
    cases phase with
    | executing e rest =>
      have ticket : e.record.ticket = t := by
        cases held.goes with
        | executing opens ready => exact ready.ticket
      simp only [Phase.turned, Pool.legs, Pool.voices]
      generalize Program.turn w m.ms rest world = turn
      obtain ⟨outcome | rest', events, world'⟩ := turn
      · have settled := (e.settle_emits s m outcome (b.emitAll events)).since.2
        rw [ticket] at settled
        simp only [Voice.lifecycle_append, Voice.lifecycle_program, Voice.lifecycle_own, settled,
          Phase.farewell_ofUndo]
        rfl
      · simp only [Voice.lifecycle_program]
        rfl
    | rollingBack u rest =>
      have ticket : u.record.ticket = t := by
        obtain ⟨returned, due⟩ := held.goes.due
        exact due.ticket
      simp only [Phase.turned, Pool.legs, Pool.voices]
      generalize Program.turn w m.ms rest world = turn
      obtain ⟨undone | rest', events, world'⟩ := turn
      · have settled := (u.settle_emits s m undone (b.emitAll events)).since.2
        rw [ticket] at settled
        simp only [Voice.lifecycle_append, Voice.lifecycle_program, Voice.lifecycle_own, settled,
          List.flatMap_singleton]
        rfl
      · simp only [Voice.lifecycle_program]
        rfl
    | ended report => simp [Phase.turned, Pool.legs, Pool.voices, Voice.lifecycle]
  left t phase legs voices held := by
    obtain ⟨standing, -, said⟩ := held.said
    refine ⟨.left held.goes, standing, fun p same => ?_, said⟩
    cases same

/-! ## What is announced of a call -/

/-- The courses that the announcements of a call can take. -/
inductive Event.Course (incident action : String) (finished : Event) : List Event → Prop where
  | refused (stage reason : String) :
      Course incident action finished [.rejected incident stage reason, finished]
  | unresolved : Course incident action finished [finished]
  | executed (target : String) :
      Course incident action finished [.started incident action target, finished]
  | rolledBack (target : String) (performed : Bool) :
      Course incident action finished
        [.started incident action target, .rollback incident action performed, finished]

theorem Event.Course.last {incident action : String} {finished : Event} {events : List Event}
    (h : Event.Course incident action finished events) :
    ∃ before, events = before ++ [finished] := by
  cases h with
  | refused stage reason => exact ⟨[_], rfl⟩
  | unresolved => exact ⟨[], rfl⟩
  | executed target => exact ⟨[_], rfl⟩
  | rolledBack target performed => exact ⟨[_, _], rfl⟩

/-- The announcements of a call take one of the courses, and say what came of each leg. -/
structure Report.Announced (report : Report) (s : Service Q A) (t : Ticket) (legs : List Leg)
    (events : List Event) : Prop where
  course : Event.Course t.incident.id.text t.plan.actionType.name (t.finished report) events
  rejected : ∀ stage reason, .rejected t.incident.id.text stage reason ∈ events ↔
    ∃ m l, .gates m l ∈ legs ∧ s.refuses t l m.date = true ∧ stage = s.refuser t ∧
      reason = s.objection t m l
  unresolved : events = [t.finished report] ↔
    s.clears t = true ∧ ∃ f, s.registry.resolve t.incident t.plan = .error f
  started : ∀ target, .started t.incident.id.text t.plan.actionType.name target ∈ events ↔
    (∃ m outcome, .execution m outcome ∈ legs) ∧
      ∃ m l, .gates m l ∈ legs ∧ target = (l.keyFor t.incident).text
  rollback : ∀ performed,
    .rollback t.incident.id.text t.plan.actionType.name performed ∈ events ↔
      (∃ m undone, .rollback m (.ok undone) ∈ legs) ∧ performed = report.rollbackPerformed

namespace Service

variable {s : Service Q A} {t : Ticket} {m : Moment} {l : Limiter}

theorem announces_of_executes (opens : s.Executes t l m.date) :
    s.announces t (.gates m l) =
      [.started t.incident.id.text t.plan.actionType.name (l.keyFor t.incident).text] := by
  obtain ⟨cleared, ⟨remediator, found⟩, afforded⟩ := opens
  simp [announces, refuses, cleared, found, afforded, Except.isOk, Except.toBool]

/-- A call that is not let through and that no gate refused has no remediator. -/
theorem unresolved_of_barred (barred : ¬ s.Executes t l m.date)
    (passed : s.refuses t l m.date = false) :
    s.clears t = true ∧ ∃ f, s.registry.resolve t.incident t.plan = .error f := by
  simp only [refuses, Bool.or_eq_false_iff, Bool.not_eq_false'] at passed
  refine ⟨passed.1, ?_⟩
  cases found : s.registry.resolve t.incident t.plan with
  | error f => exact ⟨f, rfl⟩
  | ok remediator =>
    rw [found] at passed
    have afforded : t.affords l m.date = true := by
      simpa [Except.isOk, Except.toBool] using passed.2
    exact absurd ⟨passed.1, ⟨remediator, found⟩, afforded⟩ barred

/-- A gate that refuses is announced with its reasons, and a call without a remediator by nothing
but its end. -/
theorem announced_of_barred {report : Report} (barred : ¬ s.Executes t l m.date) :
    report.Announced s t [.gates m l] (s.announces t (.gates m l) ++ [t.finished report]) := by
  cases refuses : s.refuses t l m.date with
  | true =>
    have announces : s.announces t (.gates m l) =
        [.rejected t.incident.id.text (s.refuser t) (s.objection t m l)] := by
      simp [Service.announces, refuses]
    have resolved : ¬ (s.clears t = true ∧
        ∃ f, s.registry.resolve t.incident t.plan = .error f) := by
      rintro ⟨cleared, f, none⟩
      simp [Service.refuses, cleared, none, Except.isOk, Except.toBool] at refuses
    rw [announces]
    refine ⟨.refused _ _, fun stage reason => ?_, ?_, fun target => ?_, fun performed => ?_⟩
    · simp [Ticket.finished, refuses]
    · simp [resolved]
    · simp [Ticket.finished]
    · simp [Ticket.finished]
  | false =>
    obtain ⟨cleared, f, none⟩ := unresolved_of_barred barred refuses
    have announces : s.announces t (.gates m l) = [] := by
      simp [Service.announces, refuses, none, Except.isOk, Except.toBool]
    rw [announces]
    refine ⟨.unresolved, fun stage reason => ?_, ?_, fun target => ?_, fun performed => ?_⟩
    · simp [Ticket.finished, refuses]
    · simp [cleared, none]
    · simp [Ticket.finished]
    · simp [Ticket.finished]

section Executes

variable (opens : s.Executes t l m.date) {report : Report} {outcome : Except Panic Report}
include opens

theorem passed_of_executes : s.refuses t l m.date = false ∧
    ¬ (s.clears t = true ∧ ∃ f, s.registry.resolve t.incident t.plan = .error f) := by
  obtain ⟨cleared, ⟨remediator, found⟩, afforded⟩ := opens
  simp [refuses, cleared, found, afforded]

/-- A call that executes and is not rolled back is announced by its start and its end. -/
theorem announced_of_execution {m' : Moment} {more : List Leg}
    (only : ∀ leg ∈ more, ∃ m p, leg = .rollback m (.error p)) :
    report.Announced s t (.gates m l :: .execution m' outcome :: more)
      [.started t.incident.id.text t.plan.actionType.name (l.keyFor t.incident).text,
        t.finished report] := by
  obtain ⟨passed, resolved⟩ := passed_of_executes opens
  have gates (m'' : Moment) (l' : Limiter) : .gates m'' l' ∉ more := by
    intro among
    obtain ⟨_, _, same⟩ := only _ among
    cases same
  have undone (m'' : Moment) (undone : Except Fault String) :
      .rollback m'' (.ok undone) ∉ more := by
    intro among
    obtain ⟨_, _, same⟩ := only _ among
    cases same
  refine ⟨.executed _, fun stage reason => ?_, ?_, fun target => ?_, fun performed => ?_⟩
  · simp [Ticket.finished, passed, gates]
  · simp [resolved]
  · have ran : ∃ m'' outcome',
        .execution m'' outcome' ∈ Leg.gates m l :: .execution m' outcome :: more :=
      ⟨m', outcome, .tail _ (.head _)⟩
    simp only [ran, true_and]
    simp [Ticket.finished, gates]
  · simp [Ticket.finished, undone]

/-- A rollback that did not break off is announced between the two. -/
theorem announced_of_rollback {m' m'' : Moment} {undone : Except Fault String}
    (performed : report.rollbackPerformed = undone.isOk) :
    report.Announced s t
      [.gates m l, .execution m' outcome, .rollback m'' (.ok undone)]
      [.started t.incident.id.text t.plan.actionType.name (l.keyFor t.incident).text,
        .rollback t.incident.id.text t.plan.actionType.name undone.isOk, t.finished report] := by
  obtain ⟨passed, resolved⟩ := passed_of_executes opens
  refine ⟨.rolledBack _ _, fun stage reason => ?_, ?_, fun target => ?_, fun performed' => ?_⟩
  · simp [Ticket.finished, passed]
  · simp [resolved]
  · simp [Ticket.finished]
  · simp [Ticket.finished, performed]

end Executes

/-- Whichever way a call goes, its announcements say so. -/
theorem Goes.announced {legs : List Leg} {report : Report}
    (goes : s.Goes t (some (.ended report)) legs) :
    report.Announced s t legs (legs.flatMap (s.announces t) ++ [t.finished report]) := by
  cases goes with
  | @stopped m l report barred comes =>
    rw [List.flatMap_singleton]
    exact announced_of_barred barred
  | @closed m m' l outcome report opens kept comes =>
    rw [List.flatMap_cons, announces_of_executes opens]
    exact announced_of_execution opens (List.forall_mem_nil _)
  | @undone m m' m'' l returned report undone opens due comes =>
    have performed := congrArg Report.rollbackPerformed comes
    rw [List.flatMap_cons, announces_of_executes opens]
    rcases undone with p | f | description
    · refine announced_of_execution opens fun leg among => ?_
      exact ⟨m'', p, List.mem_singleton.1 among⟩
    · exact announced_of_rollback opens performed
    · exact announced_of_rollback opens performed

/-- Only the gates announce a start, and they name the target that they asked about. -/
theorem started_of_announces {leg : Leg} {incident action target : String}
    (said : .started incident action target ∈ s.announces t leg) :
    ∃ m l, leg = .gates m l ∧ target = (l.keyFor t.incident).text := by
  cases leg with
  | gates m l =>
    refine ⟨m, l, rfl, ?_⟩
    simp only [announces] at said
    split at said
    · simp at said
    · split at said
      · have same := List.mem_singleton.1 said
        simp only [Event.started.injEq] at same
        exact same.2.2
      · simp at said
  | execution m outcome => simp [announces] at said
  | rollback m undone =>
    cases undone with
    | error p => simp [announces] at said
    | ok undone => simp [announces] at said

theorem Goes.begun {phase : Option (Phase Q A)} {legs : List Leg} (goes : s.Goes t phase legs) :
    ∃ m l, .gates m l ∈ legs := by
  induction goes with
  | stopped | executing | closed | rollingBack | undone => exact ⟨_, _, .head _⟩
  | left _ ih => exact ih

end Service

namespace Pool

variable {s : Service Q A} {w : Program.World Q A σ} {i : Nat} {c : Call Q A}

/-- What the limiter records of a call is charged to the target that the call names at its start,
which is that of its incident whether or not it is charged. -/
theorem charged_is_named (config : BlastRadius) (world : σ) (moves : List Move) :
    let x : Pool Q A σ := .new config world
    let events := Voice.lifecycle (about i ((voices s w).story s w x moves))
    (x.run s w moves).calls[i]? = some c →
      (∀ key entry, (key, entry) ∈ (x.run s w moves).entries i →
        .started c.ticket.incident.id.text c.ticket.plan.actionType.name key.text ∈ events) ∧
      ∀ incident action target, .started incident action target ∈ events →
        target = (c.key config).text := by
  intro x events out
  obtain ⟨goes, standing, -, said⟩ :=
    (s.stable_speaks w).noted_run (.new config) world moves i c out
  have named (m : Moment) (l : Limiter)
      (among : .gates m l ∈ about i ((legs w).story s w x moves)) :
      l.keyFor c.ticket.incident = c.key config := by
    have same := config_of_gates moves (mem_about.1 among) m l rfl
    rw [Limiter.keyFor, same]
    rfl
  have events_eq : events = _ := said
  constructor
  · intro key entry recorded
    rw [((coherent_run s w config world moves).calls i c out).2] at recorded
    have charged : c.fate ≠ .never ∧ key = c.key config := by
      rw [Call.entries] at recorded
      split at recorded
      · cases recorded
      · next asked =>
        rw [not_or] at asked
        refine ⟨asked.1, ?_⟩
        rcases List.mem_cons.1 recorded with same | finish
        · exact congrArg Prod.fst same
        · obtain ⟨success, -, same⟩ := List.mem_map.1 finish
          exact (congrArg Prod.fst same).symm
    obtain ⟨m, l, among⟩ := goes.begun
    have fits := (fated_run s w (.new config) world moves).fits i c out
    have opens : s.Executes c.ticket l m.date := by
      by_contra barred
      exact charged.1 ((fits.admitted m l among).2 barred)
    rw [events_eq, charged.2, ← named m l among]
    refine List.mem_append_left _ (List.mem_flatMap.2 ⟨.gates m l, among, ?_⟩)
    rw [Service.announces_of_executes opens]
    exact .head _
  · intro incident action target started
    rw [events_eq] at started
    rcases List.mem_append.1 started with announced | farewell
    · obtain ⟨leg, among, announced⟩ := List.mem_flatMap.1 announced
      obtain ⟨m, l, rfl, same⟩ := Service.started_of_announces announced
      rw [same, named m l among]
    · cases standing with
      | ended report => cases List.mem_singleton.1 farewell
      | executing e rest => cases farewell
      | rollingBack u rest => cases farewell

end Pool

namespace Service

/-- Whatever gates, executions and rollbacks come to, a call that has ended has announced itself in
one of four ways: refused by a gate and finished, finished, started and finished, or started, rolled
back and finished. The last announcement is of the report that came out. A refusal names its gate, a
start the target whose budget was charged or would have been, and a rollback that ran to its end
whether it was performed. Every event on the board is of a call, and a call that is not left ends
when it has had its turns. -/
theorem calls_are_announced (s : Service Q A) (w : Program.World Q A σ) (world : σ) :
    (∀ (b : Board) (moves : List Pool.Move),
      let x : Pool Q A σ := ⟨[], b, world, []⟩
      (x.run s w moves).board.events =
        b.events ++ ((Pool.voices s w).story s w x moves).map (·.2.event)) ∧
    (∀ (b : Board) (moves : List Pool.Move) (i : Nat) (c : Pool.Call Q A) (phase : Phase Q A),
      let x : Pool Q A σ := ⟨[], b, world, []⟩
      (x.run s w moves).calls[i]? = some c → c.phase = some phase →
        (x.run s w moves).Concludes s w i) ∧
    (∀ (b : Board) (moves : List Pool.Move) (i : Nat) (c : Pool.Call Q A) (report : Report),
      let x : Pool Q A σ := ⟨[], b, world, []⟩
      (x.run s w moves).calls[i]? = some c → c.phase = some (.ended report) →
        report.Announced s c.ticket (Pool.about i ((Pool.legs w).story s w x moves))
          (Voice.lifecycle (Pool.about i ((Pool.voices s w).story s w x moves)))) ∧
    (∀ (config : BlastRadius) (moves : List Pool.Move) (i : Nat) (c : Pool.Call Q A),
      let x : Pool Q A σ := .new config world
      let events := Voice.lifecycle (Pool.about i ((Pool.voices s w).story s w x moves))
      (x.run s w moves).calls[i]? = some c →
        (∀ key entry, (key, entry) ∈ (x.run s w moves).entries i →
          .started c.ticket.incident.id.text c.ticket.plan.actionType.name key.text ∈ events) ∧
        ∀ incident action target, .started incident action target ∈ events →
          target = (c.key config).text) := by
  refine ⟨fun b moves => ?_, fun b moves i c phase => ?_, fun b moves i c report => ?_,
    fun config moves i c => ?_⟩
  · exact Pool.run_events s w moves _
  · exact Pool.concludes
  · intro x out ended
    obtain ⟨goes, standing, same, said⟩ := (s.stable_speaks w).noted_run b world moves i c out
    rw [ended] at goes
    have announced := goes.announced
    rw [← same _ ended] at said
    rw [said]
    exact announced
  · exact Pool.charged_is_named config world moves

/-- A failure whose rollback fails too is started, rolled back in vain and finished. -/
theorem calls_are_announced_after_failure :
    let remediator : Remediator Unit fun _ => Unit :=
      { Remediator.plain .noOp fun _ _ => .done (.failure "half done" "disk full" 0.0 true) with
        rollback := some fun _ _ => .done (.error (.rollback "no way back")) }
    let s : Service Unit fun _ => Unit :=
      ⟨Registry.empty.register remediator, ⟨Stage.preValidation, []⟩, ⟨Stage.postValidation, []⟩⟩
    let w : Program.World Unit (fun _ => Unit) Unit := fun _ u => (u, u)
    let t : Ticket := ⟨.new ⟨7⟩ ⟨1700000000, 0⟩ .github "flaky_test", .new .noOp "", .standard⟩
    let config : BlastRadius := ⟨10, 1, 1, .standard⟩
    let m : Moment := ⟨0, ⟨1700000000, 0⟩⟩
    let x : Pool Unit (fun _ => Unit) Unit := .new config ()
    let moves : List Pool.Move := [.call m t, .step m 0, .step m 0]
    let events := Voice.lifecycle (Pool.about 0 ((Pool.voices s w).story s w x moves))
    ∃ c report, (x.run s w moves).calls[0]? = some c ∧ c.phase = some (.ended report) ∧
      .started t.incident.id.text t.plan.actionType.name TargetKey.global.text ∈ events ∧
      .rollback t.incident.id.text t.plan.actionType.name false ∈ events ∧
      ∃ before, events = before ++ [t.finished report] := by
  intro remediator s w t config m x moves events
  obtain ⟨-, -, announced, charged⟩ := s.calls_are_announced w ()
  obtain ⟨c, report, out, ticket, ended, performed⟩ : ∃ c report,
      (x.run s w moves).calls[0]? = some c ∧ c.ticket = t ∧ c.phase = some (.ended report) ∧
        report.rollbackPerformed = false := ⟨_, _, by rfl, by rfl, by rfl, by rfl⟩
  have said := announced (.new config) moves 0 c report out ended
  rw [ticket] at said
  have story : Pool.about 0 ((Pool.legs w).story s w x moves) = [.gates m (.new config),
      .execution m (.ok (.failure "half done" "disk full" 0.0 true)),
      .rollback m (.ok (.error (.rollback "no way back")))] := by
    rfl
  have undone : Leg.rollback m (.ok (.error (.rollback "no way back"))) ∈
      Pool.about 0 ((Pool.legs w).story s w x moves) := by
    rw [story]
    exact .tail _ (.tail _ (.head _))
  have recorded : (TargetKey.global, Limiter.Entry.start ⟨1700000000, 0⟩) ∈
      (x.run s w moves).entries 0 := by
    decide +kernel
  have started := (charged config moves 0 c out).1 _ _ recorded
  rw [ticket] at started
  refine ⟨c, report, out, ended, started, ?_, said.course.last⟩
  exact (said.rollback false).2 ⟨⟨m, _, undone⟩, performed.symm⟩

end Service

end Remedy
