import Remedy.Proofs.Service.Deeds

/-!
# The counters add up

Each deed moves at most one counter: an execution that begins, a rollback that succeeds, and a
report that comes out, which is a rejection, a success or a failure. After any run of calls the
counters have grown by their deeds, so rejections, successes and failures together are as many as
the calls that are over. One kind of report escapes: a rejection that the execution returned and no
gate made.
-/

namespace Remedy

variable {Q : Type} {A : Q → Type} {σ : Type}

/-! ## Counters -/

namespace Counters

def get (cs : Counters) : Counter → UInt64
  | .started => cs.started
  | .succeeded => cs.succeeded
  | .failed => cs.failed
  | .rejected => cs.rejected
  | .rollbacks => cs.rollbacks

/-- One more for each. -/
def tally (cs : Counters) (moved : List Counter) : Counters := moved.foldl increment cs

@[simp] theorem tally_append (cs : Counters) (moved more : List Counter) :
    cs.tally (moved ++ more) = (cs.tally moved).tally more :=
  List.foldl_append

theorem get_increment (cs : Counters) (c c' : Counter) :
    (cs.increment c').get c = cs.get c + if c' = c then 1 else 0 := by
  cases c <;> cases c' <;> simp [increment, get]

theorem get_tally (cs : Counters) (moved : List Counter) (c : Counter) :
    (cs.tally moved).get c = cs.get c + .ofNat (moved.count c) := by
  induction moved generalizing cs with
  | nil => simp [tally]
  | cons first rest ih =>
    have begun : cs.tally (first :: rest) = (cs.increment first).tally rest := rfl
    rw [begun, ih, get_increment, List.count_cons, UInt64.ofNat_add, UInt64.add_assoc]
    congr 1
    rw [UInt64.add_comm]
    congr 1
    by_cases same : first = c <;> simp [same]

/-- How many calls are over. -/
def ends (cs : Counters) : UInt64 := cs.succeeded + cs.failed + cs.rejected

end Counters

namespace Pool.Deed

/-- The counter that a deed is for. -/
def counter? : Deed → Option Counter
  | began => some .started
  | executed _ => none
  | undone (.ok (.ok _)) => some .rollbacks
  | undone _ => none
  | ended refused report =>
    some (if refused then .rejected else if report.success then .succeeded else .failed)

/-- A rejection that no gate made. -/
def escapes : Deed → Bool
  | ended false report => report.outcome = .rejected
  | _ => false

def isEnd : Deed → Bool
  | ended .. => true
  | _ => false

/-- The counter that a deed moves. -/
def moved? (d : Deed) : Option Counter := if d.escapes then none else d.counter?

theorem moved?_ended (report : Report) :
    (ended false report).moved? = Record.endCounter? report := by
  simp only [moved?, escapes, counter?, Record.endCounter?, decide_eq_true_eq]
  split
  · rfl
  · cases report.success <;> rfl

/-- A step moves the counter of the report that it ends with, and no other. -/
def Counted {W : Type} (b : Board) (x : Next W × Board) : Prop :=
  x.2.counters = b.counters.tally ((ofNext false x.1).filterMap moved?)

theorem Counted.congr {W : Type} {b b' : Board} {x : Next W × Board} (h : Counted b' x)
    (same : b'.counters = b.counters) : Counted b x := by
  rw [Counted, ← same]
  exact h

end Pool.Deed

/-! ## Steps -/

open Pool (Deed)

theorem Board.drop_counters (b : Board) (permit : Option Limiter.Permit) :
    (b.drop permit).counters = b.counters := by
  cases permit <;> rfl

theorem Board.finish_counters (b : Board) (permit : Option Limiter.Permit) (success : Bool) :
    (b.finish permit success).counters = b.counters := by
  cases permit <;> rfl

namespace Record

variable {W : Type} (r : Record) (m : Moment) (report : Report) (b : Board)

theorem finish_counted : Deed.Counted b (ending (r.finish m report b) : Next W × Board) := by
  simp only [Deed.Counted, ending, Deed.ofNext, List.filterMap_cons, List.filterMap_nil,
    Deed.moved?_ended]
  simp only [finish]
  cases endCounter? _ <;> rfl

theorem close_counted : Deed.Counted b (ending (r.close m report b) : Next W × Board) :=
  finish_counted _ m report b

variable (remediator : Remediator Q A)

theorem attemptRollback_counted :
    Deed.Counted b (r.attemptRollback m remediator report b) := by
  rw [attemptRollback]
  split
  · exact close_counted ..
  · rfl

theorem postValidate_counted (s : Service Q A) :
    Deed.Counted b (r.postValidate s m remediator report b) := by
  simp only [postValidate]
  split
  · exact close_counted ..
  · split
    · exact attemptRollback_counted ..
    · exact close_counted ..

/-- What a gate or an execution that begins adds to the counters. -/
theorem blastRadiusGate_counters :
    let x := r.blastRadiusGate m remediator b
    x.2.counters = b.counters.tally (match x.1 with
      | .ended _ => [.rejected]
      | .waiting _ => [.started]) := by
  simp only [blastRadiusGate]
  split
  · rfl
  · split <;> rfl

end Record

theorem Execution.settle_counted (e : Execution Q A) (s : Service Q A) (m : Moment)
    (outcome : Except Panic Report) (b : Board) : Deed.Counted b (e.settle s m outcome b) := by
  cases outcome with
  | error p => exact (Record.finish_counted ..).congr (b.drop_counters e.permit)
  | ok returned =>
    refine Deed.Counted.congr ?_ (b.finish_counters e.permit returned.success)
    simp only [settle]
    split
    · exact Record.attemptRollback_counted ..
    · split
      · exact Record.postValidate_counted ..
      · exact Record.close_counted ..

/-- A rollback that is over ends its call, counted when it succeeded. -/
theorem Undo.settle_finishes (u : Undo Q A) (m : Moment)
    (outcome : Except Panic (Except Fault String)) (b : Board) :
    ∃ r report b', u.settle m outcome b = Record.finish r m report b' ∧
      b'.counters = b.counters.tally ([.undone outcome].filterMap Deed.moved?) := by
  rcases outcome with p | f | description <;> exact ⟨_, _, _, rfl, rfl⟩

theorem Undo.settle_counters (u : Undo Q A) (m : Moment)
    (outcome : Except Panic (Except Fault String)) (b : Board) :
    (u.settle m outcome b).2.counters = b.counters.tally
      ([.undone outcome, .ended false (u.settle m outcome b).1].filterMap Deed.moved?) := by
  obtain ⟨r, report, b', finishes, before⟩ := u.settle_finishes m outcome b
  have counted : Deed.Counted b' (ending (r.finish m report b') : Next Unit × Board) :=
    Record.finish_counted ..
  rw [finishes, ← List.singleton_append, List.filterMap_append, Counters.tally_append, ← before]
  exact counted

namespace Service

variable (s : Service Q A) (m : Moment) (t : Ticket) (b : Board)

theorem resolve_counters (r : Record) :
    let x := r.resolve s m b
    x.2.counters = b.counters.tally (match x.1 with
      | .ended _ =>
        if !(s.registry.resolve r.ticket.incident r.ticket.plan).isOk then [.failed]
        else [.rejected]
      | .waiting _ => [.started]) := by
  simp only [Record.resolve]
  cases s.registry.resolve r.ticket.incident r.ticket.plan with
  | error f => rfl
  | ok remediator => exact r.blastRadiusGate_counters m b remediator

theorem receive_moves :
    let x := s.receive m t b
    x.2.counters = b.counters.tally (match x.1 with
      | .ended _ =>
        if s.clears t && !(s.registry.resolve t.incident t.plan).isOk then [.failed]
        else [.rejected]
      | .waiting _ => [.started]) := by
  simp only [receive, clears]
  by_cases skipped : t.options.skipPreValidation = true
  · simp only [skipped, if_true, Bool.true_or, Bool.true_and]
    exact s.resolve_counters m _ _
  · by_cases passed : (s.pre.validate (t.context none)).passed = true
    · simp only [skipped, passed, if_true, Bool.or_true, Bool.true_and]
      exact s.resolve_counters m _ _
    · simp only [skipped, passed, Bool.or_false, Bool.false_and]
      rfl

/-- The begin of a call moves the counter of what comes of it. -/
theorem receive_counters :
    (s.receive m t b).2.counters =
      b.counters.tally ((Deed.ofReceive s m t b).filterMap Deed.moved?) := by
  have moves := s.receive_moves m t b
  have received := s.receive_received m t b
  rw [Deed.ofReceive]
  revert moves received
  generalize s.receive m t b = next
  obtain ⟨report | e, b'⟩ := next
  · intro moves received
    rw [moves]
    congr 1
    obtain ⟨refuses, failed, outcome⟩ := Pool.refuses_of_ended received
    rw [refuses] at outcome
    simp only [refuses]
    revert outcome
    cases s.clears t && !(s.registry.resolve t.incident t.plan).isOk with
    | false => exact fun _ => rfl
    | true =>
      intro outcome
      have counter : (Deed.ended false report).moved? = some .failed := by
        rw [Deed.moved?_ended, Record.endCounter?, outcome, failed]
        rfl
      exact (congrArg Option.toList counter).symm
  · exact fun moves _ => moves

end Service

/-! ## Runs -/

namespace Pool

variable (s : Service Q A) (w : Program.World Q A σ)

theorem receive_counters (x : Pool Q A σ) (m : Moment) (t : Ticket) :
    (x.receive s m t).board.counters =
      x.board.counters.tally ((Deed.ofReceive s m t x.board).filterMap Deed.moved?) := by
  rw [← s.receive_counters m t x.board, Pool.receive]
  generalize s.receive m t x.board = next
  obtain ⟨report | e, b⟩ := next <;> rfl

theorem resume_counters (x : Pool Q A σ) (m : Moment) (i : Nat) {c : Call Q A}
    {phase : Phase Q A} (at_ : c.phase = some phase) :
    (x.resume s w m i c).board.counters = x.board.counters.tally
      ((Deed.ofResume s w m x.board x.world phase).filterMap Deed.moved?) := by
  rw [Pool.resume]
  rw [at_]
  cases phase with
  | executing e rest =>
    simp only [Deed.ofResume]
    generalize Program.turn w m.ms rest x.world = next
    obtain ⟨outcome | rest', events, world⟩ := next
    · exact e.settle_counted s m outcome (x.board.emitAll events)
    · rfl
  | rollingBack u rest =>
    simp only [Deed.ofResume]
    generalize Program.turn w m.ms rest x.world = next
    obtain ⟨outcome | rest', events, world⟩ := next
    · exact u.settle_counters m outcome (x.board.emitAll events)
    · rfl
  | ended report => rfl

theorem abandon_counters (x : Pool Q A σ) (i : Nat) (c : Call Q A) :
    (x.abandon i c).board.counters = x.board.counters := by
  rw [abandon_board]
  rcases c.phase with - | ⟨e, rest⟩ | - | -
  · rfl
  · exact x.board.drop_counters e.permit
  · rfl
  · rfl

/-- The counters that the deeds of a list move, in order. -/
def movedBy (notes : List (Nat × Deed)) : List Counter := notes.filterMap (·.2.moved?)

theorem step_counters (x : Pool Q A σ) (move : Move) :
    (x.step s w move).board.counters = x.board.counters.tally (movedBy (x.deeds s w move)) := by
  have tagged (i : Nat) (ds : List Deed) :
      movedBy (ds.map (i, ·)) = ds.filterMap Deed.moved? := by
    rw [movedBy, List.filterMap_map]
    rfl
  cases move with
  | call m t =>
    rw [deeds, tagged]
    exact x.receive_counters s m t
  | step m i =>
    simp only [Pool.step, deeds]
    cases out : x.calls[i]? with
    | none => rfl
    | some c =>
      cases at_ : c.phase with
      | none => simp [Pool.resume, at_, movedBy, Counters.tally]
      | some phase =>
        simp only [Option.bind_some, at_, tagged]
        exact x.resume_counters s w m i at_
  | drop i =>
    simp only [Pool.step, deeds]
    split
    · exact abandon_counters ..
    · rfl

theorem run_counters (moves : List Move) :
    ∀ x : Pool Q A σ, (x.run s w moves).board.counters =
      x.board.counters.tally (movedBy (x.chronicle s w moves)) := by
  induction moves with
  | nil => exact fun _ => rfl
  | cons move rest ih =>
    intro x
    have later := ih (x.step s w move)
    rw [step_counters] at later
    have split : movedBy (x.chronicle s w (move :: rest)) =
        movedBy (x.deeds s w move) ++ movedBy ((x.step s w move).chronicle s w rest) :=
      List.filterMap_append ..
    rw [split, Counters.tally_append]
    exact later

/-! ## Calls -/

section Courses

variable {s} {t : Ticket} {phase : Option (Phase Q A)} {deeds : List Deed}

/-- A call is over once. -/
theorem Course.countP_isEnd (course : Course s t phase deeds) : deeds.countP Deed.isEnd ≤ 1 := by
  induction course with
  | left _ ih => exact ih
  | stopped | executing | closed | rollingBack | undone => simp [Deed.isEnd]

theorem Course.ended {report : Report} (course : Course s t phase deeds)
    (at_ : phase = some (.ended report)) : ∃ refused, .ended refused report ∈ deeds := by
  cases course with
  | stopped =>
    cases at_
    exact ⟨_, .head _⟩
  | closed | undone =>
    cases at_
    exact ⟨false, by simp⟩
  | executing | rollingBack | left => cases at_

/-- No rejection escapes unless the execution returned it. -/
theorem Course.escapes (course : Course s t phase deeds) {d : Deed} (done : d ∈ deeds)
    (escapes : d.escapes = true) :
    ∃ returned, .executed (.ok returned) ∈ deeds ∧ returned.outcome = .rejected := by
  induction course with
  | @stopped refused report _ outcome =>
    rw [List.mem_singleton.1 done] at escapes
    cases refused with
    | true => cases escapes
    | false =>
      rw [Deed.escapes, outcome] at escapes
      cases escapes
  | executing =>
    rw [List.mem_singleton.1 done] at escapes
    cases escapes
  | rollingBack =>
    simp only [List.mem_cons, List.not_mem_nil, or_false] at done
    rcases done with rfl | rfl <;> cases escapes
  | closed rejected =>
    simp only [List.mem_cons, List.not_mem_nil, or_false] at done
    rcases done with rfl | rfl | rfl
    · cases escapes
    · cases escapes
    · obtain ⟨returned, rfl, outcome⟩ := rejected (of_decide_eq_true escapes)
      exact ⟨returned, by simp, outcome⟩
  | @undone returned report outcome tells =>
    simp only [List.mem_cons, List.not_mem_nil, or_false] at done
    rcases done with rfl | rfl | rfl | rfl
    · cases escapes
    · cases escapes
    · cases escapes
    · have rejected := tells.outcome.symm.trans (of_decide_eq_true escapes)
      exact ⟨returned, by simp, returned.outcome_of_outcomeAfter rejected⟩
  | left _ ih => exact ih done

end Courses

/-- A call that is over is a success, a failure or a rejection, and nothing else is. -/
theorem countP_isEnd (notes : List (Nat × Deed)) :
    notes.countP (·.2.isEnd) =
      notes.countP (·.2.counter? = some .succeeded) + notes.countP (·.2.counter? = some .failed) +
        notes.countP (·.2.counter? = some .rejected) := by
  induction notes with
  | nil => rfl
  | cons n rest ih =>
    have one : (if n.2.isEnd then 1 else 0) =
        (if n.2.counter? = some .succeeded then 1 else 0) +
          (if n.2.counter? = some .failed then 1 else 0) +
          (if n.2.counter? = some .rejected then 1 else 0) := by
      rcases n.2 with _ | _ | (_ | _ | _) | ⟨refused, report⟩ <;> try rfl
      cases refused with
      | true => rfl
      | false => cases hs : report.success <;> simp [Deed.isEnd, Deed.counter?, hs]
    simp only [List.countP_cons, decide_eq_true_eq]
    omega

/-- A counter moves with each deed that is for it, but for rejections that escape. -/
theorem count_movedBy (notes : List (Nat × Deed)) (c : Counter) :
    (movedBy notes).count c = notes.countP fun n => n.2.counter? = some c && !n.2.escapes := by
  rw [movedBy, List.count, List.countP_filterMap]
  refine List.countP_congr fun n _ => ?_
  rw [Deed.moved?]
  cases n.2.escapes with
  | true => simp
  | false => cases n.2.counter? <;> simp

/-- After any run of calls, each counter has grown by the deeds that are for it: by the executions
that began, by the rollbacks that succeeded, and for each call that is over, once, by the rejection
of a gate or else by the success or the failure of its report. So rejections, successes and failures
together have grown by the calls that are over. Only a rejection that an execution itself returned,
and no gate made, moves no counter. -/
theorem counters_add_up (b : Board) (world : σ) (moves : List Move) :
    let x : Pool Q A σ := ⟨[], b, world, []⟩
    let notes := x.chronicle s w moves
    let y := x.run s w moves
    (∀ i, (about i notes).countP Deed.isEnd ≤ 1) ∧
    (∀ i c report, y.calls[i]? = some c → c.phase = some (.ended report) →
      ∃ refused, (i, .ended refused report) ∈ notes) ∧
    (∀ c, y.board.counters.get c = b.counters.get c +
      .ofNat (notes.countP fun n => n.2.counter? = some c && !n.2.escapes)) ∧
    (∀ i d, (i, d) ∈ notes → d.escapes = true →
      ∃ returned, (i, .executed (.ok returned)) ∈ notes ∧ returned.outcome = .rejected) ∧
    ((∀ i returned, (i, .executed (.ok returned)) ∈ notes → returned.outcome ≠ .rejected) →
      (∀ c, y.board.counters.get c = b.counters.get c +
        .ofNat (notes.countP (·.2.counter? = some c))) ∧
      y.board.counters.ends = b.counters.ends + .ofNat (notes.countP (·.2.isEnd))) := by
  intro x notes y
  have chronicled : y.Chronicled s notes := chronicled_run s w b world moves
  have counted : ∀ c, y.board.counters.get c = b.counters.get c +
      .ofNat (notes.countP fun n => n.2.counter? = some c && !n.2.escapes) := by
    intro c
    rw [← count_movedBy, ← Counters.get_tally]
    exact congrArg (·.get c) (run_counters s w moves x)
  have escaped : ∀ i d, (i, d) ∈ notes → d.escapes = true →
      ∃ returned, (i, .executed (.ok returned)) ∈ notes ∧ returned.outcome = .rejected := by
    intro i d done escapes
    obtain ⟨c, -, course, mem⟩ := chronicled.course done
    obtain ⟨returned, executed, rejected⟩ := course.escapes mem escapes
    exact ⟨returned, mem_about.1 executed, rejected⟩
  refine ⟨fun i => ?_, fun i c report out at_ => ?_, counted, escaped, fun honest => ?_⟩
  · by_cases known : i < y.calls.length
    · exact (chronicled.courses i _ (List.getElem?_eq_getElem known)).countP_isEnd
    · have none : about i notes = [] :=
        about_eq_nil fun n hmem => Nat.lt_of_lt_of_le (chronicled.tagged n hmem)
          (Nat.le_of_not_lt known)
      rw [none]
      exact Nat.zero_le 1
  · obtain ⟨refused, ended⟩ := (chronicled.courses i c out).ended at_
    exact ⟨refused, mem_about.1 ended⟩
  · have all : ∀ c, y.board.counters.get c = b.counters.get c +
        .ofNat (notes.countP (·.2.counter? = some c)) := by
      intro c
      rw [counted]
      congr 2
      refine List.countP_congr fun n hmem => ?_
      have seen : n.2.escapes = false := by
        rw [Bool.eq_false_iff]
        intro escapes
        obtain ⟨returned, executed, rejected⟩ := escaped n.1 n.2 hmem escapes
        exact honest n.1 returned executed rejected
      rw [seen, Bool.not_false, Bool.and_true]
    refine ⟨all, ?_⟩
    have succeeded := all .succeeded
    have failed := all .failed
    have rejected := all .rejected
    rw [countP_isEnd, UInt64.ofNat_add, UInt64.ofNat_add]
    change y.board.counters.get .succeeded + y.board.counters.get .failed +
      y.board.counters.get .rejected = b.counters.get .succeeded + b.counters.get .failed +
      b.counters.get .rejected + _
    rw [succeeded, failed, rejected]
    ac_rfl

/-- A call that rolls back, one that is refused meanwhile and one that is given up. -/
theorem counters_add_up_rolledBack :
    let remediator : Remediator Unit fun _ => Unit :=
      { Remediator.plain .noOp fun _ _ => .done (.failure "no" "it broke" 0.0 true) with
        rollback := some fun _ _ => .done (.ok "all undone") }
    let s : Service Unit fun _ => Unit :=
      ⟨Registry.empty.register remediator, ⟨Stage.preValidation, []⟩, ⟨Stage.postValidation, []⟩⟩
    let w : Program.World Unit (fun _ => Unit) Unit := fun _ u => (u, u)
    let t : Ticket := ⟨.new ⟨7⟩ ⟨1700000000, 0⟩ .github "flaky_test", .new .noOp "", .standard⟩
    let m : Moment := ⟨0, ⟨1700000000, 0⟩⟩
    let b : Board := .new ⟨10, 5, 1, .standard⟩
    let moves : List Move := [.call m t, .call m t, .step m 0, .call m t, .drop 2, .step m 0]
    let x : Pool Unit (fun _ => Unit) Unit := ⟨[], b, (), []⟩
    (∀ i returned, (i, .executed (.ok returned)) ∈ x.chronicle s w moves →
        returned.outcome ≠ .rejected) ∧
      (x.run s w moves).board.counters.get .started = 2 ∧
      (x.run s w moves).board.counters.get .rollbacks = 1 ∧
      (x.run s w moves).board.counters.ends = 2 := by
  intro remediator s w t m b moves x
  obtain ⟨-, -, -, -, sums⟩ := counters_add_up s w b () moves
  have seen : ((x.chronicle s w moves).all fun n => match n.2 with
      | .executed (.ok returned) => returned.outcome ≠ .rejected
      | _ => true) = true := by decide +kernel
  have honest : ∀ i returned, (i, .executed (.ok returned)) ∈ x.chronicle s w moves →
      returned.outcome ≠ .rejected := by
    intro i returned done
    exact of_decide_eq_true (List.all_eq_true.1 seen _ done)
  obtain ⟨each, ends⟩ := sums honest
  have started := each .started
  have undone := each .rollbacks
  refine ⟨honest, ?_, ?_, ?_⟩
  · rw [started]
    decide +kernel
  · rw [undone]
    decide +kernel
  · rw [ends]
    decide +kernel

/-- A call that no gate refused, and that no counter saw end: its execution returned a rejection. -/
theorem returned_rejection_escapes :
    let remediator : Remediator Unit fun _ => Unit :=
      .plain .noOp fun _ _ => .done (.rejected "not today")
    let s : Service Unit fun _ => Unit :=
      ⟨Registry.empty.register remediator, ⟨Stage.preValidation, []⟩, ⟨Stage.postValidation, []⟩⟩
    let w : Program.World Unit (fun _ => Unit) Unit := fun _ u => (u, u)
    let t : Ticket := ⟨.new ⟨7⟩ ⟨1700000000, 0⟩ .github "flaky_test", .new .noOp "", .standard⟩
    let b : Board := .new ⟨10, 1, 1, .standard⟩
    let d := s.execute w (fun _ => ⟨1700000000, 0⟩) 0 t b ()
    s.refuses t b.limiter ⟨1700000000, 0⟩ = false ∧
      d.ran = [.execution remediator (.ok (.rejected "not today"))] ∧ d.report.success = false ∧
      d.board.counters = ⟨1, 0, 0, 0, 0⟩ := by
  intro remediator s w t b d
  exact ⟨by decide +kernel, by rfl, by rfl, by decide +kernel⟩

end Pool

end Remedy
