import Remedy.Proofs.Service.Notes

/-!
# Deeds

What the calls of a pool do that can be told from outside, in the order in which they do it: a
remediator begins, a program of it ends, a report comes out. The deeds of a call go together with
its phase, so each call does them in one of a few courses, whatever the calls beside it do.
-/

namespace Remedy

variable {Q : Type} {A : Q → Type} {σ : Type}

/-! ## What a call takes into its rollback, and out of it -/

/-- What a call that rolls back brings along from its execution. -/
structure Undo.Brings (u : Undo Q A) (s : Service Q A) (t : Ticket) (returned : Report) :
    Prop where
  ticket : u.record.ticket = t
  actions : u.report.actionsPerformed = returned.actionsPerformed
  required : u.report.rollbackRequired = true
  failed : u.report.success = false
  checked : returned.success = true →
    s.confirms t returned = false ∧ u.report.postValidationPassed = false
  outcome : u.report.outcome = if returned.success then .failed else returned.outcome

/-- The outcome of a call that rolled back. -/
def Report.outcomeAfter (returned : Report) : Except Panic (Except Fault String) → Outcome
  | .ok (.ok _) => .rolledBack
  | .ok (.error _) => if returned.success then .failed else returned.outcome
  | .error _ => .failed

theorem Report.outcome_of_outcomeAfter (returned : Report)
    {undone : Except Panic (Except Fault String)}
    (rejected : returned.outcomeAfter undone = .rejected) : returned.outcome = .rejected := by
  rcases undone with p | f | description
  · cases rejected
  · simp only [outcomeAfter] at rejected
    split at rejected
    · cases rejected
    · exact rejected
  · cases rejected

/-- What a report says of a rollback, and of what came before it. -/
structure Report.Tells (report : Report) (s : Service Q A) (t : Ticket) (returned : Report)
    (undone : Except Panic (Except Fault String)) : Prop where
  failed : report.success = false
  performed : report.rollbackPerformed = true ↔ ∃ description, undone = .ok (.ok description)
  outcome : report.outcome = returned.outcomeAfter undone
  /-- A rollback that breaks off takes with it what was known before. -/
  kept : (∀ p, undone ≠ .error p) →
    returned.actionsPerformed <+: report.actionsPerformed ∧ report.rollbackRequired = true ∧
      (returned.success = true →
        s.confirms t returned = false ∧ report.postValidationPassed = false)

namespace Record

variable {s : Service Q A} {t : Ticket} {r : Record} {m : Moment} {remediator : Remediator Q A}
  {report returned : Report} {b b' : Board} {u : Undo Q A}

theorem attemptRollback_waiting
    (next : r.attemptRollback m remediator report b = (.waiting u, b')) :
    u.record = r ∧ u.report = report := by
  rw [attemptRollback] at next
  split at next
  · cases next
  · cases next
    exact ⟨rfl, rfl⟩

theorem attemptRollback_ended {report' : Report}
    (next : r.attemptRollback m remediator report b = (.ended report', b')) :
    report'.outcome = report.outcome := by
  rw [attemptRollback] at next
  split at next
  · cases next
    rfl
  · cases next

theorem postValidate_ended {report' : Report}
    (next : r.postValidate s m remediator report b = (.ended report', b')) :
    report'.outcome = .failed ∨ report'.outcome = report.outcome := by
  simp only [postValidate] at next
  split at next
  · cases next
    exact .inr rfl
  · split at next
    · exact .inl (attemptRollback_ended next)
    · cases next
      exact .inl rfl

/-- A result that did not pass the checks is rolled back as a failure. -/
theorem postValidate_brings (ticket : r.ticket = t) (success : returned.success = true)
    (asked : t.options.skipPostValidation = false)
    (next : r.postValidate s m remediator returned.handedOn b = (.waiting u, b')) :
    u.Brings s t returned := by
  simp only [postValidate, ticket] at next
  split at next
  · cases next
  · next failed =>
    have unconfirmed : s.confirms t returned = false := by
      simp [Service.confirms, asked, failed]
    split at next
    · obtain ⟨record, report⟩ := attemptRollback_waiting next
      refine ⟨?_, ?_, ?_, ?_, fun _ => ⟨unconfirmed, ?_⟩, ?_⟩
      · rw [record]
        exact ticket
      · rw [report]
        rfl
      · rw [report]
      · rw [report]
        rfl
      · rw [report]
        rfl
      · rw [report, if_pos success]
        rfl
    · cases next

end Record

/-- An execution that goes on to a rollback has returned, and what it returned is brought along. -/
theorem Execution.settle_waiting {e : Execution Q A} {s : Service Q A} {m : Moment}
    {outcome : Except Panic Report} {b b' : Board} {u : Undo Q A}
    (next : e.settle s m outcome b = (.waiting u, b')) :
    ∃ returned, outcome = .ok returned ∧ u.Brings s e.record.ticket returned := by
  cases outcome with
  | error p => cases next
  | ok returned =>
    refine ⟨returned, rfl, ?_⟩
    simp only [settle, Report.handedOn_success, Record.executed_ticket] at next
    split at next
    · next undone =>
      rw [Bool.and_eq_true, Bool.not_eq_true'] at undone
      obtain ⟨record, report⟩ := Record.attemptRollback_waiting next
      refine ⟨?_, ?_, ?_, ?_, fun success => ?_, ?_⟩
      · rw [record, Record.executed_ticket]
      · rw [report]
        rfl
      · rw [report]
        exact undone.2
      · rw [report]
        exact undone.1
      · rw [undone.1] at success
        cases success
      · rw [report, undone.1]
        rfl
    · split at next
      · next checked =>
        rw [Bool.and_eq_true, Bool.not_eq_true'] at checked
        exact Record.postValidate_brings (Record.executed_ticket ..) checked.1 checked.2 next
      · cases next

/-- No report comes out as a rejection unless the execution returned one. -/
theorem Execution.settle_rejected {e : Execution Q A} {s : Service Q A} {m : Moment}
    {outcome : Except Panic Report} {b b' : Board} {report : Report}
    (next : e.settle s m outcome b = (.ended report, b')) (rejected : report.outcome = .rejected) :
    ∃ returned, outcome = .ok returned ∧ returned.outcome = .rejected := by
  cases outcome with
  | error p =>
    cases next
    cases rejected
  | ok returned =>
    refine ⟨returned, rfl, ?_⟩
    simp only [settle] at next
    split at next
    · rw [Record.attemptRollback_ended next] at rejected
      exact rejected
    · split at next
      · rcases Record.postValidate_ended next with failed | same
        · rw [failed] at rejected
          cases rejected
        · rw [same] at rejected
          exact rejected
      · cases next
        exact rejected

/-- What was brought along is in the report, unless the rollback breaks off. -/
theorem Undo.Brings.tells {u : Undo Q A} {s : Service Q A} {t : Ticket} {returned : Report}
    (h : u.Brings s t returned) (m : Moment) (undone : Except Panic (Except Fault String))
    (b : Board) : (u.settle m undone b).1.Tells s t returned undone := by
  have failed := u.settle_success m undone b h.failed
  have unperformed {report : Report} (none : report.rollbackPerformed = false)
      (wrong : ∀ description, undone ≠ .ok (.ok description)) :
      report.rollbackPerformed = true ↔ ∃ description, undone = .ok (.ok description) := by
    rw [none]
    exact ⟨nofun, fun ⟨description, fine⟩ => absurd fine (wrong description)⟩
  rcases undone with p | f | description
  · exact ⟨failed, unperformed rfl nofun, rfl, fun whole => absurd rfl (whole p)⟩
  · refine ⟨failed, unperformed rfl nofun, h.outcome, fun _ => ⟨?_, h.required, h.checked⟩⟩
    rw [← h.actions]
    exact List.prefix_rfl
  · refine ⟨failed, ⟨fun _ => ⟨description, rfl⟩, fun _ => rfl⟩, rfl,
      fun _ => ⟨?_, h.required, h.checked⟩⟩
    rw [← h.actions]
    exact List.prefix_append ..

/-! ## Deeds -/

/-- A gate refuses a ticket: the checks before execution, or the limiter once it is asked. -/
def Service.refuses (s : Service Q A) (t : Ticket) (l : Limiter) (now : Time.Instant) : Bool :=
  !s.clears t || (s.registry.resolve t.incident t.plan).isOk && !t.affords l now

namespace Pool

inductive Deed where
  /-- The remediator starts to execute. -/
  | began
  /-- The execution ends. -/
  | executed (outcome : Except Panic Report)
  /-- The rollback ends. -/
  | undone (outcome : Except Panic (Except Fault String))
  /-- The report comes out. -/
  | ended (refused : Bool) (report : Report)

namespace Deed

/-- A step that a call ends with. -/
def ofNext {W : Type} (refused : Bool) : Next W → List Deed
  | .ended report => [ended refused report]
  | .waiting _ => []

def ofReceive (s : Service Q A) (m : Moment) (t : Ticket) (b : Board) : List Deed :=
  match (s.receive m t b).1 with
  | .ended report => [ended (s.refuses t b.limiter m.date) report]
  | .waiting _ => [began]

def ofResume (s : Service Q A) (w : Program.World Q A σ) (m : Moment) (b : Board) (world : σ) :
    Phase Q A → List Deed
  | .executing e rest =>
    match Program.turn w m.ms rest world with
    | (.on _, _, _) => []
    | (.ended outcome, events, _) =>
      executed outcome :: ofNext false (e.settle s m outcome (b.emitAll events)).1
  | .rollingBack u rest =>
    match Program.turn w m.ms rest world with
    | (.on _, _, _) => []
    | (.ended outcome, events, _) =>
      [undone outcome, ended false (u.settle m outcome (b.emitAll events)).1]
  | .ended _ => []

end Deed

/-- What a move leads to, with the call that it concerns. -/
def deeds (s : Service Q A) (w : Program.World Q A σ) (x : Pool Q A σ) :
    Move → List (Nat × Deed)
  | .call m t => (Deed.ofReceive s m t x.board).map (x.calls.length, ·)
  | .step m i =>
    match x.calls[i]?.bind (·.phase) with
    | some phase => (Deed.ofResume s w m x.board x.world phase).map (i, ·)
    | none => []
  | .drop _ => []

/-- The deeds of a run, oldest first. -/
def chronicle (s : Service Q A) (w : Program.World Q A σ) :
    Pool Q A σ → List Move → List (Nat × Deed)
  | _, [] => []
  | x, move :: moves => x.deeds s w move ++ chronicle s w (x.step s w move) moves

/-- The courses that a call can take, up to where it stands. -/
inductive Course (s : Service Q A) (t : Ticket) : Option (Phase Q A) → List Deed → Prop where
  | stopped {refused : Bool} {report : Report} (failed : report.success = false)
      (outcome : report.outcome = if refused then .rejected else .failed) :
      Course s t (some (.ended report)) [.ended refused report]
  | executing {e : Execution Q A} {rest : Program Q A Report} (ticket : e.record.ticket = t) :
      Course s t (some (.executing e rest)) [.began]
  | closed {outcome : Except Panic Report} {report : Report}
      (rejected : report.outcome = .rejected →
        ∃ returned, outcome = .ok returned ∧ returned.outcome = .rejected) :
      Course s t (some (.ended report)) [.began, .executed outcome, .ended false report]
  | rollingBack {u : Undo Q A} {rest : Program Q A (Except Fault String)} {returned : Report}
      (brings : u.Brings s t returned) :
      Course s t (some (.rollingBack u rest)) [.began, .executed (.ok returned)]
  | undone {returned report : Report} {outcome : Except Panic (Except Fault String)}
      (tells : report.Tells s t returned outcome) :
      Course s t (some (.ended report))
        [.began, .executed (.ok returned), .undone outcome, .ended false report]
  | left {phase : Phase Q A} {deeds : List Deed} (course : Course s t (some phase) deeds) :
      Course s t none deeds

/-- Every call of a pool is on its course. -/
structure Chronicled (s : Service Q A) (x : Pool Q A σ) (notes : List (Nat × Deed)) : Prop where
  tagged : ∀ n ∈ notes, n.1 < x.calls.length
  courses : ∀ i c, x.calls[i]? = some c → Course s c.ticket c.phase (about i notes)

variable {s : Service Q A} {w : Program.World Q A σ} {x : Pool Q A σ} {notes : List (Nat × Deed)}
  {i : Nat} {c : Call Q A}

/-- Whatever was done, a call did it on its course. -/
theorem Chronicled.course (h : x.Chronicled s notes) {d : Deed} (done : (i, d) ∈ notes) :
    ∃ c, x.calls[i]? = some c ∧ Course s c.ticket c.phase (about i notes) ∧ d ∈ about i notes := by
  have out := List.getElem?_eq_getElem (h.tagged (i, d) done)
  exact ⟨_, out, h.courses i _ out, mem_about.2 done⟩

/-! ### Every move keeps to the courses -/

/-- A call that ends at its begin was refused, unless it was let through and has no remediator. -/
theorem refuses_of_ended {m : Moment} {t : Ticket} {b b' : Board} {report : Report}
    (received : Received s m t b (.ended report, b')) :
    s.refuses t b.limiter m.date =
        !(s.clears t && !(s.registry.resolve t.incident t.plan).isOk) ∧
      report.success = false ∧
      report.outcome = if s.refuses t b.limiter m.date then .rejected else .failed := by
  cases received with
  | refused stopped failed rejected =>
    simp [Service.refuses, stopped, failed, rejected]
  | unresolved cleared none failed outcome =>
    simp [Service.refuses, cleared, none, failed, outcome, Except.isOk, Except.toBool]
  | exhausted cleared found denied failed rejected =>
    simp [Service.refuses, cleared, found, denied, failed, rejected, Except.isOk, Except.toBool]

theorem course_of_ended {m : Moment} {t : Ticket} {b b' : Board} {report : Report}
    (received : Received s m t b (.ended report, b')) :
    Course s t (some (.ended report)) [.ended (s.refuses t b.limiter m.date) report] := by
  obtain ⟨-, failed, outcome⟩ := refuses_of_ended received
  exact .stopped failed outcome

theorem course_of_waiting {m : Moment} {t : Ticket} {b b' : Board} {e : Execution Q A}
    (received : Received s m t b (.waiting e, b')) :
    Course s t (some (.executing e e.program)) [.began] := by
  cases received with
  | unmetered _ _ ticket => exact .executing ticket
  | granted _ _ ticket => exact .executing ticket

/-- An execution that ends leads to the end of its call or to its rollback. -/
theorem course_settle (t : Ticket) (m : Moment) (e : Execution Q A)
    (outcome : Except Panic Report) (b : Board) (ticket : e.record.ticket = t) :
    Course s t (some (.ofUndo (e.settle s m outcome b).1))
      (.began :: .executed outcome :: Deed.ofNext false (e.settle s m outcome b).1) := by
  generalize hnext : e.settle s m outcome b = next
  obtain ⟨report | u, b'⟩ := next
  · exact .closed (Execution.settle_rejected hnext)
  · obtain ⟨returned, rfl, brings⟩ := Execution.settle_waiting hnext
    rw [ticket] at brings
    exact .rollingBack brings

/-- The deeds of a call, noted as they are done. -/
def Deed.scribe (s : Service Q A) (w : Program.World Q A σ) : Scribe Q A σ Deed where
  begins := Deed.ofReceive s
  goes := Deed.ofResume s w

theorem chronicle_eq_story (moves : List Move) :
    x.chronicle s w moves = (Deed.scribe s w).story s w x moves := by
  induction moves generalizing x with
  | nil => rfl
  | cons move rest ih =>
    have same : x.deeds s w move = (Deed.scribe s w).notes x move := by cases move <;> rfl
    rw [chronicle, Scribe.story, same, ih]

/-- Every step of a call is on its course. -/
theorem stable_course (s : Service Q A) (w : Program.World Q A σ) :
    Stable (Deed.scribe s w) s w (Course s) where
  begins m t b := by
    have received := s.receive_received m t b
    simp only [Deed.scribe, Deed.ofReceive]
    generalize s.receive m t b = next at received
    obtain ⟨report | e, b'⟩ := next
    · exact course_of_ended received
    · exact course_of_waiting received
  goes t phase notes m b world course := by
    cases phase with
    | executing e rest =>
      cases course with
      | executing ticket =>
        simp only [Phase.turned, Deed.scribe, Deed.ofResume]
        generalize Program.turn w m.ms rest world = turn
        obtain ⟨outcome | rest', events, world'⟩ := turn
        · exact course_settle t m e outcome (b.emitAll events) ticket
        · exact .executing ticket
    | rollingBack u rest =>
      cases course with
      | rollingBack brings =>
        simp only [Phase.turned, Deed.scribe, Deed.ofResume]
        generalize Program.turn w m.ms rest world = turn
        obtain ⟨outcome | rest', events, world'⟩ := turn
        · exact .undone (brings.tells m outcome (b.emitAll events))
        · exact .rollingBack brings
    | ended report =>
      simp only [Phase.turned, Deed.scribe, Deed.ofResume, List.append_nil]
      exact course
  left _ _ _ course := .left course

theorem chronicled_run (s : Service Q A) (w : Program.World Q A σ) (b : Board) (world : σ)
    (moves : List Move) : ((⟨[], b, world, []⟩ : Pool Q A σ).run s w moves).Chronicled s
      ((⟨[], b, world, []⟩ : Pool Q A σ).chronicle s w moves) := by
  have noted := noted_run (stable_course s w) b world moves
  rw [chronicle_eq_story]
  exact ⟨noted.tagged, noted.calls⟩

end Pool

end Remedy
