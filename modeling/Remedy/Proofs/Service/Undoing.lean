import Remedy.Proofs.Service.Fates

/-!
# When rollbacks happen

A call begins a rollback in the step that ends its execution or not at all. It does so just when the
result is to be undone and the remediator can do that, and by then the permit has been given back.
What comes of the rollback is added to the report; what was there before stays.
-/

namespace Remedy

variable {Q : Type} {A : Q → Type} {σ : Type}

/-! ## What is due -/

/-- A rollback is due after a failure that asks for one, and after a success that the checks object
to if the plan asks for one. The remediator has to have one. -/
structure Service.Owes (s : Service Q A) (t : Ticket) (returned : Report) : Prop where
  offered : ∃ remediator, s.registry.resolve t.incident t.plan = .ok remediator ∧
    remediator.rollback.isSome = true
  due : returned.success = false ∧ returned.rollbackRequired = true ∨
    returned.success = true ∧ t.options.skipPostValidation = false ∧
      (s.post.validate (t.context (some returned.handedOn))).passed = false ∧
      t.plan.requiresRollbackSnapshot = true

theorem Service.rollsBack_iff {s : Service Q A} {t : Ticket} {returned : Report} :
    s.rollsBack t (.ok returned) = true ↔ s.Owes t returned := by
  have offered : s.reversible t = true ↔
      ∃ remediator, s.registry.resolve t.incident t.plan = .ok remediator ∧
        remediator.rollback.isSome = true := by
    rw [reversible]
    cases s.registry.resolve t.incident t.plan with
    | error f => simp
    | ok remediator => simp
  have due : s.undoes t returned = true ↔
      (returned.success = false ∧ returned.rollbackRequired = true ∨
        returned.success = true ∧ t.options.skipPostValidation = false ∧
          (s.post.validate (t.context (some returned.handedOn))).passed = false ∧
          t.plan.requiresRollbackSnapshot = true) := by
    rw [undoes, reviewed?]
    cases returned.success with
    | false => simp
    | true =>
      cases t.options.skipPostValidation with
      | true => simp
      | false => simp
  rw [rollsBack, Bool.and_eq_true, offered, due]
  constructor
  · rintro ⟨due, offered⟩
    exact ⟨offered, due⟩
  · rintro ⟨offered, due⟩
    exact ⟨due, offered⟩

/-! ## Rollbacks that begin -/

/-- The rollback that a step leads to. -/
def Next.undo? : Next (Undo Q A) → List (Undo Q A)
  | .ended _ => []
  | .waiting u => [u]

namespace Pool

/-- The rollbacks that a call begins. -/
def undos (s : Service Q A) (w : Program.World Q A σ) : Scribe Q A σ (Undo Q A) where
  begins _ _ _ := []
  goes m b world
    | .executing e rest =>
      match Program.turn w m.ms rest world with
      | (.on _, _, _) => []
      | (.ended outcome, events, _) => (e.settle s m outcome (b.emitAll events)).1.undo?
    | .rollingBack _ _ | .ended _ => []

end Pool

/-- The rollbacks that a call has begun, beside its legs. -/
inductive Service.Begins (s : Service Q A) (t : Ticket) (legs : List Leg) :
    List (Undo Q A) → Prop where
  | none (whole : ∀ m returned, .execution m (.ok returned) ∈ legs → ¬ s.Owes t returned) :
      Begins s t legs []
  | one {m : Moment} {returned : Report} {u : Undo Q A}
      (came : .execution m (.ok returned) ∈ legs) (due : u.Due s t returned) :
      Begins s t legs [u]

namespace Service

variable {s : Service Q A} {t : Ticket} {legs : List Leg} {begun : List (Undo Q A)}

/-- A leg that is not an execution is no reason for a rollback. -/
theorem Begins.append (h : s.Begins t legs begun) {more : List Leg}
    (other : ∀ m outcome, .execution m outcome ∉ more) : s.Begins t (legs ++ more) begun := by
  cases h with
  | none whole =>
    refine .none fun m returned among => ?_
    rcases List.mem_append.1 among with before | after
    · exact whole m returned before
    · exact absurd after (other m _)
  | one came due => exact .one (List.mem_append_left _ came) due

theorem begins_settle {e : Execution Q A} {m m' : Moment} {l : Limiter} (ready : e.Ready s t l)
    (outcome : Except Panic Report) (b : Board) :
    s.Begins t [.gates m' l, .execution m outcome] (e.settle s m outcome b).1.undo? := by
  cases outcome with
  | error p =>
    refine .none fun m returned among => ?_
    simp at among
  | ok returned =>
    have settled := ready.settle m returned b
    generalize e.settle s m (.ok returned) b = next at settled
    obtain ⟨report | u, b'⟩ := next
    · refine .none fun m' returned' among => ?_
      have same : m' = m ∧ returned' = returned := by simpa using among
      rw [same.2, ← rollsBack_iff, settled.1]
      exact Bool.false_ne_true
    · have came : Leg.execution m (.ok returned) ∈ [.gates m' l, .execution m (.ok returned)] := by
        simp
      exact .one came settled

/-- Every step of a call begins a rollback only if it ends an execution after which one is due. -/
theorem stable_begins (s : Service Q A) (w : Program.World Q A σ) :
    Pool.StableBeside (Pool.legs w) (Pool.undos s w) s w fun t phase legs begun =>
      s.Goes t phase legs ∧ s.Begins t legs begun where
  begins m t b := by
    refine ⟨s.goes_receive m t b, .none fun m' returned among => ?_⟩
    simp [Pool.legs] at among
  goes t phase legs begun m b world held := by
    obtain ⟨goes, begins⟩ := held
    refine ⟨(s.stable_goes w).goes t phase legs m b world goes, ?_⟩
    cases phase with
    | executing e rest =>
      cases goes with
      | executing opens ready =>
        have none : begun = [] := by
          cases begins with
          | none => rfl
          | one came => simp at came
        subst none
        simp only [Pool.legs, Pool.undos, List.nil_append]
        generalize Program.turn w m.ms rest world = turn
        obtain ⟨outcome | rest', events, world'⟩ := turn
        · exact begins_settle ready outcome _
        · rw [List.append_nil]
          exact begins
    | rollingBack u rest =>
      simp only [Pool.undos, List.append_nil]
      refine begins.append fun m' outcome among => ?_
      simp only [Pool.legs] at among
      split at among <;> simp at among
    | ended report =>
      simp only [Pool.legs, Pool.undos, List.append_nil]
      exact begins
  left t phase legs begun held := ⟨.left held.1, held.2⟩

end Service

/-! ## What is said of rollbacks -/

/-- How a rollback of a leg ended. -/
def Leg.undone? : Leg → Option (Except Panic (Except Fault String))
  | .rollback _ undone => some undone
  | .gates _ _ | .execution _ _ => none

/-- What a rollback makes of a result. One that breaks off loses it. -/
def Report.Unwound (report returned : Report) : Except Panic (Except Fault String) → Prop
  | .ok (.ok description) =>
    report.outcome = .rolledBack ∧
      report.actionsPerformed = returned.actionsPerformed ++ ["rollback: " ++ description]
  | .ok (.error f) =>
    report.outcome = (if returned.success then .failed else returned.outcome) ∧
      report.actionsPerformed = returned.actionsPerformed ∧
      report.metadata = returned.handedOn.metadata.insert "rollback_error" (.str f.text)
  | .error _ => report.outcome = .failed ∧ report.actionsPerformed = []

/-- A call that has ended ran at most one rollback, and that just when one was due. -/
structure Report.Undoes (report : Report) (s : Service Q A) (t : Ticket) (legs : List Leg) :
    Prop where
  once : (legs.filterMap Leg.undone?).length ≤ 1
  due : legs.filterMap Leg.undone? ≠ [] ↔
    ∃ m returned, .execution m (.ok returned) ∈ legs ∧ s.Owes t returned
  told : ∀ undone ∈ legs.filterMap Leg.undone?, ∃ m returned,
    .execution m (.ok returned) ∈ legs ∧ report.Unwound returned undone

/-- A call, wherever it stands, has begun at most one rollback, and that just when one was due: the
one of the remediator that was found for it. -/
structure Service.Unwinds (s : Service Q A) (t : Ticket) (legs : List Leg)
    (begun : List (Undo Q A)) : Prop where
  once : begun.length ≤ 1
  due : begun ≠ [] ↔ ∃ m returned, .execution m (.ok returned) ∈ legs ∧ s.Owes t returned
  own : ∀ u ∈ begun, ∃ remediator, s.registry.resolve t.incident t.plan = .ok remediator ∧
    remediator.rollback = some u.rollback ∧ u.program = u.rollback t.incident t.plan

namespace Service

variable {s : Service Q A} {t : Ticket} {legs : List Leg} {begun : List (Undo Q A)}

theorem Begins.unwinds (h : s.Begins t legs begun) : s.Unwinds t legs begun := by
  cases h with
  | none whole =>
    refine ⟨Nat.zero_le _, ⟨fun some => absurd rfl some, ?_⟩, List.forall_mem_nil _⟩
    rintro ⟨m, returned, among, owes⟩
    exact absurd owes (whole m returned among)
  | @one m returned u came due =>
    have owes : s.Owes t returned := rollsBack_iff.1 due.rollsBack
    refine ⟨Nat.le_refl _, ⟨fun _ => ⟨m, returned, came, owes⟩, fun _ => List.cons_ne_nil _ _⟩, ?_⟩
    intro u' among
    cases List.mem_singleton.1 among
    obtain ⟨remediator, found, offered⟩ := due.offered
    refine ⟨remediator, found, offered, ?_⟩
    rw [Undo.program, due.ticket]

theorem judged_actions (returned : Report) :
    (s.judged t returned).actionsPerformed = returned.actionsPerformed := by
  rw [judged]
  split
  · rfl
  · split <;> rfl

theorem judged_metadata (returned : Report) :
    (s.judged t returned).metadata = returned.handedOn.metadata := by
  rw [judged]
  split
  · rfl
  · split <;> rfl

/-- A success that is to be undone has become a failure, and a failure stays what it was. -/
theorem judged_outcome {returned : Report} (owes : s.Owes t returned) :
    (s.judged t returned).outcome = if returned.success then .failed else returned.outcome := by
  rcases owes.due with ⟨failed, -⟩ | ⟨success, asked, failed, -⟩
  · have unreviewed : s.reviewed? t returned = none := by simp [reviewed?, failed]
    rw [judged_of_unreviewed unreviewed, failed, if_neg Bool.false_ne_true]
    rfl
  · have reviewed : s.reviewed? t returned =
        some (s.post.validate (t.context (some returned.handedOn))) := by
      simp [reviewed?, success, asked]
    rw [judged_of_failed reviewed failed, success, if_pos rfl]

theorem unwound_of_resembles {report returned : Report} (owes : s.Owes t returned)
    {undone : Except Panic (Except Fault String)}
    (comes : report.Resembles (s.unwound t returned undone)) : report.Unwound returned undone := by
  rw [comes]
  rcases undone with p | f | description
  · exact ⟨rfl, rfl⟩
  · refine ⟨judged_outcome owes, judged_actions returned, ?_⟩
    exact congrArg (Dict.insert · "rollback_error" _) (judged_metadata returned)
  · exact ⟨rfl, congrArg (· ++ ["rollback: " ++ description]) (judged_actions returned)⟩

/-- A call that has run no rollback did well if none was due. -/
theorem undoes_of_none {report : Report} (none : legs.filterMap Leg.undone? = [])
    (whole : ∀ m returned, .execution m (.ok returned) ∈ legs → ¬ s.Owes t returned) :
    report.Undoes s t legs := by
  refine ⟨?_, ?_, ?_⟩
  · simp [none]
  · rw [none]
    constructor
    · exact fun some => absurd rfl some
    · rintro ⟨m, returned, among, owes⟩
      exact absurd owes (whole m returned among)
  · simp [none]

theorem Goes.undoes {report : Report} (goes : s.Goes t (some (.ended report)) legs) :
    report.Undoes s t legs := by
  cases goes with
  | stopped barred comes =>
    refine undoes_of_none rfl fun m returned among => ?_
    simp at among
  | @closed m m' l outcome report opens kept comes =>
    refine undoes_of_none rfl fun m'' returned among owes => ?_
    have same : outcome = .ok returned := by
      simp at among
      exact among.2.symm
    rw [same, rollsBack_iff.2 owes] at kept
    cases kept
  | @undone m m' m'' l returned report undone opens due comes =>
    have owes : s.Owes t returned := rollsBack_iff.1 due
    have came : Leg.execution m' (.ok returned) ∈
        [.gates m l, .execution m' (.ok returned), .rollback m'' undone] := by
      simp
    have ran : [Leg.gates m l, .execution m' (.ok returned), .rollback m'' undone].filterMap
        Leg.undone? = [undone] := rfl
    refine ⟨?_, ?_, ?_⟩
    · simp [ran]
    · rw [ran]
      exact ⟨fun _ => ⟨m', returned, came, owes⟩, fun _ => List.cons_ne_nil _ _⟩
    · rw [ran]
      intro undone' among
      rw [List.mem_singleton.1 among]
      exact ⟨m', returned, came, unwound_of_resembles owes comes⟩

end Service

namespace Service

/-- A call begins a rollback at most once, the one of its remediator, and that just when one is due:
after a failure that asks for it, and after a success that the checks object to under a plan that
asks for it. The permit has been given back by then. A rollback that is performed makes the outcome
and adds one action after those that were reported; one that fails changes neither and is noted
beside. So it is for a call alone and for every call of a pool. -/
theorem rollbacks_are_due (s : Service Q A) (w : Program.World Q A σ) (world : σ) :
    (∀ (b : Board) (date : Nat → Time.Instant) (now : Nat) (t : Ticket),
      (s.execute w date now t b world).report.Undoes s t (s.legs w date now t b world)) ∧
    (∀ (b : Board) (moves : List Pool.Move) (i : Nat) (c : Pool.Call Q A),
      let x : Pool Q A σ := ⟨[], b, world, []⟩
      let legs := Pool.about i ((Pool.legs w).story s w x moves)
      let begun := Pool.about i ((Pool.undos s w).story s w x moves)
      (x.run s w moves).calls[i]? = some c →
        s.Unwinds c.ticket legs begun ∧
        ∀ report, c.phase = some (.ended report) → report.Undoes s c.ticket legs) ∧
    (∀ (config : BlastRadius) (moves : List Pool.Move) (i : Nat) (c : Pool.Call Q A),
      let x : Pool Q A σ := .new config world
      let legs := Pool.about i ((Pool.legs w).story s w x moves)
      (x.run s w moves).calls[i]? = some c →
        Pool.about i ((Pool.undos s w).story s w x moves) ≠ [] →
        ∃ m returned, .execution m (.ok returned) ∈ legs ∧
          (x.run s w moves).entries i = if c.ticket.options.skipBlastRadius then []
            else [(c.key config, .start c.begun.date),
              (c.key config, .finish returned.success)]) := by
  refine ⟨fun b date now t => ?_, fun b moves i c => ?_, fun config moves i c => ?_⟩
  · exact Goes.undoes ((s.stable_goes w).alone date now t b world)
  · intro x legs begun out
    obtain ⟨goes, begins⟩ := (s.stable_begins w).noted_run b world moves i c out
    refine ⟨begins.unwinds, fun report ended => ?_⟩
    rw [ended] at goes
    exact goes.undoes
  · intro x legs out some
    obtain ⟨-, begins⟩ := (s.stable_begins w).noted_run (.new config) world moves i c out
    obtain ⟨m, returned, came, -⟩ := begins.unwinds.due.1 some
    have fated := Pool.fated_run s w (.new config) world moves
    have fate := (fated.fits i c out).executed m (.ok returned) came
    have coherent := Pool.coherent_run s w config world moves
    exact ⟨m, returned, came, Pool.entries_of_returned coherent out fate⟩

/-- A success that the checks object to, and a rollback that fails: the failure that the success has
become stays, with the action that was reported. -/
theorem rollbacks_are_due_after_objection :
    let returned : Report := .succeeded "done" ["did it"] 0.0
    let remediator : Remediator Unit fun _ => Unit :=
      { Remediator.plain .noOp fun _ _ => .done returned with
        rollback := some fun _ _ => .done (.error (.rollback "no way back")) }
    let smoke : NamedCheck := ⟨"smoke", fun _ => .fail "smoke" "still failing" .critical⟩
    let s : Service Unit fun _ => Unit :=
      ⟨Registry.empty.register remediator, ⟨Stage.preValidation, []⟩,
        ⟨Stage.postValidation, [smoke]⟩⟩
    let w : Program.World Unit (fun _ => Unit) Unit := fun _ u => (u, u)
    let plan : Plan := { Plan.new .noOp "" with requiresRollbackSnapshot := true }
    let t : Ticket := ⟨.new ⟨7⟩ ⟨1700000000, 0⟩ .github "flaky_test", plan, .standard⟩
    let config : BlastRadius := ⟨10, 1, 1, .standard⟩
    let m : Moment := ⟨0, ⟨1700000000, 0⟩⟩
    let x : Pool Unit (fun _ => Unit) Unit := .new config ()
    let moves : List Pool.Move := [.call m t, .step m 0]
    let d := s.execute w (fun _ => ⟨1700000000, 0⟩) 0 t (.new config) ()
    (d.report.outcome = .failed ∧ d.report.actionsPerformed = ["did it"]) ∧
    ∃ c, (x.run s w moves).calls[0]? = some c ∧
      (Pool.about 0 ((Pool.undos s w).story s w x moves)).length = 1 ∧
      (x.run s w moves).entries 0 =
        [(.global, .start ⟨1700000000, 0⟩), (.global, .finish true)] := by
  intro returned remediator smoke s w plan t config m x moves d
  obtain ⟨alone, among, permit⟩ := s.rollbacks_are_due w ()
  have owes : s.Owes t returned :=
    ⟨⟨remediator, by rfl, by rfl⟩, .inr ⟨by rfl, by rfl, by decide +kernel, by rfl⟩⟩
  have legs : s.legs w (fun _ => ⟨1700000000, 0⟩) 0 t (.new config) () =
      [.gates m (.new config), .execution m (.ok returned),
        .rollback m (.ok (.error (.rollback "no way back")))] := by
    rfl
  have undoes := alone (.new config) (fun _ => ⟨1700000000, 0⟩) 0 t
  rw [legs] at undoes
  obtain ⟨m', returned', came, outcome, actions, -⟩ := undoes.told
    (.ok (.error (.rollback "no way back"))) (List.mem_singleton_self _)
  have same : returned' = returned := by
    simp at came
    exact came.2
  rw [same] at outcome actions
  obtain ⟨c, out, ticket, begun, key⟩ : ∃ c, (x.run s w moves).calls[0]? = some c ∧ c.ticket = t ∧
      c.begun.date = ⟨1700000000, 0⟩ ∧ c.key config = .global :=
    ⟨_, by rfl, by rfl, by rfl, by rfl⟩
  have unwinds := (among (.new config) moves 0 c out).1
  have story : Pool.about 0 ((Pool.legs w).story s w x moves) =
      [.gates m (.new config), .execution m (.ok returned)] := by
    rfl
  have ran : .execution m (.ok returned) ∈ Pool.about 0 ((Pool.legs w).story s w x moves) := by
    rw [story]
    exact .tail _ (.head _)
  have some : Pool.about 0 ((Pool.undos s w).story s w x moves) ≠ [] := by
    rw [ticket] at unwinds
    exact unwinds.due.2 ⟨m, returned, ran, owes⟩
  have one := unwinds.once
  obtain ⟨m'', returned'', came', entries⟩ := permit config moves 0 c out some
  rw [story] at came'
  have same' : returned'' = returned := by
    simp at came'
    exact came'.2
  rw [same', ticket, begun, key] at entries
  refine ⟨⟨outcome, actions⟩, c, out, ?_, entries⟩
  exact Nat.le_antisymm one (List.length_pos_iff.2 some)

end Service

end Remedy
