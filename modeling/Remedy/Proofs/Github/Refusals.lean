import Remedy.Proofs.Github.Pages
import Remedy.Proofs.Text.Trimming

/-!
# Refusals

A call stops at the first answer that it cannot use: one that did not come, one that does not report
success, and one whose body has another form than the call needs. It ends with the fault of that
answer and with nothing of what came before. A refusal is explained by its body or by the phrase
that goes with its status, so its message shows something unless the body states a message that is
blank.
-/

namespace Remedy.Github

open Json Workflow Http Program

/-! ## Messages -/

/-- The body of an answer as a text; what did not come is empty. -/
def bodyText (r : Response) : String := Text.ofBytes (r.body.toOption.getD [])

/-- A body is a JSON text that holds a message. -/
def States (body message : String) : Prop :=
  ∃ raw fs, Raw.read? body = some raw ∧ Fields.of? ["message"] raw = some fs ∧
    fs.required "message" = some message

theorem statedMessage?_eq_some_iff {body message : String} :
    statedMessage? body = some message ↔ States body message ∧ message ≠ "" := by
  simp only [statedMessage?, States, Option.bind_eq_bind, Option.bind_eq_some_iff]
  constructor
  · rintro ⟨fs, ⟨raw, read, fields⟩, m, found, kept⟩
    split at kept
    · cases kept
    · next some_ =>
      cases kept
      exact ⟨⟨raw, fs, read, fields, found⟩, some_⟩
  · rintro ⟨⟨raw, fs, read, fields, found⟩, some_⟩
    exact ⟨fs, ⟨raw, read, fields⟩, message, found, if_neg some_⟩

theorem reasons_not_blank : ∀ entry ∈ reasons, ¬ Text.Blank entry.2 := by decide +kernel

theorem reason_not_blank {status : UInt16} {phrase : String} (h : reason? status = some phrase) :
    ¬ Text.Blank phrase := by
  obtain ⟨before, after, split, -⟩ := List.lookup_eq_some_iff.1 h
  exact reasons_not_blank (status.toNat, phrase) (by simp [split])

/-- The standard phrase, or what stands for it. -/
theorem phrase_not_blank (status : UInt16) :
    ¬ Text.Blank ((reason? status).getD "request failed") := by
  cases phrase : reason? status with
  | none => decide
  | some text => exact reason_not_blank phrase

/-- The message of a refusal is blank just when the body states one that is blank and not empty. -/
theorem blank_refusal_iff (r : Response) :
    Text.Blank (refusal r) ↔
      ∃ message, States (bodyText r) message ∧ message ≠ "" ∧ Text.Blank message := by
  simp only [← and_assoc, ← statedMessage?_eq_some_iff]
  rw [refusal]
  change Text.Blank (((statedMessage? (bodyText r)).or (Text.trimmed? (bodyText r))).getD _) ↔ _
  cases stated : statedMessage? (bodyText r) with
  -- what a body states is handed on as it stands; only the body itself is trimmed
  | some message => simp
  | none =>
    cases left : Text.trimmed? (bodyText r) with
    | some text => simpa using (Text.neat_of_trimmed? left).not_blank
    | none => simpa using phrase_not_blank r.status

/-! ## Faults of answers -/

/-- The body of an answer, or why there is none. -/
def bodyIn (answer : Answer) : Except ApiError (List UInt8) := do
  let r ← accepted answer
  r.body

/-- Why something is not there. -/
def faultOf? {α : Type} : Except ApiError α → Option ApiError
  | .ok _ => none
  | .error e => some e

/-- The fault of an answer for a call. -/
def faultIn? : Call → Answer → Option ApiError
  | .getRun, answer => faultOf? (valueIn answer : Except ApiError Run)
  | .listJobs, answer => faultOf? (pageIn answer)
  | .jobLogs _, answer => faultOf? (bodyIn answer)
  | .rerun, answer | .rerunFailedJobs, answer | .cancelRun, answer => faultOf? (accepted answer)

/-- Whether a body holds what a call needs. What is posted needs no body. -/
def Suits : Call → Except ApiError (List UInt8) → Prop
  | .getRun, body => ∃ bytes, body = .ok bytes ∧ ∃ run : Run, fromBytes? bytes = some run
  | .listJobs, body => ∃ bytes, body = .ok bytes ∧ ∃ page : JobsPage, fromBytes? bytes = some page
  | .jobLogs _, body => ∃ bytes, body = .ok bytes
  | .rerun, _ | .rerunFailedJobs, _ | .cancelRun, _ => True

/-- A status that reports success. -/
def Successful (r : Response) : Prop := 200 ≤ r.status ∧ r.status < 300

theorem isSuccess_iff {r : Response} : r.isSuccess = true ↔ Successful r := by
  simp [Response.isSuccess, Successful]

variable {r : Response} {answer : Answer} {call : Call}

theorem accepted_of_successful (success : Successful r) : accepted (.ok r) = .ok r :=
  if_pos (isSuccess_iff.2 success)

theorem accepted_of_refused (refused : ¬ Successful r) :
    accepted (.ok r) = .error (.http r.status (refusal r)) :=
  if_neg fun success => refused (isSuccess_iff.1 success)

theorem accepted_eq_ok_iff : accepted answer = .ok r ↔ answer = .ok r ∧ Successful r := by
  cases answer with
  | error e => simp [accepted]
  | ok r' =>
    by_cases success : Successful r'
    · rw [accepted_of_successful success]
      constructor
      · intro same
        cases same
        exact ⟨rfl, success⟩
      · exact And.left
    · rw [accepted_of_refused success]
      constructor
      · intro same
        cases same
      · rintro ⟨same, success'⟩
        cases same
        exact absurd success' success

theorem parsed_eq_ok_iff {α : Type} [Coded α] {bytes : List UInt8} {a : α} :
    parsed bytes = .ok a ↔ fromBytes? bytes = some a := by
  rw [parsed]
  cases (fromBytes? bytes : Option α) <;> simp

theorem valueIn_eq_ok_iff {α : Type} [Coded α] {a : α} :
    valueIn answer = .ok a ↔ ∃ r, (answer = .ok r ∧ Successful r) ∧
      ∃ bytes, r.body = .ok bytes ∧ fromBytes? bytes = some a := by
  simp only [valueIn, bind_eq_ok_iff, accepted_eq_ok_iff, parsed_eq_ok_iff]

theorem bodyIn_eq_ok_iff {bytes : List UInt8} :
    bodyIn answer = .ok bytes ↔ ∃ r, (answer = .ok r ∧ Successful r) ∧ r.body = .ok bytes := by
  simp only [bodyIn, bind_eq_ok_iff, accepted_eq_ok_iff]

theorem faultOf?_eq_none_iff {α : Type} {x : Except ApiError α} :
    faultOf? x = none ↔ ∃ a, x = .ok a := by
  cases x <;> simp [faultOf?]

theorem faultOf?_eq_some_iff {α : Type} {x : Except ApiError α} {e : ApiError} :
    faultOf? x = some e ↔ x = .error e := by
  cases x <;> simp [faultOf?]

/-- An answer has no fault when it reports success and holds what the call needs. -/
theorem faultIn?_eq_none_iff :
    faultIn? call answer = none ↔ ∃ r, answer = .ok r ∧ Successful r ∧ Suits call r.body := by
  have value {α : Type} [Coded α] :
      (∃ a : α, valueIn answer = .ok a) ↔ ∃ r, answer = .ok r ∧ Successful r ∧
        ∃ bytes, r.body = .ok bytes ∧ ∃ a : α, fromBytes? bytes = some a := by
    simp only [valueIn_eq_ok_iff]
    constructor
    · rintro ⟨a, r, ⟨got, success⟩, bytes, body, read⟩
      exact ⟨r, got, success, bytes, body, a, read⟩
    · rintro ⟨r, got, success, bytes, body, a, read⟩
      exact ⟨a, r, ⟨got, success⟩, bytes, body, read⟩
  cases call with
  | getRun =>
    rw [faultIn?, faultOf?_eq_none_iff, value]
    rfl
  | listJobs =>
    rw [faultIn?, faultOf?_eq_none_iff, pageIn_eq, value]
    rfl
  | jobLogs job =>
    rw [faultIn?, faultOf?_eq_none_iff]
    simp only [bodyIn_eq_ok_iff]
    constructor
    · rintro ⟨bytes, r, ⟨got, success⟩, body⟩
      exact ⟨r, got, success, bytes, body⟩
    · rintro ⟨r, got, success, bytes, body⟩
      exact ⟨bytes, r, ⟨got, success⟩, body⟩
  | rerun | rerunFailedJobs | cancelRun =>
    rw [faultIn?, faultOf?_eq_none_iff]
    simp only [accepted_eq_ok_iff, Suits, and_true]

theorem valueIn_of_refused {α : Type} [Coded α] (refused : ¬ Successful r) :
    (valueIn (.ok r) : Except ApiError α) = .error (.http r.status (refusal r)) := by
  rw [valueIn, accepted_of_refused refused]
  rfl

/-- The fault of an answer that reports no success is the refusal. -/
theorem faultIn?_of_refused (refused : ¬ Successful r) :
    faultIn? call (.ok r) = some (.http r.status (refusal r)) := by
  have body : bodyIn (.ok r) = .error (.http r.status (refusal r)) := by
    rw [bodyIn, accepted_of_refused refused]
    rfl
  cases call with
  | getRun | listJobs => exact congrArg faultOf? (valueIn_of_refused refused)
  | jobLogs job => exact congrArg faultOf? body
  | rerun | rerunFailedJobs | cancelRun =>
    exact congrArg faultOf? (accepted_of_refused refused)

/-- The fault of an answer that reports success and has a body of another form is that form. -/
theorem faultIn?_of_unsuited {bytes : List UInt8} (success : Successful r)
    (body : r.body = .ok bytes) (unsuited : ¬ Suits call r.body) :
    ∃ reason, faultIn? call (.ok r) = some (.malformed reason) := by
  have value {α : Type} [Coded α] (none_ : ¬ ∃ a : α, fromBytes? bytes = some a) :
      (valueIn (.ok r) : Except ApiError α) = .error (.malformed "the body has another form") := by
    have other : (fromBytes? bytes : Option α) = none :=
      Option.eq_none_iff_forall_ne_some.2 fun a same => none_ ⟨a, same⟩
    rw [valueIn, accepted_of_successful success]
    change r.body >>= parsed = _
    rw [body]
    change parsed bytes = _
    rw [parsed, other]
  cases call with
  | getRun =>
    exact ⟨_, congrArg faultOf? (value fun holds => unsuited ⟨bytes, body, holds⟩)⟩
  | listJobs =>
    exact ⟨_, congrArg faultOf? (value fun holds => unsuited ⟨bytes, body, holds⟩)⟩
  | jobLogs job => exact absurd ⟨bytes, body⟩ unsuited
  | rerun | rerunFailedJobs | cancelRun => exact absurd trivial unsuited

/-! ## Calls -/

section Calls

variable {Q : Type} {A : Q → Type} (c : Connection) (run : RunRef)

theorem fetch_run (t : Transport Q A) (url : String) :
    (fetch t url).run = (t ⟨.get, url⟩).bind fun answer => .done (bodyIn answer) := by
  rw [fetch]
  change Program.bind (Program.bind _ _) _ = _
  rw [bind_bind]
  refine congrArg _ (funext fun answer => ?_)
  change (Program.done (accepted answer)).bind
    (ExceptT.bindCont fun r => Program.done r.body) = .done (bodyIn answer)
  rw [bodyIn]
  cases accepted answer with
  | error e => rfl
  | ok r => rfl

theorem post_run (t : Transport Q A) (url : String) :
    (post t url).run =
      (t ⟨.post, url⟩).bind fun answer => .done ((accepted answer).map fun _ => ()) := by
  rw [post]
  change Program.bind (Program.bind _ _) _ = _
  rw [bind_bind]
  refine congrArg _ (funext fun answer => ?_)
  change (Program.done (accepted answer)).bind
    (ExceptT.bindCont fun _ => Program.done (.ok ())) = _
  cases accepted answer with
  | error e => rfl
  | ok r => rfl

/-- One request whose answer is read. -/
theorem heeds_request {α : Type} {fault? : Http.Request → Answer → Option ApiError}
    (request : Http.Request) {read : Answer → Except ApiError α}
    (same : ∀ answer, fault? request answer = faultOf? (read answer)) :
    Heeds fault? ((direct request).bind fun answer => .done (read answer)) := by
  refine .ask (fun answer e fault => ?_) fun answer clear => ?_
  · rw [same, faultOf?_eq_some_iff] at fault
    exact congrArg Program.done fault
  · rwa [same, faultOf?_eq_none_iff] at clear

theorem heeds_post {fault? : Http.Request → Answer → Option ApiError} (url : String)
    (same : ∀ answer, fault? ⟨.post, url⟩ answer = faultOf? (accepted answer)) :
    Heeds fault? (post direct url).run := by
  rw [post_run]
  refine heeds_request _ fun answer => (same answer).trans ?_
  cases accepted answer <;> rfl

theorem listJobsFrom_heeds (left page : Nat) (before : List Job) :
    Heeds (fun _ => faultIn? .listJobs) (listJobsFrom c direct run left page before).run := by
  induction left generalizing page before with
  -- without fuel the jobs so far are a value, so no bound on the pages is needed here
  | zero => exact ⟨before, rfl⟩
  | succ left ih =>
    rw [listJobsFrom_succ]
    refine .ask (fun answer e fault => ?_) fun answer clear => ?_
    · change afterPage c run direct left page before (pageIn answer) = _
      rw [faultOf?_eq_some_iff.1 fault, afterPage]
    · obtain ⟨batch, came⟩ := faultOf?_eq_none_iff.1 clear
      change Heeds _ (afterPage c run direct left page before (pageIn answer))
      rw [came, afterPage]
      split
      · exact ⟨_, rfl⟩
      · exact ih _ _

/-- Every call stops at the first answer that has a fault. -/
theorem provider_heeds (call : Call) :
    Heeds (fun _ => faultIn? call) (provider c direct ⟨run, call⟩) := by
  cases call with
  | getRun =>
    change Heeds _ (fetchJson direct (runUrl c run) : ExceptT ApiError _ Run).run
    rw [fetchJson_run]
    exact heeds_request _ fun _ => rfl
  | listJobs => exact listJobsFrom_heeds c run _ _ _
  | jobLogs job =>
    change Heeds _ (fetch direct (jobLogsUrl c run job)).run
    rw [fetch_run]
    exact heeds_request _ fun _ => rfl
  | rerun | rerunFailedJobs | cancelRun => exact heeds_post _ fun _ => rfl

/-- No call ends without asking. -/
theorem provider_asks (call : Call) :
    ∃ request next, provider c direct ⟨run, call⟩ = .ask request next := by
  cases call with
  | listJobs => exact ⟨_, _, listJobsFrom_succ c run direct _ _ _⟩
  | getRun | rerun | rerunFailedJobs | cancelRun | jobLogs job => exact ⟨_, _, rfl⟩

end Calls

/-- Every call asks, and comes to an end. It succeeds just when each answer that it consumed reports
success and has a body that suits the call. An answer that reports no success is the last that it
consumes: the call ends with just its status and with a message, which is blank only when the body
states a message that is blank and not empty. An answer that reports success and has a body of
another form is the last one too, and all that comes of the call is that an answer was malformed. -/
theorem refusals_are_errors (c : Connection) (run : RunRef) (call : Call) {σ : Type}
    (w : World Http.Request (fun _ => Answer) σ) (now : Nat) (s : σ) :
    let p := provider c direct ⟨run, call⟩
    let log := p.transcript w now s
    ∃ result, (p.run w now s).outcome = .ok result ∧ log ≠ [] ∧
      ((∃ reply, result = .ok reply) ↔
        ∀ x ∈ log, ∃ r, x.answer = .ok r ∧ Successful r ∧ Suits call r.body) ∧
      ∀ before x after r, log = before ++ x :: after → x.answer = .ok r →
        (¬ Successful r → after = [] ∧ ∃ message, result = .error (.http r.status message) ∧
          (Text.Blank message ↔
            ∃ stated, States (bodyText r) stated ∧ stated ≠ "" ∧ Text.Blank stated)) ∧
        (Successful r → ∀ bytes, r.body = .ok bytes → ¬ Suits call r.body →
          after = [] ∧ ∃ reason, result = .error (.malformed reason)) := by
  intro p log
  obtain ⟨result, came, heeded⟩ := (provider_heeds c run call).run w now s
  have heeded : Heeded (fun _ => faultIn? call) log result := heeded
  refine ⟨result, came, ?_, ?_, fun before x after r split got => ⟨fun refused => ?_,
    fun success bytes body unsuited => ?_⟩⟩
  · obtain ⟨request, next, asks⟩ := provider_asks c run call
    change transcript w now (provider c direct ⟨run, call⟩) s ≠ []
    rw [asks, transcript_ask]
    exact List.cons_ne_nil _ _
  · rw [heeded.ok_iff]
    simp only [faultIn?_eq_none_iff]
  · rw [split] at heeded
    have fault : faultIn? call x.answer = some (.http r.status (refusal r)) :=
      got ▸ faultIn?_of_refused refused
    obtain ⟨same, last⟩ := heeded.of_fault fault
    exact ⟨last, _, same, blank_refusal_iff r⟩
  · rw [split] at heeded
    obtain ⟨reason, unread⟩ := faultIn?_of_unsuited success body unsuited
    have fault : faultIn? call x.answer = some (.malformed reason) := got ▸ unread
    obtain ⟨same, last⟩ := heeded.of_fault fault
    exact ⟨last, _, same⟩

/-- A listing through a gateway that shows a page of its own. -/
theorem refusals_are_errors_behind_gateway :
    let c : Connection := ⟨"https://api.github.com", none, "agent", 30⟩
    let r : Response := ⟨502, none, .ok (Text.toBytes "<html>Bad Gateway</html>")⟩
    let w : World Http.Request (fun _ => Answer) Unit := fun _ s => (.ok r, s)
    let p := provider c direct ⟨⟨"acme", "widgets", 42⟩, .listJobs⟩
    ¬ Successful r ∧ ∃ message, (p.run w 0 ()).outcome = .ok (.error (.http 502 message)) ∧
      ¬ Text.Blank message ∧ (p.transcript w 0 ()).length = 1 := by
  intro c r w p
  have refused : ¬ Successful r := fun success => absurd success.2 (by decide)
  have unstated : statedMessage? (bodyText r) = none := by decide +kernel
  obtain ⟨result, came, asked, -, each⟩ :=
    refusals_are_errors c ⟨"acme", "widgets", 42⟩ .listJobs w 0 ()
  obtain ⟨x, after, log⟩ := List.exists_cons_of_ne_nil asked
  have answered := transcript_answered w 0 p ()
  have got : x.answer = .ok r := by
    obtain ⟨before, same⟩ := answered.answer_mem (log ▸ List.mem_cons_self)
    exact same
  obtain ⟨rfl, message, rfl, blank⟩ := (each [] x after r log got).1 refused
  refine ⟨refused, message, came, fun shown => ?_, congrArg List.length log⟩
  obtain ⟨stated, states, some_, -⟩ := blank.1 shown
  have found := statedMessage?_eq_some_iff.2 ⟨states, some_⟩
  rw [unstated] at found
  cases found

/-- A refusal whose body states a blank message has that message, although the body itself and the
phrase of its status show something. -/
theorem blank_message_explains_nothing :
    let c : Connection := ⟨"https://api.github.com", none, "agent", 30⟩
    let body := "\x7b\"message\": \"   \"\x7d"
    let r : Response := ⟨403, none, .ok (Text.toBytes body)⟩
    let w : World Http.Request (fun _ => Answer) Unit := fun _ s => (.ok r, s)
    let p := provider c direct ⟨⟨"acme", "widgets", 42⟩, .getRun⟩
    (p.run w 0 ()).outcome = .ok (.error (.http 403 "   ")) ∧ Text.Blank "   " ∧
      ¬ Text.Blank body ∧ reason? 403 = some "Forbidden" := by
  intro c body r w p
  have refused : ¬ Successful r := fun success => absurd success.2 (by decide)
  have stated : statedMessage? (bodyText r) = some "   " := by decide +kernel
  have explained : refusal r = "   " := by
    rw [refusal]
    change ((statedMessage? (bodyText r)).or (Text.trimmed? (bodyText r))).getD _ = _
    rw [stated]
    rfl
  have came : (p.run w 0 ()).outcome = .ok (valueIn (.ok r) : Except ApiError Run) := by
    change (Program.run w 0 (fetchJson direct _ : ExceptT ApiError _ Run).run ()).outcome = _
    rw [fetchJson_run]
    rfl
  refine ⟨?_, by decide, by decide, by decide +kernel⟩
  rw [came, valueIn_of_refused refused, explained]
  rfl

end Remedy.Github
