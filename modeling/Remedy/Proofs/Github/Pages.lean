import Remedy.Proofs.Github.Addresses
import Remedy.Proofs.Json.Stability
import Remedy.Proofs.Json.Texts
import Remedy.Proofs.Program.Transcripts
import Mathlib.Logic.Function.Basic

/-!
# Pages of jobs

The jobs of a run are listed page by page, until a page is not full or the total that it states is
reached. So every page but the last is full and falls short of its own total: a hundred jobs for
each page before the last are fewer than a total that was stated. That bounds the pages whatever a
server answers, and a server that shows one list is asked for just the pages that hold it.
-/

namespace Remedy.Github

open Json Workflow Http Program

/-! ## Pages -/

/-- The value in an answer, or why there is none. -/
def valueIn {α : Type} [Coded α] (answer : Answer) : Except ApiError α := do
  let r ← accepted answer
  let bytes ← r.body
  parsed bytes

/-- The page in an answer, or why there is none. -/
def pageIn (answer : Answer) : Except ApiError JobsPage := do
  let r ← accepted answer
  let bytes ← r.body
  parsed bytes

theorem pageIn_eq : pageIn = valueIn := rfl

/-- A page that is the last one, when it makes this many jobs. -/
def JobsPage.Closes (page : JobsPage) (gathered : Nat) : Prop :=
  page.jobs.length < jobsPerPage ∨ page.totalCount.toNat ≤ gathered

instance (page : JobsPage) (gathered : Nat) : Decidable (page.Closes gathered) :=
  inferInstanceAs (Decidable (_ ∨ _))

/-- The number of pages that hold so many jobs; there is always one. -/
def pagesFor (total : Nat) : Nat := max 1 ((total + jobsPerPage - 1) / jobsPerPage)

/-- The jobs of pages, in order. -/
def jobsOf (pages : List JobsPage) : List Job := pages.flatMap JobsPage.jobs

@[simp] theorem jobsOf_append (pages : List JobsPage) (page : JobsPage) :
    jobsOf (pages ++ [page]) = jobsOf pages ++ page.jobs := by
  simp [jobsOf]

/-- No page is the last one. -/
inductive Going : List JobsPage → Prop
  | nil : Going []
  | append {pages : List JobsPage} {page : JobsPage} (going : Going pages)
      (open_ : ¬ page.Closes (jobsOf (pages ++ [page])).length) : Going (pages ++ [page])

namespace Going

variable {pages : List JobsPage}

/-- Every page that is not the last is full. -/
theorem full (going : Going pages) : jobsPerPage * pages.length ≤ (jobsOf pages).length := by
  induction going with
  | nil => exact Nat.le_refl _
  | @append pages page _ open_ ih =>
    have hundred : jobsPerPage ≤ page.jobs.length := Nat.le_of_not_lt fun few => open_ (.inl few)
    simp only [jobsOf_append, List.length_append, List.length_singleton, Nat.mul_add, Nat.mul_one]
    omega

/-- Pages that go on fall short of a total that one of them states. -/
theorem short (going : Going pages) (some_ : pages ≠ []) :
    ∃ page ∈ pages, jobsPerPage * pages.length < page.totalCount.toNat := by
  cases going with
  | nil => exact absurd rfl some_
  | @append pages page going open_ =>
    have most : (jobsOf (pages ++ [page])).length < page.totalCount.toNat :=
      Nat.lt_of_not_le fun reached => open_ (.inr reached)
    exact ⟨page, by simp, Nat.lt_of_le_of_lt (going.append open_).full most⟩

theorem length_lt (going : Going pages) {bound : Nat}
    (stated : ∀ page ∈ pages, page.totalCount.toNat ≤ bound) : pages.length < pagesFor bound := by
  rw [pagesFor, jobsPerPage]
  by_cases none : pages = []
  · rw [none]
    exact Nat.le_max_left _ _
  · obtain ⟨page, among, short⟩ := going.short none
    have most := stated page among
    rw [jobsPerPage] at short
    omega

/-- The last of them goes on as well. -/
theorem open_last {page : JobsPage} (going : Going (pages ++ [page])) :
    ¬ page.Closes (jobsOf (pages ++ [page])).length := by
  generalize same : pages ++ [page] = all at going
  cases going with
  | nil => simp at same
  | append _ open_ =>
    obtain ⟨rfl, last⟩ := List.append_inj' same rfl
    obtain rfl := List.singleton_inj.1 last
    exact open_

end Going

/-- What is listed of the pages that were shown: all the jobs of all pages when the last one is
whole, and the fault of the last one when it is not. -/
inductive Listed : List (Except ApiError JobsPage) → Except ApiError (List Job) → Prop
  | whole {pages : List JobsPage} {last : JobsPage} (going : Going pages)
      (closes : last.Closes (jobsOf (pages ++ [last])).length) :
      Listed ((pages ++ [last]).map .ok) (.ok (jobsOf (pages ++ [last])))
  | broken {pages : List JobsPage} {e : ApiError} (going : Going pages) :
      Listed (pages.map .ok ++ [.error e]) (.error e)

/-- Whatever a server answers, the totals that it states bound the pages that it is asked for. -/
theorem Listed.length_le {shown : List (Except ApiError JobsPage)}
    {result : Except ApiError (List Job)} (h : Listed shown result) {bound : Nat}
    (stated : ∀ page, .ok page ∈ shown → page.totalCount.toNat ≤ bound) :
    shown.length ≤ pagesFor bound := by
  cases h with
  | whole going _ =>
    rw [List.length_map, List.length_append]
    exact going.length_lt fun page among => stated page (by simp [among])
  | broken going =>
    rw [List.length_append, List.length_map]
    exact going.length_lt fun page among => stated page (by simp [among])

/-! ## One list -/

section OneList

variable {jobs : List Job}

/-- The page of a list that comes after `k` others. -/
def pageOf (jobs : List Job) (k : Nat) : JobsPage :=
  ⟨jobs.length.toUInt64, (jobs.drop (k * jobsPerPage)).take jobsPerPage⟩

/-- The pages that were shown are those of one list. -/
def ShowsOf (jobs : List Job) (shown : List (Except ApiError JobsPage)) : Prop :=
  shown = ((List.range shown.length).map (pageOf jobs)).map .ok

theorem jobsOf_pages (jobs : List Job) (count : Nat) :
    jobsOf ((List.range count).map (pageOf jobs)) = jobs.take (count * jobsPerPage) := by
  induction count with
  | zero => simp [jobsOf]
  | succ count ih =>
    rw [List.range_succ, List.map_append, List.map_singleton, jobsOf_append, ih, pageOf]
    rw [Nat.succ_mul, List.take_add]

/-- A page closes its list just when it holds the last of the jobs. -/
theorem closes_pageOf_iff (few : jobs.length < UInt64.size) (k : Nat) :
    (pageOf jobs k).Closes (jobsOf ((List.range (k + 1)).map (pageOf jobs))).length ↔
      jobs.length ≤ (k + 1) * jobsPerPage := by
  have total : jobs.length.toUInt64.toNat = jobs.length := by
    simpa using Nat.mod_eq_of_lt few
  rw [jobsOf_pages]
  simp only [JobsPage.Closes, pageOf, total, List.length_take, List.length_drop]
  rw [jobsPerPage]
  omega

theorem pages_of_showsOf {pages : List JobsPage} (one : ShowsOf jobs (pages.map .ok)) :
    pages = (List.range pages.length).map (pageOf jobs) := by
  rw [ShowsOf, List.length_map] at one
  exact (List.map_inj_right fun _ _ => Except.ok.inj).1 one

/-- Pages of one list go on only as long as there are more jobs. -/
theorem Going.lt_length (few : jobs.length < UInt64.size) {count : Nat} (some_ : count ≠ 0)
    (going : Going ((List.range count).map (pageOf jobs))) :
    count * jobsPerPage < jobs.length := by
  obtain ⟨k, rfl⟩ := Nat.exists_eq_succ_of_ne_zero some_
  rw [List.range_succ, List.map_append, List.map_singleton] at going
  have open_ := going.open_last
  rw [← List.map_singleton, ← List.map_append, ← List.range_succ, closes_pageOf_iff few] at open_
  exact Nat.lt_of_not_le open_

/-- A server that shows one list is asked for just the pages that hold it, and all its jobs are
listed. -/
theorem Listed.of_one_list {shown : List (Except ApiError JobsPage)}
    {result : Except ApiError (List Job)} (h : Listed shown result)
    (few : jobs.length < UInt64.size) (one : ShowsOf jobs shown) :
    result = .ok jobs ∧ shown.length = pagesFor jobs.length := by
  cases h with
  | @broken pages e going =>
    have among : Except.error e ∈ pages.map Except.ok ++ [Except.error e] := by simp
    rw [one] at among
    simp at among
  | @whole pages last going closes =>
    have same := pages_of_showsOf one
    rw [List.length_append, List.length_singleton] at same
    have cut := same
    rw [List.range_succ, List.map_append, List.map_singleton] at cut
    obtain ⟨before, end_⟩ := List.append_inj' cut rfl
    obtain rfl := List.singleton_inj.1 end_
    rw [same, closes_pageOf_iff few] at closes
    constructor
    · rw [same, jobsOf_pages, List.take_of_length_le closes]
    · rw [List.length_map, List.length_append, List.length_singleton, pagesFor]
      rw [jobsPerPage] at closes ⊢
      by_cases first : pages.length = 0
      · omega
      · rw [before] at going
        have more := going.lt_length few first
        rw [jobsPerPage] at more
        omega

end OneList

/-! ## Pages as they are sent -/

section Sent

variable {room : Nat}

theorem legible_job (j : Job) : (encode j).Legible (room + 1) := by
  refine .obj ?_
  simp only [List.forall_mem_cons]
  exact ⟨legible_word _, .str _, legible_option (fun _ => .str _) _,
    legible_option (fun _ => .str _) _, legible_option (fun _ => .str _) _,
    legible_option (fun _ => .str _) _, legible_option (fun _ => .str _) _, List.forall_mem_nil _⟩

theorem legible_page (page : JobsPage) : (encode page).Legible (room + 3) := by
  have jobs : (encode page.jobs).Legible (room + 2) := legible_list fun j _ => legible_job j
  refine .obj ?_
  simp only [List.forall_mem_cons]
  exact ⟨legible_word _, jobs, List.forall_mem_nil _⟩

/-- A job whose times are such as a clock can show. -/
structure Dated (j : Job) : Prop where
  started : ∀ t ∈ j.startedAt, t.OnClock
  completed : ∀ t ∈ j.completedAt, t.OnClock

theorem restored_time {time : Option Time.Instant} (shown : ∀ t ∈ time, t.OnClock) :
    Restored time := by
  cases time with
  | none => exact restored_none
  | some t => exact restored_some (restored_instant (shown t rfl)) Json.noConfusion

theorem restored_page {page : JobsPage} (dated : ∀ j ∈ page.jobs, Dated j) : Restored page := by
  have jobs : Restored page.jobs := restored_list fun j among =>
    Job.restored (restored_time (dated j among).started) (restored_time (dated j among).completed)
  rw [Restored] at jobs
  exact restored_record (fun _ => rfl) rfl (by simp) (by simp [List.lookup_cons, jobs])

/-- A page that is sent as its text is read as it is. -/
theorem pageIn_text {page : JobsPage} (dated : ∀ j ∈ page.jobs, Dated j) :
    pageIn (.ok ⟨200, none, .ok (Text.toBytes ((encode page).pretty 0))⟩) = .ok page := by
  have back : decode (encode page).raw = some page := restored_page dated
  have read : fromText? ((encode page).pretty 0) = some page := by
    rw [fromText?, read?_pretty (legible_page page), Option.bind_some, back]
  have inside (bytes : List UInt8) : pageIn (.ok ⟨200, none, .ok bytes⟩) = parsed bytes := rfl
  rw [inside, parsed, fromBytes?_toBytes, read]

end Sent

/-! ## Listing -/

section Listing

variable {Q : Type} {A : Q → Type} {σ : Type} (c : Connection) (run : RunRef)

theorem fetchJson_run {α : Type} [Coded α] (t : Transport Q A) (url : String) :
    (fetchJson t url : ExceptT ApiError (Program Q A) α).run =
      (t ⟨.get, url⟩).bind fun answer => .done (valueIn answer) := by
  rw [fetchJson, fetch]
  change Program.bind (Program.bind (Program.bind _ _) _) _ = _
  rw [bind_bind, bind_bind]
  refine congrArg _ (funext fun answer => ?_)
  change ((Program.done (accepted answer)).bind
    (ExceptT.bindCont fun r => Program.done r.body)).bind
      (ExceptT.bindCont fun bytes => Program.done (parsed bytes)) = .done (valueIn answer)
  rw [valueIn]
  cases accepted answer with
  | error e => rfl
  | ok r =>
    obtain ⟨status, location, body⟩ := r
    cases body with
    | error e => rfl
    | ok bytes => rfl

/-- What a listing does with the answer to one of its requests. -/
def afterPage (t : Transport Q A) (left page : Nat) (before : List Job) :
    Except ApiError JobsPage → Program Q A (Except ApiError (List Job))
  | .error e => .done (.error e)
  | .ok batch =>
    let jobs := before ++ batch.jobs
    if batch.Closes jobs.length then .done (.ok jobs)
    else (listJobsFrom c t run left (page + 1) jobs).run

theorem listJobsFrom_succ (t : Transport Q A) (left page : Nat) (before : List Job) :
    (listJobsFrom c t run (left + 1) page before).run =
      (t ⟨.get, jobsUrl c run page⟩).bind fun answer =>
        afterPage c run t left page before (pageIn answer) := by
  rw [listJobsFrom]
  change (fetchJson t (jobsUrl c run page) : ExceptT ApiError (Program Q A) JobsPage).run.bind _ = _
  rw [fetchJson_run, bind_bind, ← pageIn_eq]
  refine congrArg _ (funext fun answer => ?_)
  cases pageIn answer with
  | error e => rfl
  | ok batch =>
    change (if batch.Closes (before ++ batch.jobs).length then
        (pure (before ++ batch.jobs) : ExceptT ApiError (Program Q A) (List Job))
      else listJobsFrom c t run left (page + 1) (before ++ batch.jobs)).run = _
    rw [afterPage]
    split
    · rfl
    · rfl

/-- Over a transport, a listing puts to it the requests that it would put itself. -/
theorem listJobsFrom_translate (t : Transport Q A) (left page : Nat) (before : List Job) :
    (listJobsFrom c t run left page before).run =
      translate t (listJobsFrom c direct run left page before).run := by
  induction left generalizing page before with
  | zero => rfl
  | succ left ih =>
    rw [listJobsFrom_succ, listJobsFrom_succ]
    refine congrArg _ (funext fun answer => ?_)
    change _ = translate t (afterPage c run direct left page before (pageIn answer))
    cases pageIn answer with
    | error e => rfl
    | ok batch =>
      simp only [afterPage]
      split
      · rfl
      · exact ih _ _

/-- The request for the page that comes after `k` others. -/
def pageRequest (k : Nat) : Http.Request := ⟨.get, jobsUrl c run (k + 1)⟩

/-- The page that was shown in an exchange. -/
def pageShown (x : Program.Exchange Http.Request (fun _ => Answer)) : Except ApiError JobsPage :=
  pageIn x.answer

/-- What a program that goes on after these pages asks, and what it ends with. -/
def Lists (pages : List JobsPage) (log : List (Program.Exchange Http.Request (fun _ => Answer)))
    (outcome : Except Panic (Except ApiError (List Job))) : Prop :=
  ∃ result, outcome = .ok result ∧
    log.map (·.request) = (List.range' pages.length log.length).map (pageRequest c run) ∧
    Listed (pages.map .ok ++ log.map pageShown) result

/-- From some pages on, a listing goes on as long as it has to; it has fuel left when it ends, as
more jobs than 64 bits count are more than any page states. -/
theorem listJobsFrom_lists (w : World Http.Request (fun _ => Answer) σ) (left : Nat)
    {pages : List JobsPage} (going : Going pages)
    (enough : Decimal.maxWord64 < jobsPerPage * (pages.length + left)) (now : Nat) (s : σ) :
    let p := (listJobsFrom c direct run left (pages.length + 1) (jobsOf pages)).run
    Lists c run pages (p.transcript w now s) (p.run w now s).outcome := by
  induction left generalizing pages s with
  | zero =>
    -- no fuel is left: then the pages hold more jobs than any of them can state
    have some_ : pages ≠ [] := by
      rintro rfl
      simp at enough
    obtain ⟨page, -, short⟩ := going.short some_
    have most : page.totalCount.toNat < Decimal.maxWord64 + 1 := page.totalCount.toNat_lt
    rw [Nat.add_zero] at enough
    omega
  | succ left ih =>
    rw [listJobsFrom_succ]
    intro p
    let answer := (w (pageRequest c run pages.length) s).1
    let next := afterPage c run direct left (pages.length + 1) (jobsOf pages) (pageIn answer)
    change Lists c run pages
      (⟨now, pageRequest c run pages.length, answer⟩ ::
        next.transcript w now (w (pageRequest c run pages.length) s).2)
      (next.run w now (w (pageRequest c run pages.length) s).2).outcome
    simp only [next]
    cases shown : pageIn answer with
    | error e =>
      refine ⟨.error e, rfl, rfl, ?_⟩
      simpa [pageShown, shown, afterPage, transcript] using Listed.broken going
    | ok page =>
      rw [afterPage, ← jobsOf_append]
      by_cases closes : page.Closes (jobsOf (pages ++ [page])).length
      · rw [if_pos closes]
        refine ⟨_, rfl, rfl, ?_⟩
        simpa [pageShown, shown, transcript] using Listed.whole going closes
      · rw [if_neg closes]
        have room : Decimal.maxWord64 < jobsPerPage * ((pages ++ [page]).length + left) := by
          rw [List.length_append, List.length_singleton, Nat.add_assoc, Nat.add_comm 1 left]
          exact enough
        obtain ⟨result, came, asked, listed⟩ := ih (going.append closes) room
          (w (pageRequest c run pages.length) s).2
        rw [List.length_append, List.length_singleton] at came asked listed
        refine ⟨result, came, ?_, ?_⟩
        · rw [List.map_cons, List.length_cons, List.range'_succ, List.map_cons, asked]
        · simpa [pageShown, shown] using listed

/-- A server that shows one list, whatever it was asked before. -/
def Serves (w : World Http.Request (fun _ => Answer) σ) (jobs : List Job) : Prop :=
  ∀ k s, pageIn (w (pageRequest c run k) s).1 = .ok (pageOf jobs k)

/-- A server that sends the texts of the pages of one list. -/
theorem serves_of_texts {w : World Http.Request (fun _ => Answer) σ} {jobs : List Job}
    (dated : ∀ j ∈ jobs, Dated j)
    (sent : ∀ k s, (w (pageRequest c run k) s).1 =
      .ok ⟨200, none, .ok (Text.toBytes ((encode (pageOf jobs k)).pretty 0))⟩) :
    Serves c run w jobs := by
  intro k s
  rw [sent]
  exact pageIn_text fun j among => dated j (List.mem_of_mem_drop (List.mem_of_mem_take among))

theorem pageRequest_injective : Function.Injective (pageRequest c run) := by
  intro k k' same
  have urls := congrArg Http.Request.url same
  simp only [pageRequest, jobsUrl] at urls
  rw [String.append_right_inj, ← String.toList_inj] at urls
  exact Nat.succ.inj (numeral_inj (by simpa [Decimal.numeral] using urls))

/-- Every list has a server that shows it. -/
theorem exists_serves {jobs : List Job} (dated : ∀ j ∈ jobs, Dated j) :
    ∃ w : World Http.Request (fun _ => Answer) Unit, Serves c run w jobs := by
  let index : Http.Request → Nat := Function.invFun (pageRequest c run)
  let text (k : Nat) : String := (encode (pageOf jobs k)).pretty 0
  refine ⟨fun r s => (.ok ⟨200, none, .ok (Text.toBytes (text (index r)))⟩, s), ?_⟩
  refine serves_of_texts c run dated fun k s => ?_
  have found : index (pageRequest c run k) = k :=
    Function.leftInverse_invFun (pageRequest_injective c run) k
  simp only [found, text]

theorem Serves.showsOf {w : World Http.Request (fun _ => Answer) σ} {jobs : List Job}
    (serves : Serves c run w jobs) {s : σ}
    {log : List (Program.Exchange Http.Request (fun _ => Answer))} (answered : Answered w s log)
    (asked : log.map (·.request) = (List.range log.length).map (pageRequest c run)) :
    ShowsOf jobs (log.map pageShown) := by
  rw [ShowsOf, List.length_map]
  refine List.ext_getElem (by simp) fun k inside _ => ?_
  have within : k < log.length := by simpa using inside
  obtain ⟨before, came⟩ := answered.answer_mem (List.getElem_mem within)
  have request : log[k].request = pageRequest c run k := by
    have at_ := List.getElem_of_eq asked (by simpa using within)
    simpa using at_
  have page := serves k before
  rw [← request, ← came] at page
  simpa [pageShown] using page

end Listing

/-- A listing always comes to an end. It asks for the pages one after the other, from the first one
on; every page before the last is full and falls short of its total, and the jobs of all pages are
listed, in order, or the fault of the first page that has one. It asks for no more pages than hold
the largest total that was stated. Where the pages are those of one list, as they are at a server
that shows one list, it asks for just the pages that hold the list, and lists all its jobs. Over a
transport the same requests are put to the transport. -/
theorem job_listing_is_complete (c : Connection) (run : RunRef) :
    (∀ {Q : Type} {A : Q → Type} (t : Transport Q A),
      (listJobs c t run).run = translate t (listJobs c direct run).run) ∧
    ∀ {σ : Type} (w : World Http.Request (fun _ => Answer) σ) (now : Nat) (s : σ),
      let p := (listJobs c direct run).run
      let log := p.transcript w now s
      let shown := log.map pageShown
      ∃ result, (p.run w now s).outcome = .ok result ∧
        log.map (·.request) = (List.range log.length).map (pageRequest c run) ∧
        Listed shown result ∧
        (∀ bound, (∀ page, .ok page ∈ shown → page.totalCount.toNat ≤ bound) →
          log.length ≤ pagesFor bound) ∧
        ∀ jobs : List Job, jobs.length < UInt64.size →
          (Serves c run w jobs → ShowsOf jobs shown) ∧
          (ShowsOf jobs shown → result = .ok jobs ∧ log.length = pagesFor jobs.length) := by
  refine ⟨fun t => listJobsFrom_translate c run t _ _ _, fun w now s => ?_⟩
  intro p log shown
  have lists : Lists c run [] log (p.run w now s).outcome :=
    listJobsFrom_lists c run w maxPages .nil (by decide) now s
  obtain ⟨result, came, asked, listed⟩ := lists
  have listed : Listed shown result := listed
  have count : shown.length = log.length := List.length_map _
  rw [List.length_nil, ← List.range_eq_range'] at asked
  rw [← count]
  refine ⟨result, came, count ▸ asked, listed, fun bound stated => listed.length_le stated,
    fun jobs few => ⟨fun serves => ?_, fun one => listed.of_one_list few one⟩⟩
  exact serves.showsOf c run (transcript_answered w now p s) asked

/-- A hundred and fifty jobs, no two of them with one id, come on two pages. -/
theorem job_listing_is_complete_over_two_pages :
    let c : Connection := ⟨"https://api.github.com", none, "agent", 30⟩
    let run : RunRef := ⟨"acme", "widgets", 42⟩
    let job (i : Nat) : Job := ⟨i.toUInt64, "build", some .completed, none, none, none, none⟩
    let jobs : List Job := (List.range' 1001 150).map job
    let p := (listJobs c direct run).run
    (jobs.map (·.id)).Nodup ∧
    ∃ w : World Http.Request (fun _ => Answer) Unit, Serves c run w jobs ∧
      ∀ now, (p.run w now ()).outcome = .ok (.ok jobs) ∧ (p.transcript w now ()).length = 2 := by
  intro c run job jobs p
  have dated : ∀ j ∈ jobs, Dated j := by
    intro j among
    obtain ⟨i, -, same⟩ := List.mem_map.1 among
    rw [← same]
    exact ⟨fun _ none => by simp [job] at none, fun _ none => by simp [job] at none⟩
  obtain ⟨w, serves⟩ := exists_serves c run dated
  refine ⟨by decide +kernel, w, serves, fun now => ?_⟩
  obtain ⟨result, came, -, -, -, lists⟩ := (job_listing_is_complete c run).2 w now ()
  have length : jobs.length = 150 := by simp [jobs]
  obtain ⟨shows, whole⟩ := lists jobs (length ▸ by decide)
  obtain ⟨rfl, count⟩ := whole (shows serves)
  rw [length] at count
  exact ⟨came, count⟩

end Remedy.Github
