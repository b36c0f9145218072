import Remedy.Github.Client
import Remedy.Proofs.Rerun.Names

/-!
# The addresses of runs

Every address of a run is made of the full name of its repository, its number and what is asked
there. The number and the full name can be read off it. Owner and repository can be read off the
full name when there is one slash in it, but a name that has a slash itself can belong to either
side: then two runs may share their addresses.
-/

namespace Remedy.Github

open Json Workflow Rerun

/-- A list can be cut at an element in two ways only when one more stands in front of the later cut
and behind the earlier one. -/
theorem append_cons_cases {α : Type} {x : α} {a a' b b' : List α}
    (same : a ++ x :: b = a' ++ x :: b') :
    (a = a' ∧ b = b') ∨ (x ∈ a ∧ x ∈ b') ∨ (x ∈ a' ∧ x ∈ b) := by
  rcases List.append_eq_append_iff.1 same with ⟨between, rfl, rest⟩ | ⟨between, rfl, rest⟩
  · cases between with
    | nil => exact .inl ⟨(List.append_nil a).symm, (List.cons.inj rest).2⟩
    | cons y between =>
      obtain ⟨rfl, rfl⟩ := List.cons.inj rest
      exact .inr (.inr ⟨by simp, by simp⟩)
  · cases between with
    | nil => exact .inl ⟨List.append_nil a', (List.cons.inj rest).2.symm⟩
    | cons y between =>
      obtain ⟨rfl, rfl⟩ := List.cons.inj rest
      exact .inr (.inl ⟨by simp, by simp⟩)

/-! ## Full names -/

/-- The name under which a repository is found. -/
def fullName (run : RunRef) : String := run.owner ++ "/" ++ run.repo

theorem toList_fullName (run : RunRef) :
    (fullName run).toList = run.owner.toList ++ '/' :: run.repo.toList := by
  simp [fullName]

/-- Two runs with one full name and number are the same, or it can be cut in two ways. -/
theorem eq_or_slash_of_fullName {a b : RunRef} (same : fullName a = fullName b)
    (number : a.runId = b.runId) : a = b ∨ ('/' ∈ a.owner.toList ∧ '/' ∈ b.repo.toList) ∨
      ('/' ∈ b.owner.toList ∧ '/' ∈ a.repo.toList) := by
  have chars := congrArg String.toList same
  rw [toList_fullName, toList_fullName] at chars
  refine (append_cons_cases chars).imp_left fun ⟨owner, repo⟩ => ?_
  cases a
  cases b
  obtain rfl := String.toList_inj.1 owner
  obtain rfl := String.toList_inj.1 repo
  obtain rfl := number
  rfl

/-! ## Addresses -/

theorem numeral_inj {n m : Nat} (h : Decimal.numeral n = Decimal.numeral m) : n = m := by
  rw [← Decimal.ofDigits_numeral n, h, Decimal.ofDigits_numeral]

theorem slash_not_mem_numeral (n : Nat) : '/' ∉ Decimal.numeral n := by
  intro among
  have digit := Decimal.isDigit_of_mem_numeral among
  revert digit
  decide

/-- The number of a run stands behind the last slash. -/
theorem toList_runUrl (c : Connection) (run : RunRef) : (runUrl c run).toList =
    (c.baseUrl ++ "/repos/" ++ fullName run ++ "/actions/runs").toList ++
      '/' :: Decimal.numeral run.runId.toNat := by
  simp [runUrl, repositoryUrl, fullName, Decimal.numeral, String.toList_append]

theorem runUrl_eq_iff (c : Connection) (a b : RunRef) :
    runUrl c a = runUrl c b ↔ fullName a = fullName b ∧ a.runId = b.runId := by
  constructor
  · intro same
    have chars := congrArg String.toList same
    rw [toList_runUrl, toList_runUrl] at chars
    -- No digit is a slash: both addresses are cut at the slash in front of the number.
    rcases append_cons_cases chars with ⟨before, number⟩ | ⟨-, slash⟩ | ⟨-, slash⟩
    · have front := String.toList_inj.1 before
      rw [String.append_left_inj, String.append_right_inj] at front
      exact ⟨front, UInt64.toNat_inj.1 (numeral_inj number)⟩
    · exact absurd slash (slash_not_mem_numeral _)
    · exact absurd slash (slash_not_mem_numeral _)
  · rintro ⟨name, number⟩
    rw [← String.toList_inj, toList_runUrl, toList_runUrl, name, number]

/-- What can be asked of a run, each by its address. -/
def runAddresses (c : Connection) (page : Nat) : List (RunRef → String) :=
  [runUrl c, rerunUrl c, rerunFailedJobsUrl c, cancelUrl c, fun run => jobsUrl c run page]

theorem exists_suffix {c : Connection} {page : Nat} {address : RunRef → String}
    (h : address ∈ runAddresses c page) : ∃ asked, ∀ run, address run = runUrl c run ++ asked := by
  simp only [runAddresses, List.mem_cons, List.not_mem_nil, or_false] at h
  rcases h with rfl | rfl | rfl | rfl | rfl
  · exact ⟨"", fun run => String.append_empty.symm⟩
  · exact ⟨"/rerun", fun run => rfl⟩
  · exact ⟨"/rerun-failed-jobs", fun run => rfl⟩
  · exact ⟨"/cancel", fun run => rfl⟩
  · exact ⟨"/jobs?per_page=" ++ toString jobsPerPage ++ "&page=" ++ toString page, fun run => by
      simp only [jobsUrl, String.append_assoc]⟩

/-- Runs share an address just when they share the full name of their repository
and their number. -/
theorem address_eq_iff {c : Connection} {page : Nat} {address : RunRef → String}
    (h : address ∈ runAddresses c page) (a b : RunRef) :
    address a = address b ↔ fullName a = fullName b ∧ a.runId = b.runId := by
  obtain ⟨asked, ends⟩ := exists_suffix h
  rw [ends, ends, String.append_left_inj, runUrl_eq_iff]

/-- Owner and repository of a run that was found are some text without white space at the ends, and
they have a slash only where what they are taken from has one that does not divide owner and name.
Two runs that are not the same have no address in common, unless the owner of one of them has a
slash and the repository of the other one has one. -/
theorem resolved_runs_have_own_addresses {incident incident' : Incident} {plan plan' : Plan}
    {defaults defaults' : Defaults} {p p' : Parameters}
    (resolved : Parameters.resolve incident plan defaults = .ok p)
    (resolved' : Parameters.resolve incident' plan' defaults' = .ok p')
    (c : Connection) (page : Nat) :
    Named incident plan p.run ∧ Named incident' plan' p'.run ∧
      ∀ address ∈ runAddresses c page,
        (address p.run = address p'.run ↔
          fullName p.run = fullName p'.run ∧ p.run.runId = p'.run.runId) ∧
        (address p.run = address p'.run → p.run = p'.run ∨
          ('/' ∈ p.run.owner.toList ∧ '/' ∈ p'.run.repo.toList) ∨
            ('/' ∈ p'.run.owner.toList ∧ '/' ∈ p.run.repo.toList)) := by
  refine ⟨named_of_resolve resolved, named_of_resolve resolved', fun address among => ?_⟩
  have shared := address_eq_iff among p.run p'.run
  refine ⟨shared, fun same => ?_⟩
  obtain ⟨name, number⟩ := shared.1 same
  exact eq_or_slash_of_fullName name number

/-- Two runs of one repository, one of them named by the plan and the other by the event. -/
theorem resolved_runs_have_own_addresses_next :
    let incident := Incident.new ⟨7⟩ ⟨1700000000, 0⟩ .github "flaky_test"
    let incident' := incident.withPayload (.obj [("repository", .obj [("full_name",
      .str "acme/widgets")]), ("workflow_run", .obj [("id", natural 8)])])
    let plan := ((Plan.new .rerunWorkflow "").withParameter "repo"
      (.str " acme/widgets ")).withParameter "run_id" (.str "7")
    let run : RunRef := ⟨"acme", "widgets", 7⟩
    let run' : RunRef := ⟨"acme", "widgets", 8⟩
    let outcome := Parameters.resolve incident plan .standard
    let outcome' := Parameters.resolve incident' (.new .rerunWorkflow "") .standard
    (outcome = .ok ⟨run, true, 600, 10, true⟩ ∧ outcome' = .ok ⟨run', true, 600, 10, true⟩) ∧
      Text.Neat run.owner ∧ Text.Neat run.repo ∧
      ∀ address ∈ runAddresses (.of Connection.publicUrl) 1, address run ≠ address run' := by
  intro incident incident' plan run run' outcome outcome'
  have resolved : outcome = .ok ⟨run, true, 600, 10, true⟩ := by decide +kernel
  have resolved' : outcome' = .ok ⟨run', true, 600, 10, true⟩ := by decide +kernel
  obtain ⟨named, -, apart⟩ :=
    resolved_runs_have_own_addresses resolved resolved' (.of Connection.publicUrl) 1
  refine ⟨⟨resolved, resolved'⟩, named.owner, named.repo, fun address among same => ?_⟩
  have differ : ¬ (run = run' ∨ ('/' ∈ run.owner.toList ∧ '/' ∈ run'.repo.toList) ∨
      ('/' ∈ run'.owner.toList ∧ '/' ∈ run.repo.toList)) := by decide +kernel
  exact differ ((apart address among).2 same)

/-- An owner with a slash and a full name with two of them: two repositories at one address. -/
theorem slashes_share_address :
    let incident := Incident.new ⟨7⟩ ⟨1700000000, 0⟩ .github "flaky_test"
    let plan := (((Plan.new .rerunWorkflow "").withParameter "owner"
      (.str "acme/tools")).withParameter "repo" (.str "widgets")).withParameter "run_id" (natural 7)
    let plan' := ((Plan.new .rerunWorkflow "").withParameter "repo"
      (.str "acme/tools/widgets")).withParameter "run_id" (natural 7)
    let run : RunRef := ⟨"acme/tools", "widgets", 7⟩
    let run' : RunRef := ⟨"acme", "tools/widgets", 7⟩
    Parameters.resolve incident plan .standard = .ok ⟨run, true, 600, 10, true⟩ ∧
      Parameters.resolve incident plan' .standard = .ok ⟨run', true, 600, 10, true⟩ ∧
      '/' ∈ run.owner.toList ∧ '/' ∈ run'.repo.toList ∧ run ≠ run' ∧
      runUrl (.of Connection.publicUrl) run = runUrl (.of Connection.publicUrl) run' := by
  intro incident plan plan' run run'
  exact ⟨by decide +kernel, by decide +kernel, by decide +kernel, by decide +kernel,
    by decide +kernel, by decide +kernel⟩

end Remedy.Github
