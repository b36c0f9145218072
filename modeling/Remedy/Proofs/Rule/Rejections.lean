import Remedy.Rule

/-!
# The first rejection

A rule set answers with what the first rule that rejects says, and passes when none does.
-/

namespace Remedy

variable (i : Incident) (c : Context) (analysis : Option Analysis)

namespace Rule

/-- The rule has nothing against an incident. -/
def Passes (r : Rule) : Prop := (r.evaluate i c analysis).passed = true

end Rule

namespace RuleSet

variable {i c analysis}

theorem evaluate_cons_of_passes {r : Rule} {rules : RuleSet} (passes : r.Passes i c analysis) :
    evaluate (r :: rules) i c analysis = evaluate rules i c analysis := by
  rw [Rule.Passes] at passes
  simp [evaluate, passes]

theorem evaluate_cons_of_rejects {r : Rule} {rules : RuleSet}
    (rejects : ¬ r.Passes i c analysis) :
    evaluate (r :: rules) i c analysis = r.evaluate i c analysis := by
  rw [Rule.Passes, Bool.not_eq_true] at rejects
  simp [evaluate, rejects]

theorem evaluate_append {before : RuleSet} (passes : ∀ b ∈ before, b.Passes i c analysis)
    (rules : RuleSet) : evaluate (before ++ rules) i c analysis = evaluate rules i c analysis := by
  induction before with
  | nil => rfl
  | cons b before ih =>
    obtain ⟨first, others⟩ := List.forall_mem_cons.1 passes
    exact (evaluate_cons_of_passes first).trans (ih others)

/-- What the rules after the first rejection would say does not matter. -/
theorem evaluate_first {before after : RuleSet} {r : Rule}
    (passes : ∀ b ∈ before, b.Passes i c analysis) (rejects : ¬ r.Passes i c analysis) :
    evaluate (before ++ r :: after) i c analysis = r.evaluate i c analysis :=
  (evaluate_append passes _).trans (evaluate_cons_of_rejects rejects)

theorem evaluate_passed_iff (rules : RuleSet) :
    (evaluate rules i c analysis).passed = true ↔ ∀ r ∈ rules, r.Passes i c analysis := by
  induction rules with
  | nil => exact iff_of_true rfl (List.forall_mem_nil _)
  | cons r rules ih =>
    rw [List.forall_mem_cons, ← ih]
    by_cases passes : r.Passes i c analysis
    · rw [evaluate_cons_of_passes passes, and_iff_right passes]
    · rw [evaluate_cons_of_rejects passes]
      exact (iff_false_intro passes).trans (iff_false_intro fun both => passes both.1).symm

theorem evaluate_passed (rules : RuleSet) :
    (evaluate rules i c analysis).passed = rules.all fun r => (r.evaluate i c analysis).passed := by
  rw [Bool.eq_iff_iff, evaluate_passed_iff, List.all_eq_true]
  rfl

end RuleSet

end Remedy
