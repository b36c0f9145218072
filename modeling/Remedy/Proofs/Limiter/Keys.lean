import Remedy.Proofs.Limiter.Usage
import Remedy.Proofs.Target.Naming

/-!
# Keys identify targets

The limiter knows a target by one text, put together from the name of a field and a value that
whoever reports incidents may choose. Two incidents have one key just when the policy picks the same
field with the same value of both, or nothing of either, so that a start is counted against all
incidents with its target and against no other.
-/

namespace Remedy

namespace TargetKeyPolicy

/-- The policy picks the same of two incidents. -/
def SharesTarget (p : TargetKeyPolicy) (i j : Incident) : Prop :=
  (∃ f value, p.Picks i f value ∧ p.Picks j f value) ∨ p.Unnamed i ∧ p.Unnamed j

variable {p : TargetKeyPolicy} {i j : Incident}

theorem keyFor_eq_iff : p.keyFor i = p.keyFor j ↔ p.SharesTarget i j := by
  constructor
  · intro same
    obtain ⟨f, value, picks⟩ | unnamed := p.picks_or_unnamed j
    · have key : p.keyFor i = .of f value := same.trans (keyFor_eq_of_iff.2 picks)
      exact .inl ⟨f, value, keyFor_eq_of_iff.1 key, picks⟩
    · have key : p.keyFor i = .global := same.trans (keyFor_eq_global_iff.2 unnamed)
      exact .inr ⟨keyFor_eq_global_iff.1 key, unnamed⟩
  · rintro (⟨f, value, picks, again⟩ | ⟨unnamed, again⟩)
    · rw [keyFor_eq_of_iff.2 picks, keyFor_eq_of_iff.2 again]
    · rw [keyFor_eq_global_iff.2 unnamed, keyFor_eq_global_iff.2 again]

instance (p : TargetKeyPolicy) (i j : Incident) : Decidable (p.SharesTarget i j) :=
  decidable_of_iff _ keyFor_eq_iff

/-- Two incidents have one key just when the first field of the policy that has a value is the same
field with the same value for both, or no field of it has a value for either. A key is made of the
field and the value that the policy picks, or is the shared one where it picks nothing, and no text
in a value makes two of these equal. So a start against the target of one incident is counted
against the target of another just when the two share it. -/
theorem keys_identify_targets (p : TargetKeyPolicy) :
    (∀ i j, p.keyFor i = p.keyFor j ↔ p.SharesTarget i j) ∧
    (∀ i f value, p.keyFor i = .of f value ↔ p.Picks i f value) ∧
    (∀ i, p.keyFor i = .global ↔ p.Unnamed i) ∧
    (∀ f f' value value', TargetKey.of f value = .of f' value' ↔ f = f' ∧ value = value') ∧
    (∀ f value, TargetKey.of f value ≠ .global) ∧
    ∀ (l : Limiter) (now : Time.Instant) (i j : Incident),
      let before := l.target (p.keyFor j)
      let after := (l.recordStart now (p.keyFor i)).target (p.keyFor j)
      after.attempts = (before.prune (l.config.cutoff now)).attempts ++
          (if p.SharesTarget i j then [now] else []) ∧
        after.inFlight = before.inFlight + if p.SharesTarget i j then 1 else 0 := by
  refine ⟨fun i j => keyFor_eq_iff, fun i f value => keyFor_eq_of_iff,
    fun i => keyFor_eq_global_iff, fun f f' value value' => TargetKey.of_inj,
    TargetKey.of_ne_global, ?_⟩
  intro l now i j before after
  have attempts := l.recordStart_attempts now (p.keyFor i) (p.keyFor j)
  have inFlight := l.recordStart_inFlight now (p.keyFor i) (p.keyFor j)
  have shared : p.keyFor j = p.keyFor i ↔ p.SharesTarget i j := eq_comm.trans keyFor_eq_iff
  simp only [shared] at attempts inFlight
  exact ⟨attempts, inFlight⟩

/-- A service that is called like the key of a namespace, and one that is called like the shared
key. -/
example :
    let i := Incident.new ⟨7⟩ ⟨1700000000, 0⟩ .kubernetes "crash_loop"
    let key (name value : String) := standard.keyFor (i.withContext name (.str value))
    key "service" " namespace:prod " ≠ key "namespace" "prod" ∧
      key "app" "global" ≠ standard.keyFor i := by decide +kernel

end TargetKeyPolicy

end Remedy
