import Remedy.Proofs.Service.DryRuns
import Remedy.Proofs.Service.Results

/-!
# Fates and legs

The fate of a call, and so what the limiter has recorded for it, goes with its legs: a start is
recorded when the gates let the call through, for the target that they asked about, and an end when
the execution is over.
-/

namespace Remedy

variable {Q : Type} {A : Q → Type} {σ : Type}

namespace Pool

open Limiter

variable {s : Service Q A} {w : Program.World Q A σ} {x : Pool Q A σ} {notes : List (Nat × Leg)}
  {i : Nat} {c : Call Q A} {t : Ticket} {went : List Leg} {fate : Fate}

/-- A fate that goes with the legs of a call. -/
structure Fate.Fits (fate : Fate) (s : Service Q A) (t : Ticket) (went : List Leg) : Prop where
  admitted : ∀ m l, .gates m l ∈ went → (fate = .never ↔ ¬ s.Executes t l m.date)
  executed : ∀ m outcome, .execution m outcome ∈ went → fate = .ofOutcome outcome

/-- A rollback is nothing to a fate. -/
theorem Fate.Fits.append (h : fate.Fits s t went) {more : List Leg}
    (other : ∀ leg ∈ more, ∃ m undone, leg = .rollback m undone) :
    fate.Fits s t (went ++ more) := by
  constructor
  · intro m l among
    rcases List.mem_append.1 among with before | after
    · exact h.admitted m l before
    · obtain ⟨m', undone, same⟩ := other _ after
      cases same
  · intro m outcome among
    rcases List.mem_append.1 among with before | after
    · exact h.executed m outcome before
    · obtain ⟨m', undone, same⟩ := other _ after
      cases same

/-- A call that executes gets a fate with its execution, or when it is given up. -/
theorem fits_of_executing {e : Execution Q A} {rest : Program Q A Report}
    (goes : s.Goes t (some (.executing e rest)) went) (some : fate ≠ .never) {more : List Leg}
    (only : ∀ leg ∈ more, ∃ m outcome, leg = .execution m outcome ∧ fate = .ofOutcome outcome) :
    fate.Fits s t (went ++ more) := by
  cases goes with
  | executing opens ready =>
    constructor
    · intro m l among
      rcases List.mem_append.1 among with before | after
      · cases List.mem_singleton.1 before
        exact ⟨fun never => absurd never some, fun barred => absurd opens barred⟩
      · obtain ⟨m', outcome, same, -⟩ := only _ after
        cases same
    · intro m outcome among
      rcases List.mem_append.1 among with before | after
      · cases List.mem_singleton.1 before
      · obtain ⟨m', outcome', same, own⟩ := only _ after
        cases same
        exact own

/-- Every call of a pool has a fate that goes with its legs. -/
structure Fated (s : Service Q A) (x : Pool Q A σ) (notes : List (Nat × Leg)) : Prop where
  noted : x.Noted s.Goes notes
  fits : ∀ (i : Nat) (c : Call Q A), x.calls[i]? = some c → c.fate.Fits s c.ticket (about i notes)

theorem Fated.receive (h : x.Fated s notes) (m : Moment) (t : Ticket) :
    (x.receive s m t).Fated s (notes ++ (legs w).notes x (.call m t)) := by
  refine ⟨h.noted.receive (s.stable_goes w) m t, fun j d out => ?_⟩
  obtain ⟨c, calls, ticket, -, fate⟩ := receive_fate s m t x
  rw [calls] at out
  rw [Scribe.notes, about_append, about_eq_nil h.noted.tagged, List.nil_append]
  rcases Nat.lt_or_ge j x.calls.length with old | new
  · rw [List.getElem?_append_left old] at out
    rw [if_neg (Nat.ne_of_lt old)]
    exact h.fits j d out
  · rw [List.getElem?_append_right new, List.getElem?_singleton] at out
    split at out
    · next last =>
      have same : j = x.calls.length := by omega
      rw [if_pos same, ← Option.some.inj out, ticket]
      constructor
      · intro m' l among
        cases List.mem_singleton.1 among
        rcases fate with ⟨running, opens⟩ | ⟨never, barred⟩
        · rw [running]
          constructor
          · intro never
            cases never
          · intro barred
            exact absurd opens barred
        · exact ⟨fun _ => barred, fun _ => never⟩
      · intro m' outcome among
        cases List.mem_singleton.1 among
    · cases out

/-- Only an execution that ends changes the fate of its call. -/
theorem fate_resume (m : Moment) {phase : Phase Q A} (at_ : c.phase = some phase)
    (out : x.calls[i]? = some c) {d : Call Q A} (after : (x.resume s w m i c).calls[i]? = some d) :
    d.fate = match phase with
      | .executing _ rest =>
        match (Program.turn w m.ms rest x.world).1 with
        | .on _ => c.fate
        | .ended outcome => .ofOutcome outcome
      | .rollingBack _ _ | .ended _ => c.fate := by
  have own {c' : Call Q A} {b : Board} {world : σ} {recorded : List (TargetKey × Entry)}
      (put : (x.put i c' b world recorded).calls[i]? = some d) : d = c' := by
    rcases calls_put b world recorded put with ⟨-, same⟩ | ⟨apart, -⟩
    · exact same
    · exact absurd rfl apart
  rw [Pool.resume, at_] at after
  cases phase with
  | executing e rest =>
    dsimp only at after ⊢
    generalize Program.turn w m.ms rest x.world = turn at after ⊢
    obtain ⟨outcome | rest', events, world⟩ := turn
    · rw [own after]
    · rw [own after]
  | rollingBack u rest =>
    dsimp only at after ⊢
    generalize Program.turn w m.ms rest x.world = turn at after
    obtain ⟨outcome | rest', events, world⟩ := turn
    · rw [own after]
    · rw [own after]
  | ended report =>
    dsimp only at after ⊢
    rw [Option.some.inj (out.symm.trans after)]

theorem Fated.resume (h : x.Fated s notes) (m : Moment) (out : x.calls[i]? = some c)
    {phase : Phase Q A} (at_ : c.phase = some phase) :
    (x.resume s w m i c).Fated s
      (notes ++ ((legs w).goes m x.board x.world phase).map (i, ·)) := by
  refine ⟨h.noted.resume (s.stable_goes w) m out at_, fun j d after => ?_⟩
  rw [about_append]
  rcases (calls_resume (s := s) (w := w) m at_ out).2 j d after with
    ⟨rfl, ticket, -⟩ | ⟨apart, before⟩
  · have fate := fate_resume m at_ out after
    have goes := h.noted.calls j c out
    have fits := h.fits j c out
    rw [if_pos rfl, ticket]
    rw [at_] at goes
    cases phase with
    | executing e rest =>
      simp only [legs] at fate ⊢
      generalize Program.turn w m.ms rest x.world = turn at fate ⊢
      obtain ⟨outcome | rest', events, world⟩ := turn
      · refine fits_of_executing goes ?_ fun leg among => ?_
        · rw [fate]
          cases outcome <;> exact Fate.noConfusion
        · exact ⟨m, outcome, List.mem_singleton.1 among, fate⟩
      · rw [fate, List.append_nil]
        exact fits
    | rollingBack u rest =>
      simp only [legs] at fate ⊢
      rw [fate]
      refine fits.append fun leg among => ?_
      generalize Program.turn w m.ms rest x.world = turn at among
      obtain ⟨undone | rest', events, world⟩ := turn
      · exact ⟨m, undone, List.mem_singleton.1 among⟩
      · cases among
    | ended report =>
      simp only [legs, List.append_nil] at fate ⊢
      rw [fate]
      exact fits
  · rw [if_neg apart]
    exact h.fits j d before

theorem Fated.abandon (h : x.Fated s notes) (w : Program.World Q A σ)
    (out : x.calls[i]? = some c) : (x.abandon i c).Fated s notes := by
  refine ⟨h.noted.abandon (s.stable_goes w) out, fun j d after => ?_⟩
  rw [Pool.abandon] at after
  split at after
  · next e rest at_ =>
    rcases calls_put _ _ _ after with ⟨rfl, rfl⟩ | ⟨-, before⟩
    · have goes := h.noted.calls j c out
      rw [at_] at goes
      rw [← List.append_nil (about j notes)]
      exact fits_of_executing goes Fate.noConfusion (List.forall_mem_nil _)
    · exact h.fits j d before
  · rcases calls_put _ _ _ after with ⟨rfl, rfl⟩ | ⟨-, before⟩
    · exact h.fits j c out
    · exact h.fits j d before
  · exact h.fits j d after

theorem Fated.step (h : x.Fated s notes) (move : Move) :
    (x.step s w move).Fated s (notes ++ (legs w).notes x move) := by
  cases move with
  | call m t => exact h.receive m t
  | step m i =>
    simp only [Pool.step, Scribe.notes]
    cases out : x.calls[i]? with
    | none => simpa using h
    | some c =>
      cases at_ : c.phase with
      | none => simpa [Pool.resume, at_] using h
      | some phase => simpa [at_] using h.resume (w := w) m out at_
  | drop i =>
    simp only [Pool.step, Scribe.notes, List.append_nil]
    split
    · next c out => exact h.abandon w out
    · exact h

theorem Fated.run (moves : List Move) :
    ∀ {x : Pool Q A σ} {notes : List (Nat × Leg)}, x.Fated s notes →
      (x.run s w moves).Fated s (notes ++ (legs w).story s w x moves) := by
  induction moves with
  | nil =>
    intro x notes h
    simpa [Scribe.story, Pool.run] using h
  | cons move rest ih =>
    intro x notes h
    rw [Scribe.story, ← List.append_assoc]
    exact ih (h.step move)

theorem fated_run (s : Service Q A) (w : Program.World Q A σ) (b : Board) (world : σ)
    (moves : List Move) : ((⟨[], b, world, []⟩ : Pool Q A σ).run s w moves).Fated s
      ((legs w).story s w (⟨[], b, world, []⟩ : Pool Q A σ) moves) := by
  have fresh : (⟨[], b, world, []⟩ : Pool Q A σ).Fated s ([] : List (Nat × Leg)) :=
    ⟨⟨by simp, by simp⟩, by simp⟩
  exact fresh.run moves

/-! ## What is recorded -/

/-- The gates of every call of a pool ask a limiter of one configuration. -/
theorem config_of_gates (moves : List Move) :
    ∀ {x : Pool Q A σ} {n : Nat × Leg}, n ∈ (legs w).story s w x moves →
      ∀ m l, n.2 = .gates m l → l.config = x.board.limiter.config := by
  induction moves with
  | nil =>
    intro x n among
    cases among
  | cons move rest ih =>
    intro x n among m l same
    rcases List.mem_append.1 among with now | later
    · cases move with
      | call m' t =>
        cases List.mem_singleton.1 now
        cases same
        rfl
      | step m' j =>
        simp only [Scribe.notes] at now
        split at now
        · obtain ⟨leg, noted, rfl⟩ := List.mem_map.1 now
          simp only [legs] at noted
          split at noted
          · split at noted
            · cases noted
            · cases List.mem_singleton.1 noted
              cases same
          · split at noted
            · cases noted
            · cases List.mem_singleton.1 noted
              cases same
          · cases noted
        · cases now
      | drop j => cases now
    · rw [ih later m l same, step_config]

/-- What is recorded of a call whose execution returned. -/
theorem entries_of_returned {config : BlastRadius} (coherent : Coherent config x)
    (out : x.calls[i]? = some c) {success : Bool} (fate : c.fate = .returned success) :
    x.entries i = if c.ticket.options.skipBlastRadius then []
      else [(c.key config, .start c.begun.date), (c.key config, .finish success)] := by
  rw [(coherent.calls i c out).2, Call.entries, fate]
  cases c.ticket.options.skipBlastRadius with
  | true => simp
  | false => simp [Fate.success?]

end Pool

end Remedy
