import Mathlib.Logic.Basic
import PlayerAccounts.Proofs.Service.Operations
/-!
# What came last

A history is a list of steps, first one first. Much of what a store holds is what the last step of some
kind left there, so long as nothing has put an end to it since. Here is that relation between a history
and what holds after it, for any history and for runs of operations.
-/
namespace PlayerAccounts.Service
set_option autoImplicit false

open PlayerAccounts.Account
open PlayerAccounts.Store

/-! ## Histories -/

section Histories
variable {α : Type} {p p' q : α → Prop} {steps : List α}

/-- There was a step with `p`, and no step with `q` came after it. -/
def Since (p q : α → Prop) (steps : List α) : Prop :=
  ∃ before step after, steps = before ++ step :: after ∧ p step ∧ ∀ later ∈ after, ¬ q later

theorem not_since_nil (p q : α → Prop) : ¬ Since p q [] := by
  rintro ⟨before, step, after, hsteps, -⟩
  exact List.append_ne_nil_of_right_ne_nil before (List.cons_ne_nil step after) hsteps.symm

theorem since_cons (p q : α → Prop) (first : α) (steps : List α) :
    Since p q (first :: steps) ↔ Since p q steps ∨ p first ∧ ∀ later ∈ steps, ¬ q later := by
  constructor
  · rintro ⟨before, step, after, hsteps, hp, hlater⟩
    cases before with
    | nil =>
      obtain ⟨rfl, rfl⟩ := List.cons.inj hsteps
      exact .inr ⟨hp, hlater⟩
    | cons _ before =>
      obtain ⟨-, rfl⟩ := List.cons.inj hsteps
      exact .inl ⟨before, step, after, rfl, hp, hlater⟩
  · rintro (⟨before, step, after, rfl, hp, hlater⟩ | ⟨hp, hlater⟩)
    · exact ⟨first :: before, step, after, rfl, hp, hlater⟩
    · exact ⟨[], first, steps, rfl, hp, hlater⟩

instance decidableSince (p q : α → Prop) [DecidablePred p] [DecidablePred q] : DecidablePred (Since p q)
  | [] => .isFalse (not_since_nil p q)
  | first :: steps =>
    have := decidableSince p q steps
    decidable_of_iff _ (since_cons p q first steps).symm

/-- Two steps after neither of which there was one of either kind are the same step. -/
theorem Since.common (hp : ∀ step, p step → q step) (hp' : ∀ step, p' step → q step)
    (h : Since p q steps) (h' : Since p' q steps) : ∃ step ∈ steps, p step ∧ p' step := by
  induction steps with
  | nil => exact absurd h (not_since_nil p q)
  | cons first steps ih =>
    rw [since_cons] at h h'
    rcases h with hlast | ⟨hfirst, hnone⟩ <;> rcases h' with hlast' | ⟨hfirst', hnone'⟩
    · obtain ⟨step, hm, hboth⟩ := ih hlast hlast'
      exact ⟨step, List.mem_cons_of_mem first hm, hboth⟩
    · obtain ⟨before, step, after, rfl, hstep, -⟩ := hlast
      exact absurd (hp step hstep) (hnone' step (by simp))
    · obtain ⟨before, step, after, rfl, hstep, -⟩ := hlast'
      exact absurd (hp' step hstep) (hnone step (by simp))
    · exact ⟨first, List.mem_cons_self, hfirst, hfirst'⟩

theorem since_of_exists (h : ∃ step ∈ steps, p step) : Since p p steps := by
  induction steps with
  | nil =>
    obtain ⟨step, hm, -⟩ := h
    exact nomatch hm
  | cons first steps ih =>
    rw [since_cons]
    by_cases hlater : ∃ later ∈ steps, p later
    · exact .inl (ih hlater)
    · have hnone : ∀ later ∈ steps, ¬ p later := fun later hl hq => hlater ⟨later, hl, hq⟩
      obtain ⟨step, hm, hp⟩ := h
      rcases List.mem_cons.mp hm with rfl | hm
      · exact .inr ⟨hp, hnone⟩
      · exact absurd hp (hnone step hm)

/-- If the steps of one kind are steps of another, the last of the other kind is no earlier. -/
theorem Since.latest (hp : ∀ step, p step → p' step) (h : Since p q steps) :
    Since p' (fun step => q step ∨ p' step) steps := by
  obtain ⟨before, step, after, rfl, hstep, hnone⟩ := h
  have hexists : ∃ other ∈ step :: after, p' other := ⟨step, List.mem_cons_self, hp step hstep⟩
  obtain ⟨before', last, after', hsplit, hlast, hnone'⟩ := since_of_exists hexists
  refine ⟨before ++ before', last, after', by rw [hsplit, List.append_assoc], hlast, ?_⟩
  have hafter : ∀ later ∈ after', later ∈ after := by
    intro later hm
    cases before' with
    | nil => rwa [(List.cons.inj hsplit).2]
    | cons _ before' =>
      rw [(List.cons.inj hsplit).2]
      simp [hm]
  rintro later hm (hq | hq)
  · exact hnone later (hafter later hm) hq
  · exact hnone' later hm hq

theorem since_exists {ι : Type} {p : ι → α → Prop} :
    Since (fun step => ∃ i, p i step) q steps ↔ ∃ i, Since (p i) q steps := by
  constructor
  · rintro ⟨before, step, after, hsteps, ⟨i, hp⟩, hnone⟩
    exact ⟨i, before, step, after, hsteps, hp, hnone⟩
  · rintro ⟨i, before, step, after, hsteps, hp, hnone⟩
    exact ⟨before, step, after, hsteps, ⟨i, hp⟩, hnone⟩

end Histories

/-! ## Runs of operations -/

/-- At every step of a run the tables and the occasion are related like this. -/
def AllAlong (sealer : Sealer) (K : Tables → Occasion → Prop) : Tables → List (Occasion × Operation) → Prop
  | _, [] => True
  | t, (o, op) :: run => K t o ∧ AllAlong sealer K (perform sealer t o op).2 run

section Runs
variable {sealer : Sealer} {K : Tables → Occasion → Prop} {I : Tables → Prop} {p q : Performed → Prop}
  {t : Tables} {run : List (Occasion × Operation)}

theorem performAll_keeps (hstep : ∀ t o op, t.Sound → K t o → I t → I (perform sealer t o op).2)
    (hs : t.Sound) (hrun : AllAlong sealer K t run) (h : I t) : I (performAll sealer t run).2 := by
  induction run generalizing t with
  | nil => exact h
  | cons first run ih => exact ih (sound_perform hs sealer _ _) hrun.2 (hstep _ _ _ hs hrun.1 h)

/-- What a step with `p` brings about, and only a step with `q` ends, holds after a run if it was brought
about last, or was there and has not been ended. -/
theorem performAll_of_since
    (hput : ∀ t o op, t.Sound → K t o → p (perform sealer t o op).1 → I (perform sealer t o op).2)
    (hkeep : ∀ t o op, t.Sound → K t o → I t → ¬ q (perform sealer t o op).1 →
      I (perform sealer t o op).2)
    (hs : t.Sound) (hrun : AllAlong sealer K t run)
    (h : Since p q (performAll sealer t run).1 ∨ I t ∧ ∀ step ∈ (performAll sealer t run).1, ¬ q step) :
    I (performAll sealer t run).2 := by
  induction run generalizing t with
  | nil =>
    rcases h with hsince | ⟨hi, -⟩
    · exact absurd hsince (not_since_nil p q)
    · exact hi
  | cons first run ih =>
    obtain ⟨o, op⟩ := first
    apply ih (sound_perform hs sealer o op) hrun.2
    change Since p q (_ :: _) ∨ I t ∧ ∀ step ∈ _ :: _, ¬ q step at h
    rw [since_cons, List.forall_mem_cons] at h
    rcases h with (hsince | ⟨hp, hnone⟩) | ⟨hi, hq, hnone⟩
    · exact .inl hsince
    · exact .inr ⟨hput t o op hs hrun.1 hp, hnone⟩
    · exact .inr ⟨hkeep t o op hs hrun.1 hi hq, hnone⟩

/-- What holds after a run was brought about last, or was there and has not been ended, if that is so of
each step. -/
theorem since_of_performAll
    (hcases : ∀ t o op, t.Sound → K t o → I (perform sealer t o op).2 →
      p (perform sealer t o op).1 ∨ I t ∧ ¬ q (perform sealer t o op).1)
    (hs : t.Sound) (hrun : AllAlong sealer K t run) (h : I (performAll sealer t run).2) :
    Since p q (performAll sealer t run).1 ∨ I t ∧ ∀ step ∈ (performAll sealer t run).1, ¬ q step := by
  induction run generalizing t with
  | nil => exact .inr ⟨h, fun step hm => nomatch hm⟩
  | cons first run ih =>
    obtain ⟨o, op⟩ := first
    change Since p q (_ :: _) ∨ I t ∧ ∀ step ∈ _ :: _, ¬ q step
    rw [since_cons, List.forall_mem_cons]
    rcases ih (sound_perform hs sealer o op) hrun.2 h with hsince | ⟨hi, hnone⟩
    · exact .inl (.inl hsince)
    · rcases hcases t o op hs hrun.1 hi with hp | ⟨hi, hq⟩
      · exact .inl (.inr ⟨hp, hnone⟩)
      · exact .inr ⟨hi, hq, hnone⟩

end Runs
end PlayerAccounts.Service
