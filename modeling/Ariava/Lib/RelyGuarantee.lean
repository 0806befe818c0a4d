import Ariava.Lib.Run

/-!
# `Ariava.Lib.RelyGuarantee`: local invariants of parties that share a state

Several parties take turns on one state, and `actor` says whose turn a step is. Each party has
an assertion `A i` about the state, and a relation `R i`, its rely, that bounds what a step of
another party may do to it.

`Run.relyGuarantee` proves the assertions of all parties along every run from three facts, none
of which speaks of two programs at once: an assertion is stable under its rely, a step of a
party establishes its own assertion again, and a step of a party respects the relies of the
others.
-/

set_option autoImplicit false

namespace Ariava.Lib

universe u v w

variable {ι : Type w} {σ : Type u} {α : Type v} {step : σ → α → σ → Prop}

/-- The three proof obligations of a system of parties. -/
structure RelyGuarantee (step : σ → α → σ → Prop) (actor : α → ι) (A : ι → σ → Prop)
    (R : ι → σ → σ → Prop) : Prop where
  stable : ∀ i s s', A i s → R i s s' → A i s'
  own : ∀ s a s', (∀ i, A i s) → step s a s' → A (actor a) s'
  guarantee : ∀ s a s' i, (∀ j, A j s) → step s a s' → i ≠ actor a → R i s s'

variable {actor : α → ι} {A : ι → σ → Prop} {R : ι → σ → σ → Prop}

/-- A step keeps the assertions of all parties. -/
theorem RelyGuarantee.keeps (h : RelyGuarantee step actor A R) {s s' : σ} {a : α}
    (hs : ∀ i, A i s) (hstep : step s a s') (i : ι) : A i s' := by
  by_cases hi : i = actor a
  · rw [hi]
    exact h.own s a s' hs hstep
  · exact h.stable i s s' (hs i) (h.guarantee s a s' i hs hstep hi)

/-- The assertions of all parties hold at the end of a run that starts with them. -/
theorem Run.relyGuarantee (h : RelyGuarantee step actor A R) {s s' : σ} {as : List α}
    (hrun : Run step s as s') (hs : ∀ i, A i s) : ∀ i, A i s' :=
  hrun.invariant (fun _ _ _ hi hstep => h.keeps hi hstep) hs

end Ariava.Lib
