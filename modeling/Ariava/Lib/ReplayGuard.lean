import Mathlib.Data.Set.Basic
import Mathlib.Order.Defs.LinearOrder

/-!
# `Ariava.Lib.ReplayGuard`: at most one of several clashing messages

A guard accepts messages that carry a deadline. It remembers some of the messages it has
accepted, and refuses a message that clashes with a remembered one. Memory is finite, so
the guard may forget. The question is when forgetting is safe.

The answer is `Stale`: a message may be forgotten at a time by which every message that
clashes with it has passed its deadline. A guard that forgets only stale messages, and
accepts only before the deadline, never accepts two clashing messages
(`GuardStep.sound`), although its memory may be empty at the end.

Messages, the clash relation, the set of messages that can arrive and the time are
parameters.
-/

set_option autoImplicit false

namespace Ariava.Lib

universe u v

/-- The state of a guard: all accepted messages, newest first, the messages it remembers,
and the time. -/
structure ReplayGuard (μ : Type u) (τ : Type v) where
  accepted : List μ
  remembered : Set μ
  now : τ

namespace ReplayGuard

variable {μ : Type u} {τ : Type v} [LinearOrder τ]
  (issued : μ → Prop) (clash : μ → μ → Prop) (deadline : μ → τ)

/-- Every message that clashes with `m` has passed its deadline at `t`. -/
def Stale (m : μ) (t : τ) : Prop := ∀ m', issued m' → clash m m' → deadline m' ≤ t

/-- One step of a guard: time does not go back, only stale messages are forgotten, and at
most one message is accepted, before its deadline and without a clash in memory. -/
structure GuardStep (g g' : ReplayGuard μ τ) : Prop where
  clock : g.now ≤ g'.now
  forgets : ∀ m ∈ g.remembered, m ∈ g'.remembered ∨ Stale issued clash deadline m g'.now
  accepts : g'.accepted = g.accepted ∨
    ∃ m, g'.accepted = m :: g.accepted ∧ m ∈ g'.remembered ∧ issued m ∧
      (∃ t, g.now ≤ t ∧ t < deadline m) ∧ ∀ r ∈ g.remembered, ¬ clash r m

/-- The accepted messages do not clash, and each of them is remembered or stale. -/
structure Sound (g : ReplayGuard μ τ) : Prop where
  distinct : g.accepted.Pairwise fun m earlier => ¬ clash earlier m
  kept : ∀ m ∈ g.accepted, m ∈ g.remembered ∨ Stale issued clash deadline m g.now

variable {issued clash deadline}

/-- A stale message stays stale. -/
theorem Stale.mono {m : μ} {t t' : τ} (h : Stale issued clash deadline m t) (hle : t ≤ t') :
    Stale issued clash deadline m t' :=
  fun m' hm' hclash => le_trans (h m' hm' hclash) hle

/-- A guard that has accepted nothing is sound. -/
theorem Sound.initial (remembered : Set μ) (now : τ) :
    Sound issued clash deadline ⟨[], remembered, now⟩ where
  distinct := List.Pairwise.nil
  kept := fun m hm => absurd hm (by simp)

/-- An accepted message never clashes with an earlier one: the earlier one is remembered,
or every message that clashes with it is past its deadline. -/
theorem GuardStep.not_clash {g : ReplayGuard μ τ} (hsound : Sound issued clash deadline g)
    {m : μ} (hissued : issued m) {t : τ} (hnow : g.now ≤ t) (ht : t < deadline m)
    (hfree : ∀ r ∈ g.remembered, ¬ clash r m) : ∀ earlier ∈ g.accepted, ¬ clash earlier m := by
  intro earlier hmem hclash
  rcases hsound.kept earlier hmem with hremembered | hstale
  · exact hfree earlier hremembered hclash
  · have hle : deadline m ≤ t := le_trans (hstale m hissued hclash) hnow
    exact absurd ht (not_lt.mpr hle)

/-- A step keeps the guard sound. -/
theorem GuardStep.sound {g g' : ReplayGuard μ τ}
    (hstep : GuardStep issued clash deadline g g') (hsound : Sound issued clash deadline g) :
    Sound issued clash deadline g' := by
  have hkept : ∀ m ∈ g.accepted, m ∈ g'.remembered ∨ Stale issued clash deadline m g'.now := by
    intro m hm
    rcases hsound.kept m hm with hremembered | hstale
    · exact hstep.forgets m hremembered
    · exact Or.inr (hstale.mono hstep.clock)
  rcases hstep.accepts with hsame | ⟨m, hcons, hin, hissued, ⟨t, hnow, ht⟩, hfree⟩
  · exact ⟨hsame ▸ hsound.distinct, hsame ▸ hkept⟩
  · constructor
    · rw [hcons, List.pairwise_cons]
      exact ⟨GuardStep.not_clash hsound hissued hnow ht hfree, hsound.distinct⟩
    · intro earlier hearlier
      rw [hcons, List.mem_cons] at hearlier
      rcases hearlier with rfl | hearlier
      · exact Or.inl hin
      · exact hkept earlier hearlier

end ReplayGuard

end Ariava.Lib
