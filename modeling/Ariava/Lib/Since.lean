import Mathlib.Logic.Basic

/-!
# `Ariava.Lib.Since`: past-time properties of a trace

`Since hold event as` says that an event happened in the trace `as`, and that everything after
it satisfies `hold`. The event may look at the trace before it, so that `Since` nests: "a run
ended, and nothing has started since that end, and it had started before".

`since_snoc` is the recursion by which a monitor computes `Since`, one action at a time.
-/

set_option autoImplicit false

namespace Ariava.Lib

universe u

variable {α : Type u}

/-- The event happened, and everything since then satisfies `hold`. Both may look at what came
before. -/
def Since (hold event : List α → α → Prop) (as : List α) : Prop :=
  ∃ pre a post, as = pre ++ a :: post ∧ event pre a ∧
    ∀ mid b rest, post = mid ++ b :: rest → hold (pre ++ a :: mid) b

namespace Since

variable {hold event : List α → α → Prop} {as : List α} {a : α}

/-- The last action is the event. -/
theorem now (h : event as a) : Since hold event (as ++ [a]) := by
  refine ⟨as, a, [], rfl, h, ?_⟩
  intro mid b rest hpost
  exact absurd hpost.symm (by simp)

/-- The last action keeps what the event has begun. -/
theorem keep (h : Since hold event as) (ha : hold as a) : Since hold event (as ++ [a]) := by
  obtain ⟨pre, b, post, rfl, hevent, hpost⟩ := h
  refine ⟨pre, b, post ++ [a], by rw [List.append_assoc, List.cons_append], hevent, ?_⟩
  intro mid c rest hrest
  rcases List.eq_nil_or_concat rest with rfl | ⟨init, last, rfl⟩
  · obtain ⟨rfl, hlast⟩ := List.append_inj' hrest rfl
    cases hlast
    exact ha
  · rw [List.concat_eq_append, ← List.cons_append, ← List.append_assoc] at hrest
    obtain ⟨hinit, -⟩ := List.append_inj' hrest rfl
    exact hpost mid c init hinit

/-- What a monitor computes: the event is the last action, or it happened before and the last
action keeps it. -/
theorem since_snoc :
    Since hold event (as ++ [a]) ↔ event as a ∨ (hold as a ∧ Since hold event as) := by
  constructor
  · rintro ⟨pre, b, post, has, hevent, hpost⟩
    rcases List.eq_nil_or_concat post with rfl | ⟨init, last, rfl⟩
    · obtain ⟨rfl, hlast⟩ := List.append_inj' has rfl
      cases hlast
      exact Or.inl hevent
    · rw [List.concat_eq_append] at has hpost
      rw [← List.cons_append, ← List.append_assoc] at has
      obtain ⟨rfl, hlast⟩ := List.append_inj' has rfl
      cases hlast
      refine Or.inr ⟨hpost init a [] rfl, pre, b, init, rfl, hevent, ?_⟩
      intro mid c rest hrest
      exact hpost mid c (rest ++ [a]) (by rw [hrest, List.append_assoc, List.cons_append])
  · rintro (h | ⟨ha, h⟩)
    · exact now h
    · exact h.keep ha

end Since

end Ariava.Lib
