import Mathlib.Order.Bounds.Basic

/-!
# `Ariava.Lib.Greatest`: the greatest element of a predicate, if it has one

`GreatestOf P o` says that `o` is the greatest value with `P`, and `none` when no value has it. It
is what a loop keeps that raises an optional maximum. The predicate says which values have been
seen, so neither their order nor how often each of them came enters it.

`GreatestOf.insert` is the rule for one more value, and `GreatestOf.foldl` for a list of them.
-/

set_option autoImplicit false

namespace Ariava.Lib

variable {α : Type} [LinearOrder α]

/-- The greatest value of a predicate. -/
def GreatestOf (P : α → Prop) : Option α → Prop
  | none => ∀ a, ¬ P a
  | some m => IsGreatest {a | P a} m

/-- Raise an optional maximum to a value, at least. -/
def raiseTo (latest : Option α) (value : α) : α :=
  match latest with
  | none => value
  | some latest => max latest value

variable {P Q : α → Prop} {o : Option α} {a : α}

namespace GreatestOf

theorem congr (h : GreatestOf P o) (hiff : ∀ a, Q a ↔ P a) : GreatestOf Q o := by
  have hsame : Q = P := funext fun a => propext (hiff a)
  rw [hsame]
  exact h

/-- The greatest value is one of the values. -/
theorem holds (h : GreatestOf P (some a)) : P a := h.1

/-- Every value is at most the greatest one. -/
theorem le (h : GreatestOf P o) (ha : P a) : ∃ m, o = some m ∧ a ≤ m := by
  cases o with
  | none => exact absurd ha (h a)
  | some m => exact ⟨m, rfl, h.2 ha⟩

/-- One more value. -/
theorem insert (h : GreatestOf P o) (value : α) :
    GreatestOf (fun a => P a ∨ a = value) (some (raiseTo o value)) := by
  cases o with
  | none =>
    refine ⟨.inr rfl, fun a ha => ?_⟩
    rcases ha with ha | rfl
    · exact absurd ha (h a)
    · exact le_refl _
  | some m =>
    constructor
    · show P (max m value) ∨ max m value = value
      rcases le_total m value with hle | hle
      · exact .inr (max_eq_right hle)
      · rw [max_eq_left hle]
        exact .inl h.1
    · intro a ha
      show a ≤ max m value
      rcases ha with ha | rfl
      · exact (h.2 ha).trans (le_max_left _ _)
      · exact le_max_right _ _

/-- The values of a list, one after the other. -/
theorem foldl (h : GreatestOf P o) (values : List α) :
    GreatestOf (fun a => P a ∨ a ∈ values)
      (values.foldl (fun latest value => some (raiseTo latest value)) o) := by
  induction values generalizing P o with
  | nil => exact h.congr fun a => by simp
  | cons value rest ih =>
    rw [List.foldl_cons]
    refine (ih (h.insert value)).congr fun a => ?_
    rw [List.mem_cons, or_assoc]

end GreatestOf

end Ariava.Lib
