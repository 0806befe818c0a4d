import Mathlib.Logic.Basic

/-!
# `Ariava.Lib.Run`: runs of a labelled step relation

A step relation `step s a s'` says that the action `a` can take the state `s` to `s'`. A
`Run step s as s'` is a finite sequence of steps with the actions `as`. These rules carry
every result about runs.

- `Run.invariant`: what every step preserves holds at the end of a run.
- `Run.relates`: a reflexive and transitive relation that every step respects holds
  between the two ends.

- `Run.exists_loss`: what holds at the start and not at the end is lost in a step.
- `Run.project`: a component that each action moves along an event of its own, or leaves
  alone, is run along these events.

`Guarded step C` keeps the steps whose state and action meet the condition `C`, so a run of
`Guarded step C` is a run of `step` whose steps all meet `C`.
-/

set_option autoImplicit false

namespace Ariava.Lib

universe u v

variable {σ : Type u} {α : Type v}

/-- A finite sequence of steps. -/
inductive Run (step : σ → α → σ → Prop) : σ → List α → σ → Prop
  | nil (s : σ) : Run step s [] s
  | snoc {s t u : σ} {as : List α} {a : α} (run : Run step s as t) (last : step t a u) :
      Run step s (as ++ [a]) u

/-- The steps whose state and action meet `C`. -/
def Guarded (step : σ → α → σ → Prop) (C : σ → α → Prop) (s : σ) (a : α) (s' : σ) : Prop :=
  C s a ∧ step s a s'

/-- A step with the event, or no change when there is none. -/
def Along (step : σ → α → σ → Prop) : Option α → σ → σ → Prop
  | none, s, s' => s' = s
  | some e, s, s' => step s e s'

/-- Every action of a list meets the guard where it is taken, when the states are computed. -/
def AllAllowed (C : σ → α → Prop) (next : σ → α → σ) : σ → List α → Prop
  | _, [] => True
  | s, a :: as => C s a ∧ AllAllowed C next (next s a) as

instance AllAllowed.decidable (C : σ → α → Prop) [∀ s a, Decidable (C s a)] (next : σ → α → σ) :
    (s : σ) → (as : List α) → Decidable (AllAllowed C next s as)
  | _, [] => inferInstanceAs (Decidable True)
  | s, a :: as =>
    have := AllAllowed.decidable C next (next s a) as
    inferInstanceAs (Decidable (_ ∧ _))

namespace Run

variable {step : σ → α → σ → Prop}

/-- What every step preserves holds at the end of a run that starts with it. -/
theorem invariant {I : σ → Prop} (hstep : ∀ s a s', I s → step s a s' → I s') {s s' : σ}
    {as : List α} (hrun : Run step s as s') (hs : I s) : I s' := by
  induction hrun with
  | nil => exact hs
  | snoc _ hlast ih => exact hstep _ _ _ ih hlast

/-- A reflexive, transitive relation that every step respects holds between the ends. -/
theorem relates {R : σ → σ → Prop} (hrefl : ∀ s, R s s)
    (htrans : ∀ s t u, R s t → R t u → R s u) (hstep : ∀ s a s', step s a s' → R s s')
    {s s' : σ} {as : List α} (hrun : Run step s as s') : R s s' := by
  induction hrun with
  | nil => exact hrefl _
  | snoc _ hlast ih => exact htrans _ _ _ ih (hstep _ _ _ hlast)

/-- A run of one step. -/
theorem single {s s' : σ} {a : α} (h : step s a s') : Run step s [a] s' := by
  have hrun := Run.snoc (Run.nil s) h
  rwa [List.nil_append] at hrun

/-- Two runs, one after the other. -/
theorem append {s t u : σ} {as bs : List α} (h₁ : Run step s as t) (h₂ : Run step t bs u) :
    Run step s (as ++ bs) u := by
  induction h₂ with
  | nil =>
    rw [List.append_nil]
    exact h₁
  | snoc _ hlast ih =>
    rw [← List.append_assoc]
    exact Run.snoc ih hlast

/-- A step and then a run. -/
theorem cons {s t u : σ} {a : α} {as : List α} (first : step s a t) (rest : Run step t as u) :
    Run step s (a :: as) u :=
  (single first).append rest

/-- A run splits where its actions do. -/
theorem split {s u : σ} {as bs : List α} (hrun : Run step s (as ++ bs) u) :
    ∃ t, Run step s as t ∧ Run step t bs u := by
  generalize hall : as ++ bs = cs at hrun
  induction hrun generalizing bs with
  | nil =>
    obtain ⟨rfl, rfl⟩ := List.append_eq_nil_iff.mp hall
    exact ⟨_, Run.nil _, Run.nil _⟩
  | @snoc _ u init final run last ih =>
    rcases List.eq_nil_or_concat bs with rfl | ⟨bs', b, rfl⟩
    · rw [List.append_nil] at hall
      exact ⟨u, hall ▸ Run.snoc run last, Run.nil u⟩
    · rw [List.concat_eq_append, ← List.append_assoc] at hall
      obtain ⟨hinit, hfinal⟩ := List.append_inj' hall rfl
      cases hfinal
      obtain ⟨t, hpre, hpost⟩ := ih hinit
      exact ⟨t, hpre, List.concat_eq_append ▸ Run.snoc hpost last⟩

/-- The run of a list of actions whose states are computed. -/
theorem of_allAllowed {C : σ → α → Prop} {next : σ → α → σ}
    (hstep : ∀ s a, C s a → step s a (next s a)) {s : σ} {as : List α}
    (h : AllAllowed C next s as) : Run step s as (as.foldl next s) := by
  induction as generalizing s with
  | nil => exact Run.nil s
  | cons a as ih => exact cons (hstep s a h.1) (ih h.2)

/-- A run without actions goes nowhere. -/
theorem of_nil {s u : σ} (hrun : Run step s [] u) : u = s := by
  generalize hnone : ([] : List α) = as at hrun
  cases hrun with
  | nil => rfl
  | snoc _ _ => exact absurd hnone.symm (by simp)

/-- The first step of a run. -/
theorem uncons {s u : σ} {a : α} {as : List α} (hrun : Run step s (a :: as) u) :
    ∃ t, step s a t ∧ Run step t as u := by
  obtain ⟨t, hfirst, hrest⟩ := (show Run step s ([a] ++ as) u from hrun).split
  refine ⟨t, ?_, hrest⟩
  generalize hone : [a] = cs at hfirst
  cases hfirst with
  | nil => cases hone
  | snoc run last =>
    obtain ⟨hnil, hfinal⟩ := List.append_inj' (show [] ++ [a] = _ ++ [_] from hone) rfl
    cases hfinal
    subst hnil
    rw [run.of_nil] at last
    exact last

/-- A run of a stronger step relation is a run of a weaker one. -/
theorem mono {step' : σ → α → σ → Prop} (himp : ∀ s a s', step s a s' → step' s a s')
    {s s' : σ} {as : List α} (hrun : Run step s as s') : Run step' s as s' := by
  induction hrun with
  | nil => exact Run.nil _
  | snoc _ hlast ih => exact Run.snoc ih (himp _ _ _ hlast)

/-- The guard held where an action of a guarded run was taken. -/
theorem guard_of_mem {C : σ → α → Prop} {s s' : σ} {as : List α} {a : α}
    (hrun : Run (Guarded step C) s as s') (ha : a ∈ as) : ∃ t, C t a := by
  induction hrun with
  | nil => exact absurd ha (by simp)
  | snoc _ hlast ih =>
    rcases List.mem_append.mp ha with ha | ha
    · exact ih ha
    · rw [List.mem_singleton.mp ha]
      exact ⟨_, hlast.1⟩

/-- What holds at the start of a run and not at its end is lost in one of its steps. -/
theorem exists_loss {P : σ → Prop} {s s' : σ} {as : List α} (hrun : Run step s as s') (hs : P s)
    (hs' : ¬ P s') : ∃ pre a post t t', as = pre ++ a :: post ∧ Run step s pre t ∧ P t ∧
      step t a t' ∧ ¬ P t' ∧ Run step t' post s' := by
  induction hrun with
  | nil => exact absurd hs hs'
  | @snoc t u as a run last ih =>
    by_cases ht : P t
    · exact ⟨as, a, [], t, u, rfl, run, ht, last, hs', Run.nil u⟩
    · obtain ⟨pre, b, post, v, v', rfl, hpre, hv, hstep, hv', hpost⟩ := ih ht
      refine ⟨pre, b, post ++ [a], v, v', ?_, hpre, hv, hstep, hv', Run.snoc hpost last⟩
      rw [List.append_assoc, List.cons_append]

/-- A component that each action moves along its own event, or not at all, is run along the
events. -/
theorem project {τ : Type u} {β : Type v} {step' : τ → β → τ → Prop} (f : σ → τ)
    (event : α → Option β) (hstep : ∀ s a s', step s a s' → Along step' (event a) (f s) (f s'))
    {s s' : σ} {as : List α} (hrun : Run step s as s') :
    Run step' (f s) (as.filterMap event) (f s') := by
  induction hrun with
  | nil => exact Run.nil _
  | @snoc t u as a run last ih =>
    have hlast := hstep _ _ _ last
    rw [List.filterMap_append, List.filterMap_cons, List.filterMap_nil]
    rcases hevent : event a with _ | e
    · rw [hevent] at hlast
      rw [List.append_nil, show f u = f t from hlast]
      exact ih
    · rw [hevent] at hlast
      exact Run.snoc ih hlast

end Run

end Ariava.Lib
