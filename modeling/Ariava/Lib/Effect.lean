import Mathlib.Logic.Basic

/-!
# `Ariava.Lib.Effect`: programs whose state outlives an error

`Effect ε σ α` is a program over a state `σ` that returns an `α` or throws an `ε`. A throw
keeps the state as it was at the throw, as in a language with mutable objects and
exceptions. There is no rollback, so what a program had written when it failed is part of
what it does.

Two kinds of facts are stated about a program.

- `Triple P p Q`: from a state in `P`, the outcome and the final state are in `Q`. `Q`
  reads the outcome, so one triple covers the return and the throw.
- `Leaves R p`: the relation `R` holds between the initial and the final state, whatever
  the outcome. For a reflexive and transitive `R` the rules go through every construct, so
  a frame fact about a long program is assembled from one fact for each call in it.
- `Raises E p`: every error that the program ends with is in `E`.

`zoom` runs a program on a component of a larger state.
-/

set_option autoImplicit false

namespace Ariava.Lib

/-- A program over the state `σ` that returns an `α` or throws an `ε`. -/
def Effect (ε σ α : Type) : Type := σ → Except ε α × σ

namespace Effect

variable {ε σ τ α β : Type}

/-- Run a program from a state. -/
def run (p : Effect ε σ α) (s : σ) : Except ε α × σ := p s

/-- The state a program leaves. -/
def final (p : Effect ε σ α) (s : σ) : σ := (p.run s).2

/-- The value or the error a program ends with. -/
def outcome (p : Effect ε σ α) (s : σ) : Except ε α := (p.run s).1

/-- The continuation of a program that ended with an outcome. -/
def next (f : α → Effect ε σ β) : Except ε α × σ → Except ε β × σ
  | (.ok a, s) => f a s
  | (.error e, s) => (.error e, s)

/-- The handler of a program that ended with an outcome. -/
def handle (h : ε → Effect ε σ α) : Except ε α × σ → Except ε α × σ
  | (.ok a, s) => (.ok a, s)
  | (.error e, s) => h e s

instance : Monad (Effect ε σ) where
  pure a := fun s => (.ok a, s)
  bind p f := fun s => next f (p s)

instance : MonadExceptOf ε (Effect ε σ) where
  throw e := fun s => (.error e, s)
  tryCatch p h := fun s => handle h (p s)

instance : MonadStateOf σ (Effect ε σ) where
  get := fun s => (.ok s, s)
  set s := fun _ => (.ok (), s)
  modifyGet f := fun s => (.ok (f s).1, (f s).2)

/-- Lift a computation that only returns or throws. -/
def ofExcept (r : Except ε α) : Effect ε σ α := fun s => (r, s)

/-- Run a program on the component of the state that `read` and `write` give. -/
def zoom (read : σ → τ) (write : τ → σ → σ) (p : Effect ε τ α) : Effect ε σ α := fun s =>
  ((p (read s)).1, write (p (read s)).2 s)

/-- Run a program for each element of a list, in order, until one throws. -/
def forEach (xs : List β) (f : β → Effect ε σ Unit) : Effect ε σ Unit :=
  match xs with
  | [] => pure ()
  | x :: rest => f x >>= fun _ => forEach rest f

/-! ### Equations of the constructs -/

@[ext] theorem ext {p q : Effect ε σ α} (h : ∀ s, p.run s = q.run s) : p = q := funext h

@[simp] theorem run_pure (a : α) (s : σ) : (pure a : Effect ε σ α).run s = (.ok a, s) := rfl

theorem run_bind (p : Effect ε σ α) (f : α → Effect ε σ β) (s : σ) :
    (p >>= f).run s = next f (p.run s) := rfl

@[simp] theorem next_ok (f : α → Effect ε σ β) (a : α) (s : σ) :
    next f (.ok a, s) = (f a).run s := rfl

@[simp] theorem next_error (f : α → Effect ε σ β) (e : ε) (s : σ) :
    next f (.error e, s) = (.error e, s) := rfl

@[simp] theorem run_throw (e : ε) (s : σ) : (throw e : Effect ε σ α).run s = (.error e, s) := rfl

@[simp] theorem run_get (s : σ) : (get : Effect ε σ σ).run s = (.ok s, s) := rfl

@[simp] theorem run_set (t s : σ) : (set t : Effect ε σ PUnit).run s = (.ok (), t) := rfl

@[simp] theorem run_modify (f : σ → σ) (s : σ) :
    (modify f : Effect ε σ PUnit).run s = (.ok (), f s) := rfl

/-- Three programs in sequence, grouped either way. -/
theorem bind_bind (p : Effect ε σ α) (f : α → Effect ε σ β) {γ : Type}
    (g : β → Effect ε σ γ) : (p >>= f) >>= g = p >>= fun a => f a >>= g := by
  refine ext fun s => ?_
  rw [run_bind, run_bind, run_bind]
  rcases p.run s with ⟨_ | a, t⟩
  · rfl
  · rfl

/-- A sequence returns when both parts do. -/
theorem run_bind_eq_ok {p : Effect ε σ α} {f : α → Effect ε σ β} {s s' : σ} {b : β} :
    (p >>= f).run s = (.ok b, s') ↔
      ∃ a t, p.run s = (.ok a, t) ∧ (f a).run t = (.ok b, s') := by
  rw [run_bind]
  rcases p.run s with ⟨_ | a, t⟩
  · simp
  · constructor
    · exact fun h => ⟨a, t, rfl, h⟩
    · rintro ⟨_, _, h, h'⟩
      cases h
      exact h'

theorem run_tryCatch (p : Effect ε σ α) (h : ε → Effect ε σ α) (s : σ) :
    (tryCatch p h).run s = handle h (p.run s) := rfl

@[simp] theorem handle_ok (h : ε → Effect ε σ α) (a : α) (s : σ) :
    handle h (.ok a, s) = (.ok a, s) := rfl

@[simp] theorem handle_error (h : ε → Effect ε σ α) (e : ε) (s : σ) :
    handle h (.error e, s) = (h e).run s := rfl

@[simp] theorem run_ofExcept (r : Except ε α) (s : σ) :
    (ofExcept r : Effect ε σ α).run s = (r, s) := rfl

@[simp] theorem run_zoom (read : σ → τ) (write : τ → σ → σ) (p : Effect ε τ α) (s : σ) :
    (zoom read write p).run s = ((p.run (read s)).1, write (p.run (read s)).2 s) := rfl

/-! ### Relations between the first and the last state -/

/-- `R` holds between the state a program starts in and the state it leaves, whether it
returns or throws. -/
def Leaves (R : σ → σ → Prop) (p : Effect ε σ α) : Prop := ∀ s, R s (p.run s).2

section Leaves
variable {R : σ → σ → Prop}

theorem Leaves.pure (hrefl : ∀ s, R s s) (a : α) : Leaves R (pure a : Effect ε σ α) :=
  fun s => hrefl s

theorem Leaves.throw (hrefl : ∀ s, R s s) (e : ε) : Leaves R (throw e : Effect ε σ α) :=
  fun s => hrefl s

theorem Leaves.get (hrefl : ∀ s, R s s) : Leaves R (get : Effect ε σ σ) := fun s => hrefl s

theorem Leaves.ofExcept (hrefl : ∀ s, R s s) (r : Except ε α) :
    Leaves R (ofExcept r : Effect ε σ α) := fun s => hrefl s

theorem Leaves.bind (htrans : ∀ s t u, R s t → R t u → R s u) {p : Effect ε σ α}
    {f : α → Effect ε σ β} (hp : Leaves R p) (hf : ∀ a, Leaves R (f a)) :
    Leaves R (p >>= f) := by
  intro s
  rw [run_bind]
  have hs := hp s
  rcases hrun : p.run s with ⟨r, t⟩
  rw [hrun] at hs
  cases r with
  | ok a => exact htrans _ _ _ hs (hf a t)
  | error e => exact hs

/-- The rule of `bind` at one state: the continuation may use where the first part ended. -/
theorem Leaves.bind_at (htrans : ∀ s t u, R s t → R t u → R s u) {p : Effect ε σ α}
    {f : α → Effect ε σ β} {s : σ} (hp : R s (p.run s).2)
    (hf : ∀ a, (p.run s).1 = .ok a → R (p.run s).2 ((f a).run (p.run s).2).2) :
    R s ((p >>= f).run s).2 := by
  rw [run_bind]
  rcases hrun : p.run s with ⟨r, t⟩
  rw [hrun] at hp hf
  cases r with
  | ok a => exact htrans _ _ _ hp (hf a rfl)
  | error e => exact hp

theorem Leaves.tryCatch (htrans : ∀ s t u, R s t → R t u → R s u) {p : Effect ε σ α}
    {h : ε → Effect ε σ α} (hp : Leaves R p) (hh : ∀ e, Leaves R (h e)) :
    Leaves R (tryCatch p h) := by
  intro s
  rw [run_tryCatch]
  have hs := hp s
  rcases hrun : p.run s with ⟨r, t⟩
  rw [hrun] at hs
  cases r with
  | ok a => exact hs
  | error e => exact htrans _ _ _ hs (hh e t)

theorem Leaves.ite {c : Prop} [Decidable c] {p q : Effect ε σ α} (hp : c → Leaves R p)
    (hq : ¬c → Leaves R q) : Leaves R (if c then p else q) := by
  by_cases h : c
  · rw [if_pos h]
    exact hp h
  · rw [if_neg h]
    exact hq h

theorem Leaves.forEach (hrefl : ∀ s, R s s) (htrans : ∀ s t u, R s t → R t u → R s u)
    {xs : List β} {f : β → Effect ε σ Unit} (hf : ∀ x ∈ xs, Leaves R (f x)) :
    Leaves R (forEach xs f) := by
  induction xs with
  | nil => exact Leaves.pure hrefl ()
  | cons x rest ih =>
    refine Leaves.bind htrans (hf x (List.mem_cons_self ..)) fun _ => ?_
    exact ih fun y hy => hf y (List.mem_cons_of_mem x hy)

theorem Leaves.mono {R' : σ → σ → Prop} (himp : ∀ s t, R s t → R' s t) {p : Effect ε σ α}
    (h : Leaves R p) : Leaves R' p := fun s => himp _ _ (h s)

end Leaves

/-! ### The errors of a program -/

/-- Every error that the program ends with is in `E`. -/
def Raises (E : ε → Prop) (p : Effect ε σ α) : Prop := ∀ s e, (p.run s).1 = .error e → E e

section Raises
variable {E : ε → Prop}

theorem Raises.pure (a : α) : Raises E (pure a : Effect ε σ α) := by
  intro s e h
  cases h

theorem Raises.throw {e : ε} (he : E e) : Raises E (throw e : Effect ε σ α) := by
  intro s e' h
  cases h
  exact he

theorem Raises.get : Raises E (get : Effect ε σ σ) := by
  intro s e h
  cases h

theorem Raises.modify (f : σ → σ) : Raises E (modify f : Effect ε σ PUnit) := by
  intro s e h
  cases h

theorem Raises.ofExcept {r : Except ε α} (hr : ∀ e, r = .error e → E e) :
    Raises E (ofExcept r : Effect ε σ α) := fun _ e h => hr e h

theorem Raises.bind {p : Effect ε σ α} {f : α → Effect ε σ β} (hp : Raises E p)
    (hf : ∀ a, Raises E (f a)) : Raises E (p >>= f) := by
  intro s e h
  rw [run_bind] at h
  have hs := hp s
  rcases hrun : p.run s with ⟨r, t⟩
  rw [hrun] at hs h
  cases r with
  | ok a => exact hf a t e h
  | error e' =>
    cases h
    exact hs e rfl

/-- Only the errors of the handler are left. -/
theorem Raises.tryCatch {p : Effect ε σ α} {h : ε → Effect ε σ α} (hp : Raises E p)
    (hh : ∀ e, E e → Raises E (h e)) : Raises E (tryCatch p h) := by
  intro s e herr
  rw [run_tryCatch] at herr
  have hs := hp s
  rcases hrun : p.run s with ⟨r, t⟩
  rw [hrun] at hs herr
  cases r with
  | ok a => cases herr
  | error e' => exact hh e' (hs e' rfl) t e herr

theorem Raises.ite {c : Prop} [Decidable c] {p q : Effect ε σ α} (hp : c → Raises E p)
    (hq : ¬c → Raises E q) : Raises E (if c then p else q) := by
  by_cases h : c
  · rw [if_pos h]
    exact hp h
  · rw [if_neg h]
    exact hq h

end Raises

/-! ### Triples -/

/-- From a state in `P`, the outcome and the final state of `p` are in `Q`. -/
def Triple (P : σ → Prop) (p : Effect ε σ α) (Q : Except ε α → σ → Prop) : Prop :=
  ∀ s, P s → Q (p.run s).1 (p.run s).2

section Triple
variable {P : σ → Prop} {Q : Except ε α → σ → Prop}

theorem Triple.pure {a : α} (h : ∀ s, P s → Q (.ok a) s) :
    Triple P (pure a : Effect ε σ α) Q := h

theorem Triple.throw {e : ε} (h : ∀ s, P s → Q (.error e) s) :
    Triple P (throw e : Effect ε σ α) Q := h

theorem Triple.bind {Mid : Except ε α → σ → Prop} {Q : Except ε β → σ → Prop}
    {p : Effect ε σ α} {f : α → Effect ε σ β} (hp : Triple P p Mid)
    (hf : ∀ a, Triple (Mid (.ok a)) (f a) Q) (he : ∀ e s, Mid (.error e) s → Q (.error e) s) :
    Triple P (p >>= f) Q := by
  intro s hs
  rw [run_bind]
  have hmid := hp s hs
  rcases hrun : p.run s with ⟨r, t⟩
  rw [hrun] at hmid
  cases r with
  | ok a => exact hf a t hmid
  | error e => exact he e t hmid

theorem Triple.ite {c : Prop} [Decidable c] {p q : Effect ε σ α}
    (hp : c → Triple P p Q) (hq : ¬c → Triple P q Q) : Triple P (if c then p else q) Q := by
  by_cases h : c
  · rw [if_pos h]
    exact hp h
  · rw [if_neg h]
    exact hq h

end Triple

end Effect

end Ariava.Lib
