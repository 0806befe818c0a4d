import Ariava.Lib.Effect

/-!
# `Ariava.Lib.Restart`: a loop that starts its body again

The body of such a loop ends with a result or with the state of its next pass. How often it starts
again is decided by what it meets, so the loop is given fuel, and `none` says that the fuel ran out.

- `restarting_ends`: a measure that every restart lowers is a bound of the passes;
- `restarting_rule`: what every restart keeps holds at the start of the last pass, so what a pass
  ends with from there is what the loop ends with; `restarting_ok` is the case of a result.
-/

set_option autoImplicit false

namespace Ariava.Lib

namespace Effect

variable {ε σ κ α : Type}

/-- Run the body from a state of the loop until it ends with a result. -/
def restarting (body : κ → Effect ε σ (α ⊕ κ)) : Nat → κ → Effect ε σ (Option α)
  | 0, _ => pure none
  | fuel + 1, k => do
      match ← body k with
      | .inl a => return some a
      | .inr next => restarting body fuel next

section
variable {body : κ → Effect ε σ (α ⊕ κ)} {fuel : Nat} {k : κ} {s : σ}

theorem restarting_zero : (restarting body 0 k).run s = (.ok none, s) := rfl

/-- One pass, and what comes after it. -/
theorem restarting_succ :
    (restarting body (fuel + 1) k).run s = match (body k).run s with
      | (.ok (.inl a), t) => (.ok (some a), t)
      | (.ok (.inr next), t) => (restarting body fuel next).run t
      | (.error e, t) => (.error e, t) := by
  rw [restarting, run_bind]
  rcases (body k).run s with ⟨_ | _ | _, t⟩ <;> rfl

/-- A loop ends when a measure of its state and of the program's goes down at each restart. -/
theorem restarting_ends (measure : κ → σ → Nat)
    (hlowers : ∀ k s next t, (body k).run s = (.ok (.inr next), t) →
      measure next t < measure k s) (h : measure k s < fuel) :
    ((restarting body fuel k).run s).1 ≠ .ok none := by
  induction fuel generalizing k s with
  | zero => omega
  | succ fuel ih =>
    rw [restarting_succ]
    rcases hpass : (body k).run s with ⟨_ | _ | next, t⟩
    · exact fun hnone => nomatch hnone
    · exact fun hnone => nomatch hnone
    · have hlower := hlowers k s next t hpass
      exact ih (by omega)

/-- An invariant of the restarts, and what one pass makes of it. -/
theorem restarting_rule {I : κ → σ → Prop} {Q : Except ε (Option α) → σ → Prop}
    (hrestart : ∀ k s next t, I k s → (body k).run s = (.ok (.inr next), t) → I next t)
    (hresult : ∀ k s a t, I k s → (body k).run s = (.ok (.inl a), t) → Q (.ok (some a)) t)
    (herror : ∀ k s e t, I k s → (body k).run s = (.error e, t) → Q (.error e) t)
    (hfuel : ∀ k s, I k s → Q (.ok none) s) (h : I k s) :
    Q ((restarting body fuel k).run s).1 ((restarting body fuel k).run s).2 := by
  induction fuel generalizing k s with
  | zero => exact hfuel k s h
  | succ fuel ih =>
    rw [restarting_succ]
    rcases hpass : (body k).run s with ⟨e | a | next, t⟩
    · exact herror k s e t h hpass
    · exact hresult k s a t h hpass
    · exact ih (hrestart k s next t h hpass)

/-- The result of a loop, from what every restart keeps. -/
theorem restarting_ok {I : κ → σ → Prop} {Q : α → σ → Prop} {a : α} {t : σ}
    (hrestart : ∀ k s next t, I k s → (body k).run s = (.ok (.inr next), t) → I next t)
    (hresult : ∀ k s a t, I k s → (body k).run s = (.ok (.inl a), t) → Q a t)
    (hstart : I k s) (h : (restarting body fuel k).run s = (.ok (some a), t)) : Q a t := by
  have hrule : ∀ b, ((restarting body fuel k).run s).1 = .ok (some b) →
      Q b ((restarting body fuel k).run s).2 := by
    refine restarting_rule (Q := fun answer run => ∀ b, answer = .ok (some b) → Q b run)
      hrestart ?_ (fun _ _ _ _ _ _ _ hanswer => nomatch hanswer)
      (fun _ _ _ _ hanswer => nomatch hanswer) hstart
    intro k s a t hinv hpass b hanswer
    cases hanswer
    exact hresult k s a t hinv hpass
  rw [h] at hrule
  exact hrule a rfl

end

end Effect

end Ariava.Lib
