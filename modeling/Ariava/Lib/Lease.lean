import Ariava.Lib.Run
import Mathlib.Order.Basic

/-!
# `Ariava.Lib.Lease`: exclusive leases with a time to live

A table gives each resource at most one tenure: its holder, the id of its lease and the
instant of its last renewal. A tenure begins with a grant under a lease id that was never
used before, is renewed while its time to live has not passed, and ends by a release or by
an expiry after that time. `LeaseStep` has these four steps and no other.

- `LeaseStep.sound`: no two resources are held under one lease id.
- `ended_of_run`: a lease that is gone, or whose time to live has passed, stays so.
- `kept_or_lost_of_run`: a tenure is kept, or the run contains its release or its expiry.

A program that manages leases uses the library by showing that each of its operations is a
run of lease steps.
-/

set_option autoImplicit false

namespace Ariava.Lib

/-- A tenure: who holds the resource, under which lease, last renewed when. -/
structure Tenure (ι l τ : Type) where
  holder : ι
  lease : l
  renewedAt : τ

/-- The tenures, and the lease ids that were ever granted. -/
structure LeaseTable (κ ι l τ : Type) where
  held : κ → Option (Tenure ι l τ)
  used : l → Prop

/-- The events of a lease table. A renewal is checked at one instant and takes effect at
another. -/
inductive LeaseEvent (κ ι l τ : Type)
  | grant (resource : κ) (tenure : Tenure ι l τ)
  | renew (resource : κ) (checkedAt now : τ)
  | release (resource : κ)
  | expire (resource : κ) (now : τ)

namespace LeaseTable

variable {κ ι l τ : Type}

/-- A lease id becomes used. -/
def use (table : LeaseTable κ ι l τ) (lease : l) : LeaseTable κ ι l τ where
  held := table.held
  used lease' := lease' = lease ∨ table.used lease'

@[simp] theorem use_held (table : LeaseTable κ ι l τ) (lease : l) :
    (table.use lease).held = table.held := rfl

/-- No two resources are held under one lease, and every held lease was granted. -/
structure Sound (table : LeaseTable κ ι l τ) : Prop where
  used : ∀ k x, table.held k = some x → table.used x.lease
  exclusive : ∀ k k' x x', table.held k = some x → table.held k' = some x' →
    x.lease = x'.lease → k = k'

/-- The lease was granted, and it does not hold the resource any more or its time to live has
passed at the clock. -/
def Ended (expired : τ → τ → Prop) (clock : τ) (table : LeaseTable κ ι l τ) (k : κ) (lease : l) :
    Prop :=
  table.used lease ∧ ∀ x, table.held k = some x → x.lease = lease → expired x.renewedAt clock

variable [DecidableEq κ]

/-- Replace the tenure of one resource. -/
def put (table : LeaseTable κ ι l τ) (k : κ) (tenure : Option (Tenure ι l τ)) :
    LeaseTable κ ι l τ where
  held k' := if k' = k then tenure else table.held k'
  used := table.used

@[simp] theorem put_held (table : LeaseTable κ ι l τ) (k k' : κ)
    (tenure : Option (Tenure ι l τ)) :
    (table.put k tenure).held k' = if k' = k then tenure else table.held k' := rfl

end LeaseTable

section
variable {κ ι l τ : Type} [DecidableEq κ]

/-- The steps of a lease table. `expired since now` says that the time to live has passed
at `now` since a renewal at `since`. -/
inductive LeaseStep (expired : τ → τ → Prop) :
    LeaseTable κ ι l τ → LeaseEvent κ ι l τ → LeaseTable κ ι l τ → Prop
  | grant {table : LeaseTable κ ι l τ} {k : κ} {x : Tenure ι l τ} (hfree : table.held k = none)
      (hfresh : ¬ table.used x.lease) :
      LeaseStep expired table (.grant k x) ((table.put k (some x)).use x.lease)
  | renew {table : LeaseTable κ ι l τ} {k : κ} {x : Tenure ι l τ} {checkedAt now : τ}
      (hheld : table.held k = some x) (hlive : ¬ expired x.renewedAt checkedAt) :
      LeaseStep expired table (.renew k checkedAt now)
        (table.put k (some { x with renewedAt := now }))
  | release {table : LeaseTable κ ι l τ} {k : κ} :
      LeaseStep expired table (.release k) (table.put k none)
  | expire {table : LeaseTable κ ι l τ} {k : κ} {x : Tenure ι l τ} {now : τ}
      (hheld : table.held k = some x) (hexpired : expired x.renewedAt now) :
      LeaseStep expired table (.expire k now) (table.put k none)

variable {expired : τ → τ → Prop} {table table' : LeaseTable κ ι l τ}
  {e : LeaseEvent κ ι l τ} {es : List (LeaseEvent κ ι l τ)} {k : κ} {x : Tenure ι l τ}

/-- A tenure after a step is a new one under a fresh lease, the renewal of a live one, or an
old one. -/
theorem LeaseStep.held_cases (hstep : LeaseStep expired table e table')
    (hheld : table'.held k = some x) :
    (e = .grant k x ∧ ¬ table.used x.lease) ∨
      (∃ y checkedAt now, e = .renew k checkedAt now ∧ table.held k = some y ∧
        ¬ expired y.renewedAt checkedAt ∧ x = { y with renewedAt := now }) ∨
      table.held k = some x := by
  cases hstep with
  | @grant k' y hfree hfresh =>
    by_cases hk : k = k'
    · subst hk
      simp only [LeaseTable.use_held, LeaseTable.put_held, if_true, Option.some.injEq] at hheld
      subst hheld
      exact Or.inl ⟨rfl, hfresh⟩
    · simp only [LeaseTable.use_held, LeaseTable.put_held, if_neg hk] at hheld
      exact Or.inr (Or.inr hheld)
  | @renew k' y checkedAt now hold hlive =>
    by_cases hk : k = k'
    · subst hk
      simp only [LeaseTable.put_held, if_true, Option.some.injEq] at hheld
      exact Or.inr (Or.inl ⟨y, checkedAt, now, rfl, hold, hlive, hheld.symm⟩)
    · rw [LeaseTable.put_held, if_neg hk] at hheld
      exact Or.inr (Or.inr hheld)
  | @release k' =>
    by_cases hk : k = k'
    · rw [LeaseTable.put_held, if_pos hk] at hheld
      exact absurd hheld (by simp)
    · rw [LeaseTable.put_held, if_neg hk] at hheld
      exact Or.inr (Or.inr hheld)
  | @expire k' y now hold hexpired =>
    by_cases hk : k = k'
    · rw [LeaseTable.put_held, if_pos hk] at hheld
      exact absurd hheld (by simp)
    · rw [LeaseTable.put_held, if_neg hk] at hheld
      exact Or.inr (Or.inr hheld)

/-- A lease that is held after a step is fresh or was held before. -/
theorem LeaseStep.lease_cases (hstep : LeaseStep expired table e table')
    (hheld : table'.held k = some x) :
    (e = .grant k x ∧ ¬ table.used x.lease) ∨ ∃ y, table.held k = some y ∧ y.lease = x.lease := by
  rcases hstep.held_cases hheld with hnew | ⟨y, _, _, -, hy, -, rfl⟩ | hold
  · exact Or.inl hnew
  · exact Or.inr ⟨y, hy, rfl⟩
  · exact Or.inr ⟨x, hold, rfl⟩

/-- A tenure survives a step, under the same holder and lease, or the step is its release or
its expiry. -/
theorem LeaseStep.kept_cases (hstep : LeaseStep expired table e table')
    (hheld : table.held k = some x) :
    (∃ y, table'.held k = some y ∧ y.lease = x.lease ∧ y.holder = x.holder) ∨
      e = .release k ∨ ∃ now, e = .expire k now := by
  cases hstep with
  | @grant k' y hfree hfresh =>
    have hk : k ≠ k' := by
      rintro rfl
      rw [hfree] at hheld
      exact absurd hheld (by simp)
    exact Or.inl ⟨x, by simp [hk, hheld], rfl, rfl⟩
  | @renew k' y checkedAt now hold hlive =>
    by_cases hk : k = k'
    · subst hk
      rw [hheld, Option.some.injEq] at hold
      subst hold
      exact Or.inl ⟨{ x with renewedAt := now }, by simp, rfl, rfl⟩
    · exact Or.inl ⟨x, by simp [hk, hheld], rfl, rfl⟩
  | @release k' =>
    by_cases hk : k = k'
    · exact Or.inr (Or.inl (by rw [hk]))
    · exact Or.inl ⟨x, by simp [hk, hheld], rfl, rfl⟩
  | @expire k' y now hold hexpired =>
    by_cases hk : k = k'
    · exact Or.inr (Or.inr ⟨now, by rw [hk]⟩)
    · exact Or.inl ⟨x, by simp [hk, hheld], rfl, rfl⟩

/-- A used lease stays used. -/
theorem LeaseStep.used (hstep : LeaseStep expired table e table') {lease : l}
    (hused : table.used lease) : table'.used lease := by
  cases hstep with
  | grant => exact Or.inr hused
  | renew => exact hused
  | release => exact hused
  | expire => exact hused

/-- A granted lease is used. -/
theorem LeaseStep.grant_used (hstep : LeaseStep expired table (.grant k x) table') :
    table'.used x.lease := by
  cases hstep
  exact Or.inl rfl

/-- A step keeps the table sound. -/
theorem LeaseStep.sound (hstep : LeaseStep expired table e table') (hsound : table.Sound) :
    table'.Sound := by
  refine ⟨fun k x hx => ?_, fun k k' x x' hx hx' hlease => ?_⟩
  · rcases hstep.lease_cases hx with ⟨rfl, -⟩ | ⟨y, hy, hlx⟩
    · exact hstep.grant_used
    · exact hlx ▸ hstep.used (hsound.used k y hy)
  · rcases hstep.lease_cases hx with ⟨he, hfresh⟩ | ⟨y, hy, hlx⟩
    · rcases hstep.lease_cases hx' with ⟨he', -⟩ | ⟨y', hy', hlx'⟩
      · -- Both are new in this step, and a step grants one resource only.
        rw [he] at he'
        cases he'
        rfl
      · rw [hlease, ← hlx'] at hfresh
        exact absurd (hsound.used k' y' hy') hfresh
    · rcases hstep.lease_cases hx' with ⟨-, hfresh'⟩ | ⟨y', hy', hlx'⟩
      · rw [← hlease, ← hlx] at hfresh'
        exact absurd (hsound.used k y hy) hfresh'
      · exact hsound.exclusive k k' y y' hy hy' (by rw [hlx, hlx', hlease])

/-- The check of a renewal is not before the clock. -/
def LeaseEvent.From [LE τ] (clock : τ) : LeaseEvent κ ι l τ → Prop
  | .renew _ checkedAt _ => clock ≤ checkedAt
  | _ => True

/-- An ended lease stays ended, when no renewal is checked at an instant before the clock. -/
theorem LeaseStep.ended [LE τ] (hstep : LeaseStep expired table e table') {clock : τ}
    (hlater : ∀ since now, expired since clock → clock ≤ now → expired since now)
    (hfrom : e.From clock) {lease : l} (hended : table.Ended expired clock k lease) :
    table'.Ended expired clock k lease := by
  refine ⟨hstep.used hended.1, fun x hx hlease => ?_⟩
  rcases hstep.held_cases hx with ⟨-, hfresh⟩ | ⟨y, checkedAt, now, rfl, hy, hlive, rfl⟩ | hold
  · exact absurd (hlease ▸ hended.1) hfresh
  · -- An expired tenure cannot be renewed.
    exact absurd (hlater _ _ (hended.2 y hy hlease) hfrom) hlive
  · exact hended.2 x hold hlease

/-- Along a run, a used lease stays used. -/
theorem used_of_run (hrun : Run (LeaseStep expired) table es table') {lease : l}
    (hused : table.used lease) : table'.used lease :=
  hrun.invariant (I := fun t => t.used lease) (fun _ _ _ hused hstep => hstep.used hused) hused

/-- Along a run, an ended lease stays ended. -/
theorem ended_of_run [LE τ] (hrun : Run (LeaseStep expired) table es table') {clock : τ}
    (hlater : ∀ since now, expired since clock → clock ≤ now → expired since now)
    (hfrom : ∀ e ∈ es, e.From clock) {lease : l} (hended : table.Ended expired clock k lease) :
    table'.Ended expired clock k lease := by
  induction hrun with
  | nil => exact hended
  | snoc _ last ih =>
    refine last.ended hlater (hfrom _ (by simp)) (ih fun e he => ?_)
    exact hfrom e (List.mem_append_left _ he)

/-- Along a run, a tenure is kept under the same holder and lease, or the run contains its
release or its expiry. -/
theorem kept_or_lost_of_run (hrun : Run (LeaseStep expired) table es table')
    (hheld : table.held k = some x) :
    (∃ y, table'.held k = some y ∧ y.lease = x.lease ∧ y.holder = x.holder) ∨
      .release k ∈ es ∨ ∃ now, .expire k now ∈ es := by
  induction hrun with
  | nil => exact Or.inl ⟨x, hheld, rfl, rfl⟩
  | @snoc t u as a run last ih =>
    rcases ih with ⟨y, hy, hlease, hholder⟩ | hmem | ⟨now, hmem⟩
    · rcases last.kept_cases hy with ⟨z, hz, hzl, hzh⟩ | rfl | ⟨now, rfl⟩
      · exact Or.inl ⟨z, hz, hzl.trans hlease, hzh.trans hholder⟩
      · exact Or.inr (Or.inl (by simp))
      · exact Or.inr (Or.inr ⟨now, by simp⟩)
    · exact Or.inr (Or.inl (List.mem_append_left _ hmem))
    · exact Or.inr (Or.inr ⟨now, List.mem_append_left _ hmem⟩)

end

end Ariava.Lib
