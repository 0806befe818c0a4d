import Mathlib.Logic.Basic

/-!
# `Ariava.Protocol.Thrown`: what the code throws

An error is its class and its message. The classes are those that some caller tells apart:
the adapter server answers each of its own classes with its own envelope, and everything
else with `INTERNAL_ERROR`.
-/

set_option autoImplicit false

namespace Ariava.Protocol

/-- The class of a thrown error. -/
inductive ErrorClass
  | error
  | typeError
  | protectedContentValidation
  | ownerConflict
  | staleOwner
  | sessionNotFound
  | orderConflict
  | requestValidation
  | sessionIdCollision
  | clientInput
  | spoolRecoveryRequired
  | pendingUploadBinding
deriving DecidableEq

/-- A thrown error. -/
structure Thrown where
  errorClass : ErrorClass
  message : String
deriving DecidableEq

/-- `new Error(message)`. -/
def Thrown.error (message : String) : Thrown := ⟨.error, message⟩

/-- `new TypeError(message)`. -/
def Thrown.typeError (message : String) : Thrown := ⟨.typeError, message⟩

/-- `if (condition) throw error`. -/
def throwIf {ε : Type} (condition : Bool) (error : ε) : Except ε Unit :=
  if condition then .error error else .ok ()

variable {ε : Type}

@[simp] theorem throwIf_eq_ok {condition : Bool} {error : ε} :
    throwIf condition error = .ok () ↔ condition = false := by
  cases condition <;> simp [throwIf]

/-- A sequence of checks passes when each of them does. -/
theorem bind_eq_ok_iff {α β : Type} {p : Except ε α} {f : α → Except ε β} {b : β} :
    (p >>= f) = .ok b ↔ ∃ a, p = .ok a ∧ f a = .ok b := by
  cases p with
  | ok a =>
    show f a = .ok b ↔ _
    simp
  | error e =>
    show Except.error e = .ok b ↔ _
    simp

/-- Two checks in a row pass when both do. -/
theorem check_bind_eq_ok {β : Type} {p : Except ε Unit} {q : Except ε β} {b : β} :
    (p >>= fun _ => q) = .ok b ↔ p = .ok () ∧ q = .ok b := by
  rw [bind_eq_ok_iff]
  constructor
  · rintro ⟨_, hp, hq⟩
    exact ⟨hp, hq⟩
  · rintro ⟨hp, hq⟩
    exact ⟨(), hp, hq⟩

/-- `for (const item of items) check(item)`. -/
def checkAll {α : Type} (items : List α) (check : α → Except ε Unit) : Except ε Unit :=
  match items with
  | [] => .ok ()
  | item :: rest => check item >>= fun _ => checkAll rest check

/-- A loop of checks passes when the check passes for every item. -/
theorem checkAll_eq_ok {α : Type} {items : List α} {check : α → Except ε Unit} :
    checkAll items check = .ok () ↔ ∀ item ∈ items, check item = .ok () := by
  induction items with
  | nil => simp [checkAll]
  | cons item rest ih => simp [checkAll, check_bind_eq_ok, ih]

/-! ### The errors of a computation -/

/-- Every error that a computation throws is in `E`. -/
def Throws {α : Type} (E : Thrown → Prop) (r : Except Thrown α) : Prop :=
  ∀ thrown, r = .error thrown → E thrown

namespace Throws

variable {α β : Type} {E : Thrown → Prop}

theorem ok (a : α) : Throws E (.ok a) := fun _ h => nomatch h

theorem error {thrown : Thrown} (h : E thrown) : Throws E (.error thrown : Except Thrown α) := by
  intro e he
  cases he
  exact h

theorem throwIf {condition : Bool} {thrown : Thrown} (h : E thrown) :
    Throws E (Protocol.throwIf condition thrown) := by
  cases condition
  · exact ok ()
  · exact error h

theorem bind {r : Except Thrown α} {f : α → Except Thrown β} (hr : Throws E r)
    (hf : ∀ a, Throws E (f a)) : Throws E (r >>= f) := by
  cases r with
  | error thrown => exact error (hr thrown rfl)
  | ok a => exact hf a

end Throws

end Ariava.Protocol
