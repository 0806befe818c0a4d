import Mathlib.Data.Nat.Digits.Defs
import Mathlib.Data.Set.Function
import Mathlib.Tactic.Ring

/-!
# `Ariava.Lib.Numeral`: numerals of one width

A numeral is a list of digits, the first of them worth most. `numeral base value digits` is the
number that it stands for, where `value` gives the number of a digit.

- `numeral_lt`: it is below the power of the base that the width gives;
- `numeral_inj`: numerals of one width are the same when their numbers are;
- `lex_iff_numeral_lt`: they are in the order of their numbers when the digits are in the order of
  their values;
- `numeral_leftpad`: zeros in front change nothing;
- `numeral_toDigits`: the digits of a number stand for it.
-/

set_option autoImplicit false

namespace Ariava.Lib

universe u

variable {α : Type u} (base : Nat) (value : α → Nat)

/-- The number of a list of digits, the first of them worth most. -/
def numeral (digits : List α) : Nat := digits.foldl (fun n digit => base * n + value digit) 0

@[simp] theorem numeral_nil : numeral base value ([] : List α) = 0 := rfl

@[simp] theorem numeral_append_singleton (digits : List α) (digit : α) :
    numeral base value (digits ++ [digit]) = base * numeral base value digits + value digit := by
  simp [numeral]

/-- The fold from another start adds the start at the place in front. -/
theorem foldl_numeral (digits : List α) (start : Nat) :
    digits.foldl (fun n digit => base * n + value digit) start
      = start * base ^ digits.length + numeral base value digits := by
  induction digits generalizing start with
  | nil => simp
  | cons digit rest ih =>
    rw [numeral, List.foldl_cons, List.foldl_cons, ih, ih (base * 0 + value digit),
      List.length_cons, Nat.pow_succ]
    ring

theorem numeral_cons (digit : α) (rest : List α) :
    numeral base value (digit :: rest)
      = value digit * base ^ rest.length + numeral base value rest := by
  rw [numeral, List.foldl_cons, foldl_numeral, Nat.mul_zero, Nat.zero_add]

variable {base value}

/-- A numeral is below the power of its width. -/
theorem numeral_lt {digits : List α} (h : ∀ digit ∈ digits, value digit < base) :
    numeral base value digits < base ^ digits.length := by
  induction digits with
  | nil => simp
  | cons digit rest ih =>
    rw [List.forall_mem_cons] at h
    have hrest := ih h.2
    have hfirst : (value digit + 1) * base ^ rest.length ≤ base * base ^ rest.length :=
      Nat.mul_le_mul_right _ h.1
    rw [numeral_cons, List.length_cons, Nat.pow_succ, Nat.mul_comm (base ^ rest.length)]
    rw [Nat.succ_mul] at hfirst
    omega

/-- Zeros in front of a numeral change nothing. -/
theorem numeral_leftpad {zero : α} (hzero : value zero = 0) (width : Nat) (digits : List α) :
    numeral base value (digits.leftpad width zero) = numeral base value digits := by
  have hzeros : ∀ count : Nat,
      numeral base value (List.replicate count zero ++ digits) = numeral base value digits := by
    intro count
    induction count with
    | zero => rfl
    | succ count ih =>
      rw [List.replicate_succ, List.cons_append, numeral_cons, hzero, Nat.zero_mul, Nat.zero_add, ih]
  exact hzeros _

/-- The digits of an alphabet have numbers below the base, and are told apart by them. -/
structure IsAlphabet (base : Nat) (value : α → Nat) (alphabet : Set α) : Prop where
  lt_base : ∀ digit ∈ alphabet, value digit < base
  injOn : Set.InjOn value alphabet

section Alphabet

variable {alphabet : Set α}

/-- What the first digits and the others say about numerals of one width. -/
theorem numeral_cons_cases (h : IsAlphabet base value alphabet) {a b : α} {left right : List α}
    (hlength : left.length = right.length) (hleft : ∀ digit ∈ left, digit ∈ alphabet)
    (hright : ∀ digit ∈ right, digit ∈ alphabet) :
    (value a < value b ∧ numeral base value (a :: left) < numeral base value (b :: right))
      ∨ (value a = value b ∧ (numeral base value (a :: left) < numeral base value (b :: right)
          ↔ numeral base value left < numeral base value right)
        ∧ (numeral base value (a :: left) = numeral base value (b :: right)
          ↔ numeral base value left = numeral base value right))
      ∨ (value b < value a ∧ numeral base value (b :: right) < numeral base value (a :: left)) := by
  have hltleft := numeral_lt fun digit hdigit => h.lt_base digit (hleft digit hdigit)
  have hltright := numeral_lt fun digit hdigit => h.lt_base digit (hright digit hdigit)
  rw [hlength] at hltleft
  rw [numeral_cons, numeral_cons, hlength]
  rcases Nat.lt_trichotomy (value a) (value b) with hlt | heq | hgt
  · have hstep := Nat.mul_le_mul_right (base ^ right.length) hlt
    rw [Nat.succ_mul] at hstep
    exact .inl ⟨hlt, by omega⟩
  · rw [heq]
    exact .inr (.inl ⟨rfl, by omega, by omega⟩)
  · have hstep := Nat.mul_le_mul_right (base ^ right.length) hgt
    rw [Nat.succ_mul] at hstep
    exact .inr (.inr ⟨hgt, by omega⟩)

/-- Numerals of one width are the same when their numbers are. -/
theorem numeral_inj (h : IsAlphabet base value alphabet) {left right : List α}
    (hlength : left.length = right.length) (hleft : ∀ digit ∈ left, digit ∈ alphabet)
    (hright : ∀ digit ∈ right, digit ∈ alphabet)
    (heq : numeral base value left = numeral base value right) : left = right := by
  induction left generalizing right with
  | nil => exact (List.eq_nil_of_length_eq_zero hlength.symm).symm
  | cons a rest ih =>
    cases right with
    | nil => cases hlength
    | cons b rest' =>
      rw [List.length_cons, List.length_cons, Nat.succ.injEq] at hlength
      rw [List.forall_mem_cons] at hleft hright
      rcases numeral_cons_cases h hlength hleft.2 hright.2 with ⟨-, hlt⟩ | ⟨hvalue, -, hrest⟩ | ⟨-, hlt⟩
      · exact absurd heq hlt.ne
      · rw [h.injOn hleft.1 hright.1 hvalue, ih hlength hleft.2 hright.2 (hrest.mp heq)]
      · exact absurd heq hlt.ne'

/-- Numerals of one width are in the order of their numbers, when the digits are. -/
theorem lex_iff_numeral_lt [LT α] (h : IsAlphabet base value alphabet)
    (hlt : ∀ a ∈ alphabet, ∀ b ∈ alphabet, a < b ↔ value a < value b) {left right : List α}
    (hlength : left.length = right.length) (hleft : ∀ digit ∈ left, digit ∈ alphabet)
    (hright : ∀ digit ∈ right, digit ∈ alphabet) :
    left < right ↔ numeral base value left < numeral base value right := by
  induction left generalizing right with
  | nil =>
    rw [List.eq_nil_of_length_eq_zero hlength.symm]
    exact iff_of_false (List.not_lt_nil []) (Nat.lt_irrefl _)
  | cons a rest ih =>
    cases right with
    | nil => cases hlength
    | cons b rest' =>
      rw [List.length_cons, List.length_cons, Nat.succ.injEq] at hlength
      rw [List.forall_mem_cons] at hleft hright
      rw [List.cons_lt_cons_iff, hlt a hleft.1 b hright.1]
      -- The first digits decide, and where they are the same the others do.
      rcases numeral_cons_cases h hlength hleft.2 hright.2 with
        ⟨hfirst, hnumeral⟩ | ⟨hvalue, hrest, -⟩ | ⟨hfirst, hnumeral⟩
      · exact iff_of_true (.inl hfirst) hnumeral
      · rw [hrest, ih hlength hleft.2 hright.2, h.injOn hleft.1 hright.1 hvalue]
        simp
      · have hne : a ≠ b := by
          rintro rfl
          exact Nat.lt_irrefl _ hfirst
        simp [hne, hfirst.not_gt, hnumeral.not_gt]

end Alphabet

/-- The digits of a number stand for it. -/
theorem numeral_toDigits {digitOf : Char → α} (hbase : 1 < base)
    (hvalue : ∀ d < base, value (digitOf (Nat.digitChar d)) = d) (n : Nat) :
    numeral base value ((Nat.toDigits base n).map digitOf) = n := by
  induction n using Nat.strongRecOn with
  | ind n ih =>
    rw [Nat.toDigits_eq_if hbase]
    by_cases hlt : n < base
    · rw [if_pos hlt, List.map_singleton, numeral_cons, hvalue n hlt]
      simp
    · have hdiv : n / base < n := Nat.div_lt_self (by omega) hbase
      rw [if_neg hlt, List.map_append, List.map_singleton, numeral_append_singleton, ih _ hdiv,
        hvalue _ (Nat.mod_lt n (by omega)), Nat.div_add_mod]

end Ariava.Lib
