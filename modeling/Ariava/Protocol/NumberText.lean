import Mathlib.Algebra.Order.Floor.Defs
import Mathlib.Data.Nat.Log
import Mathlib.Data.Rat.Floor
import Ariava.Protocol.CodeUnits

/-!
# `Ariava.Protocol.NumberText`: `String(n)`

The text of a finite number: the shortest decimal digits that the number is the nearest double to,
without an exponent between `10 ^ -6` and `10 ^ 21`. A number is a double here, so `digitsOf` finds
its digits within seventeen.

Whatever the digits are, the characters are ASCII: `utf8ByteLength_numberText` is what a count of
bytes needs.
-/

set_option autoImplicit false

namespace Ariava.Protocol

/-! ### Doubles -/

/-- The exponent of the greatest power of `base` that is no greater than a positive number. -/
def floorLog (base : Nat) (x : ℚ) : ℤ :=
  let exponent : ℤ := (Nat.log base x.num.natAbs : ℤ) - Nat.log base x.den
  if x < (base : ℚ) ^ exponent then exponent - 1 else exponent

/-- The nearest integer, and the even one of two. -/
def roundHalfEven (x : ℚ) : ℤ :=
  let below := ⌊x⌋
  if x - below < 1 / 2 then below
  else if 1 / 2 < x - below then below + 1
  else if below % 2 = 0 then below
  else below + 1

/-- The nearest double of a positive number: 53 bits, and no bit below `2 ^ -1074`. -/
def nearestDouble (x : ℚ) : ℚ :=
  let exponent := max (floorLog 2 x - 52) (-1074)
  roundHalfEven (x / 2 ^ exponent) * 2 ^ exponent

/-! ### Digits -/

/-- The `count` digits that stand for a positive number, the nearest first. The point is behind
`point` digits. -/
def candidateDigits (x : ℚ) (point : ℤ) (count : Nat) : List ℤ :=
  let scaled := x * 10 ^ ((count : ℤ) - point)
  [roundHalfEven scaled, ⌊scaled⌋, ⌊scaled⌋ + 1].filter fun digits =>
    decide ((10 : ℤ) ^ (count - 1) ≤ digits) && decide (digits ≤ (10 : ℤ) ^ count)

/-- The shortest digits of a positive number and the place of the point: the number is the nearest
double of `0.digits * 10 ^ point`. -/
def digitsOf (x : ℚ) : Nat × ℤ :=
  let point := floorLog 10 x + 1
  let found := (List.range 17).findSome? fun index =>
    (candidateDigits x point (index + 1)).findSome? fun (digits : ℤ) =>
      if nearestDouble ((digits : ℚ) * 10 ^ (point - ((index : ℤ) + 1))) = x then
        -- `digits` is ten times the power of ten of its length when it rounds up to it.
        if digits = 10 ^ (index + 1) then some (10 ^ index, point + 1)
        else some (digits.toNat, point)
      else none
  found.getD ((roundHalfEven (x * 10 ^ (17 - point))).toNat, point)

/-- The characters of digits with the point behind `point` of them. -/
def placePoint (digits : List Char) (point : ℤ) : List Char :=
  if (digits.length : ℤ) ≤ point ∧ point ≤ 21 then
    digits ++ List.replicate (point - digits.length).toNat '0'
  else if 0 < point ∧ point ≤ 21 then
    digits.take point.toNat ++ '.' :: digits.drop point.toNat
  else if -6 < point ∧ point ≤ 0 then
    '0' :: '.' :: List.replicate (-point).toNat '0' ++ digits
  else
    digits.take 1 ++ (if digits.length = 1 then [] else '.' :: digits.drop 1)
      ++ 'e' :: (if point - 1 < 0 then '-' else '+') :: Nat.toDigits 10 (point - 1).natAbs

/-- The characters of a positive number. -/
def positiveNumberChars (x : ℚ) : List Char :=
  placePoint (Nat.toDigits 10 (digitsOf x).1) (digitsOf x).2

/-- `String(n)` of a finite number. -/
def numberText (x : ℚ) : String :=
  if x = 0 then "0"
  else if x < 0 then String.ofList ('-' :: positiveNumberChars (-x))
  else String.ofList (positiveNumberChars x)

example : numberText (1 / 4) = "0.25" := by decide +kernel

/-! ### The characters -/

/-- The code units of ASCII characters are as many as the characters and as their bytes. -/
theorem utf8ByteLength_jsString_of_ascii {chars : List Char} (h : ∀ c ∈ chars, c.toNat < 0x80) :
    utf8ByteLength (jsString (String.ofList chars))
      = (jsString (String.ofList chars)).length := by
  rw [utf8ByteLength_jsString, utf8ByteSize_eq_sum, jsString, String.toList_ofList]
  induction chars with
  | nil => rfl
  | cons c rest ih =>
    have hc : c.toNat < 0x80 := h c List.mem_cons_self
    have hsize : c.utf8Size = 1 := by
      rw [Char.utf8Size_eq_one_iff, UInt32.le_iff_toNat_le]
      have hval : c.val.toNat = c.toNat := rfl
      rw [hval]
      exact Nat.le_of_lt_succ hc
    have hunits : (utf16Units c).length = 1 := by
      rcases utf16Units_cases c with ⟨unit, heq, -⟩ | ⟨high, low, -, -, -, -, -, hge, -⟩
      · rw [heq]
        rfl
      · omega
    rw [List.map_cons, List.sum_cons, List.flatMap_cons, List.length_append, hsize, hunits,
      ih fun c' hc' => h c' (List.mem_cons_of_mem _ hc')]

theorem ascii_toDigits {n : Nat} {c : Char} (h : c ∈ Nat.toDigits 10 n) : c.toNat < 0x80 := by
  have hdigit := Nat.isDigit_of_mem_toDigits (by decide) (by decide) h
  rw [Char.isDigit, Bool.and_eq_true, decide_eq_true_eq, decide_eq_true_eq] at hdigit
  have hle : c.toNat ≤ 57 := UInt32.le_iff_toNat_le.mp hdigit.2
  omega

theorem ascii_placePoint {digits : List Char} (h : ∀ c ∈ digits, c.toNat < 0x80) (point : ℤ) :
    ∀ c ∈ placePoint digits point, c.toNat < 0x80 := by
  have hzero : ∀ count, ∀ c ∈ List.replicate count '0', c.toNat < 0x80 := by
    intro count c hc
    rw [List.eq_of_mem_replicate hc]
    decide
  intro c hc
  unfold placePoint at hc
  split at hc
  · rcases List.mem_append.mp hc with hc | hc
    · exact h c hc
    · exact hzero _ c hc
  split at hc
  · simp only [List.mem_append, List.mem_cons] at hc
    rcases hc with hc | rfl | hc
    · exact h c (List.mem_of_mem_take hc)
    · decide
    · exact h c (List.mem_of_mem_drop hc)
  split at hc
  · simp only [List.cons_append, List.mem_cons, List.mem_append] at hc
    rcases hc with rfl | rfl | hc | hc
    · decide
    · decide
    · exact hzero _ c hc
    · exact h c hc
  · simp only [List.append_assoc, List.mem_append, List.mem_cons] at hc
    rcases hc with hc | hc | rfl | rfl | hc
    · exact h c (List.mem_of_mem_take hc)
    · split at hc
      · cases hc
      · rcases List.mem_cons.mp hc with rfl | hc
        · decide
        · exact h c (List.mem_of_mem_drop hc)
    · decide
    · split <;> decide
    · exact ascii_toDigits hc

theorem ascii_positiveNumberChars (x : ℚ) : ∀ c ∈ positiveNumberChars x, c.toNat < 0x80 :=
  ascii_placePoint (fun _ => ascii_toDigits) _

/-- The text of a number has a byte for each of its code units. -/
theorem utf8ByteLength_numberText (x : ℚ) :
    utf8ByteLength (jsString (numberText x)) = (jsString (numberText x)).length := by
  have hchars := ascii_positiveNumberChars
  unfold numberText
  split
  · decide
  split
  · refine utf8ByteLength_jsString_of_ascii fun c hc => ?_
    rcases List.mem_cons.mp hc with rfl | hc
    · decide
    · exact hchars (-x) c hc
  · exact utf8ByteLength_jsString_of_ascii (hchars x)

end Ariava.Protocol
