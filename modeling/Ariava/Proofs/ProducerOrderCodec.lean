import Ariava.Extensions.AgentAdapterClient
import Ariava.Lib.Numeral
import Ariava.Protocol.CodeUnits
import Ariava.Protocol.ProducerEventOrder

/-!
# `Ariava.Proofs.ProducerOrderCodec`: producer event orders as texts

The text of an order is a numeral of 32 digits to the base 16, and the digits are in the order of
their code units.

- `fromBigInt_eq_some`: what is written is read back, and what is read is written so;
- `lt_iff_of_orders`: texts of orders compare like the orders;
- `nextProducerEventOrder_eq_some`: the next order is the least one above;
- `nextProducerEventOrder_eq_none`: there is none above the greatest.

The registry and the client of the extension have the codec on texts and natural numbers;
`asNat_eq` and `fromNat_eq` say that it is this one.
-/

set_option autoImplicit false

namespace Ariava.Proofs.ProducerOrderCodec

open Ariava.Lib
open Ariava.Protocol
open Ariava.Protocol.ProducerEventOrder

/-! ### Digits -/

/-- The digits of an order. -/
def hexUnits : Set UInt16 := {unit | isLowerHexUnit unit = true}

/-- The value of a digit, by the two ranges that it may be in. -/
theorem hexUnitValue_cases {unit : UInt16} (h : unit ∈ hexUnits) :
    (0x30 ≤ unit.toNat ∧ unit.toNat ≤ 0x39 ∧ hexUnitValue unit = unit.toNat - 0x30)
      ∨ (0x61 ≤ unit.toNat ∧ unit.toNat ≤ 0x66 ∧ hexUnitValue unit = unit.toNat - 0x57) := by
  have hranges : (0x30 ≤ unit.toNat ∧ unit.toNat ≤ 0x39)
      ∨ (0x61 ≤ unit.toNat ∧ unit.toNat ≤ 0x66) := by
    simpa [hexUnits, isLowerHexUnit, UInt16.le_iff_toNat_le] using h
  have hif : unit ≤ 0x39 ↔ unit.toNat ≤ 0x39 := UInt16.le_iff_toNat_le
  rcases hranges with ⟨hlow, hhigh⟩ | ⟨hlow, hhigh⟩
  · exact .inl ⟨hlow, hhigh, if_pos (hif.mpr hhigh)⟩
  · refine .inr ⟨hlow, hhigh, if_neg fun hle => ?_⟩
    have := hif.mp hle
    omega

/-- The digits are in the order of their values. -/
theorem lt_iff_hexUnitValue_lt {a b : UInt16} (ha : a ∈ hexUnits) (hb : b ∈ hexUnits) :
    a < b ↔ hexUnitValue a < hexUnitValue b := by
  rw [UInt16.lt_iff_toNat_lt]
  rcases hexUnitValue_cases ha with ⟨_, _, hvalue⟩ | ⟨_, _, hvalue⟩ <;>
    rcases hexUnitValue_cases hb with ⟨_, _, hvalue'⟩ | ⟨_, _, hvalue'⟩ <;> omega

/-- The digits of an order are digits to the base 16. -/
theorem isAlphabet_hexUnits : IsAlphabet 16 hexUnitValue hexUnits where
  lt_base unit hunit := by
    rcases hexUnitValue_cases hunit with ⟨_, _, hvalue⟩ | ⟨_, _, hvalue⟩ <;> omega
  injOn a ha b hb heq := by
    rw [← UInt16.toNat_inj]
    rcases hexUnitValue_cases ha with ⟨_, _, hvalue⟩ | ⟨_, _, hvalue⟩ <;>
      rcases hexUnitValue_cases hb with ⟨_, _, hvalue'⟩ | ⟨_, _, hvalue'⟩ <;> omega

/-- The character of a digit is the unit with its value. -/
theorem digitChar_spec {d : Nat} (h : d < 16) :
    (Nat.digitChar d).val.toUInt16 ∈ hexUnits
      ∧ hexUnitValue (Nat.digitChar d).val.toUInt16 = d := by
  have hall : ∀ d < 16, isLowerHexUnit (Nat.digitChar d).val.toUInt16 = true
      ∧ hexUnitValue (Nat.digitChar d).val.toUInt16 = d := by
    decide
  exact hall d h

/-! ### Orders as numerals -/

/-- A text of 32 digits. -/
structure IsNumeral (value : JsString) : Prop where
  length : value.length = producerEventOrderCharacters
  digits : ∀ unit ∈ value, unit ∈ hexUnits

theorem zeroUnit_mem : zeroUnit ∈ hexUnits := by
  show isLowerHexUnit zeroUnit = true
  decide

theorem isNumeral_replicate {unit : UInt16} (h : unit ∈ hexUnits) :
    IsNumeral (List.replicate producerEventOrderCharacters unit) where
  length := List.length_replicate
  digits other hother := by rwa [List.eq_of_mem_replicate hother]

theorem mem_toDigits {n : Nat} {digit : Char} (h : digit ∈ Nat.toDigits 16 n) :
    digit.val.toUInt16 ∈ hexUnits := by
  induction n using Nat.strongRecOn with
  | ind n ih =>
    rw [Nat.toDigits_eq_if (by decide)] at h
    split at h
    · next hlt =>
      rw [List.mem_singleton.mp h]
      exact (digitChar_spec hlt).1
    · rcases List.mem_append.mp h with hrest | hlast
      · exact ih _ (Nat.div_lt_self (by omega) (by decide)) hrest
      · rw [List.mem_singleton.mp hlast]
        exact (digitChar_spec (Nat.mod_lt n (by decide))).1

/-- The digits of an order, with zeros in front. -/
theorem isNumeral_leftpad {order : Int} (h : order ≤ producerEventOrderMaxBigInt) :
    IsNumeral ((hexText order).leftpad producerEventOrderCharacters zeroUnit) where
  length := by
    have hfits : order.toNat < 16 ^ 32 := by
      rw [producerEventOrderMaxBigInt_eq] at h
      omega
    have hshort := (Nat.length_toDigits_le_iff (by decide) (by decide)).mpr hfits
    rw [List.length_leftpad, hexText, List.length_map]
    exact Nat.max_eq_left hshort
  digits unit hunit := by
    rcases List.mem_append.mp hunit with hzero | hdigit
    · rw [List.eq_of_mem_replicate hzero]
      exact zeroUnit_mem
    · obtain ⟨digit, hmem, rfl⟩ := List.mem_map.mp hdigit
      exact mem_toDigits hmem

/-- The padded digits of an order stand for it. -/
theorem numeral_leftpad_hexText (order : Int) :
    numeral 16 hexUnitValue ((hexText order).leftpad producerEventOrderCharacters zeroUnit)
      = order.toNat := by
  rw [numeral_leftpad (by decide), hexText]
  exact numeral_toDigits (by decide) (fun d hd => (digitChar_spec hd).2) order.toNat

/-- Numerals are the same when their numbers are. -/
theorem IsNumeral.inj {left right : JsString} (hleft : IsNumeral left) (hright : IsNumeral right)
    (h : numeral 16 hexUnitValue left = numeral 16 hexUnitValue right) : left = right :=
  numeral_inj isAlphabet_hexUnits (hleft.length.trans hright.length.symm) hleft.digits
    hright.digits h

theorem IsNumeral.lt_iff {left right : JsString} (hleft : IsNumeral left)
    (hright : IsNumeral right) :
    left < right ↔ numeral 16 hexUnitValue left < numeral 16 hexUnitValue right :=
  lex_iff_numeral_lt isAlphabet_hexUnits (fun _ ha _ hb => lt_iff_hexUnitValue_lt ha hb)
    (hleft.length.trans hright.length.symm) hleft.digits hright.digits

theorem numeral_replicate_zero (count : Nat) :
    numeral 16 hexUnitValue (List.replicate count zeroUnit) = 0 := by
  have hzero : hexUnitValue zeroUnit = 0 := by decide
  have hpad := @numeral_leftpad _ 16 hexUnitValue zeroUnit hzero count []
  rwa [List.leftpad, List.append_nil, List.length_nil, Nat.sub_zero] at hpad

/-- An order is a numeral above zero. -/
theorem isAgentAdapterProducerEventOrder_iff {value : JsString} :
    isAgentAdapterProducerEventOrder value = true
      ↔ IsNumeral value ∧ 0 < numeral 16 hexUnitValue value := by
  simp only [isAgentAdapterProducerEventOrder, Bool.and_eq_true, decide_eq_true_eq, List.all_eq_true]
  constructor
  · rintro ⟨⟨hlength, hdigits⟩, hne⟩
    have hnumeral : IsNumeral value := ⟨hlength, hdigits⟩
    refine ⟨hnumeral, Nat.pos_of_ne_zero fun hzero => hne ?_⟩
    apply hnumeral.inj (isNumeral_replicate zeroUnit_mem)
    rw [hzero, numeral_replicate_zero]
  · rintro ⟨hnumeral, hpos⟩
    refine ⟨⟨hnumeral.length, hnumeral.digits⟩, ?_⟩
    rintro rfl
    rw [numeral_replicate_zero] at hpos
    exact Nat.lt_irrefl 0 hpos

/-! ### The codec -/

/-- What is read of a text. -/
theorem asBigInt_eq_some {value : JsString} {order : Int} :
    producerEventOrderAsBigInt value = some order
      ↔ IsNumeral value ∧ 0 < numeral 16 hexUnitValue value
        ∧ (numeral 16 hexUnitValue value : Int) = order := by
  have hvalue : bigIntOfHex value = (numeral 16 hexUnitValue value : Int) := rfl
  rw [producerEventOrderAsBigInt, ← and_assoc, ← isAgentAdapterProducerEventOrder_iff, hvalue]
  split
  · next h => simp [h]
  · next h => simp [h]

/-- An order that was read is in the range. -/
theorem range_of_asBigInt {value : JsString} {order : Int}
    (h : producerEventOrderAsBigInt value = some order) :
    1 ≤ order ∧ order ≤ producerEventOrderMaxBigInt := by
  obtain ⟨hnumeral, hpos, rfl⟩ := asBigInt_eq_some.mp h
  have hlt := numeral_lt fun unit hunit =>
    isAlphabet_hexUnits.lt_base unit (hnumeral.digits unit hunit)
  rw [hnumeral.length, producerEventOrderCharacters] at hlt
  rw [producerEventOrderMaxBigInt_eq]
  omega

/-- Writing and reading take each other back. -/
theorem fromBigInt_eq_some {order : Int} {value : JsString} :
    producerEventOrderFromBigInt order = some value
      ↔ producerEventOrderAsBigInt value = some order := by
  constructor
  · intro h
    rw [producerEventOrderFromBigInt] at h
    split at h
    · cases h
    · next hrange =>
      rw [not_or, not_lt, not_lt] at hrange
      cases h
      rw [asBigInt_eq_some, numeral_leftpad_hexText]
      exact ⟨isNumeral_leftpad hrange.2, by omega, by omega⟩
  · intro h
    obtain ⟨hlow, hhigh⟩ := range_of_asBigInt h
    obtain ⟨hnumeral, -, horder⟩ := asBigInt_eq_some.mp h
    have hnot : ¬ (order < 1 ∨ producerEventOrderMaxBigInt < order) := by omega
    rw [producerEventOrderFromBigInt, if_neg hnot, Option.some.injEq]
    apply (isNumeral_leftpad hhigh).inj hnumeral
    rw [numeral_leftpad_hexText]
    omega

/-- Every number of the range is written, and no other one. -/
theorem isSome_fromBigInt {order : Int} :
    (producerEventOrderFromBigInt order).isSome = true
      ↔ 1 ≤ order ∧ order ≤ producerEventOrderMaxBigInt := by
  rw [producerEventOrderFromBigInt]
  split
  · simp only [Option.isSome_none, Bool.false_eq_true, false_iff]
    omega
  · simp only [Option.isSome_some, true_iff]
    omega

theorem isSome_asBigInt {value : JsString} :
    (producerEventOrderAsBigInt value).isSome = true
      ↔ isAgentAdapterProducerEventOrder value = true := by
  rw [producerEventOrderAsBigInt]
  split
  · next h => simp [h]
  · next h => simp [h]

/-- Texts of orders compare like the orders. -/
theorem lt_iff_of_orders {left right : JsString} {m n : Int}
    (hleft : producerEventOrderAsBigInt left = some m)
    (hright : producerEventOrderAsBigInt right = some n) : left < right ↔ m < n := by
  obtain ⟨hnumeral, -, rfl⟩ := asBigInt_eq_some.mp hleft
  obtain ⟨hnumeral', -, rfl⟩ := asBigInt_eq_some.mp hright
  rw [hnumeral.lt_iff hnumeral', Int.ofNat_lt]

/-! ### The next order -/

/-- The next order is that of the number above. -/
theorem nextProducerEventOrder_eq_some {value next : JsString} :
    nextProducerEventOrder value = some next
      ↔ ∃ order, producerEventOrderAsBigInt value = some order
        ∧ producerEventOrderAsBigInt next = some (order + 1) := by
  rw [nextProducerEventOrder, Option.bind_eq_some_iff]
  simp only [fromBigInt_eq_some]

/-- The next order is above, and nothing is between. -/
theorem nextProducerEventOrder_covers {value next : JsString}
    (h : nextProducerEventOrder value = some next) :
    isAgentAdapterProducerEventOrder next = true ∧ value < next
      ∧ ∀ other, isAgentAdapterProducerEventOrder other = true →
        ¬ (value < other ∧ other < next) := by
  obtain ⟨order, hvalue, hnext⟩ := nextProducerEventOrder_eq_some.mp h
  refine ⟨isSome_asBigInt.mp (Option.isSome_iff_exists.mpr ⟨_, hnext⟩), ?_, ?_⟩
  · rw [lt_iff_of_orders hvalue hnext]
    omega
  · intro other hother
    obtain ⟨between, hbetween⟩ := Option.isSome_iff_exists.mp (isSome_asBigInt.mpr hother)
    rw [lt_iff_of_orders hvalue hbetween, lt_iff_of_orders hbetween hnext]
    omega

theorem asBigInt_max :
    producerEventOrderAsBigInt producerEventOrderMax = some producerEventOrderMaxBigInt := by
  decide

/-- There is no next order only above the greatest one. -/
theorem nextProducerEventOrder_eq_none {value : JsString}
    (h : isAgentAdapterProducerEventOrder value = true) :
    nextProducerEventOrder value = none ↔ value = producerEventOrderMax := by
  obtain ⟨order, hvalue⟩ := Option.isSome_iff_exists.mp (isSome_asBigInt.mpr h)
  obtain ⟨hlow, hhigh⟩ := range_of_asBigInt hvalue
  have hnone : nextProducerEventOrder value = none ↔ order = producerEventOrderMaxBigInt := by
    rw [nextProducerEventOrder, hvalue, Option.bind_some, ← Option.not_isSome_iff_eq_none,
      isSome_fromBigInt]
    omega
  rw [hnone]
  constructor
  · rintro rfl
    -- Both texts are the one of the greatest order.
    have hmax := fromBigInt_eq_some.mpr asBigInt_max
    rw [fromBigInt_eq_some.mpr hvalue, Option.some.injEq] at hmax
    exact hmax
  · rintro rfl
    rw [asBigInt_max, Option.some.injEq] at hvalue
    exact hvalue.symm

/-! ### The codec of the registry and the client -/

section Agreement

open Ariava.AgentAdapter
open Ariava.AgentAdapter.AgentAdapterRegistry

theorem isLowerHexChar_iff {c : Char} : isLowerHexChar c = true
    ↔ (0x30 ≤ c.toNat ∧ c.toNat ≤ 0x39) ∨ (0x61 ≤ c.toNat ∧ c.toNat ≤ 0x66) := by
  simp [isLowerHexChar, Char.isDigit, Char.le_def, UInt32.le_iff_toNat_le]

/-- A character is a digit there when its code units are digits here. -/
theorem all_utf16Units (c : Char) : (utf16Units c).all isLowerHexUnit = isLowerHexChar c := by
  rw [Bool.eq_iff_iff, isLowerHexChar_iff]
  rcases utf16Units_cases c with ⟨unit, heq, hnat, -⟩ | ⟨high, low, heq, hhigh, -, -, -, hlarge, -⟩
  · simp [heq, isLowerHexUnit, UInt16.le_iff_toNat_le, hnat]
  · -- A surrogate is no digit.
    have hnot : isLowerHexUnit high = false := by
      simp only [isHighSurrogate, Bool.and_eq_true, decide_eq_true_eq, UInt16.le_iff_toNat_le,
        UInt16.reduceToNat] at hhigh
      rw [← Bool.not_eq_true]
      intro hhex
      rcases hexUnitValue_cases hhex with ⟨_, _, -⟩ | ⟨_, _, -⟩ <;> omega
    simp only [heq, List.all_cons, hnot, Bool.false_and, Bool.false_eq_true, false_iff]
    omega

/-- A digit is one code unit, with the same value. -/
theorem utf16Units_of_isLowerHexChar {c : Char} (h : isLowerHexChar c = true) :
    utf16Units c = [c.val.toUInt16] ∧ hexUnitValue c.val.toUInt16 = hexDigitValue c := by
  have hchar := h
  rw [isLowerHexChar_iff] at hchar
  have hsmall : c.val.toNat < 0x10000 := by
    rw [Char.toNat_val]
    omega
  have hunit : utf16Units c = [c.val.toUInt16] := if_pos hsmall
  have hnat : c.val.toUInt16.toNat = c.toNat := by
    rw [UInt32.toNat_toUInt16, Char.toNat_val]
    omega
  have hhex : c.val.toUInt16 ∈ hexUnits := by
    rw [← all_utf16Units, hunit, List.all_cons, List.all_nil, Bool.and_true] at h
    exact h
  have hdigit : c.isDigit = true ↔ 0x30 ≤ c.toNat ∧ c.toNat ≤ 0x39 := by
    simp [Char.isDigit, UInt32.le_iff_toNat_le]
  refine ⟨hunit, ?_⟩
  rw [hexDigitValue]
  rcases hexUnitValue_cases hhex with ⟨hlow, hhigh, hvalue⟩ | ⟨hlow, hhigh, hvalue⟩
  · rw [if_pos (hdigit.mpr (by omega)), hvalue, hnat]
  · rw [if_neg (mt hdigit.mp (by omega)), hvalue, hnat]

/-- A text of digits is its code units, one by one. -/
theorem jsString_of_digits {value : String} (h : value.toList.all isLowerHexChar = true) :
    jsString value = value.toList.map (fun c => c.val.toUInt16)
      ∧ numeral 16 hexUnitValue (jsString value) = numeral 16 hexDigitValue value.toList := by
  have hunits : ∀ digits : List Char, digits.all isLowerHexChar = true →
      digits.flatMap utf16Units = digits.map (fun c => c.val.toUInt16)
        ∧ numeral 16 hexUnitValue (digits.flatMap utf16Units) = numeral 16 hexDigitValue digits := by
    intro digits hdigits
    induction digits with
    | nil => exact ⟨rfl, rfl⟩
    | cons c rest ih =>
      rw [List.all_cons, Bool.and_eq_true] at hdigits
      obtain ⟨hmap, hnumeral⟩ := ih hdigits.2
      obtain ⟨hunit, hvalue⟩ := utf16Units_of_isLowerHexChar hdigits.1
      rw [List.flatMap_cons, hunit, List.map_cons, List.singleton_append, numeral_cons,
        numeral_cons, hnumeral, hvalue, hmap, List.length_map]
      exact ⟨rfl, rfl⟩
  exact hunits value.toList h

/-- A text is an order there when it is one here. -/
theorem isAgentAdapterProducerEventOrder_jsString (value : String) :
    ProducerEventOrder.isAgentAdapterProducerEventOrder (jsString value)
      = AgentAdapterRegistry.isAgentAdapterProducerEventOrder value := by
  have hall : (jsString value).all isLowerHexUnit = value.toList.all isLowerHexChar := by
    rw [jsString, List.all_flatMap]
    exact List.all_congr rfl all_utf16Units
  cases hdigits : value.toList.all isLowerHexChar with
  | false =>
    simp [ProducerEventOrder.isAgentAdapterProducerEventOrder,
      AgentAdapterRegistry.isAgentAdapterProducerEventOrder, hall, hdigits]
  | true =>
    obtain ⟨hunits, -⟩ := jsString_of_digits hdigits
    have hlength : (jsString value).length = value.toList.length := by
      rw [hunits, List.length_map]
    have hzero : ∀ c ∈ value.toList, c.val.toUInt16 = zeroUnit ↔ c = '0' := by
      intro c hc
      obtain ⟨hunit, -⟩ := utf16Units_of_isLowerHexChar (List.all_eq_true.mp hdigits c hc)
      constructor
      · intro heq
        have hchar : utf16Units c ++ [] = utf16Units '0' ++ [] := by
          rw [hunit, heq]
          rfl
        exact (utf16Units_append_inj hchar).1
      · rintro rfl
        rfl
    have hzeros : (∀ unit ∈ jsString value, unit = zeroUnit) ↔ ∀ c ∈ value.toList, c = '0' := by
      rw [hunits, List.forall_mem_map]
      exact forall₂_congr hzero
    simp only [ProducerEventOrder.isAgentAdapterProducerEventOrder,
      AgentAdapterRegistry.isAgentAdapterProducerEventOrder, hall, hdigits, hlength, Bool.and_true]
    rw [Bool.eq_iff_iff, Bool.and_eq_true, Bool.and_eq_true, decide_eq_true_eq, decide_eq_true_eq,
      decide_eq_true_eq]
    refine and_congr_right fun hwidth => ?_
    rw [Ne, List.eq_replicate_iff, hlength, hzeros, and_iff_right hwidth]
    simp

/-- The registry reads the same numbers. -/
theorem asNat_eq (value : String) :
    producerEventOrderAsNat value = (producerEventOrderAsBigInt (jsString value)).map Int.toNat := by
  rw [producerEventOrderAsNat, producerEventOrderAsBigInt,
    isAgentAdapterProducerEventOrder_jsString]
  split
  · next h =>
    rw [AgentAdapterRegistry.isAgentAdapterProducerEventOrder, Bool.and_eq_true,
      Bool.and_eq_true] at h
    have hnumeral := (jsString_of_digits h.1.2).2
    have hvalue : bigIntOfHex (jsString value)
        = (numeral 16 hexUnitValue (jsString value) : Int) := rfl
    rw [Option.map_some, hvalue, hnumeral]
    rfl
  · rfl

/-- The client writes the same texts. -/
theorem fromNat_eq (order : Nat) :
    (Extensions.producerEventOrderFromBigInt order).map jsString
      = ProducerEventOrder.producerEventOrderFromBigInt order := by
  cases h : Extensions.producerEventOrderFromBigInt order with
  | none =>
    rw [Extensions.producerEventOrderFromBigInt] at h
    split at h
    · next hrange =>
      have hout : (order : Int) < 1 ∨ producerEventOrderMaxBigInt < order := by
        rw [producerEventOrderMaxBigInt_eq]
        omega
      rw [ProducerEventOrder.producerEventOrderFromBigInt, if_pos hout]
      rfl
    · cases h
  | some text =>
    have hread := Extensions.producerEventOrderAsNat_of_fromBigInt h
    rw [asNat_eq, Option.map_eq_some_iff] at hread
    obtain ⟨number, hnumber, hnat⟩ := hread
    obtain ⟨hlow, -⟩ := range_of_asBigInt hnumber
    have heq : (order : Int) = number := by omega
    rw [Option.map_some, heq, fromBigInt_eq_some.mpr hnumber]

end Agreement

/-! ### The codec as a whole -/

/-- Reading and writing orders take each other back on the whole range, the texts of orders are in
the order of their numbers, and the next order is the least one above, which is missing only above
the greatest. -/
theorem producerOrderCodec :
    (∀ order value, producerEventOrderFromBigInt order = some value
        ↔ producerEventOrderAsBigInt value = some order)
      ∧ (∀ order, (producerEventOrderFromBigInt order).isSome = true
        ↔ 1 ≤ order ∧ order ≤ 2 ^ 128 - 1)
      ∧ (∀ value, (producerEventOrderAsBigInt value).isSome = true
        ↔ isAgentAdapterProducerEventOrder value = true)
      ∧ (∀ left right m n, producerEventOrderAsBigInt left = some m →
        producerEventOrderAsBigInt right = some n → (left < right ↔ m < n))
      ∧ (∀ value next, nextProducerEventOrder value = some next →
        isAgentAdapterProducerEventOrder next = true ∧ value < next
          ∧ ∀ other, isAgentAdapterProducerEventOrder other = true →
            ¬ (value < other ∧ other < next))
      ∧ ∀ value, isAgentAdapterProducerEventOrder value = true →
        (nextProducerEventOrder value = none ↔ value = producerEventOrderMax) := by
  refine ⟨fun _ _ => fromBigInt_eq_some, fun _ => isSome_fromBigInt, fun _ => isSome_asBigInt,
    ?_, ?_, ?_⟩
  · intro left right m n hleft hright
    exact lt_iff_of_orders hleft hright
  · intro value next h
    exact nextProducerEventOrder_covers h
  · intro value h
    exact nextProducerEventOrder_eq_none h

end Ariava.Proofs.ProducerOrderCodec
