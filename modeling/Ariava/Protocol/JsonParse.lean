import Ariava.Lib.Scan
import Ariava.Protocol.JsonText

/-!
# `Ariava.Protocol.JsonParse`: `JSON.parse`

The value of a JSON text. Every parser takes what it reads off the front of the text and returns
the rest. The fuel of a value is the length of its text: each value, element and property takes a
character.

A number becomes the nearest double, or an infinite number where it is too large for one. Of two
properties with one key the last value counts, and the keys that are array indices come first, in
their order as numbers.

`readUnits_escapeUnits` is the fact about texts that `JSON.stringify` wrote: a string comes back,
surrogates and all.
-/

set_option autoImplicit false

namespace Ariava.Protocol

open Ariava.Lib.Scan (dropWord)

/-! ### Strings -/

/-- The value of a hexadecimal digit. -/
def hexUnitValue? (unit : UInt16) : Option Nat :=
  if ascii '0' ≤ unit ∧ unit ≤ ascii '9' then some (unit.toNat - 48)
  else if ascii 'a' ≤ unit ∧ unit ≤ ascii 'f' then some (unit.toNat - 87)
  else if ascii 'A' ≤ unit ∧ unit ≤ ascii 'F' then some (unit.toNat - 55)
  else none

/-- The code unit of four hexadecimal digits. -/
def hexUnits? (a b c d : UInt16) : Option UInt16 :=
  match hexUnitValue? a, hexUnitValue? b, hexUnitValue? c, hexUnitValue? d with
  | some a, some b, some c, some d => some (a * 4096 + b * 256 + c * 16 + d).toUInt16
  | _, _, _, _ => none

/-- The code unit of an escape of one character. -/
def escapedUnit? (unit : UInt16) : Option UInt16 :=
  if unit = ascii '"' ∨ unit = ascii '\\' ∨ unit = ascii '/' then some unit
  else if unit = ascii 'b' then some 0x08
  else if unit = ascii 't' then some 0x09
  else if unit = ascii 'n' then some 0x0a
  else if unit = ascii 'f' then some 0x0c
  else if unit = ascii 'r' then some 0x0d
  else none

/-- The code units up to the closing quote, and the text behind it. -/
def readUnits : JsString → Option (JsString × JsString)
  | [] => none
  | unit :: rest =>
      if unit = ascii '"' then some ([], rest)
      else if unit = ascii '\\' then
        match rest with
        | escape :: rest =>
            if escape = ascii 'u' then
              match rest with
              | a :: b :: c :: d :: rest =>
                  match hexUnits? a b c d with
                  | some value => (readUnits rest).map fun read => (value :: read.1, read.2)
                  | none => none
              | _ => none
            else
              match escapedUnit? escape with
              | some value => (readUnits rest).map fun read => (value :: read.1, read.2)
              | none => none
        | [] => none
      else if unit < 0x20 then none
      else (readUnits rest).map fun read => (unit :: read.1, read.2)

/-! ### Numbers -/

/-- A decimal digit. -/
def isDecimalUnit (unit : UInt16) : Bool := (decimalDigit? unit).isSome

/-- The number of decimal digits. -/
def decimalNumber (digits : JsString) : Nat :=
  digits.foldl (fun value unit => value * 10 + (decimalDigit? unit).getD 0) 0

/-- Some digits off the front. -/
def readDigits (s : JsString) : Option (JsString × JsString) :=
  let digits := s.takeWhile isDecimalUnit
  if digits.isEmpty then none else some (digits, s.dropWhile isDecimalUnit)

/-- The digits in front of the point: `0` alone, or digits that do not start with it. -/
def readWhole : JsString → Option (JsString × JsString)
  | unit :: rest => if unit = ascii '0' then some ([unit], rest) else readDigits (unit :: rest)
  | [] => none

/-- The digits behind the point, when there is one. -/
def readFraction : JsString → Option (JsString × JsString)
  | unit :: rest => if unit = ascii '.' then readDigits rest else some ([], unit :: rest)
  | [] => some ([], [])

/-- The exponent, when there is one. -/
def readExponent : JsString → Option (ℤ × JsString)
  | unit :: rest =>
      if unit = ascii 'e' ∨ unit = ascii 'E' then
        match rest with
        | sign :: rest' =>
            if sign = ascii '-' then
              (readDigits rest').map fun read => (-(decimalNumber read.1 : ℤ), read.2)
            else if sign = ascii '+' then
              (readDigits rest').map fun read => ((decimalNumber read.1 : ℤ), read.2)
            else (readDigits rest).map fun read => ((decimalNumber read.1 : ℤ), read.2)
        | [] => none
      else some (0, unit :: rest)
  | [] => some (0, [])

/-- The number that a positive decimal stands for. -/
def positiveNumber (isNegative : Bool) (x : ℚ) : JsonNumber :=
  let value := nearestDouble x
  if 2 ^ 1024 ≤ value then .infinite isNegative
  else .finite (if isNegative then -value else value)

/-- A number off the front. -/
def readNumber (s : JsString) : Option (JsonNumber × JsString) := do
  let isNegative := decide (s.head? = some (ascii '-'))
  let (whole, rest) ← readWhole (if isNegative then s.tail else s)
  let (fraction, rest) ← readFraction rest
  let (exponent, rest) ← readExponent rest
  let digits := decimalNumber (whole ++ fraction)
  if digits = 0 then return (.finite 0, rest)
  return (positiveNumber isNegative (digits * 10 ^ (exponent - fraction.length)), rest)

/-! ### Objects -/

/-- The number of a key that is an array index. -/
def arrayIndex? (key : JsString) : Option Nat :=
  if key.isEmpty || !key.all isDecimalUnit then none
  else if key.head? = some (ascii '0') ∧ key.length ≠ 1 then none
  else if decimalNumber key < 2 ^ 32 - 1 then some (decimalNumber key)
  else none

/-- A property is set: a key that is there keeps its place. -/
def setProperty (obj : JsonObject) (key : JsString) (value : JsonValue) : JsonObject :=
  if obj.any fun property => decide (property.1 = key) then
    obj.map fun property => if property.1 = key then (key, value) else property
  else obj ++ [(key, value)]

/-- The own properties in the order of `Object.keys`. -/
def ordinaryOrder (obj : JsonObject) : JsonObject :=
  (obj.filter fun property => (arrayIndex? property.1).isSome).mergeSort
      (fun left right => decide ((arrayIndex? left.1).getD 0 ≤ (arrayIndex? right.1).getD 0))
    ++ obj.filter fun property => (arrayIndex? property.1).isNone

/-- The object of the properties in a text. -/
def objectOf (properties : List (JsString × JsonValue)) : JsonValue :=
  .object (ordinaryOrder (properties.foldl (fun obj property =>
    setProperty obj property.1 property.2) []))

/-! ### Values -/

/-- The blanks between the parts of a text. -/
def isJsonBlank (unit : UInt16) : Bool :=
  decide (unit ∈ [0x09, 0x0a, 0x0d, (0x20 : UInt16)])

/-- The text behind its blanks. -/
def skipBlanks (s : JsString) : JsString := s.dropWhile isJsonBlank

/-- One of the words `null`, `true` and `false` off the front. -/
def readWord (s : JsString) : Option (JsonValue × JsString) :=
  match dropWord (jsString "null") s with
  | some rest => some (.null, rest)
  | none =>
      match dropWord (jsString "true") s with
      | some rest => some (.bool true, rest)
      | none => (dropWord (jsString "false") s).map fun rest => (.bool false, rest)

mutual

/-- A value off the front of a text that starts with no blank. -/
def readValue : Nat → JsString → Option (JsonValue × JsString)
  | 0, _ => none
  | _ + 1, [] => none
  | fuel + 1, unit :: rest =>
      if unit = ascii '"' then (readUnits rest).map fun read => (.string read.1, read.2)
      else if unit = ascii '[' then
        let rest := skipBlanks rest
        if rest.head? = some (ascii ']') then some (.array [], rest.tail)
        else (readElements fuel rest).map fun read => (.array read.1, read.2)
      else if unit = ascii '{' then
        let rest := skipBlanks rest
        if rest.head? = some (ascii '}') then some (.object [], rest.tail)
        else (readProperties fuel rest).map fun read => (objectOf read.1, read.2)
      else if unit = ascii '-' ∨ isDecimalUnit unit = true then
        (readNumber (unit :: rest)).map fun read => (.number read.1, read.2)
      else readWord (unit :: rest)

/-- The elements of an array up to its closing bracket. -/
def readElements : Nat → JsString → Option (List JsonValue × JsString)
  | 0, _ => none
  | fuel + 1, s =>
      match readValue fuel s with
      | none => none
      | some (element, rest) =>
          match skipBlanks rest with
          | [] => none
          | unit :: rest =>
              if unit = ascii ']' then some ([element], rest)
              else if unit = ascii ',' then
                (readElements fuel (skipBlanks rest)).map fun read => (element :: read.1, read.2)
              else none

/-- The properties of an object up to its closing bracket. -/
def readProperties : Nat → JsString → Option (List (JsString × JsonValue) × JsString)
  | 0, _ => none
  | _ + 1, [] => none
  | fuel + 1, quote :: rest =>
      if quote ≠ ascii '"' then none
      else
        match readUnits rest with
        | none => none
        | some (key, rest) =>
            match skipBlanks rest with
            | [] => none
            | colon :: rest =>
                if colon ≠ ascii ':' then none
                else
                  match readValue fuel (skipBlanks rest) with
                  | none => none
                  | some (value, rest) =>
                      match skipBlanks rest with
                      | [] => none
                      | unit :: rest =>
                          if unit = ascii '}' then some ([(key, value)], rest)
                          else if unit = ascii ',' then
                            (readProperties fuel (skipBlanks rest)).map fun read =>
                              ((key, value) :: read.1, read.2)
                          else none

end

/-- `JSON.parse`, or nothing where it throws. -/
def parseJson (s : JsString) : Option JsonValue :=
  match readValue (2 * s.length + 1) (skipBlanks s) with
  | some (value, rest) => if (skipBlanks rest).isEmpty then some value else none
  | none => none

/-! ### Strings that `JSON.stringify` wrote -/

theorem hexUnitValue?_hexUnit {n : Nat} (h : n < 16) : hexUnitValue? (hexUnit n) = some n := by
  have hall : ∀ n < 16, hexUnitValue? (hexUnit n) = some n := by decide
  exact hall n h

/-- The escape of a unit is read as the unit. -/
theorem readUnits_unicodeEscape (unit : UInt16) (tail : JsString) :
    readUnits (unicodeEscape unit ++ tail)
      = (readUnits tail).map fun read => (unit :: read.1, read.2) := by
  have hlt := unit.toNat_lt
  have hvalue : hexUnits? (hexUnit (unit.toNat / 4096)) (hexUnit (unit.toNat / 256 % 16))
      (hexUnit (unit.toNat / 16 % 16)) (hexUnit (unit.toNat % 16)) = some unit := by
    rw [hexUnits?, hexUnitValue?_hexUnit (by omega), hexUnitValue?_hexUnit (by omega),
      hexUnitValue?_hexUnit (by omega), hexUnitValue?_hexUnit (by omega)]
    simp only [Option.some.injEq, ← UInt16.toNat_inj, Nat.toUInt16_eq, UInt16.toNat_ofNat']
    omega
  have hquote : ascii '\\' ≠ ascii '"' := by decide
  simp [unicodeEscape, readUnits, hquote, hvalue]

/-- A unit that needs no escape is read as it is. -/
theorem readUnits_cons {unit : UInt16} (hquote : unit ≠ 0x22) (hescape : unit ≠ 0x5c)
    (hcontrol : ¬ unit < 0x20) (tail : JsString) :
    readUnits (unit :: tail) = (readUnits tail).map fun read => (unit :: read.1, read.2) := by
  have hquote' : unit ≠ ascii '"' := hquote
  have hescape' : unit ≠ ascii '\\' := hescape
  rw [readUnits.eq_def]
  simp [hquote', hescape', hcontrol]

theorem readUnits_escapeUnit (unit : UInt16) (tail : JsString) :
    readUnits (escapeUnit unit ++ tail)
      = (readUnits tail).map fun read => (unit :: read.1, read.2) := by
  have hquote : ascii '\\' ≠ ascii '"' := by decide
  have hshort : ∀ escape value, escape ≠ ascii 'u' → escapedUnit? escape = some value →
      readUnits ([ascii '\\', escape] ++ tail)
        = (readUnits tail).map fun read => (value :: read.1, read.2) := by
    intro escape value hne hvalue
    rw [List.cons_append, List.cons_append, List.nil_append, readUnits.eq_def]
    simp [hquote, hne, hvalue]
  unfold escapeUnit
  -- The escapes of one character, the other controls, and the rest.
  split_ifs with hself hb ht hn hf hr hcontrol
  · rcases hself with rfl | rfl
    · exact hshort _ _ (by decide) (by decide)
    · exact hshort _ _ (by decide) (by decide)
  · rw [hb]
    exact hshort _ _ (by decide) (by decide)
  · rw [ht]
    exact hshort _ _ (by decide) (by decide)
  · rw [hn]
    exact hshort _ _ (by decide) (by decide)
  · rw [hf]
    exact hshort _ _ (by decide) (by decide)
  · rw [hr]
    exact hshort _ _ (by decide) (by decide)
  · exact readUnits_unicodeEscape unit tail
  · rw [not_or] at hself
    exact readUnits_cons hself.1 hself.2 hcontrol tail

/-- A surrogate needs no escape in a pair. -/
theorem readUnits_surrogate {unit : UInt16} (h : isSurrogate unit = true) (tail : JsString) :
    readUnits (unit :: tail) = (readUnits tail).map fun read => (unit :: read.1, read.2) := by
  simp only [isSurrogate, isHighSurrogate, isLowSurrogate, Bool.or_eq_true, Bool.and_eq_true,
    decide_eq_true_eq, UInt16.le_iff_toNat_le, UInt16.reduceToNat] at h
  refine readUnits_cons ?_ ?_ ?_ tail
  · rintro rfl
    simp at h
  · rintro rfl
    simp at h
  · simp only [UInt16.lt_iff_toNat_lt, UInt16.reduceToNat]
    omega

/-- A string comes back from between its quotes. -/
theorem readUnits_escapeUnits (s rest : JsString) :
    readUnits (escapeUnits none s ++ ascii '"' :: rest) = some (s, rest) ∧
      ∀ high : UInt16, isHighSurrogate high = true →
        readUnits (escapeUnits (some high) s ++ ascii '"' :: rest) = some (high :: s, rest) := by
  have hend : readUnits (ascii '"' :: rest) = some ([], rest) := by
    rw [readUnits.eq_def]
    simp
  induction s with
  | nil =>
    refine ⟨by simpa [escapeUnits] using hend, ?_⟩
    intro high hhigh
    simp [escapeUnits, readUnits_unicodeEscape, hend]
  | cons unit tail ih =>
    obtain ⟨hnone, hsome⟩ := ih
    constructor
    · rw [escapeUnits]
      split
      · rename_i hhigh
        exact hsome unit hhigh
      · split
        · rw [List.append_assoc, readUnits_unicodeEscape, hnone]
          rfl
        · rw [List.append_assoc, readUnits_escapeUnit, hnone]
          rfl
    · intro high hhigh
      rw [escapeUnits]
      split
      · rename_i hlow
        rw [List.cons_append, List.cons_append, readUnits_surrogate (by simp [isSurrogate, hhigh]),
          readUnits_surrogate (by simp [isSurrogate, hlow]), hnone]
        rfl
      · split
        · rename_i hnext
          rw [List.append_assoc, readUnits_unicodeEscape, hsome unit hnext]
          rfl
        · rw [List.append_assoc, List.append_assoc, readUnits_unicodeEscape, readUnits_escapeUnit,
            hnone]
          rfl

end Ariava.Protocol
