import Ariava.Protocol.NumberText
import Ariava.Protocol.RequestSigning

/-!
# `Ariava.Protocol.JsonText`: `JSON.stringify` of a value

The text of a value of `JSON.parse`, as code units. A string keeps its surrogate pairs, and a lone
surrogate is escaped. A number that is infinite has the text `null`.

Every text starts with an ASCII character, so the bytes of a text are those of its parts together
(`utf8ByteLength_append`).
-/

set_option autoImplicit false

namespace Ariava.Protocol

/-! ### `JSON.stringify` of strings -/

/-- A hexadecimal digit. -/
def hexUnit (n : Nat) : UInt16 :=
  if n < 10 then ascii '0' + n.toUInt16 else ascii 'a' + (n - 10).toUInt16

/-- The `\\u` escape of a code unit. -/
def unicodeEscape (unit : UInt16) : JsString :=
  [ascii '\\', ascii 'u', hexUnit (unit.toNat / 4096), hexUnit (unit.toNat / 256 % 16),
    hexUnit (unit.toNat / 16 % 16), hexUnit (unit.toNat % 16)]

/-- A code unit that is no surrogate, inside the quotes. -/
def escapeUnit (unit : UInt16) : JsString :=
  if unit = 0x22 ∨ unit = 0x5c then [ascii '\\', unit]
  else if unit = 0x08 then [ascii '\\', ascii 'b']
  else if unit = 0x09 then [ascii '\\', ascii 't']
  else if unit = 0x0a then [ascii '\\', ascii 'n']
  else if unit = 0x0c then [ascii '\\', ascii 'f']
  else if unit = 0x0d then [ascii '\\', ascii 'r']
  else if unit < 0x20 then unicodeEscape unit
  else [unit]

/-- The code units of a string inside the quotes, after a high surrogate that is still alone. A
pair stays as it is, and a lone surrogate is escaped. -/
def escapeUnits : Option UInt16 → JsString → JsString
  | none, [] => []
  | some high, [] => unicodeEscape high
  | none, unit :: rest =>
      if isHighSurrogate unit then escapeUnits (some unit) rest
      else if isLowSurrogate unit then unicodeEscape unit ++ escapeUnits none rest
      else escapeUnit unit ++ escapeUnits none rest
  | some high, unit :: rest =>
      if isLowSurrogate unit then high :: unit :: escapeUnits none rest
      else if isHighSurrogate unit then unicodeEscape high ++ escapeUnits (some unit) rest
      else unicodeEscape high ++ escapeUnit unit ++ escapeUnits none rest

/-- `JSON.stringify` of a string. -/
def quoteJson (s : JsString) : JsString := ascii '"' :: escapeUnits none s ++ [ascii '"']

/-! ### `JSON.stringify` of values -/

/-- `JSON.stringify` of a number. -/
def jsonNumberText : JsonNumber → JsString
  | .finite value => jsString (numberText value)
  | .infinite _ => jsString "null"

mutual

/-- `JSON.stringify`. -/
def stringify : JsonValue → JsString
  | .null => jsString "null"
  | .bool value => jsString (if value then "true" else "false")
  | .number value => jsonNumberText value
  | .string value => quoteJson value
  | .array elements =>
      ascii '[' :: List.intercalate [ascii ','] (stringifyElements elements) ++ [ascii ']']
  | .object properties =>
      ascii '{' :: List.intercalate [ascii ','] (stringifyProperties properties) ++ [ascii '}']

/-- The texts of the elements of an array. -/
def stringifyElements : List JsonValue → List JsString
  | [] => []
  | element :: rest => stringify element :: stringifyElements rest

/-- The texts of the properties of an object. -/
def stringifyProperties : List (JsString × JsonValue) → List JsString
  | [] => []
  | (key, value) :: rest =>
      (quoteJson key ++ ascii ':' :: stringify value) :: stringifyProperties rest

end

/-! ### The bytes of a text -/

/-- The text does not start with the second half of a surrogate pair. -/
def StartsClosed (s : JsString) : Prop := ∀ unit ∈ s.head?, isLowSurrogate unit = false

theorem startsClosed_cons {unit : UInt16} (h : isLowSurrogate unit = false) (rest : JsString) :
    StartsClosed (unit :: rest) := by
  intro first hfirst
  cases hfirst
  exact h

theorem utf8ByteLengthFrom_of_startsClosed {s : JsString} (h : StartsClosed s) (pairOpen : Bool) :
    utf8ByteLengthFrom pairOpen s = utf8ByteLength s := by
  cases s with
  | nil => rfl
  | cons unit rest =>
    have hunit := h unit rfl
    simp [utf8ByteLength, utf8ByteLengthFrom, hunit]

theorem utf8ByteLengthFrom_append {t : JsString} (h : StartsClosed t) (pairOpen : Bool)
    (s : JsString) :
    utf8ByteLengthFrom pairOpen (s ++ t) = utf8ByteLengthFrom pairOpen s + utf8ByteLength t := by
  induction s generalizing pairOpen with
  | nil => simp [utf8ByteLengthFrom, utf8ByteLengthFrom_of_startsClosed h]
  | cons unit rest ih =>
    simp only [List.cons_append, utf8ByteLengthFrom, ih]
    split <;> omega

/-- No pair is torn apart in front of a text that starts closed. -/
theorem utf8ByteLength_append {t : JsString} (h : StartsClosed t) (s : JsString) :
    utf8ByteLength (s ++ t) = utf8ByteLength s + utf8ByteLength t :=
  utf8ByteLengthFrom_append h false s

/-- An ASCII character has one byte. -/
theorem utf8ByteLength_cons {unit : UInt16} (h : unit < 0x80) (s : JsString) :
    utf8ByteLength (unit :: s) = 1 + utf8ByteLengthFrom false s := by
  have hhigh : isHighSurrogate unit = false := by
    simp only [isHighSurrogate, Bool.and_eq_false_iff, decide_eq_false_iff_not,
      UInt16.le_iff_toNat_le, UInt16.lt_iff_toNat_lt] at h ⊢
    simp only [UInt16.reduceToNat] at h ⊢
    omega
  simp [utf8ByteLength, utf8ByteLengthFrom, h, hhigh]

end Ariava.Protocol
