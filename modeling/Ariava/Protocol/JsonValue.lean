import Mathlib.Data.Rat.Defs
import Ariava.Protocol.Sessions
import Ariava.Protocol.Timestamp

/-!
# `Ariava.Protocol.JsonValue`: the values that `JSON.parse` returns

A string of the language is a sequence of UTF-16 code units, and a JSON text can hold any
sequence: an escape may leave a surrogate alone. `isWellFormedUnicode` is the check that the
two sides make, and `utf8ByteLength` is the length of what `TextEncoder` makes of a string.

An object has its own properties in the order of `Object.keys`. A number is a finite value or,
where the text overflows, an infinite one; the two zeros are one value.
-/

set_option autoImplicit false

namespace Ariava.Protocol

/-! ### Strings -/

/-- A string: its UTF-16 code units. -/
abbrev JsString : Type := List UInt16

instance : LawfulBEq JsString := inferInstanceAs (LawfulBEq (List UInt16))

/-- The code units of a character. -/
def utf16Units (c : Char) : List UInt16 :=
  if c.val.toNat < 0x10000 then [c.val.toUInt16]
  else
    [(0xd800 + (c.val.toNat - 0x10000) / 0x400).toUInt16,
      (0xdc00 + (c.val.toNat - 0x10000) % 0x400).toUInt16]

/-- The string of a text. -/
def jsString (text : String) : JsString := text.toList.flatMap utf16Units

/-- The first half of a surrogate pair. -/
def isHighSurrogate (unit : UInt16) : Bool := decide (0xd800 ≤ unit) && decide (unit ≤ 0xdbff)

/-- The second half of a surrogate pair. -/
def isLowSurrogate (unit : UInt16) : Bool := decide (0xdc00 ≤ unit) && decide (unit ≤ 0xdfff)

/-- `isWellFormedUnicode`: every surrogate is in a pair. -/
def isWellFormedUnicode : JsString → Bool
  | [] => true
  | unit :: rest =>
      if isHighSurrogate unit then
        match rest with
        | next :: rest' => isLowSurrogate next && isWellFormedUnicode rest'
        | [] => false
      else !isLowSurrogate unit && isWellFormedUnicode rest

/-- The bytes of a string in UTF-8. `pairOpen` says that a high surrogate came just before: it
was counted with three bytes, so the low surrogate that completes the pair has one. -/
def utf8ByteLengthFrom (pairOpen : Bool) : JsString → Nat
  | [] => 0
  | unit :: rest =>
      if isLowSurrogate unit && pairOpen then 1 + utf8ByteLengthFrom false rest
      else
        (if unit < 0x80 then 1 else if unit < 0x800 then 2 else 3)
          + utf8ByteLengthFrom (isHighSurrogate unit) rest

/-- `TextEncoder.encode(value).byteLength`. A lone surrogate is encoded as U+FFFD. -/
def utf8ByteLength (s : JsString) : Nat := utf8ByteLengthFrom false s

/-- The character of a code unit outside a pair. -/
def unitChar (unit : UInt16) : Char :=
  if isLowSurrogate unit then Char.ofNat 0xfffd else Char.ofNat unit.toNat

/-- The characters of a string, after a high surrogate that is still alone. -/
def displayChars : Option UInt16 → JsString → List Char
  | none, [] => []
  | some _, [] => [Char.ofNat 0xfffd]
  | none, unit :: rest =>
      if isHighSurrogate unit then displayChars (some unit) rest
      else unitChar unit :: displayChars none rest
  | some high, unit :: rest =>
      if isLowSurrogate unit then
        Char.ofNat (0x10000 + (high.toNat - 0xd800) * 0x400 + (unit.toNat - 0xdc00))
          :: displayChars none rest
      else if isHighSurrogate unit then Char.ofNat 0xfffd :: displayChars (some unit) rest
      else Char.ofNat 0xfffd :: unitChar unit :: displayChars none rest

/-- A string as the text of a message. A lone surrogate is shown as U+FFFD. -/
def displayText (s : JsString) : String := String.ofList (displayChars none s)

/-- The text of a string of ASCII characters. -/
def asciiText? (s : JsString) : Option String :=
  if s.all fun unit => decide (unit < 0x80) then
    some (String.ofList (s.map fun unit => Char.ofNat unit.toNat))
  else none

/-- `isCanonicalTimestamp`: its pattern has ASCII characters only. -/
def isCanonicalTimestampString (s : JsString) : Bool :=
  (asciiText? s).any isCanonicalTimestampText

/-- A decimal digit. -/
def decimalDigit? (unit : UInt16) : Option Nat :=
  if 0x30 ≤ unit ∧ unit ≤ 0x39 then some (unit.toNat - 0x30) else none

/-- The value of a character in base64url. -/
def base64UrlValue? (unit : UInt16) : Option Nat :=
  if 0x41 ≤ unit ∧ unit ≤ 0x5a then some (unit.toNat - 0x41)
  else if 0x61 ≤ unit ∧ unit ≤ 0x7a then some (unit.toNat - 0x61 + 26)
  else if 0x30 ≤ unit ∧ unit ≤ 0x39 then some (unit.toNat - 0x30 + 52)
  else if unit = 0x2d then some 62
  else if unit = 0x5f then some 63
  else none

/-- The number of bytes of `base64UrlDecode`, when it does not throw: the text is not empty, is
in the alphabet, has a possible length, and leaves no bit over. -/
def base64UrlByteCount? (s : JsString) : Option Nat :=
  match s.mapM base64UrlValue? with
  | none => none
  | some values =>
      let last := values.getLastD 0
      let leftOver := if values.length % 4 = 2 then last % 16
        else if values.length % 4 = 3 then last % 4 else 0
      if values.length = 0 ∨ values.length % 4 = 1 ∨ leftOver ≠ 0 then none
      else some (values.length * 3 / 4)

/-! ### Values -/

/-- A number of a JSON text. -/
inductive JsonNumber
  | finite (value : ℚ)
  | infinite (isNegative : Bool)
deriving DecidableEq

/-- `Number.isSafeInteger`. -/
def JsonNumber.isSafeInteger : JsonNumber → Bool
  | finite value => decide (value.den = 1) && decide (value.num.natAbs ≤ maxSafeInteger)
  | infinite _ => false

/-- The number is below zero. -/
def JsonNumber.isNegative : JsonNumber → Bool
  | finite value => decide (value < 0)
  | infinite isNegative => isNegative

/-- A value of `JSON.parse`. -/
inductive JsonValue
  | null
  | bool (value : Bool)
  | number (value : JsonNumber)
  | string (value : JsString)
  | array (elements : List JsonValue)
  | object (properties : List (JsString × JsonValue))

/-- The own properties of an object, in the order of `Object.keys`. -/
abbrev JsonObject : Type := List (JsString × JsonValue)

/-- `obj[key]`, where `none` is `undefined`. No key that the checks name is a property of
`Object.prototype`. -/
def JsonObject.get? (obj : JsonObject) (key : String) : Option JsonValue :=
  (List.find? (fun property => decide (property.1 = jsString key)) obj).map Prod.snd

/-- `Object.hasOwn(obj, key)`. -/
def JsonObject.hasOwn (obj : JsonObject) (key : String) : Bool := (JsonObject.get? obj key).isSome

/-- The first key that is not one of these. -/
def JsonObject.unsupportedKey? (obj : JsonObject) (allowed : List String) : Option JsString :=
  (List.find? (fun property => decide (property.1 ∉ allowed.map jsString)) obj).map Prod.fst

/-- The member of `SESSION_STATUSES` that a value is. -/
def sessionStatus? : JsonValue → Option SessionStatus
  | .string s =>
      if s = jsString "idle" then some .idle
      else if s = jsString "working" then some .working
      else if s = jsString "need_human" then some .needHuman
      else none
  | _ => none

end Ariava.Protocol
