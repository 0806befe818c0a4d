import Ariava.Protocol.JsonText

/-!
# `Ariava.Protocol.JsonBytes`: the bounded size of a value

`jsonBytesWithin` of `agent-adapter.ts`. It walks the value and counts the bytes of its JSON text
without writing it. A walk gives its answer and the count, which is the state of the source. It
stops where the count is above the bound, where a string is not well-formed, and at a number that
is not finite.

A value of `JSON.parse` has plain records only, so `isPlainRecord` is true of every object.
-/

set_option autoImplicit false

namespace Ariava.Protocol

/-- `bytes > bound`. -/
def JsonNumber.isBelow : JsonNumber → Nat → Bool
  | finite bound, bytes => decide (bound < (bytes : ℚ))
  | infinite isNegative, _ => isNegative

/-- `bytes <= bound`. -/
def JsonNumber.isAtLeast : JsonNumber → Nat → Bool
  | finite bound, bytes => decide ((bytes : ℚ) ≤ bound)
  | infinite isNegative, _ => !isNegative

/-- `accountString`: the string is counted with its quotes and escapes. -/
def accountString (text : JsString) (bytes : Nat) : Bool × Nat :=
  if isWellFormedUnicode text then (true, bytes + utf8ByteLength (quoteJson text))
  else (false, bytes)

/-- `if (state.bytes > maxBytes) return false`, in front of a step. -/
def unlessAbove (maxBytes : JsonNumber) (bytes : Nat) (step : Bool × Nat) : Bool × Nat :=
  if maxBytes.isBelow bytes then (false, bytes) else step

/-- `if (!step) return false`: what comes after a step. -/
def andThen (step : Bool × Nat) (next : Nat → Bool × Nat) : Bool × Nat :=
  if step.1 then next step.2 else step

mutual

/-- `walk`. -/
def walk (maxBytes : JsonNumber) : JsonValue → Nat → Bool × Nat
  | .null, bytes => unlessAbove maxBytes bytes (true, bytes + 4)
  | .bool value, bytes => unlessAbove maxBytes bytes (true, bytes + if value then 4 else 5)
  | .number (.infinite _), bytes => unlessAbove maxBytes bytes (false, bytes)
  | .number (.finite value), bytes =>
      unlessAbove maxBytes bytes (true, bytes + (jsString (numberText value)).length)
  | .string value, bytes => unlessAbove maxBytes bytes (accountString value bytes)
  | .array elements, bytes =>
      unlessAbove maxBytes bytes
        (andThen (walkElements maxBytes true elements (bytes + 1)) fun bytes => (true, bytes + 1))
  | .object properties, bytes =>
      unlessAbove maxBytes bytes
        (andThen (walkProperties maxBytes true properties (bytes + 1)) fun bytes =>
          (true, bytes + 1))

/-- The loop over the elements of an array. -/
def walkElements (maxBytes : JsonNumber) (first : Bool) : List JsonValue → Nat → Bool × Nat
  | [], bytes => (true, bytes)
  | element :: rest, bytes =>
      andThen (walk maxBytes element (bytes + if first then 0 else 1)) fun bytes =>
        walkElements maxBytes false rest bytes

/-- The loop over the keys of an object. -/
def walkProperties (maxBytes : JsonNumber) (first : Bool) :
    List (JsString × JsonValue) → Nat → Bool × Nat
  | [], bytes => (true, bytes)
  | (key, value) :: rest, bytes =>
      andThen (accountString key (bytes + if first then 0 else 1)) fun bytes =>
        andThen (walk maxBytes value (bytes + 1)) fun bytes =>
          walkProperties maxBytes false rest bytes

end

/-- `jsonBytesWithin`. -/
def jsonBytesWithin (value : JsonValue) (maxBytes : JsonNumber) : Bool :=
  let walked := walk maxBytes value 0
  walked.1 && maxBytes.isAtLeast walked.2

end Ariava.Protocol
