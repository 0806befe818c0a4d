import Ariava.Protocol.JsonValue

/-!
# `Ariava.Protocol.ProducerEventOrder`: the text of a producer event order

The order codec of `agent-adapter.ts`. A producer counts its events, and the count is sent as 32
lowercase hexadecimal digits. A `bigint` is an integer here.
-/

set_option autoImplicit false

namespace Ariava.Protocol.ProducerEventOrder

/-- `AGENT_ADAPTER_LIMITS.producerEventOrderCharacters`. -/
def producerEventOrderCharacters : Nat := 32

/-- `PRODUCER_EVENT_ORDER_MAX_BIGINT`. -/
def producerEventOrderMaxBigInt : Int := Int.shiftLeft 1 128 - 1

theorem producerEventOrderMaxBigInt_eq :
    producerEventOrderMaxBigInt = 0xffffffffffffffffffffffffffffffff := by
  decide

/-- `PRODUCER_EVENT_ORDER_MAX`: each digit is `f`. -/
def producerEventOrderMax : JsString := List.replicate producerEventOrderCharacters 0x66

/-- `[0-9a-f]`. -/
def isLowerHexUnit (unit : UInt16) : Bool :=
  (decide (0x30 ≤ unit) && decide (unit ≤ 0x39)) || (decide (0x61 ≤ unit) && decide (unit ≤ 0x66))

/-- The number that a digit stands for. -/
def hexUnitValue (unit : UInt16) : Nat :=
  if unit ≤ 0x39 then unit.toNat - 0x30 else unit.toNat - 0x57

/-- The digit `0`. -/
def zeroUnit : UInt16 := 0x30

/-- `isAgentAdapterProducerEventOrder`, on a string. -/
def isAgentAdapterProducerEventOrder (value : JsString) : Bool :=
  decide (value.length = producerEventOrderCharacters) && value.all isLowerHexUnit
    && decide (value ≠ List.replicate producerEventOrderCharacters zeroUnit)

/-- ``BigInt(`0x${value}`)`` of lowercase digits. -/
def bigIntOfHex (value : JsString) : Int :=
  (value.foldl (fun n unit => 16 * n + hexUnitValue unit) 0 : Nat)

/-- `order.toString(16)`, for an order that is not below zero. -/
def hexText (order : Int) : JsString :=
  (Nat.toDigits 16 order.toNat).map fun digit => digit.val.toUInt16

/-- `producerEventOrderAsBigInt`. -/
def producerEventOrderAsBigInt (value : JsString) : Option Int :=
  if isAgentAdapterProducerEventOrder value then some (bigIntOfHex value) else none

/-- `producerEventOrderFromBigInt`. -/
def producerEventOrderFromBigInt (order : Int) : Option JsString :=
  if order < 1 ∨ producerEventOrderMaxBigInt < order then none
  else some ((hexText order).leftpad producerEventOrderCharacters zeroUnit)

/-- `nextProducerEventOrder`. -/
def nextProducerEventOrder (value : JsString) : Option JsString :=
  (producerEventOrderAsBigInt value).bind fun current => producerEventOrderFromBigInt (current + 1)

end Ariava.Protocol.ProducerEventOrder
