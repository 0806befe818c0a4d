import Ariava.AgentAdapter.ProducerEvents

/-!
# `Ariava.Extensions.AgentAdapterClient`: the order of the events that a client sends

The client of the Pi extension numbers the events of each Session: `pushEvent` draws a new
producer event id and takes the next order, also when it is called again for the same event.
The first order of a Session is drawn.

`nextProducerEventOrder_below`: the next order is above the last one. The client fails rather than
wrap around.
-/

set_option autoImplicit false

namespace Ariava.Extensions

open Ariava.Lib
open Ariava.AgentAdapter
open Ariava.AgentAdapter.AgentAdapterRegistry

/-! ### Orders -/

/-- A hexadecimal digit. -/
def hexDigit (digit : Nat) : Char :=
  if digit < 10 then Char.ofNat (48 + digit) else Char.ofNat (87 + digit)

/-- `toString(16)`, padded with zeros to a width that holds the number. -/
def paddedHex : Nat → Nat → List Char
  | 0, _ => []
  | width + 1, n => paddedHex width (n / 16) ++ [hexDigit (n % 16)]

/-- `producerEventOrderFromBigInt`. -/
def producerEventOrderFromBigInt (order : Nat) : Option String :=
  if order < 1 ∨ 2 ^ 128 - 1 < order then none else some (String.ofList (paddedHex 32 order))

/-- `nextProducerEventOrder`. -/
def nextProducerEventOrder (value : String) : Option String :=
  (producerEventOrderAsNat value).bind fun current => producerEventOrderFromBigInt (current + 1)

/-- `allocateProducerEventOrder`, with the number that is drawn for the first event of a Session.
Without an order nothing is recorded. -/
def allocateProducerEventOrder (producerEventOrders : Dict String String) (drawn : Nat)
    (sessionId : String) : Option String × Dict String String :=
  let order :=
    match producerEventOrders.get? sessionId with
    | none => producerEventOrderFromBigInt drawn
    | some previous => nextProducerEventOrder previous
  match order with
  | none => (none, producerEventOrders)
  | some order => (some order, producerEventOrders.set sessionId order)

/-! ### The value of an order -/

theorem hexDigit_spec {digit : Nat} (h : digit < 16) :
    isLowerHexChar (hexDigit digit) = true ∧ hexDigitValue (hexDigit digit) = digit ∧
      (hexDigit digit = '0' ↔ digit = 0) := by
  have hall : ∀ d : Fin 16, isLowerHexChar (hexDigit d) = true ∧
      hexDigitValue (hexDigit d) = d ∧ (hexDigit d = '0' ↔ (d : Nat) = 0) := by decide
  exact hall ⟨digit, h⟩

theorem length_paddedHex (width n : Nat) : (paddedHex width n).length = width := by
  induction width generalizing n with
  | zero => rfl
  | succ width ih => rw [paddedHex, List.length_append, ih, List.length_singleton]

theorem all_paddedHex (width n : Nat) : (paddedHex width n).all isLowerHexChar = true := by
  induction width generalizing n with
  | zero => rfl
  | succ width ih =>
    rw [paddedHex, List.all_append, ih, Bool.true_and, List.all_cons, List.all_nil, Bool.and_true]
    exact (hexDigit_spec (Nat.mod_lt n (by omega))).1

/-- The value of the digits of a number that fits is the number. -/
theorem foldl_paddedHex {width n : Nat} (h : n < 16 ^ width) :
    (paddedHex width n).foldl (fun m c => 16 * m + hexDigitValue c) 0 = n := by
  induction width generalizing n with
  | zero =>
    rw [Nat.pow_zero] at h
    rw [paddedHex, List.foldl_nil]
    omega
  | succ width ih =>
    have hdiv : n / 16 < 16 ^ width := by
      rw [Nat.pow_succ] at h
      omega
    rw [paddedHex, List.foldl_append, ih hdiv, List.foldl_cons, List.foldl_nil,
      (hexDigit_spec (Nat.mod_lt n (by omega))).2.1]
    omega

/-- A number above 0 has a digit that is not 0. -/
theorem any_paddedHex {width n : Nat} (h : n < 16 ^ width) (hn : 0 < n) :
    (paddedHex width n).any (fun c => c != '0') = true := by
  induction width generalizing n with
  | zero =>
    rw [Nat.pow_zero] at h
    omega
  | succ width ih =>
    rw [paddedHex, List.any_append, Bool.or_eq_true]
    rcases Nat.eq_zero_or_pos (n / 16) with hzero | hpos
    · right
      have hmod : n % 16 ≠ 0 := by omega
      have hne := mt (hexDigit_spec (Nat.mod_lt n (by omega))).2.2.mp hmod
      simp [hne]
    · left
      refine ih ?_ hpos
      rw [Nat.pow_succ] at h
      omega

/-- A text of 32 lowercase hexadecimal digits, not all of them 0, is an order. -/
theorem isAgentAdapterProducerEventOrder_ofList {digits : List Char} (hlength : digits.length = 32)
    (hall : digits.all isLowerHexChar = true) (hany : digits.any (fun c => c != '0') = true) :
    isAgentAdapterProducerEventOrder (String.ofList digits) = true := by
  unfold isAgentAdapterProducerEventOrder
  rw [String.toList_ofList, decide_eq_true hlength, hall, hany]
  rfl

theorem producerEventOrderAsNat_of_fromBigInt {order : Nat} {text : String}
    (h : producerEventOrderFromBigInt order = some text) :
    producerEventOrderAsNat text = some order := by
  unfold producerEventOrderFromBigInt at h
  split at h
  · cases h
  · next hbounds =>
    obtain ⟨hpos, hle⟩ := not_or.mp hbounds
    have hfits : order < 16 ^ 32 := Nat.lt_of_le_of_lt (Nat.le_of_not_lt hle) (by decide)
    have hvalue := foldl_paddedHex hfits
    have hvalid := isAgentAdapterProducerEventOrder_ofList (length_paddedHex 32 order)
      (all_paddedHex 32 order) (any_paddedHex hfits (Nat.pos_of_ne_zero fun h => hpos (by omega)))
    obtain rfl := Option.some.inj h
    unfold producerEventOrderAsNat
    rw [if_pos hvalid, String.toList_ofList, hvalue]

/-- The next order is above the last one. -/
theorem nextProducerEventOrder_below {previous order : String}
    (h : nextProducerEventOrder previous = some order) : OrderBelow previous order := by
  obtain ⟨current, hcurrent, hnext⟩ := Option.bind_eq_some_iff.mp h
  exact ⟨current, current + 1, hcurrent, producerEventOrderAsNat_of_fromBigInt hnext,
    Nat.lt_succ_self current⟩

/-- What an allocation records: the order that it returns, above the one recorded before. -/
theorem allocateProducerEventOrder_some {orders orders' : Dict String String} {drawn : Nat}
    {sessionId order : String}
    (h : allocateProducerEventOrder orders drawn sessionId = (some order, orders')) :
    orders' = orders.set sessionId order ∧
      ∀ previous, orders.get? sessionId = some previous → OrderBelow previous order := by
  unfold allocateProducerEventOrder at h
  dsimp only at h
  split at h
  · cases h
  · next drawnOrder hdrawn =>
    cases h
    refine ⟨rfl, fun previous hprevious => ?_⟩
    rw [hprevious] at hdrawn
    exact nextProducerEventOrder_below hdrawn

theorem allocateProducerEventOrder_none {orders orders' : Dict String String} {drawn : Nat}
    {sessionId : String}
    (h : allocateProducerEventOrder orders drawn sessionId = (none, orders')) : orders' = orders := by
  unfold allocateProducerEventOrder at h
  dsimp only at h
  split at h
  · cases h
    rfl
  · cases h

end Ariava.Extensions
