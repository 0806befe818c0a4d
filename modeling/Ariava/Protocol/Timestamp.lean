import Mathlib.Order.Defs.LinearOrder
import Mathlib.Order.Basic
import Mathlib.Order.Lattice

/-!
# `Ariava.Protocol.Timestamp`: canonical timestamps and the text order

The Bridge keeps instants as ISO texts and compares them as texts. A canonical timestamp
has the form `YYYY-MM-DDTHH:mm:ss.sssZ`, with a four-digit year. It is determined by its
instant, and `isCanonicalTimestamp` accepts exactly the texts of the instants from year
0000 to year 9999. So `CanonicalTimestamp` is the instant, in milliseconds since 1970,
with the range as a field.

`toISOString` of a later instant has a sign and six year digits, `+010000-01-01T…`. The
character `+` sorts below every digit. Therefore such a text compares below every
canonical one, although its instant is after all of them. `IsoText` is the text of any
instant from year 0000 on, and its order is the order of the texts: `IsoText.lt_iff`.

`addMilliseconds` is where the two meet: from a canonical timestamp it can produce an
expanded text, and `addMilliseconds_lt_of_expanded` is the consequence.
-/

set_option autoImplicit false

namespace Ariava.Protocol

/-- The instant of `0000-01-01T00:00:00.000Z`. -/
def minEpochMs : Int := -62167219200000

/-- The instant of `9999-12-31T23:59:59.999Z`. -/
def maxEpochMs : Int := 253402300799999

/-- The text that `toISOString` gives for an instant of year 0000 or later. -/
structure IsoText where
  epochMs : Int
  lower : minEpochMs ≤ epochMs
deriving DecidableEq

namespace IsoText

/-- The text has a sign and six year digits. -/
def expanded (t : IsoText) : Bool := decide (maxEpochMs < t.epochMs)

/-- `left <= right` on the texts. Texts of one year width compare as their instants, and
an expanded text is below every other. -/
def textLe (left right : IsoText) : Bool :=
  if left.expanded = right.expanded then decide (left.epochMs ≤ right.epochMs)
  else left.expanded

@[ext] theorem ext {a b : IsoText} (h : a.epochMs = b.epochMs) : a = b := by
  cases a
  cases b
  cases h
  rfl

theorem expanded_iff {t : IsoText} : t.expanded = true ↔ maxEpochMs < t.epochMs := by
  simp [expanded]

theorem textLe_iff {a b : IsoText} :
    a.textLe b = true ↔
      (a.expanded = b.expanded ∧ a.epochMs ≤ b.epochMs) ∨
      (a.expanded = true ∧ b.expanded = false) := by
  unfold textLe
  by_cases h : a.expanded = b.expanded
  · simp [h]
  · cases ha : a.expanded <;> cases hb : b.expanded <;> simp_all

instance : LE IsoText := ⟨fun a b => a.textLe b = true⟩

instance : LT IsoText := ⟨fun a b => ¬ b ≤ a⟩

instance (a b : IsoText) : Decidable (a ≤ b) := inferInstanceAs (Decidable (a.textLe b = true))

instance (a b : IsoText) : Decidable (a < b) := inferInstanceAs (Decidable ¬ b ≤ a)

theorem le_iff {a b : IsoText} :
    a ≤ b ↔ (a.expanded = b.expanded ∧ a.epochMs ≤ b.epochMs) ∨
      (a.expanded = true ∧ b.expanded = false) :=
  textLe_iff

/-- The text order on the instants: within one year width the order of the instants, and
every expanded text below every other. -/
theorem lt_iff {a b : IsoText} :
    a < b ↔ (a.expanded = b.expanded ∧ a.epochMs < b.epochMs) ∨
      (a.expanded = true ∧ b.expanded = false) := by
  show ¬ b ≤ a ↔ _
  rw [le_iff]
  cases a.expanded <;> cases b.expanded <;> simp

theorem le_total' (a b : IsoText) : a ≤ b ∨ b ≤ a := by
  rw [le_iff, le_iff]
  rcases le_total a.epochMs b.epochMs with h | h <;>
    cases a.expanded <;> cases b.expanded <;> simp [h]

instance : LinearOrder IsoText where
  le_refl a := le_iff.mpr (Or.inl ⟨rfl, le_refl _⟩)
  le_trans a b c := by
    rw [le_iff, le_iff, le_iff]
    cases a.expanded <;> cases b.expanded <;> cases c.expanded <;> simp <;> omega
  le_antisymm a b := by
    rw [le_iff, le_iff]
    intro hab hba
    apply ext
    cases ha : a.expanded <;> cases hb : b.expanded <;> simp [ha, hb] at hab hba <;> omega
  le_total := le_total'
  lt_iff_le_not_ge a b := by
    constructor
    · intro h
      exact ⟨(le_total' a b).resolve_right h, h⟩
    · exact fun h => h.2
  toDecidableLE := inferInstance

end IsoText

/-- A canonical timestamp: an instant of the years 0000 to 9999. -/
structure CanonicalTimestamp extends IsoText where
  upper : epochMs ≤ maxEpochMs
deriving DecidableEq

namespace CanonicalTimestamp

@[ext] theorem ext {a b : CanonicalTimestamp} (h : a.epochMs = b.epochMs) : a = b := by
  obtain ⟨⟨x, hx⟩, hx'⟩ := a
  obtain ⟨⟨y, hy⟩, hy'⟩ := b
  cases h
  rfl

theorem epochMs_injective : Function.Injective fun t : CanonicalTimestamp => t.epochMs :=
  fun _ _ h => ext h

instance : LinearOrder CanonicalTimestamp :=
  LinearOrder.lift' (fun t => t.epochMs) epochMs_injective

theorem le_iff {a b : CanonicalTimestamp} : a ≤ b ↔ a.epochMs ≤ b.epochMs := Iff.rfl

theorem lt_iff {a b : CanonicalTimestamp} : a < b ↔ a.epochMs < b.epochMs := Iff.rfl

@[simp] theorem not_expanded (t : CanonicalTimestamp) : t.toIsoText.expanded = false := by
  simpa [IsoText.expanded] using t.upper

/-- Canonical timestamps compare as their instants. -/
theorem toIsoText_lt_iff {a b : CanonicalTimestamp} :
    a.toIsoText < b.toIsoText ↔ a.epochMs < b.epochMs := by
  simp [IsoText.lt_iff]

/-- Canonical timestamps compare as their instants. -/
theorem toIsoText_le_iff {a b : CanonicalTimestamp} :
    a.toIsoText ≤ b.toIsoText ↔ a.epochMs ≤ b.epochMs := by
  simp [IsoText.le_iff]

/-- `addMilliseconds`: the text of the instant `durationMs` later. -/
def addMilliseconds (t : CanonicalTimestamp) (durationMs : Nat) : IsoText :=
  ⟨t.epochMs + durationMs, by have := t.lower; omega⟩

@[simp] theorem addMilliseconds_epochMs (t : CanonicalTimestamp) (d : Nat) :
    (t.addMilliseconds d).epochMs = t.epochMs + d := rfl

/-- A sum within the four-digit years compares as its instant. -/
theorem addMilliseconds_lt_iff {t u : CanonicalTimestamp} {d : Nat}
    (h : (t.addMilliseconds d).expanded = false) :
    t.addMilliseconds d < u.toIsoText ↔ t.epochMs + d < u.epochMs := by
  simp [IsoText.lt_iff, h]

/-- A sum past year 9999 compares below every canonical timestamp. -/
theorem addMilliseconds_lt_of_expanded {t u : CanonicalTimestamp} {d : Nat}
    (h : (t.addMilliseconds d).expanded = true) : t.addMilliseconds d < u.toIsoText := by
  simp [IsoText.lt_iff, h]

/-- The sum is within the four-digit years exactly when its instant is. -/
theorem addMilliseconds_expanded_eq_false {t : CanonicalTimestamp} {d : Nat} :
    (t.addMilliseconds d).expanded = false ↔ t.epochMs + d ≤ maxEpochMs := by
  rw [← Bool.not_eq_true, IsoText.expanded_iff, not_lt, addMilliseconds_epochMs]

end CanonicalTimestamp

/-! ### The form of a timestamp text -/

/-- The value of a text of decimal digits. -/
def decimalValue (digits : List Char) : Nat :=
  digits.foldl (fun value digit => 10 * value + (digit.toNat - 48)) 0

/-- The number of days of a month of the Gregorian calendar. -/
def daysInMonth (year month : Nat) : Nat :=
  if month = 2 then
    if year % 4 = 0 ∧ (year % 100 ≠ 0 ∨ year % 400 = 0) then 29 else 28
  else if month = 4 ∨ month = 6 ∨ month = 9 ∨ month = 11 then 30
  else 31

/-- The fields of a text `YYYY-MM-DDTHH:mm:ss.sssZ`. -/
def timestampFields (s : String) : Option (Nat × Nat × Nat × Nat × Nat × Nat) :=
  let field (start length : Nat) : List Char := (s.toList.drop start).take length
  let digits := field 0 4 ++ field 5 2 ++ field 8 2 ++ field 11 2 ++ field 14 2 ++ field 17 2
    ++ field 20 3
  let separators := field 4 1 ++ field 7 1 ++ field 10 1 ++ field 13 1 ++ field 16 1
    ++ field 19 1 ++ field 23 1
  if s.toList.length = 24 ∧ digits.all (·.isDigit) = true ∧ separators = "--T::.Z".toList then
    some (decimalValue (field 0 4), decimalValue (field 5 2), decimalValue (field 8 2),
      decimalValue (field 11 2), decimalValue (field 14 2), decimalValue (field 17 2))
  else none

/-- `isCanonicalTimestamp` on a text: the form, and a date that the calendar has. -/
def isCanonicalTimestampText (s : String) : Bool :=
  match timestampFields s with
  | none => false
  | some (year, month, day, hour, minute, second) =>
      decide (1 ≤ month ∧ month ≤ 12 ∧ 1 ≤ day ∧ day ≤ daysInMonth year month ∧ hour ≤ 23
        ∧ minute ≤ 59 ∧ second ≤ 59)

example : isCanonicalTimestampText "2024-02-29T12:00:00.000Z" = true := by decide

end Ariava.Protocol
