import Mathlib.Algebra.Ring.Nat
import Mathlib.Data.Nat.Find
import Ariava.Lib.LengthPrefix
import Ariava.Protocol.Validation

/-!
# `Ariava.Protocol.WireText`: the texts and bytes of bound fields

`encodeLengthPrefixedFields` frames each field with the number of its UTF-8 bytes. The texts of
the fields that are not texts already are here too: the decimal text of a number,
`toISOString` of a canonical timestamp, and the base64url text of bytes.

* `encodeLengthPrefixedFields_injective`: the bytes determine the list of texts. It is the
  library's `encode_injective` at the format "decimal length, colon, newline".
* `isoText_injective`, `base64UrlEncode_injective`, `decimalText_injective`: each text determines
  its value.

The calendar is defined by the number of days before a year and before a month, so the day of a
timestamp is the sum of the three parts of its date, and no inverse is needed.
-/

set_option autoImplicit false

namespace Ariava.Protocol

/-! ### UTF-8 -/

/-- `new TextEncoder().encode(text)`. -/
def utf8Bytes (text : String) : List UInt8 := text.toUTF8.data.toList

theorem utf8Bytes_append (left right : String) :
    utf8Bytes (left ++ right) = utf8Bytes left ++ utf8Bytes right := by
  simp [utf8Bytes]

theorem utf8Bytes_injective : Function.Injective utf8Bytes := by
  intro left right h
  have hdata : left.toByteArray.data = right.toByteArray.data := by
    rw [← Array.toList_inj]
    simpa [utf8Bytes] using h
  exact String.toByteArray_inj.mp (ByteArray.ext hdata)

/-- The UTF-8 bytes of a list of ASCII characters. -/
theorem utf8Bytes_ofList_of_ascii {cs : List Char} (h : ∀ c ∈ cs, c.utf8Size = 1) :
    utf8Bytes (String.ofList cs) = cs.map fun c => c.val.toUInt8 := by
  rw [utf8Bytes, String.toUTF8_eq_toByteArray, String.toByteArray_ofList, List.utf8Encode]
  induction cs with
  | nil => rfl
  | cons c rest ih =>
    have hrest := ih fun c' hc' => h c' (List.mem_cons_of_mem _ hc')
    have hhead := String.utf8EncodeChar_eq_singleton (h c List.mem_cons_self)
    simpa [hhead] using hrest

/-! ### Decimal numbers -/

/-- `String(n)` of a non-negative integer. -/
def decimalText (n : Nat) : String := n.repr

theorem decimalText_injective : Function.Injective decimalText := by
  intro m n h
  have hdigits : Nat.toDigits 10 m = Nat.toDigits 10 n := by
    rw [← Nat.toList_repr, ← Nat.toList_repr]
    exact congrArg String.toList h
  rw [← @Nat.ofDigitChars_ten_toDigits m, hdigits, Nat.ofDigitChars_ten_toDigits]

/-- No byte of a decimal text is a colon. -/
theorem colon_notMem_decimalText (n : Nat) : (58 : UInt8) ∉ utf8Bytes (decimalText n) := by
  have hdigit : ∀ c ∈ Nat.toDigits 10 n, 48 ≤ c.toNat ∧ c.toNat ≤ 57 := by
    intro c hc
    have h := Nat.isDigit_of_mem_toDigits (by decide) (by decide) hc
    rw [Char.isDigit, Bool.and_eq_true, decide_eq_true_eq, decide_eq_true_eq] at h
    exact ⟨UInt32.le_iff_toNat_le.mp h.1, UInt32.le_iff_toNat_le.mp h.2⟩
  have hascii : ∀ c ∈ Nat.toDigits 10 n, c.utf8Size = 1 := by
    intro c hc
    have hle := (hdigit c hc).2
    rw [Char.utf8Size_eq_one_iff, UInt32.le_iff_toNat_le]
    exact le_trans hle (by decide)
  rw [decimalText, Nat.repr_eq_ofList_toDigits, utf8Bytes_ofList_of_ascii hascii]
  intro hmem
  obtain ⟨c, hc, hbyte⟩ := List.mem_map.mp hmem
  have hrange := hdigit c hc
  have hvalue : c.toNat % 256 = 58 := by
    have htoNat := congrArg UInt8.toNat hbyte
    rwa [UInt32.toNat_toUInt8] at htoNat
  omega

/-! ### The length-prefixed encoding -/

/-- `encodeLengthPrefixedFields`. -/
def encodeLengthPrefixedFields (fields : List String) : List UInt8 :=
  fields.flatMap fun field =>
    utf8Bytes (decimalText (utf8Bytes field).length ++ ":" ++ field ++ "\n")

/-- Decimal byte length, colon, bytes, newline. -/
def lengthPrefixFormat : Lib.LengthPrefix.Format UInt8 where
  lengthText n := utf8Bytes (decimalText n)
  separator := 58
  terminator := 10
  lengthText_injective := utf8Bytes_injective.comp decimalText_injective
  separator_notMem := colon_notMem_decimalText

/-- The encoding is the library's, on the UTF-8 bytes of the fields. -/
theorem encodeLengthPrefixedFields_eq (fields : List String) :
    encodeLengthPrefixedFields fields = lengthPrefixFormat.encode (fields.map utf8Bytes) := by
  rw [encodeLengthPrefixedFields, Lib.LengthPrefix.Format.encode, List.flatMap_map]
  congr 1
  funext field
  have hcolon : utf8Bytes ":" = [58] := by decide
  have hnewline : utf8Bytes "\n" = [10] := by decide
  simp [Lib.LengthPrefix.Format.frame, lengthPrefixFormat, utf8Bytes_append, hcolon, hnewline]

/-- The bytes determine the fields. -/
theorem encodeLengthPrefixedFields_injective : Function.Injective encodeLengthPrefixedFields := by
  intro fields fields' h
  rw [encodeLengthPrefixedFields_eq, encodeLengthPrefixedFields_eq] at h
  exact List.map_injective_iff.mpr utf8Bytes_injective
    (Lib.LengthPrefix.encode_injective lengthPrefixFormat h)

/-! ### Timestamps -/

/-- The days from `0000-01-01` to the first of January of a year. -/
def daysBeforeYear (year : Nat) : Nat :=
  365 * year + (year + 3) / 4 - (year + 99) / 100 + (year + 399) / 400

/-- The days of a year before its month number `month`, counted from zero. -/
def daysBeforeMonth (year : Nat) : Nat → Nat
  | 0 => 0
  | month + 1 => daysBeforeMonth year month + daysInMonth year (month + 1)

/-- The year of a day, up to 9999. -/
def yearOfDay (day : Nat) : Nat := Nat.findGreatest (fun year => daysBeforeYear year ≤ day) 9999

/-- The month of a day of a year, counted from zero. -/
def monthOfDay (year dayOfYear : Nat) : Nat :=
  Nat.findGreatest (fun month => daysBeforeMonth year month ≤ dayOfYear) 11

/-- A number with leading zeros, of a fixed width. -/
def paddedDigits : Nat → Nat → List Char
  | 0, _ => []
  | width + 1, n => paddedDigits width (n / 10) ++ [Nat.digitChar (n % 10)]

/-- The characters of `YYYY-MM-DDTHH:mm:ss.sssZ` for a number of milliseconds since the start of
year 0. -/
def isoChars (ms : Nat) : List Char :=
  let day := ms / 86400000
  let year := yearOfDay day
  let dayOfYear := day - daysBeforeYear year
  let month := monthOfDay year dayOfYear
  paddedDigits 4 year ++ '-' :: paddedDigits 2 (month + 1)
    ++ '-' :: paddedDigits 2 (dayOfYear - daysBeforeMonth year month + 1)
    ++ 'T' :: paddedDigits 2 (ms / 3600000 % 24) ++ ':' :: paddedDigits 2 (ms / 60000 % 60)
    ++ ':' :: paddedDigits 2 (ms / 1000 % 60) ++ '.' :: paddedDigits 3 (ms % 1000) ++ ['Z']

/-- The milliseconds since the start of year 0. -/
def CanonicalTimestamp.sinceYearZero (t : CanonicalTimestamp) : Nat :=
  (t.epochMs - minEpochMs).toNat

/-- `toISOString` of a canonical timestamp. -/
def CanonicalTimestamp.isoText (t : CanonicalTimestamp) : String :=
  String.ofList (isoChars t.sinceYearZero)

theorem CanonicalTimestamp.sinceYearZero_lt (t : CanonicalTimestamp) :
    t.sinceYearZero < 10000 * 31556952000 := by
  have hupper := t.upper
  have hlower := t.lower
  simp only [maxEpochMs, minEpochMs] at hupper hlower
  rw [CanonicalTimestamp.sinceYearZero, minEpochMs]
  omega

theorem CanonicalTimestamp.sinceYearZero_injective :
    Function.Injective CanonicalTimestamp.sinceYearZero := by
  intro a b h
  have ha := a.lower
  have hb := b.lower
  rw [CanonicalTimestamp.sinceYearZero, CanonicalTimestamp.sinceYearZero] at h
  apply CanonicalTimestamp.ext
  omega

/-- The digits of a number determine it, when it fits the width. -/
theorem paddedDigits_inj {width m n : Nat} (hm : m < 10 ^ width) (hn : n < 10 ^ width)
    (h : paddedDigits width m = paddedDigits width n) : m = n := by
  induction width generalizing m n with
  | zero => omega
  | succ width ih =>
    rw [paddedDigits, paddedDigits] at h
    obtain ⟨hleading, hlast⟩ := List.append_inj' h rfl
    rw [Nat.pow_succ] at hm hn
    have htens : m / 10 = n / 10 := ih (by omega) (by omega) hleading
    have hunits : m % 10 = n % 10 := by
      have hchar := List.head_eq_of_cons_eq hlast
      have hdecide : ∀ a < 10, ∀ b < 10, Nat.digitChar a = Nat.digitChar b → a = b := by decide
      exact hdecide _ (Nat.mod_lt _ (by decide)) _ (Nat.mod_lt _ (by decide)) hchar
    omega

@[simp] theorem length_paddedDigits (width n : Nat) : (paddedDigits width n).length = width := by
  induction width generalizing n with
  | zero => rfl
  | succ width ih => simp [paddedDigits, ih]

theorem daysBeforeYear_yearOfDay_le (day : Nat) : daysBeforeYear (yearOfDay day) ≤ day :=
  @Nat.findGreatest_spec 0 (fun year => daysBeforeYear year ≤ day) _ 9999 (by omega)
    (by simp [daysBeforeYear])

theorem daysBeforeMonth_monthOfDay_le (year dayOfYear : Nat) :
    daysBeforeMonth year (monthOfDay year dayOfYear) ≤ dayOfYear :=
  @Nat.findGreatest_spec 0 (fun month => daysBeforeMonth year month ≤ dayOfYear) _ 11 (by omega)
    (by simp [daysBeforeMonth])

/-- A day of a four-digit year is one of the 366 first of its year. -/
theorem dayOfYear_lt {day : Nat} (h : day < daysBeforeYear 10000) :
    day - daysBeforeYear (yearOfDay day) < 366 := by
  have hnext : day < daysBeforeYear (yearOfDay day + 1) := by
    by_cases hlast : yearOfDay day + 1 ≤ 9999
    · have hnot := @Nat.findGreatest_is_greatest (yearOfDay day + 1)
        (fun year => daysBeforeYear year ≤ day) _ 9999 (Nat.lt_succ_self _) hlast
      omega
    · have hle : yearOfDay day ≤ 9999 := Nat.findGreatest_le 9999
      have heq : yearOfDay day + 1 = 10000 := by omega
      rw [heq]
      exact h
  simp only [daysBeforeYear] at hnext ⊢
  omega

theorem daysInMonth_le (year month : Nat) : daysInMonth year month ≤ 31 := by
  unfold daysInMonth
  split_ifs <;> omega

theorem daysBeforeMonth_eleven (year : Nat) : 334 ≤ daysBeforeMonth year 11 := by
  have hfebruary : 28 ≤ daysInMonth year 2 := by
    unfold daysInMonth
    split_ifs <;> omega
  have hmonths : daysBeforeMonth year 11 = daysInMonth year 2 + 306 := by
    simp only [daysBeforeMonth]
    simp [daysInMonth]
    omega
  omega

/-- A day of a month has two digits. -/
theorem dayOfMonth_lt {year dayOfYear : Nat} (h : dayOfYear < 366) :
    dayOfYear - daysBeforeMonth year (monthOfDay year dayOfYear) + 1 < 100 := by
  have hle : monthOfDay year dayOfYear ≤ 11 := Nat.findGreatest_le 11
  by_cases hlast : monthOfDay year dayOfYear + 1 ≤ 11
  · have hnot := @Nat.findGreatest_is_greatest (monthOfDay year dayOfYear + 1)
      (fun month => daysBeforeMonth year month ≤ dayOfYear) _ 11 (Nat.lt_succ_self _) hlast
    rw [daysBeforeMonth] at hnot
    have hmonth := daysInMonth_le year (monthOfDay year dayOfYear + 1)
    omega
  · have heq : monthOfDay year dayOfYear = 11 := by omega
    have hbefore := daysBeforeMonth_eleven year
    rw [heq]
    omega

/-- The characters of an instant determine it. -/
theorem isoChars_inj {m n : Nat} (hm : m < 10000 * 31556952000) (hn : n < 10000 * 31556952000)
    (h : isoChars m = isoChars n) : m = n := by
  have hrange : ∀ k < 10000 * 31556952000, k / 86400000 < daysBeforeYear 10000 := by
    intro k hk
    simp only [daysBeforeYear]
    omega
  have hyear : ∀ k, yearOfDay (k / 86400000) < 10 ^ 4 := fun k =>
    lt_of_le_of_lt (Nat.findGreatest_le 9999) (by decide)
  have hmonth : ∀ year day, monthOfDay year day + 1 < 10 ^ 2 := fun year day =>
    lt_of_le_of_lt (Nat.succ_le_succ (Nat.findGreatest_le 11)) (by decide)
  simp only [isoChars, List.append_assoc, List.cons_append] at h
  -- The fields have fixed widths, so the texts agree field by field.
  obtain ⟨hy, h⟩ := List.append_inj h (by simp)
  obtain ⟨hmo, h⟩ := List.append_inj (List.tail_eq_of_cons_eq h) (by simp)
  obtain ⟨hd, h⟩ := List.append_inj (List.tail_eq_of_cons_eq h) (by simp)
  obtain ⟨hh, h⟩ := List.append_inj (List.tail_eq_of_cons_eq h) (by simp)
  obtain ⟨hmi, h⟩ := List.append_inj (List.tail_eq_of_cons_eq h) (by simp)
  obtain ⟨hs, h⟩ := List.append_inj (List.tail_eq_of_cons_eq h) (by simp)
  obtain ⟨hms, -⟩ := List.append_inj (List.tail_eq_of_cons_eq h) (by simp)
  have eyear := paddedDigits_inj (hyear m) (hyear n) hy
  have emonth := paddedDigits_inj (hmonth _ _) (hmonth _ _) hmo
  have eday := paddedDigits_inj (dayOfMonth_lt (dayOfYear_lt (hrange m hm)))
    (dayOfMonth_lt (dayOfYear_lt (hrange n hn))) hd
  have ehour := paddedDigits_inj (by omega) (by omega) hh
  have eminute := paddedDigits_inj (by omega) (by omega) hmi
  have esecond := paddedDigits_inj (by omega) (by omega) hs
  have emilli := paddedDigits_inj (by omega) (by omega) hms
  have hmDay := daysBeforeYear_yearOfDay_le (m / 86400000)
  have hnDay := daysBeforeYear_yearOfDay_le (n / 86400000)
  have hmMonth := daysBeforeMonth_monthOfDay_le (yearOfDay (m / 86400000))
    (m / 86400000 - daysBeforeYear (yearOfDay (m / 86400000)))
  have hnMonth := daysBeforeMonth_monthOfDay_le (yearOfDay (n / 86400000))
    (n / 86400000 - daysBeforeYear (yearOfDay (n / 86400000)))
  have eday' : m / 86400000 = n / 86400000 := by
    rw [← eyear] at hnDay hnMonth emonth eday
    rw [← Nat.succ.inj emonth] at hnMonth eday
    omega
  omega

/-- The text of a timestamp determines it. -/
theorem isoText_injective : Function.Injective CanonicalTimestamp.isoText := by
  intro a b h
  have hchars : isoChars a.sinceYearZero = isoChars b.sinceYearZero := by
    have hlist := congrArg String.toList h
    rwa [CanonicalTimestamp.isoText, CanonicalTimestamp.isoText, String.toList_ofList,
      String.toList_ofList] at hlist
  exact CanonicalTimestamp.sinceYearZero_injective
    (isoChars_inj a.sinceYearZero_lt b.sinceYearZero_lt hchars)

/-! ### Base64url -/

/-- The character of six bits. -/
def base64UrlChar (n : Nat) : Char :=
  if n < 26 then Char.ofNat (65 + n)
  else if n < 52 then Char.ofNat (71 + n)
  else if n < 62 then Char.ofNat (n - 4)
  else if n = 62 then '-'
  else '_'

/-- The characters of three bytes at a time. The last group may be one or two bytes, and is not
padded. -/
def base64UrlChars : List UInt8 → List Char
  | [] => []
  | [a] => [base64UrlChar (a.toNat / 4), base64UrlChar (a.toNat % 4 * 16)]
  | [a, b] =>
      [base64UrlChar (a.toNat / 4), base64UrlChar (a.toNat % 4 * 16 + b.toNat / 16),
        base64UrlChar (b.toNat % 16 * 4)]
  | a :: b :: c :: rest =>
      base64UrlChar (a.toNat / 4) :: base64UrlChar (a.toNat % 4 * 16 + b.toNat / 16)
        :: base64UrlChar (b.toNat % 16 * 4 + c.toNat / 64) :: base64UrlChar (c.toNat % 64)
        :: base64UrlChars rest

/-- `base64UrlEncode`. -/
def base64UrlEncode (bytes : List UInt8) : String := String.ofList (base64UrlChars bytes)

theorem base64UrlChar_inj {m n : Nat} (hm : m < 64) (hn : n < 64)
    (h : base64UrlChar m = base64UrlChar n) : m = n := by
  have hdecide : ∀ a < 64, ∀ b < 64, base64UrlChar a = base64UrlChar b → a = b := by
    decide +kernel
  exact hdecide m hm n hn h

theorem base64UrlChars_injective : Function.Injective base64UrlChars := by
  have hbyte : ∀ a : UInt8, a.toNat < 256 := fun a => a.toNat_lt
  intro bytes
  induction bytes using base64UrlChars.induct with
  | case1 =>
    intro bytes' h
    match bytes', h with
    | [], _ => rfl
    | [_], h => simp [base64UrlChars] at h
    | [_, _], h => simp [base64UrlChars] at h
    | _ :: _ :: _ :: _, h => simp [base64UrlChars] at h
  | case2 a =>
    intro bytes' h
    match bytes', h with
    | [], h => simp [base64UrlChars] at h
    | [_, _], h => simp [base64UrlChars] at h
    | _ :: _ :: _ :: _, h => simp [base64UrlChars] at h
    | [a'], h =>
      simp only [base64UrlChars, List.cons.injEq, and_true] at h
      have h1 := base64UrlChar_inj (by have := hbyte a; omega) (by have := hbyte a'; omega) h.1
      have h2 := base64UrlChar_inj (by omega) (by omega) h.2
      rw [show a = a' from UInt8.toNat_inj.mp (by omega)]
  | case3 a b =>
    intro bytes' h
    match bytes', h with
    | [], h => simp [base64UrlChars] at h
    | [_], h => simp [base64UrlChars] at h
    | _ :: _ :: _ :: _, h => simp [base64UrlChars] at h
    | [a', b'], h =>
      have ha := hbyte a
      have ha' := hbyte a'
      have hb := hbyte b
      have hb' := hbyte b'
      simp only [base64UrlChars, List.cons.injEq, and_true] at h
      have h1 := base64UrlChar_inj (by omega) (by omega) h.1
      have h2 := base64UrlChar_inj (by omega) (by omega) h.2.1
      have h3 := base64UrlChar_inj (by omega) (by omega) h.2.2
      rw [show a = a' from UInt8.toNat_inj.mp (by omega),
        show b = b' from UInt8.toNat_inj.mp (by omega)]
  | case4 a b c rest ih =>
    intro bytes' h
    match bytes', h with
    | [], h => simp [base64UrlChars] at h
    | [_], h => simp [base64UrlChars] at h
    | [_, _], h => simp [base64UrlChars] at h
    | a' :: b' :: c' :: rest', h =>
      have ha := hbyte a
      have ha' := hbyte a'
      have hb := hbyte b
      have hb' := hbyte b'
      have hc := hbyte c
      have hc' := hbyte c'
      simp only [base64UrlChars, List.cons.injEq] at h
      obtain ⟨h1, h2, h3, h4, hrest⟩ := h
      have e1 := base64UrlChar_inj (by omega) (by omega) h1
      have e2 := base64UrlChar_inj (by omega) (by omega) h2
      have e3 := base64UrlChar_inj (by omega) (by omega) h3
      have e4 := base64UrlChar_inj (by omega) (by omega) h4
      rw [show a = a' from UInt8.toNat_inj.mp (by omega),
        show b = b' from UInt8.toNat_inj.mp (by omega),
        show c = c' from UInt8.toNat_inj.mp (by omega), ih hrest]

/-- The base64url text of bytes determines them. -/
theorem base64UrlEncode_injective : Function.Injective base64UrlEncode := by
  intro left right h
  have hchars := congrArg String.toList h
  rw [base64UrlEncode, base64UrlEncode, String.toList_ofList, String.toList_ofList] at hchars
  exact base64UrlChars_injective hchars

/-! ### Bound fields -/

/-- The text of a bound field. -/
def BindingField.wireText : BindingField → String
  | .text s => s
  | .number n => decimalText n
  | .instant t => t.isoText
  | .bytes b => base64UrlEncode b

/-- `encodeLengthPrefixedFields` of bound fields. -/
def bindingBytes (fields : List BindingField) : List UInt8 :=
  encodeLengthPrefixedFields (fields.map BindingField.wireText)

/-- The bytes determine the texts of the fields. -/
theorem bindingBytes_inj {fields fields' : List BindingField}
    (h : bindingBytes fields = bindingBytes fields') :
    fields.map BindingField.wireText = fields'.map BindingField.wireText :=
  encodeLengthPrefixedFields_injective h

@[simp] theorem wireText_text_inj {s s' : String} :
    (BindingField.text s).wireText = (BindingField.text s').wireText ↔ s = s' := Iff.rfl

@[simp] theorem wireText_number_inj {n n' : Nat} :
    (BindingField.number n).wireText = (BindingField.number n').wireText ↔ n = n' :=
  decimalText_injective.eq_iff

@[simp] theorem wireText_instant_inj {t t' : CanonicalTimestamp} :
    (BindingField.instant t).wireText = (BindingField.instant t').wireText ↔ t = t' :=
  isoText_injective.eq_iff

@[simp] theorem wireText_bytes_inj {b b' : List UInt8} :
    (BindingField.bytes b).wireText = (BindingField.bytes b').wireText ↔ b = b' :=
  base64UrlEncode_injective.eq_iff

end Ariava.Protocol
