import Ariava.Protocol.CodeUnits
import Ariava.Protocol.WireText

/-!
# `Ariava.Protocol.Utf8Text`: the bytes of a string

`TextEncoder` and the fatal `TextDecoder` over code units. The encoder writes U+FFFD for a lone
surrogate, so the bytes are those of the well-formed string (`jsString_displayText`), and they are
as many as `utf8ByteLength` counts. The decoder gives a well-formed string back
(`decodeUtf8_encodeUtf8`), less a byte order mark in front.
-/

set_option autoImplicit false

namespace Ariava.Protocol

/-- `new TextEncoder().encode(value)`. -/
def encodeUtf8 (s : JsString) : List UInt8 := utf8Bytes (displayText s)

/-- `new TextDecoder('utf-8', { fatal: true }).decode(bytes)`, or nothing where it throws. -/
def decodeUtf8 (bytes : List UInt8) : Option JsString :=
  (String.fromUTF8? ⟨bytes.toArray⟩).map fun text =>
    if (jsString text).head? = some 0xfeff then (jsString text).tail else jsString text

/-! ### Encoding -/

theorem isLowSurrogate_of_isHighSurrogate {unit : UInt16} (h : isHighSurrogate unit = true) :
    isLowSurrogate unit = false := by
  simp only [isHighSurrogate, isLowSurrogate, Bool.and_eq_true, Bool.and_eq_false_iff,
    decide_eq_true_eq, decide_eq_false_iff_not, UInt16.le_iff_toNat_le, UInt16.reduceToNat] at h ⊢
  omega

/-- The character of a unit outside the surrogates has that unit. -/
theorem utf16Units_ofNat {unit : UInt16} (h : isSurrogate unit = false) :
    utf16Units (Char.ofNat unit.toNat) = [unit] := by
  have hlt := unit.toNat_lt
  have hvalid : unit.toNat.isValidChar := by
    simp only [isSurrogate, isHighSurrogate, isLowSurrogate, Bool.or_eq_false_iff,
      Bool.and_eq_false_iff, decide_eq_false_iff_not, UInt16.le_iff_toNat_le,
      UInt16.reduceToNat] at h
    rw [Nat.isValidChar]
    omega
  have hval : (Char.ofNat unit.toNat).val.toNat = unit.toNat := by
    rw [Char.ofNat, dif_pos hvalid]
    rfl
  rw [utf16Units, hval, if_pos (by omega)]
  congr 1
  rw [← UInt16.toNat_inj, UInt32.toNat_toUInt16, hval]
  omega

/-- The character of a pair has its two units. -/
theorem utf16Units_pair {high low : UInt16} (hhigh : isHighSurrogate high = true)
    (hlow : isLowSurrogate low = true) :
    utf16Units (Char.ofNat (0x10000 + (high.toNat - 0xd800) * 0x400 + (low.toNat - 0xdc00)))
      = [high, low] := by
  simp only [isHighSurrogate, isLowSurrogate, Bool.and_eq_true, decide_eq_true_eq,
    UInt16.le_iff_toNat_le, UInt16.reduceToNat] at hhigh hlow
  have hvalid : (0x10000 + (high.toNat - 0xd800) * 0x400 + (low.toNat - 0xdc00)).isValidChar := by
    rw [Nat.isValidChar]
    omega
  have hval : (Char.ofNat (0x10000 + (high.toNat - 0xd800) * 0x400
      + (low.toNat - 0xdc00))).val.toNat
      = 0x10000 + (high.toNat - 0xd800) * 0x400 + (low.toNat - 0xdc00) := by
    rw [Char.ofNat, dif_pos hvalid]
    rfl
  rw [utf16Units, hval, if_neg (by omega)]
  simp only [List.cons.injEq, and_true, ← UInt16.toNat_inj, Nat.toUInt16_eq, UInt16.toNat_ofNat']
  omega

/-- What the characters say is the well-formed string. -/
theorem flatMap_displayChars (s : JsString) :
    (displayChars none s).flatMap utf16Units = toWellFormed s ∧
      ∀ high : UInt16, isHighSurrogate high = true →
        (displayChars (some high) s).flatMap utf16Units = toWellFormed (high :: s) := by
  have hreplaced : utf16Units (Char.ofNat 0xfffd) = [0xfffd] := by decide
  induction s with
  | nil =>
    refine ⟨rfl, ?_⟩
    intro high hhigh
    simp [displayChars, toWellFormed, hhigh, hreplaced]
  | cons unit rest ih =>
    obtain ⟨hnone, hsome⟩ := ih
    -- A unit outside a pair: itself, or U+FFFD for the second half of one.
    have hunit : isHighSurrogate unit = false →
        utf16Units (unitChar unit) ++ (displayChars none rest).flatMap utf16Units
          = toWellFormed (unit :: rest) := by
      intro hhigh
      rw [unitChar, hnone]
      by_cases hlow : isLowSurrogate unit = true
      · rw [if_pos hlow, toWellFormed_low (by simp [hhigh]) hlow, hreplaced]
        rfl
      · have hplain : isSurrogate unit = false := by simp [isSurrogate, hhigh, hlow]
        rw [if_neg hlow, toWellFormed_cons hplain, utf16Units_ofNat hplain]
        rfl
    constructor
    · rw [displayChars]
      split
      · rename_i hhigh
        exact hsome unit hhigh
      · rename_i hhigh
        rw [List.flatMap_cons]
        exact hunit (by simpa using hhigh)
    · intro high hhigh
      rw [displayChars]
      split
      · rename_i hlow
        rw [List.flatMap_cons, utf16Units_pair hhigh hlow, hnone]
        simp [toWellFormed, hhigh, hlow]
      · rename_i hlow
        have htorn : toWellFormed (high :: unit :: rest) = 0xfffd :: toWellFormed (unit :: rest) := by
          simp [toWellFormed, hhigh, hlow]
        split
        · rename_i hnext
          rw [List.flatMap_cons, hreplaced, hsome unit hnext, htorn]
          rfl
        · rename_i hnext
          rw [List.flatMap_cons, List.flatMap_cons, hreplaced, hunit (by simpa using hnext), htorn]
          rfl

/-- The code units of a text are well-formed. -/
theorem isWellFormedUnicode_jsString (text : String) : isWellFormedUnicode (jsString text) = true := by
  have hlist : ∀ chars : List Char, isWellFormedUnicode (chars.flatMap utf16Units) = true := by
    intro chars
    induction chars with
    | nil => rfl
    | cons c rest ih =>
      rw [List.flatMap_cons]
      rcases utf16Units_cases c with ⟨unit, heq, -, -, hhigh, hlow⟩ |
        ⟨high, low, heq, hhigh, -, -, hlow, -⟩
      · rw [heq, List.singleton_append, isWellFormedUnicode_cons (by simp [isSurrogate, hhigh, hlow]),
          ih]
      · rw [heq]
        simp [isWellFormedUnicode, hhigh, hlow, ih]
  exact hlist text.toList

/-- A string of ASCII characters is the text they give. -/
theorem jsString_of_asciiText? {s : JsString} {text : String} (h : asciiText? s = some text) :
    jsString text = s := by
  unfold asciiText? at h
  split at h
  · rename_i hall
    cases h
    rw [List.all_eq_true] at hall
    rw [jsString, String.toList_ofList, List.flatMap_map]
    calc s.flatMap (fun unit => utf16Units (Char.ofNat unit.toNat))
        = s.flatMap fun unit => [unit] := by
          refine List.flatMap_congr fun unit hunit => utf16Units_ofNat ?_
          have hlt := of_decide_eq_true (hall unit hunit)
          simp only [UInt16.lt_iff_toNat_lt, UInt16.reduceToNat] at hlt
          simp only [isSurrogate, isHighSurrogate, isLowSurrogate, Bool.or_eq_false_iff,
            Bool.and_eq_false_iff, decide_eq_false_iff_not, UInt16.le_iff_toNat_le,
            UInt16.reduceToNat]
          omega
      _ = s := by simp
  · cases h

/-- A test that only ASCII texts pass says the same of a text and of its code units. -/
theorem any_asciiText?_jsString {test : String → Bool} {text : String}
    (h : test text = true → ∀ c ∈ text.toList, c.toNat < 0x80) :
    (asciiText? (jsString text)).any test = test text := by
  cases hascii : asciiText? (jsString text) with
  | some other => rw [Option.any_some, jsString_injective (jsString_of_asciiText? hascii)]
  | none =>
    rw [Option.any_none, eq_comm, Bool.eq_false_iff]
    intro htest
    rw [asciiText?, if_pos] at hascii
    · cases hascii
    · rw [List.all_eq_true]
      intro unit hunit
      rw [jsString, List.mem_flatMap] at hunit
      obtain ⟨c, hc, hunit⟩ := hunit
      have hlt := h htest c hc
      rcases utf16Units_cases c with ⟨unit', heq, hnat, -⟩ | ⟨_, _, -, -, -, -, -, hge, -⟩
      · rw [heq, List.mem_singleton] at hunit
        rw [decide_eq_true_eq, UInt16.lt_iff_toNat_lt, hunit, hnat]
        exact hlt
      · omega

/-- A string as a text, in code units. -/
theorem jsString_displayText (s : JsString) : jsString (displayText s) = toWellFormed s := by
  rw [jsString, displayText, String.toList_ofList, (flatMap_displayChars s).1]

/-- The unit in place of a lone surrogate has as many bytes as are counted for it. -/
theorem utf8ByteLength_toWellFormed (s : JsString) :
    utf8ByteLength (toWellFormed s) = utf8ByteLength s := by
  have hstart : ∀ s : JsString, ∀ pairOpen : Bool,
      (∀ unit ∈ s.head?, isLowSurrogate unit = false) →
        utf8ByteLengthFrom pairOpen s = utf8ByteLength s := by
    intro s pairOpen h
    cases s with
    | nil => rfl
    | cons unit rest => simp [utf8ByteLength, utf8ByteLengthFrom, h unit rfl]
  have hreplaced : isHighSurrogate 0xfffd = false ∧ isLowSurrogate 0xfffd = false := by decide
  have hthree : ∀ unit : UInt16, isSurrogate unit = true → ¬ unit < 0x80 ∧ ¬ unit < 0x800 := by
    intro unit h
    simp only [isSurrogate, isHighSurrogate, isLowSurrogate, Bool.or_eq_true, Bool.and_eq_true,
      decide_eq_true_eq, UInt16.le_iff_toNat_le, UInt16.lt_iff_toNat_lt, UInt16.reduceToNat] at h ⊢
    omega
  simp only [utf8ByteLength] at hstart ⊢
  induction s using toWellFormed.induct with
  | case1 => rfl
  | case2 first hhigh next rest hlow ih =>
    have hfirst := isLowSurrogate_of_isHighSurrogate hhigh
    simp [toWellFormed, utf8ByteLengthFrom, hhigh, hlow, hfirst, ih]
  | case3 first hhigh next rest hlow ih =>
    have hfirst := isLowSurrogate_of_isHighSurrogate hhigh
    have hsize := hthree first (by simp [isSurrogate, hhigh])
    have hsplit : utf8ByteLengthFrom false (first :: next :: rest)
        = 3 + utf8ByteLengthFrom true (next :: rest) := by
      rw [utf8ByteLengthFrom, hhigh]
      simp [hfirst, hsize]
    have htorn : toWellFormed (first :: next :: rest) = 0xfffd :: toWellFormed (next :: rest) := by
      simp [toWellFormed, hhigh, hlow]
    rw [hsplit, hstart (next :: rest) true (by simpa using hlow), htorn, utf8ByteLengthFrom]
    simp [hreplaced, ih]
  | case4 first hhigh =>
    have hfirst := isLowSurrogate_of_isHighSurrogate hhigh
    have hsize := hthree first (by simp [isSurrogate, hhigh])
    simp [toWellFormed, utf8ByteLengthFrom, hhigh, hfirst, hsize]
  | case5 first rest hhigh hlow ih =>
    have hsize := hthree first (by simp [isSurrogate, hlow])
    rw [toWellFormed_low hhigh hlow, utf8ByteLengthFrom, utf8ByteLengthFrom]
    simp [hreplaced, hhigh, hlow, hsize, ih]
  | case6 first rest hhigh hlow ih =>
    have hplain : isSurrogate first = false := by simp [isSurrogate, hhigh, hlow]
    rw [toWellFormed_cons hplain, utf8ByteLengthFrom, utf8ByteLengthFrom]
    simp [hhigh, hlow, ih]

/-- The bytes are as many as the count says. -/
theorem length_encodeUtf8 (s : JsString) : (encodeUtf8 s).length = utf8ByteLength s := by
  have hsize : (encodeUtf8 s).length = (displayText s).utf8ByteSize := by
    simp [encodeUtf8, utf8Bytes]
  rw [hsize, ← utf8ByteLength_jsString, jsString_displayText, utf8ByteLength_toWellFormed]

/-! ### Decoding -/

/-- A well-formed string without a byte order mark comes back. -/
theorem decodeUtf8_encodeUtf8 {s : JsString} (h : isWellFormedUnicode s = true)
    (hmark : s.head? ≠ some 0xfeff) : decodeUtf8 (encodeUtf8 s) = some s := by
  have htext : String.fromUTF8? ⟨(encodeUtf8 s).toArray⟩ = some (displayText s) := by
    have hbytes : (⟨(encodeUtf8 s).toArray⟩ : ByteArray) = (displayText s).toUTF8 := by
      simp [encodeUtf8, utf8Bytes]
    have hvalid : (displayText s).toUTF8.IsValidUTF8 := (displayText s).isValidUTF8
    rw [hbytes, String.fromUTF8?, dif_pos hvalid]
    rfl
  rw [decodeUtf8, htext, Option.map_some, jsString_displayText, toWellFormed_eq_self h,
    if_neg hmark]

end Ariava.Protocol
