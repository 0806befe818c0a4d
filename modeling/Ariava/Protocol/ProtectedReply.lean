import Ariava.Protocol.CommandValues
import Ariava.Protocol.JsonParse
import Ariava.Protocol.Utf8Text

/-!
# `Ariava.Protocol.ProtectedReply`: the plaintexts of commands

`buildProtectedReplyContentBytes` and `buildProtectedInterruptContentBytes` of `encryption.ts`.
Each checks a value and writes the canonical plaintext of it.

A reply is bounded by the bytes of its text, and its plaintext by the bytes of the JSON text.
Between the two are the escapes: no character takes more than six times its bytes
(`utf8ByteLength_quoteJson_le`), and a control character takes as many.
-/

set_option autoImplicit false

namespace Ariava.Protocol

open CommandValues

/-- `COMMAND_LIMITS.replyTextBytes`. -/
def replyTextBytes : Nat := 4000

/-- `E2E_LIMITS.replyPlaintextBytes`. -/
def replyPlaintextBytes : Nat := 4000

namespace Encryption

/-- `assertExactKeys`: the value is a record with no other key, and with the required ones. -/
def assertExactKeys (value : JsonValue) (allowed : List String) (label : String)
    (required : List String) : Except Thrown JsonObject :=
  match value with
  | .object record => do
      throwIf (JsonObject.unsupportedKey? record allowed).isSome
        (.typeError (label ++ " contains unsupported fields"))
      checkAll required fun key =>
        throwIf (!JsonObject.hasOwn record key) (.typeError (label ++ "." ++ key ++ " is required"))
      return record
  | _ => .error (.typeError (label ++ " must be an object"))

end Encryption

/-- `{ version: 1, text }`. -/
def replyContent (text : JsString) : JsonValue :=
  .object [(jsString "version", numberValue 1), (jsString "text", .string text)]

/-- `buildProtectedReplyContentBytes`. -/
def buildProtectedReplyContentBytes (content : JsonValue) : Except Thrown (List UInt8) := do
  let record ← Encryption.assertExactKeys content ["version", "text"] "protected reply content"
    ["version", "text"]
  match string? (record.get? "text") with
  | some text =>
      throwIf (!isNumber 1 (record.get? "version")
          || decide (replyPlaintextBytes < (encodeUtf8 text).length))
        (.typeError "protected reply content is invalid")
      return encodeUtf8 (stringify (replyContent text))
  | none => .error (.typeError "protected reply content is invalid")

/-- `validateProtectedInterruptContentV1`. -/
def validateProtectedInterruptContentV1 : JsonValue → Bool
  | .object record =>
      isExactRecord record ["version", "action"] && isNumber 1 (JsonObject.get? record "version")
        && isText "interrupt" (JsonObject.get? record "action")
  | _ => false

/-- `buildProtectedInterruptContentBytes`. -/
def buildProtectedInterruptContentBytes (content : JsonValue) : Except Thrown (List UInt8) := do
  let _ ← Encryption.assertExactKeys content ["version", "action"] "protected interrupt content"
    ["version", "action"]
  throwIf (!validateProtectedInterruptContentV1 content)
    (.typeError "protected interrupt content is invalid")
  return encodeUtf8 (jsString "\x7b\"version\":1,\"action\":\"interrupt\"\x7d")

/-! ### The size of a plaintext -/

/-- An ASCII text has a byte for each of its units. -/
theorem utf8ByteLength_of_ascii {s : JsString} (h : ∀ unit ∈ s, unit < 0x80) :
    utf8ByteLength s = s.length := by
  induction s with
  | nil => rfl
  | cons unit rest ih =>
    rw [List.forall_mem_cons] at h
    rw [utf8ByteLength_cons h.1, List.length_cons]
    have hrest := ih h.2
    rw [utf8ByteLength] at hrest
    omega

/-- The escape of a unit has six ASCII characters. -/
theorem unicodeEscape_ascii (unit : UInt16) : ∀ c ∈ unicodeEscape unit, c < 0x80 := by
  have hhex : ∀ n < 16, hexUnit n < 0x80 := by decide
  have hlt := unit.toNat_lt
  intro c hc
  simp only [unicodeEscape, List.mem_cons, List.not_mem_nil, or_false] at hc
  rcases hc with rfl | rfl | rfl | rfl | rfl | rfl
  · decide
  · decide
  · exact hhex _ (by omega)
  · exact hhex _ (by omega)
  · exact hhex _ (by omega)
  · exact hhex _ (by omega)

/-- The escape of a unit in front of a text. -/
theorem utf8ByteLength_unicodeEscape (unit : UInt16) {t : JsString} (h : StartsClosed t) :
    utf8ByteLength (unicodeEscape unit ++ t) = 6 + utf8ByteLength t := by
  rw [utf8ByteLength_append h, utf8ByteLength_of_ascii (unicodeEscape_ascii unit)]
  rfl

/-- The bytes of a unit that is not the second half of a pair. -/
def unitBytes (unit : UInt16) : Nat := if unit < 0x80 then 1 else if unit < 0x800 then 2 else 3

theorem one_le_unitBytes (unit : UInt16) : 1 ≤ unitBytes unit := by
  unfold unitBytes
  split_ifs <;> omega

theorem utf8ByteLengthFrom_cons {unit : UInt16} {pairOpen : Bool}
    (h : (isLowSurrogate unit && pairOpen) = false) (rest : JsString) :
    utf8ByteLengthFrom pairOpen (unit :: rest)
      = unitBytes unit + utf8ByteLengthFrom (isHighSurrogate unit) rest := by
  rw [utf8ByteLengthFrom, h]
  rfl

/-- A unit that is no surrogate takes at most six times its bytes. -/
theorem utf8ByteLength_escapeUnit_le {unit : UInt16} (h : isHighSurrogate unit = false)
    {t : JsString} (ht : StartsClosed t) :
    utf8ByteLength (escapeUnit unit ++ t) ≤ 6 * unitBytes unit + utf8ByteLength t := by
  have hbytes := one_le_unitBytes unit
  have hshort : ∀ escape : UInt16, escape < 0x80 →
      utf8ByteLength ([ascii '\\', escape] ++ t) ≤ 6 * unitBytes unit + utf8ByteLength t := by
    intro escape hescape
    have hascii : ∀ c ∈ [ascii '\\', escape], c < 0x80 := by
      simp only [List.mem_cons, List.not_mem_nil, or_false, forall_eq_or_imp, forall_eq]
      exact ⟨by decide, hescape⟩
    rw [utf8ByteLength_append ht, utf8ByteLength_of_ascii hascii, List.length_cons,
      List.length_cons, List.length_nil]
    omega
  unfold escapeUnit
  split_ifs with hself hb htab hn hf hr hcontrol
  · rcases hself with rfl | rfl
    · exact hshort _ (by decide)
    · exact hshort _ (by decide)
  · exact hshort _ (by decide)
  · exact hshort _ (by decide)
  · exact hshort _ (by decide)
  · exact hshort _ (by decide)
  · exact hshort _ (by decide)
  · rw [utf8ByteLength_unicodeEscape unit ht]
    omega
  · rw [List.singleton_append, utf8ByteLength, utf8ByteLengthFrom_cons (by simp), h]
    show unitBytes unit + utf8ByteLength t ≤ _
    omega

/-- What is written inside the quotes tears no pair apart. -/
theorem startsClosed_escapeUnits (s : JsString) :
    StartsClosed (escapeUnits none s) ∧ ∀ high : UInt16, isHighSurrogate high = true →
      StartsClosed (escapeUnits (some high) s) := by
  have hescape : ∀ unit t, StartsClosed (unicodeEscape unit ++ t) := fun unit t =>
    startsClosed_cons (by decide) _
  induction s with
  | nil =>
    constructor
    · intro unit hunit
      cases hunit
    · intro high _
      exact startsClosed_cons (by decide) _
  | cons unit rest ih =>
    constructor
    · rw [escapeUnits]
      split
      · rename_i hhigh
        exact ih.2 unit hhigh
      · split
        · exact hescape unit _
        · rename_i hlow
          unfold escapeUnit
          split_ifs
          all_goals first
            | exact hescape unit _
            | exact startsClosed_cons (by decide) _
            | exact startsClosed_cons (by simpa using hlow) _
    · intro high hhigh
      rw [escapeUnits]
      split
      · exact startsClosed_cons (isLowSurrogate_of_isHighSurrogate hhigh) _
      · split
        · exact hescape high _
        · rw [List.append_assoc]
          exact hescape high _

/-- Inside the quotes a string takes at most six times its bytes. -/
theorem utf8ByteLength_escapeUnits_le (s : JsString) :
    utf8ByteLength (escapeUnits none s) ≤ 6 * utf8ByteLength s ∧
      ∀ high : UInt16, isHighSurrogate high = true →
        utf8ByteLength (escapeUnits (some high) s) ≤ 6 * (3 + utf8ByteLengthFrom true s) := by
  have hthree : ∀ unit : UInt16, isSurrogate unit = true → unitBytes unit = 3 := by
    intro unit h
    simp only [isSurrogate, isHighSurrogate, isLowSurrogate, Bool.or_eq_true, Bool.and_eq_true,
      decide_eq_true_eq, UInt16.le_iff_toNat_le, UInt16.reduceToNat] at h
    simp only [unitBytes, UInt16.lt_iff_toNat_lt, UInt16.reduceToNat]
    split_ifs <;> omega
  induction s with
  | nil =>
    refine ⟨by decide, ?_⟩
    intro high _
    rw [escapeUnits, utf8ByteLength_of_ascii (unicodeEscape_ascii high)]
    show 6 ≤ _
    omega
  | cons unit rest ih =>
    obtain ⟨hnone, hsome⟩ := ih
    have hclosed := (startsClosed_escapeUnits rest).1
    have hrestBytes : utf8ByteLengthFrom false rest = utf8ByteLength rest := rfl
    constructor
    · have hbytes : utf8ByteLength (unit :: rest)
          = unitBytes unit + utf8ByteLengthFrom (isHighSurrogate unit) rest :=
        utf8ByteLengthFrom_cons (by simp) rest
      rw [hbytes, escapeUnits]
      split
      · rename_i hhigh
        have hrest := hsome unit hhigh
        rw [hthree unit (by simp [isSurrogate, hhigh]), hhigh]
        exact hrest
      · rename_i hhigh
        have hfalse : isHighSurrogate unit = false := by simpa using hhigh
        rw [hfalse, hrestBytes]
        split
        · rename_i hlow
          rw [utf8ByteLength_unicodeEscape unit hclosed, hthree unit (by simp [isSurrogate, hlow])]
          omega
        · have hunit := utf8ByteLength_escapeUnit_le hfalse hclosed
          omega
    · intro high hhigh
      rw [escapeUnits]
      split
      · -- The pair is kept: three bytes and one.
        rename_i hlow
        have hhighLow := isLowSurrogate_of_isHighSurrogate hhigh
        rw [utf8ByteLength, utf8ByteLengthFrom_cons (by simp), hhigh,
          hthree high (by simp [isSurrogate, hhigh]), utf8ByteLengthFrom, utf8ByteLengthFrom, hlow]
        simp only [Bool.and_self, if_true]
        show 3 + (1 + utf8ByteLength (escapeUnits none rest)) ≤ 6 * (3 + (1 + utf8ByteLength rest))
        omega
      · rename_i hlow
        rw [utf8ByteLengthFrom_cons (by simp [hlow])]
        split
        · rename_i hnext
          have hrest := hsome unit hnext
          rw [utf8ByteLength_unicodeEscape high ((startsClosed_escapeUnits rest).2 unit hnext),
            hthree unit (by simp [isSurrogate, hnext]), hnext]
          omega
        · rename_i hnext
          have hfalse : isHighSurrogate unit = false := by simpa using hnext
          have hunit := utf8ByteLength_escapeUnit_le hfalse hclosed
          have hstart : StartsClosed (escapeUnit unit ++ escapeUnits none rest) := by
            have hcons := (startsClosed_escapeUnits (unit :: rest)).1
            rwa [escapeUnits, if_neg hnext, if_neg hlow] at hcons
          rw [List.append_assoc, utf8ByteLength_unicodeEscape high hstart, hfalse, hrestBytes]
          omega

/-- The JSON text of a string takes at most six times its bytes, and the quotes. -/
theorem utf8ByteLength_quoteJson_le (s : JsString) :
    utf8ByteLength (quoteJson s) ≤ 6 * utf8ByteLength s + 2 := by
  have hquote : utf8ByteLength [ascii '"'] = 1 := by decide
  have hclosed : StartsClosed [ascii '"'] := startsClosed_cons (by decide) _
  rw [quoteJson, List.cons_append, utf8ByteLength_cons (by decide)]
  show 1 + utf8ByteLength (escapeUnits none s ++ [ascii '"']) ≤ _
  rw [utf8ByteLength_append hclosed, hquote]
  have hunits := (utf8ByteLength_escapeUnits_le s).1
  omega

end Ariava.Protocol
