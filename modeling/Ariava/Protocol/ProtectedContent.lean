import Mathlib.Algebra.Ring.Nat
import Ariava.Protocol.Sessions

/-!
# `Ariava.Protocol.ProtectedContent`: canonical plaintexts and their size

`buildProtectedSessionContentBytes` and `buildProtectedEventContentBytes` of
`encryption.ts`, up to the UTF-8 encoding of the JSON text they build. The JSON texts are
`JSON.stringify` of objects whose fields are texts, so `jsonText` and `jsonObject` are all
that is needed of it.

`ProtocolText` collects what no code here defines: the digest, the collation, and the
check of a `need_human` error, which rests on Unicode normalisation and on regular
expressions over Unicode classes.
-/

set_option autoImplicit false

namespace Ariava.Protocol

/-- The text functions of the platform. -/
structure ProtocolText where
  hash : ContentHash
  localeCompare : LocaleCompare
  /-- `validateNeedHumanError`. -/
  isNeedHumanError : NeedHumanError → Bool

/-- A hexadecimal digit. -/
def hexDigit (n : Nat) : Char := if n < 10 then Char.ofNat (48 + n) else Char.ofNat (87 + n)

/-- A character inside a JSON text. -/
def jsonCharText (c : Char) : String :=
  if c.toNat = 0x22 then "\\\""
  else if c.toNat = 0x5c then "\\\\"
  else if c.toNat = 0x08 then "\\b"
  else if c.toNat = 0x09 then "\\t"
  else if c.toNat = 0x0a then "\\n"
  else if c.toNat = 0x0c then "\\f"
  else if c.toNat = 0x0d then "\\r"
  else if c.toNat < 0x20 then
    "\\u00" ++ String.ofList [hexDigit (c.toNat / 16), hexDigit (c.toNat % 16)]
  else String.ofList [c]

/-- `JSON.stringify` of a text. -/
def jsonText (s : String) : String :=
  "\"" ++ (s.toList.foldl (fun text c => text ++ jsonCharText c) "") ++ "\""

/-- The members of a JSON object, with commas between them. -/
def jsonMembers : List (String × String) → String
  | [] => ""
  | [member] => jsonText member.1 ++ ":" ++ member.2
  | member :: rest => jsonText member.1 ++ ":" ++ member.2 ++ "," ++ jsonMembers rest

/-- `JSON.stringify` of an object, given its members as JSON. An absent member is left
out. -/
def jsonObject (members : List (String × Option String)) : String :=
  "\x7b" ++ jsonMembers (members.filterMap fun member =>
    member.2.map fun value => (member.1, value)) ++ "\x7d"

/-- `E2E_LIMITS.sessionPlaintextBytes` and `E2E_LIMITS.eventPlaintextBytes`. -/
def contentPlaintextBytes : Nat := 64 * 1024

/-- `new ProtectedContentValidationError(code, message)`. -/
def Thrown.protectedContent (message : String) : Thrown := ⟨.protectedContentValidation, message⟩

/-- An optional text is absent or not empty. -/
def isOptionalNonEmptyString : Option String → Bool
  | none => true
  | some s => isNonEmptyString s

/-- `ProtectedSessionContentV3`. -/
structure ProtectedSessionContentV3 where
  projectName : String
  nameText : String
  openingText : Option String
  latestActivityText : Option String
  workingDirectory : Option String
  harnessProvider : Option String
deriving DecidableEq

/-- `assertProtectedSessionContent`. -/
def isProtectedSessionContent (content : ProtectedSessionContentV3) : Bool :=
  isNonEmptyString content.projectName && isNonEmptyString content.nameText
    && isOptionalNonEmptyString content.openingText
    && isOptionalNonEmptyString content.latestActivityText
    && isOptionalNonEmptyString content.workingDirectory
    && isOptionalNonEmptyString content.harnessProvider

/-- The JSON text of a protected Session content. -/
def protectedSessionJson (content : ProtectedSessionContentV3) : String :=
  jsonObject [("version", some "3"), ("projectName", some (jsonText content.projectName)),
    ("nameText", some (jsonText content.nameText)),
    ("openingText", content.openingText.map jsonText),
    ("latestActivityText", content.latestActivityText.map jsonText),
    ("workingDirectory", content.workingDirectory.map jsonText),
    ("harnessProvider", content.harnessProvider.map jsonText)]

/-- `buildProtectedSessionContentBytes`. -/
def buildProtectedSessionContent (content : ProtectedSessionContentV3) :
    Except Thrown String := do
  throwIf (!isProtectedSessionContent content)
    (.protectedContent "protected session content is invalid")
  let text := protectedSessionJson content
  throwIf (decide (contentPlaintextBytes < text.utf8ByteSize))
    (.protectedContent "protected session content is invalid")
  return text

/-- `ProtectedEventContentV3`. -/
structure ProtectedEventContentV3 where
  agentText : String
  humanText : Option String
  projectName : Option String
  workingDirectory : Option String
  harnessProvider : Option String
  needHuman : Option NeedHumanContext
deriving DecidableEq

/-- The wire text of an error kind. -/
def NeedHumanErrorKind.text : NeedHumanErrorKind → String
  | contextOverflow => "context_overflow"
  | providerFailure => "provider_failure"
  | responseLength => "response_length"
  | incompleteToolUse => "incomplete_tool_use"
  | unknown => "unknown"

/-- The JSON text of `canonicalNeedHumanContext`. -/
def needHumanJson : NeedHumanContext → String
  | .question => jsonObject [("reason", some (jsonText "question"))]
  | .blocked => jsonObject [("reason", some (jsonText "blocked"))]
  | .error error => jsonObject [("reason", some (jsonText "error")),
      ("error", some (jsonObject [("kind", some (jsonText error.kind.text)),
        ("message", some (jsonText error.message)),
        ("providerCode", error.providerCode.map jsonText), ("retryExhausted", some "true")]))]

/-- The `needHuman` check of `validateCanonicalEventInvariant`. The pairing of type, status
and context holds by type. -/
def isNeedHumanContext (text : ProtocolText) : NeedHumanContext → Bool
  | .error error => text.isNeedHumanError error
  | _ => true

/-- The field checks of `assertProtectedEventContent`. -/
def isProtectedEventContent (content : ProtectedEventContentV3) : Bool :=
  isNonEmptyString content.agentText && isOptionalNonEmptyString content.humanText
    && isOptionalNonEmptyString content.projectName
    && isOptionalNonEmptyString content.workingDirectory
    && isOptionalNonEmptyString content.harnessProvider

/-- The JSON text of a protected Event content. -/
def protectedEventJson (content : ProtectedEventContentV3) : String :=
  jsonObject [("version", some "3"), ("agentText", some (jsonText content.agentText)),
    ("humanText", content.humanText.map jsonText),
    ("projectName", content.projectName.map jsonText),
    ("workingDirectory", content.workingDirectory.map jsonText),
    ("harnessProvider", content.harnessProvider.map jsonText),
    ("needHuman", content.needHuman.map needHumanJson)]

/-- `buildProtectedEventContentBytes`. -/
def buildProtectedEventContent (text : ProtocolText) (content : ProtectedEventContentV3) :
    Except Thrown String := do
  throwIf (!isProtectedEventContent content)
    (.protectedContent "protected event content is invalid")
  throwIf (!(content.needHuman.all (isNeedHumanContext text)))
    (.protectedContent "protected needHuman context is invalid")
  let json := protectedEventJson content
  throwIf (decide (contentPlaintextBytes < json.utf8ByteSize))
    (.protectedContent "protected event content is invalid")
  return json

/-! ### Sizes -/

theorem utf8ByteSize_foldl_append (f : Char → String) (cs : List Char) (start : String) :
    (cs.foldl (fun text c => text ++ f c) start).utf8ByteSize
      = start.utf8ByteSize + (cs.map fun c => (f c).utf8ByteSize).sum := by
  induction cs generalizing start with
  | nil => rfl
  | cons c rest ih =>
    rw [List.foldl_cons, ih, String.utf8ByteSize_append, List.map_cons, List.sum_cons]
    omega

/-- The size of a JSON text is that of its characters and two quotes. -/
theorem utf8ByteSize_jsonText (s : String) :
    (jsonText s).utf8ByteSize = 2 + (s.toList.map fun c => (jsonCharText c).utf8ByteSize).sum := by
  have hquote : ("\"" : String).utf8ByteSize = 1 := by decide
  have hempty : ("" : String).utf8ByteSize = 0 := by decide
  rw [jsonText, String.utf8ByteSize_append, String.utf8ByteSize_append,
    utf8ByteSize_foldl_append, hquote, hempty]
  omega

/-- A Session content is built when its fields are valid and its size is within the limit. -/
theorem buildProtectedSessionContent_ok_iff {content : ProtectedSessionContentV3} :
    (∃ json, buildProtectedSessionContent content = .ok json) ↔
      isProtectedSessionContent content = true ∧
        (protectedSessionJson content).utf8ByteSize ≤ contentPlaintextBytes := by
  unfold buildProtectedSessionContent
  simp only [check_bind_eq_ok, throwIf_eq_ok, Bool.not_eq_false', decide_eq_false_iff_not,
    not_lt, exists_and_left]
  exact ⟨fun h => ⟨h.1, h.2.1⟩, fun h => ⟨h.1, h.2, _, rfl⟩⟩

/-- An event content is built when its fields and its context are valid and its size is within
the limit. -/
theorem buildProtectedEventContent_ok_iff {text : ProtocolText}
    {content : ProtectedEventContentV3} :
    (∃ json, buildProtectedEventContent text content = .ok json) ↔
      isProtectedEventContent content = true ∧
        content.needHuman.all (isNeedHumanContext text) = true ∧
          (protectedEventJson content).utf8ByteSize ≤ contentPlaintextBytes := by
  unfold buildProtectedEventContent
  simp only [check_bind_eq_ok, throwIf_eq_ok, Bool.not_eq_false', decide_eq_false_iff_not,
    not_lt, exists_and_left]
  exact ⟨fun h => ⟨h.1, h.2.1, h.2.2.1⟩, fun h => ⟨h.1, h.2.1, h.2.2, _, rfl⟩⟩

end Ariava.Protocol
