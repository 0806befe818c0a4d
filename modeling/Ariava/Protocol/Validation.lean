import Mathlib.Data.List.Basic
import Ariava.Protocol.Timestamp

/-!
# `Ariava.Protocol.Validation`: the scalar checks of the wire and state schemas

A JavaScript text is a `String` here. Texts with lone surrogates do not exist in this
model, so the well-formedness half of `isIdentifier` holds by type. A number field that the
schemas require to be an integer is a `Nat`; the safe-integer bound stays a check.

`BindingField` is one field of a length-prefixed encoding. The encoding is injective on
field lists, so a digest of encoded bytes is modelled as a digest of the field list.
`ContentHash` is that digest, a parameter: SHA-256 is not code of the repository.
-/

set_option autoImplicit false

namespace Ariava.Protocol

/-- `Number.MAX_SAFE_INTEGER`. -/
def maxSafeInteger : Nat := 9007199254740991

/-- `COMMAND_IDENTIFIER_BYTES` and the equal E2E identifier limits. -/
def identifierBytes : Nat := 256

/-- `isNonEmptyString`. -/
def isNonEmptyString (s : String) : Bool := decide (s ≠ "")

/-- `isIdentifier` and `isBoundedWellFormedString` at the identifier limit. -/
def isIdentifier (s : String) : Bool := isNonEmptyString s && decide (s.utf8ByteSize ≤ identifierBytes)

/-- `isPositiveInteger` and `isPositiveSafeInteger`. -/
def isPositiveSafeInteger (n : Nat) : Bool := decide (0 < n) && decide (n ≤ maxSafeInteger)

/-- `isNonNegativeSafeInteger`. -/
def isNonNegativeSafeInteger (n : Nat) : Bool := decide (n ≤ maxSafeInteger)

/-- A character of the base64url alphabet. -/
def isBase64UrlChar (c : Char) : Bool := c.isAlphanum || c == '_' || c == '-'

/-- `isVerifier`: 43 characters of base64url. -/
def isVerifier (s : String) : Bool :=
  decide (s.toList.length = 43) && s.toList.all isBase64UrlChar

/-- The characters that end the base64url text of 32 bytes: the two bits that are left over are
zero. -/
def isLastDigestChar (c : Char) : Bool := "AEIMQUYcgkosw048".toList.contains c

/-- `isCanonicalDigest` and `isDigest`: the canonical base64url text of 32 bytes. -/
def isCanonicalDigest (s : String) : Bool :=
  isVerifier s && s.toList.getLast?.any isLastDigestChar

/-- The shape of the entries of `ID_PATTERNS`: a tag and 43 characters of base64url. -/
def matchesIdPattern (tag s : String) : Bool :=
  tag.toList.isPrefixOf s.toList && decide (s.toList.length = tag.toList.length + 43)
    && (s.toList.drop tag.toList.length).all isBase64UrlChar

/-- `ID_PATTERNS.encryptionKey`. -/
def isEncryptionKeyId (s : String) : Bool := matchesIdPattern "ekey_" s

/-- `ID_PATTERNS.host`. -/
def isHostId (s : String) : Bool := matchesIdPattern "host_" s

/-- `ID_PATTERNS.watch`. -/
def isWatchId (s : String) : Bool := matchesIdPattern "watch_" s

/-- `ID_PATTERNS.identityKey`. -/
def isIdentityKeyId (s : String) : Bool := matchesIdPattern "key_" s

theorem isPositiveSafeInteger_iff {n : Nat} :
    isPositiveSafeInteger n = true ↔ 0 < n ∧ n ≤ maxSafeInteger := by
  simp [isPositiveSafeInteger]

theorem isNonEmptyString_iff {s : String} : isNonEmptyString s = true ↔ s ≠ "" := by
  simp [isNonEmptyString]

theorem isIdentifier_nonEmpty {s : String} (h : isIdentifier s = true) :
    isNonEmptyString s = true := by
  rw [isIdentifier, Bool.and_eq_true] at h
  exact h.1

theorem utf8ByteSize_ofList_le (cs : List Char) :
    (String.ofList cs).utf8ByteSize ≤ 4 * cs.length := by
  induction cs with
  | nil => decide
  | cons c rest ih =>
    have hsize := c.utf8Size_le_four
    have hsplit : String.ofList (c :: rest) = String.singleton c ++ String.ofList rest := by
      rw [← String.toList_inj]
      simp
    rw [hsplit, String.utf8ByteSize_append, String.utf8ByteSize_singleton, List.length_cons]
    omega

/-- A key id is short enough for an identifier. -/
theorem isIdentifier_of_isEncryptionKeyId {s : String} (h : isEncryptionKeyId s = true) :
    isIdentifier s = true := by
  simp only [isEncryptionKeyId, matchesIdPattern, Bool.and_eq_true, decide_eq_true_eq] at h
  obtain ⟨⟨-, hlength⟩, -⟩ := h
  have htag : "ekey_".toList.length = 5 := by decide
  have hsize := utf8ByteSize_ofList_le s.toList
  rw [String.ofList_toList] at hsize
  rw [isIdentifier, Bool.and_eq_true, isNonEmptyString_iff, decide_eq_true_eq]
  constructor
  · rintro rfl
    exact absurd hlength (by decide)
  · show s.utf8ByteSize ≤ 256
    omega

/-- One field of `encodeLengthPrefixedFields`. A base64url field is given by its bytes. -/
inductive BindingField
  | text (s : String)
  | number (n : Nat)
  | instant (t : CanonicalTimestamp)
  | bytes (b : List UInt8)
deriving DecidableEq

/-- `contentSha256` over `encodeLengthPrefixedFields`, as the base64url text of 32 bytes. -/
structure ContentHash where
  digest : List BindingField → String
  isCanonicalDigest_digest : ∀ fields, isCanonicalDigest (digest fields) = true

theorem isVerifier_of_isCanonicalDigest {s : String} (h : isCanonicalDigest s = true) :
    isVerifier s = true := by
  rw [isCanonicalDigest, Bool.and_eq_true] at h
  exact h.1

end Ariava.Protocol
