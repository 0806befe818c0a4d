import Mathlib.Data.List.Basic
import Ariava.Protocol.JsonValue
import Ariava.Protocol.Thrown

/-!
# `Ariava.Protocol.RequestSigning`: canonical requests

The checks of `request-signing.ts` on what a client signs. A path and a query are in a restricted
ASCII: every segment, name and value is a nonempty word of letters, digits, `-`, `_` and `~`.
Every check throws a `RequestCanonicalizationError`, which is a `TypeError`.

`canonicalizePath_segments` states when a path that is built from segments of that alphabet
passes: every segment has at most 255 characters, and the path at most 1024.

SHA-256 and the signature are not modelled: `contentSha256` takes the digest as an argument.
-/

set_option autoImplicit false

namespace Ariava.Protocol

/-! ### `SIGNED_REQUEST_LIMITS` -/

/-- `SIGNED_REQUEST_LIMITS.methodCharacters`. -/
def methodCharacters : Nat := 7

/-- `SIGNED_REQUEST_LIMITS.pathSegmentCharacters`. -/
def pathSegmentCharacters : Nat := 255

/-- `SIGNED_REQUEST_LIMITS.canonicalPathCharacters`. -/
def canonicalPathCharacters : Nat := 1024

/-- `SIGNED_REQUEST_LIMITS.queryCharacters`. -/
def queryCharacters : Nat := 2048

/-- `SIGNED_REQUEST_LIMITS.queryPairs`. -/
def queryPairs : Nat := 64

/-- `SIGNED_REQUEST_LIMITS.queryNameCharacters`. -/
def queryNameCharacters : Nat := 256

/-- `SIGNED_REQUEST_LIMITS.queryValueCharacters`. -/
def queryValueCharacters : Nat := 256

/-- `SIGNED_REQUEST_LIMITS.targetCharacters`. -/
def targetCharacters : Nat := 3073

/-- `SIGNED_REQUEST_LIMITS.bodyBytes`. -/
def bodyBytes : Nat := 1048576

/-! ### Characters -/

/-- The code unit of an ASCII character. -/
def ascii (c : Char) : UInt16 := c.val.toUInt16

/-- A character of `DYNAMIC_VALUE_RE`. -/
def isDynamicUnit (unit : UInt16) : Bool :=
  (decide (ascii 'A' ≤ unit) && decide (unit ≤ ascii 'Z'))
    || (decide (ascii 'a' ≤ unit) && decide (unit ≤ ascii 'z'))
    || (decide (ascii '0' ≤ unit) && decide (unit ≤ ascii '9'))
    || decide (unit = ascii '_') || decide (unit = ascii '~') || decide (unit = ascii '-')

/-- `DYNAMIC_VALUE_RE.test(value)`. -/
def isDynamicValue (value : JsString) : Bool := !value.isEmpty && value.all isDynamicUnit

/-- `isRestrictedDynamicValue`. -/
def isRestrictedDynamicValue (value : JsString) : Bool :=
  decide (0 < value.length) && isDynamicValue value && decide (value ≠ jsString ".")
    && decide (value ≠ jsString "..")

/-- `assertRestrictedDynamicValue`. -/
def assertRestrictedDynamicValue (value : JsString) (label : String) : Except Thrown Unit :=
  throwIf (!isRestrictedDynamicValue value) (.typeError (label
    ++ " must use unreserved ASCII without '.', '..', percent encoding, controls, or free text"))

/-- A printable ASCII character. -/
def isPrintableAscii (unit : UInt16) : Bool := decide (0x20 ≤ unit) && decide (unit ≤ 0x7e)

/-- `assertAscii`. The loop goes over code points; one outside the basic plane starts with a
surrogate, which is no ASCII character either. -/
def assertAscii (value : JsString) (label : String) : Except Thrown Unit :=
  throwIf (!value.all isPrintableAscii)
    (.typeError (label ++ " must contain printable ASCII only"))

/-! ### Paths -/

/-- `path.includes('//')`. -/
def hasDoubleSlash : JsString → Bool
  | first :: second :: rest =>
      (decide (first = ascii '/') && decide (second = ascii '/'))
        || hasDoubleSlash (second :: rest)
  | _ => false

/-- The checks on one segment of a path. -/
def checkPathSegment (segment : JsString) : Except Thrown Unit := do
  throwIf (decide (segment = jsString ".") || decide (segment = jsString ".."))
    (.typeError "dot path segments are unsupported")
  throwIf (decide (pathSegmentCharacters < segment.length))
    (.typeError "path segment exceeds the limit")
  throwIf (!isDynamicValue segment)
    (.typeError "path segments must use restricted unreserved ASCII")

/-- The segments of a path. -/
def pathSegments (path : JsString) : List JsString :=
  if path = jsString "/" then [] else path.tail.splitOn (ascii '/')

/-- `canonicalizePath`. -/
def canonicalizePath (path : JsString) : Except Thrown JsString := do
  assertAscii path "path"
  throwIf (decide (path.head? ≠ some (ascii '/')) || decide (ascii '?' ∈ path)
      || decide (ascii '#' ∈ path))
    (.typeError "path must be an absolute Worker-visible pathname")
  throwIf (decide (ascii '%' ∈ path)) (.typeError "percent-encoded path values are unsupported")
  throwIf (decide (canonicalPathCharacters < path.length))
    (.typeError "path exceeds the canonical path limit")
  throwIf (decide (path ≠ jsString "/")
      && (decide (path.getLast? = some (ascii '/')) || hasDoubleSlash path))
    (.typeError "repeated or trailing empty path segments are unsupported")
  checkAll (pathSegments path) checkPathSegment
  return path

/-! ### Queries -/

/-- `QueryPair`. -/
structure QueryPair where
  name : JsString
  value : JsString
deriving DecidableEq

/-- A query as a caller gives it: a string or its pairs. -/
inductive RequestQuery
  | text (query : JsString)
  | pairs (items : List QueryPair)

/-- `QuerySchema`: the validator of each supported name. -/
abbrev QuerySchema : Type := JsString → Option (JsString → Bool)

/-- The pair of one `name=value` form. -/
def parseQueryPair (pair : JsString) : Except Thrown QueryPair := do
  -- No `=`, one at the start, or several.
  throwIf (pair.isEmpty || decide (pair.head? = some (ascii '='))
      || decide (pair.count (ascii '=') ≠ 1))
    (.typeError "query pairs must use exactly one name=value form")
  let value := (pair.dropWhile fun unit => decide (unit ≠ ascii '=')).tail
  throwIf value.isEmpty (.typeError "empty query values are unsupported")
  return ⟨pair.takeWhile fun unit => decide (unit ≠ ascii '='), value⟩

/-- `parseQuery`. -/
def parseQuery (query : JsString) : Except Thrown (List QueryPair) := do
  let value := if query.head? = some (ascii '?') then query.tail else query
  assertAscii value "query"
  if value.isEmpty then return []
  throwIf (decide (ascii '%' ∈ value) || decide (ascii '+' ∈ value) || decide (ascii ';' ∈ value)
      || decide (ascii '#' ∈ value))
    (.typeError "query percent encoding, plus, semicolon, and fragment forms are unsupported")
  (value.splitOn (ascii '&')).mapM parseQueryPair

/-- The checks on one pair of a query, after these names. -/
def checkQueryPair (schema : QuerySchema) (seen : List JsString) (pair : QueryPair) :
    Except Thrown Unit := do
  assertRestrictedDynamicValue pair.name "query name"
  assertRestrictedDynamicValue pair.value "query value"
  match schema pair.name with
  | none => .error (.typeError
      ("query name " ++ displayText pair.name ++ " is unsupported for this route"))
  | some validator =>
      throwIf (!validator pair.value) (.typeError
        ("query value for " ++ displayText pair.name ++ " is invalid for this route"))
      throwIf (decide (queryNameCharacters < pair.name.length)
          || decide (queryValueCharacters < pair.value.length))
        (.typeError "query name or value exceeds the limit")
      throwIf (decide (pair.name ∈ seen)) (.typeError "duplicate query names are unsupported")

/-- The checks on the pairs of a query, one after another. -/
def checkQueryPairs (schema : QuerySchema) : List JsString → List QueryPair → Except Thrown Unit
  | _, [] => .ok ()
  | seen, pair :: rest => do
      checkQueryPair schema seen pair
      checkQueryPairs schema (pair.name :: seen) rest

/-- The order of the pairs in a canonical query. -/
def compareQueryPairs (left right : QueryPair) : Ordering :=
  (compare left.name right.name).then (compare left.value right.value)

/-- `canonicalizeQuery`, on pairs. -/
def canonicalizeQueryPairs (pairs : List QueryPair) (schema : QuerySchema) :
    Except Thrown JsString := do
  throwIf (decide (queryPairs < pairs.length)) (.typeError "query has too many pairs")
  checkQueryPairs schema [] pairs
  let canonical := pairs.mergeSort fun left right => (compareQueryPairs left right).isLE
  let result := List.intercalate (jsString "&")
    (canonical.map fun pair => pair.name ++ ascii '=' :: pair.value)
  throwIf (decide (queryCharacters < result.length))
    (.typeError "query exceeds the canonical query limit")
  return result

/-- The pairs of a query. -/
def RequestQuery.toPairs : RequestQuery → Except Thrown (List QueryPair)
  | .text query => parseQuery query
  | .pairs items => .ok items

/-- `canonicalizeQuery`. -/
def canonicalizeQuery (query : RequestQuery) (schema : QuerySchema) : Except Thrown JsString := do
  canonicalizeQueryPairs (← query.toPairs) schema

/-! ### Requests -/

/-- `buildRequestTarget`, with the query as pairs. -/
def buildRequestTarget (path : JsString) (query : List QueryPair) (schema : QuerySchema) :
    Except Thrown JsString := do
  let canonicalPath ← canonicalizePath path
  let canonicalQuery ← canonicalizeQueryPairs query schema
  let target := if canonicalQuery.isEmpty then canonicalPath
    else canonicalPath ++ ascii '?' :: canonicalQuery
  throwIf (decide (targetCharacters < target.length))
    (.typeError "request target exceeds the limit")
  return target

/-- `CanonicalRequestInput`. -/
structure CanonicalRequestInput where
  entityType : JsString
  entityId : JsString
  keyId : JsString
  method : JsString
  path : JsString
  query : RequestQuery
  querySchema : QuerySchema
  contentSha256 : JsString
  timestamp : JsString
  nonce : JsString

/-- `CanonicalRequest`, without the bytes of its text. -/
structure CanonicalRequest where
  method : JsString
  path : JsString
  query : JsString
  text : JsString
deriving DecidableEq

/-- `METHOD_RE.test(method)`. A method of capital letters is its own upper case. -/
def isMethod (method : JsString) : Bool :=
  !method.isEmpty && method.all fun unit =>
    decide (ascii 'A' ≤ unit) && decide (unit ≤ ascii 'Z')

/-- `buildCanonicalRequest`. -/
def buildCanonicalRequest (input : CanonicalRequestInput) : Except Thrown CanonicalRequest := do
  throwIf (!isMethod input.method || decide (methodCharacters < input.method.length))
    (.typeError "method must be uppercase ASCII within the method limit")
  let path ← canonicalizePath input.path
  let query ← canonicalizeQuery input.query input.querySchema
  let text := List.intercalate (jsString "\n")
    [jsString "ariava-request-v1", input.entityType, input.entityId, input.keyId, input.method,
      path, query, input.contentSha256, input.timestamp, input.nonce]
  return ⟨input.method, path, query, text⟩

/-- `contentSha256` of a text, with the digest of a text. -/
def contentSha256 (digest : JsString → JsString) (body : JsString) : Except Thrown JsString := do
  throwIf (decide (bodyBytes < utf8ByteLength body))
    (.typeError "signed body exceeds the global limit")
  return digest body

/-- A text has a digest when it is within the limit. -/
theorem contentSha256_ok_iff {digest : JsString → JsString} {body hash : JsString} :
    contentSha256 digest body = .ok hash ↔
      hash = digest body ∧ utf8ByteLength body ≤ bodyBytes := by
  rw [contentSha256, check_bind_eq_ok, throwIf_eq_ok]
  simp [pure, Except.pure, eq_comm, and_comm]

/-! ### A path of restricted segments -/

/-- The path of these segments. -/
def pathOf (segments : List JsString) : JsString :=
  ascii '/' :: List.intercalate [ascii '/'] segments

section
variable {value : JsString} {segments : List JsString}

/-- The alphabet of a segment is printable, and none of the marks of a path is in it. -/
theorem isDynamicUnit_cases {unit : UInt16} (h : isDynamicUnit unit = true) :
    isPrintableAscii unit = true ∧ unit ≠ ascii '/' ∧ unit ≠ ascii '?' ∧ unit ≠ ascii '#' ∧
      unit ≠ ascii '%' ∧ unit ≠ ascii '.' := by
  simp only [isDynamicUnit, isPrintableAscii, ascii, Bool.or_eq_true, Bool.and_eq_true,
    decide_eq_true_eq, ne_eq, UInt16.le_iff_toNat_le, ← UInt16.toNat_inj] at h ⊢
  simp only [UInt32.toNat_toUInt16, Char.reduceVal, UInt32.reduceToNat, UInt16.reduceToNat,
    Nat.reducePow, Nat.reduceMod] at h ⊢
  omega

theorem isDynamicValue_iff :
    isDynamicValue value = true ↔ value ≠ [] ∧ ∀ unit ∈ value, isDynamicUnit unit = true := by
  simp [isDynamicValue, List.all_eq_true]

/-- A word of the alphabet is no dot segment. -/
theorem isRestrictedDynamicValue_iff :
    isRestrictedDynamicValue value = true ↔ isDynamicValue value = true := by
  constructor
  · intro h
    simp only [isRestrictedDynamicValue, Bool.and_eq_true] at h
    exact h.1.1.2
  · intro h
    have hdots : ∀ dots : JsString, ascii '.' ∈ dots → value ≠ dots := by
      rintro dots hdot rfl
      exact (isDynamicUnit_cases ((isDynamicValue_iff.mp h).2 _ hdot)).2.2.2.2.2 rfl
    have hpos : 0 < value.length := List.length_pos_iff.mpr (isDynamicValue_iff.mp h).1
    have hone : value ≠ jsString "." := hdots _ (by decide)
    have htwo : value ≠ jsString ".." := hdots _ (by decide)
    simp [isRestrictedDynamicValue, h, hpos, hone, htwo]

theorem checkPathSegment_iff (h : isDynamicValue value = true) :
    checkPathSegment value = .ok () ↔ value.length ≤ pathSegmentCharacters := by
  have hrestricted := isRestrictedDynamicValue_iff.mpr h
  simp only [isRestrictedDynamicValue, Bool.and_eq_true, decide_eq_true_eq] at hrestricted
  simp [checkPathSegment, check_bind_eq_ok, h, hrestricted.1.2, hrestricted.2]

/-- Every character of a path of words is a slash or in the alphabet. -/
theorem mem_pathOf (h : ∀ segment ∈ segments, isDynamicValue segment = true) {unit : UInt16}
    (hunit : unit ∈ pathOf segments) : unit = ascii '/' ∨ isDynamicUnit unit = true := by
  rcases List.mem_cons.mp hunit with rfl | hunit
  · exact .inl rfl
  · induction segments with
    | nil => cases hunit
    | cons segment rest ih =>
      have hsegment := (isDynamicValue_iff.mp (h segment List.mem_cons_self)).2
      cases rest with
      | nil =>
        rw [List.intercalate_singleton] at hunit
        exact .inr (hsegment unit hunit)
      | cons next rest =>
        rw [List.intercalate_cons_cons, List.mem_append, List.mem_append,
          List.mem_singleton] at hunit
        rcases hunit with (hunit | rfl) | hunit
        · exact .inr (hsegment unit hunit)
        · exact .inl rfl
        · exact ih (fun other hother => h other (List.mem_cons_of_mem _ hother))
            (List.mem_cons_of_mem _ hunit) hunit

theorem assertAscii_pathOf (h : ∀ segment ∈ segments, isDynamicValue segment = true)
    (label : String) : assertAscii (pathOf segments) label = .ok () := by
  rw [assertAscii, throwIf_eq_ok, Bool.not_eq_false', List.all_eq_true]
  intro unit hunit
  rcases mem_pathOf h hunit with rfl | hunit
  · decide
  · exact (isDynamicUnit_cases hunit).1

/-- A mark that is neither a slash nor in the alphabet is not in a path of words. -/
theorem not_mem_pathOf (h : ∀ segment ∈ segments, isDynamicValue segment = true) (mark : UInt16)
    (hslash : mark ≠ ascii '/') (hmark : isDynamicUnit mark = false) : mark ∉ pathOf segments := by
  intro hmem
  rcases mem_pathOf h hmem with heq | hunit
  · exact hslash heq
  · rw [hmark] at hunit
    cases hunit

/-- A word in front of a path leaves its repeated slashes. -/
theorem hasDoubleSlash_append (h : ∀ unit ∈ value, isDynamicUnit unit = true) (rest : JsString) :
    hasDoubleSlash (value ++ rest) = hasDoubleSlash rest := by
  induction value with
  | nil => rfl
  | cons unit value ih =>
    have hunit := (isDynamicUnit_cases (h unit List.mem_cons_self)).2.1
    have htail := ih fun other hother => h other (List.mem_cons_of_mem _ hother)
    cases hcase : value ++ rest with
    | nil => simp_all [hasDoubleSlash]
    | cons next tail =>
      rw [List.cons_append, hcase, hasDoubleSlash, ← hcase, htail]
      simp [hunit]

/-- No segment is empty, so no slash follows another one, and none is at the end. -/
theorem pathOf_noEmptySegment (h : ∀ segment ∈ segments, isDynamicValue segment = true)
    (hne : segments ≠ []) :
    hasDoubleSlash (pathOf segments) = false ∧ (pathOf segments).getLast? ≠ some (ascii '/') := by
  induction segments with
  | nil => exact absurd rfl hne
  | cons segment rest ih =>
    obtain ⟨hsegment, hunits⟩ := isDynamicValue_iff.mp (h segment List.mem_cons_self)
    obtain ⟨unit, word, rfl⟩ := List.exists_cons_of_ne_nil hsegment
    have hunit := (isDynamicUnit_cases (hunits unit List.mem_cons_self)).2.1
    -- The first slash stands before a word; the rest is a shorter path.
    have hfirst : ∀ tail, hasDoubleSlash (ascii '/' :: (unit :: word) ++ tail)
        = hasDoubleSlash tail := by
      intro tail
      rw [List.cons_append, List.cons_append, hasDoubleSlash, ← List.cons_append,
        hasDoubleSlash_append hunits]
      simp [hunit]
    cases rest with
    | nil =>
      have hlast : (ascii '/' :: unit :: word).getLast? ≠ some (ascii '/') := by
        intro heq
        rw [List.getLast?_cons_cons] at heq
        exact (isDynamicUnit_cases (hunits _ (List.mem_of_getLast? heq))).2.1 rfl
      rw [pathOf, List.intercalate_singleton]
      refine ⟨?_, hlast⟩
      have hnil := hfirst []
      rwa [List.append_nil] at hnil
    | cons next rest =>
      have hrest := ih (fun other hother => h other (List.mem_cons_of_mem _ hother)) (by simp)
      have hsplit : pathOf ((unit :: word) :: next :: rest)
          = ascii '/' :: (unit :: word) ++ pathOf (next :: rest) := by
        rw [pathOf, List.intercalate_cons_cons, pathOf]
        simp
      rw [hsplit, hfirst]
      refine ⟨hrest.1, ?_⟩
      rw [List.getLast?_append, pathOf, List.getLast?_cons]
      rw [pathOf, List.getLast?_cons] at hrest
      simpa using hrest.2

theorem pathSegments_pathOf (h : ∀ segment ∈ segments, isDynamicValue segment = true)
    (hne : segments ≠ []) : pathSegments (pathOf segments) = segments := by
  have hslash : ∀ segment ∈ segments, ascii '/' ∉ segment := by
    intro segment hsegment hmem
    have hunits := (isDynamicValue_iff.mp (h segment hsegment)).2
    exact (isDynamicUnit_cases (hunits _ hmem)).2.1 rfl
  have hroot : pathOf segments ≠ jsString "/" := by
    intro heq
    exact (pathOf_noEmptySegment h hne).2 (by rw [heq]; decide)
  rw [pathSegments, if_neg hroot, pathOf, List.tail_cons, List.splitOn_intercalate _ hslash hne]

/-- A path of words passes when its segments and the whole of it are short enough. -/
theorem canonicalizePath_segments (h : ∀ segment ∈ segments, isDynamicValue segment = true)
    (hne : segments ≠ []) {path : JsString} :
    canonicalizePath (pathOf segments) = .ok path ↔
      path = pathOf segments ∧ (pathOf segments).length ≤ canonicalPathCharacters ∧
        ∀ segment ∈ segments, segment.length ≤ pathSegmentCharacters := by
  have hshape := pathOf_noEmptySegment h hne
  have hquestion := not_mem_pathOf h (ascii '?') (by decide) (by decide)
  have hhash := not_mem_pathOf h (ascii '#') (by decide) (by decide)
  have hpercent := not_mem_pathOf h (ascii '%') (by decide) (by decide)
  have hhead : (pathOf segments).head? = some (ascii '/') := rfl
  have hall : (∀ segment ∈ segments, checkPathSegment segment = .ok ()) ↔
      ∀ segment ∈ segments, segment.length ≤ pathSegmentCharacters :=
    forall₂_congr fun segment hsegment => checkPathSegment_iff (h segment hsegment)
  rw [canonicalizePath]
  simp only [check_bind_eq_ok, assertAscii_pathOf h, throwIf_eq_ok, checkAll_eq_ok,
    pathSegments_pathOf h hne, hall, hhead, hquestion, hhash, hpercent, hshape.1, hshape.2,
    pure, Except.pure, Except.ok.injEq]
  simp [eq_comm, and_left_comm, and_comm]

end

end Ariava.Protocol
