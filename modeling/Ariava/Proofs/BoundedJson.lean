import Ariava.Protocol.JsonBytes

/-!
# `Ariava.Proofs.BoundedJson`: the count is the size of the text

`jsonBytesWithin` answers as if it had written the value with `JSON.stringify` and encoded the text
in UTF-8. A walk that ends counts exactly the bytes of the text (`walk_counts`), and the walk of a
well-formed value whose text fits does end (`walk_of_fits`). The count only grows, so a walk that
stops above the bound is right.

A number that is infinite is no number of JSON, though a text with a long exponent is parsed to
one. `JSON.stringify` writes it as `null`, and the walk refuses it.
-/

set_option autoImplicit false

namespace Ariava.Proofs.BoundedJson

open Ariava.Protocol

/-! ### What is in a value -/

mutual

/-- Every string and key, and every number, passes its test. -/
def holdsThroughout (text : JsString → Bool) (number : JsonNumber → Bool) : JsonValue → Bool
  | .null => true
  | .bool _ => true
  | .number value => number value
  | .string value => text value
  | .array elements => holdsInElements text number elements
  | .object properties => holdsInProperties text number properties

/-- Every element passes. -/
def holdsInElements (text : JsString → Bool) (number : JsonNumber → Bool) : List JsonValue → Bool
  | [] => true
  | element :: rest => holdsThroughout text number element && holdsInElements text number rest

/-- Every key and value passes. -/
def holdsInProperties (text : JsString → Bool) (number : JsonNumber → Bool) :
    List (JsString × JsonValue) → Bool
  | [] => true
  | (key, value) :: rest =>
      text key && holdsThroughout text number value && holdsInProperties text number rest

end

/-- `Number.isFinite`. -/
def isFiniteNumber : JsonNumber → Bool
  | .finite _ => true
  | .infinite _ => false

/-- Every string and key in the value is well-formed Unicode. -/
def isWellFormedThroughout (value : JsonValue) : Bool :=
  holdsThroughout isWellFormedUnicode (fun _ => true) value

/-- Every number in the value is a number of JSON. -/
def isFiniteThroughout (value : JsonValue) : Bool :=
  holdsThroughout (fun _ => true) isFiniteNumber value

/-- What a walk checks. -/
def isCountable (value : JsonValue) : Bool :=
  holdsThroughout isWellFormedUnicode isFiniteNumber value

/-- The text of a value in bytes. -/
def jsonBytes (value : JsonValue) : Nat := utf8ByteLength (stringify value)

mutual

theorem isCountable_eq : ∀ value : JsonValue,
    isCountable value = (isWellFormedThroughout value && isFiniteThroughout value)
  | .null => rfl
  | .bool _ => rfl
  | .number _ => (Bool.true_and _).symm
  | .string _ => (Bool.and_true _).symm
  | .array elements => isCountable_elements elements
  | .object properties => isCountable_properties properties

theorem isCountable_elements : ∀ elements : List JsonValue,
    holdsInElements isWellFormedUnicode isFiniteNumber elements
      = (holdsInElements isWellFormedUnicode (fun _ => true) elements
        && holdsInElements (fun _ => true) isFiniteNumber elements)
  | [] => rfl
  | element :: rest => by
      have helement := isCountable_eq element
      simp only [isCountable, isWellFormedThroughout, isFiniteThroughout] at helement
      simp only [holdsInElements, helement, isCountable_elements rest]
      ac_rfl

theorem isCountable_properties : ∀ properties : List (JsString × JsonValue),
    holdsInProperties isWellFormedUnicode isFiniteNumber properties
      = (holdsInProperties isWellFormedUnicode (fun _ => true) properties
        && holdsInProperties (fun _ => true) isFiniteNumber properties)
  | [] => rfl
  | (key, value) :: rest => by
      have hvalue := isCountable_eq value
      simp only [isCountable, isWellFormedThroughout, isFiniteThroughout] at hvalue
      simp only [holdsInProperties, hvalue, isCountable_properties rest, Bool.true_and]
      ac_rfl

end

/-! ### The bytes of lists -/

/-- The bytes of texts, with a comma in front of each but the first. -/
def separatedBytes (first : Bool) : List JsString → Nat
  | [] => 0
  | text :: rest => (if first then 0 else 1) + utf8ByteLength text + separatedBytes false rest

theorem startsClosed_jsString (text : String) : StartsClosed (jsString text) := by
  rw [jsString]
  cases text.toList with
  | nil =>
    intro _ h
    cases h
  | cons c rest =>
    rw [List.flatMap_cons]
    rcases utf16Units_cases c with ⟨unit, heq, -, -, -, hlow⟩ | ⟨high, low, heq, -, -, hlow, -⟩
    · rw [heq]
      exact startsClosed_cons hlow _
    · rw [heq]
      exact startsClosed_cons hlow _

theorem startsClosed_stringify (value : JsonValue) : StartsClosed (stringify value) := by
  cases value with
  | null => exact startsClosed_jsString _
  | bool value => exact startsClosed_jsString _
  | number value => cases value <;> exact startsClosed_jsString _
  | string value => exact startsClosed_cons (by decide) _
  | array elements => exact startsClosed_cons (by decide) _
  | object properties => exact startsClosed_cons (by decide) _

theorem startsClosed_elements (elements : List JsonValue) :
    ∀ text ∈ stringifyElements elements, StartsClosed text := by
  induction elements with
  | nil =>
    intro _ h
    cases h
  | cons element rest ih =>
    rw [stringifyElements, List.forall_mem_cons]
    exact ⟨startsClosed_stringify element, ih⟩

theorem startsClosed_properties (properties : List (JsString × JsonValue)) :
    ∀ text ∈ stringifyProperties properties, StartsClosed text := by
  induction properties with
  | nil =>
    intro _ h
    cases h
  | cons property rest ih =>
    rw [stringifyProperties, List.forall_mem_cons]
    exact ⟨startsClosed_cons (by decide) _, ih⟩

/-- The bytes behind the first text: a comma and a text for each other one. -/
theorem utf8ByteLength_intercalate_cons {text : JsString} {rest : List JsString}
    (h : ∀ other ∈ rest, StartsClosed other) :
    utf8ByteLength (List.intercalate [ascii ','] (text :: rest))
      = utf8ByteLength text + separatedBytes false rest := by
  induction rest generalizing text with
  | nil => simp [separatedBytes]
  | cons next rest ih =>
    rw [List.forall_mem_cons] at h
    have hnext : StartsClosed (List.intercalate [ascii ','] (next :: rest)) := by
      intro unit hunit
      cases next with
      | nil =>
        -- An empty text leaves the next comma in front.
        cases rest with
        | nil => cases hunit
        | cons other rest =>
          rw [List.intercalate_cons_cons] at hunit
          cases hunit
          decide
      | cons first next =>
        have hhead : (List.intercalate [ascii ','] ((first :: next) :: rest)).head?
            = some first := by
          cases rest <;> simp [List.intercalate_cons_cons]
        rw [hhead] at hunit
        exact h.1 unit hunit
    have hcomma : StartsClosed (ascii ',' :: List.intercalate [ascii ','] (next :: rest)) :=
      startsClosed_cons (by decide) _
    rw [List.intercalate_cons_cons, List.append_assoc, List.singleton_append,
      utf8ByteLength_append hcomma, utf8ByteLength_cons (by decide),
      utf8ByteLengthFrom_of_startsClosed hnext, ih h.2]
    simp only [separatedBytes, Bool.false_eq_true, if_false]
    omega

/-- The bytes of texts between brackets. -/
theorem utf8ByteLength_bracketed {opening closing : UInt16} (hopening : opening < 0x80)
    (hclosing : closing < 0x80) {texts : List JsString} (h : ∀ text ∈ texts, StartsClosed text) :
    utf8ByteLength (opening :: List.intercalate [ascii ','] texts ++ [closing])
      = separatedBytes true texts + 2 := by
  have hlow : isLowSurrogate closing = false := by
    simp only [isLowSurrogate, Bool.and_eq_false_iff, decide_eq_false_iff_not,
      UInt16.le_iff_toNat_le, UInt16.lt_iff_toNat_lt] at hclosing ⊢
    simp only [UInt16.reduceToNat] at hclosing ⊢
    omega
  have hclose : utf8ByteLength [closing] = 1 := by
    rw [utf8ByteLength_cons hclosing]
    rfl
  have hopen : utf8ByteLength (opening :: List.intercalate [ascii ','] texts)
      = 1 + separatedBytes true texts := by
    rw [utf8ByteLength_cons hopening]
    cases texts with
    | nil => rfl
    | cons text rest =>
      rw [List.forall_mem_cons] at h
      show 1 + utf8ByteLength (List.intercalate [ascii ','] (text :: rest)) = _
      rw [utf8ByteLength_intercalate_cons h.2]
      simp [separatedBytes]
  rw [utf8ByteLength_append (startsClosed_cons hlow []), hopen, hclose]
  omega

/-- The bytes of a key, the colon and a value. -/
theorem utf8ByteLength_property (key : JsString) (value : JsonValue) :
    utf8ByteLength (quoteJson key ++ ascii ':' :: stringify value)
      = utf8ByteLength (quoteJson key) + 1 + jsonBytes value := by
  rw [utf8ByteLength_append (startsClosed_cons (by decide) _), utf8ByteLength_cons (by decide),
    utf8ByteLengthFrom_of_startsClosed (startsClosed_stringify value), jsonBytes]
  omega

theorem jsonBytes_array (elements : List JsonValue) :
    jsonBytes (.array elements) = separatedBytes true (stringifyElements elements) + 2 :=
  utf8ByteLength_bracketed (by decide) (by decide) (startsClosed_elements elements)

theorem jsonBytes_object (properties : List (JsString × JsonValue)) :
    jsonBytes (.object properties) = separatedBytes true (stringifyProperties properties) + 2 :=
  utf8ByteLength_bracketed (by decide) (by decide) (startsClosed_properties properties)

/-! ### The walk -/

theorem unlessAbove_fst {maxBytes : JsonNumber} {bytes : Nat} {step : Bool × Nat}
    (h : (unlessAbove maxBytes bytes step).1 = true) :
    step.1 = true ∧ unlessAbove maxBytes bytes step = step := by
  unfold unlessAbove at h ⊢
  split at h
  · cases h
  · exact ⟨h, if_neg ‹_›⟩

theorem andThen_fst {step : Bool × Nat} {next : Nat → Bool × Nat}
    (h : (andThen step next).1 = true) :
    step.1 = true ∧ (next step.2).1 = true ∧ andThen step next = next step.2 := by
  unfold andThen at h ⊢
  split at h
  · exact ⟨‹_›, h, if_pos ‹_›⟩
  · exact absurd h ‹_›

theorem accountString_fst {text : JsString} {bytes : Nat} (h : (accountString text bytes).1 = true) :
    isWellFormedUnicode text = true ∧
      (accountString text bytes).2 = bytes + utf8ByteLength (quoteJson text) := by
  unfold accountString at h ⊢
  split at h
  · exact ⟨‹_›, by rw [if_pos ‹_›]⟩
  · cases h

mutual

/-- A walk that ends has checked the value and counted its bytes. -/
theorem walk_counts (maxBytes : JsonNumber) : ∀ (value : JsonValue) (bytes : Nat),
    (walk maxBytes value bytes).1 = true →
      isCountable value = true ∧ (walk maxBytes value bytes).2 = bytes + jsonBytes value
  | .null, bytes, h => by
      obtain ⟨-, heq⟩ := unlessAbove_fst h
      rw [walk, heq]
      exact ⟨rfl, rfl⟩
  | .bool value, bytes, h => by
      obtain ⟨-, heq⟩ := unlessAbove_fst h
      rw [walk, heq]
      cases value <;> exact ⟨rfl, rfl⟩
  | .number (.infinite _), bytes, h => by
      obtain ⟨hstep, -⟩ := unlessAbove_fst h
      cases hstep
  | .number (.finite value), bytes, h => by
      obtain ⟨-, heq⟩ := unlessAbove_fst h
      rw [walk, heq]
      refine ⟨rfl, ?_⟩
      show bytes + (jsString (numberText value)).length
        = bytes + utf8ByteLength (jsString (numberText value))
      rw [utf8ByteLength_numberText]
  | .string value, bytes, h => by
      obtain ⟨hstep, heq⟩ := unlessAbove_fst h
      rw [walk, heq]
      exact accountString_fst hstep
  | .array elements, bytes, h => by
      obtain ⟨hstep, heq⟩ := unlessAbove_fst h
      obtain ⟨helements, -, hthen⟩ := andThen_fst hstep
      obtain ⟨hcountable, hbytes⟩ := walkElements_counts maxBytes elements true (bytes + 1) helements
      rw [walk, heq, hthen, hbytes, jsonBytes_array]
      exact ⟨hcountable, by omega⟩
  | .object properties, bytes, h => by
      obtain ⟨hstep, heq⟩ := unlessAbove_fst h
      obtain ⟨hproperties, -, hthen⟩ := andThen_fst hstep
      obtain ⟨hcountable, hbytes⟩ :=
        walkProperties_counts maxBytes properties true (bytes + 1) hproperties
      rw [walk, heq, hthen, hbytes, jsonBytes_object]
      exact ⟨hcountable, by omega⟩

theorem walkElements_counts (maxBytes : JsonNumber) : ∀ (elements : List JsonValue) (first : Bool)
    (bytes : Nat), (walkElements maxBytes first elements bytes).1 = true →
      holdsInElements isWellFormedUnicode isFiniteNumber elements = true ∧
        (walkElements maxBytes first elements bytes).2
          = bytes + separatedBytes first (stringifyElements elements)
  | [], _, _, _ => ⟨rfl, rfl⟩
  | element :: rest, first, bytes, h => by
      obtain ⟨helement, hrest, hthen⟩ := andThen_fst h
      obtain ⟨hcountable, hbytes⟩ := walk_counts maxBytes element _ helement
      obtain ⟨hcountables, hrestBytes⟩ := walkElements_counts maxBytes rest false _ hrest
      rw [walkElements, hthen, hrestBytes, hbytes]
      refine ⟨by rw [holdsInElements, Bool.and_eq_true]; exact ⟨hcountable, hcountables⟩, ?_⟩
      simp only [stringifyElements, separatedBytes, jsonBytes]
      omega

theorem walkProperties_counts (maxBytes : JsonNumber) :
    ∀ (properties : List (JsString × JsonValue)) (first : Bool) (bytes : Nat),
      (walkProperties maxBytes first properties bytes).1 = true →
        holdsInProperties isWellFormedUnicode isFiniteNumber properties = true ∧
          (walkProperties maxBytes first properties bytes).2
            = bytes + separatedBytes first (stringifyProperties properties)
  | [], _, _, _ => ⟨rfl, rfl⟩
  | (key, value) :: rest, first, bytes, h => by
      obtain ⟨hkey, hafterKey, hthenKey⟩ := andThen_fst h
      obtain ⟨hvalue, hrest, hthenValue⟩ := andThen_fst hafterKey
      obtain ⟨hwellFormed, hkeyBytes⟩ := accountString_fst hkey
      obtain ⟨hcountable, hbytes⟩ := walk_counts maxBytes value _ hvalue
      obtain ⟨hcountables, hrestBytes⟩ := walkProperties_counts maxBytes rest false _ hrest
      rw [walkProperties, hthenKey, hthenValue, hrestBytes, hbytes, hkeyBytes]
      refine ⟨?_, ?_⟩
      · rw [holdsInProperties, Bool.and_eq_true, Bool.and_eq_true]
        exact ⟨⟨hwellFormed, hcountable⟩, hcountables⟩
      · simp only [stringifyProperties, separatedBytes, utf8ByteLength_property]
        omega

end

/-- A bound that is below some bytes is below more. -/
theorem isBelow_mono {maxBytes : JsonNumber} {bytes more : Nat} (hle : bytes ≤ more)
    (h : maxBytes.isBelow more = false) : maxBytes.isBelow bytes = false := by
  cases maxBytes with
  | infinite isNegative => exact h
  | finite bound =>
    simp only [JsonNumber.isBelow, decide_eq_false_iff_not, not_lt] at h ⊢
    exact le_trans (Nat.cast_le.mpr hle) h

theorem isBelow_eq_not_isAtLeast (maxBytes : JsonNumber) (bytes : Nat) :
    maxBytes.isBelow bytes = !maxBytes.isAtLeast bytes := by
  cases maxBytes with
  | infinite isNegative => cases isNegative <;> rfl
  | finite bound =>
    simp only [JsonNumber.isBelow, JsonNumber.isAtLeast]
    by_cases h : bound < (bytes : ℚ)
    · simp [h]
    · simp [h, not_lt.mp h]

mutual

/-- The walk of a value that passes the checks ends when the text fits. -/
theorem walk_of_fits {maxBytes : JsonNumber} : ∀ (value : JsonValue) (bytes : Nat),
    isCountable value = true → maxBytes.isBelow (bytes + jsonBytes value) = false →
      walk maxBytes value bytes = (true, bytes + jsonBytes value)
  | value, bytes, hcountable, hfits => by
      have hbelow : maxBytes.isBelow bytes = false := isBelow_mono (by omega) hfits
      have hstep : ∀ step : Bool × Nat, unlessAbove maxBytes bytes step = step := by
        intro step
        simp [unlessAbove, hbelow]
      match value with
      | .null => exact hstep _
      | .bool value =>
          rw [walk, hstep]
          cases value <;> rfl
      | .number (.infinite _) => cases hcountable
      | .number (.finite value) =>
          rw [walk, hstep, ← utf8ByteLength_numberText]
          rfl
      | .string value =>
          have hvalue : isWellFormedUnicode value = true := hcountable
          rw [walk, hstep, accountString, if_pos hvalue]
          rfl
      | .array elements =>
          rw [jsonBytes_array] at hfits ⊢
          rw [walk, hstep, walkElements_of_fits elements true (bytes + 1) hcountable
            (isBelow_mono (by omega) hfits)]
          show (true, _) = _
          rw [Prod.mk.injEq]
          exact ⟨rfl, by omega⟩
      | .object properties =>
          rw [jsonBytes_object] at hfits ⊢
          rw [walk, hstep, walkProperties_of_fits properties true (bytes + 1) hcountable
            (isBelow_mono (by omega) hfits)]
          show (true, _) = _
          rw [Prod.mk.injEq]
          exact ⟨rfl, by omega⟩

theorem walkElements_of_fits {maxBytes : JsonNumber} : ∀ (elements : List JsonValue) (first : Bool)
    (bytes : Nat), holdsInElements isWellFormedUnicode isFiniteNumber elements = true →
      maxBytes.isBelow (bytes + separatedBytes first (stringifyElements elements)) = false →
        walkElements maxBytes first elements bytes
          = (true, bytes + separatedBytes first (stringifyElements elements))
  | [], _, _, _, _ => rfl
  | element :: rest, first, bytes, hcountable, hfits => by
      rw [holdsInElements, Bool.and_eq_true] at hcountable
      have hsize : separatedBytes first (stringifyElements (element :: rest))
          = (if first then 0 else 1) + jsonBytes element
            + separatedBytes false (stringifyElements rest) := rfl
      rw [hsize] at hfits ⊢
      rw [walkElements, walk_of_fits element _ hcountable.1 (isBelow_mono (by omega) hfits)]
      show walkElements maxBytes false rest _ = _
      rw [walkElements_of_fits rest false _ hcountable.2 (isBelow_mono (by omega) hfits),
        Prod.mk.injEq]
      exact ⟨rfl, by omega⟩

theorem walkProperties_of_fits {maxBytes : JsonNumber} :
    ∀ (properties : List (JsString × JsonValue)) (first : Bool) (bytes : Nat),
      holdsInProperties isWellFormedUnicode isFiniteNumber properties = true →
        maxBytes.isBelow (bytes + separatedBytes first (stringifyProperties properties)) = false →
          walkProperties maxBytes first properties bytes
            = (true, bytes + separatedBytes first (stringifyProperties properties))
  | [], _, _, _, _ => rfl
  | (key, value) :: rest, first, bytes, hcountable, hfits => by
      rw [holdsInProperties, Bool.and_eq_true, Bool.and_eq_true] at hcountable
      obtain ⟨⟨hkey, hvalue⟩, hrest⟩ := hcountable
      have hsize : separatedBytes first (stringifyProperties ((key, value) :: rest))
          = (if first then 0 else 1) + (utf8ByteLength (quoteJson key) + 1 + jsonBytes value)
            + separatedBytes false (stringifyProperties rest) := by
        rw [stringifyProperties, separatedBytes, utf8ByteLength_property]
      rw [hsize] at hfits ⊢
      rw [walkProperties, accountString, if_pos hkey]
      show andThen (walk maxBytes value _) _ = _
      rw [walk_of_fits value _ hvalue (isBelow_mono (by omega) hfits)]
      show walkProperties maxBytes false rest _ = _
      rw [walkProperties_of_fits rest false _ hrest (isBelow_mono (by omega) hfits),
        Prod.mk.injEq]
      exact ⟨rfl, by omega⟩

end

/-! ### The bounded size -/

/-- A value is within the bound when a walk can count it and its text is. -/
theorem jsonBytesWithin_eq (value : JsonValue) (maxBytes : JsonNumber) :
    jsonBytesWithin value maxBytes
      = (isCountable value && maxBytes.isAtLeast (jsonBytes value)) := by
  rw [Bool.eq_iff_iff, jsonBytesWithin, Bool.and_eq_true, Bool.and_eq_true]
  constructor
  · rintro ⟨hwalk, hbytes⟩
    obtain ⟨hcountable, hcount⟩ := walk_counts maxBytes value 0 hwalk
    rw [hcount, Nat.zero_add] at hbytes
    exact ⟨hcountable, hbytes⟩
  · rintro ⟨hcountable, hbytes⟩
    have hfits : maxBytes.isBelow (0 + jsonBytes value) = false := by
      rw [isBelow_eq_not_isAtLeast, Nat.zero_add, hbytes]
      rfl
    rw [walk_of_fits value 0 hcountable hfits, Nat.zero_add]
    exact ⟨rfl, hbytes⟩

/-- The check of a value of JSON: its strings are well-formed and its text fits. A value with an
infinite number, which is none of JSON, is refused. -/
theorem jsonBytesWithin_iff (value : JsonValue) (maxBytes : JsonNumber) :
    (isFiniteThroughout value = true →
      (jsonBytesWithin value maxBytes = true ↔
        isWellFormedThroughout value = true ∧
          maxBytes.isAtLeast (utf8ByteLength (stringify value)) = true)) ∧
    (isFiniteThroughout value = false → jsonBytesWithin value maxBytes = false) := by
  rw [jsonBytesWithin_eq, isCountable_eq]
  constructor
  · intro hfinite
    simp [hfinite, jsonBytes]
  · intro hinfinite
    simp [hinfinite]

end Ariava.Proofs.BoundedJson
