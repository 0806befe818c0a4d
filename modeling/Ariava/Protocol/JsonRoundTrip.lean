import Ariava.Protocol.JsonParse
import Ariava.Protocol.Utf8Text

/-!
# `Ariava.Protocol.JsonRoundTrip`: `JSON.parse` after `JSON.stringify`

`parseJson_stringify`: a value comes back from its text, when its numbers are single digits and
the keys of each object are distinct and no array indices. Such are the values that the protocol
writes: their only number is a version. So the text of such a value determines it
(`stringify_inj`), and so do its bytes (`encodeUtf8_stringify_inj`): a lone surrogate is escaped,
so every text is well-formed.

The proof reads one value off the front of a text, by recursion on the value. Behind the value is
the end of the text, a comma or a closing bracket, so a number ends where it was written to end.
-/

set_option autoImplicit false

namespace Ariava.Protocol

mutual

/-- The value comes back from its text. -/
def IsReadable : JsonValue → Prop
  | .null => True
  | .bool _ => True
  | .number value => ∃ digit : Nat, digit < 10 ∧ value = .finite digit
  | .string _ => True
  | .array elements => ReadableElements elements
  | .object properties => (properties.map Prod.fst).Nodup ∧ ReadableProperties properties

/-- Each element comes back. -/
def ReadableElements : List JsonValue → Prop
  | [] => True
  | element :: rest => IsReadable element ∧ ReadableElements rest

/-- Each value comes back, and no key is an array index. -/
def ReadableProperties : List (JsString × JsonValue) → Prop
  | [] => True
  | (key, value) :: rest => arrayIndex? key = none ∧ IsReadable value ∧ ReadableProperties rest

end

theorem readableProperties_iff {properties : List (JsString × JsonValue)} :
    ReadableProperties properties ↔
      ∀ property ∈ properties, arrayIndex? property.1 = none ∧ IsReadable property.2 := by
  induction properties with
  | nil => simp [ReadableProperties]
  | cons property rest ih =>
    rw [List.forall_mem_cons, ReadableProperties, ih, and_assoc]

/-- What may be behind a value: the end of the text, a comma or a closing bracket. -/
def EndsValue (rest : JsString) : Prop :=
  ∀ unit ∈ rest.head?, unit ∈ [ascii ',', ascii ']', ascii '\x7d']

/-! ### Digits -/

/-- The character of a digit. -/
def digitUnit (digit : Nat) : UInt16 := (48 + digit).toUInt16

theorem jsString_numberText_digit {digit : Nat} (h : digit < 10) :
    jsString (numberText digit) = [digitUnit digit] := by
  have hall : ∀ digit < 10, jsString (numberText (digit : Nat)) = [digitUnit digit] := by
    decide +kernel
  exact hall digit h

theorem digitUnit_cases {digit : Nat} (h : digit < 10) :
    isDecimalUnit (digitUnit digit) = true ∧ isJsonBlank (digitUnit digit) = false ∧
      (decimalDigit? (digitUnit digit)).getD 0 = digit ∧
      (digitUnit digit = ascii '0' → digit = 0) ∧
      digitUnit digit ∉ [ascii ',', ascii ']', ascii '\x7d', ascii '"', ascii '[', ascii '\x7b',
        ascii '-'] := by
  have hall : ∀ digit < 10, isDecimalUnit (digitUnit digit) = true ∧
      isJsonBlank (digitUnit digit) = false ∧
      (decimalDigit? (digitUnit digit)).getD 0 = digit ∧
      (digitUnit digit = ascii '0' → digit = 0) ∧
      digitUnit digit ∉ [ascii ',', ascii ']', ascii '\x7d', ascii '"', ascii '[', ascii '\x7b',
        ascii '-'] := by decide
  exact hall digit h

/-- No digit, point or exponent is behind a value. -/
theorem EndsValue.head? {rest : JsString} (h : EndsValue rest) :
    rest.takeWhile isDecimalUnit = [] ∧ rest.dropWhile isDecimalUnit = rest ∧
      readFraction rest = some ([], rest) ∧ readExponent rest = some (0, rest) := by
  have hmarks : ∀ unit ∈ [ascii ',', ascii ']', ascii '\x7d'], isDecimalUnit unit = false ∧
      unit ≠ ascii '.' ∧ ¬ (unit = ascii 'e' ∨ unit = ascii 'E') := by decide
  cases rest with
  | nil => exact ⟨rfl, rfl, rfl, rfl⟩
  | cons unit rest =>
    obtain ⟨hdigit, hpoint, hexponent⟩ := hmarks unit (h unit rfl)
    rw [List.takeWhile_cons, List.dropWhile_cons, hdigit, readFraction, if_neg hpoint,
      readExponent.eq_def]
    simp [hexponent]

/-- A digit is read as its number. -/
theorem readNumber_digitUnit {digit : Nat} (h : digit < 10) {rest : JsString}
    (hrest : EndsValue rest) :
    readNumber (digitUnit digit :: rest) = some (.finite digit, rest) := by
  obtain ⟨hdigit, -, hvalue, hzero, hmarks⟩ := digitUnit_cases h
  obtain ⟨htake, hdrop, hfraction, hexponent⟩ := hrest.head?
  have hpositive : ∀ digit : Nat, digit < 10 → digit ≠ 0 →
      positiveNumber false ((digit : ℚ) * 10 ^ ((0 : ℤ) - (0 : Nat))) = .finite digit := by
    decide +kernel
  have hwhole : readWhole (digitUnit digit :: rest) = some ([digitUnit digit], rest) := by
    rw [readWhole]
    split
    · rfl
    · rw [readDigits, List.takeWhile_cons, List.dropWhile_cons, hdigit, if_pos rfl, if_pos rfl,
        htake, hdrop]
      rfl
  have hsign : decide ((digitUnit digit :: rest).head? = some (ascii '-')) = false := by
    rw [List.head?_cons, decide_eq_false_iff_not, Option.some.injEq]
    rintro heq
    exact hmarks (by simp [heq])
  have hnumber : decimalNumber [digitUnit digit] = digit := by
    simp [decimalNumber, hvalue]
  rw [readNumber, hsign]
  simp only [Bool.false_eq_true, if_false, hwhole, hfraction, hexponent, Option.bind_eq_bind,
    Option.bind_some, List.append_nil, hnumber, List.length_nil]
  split
  · rename_i heq
    rw [heq]
    rfl
  · rename_i hne
    rw [hpositive digit h hne]
    rfl

/-! ### The first character -/

/-- A text starts with a character that is no blank and closes no bracket. -/
theorem exists_stringify_eq {value : JsonValue} (h : IsReadable value) :
    ∃ first tail, stringify value = first :: tail ∧ isJsonBlank first = false ∧
      first ≠ ascii ']' ∧ first ≠ ascii '\x7d' ∧ first < 0x80 := by
  cases value with
  | null => exact ⟨ascii 'n', _, rfl, by decide⟩
  | bool value => cases value <;> exact ⟨_, _, rfl, by decide⟩
  | number value =>
    obtain ⟨digit, hdigit, rfl⟩ := h
    obtain ⟨-, hblank, -, -, hmarks⟩ := digitUnit_cases hdigit
    refine ⟨digitUnit digit, [], ?_, hblank, ?_, ?_, ?_⟩
    · rw [stringify, jsonNumberText, jsString_numberText_digit hdigit]
    · rintro heq
      exact hmarks (by simp [heq])
    · rintro heq
      exact hmarks (by simp [heq])
    · have hascii : ∀ digit < 10, digitUnit digit < 0x80 := by decide
      exact hascii digit hdigit
  | string value => exact ⟨ascii '"', _, rfl, by decide⟩
  | array elements => exact ⟨ascii '[', _, rfl, by decide⟩
  | object properties => exact ⟨ascii '\x7b', _, rfl, by decide⟩

/-- No blank is in front of a value. -/
theorem skipBlanks_stringify {value : JsonValue} (h : IsReadable value) (rest : JsString) :
    skipBlanks (stringify value ++ rest) = stringify value ++ rest := by
  obtain ⟨first, tail, heq, hblank, -⟩ := exists_stringify_eq h
  rw [heq, List.cons_append, skipBlanks, List.dropWhile_cons, hblank]
  rfl

/-! ### Objects -/

theorem setProperty_of_notMem {obj : JsonObject} {key : JsString} (h : key ∉ obj.map Prod.fst)
    (value : JsonValue) : setProperty obj key value = obj ++ [(key, value)] := by
  have hany : (obj.any fun property => decide (property.1 = key)) = false := by
    rw [List.any_eq_false]
    intro property hmem heq
    rw [decide_eq_true_eq] at heq
    exact h (List.mem_map.mpr ⟨property, hmem, heq⟩)
  rw [setProperty, hany]
  rfl

/-- A property that was set is read back, and the other ones are what they were. -/
theorem get?_setProperty (obj : JsonObject) (key : JsString) (value : JsonValue) (name : String) :
    JsonObject.get? (setProperty obj key value) name
      = if jsString name = key then some value else JsonObject.get? obj name := by
  by_cases hmem : key ∈ obj.map Prod.fst
  · have hany : (obj.any fun property => decide (property.1 = key)) = true := by
      obtain ⟨property, hproperty, heq⟩ := List.mem_map.mp hmem
      exact List.any_eq_true.mpr ⟨property, hproperty, decide_eq_true heq⟩
    have hkey : ∀ property : JsString × JsonValue,
        (if property.1 = key then (key, value) else property).1 = property.1 := by
      intro property
      split
      · next heq => exact heq.symm
      · rfl
    rw [setProperty, hany, if_pos rfl, JsonObject.get?, JsonObject.get?, List.find?_map]
    simp only [Function.comp_def, hkey, Option.map_map]
    cases hfind : obj.find? fun property => decide (property.1 = jsString name) with
    | none =>
      -- A key that is not there is not the one that was set.
      have hne : jsString name ≠ key := by
        rintro rfl
        obtain ⟨property, hproperty, heq⟩ := List.mem_map.mp hmem
        exact List.find?_eq_none.mp hfind property hproperty (decide_eq_true heq)
      rw [if_neg hne]
      rfl
    | some property =>
      have hname := List.find?_some hfind
      rw [decide_eq_true_eq] at hname
      rw [Option.map_some, Option.map_some, hname]
      split
      · rfl
      · rfl
  · rw [setProperty_of_notMem hmem, JsonObject.get?, JsonObject.get?, List.find?_append,
      List.find?_singleton]
    by_cases heq : key = jsString name
    · have hnone : (obj.find? fun property => decide (property.1 = jsString name)) = none := by
        rw [List.find?_eq_none]
        intro property hproperty hname
        rw [decide_eq_true_eq, ← heq] at hname
        exact hmem (List.mem_map.mpr ⟨property, hproperty, hname⟩)
      rw [if_pos (decide_eq_true heq), if_pos heq.symm, hnone]
      rfl
    · have hne : ¬ jsString name = key := fun h => heq h.symm
      rw [if_neg (by simpa using heq), if_neg hne, Option.or_none]

/-- Distinct properties without array indices stay in their order. -/
theorem objectOf_eq {properties : List (JsString × JsonValue)}
    (hnodup : (properties.map Prod.fst).Nodup)
    (hindex : ∀ property ∈ properties, arrayIndex? property.1 = none) :
    objectOf properties = .object properties := by
  have hfold : ∀ (rest done : List (JsString × JsonValue)),
      ((done ++ rest).map Prod.fst).Nodup →
        rest.foldl (fun obj property => setProperty obj property.1 property.2) done
          = done ++ rest := by
    intro rest
    induction rest with
    | nil => simp
    | cons property rest ih =>
      intro done hdistinct
      have hnew : property.1 ∉ done.map Prod.fst := by
        rw [List.map_append, List.map_cons, List.nodup_append] at hdistinct
        intro hmem
        exact hdistinct.2.2 _ hmem _ List.mem_cons_self rfl
      rw [List.foldl_cons, setProperty_of_notMem hnew, ih, List.append_assoc]
      · rfl
      · rw [List.append_assoc]
        exact hdistinct
  have hnone : (properties.filter fun property => (arrayIndex? property.1).isSome) = [] := by
    rw [List.filter_eq_nil_iff]
    intro property hmem
    rw [hindex property hmem]
    decide
  have hall : (properties.filter fun property => (arrayIndex? property.1).isNone)
      = properties := by
    rw [List.filter_eq_self]
    intro property hmem
    rw [hindex property hmem]
    rfl
  rw [objectOf, hfold properties [] hnodup, List.nil_append, ordinaryOrder, hnone, hall]
  simp

theorem ReadableProperties.arrayIndex? {properties : List (JsString × JsonValue)}
    (h : ReadableProperties properties) :
    ∀ property ∈ properties, arrayIndex? property.1 = none := by
  induction properties with
  | nil => simp
  | cons property rest ih =>
    rw [List.forall_mem_cons]
    exact ⟨h.1, ih h.2.2⟩

/-! ### Values -/

theorem readWord_word {value : JsonValue} {word : JsString} (hword : word ∈ [jsString "null",
    jsString "true", jsString "false"]) (rest : JsString)
    (hread : ∀ rest, readWord (word ++ rest) = some (value, rest)) (fuel : Nat) :
    readValue (fuel + 1) (word ++ rest) = some (value, rest) := by
  have hfirst : ∀ word ∈ [jsString "null", jsString "true", jsString "false"],
      ∃ first tail, word = first :: tail ∧ first ∉ [ascii '"', ascii '[', ascii '\x7b', ascii '-'] ∧
        isDecimalUnit first = false := by
    simp only [List.forall_mem_cons]
    exact ⟨⟨_, _, rfl, by decide⟩, ⟨_, _, rfl, by decide⟩, ⟨_, _, rfl, by decide⟩, by simp⟩
  obtain ⟨first, tail, rfl, hmarks, hdigit⟩ := hfirst word hword
  simp only [List.mem_cons, List.not_mem_nil, or_false, not_or] at hmarks
  have hnumber : ¬ (first = ascii '-' ∨ isDecimalUnit first = true) := by
    simp [hmarks.2.2.2, hdigit]
  rw [List.cons_append, readValue, if_neg hmarks.1, if_neg hmarks.2.1, if_neg hmarks.2.2.1,
    if_neg hnumber]
  exact hread rest

theorem readValue_null (fuel : Nat) (rest : JsString) :
    readValue (fuel + 1) (stringify .null ++ rest) = some (.null, rest) := by
  apply readWord_word (by simp [stringify])
  intro rest
  rw [readWord, stringify, Lib.Scan.dropWord, if_pos (by simp)]
  simp

theorem readValue_bool (value : Bool) (fuel : Nat) (rest : JsString) :
    readValue (fuel + 1) (stringify (.bool value) ++ rest) = some (.bool value, rest) := by
  apply readWord_word (by cases value <;> simp [stringify])
  intro rest
  have hnull : jsString "null" = [0x6e, 0x75, 0x6c, 0x6c] := by decide
  have htrue : jsString "true" = [0x74, 0x72, 0x75, 0x65] := by decide
  have hfalse : jsString "false" = [0x66, 0x61, 0x6c, 0x73, 0x65] := by decide
  cases value <;> simp [readWord, stringify, Lib.Scan.dropWord, hnull, htrue, hfalse]

theorem readValue_number {digit : Nat} (h : digit < 10) (fuel : Nat) {rest : JsString}
    (hrest : EndsValue rest) : readValue (fuel + 1) (stringify (.number (.finite digit)) ++ rest)
      = some (.number (.finite digit), rest) := by
  obtain ⟨hdigit, -, -, -, hmarks⟩ := digitUnit_cases h
  simp only [List.mem_cons, List.not_mem_nil, or_false, not_or] at hmarks
  rw [stringify, jsonNumberText, jsString_numberText_digit h, List.singleton_append, readValue,
    if_neg hmarks.2.2.2.1, if_neg hmarks.2.2.2.2.1, if_neg hmarks.2.2.2.2.2.1,
    if_pos (Or.inr hdigit), readNumber_digitUnit h hrest]
  rfl

theorem readValue_string (value : JsString) (fuel : Nat) (rest : JsString) :
    readValue (fuel + 1) (stringify (.string value) ++ rest) = some (.string value, rest) := by
  rw [stringify, quoteJson, List.cons_append, List.cons_append, List.append_assoc, readValue,
    if_pos rfl, List.singleton_append, (readUnits_escapeUnits value rest).1]
  rfl

/-- A list of texts up to its closing bracket: the first one, and the rest behind a comma. -/
theorem intercalate_append_cons (text : JsString) (texts : List JsString) (close : UInt16)
    (rest : JsString) :
    ∃ behind, List.intercalate [ascii ','] (text :: texts) ++ close :: rest = text ++ behind ∧
      (texts = [] → behind = close :: rest) ∧
      (texts ≠ [] → behind = ascii ',' :: (List.intercalate [ascii ','] texts ++ close :: rest)) := by
  cases texts with
  | nil => exact ⟨close :: rest, by simp, fun _ => rfl, fun h => absurd rfl h⟩
  | cons next texts =>
    refine ⟨_, ?_, fun h => absurd h (by simp), fun _ => rfl⟩
    rw [List.intercalate_cons_cons]
    simp

theorem length_intercalate_cons (text : JsString) (texts : List JsString) :
    (List.intercalate [ascii ','] (text :: texts)).length
      = text.length + if texts = [] then 0 else
        1 + (List.intercalate [ascii ','] texts).length := by
  cases texts with
  | nil => simp
  | cons next texts =>
    rw [List.intercalate_cons_cons]
    simp
    omega

theorem endsValue_cons {unit : UInt16} (h : unit ∈ [ascii ',', ascii ']', ascii '\x7d'])
    (rest : JsString) : EndsValue (unit :: rest) := by
  intro first hfirst
  cases hfirst
  exact h

theorem stringifyElements_eq_nil {elements : List JsonValue} :
    stringifyElements elements = [] ↔ elements = [] := by
  cases elements <;> simp [stringifyElements]

theorem stringifyProperties_eq_nil {properties : List (JsString × JsonValue)} :
    stringifyProperties properties = [] ↔ properties = [] := by
  rcases properties with _ | ⟨⟨key, value⟩, rest⟩ <;> simp [stringifyProperties]

/-- No blank is in front of the elements of an array. -/
theorem skipBlanks_elements {elements : List JsonValue} (hne : elements ≠ [])
    (h : ReadableElements elements) (rest : JsString) :
    skipBlanks (List.intercalate [ascii ','] (stringifyElements elements) ++ ascii ']' :: rest)
      = List.intercalate [ascii ','] (stringifyElements elements) ++ ascii ']' :: rest ∧
      (List.intercalate [ascii ','] (stringifyElements elements) ++ ascii ']' :: rest).head?
        ≠ some (ascii ']') := by
  obtain ⟨element, elements, rfl⟩ := List.exists_cons_of_ne_nil hne
  obtain ⟨behind, hsplit, -⟩ := intercalate_append_cons (stringify element)
    (stringifyElements elements) (ascii ']') rest
  obtain ⟨first, tail, hfirst, -, hclose, -⟩ := exists_stringify_eq h.1
  rw [stringifyElements, hsplit, skipBlanks_stringify h.1, hfirst]
  refine ⟨rfl, ?_⟩
  rw [List.cons_append, List.head?_cons, ne_eq, Option.some.injEq]
  exact hclose

/-- The properties of an object start with a quote. -/
theorem exists_properties_eq {properties : List (JsString × JsonValue)} (hne : properties ≠ [])
    (rest : JsString) : ∃ tail, List.intercalate [ascii ','] (stringifyProperties properties)
      ++ ascii '\x7d' :: rest = ascii '"' :: tail := by
  obtain ⟨⟨key, value⟩, properties, rfl⟩ := List.exists_cons_of_ne_nil hne
  rw [stringifyProperties, quoteJson]
  cases stringifyProperties properties with
  | nil => exact ⟨_, by rw [List.intercalate_singleton]; rfl⟩
  | cons text texts => exact ⟨_, by rw [List.intercalate_cons_cons]; rfl⟩

mutual

/-- A value is read off the front of its text. -/
theorem readValue_stringify : ∀ (value : JsonValue), IsReadable value → ∀ (fuel : Nat)
    (rest : JsString), (stringify value).length ≤ fuel → EndsValue rest →
      readValue fuel (stringify value ++ rest) = some (value, rest)
  | value, h, 0, rest, hfuel, hrest => by
      obtain ⟨first, tail, heq, -⟩ := exists_stringify_eq h
      rw [heq] at hfuel
      cases hfuel
  | .null, _, fuel + 1, rest, _, _ => readValue_null fuel rest
  | .bool value, _, fuel + 1, rest, _, _ => readValue_bool value fuel rest
  | .number value, h, fuel + 1, rest, _, hrest => by
      obtain ⟨digit, hdigit, rfl⟩ := h
      exact readValue_number hdigit fuel hrest
  | .string value, _, fuel + 1, rest, _, _ => readValue_string value fuel rest
  | .array elements, h, fuel + 1, rest, hfuel, _ => by
      have hlist := readElements_stringify elements
      have htext : stringify (.array elements) ++ rest = ascii '[' ::
          (List.intercalate [ascii ','] (stringifyElements elements) ++ ascii ']' :: rest) := by
        simp [stringify]
      simp only [stringify, List.cons_append, List.length_cons, List.length_append,
        List.length_nil] at hfuel
      rw [htext, readValue, if_neg (by decide), if_pos rfl]
      by_cases hne : elements = []
      · subst hne
        rfl
      · obtain ⟨hskip, hhead⟩ := skipBlanks_elements hne h rest
        simp only [hskip, if_neg hhead]
        rw [hlist hne h fuel rest (by omega)]
        rfl
  | .object properties, h, fuel + 1, rest, hfuel, _ => by
      have hlist := readProperties_stringify properties
      have htext : stringify (.object properties) ++ rest = ascii '\x7b' ::
          (List.intercalate [ascii ','] (stringifyProperties properties)
            ++ ascii '\x7d' :: rest) := by
        simp [stringify]
      simp only [stringify, List.cons_append, List.length_cons, List.length_append,
        List.length_nil] at hfuel
      rw [htext, readValue, if_neg (by decide), if_neg (by decide), if_pos rfl]
      by_cases hne : properties = []
      · subst hne
        rfl
      · obtain ⟨tail, htail⟩ := exists_properties_eq hne rest
        have hread := hlist hne h.2 fuel rest (by omega)
        rw [htail] at hread ⊢
        have hskip : skipBlanks (ascii '"' :: tail) = ascii '"' :: tail := rfl
        have hhead : (ascii '"' :: tail).head? ≠ some (ascii '\x7d') := by
          rw [List.head?_cons]
          decide
        simp only [hskip, if_neg hhead]
        rw [hread, Option.map_some, objectOf_eq h.1 h.2.arrayIndex?]

/-- The elements of an array are read up to the closing bracket. -/
theorem readElements_stringify : ∀ (elements : List JsonValue), elements ≠ [] →
    ReadableElements elements → ∀ (fuel : Nat) (rest : JsString),
      (List.intercalate [ascii ','] (stringifyElements elements)).length < fuel →
        readElements fuel (List.intercalate [ascii ','] (stringifyElements elements)
          ++ ascii ']' :: rest) = some (elements, rest)
  | [], hne, _, _, _, _ => absurd rfl hne
  | element :: elements, _, h, 0, rest, hfuel => absurd hfuel (by omega)
  | element :: elements, _, h, fuel + 1, rest, hfuel => by
      have hlist := readElements_stringify elements
      have hvalue := readValue_stringify element h.1 fuel
      obtain ⟨behind, hsplit, hlast, hmore⟩ := intercalate_append_cons (stringify element)
        (stringifyElements elements) (ascii ']') rest
      rw [stringifyElements, length_intercalate_cons] at hfuel
      rw [stringifyElements, hsplit, readElements]
      by_cases hne : elements = []
      · subst hne
        rw [hlast rfl, hvalue _ (by omega) (endsValue_cons (by decide) rest)]
        have hskip : skipBlanks (ascii ']' :: rest) = ascii ']' :: rest := rfl
        simp only [hskip, if_pos]
      · have htexts : stringifyElements elements ≠ [] := fun heq =>
          hne (stringifyElements_eq_nil.mp heq)
        have hcomma : ∀ tail, skipBlanks (ascii ',' :: tail) = ascii ',' :: tail := fun _ => rfl
        have hmark : ascii ',' ≠ ascii ']' := by decide
        rw [if_neg htexts] at hfuel
        rw [hmore htexts, hvalue _ (by omega) (endsValue_cons (by decide) _)]
        simp only [hcomma, if_neg hmark, (skipBlanks_elements hne h.2 rest).1, if_pos]
        rw [hlist hne h.2 fuel rest (by omega)]
        rfl

/-- The properties of an object are read up to the closing bracket. -/
theorem readProperties_stringify : ∀ (properties : List (JsString × JsonValue)),
    properties ≠ [] → ReadableProperties properties → ∀ (fuel : Nat) (rest : JsString),
      (List.intercalate [ascii ','] (stringifyProperties properties)).length < fuel →
        readProperties fuel (List.intercalate [ascii ','] (stringifyProperties properties)
          ++ ascii '\x7d' :: rest) = some (properties, rest)
  | [], hne, _, _, _, _ => absurd rfl hne
  | property :: properties, _, h, 0, rest, hfuel => absurd hfuel (by omega)
  | (key, value) :: properties, _, h, fuel + 1, rest, hfuel => by
      have hlist := readProperties_stringify properties
      have hvalue := readValue_stringify value h.2.1 fuel
      obtain ⟨behind, hsplit, hlast, hmore⟩ := intercalate_append_cons
        (quoteJson key ++ ascii ':' :: stringify value) (stringifyProperties properties)
        (ascii '\x7d') rest
      have htext : quoteJson key ++ ascii ':' :: stringify value ++ behind = ascii '"' ::
          (escapeUnits none key ++ ascii '"' :: ascii ':' :: (stringify value ++ behind)) := by
        simp [quoteJson]
      have hcolon : ∀ tail, skipBlanks (ascii ':' :: tail) = ascii ':' :: tail := fun _ => rfl
      have hquote : ¬ ascii '"' ≠ ascii '"' := fun hne => hne rfl
      have hcolonMark : ¬ ascii ':' ≠ ascii ':' := fun hne => hne rfl
      rw [stringifyProperties, length_intercalate_cons, List.length_append, List.length_cons] at hfuel
      rw [stringifyProperties, hsplit, htext, readProperties, if_neg hquote,
        (readUnits_escapeUnits key _).1]
      simp only [hcolon, if_neg hcolonMark, skipBlanks_stringify h.2.1]
      by_cases hne : properties = []
      · subst hne
        rw [hlast rfl, hvalue _ (by omega) (endsValue_cons (by decide) rest)]
        have hskip : skipBlanks (ascii '\x7d' :: rest) = ascii '\x7d' :: rest := rfl
        simp only [hskip, if_pos]
      · have htexts : stringifyProperties properties ≠ [] := fun heq =>
          hne (stringifyProperties_eq_nil.mp heq)
        have hcomma : ∀ tail, skipBlanks (ascii ',' :: tail) = ascii ',' :: tail := fun _ => rfl
        have hmark : ascii ',' ≠ ascii '\x7d' := by decide
        obtain ⟨tail, htail⟩ := exists_properties_eq hne rest
        have hskip : skipBlanks (ascii '"' :: tail) = ascii '"' :: tail := rfl
        rw [if_neg htexts] at hfuel
        rw [hmore htexts, hvalue _ (by omega) (endsValue_cons (by decide) _)]
        simp only [hcomma, if_neg hmark, if_pos, htail, hskip]
        rw [← htail, hlist hne h.2.2 fuel rest (by omega)]
        rfl

end

/-- A value comes back from its text. -/
theorem parseJson_stringify {value : JsonValue} (h : IsReadable value) :
    parseJson (stringify value) = some value := by
  have hskip := skipBlanks_stringify h []
  have hread := readValue_stringify value h (2 * (stringify value).length + 1) [] (by omega)
    (by simp [EndsValue])
  rw [List.append_nil] at hskip hread
  rw [parseJson, hskip, hread]
  rfl

/-- The text determines the value. -/
theorem stringify_inj {value other : JsonValue} (hvalue : IsReadable value)
    (hother : IsReadable other) (h : stringify value = stringify other) : value = other := by
  have hparse := parseJson_stringify hvalue
  rw [h, parseJson_stringify hother, Option.some.injEq] at hparse
  exact hparse.symm

/-! ### The bytes of a text -/

theorem isWellFormedUnicode_append {s t : JsString} (hs : isWellFormedUnicode s = true)
    (ht : isWellFormedUnicode t = true) : isWellFormedUnicode (s ++ t) = true := by
  induction s using toWellFormed.induct with
  | case1 => exact ht
  | case2 first hhigh next rest hlow ih =>
    simp only [isWellFormedUnicode, hhigh, if_true, hlow, Bool.true_and] at hs
    simpa [isWellFormedUnicode, hhigh, hlow] using ih hs
  | case3 first hhigh next rest hlow ih => simp [isWellFormedUnicode, hhigh, hlow] at hs
  | case4 first hhigh => simp [isWellFormedUnicode, hhigh] at hs
  | case5 first rest hhigh hlow ih =>
    cases rest <;> simp [isWellFormedUnicode, hhigh, hlow] at hs
  | case6 first rest hhigh hlow ih =>
    have hplain : isSurrogate first = false := by simp [isSurrogate, hhigh, hlow]
    rw [isWellFormedUnicode_cons hplain] at hs
    rw [List.cons_append, isWellFormedUnicode_cons hplain]
    exact ih hs

/-- A text of units that are no surrogates. -/
theorem isWellFormedUnicode_of_plain {s : JsString} (h : ∀ unit ∈ s, isSurrogate unit = false) :
    isWellFormedUnicode s = true := by
  induction s with
  | nil => rfl
  | cons unit rest ih =>
    rw [List.forall_mem_cons] at h
    rw [isWellFormedUnicode_cons h.1]
    exact ih h.2

theorem isWellFormedUnicode_unicodeEscape (unit : UInt16) :
    isWellFormedUnicode (unicodeEscape unit) = true := by
  have hhex : ∀ n < 16, isSurrogate (hexUnit n) = false := by decide
  have hlt := unit.toNat_lt
  apply isWellFormedUnicode_of_plain
  intro c hc
  simp only [unicodeEscape, List.mem_cons, List.not_mem_nil, or_false] at hc
  rcases hc with rfl | rfl | rfl | rfl | rfl | rfl
  · decide
  · decide
  · exact hhex _ (by omega)
  · exact hhex _ (by omega)
  · exact hhex _ (by omega)
  · exact hhex _ (by omega)

theorem isWellFormedUnicode_escapeUnit {unit : UInt16} (h : isSurrogate unit = false) :
    isWellFormedUnicode (escapeUnit unit) = true := by
  unfold escapeUnit
  split_ifs with hself
  · rcases hself with rfl | rfl <;> decide
  · decide
  · decide
  · decide
  · decide
  · decide
  · exact isWellFormedUnicode_unicodeEscape unit
  · rw [isWellFormedUnicode_cons h]
    rfl

/-- What is written inside the quotes is well-formed. -/
theorem isWellFormedUnicode_escapeUnits (s : JsString) :
    isWellFormedUnicode (escapeUnits none s) = true ∧
      ∀ high : UInt16, isHighSurrogate high = true →
        isWellFormedUnicode (escapeUnits (some high) s) = true := by
  induction s with
  | nil => exact ⟨rfl, fun high _ => isWellFormedUnicode_unicodeEscape high⟩
  | cons unit rest ih =>
    constructor
    · rw [escapeUnits]
      split
      · rename_i hhigh
        exact ih.2 unit hhigh
      · rename_i hhigh
        split
        · exact isWellFormedUnicode_append (isWellFormedUnicode_unicodeEscape unit) ih.1
        · rename_i hlow
          have hplain : isSurrogate unit = false := by simp [isSurrogate, hhigh, hlow]
          exact isWellFormedUnicode_append (isWellFormedUnicode_escapeUnit hplain) ih.1
    · intro high hhigh
      have hescape := isWellFormedUnicode_unicodeEscape high
      rw [escapeUnits]
      split
      · rename_i hlow
        simp [isWellFormedUnicode, hhigh, hlow, ih.1]
      · rename_i hlow
        split
        · rename_i hnext
          exact isWellFormedUnicode_append hescape (ih.2 unit hnext)
        · rename_i hnext
          have hplain : isSurrogate unit = false := by simp [isSurrogate, hnext, hlow]
          rw [List.append_assoc]
          exact isWellFormedUnicode_append hescape
            (isWellFormedUnicode_append (isWellFormedUnicode_escapeUnit hplain) ih.1)

theorem isWellFormedUnicode_quoteJson (s : JsString) : isWellFormedUnicode (quoteJson s) = true := by
  rw [quoteJson, List.cons_append, isWellFormedUnicode_cons (by decide)]
  exact isWellFormedUnicode_append (isWellFormedUnicode_escapeUnits s).1 (by decide)

theorem isWellFormedUnicode_intercalate {texts : List JsString}
    (h : ∀ text ∈ texts, isWellFormedUnicode text = true) :
    isWellFormedUnicode (List.intercalate [ascii ','] texts) = true := by
  induction texts with
  | nil => rfl
  | cons text texts ih =>
    rw [List.forall_mem_cons] at h
    cases texts with
    | nil => simpa using h.1
    | cons next texts =>
      rw [List.intercalate_cons_cons, List.append_assoc]
      apply isWellFormedUnicode_append h.1
      rw [List.singleton_append, isWellFormedUnicode_cons (by decide)]
      exact ih h.2

mutual

/-- Every text is well-formed. -/
theorem isWellFormedUnicode_stringify : ∀ value : JsonValue,
    isWellFormedUnicode (stringify value) = true
  | .null => isWellFormedUnicode_jsString _
  | .bool _ => isWellFormedUnicode_jsString _
  | .number (.finite _) => isWellFormedUnicode_jsString _
  | .number (.infinite _) => isWellFormedUnicode_jsString _
  | .string value => isWellFormedUnicode_quoteJson value
  | .array elements => by
      rw [stringify, List.cons_append, isWellFormedUnicode_cons (by decide)]
      exact isWellFormedUnicode_append
        (isWellFormedUnicode_intercalate (isWellFormedUnicode_elements elements)) (by decide)
  | .object properties => by
      rw [stringify, List.cons_append, isWellFormedUnicode_cons (by decide)]
      exact isWellFormedUnicode_append
        (isWellFormedUnicode_intercalate (isWellFormedUnicode_properties properties)) (by decide)

theorem isWellFormedUnicode_elements : ∀ elements : List JsonValue,
    ∀ text ∈ stringifyElements elements, isWellFormedUnicode text = true
  | [] => by simp [stringifyElements]
  | element :: rest => by
      rw [stringifyElements, List.forall_mem_cons]
      exact ⟨isWellFormedUnicode_stringify element, isWellFormedUnicode_elements rest⟩

theorem isWellFormedUnicode_properties : ∀ properties : List (JsString × JsonValue),
    ∀ text ∈ stringifyProperties properties, isWellFormedUnicode text = true
  | [] => by simp [stringifyProperties]
  | (key, value) :: rest => by
      have hvalue := isWellFormedUnicode_stringify value
      have hrest := isWellFormedUnicode_properties rest
      rw [stringifyProperties, List.forall_mem_cons]
      refine ⟨isWellFormedUnicode_append (isWellFormedUnicode_quoteJson key) ?_, hrest⟩
      rw [isWellFormedUnicode_cons (by decide)]
      exact hvalue

end

/-- The bytes of a text are decoded to it. -/
theorem decodeUtf8_stringify {value : JsonValue} (h : IsReadable value) :
    decodeUtf8 (encodeUtf8 (stringify value)) = some (stringify value) := by
  apply decodeUtf8_encodeUtf8 (isWellFormedUnicode_stringify value)
  obtain ⟨first, tail, heq, -, -, -, hascii⟩ := exists_stringify_eq h
  rw [heq, List.head?_cons, ne_eq, Option.some.injEq]
  rintro rfl
  revert hascii
  decide

/-- The bytes of a text determine the value. -/
theorem encodeUtf8_stringify_inj {value other : JsonValue} (hvalue : IsReadable value)
    (hother : IsReadable other)
    (h : encodeUtf8 (stringify value) = encodeUtf8 (stringify other)) : value = other := by
  apply stringify_inj hvalue hother
  have hdecode := decodeUtf8_stringify hvalue
  rw [h, decodeUtf8_stringify hother, Option.some.injEq] at hdecode
  exact hdecode.symm

end Ariava.Protocol
