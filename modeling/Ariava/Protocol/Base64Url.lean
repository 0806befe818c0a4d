import Mathlib.Data.List.DropRight
import Ariava.Lib.Sextets
import Ariava.Protocol.CodeUnits
import Ariava.Protocol.RequestSigning
import Ariava.Protocol.WireText

/-!
# `Ariava.Protocol.Base64Url`: the codec over `btoa` and `atob`

`base64UrlEncode` and `base64UrlDecode` of `request-signing.ts`. The platform's `btoa` and `atob`
work on the groups of six bits of `Ariava.Lib.Sextets`; the source changes two characters of their
alphabet and takes the padding off and on.

* `base64UrlEncode_eq`: the text is the groups in the alphabet of base64url, without padding. So
  it is the text that the bound fields have (`base64UrlEncode_eq_wireText`).
* `base64UrlDecode_eq_ok_iff`: what the decoder accepts, and what it returns. The last check of
  the source, that the bytes have this text, does all the work: `atob` itself drops leftover bits
  and blanks.
-/

set_option autoImplicit false

namespace Ariava.Protocol.Base64Url

open Ariava.Lib

/-! ### `btoa` and `atob` -/

/-- The character of a group in the alphabet of `btoa`. -/
def base64Unit (group : Fin 64) : UInt16 :=
  if group.val < 26 then (65 + group.val).toUInt16
  else if group.val < 52 then (71 + group.val).toUInt16
  else if group.val < 62 then (group.val - 4).toUInt16
  else if group.val = 62 then ascii '+'
  else ascii '/'

/-- The group of a character in the alphabet of `atob`. -/
def base64Value? (unit : UInt16) : Option (Fin 64) :=
  (List.finRange 64).find? fun group => decide (base64Unit group = unit)

/-- `btoa` of a string of bytes: the groups, padded to a multiple of four characters. -/
def btoa (bytes : List UInt8) : JsString :=
  let digits := (Sextets.ofBytes bytes).map base64Unit
  digits ++ List.replicate ((4 - digits.length % 4) % 4) (ascii '=')

/-- The blanks that `atob` drops. -/
def isAsciiWhitespace (unit : UInt16) : Bool :=
  decide (unit ∈ [0x09, 0x0a, 0x0c, 0x0d, (0x20 : UInt16)])

/-- One or two padding characters at the end are dropped. -/
def dropPadding (data : JsString) : JsString :=
  if data.getLast? = some (ascii '=') then
    if data.dropLast.getLast? = some (ascii '=') then data.dropLast.dropLast else data.dropLast
  else data

/-- `atob`: the bytes of the characters, or nothing where it throws. -/
def atob (value : JsString) : Option (List UInt8) :=
  let data := value.filter fun unit => !isAsciiWhitespace unit
  let data := if data.length % 4 = 0 then dropPadding data else data
  if data.length % 4 = 1 then none
  else (data.mapM base64Value?).map Sextets.toBytes

/-! ### The codec -/

/-- `value.replace(/from/g, to)`, for one character. -/
def replaceUnit (old new : UInt16) (value : JsString) : JsString :=
  value.map fun unit => if unit = old then new else unit

/-- `base64UrlEncode`. -/
def base64UrlEncode (bytes : List UInt8) : JsString :=
  (replaceUnit (ascii '/') (ascii '_') (replaceUnit (ascii '+') (ascii '-')
    (btoa bytes))).rdropWhile fun unit => decide (unit = ascii '=')

/-- A character of `BASE64URL_RE`. -/
def isBase64UrlUnit (unit : UInt16) : Bool :=
  (decide (ascii 'A' ≤ unit) && decide (unit ≤ ascii 'Z'))
    || (decide (ascii 'a' ≤ unit) && decide (unit ≤ ascii 'z'))
    || (decide (ascii '0' ≤ unit) && decide (unit ≤ ascii '9'))
    || decide (unit = ascii '_') || decide (unit = ascii '-')

/-- `BASE64URL_RE.test(value)`. -/
def isBase64UrlText (value : JsString) : Bool := !value.isEmpty && value.all isBase64UrlUnit

/-- `base64UrlDecode`. -/
def base64UrlDecode (value : JsString) (expectedBytes : Option Nat) (label : String) :
    Except Thrown (List UInt8) := do
  throwIf (value.isEmpty || !isBase64UrlText value || decide (ascii '=' ∈ value))
    (.typeError (label ++ " must be canonical unpadded base64url"))
  let padding := (4 - value.length % 4) % 4
  throwIf (decide (value.length % 4 = 1))
    (.typeError (label ++ " has an invalid base64url length"))
  match atob (replaceUnit (ascii '_') (ascii '/') (replaceUnit (ascii '-') (ascii '+') value)
      ++ List.replicate padding (ascii '=')) with
  | none => .error (.typeError (label ++ " is not valid base64url"))
  | some bytes => do
      throwIf (expectedBytes.any fun expected => decide (bytes.length ≠ expected))
        (.typeError (label ++ " must contain exactly " ++ decimalText (expectedBytes.getD 0)
          ++ " bytes"))
      throwIf (decide (base64UrlEncode bytes ≠ value))
        (.typeError (label ++ " is not canonical base64url"))
      return bytes

/-! ### The alphabets -/

/-- The character of a group in the alphabet of base64url. -/
def base64UrlUnit (group : Fin 64) : UInt16 :=
  if group.val = 62 then ascii '-' else if group.val = 63 then ascii '_' else base64Unit group

theorem base64Value?_base64Unit (group : Fin 64) :
    base64Value? (base64Unit group) = some group := by
  revert group
  decide

/-- What the two replacements of the encoder make of a character. -/
theorem base64UrlUnit_eq (group : Fin 64) :
    (if (if base64Unit group = ascii '+' then ascii '-' else base64Unit group) = ascii '/'
      then ascii '_' else if base64Unit group = ascii '+' then ascii '-' else base64Unit group)
      = base64UrlUnit group := by
  revert group
  decide

/-- What the two replacements of the decoder make of a character. -/
theorem base64Unit_eq (group : Fin 64) :
    (if (if base64UrlUnit group = ascii '-' then ascii '+' else base64UrlUnit group) = ascii '_'
      then ascii '/' else if base64UrlUnit group = ascii '-' then ascii '+'
        else base64UrlUnit group)
      = base64Unit group := by
  revert group
  decide

/-- No character of the alphabets is a blank or the padding. -/
theorem base64Unit_cases (group : Fin 64) :
    isAsciiWhitespace (base64Unit group) = false ∧ base64Unit group ≠ ascii '=' ∧
      base64UrlUnit group ≠ ascii '=' ∧ isBase64UrlUnit (base64UrlUnit group) = true := by
  revert group
  decide

theorem base64UrlUnit_injective : Function.Injective base64UrlUnit := by
  intro group group' h
  have hunit := base64Unit_eq group
  rw [h, base64Unit_eq group'] at hunit
  have hvalue := base64Value?_base64Unit group
  rw [← hunit, base64Value?_base64Unit] at hvalue
  exact (Option.some.inj hvalue).symm

/-! ### Encoding -/

/-- The text of bytes: their groups in the alphabet of base64url. -/
theorem base64UrlEncode_eq (bytes : List UInt8) :
    base64UrlEncode bytes = (Sextets.ofBytes bytes).map base64UrlUnit := by
  have hpadding : replaceUnit (ascii '/') (ascii '_') (replaceUnit (ascii '+') (ascii '-')
      (btoa bytes)) = (Sextets.ofBytes bytes).map base64UrlUnit
        ++ List.replicate ((4 - (Sextets.ofBytes bytes).length % 4) % 4) (ascii '=') := by
    simp only [replaceUnit, btoa, List.map_append, List.map_map, List.map_replicate,
      List.length_map]
    congr 1
    exact List.map_congr_left fun group _ => base64UrlUnit_eq group
  rw [base64UrlEncode, hpadding]
  -- The padding goes, and the last group stays.
  induction (4 - (Sextets.ofBytes bytes).length % 4) % 4 with
  | zero =>
    rw [List.replicate_zero, List.append_nil, List.rdropWhile_eq_self_iff]
    intro hne hlast
    have hmem := List.getLast_mem hne
    obtain ⟨group, -, hgroup⟩ := List.mem_map.mp hmem
    rw [decide_eq_true_eq] at hlast
    exact (base64Unit_cases group).2.2.1 (hgroup.trans hlast)
  | succ n ih =>
    rw [List.replicate_succ', ← List.append_assoc, List.rdropWhile_concat_pos _ _ _ (by simp), ih]

theorem base64UrlEncode_injective : Function.Injective base64UrlEncode := by
  intro bytes bytes' h
  rw [base64UrlEncode_eq, base64UrlEncode_eq] at h
  exact Sextets.ofBytes_injective (List.map_injective_iff.mpr base64UrlUnit_injective h)

/-- One or two padding characters behind the digits are dropped, and no digit. -/
theorem dropPadding_append {digits : JsString} (h : digits.getLast? ≠ some (ascii '='))
    {count : Nat} (hcount : count ≤ 2) :
    dropPadding (digits ++ List.replicate count (ascii '=')) = digits := by
  match count, hcount with
  | 0, _ => rw [List.replicate_zero, List.append_nil, dropPadding, if_neg h]
  | 1, _ => simp [dropPadding, h]
  | 2, _ =>
    rw [List.replicate_succ', ← List.append_assoc, dropPadding, List.dropLast_concat]
    simp

/-- `atob` undoes `btoa`. -/
theorem atob_btoa (bytes : List UInt8) : atob (btoa bytes) = some bytes := by
  have hmod := Sextets.length_ofBytes_mod bytes
  have hbytes := Sextets.toBytes_ofBytes bytes
  generalize hgroups : Sextets.ofBytes bytes = groups at hmod hbytes
  have hfilter : (btoa bytes).filter (fun unit => !isAsciiWhitespace unit) = btoa bytes := by
    rw [List.filter_eq_self]
    intro unit hunit
    rw [btoa, hgroups, List.mem_append, List.mem_map, List.mem_replicate] at hunit
    rcases hunit with ⟨group, -, rfl⟩ | ⟨-, rfl⟩
    · simp [(base64Unit_cases group).1]
    · decide
  have hlength : (btoa bytes).length % 4 = 0 := by
    simp only [btoa, hgroups, List.length_append, List.length_map, List.length_replicate]
    omega
  have hlast : (groups.map base64Unit).getLast? ≠ some (ascii '=') := by
    intro heq
    obtain ⟨group, -, hgroup⟩ := List.mem_map.mp (List.mem_of_getLast? heq)
    exact (base64Unit_cases group).2.1 hgroup
  -- At most two characters of padding are there, as no group is left alone.
  have hdrop : dropPadding (btoa bytes) = groups.map base64Unit := by
    rw [btoa, hgroups, List.length_map]
    exact dropPadding_append hlast (by omega)
  have hmap : (groups.map base64Unit).mapM base64Value? = some groups := by
    clear hgroups hmod hbytes hlast hdrop
    induction groups with
    | nil => rfl
    | cons group rest ih => simp [base64Value?_base64Unit, ih]
  simp only [atob, hfilter, hlength, if_true, hdrop, List.length_map, hmod, if_false, hmap,
    Option.map_some, hbytes]

/-- What the decoder gives to `atob` for the text of bytes is what `btoa` makes of them. -/
theorem padded_base64UrlEncode (bytes : List UInt8) :
    replaceUnit (ascii '_') (ascii '/') (replaceUnit (ascii '-') (ascii '+')
        (base64UrlEncode bytes))
      ++ List.replicate ((4 - (base64UrlEncode bytes).length % 4) % 4) (ascii '=')
      = btoa bytes := by
  rw [base64UrlEncode_eq]
  simp only [replaceUnit, btoa, List.map_map, List.length_map]
  congr 1
  exact List.map_congr_left fun group _ => base64Unit_eq group

/-! ### Decoding -/

/-- The decoder accepts the text of bytes, when there are some and as many as expected, and
returns them. It accepts nothing else. -/
theorem base64UrlDecode_eq_ok_iff {value : JsString} {expectedBytes : Option Nat}
    {label : String} {bytes : List UInt8} :
    base64UrlDecode value expectedBytes label = .ok bytes ↔
      base64UrlEncode bytes = value ∧ bytes ≠ [] ∧
        ∀ expected ∈ expectedBytes, bytes.length = expected := by
  have hexpected : ∀ decoded : List UInt8,
      (expectedBytes.any fun expected => decide (decoded.length ≠ expected)) = false ↔
        ∀ expected ∈ expectedBytes, decoded.length = expected := by
    intro decoded
    cases expectedBytes <;> simp
  unfold base64UrlDecode
  simp only [check_bind_eq_ok, throwIf_eq_ok, Bool.or_eq_false_iff, Bool.not_eq_false',
    decide_eq_false_iff_not]
  constructor
  · rintro ⟨⟨⟨hne, -⟩, -⟩, -, h⟩
    cases hatob : atob (replaceUnit (ascii '_') (ascii '/') (replaceUnit (ascii '-') (ascii '+')
        value) ++ List.replicate ((4 - value.length % 4) % 4) (ascii '=')) with
    | none =>
      rw [hatob] at h
      cases h
    | some decoded =>
      rw [hatob] at h
      simp only [check_bind_eq_ok, throwIf_eq_ok, hexpected, decide_eq_false_iff_not,
        Decidable.not_not] at h
      obtain ⟨hlength, htext, hdecoded⟩ := h
      cases hdecoded
      refine ⟨htext, ?_, hlength⟩
      rintro rfl
      rw [← htext] at hne
      simp [base64UrlEncode_eq, Sextets.ofBytes] at hne
  · rintro ⟨rfl, hne, hlength⟩
    have hgroups : Sextets.ofBytes bytes ≠ [] := fun h => hne (Sextets.ofBytes_eq_nil_iff.mp h)
    have hempty : (base64UrlEncode bytes).isEmpty = false := by
      simpa [base64UrlEncode_eq] using hgroups
    have halphabet : isBase64UrlText (base64UrlEncode bytes) = true := by
      rw [isBase64UrlText, hempty, Bool.not_false, Bool.true_and, List.all_eq_true]
      intro unit hunit
      rw [base64UrlEncode_eq] at hunit
      obtain ⟨group, -, rfl⟩ := List.mem_map.mp hunit
      exact (base64Unit_cases group).2.2.2
    have hpadding : ascii '=' ∉ base64UrlEncode bytes := by
      intro hmem
      rw [base64UrlEncode_eq] at hmem
      obtain ⟨group, -, hgroup⟩ := List.mem_map.mp hmem
      exact (base64Unit_cases group).2.2.1 hgroup
    have hmod : (base64UrlEncode bytes).length % 4 ≠ 1 := by
      rw [base64UrlEncode_eq, List.length_map]
      exact Sextets.length_ofBytes_mod bytes
    refine ⟨⟨⟨hempty, halphabet⟩, hpadding⟩, hmod, ?_⟩
    rw [padded_base64UrlEncode, atob_btoa]
    simp only [check_bind_eq_ok, throwIf_eq_ok, hexpected]
    exact ⟨hlength, by simp, rfl⟩

/-! ### The other models of the codec -/

/-- The text that the bound fields have. -/
theorem base64UrlEncode_eq_wireText (bytes : List UInt8) :
    base64UrlEncode bytes = jsString (Protocol.base64UrlEncode bytes) := by
  have hunit : ∀ group : Fin 64,
      utf16Units (base64UrlChar group.val) = [base64UrlUnit group] := by decide
  have hchars : ∀ bytes : List UInt8,
      (base64UrlChars bytes).flatMap utf16Units = (Sextets.ofBytes bytes).map base64UrlUnit := by
    intro bytes
    have hgroup : ∀ m n : Nat, m = n % 64 → utf16Units (base64UrlChar m)
        = [base64UrlUnit (Fin.ofNat 64 n)] := by
      rintro m n rfl
      exact hunit (Fin.ofNat 64 n)
    induction bytes using Sextets.ofBytes.induct with
    | case1 => rfl
    | case2 a =>
      have ha := a.toNat_lt
      simp only [base64UrlChars, Sextets.ofBytes, List.flatMap_cons, List.map_cons]
      rw [hgroup (a.toNat / 4) (a.toNat / 4) (by omega),
        hgroup (a.toNat % 4 * 16) (a.toNat * 16) (by omega)]
      rfl
    | case3 a b =>
      have ha := a.toNat_lt
      have hb := b.toNat_lt
      simp only [base64UrlChars, Sextets.ofBytes, List.flatMap_cons, List.map_cons]
      rw [hgroup (a.toNat / 4) (a.toNat / 4) (by omega),
        hgroup (a.toNat % 4 * 16 + b.toNat / 16) (a.toNat * 16 + b.toNat / 16) (by omega),
        hgroup (b.toNat % 16 * 4) (b.toNat * 4) (by omega)]
      rfl
    | case4 a b c rest ih =>
      have ha := a.toNat_lt
      have hb := b.toNat_lt
      have hc := c.toNat_lt
      simp only [base64UrlChars, Sextets.ofBytes, List.flatMap_cons, List.map_cons, ih]
      rw [hgroup (a.toNat / 4) (a.toNat / 4) (by omega),
        hgroup (a.toNat % 4 * 16 + b.toNat / 16) (a.toNat * 16 + b.toNat / 16) (by omega),
        hgroup (b.toNat % 16 * 4 + c.toNat / 64) (b.toNat * 4 + c.toNat / 64) (by omega),
        hgroup (c.toNat % 64) c.toNat rfl]
      rfl
  rw [base64UrlEncode_eq, jsString, Protocol.base64UrlEncode, String.toList_ofList, hchars]

end Ariava.Protocol.Base64Url
