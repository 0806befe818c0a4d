import Ariava.Protocol.Base64Url

/-!
# `Ariava.Proofs.CanonicalBase64Url`: one text for each byte string

`base64UrlDecode` undoes `base64UrlEncode`, and it accepts a text only when it is the text of the
bytes it returns. So no value has a second spelling: no padding, no foreign character, and no bit
set that fills no byte (`accepted_iff_canonical`).

The empty byte string is the exception. Its text is empty, and the decoder refuses an empty text
(`not_canonicalCodec_of_empty`).
-/

set_option autoImplicit false

namespace Ariava.Proofs.CanonicalBase64Url

open Ariava.Lib
open Ariava.Protocol
open Ariava.Protocol.Base64Url

/-! ### The spelling of an accepted text -/

/-- The groups of a text: its characters are in the alphabet of base64url. -/
theorem base64UrlValue?_eq_some_iff {unit : UInt16} {n : Nat} :
    base64UrlValue? unit = some n ↔ ∃ group : Fin 64, group.val = n ∧ base64UrlUnit group = unit := by
  constructor
  · intro h
    have hunit : ∀ m : Nat, m = unit.toNat → m.toUInt16 = unit := by
      rintro m rfl
      simp
    simp only [base64UrlValue?, UInt16.le_iff_toNat_le, UInt16.reduceToNat] at h
    -- One case for each range of the alphabet, and the two marks.
    split at h
    · cases h
      refine ⟨⟨unit.toNat - 0x41, by omega⟩, rfl, ?_⟩
      simp only [base64UrlUnit, base64Unit]
      rw [if_neg (by omega), if_neg (by omega), if_pos (by omega)]
      exact hunit _ (by omega)
    split at h
    · cases h
      refine ⟨⟨unit.toNat - 0x61 + 26, by omega⟩, rfl, ?_⟩
      simp only [base64UrlUnit, base64Unit]
      rw [if_neg (by omega), if_neg (by omega), if_neg (by omega), if_pos (by omega)]
      exact hunit _ (by omega)
    split at h
    · cases h
      refine ⟨⟨unit.toNat - 0x30 + 52, by omega⟩, rfl, ?_⟩
      simp only [base64UrlUnit, base64Unit]
      rw [if_neg (by omega), if_neg (by omega), if_neg (by omega), if_neg (by omega),
        if_pos (by omega)]
      exact hunit _ (by omega)
    split at h
    · next hdash =>
      cases h
      exact ⟨62, rfl, hdash.symm⟩
    split at h
    · next hunderscore =>
      cases h
      exact ⟨63, rfl, hunderscore.symm⟩
    · cases h
  · rintro ⟨group, rfl, rfl⟩
    revert group
    decide

theorem mapM_base64UrlValue?_eq_some_iff {value : JsString} {values : List Nat} :
    value.mapM base64UrlValue? = some values ↔
      ∃ groups : List (Fin 64), groups.map Fin.val = values ∧ groups.map base64UrlUnit = value := by
  induction value generalizing values with
  | nil =>
    constructor
    · intro h
      cases h
      exact ⟨[], rfl, rfl⟩
    · rintro ⟨groups, rfl, hvalue⟩
      rw [List.map_eq_nil_iff.mp hvalue]
      rfl
  | cons unit rest ih =>
    rw [List.mapM_cons]
    constructor
    · intro h
      obtain ⟨n, hn, h⟩ := Option.bind_eq_some_iff.mp h
      obtain ⟨restValues, hrest, h⟩ := Option.bind_eq_some_iff.mp h
      cases h
      obtain ⟨group, rfl, rfl⟩ := base64UrlValue?_eq_some_iff.mp hn
      obtain ⟨groups, rfl, rfl⟩ := ih.mp hrest
      exact ⟨group :: groups, rfl, rfl⟩
    · rintro ⟨groups, rfl, hvalue⟩
      cases groups with
      | nil => cases hvalue
      | cons group groups =>
        rw [List.map_cons, List.cons.injEq] at hvalue
        have hunit : base64UrlValue? unit = some group.val :=
          base64UrlValue?_eq_some_iff.mpr ⟨group, rfl, hvalue.1⟩
        rw [hunit, ih.mpr ⟨groups, rfl, hvalue.2⟩]
        rfl

/-- The bits of the last group that fill no byte. -/
def leftOver (groups : List (Fin 64)) : Nat :=
  if groups.length % 4 = 2 then (groups.map Fin.val).getLastD 0 % 16
  else if groups.length % 4 = 3 then (groups.map Fin.val).getLastD 0 % 4
  else 0

/-- Groups are canonical when none is left alone and no bit is left over. -/
theorem isCanonical_iff {groups : List (Fin 64)} :
    Sextets.isCanonical groups = true ↔ groups.length % 4 ≠ 1 ∧ leftOver groups = 0 := by
  induction groups using Sextets.toBytes.induct with
  | case1 => simp [Sextets.isCanonical, leftOver]
  | case2 x => simp [Sextets.isCanonical]
  | case3 x y => simp [Sextets.isCanonical, leftOver]
  | case4 x y z => simp [Sextets.isCanonical, leftOver]
  | case5 x y z w rest ih =>
    have hlength : (x :: y :: z :: w :: rest).length % 4 = rest.length % 4 := by
      simp only [List.length_cons]
      omega
    -- The last group is that of the rest, unless the rest is empty and nothing is left over.
    have hleft : leftOver (x :: y :: z :: w :: rest) = leftOver rest := by
      cases rest with
      | nil => simp [leftOver]
      | cons next rest => simp only [leftOver, hlength, List.map_cons, List.getLastD_cons]
    rw [Sextets.isCanonical, ih, hlength, hleft]

/-- The decoder accepts the texts with a byte count, and the bytes are as many. -/
theorem base64UrlByteCount?_eq_some_iff {value : JsString} {label : String} {count : Nat} :
    base64UrlByteCount? value = some count ↔
      ∃ bytes, base64UrlDecode value none label = .ok bytes ∧ bytes.length = count := by
  simp only [base64UrlDecode_eq_ok_iff, Option.mem_def, reduceCtorEq, false_imp_iff,
    implies_true, and_true]
  constructor
  · intro h
    rw [base64UrlByteCount?] at h
    cases hvalues : value.mapM base64UrlValue? with
    | none =>
      rw [hvalues] at h
      cases h
    | some values =>
      obtain ⟨groups, rfl, rfl⟩ := mapM_base64UrlValue?_eq_some_iff.mp hvalues
      rw [hvalues] at h
      simp only [List.length_map, Option.ite_none_left_eq_some, Option.some.injEq, not_or] at h
      obtain ⟨⟨hne, hmod, hleft⟩, hcount⟩ := h
      have hcanonical : Sextets.isCanonical groups = true :=
        isCanonical_iff.mpr ⟨hmod, Decidable.not_not.mp hleft⟩
      refine ⟨Sextets.toBytes groups, ⟨?_, ?_⟩, ?_⟩
      · rw [base64UrlEncode_eq, Sextets.ofBytes_toBytes hcanonical]
      · intro hnil
        have hgroups := Sextets.ofBytes_toBytes hcanonical
        rw [hnil] at hgroups
        exact hne (by rw [← hgroups]; rfl)
      · rw [Sextets.length_toBytes]
        exact hcount
  · rintro ⟨bytes, ⟨rfl, hne⟩, rfl⟩
    have hgroups : Sextets.ofBytes bytes ≠ [] := fun h => hne (Sextets.ofBytes_eq_nil_iff.mp h)
    obtain ⟨hmod, hleft⟩ := isCanonical_iff.mp (Sextets.isCanonical_ofBytes bytes)
    have hlength := Sextets.length_toBytes (Sextets.ofBytes bytes)
    rw [Sextets.toBytes_ofBytes] at hlength
    have hvalues := mapM_base64UrlValue?_eq_some_iff.mpr
      ⟨Sextets.ofBytes bytes, rfl, (base64UrlEncode_eq bytes).symm⟩
    rw [base64UrlByteCount?, hvalues]
    simp only [List.length_map, leftOver] at hleft ⊢
    rw [hleft]
    simp [hgroups, hmod, hlength]

/-! ### The codec -/

/-- The codec is canonical for some byte strings: decoding undoes encoding, the decoder accepts
the texts of these byte strings of the expected length and no other text, and an accepted text is
in the alphabet, unpadded and without leftover bits. -/
structure CanonicalCodec (allowed : List UInt8 → Prop) : Prop where
  roundTrip : ∀ bytes label, allowed bytes →
    base64UrlDecode (Base64Url.base64UrlEncode bytes) none label = .ok bytes
  accepted_iff_encoded : ∀ value expectedBytes label,
    (∃ bytes, base64UrlDecode value expectedBytes label = .ok bytes) ↔
      ∃ bytes, allowed bytes ∧ (∀ expected ∈ expectedBytes, bytes.length = expected) ∧
        Base64Url.base64UrlEncode bytes = value
  accepted_iff_canonical : ∀ value label,
    (∃ bytes, base64UrlDecode value none label = .ok bytes) ↔
      (base64UrlByteCount? value).isSome = true

/-- The codec is canonical for the byte strings that are not empty. -/
theorem canonicalCodec_nonempty : CanonicalCodec fun bytes => bytes ≠ [] where
  roundTrip bytes label hne := by
    rw [base64UrlDecode_eq_ok_iff]
    exact ⟨rfl, hne, by simp⟩
  accepted_iff_encoded value expectedBytes label := by
    constructor
    · rintro ⟨bytes, h⟩
      obtain ⟨htext, hne, hlength⟩ := base64UrlDecode_eq_ok_iff.mp h
      exact ⟨bytes, hne, hlength, htext⟩
    · rintro ⟨bytes, hne, hlength, htext⟩
      exact ⟨bytes, base64UrlDecode_eq_ok_iff.mpr ⟨htext, hne, hlength⟩⟩
  accepted_iff_canonical value label := by
    rw [Option.isSome_iff_exists]
    constructor
    · rintro ⟨bytes, h⟩
      exact ⟨bytes.length, base64UrlByteCount?_eq_some_iff.mpr ⟨bytes, h, rfl⟩⟩
    · rintro ⟨count, h⟩
      have hdecode : ∃ bytes, base64UrlDecode value none label = .ok bytes ∧ bytes.length = count :=
        base64UrlByteCount?_eq_some_iff.mp h
      obtain ⟨bytes, hbytes, -⟩ := hdecode
      exact ⟨bytes, hbytes⟩

/-- The text of the empty byte string is not accepted. -/
theorem not_canonicalCodec_of_empty : ¬ CanonicalCodec fun _ => True := by
  intro h
  have hempty := h.roundTrip [] "base64url value" trivial
  exact (base64UrlDecode_eq_ok_iff.mp hempty).2.1 rfl

end Ariava.Proofs.CanonicalBase64Url
