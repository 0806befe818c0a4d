import Mathlib.Data.List.Basic

/-!
# `Ariava.Lib.Sextets`: bytes as groups of six bits

Three bytes are four groups of six bits. The last one or two bytes fill two or three groups, and
the bits that are missing are zero. The other direction drops the bits that fill no byte.

- `toBytes_ofBytes`: the groups of bytes give the bytes back;
- `ofBytes_toBytes_iff`: bytes give the groups back exactly when the groups are canonical: no
  group is left alone, and the bits that fill no byte are zero.
-/

set_option autoImplicit false

namespace Ariava.Lib.Sextets

/-- The groups of bytes, the first bits first. -/
def ofBytes : List UInt8 → List (Fin 64)
  | [] => []
  | [a] => [Fin.ofNat 64 (a.toNat / 4), Fin.ofNat 64 (a.toNat * 16)]
  | [a, b] =>
      [Fin.ofNat 64 (a.toNat / 4), Fin.ofNat 64 (a.toNat * 16 + b.toNat / 16),
        Fin.ofNat 64 (b.toNat * 4)]
  | a :: b :: c :: rest =>
      Fin.ofNat 64 (a.toNat / 4) :: Fin.ofNat 64 (a.toNat * 16 + b.toNat / 16)
        :: Fin.ofNat 64 (b.toNat * 4 + c.toNat / 64) :: Fin.ofNat 64 c.toNat :: ofBytes rest

/-- The bytes of groups. Bits that fill no byte are dropped. -/
def toBytes : List (Fin 64) → List UInt8
  | [] => []
  | [_] => []
  | [x, y] => [UInt8.ofNat (x.val * 4 + y.val / 16)]
  | [x, y, z] => [UInt8.ofNat (x.val * 4 + y.val / 16), UInt8.ofNat (y.val * 16 + z.val / 4)]
  | x :: y :: z :: w :: rest =>
      UInt8.ofNat (x.val * 4 + y.val / 16) :: UInt8.ofNat (y.val * 16 + z.val / 4)
        :: UInt8.ofNat (z.val * 64 + w.val) :: toBytes rest

/-- The groups of some bytes: none is left alone, and the bits that fill no byte are zero. -/
def isCanonical : List (Fin 64) → Bool
  | [] => true
  | [_] => false
  | [_, y] => decide (y.val % 16 = 0)
  | [_, _, z] => decide (z.val % 4 = 0)
  | _ :: _ :: _ :: _ :: rest => isCanonical rest

theorem toBytes_ofBytes (bytes : List UInt8) : toBytes (ofBytes bytes) = bytes := by
  have hbyte : ∀ a : UInt8, a.toNat < 256 := fun a => a.toNat_lt
  have hofNat : ∀ (a : UInt8) (n : Nat), n % 256 = a.toNat → UInt8.ofNat n = a := by
    intro a n h
    exact UInt8.toNat_inj.mp (by simpa using h)
  induction bytes using ofBytes.induct with
  | case1 => rfl
  | case2 a =>
    have ha := hbyte a
    simp only [ofBytes, toBytes, Fin.ofNat, List.cons.injEq, and_true]
    exact hofNat a _ (by omega)
  | case3 a b =>
    have ha := hbyte a
    have hb := hbyte b
    simp only [ofBytes, toBytes, Fin.ofNat, List.cons.injEq, and_true]
    exact ⟨hofNat a _ (by omega), hofNat b _ (by omega)⟩
  | case4 a b c rest ih =>
    have ha := hbyte a
    have hb := hbyte b
    have hc := hbyte c
    simp only [ofBytes, toBytes, Fin.ofNat, ih, List.cons.injEq, and_true]
    exact ⟨hofNat a _ (by omega), hofNat b _ (by omega), hofNat c _ (by omega)⟩

theorem isCanonical_ofBytes (bytes : List UInt8) : isCanonical (ofBytes bytes) = true := by
  induction bytes using ofBytes.induct with
  | case1 => rfl
  | case2 a =>
    simp only [ofBytes, isCanonical, Fin.ofNat, decide_eq_true_eq]
    omega
  | case3 a b =>
    simp only [ofBytes, isCanonical, Fin.ofNat, decide_eq_true_eq]
    omega
  | case4 a b c rest ih => exact ih

/-- The bytes of canonical groups have these groups. -/
theorem ofBytes_toBytes {groups : List (Fin 64)} (h : isCanonical groups = true) :
    ofBytes (toBytes groups) = groups := by
  induction groups using toBytes.induct with
  | case1 => rfl
  | case2 x => cases h
  | case3 x y =>
    simp only [isCanonical, decide_eq_true_eq] at h
    have hx := x.isLt
    have hy := y.isLt
    simp only [toBytes, ofBytes, UInt8.toNat_ofNat', List.cons.injEq, and_true, Fin.ext_iff,
      Fin.ofNat]
    omega
  | case4 x y z =>
    simp only [isCanonical, decide_eq_true_eq] at h
    have hx := x.isLt
    have hy := y.isLt
    have hz := z.isLt
    simp only [toBytes, ofBytes, UInt8.toNat_ofNat', List.cons.injEq, and_true, Fin.ext_iff,
      Fin.ofNat]
    omega
  | case5 x y z w rest ih =>
    have hx := x.isLt
    have hy := y.isLt
    have hz := z.isLt
    have hw := w.isLt
    simp only [toBytes, ofBytes, ih h, UInt8.toNat_ofNat', List.cons.injEq, and_true,
      Fin.ext_iff, Fin.ofNat]
    omega

/-- The canonical groups are those that bytes give back. -/
theorem ofBytes_toBytes_iff {groups : List (Fin 64)} :
    ofBytes (toBytes groups) = groups ↔ isCanonical groups = true := by
  constructor
  · intro h
    rw [← h]
    exact isCanonical_ofBytes _
  · exact ofBytes_toBytes

theorem ofBytes_eq_nil_iff {bytes : List UInt8} : ofBytes bytes = [] ↔ bytes = [] := by
  constructor
  · intro h
    rw [← toBytes_ofBytes bytes, h]
    rfl
  · rintro rfl
    rfl

theorem ofBytes_injective : Function.Injective ofBytes :=
  Function.LeftInverse.injective toBytes_ofBytes

/-- A number of groups that leaves one alone has no bytes. -/
theorem length_ofBytes_mod (bytes : List UInt8) : (ofBytes bytes).length % 4 ≠ 1 := by
  induction bytes using ofBytes.induct with
  | case4 a b c rest ih =>
    simp only [ofBytes, List.length_cons]
    omega
  | _ => simp [ofBytes]

theorem length_toBytes (groups : List (Fin 64)) :
    (toBytes groups).length = groups.length * 3 / 4 := by
  induction groups using toBytes.induct with
  | case5 x y z w rest ih =>
    simp only [toBytes, List.length_cons, ih]
    omega
  | _ => simp [toBytes]

theorem length_ofBytes (bytes : List UInt8) :
    (ofBytes bytes).length = (bytes.length * 4 + 2) / 3 := by
  induction bytes using ofBytes.induct with
  | case4 a b c rest ih =>
    simp only [ofBytes, List.length_cons, ih]
    omega
  | _ => simp [ofBytes]

end Ariava.Lib.Sextets
