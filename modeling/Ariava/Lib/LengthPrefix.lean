import Mathlib.Data.List.Basic
import Mathlib.Logic.Function.Basic

/-!
# `Ariava.Lib.LengthPrefix`: length-prefixed encodings are uniquely decodable

A field is framed as its length, a separator, its symbols and a terminator. The lengths are
written by `lengthText`, which is injective and never uses the separator. Then the frame of a
field can be read off the front of any list of symbols, so `frame_append_inj` recovers the field
and what follows it, and `encode_injective` recovers the whole list of fields.

The fields may hold the separator and the terminator: their lengths say where they end.
-/

set_option autoImplicit false

namespace Ariava.Lib.LengthPrefix

variable {α : Type*}

/-- How lengths are written: an injective text that never uses the separator. -/
structure Format (α : Type*) where
  lengthText : Nat → List α
  separator : α
  terminator : α
  lengthText_injective : Function.Injective lengthText
  separator_notMem : ∀ n, separator ∉ lengthText n

namespace Format

/-- The frame of one field. -/
def frame (format : Format α) (field : List α) : List α :=
  format.lengthText field.length ++ format.separator :: field ++ [format.terminator]

/-- The frames of the fields, one after the other. -/
def encode (format : Format α) (fields : List (List α)) : List α :=
  fields.flatMap format.frame

end Format

/-- The part of a list before the first separator is determined by the list. -/
theorem append_cons_inj_of_notMem {separator : α} {left left' right right' : List α}
    (hleft : separator ∉ left) (hleft' : separator ∉ left')
    (h : left ++ separator :: right = left' ++ separator :: right') :
    left = left' ∧ right = right' := by
  induction left generalizing left' with
  | nil =>
    cases left' with
    | nil => simpa using h
    | cons a rest =>
      rw [List.nil_append, List.cons_append, List.cons.injEq] at h
      exact absurd (h.1 ▸ List.mem_cons_self) hleft'
  | cons a rest ih =>
    cases left' with
    | nil =>
      rw [List.nil_append, List.cons_append, List.cons.injEq] at h
      exact absurd (h.1 ▸ List.mem_cons_self) hleft
    | cons b rest' =>
      rw [List.cons_append, List.cons_append, List.cons.injEq] at h
      obtain ⟨hhead, htail⟩ := h
      obtain ⟨hrest, hright⟩ := ih (fun hmem => hleft (List.mem_cons_of_mem _ hmem))
        (fun hmem => hleft' (List.mem_cons_of_mem _ hmem)) htail
      exact ⟨by rw [hhead, hrest], hright⟩

variable (format : Format α)

/-- A frame at the front of a list determines its field and what follows it. -/
theorem frame_append_inj {field field' rest rest' : List α}
    (h : format.frame field ++ rest = format.frame field' ++ rest') :
    field = field' ∧ rest = rest' := by
  simp only [Format.frame, List.append_assoc, List.cons_append, List.nil_append] at h
  obtain ⟨htext, hbody⟩ := append_cons_inj_of_notMem (format.separator_notMem _)
    (format.separator_notMem _) h
  -- The two lengths are equal, so the bodies end at the same place.
  have hlength : field.length = field'.length := format.lengthText_injective htext
  obtain ⟨hfield, hrest⟩ := List.append_inj hbody hlength
  exact ⟨hfield, List.tail_eq_of_cons_eq hrest⟩

/-- A frame is never empty. -/
theorem frame_ne_nil (field : List α) : format.frame field ≠ [] := by
  simp [Format.frame]

/-- The encoding of a list of fields determines the list. -/
theorem encode_injective : Function.Injective format.encode := by
  intro fields
  induction fields with
  | nil =>
    intro fields' h
    cases fields' with
    | nil => rfl
    | cons field rest =>
      have hnil : format.frame field ++ format.encode rest = [] := h.symm
      exact absurd (List.append_eq_nil_iff.mp hnil).1 (frame_ne_nil format field)
  | cons field rest ih =>
    intro fields' h
    cases fields' with
    | nil =>
      have hnil : format.frame field ++ format.encode rest = [] := h
      exact absurd (List.append_eq_nil_iff.mp hnil).1 (frame_ne_nil format field)
    | cons field' rest' =>
      have hframes : format.frame field ++ format.encode rest
          = format.frame field' ++ format.encode rest' := h
      obtain ⟨hfield, hrest⟩ := frame_append_inj format hframes
      rw [hfield, ih hrest]

end Ariava.Lib.LengthPrefix
