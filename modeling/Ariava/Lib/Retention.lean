import Mathlib.Data.List.Perm.Basic
import Mathlib.Data.List.Nodup

/-!
# `Ariava.Lib.Retention`: a sorted window with protected items

`retain capacity isProtected le items` keeps the protected items, fills the rest of the window
with the first others, and sorts what it kept. Such a window is written again and again: a new item
comes in front, or an item gains or loses its protection, and then `retain` runs.

- `mem_retain_of_protected`: a protected item stays.
- `length_retain_le`: there are no more items than the capacity, or than are protected.
- `map_retain_nodup`: distinct keys stay distinct.
- `retain_pairwise`: the window is sorted.
- `related_of_evicted`: an unprotected item that stays came before every one that goes. In a
  sorted list it ranks no lower.
-/

set_option autoImplicit false

namespace Ariava.Lib.Retention

variable {α β : Type}

/-- The protected items and the first others, sorted. -/
def retain (capacity : Nat) (isProtected : α → Bool) (le : α → α → Bool) (items : List α) :
    List α :=
  let retained := items.filter isProtected
  let others := items.filter fun item => !isProtected item
  (retained ++ others.take (capacity - retained.length)).mergeSort le

variable {capacity : Nat} {isProtected : α → Bool} {le : α → α → Bool} {items : List α}
  {a b : α}

theorem mem_retain_iff : a ∈ retain capacity isProtected le items ↔
    (a ∈ items ∧ isProtected a = true) ∨
      a ∈ (items.filter fun item => !isProtected item).take
        (capacity - (items.filter isProtected).length) := by
  rw [retain, List.mem_mergeSort, List.mem_append, List.mem_filter]

theorem mem_of_mem_retain (h : a ∈ retain capacity isProtected le items) : a ∈ items := by
  rcases mem_retain_iff.mp h with h | h
  · exact h.1
  · exact (List.mem_filter.mp (List.mem_of_mem_take h)).1

theorem mem_retain_of_protected (h : a ∈ items) (hprotected : isProtected a = true) :
    a ∈ retain capacity isProtected le items :=
  mem_retain_iff.mpr (.inl ⟨h, hprotected⟩)

/-- The protected items of the window are those of the list. -/
theorem filter_retain_perm : ((retain capacity isProtected le items).filter isProtected).Perm
    (items.filter isProtected) := by
  have hnone : ((items.filter fun item => !isProtected item).take
      (capacity - (items.filter isProtected).length)).filter isProtected = [] := by
    refine List.filter_eq_nil_iff.mpr fun item hitem => ?_
    have hunprotected := (List.mem_filter.mp (List.mem_of_mem_take hitem)).2
    simpa using hunprotected
  refine ((List.mergeSort_perm _ le).filter isProtected).trans ?_
  rw [List.filter_append, hnone, List.append_nil, List.filter_filter]
  simp

/-- The window holds no more than its capacity, unless more is protected. -/
theorem length_retain_le (capacity : Nat) (isProtected : α → Bool) (le : α → α → Bool)
    (items : List α) : (retain capacity isProtected le items).length
      ≤ max capacity ((retain capacity isProtected le items).filter isProtected).length := by
  rw [filter_retain_perm.length_eq, retain, List.length_mergeSort, List.length_append,
    List.length_take]
  omega

/-- The window is a part of the list, in another order. -/
theorem retain_subperm (capacity : Nat) (isProtected : α → Bool) (le : α → α → Bool)
    (items : List α) : ∃ part, (retain capacity isProtected le items).Perm part ∧
      part.Sublist (items.filter isProtected ++ items.filter fun item => !isProtected item) :=
  ⟨_, List.mergeSort_perm _ le, (List.Sublist.refl _).append (List.take_sublist _ _)⟩

/-- Distinct keys stay distinct. -/
theorem map_retain_nodup {key : α → β} (h : (items.map key).Nodup) :
    ((retain capacity isProtected le items).map key).Nodup := by
  obtain ⟨part, hperm, hsublist⟩ := retain_subperm capacity isProtected le items
  have hall : (items.filter isProtected ++ items.filter fun item => !isProtected item).Perm items :=
    List.filter_append_perm isProtected items
  exact (hperm.map key).nodup_iff.mpr
    ((hsublist.map key).nodup ((hall.map key).nodup_iff.mpr h))

theorem retain_pairwise (htrans : ∀ a b c, le a b = true → le b c = true → le a c = true)
    (htotal : ∀ a b, (le a b || le b a) = true) :
    (retain capacity isProtected le items).Pairwise fun a b => le a b = true :=
  List.pairwise_mergeSort htrans htotal _

/-- What stays without protection was before what goes. -/
theorem related_of_evicted {R : α → α → Prop} (h : items.Pairwise R) (ha : a ∈ items)
    (hgone : a ∉ retain capacity isProtected le items)
    (hb : b ∈ retain capacity isProtected le items) (hunprotected : isProtected b = false) :
    R b a := by
  have hothers := h.filter fun item => !isProtected item
  rw [← List.take_append_drop (capacity - (items.filter isProtected).length)
    (items.filter fun item => !isProtected item)] at hothers
  rw [mem_retain_iff, not_or, not_and] at hgone
  obtain ⟨hfree, hdropped⟩ := hgone
  have hb' : b ∈ (items.filter fun item => !isProtected item).take
      (capacity - (items.filter isProtected).length) := by
    rcases mem_retain_iff.mp hb with ⟨-, hprotected⟩ | hb
    · rw [hunprotected] at hprotected
      cases hprotected
    · exact hb
  have ha' : a ∈ (items.filter fun item => !isProtected item).drop
      (capacity - (items.filter isProtected).length) := by
    have hmem : a ∈ items.filter fun item => !isProtected item := by
      refine List.mem_filter.mpr ⟨ha, ?_⟩
      simpa using hfree ha
    rw [← List.take_append_drop (capacity - (items.filter isProtected).length)
      (items.filter fun item => !isProtected item), List.mem_append] at hmem
    exact hmem.resolve_left hdropped
  exact (List.pairwise_append.mp hothers).2.2 b hb' a ha'

end Ariava.Lib.Retention
