import Mathlib.Data.List.Basic
import Mathlib.Data.List.Perm.Basic

/-!
# `Ariava.Lib.StableSort`: what a stable sort depends on

`List.mergeSort` by a total preorder. The items that the order does not tell apart keep their
places among each other (`filter_mergeSort`). So the result does not depend on the order of the
input exactly when such items are equal: one direction is `mergeSort_eq_of_perm`, and the other is
`eq_of_forall_perm`.
-/

set_option autoImplicit false

namespace Ariava.Lib.StableSort

variable {α : Type*} {le : α → α → Bool} {l l' : List α}

/-- The items that rank alike stay in their order. -/
theorem filter_mergeSort (htrans : ∀ a b c, le a b = true → le b c = true → le a c = true)
    (htotal : ∀ a b, (le a b || le b a) = true) (p : α → Bool)
    (halike : ∀ a b, p a = true → p b = true → le a b = true) :
    (l.mergeSort le).filter p = l.filter p := by
  have hpairwise : (l.filter p).Pairwise fun a b => le a b = true :=
    List.pairwise_of_forall_mem_list fun a ha b hb =>
      halike a b (List.mem_filter.mp ha).2 (List.mem_filter.mp hb).2
  have hsublist := (List.sublist_mergeSort htrans htotal hpairwise List.filter_sublist).filter p
  rw [List.filter_filter] at hsublist
  simp only [Bool.and_self] at hsublist
  exact (hsublist.eq_of_length ((List.mergeSort_perm l le).filter p).length_eq.symm).symm

/-- Two orders of the same items are sorted alike when items that rank alike are equal. -/
theorem mergeSort_eq_of_perm (htrans : ∀ a b c, le a b = true → le b c = true → le a c = true)
    (htotal : ∀ a b, (le a b || le b a) = true) (hperm : l.Perm l')
    (halike : ∀ a ∈ l, ∀ b ∈ l, le a b = true → le b a = true → a = b) :
    l.mergeSort le = l'.mergeSort le := by
  have hsorted : (l.mergeSort le).Perm (l'.mergeSort le) :=
    (List.mergeSort_perm l le).trans (hperm.trans (List.mergeSort_perm l' le).symm)
  refine List.Perm.eq_of_pairwise (fun a b ha hb hab hba => ?_)
    (List.pairwise_mergeSort htrans htotal l) (List.pairwise_mergeSort htrans htotal l') hsorted
  refine halike a (List.mem_mergeSort.mp ha) b ?_ hab hba
  exact hperm.symm.subset (List.mem_mergeSort.mp hb)

/-- When every order of the items is sorted alike, items that rank alike are equal. -/
theorem eq_of_forall_perm (htrans : ∀ a b c, le a b = true → le b c = true → le a c = true)
    (htotal : ∀ a b, (le a b || le b a) = true)
    (hsame : ∀ l', l.Perm l' → l'.mergeSort le = l.mergeSort le) {a b : α} (ha : a ∈ l)
    (hb : b ∈ l) (hab : le a b = true) (hba : le b a = true) : a = b := by
  -- The first of the items that rank like `a` and `b` can be either of them.
  let p : α → Bool := fun c => le a c && le c a
  have halike : ∀ c d, p c = true → p d = true → le c d = true := by
    intro c d hc hd
    rw [Bool.and_eq_true] at hc hd
    exact htrans c a d hc.2 hd.1
  have hfirst : ∀ c, c ∈ l → p c = true → ((l.mergeSort le).filter p).head? = some c := by
    intro c hc hpc
    obtain ⟨before, after, rfl⟩ := List.append_of_mem hc
    rw [← hsame _ List.perm_middle, filter_mergeSort htrans htotal p halike,
      List.filter_cons_of_pos hpc]
    rfl
  have hself : p a = true := by
    have haa := htrans a b a hab hba
    rw [Bool.and_eq_true]
    exact ⟨haa, haa⟩
  have hother : p b = true := by
    rw [Bool.and_eq_true]
    exact ⟨hab, hba⟩
  exact Option.some.inj ((hfirst a ha hself).symm.trans (hfirst b hb hother))

end Ariava.Lib.StableSort
