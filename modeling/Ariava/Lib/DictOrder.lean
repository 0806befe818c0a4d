import Mathlib.Data.List.Nodup
import Ariava.Lib.Dict

/-!
# `Ariava.Lib.DictOrder`: the order of the keys

A dictionary that is read as a queue: a written key keeps its place or comes last, and an erased
key leaves the others in their places. `Precedes` says that one key stands before another, as a
sublist of two keys, so the order facts are facts about sublists.
-/

set_option autoImplicit false

namespace Ariava.Lib.Dict

variable {κ α : Type*} [DecidableEq κ] {d : Dict κ α} {a b k : κ} {v : α}

/-- `a` stands before `b` in the order of the keys. -/
def Precedes (d : Dict κ α) (a b : κ) : Prop := [a, b].Sublist d.keys

theorem keys_set (d : Dict κ α) (k : κ) (v : α) :
    (d.set k v).keys = if k ∈ d.keys then d.keys else d.keys ++ [k] := by
  unfold set keys
  dsimp only
  split
  · rw [List.map_map]
    refine List.map_congr_left fun e _ => ?_
    by_cases he : e.1 = k <;> simp [he]
  · rw [List.map_append, List.map_singleton]

theorem keys_erase (d : Dict κ α) (k : κ) :
    (d.erase k).keys = d.keys.filter fun k' => decide (k' ≠ k) := by
  rw [erase, filter, keys, keys, List.filter_map]
  rfl

theorem mem_keys_set (h : a ∈ d.keys) : a ∈ (d.set k v).keys := by
  rw [keys_set]
  split
  · exact h
  · exact List.mem_append_left _ h

/-- A write keeps the order of the keys that are there. -/
theorem Precedes.set (h : d.Precedes a b) : (d.set k v).Precedes a b := by
  unfold Precedes at h ⊢
  rw [keys_set]
  split
  · exact h
  · exact h.trans (List.sublist_append_left _ _)

/-- A write puts no key before one that is there. -/
theorem Precedes.of_set (hb : b ∈ d.keys) (h : (d.set k v).Precedes a b) : d.Precedes a b := by
  unfold Precedes at h ⊢
  rw [keys_set] at h
  split at h
  · exact h
  · next hk =>
    obtain ⟨l, l', heq, hl, hl'⟩ := List.sublist_append_iff.mp h
    cases l' with
    | nil =>
      rw [List.append_nil] at heq
      rwa [heq]
    | cons last rest =>
      -- The last of the two keys would be the new one.
      have hlast : b ∈ last :: rest := by
        have hmem : (l ++ last :: rest).getLast? = some b := by
          rw [← heq]
          rfl
        rw [List.getLast?_append_of_ne_nil _ (by simp)] at hmem
        exact List.mem_of_getLast? hmem
      have hbk := List.mem_singleton.mp (hl'.subset hlast)
      exact absurd (hbk ▸ hb) hk

/-- An erased key leaves the order of the others. -/
theorem Precedes.erase (h : d.Precedes a b) (ha : a ≠ k) (hb : b ≠ k) :
    (d.erase k).Precedes a b := by
  unfold Precedes at h ⊢
  rw [keys_erase]
  have hfilter := h.filter fun k' => decide (k' ≠ k)
  rwa [List.filter_cons_of_pos (by simpa using ha), List.filter_cons_of_pos (by simpa using hb),
    List.filter_nil] at hfilter

end Ariava.Lib.Dict
