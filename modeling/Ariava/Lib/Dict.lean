import Mathlib.Data.List.Nodup
import Mathlib.Data.List.Basic

/-!
# `Ariava.Lib.Dict`: insertion-ordered dictionaries

A `Dict κ α` is a list of entries with pairwise distinct keys, the key order being the
order of first insertion. It is the order in which a JavaScript `Map`, or an object with
string keys, lists its entries. Overwriting a key keeps its place, a new key goes to the
end, and a deleted key that returns is new.

Distinctness of the keys is a field, so no operation can build a dictionary with two
values for one key. `Dict.mem_entries_iff` is the bridge between the two readings: an
entry is in the list exactly when the lookup of its key finds its value. Every later
proof reads a dictionary through the lookup lemmas (`get?_set`, `get?_erase`,
`get?_filter`, `get?_takeLast`) and never unfolds the entry list.
-/

set_option autoImplicit false

namespace Ariava.Lib

universe u v

/-- A dictionary: entries in insertion order, with pairwise distinct keys. -/
structure Dict (κ : Type u) (α : Type v) where
  entries : List (κ × α)
  nodupKeys : (entries.map Prod.fst).Nodup
deriving DecidableEq

namespace Dict

variable {κ : Type u} {α : Type v}

/-- Two dictionaries with the same entries in the same order are equal. -/
@[ext] theorem ext {d e : Dict κ α} (h : d.entries = e.entries) : d = e := by
  cases d
  cases e
  cases h
  rfl

/-- The dictionary without entries. -/
def empty : Dict κ α := ⟨[], List.nodup_nil⟩

instance : EmptyCollection (Dict κ α) := ⟨empty⟩

instance : Inhabited (Dict κ α) := ⟨empty⟩

/-- The keys, in insertion order. -/
def keys (d : Dict κ α) : List κ := d.entries.map Prod.fst

/-- The values, in insertion order. -/
def values (d : Dict κ α) : List α := d.entries.map Prod.snd

/-- The number of entries. -/
def size (d : Dict κ α) : Nat := d.entries.length

/-- The dictionary has no entry. -/
def isEmpty (d : Dict κ α) : Bool := d.entries.isEmpty

/-- The entries that satisfy `p`. -/
def filter (d : Dict κ α) (p : κ → α → Bool) : Dict κ α where
  entries := d.entries.filter fun e => p e.1 e.2
  nodupKeys := (List.filter_sublist.map _).nodup d.nodupKeys

/-- The last `n` entries. -/
def takeLast (d : Dict κ α) (n : Nat) : Dict κ α where
  entries := d.entries.drop (d.entries.length - n)
  nodupKeys := ((List.drop_sublist _ _).map _).nodup d.nodupKeys

/-- Every value replaced by its image, with the keys kept. -/
def mapValues {β : Type*} (d : Dict κ α) (f : κ → α → β) : Dict κ β where
  entries := d.entries.map fun e => (e.1, f e.1 e.2)
  nodupKeys := by simpa [List.map_map, Function.comp_def] using d.nodupKeys

variable [DecidableEq κ]

/-- The value at a key. -/
def get? (d : Dict κ α) (k : κ) : Option α := d.entries.lookup k

/-- A key is present. -/
def contains (d : Dict κ α) (k : κ) : Bool := (d.get? k).isSome

/-- Erase a key. -/
def erase (d : Dict κ α) (k : κ) : Dict κ α := d.filter fun k' _ => decide (k' ≠ k)

/-- Write a value at a key: in place when the key is present, else at the end. -/
def set (d : Dict κ α) (k : κ) (v : α) : Dict κ α where
  entries :=
    if k ∈ d.keys then d.entries.map fun e => if e.1 = k then (k, v) else e
    else d.entries ++ [(k, v)]
  nodupKeys := by
    by_cases hk : k ∈ d.keys
    · rw [if_pos hk, List.map_map]
      have hfst : (Prod.fst ∘ fun e : κ × α => if e.1 = k then (k, v) else e) = Prod.fst := by
        funext e
        by_cases he : e.1 = k <;> simp [he]
      rw [hfst]
      exact d.nodupKeys
    · rw [if_neg hk, List.map_append]
      refine List.Nodup.append d.nodupKeys (by simp) ?_
      exact List.disjoint_singleton.mpr hk

/-! ### Lookup -/

/-- A lookup in a list with distinct keys finds exactly the entries of the list. -/
theorem lookup_eq_some_iff {l : List (κ × α)} (hl : (l.map Prod.fst).Nodup) {k : κ} {v : α} :
    l.lookup k = some v ↔ (k, v) ∈ l := by
  induction l with
  | nil => simp
  | cons e l ih =>
    obtain ⟨k', v'⟩ := e
    rw [List.map_cons, List.nodup_cons] at hl
    by_cases hk : k = k'
    · subst hk
      have hnot : (k, v) ∉ l := fun hmem => hl.1 (List.mem_map.mpr ⟨(k, v), hmem, rfl⟩)
      simp [hnot, eq_comm]
    · have hbeq : (k == k') = false := by simpa using hk
      simp [List.lookup_cons, hbeq, hk, ih hl.2]

/-- An entry is in the list exactly when the lookup of its key finds its value. -/
theorem mem_entries_iff {d : Dict κ α} {k : κ} {v : α} :
    (k, v) ∈ d.entries ↔ d.get? k = some v :=
  (lookup_eq_some_iff d.nodupKeys).symm

@[simp] theorem get?_empty (k : κ) : (empty : Dict κ α).get? k = none := rfl

@[simp] theorem get?_emptyCollection (k : κ) : (∅ : Dict κ α).get? k = none := rfl

/-- The values are what the lookups find. -/
theorem mem_values_iff {d : Dict κ α} {v : α} : v ∈ d.values ↔ ∃ k, d.get? k = some v := by
  constructor
  · intro hv
    obtain ⟨⟨k, v'⟩, hmem, rfl⟩ := List.mem_map.mp hv
    exact ⟨k, mem_entries_iff.mp hmem⟩
  · rintro ⟨k, hk⟩
    exact List.mem_map.mpr ⟨(k, v), mem_entries_iff.mpr hk, rfl⟩

/-- The keys are those whose lookup finds a value. -/
theorem mem_keys_iff {d : Dict κ α} {k : κ} : k ∈ d.keys ↔ ∃ v, d.get? k = some v := by
  constructor
  · intro hk
    obtain ⟨⟨k', v⟩, hmem, rfl⟩ := List.mem_map.mp hk
    exact ⟨v, mem_entries_iff.mp hmem⟩
  · rintro ⟨v, hv⟩
    exact List.mem_map.mpr ⟨(k, v), mem_entries_iff.mpr hv, rfl⟩

/-- A dictionary is empty when every lookup fails. -/
theorem eq_empty_iff {d : Dict κ α} : d = ∅ ↔ ∀ k, d.get? k = none := by
  constructor
  · rintro rfl k
    rfl
  · intro h
    have hnil : d.entries = [] := by
      rw [List.eq_nil_iff_forall_not_mem]
      rintro ⟨k, v⟩ hmem
      rw [mem_entries_iff, h k] at hmem
      cases hmem
    exact ext hnil

theorem not_mem_keys_iff {d : Dict κ α} {k : κ} : k ∉ d.keys ↔ d.get? k = none := by
  rw [mem_keys_iff, Option.eq_none_iff_forall_ne_some, not_exists]

@[simp] theorem contains_eq_true {d : Dict κ α} {k : κ} :
    d.contains k = true ↔ ∃ v, d.get? k = some v := by
  rw [contains, Option.isSome_iff_exists]

/-- A property of every lookup is a property of every entry. -/
theorem forall_get?_iff {d : Dict κ α} {p : κ → α → Prop} :
    (∀ k v, d.get? k = some v → p k v) ↔ ∀ e ∈ d.entries, p e.1 e.2 := by
  refine ⟨fun h e he => h e.1 e.2 (mem_entries_iff.mp he), fun h k v hv => ?_⟩
  exact h (k, v) (mem_entries_iff.mpr hv)

/-- A property of every member of a list that is looked up, where a missing list is empty. -/
theorem forall_getD_nil_iff {d : Dict κ (List α)} {p : κ → α → Prop} :
    (∀ k, ∀ x ∈ (d.get? k).getD [], p k x) ↔ ∀ e ∈ d.entries, ∀ x ∈ e.2, p e.1 x := by
  refine Iff.trans ?_ (forall_get?_iff (p := fun k xs => ∀ x ∈ xs, p k x))
  refine ⟨fun h k xs hxs x hx => h k x (by rw [hxs]; exact hx), fun h k x hx => ?_⟩
  cases hxs : d.get? k with
  | none => rw [hxs] at hx; exact absurd hx List.not_mem_nil
  | some xs => rw [hxs] at hx; exact h k xs hxs x hx

/-! ### Filtering, erasing and truncating -/

/-- A lookup after a filter finds the old value when that value passes the filter. -/
theorem get?_filter (d : Dict κ α) (p : κ → α → Bool) (k : κ) :
    (d.filter p).get? k = (d.get? k).filter (p k) := by
  apply Option.ext
  intro v
  rw [← mem_entries_iff, Option.filter_eq_some_iff, ← mem_entries_iff]
  exact List.mem_filter

/-- What a filter keeps was there before. -/
theorem get?_of_filter {d : Dict κ α} {p : κ → α → Bool} {k : κ} {v : α}
    (h : (d.filter p).get? k = some v) : d.get? k = some v := by
  rw [get?_filter, Option.filter_eq_some_iff] at h
  exact h.1

/-- A lookup after an erase: nothing at the erased key, the old value elsewhere. -/
theorem get?_erase (d : Dict κ α) (k k' : κ) :
    (d.erase k).get? k' = if k' = k then none else d.get? k' := by
  rw [erase, get?_filter]
  by_cases h : k' = k
  · simp [h]
  · cases d.get? k' <;> simp [h]

@[simp] theorem get?_erase_self (d : Dict κ α) (k : κ) : (d.erase k).get? k = none := by
  rw [get?_erase, if_pos rfl]

theorem get?_erase_ne (d : Dict κ α) {k k' : κ} (h : k' ≠ k) :
    (d.erase k).get? k' = d.get? k' := by
  rw [get?_erase, if_neg h]

/-- What an erase leaves was there before. -/
theorem get?_of_erase {d : Dict κ α} {k k' : κ} {v : α}
    (h : (d.erase k).get? k' = some v) : d.get? k' = some v :=
  get?_of_filter h

/-! ### Writing -/

/-- A lookup after a write: the new value at the key, the old value elsewhere. -/
theorem get?_set (d : Dict κ α) (k k' : κ) (v : α) :
    (d.set k v).get? k' = if k' = k then some v else d.get? k' := by
  apply Option.ext
  intro w
  rw [← mem_entries_iff, set]
  by_cases hk : k ∈ d.keys
  · simp only [if_pos hk, List.mem_map]
    by_cases hk' : k' = k
    · subst hk'
      obtain ⟨v', hv'⟩ := mem_keys_iff.mp hk
      simp only [if_true, Option.some.injEq]
      constructor
      · rintro ⟨e, _, he⟩
        by_cases hek : e.1 = k'
        · simpa [hek] using he
        · rw [if_neg hek] at he
          exact absurd (congrArg Prod.fst he) hek
      · rintro rfl
        exact ⟨(k', v'), mem_entries_iff.mpr hv', by simp⟩
    · simp only [if_neg hk']
      rw [← mem_entries_iff]
      constructor
      · rintro ⟨e, hmem, he⟩
        by_cases hek : e.1 = k
        · rw [if_pos hek] at he
          exact absurd (congrArg Prod.fst he).symm hk'
        · rw [if_neg hek] at he
          rwa [← he]
      · intro hmem
        exact ⟨(k', w), hmem, by simp [hk']⟩
  · simp only [if_neg hk, List.mem_append, List.mem_singleton, Prod.mk.injEq]
    by_cases hk' : k' = k
    · subst hk'
      have hnone := not_mem_keys_iff.mp hk
      simp [mem_entries_iff, hnone, eq_comm]
    · simp [mem_entries_iff, hk']

@[simp] theorem get?_set_self (d : Dict κ α) (k : κ) (v : α) : (d.set k v).get? k = some v := by
  rw [get?_set, if_pos rfl]

theorem get?_set_ne (d : Dict κ α) {k k' : κ} (v : α) (h : k' ≠ k) :
    (d.set k v).get? k' = d.get? k' := by
  rw [get?_set, if_neg h]

/-- A value found after a write is the written one at its key, or an old one elsewhere. -/
theorem get?_set_cases {d : Dict κ α} {k k' : κ} {v w : α}
    (h : (d.set k v).get? k' = some w) : (k' = k ∧ w = v) ∨ (k' ≠ k ∧ d.get? k' = some w) := by
  rw [get?_set] at h
  by_cases hk : k' = k
  · rw [if_pos hk] at h
    exact Or.inl ⟨hk, (Option.some.inj h).symm⟩
  · rw [if_neg hk] at h
    exact Or.inr ⟨hk, h⟩

/-- A lookup through a change of the values. -/
theorem get?_mapValues {β : Type*} (d : Dict κ α) (f : κ → α → β) (k : κ) :
    (d.mapValues f).get? k = (d.get? k).map (f k) := by
  apply Option.ext
  intro w
  rw [← mem_entries_iff, mapValues, Option.map_eq_some_iff]
  simp only [List.mem_map, Prod.mk.injEq]
  constructor
  · rintro ⟨⟨k', v⟩, hmem, rfl, rfl⟩
    exact ⟨v, mem_entries_iff.mp hmem, rfl⟩
  · rintro ⟨v, hv, rfl⟩
    exact ⟨(k, v), mem_entries_iff.mpr hv, rfl, rfl⟩

end Dict

end Ariava.Lib
