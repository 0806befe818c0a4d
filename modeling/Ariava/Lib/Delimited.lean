import Mathlib.Data.List.Basic

/-!
# `Ariava.Lib.Delimited`: words that say where they end

An encoding is self-delimiting when the word of a value can be read off the front of any text:
the text determines the value and what follows. Self-delimiting encodings can be put one after
the other, and a list of them needs a separator and an end mark only.

- `SelfDelimiting.pair`: two words with a mark between them;
- `SelfDelimiting.terminated`: words up to an end mark that starts none of them;
- `SelfDelimiting.separated`: words with a separator between them, up to an end mark.
-/

set_option autoImplicit false

namespace Ariava.Lib

variable {α β σ : Type*}

/-- The word of a value at the front of a text determines the value and the rest of the text. -/
def SelfDelimiting (encode : α → List σ) : Prop :=
  ∀ a b rest rest', encode a ++ rest = encode b ++ rest' → a = b ∧ rest = rest'

/-- No word is empty or starts with this mark. -/
def NeverStartsWith (encode : α → List σ) (mark : σ) : Prop :=
  ∀ a, encode a ≠ [] ∧ (encode a).head? ≠ some mark

theorem NeverStartsWith.append_ne {encode : α → List σ} {mark : σ}
    (h : NeverStartsWith encode mark) (a : α) (rest rest' : List σ) :
    encode a ++ rest ≠ mark :: rest' := by
  obtain ⟨hne, hhead⟩ := h a
  obtain ⟨first, word, hword⟩ := List.exists_cons_of_ne_nil hne
  rw [hword] at hhead ⊢
  intro heq
  rw [List.cons_append, List.cons.injEq] at heq
  exact hhead (by rw [heq.1]; rfl)

namespace SelfDelimiting

variable {encode : α → List σ} {encode' : β → List σ}

/-- A fixed text in front of every word. -/
theorem cons (h : SelfDelimiting encode) (start : List σ) :
    SelfDelimiting fun a => start ++ encode a := by
  intro a b rest rest' heq
  rw [List.append_assoc, List.append_assoc, List.append_cancel_left_eq] at heq
  exact h a b rest rest' heq

/-- Two words with a fixed text between them. -/
theorem pair (h : SelfDelimiting encode) (h' : SelfDelimiting encode') (between : List σ) :
    SelfDelimiting fun p : α × β => encode p.1 ++ between ++ encode' p.2 := by
  rintro ⟨a, b⟩ ⟨a', b'⟩ rest rest' heq
  simp only [List.append_assoc] at heq
  obtain ⟨rfl, hsecond⟩ := h a a' _ _ heq
  rw [List.append_cancel_left_eq] at hsecond
  obtain ⟨rfl, hrest⟩ := h' b b' _ _ hsecond
  exact ⟨rfl, hrest⟩

/-- The words of a list, up to an end mark. -/
theorem terminated (h : SelfDelimiting encode) {close : σ} (hclose : NeverStartsWith encode close) :
    SelfDelimiting fun items : List α => items.flatMap encode ++ [close] := by
  intro items
  induction items with
  | nil =>
    intro items' rest rest' heq
    cases items' with
    | nil => exact ⟨rfl, by simpa using heq⟩
    | cons item items' =>
      -- The end mark would start the first word.
      simp only [List.flatMap_cons, List.append_assoc] at heq
      exact absurd heq.symm (hclose.append_ne item _ rest)
  | cons item items ih =>
    intro items' rest rest' heq
    cases items' with
    | nil =>
      simp only [List.flatMap_cons, List.append_assoc] at heq
      exact absurd heq (hclose.append_ne item _ rest')
    | cons item' items' =>
      simp only [List.flatMap_cons, List.append_assoc] at heq
      obtain ⟨rfl, hitems⟩ := h item item' _ _ heq
      obtain ⟨rfl, hrest⟩ := ih items' rest rest' (by simpa using hitems)
      exact ⟨rfl, hrest⟩

/-- The words of a list after its first one, each behind a separator, up to an end mark. -/
theorem behindSeparator (h : SelfDelimiting encode) {separator close : σ} (hne : separator ≠ close) :
    SelfDelimiting fun items : List α =>
      (items.flatMap fun item => separator :: encode item) ++ [close] := by
  have hword : SelfDelimiting fun item => separator :: encode item := cons h [separator]
  refine terminated hword fun item => ⟨by simp, ?_⟩
  rw [List.head?_cons, ne_eq, Option.some.injEq]
  exact hne

theorem intercalate_cons (separator : σ) (item : α) (items : List α) :
    List.intercalate [separator] ((item :: items).map encode)
      = encode item ++ items.flatMap fun other => separator :: encode other := by
  induction items generalizing item with
  | nil => simp
  | cons next items ih =>
    rw [List.map_cons, List.map_cons, List.intercalate_cons_cons, ← List.map_cons, ih,
      List.flatMap_cons]
    simp

/-- The words of a list with a separator between them, up to an end mark. -/
theorem separated (h : SelfDelimiting encode) {separator close : σ} (hne : separator ≠ close)
    (hclose : NeverStartsWith encode close) :
    SelfDelimiting fun items : List α =>
      List.intercalate [separator] (items.map encode) ++ [close] := by
  intro items items' rest rest' heq
  cases items with
  | nil =>
    cases items' with
    | nil => exact ⟨rfl, by simpa using heq⟩
    | cons item' items' =>
      simp only [intercalate_cons, List.append_assoc] at heq
      exact absurd heq.symm (hclose.append_ne item' _ rest)
  | cons item items =>
    cases items' with
    | nil =>
      simp only [intercalate_cons, List.append_assoc] at heq
      exact absurd heq (hclose.append_ne item _ rest')
    | cons item' items' =>
      simp only [intercalate_cons, List.append_assoc] at heq
      obtain ⟨rfl, hitems⟩ := h item item' _ _ heq
      obtain ⟨rfl, hrest⟩ := behindSeparator h hne items items' rest rest' (by simpa using hitems)
      exact ⟨rfl, hrest⟩

end SelfDelimiting

end Ariava.Lib
