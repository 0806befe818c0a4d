import Mathlib.Data.List.Basic

/-!
# `Ariava.Lib.Scan`: matches from left to right

A matcher looks at the front of a text and says what it found there and how many characters that
took. A scan tries it at every position from left to right and goes on behind a match, so its
pieces are the matches and the characters between them. It is what a global regular expression
does, and `replaceAll`.

`NoneIn matcher word` says that no match starts in a word, whatever follows it. Such words are
passed over (`pieces_append`), and a text of words that match and words with no match in them is
scanned word by word (`replaceAll_flatMap`).
-/

set_option autoImplicit false

namespace Ariava.Lib.Scan

variable {σ α β : Type*}

/-- What is at the front of a text, and how many characters it takes. -/
abbrev Matcher (σ β : Type*) : Type _ := List σ → Option (β × Nat)

/-- The pieces of a text after some characters that the last match took. -/
def piecesFrom (matcher : Matcher σ β) : Nat → List σ → List (σ ⊕ β)
  | _, [] => []
  | taken + 1, _ :: rest => piecesFrom matcher taken rest
  | 0, c :: rest =>
      match matcher (c :: rest) with
      | some (found, taken) => .inr found :: piecesFrom matcher (taken - 1) rest
      | none => .inl c :: piecesFrom matcher 0 rest

/-- The matches in a text and the characters between them. -/
def pieces (matcher : Matcher σ β) (text : List σ) : List (σ ⊕ β) := piecesFrom matcher 0 text

/-- The matches in a text. -/
def matchAll (matcher : Matcher σ β) (text : List σ) : List β :=
  (pieces matcher text).filterMap Sum.getRight?

/-- The first match in a text. -/
def firstMatch (matcher : Matcher σ β) (text : List σ) : Option β := (matchAll matcher text).head?

/-- No match starts in a word, whatever follows it. -/
def NoneIn (matcher : Matcher σ β) (word : List σ) : Prop :=
  ∀ before after, word = before ++ after → after ≠ [] → ∀ rest, matcher (after ++ rest) = none

section
variable {matcher : Matcher σ β} {word word' rest : List σ}

@[simp] theorem noneIn_nil : NoneIn matcher [] := by
  intro before after heq hne
  exact absurd (List.append_eq_nil_iff.mp heq.symm).2 hne

theorem noneIn_cons {c : σ} :
    NoneIn matcher (c :: word) ↔
      (∀ rest, matcher (c :: word ++ rest) = none) ∧ NoneIn matcher word := by
  constructor
  · intro h
    refine ⟨h [] (c :: word) rfl (List.cons_ne_nil _ _), ?_⟩
    intro before after heq
    exact h (c :: before) after (by rw [heq, List.cons_append])
  · rintro ⟨hfront, hword⟩ before after heq hne rest
    cases before with
    | nil =>
      rw [List.nil_append] at heq
      rw [← heq]
      exact hfront rest
    | cons d before =>
      rw [List.cons_append, List.cons.injEq] at heq
      exact hword before after heq.2 hne rest

theorem NoneIn.append (h : NoneIn matcher word) (h' : NoneIn matcher word') :
    NoneIn matcher (word ++ word') := by
  induction word with
  | nil => exact h'
  | cons c word ih =>
    rw [noneIn_cons] at h
    rw [List.cons_append, noneIn_cons]
    refine ⟨fun rest => ?_, ih h.2⟩
    have hfront := h.1 (word' ++ rest)
    simpa using hfront

theorem piecesFrom_eq (matcher : Matcher σ β) (taken : Nat) (text : List σ) :
    piecesFrom matcher taken text = pieces matcher (text.drop taken) := by
  induction text generalizing taken with
  | nil => cases taken <;> simp [pieces, piecesFrom]
  | cons c rest ih =>
    cases taken with
    | zero => rfl
    | succ taken => exact ih taken

@[simp] theorem pieces_nil : pieces matcher [] = [] := rfl

/-- A match is one piece, and the scan goes on behind it. -/
theorem pieces_of_match {found : β} (hne : word ≠ [])
    (h : matcher (word ++ rest) = some (found, word.length)) :
    pieces matcher (word ++ rest) = .inr found :: pieces matcher rest := by
  obtain ⟨c, word, rfl⟩ := List.exists_cons_of_ne_nil hne
  rw [List.cons_append] at h ⊢
  rw [pieces, piecesFrom, h]
  show _ :: piecesFrom matcher word.length (word ++ rest) = _
  rw [piecesFrom_eq, List.drop_left]

/-- A word with no match in it is passed over. -/
theorem pieces_append (h : NoneIn matcher word) (rest : List σ) :
    pieces matcher (word ++ rest) = word.map .inl ++ pieces matcher rest := by
  induction word with
  | nil => rfl
  | cons c word ih =>
    rw [noneIn_cons] at h
    have hfront := h.1 rest
    rw [List.cons_append] at hfront ⊢
    rw [pieces, piecesFrom, hfront]
    show .inl c :: pieces matcher (word ++ rest) = _
    rw [ih h.2]
    rfl

theorem matchAll_append (h : NoneIn matcher word) (rest : List σ) :
    matchAll matcher (word ++ rest) = matchAll matcher rest := by
  have hnone : (word.map (Sum.inl : σ → σ ⊕ β)).filterMap Sum.getRight? = [] := by
    simp [List.filterMap_eq_nil_iff]
  rw [matchAll, pieces_append h, List.filterMap_append, hnone]
  rfl

theorem matchAll_of_match {found : β} (hne : word ≠ [])
    (h : matcher (word ++ rest) = some (found, word.length)) :
    matchAll matcher (word ++ rest) = found :: matchAll matcher rest := by
  rw [matchAll, pieces_of_match hne h]
  rfl

end

/-! ### Fixed words -/

section
variable [DecidableEq σ]

/-- The matcher of a fixed word. -/
def fixedWord (pattern : List σ) : Matcher σ Unit := fun text =>
  if pattern.isPrefixOf text then some ((), pattern.length) else none

/-- Every occurrence of a word replaced by another one. -/
def replaceAll (pattern replacement text : List σ) : List σ :=
  (pieces (fixedWord pattern) text).flatMap (Sum.elim (fun c => [c]) fun _ => replacement)

/-- The text up to the first occurrence of a word, and the text behind it. The characters that are
passed have to be allowed. -/
def splitBefore (allowed : σ → Bool) (pattern : List σ) : List σ → Option (List σ × List σ)
  | [] => if pattern.isEmpty then some ([], []) else none
  | c :: rest =>
      if pattern.isPrefixOf (c :: rest) then some ([], (c :: rest).drop pattern.length)
      else if allowed c then
        (splitBefore allowed pattern rest).map fun split => (c :: split.1, split.2)
      else none

/-- A text without a word in front of it. -/
def dropWord (word text : List σ) : Option (List σ) :=
  if word.isPrefixOf text then some (text.drop word.length) else none

/-- The matcher of an opening word, allowed characters and a closing word: it finds what is between
the two. -/
def bracketed (allowed : σ → Bool) (opening closing : List σ) : Matcher σ (List σ) := fun text => do
  let body ← dropWord opening text
  let (inner, rest) ← splitBefore allowed closing body
  return (inner, text.length - rest.length)

variable {pattern replacement word rest : List σ}

theorem fixedWord_append : fixedWord pattern (pattern ++ rest) = some ((), pattern.length) := by
  rw [fixedWord, if_pos (List.isPrefixOf_iff_prefix.mpr (List.prefix_append _ _))]

/-- A word that neither starts a pattern nor starts with it keeps it from matching. -/
theorem fixedWord_eq_none (h : ¬ pattern <+: word) (h' : ¬ word <+: pattern) (rest : List σ) :
    fixedWord pattern (word ++ rest) = none := by
  have hprefix : ¬ pattern <+: word ++ rest := by
    intro hpattern
    rcases List.prefix_or_prefix_of_prefix hpattern (List.prefix_append word rest) with hle | hle
    · exact h hle
    · exact h' hle
  rw [fixedWord, if_neg (by rwa [List.isPrefixOf_iff_prefix])]

/-- The test that no occurrence of a pattern starts in a word. -/
def isFreeOf (pattern : List σ) : List σ → Bool
  | [] => true
  | c :: rest =>
      !pattern.isPrefixOf (c :: rest) && !(c :: rest).isPrefixOf pattern && isFreeOf pattern rest

theorem noneIn_of_isFreeOf (h : isFreeOf pattern word = true) : NoneIn (fixedWord pattern) word := by
  induction word with
  | nil => exact noneIn_nil
  | cons c word ih =>
    rw [isFreeOf, Bool.and_eq_true, Bool.and_eq_true, Bool.not_eq_true', Bool.not_eq_true',
      ← Bool.not_eq_true, ← Bool.not_eq_true, List.isPrefixOf_iff_prefix,
      List.isPrefixOf_iff_prefix] at h
    exact noneIn_cons.mpr ⟨fixedWord_eq_none h.1.1 h.1.2, ih h.2⟩

/-- A word without the first character of a pattern has no occurrence of it. -/
theorem noneIn_of_first_not_mem {first : σ} (h : first ∉ word) :
    NoneIn (fixedWord (first :: pattern)) word := by
  induction word with
  | nil => exact noneIn_nil
  | cons c word ih =>
    rw [List.mem_cons, not_or] at h
    refine noneIn_cons.mpr ⟨fun rest => ?_, ih h.2⟩
    rw [fixedWord, if_neg]
    rw [List.isPrefixOf_iff_prefix, List.cons_append, List.cons_prefix_cons]
    exact fun hprefix => h.1 hprefix.1

/-- Words that are the pattern are replaced, and words with no occurrence in them stay. -/
theorem replaceAll_flatMap {f g : α → List σ} {items : List α} (hne : pattern ≠ [])
    (h : ∀ item ∈ items, (f item = pattern ∧ g item = replacement) ∨
      (g item = f item ∧ NoneIn (fixedWord pattern) (f item))) :
    replaceAll pattern replacement (items.flatMap f) = items.flatMap g := by
  induction items with
  | nil => rfl
  | cons item rest ih =>
    rw [List.forall_mem_cons] at h
    have hrest := ih h.2
    rw [replaceAll] at hrest ⊢
    rw [List.flatMap_cons, List.flatMap_cons]
    rcases h.1 with ⟨hpattern, hreplacement⟩ | ⟨hsame, hnone⟩
    · rw [hpattern, pieces_of_match hne fixedWord_append, List.flatMap_cons, hrest, hreplacement]
      rfl
    · have hkept : ∀ word : List σ, (word.map Sum.inl).flatMap
          (Sum.elim (fun c => [c]) fun _ : Unit => replacement) = word := by
        intro word
        induction word with
        | nil => rfl
        | cons c word ihword => rw [List.map_cons, List.flatMap_cons, ihword]; rfl
      rw [pieces_append hnone, List.flatMap_append, hkept, hrest, hsame]

theorem splitBefore_append {allowed : σ → Bool} (hne : pattern ≠ [])
    (hnone : NoneIn (fixedWord pattern) word) (hallowed : ∀ c ∈ word, allowed c = true)
    (rest : List σ) :
    splitBefore allowed pattern (word ++ (pattern ++ rest)) = some (word, rest) := by
  induction word with
  | nil =>
    obtain ⟨first, pattern, rfl⟩ := List.exists_cons_of_ne_nil hne
    have hprefix : (first :: pattern).isPrefixOf (first :: pattern ++ rest) = true :=
      List.isPrefixOf_iff_prefix.mpr (List.prefix_append _ _)
    rw [List.nil_append, List.cons_append, splitBefore, ← List.cons_append, if_pos hprefix,
      List.drop_left]
  | cons c word ih =>
    rw [noneIn_cons] at hnone
    rw [List.forall_mem_cons] at hallowed
    have hfront := hnone.1 (pattern ++ rest)
    rw [fixedWord, ite_eq_right_iff] at hfront
    have hprefix : ¬ pattern.isPrefixOf (c :: word ++ (pattern ++ rest)) = true := fun h => by
      have hmatch := hfront h
      cases hmatch
    rw [List.cons_append] at hprefix ⊢
    rw [splitBefore, if_neg hprefix, if_pos hallowed.1, ih hnone.2 hallowed.2]
    rfl

/-- A character that may not be passed ends the search. -/
theorem splitBefore_eq_none {allowed : σ → Bool} (hnone : NoneIn (fixedWord pattern) word)
    (hblocked : ∃ c ∈ word, allowed c = false) (rest : List σ) :
    splitBefore allowed pattern (word ++ rest) = none := by
  induction word with
  | nil =>
    obtain ⟨c, hmem, -⟩ := hblocked
    cases hmem
  | cons c word ih =>
    rw [noneIn_cons] at hnone
    have hfront := hnone.1 rest
    rw [fixedWord, ite_eq_right_iff] at hfront
    have hprefix : ¬ pattern.isPrefixOf (c :: word ++ rest) = true := fun h => by
      have hmatch := hfront h
      cases hmatch
    rw [List.cons_append] at hprefix ⊢
    rw [splitBefore, if_neg hprefix]
    cases hc : allowed c with
    | false => simp
    | true =>
      have hrest : ∃ d ∈ word, allowed d = false := by
        obtain ⟨d, hd, hblocked⟩ := hblocked
        rcases List.mem_cons.mp hd with rfl | hd
        · rw [hc] at hblocked
          cases hblocked
        · exact ⟨d, hd, hblocked⟩
      rw [if_pos rfl, ih hnone.2 hrest]
      rfl

theorem dropWord_append (word rest : List σ) : dropWord word (word ++ rest) = some rest := by
  rw [dropWord, if_pos (List.isPrefixOf_iff_prefix.mpr (List.prefix_append _ _)), List.drop_left]

/-- A matcher that starts with a fixed word. -/
theorem noneIn_of_dropWord {matcher : Matcher σ β}
    (hstarts : ∀ text, dropWord pattern text = none → matcher text = none)
    (hnone : NoneIn (fixedWord pattern) word) : NoneIn matcher word := by
  intro before after heq hne rest
  have hfront := hnone before after heq hne rest
  rw [fixedWord, ite_eq_right_iff] at hfront
  refine hstarts _ (if_neg fun hprefix => ?_)
  have hmatch := hfront hprefix
  cases hmatch

section
variable {allowed : σ → Bool} {opening closing inner : List σ}

theorem noneIn_bracketed (h : NoneIn (fixedWord opening) word) :
    NoneIn (bracketed allowed opening closing) word := by
  refine noneIn_of_dropWord (fun text htext => ?_) h
  rw [bracketed, htext]
  rfl

theorem bracketed_append (hclosing : closing ≠ []) (hnone : NoneIn (fixedWord closing) inner)
    (hallowed : ∀ c ∈ inner, allowed c = true) (rest : List σ) :
    bracketed allowed opening closing (opening ++ (inner ++ closing) ++ rest)
      = some (inner, (opening ++ (inner ++ closing)).length) := by
  have hsplit := splitBefore_append hclosing hnone hallowed rest
  have hopened : dropWord opening (opening ++ (inner ++ closing) ++ rest)
      = some (inner ++ (closing ++ rest)) := by
    simp only [List.append_assoc]
    exact dropWord_append _ _
  have htaken : (opening ++ (inner ++ closing) ++ rest).length - rest.length
      = (opening ++ (inner ++ closing)).length := by
    rw [List.length_append]
    omega
  rw [bracketed, hopened]
  simp only [Option.bind_eq_bind, Option.bind_some, hsplit]
  rw [htaken]
  rfl

/-- An entry with a character that is not allowed does not match, and when nothing else starts in
it, it is passed over. -/
theorem noneIn_bracketed_blocked {first : σ} {name : List σ} (hopening : opening = first :: name)
    (hnone : NoneIn (fixedWord closing) inner) (hblocked : ∃ c ∈ inner, allowed c = false)
    (hrest : NoneIn (fixedWord opening) (name ++ (inner ++ closing))) :
    NoneIn (bracketed allowed opening closing) (opening ++ (inner ++ closing)) := by
  have hfront : ∀ rest, bracketed allowed opening closing (opening ++ (inner ++ closing) ++ rest)
      = none := by
    intro rest
    have hsplit := splitBefore_eq_none hnone hblocked (closing ++ rest)
    have hopened : dropWord opening (opening ++ (inner ++ closing) ++ rest)
        = some (inner ++ (closing ++ rest)) := by
      simp only [List.append_assoc]
      exact dropWord_append _ _
    rw [bracketed, hopened]
    simp only [Option.bind_eq_bind, Option.bind_some, hsplit]
    rfl
  have hcons : opening ++ (inner ++ closing) = first :: (name ++ (inner ++ closing)) := by
    rw [hopening]
    rfl
  rw [hcons] at hfront ⊢
  exact noneIn_cons.mpr ⟨hfront, noneIn_bracketed hrest⟩

end

end

end Ariava.Lib.Scan
