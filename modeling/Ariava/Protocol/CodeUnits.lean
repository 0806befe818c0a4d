import Mathlib.Algebra.Ring.Nat
import Ariava.Protocol.JsonValue

/-!
# `Ariava.Protocol.CodeUnits`: the code units of a text

`jsString` gives the UTF-16 code units of a text. They determine the text, so the order of the
code units, which is the order of `<` on strings, is a linear order of the texts. The bytes of
the code units are those of the text.
-/

set_option autoImplicit false

namespace Ariava.Protocol

/-- A check of the code units of a list goes through the list, and not through all code units. -/
instance (priority := 2000) decidableForallUnits {units : List UInt16} {check : UInt16 → Prop}
    [DecidablePred check] : Decidable (∀ unit ∈ units, check unit) :=
  List.decidableBAll check units

/-! ### Characters -/

/-- The white space and line ends that `trim` takes off and `parseInt` skips. -/
def isWhiteSpace (unit : UInt16) : Bool :=
  decide (unit ∈ [0x09, 0x0a, 0x0b, 0x0c, 0x0d, 0x20, 0xa0, 0x1680, 0x2028, 0x2029, 0x202f, 0x205f,
    0x3000, 0xfeff]) || (decide (0x2000 ≤ unit) && decide (unit ≤ 0x200a))

/-- The code units of a character: the one of the basic plane, or a pair of surrogates. -/
theorem utf16Units_cases (c : Char) :
    (∃ unit : UInt16, utf16Units c = [unit] ∧ unit.toNat = c.toNat ∧ c.toNat < 0x10000 ∧
      isHighSurrogate unit = false ∧ isLowSurrogate unit = false) ∨
    ∃ high low : UInt16, utf16Units c = [high, low] ∧ isHighSurrogate high = true ∧
      isHighSurrogate low = false ∧ isLowSurrogate high = false ∧ isLowSurrogate low = true ∧
      0x10000 ≤ c.toNat ∧
      c.toNat = 0x10000 + (high.toNat - 0xd800) * 0x400 + (low.toNat - 0xdc00) := by
  have hvalid : c.toNat < 0xd800 ∨ (0xdfff < c.toNat ∧ c.toNat < 0x110000) := c.valid
  unfold utf16Units
  simp only [isHighSurrogate, isLowSurrogate, UInt16.le_iff_toNat_le, Bool.and_eq_false_iff,
    Bool.and_eq_true, decide_eq_true_eq, decide_eq_false_iff_not]
  have hval : c.val.toNat = c.toNat := rfl
  rw [hval]
  by_cases h : c.toNat < 0x10000
  · left
    refine ⟨c.val.toUInt16, if_pos h, ?_⟩
    have hunit : c.val.toUInt16.toNat = c.toNat := by
      rw [UInt32.toNat_toUInt16, hval]
      omega
    refine ⟨hunit, h, ?_, ?_⟩
    · rw [hunit]
      simp only [UInt16.reduceToNat]
      omega
    · rw [hunit]
      simp only [UInt16.reduceToNat]
      omega
  · right
    refine ⟨_, _, if_neg h, ?_⟩
    simp only [UInt16.reduceToNat, Nat.toUInt16_eq, UInt16.toNat_ofNat']
    omega

theorem utf16Units_append_inj {c c' : Char} {rest rest' : List UInt16}
    (h : utf16Units c ++ rest = utf16Units c' ++ rest') : c = c' ∧ rest = rest' := by
  have hinj : ∀ {c c' : Char}, c.toNat = c'.toNat → c = c' := fun heq => Char.toNat_inj.mp heq
  rcases utf16Units_cases c with ⟨unit, heq, hnat, -, hhigh, -⟩ |
    ⟨high, low, heq, hhigh, -, -, -, -, hnat⟩ <;>
  rcases utf16Units_cases c' with ⟨unit', heq', hnat', -, hhigh', -⟩ |
    ⟨high', low', heq', hhigh', -, -, -, -, hnat'⟩
  · rw [heq, heq', List.singleton_append, List.singleton_append, List.cons.injEq] at h
    obtain ⟨rfl, hrest⟩ := h
    exact ⟨hinj (hnat.symm.trans hnat'), hrest⟩
  · rw [heq, heq', List.singleton_append, List.cons_append, List.cons.injEq] at h
    rw [h.1, hhigh'] at hhigh
    cases hhigh
  · rw [heq, heq', List.singleton_append, List.cons_append, List.cons.injEq] at h
    rw [h.1, hhigh'] at hhigh
    cases hhigh
  · rw [heq, heq'] at h
    simp only [List.cons_append, List.nil_append, List.cons.injEq] at h
    obtain ⟨rfl, rfl, hrest⟩ := h
    exact ⟨hinj (hnat.trans hnat'.symm), hrest⟩

/-! ### Texts -/

/-- The code units determine the text. -/
theorem jsString_injective : Function.Injective jsString := by
  have hlist : ∀ l l' : List Char, l.flatMap utf16Units = l'.flatMap utf16Units → l = l' := by
    have hne : ∀ c : Char, utf16Units c ≠ [] := by
      intro c
      rcases utf16Units_cases c with ⟨_, heq, -⟩ | ⟨_, _, heq, -⟩ <;> simp [heq]
    intro l
    induction l with
    | nil =>
      intro l' h
      cases l' with
      | nil => rfl
      | cons c rest => simp [hne c] at h
    | cons c rest ih =>
      intro l' h
      cases l' with
      | nil => simp [hne c] at h
      | cons c' rest' =>
        rw [List.flatMap_cons, List.flatMap_cons] at h
        obtain ⟨rfl, hrest⟩ := utf16Units_append_inj h
        rw [ih rest' hrest]
  intro s t h
  exact String.toList_inj.mp (hlist _ _ h)

theorem utf8ByteLengthFrom_utf16Units (pairOpen : Bool) (c : Char) (rest : JsString) :
    utf8ByteLengthFrom pairOpen (utf16Units c ++ rest) = c.utf8Size + utf8ByteLengthFrom false rest := by
  have hsize : c.utf8Size = if c.toNat < 0x80 then 1 else if c.toNat < 0x800 then 2
      else if c.toNat < 0x10000 then 3 else 4 := by
    have hval : c.val.toNat = c.toNat := rfl
    simp only [Char.utf8Size, UInt32.le_iff_toNat_le, hval, UInt32.toNat_ofNatLT]
    split_ifs <;> omega
  rcases utf16Units_cases c with ⟨unit, heq, hnat, hlt, hhigh, hlow⟩ |
    ⟨high, low, heq, hhigh, hnot, hhighLow, hlow, hge, hnat⟩
  · rw [heq, List.singleton_append, utf8ByteLengthFrom, hlow, hhigh, hsize]
    simp only [Bool.false_and, Bool.false_eq_true, if_false, UInt16.lt_iff_toNat_lt, hnat,
      UInt16.reduceToNat, hlt, if_true]
  · have hlarge : 0xd800 ≤ high.toNat := by
      simp only [isHighSurrogate, UInt16.le_iff_toNat_le, Bool.and_eq_true, decide_eq_true_eq,
        UInt16.reduceToNat] at hhigh
      exact hhigh.1
    rw [heq, hsize]
    simp only [List.cons_append, List.nil_append, utf8ByteLengthFrom, hhigh, hhighLow, hnot, hlow,
      Bool.false_and, Bool.false_eq_true, if_false, Bool.and_self, if_true,
      UInt16.lt_iff_toNat_lt, UInt16.reduceToNat]
    split_ifs <;> omega

theorem utf8ByteSize_eq_sum (s : String) : s.utf8ByteSize = (s.toList.map Char.utf8Size).sum := by
  have hlist : ∀ l : List Char, (String.ofList l).utf8ByteSize = (l.map Char.utf8Size).sum := by
    intro l
    induction l with
    | nil => rfl
    | cons c rest ih =>
      rw [← List.singleton_append, String.ofList_append, String.utf8ByteSize_append, ih,
        ← String.singleton_eq_ofList, String.utf8ByteSize_singleton, List.map_append, List.sum_append]
      simp
  rw [← hlist, String.ofList_toList]

/-- The bytes of the code units of a text are those of the text. -/
theorem utf8ByteLength_jsString (s : String) : utf8ByteLength (jsString s) = s.utf8ByteSize := by
  have hlist : ∀ l : List Char, utf8ByteLengthFrom false (l.flatMap utf16Units)
      = (l.map Char.utf8Size).sum := by
    intro l
    induction l with
    | nil => rfl
    | cons c rest ih =>
      rw [List.flatMap_cons, utf8ByteLengthFrom_utf16Units, ih, List.map_cons, List.sum_cons]
  rw [utf8ByteLength, jsString, hlist, utf8ByteSize_eq_sum]

/-! ### The order of strings -/

/-- `compareCanonicalStrings`: the order of the code units. -/
def compareCanonicalStrings (left right : String) : Ordering :=
  compare (jsString left) (jsString right)

instance : Std.TransCmp compareCanonicalStrings where
  eq_swap := by
    intro a b
    show compare (jsString a) (jsString b) = (compare (jsString b) (jsString a)).swap
    exact Std.OrientedCmp.eq_swap
  isLE_trans := by
    intro a b c hab hbc
    change (compare (jsString a) (jsString b)).isLE = true at hab
    change (compare (jsString b) (jsString c)).isLE = true at hbc
    show (compare (jsString a) (jsString c)).isLE = true
    exact Std.TransCmp.isLE_trans hab hbc

theorem compareCanonicalStrings_eq_iff {left right : String} :
    compareCanonicalStrings left right = .eq ↔ left = right := by
  rw [compareCanonicalStrings, Std.LawfulEqCmp.compare_eq_iff_eq]
  exact jsString_injective.eq_iff

/-- The code units of a text that is written out: its characters are not decoded again. -/
theorem jsString_of_eq {text : String} {chars : List Char} (h : text = String.ofList chars) :
    jsString text = chars.flatMap utf16Units := by
  rw [jsString, h, String.toList_ofList]

/-! ### Well-formed text -/

/-- A unit of a surrogate pair. -/
def isSurrogate (unit : UInt16) : Bool := isHighSurrogate unit || isLowSurrogate unit

/-- `toWellFormed`: what a file or a message in UTF-8 gives back. A lone surrogate is replaced. -/
def toWellFormed : JsString → JsString
  | [] => []
  | unit :: rest =>
      if isHighSurrogate unit then
        match rest with
        | next :: rest' =>
            if isLowSurrogate next then unit :: next :: toWellFormed rest'
            else 0xfffd :: toWellFormed (next :: rest')
        | [] => [0xfffd]
      else if isLowSurrogate unit then 0xfffd :: toWellFormed rest
      else unit :: toWellFormed rest

theorem toWellFormed_cons {unit : UInt16} (h : isSurrogate unit = false) (s : JsString) :
    toWellFormed (unit :: s) = unit :: toWellFormed s := by
  rw [isSurrogate, Bool.or_eq_false_iff] at h
  cases s <;> simp [toWellFormed, h.1, h.2]

theorem toWellFormed_low {unit : UInt16} (hhigh : ¬ isHighSurrogate unit = true)
    (hlow : isLowSurrogate unit = true) (s : JsString) :
    toWellFormed (unit :: s) = 0xfffd :: toWellFormed s := by
  cases s <;> simp [toWellFormed, hhigh, hlow]

theorem isWellFormedUnicode_cons {unit : UInt16} (h : isSurrogate unit = false) (s : JsString) :
    isWellFormedUnicode (unit :: s) = isWellFormedUnicode s := by
  rw [isSurrogate, Bool.or_eq_false_iff] at h
  cases s <;> simp [isWellFormedUnicode, h.1, h.2]

/-- No pair is torn apart in front of a unit that is no surrogate. -/
theorem toWellFormed_append_cons {unit : UInt16} (h : isSurrogate unit = false) (s t : JsString) :
    toWellFormed (s ++ unit :: t) = toWellFormed s ++ unit :: toWellFormed t := by
  have hunit : isLowSurrogate unit = false := by
    rw [isSurrogate, Bool.or_eq_false_iff] at h
    exact h.2
  induction s using toWellFormed.induct with
  | case1 => exact toWellFormed_cons h t
  | case2 first hhigh next rest hlow ih => simp [toWellFormed, hhigh, hlow, ih]
  | case3 first hhigh next rest hlow ih =>
    simp only [List.cons_append] at ih
    simp [toWellFormed, hhigh, hlow, ih]
  | case4 first hhigh => simp [toWellFormed, hhigh, hunit, toWellFormed_cons h]
  | case5 first rest hhigh hlow ih =>
    rw [List.cons_append, toWellFormed_low hhigh hlow, toWellFormed_low hhigh hlow, ih]
    rfl
  | case6 first rest hhigh hlow ih =>
    have hfirst : isSurrogate first = false := by simp [isSurrogate, hhigh, hlow]
    rw [List.cons_append, toWellFormed_cons hfirst, toWellFormed_cons hfirst, ih]
    rfl

/-- A text without surrogates in front of another one. -/
theorem toWellFormed_append {word : JsString} (h : ∀ unit ∈ word, isSurrogate unit = false)
    (t : JsString) : toWellFormed (word ++ t) = word ++ toWellFormed t := by
  induction word with
  | nil => rfl
  | cons unit word ih =>
    rw [List.forall_mem_cons] at h
    rw [List.cons_append, toWellFormed_cons h.1, ih h.2]
    rfl

/-- A text without surrogates between two others. -/
theorem toWellFormed_append_word {word : JsString} (hne : word ≠ [])
    (h : ∀ unit ∈ word, isSurrogate unit = false) (s t : JsString) :
    toWellFormed (s ++ (word ++ t)) = toWellFormed s ++ (word ++ toWellFormed t) := by
  obtain ⟨unit, word, rfl⟩ := List.exists_cons_of_ne_nil hne
  rw [List.forall_mem_cons] at h
  rw [List.cons_append, toWellFormed_append_cons h.1, toWellFormed_append h.2]
  rfl

theorem toWellFormed_eq_self {s : JsString} (h : isWellFormedUnicode s = true) :
    toWellFormed s = s := by
  induction s using toWellFormed.induct with
  | case1 => rfl
  | case2 first hhigh next rest hlow ih =>
    rw [isWellFormedUnicode, if_pos hhigh, Bool.and_eq_true] at h
    simp [toWellFormed, hhigh, hlow, ih h.2]
  | case3 first hhigh next rest hlow ih => simp [isWellFormedUnicode, hhigh, hlow] at h
  | case4 first hhigh => simp [isWellFormedUnicode, hhigh] at h
  | case5 first rest hhigh hlow ih =>
    cases rest <;> simp [isWellFormedUnicode, hhigh, hlow] at h
  | case6 first rest hhigh hlow ih =>
    have hfirst : isSurrogate first = false := by simp [isSurrogate, hhigh, hlow]
    rw [isWellFormedUnicode_cons hfirst] at h
    rw [toWellFormed_cons hfirst, ih h]

end Ariava.Protocol
