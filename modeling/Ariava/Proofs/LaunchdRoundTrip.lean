import Ariava.HostManager.Launchd

/-!
# `Ariava.Proofs.LaunchdRoundTrip`: the program arguments in the property list

`escapeXml` is five replacements one after another, and `decodeXml` takes them back in the other
order. After each of them the text is the value with some of the five characters escaped
(`escapeMarks`), so a step escapes or unescapes one more (`escapeStep`, `decodeStep`).

The escaped values hold no `<`, so the markup of the rendered list is the one of the template. What
is read back are the arguments without a line terminator (`parse_writtenPlist`): the dot of
`<string>(.*?)</string>` does not pass one. `absoluteServicePath` refuses two of the four, with the
other control characters.
-/

set_option autoImplicit false

namespace Ariava.Proofs.LaunchdRoundTrip

open Ariava.Lib.Scan
open Ariava.Protocol
open Ariava.HostManager

/-! ### Escaping -/

/-- The entity of a character. -/
def xmlEntity (unit : UInt16) : JsString :=
  if unit = ascii '&' then jsString "&amp;"
  else if unit = ascii '<' then jsString "&lt;"
  else if unit = ascii '>' then jsString "&gt;"
  else if unit = ascii '"' then jsString "&quot;"
  else jsString "&apos;"

/-- A character where these are escaped. -/
def escapeMarks (marks : List UInt16) (unit : UInt16) : JsString :=
  if unit ∈ marks then xmlEntity unit else [unit]

/-- The characters that are escaped, the last one first. -/
def xmlMarks : List UInt16 := [ascii '\'', ascii '"', ascii '>', ascii '<', ascii '&']

section
variable {marks : List UInt16} {mark unit : UInt16} {value : JsString}

/-- One more character is escaped, when no entity so far holds it. -/
theorem escapeStep (hnew : mark ∉ marks) (hfree : ∀ other ∈ marks, mark ∉ xmlEntity other) :
    replaceUnit mark (xmlEntity mark) (value.flatMap (escapeMarks marks))
      = value.flatMap (escapeMarks (mark :: marks)) := by
  refine replaceAll_flatMap (List.cons_ne_nil _ _) fun unit _ => ?_
  by_cases hmark : unit = mark
  · left
    rw [hmark]
    exact ⟨if_neg hnew, if_pos List.mem_cons_self⟩
  · right
    by_cases hmem : unit ∈ marks
    · have hescaped : escapeMarks marks unit = xmlEntity unit := if_pos hmem
      rw [hescaped]
      exact ⟨if_pos (List.mem_cons_of_mem _ hmem), noneIn_of_first_not_mem (hfree unit hmem)⟩
    · have hplain : escapeMarks marks unit = [unit] := if_neg hmem
      rw [hplain]
      refine ⟨if_neg ?_, noneIn_of_first_not_mem ?_⟩
      · simp [hmark, hmem]
      · simpa using Ne.symm hmark

/-- One character is unescaped, when its entity is in no other one. -/
theorem decodeStep (hnew : mark ∉ marks) (hamp : ascii '&' ∈ mark :: marks)
    (hfirst : (xmlEntity mark).head? = some (ascii '&'))
    (hfree : ∀ other ∈ marks, isFreeOf (xmlEntity mark) (xmlEntity other) = true) :
    replaceAll (xmlEntity mark) [mark] (value.flatMap (escapeMarks (mark :: marks)))
      = value.flatMap (escapeMarks marks) := by
  obtain ⟨name, hentity⟩ : ∃ name, xmlEntity mark = ascii '&' :: name :=
    ⟨_, (List.cons_head?_tail hfirst).symm⟩
  refine replaceAll_flatMap (by rw [hentity]; exact List.cons_ne_nil _ _) fun unit _ => ?_
  by_cases hmark : unit = mark
  · left
    rw [hmark]
    exact ⟨if_pos List.mem_cons_self, if_neg hnew⟩
  · right
    by_cases hmem : unit ∈ marks
    · have hescaped : escapeMarks (mark :: marks) unit = xmlEntity unit :=
        if_pos (List.mem_cons_of_mem _ hmem)
      rw [hescaped]
      exact ⟨if_pos hmem, noneIn_of_isFreeOf (hfree unit hmem)⟩
    · have hnone : unit ∉ mark :: marks := by simp [hmark, hmem]
      have hplain : escapeMarks (mark :: marks) unit = [unit] := if_neg hnone
      rw [hplain, hentity]
      refine ⟨if_neg hmem, noneIn_of_first_not_mem ?_⟩
      -- An ampersand would be escaped.
      intro hunit
      rw [List.mem_singleton] at hunit
      exact hnone (hunit ▸ hamp)

theorem flatMap_escapeMarks_nil (value : JsString) : value.flatMap (escapeMarks []) = value := by
  induction value with
  | nil => rfl
  | cons unit rest ih =>
    rw [List.flatMap_cons, ih]
    rfl

theorem escapeXml_eq (value : JsString) : escapeXml value = value.flatMap (escapeMarks xmlMarks) := by
  have hplain := (flatMap_escapeMarks_nil value).symm
  have hamp : jsString "&amp;" = xmlEntity (ascii '&') := by decide
  have hlt : jsString "&lt;" = xmlEntity (ascii '<') := by decide
  have hgt : jsString "&gt;" = xmlEntity (ascii '>') := by decide
  have hquot : jsString "&quot;" = xmlEntity (ascii '"') := by decide
  have hapos : jsString "&apos;" = xmlEntity (ascii '\'') := by decide
  rw [escapeXml, hamp, hlt, hgt, hquot, hapos, hplain]
  rw [escapeStep (by decide) (by decide), escapeStep (by decide) (by decide),
    escapeStep (by decide) (by decide), escapeStep (by decide) (by decide),
    escapeStep (by decide) (by decide), ← hplain]
  rfl

/-- Decoding takes escaping back. -/
theorem decodeXml_escapeXml (value : JsString) : decodeXml (escapeXml value) = value := by
  have hplain := flatMap_escapeMarks_nil value
  have hamp : jsString "&amp;" = xmlEntity (ascii '&') := by decide
  have hlt : jsString "&lt;" = xmlEntity (ascii '<') := by decide
  have hgt : jsString "&gt;" = xmlEntity (ascii '>') := by decide
  have hquot : jsString "&quot;" = xmlEntity (ascii '"') := by decide
  have hapos : jsString "&apos;" = xmlEntity (ascii '\'') := by decide
  rw [escapeXml_eq, decodeXml, hamp, hlt, hgt, hquot, hapos, xmlMarks]
  rw [decodeStep (by decide) (by decide) (by decide) (by decide),
    decodeStep (by decide) (by decide) (by decide) (by decide),
    decodeStep (by decide) (by decide) (by decide) (by decide),
    decodeStep (by decide) (by decide) (by decide) (by decide),
    decodeStep (by decide) (by decide) (by decide) (by decide), hplain]

/-- A character of an escaped one is the character itself or in one of the entities. -/
theorem mem_escapeMarks {escaped : UInt16} (h : escaped ∈ escapeMarks xmlMarks unit) :
    (unit ∉ xmlMarks ∧ escaped = unit) ∨ ∃ mark ∈ xmlMarks, mark = unit ∧ escaped ∈ xmlEntity mark := by
  by_cases hmem : unit ∈ xmlMarks
  · rw [escapeMarks, if_pos hmem] at h
    exact .inr ⟨unit, hmem, rfl, h⟩
  · rw [escapeMarks, if_neg hmem, List.mem_singleton] at h
    exact .inl ⟨hmem, h⟩

/-- No markup is left in an escaped value. -/
theorem lt_not_mem_escapeXml (value : JsString) : ascii '<' ∉ escapeXml value := by
  rw [escapeXml_eq]
  intro h
  obtain ⟨unit, -, hunit⟩ := List.mem_flatMap.mp h
  rcases mem_escapeMarks hunit with ⟨hmem, rfl⟩ | ⟨mark, hmark, -, hentity⟩
  · exact hmem (by decide)
  · exact absurd hentity (by revert mark; decide)

/-- Escaping keeps the line terminators, and adds none. -/
theorem hasLineTerminator_escapeXml (value : JsString) :
    (∃ unit ∈ escapeXml value, isLineTerminator unit = true) ↔
      ∃ unit ∈ value, isLineTerminator unit = true := by
  rw [escapeXml_eq]
  constructor
  · rintro ⟨escaped, hescaped, hterminator⟩
    obtain ⟨unit, hunit, hescaped⟩ := List.mem_flatMap.mp hescaped
    rcases mem_escapeMarks hescaped with ⟨-, rfl⟩ | ⟨mark, hmark, -, hentity⟩
    · exact ⟨escaped, hunit, hterminator⟩
    · have hnone : ∀ mark ∈ xmlMarks, ∀ unit ∈ xmlEntity mark, isLineTerminator unit = false := by
        decide
      rw [hnone mark hmark escaped hentity] at hterminator
      cases hterminator
  · rintro ⟨unit, hunit, hterminator⟩
    have hnone : ∀ mark ∈ xmlMarks, isLineTerminator mark = false := by decide
    have hplain : unit ∉ xmlMarks := by
      intro hmem
      rw [hnone unit hmem] at hterminator
      cases hterminator
    refine ⟨unit, List.mem_flatMap.mpr ⟨unit, hunit, ?_⟩, hterminator⟩
    rw [escapeMarks, if_neg hplain]
    exact List.mem_singleton_self unit

/-- Escaping and the way through a file do not disturb each other. -/
theorem toWellFormed_escapeXml (value : JsString) :
    toWellFormed (escapeXml value) = escapeXml (toWellFormed value) := by
  have hsurrogate : ∀ unit, isSurrogate unit = true → escapeMarks xmlMarks unit = [unit] := by
    intro unit hunit
    have hnone : ∀ mark ∈ xmlMarks, isSurrogate mark = false := by decide
    refine if_neg fun hmem => ?_
    rw [hnone unit hmem] at hunit
    cases hunit
  have hreplaced : escapeMarks xmlMarks 0xfffd = [0xfffd] := by decide
  have hword : ∀ unit, isSurrogate unit = false →
      ∀ escaped ∈ escapeMarks xmlMarks unit, isSurrogate escaped = false := by
    intro unit hunit escaped hescaped
    rcases mem_escapeMarks hescaped with ⟨-, rfl⟩ | ⟨mark, hmark, -, hentity⟩
    · exact hunit
    · have hnone : ∀ mark ∈ xmlMarks, ∀ unit ∈ xmlEntity mark, isSurrogate unit = false := by decide
      exact hnone mark hmark escaped hentity
  rw [escapeXml_eq, escapeXml_eq]
  induction value using toWellFormed.induct with
  | case1 => rfl
  | case2 first hhigh next rest hlow ih =>
    have hfirst := hsurrogate first (by simp [isSurrogate, hhigh])
    have hnext := hsurrogate next (by simp [isSurrogate, hlow])
    simp [List.flatMap_cons, hfirst, hnext, toWellFormed, hhigh, hlow, ih]
  | case3 first hhigh next rest hlow ih =>
    have hfirst := hsurrogate first (by simp [isSurrogate, hhigh])
    -- What follows a lone high surrogate does not start with a low one after escaping either.
    have hstart : ∃ start text, (next :: rest).flatMap (escapeMarks xmlMarks) = start :: text ∧
        ¬ isLowSurrogate start = true := by
      by_cases hnext : isSurrogate next = true
      · refine ⟨next, rest.flatMap (escapeMarks xmlMarks), ?_, hlow⟩
        rw [List.flatMap_cons, hsurrogate next hnext]
        rfl
      · have hunits := hword next (Bool.eq_false_iff.mpr hnext)
        have hne : escapeMarks xmlMarks next ≠ [] := by
          rw [escapeMarks]
          split
          · next hmem => exact (by decide : ∀ mark ∈ xmlMarks, xmlEntity mark ≠ []) next hmem
          · exact List.cons_ne_nil _ _
        obtain ⟨start, word, hcons⟩ := List.exists_cons_of_ne_nil hne
        have hstartUnit := hunits start (by rw [hcons]; exact List.mem_cons_self)
        rw [isSurrogate, Bool.or_eq_false_iff] at hstartUnit
        refine ⟨start, word ++ rest.flatMap (escapeMarks xmlMarks), ?_, by simp [hstartUnit.2]⟩
        rw [List.flatMap_cons, hcons]
        rfl
    obtain ⟨start, text, htext, hstart⟩ := hstart
    have hgoal : toWellFormed (first :: start :: text) = 0xfffd :: toWellFormed (start :: text) := by
      simp [toWellFormed, hhigh, hstart]
    rw [List.flatMap_cons, hfirst, List.singleton_append, htext, hgoal, ← htext, ih]
    simp [toWellFormed, hhigh, hlow, List.flatMap_cons, hreplaced]
  | case4 first hhigh =>
    have hfirst := hsurrogate first (by simp [isSurrogate, hhigh])
    simp [hfirst, toWellFormed, hhigh, hreplaced]
  | case5 first rest hhigh hlow ih =>
    have hfirst := hsurrogate first (by simp [isSurrogate, hlow])
    rw [List.flatMap_cons, hfirst, List.singleton_append, toWellFormed_low hhigh hlow,
      toWellFormed_low hhigh hlow, List.flatMap_cons, hreplaced, ih]
    rfl
  | case6 first rest hhigh hlow ih =>
    have hunit : isSurrogate first = false := by simp [isSurrogate, hhigh, hlow]
    rw [List.flatMap_cons, toWellFormed_append (hword first hunit), toWellFormed_cons hunit,
      List.flatMap_cons, ih]

end

/-! ### The file -/

/-- A definition as it comes back from the file. -/
def wellFormedDefinition (definition : LaunchdServiceDefinition) : LaunchdServiceDefinition :=
  { definition with
    label := toWellFormed definition.label
    stdoutPath := toWellFormed definition.stdoutPath
    stderrPath := toWellFormed definition.stderrPath
    programArguments := definition.programArguments.map toWellFormed }

section
variable {word word₁ word₂ word₃ word₄ word₅ : JsString}

/-- A text with no surrogate in it. -/
def IsPlain (word : JsString) : Prop := word ≠ [] ∧ ∀ unit ∈ word, isSurrogate unit = false

theorem IsPlain.append (h : IsPlain word) (h' : IsPlain word₁) : IsPlain (word ++ word₁) := by
  refine ⟨by simp [h.1], fun unit hunit => ?_⟩
  rcases List.mem_append.mp hunit with hunit | hunit
  · exact h.2 unit hunit
  · exact h'.2 unit hunit

/-- A text that is written out in ASCII. -/
theorem isPlain_jsString {text : String} {chars : List Char} (h : text = String.ofList chars)
    (hne : chars ≠ []) (hchars : chars.all (fun c => decide (c.toNat < 0x80)) = true) :
    IsPlain (jsString text) := by
  rw [jsString_of_eq h]
  rw [List.all_eq_true] at hchars
  have hunit : ∀ c : Char, c.toNat < 0x80 → utf16Units c = [c.val.toUInt16] ∧
      isSurrogate c.val.toUInt16 = false := by
    intro c hc
    have hval : c.val.toNat = c.toNat := rfl
    refine ⟨if_pos (by omega), ?_⟩
    simp only [isSurrogate, isHighSurrogate, isLowSurrogate, Bool.or_eq_false_iff,
      Bool.and_eq_false_iff, decide_eq_false_iff_not, UInt16.le_iff_toNat_le,
      UInt32.toNat_toUInt16, UInt16.reduceToNat, hval]
    omega
  constructor
  · obtain ⟨c, rest, rfl⟩ := List.exists_cons_of_ne_nil hne
    rw [List.flatMap_cons, (hunit c (of_decide_eq_true (hchars c List.mem_cons_self))).1]
    exact List.cons_ne_nil _ _
  · intro unit hmem
    obtain ⟨c, hc, hmem⟩ := List.mem_flatMap.mp hmem
    obtain ⟨hunits, hplain⟩ := hunit c (of_decide_eq_true (hchars c hc))
    rw [hunits, List.mem_singleton] at hmem
    rw [hmem]
    exact hplain

/-- A template with two values in it. -/
theorem toWellFormed_template (h₁ : IsPlain word₁) (h₂ : IsPlain word₂) (value rest : JsString) :
    toWellFormed (word₁ ++ (escapeXml value ++ (word₂ ++ rest)))
      = word₁ ++ (escapeXml (toWellFormed value) ++ (word₂ ++ toWellFormed rest)) := by
  rw [toWellFormed_append h₁.2, toWellFormed_append_word h₂.1 h₂.2, toWellFormed_escapeXml]

theorem argumentLine_append (argument rest : JsString) :
    argumentLine argument ++ rest
      = jsString "      <string>" ++ (escapeXml argument ++ (jsString "</string>" ++ rest)) := by
  rw [argumentLine, List.append_assoc, List.append_assoc]

theorem escapedArgs_nil : escapedArgs [] = [] := by
  rw [escapedArgs, List.map_nil, List.intercalate_nil]

theorem escapedArgs_singleton (argument : JsString) :
    escapedArgs [argument] = argumentLine argument := by
  rw [escapedArgs, List.map_singleton, List.intercalate_singleton]

theorem escapedArgs_cons_append (argument next : JsString) (arguments : List JsString)
    (rest : JsString) :
    escapedArgs (argument :: next :: arguments) ++ rest
      = argumentLine argument ++ (jsString "\n" ++ (escapedArgs (next :: arguments) ++ rest)) := by
  simp only [escapedArgs, List.map_cons, List.intercalate_cons_cons, List.append_assoc]

theorem toWellFormed_argumentLine (h : IsPlain word) (argument rest : JsString) :
    toWellFormed (argumentLine argument ++ (word ++ rest))
      = argumentLine (toWellFormed argument) ++ (word ++ toWellFormed rest) := by
  have hopen : IsPlain (jsString "      <string>") := ⟨by decide, by decide⟩
  have hclose : IsPlain (jsString "</string>") := ⟨by decide, by decide⟩
  rw [argumentLine_append, argumentLine_append, toWellFormed_template hopen hclose,
    toWellFormed_append h.2]

theorem toWellFormed_escapedArgs (h : IsPlain word) (arguments : List JsString) (rest : JsString) :
    toWellFormed (escapedArgs arguments ++ (word ++ rest))
      = escapedArgs (arguments.map toWellFormed) ++ (word ++ toWellFormed rest) := by
  have hnewline : IsPlain (jsString "\n") := ⟨by decide, by decide⟩
  induction arguments with
  | nil =>
    rw [List.map_nil, escapedArgs_nil]
    exact toWellFormed_append h.2 rest
  | cons argument arguments ih =>
    cases arguments with
    | nil =>
      rw [List.map_singleton, escapedArgs_singleton, escapedArgs_singleton]
      exact toWellFormed_argumentLine h argument rest
    | cons next arguments =>
      rw [escapedArgs_cons_append, toWellFormed_argumentLine hnewline, ih]
      simp only [List.map_cons]
      rw [escapedArgs_cons_append]

set_option maxRecDepth 4000 in
/-- The file holds the rendered definition with the lone surrogates of its values replaced. -/
theorem writtenPlist_eq (definition : LaunchdServiceDefinition) :
    writtenPlist definition = renderLaunchdPlist (wellFormedDefinition definition) := by
  have hstart : IsPlain plistStart := isPlain_jsString rfl (by simp) (by simp)
  have harguments : IsPlain plistArguments := isPlain_jsString rfl (by simp) (by simp)
  have hswitches : IsPlain (plistSwitches definition.enabled) := by
    have hswitch : ∀ enabled : Bool, IsPlain (jsString (if enabled then "true" else "false")) := by
      intro enabled
      cases enabled <;> exact ⟨by decide, by decide⟩
    exact (isPlain_jsString rfl (by simp) (by simp)).append ((hswitch _).append
      ((isPlain_jsString rfl (by simp) (by simp)).append ((hswitch _).append
        (isPlain_jsString rfl (by simp) (by simp)))))
  have herror : IsPlain plistErrorPath := isPlain_jsString rfl (by simp) (by simp)
  have hplain : IsPlain plistEnd := isPlain_jsString rfl (by simp) (by simp)
  have hlast : toWellFormed (escapeXml definition.stderrPath ++ plistEnd)
      = escapeXml (toWellFormed definition.stderrPath) ++ plistEnd := by
    have hword := toWellFormed_append_word hplain.1 hplain.2 (escapeXml definition.stderrPath) []
    rwa [toWellFormed, List.append_nil, toWellFormed_escapeXml] at hword
  rw [writtenPlist, renderLaunchdPlist, toWellFormed_template hstart harguments,
    toWellFormed_escapedArgs hswitches, toWellFormed_append_word herror.1 herror.2,
    toWellFormed_escapeXml, hlast]
  rfl

end

/-! ### Scanning it -/

/-- A text without a less-than sign has no markup in it. -/
theorem noneIn_of_lt_not_mem {name value : JsString} (h : ascii '<' ∉ value) :
    NoneIn (fixedWord (ascii '<' :: name)) value :=
  noneIn_of_first_not_mem h

/-- The argument has no line terminator. -/
def isOneLine (argument : JsString) : Bool := argument.all fun unit => !isLineTerminator unit

theorem isOneLine_eq_false_iff {argument : JsString} :
    isOneLine argument = false ↔ ∃ unit ∈ argument, isLineTerminator unit = true := by
  simp [isOneLine, ← Bool.not_eq_true, List.all_eq_true]

theorem isOneLine_escapeXml (argument : JsString) :
    isOneLine (escapeXml argument) = isOneLine argument := by
  rw [Bool.eq_iff_iff, ← not_iff_not, Bool.not_eq_true, Bool.not_eq_true, isOneLine_eq_false_iff,
    isOneLine_eq_false_iff]
  exact hasLineTerminator_escapeXml argument

/-- An entry on one line is found, and one with a line terminator is passed over. -/
theorem matchAll_argumentLine (argument rest : JsString) :
    matchAll stringEntry (argumentLine argument ++ rest)
      = (if isOneLine argument then [escapeXml argument] else []) ++ matchAll stringEntry rest := by
  have hlt := lt_not_mem_escapeXml argument
  have hclose : NoneIn (fixedWord (jsString "</string>")) (escapeXml argument) :=
    noneIn_of_lt_not_mem hlt
  have hindent : NoneIn stringEntry (jsString "      ") :=
    noneIn_bracketed (noneIn_of_isFreeOf (by decide))
  have hline : argumentLine argument ++ rest = jsString "      " ++ ((jsString "<string>"
      ++ (escapeXml argument ++ jsString "</string>")) ++ rest) := by
    have hopen : jsString "      <string>" = jsString "      " ++ jsString "<string>" := by decide
    rw [argumentLine, hopen]
    simp only [List.append_assoc]
  have hopening : jsString "<string>" = ascii '<' :: jsString "string>" := by decide
  rw [hline, matchAll_append hindent]
  cases hone : isOneLine argument with
  | true =>
    have hallowed : ∀ unit ∈ escapeXml argument, (!isLineTerminator unit) = true := by
      rw [← isOneLine_escapeXml, isOneLine, List.all_eq_true] at hone
      exact hone
    have hne : jsString "<string>" ++ (escapeXml argument ++ jsString "</string>") ≠ [] := by
      rw [hopening]
      exact List.cons_ne_nil _ _
    exact matchAll_of_match hne (bracketed_append (by decide) hclose hallowed rest)
  | false =>
    have hblocked : ∃ unit ∈ escapeXml argument, (!isLineTerminator unit) = false := by
      rw [← isOneLine_escapeXml, isOneLine_eq_false_iff] at hone
      simpa using hone
    -- The entry does not match, and no other one starts in it.
    have hinside : NoneIn (fixedWord (jsString "<string>"))
        (jsString "string>" ++ (escapeXml argument ++ jsString "</string>")) := by
      refine NoneIn.append (noneIn_of_isFreeOf (by decide)) (NoneIn.append ?_ ?_)
      · exact noneIn_of_lt_not_mem hlt
      · exact noneIn_of_isFreeOf (by decide)
    exact matchAll_append (noneIn_bracketed_blocked hopening hclose hblocked hinside) rest

/-- The entries of the argument lines. -/
theorem matchAll_escapedArgs (arguments : List JsString) (rest : JsString) :
    matchAll stringEntry (escapedArgs arguments ++ rest)
      = (arguments.filter isOneLine).map escapeXml ++ matchAll stringEntry rest := by
  have hentry : ∀ (argument : JsString) (others : List JsString),
      ((argument :: others).filter isOneLine).map escapeXml
        = (if isOneLine argument then [escapeXml argument] else [])
          ++ (others.filter isOneLine).map escapeXml := by
    intro argument others
    cases hone : isOneLine argument <;> simp [hone]
  induction arguments with
  | nil =>
    rw [escapedArgs_nil]
    rfl
  | cons argument arguments ih =>
    rw [hentry, List.append_assoc]
    cases arguments with
    | nil =>
      rw [escapedArgs_singleton, List.filter_nil, List.map_nil]
      exact matchAll_argumentLine argument rest
    | cons next arguments =>
      have hnewline : NoneIn stringEntry (jsString "\n") :=
        noneIn_bracketed (noneIn_of_isFreeOf (by decide))
      rw [escapedArgs_cons_append, matchAll_argumentLine, matchAll_append hnewline, ih]

/-- No markup that ends the array is in the argument lines. -/
theorem noneIn_escapedArgs (arguments : List JsString) :
    NoneIn (fixedWord (jsString "</array>")) (escapedArgs arguments) := by
  have hline : ∀ argument, NoneIn (fixedWord (jsString "</array>")) (argumentLine argument) := by
    intro argument
    refine NoneIn.append (noneIn_of_isFreeOf (by decide)) (NoneIn.append ?_ ?_)
    · exact noneIn_of_lt_not_mem (lt_not_mem_escapeXml argument)
    · exact noneIn_of_isFreeOf (by decide)
  induction arguments with
  | nil =>
    rw [escapedArgs_nil]
    exact noneIn_nil
  | cons argument arguments ih =>
    cases arguments with
    | nil =>
      rw [escapedArgs_singleton]
      exact hline argument
    | cons next arguments =>
      have hcons := escapedArgs_cons_append argument next arguments []
      rw [List.append_nil, List.append_nil] at hcons
      rw [hcons]
      exact NoneIn.append (hline argument) (NoneIn.append (noneIn_of_isFreeOf (by decide)) ih)

/-- The key, blanks and an array match as far as the array goes. -/
theorem argumentsBlock_append {blanks block : JsString}
    (hblanks : ∀ unit ∈ blanks, isSpaceUnit unit = true)
    (hnone : NoneIn (fixedWord (jsString "</array>")) block) (rest : JsString) :
    argumentsBlock (jsString "<key>ProgramArguments</key>" ++ (blanks
        ++ (jsString "<array>" ++ (block ++ jsString "</array>"))) ++ rest)
      = some (block, (jsString "<key>ProgramArguments</key>" ++ (blanks
        ++ (jsString "<array>" ++ (block ++ jsString "</array>")))).length) := by
  have harray : jsString "<array>" = ascii '<' :: jsString "array>" := by decide
  have hskip : (blanks ++ (jsString "<array>" ++ (block ++ jsString "</array>") ++ rest)).dropWhile
      isSpaceUnit = jsString "<array>" ++ (block ++ jsString "</array>") ++ rest := by
    have hmark : isSpaceUnit (ascii '<') = false := by decide
    rw [List.dropWhile_append_of_pos hblanks, harray, List.cons_append, List.cons_append,
      List.dropWhile_cons_of_neg (by simp [hmark])]
  have hall : ∀ unit ∈ block, (fun _ : UInt16 => true) unit = true := fun _ _ => rfl
  have hinner : bracketed (fun _ => true) (jsString "<array>") (jsString "</array>")
      (jsString "<array>" ++ (block ++ jsString "</array>") ++ rest)
        = some (block, (jsString "<array>" ++ (block ++ jsString "</array>")).length) :=
    bracketed_append (by decide) hnone hall rest
  have hopened : dropWord (jsString "<key>ProgramArguments</key>")
      (jsString "<key>ProgramArguments</key>" ++ (blanks
        ++ (jsString "<array>" ++ (block ++ jsString "</array>"))) ++ rest)
      = some (blanks ++ (jsString "<array>" ++ (block ++ jsString "</array>") ++ rest)) := by
    rw [List.append_assoc, dropWord_append, List.append_assoc]
  rw [argumentsBlock, hopened]
  simp only [Option.bind_eq_bind, Option.bind_some, hskip, hinner, List.length_append]
  show some _ = some _
  congr 2
  omega

theorem argumentsBlock_eq_none (text : JsString)
    (h : dropWord (jsString "<key>ProgramArguments</key>") text = none) :
    argumentsBlock text = none := by
  rw [argumentsBlock, h]
  rfl

set_option maxRecDepth 4000 in
theorem noneIn_plistStart : NoneIn argumentsBlock plistStart := by
  refine noneIn_of_dropWord argumentsBlock_eq_none (noneIn_of_isFreeOf ?_)
  rw [plistStart, jsString_of_eq rfl, jsString_of_eq rfl]
  decide

/-- The block of a rendered definition is the text between the tags of its array. -/
theorem firstMatch_renderLaunchdPlist (definition : LaunchdServiceDefinition) :
    firstMatch argumentsBlock (renderLaunchdPlist definition)
      = some (jsString "\n" ++ (escapedArgs definition.programArguments ++ jsString "\n    ")) := by
  have hkey : jsString "<key>ProgramArguments</key>"
      = ascii '<' :: jsString "key>ProgramArguments</key>" := by decide
  have hlabel : NoneIn argumentsBlock (escapeXml definition.label) := by
    refine noneIn_of_dropWord argumentsBlock_eq_none ?_
    rw [hkey]
    exact noneIn_of_lt_not_mem (lt_not_mem_escapeXml _)
  have hlead : NoneIn argumentsBlock (jsString "</string>\n    ") :=
    noneIn_of_dropWord argumentsBlock_eq_none (noneIn_of_isFreeOf (by decide))
  have hblock : NoneIn (fixedWord (jsString "</array>"))
      (jsString "\n" ++ (escapedArgs definition.programArguments ++ jsString "\n    ")) :=
    NoneIn.append (noneIn_of_isFreeOf (by decide))
      (NoneIn.append (noneIn_escapedArgs _) (noneIn_of_isFreeOf (by decide)))
  -- The template, cut at the tags.
  have harguments : plistArguments = jsString "</string>\n    "
      ++ (jsString "<key>ProgramArguments</key>" ++ (jsString "\n    "
        ++ (jsString "<array>" ++ jsString "\n"))) := by
    simp only [plistArguments, jsString_of_eq rfl]
    decide
  obtain ⟨more, hswitches⟩ : ∃ more, plistSwitches definition.enabled
      = jsString "\n    " ++ (jsString "</array>" ++ more) := by
    have hstart : jsString "\n    </array>\n    <key>RunAtLoad</key>\n    <" = jsString "\n    "
        ++ (jsString "</array>" ++ jsString "\n    <key>RunAtLoad</key>\n    <") := by
      simp only [jsString_of_eq rfl]
      decide
    rw [plistSwitches, hstart]
    simp only [List.append_assoc]
    exact ⟨_, rfl⟩
  have hnonempty : jsString "<key>ProgramArguments</key>" ++ (jsString "\n    "
      ++ (jsString "<array>" ++ ((jsString "\n" ++ (escapedArgs definition.programArguments
        ++ jsString "\n    ")) ++ jsString "</array>"))) ≠ [] := by
    rw [hkey]
    exact List.cons_ne_nil _ _
  have hmatch := fun rest => matchAll_of_match hnonempty
    (argumentsBlock_append (by decide : ∀ unit ∈ jsString "\n    ", isSpaceUnit unit = true)
      hblock rest)
  simp only [List.append_assoc] at hmatch
  rw [renderLaunchdPlist, harguments, hswitches, firstMatch, matchAll_append noneIn_plistStart,
    matchAll_append hlabel]
  simp only [List.append_assoc]
  rw [matchAll_append hlead, hmatch]
  rfl

/-- The arguments without a line terminator are read back, and the other ones are lost. -/
theorem parse_writtenPlist (definition : LaunchdServiceDefinition) :
    parseProgramArgumentsFromPlist (some (writtenPlist definition))
      = (definition.programArguments.map toWellFormed).filter isOneLine := by
  have hnewline : NoneIn stringEntry (jsString "\n") :=
    noneIn_bracketed (noneIn_of_isFreeOf (by decide))
  have hindent : NoneIn stringEntry (jsString "\n    ") :=
    noneIn_bracketed (noneIn_of_isFreeOf (by decide))
  have hend : matchAll stringEntry (jsString "\n    ") = [] := by
    have hnil : matchAll stringEntry [] = [] := rfl
    have hall := matchAll_append hindent []
    rw [List.append_nil, hnil] at hall
    exact hall
  have hdecode : ∀ arguments : List JsString,
      (arguments.map escapeXml).map decodeXml = arguments := by
    intro arguments
    simp only [List.map_map, Function.comp_def, decodeXml_escapeXml, List.map_id']
  rw [writtenPlist_eq, parseProgramArgumentsFromPlist, firstMatch_renderLaunchdPlist]
  show (matchAll stringEntry _).map decodeXml = _
  rw [matchAll_append hnewline, matchAll_escapedArgs, hend, List.append_nil, hdecode]
  rfl

/-! ### The paths of a service -/

section
variable {path resolved : JsString} {field : String}

/-- Two line terminators are control characters, and the other two pass. -/
theorem isLineTerminator_of_absoluteServicePath (h : absoluteServicePath path field = .ok resolved) :
    ∀ unit ∈ resolved, isLineTerminator unit = true → unit = 0x2028 ∨ unit = 0x2029 := by
  rw [absoluteServicePath, check_bind_eq_ok, throwIf_eq_ok, Bool.or_eq_false_iff] at h
  obtain ⟨⟨-, hcontrol⟩, hresolved⟩ := h
  cases hresolved
  intro unit hunit hterminator
  have hsafe : isControlUnit unit = false := by
    rcases mem_resolve hunit with rfl | hmem
    · decide
    · rw [← Bool.not_eq_true] at hcontrol ⊢
      exact fun hcontrolUnit => hcontrol (List.any_eq_true.mpr ⟨unit, hmem, hcontrolUnit⟩)
  have hlow : ∀ control : UInt16, isControlUnit control = true → unit ≠ control := by
    rintro control hcontrol rfl
    rw [hsafe] at hcontrol
    cases hcontrol
  have hfeed := hlow 0x0a (by decide)
  have hreturn := hlow 0x0d (by decide)
  simp only [isLineTerminator, hfeed, hreturn, decide_false, Bool.false_or, Bool.or_eq_true,
    decide_eq_true_eq] at hterminator
  exact hterminator

end

section
variable {defaults : LaunchdDefaults} {nodePath ariavaBinPath : JsString}
variable {configPathOrOverrides : ConfigPathOrOverrides} {overrides : LaunchdOverrides}
variable {definition : LaunchdServiceDefinition}

/-- The program arguments are three resolved paths and three fixed words. -/
theorem programArguments_eq
    (h : buildLaunchdServiceDefinition defaults nodePath ariavaBinPath configPathOrOverrides overrides
      = .ok definition) :
    ∃ node bin config configPath, absoluteServicePath nodePath "runtimePath" = .ok node ∧
      absoluteServicePath ariavaBinPath "ariavaBinPath" = .ok bin ∧
      absoluteServicePath configPath "configPath" = .ok config ∧
      definition.programArguments = [node, bin, jsString "internal", jsString "bridge-daemon",
        jsString "--config", config] := by
  unfold buildLaunchdServiceDefinition at h
  obtain ⟨node, hnode, h⟩ := bind_eq_ok_iff.mp h
  obtain ⟨bin, hbin, h⟩ := bind_eq_ok_iff.mp h
  obtain ⟨config, hconfig, h⟩ := bind_eq_ok_iff.mp h
  cases h
  exact ⟨node, bin, config, _, hnode, hbin, hconfig, rfl⟩

/-- The line terminators of an argument are U+2028 and U+2029. -/
theorem isLineTerminator_of_mem_programArguments
    (h : buildLaunchdServiceDefinition defaults nodePath ariavaBinPath configPathOrOverrides overrides
      = .ok definition) {argument : JsString} (hargument : argument ∈ definition.programArguments) :
    ∀ unit ∈ argument, isLineTerminator unit = true → unit = 0x2028 ∨ unit = 0x2029 := by
  obtain ⟨node, bin, config, configPath, hnode, hbin, hconfig, harguments⟩ := programArguments_eq h
  have hword : ∀ word ∈ [jsString "internal", jsString "bridge-daemon", jsString "--config"],
      ∀ unit ∈ word, isLineTerminator unit = false := by decide
  have hfixed : argument ∈ [jsString "internal", jsString "bridge-daemon", jsString "--config"] →
      ∀ unit ∈ argument, isLineTerminator unit = true → unit = 0x2028 ∨ unit = 0x2029 := by
    intro hmem unit hunit hterminator
    rw [hword argument hmem unit hunit] at hterminator
    cases hterminator
  rw [harguments] at hargument
  simp only [List.mem_cons, List.not_mem_nil, or_false] at hargument
  rcases hargument with rfl | rfl | hinternal | hdaemon | hflag | rfl
  · exact isLineTerminator_of_absoluteServicePath hnode
  · exact isLineTerminator_of_absoluteServicePath hbin
  · exact hfixed (by simp [hinternal])
  · exact hfixed (by simp [hdaemon])
  · exact hfixed (by simp [hflag])
  · exact isLineTerminator_of_absoluteServicePath hconfig

/-- What is written is read back. -/
def RoundTrips (definition : LaunchdServiceDefinition) : Prop :=
  parseProgramArgumentsFromPlist (some (writtenPlist definition)) = definition.programArguments

/-- Well-formed arguments come back exactly when each is on one line. -/
theorem roundTrips_iff_isOneLine
    (hwellFormed : ∀ argument ∈ definition.programArguments, isWellFormedUnicode argument = true) :
    RoundTrips definition ↔
      ∀ argument ∈ definition.programArguments, isOneLine argument = true := by
  have hsame : definition.programArguments.map toWellFormed = definition.programArguments := by
    have hmap := List.map_congr_left fun argument hargument =>
      toWellFormed_eq_self (hwellFormed argument hargument)
    rw [hmap, List.map_id']
  rw [RoundTrips, parse_writtenPlist, hsame, List.filter_eq_self]

/-- The program arguments of a definition come back exactly when none of them holds a line or
paragraph separator. -/
theorem roundTrips_iff
    (h : buildLaunchdServiceDefinition defaults nodePath ariavaBinPath configPathOrOverrides overrides
      = .ok definition)
    (hwellFormed : ∀ argument ∈ definition.programArguments, isWellFormedUnicode argument = true) :
    RoundTrips definition ↔
      ∀ argument ∈ definition.programArguments, 0x2028 ∉ argument ∧ 0x2029 ∉ argument := by
  rw [roundTrips_iff_isOneLine hwellFormed]
  refine forall₂_congr fun argument hargument => ?_
  rw [isOneLine, List.all_eq_true]
  constructor
  · intro hline
    exact ⟨fun hmem => absurd (hline _ hmem) (by decide), fun hmem => absurd (hline _ hmem) (by decide)⟩
  · rintro ⟨hline, hparagraph⟩ unit hunit
    rw [Bool.not_eq_true', Bool.eq_false_iff]
    intro hterminator
    rcases isLineTerminator_of_mem_programArguments h hargument unit hunit hterminator with rfl | rfl
    · exact hline hunit
    · exact hparagraph hunit

end

/-! ### Samples -/

/-- A file in the root directory. -/
theorem resolve_rootFile {name : JsString} (hslash : ascii '/' ∉ name)
    (hname : name ≠ [] ∧ name ≠ jsString "." ∧ name ≠ jsString "..") :
    resolve (ascii '/' :: name) = ascii '/' :: name := by
  obtain ⟨hne, hdot, hdots⟩ := hname
  have hsplit : (ascii '/' :: name).splitOn (ascii '/') = [[], name] := by
    have hjoin : ascii '/' :: name = List.intercalate [ascii '/'] [[], name] := by
      simp [List.intercalate_cons_cons]
    rw [hjoin]
    exact List.splitOn_intercalate _ (by simpa using hslash) (by simp)
  rw [resolve, hsplit]
  simp [normalizeSegments, hne, hdot, hdots]

/-- Default paths. -/
def sampleDefaults : LaunchdDefaults where
  configPath := jsString "/config"
  plistPath := jsString "/plist"
  stdoutLogPath := jsString "/out"
  stderrLogPath := jsString "/err"

/-- The definition for a runtime in the root directory. -/
def sampleDefinition (runtime : JsString) : LaunchdServiceDefinition where
  label := jsString "io.noyx.ariava.bridge"
  nodePath := ascii '/' :: runtime
  ariavaBinPath := jsString "/ariava"
  configPath := jsString "/config"
  plistPath := jsString "/plist"
  stdoutPath := jsString "/out"
  stderrPath := jsString "/err"
  programArguments := [ascii '/' :: runtime, jsString "/ariava", jsString "internal",
    jsString "bridge-daemon", jsString "--config", jsString "/config"]
  enabled := true

theorem buildLaunchdServiceDefinition_sample {runtime : JsString}
    (hpath : absoluteServicePath (ascii '/' :: runtime) "runtimePath" = .ok (ascii '/' :: runtime)) :
    buildLaunchdServiceDefinition sampleDefaults (ascii '/' :: runtime) (jsString "/ariava")
      (.configPath (jsString "/config")) ⟨none, none, none, none, none⟩
        = .ok (sampleDefinition runtime) := by
  have hbin : absoluteServicePath (jsString "/ariava") "ariavaBinPath" = .ok (jsString "/ariava") := by
    rw [absoluteServicePath, check_bind_eq_ok]
    exact ⟨by decide, congrArg Except.ok (resolve_rootFile (by decide) (by decide))⟩
  have hconfig : absoluteServicePath (jsString "/config") "configPath" = .ok (jsString "/config") := by
    rw [absoluteServicePath, check_bind_eq_ok]
    exact ⟨by decide, congrArg Except.ok (resolve_rootFile (by decide) (by decide))⟩
  simp only [buildLaunchdServiceDefinition, hpath, hbin, hconfig]
  rfl

theorem isWellFormedUnicode_of_plain {value : JsString}
    (h : ∀ unit ∈ value, isSurrogate unit = false) : isWellFormedUnicode value = true := by
  induction value with
  | nil => rfl
  | cons unit rest ih =>
    rw [List.forall_mem_cons] at h
    rw [isWellFormedUnicode_cons h.1, ih h.2]

/-- The arguments of a sample are well-formed when its runtime has no surrogate. -/
theorem isWellFormedUnicode_sample {runtime : JsString}
    (h : ∀ unit ∈ runtime, isSurrogate unit = false) :
    ∀ argument ∈ (sampleDefinition runtime).programArguments, isWellFormedUnicode argument = true := by
  have hwords : ∀ word ∈ [jsString "/ariava", jsString "internal", jsString "bridge-daemon",
      jsString "--config", jsString "/config"], ∀ unit ∈ word, isSurrogate unit = false := by decide
  intro argument hargument
  refine isWellFormedUnicode_of_plain ?_
  rcases List.mem_cons.mp hargument with rfl | hword
  · exact List.forall_mem_cons.mpr ⟨by decide, h⟩
  · exact hwords argument hword

theorem roundTrips_node : RoundTrips (sampleDefinition (jsString "node")) := by
  have hpath : absoluteServicePath (ascii '/' :: jsString "node") "runtimePath"
      = .ok (ascii '/' :: jsString "node") := by
    rw [absoluteServicePath, check_bind_eq_ok]
    exact ⟨by decide, congrArg Except.ok (resolve_rootFile (by decide) (by decide))⟩
  exact (roundTrips_iff (buildLaunchdServiceDefinition_sample hpath)
    (isWellFormedUnicode_sample (by decide))).mpr (by decide)

/-- A runtime path with a line separator is lost. -/
theorem not_roundTrips_lineSeparator :
    ¬ ∀ (defaults : LaunchdDefaults) (nodePath ariavaBinPath : JsString)
        (configPathOrOverrides : ConfigPathOrOverrides) (overrides : LaunchdOverrides)
        (definition : LaunchdServiceDefinition),
      buildLaunchdServiceDefinition defaults nodePath ariavaBinPath configPathOrOverrides overrides
        = .ok definition →
      (∀ argument ∈ definition.programArguments, isWellFormedUnicode argument = true) →
      RoundTrips definition := by
  intro h
  have hpath : absoluteServicePath (ascii '/' :: [0x6e, 0x2028]) "runtimePath"
      = .ok (ascii '/' :: [0x6e, 0x2028]) := by
    rw [absoluteServicePath, check_bind_eq_ok]
    exact ⟨by decide, congrArg Except.ok (resolve_rootFile (by decide) (by decide))⟩
  have hsample := h _ _ _ _ _ _ (buildLaunchdServiceDefinition_sample hpath)
    (isWellFormedUnicode_sample (by decide))
  have hline := (roundTrips_iff_isOneLine (isWellFormedUnicode_sample (by decide))).mp hsample
  exact absurd (hline _ List.mem_cons_self) (by decide)

end Ariava.Proofs.LaunchdRoundTrip
