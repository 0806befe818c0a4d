import Mathlib.Algebra.Group.Action.Defs
import Mathlib.Algebra.Order.BigOperators.Group.List
import Mathlib.Tactic.IntervalCases
import Ariava.E2e.UploadPreflight
import Ariava.Lib.Delimited
import Ariava.Lib.StableSort
import Ariava.Protocol.SessionSnapshots

/-!
# `Ariava.Proofs.SemanticDigest`: what the digest of the current Sessions says

The canonical text of the current Sessions is made of words that say where they end: JSON texts,
members, objects and lists. So the text determines the Host and the semantic content of the
Sessions (`semanticText_inj`). It does not depend on the order of the properties, and on the order
of the Sessions only where two of them have one id and different contents.

The digest is not always there: the text is hashed by the helper for signed bodies, which takes at
most 1 MiB. `semanticDigest_iff` states the exact condition.
-/

set_option autoImplicit false

namespace Ariava.Proofs.SemanticDigest

open Ariava.Lib
open Ariava.Protocol
open Ariava.E2e

/-! ### JSON texts are self-delimiting -/

/-- The value of a hexadecimal digit. -/
def hexValue (c : Char) : Nat := if c.toNat < 58 then c.toNat - 48 else c.toNat - 87

/-- The first character of the inside of a JSON text, and the rest. -/
def readJsonChar : List Char → Option (Char × List Char)
  | '\\' :: '"' :: rest => some ('"', rest)
  | '\\' :: '\\' :: rest => some ('\\', rest)
  | '\\' :: 'b' :: rest => some (Char.ofNat 0x08, rest)
  | '\\' :: 't' :: rest => some (Char.ofNat 0x09, rest)
  | '\\' :: 'n' :: rest => some (Char.ofNat 0x0a, rest)
  | '\\' :: 'f' :: rest => some (Char.ofNat 0x0c, rest)
  | '\\' :: 'r' :: rest => some (Char.ofNat 0x0d, rest)
  | '\\' :: 'u' :: '0' :: '0' :: high :: low :: rest =>
      some (Char.ofNat (hexValue high * 16 + hexValue low), rest)
  | c :: rest => if c = '\\' then none else some (c, rest)
  | [] => none

theorem eq_ofNat {c : Char} {n : Nat} (h : c.toNat = n) : c = Char.ofNat n := by
  rw [← h, Char.ofNat_toNat]

/-- A control character is read from its escape. -/
theorem readJsonChar_control (rest : List Char) : ∀ n < 32,
    readJsonChar ("\\u00".toList ++ ([hexDigit (n / 16), hexDigit (n % 16)] ++ rest))
      = some (Char.ofNat n, rest) := by
  intro n hn
  interval_cases n <;> rfl

/-- What `jsonCharText` writes is read as the character. -/
theorem readJsonChar_jsonCharText (c : Char) (rest : List Char) :
    readJsonChar ((jsonCharText c).toList ++ rest) = some (c, rest) := by
  unfold jsonCharText
  split
  · next h => rw [eq_ofNat h]; rfl
  split
  · next h => rw [eq_ofNat h]; rfl
  split
  · next h => rw [eq_ofNat h]; rfl
  split
  · next h => rw [eq_ofNat h]; rfl
  split
  · next h => rw [eq_ofNat h]; rfl
  split
  · next h => rw [eq_ofNat h]; rfl
  split
  · next h => rw [eq_ofNat h]; rfl
  split
  · next h =>
    have hcontrol := readJsonChar_control rest c.toNat h
    rw [Char.ofNat_toNat] at hcontrol
    have hdigits : (String.ofList [hexDigit (c.toNat / 16), hexDigit (c.toNat % 16)]).toList
        = [hexDigit (c.toNat / 16), hexDigit (c.toNat % 16)] := String.toList_ofList
    rw [String.toList_append, hdigits, List.append_assoc]
    exact hcontrol
  · next hbackslash _ _ _ _ _ _ =>
    have hne : c ≠ '\\' := by
      rintro rfl
      exact hbackslash rfl
    rw [String.toList_ofList, List.singleton_append]
    unfold readJsonChar
    split <;> simp_all

theorem selfDelimiting_jsonCharText : SelfDelimiting fun c => (jsonCharText c).toList := by
  intro c c' rest rest' h
  have hread := readJsonChar_jsonCharText c rest
  rw [h, readJsonChar_jsonCharText, Option.some.injEq, Prod.mk.injEq] at hread
  exact ⟨hread.1.symm, hread.2.symm⟩

/-- No character inside a JSON text starts with a quote. -/
theorem jsonCharText_neverQuote : NeverStartsWith (fun c => (jsonCharText c).toList) '"' := by
  have hbackslash : ∀ rest : List Char, '\\' :: rest ≠ [] ∧ ('\\' :: rest).head? ≠ some '"' := by
    intro rest
    exact ⟨by simp, by simp⟩
  intro c
  dsimp only
  unfold jsonCharText
  split
  · exact hbackslash _
  split
  · exact hbackslash _
  split
  · exact hbackslash _
  split
  · exact hbackslash _
  split
  · exact hbackslash _
  split
  · exact hbackslash _
  split
  · exact hbackslash _
  split
  · rw [String.toList_append]
    exact hbackslash _
  · next hquote _ _ _ _ _ _ _ =>
    rw [String.toList_ofList]
    refine ⟨by simp, fun hhead => hquote ?_⟩
    rw [Option.some.inj hhead]
    rfl

/-- The characters of a JSON text. -/
theorem toList_jsonText (s : String) : (jsonText s).toList
    = ['"'] ++ (s.toList.flatMap (fun c => (jsonCharText c).toList) ++ ['"']) := by
  have hfold : ∀ (l : List Char) (start : String),
      (l.foldl (fun text c => text ++ jsonCharText c) start).toList
        = start.toList ++ l.flatMap fun c => (jsonCharText c).toList := by
    intro l
    induction l with
    | nil => simp
    | cons c rest ih =>
      intro start
      rw [List.foldl_cons, ih, String.toList_append, List.flatMap_cons, List.append_assoc]
  rw [jsonText, String.toList_append, String.toList_append, hfold]
  simp

theorem selfDelimiting_jsonText : SelfDelimiting fun s => (jsonText s).toList := by
  have hinside := (SelfDelimiting.terminated selfDelimiting_jsonCharText
    jsonCharText_neverQuote).cons ['"']
  intro s t rest rest' h
  simp only [toList_jsonText] at h
  obtain ⟨hlist, hrest⟩ := hinside _ _ _ _ h
  exact ⟨String.toList_inj.mp hlist, hrest⟩

/-! ### Semantic objects are self-delimiting -/

/-- A member of a semantic object. -/
def memberChars (member : String × String) : List Char :=
  (jsonText member.1).toList ++ [':'] ++ (jsonText member.2).toList

/-- A semantic object whose members are in order. -/
def objectChars (members : List (String × String)) : List Char :=
  ['\x7b'] ++ (List.intercalate [','] (members.map memberChars) ++ ['\x7d'])

theorem selfDelimiting_memberChars : SelfDelimiting memberChars :=
  selfDelimiting_jsonText.pair selfDelimiting_jsonText [':']

theorem memberChars_neverStartsWith {mark : Char} (hmark : mark ≠ '"') :
    NeverStartsWith memberChars mark := by
  intro member
  unfold memberChars
  rw [toList_jsonText]
  refine ⟨by simp, ?_⟩
  rw [List.append_assoc, List.append_assoc, List.singleton_append, List.head?_cons, ne_eq,
    Option.some.injEq]
  exact hmark.symm

theorem selfDelimiting_objectChars : SelfDelimiting objectChars :=
  (selfDelimiting_memberChars.separated (by decide)
    (memberChars_neverStartsWith (by decide))).cons ['\x7b']

theorem objectChars_neverStartsWith {mark : Char} (hmark : mark ≠ '\x7b') :
    NeverStartsWith objectChars mark := by
  intro members
  unfold objectChars
  refine ⟨by simp, ?_⟩
  rw [List.singleton_append, List.head?_cons, ne_eq, Option.some.injEq]
  exact hmark.symm

/-- The canonical text of a semantic object. -/
theorem toList_sessionTree (session : List (String × String)) :
    (stableJson (sessionTree session)).toList = objectChars (sortMembers session) := by
  have hsort : sortMembers (session.map fun member => (member.1, jsonText member.2))
      = (sortMembers session).map fun member => (member.1, jsonText member.2) := by
    unfold sortMembers
    rw [List.map_mergeSort]
    intro a _ b _
    rfl
  have hopen : ("\x7b" : String).toList = ['\x7b'] := rfl
  have hclose : ("\x7d" : String).toList = ['\x7d'] := rfl
  have hcomma : ("," : String).toList = [','] := rfl
  have hcolon : (":" : String).toList = [':'] := rfl
  rw [sessionTree, stableJson, List.map_map]
  simp only [Function.comp_def, stableJson]
  rw [stableObject, hsort, List.map_map, String.toList_append, String.toList_append,
    String.toList_intercalate, List.map_map, hopen, hclose, hcomma, objectChars]
  have hmembers : (sortMembers session).map (String.toList ∘ (fun member : String × String =>
      jsonText member.1 ++ ":" ++ member.2) ∘ fun member => (member.1, jsonText member.2))
      = (sortMembers session).map memberChars := by
    refine List.map_congr_left fun member _ => ?_
    simp only [Function.comp_def, String.toList_append, memberChars, hcolon]
  rw [hmembers, List.append_assoc]

/-! ### The text determines the content -/

section
variable {hostId hostId' : String} {sessions others : List SessionObject}

/-- The texts of the Sessions, in order. -/
def sessionTexts (sessions : List SessionObject) : List String :=
  (sortSessions (sessions.map semanticSession)).map fun session => stableJson (sessionTree session)

theorem semanticText_eq (hostId : String) (sessions : List SessionObject) :
    semanticText hostId sessions = "\x7b" ++ (jsonText "hostId" ++ ":" ++ jsonText hostId ++ ","
      ++ (jsonText "sessions" ++ ":" ++ stableArray (sessionTexts sessions))) ++ "\x7d" := by
  have hsorted : ∀ a b : String, sortMembers [("hostId", a), ("sessions", b)]
      = [("hostId", a), ("sessions", b)] := by
    intro a b
    refine List.mergeSort_of_pairwise (List.pairwise_pair.mpr ?_)
    show (compareCanonicalStrings "hostId" "sessions").isLE = true
    decide +kernel
  rw [semanticText, stableJson, List.map_cons, List.map_cons, List.map_nil, stableJson, stableJson,
    List.map_map, stableObject, hsorted, List.map_cons, List.map_cons, List.map_nil,
    String.intercalate_cons_cons, String.intercalate_singleton]
  rfl

/-- The objects of the Sessions as they are written. -/
def writtenSessions (sessions : List SessionObject) : List (List (String × String)) :=
  (sortSessions (sessions.map semanticSession)).map sortMembers

theorem toList_stableArray (sessions : List SessionObject) :
    (stableArray (sessionTexts sessions)).toList
      = ['['] ++ (List.intercalate [','] ((writtenSessions sessions).map objectChars) ++ [']']) := by
  have hopen : ("[" : String).toList = ['['] := rfl
  have hclose : ("]" : String).toList = [']'] := rfl
  have hcomma : ("," : String).toList = [','] := rfl
  have hobjects : (sessionTexts sessions).map String.toList
      = (writtenSessions sessions).map objectChars := by
    unfold sessionTexts writtenSessions
    rw [List.map_map, List.map_map]
    exact List.map_congr_left fun session _ => toList_sessionTree session
  rw [stableArray, String.toList_append, String.toList_append, String.toList_intercalate, hobjects,
    hopen, hclose, hcomma, List.append_assoc]

/-- The text determines the Host and the objects as they are written. -/
theorem written_inj (h : semanticText hostId sessions = semanticText hostId' others) :
    hostId = hostId' ∧ writtenSessions sessions = writtenSessions others := by
  have hseparator : (',' : Char) ≠ ']' := by decide
  have hclose : (']' : Char) ≠ '\x7b' := by decide
  have hobjects := (selfDelimiting_objectChars.separated hseparator
    (objectChars_neverStartsWith hclose)).cons ['[']
  rw [semanticText_eq, semanticText_eq] at h
  have hlist := congrArg String.toList h
  simp only [String.toList_append, List.append_assoc, List.append_cancel_left_eq,
    toList_stableArray] at hlist
  obtain ⟨hhost, hrest⟩ := selfDelimiting_jsonText _ _ _ _ hlist
  rw [List.append_cancel_left_eq, List.append_cancel_left_eq, List.append_cancel_left_eq] at hrest
  obtain ⟨hsessions, -⟩ := hobjects _ _ _ _ (by simpa only [List.append_assoc] using hrest)
  exact ⟨hhost, hsessions⟩

/-- A property is in a semantic object when it is a semantic one and present. -/
theorem mem_semanticSession {value : SessionObject} {field text : String} :
    (field, text) ∈ semanticSession value ↔
      field ∈ semanticFields ∧ value.properties.get? field = some text := by
  unfold semanticSession
  rw [List.mem_filterMap]
  constructor
  · rintro ⟨other, hother, heq⟩
    obtain ⟨found, hfound, heq⟩ := Option.map_eq_some_iff.mp heq
    cases heq
    exact ⟨hother, hfound⟩
  · rintro ⟨hfield, hfound⟩
    exact ⟨field, hfield, by rw [hfound]; rfl⟩

/-- Sessions with the same semantic properties have the same semantic object. -/
theorem semanticSession_eq {value other : SessionObject}
    (h : ∀ field ∈ semanticFields, value.properties.get? field = other.properties.get? field) :
    semanticSession value = semanticSession other := by
  unfold semanticSession
  refine List.filterMap_congr fun field hfield => ?_
  rw [h field hfield]

theorem sortMembers_inj {value other : SessionObject}
    (h : sortMembers (semanticSession value) = sortMembers (semanticSession other)) :
    semanticSession value = semanticSession other := by
  have hperm : (semanticSession value).Perm (semanticSession other) := by
    have hvalue := List.mergeSort_perm (semanticSession value) fun left right =>
      (compareCanonicalStrings left.1 right.1).isLE
    have hother := List.mergeSort_perm (semanticSession other) fun left right =>
      (compareCanonicalStrings left.1 right.1).isLE
    unfold sortMembers at h
    rw [h] at hvalue
    exact hvalue.symm.trans hother
  refine semanticSession_eq fun field hfield => Option.ext fun text => ?_
  have hmem := hperm.mem_iff (a := (field, text))
  rw [mem_semanticSession, mem_semanticSession] at hmem
  exact ⟨fun hget => (hmem.mp ⟨hfield, hget⟩).2, fun hget => (hmem.mpr ⟨hfield, hget⟩).2⟩

theorem map_inj_of_forall {α β : Type} {f : α → β} {l l' : List α}
    (hinj : ∀ a ∈ l, ∀ b ∈ l', f a = f b → a = b) (h : l.map f = l'.map f) : l = l' := by
  induction l generalizing l' with
  | nil => exact (List.map_eq_nil_iff.mp h.symm).symm
  | cons a rest ih =>
    cases l' with
    | nil => cases h
    | cons b rest' =>
      rw [List.map_cons, List.map_cons, List.cons.injEq] at h
      rw [hinj a List.mem_cons_self b List.mem_cons_self h.1]
      exact congrArg _ (ih (fun c hc d hd => hinj c (List.mem_cons_of_mem _ hc) d
        (List.mem_cons_of_mem _ hd)) h.2)

/-- The text determines the Host and the sorted semantic content. -/
theorem semanticText_inj (h : semanticText hostId sessions = semanticText hostId' others) :
    hostId = hostId' ∧ sortSessions (sessions.map semanticSession)
      = sortSessions (others.map semanticSession) := by
  obtain ⟨hhost, hwritten⟩ := written_inj h
  refine ⟨hhost, map_inj_of_forall (fun a ha b hb heq => ?_) hwritten⟩
  obtain ⟨value, -, rfl⟩ := List.mem_map.mp (List.mem_mergeSort.mp ha)
  obtain ⟨other, -, rfl⟩ := List.mem_map.mp (List.mem_mergeSort.mp hb)
  exact sortMembers_inj heq

/-! ### The order of the Sessions -/

/-- The Sessions in another order, with the properties of each in another order. -/
def Reordered (sessions others : List SessionObject) : Prop :=
  ∃ middle, sessions.Perm middle ∧ List.Forall₂ (fun value other : SessionObject =>
    value.properties.entries.Perm other.properties.entries) middle others

/-- Two Sessions with one id have the same semantic content. -/
def DistinctContent (sessions : List SessionObject) : Prop :=
  ∀ value ∈ sessions, ∀ other ∈ sessions,
    value.properties.get? "sessionId" = other.properties.get? "sessionId" →
      semanticSession value = semanticSession other

theorem semanticSession_of_perm {value other : SessionObject}
    (h : value.properties.entries.Perm other.properties.entries) :
    semanticSession value = semanticSession other := by
  refine semanticSession_eq fun field _ => Option.ext fun text => ?_
  rw [← Dict.mem_entries_iff, ← Dict.mem_entries_iff]
  exact h.mem_iff

theorem map_semanticSession_of_reordered (h : Reordered sessions others) :
    (sessions.map semanticSession).Perm (others.map semanticSession) := by
  obtain ⟨middle, hperm, hsame⟩ := h
  have hmap : middle.map semanticSession = others.map semanticSession := by
    clear hperm
    induction hsame with
    | nil => rfl
    | cons hvalue _ ih => rw [List.map_cons, List.map_cons, semanticSession_of_perm hvalue, ih]
  rw [← hmap]
  exact hperm.map _

/-- The id of a semantic object is the one of its Session. -/
theorem semanticSessionId_eq (value : SessionObject) :
    some (semanticSessionId (semanticSession value)) = value.properties.get? "sessionId" := by
  obtain ⟨sessionId, hid⟩ := Option.isSome_iff_exists.mp value.hasSessionId
  have hobject : semanticSession value = ("sessionId", sessionId)
      :: semanticFields.tail.filterMap fun field =>
        (value.properties.get? field).map fun text => (field, text) := by
    rw [semanticSession, semanticFields, List.filterMap_cons, hid]
    rfl
  rw [hobject, hid, semanticSessionId, List.lookup_cons_self]
  rfl

theorem le_trans_sessions (a b c : List (String × String))
    (hab : (compareCanonicalStrings (semanticSessionId a) (semanticSessionId b)).isLE = true)
    (hbc : (compareCanonicalStrings (semanticSessionId b) (semanticSessionId c)).isLE = true) :
    (compareCanonicalStrings (semanticSessionId a) (semanticSessionId c)).isLE = true :=
  Std.TransCmp.isLE_trans hab hbc

theorem le_total_sessions (a b : List (String × String)) :
    ((compareCanonicalStrings (semanticSessionId a) (semanticSessionId b)).isLE
      || (compareCanonicalStrings (semanticSessionId b) (semanticSessionId a)).isLE) = true := by
  have hswap : compareCanonicalStrings (semanticSessionId b) (semanticSessionId a)
      = (compareCanonicalStrings (semanticSessionId a) (semanticSessionId b)).swap :=
    Std.OrientedCmp.eq_swap
  rw [hswap]
  cases compareCanonicalStrings (semanticSessionId a) (semanticSessionId b) <;> rfl

/-- Semantic objects that rank alike have one id. -/
theorem semanticSessionId_of_le {a b : List (String × String)}
    (hab : (compareCanonicalStrings (semanticSessionId a) (semanticSessionId b)).isLE = true)
    (hba : (compareCanonicalStrings (semanticSessionId b) (semanticSessionId a)).isLE = true) :
    semanticSessionId a = semanticSessionId b := by
  exact compareCanonicalStrings_eq_iff.mp (Std.OrientedCmp.isLE_antisymm hab hba)

/-- The order does not matter when one id stands for one content. -/
theorem semanticText_of_reordered (h : DistinctContent sessions) (hreordered : Reordered sessions others) :
    semanticText hostId others = semanticText hostId sessions := by
  have hsort : sortSessions (sessions.map semanticSession)
      = sortSessions (others.map semanticSession) := by
    refine StableSort.mergeSort_eq_of_perm le_trans_sessions le_total_sessions
      (map_semanticSession_of_reordered hreordered) fun a ha b hb hab hba => ?_
    obtain ⟨value, hvalue, rfl⟩ := List.mem_map.mp ha
    obtain ⟨other, hother, rfl⟩ := List.mem_map.mp hb
    have hid := semanticSessionId_of_le hab hba
    refine h value hvalue other hother ?_
    rw [← semanticSessionId_eq, ← semanticSessionId_eq, hid]
  rw [semanticText_eq, semanticText_eq, sessionTexts, sessionTexts, hsort]

/-- A list of images in another order comes from the items in that order. -/
theorem exists_perm_of_map_perm {α β : Type} {f : α → β} {items : List α} {images : List β}
    (h : (items.map f).Perm images) : ∃ others, items.Perm others ∧ others.map f = images := by
  have himages : List.Forall₂ (fun image item => f item = image) (items.map f) items :=
    List.forall₂_map_left_iff.mpr (List.forall₂_same.mpr fun _ _ => rfl)
  obtain ⟨others, hothers, hperm⟩ := List.perm_comp_forall₂ h.symm himages
  refine ⟨others, hperm.symm, ?_⟩
  clear h himages hperm
  induction hothers with
  | nil => rfl
  | cons himage _ ih => rw [List.map_cons, himage, ih]

/-- When no order matters, one id stands for one content. -/
theorem distinctContent_of_text
    (h : ∀ others, Reordered sessions others →
      semanticText hostId others = semanticText hostId sessions) : DistinctContent sessions := by
  have halike : ∀ {value other : SessionObject},
      value.properties.get? "sessionId" = other.properties.get? "sessionId" →
      (compareCanonicalStrings (semanticSessionId (semanticSession value))
        (semanticSessionId (semanticSession other))).isLE = true := by
    intro value other hid
    rw [← semanticSessionId_eq, ← semanticSessionId_eq, Option.some.injEq] at hid
    rw [hid, compareCanonicalStrings_eq_iff.mpr rfl]
    rfl
  intro value hvalue other hother hid
  refine StableSort.eq_of_forall_perm le_trans_sessions le_total_sessions (fun objects hperm => ?_)
    (List.mem_map_of_mem hvalue) (List.mem_map_of_mem hother) ?_ ?_
  · obtain ⟨others, hothers, rfl⟩ := exists_perm_of_map_perm hperm
    have hsame : Reordered sessions others :=
      ⟨others, hothers, List.forall₂_same.mpr fun _ _ => List.Perm.refl _⟩
    exact (semanticText_inj (h others hsame)).2
  · exact halike hid
  · exact halike hid.symm

/-! ### The size of the text -/

/-- The bytes of the canonical text of a Session. -/
def sessionBytes (value : SessionObject) : Nat :=
  (stableJson (sessionTree (semanticSession value))).utf8ByteSize

/-- The bytes of the text: the Host id, the Sessions, the commas between them, and 25 more. -/
def semanticBytes (hostId : String) (sessions : List SessionObject) : Nat :=
  25 + (jsonText hostId).utf8ByteSize + (sessions.map sessionBytes).sum + (sessions.length - 1)

theorem utf8ByteSize_intercalate (items : List String) : (String.intercalate "," items).utf8ByteSize
    = (items.map String.utf8ByteSize).sum + (items.length - 1) := by
  have hcomma : ("," : String).utf8ByteSize = 1 := rfl
  induction items with
  | nil => rfl
  | cons item rest ih =>
    cases rest with
    | nil => simp [String.intercalate_singleton]
    | cons next rest =>
      rw [String.intercalate_cons_cons, String.utf8ByteSize_append, String.utf8ByteSize_append, ih,
        hcomma]
      simp only [List.map_cons, List.sum_cons, List.length_cons]
      omega

theorem utf8ByteSize_semanticText (hostId : String) (sessions : List SessionObject) :
    (semanticText hostId sessions).utf8ByteSize = semanticBytes hostId sessions := by
  have hperm : ((sessionTexts sessions).map String.utf8ByteSize).Perm
      (sessions.map sessionBytes) := by
    have hsorted := (List.mergeSort_perm (sessions.map semanticSession) fun left right =>
      (compareCanonicalStrings (semanticSessionId left) (semanticSessionId right)).isLE).map
        fun session => (stableJson (sessionTree session)).utf8ByteSize
    rw [List.map_map] at hsorted
    rw [sessionTexts, List.map_map]
    exact hsorted
  have hlength : (sessionTexts sessions).length = sessions.length := by
    simpa using hperm.length_eq
  have hsum := hperm.sum_nat
  have hfixed : ("\x7b" : String).utf8ByteSize = 1 ∧ ("\x7d" : String).utf8ByteSize = 1 ∧
      (jsonText "hostId").utf8ByteSize = 8 ∧ (jsonText "sessions").utf8ByteSize = 10 ∧
      (":" : String).utf8ByteSize = 1 ∧ ("," : String).utf8ByteSize = 1 ∧
      ("[" : String).utf8ByteSize = 1 ∧ ("]" : String).utf8ByteSize = 1 := by decide
  obtain ⟨hopen, hclose, hhost, hsessions, hcolon, hcomma, hleft, hright⟩ := hfixed
  rw [semanticText_eq, stableArray, semanticBytes]
  simp only [String.utf8ByteSize_append, utf8ByteSize_intercalate, hopen, hclose, hhost, hsessions,
    hcolon, hcomma, hleft, hright, hsum, hlength]
  omega

/-- A property is no longer than its Session. -/
theorem utf8ByteSize_jsonText_le {value : SessionObject} {field text : String}
    (h : (field, text) ∈ semanticSession value) :
    (jsonText text).utf8ByteSize ≤ sessionBytes value := by
  have hwritten : (field, jsonText text) ∈ sortMembers
      ((semanticSession value).map fun member => (member.1, jsonText member.2)) :=
    List.mem_mergeSort.mpr (List.mem_map.mpr ⟨_, h, rfl⟩)
  have hitem : (jsonText field ++ ":" ++ jsonText text).utf8ByteSize ∈ ((sortMembers
      ((semanticSession value).map fun member => (member.1, jsonText member.2))).map fun member =>
        jsonText member.1 ++ ":" ++ member.2).map String.utf8ByteSize :=
    List.mem_map_of_mem (List.mem_map.mpr ⟨_, hwritten, rfl⟩)
  have hmember := List.le_sum_of_mem hitem
  rw [sessionBytes, sessionTree, stableJson, List.map_map]
  simp only [Function.comp_def, stableJson]
  rw [stableObject, String.utf8ByteSize_append, String.utf8ByteSize_append,
    utf8ByteSize_intercalate]
  simp only [String.utf8ByteSize_append] at hmember ⊢
  omega

/-! ### The digest -/

/-- What the digest is for: it is there, it does not depend on an order, and the text under it
determines the Host and the set of the semantic contents. -/
structure DigestSound (digest : JsString → JsString) (hostId : String)
    (sessions : List SessionObject) : Prop where
  computed : ∃ hash, e2eCurrentSessionsSemanticDigestV1 digest hostId sessions = .ok hash
  unordered : ∀ others, Reordered sessions others →
    (semanticText hostId others).toByteArray = (semanticText hostId sessions).toByteArray
  faithful : ∀ otherHost others,
    (semanticText otherHost others).toByteArray = (semanticText hostId sessions).toByteArray →
      otherHost = hostId ∧ (others.map semanticSession).Perm (sessions.map semanticSession)

/-- The digest is there when the text has at most 1 MiB. -/
theorem computed_iff (digest : JsString → JsString) (hostId : String)
    (sessions : List SessionObject) :
    (∃ hash, e2eCurrentSessionsSemanticDigestV1 digest hostId sessions = .ok hash) ↔
      semanticBytes hostId sessions ≤ bodyBytes := by
  unfold e2eCurrentSessionsSemanticDigestV1
  simp only [contentSha256_ok_iff, utf8ByteLength_jsString, utf8ByteSize_semanticText]
  exact ⟨fun ⟨_, _, h⟩ => h, fun h => ⟨_, rfl, h⟩⟩

/-- The digest of every list of Sessions is as it should be exactly when the text has at most 1 MiB
and one id stands for one content. -/
theorem semanticDigest_iff (digest : JsString → JsString) (hostId : String)
    (sessions : List SessionObject) : DigestSound digest hostId sessions ↔
      semanticBytes hostId sessions ≤ bodyBytes ∧ DistinctContent sessions := by
  have hcomputed := computed_iff digest hostId sessions
  constructor
  · intro h
    have hsame : ∀ others, Reordered sessions others →
        semanticText hostId others = semanticText hostId sessions :=
      fun others hothers => String.toByteArray_inj.mp (h.unordered others hothers)
    exact ⟨hcomputed.mp h.computed, distinctContent_of_text hsame⟩
  · rintro ⟨hbytes, hdistinct⟩
    refine ⟨hcomputed.mpr hbytes, fun others hothers => ?_, fun otherHost others heq => ?_⟩
    · rw [semanticText_of_reordered hdistinct hothers]
    · obtain ⟨hhost, hsorted⟩ := semanticText_inj (String.toByteArray_inj.mp heq)
      have hothers := List.mergeSort_perm (others.map semanticSession) fun left right =>
        (compareCanonicalStrings (semanticSessionId left) (semanticSessionId right)).isLE
      have hsessions := List.mergeSort_perm (sessions.map semanticSession) fun left right =>
        (compareCanonicalStrings (semanticSessionId left) (semanticSessionId right)).isLE
      unfold sortSessions at hsorted
      rw [hsorted] at hothers
      exact ⟨hhost, hothers.symm.trans hsessions⟩

end

/-! ### Large Sessions -/

/-- The own properties of a stored Session. -/
def sessionProperties (session : CanonicalSessionState) : List (String × Option String) :=
  [("sessionId", some session.sessionId), ("hostId", some session.hostId),
    ("provider", some session.provider), ("projectName", some session.projectName),
    ("nameText", some session.nameText), ("openingText", session.openingText),
    ("latestActivityText", session.latestActivityText),
    ("workingDirectory", session.workingDirectory), ("harnessProvider", session.harnessProvider),
    ("status", some (sessionStatusText session.status)), ("updatedAt", some session.updatedAt),
    ("lastEventId", session.lastEventId), ("snoozedUntil", session.snoozedUntil)]

/-- The properties that are not `undefined`. -/
def presentProperties (properties : List (String × Option String)) : List (String × String) :=
  properties.filterMap fun property => property.2.map fun text => (property.1, text)

theorem presentProperties_sublist (properties : List (String × Option String)) :
    ((presentProperties properties).map Prod.fst).Sublist (properties.map Prod.fst) := by
  unfold presentProperties
  induction properties with
  | nil => exact .slnil
  | cons property rest ih =>
    rcases property with ⟨field, _ | text⟩
    · exact ih.cons field
    · exact ih.cons_cons field

/-- The Session as it is passed to the digest. -/
def sessionObject (session : CanonicalSessionState) : SessionObject where
  properties :=
    { entries := presentProperties (sessionProperties session)
      nodupKeys := (presentProperties_sublist _).nodup (show
        ["sessionId", "hostId", "provider", "projectName", "nameText", "openingText",
          "latestActivityText", "workingDirectory", "harnessProvider", "status", "updatedAt",
          "lastEventId", "snoozedUntil"].Nodup by decide) }
  hasSessionId := rfl

/-- The digest is as it should be for every list of Sessions of which each can be encrypted. -/
def DigestsSound : Prop :=
  ∀ digest hostId (sessions : List CanonicalSessionState),
    (∀ session ∈ sessions, ∃ json,
      buildProtectedSessionContent (protectedSessionContent session) = .ok json) →
    DigestSound digest hostId (sessions.map sessionObject)

/-- A Session with this name. -/
def namedSession (nameText : String) (count : Nat) : CanonicalSessionState where
  sessionId := String.ofList (List.replicate (count + 1) 's')
  hostId := "host"
  provider := "pi"
  projectName := "project"
  nameText := nameText
  openingText := none
  latestActivityText := none
  workingDirectory := none
  harnessProvider := none
  status := .idle
  updatedAt := "2026-01-01T00:00:00.000Z"
  lastEventId := none
  snoozedUntil := none

section
variable {nameText : String} {count : Nat}

theorem protectedSessionJson_namedSession (nameText : String) (count : Nat) :
    (protectedSessionJson (protectedSessionContent (namedSession nameText count))).utf8ByteSize
      = 49 + (jsonText nameText).utf8ByteSize := by
  have hfixed : ("\x7b" : String).utf8ByteSize = 1 ∧ ("\x7d" : String).utf8ByteSize = 1 ∧
      (jsonText "version").utf8ByteSize = 9 ∧ (jsonText "projectName").utf8ByteSize = 13 ∧
      (jsonText "nameText").utf8ByteSize = 10 ∧ (jsonText "project").utf8ByteSize = 9 ∧
      ("3" : String).utf8ByteSize = 1 ∧ (":" : String).utf8ByteSize = 1 ∧
      ("," : String).utf8ByteSize = 1 := by decide
  obtain ⟨hopen, hclose, hversion, hproject, hname, hvalue, hthree, hcolon, hcomma⟩ := hfixed
  have hmembers : protectedSessionJson (protectedSessionContent (namedSession nameText count))
      = "\x7b" ++ (jsonText "version" ++ ":" ++ "3" ++ "," ++ (jsonText "projectName" ++ ":"
        ++ jsonText "project" ++ "," ++ (jsonText "nameText" ++ ":" ++ jsonText nameText)))
        ++ "\x7d" := rfl
  rw [hmembers]
  simp only [String.utf8ByteSize_append, hopen, hclose, hversion, hproject, hname, hvalue, hthree,
    hcolon, hcomma]
  omega

/-- A Session whose name is short enough can be encrypted. -/
theorem namedSession_content (hne : isNonEmptyString nameText = true)
    (hsize : (jsonText nameText).utf8ByteSize ≤ 65002) : ∃ json,
    buildProtectedSessionContent (protectedSessionContent (namedSession nameText count))
      = .ok json := by
  rw [buildProtectedSessionContent_ok_iff, protectedSessionJson_namedSession]
  constructor
  · have hproject : isNonEmptyString "project" = true := by decide
    simp [isProtectedSessionContent, protectedSessionContent, namedSession, hne, hproject,
      isOptionalNonEmptyString]
  · unfold contentPlaintextBytes
    omega

theorem le_sessionBytes_namedSession (nameText : String) (count : Nat) :
    (jsonText nameText).utf8ByteSize ≤ sessionBytes (sessionObject (namedSession nameText count)) := by
  have hmem : ("nameText", nameText) ∈ semanticSession (sessionObject (namedSession nameText count)) := by
    rw [mem_semanticSession]
    refine ⟨by decide, ?_⟩
    rw [← Dict.mem_entries_iff]
    show ("nameText", nameText) ∈ presentProperties (sessionProperties (namedSession nameText count))
    simp [presentProperties, sessionProperties, namedSession]
  exact utf8ByteSize_jsonText_le hmem

theorem length_mul_le_sum {l : List Nat} {n : Nat} (h : ∀ a ∈ l, n ≤ a) : l.length * n ≤ l.sum := by
  have hsum := List.card_nsmul_le_sum l n h
  rwa [smul_eq_mul] at hsum

/-- Seventeen Sessions with a name of this size have no digest. -/
theorem not_computed_of_large (hsize : (jsonText nameText).utf8ByteSize = 65002)
    (digest : JsString → JsString) (hostId : String) :
    ¬ ∃ hash, e2eCurrentSessionsSemanticDigestV1 digest hostId
      (((List.range 17).map (namedSession nameText)).map sessionObject) = .ok hash := by
  have hbytes : ∀ bytes ∈ (((List.range 17).map (namedSession nameText)).map sessionObject).map
      sessionBytes, 65002 ≤ bytes := by
    intro bytes hmem
    obtain ⟨value, hvalue, rfl⟩ := List.mem_map.mp hmem
    obtain ⟨session, hsession, rfl⟩ := List.mem_map.mp hvalue
    obtain ⟨count, -, rfl⟩ := List.mem_map.mp hsession
    exact hsize.ge.trans (le_sessionBytes_namedSession nameText count)
  have hsum := length_mul_le_sum hbytes
  rw [List.length_map, List.length_map, List.length_map, List.length_range] at hsum
  rw [computed_iff]
  unfold semanticBytes bodyBytes
  omega

/-- A name of this many letters. -/
def letters (n : Nat) : String := String.ofList (List.replicate n 'x')

theorem utf8ByteSize_letters (n : Nat) : (jsonText (letters n)).utf8ByteSize = 2 + n := by
  have hletter : (jsonCharText 'x').utf8ByteSize = 1 := by decide
  rw [utf8ByteSize_jsonText, letters, String.toList_ofList, List.map_replicate, hletter]
  simp

end

theorem exists_largeName : ∃ nameText, isNonEmptyString nameText = true ∧
    (jsonText nameText).utf8ByteSize = 65002 := by
  have hsize := utf8ByteSize_letters 65000
  refine ⟨letters 65000, isNonEmptyString_iff.mpr fun heq => ?_, hsize⟩
  have hempty : (jsonText "").utf8ByteSize = 2 := by decide
  rw [heq, hempty] at hsize
  omega

/-- Seventeen Sessions that can each be encrypted have no digest. -/
theorem digestsSound_not_of_largeSessions : ¬ DigestsSound := by
  intro h
  obtain ⟨nameText, hne, hsize⟩ := exists_largeName
  refine not_computed_of_large hsize id "host" (h id "host" _ fun session hsession => ?_).computed
  obtain ⟨count, -, rfl⟩ := List.mem_map.mp hsession
  exact namedSession_content hne hsize.le

end Ariava.Proofs.SemanticDigest
