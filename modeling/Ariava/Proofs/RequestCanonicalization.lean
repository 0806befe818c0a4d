import Mathlib.Data.List.Nodup
import Ariava.Lib.StableSort
import Ariava.Protocol.RequestSigning

/-!
# `Ariava.Proofs.RequestCanonicalization`: one text for each request

A query has one canonical text. `canonicalizeQueryPairs_eq_ok_iff` says when a list of pairs is
accepted and what its text is: no condition depends on the order of the pairs, and distinct names
are never ranked alike, so the sorted list does not either. The text parses back to the sorted
pairs (`parseQuery_queryText`).

The text of a request is ten lines. The method, the path and the query are checked, and none of
them holds a line feed. The header values are copied as they come: `validateSignedRequestHeaders`
checks their syntax elsewhere. So the text determines the request when the header values are single
lines, and a line feed in one of them can move the border between two.
-/

set_option autoImplicit false

namespace Ariava.Proofs.RequestCanonicalization

open Ariava.Lib
open Ariava.Protocol

/-! ### The text of a query -/

/-- `name=value`. -/
def pairText (pair : QueryPair) : JsString := pair.name ++ ascii '=' :: pair.value

/-- The pairs as a query string. -/
def queryText (pairs : List QueryPair) : JsString :=
  List.intercalate (jsString "&") (pairs.map pairText)

/-- The pairs in the order of a canonical query. -/
def sortedPairs (pairs : List QueryPair) : List QueryPair :=
  pairs.mergeSort fun left right => (compareQueryPairs left right).isLE

/-- The name and the value are words of the restricted alphabet. -/
def IsWordPair (pair : QueryPair) : Prop :=
  isRestrictedDynamicValue pair.name = true ∧ isRestrictedDynamicValue pair.value = true

/-- What `canonicalizeQuery` asks of one pair. -/
def IsSupported (schema : QuerySchema) (pair : QueryPair) : Prop :=
  IsWordPair pair ∧ (∃ validator, schema pair.name = some validator ∧ validator pair.value = true) ∧
    pair.name.length ≤ queryNameCharacters ∧ pair.value.length ≤ queryValueCharacters

section
variable {unit : UInt16} {pair : QueryPair} {pairs : List QueryPair}

/-- No mark of a query is in the alphabet. -/
theorem isDynamicUnit_marks (h : isDynamicUnit unit = true) :
    unit ≠ ascii '=' ∧ unit ≠ ascii '&' ∧ unit ≠ ascii '+' ∧ unit ≠ ascii ';' := by
  have hmark : ∀ mark : UInt16, isDynamicUnit mark = false → unit ≠ mark := by
    rintro mark hmark rfl
    rw [hmark] at h
    cases h
  exact ⟨hmark _ (by decide), hmark _ (by decide), hmark _ (by decide), hmark _ (by decide)⟩

theorem IsWordPair.name (h : IsWordPair pair) :
    pair.name ≠ [] ∧ ∀ unit ∈ pair.name, isDynamicUnit unit = true :=
  isDynamicValue_iff.mp (isRestrictedDynamicValue_iff.mp h.1)

theorem IsWordPair.value (h : IsWordPair pair) :
    pair.value ≠ [] ∧ ∀ unit ∈ pair.value, isDynamicUnit unit = true :=
  isDynamicValue_iff.mp (isRestrictedDynamicValue_iff.mp h.2)

theorem mem_pairText (h : IsWordPair pair) (hunit : unit ∈ pairText pair) :
    unit = ascii '=' ∨ isDynamicUnit unit = true := by
  rw [pairText, List.mem_append, List.mem_cons] at hunit
  rcases hunit with hname | rfl | hvalue
  · exact .inr (h.name.2 unit hname)
  · exact .inl rfl
  · exact .inr (h.value.2 unit hvalue)

/-- A query string has the marks between pairs, the marks inside them, and words. -/
theorem mem_queryText (h : ∀ pair ∈ pairs, IsWordPair pair) (hunit : unit ∈ queryText pairs) :
    unit = ascii '&' ∨ unit = ascii '=' ∨ isDynamicUnit unit = true := by
  induction pairs with
  | nil => cases hunit
  | cons pair rest ih =>
    have hpair := h pair List.mem_cons_self
    have hrest := ih fun other hother => h other (List.mem_cons_of_mem _ hother)
    cases rest with
    | nil =>
      rw [queryText, List.map_singleton, List.intercalate_singleton] at hunit
      exact .inr (mem_pairText hpair hunit)
    | cons next rest =>
      rw [queryText, List.map_cons, List.map_cons, List.intercalate_cons_cons,
        ← List.map_cons, List.mem_append, List.mem_append] at hunit
      rcases hunit with (hunit | hunit) | hunit
      · exact .inr (mem_pairText hpair hunit)
      · exact .inl (List.mem_singleton.mp hunit)
      · exact hrest hunit

/-- A character that is no mark of a query and is not in the alphabet is not in a query string. -/
theorem not_mem_queryText (h : ∀ pair ∈ pairs, IsWordPair pair) (mark : UInt16)
    (hand : mark ≠ ascii '&') (heq : mark ≠ ascii '=') (hmark : isDynamicUnit mark = false) :
    mark ∉ queryText pairs := by
  intro hmem
  rcases mem_queryText h hmem with hunit | hunit | hunit
  · exact hand hunit
  · exact heq hunit
  · rw [hmark] at hunit
    cases hunit

/-! ### Parsing it back -/

theorem parseQueryPair_pairText (h : IsWordPair pair) :
    parseQueryPair (pairText pair) = .ok pair := by
  obtain ⟨first, name, hname⟩ := List.exists_cons_of_ne_nil h.name.1
  have hnameUnits : ∀ unit ∈ pair.name, unit ≠ ascii '=' := fun unit hunit =>
    (isDynamicUnit_marks (h.name.2 unit hunit)).1
  have hvalueUnits : ascii '=' ∉ pair.value := fun hmem =>
    (isDynamicUnit_marks (h.value.2 _ hmem)).1 rfl
  have hfirst : first ≠ ascii '=' := hnameUnits first (by simp [hname])
  -- The only `=` is the one between the name and the value.
  have hcount : (pairText pair).count (ascii '=') = 1 := by
    have hnone : pair.name.count (ascii '=') = 0 :=
      List.count_eq_zero.mpr fun hmem => hnameUnits _ hmem rfl
    simp [pairText, hnone, List.count_eq_zero.mpr hvalueUnits]
  have hhead : (pairText pair).head? = some first := by simp [pairText, hname]
  have htake : (pairText pair).takeWhile (fun unit => decide (unit ≠ ascii '=')) = pair.name := by
    rw [pairText, List.takeWhile_append_of_pos (by simpa using hnameUnits)]
    simp
  have hdrop : (pairText pair).dropWhile (fun unit => decide (unit ≠ ascii '='))
      = ascii '=' :: pair.value := by
    rw [pairText, List.dropWhile_append_of_pos (by simpa using hnameUnits)]
    simp
  have hempty : (pairText pair).isEmpty = false := by simp [pairText, hname]
  rw [parseQueryPair, check_bind_eq_ok, throwIf_eq_ok, hempty, hhead, hcount, htake, hdrop]
  refine ⟨by simp [hfirst], ?_⟩
  have hvalue : pair.value.isEmpty = false := by simpa using h.value.1
  simp [throwIf, hvalue, bind, Except.bind, pure, Except.pure]

theorem mapM_parseQueryPair (h : ∀ pair ∈ pairs, IsWordPair pair) :
    (pairs.map pairText).mapM parseQueryPair = .ok pairs := by
  induction pairs with
  | nil => rfl
  | cons pair rest ih =>
    have hrest := ih fun other hother => h other (List.mem_cons_of_mem _ hother)
    rw [List.map_cons, List.mapM_cons, parseQueryPair_pairText (h pair List.mem_cons_self), hrest]
    rfl

theorem queryText_ne_nil (h : ∀ pair ∈ pairs, IsWordPair pair) (hne : pairs ≠ []) :
    queryText pairs ≠ [] ∧ (queryText pairs).head? ≠ some (ascii '?') := by
  obtain ⟨pair, rest, rfl⟩ := List.exists_cons_of_ne_nil hne
  obtain ⟨hname, hunits⟩ := (h pair List.mem_cons_self).name
  obtain ⟨first, name, hcons⟩ := List.exists_cons_of_ne_nil hname
  have hfirst : first ≠ ascii '?' :=
    (isDynamicUnit_cases (hunits first (by simp [hcons]))).2.2.1
  have hhead : (queryText (pair :: rest)).head? = some first := by
    cases rest <;> simp [queryText, pairText, hcons, List.intercalate_cons_cons]
  constructor
  · intro hnil
    rw [hnil] at hhead
    cases hhead
  · rw [hhead]
    simpa using hfirst

/-- A query string parses to its pairs, with a question mark in front or without. -/
theorem parseQuery_queryText (h : ∀ pair ∈ pairs, IsWordPair pair) :
    parseQuery (queryText pairs) = .ok pairs ∧
      parseQuery (ascii '?' :: queryText pairs) = .ok pairs := by
  have hascii : ∀ label, assertAscii (queryText pairs) label = .ok () := by
    intro label
    rw [assertAscii, throwIf_eq_ok, Bool.not_eq_false', List.all_eq_true]
    intro unit hunit
    rcases mem_queryText h hunit with rfl | rfl | hunit
    · decide
    · decide
    · exact (isDynamicUnit_cases hunit).1
  have hforms : (decide (ascii '%' ∈ queryText pairs) || decide (ascii '+' ∈ queryText pairs)
      || decide (ascii ';' ∈ queryText pairs) || decide (ascii '#' ∈ queryText pairs)) = false := by
    have habsent := not_mem_queryText h
    simp [habsent (ascii '%') (by decide) (by decide) (by decide),
      habsent (ascii '+') (by decide) (by decide) (by decide),
      habsent (ascii ';') (by decide) (by decide) (by decide),
      habsent (ascii '#') (by decide) (by decide) (by decide)]
  -- Both strings are the same after the question mark.
  have hbody : (do
      assertAscii (queryText pairs) "query"
      if (queryText pairs).isEmpty then return []
      throwIf (decide (ascii '%' ∈ queryText pairs) || decide (ascii '+' ∈ queryText pairs)
          || decide (ascii ';' ∈ queryText pairs) || decide (ascii '#' ∈ queryText pairs))
        (.typeError "query percent encoding, plus, semicolon, and fragment forms are unsupported")
      ((queryText pairs).splitOn (ascii '&')).mapM parseQueryPair) = Except.ok (ε := Thrown) pairs := by
    by_cases hne : pairs = []
    · subst hne
      rfl
    · have hfilled : (queryText pairs).isEmpty = false := by simpa using (queryText_ne_nil h hne).1
      have hsplit : (queryText pairs).splitOn (ascii '&') = pairs.map pairText := by
        refine List.splitOn_intercalate _ ?_ (by simpa using hne)
        intro text htext hmem
        obtain ⟨pair, hpair, rfl⟩ := List.mem_map.mp htext
        rcases mem_pairText (h pair hpair) hmem with heq | hunit
        · exact absurd heq (by decide)
        · exact (isDynamicUnit_marks hunit).2.1 rfl
      rw [hascii, hfilled, hforms, hsplit, ← mapM_parseQueryPair h]
      rfl
  constructor
  · by_cases hne : pairs = []
    · subst hne
      exact hbody
    · rw [parseQuery, if_neg (queryText_ne_nil h hne).2]
      exact hbody
  · exact hbody

end

/-! ### The checks on pairs -/

section
variable {schema : QuerySchema} {pairs pairs' : List QueryPair} {out : JsString}

theorem checkQueryPair_eq_ok_iff {seen : List JsString} {pair : QueryPair} :
    checkQueryPair schema seen pair = .ok () ↔ IsSupported schema pair ∧ pair.name ∉ seen := by
  rw [checkQueryPair, check_bind_eq_ok, check_bind_eq_ok]
  simp only [assertRestrictedDynamicValue, throwIf_eq_ok, Bool.not_eq_false', IsSupported,
    IsWordPair]
  cases hvalidator : schema pair.name with
  | none => simp
  | some validator =>
    simp only [check_bind_eq_ok, throwIf_eq_ok, Bool.not_eq_false', Bool.or_eq_false_iff,
      decide_eq_false_iff_not, not_lt, Option.some.injEq, exists_eq_left']
    simp only [and_assoc]

/-- The pairs pass when each is supported and no name comes twice. -/
theorem checkQueryPairs_eq_ok_iff {seen : List JsString} :
    checkQueryPairs schema seen pairs = .ok () ↔
      (∀ pair ∈ pairs, IsSupported schema pair ∧ pair.name ∉ seen) ∧
        (pairs.map QueryPair.name).Nodup := by
  induction pairs generalizing seen with
  | nil => simp [checkQueryPairs]
  | cons pair rest ih =>
    rw [checkQueryPairs, check_bind_eq_ok, checkQueryPair_eq_ok_iff, ih, List.forall_mem_cons,
      List.map_cons, List.nodup_cons]
    simp only [List.mem_cons, not_or, List.mem_map, not_exists, not_and]
    constructor
    · rintro ⟨hpair, hrest, hnodup⟩
      exact ⟨⟨hpair, fun other hother => ⟨(hrest other hother).1, (hrest other hother).2.2⟩⟩,
        fun other hother => (hrest other hother).2.1, hnodup⟩
    · rintro ⟨⟨hpair, hrest⟩, hnew, hnodup⟩
      exact ⟨hpair, fun other hother =>
        ⟨(hrest other hother).1, hnew other hother, (hrest other hother).2⟩, hnodup⟩

/-- When pairs are accepted, and their text. -/
theorem canonicalizeQueryPairs_eq_ok_iff :
    canonicalizeQueryPairs pairs schema = .ok out ↔
      pairs.length ≤ queryPairs ∧ (∀ pair ∈ pairs, IsSupported schema pair) ∧
        (pairs.map QueryPair.name).Nodup ∧ out = queryText (sortedPairs pairs) ∧
        out.length ≤ queryCharacters := by
  rw [canonicalizeQueryPairs, check_bind_eq_ok, check_bind_eq_ok, throwIf_eq_ok,
    checkQueryPairs_eq_ok_iff, decide_eq_false_iff_not, not_lt]
  show _ ∧ _ ∧ (throwIf (decide (queryCharacters < (queryText (sortedPairs pairs)).length)) _
    >>= fun _ => Except.ok (queryText (sortedPairs pairs))) = _ ↔ _
  rw [check_bind_eq_ok, throwIf_eq_ok, decide_eq_false_iff_not, not_lt, Except.ok.injEq]
  simp only [List.not_mem_nil, not_false_eq_true, and_true]
  constructor
  · rintro ⟨hcount, ⟨hpairs, hnodup⟩, hlength, rfl⟩
    exact ⟨hcount, hpairs, hnodup, rfl, hlength⟩
  · rintro ⟨hcount, hpairs, hnodup, rfl, hlength⟩
    exact ⟨hcount, ⟨hpairs, hnodup⟩, hlength, rfl⟩

/-! ### The order of the pairs -/

theorem isLE_compareQueryPairs {left right : QueryPair} :
    (compareQueryPairs left right).isLE = true ↔
      compare left.name right.name = .lt ∨
        left.name = right.name ∧ (compare left.value right.value).isLE = true := by
  rw [compareQueryPairs]
  cases hname : compare left.name right.name with
  | lt => simp [Ordering.then]
  | eq => simp [Ordering.then, Std.LawfulEqCmp.eq_of_compare hname]
  | gt =>
    have hne : left.name ≠ right.name := by
      intro heq
      have hself : compare right.name right.name = .eq := Std.ReflCmp.compare_self
      rw [heq, hself] at hname
      cases hname
    simp [Ordering.then, hne]

/-- Distinct names do not rank alike, so the order of the input leaves no trace. -/
theorem sortedPairs_eq_of_perm (hperm : pairs.Perm pairs')
    (hnodup : (pairs.map QueryPair.name).Nodup) : sortedPairs pairs = sortedPairs pairs' := by
  refine StableSort.mergeSort_eq_of_perm ?_ ?_ hperm ?_
  · intro a b c hab hbc
    rw [isLE_compareQueryPairs] at hab hbc ⊢
    rcases hab with hab | ⟨hab, hvalue⟩
    · rcases hbc with hbc | ⟨hbc, -⟩
      · exact .inl (Std.TransCmp.lt_trans hab hbc)
      · exact .inl (hbc ▸ hab)
    · rcases hbc with hbc | ⟨hbc, hvalue'⟩
      · exact .inl (hab ▸ hbc)
      · exact .inr ⟨hab.trans hbc, Std.TransCmp.isLE_trans hvalue hvalue'⟩
  · intro a b
    rw [Bool.or_eq_true, isLE_compareQueryPairs, isLE_compareQueryPairs]
    cases hname : compare a.name b.name with
    | lt => exact .inl (.inl rfl)
    | gt => exact .inr (.inl (Std.OrientedCmp.lt_of_gt hname))
    | eq =>
      have heq := Std.LawfulEqCmp.eq_of_compare hname
      cases hvalue : compare a.value b.value with
      | lt => exact .inl (.inr ⟨heq, rfl⟩)
      | eq => exact .inl (.inr ⟨heq, rfl⟩)
      | gt => exact .inr (.inr ⟨heq.symm, by rw [Std.OrientedCmp.lt_of_gt hvalue]; rfl⟩)
  · intro a ha b hb hab hba
    -- Pairs that rank alike have one name, and a name is in one pair only.
    have hname : a.name = b.name := by
      rw [isLE_compareQueryPairs] at hab hba
      rcases hab with hab | ⟨hab, -⟩
      · rcases hba with hba | ⟨hba, -⟩
        · have hbelow := Std.TransCmp.lt_trans hab hba
          have hself : compare a.name a.name = .eq := Std.ReflCmp.compare_self
          rw [hself] at hbelow
          cases hbelow
        · exact hba.symm
      · exact hab
    exact List.inj_on_of_nodup_map hnodup ha hb hname

theorem perm_sortedPairs (pairs : List QueryPair) : (sortedPairs pairs).Perm pairs :=
  List.mergeSort_perm pairs _

/-- The text of pairs does not depend on their order. -/
theorem canonicalizeQueryPairs_perm (hperm : pairs.Perm pairs')
    (h : canonicalizeQueryPairs pairs schema = .ok out) :
    canonicalizeQueryPairs pairs' schema = .ok out := by
  rw [canonicalizeQueryPairs_eq_ok_iff] at h ⊢
  obtain ⟨hcount, hpairs, hnodup, hout, hlength⟩ := h
  refine ⟨hperm.length_eq ▸ hcount, fun pair hpair => hpairs pair (hperm.mem_iff.mpr hpair),
    (hperm.map _).nodup_iff.mp hnodup, ?_, hlength⟩
  rw [hout, sortedPairs_eq_of_perm hperm hnodup]

/-- Pairs of words and their string are one query. -/
theorem canonicalizeQuery_queryText (h : ∀ pair ∈ pairs, IsWordPair pair) (schema : QuerySchema) :
    canonicalizeQuery (.text (queryText pairs)) schema = canonicalizeQuery (.pairs pairs) schema ∧
      canonicalizeQuery (.text (ascii '?' :: queryText pairs)) schema
        = canonicalizeQuery (.pairs pairs) schema := by
  obtain ⟨hplain, hmarked⟩ := parseQuery_queryText h
  constructor
  · rw [canonicalizeQuery, RequestQuery.toPairs, hplain]
    rfl
  · rw [canonicalizeQuery, RequestQuery.toPairs, hmarked]
    rfl

theorem canonicalizeQuery_eq_ok_iff {query : RequestQuery} :
    canonicalizeQuery query schema = .ok out ↔
      ∃ pairs, query.toPairs = .ok pairs ∧ canonicalizeQueryPairs pairs schema = .ok out := by
  rw [canonicalizeQuery, bind_eq_ok_iff]

/-- The canonical text is its own canonical text. -/
theorem canonicalizeQuery_idempotent {query : RequestQuery}
    (h : canonicalizeQuery query schema = .ok out) :
    canonicalizeQuery (.text out) schema = .ok out := by
  obtain ⟨pairs, -, hpairs⟩ := canonicalizeQuery_eq_ok_iff.mp h
  have hsorted := canonicalizeQueryPairs_perm (perm_sortedPairs pairs).symm hpairs
  obtain ⟨-, hsupported, -, hout, -⟩ := canonicalizeQueryPairs_eq_ok_iff.mp hpairs
  have hwords : ∀ pair ∈ sortedPairs pairs, IsWordPair pair := fun pair hpair =>
    (hsupported pair ((perm_sortedPairs pairs).mem_iff.mp hpair)).1
  rw [hout, (canonicalizeQuery_queryText hwords schema).1, ← hout]
  exact canonicalizeQuery_eq_ok_iff.mpr ⟨_, rfl, hsorted⟩

end

/-! ### Requests -/

section
variable {input : CanonicalRequestInput} {request : CanonicalRequest}

/-- No header value has a line feed, and the entity type is one of the two of its type. -/
structure HasSingleLineHeaders (input : CanonicalRequestInput) : Prop where
  entityType : input.entityType = jsString "host" ∨ input.entityType = jsString "watch"
  entityId : ascii '\n' ∉ input.entityId
  keyId : ascii '\n' ∉ input.keyId
  contentSha256 : ascii '\n' ∉ input.contentSha256
  timestamp : ascii '\n' ∉ input.timestamp
  nonce : ascii '\n' ∉ input.nonce

/-- The lines of the text of a request. -/
def requestLines (input : CanonicalRequestInput) (request : CanonicalRequest) : List JsString :=
  [jsString "ariava-request-v1", input.entityType, input.entityId, input.keyId, request.method,
    request.path, request.query, input.contentSha256, input.timestamp, input.nonce]

theorem buildCanonicalRequest_eq_ok (h : buildCanonicalRequest input = .ok request) :
    isMethod request.method = true ∧ canonicalizePath input.path = .ok request.path ∧
      canonicalizeQuery input.query input.querySchema = .ok request.query ∧
      request.text = List.intercalate [ascii '\n'] (requestLines input request) := by
  rw [buildCanonicalRequest, check_bind_eq_ok, throwIf_eq_ok, Bool.or_eq_false_iff,
    Bool.not_eq_false'] at h
  obtain ⟨⟨hmethod, -⟩, h⟩ := h
  obtain ⟨path, hpath, h⟩ := bind_eq_ok_iff.mp h
  obtain ⟨query, hquery, h⟩ := bind_eq_ok_iff.mp h
  cases h
  exact ⟨hmethod, hpath, hquery, rfl⟩

theorem canonicalizePath_printable {path out : JsString} (h : canonicalizePath path = .ok out) :
    ∀ unit ∈ out, isPrintableAscii unit = true := by
  rw [canonicalizePath] at h
  simp only [check_bind_eq_ok] at h
  obtain ⟨hascii, -, -, -, -, -, hout⟩ := h
  cases hout
  rw [assertAscii, throwIf_eq_ok, Bool.not_eq_false', List.all_eq_true] at hascii
  exact hascii

theorem canonicalizeQuery_printable {query : RequestQuery} {schema : QuerySchema} {out : JsString}
    (h : canonicalizeQuery query schema = .ok out) :
    ∀ unit ∈ out, isPrintableAscii unit = true := by
  obtain ⟨pairs, -, hpairs⟩ := canonicalizeQuery_eq_ok_iff.mp h
  obtain ⟨-, hsupported, -, hout, -⟩ := canonicalizeQueryPairs_eq_ok_iff.mp hpairs
  have hwords : ∀ pair ∈ sortedPairs pairs, IsWordPair pair := fun pair hpair =>
    (hsupported pair ((perm_sortedPairs pairs).mem_iff.mp hpair)).1
  intro unit hunit
  rw [hout] at hunit
  rcases mem_queryText hwords hunit with rfl | rfl | hword
  · decide
  · decide
  · exact (isDynamicUnit_cases hword).1

/-- No line of an accepted request has a line feed when its header values have none. -/
theorem lineFeed_not_mem_requestLines (hheaders : HasSingleLineHeaders input)
    (h : buildCanonicalRequest input = .ok request) :
    ∀ line ∈ requestLines input request, ascii '\n' ∉ line := by
  obtain ⟨hmethod, hpath, hquery, -⟩ := buildCanonicalRequest_eq_ok h
  have hprintable : ∀ line : JsString, (∀ unit ∈ line, isPrintableAscii unit = true) →
      ascii '\n' ∉ line := by
    intro line hline hmem
    exact absurd (hline _ hmem) (by decide)
  have hmethodLine : ascii '\n' ∉ request.method := by
    intro hmem
    rw [isMethod, Bool.and_eq_true, List.all_eq_true] at hmethod
    exact absurd (hmethod.2 _ hmem) (by decide)
  have htype : ascii '\n' ∉ input.entityType := by
    rcases hheaders.entityType with heq | heq
    · rw [heq]
      decide
    · rw [heq]
      decide
  simp only [requestLines, List.forall_mem_cons, List.not_mem_nil, false_imp_iff, implies_true,
    and_true]
  exact ⟨by decide, htype, hheaders.entityId, hheaders.keyId, hmethodLine,
    hprintable _ (canonicalizePath_printable hpath),
    hprintable _ (canonicalizeQuery_printable hquery), hheaders.contentSha256,
    hheaders.timestamp, hheaders.nonce⟩

/-- The method, the path, the query, the body digest and the other header values are those of the
other request. -/
structure SameRequest (left right : CanonicalRequestInput)
    (leftRequest rightRequest : CanonicalRequest) : Prop where
  method : leftRequest.method = rightRequest.method
  path : leftRequest.path = rightRequest.path
  query : leftRequest.query = rightRequest.query
  contentSha256 : left.contentSha256 = right.contentSha256
  entityType : left.entityType = right.entityType
  entityId : left.entityId = right.entityId
  keyId : left.keyId = right.keyId
  timestamp : left.timestamp = right.timestamp
  nonce : left.nonce = right.nonce

/-- Ten lines without a line feed can be read off the text. -/
theorem sameRequest_of_text_eq {left right : CanonicalRequestInput}
    {leftRequest rightRequest : CanonicalRequest} (hleft : HasSingleLineHeaders left)
    (hright : HasSingleLineHeaders right) (hleftOk : buildCanonicalRequest left = .ok leftRequest)
    (hrightOk : buildCanonicalRequest right = .ok rightRequest)
    (htext : leftRequest.text = rightRequest.text) :
    SameRequest left right leftRequest rightRequest := by
  obtain ⟨-, -, -, hleftText⟩ := buildCanonicalRequest_eq_ok hleftOk
  obtain ⟨-, -, -, hrightText⟩ := buildCanonicalRequest_eq_ok hrightOk
  have hleftLines := List.splitOn_intercalate (ascii '\n')
    (lineFeed_not_mem_requestLines hleft hleftOk) (List.cons_ne_nil _ _)
  have hrightLines := List.splitOn_intercalate (ascii '\n')
    (lineFeed_not_mem_requestLines hright hrightOk) (List.cons_ne_nil _ _)
  have hlines : requestLines left leftRequest = requestLines right rightRequest := by
    rw [← hleftLines, ← hrightLines, ← hleftText, ← hrightText, htext]
  simp only [requestLines, List.cons.injEq, and_true, true_and] at hlines
  obtain ⟨htype, hid, hkey, hmethod, hpath, hquery, hdigest, htime, hnonce⟩ := hlines
  exact ⟨hmethod, hpath, hquery, hdigest, htype, hid, hkey, htime, hnonce⟩

end

/-! ### Canonicalisation -/

/-- One canonical query for each set of pairs, as a string or as pairs. -/
structure CanonicalQueries : Prop where
  permutation : ∀ pairs pairs' schema out, pairs.Perm pairs' →
    (canonicalizeQuery (.pairs pairs) schema = .ok out ↔
      canonicalizeQuery (.pairs pairs') schema = .ok out)
  idempotent : ∀ query schema out, canonicalizeQuery query schema = .ok out →
    canonicalizeQuery (.text out) schema = .ok out
  pairsOfString : ∀ text pairs schema, parseQuery text = .ok pairs →
    canonicalizeQuery (.text text) schema = canonicalizeQuery (.pairs pairs) schema
  stringOfPairs : ∀ pairs schema, (∀ pair ∈ pairs, IsWordPair pair) →
    canonicalizeQuery (.text (queryText pairs)) schema = canonicalizeQuery (.pairs pairs) schema ∧
      canonicalizeQuery (.text (ascii '?' :: queryText pairs)) schema
        = canonicalizeQuery (.pairs pairs) schema
  acceptedWords : ∀ pairs schema out, canonicalizeQuery (.pairs pairs) schema = .ok out →
    ∀ pair ∈ pairs, IsWordPair pair
  duplicates : ∀ query pairs schema, query.toPairs = .ok pairs →
    ¬ (pairs.map QueryPair.name).Nodup → ∃ thrown, canonicalizeQuery query schema = .error thrown

/-- The text of an accepted request of some kind determines what is signed. -/
def TextDetermines (kind : CanonicalRequestInput → Prop) : Prop :=
  ∀ left right leftRequest rightRequest, kind left → kind right →
    buildCanonicalRequest left = .ok leftRequest → buildCanonicalRequest right = .ok rightRequest →
      leftRequest.text = rightRequest.text → SameRequest left right leftRequest rightRequest

theorem canonicalQueries : CanonicalQueries where
  permutation pairs pairs' schema out hperm := by
    rw [canonicalizeQuery_eq_ok_iff, canonicalizeQuery_eq_ok_iff]
    constructor
    · rintro ⟨_, heq, h⟩
      cases heq
      exact ⟨pairs', rfl, canonicalizeQueryPairs_perm hperm h⟩
    · rintro ⟨_, heq, h⟩
      cases heq
      exact ⟨pairs, rfl, canonicalizeQueryPairs_perm hperm.symm h⟩
  idempotent _ _ _ h := canonicalizeQuery_idempotent h
  pairsOfString text pairs schema h := by
    rw [canonicalizeQuery, RequestQuery.toPairs, h]
    rfl
  stringOfPairs pairs schema h := canonicalizeQuery_queryText h schema
  acceptedWords pairs schema out h := by
    obtain ⟨_, heq, hpairs⟩ := canonicalizeQuery_eq_ok_iff.mp h
    cases heq
    obtain ⟨-, hsupported, -⟩ := canonicalizeQueryPairs_eq_ok_iff.mp hpairs
    exact fun pair hpair => (hsupported pair hpair).1
  duplicates query pairs schema hpairs hnodup := by
    cases hresult : canonicalizeQuery query schema with
    | error thrown => exact ⟨thrown, rfl⟩
    | ok out =>
      obtain ⟨accepted, haccepted, hout⟩ := canonicalizeQuery_eq_ok_iff.mp hresult
      rw [hpairs] at haccepted
      cases haccepted
      exact absurd (canonicalizeQueryPairs_eq_ok_iff.mp hout).2.2.1 hnodup

/-- Queries are canonical, and the text of a request whose header values are single lines
determines it. -/
theorem canonicalRequests_singleLine : CanonicalQueries ∧ TextDetermines HasSingleLineHeaders :=
  ⟨canonicalQueries, fun _ _ _ _ hleft hright hleftOk hrightOk htext =>
    sameRequest_of_text_eq hleft hright hleftOk hrightOk htext⟩

/-- A request for a route without a query. -/
def sampleInput (entityId keyId : JsString) : CanonicalRequestInput where
  entityType := jsString "host"
  entityId := entityId
  keyId := keyId
  method := jsString "GET"
  path := jsString "/v2"
  query := .text []
  querySchema := fun _ => none
  contentSha256 := jsString "digest"
  timestamp := jsString "2026-01-01T00:00:00.000Z"
  nonce := jsString "nonce"

theorem buildCanonicalRequest_sampleInput (entityId keyId : JsString) :
    buildCanonicalRequest (sampleInput entityId keyId) = .ok
      ⟨jsString "GET", jsString "/v2", [], List.intercalate [ascii '\n']
        (requestLines (sampleInput entityId keyId) ⟨jsString "GET", jsString "/v2", [], []⟩)⟩ := by
  have hpath : canonicalizePath (jsString "/v2") = .ok (jsString "/v2") := by
    have hsegments : ∀ segment ∈ [jsString "v2"], isDynamicValue segment = true := by decide
    exact (canonicalizePath_segments hsegments (by decide)).mpr
      ⟨by decide, by decide, by decide⟩
  have hquery : canonicalizeQuery (.text []) (fun _ => none) = .ok [] := by
    rw [canonicalizeQuery_eq_ok_iff]
    exact ⟨[], rfl, canonicalizeQueryPairs_eq_ok_iff.mpr (by simp [sortedPairs, queryText])⟩
  have hmethod : (!isMethod (jsString "GET")
      || decide (methodCharacters < (jsString "GET").length)) = false := by decide
  rw [buildCanonicalRequest, check_bind_eq_ok, throwIf_eq_ok]
  refine ⟨hmethod, ?_⟩
  rw [sampleInput, hpath]
  show (canonicalizeQuery (.text []) (fun _ => none) >>= _) = _
  rw [hquery]
  rfl

/-- A line feed in the entity id or in the key id moves the border between the two. -/
theorem not_canonicalRequests_of_lineFeed :
    ¬ (CanonicalQueries ∧ TextDetermines fun _ => True) := by
  rintro ⟨-, h⟩
  have hsame := h _ _ _ _ trivial trivial
    (buildCanonicalRequest_sampleInput (jsString "a\nb") (jsString "c"))
    (buildCanonicalRequest_sampleInput (jsString "a") (jsString "b\nc")) (by decide)
  exact absurd hsame.entityId (by decide)

end Ariava.Proofs.RequestCanonicalization
