import Ariava.StateStore.RuntimeReset

/-!
# `Ariava.Proofs.RuntimePaths`: the paths of the journals

An intent is bound to the paths of its files, which `begin…` resolves from the state path as it is,
and `assert…` from the resolved state path. The two agree when the last segment of the state path is
a name (`resolve_append`): then a suffix of it stays a suffix of the resolved path. Behind a last
segment `..` it would not.
-/

set_option autoImplicit false

namespace Ariava.Proofs.RuntimePaths

open Ariava.HostManager
open Ariava.Protocol (JsonValue JsonObject JsString jsString ascii)
open Ariava.StateStore.RawState

/-- A segment that `normalizeSegments` keeps. -/
def IsName (segment : JsString) : Prop :=
  segment ≠ [] ∧ segment ≠ jsString "." ∧ segment ≠ jsString ".."

/-- The path of a file: it is absolute, and its last segment is a name. -/
structure IsFilePath (path : JsString) : Prop where
  absolute : isAbsolute path = true
  named : ∃ directories name, path.splitOn (ascii '/') = directories ++ [name] ∧ IsName name

/-! ### Segments -/

theorem not_mem_of_mem_splitOn {path segment : JsString}
    (h : segment ∈ path.splitOn (ascii '/')) : ascii '/' ∉ segment := by
  induction path generalizing segment with
  | nil =>
    rw [List.splitOn_nil, List.mem_singleton] at h
    subst h
    exact List.not_mem_nil
  | cons unit rest ih =>
    rw [List.splitOn_cons_eq_if_modifyHead] at h
    split at h
    · rcases List.mem_cons.mp h with rfl | h
      · exact List.not_mem_nil
      · exact ih h
    · next hunit =>
      -- the first segment of the rest gets this character, which is no slash
      obtain ⟨first, others, hsplit⟩ := List.exists_cons_of_ne_nil
        (List.splitOn_ne_nil (ascii '/') rest)
      rw [hsplit, List.modifyHead_cons] at h
      rcases List.mem_cons.mp h with rfl | h
      · intro hmem
        rcases List.mem_cons.mp hmem with heq | hmem
        · exact hunit (beq_iff_eq.mpr heq.symm)
        · exact ih (hsplit ▸ List.mem_cons_self) hmem
      · exact ih (hsplit ▸ List.mem_cons_of_mem _ h)

/-- What is appended to the last segment is appended to the path. -/
theorem intercalate_append (directories : List JsString) (name suffix : JsString) :
    List.intercalate [ascii '/'] (directories ++ [name ++ suffix])
      = List.intercalate [ascii '/'] (directories ++ [name]) ++ suffix := by
  induction directories with
  | nil => simp
  | cons first rest ih =>
    cases rest with
    | nil => simp [List.intercalate_cons_cons]
    | cons next rest =>
      rw [List.cons_append, List.cons_append, List.cons_append, List.cons_append,
        List.intercalate_cons_cons, List.intercalate_cons_cons, ← List.cons_append,
        ← List.cons_append, ih]
      simp

/-- What is appended to a path without a slash is appended to its last segment. -/
theorem splitOn_append {path suffix name : JsString} {directories : List JsString}
    (hsuffix : ascii '/' ∉ suffix) (h : path.splitOn (ascii '/') = directories ++ [name]) :
    (path ++ suffix).splitOn (ascii '/') = directories ++ [name ++ suffix] := by
  have hjoined := congrArg (List.intercalate [ascii '/']) h
  rw [List.intercalate_splitOn] at hjoined
  have hparts : ∀ segment ∈ directories ++ [name ++ suffix], ascii '/' ∉ segment := by
    intro segment hsegment
    rcases List.mem_append.mp hsegment with hmem | hmem
    · exact not_mem_of_mem_splitOn (h ▸ List.mem_append_left _ hmem)
    · rw [List.mem_singleton.mp hmem, List.mem_append]
      rintro (hname | hrest)
      · have hlast : name ∈ path.splitOn (ascii '/') := by
          rw [h]
          exact List.mem_append_right _ (List.mem_singleton.mpr rfl)
        exact not_mem_of_mem_splitOn hlast hname
      · exact hsuffix hrest
  rw [hjoined, ← intercalate_append]
  exact List.splitOn_intercalate _ hparts (by simp)

theorem normalizeSegments_append {kept segments : List JsString} {name : JsString}
    (h : IsName name) :
    normalizeSegments kept (segments ++ [name]) = normalizeSegments kept segments ++ [name] := by
  induction segments generalizing kept with
  | nil =>
    have hempty : name.isEmpty = false := by simpa using h.1
    simp [normalizeSegments, hempty, h.2.1, h.2.2]
  | cons first rest ih =>
    rw [List.cons_append, normalizeSegments, normalizeSegments]
    split
    · exact ih
    split
    · exact ih
    · exact ih

/-- What is left are names. -/
theorem isName_of_mem_normalizeSegments {kept segments : List JsString} {segment : JsString}
    (hkept : ∀ other ∈ kept, IsName other) (h : segment ∈ normalizeSegments kept segments) :
    IsName segment := by
  induction segments generalizing kept with
  | nil => exact hkept segment h
  | cons first rest ih =>
    rw [normalizeSegments] at h
    split at h
    · exact ih hkept h
    · next hskipped =>
      split at h
      · exact ih (fun other hother => hkept other ((List.dropLast_sublist kept).subset hother)) h
      · next hback =>
        refine ih (fun other hother => ?_) h
        rcases List.mem_append.mp hother with hold | hnew
        · exact hkept other hold
        · rw [List.mem_singleton.mp hnew]
          rw [Bool.or_eq_true, not_or, decide_eq_true_eq] at hskipped
          exact ⟨by simpa using hskipped.1, hskipped.2, hback⟩

/-- Names are kept as they are. -/
theorem normalizeSegments_names {kept segments : List JsString}
    (h : ∀ segment ∈ segments, IsName segment) :
    normalizeSegments kept segments = kept ++ segments := by
  induction segments generalizing kept with
  | nil => exact (List.append_nil kept).symm
  | cons first rest ih =>
    obtain ⟨hempty, hdot, hback⟩ := h first List.mem_cons_self
    have hempty : first.isEmpty = false := by simpa using hempty
    rw [normalizeSegments, if_neg (by simp [hempty, hdot]), if_neg hback,
      ih fun segment hsegment => h segment (List.mem_cons_of_mem _ hsegment)]
    simp

/-! ### Paths -/

/-- A suffix that leaves a name a name. -/
theorem IsName.append {name suffix : JsString} (h : IsName name) (hsuffix : 3 ≤ suffix.length) :
    IsName (name ++ suffix) := by
  have hlong : ∀ text : String, (jsString text).length ≤ 2 → name ++ suffix ≠ jsString text := by
    intro text htext heq
    have hlength := congrArg List.length heq
    rw [List.length_append] at hlength
    omega
  exact ⟨by simp [h.1], hlong "." (by decide), hlong ".." (by decide)⟩

/-- A path that is resolved stays as it is. -/
theorem resolve_names {segments : List JsString} (hne : segments ≠ [])
    (h : ∀ segment ∈ segments, IsName segment ∧ ascii '/' ∉ segment) :
    resolve (ascii '/' :: List.intercalate [ascii '/'] segments)
      = ascii '/' :: List.intercalate [ascii '/'] segments := by
  have hsplit : (ascii '/' :: List.intercalate [ascii '/'] segments).splitOn (ascii '/')
      = [] :: segments := by
    rw [List.splitOn_cons_eq_if_modifyHead, if_pos (beq_self_eq_true _),
      List.splitOn_intercalate _ (fun segment hsegment => (h segment hsegment).2) hne]
  unfold resolve
  rw [hsplit]
  show _ = ascii '/' :: List.intercalate [ascii '/'] segments
  rw [normalizeSegments, if_pos (by simp),
    normalizeSegments_names fun segment hsegment => (h segment hsegment).1]
  rfl

/-- The segments of a resolved file path. -/
theorem exists_segments {path : JsString} (h : IsFilePath path) :
    ∃ directories name, (∀ segment ∈ directories, IsName segment ∧ ascii '/' ∉ segment)
      ∧ IsName name ∧ ascii '/' ∉ name
      ∧ ∀ suffix : JsString, ascii '/' ∉ suffix → (suffix = [] ∨ 3 ≤ suffix.length) →
        resolve (path ++ suffix)
          = ascii '/' :: List.intercalate [ascii '/'] (directories ++ [name ++ suffix]) := by
  obtain ⟨directories, name, hsplit, hname⟩ := h.named
  have hmem : ∀ segment ∈ directories ++ [name], ascii '/' ∉ segment :=
    fun segment hsegment => not_mem_of_mem_splitOn (hsplit ▸ hsegment)
  refine ⟨normalizeSegments [] directories, name, fun segment hsegment => ⟨?_, ?_⟩, hname,
    hmem name (by simp), fun suffix hsuffix hlong => ?_⟩
  · exact isName_of_mem_normalizeSegments (fun other hother => absurd hother List.not_mem_nil)
      hsegment
  · rcases mem_normalizeSegments hsegment with hnone | hpart
    · cases hnone
    · exact hmem segment (List.mem_append_left _ hpart)
  · have hnamed : IsName (name ++ suffix) := by
      rcases hlong with rfl | hlong
      · rwa [List.append_nil]
      · exact hname.append hlong
    unfold resolve
    rw [splitOn_append hsuffix hsplit, normalizeSegments_append hnamed]

/-- A suffix of the path is one of the resolved path, resolved again or not. -/
theorem resolve_append {path : JsString} (h : IsFilePath path) (suffix : JsString)
    (hslash : ascii '/' ∉ suffix) (hlong : 3 ≤ suffix.length) :
    resolve (resolve path ++ suffix) = resolve (path ++ suffix)
      ∧ resolve (resolve (path ++ suffix)) = resolve (path ++ suffix)
      ∧ resolve (resolve path) = resolve path := by
  obtain ⟨directories, name, hdirectories, hname, hnoslash, hresolve⟩ := exists_segments h
  have hstay : ∀ last : JsString, IsName last → ascii '/' ∉ last →
      resolve (ascii '/' :: List.intercalate [ascii '/'] (directories ++ [last]))
        = ascii '/' :: List.intercalate [ascii '/'] (directories ++ [last]) := by
    intro last hlast hlastslash
    refine resolve_names (by simp) fun segment hsegment => ?_
    rcases List.mem_append.mp hsegment with hmem | hmem
    · exact hdirectories segment hmem
    · rw [List.mem_singleton.mp hmem]
      exact ⟨hlast, hlastslash⟩
  have hplain := hresolve [] List.not_mem_nil (.inl rfl)
  rw [List.append_nil, List.append_nil] at hplain
  have hlast : ascii '/' ∉ name ++ suffix := by
    rw [List.mem_append]
    exact fun hmem => hmem.elim hnoslash hslash
  rw [hresolve suffix hslash (.inr hlong), hplain, List.cons_append, ← intercalate_append]
  exact ⟨hstay _ (hname.append hlong) hlast, hstay _ (hname.append hlong) hlast,
    hstay name hname hnoslash⟩

/-- The paths that an intent names pass the check of its reader. -/
theorem isAbsoluteResolvedPath_resolve {path : JsString} (h : IsFilePath path) (suffix : JsString)
    (hslash : ascii '/' ∉ suffix) (hlong : 3 ≤ suffix.length) :
    isAbsoluteResolvedPath (some (.string (resolve path))) = true
      ∧ isAbsoluteResolvedPath (some (.string (resolve (path ++ suffix)))) = true := by
  obtain ⟨-, hsuffix, hplain⟩ := resolve_append h suffix hslash hlong
  have habsolute : ∀ other, isAbsolute (resolve other) = true := fun _ => decide_eq_true rfl
  constructor
  · simp [isAbsoluteResolvedPath, textOf, habsolute, hplain]
  · simp [isAbsoluteResolvedPath, textOf, habsolute, hsuffix]

end Ariava.Proofs.RuntimePaths
