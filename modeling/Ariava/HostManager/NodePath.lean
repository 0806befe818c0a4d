import Mathlib.Data.List.Basic
import Ariava.Protocol.RequestSigning

/-!
# `Ariava.HostManager.NodePath`: absolute paths of `node:path`

`resolve` of an absolute path drops empty and `.` segments, and `..` takes the segment before it
back. The path is a string of code units; its only characters are those it had, and slashes
(`mem_resolve`).
-/

set_option autoImplicit false

namespace Ariava.HostManager

open Ariava.Protocol

/-- `isAbsolute`. -/
def isAbsolute (path : JsString) : Bool := decide (path.head? = some (ascii '/'))

/-- The segments of a path that are left, after these. -/
def normalizeSegments : List JsString → List JsString → List JsString
  | kept, [] => kept
  | kept, segment :: rest =>
      if segment.isEmpty || decide (segment = jsString ".") then normalizeSegments kept rest
      else if segment = jsString ".." then normalizeSegments kept.dropLast rest
      else normalizeSegments (kept ++ [segment]) rest

/-- `resolve` of an absolute path. -/
def resolve (path : JsString) : JsString :=
  ascii '/' :: List.intercalate [ascii '/'] (normalizeSegments [] (path.splitOn (ascii '/')))

/-- A character of `[\u0000-\u001f\u007f-\u009f]`. -/
def isControlUnit (unit : UInt16) : Bool :=
  decide (unit ≤ 0x1f) || (decide (0x7f ≤ unit) && decide (unit ≤ 0x9f))

theorem mem_normalizeSegments {kept segments : List JsString} {segment : JsString}
    (h : segment ∈ normalizeSegments kept segments) : segment ∈ kept ∨ segment ∈ segments := by
  induction segments generalizing kept with
  | nil => exact .inl h
  | cons first rest ih =>
    have hrest : ∀ kept' : List JsString, (∀ other ∈ kept', other ∈ kept ∨ other = first) →
        segment ∈ normalizeSegments kept' rest → segment ∈ kept ∨ segment ∈ first :: rest := by
      intro kept' hkept' hmem
      rcases ih hmem with hmem | hmem
      · rcases hkept' segment hmem with hold | rfl
        · exact .inl hold
        · exact .inr List.mem_cons_self
      · exact .inr (List.mem_cons_of_mem _ hmem)
    -- Skipped, taken back, or kept.
    rw [normalizeSegments] at h
    split at h
    · exact hrest kept (fun other hother => .inl hother) h
    split at h
    · exact hrest _ (fun other hother => .inl ((List.dropLast_sublist kept).subset hother)) h
    · refine hrest _ (fun other hother => ?_) h
      rcases List.mem_append.mp hother with hold | hnew
      · exact .inl hold
      · exact .inr (List.mem_singleton.mp hnew)

theorem mem_intercalate {segments : List JsString} {separator unit : UInt16}
    (h : unit ∈ List.intercalate [separator] segments) :
    unit = separator ∨ ∃ segment ∈ segments, unit ∈ segment := by
  induction segments with
  | nil => cases h
  | cons first rest ih =>
    cases rest with
    | nil =>
      rw [List.intercalate_singleton] at h
      exact .inr ⟨first, List.mem_cons_self, h⟩
    | cons next rest =>
      rw [List.intercalate_cons_cons, List.mem_append, List.mem_append] at h
      rcases h with (h | h) | h
      · exact .inr ⟨first, List.mem_cons_self, h⟩
      · exact .inl (List.mem_singleton.mp h)
      · rcases ih h with heq | ⟨segment, hsegment, hunit⟩
        · exact .inl heq
        · exact .inr ⟨segment, List.mem_cons_of_mem _ hsegment, hunit⟩

/-- A part of a split text has characters of the text only. -/
theorem mem_of_mem_splitOn {path segment : JsString} {separator unit : UInt16}
    (h : segment ∈ path.splitOn separator) (hunit : unit ∈ segment) : unit ∈ path := by
  have hall : ∀ segments : List JsString, segment ∈ segments →
      unit ∈ List.intercalate [separator] segments := by
    intro segments hmem
    induction segments with
    | nil => cases hmem
    | cons first rest ih =>
      cases rest with
      | nil =>
        rw [List.intercalate_singleton]
        rwa [List.mem_singleton.mp hmem] at hunit
      | cons next rest =>
        rw [List.intercalate_cons_cons, List.mem_append, List.mem_append]
        rcases List.mem_cons.mp hmem with rfl | hmem
        · exact .inl (.inl hunit)
        · exact .inr (ih hmem)
  have hjoined := hall _ h
  rwa [List.intercalate_splitOn] at hjoined

theorem mem_resolve {path : JsString} {unit : UInt16} (h : unit ∈ resolve path) :
    unit = ascii '/' ∨ unit ∈ path := by
  rcases List.mem_cons.mp h with rfl | h
  · exact .inl rfl
  · rcases mem_intercalate h with rfl | ⟨segment, hsegment, hunit⟩
    · exact .inl rfl
    · rcases mem_normalizeSegments hsegment with hnone | hpart
      · cases hnone
      · exact .inr (mem_of_mem_splitOn hpart hunit)

end Ariava.HostManager
