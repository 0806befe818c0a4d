import Ariava.StateStore.RawState

/-!
# `Ariava.Proofs.RawValues`: what reads of a value say about it

The lemmas about the reads of `StateStore.RawState` that several proofs share.
-/

set_option autoImplicit false

namespace Ariava.Proofs.RawValues

open Ariava.Protocol (JsonObject JsonValue JsString jsString jsString_injective)
open Ariava.StateStore.RawState (JsValue isText recordOf textOf)

theorem textOf_eq_some {value : JsValue} {text : JsString} :
    textOf value = some text ↔ value = some (.string text) := by
  cases value with
  | none => simp [textOf]
  | some value => cases value <;> simp [textOf]

theorem recordOf_eq_some {value : JsValue} {record : JsonObject} :
    recordOf value = some record ↔ value = some (.object record) := by
  cases value with
  | none => simp [recordOf]
  | some value => cases value <;> simp [recordOf]

@[simp] theorem textOf_string (text : JsString) : textOf (some (.string text)) = some text := rfl

@[simp] theorem recordOf_object (record : JsonObject) :
    recordOf (some (.object record)) = some record := rfl

@[simp] theorem isText_iff {text : String} {value : JsValue} :
    isText text value = true ↔ value = some (.string (jsString text)) := by
  rw [isText, decide_eq_true_eq, textOf_eq_some]

end Ariava.Proofs.RawValues
