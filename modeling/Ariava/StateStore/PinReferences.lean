import Mathlib.Data.List.ReduceOption
import Ariava.E2e.KeyringUpdates
import Ariava.StateStore.CommandTransitions

/-!
# `Ariava.StateStore.PinReferences`: the pins that the execution records refer to

`validateCommandExecutionPinsState`, `readCommandExecutionPinRetentionReferences` and
`mergePinRetentionReferences`. The first is the check at the start of the Bridge: each record
finds its pin in the keyring. The other two tell a prune of the keyring which pins are still
referenced.

`retains_of_mem`: the pin of a record is retained by the references that a prune gets, at any
time up to the instant through which the record itself is retained.
-/

set_option autoImplicit false

namespace Ariava.StateStore

open Ariava.Lib
open Ariava.Protocol
open Ariava.E2e

/-- The states of a record that has its terminal result. -/
def isTerminalRecord (execution : PersistedCommandExecutionV4) : Bool :=
  decide (execution.state = .terminalReceiptBlocked) || decide (execution.state = .terminal)

/-- The check of one record: without a pin only a terminal record may pass. -/
def validateCommandExecutionPin (resolvePinReference : PinKey → Option PersistedCommandPinReferenceV1)
    (allowUnavailableForTerminal : Bool) (execution : PersistedCommandExecutionV4) :
    Except Thrown Unit :=
  match resolvePinReference (referenceKey execution.pinReference) with
  | none => throwIf (!(allowUnavailableForTerminal && isTerminalRecord execution))
      (.error "Bridge runtime command execution pin reference is unavailable or inconsistent")
  | some actual => throwIf (decide (actual ≠ execution.pinReference))
      (.error "Bridge runtime command execution pin reference is unavailable or inconsistent")

/-- `validateCommandExecutionPinsState`. -/
def validateCommandExecutionPinsState (state : PersistedBridgeState)
    (resolvePinReference : PinKey → Option PersistedCommandPinReferenceV1)
    (allowUnavailableForTerminal : Bool) : Except Thrown Unit :=
  checkAll state.commandExecutions.values
    (validateCommandExecutionPin resolvePinReference allowUnavailableForTerminal)

/-! ### Retention references -/

/-- The keys of `PinRetentionReferences`. -/
inductive RetentionCategory
  | content
  | command
  | execution
  | terminalReceipt
  | pendingOutbox
  | undeliverableOutbox
deriving DecidableEq

/-- The record of a category. -/
def recordOf (references : PinRetentionReferences) : RetentionCategory → Dict PinKey IsoText
  | .content => references.contentRetainedThrough
  | .command => references.commandRetainedThrough
  | .execution => references.executionRetainedThrough
  | .terminalReceipt => references.terminalReceiptRetainedThrough
  | .pendingOutbox => references.pendingOutboxRetainedThrough
  | .undeliverableOutbox => references.undeliverableOutboxRetainedThrough

/-- The references with another record of a category. -/
def withRecord (references : PinRetentionReferences) (category : RetentionCategory)
    (values : Dict PinKey IsoText) : PinRetentionReferences :=
  match category with
  | .content => { references with contentRetainedThrough := values }
  | .command => { references with commandRetainedThrough := values }
  | .execution => { references with executionRetainedThrough := values }
  | .terminalReceipt => { references with terminalReceiptRetainedThrough := values }
  | .pendingOutbox => { references with pendingOutboxRetainedThrough := values }
  | .undeliverableOutbox => { references with undeliverableOutboxRetainedThrough := values }

/-- References without records. -/
def noReferences : PinRetentionReferences := ⟨∅, ∅, ∅, ∅, ∅, ∅⟩

/-- `commandExecutionRetentionCategory`. -/
def commandExecutionRetentionCategory (execution : PersistedCommandExecutionV4) :
    RetentionCategory :=
  match execution.state with
  | .claimed | .dispatchStarted | .outcomeUnknown => .execution
  | .terminalReceiptBlocked => .terminalReceipt
  | .terminal =>
      match execution.receiptOutbox with
      | some ⟨.pending, _, _⟩ => .pendingOutbox
      | some ⟨.undeliverable, _, _⟩ => .undeliverableOutbox
      | _ => .terminalReceipt

/-- `laterCanonicalTimestamp`. -/
def laterCanonicalTimestamp (left : Option IsoText) (right : IsoText) : IsoText :=
  match left with
  | some left => if right < left then left else right
  | none => right

/-- Raise the entry of a key to a value, at least. -/
def raise (values : Dict PinKey IsoText) (key : PinKey) (value : IsoText) : Dict PinKey IsoText :=
  values.set key (laterCanonicalTimestamp (values.get? key) value)

/-- The step of `readCommandExecutionPinRetentionReferences` for one record. -/
def addRetentionReference (references : PinRetentionReferences)
    (execution : PersistedCommandExecutionV4) : Except Thrown PinRetentionReferences := do
  let retainThrough ← commandExecutionRetainedThrough execution
  let category := commandExecutionRetentionCategory execution
  return withRecord references category
    (raise (recordOf references category) (referenceKey execution.pinReference) retainThrough)

/-- `readCommandExecutionPinRetentionReferences`. -/
def readCommandExecutionPinRetentionReferences (state : PersistedBridgeState) :
    Except Thrown PinRetentionReferences :=
  state.commandExecutions.values.foldlM addRetentionReference noReferences

/-- The loop of `mergePinRetentionReferences` over the entries of a record. -/
def mergeRecord (target values : Dict PinKey IsoText) : Dict PinKey IsoText :=
  values.entries.foldl (fun target entry => raise target entry.1 entry.2) target

/-- The loop of `mergePinRetentionReferences` over the records of an input. -/
def mergeReferences (merged input : PinRetentionReferences) : PinRetentionReferences where
  contentRetainedThrough := mergeRecord merged.contentRetainedThrough input.contentRetainedThrough
  commandRetainedThrough := mergeRecord merged.commandRetainedThrough input.commandRetainedThrough
  executionRetainedThrough :=
    mergeRecord merged.executionRetainedThrough input.executionRetainedThrough
  terminalReceiptRetainedThrough :=
    mergeRecord merged.terminalReceiptRetainedThrough input.terminalReceiptRetainedThrough
  pendingOutboxRetainedThrough :=
    mergeRecord merged.pendingOutboxRetainedThrough input.pendingOutboxRetainedThrough
  undeliverableOutboxRetainedThrough :=
    mergeRecord merged.undeliverableOutboxRetainedThrough input.undeliverableOutboxRetainedThrough

/-- `mergePinRetentionReferences`. -/
def mergePinRetentionReferences (inputs : List PinRetentionReferences) : PinRetentionReferences :=
  inputs.foldl mergeReferences noReferences

/-! ### What is retained -/

/-- The entry of a key is at least a value. -/
def AtLeast (values : Dict PinKey IsoText) (key : PinKey) (value : IsoText) : Prop :=
  ∃ through, values.get? key = some through ∧ value ≤ through

section
variable {values target : Dict PinKey IsoText} {key key' : PinKey} {value value' : IsoText}

theorem le_laterCanonicalTimestamp (left : Option IsoText) (right : IsoText) :
    right ≤ laterCanonicalTimestamp left right ∧
      ∀ l, left = some l → l ≤ laterCanonicalTimestamp left right := by
  unfold laterCanonicalTimestamp
  cases left with
  | none => exact ⟨le_refl _, fun l hl => absurd hl (by simp)⟩
  | some left =>
    show right ≤ (if right < left then left else right) ∧
      ∀ l, some left = some l → l ≤ if right < left then left else right
    by_cases hlt : right < left
    · rw [if_pos hlt]
      exact ⟨hlt.le, fun l hl => (Option.some.inj hl).ge⟩
    · rw [if_neg hlt]
      exact ⟨le_refl _, fun l hl => Option.some.inj hl ▸ not_lt.mp hlt⟩

theorem atLeast_raise_self : AtLeast (raise values key value) key value :=
  ⟨_, Dict.get?_set_self _ _ _, (le_laterCanonicalTimestamp _ _).1⟩

/-- Raising an entry lowers none. -/
theorem AtLeast.raise (h : AtLeast values key value) :
    AtLeast (raise values key' value') key value := by
  obtain ⟨through, hget, hle⟩ := h
  by_cases hkey : key = key'
  · subst hkey
    exact ⟨_, Dict.get?_set_self _ _ _, hle.trans ((le_laterCanonicalTimestamp _ _).2 _ hget)⟩
  · exact ⟨through, (Dict.get?_set_ne _ _ hkey).trans hget, hle⟩

theorem AtLeast.foldl_raise (entries : List (PinKey × IsoText)) (h : AtLeast target key value) :
    AtLeast (entries.foldl (fun target entry => StateStore.raise target entry.1 entry.2) target)
      key value := by
  induction entries generalizing target with
  | nil => exact h
  | cons entry rest ih => exact ih h.raise

/-- What is merged arrives. -/
theorem AtLeast.mergeRecord_right (h : AtLeast values key value) :
    AtLeast (mergeRecord target values) key value := by
  obtain ⟨through, hget, hle⟩ := h
  obtain ⟨before, after, hentries⟩ := List.append_of_mem (Dict.mem_entries_iff.mpr hget)
  have hmerged : AtLeast (mergeRecord target values) key through := by
    rw [mergeRecord, hentries, List.foldl_append, List.foldl_cons]
    exact AtLeast.foldl_raise after atLeast_raise_self
  obtain ⟨through', hget', hle'⟩ := hmerged
  exact ⟨through', hget', hle.trans hle'⟩

end

/-- Some record of the references has the key, with a value at least. -/
def References (references : PinRetentionReferences) (key : PinKey) (value : IsoText) : Prop :=
  ∃ category, AtLeast (recordOf references category) key value

section
variable {references input : PinRetentionReferences} {key : PinKey} {value : IsoText}
  {execution : PersistedCommandExecutionV4} {now : CanonicalTimestamp}

theorem recordOf_withRecord (references : PinRetentionReferences) (category other : RetentionCategory)
    (values : Dict PinKey IsoText) :
    recordOf (withRecord references category values) other
      = if other = category then values else recordOf references other := by
  cases category <;> cases other <;> rfl

theorem recordOf_mergeReferences (category : RetentionCategory) :
    recordOf (mergeReferences references input) category
      = mergeRecord (recordOf references category) (recordOf input category) := by
  cases category <;> rfl

/-- A record adds the reference to its pin. -/
theorem addRetentionReference_eq_ok (h : addRetentionReference references execution = .ok input) :
    ∃ through, commandExecutionRetainedThrough execution = .ok through ∧
      References input (referenceKey execution.pinReference) through ∧
      ∀ key value, References references key value → References input key value := by
  rw [addRetentionReference, bind_eq_ok_iff] at h
  obtain ⟨through, hthrough, h⟩ := h
  cases h
  refine ⟨through, hthrough, ⟨commandExecutionRetentionCategory execution, ?_⟩, ?_⟩
  · rw [recordOf_withRecord, if_pos rfl]
    exact atLeast_raise_self
  · rintro key value ⟨category, hleast⟩
    refine ⟨category, ?_⟩
    rw [recordOf_withRecord]
    split
    · rename_i hcategory
      subst hcategory
      exact hleast.raise
    · exact hleast

/-- The loop over the records adds the reference of each. -/
theorem foldlM_addRetentionReference {executions : List PersistedCommandExecutionV4}
    (h : executions.foldlM addRetentionReference references = .ok input) :
    (∀ key value, References references key value → References input key value) ∧
      ∀ execution ∈ executions, ∃ through, commandExecutionRetainedThrough execution = .ok through ∧
        References input (referenceKey execution.pinReference) through := by
  induction executions generalizing references with
  | nil =>
    cases h
    exact ⟨fun _ _ hr => hr, fun _ hmem => absurd hmem List.not_mem_nil⟩
  | cons execution rest ih =>
    rw [List.foldlM_cons, bind_eq_ok_iff] at h
    obtain ⟨next, hnext, h⟩ := h
    obtain ⟨through, hthrough, hself, hkept⟩ := addRetentionReference_eq_ok hnext
    obtain ⟨hkept', hrest⟩ := ih h
    refine ⟨fun key value hr => hkept' key value (hkept key value hr), ?_⟩
    exact List.forall_mem_cons.mpr ⟨⟨through, hthrough, hkept' _ _ hself⟩, hrest⟩

/-- The references that are merged second are in the result. -/
theorem References.merge (h : References input key value) :
    References (mergePinRetentionReferences [references, input]) key value := by
  obtain ⟨category, hleast⟩ := h
  refine ⟨category, ?_⟩
  show AtLeast (recordOf (mergeReferences (mergeReferences noReferences references) input) category)
    key value
  rw [recordOf_mergeReferences]
  exact hleast.mergeRecord_right

/-- The fold never falls below a value it went over, nor below where it started. -/
theorem le_foldl_latest {value : IsoText} (rest : List IsoText) (latest : Option IsoText)
    (h : value ∈ rest ∨ ∃ l, latest = some l ∧ value ≤ l) :
    ∃ l, rest.foldl (fun latest value => some (match latest with
      | none => value
      | some latest => if latest < value then value else latest)) latest = some l ∧ value ≤ l := by
  induction rest generalizing latest with
  | nil =>
    rcases h with hnil | hlatest
    · exact absurd hnil List.not_mem_nil
    · exact hlatest
  | cons first rest ih =>
    rw [List.foldl_cons]
    apply ih
    rcases h with hmem | ⟨l, rfl, hle⟩
    · rcases List.mem_cons.mp hmem with rfl | hrest
      · right
        cases latest with
        | none => exact ⟨_, rfl, le_refl _⟩
        | some l =>
          refine ⟨_, rfl, ?_⟩
          show value ≤ if l < value then value else l
          by_cases hlt : l < value
          · rw [if_pos hlt]
          · rw [if_neg hlt]
            exact not_lt.mp hlt
      · exact Or.inl hrest
    · right
      refine ⟨_, rfl, ?_⟩
      show value ≤ if l < first then first else l
      by_cases hlt : l < first
      · rw [if_pos hlt]
        exact hle.trans hlt.le
      · rw [if_neg hlt]
        exact hle

/-- The maximum is at least each of its values. -/
theorem le_maxTimestamp {values : List (Option IsoText)} {value : IsoText}
    (hmem : some value ∈ values) : ∃ latest, maxTimestamp values = some latest ∧ value ≤ latest :=
  le_foldl_latest _ none (Or.inl (List.reduceOption_mem_iff.mpr hmem))

/-- A pin that is referenced long enough is retained. -/
theorem isPinRetained_of_references {pin : ActiveLinkPinV2}
    (h : References references (pinKey pin) value) (hnow : now.toIsoText ≤ value) :
    LocalLinkKeyring.isPinRetained references now pin = true := by
  obtain ⟨category, through, hget, hle⟩ := h
  have hmem : some through ∈ references.records.map fun record => record.get? (pinKey pin) := by
    rw [← hget]
    refine List.mem_map.mpr ⟨recordOf references category, ?_, rfl⟩
    cases category <;> simp [PinRetentionReferences.records, recordOf]
  obtain ⟨latest, hlatest, hmax⟩ := le_maxTimestamp hmem
  rw [LocalLinkKeyring.isPinRetained, hlatest, Bool.or_eq_true]
  exact Or.inr (decide_eq_true (hnow.trans (hle.trans hmax)))

/-- The pin of a record is retained as long as the record itself. -/
theorem retains_of_mem {state : PersistedBridgeState} {commandId : String} {pin : ActiveLinkPinV2}
    (h : readCommandExecutionPinRetentionReferences state = .ok input)
    (hget : state.commandExecutions.get? commandId = some execution)
    (hnow : ∀ through, commandExecutionRetainedThrough execution = .ok through →
      ¬ through < now.toIsoText)
    (hpin : pinReference pin = execution.pinReference) :
    LocalLinkKeyring.isPinRetained (mergePinRetentionReferences [references, input]) now pin
      = true := by
  obtain ⟨through, hthrough, hreferences⟩ :=
    (foldlM_addRetentionReference h).2 execution (Dict.mem_values_iff.mpr ⟨commandId, hget⟩)
  have hkey : referenceKey execution.pinReference = pinKey pin := by
    rw [← hpin]
    rfl
  rw [hkey] at hreferences
  exact isPinRetained_of_references hreferences.merge (not_lt.mp (hnow through hthrough))

end

end Ariava.StateStore
