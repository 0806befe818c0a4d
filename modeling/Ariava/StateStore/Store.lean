import Ariava.Lib.Effect
import Ariava.StateStore.LocalSpool

/-!
# `Ariava.StateStore.Store`: the state file, the spool file and their writes

`BridgeStore` is the memory of a `BridgeStateStore` together with the two files that it
owns. Its programs are `Effect`s, so a throw keeps what was already done.

A write replaces a whole file. `WriteOutcome` says what becomes of it: the file is replaced
or not, an error is reported or not, and after an error the file can be read back or not.
`writes` gives the outcomes of the writes to come. After its end every write succeeds, so a
finite list covers every finite run. `images` has the two files after each write that
replaced one, latest first: these are all the pairs of files that a stop of the process can
leave behind.

- `persist` writes the state in memory, `commit` writes a state before it becomes the one in
  memory, and `persistSpool` writes the spool. A spool write whose error follows the
  replacement counts as done when the file can be read back.
- `commitTransition` and `applyTransition` run a pure transition: the first keeps the state
  in memory when the write fails, the second has changed it by then.
-/

set_option autoImplicit false

namespace Ariava.StateStore

open Ariava.Lib
open Ariava.Protocol

/-- What becomes of the write of a file. -/
inductive WriteOutcome
  /-- The file is replaced. -/
  | written
  /-- The file is as before, and an error is reported. -/
  | failed
  /-- The file is replaced, and an error is reported after that. -/
  | replaced
  /-- As `replaced`, and the file cannot be read back. -/
  | unconfirmed
deriving DecidableEq

/-- The file is replaced. -/
def WriteOutcome.installs : WriteOutcome → Bool
  | failed => false
  | _ => true

/-- The state file and the items of the spool file. -/
structure RuntimeFiles where
  state : PersistedBridgeState
  items : List SpoolItem
deriving DecidableEq

/-- The memory of a `BridgeStateStore` and its files. -/
structure BridgeStore where
  state : PersistedBridgeState
  items : List SpoolItem
  files : RuntimeFiles
  commandExecutionPinsReady : Bool
  writes : List WriteOutcome
  images : List RuntimeFiles

/-- A program of the store. -/
abbrev StoreEffect (α : Type) : Type := Effect Thrown BridgeStore α

/-- The error of a failed write. -/
def writeError : Thrown := .error "secure file write failed"

namespace BridgeStore

/-- A store whose memory is what its files hold. -/
def opened (files : RuntimeFiles) (commandExecutionPinsReady : Bool)
    (writes : List WriteOutcome) : BridgeStore where
  state := files.state
  items := files.items
  files := files
  commandExecutionPinsReady := commandExecutionPinsReady
  writes := writes
  images := []

/-- The files become these. -/
def install (s : BridgeStore) (files : RuntimeFiles) : BridgeStore :=
  { s with files := files, images := files :: s.images }

/-- The outcome of the next write. -/
def nextWrite (s : BridgeStore) : WriteOutcome := s.writes.headD .written

/-- The store after a write that would leave these files. -/
def afterWrite (s : BridgeStore) (files : RuntimeFiles) : BridgeStore :=
  let drawn := { s with writes := s.writes.tail }
  if s.nextWrite.installs then drawn.install files else drawn

section
variable (s : BridgeStore) (files : RuntimeFiles)

@[simp] theorem afterWrite_state : (s.afterWrite files).state = s.state := by
  simp only [afterWrite]
  split <;> rfl

@[simp] theorem afterWrite_items : (s.afterWrite files).items = s.items := by
  simp only [afterWrite]
  split <;> rfl

@[simp] theorem afterWrite_writes : (s.afterWrite files).writes = s.writes.tail := by
  simp only [afterWrite]
  split <;> rfl

/-- A write installs its files, as the latest image, or leaves the files alone. -/
theorem afterWrite_files :
    ((s.afterWrite files).files = files ∧ (s.afterWrite files).images = files :: s.images) ∨
      ((s.afterWrite files).files = s.files ∧ (s.afterWrite files).images = s.images) := by
  simp only [afterWrite]
  split
  · exact .inl ⟨rfl, rfl⟩
  · exact .inr ⟨rfl, rfl⟩

/-- A write of which no failure is scheduled installs its files. -/
theorem afterWrite_of_noFailure (h : s.writes = []) :
    s.nextWrite = .written ∧ (s.afterWrite files).files = files := by
  have hnext : s.nextWrite = .written := by rw [nextWrite, h, List.headD_nil]
  refine ⟨hnext, ?_⟩
  simp [afterWrite, hnext, WriteOutcome.installs, install]

end

end BridgeStore

/-! ### The writes -/

/-- `writeSecureJson` of the state file. -/
def writeState (state : PersistedBridgeState) : StoreEffect Unit := fun s =>
  (if s.nextWrite = .written then .ok () else .error writeError,
    s.afterWrite { s.files with state := state })

/-- `setState`. -/
def setState (state : PersistedBridgeState) : StoreEffect Unit :=
  modify fun s => { s with state := state }

/-- `persist`. -/
def persist : StoreEffect Unit := do
  let s ← get
  writeState s.state

/-- `commit`: the write comes before the state in memory changes. -/
def commit (state : PersistedBridgeState) : StoreEffect Unit := do
  writeState state
  setState state

/-- `persist` of the spool, with the items in memory after it. An error after the
replacement is ignored when the file reads back as the target. -/
def persistSpool (items : List SpoolItem) : StoreEffect Unit := fun s =>
  let written := s.afterWrite { s.files with items := items }
  if s.nextWrite = .written ∨ s.nextWrite = .replaced then
    (.ok (), { written with items := items })
  else (.error writeError, written)

/-- `commitTransition`. -/
def commitTransition {α : Type}
    (transition : PersistedBridgeState → Except Thrown (StateTransition α)) : StoreEffect α := do
  let s ← get
  match transition s.state with
  | .error thrown => throw thrown
  | .ok (.unchanged result) => return result
  | .ok (.next state result) =>
      commit state
      return result

/-- A transition is decided on the state in memory before anything is written. -/
theorem commitTransition_run {α : Type}
    (transition : PersistedBridgeState → Except Thrown (StateTransition α)) (s : BridgeStore) :
    (commitTransition transition).run s = match transition s.state with
      | .error thrown => (.error thrown, s)
      | .ok (.unchanged result) => (.ok result, s)
      | .ok (.next state result) => (do commit state; return result : StoreEffect α).run s := by
  rw [commitTransition, Effect.run_bind, Effect.run_get, Effect.next_ok]
  rcases transition s.state with thrown | (result | ⟨state, result⟩) <;> rfl

/-- `applyTransition`. -/
def applyTransition {α : Type}
    (transition : PersistedBridgeState → Except Thrown (StateTransition α)) : StoreEffect α := do
  let s ← get
  match transition s.state with
  | .error thrown => throw thrown
  | .ok (.unchanged result) => return result
  | .ok (.next state result) =>
      setState state
      persist
      return result

/-! ### The spool -/

/-- `enqueue`. An item of the same id and binding is kept as it is. -/
def enqueue (input : SpoolItem) : StoreEffect SpoolItem := do
  let s ← get
  match spoolGet s.items input.spoolItemId with
  | some existing =>
      if sameItemBinding existing input then return existing
      else throw (.typeError "local spool item ID conflict")
  | none =>
      persistSpool (s.items ++ [sealedItem input])
      return sealedItem input

section
variable {input existing : SpoolItem} {s : BridgeStore}

theorem enqueue_run_of_some (h : spoolGet s.items input.spoolItemId = some existing) :
    (enqueue input).run s = if sameItemBinding existing input then (.ok existing, s)
      else (.error (.typeError "local spool item ID conflict"), s) := by
  rw [enqueue, Effect.run_bind, Effect.run_get, Effect.next_ok, h]
  dsimp only
  split <;> rfl

theorem enqueue_run_of_none (h : spoolGet s.items input.spoolItemId = none) :
    (enqueue input).run s = (do
      persistSpool (s.items ++ [sealedItem input])
      return sealedItem input : StoreEffect SpoolItem).run s := by
  rw [enqueue, Effect.run_bind, Effect.run_get, Effect.next_ok, h]

end

/-- `replace`. -/
def replace (removeIds : List String) (additions : List SpoolItem) : StoreEffect Unit := do
  let s ← get
  match replaceItems s.items removeIds additions with
  | .error thrown => throw thrown
  | .ok items => persistSpool items

theorem replace_run_of_ok {removeIds : List String} {additions items : List SpoolItem}
    {s : BridgeStore} (h : replaceItems s.items removeIds additions = .ok items) :
    (replace removeIds additions).run s = (persistSpool items).run s := by
  rw [replace, Effect.run_bind, Effect.run_get, Effect.next_ok, h]

/-- `removeMany`. -/
def removeMany (spoolItemIds : List String) : StoreEffect Unit := replace spoolItemIds []

/-- `remove`. -/
def removeItem (spoolItemId : String) : StoreEffect Unit := replace [spoolItemId] []

end Ariava.StateStore
