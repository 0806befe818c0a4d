import Ariava.Lib.Greatest
import Ariava.Daemon.CommandRuntime

/-!
# `Ariava.Proofs.PinRetention`: how long a prune retains the pins

`pruneCommandRuntime` drops the eligible execution records, collects the references of the others
to their pins, merges them with the references of the durable content, and drops the pins of the
keyring whose merged retention time is over. The three steps compare timestamps on their own.

`RefersUntil` says that something refers to a pin until an instant: an entry of the content
references, or an execution record. `pruneCommandRuntime_retains` states what follows of every
keyring, every set of records and every clock reading:

- a record that is still there has its pin, if it was there before;
- the merged retention time of a pin is the greatest instant of all references to it, so neither
  their order nor how often they come enters;
- a pin that is dropped is not active, and its retention time is over.

`Greatest` lemmas follow the three loops: over the entries of a record, over the execution records
and over the six categories.
-/

set_option autoImplicit false

namespace Ariava.Proofs.PinRetention

open Ariava.Lib
open Ariava.Protocol
open Ariava.StateStore
open Ariava.E2e
open Ariava.Daemon

/-- A record of the references has the greatest instant for each key. -/
def HoldsGreatest (P : PinKey → IsoText → Prop) (values : Dict PinKey IsoText) : Prop :=
  ∀ key, GreatestOf (P key) (values.get? key)

/-! ### The loops -/

section
variable {P Q : PinKey → IsoText → Prop} {values target : Dict PinKey IsoText}

theorem laterCanonicalTimestamp_eq (left : Option IsoText) (right : IsoText) :
    laterCanonicalTimestamp left right = raiseTo left right := by
  cases left with
  | none => rfl
  | some left =>
    show (if right < left then left else right) = max left right
    by_cases hlt : right < left
    · rw [if_pos hlt, max_eq_left hlt.le]
    · rw [if_neg hlt, max_eq_right (not_lt.mp hlt)]

theorem HoldsGreatest.congr (h : HoldsGreatest P values) (hiff : ∀ key t, Q key t ↔ P key t) :
    HoldsGreatest Q values := fun key => (h key).congr (hiff key)

theorem holdsGreatest_empty : HoldsGreatest (fun _ _ => False) ∅ := by
  intro key
  rw [Dict.get?_emptyCollection]
  exact fun _ hfalse => hfalse

/-- One more reference. -/
theorem HoldsGreatest.raise (h : HoldsGreatest P values) (key : PinKey) (value : IsoText) :
    HoldsGreatest (fun key' t => P key' t ∨ (key' = key ∧ t = value))
      (StateStore.raise values key value) := by
  intro key'
  rw [StateStore.raise, laterCanonicalTimestamp_eq]
  by_cases hkey : key' = key
  · subst hkey
    rw [Dict.get?_set_self]
    exact ((h key').insert value).congr fun t => by simp
  · rw [Dict.get?_set_ne _ _ hkey]
    exact (h key').congr fun t => by simp [hkey]

/-- The entries of a record, one after the other. -/
theorem HoldsGreatest.foldl_raise (h : HoldsGreatest P target)
    (entries : List (PinKey × IsoText)) :
    HoldsGreatest (fun key t => P key t ∨ (key, t) ∈ entries)
      (entries.foldl (fun target entry => StateStore.raise target entry.1 entry.2) target) := by
  induction entries generalizing P target with
  | nil => exact h.congr fun key t => by simp
  | cons entry rest ih =>
    rw [List.foldl_cons]
    refine (ih (h.raise entry.1 entry.2)).congr fun key t => ?_
    rw [List.mem_cons, or_assoc, Prod.ext_iff]

/-- The loop of `mergePinRetentionReferences` over the entries of a record. -/
theorem HoldsGreatest.mergeRecord (h : HoldsGreatest P target) (values : Dict PinKey IsoText) :
    HoldsGreatest (fun key t => P key t ∨ values.get? key = some t)
      (StateStore.mergeRecord target values) :=
  (h.foldl_raise values.entries).congr fun key t => by rw [Dict.mem_entries_iff]

end

/-- The record refers to its pin, in a category, until an instant. -/
def RecordRefers (execution : PersistedCommandExecutionV4) (category : RetentionCategory)
    (key : PinKey) (t : IsoText) : Prop :=
  commandExecutionRetentionCategory execution = category ∧
    referenceKey execution.pinReference = key ∧ commandExecutionRetainedThrough execution = .ok t

/-- The loop of `readCommandExecutionPinRetentionReferences` over the records. -/
theorem foldlM_addRetentionReference_greatest {executions : List PersistedCommandExecutionV4}
    {references final : PinRetentionReferences} {P : RetentionCategory → PinKey → IsoText → Prop}
    (h : ∀ category, HoldsGreatest (P category) (recordOf references category))
    (hfold : executions.foldlM addRetentionReference references = .ok final)
    (category : RetentionCategory) :
    HoldsGreatest
      (fun key t => P category key t ∨ ∃ x ∈ executions, RecordRefers x category key t)
      (recordOf final category) := by
  induction executions generalizing references P with
  | nil =>
    cases hfold
    exact (h category).congr fun key t => by simp
  | cons execution rest ih =>
    rw [List.foldlM_cons, bind_eq_ok_iff] at hfold
    obtain ⟨next, hnext, hfold⟩ := hfold
    rw [addRetentionReference, bind_eq_ok_iff] at hnext
    obtain ⟨through, hthrough, hnext⟩ := hnext
    cases hnext
    have hadded : ∀ other, HoldsGreatest
        (fun key t => P other key t ∨ RecordRefers execution other key t)
        (recordOf (withRecord references (commandExecutionRetentionCategory execution)
          (StateStore.raise (recordOf references (commandExecutionRetentionCategory execution))
            (referenceKey execution.pinReference) through)) other) := by
      intro other
      rw [recordOf_withRecord]
      by_cases hother : other = commandExecutionRetentionCategory execution
      · rw [if_pos hother, ← hother]
        refine ((h other).raise _ through).congr fun key t => or_congr Iff.rfl ?_
        rw [RecordRefers, hthrough]
        constructor
        · rintro ⟨-, hkey, ht⟩
          cases ht
          exact ⟨hkey.symm, rfl⟩
        · rintro ⟨hkey, ht⟩
          exact ⟨hother.symm, hkey.symm, ht ▸ rfl⟩
      · rw [if_neg hother]
        refine (h other).congr fun key t => or_iff_left ?_
        exact fun hrefers => hother hrefers.1.symm
    refine (ih hadded hfold).congr fun key t => ?_
    rw [or_assoc]
    simp only [List.mem_cons, exists_eq_or_imp]

/-- The references of the records of a state. -/
theorem readCommandExecutionPinRetentionReferences_greatest {state : PersistedBridgeState}
    {references : PinRetentionReferences}
    (h : readCommandExecutionPinRetentionReferences state = .ok references)
    (category : RetentionCategory) :
    HoldsGreatest
      (fun key t => ∃ x ∈ state.commandExecutions.values, RecordRefers x category key t)
      (recordOf references category) := by
  have hnone : ∀ other, HoldsGreatest (fun _ _ => False) (recordOf noReferences other) := by
    intro other
    cases other <;> exact holdsGreatest_empty
  exact (foldlM_addRetentionReference_greatest hnone h category).congr fun key t => by simp

/-- Two inputs, merged: the greatest of both. -/
theorem mergePinRetentionReferences_greatest (first second : PinRetentionReferences)
    (category : RetentionCategory) :
    HoldsGreatest (fun key t => (recordOf first category).get? key = some t ∨
        (recordOf second category).get? key = some t)
      (recordOf (mergePinRetentionReferences [first, second]) category) := by
  have hnone : HoldsGreatest (fun _ _ => False) (recordOf noReferences category) := by
    cases category <;> exact holdsGreatest_empty
  show HoldsGreatest _
    (recordOf (mergeReferences (mergeReferences noReferences first) second) category)
  rw [recordOf_mergeReferences, recordOf_mergeReferences]
  exact ((hnone.mergeRecord _).mergeRecord _).congr fun key t => by simp

/-- `maxTimestamp`. -/
theorem maxTimestamp_greatest (values : List (Option IsoText)) :
    GreatestOf (fun t => some t ∈ values) (maxTimestamp values) := by
  have hsame : maxTimestamp values = values.reduceOption.foldl
      (fun latest value => some (raiseTo latest value)) none := by
    rw [maxTimestamp]
    congr 1
    funext latest value
    cases latest with
    | none => rfl
    | some latest =>
      show some (if latest < value then value else latest) = some (max latest value)
      by_cases hlt : latest < value
      · rw [if_pos hlt, max_eq_right hlt.le]
      · rw [if_neg hlt, max_eq_left (not_lt.mp hlt)]
  have hnone : GreatestOf (fun _ : IsoText => False) none := fun _ hfalse => hfalse
  rw [hsame]
  exact (hnone.foldl _).congr fun t => by simp [List.reduceOption_mem_iff]

/-! ### What a prune does -/

/-- Something refers to the pin until an instant: an entry of the content references, or an
execution record. -/
def RefersUntil (contentReferences : PinRetentionReferences) (state : PersistedBridgeState)
    (key : PinKey) (t : IsoText) : Prop :=
  (∃ category, (recordOf contentReferences category).get? key = some t) ∨
    ∃ id x, state.commandExecutions.get? id = some x ∧ referenceKey x.pinReference = key ∧
      commandExecutionRetainedThrough x = .ok t

/-- The retention time of a pin, as `pruneRetiring` reads it off the references. -/
def retainUntil (references : PinRetentionReferences) (key : PinKey) : Option IsoText :=
  maxTimestamp (references.records.map fun record => record.get? key)

section
variable {contentReferences references : PinRetentionReferences} {state : PersistedBridgeState}
  {now : CanonicalTimestamp}

theorem mem_records_iff {record : Dict PinKey IsoText} :
    record ∈ references.records ↔ ∃ category, recordOf references category = record := by
  constructor
  · intro hmem
    simp only [PinRetentionReferences.records, List.mem_cons, List.not_mem_nil, or_false] at hmem
    rcases hmem with rfl | rfl | rfl | rfl | rfl | rfl
    exacts [⟨.content, rfl⟩, ⟨.command, rfl⟩, ⟨.execution, rfl⟩, ⟨.terminalReceipt, rfl⟩,
      ⟨.pendingOutbox, rfl⟩, ⟨.undeliverableOutbox, rfl⟩]
  · rintro ⟨category, rfl⟩
    cases category <;> simp [PinRetentionReferences.records, recordOf]

variable (contentReferences) in
/-- The merged retention time is the greatest instant of all references. -/
theorem retainUntil_greatest
    (h : readCommandExecutionPinRetentionReferences state = .ok references) (key : PinKey) :
    GreatestOf (RefersUntil contentReferences state key)
      (retainUntil (mergePinRetentionReferences [contentReferences, references]) key) := by
  have hrecords := readCommandExecutionPinRetentionReferences_greatest h
  have hmerged := mergePinRetentionReferences_greatest contentReferences references
  have hlatest := maxTimestamp_greatest
    ((mergePinRetentionReferences [contentReferences, references]).records.map
      fun record => record.get? key)
  have hentry : ∀ {t}, some t ∈ (mergePinRetentionReferences [contentReferences, references]).records.map
      (fun record => record.get? key) ↔ ∃ category,
        (recordOf (mergePinRetentionReferences [contentReferences, references]) category).get? key
          = some t := by
    intro t
    rw [List.mem_map]
    constructor
    · rintro ⟨record, hrecord, ht⟩
      obtain ⟨category, rfl⟩ := mem_records_iff.mp hrecord
      exact ⟨category, ht⟩
    · rintro ⟨category, ht⟩
      exact ⟨_, mem_records_iff.mpr ⟨category, rfl⟩, ht⟩
  -- Each entry of the merged references is a reference.
  have hrefers : ∀ {t} category,
      (recordOf (mergePinRetentionReferences [contentReferences, references]) category).get? key
        = some t → RefersUntil contentReferences state key t := by
    intro t category ht
    have hgreatest := hmerged category key
    rw [ht] at hgreatest
    rcases hgreatest.holds with hcontent | hexecution
    · exact .inl ⟨category, hcontent⟩
    · have hfrom := hrecords category key
      rw [hexecution] at hfrom
      obtain ⟨x, hx, -, hkey, hthrough⟩ := hfrom.holds
      obtain ⟨id, hget⟩ := Dict.mem_values_iff.mp hx
      exact .inr ⟨id, x, hget, hkey, hthrough⟩
  -- No reference is after the merged entry of its category.
  have hcovers : ∀ {t}, RefersUntil contentReferences state key t →
      ∃ category m, (recordOf (mergePinRetentionReferences [contentReferences, references])
        category).get? key = some m ∧ t ≤ m := by
    rintro t (⟨category, ht⟩ | ⟨id, x, hget, hkey, hthrough⟩)
    · obtain ⟨m, hm, hle⟩ := (hmerged category key).le (.inl ht)
      exact ⟨category, m, hm, hle⟩
    · obtain ⟨own, hown, hle⟩ := (hrecords (commandExecutionRetentionCategory x) key).le
        ⟨x, Dict.mem_values_iff.mpr ⟨id, hget⟩, rfl, hkey, hthrough⟩
      obtain ⟨m, hm, hle'⟩ := (hmerged (commandExecutionRetentionCategory x) key).le (.inr hown)
      exact ⟨_, m, hm, hle.trans hle'⟩
  unfold retainUntil
  cases hmax : maxTimestamp ((mergePinRetentionReferences [contentReferences, references]).records.map
      fun record => record.get? key) with
  | none =>
    rw [hmax] at hlatest
    intro t ht
    obtain ⟨category, m, hm, -⟩ := hcovers ht
    exact hlatest m (hentry.mpr ⟨category, hm⟩)
  | some m =>
    rw [hmax] at hlatest
    obtain ⟨category, hm⟩ := hentry.mp hlatest.holds
    refine ⟨hrefers category hm, fun t ht => ?_⟩
    obtain ⟨category', m', hm', hle⟩ := hcovers ht
    exact hle.trans (hlatest.2 (hentry.mpr ⟨category', hm'⟩))

/-- The test of `pruneRetiring`, by the retention time. -/
theorem isPinRetained_iff {pin : ActiveLinkPinV2} :
    LocalLinkKeyring.isPinRetained references now pin = true ↔
      pin.status = .active ∨ ∃ t, retainUntil references (pinKey pin) = some t ∧
        now.toIsoText ≤ t := by
  rw [LocalLinkKeyring.isPinRetained, Bool.or_eq_true, decide_eq_true_eq, retainUntil,
    Option.any_eq_true]
  simp only [decide_eq_true_eq]

end

/-- What a prune of the runtime does to the records and the pins of the keyring. -/
structure PrunesByReferences (w : CommandRuntime) (contentReferences : PinRetentionReferences)
    (now : CanonicalTimestamp) : Prop where
  held : ∀ id x, (w.pruneCommandRuntime contentReferences now).journal.state.commandExecutions.get? id
      = some x → ∀ pin ∈ w.keyring.keyring.pins, pinKey pin = referenceKey x.pinReference →
        pin ∈ (w.pruneCommandRuntime contentReferences now).keyring.keyring.pins
  latest : ∀ references, readCommandExecutionPinRetentionReferences
      (w.pruneCommandRuntime contentReferences now).journal.state = .ok references →
    ∀ key, GreatestOf (RefersUntil contentReferences
        (w.pruneCommandRuntime contentReferences now).journal.state key)
      (retainUntil (mergePinRetentionReferences [contentReferences, references]) key)
  dropped : ∀ pin ∈ w.keyring.keyring.pins,
    pin ∉ (w.pruneCommandRuntime contentReferences now).keyring.keyring.pins →
      pin.status ≠ .active ∧ ∀ t, RefersUntil contentReferences
        (w.pruneCommandRuntime contentReferences now).journal.state (pinKey pin) t →
          t < now.toIsoText
  file : (w.pruneCommandRuntime contentReferences now).keyring.file = w.keyring.file ∨
    (w.pruneCommandRuntime contentReferences now).keyring.file
      = some (w.pruneCommandRuntime contentReferences now).keyring.keyring.state

section
variable {w : CommandRuntime} {contentReferences references : PinRetentionReferences}
  {now : CanonicalTimestamp}

/-- `pruneCommandRuntime` leaves the keyring alone, or filters its pins by the references of the
records that it retained. -/
theorem pruneCommandRuntime_cases (w : CommandRuntime) (contentReferences : PinRetentionReferences)
    (now : CanonicalTimestamp) :
    (w.pruneCommandRuntime contentReferences now).keyring = w.keyring ∨
      ∃ references, readCommandExecutionPinRetentionReferences
          (w.pruneCommandRuntime contentReferences now).journal.state = .ok references ∧
        (∀ id x, (w.pruneCommandRuntime contentReferences now).journal.state.commandExecutions.get? id
          = some x → ∀ through, commandExecutionRetainedThrough x = .ok through →
            now.toIsoText ≤ through) ∧
        (w.pruneCommandRuntime contentReferences now).keyring.keyring.pins
          = w.keyring.keyring.pins.filter (LocalLinkKeyring.isPinRetained
            (mergePinRetentionReferences [contentReferences, references]) now) ∧
        (w.pruneCommandRuntime contentReferences now).keyring.file
          = some (w.pruneCommandRuntime contentReferences now).keyring.keyring.state := by
  unfold CommandRuntime.pruneCommandRuntime
  split
  · exact .inl rfl
  · next t ht =>
    have hretained := pruneEligibleCommandExecutions_cases ht
    unfold CommandRuntime.pruneKeyring
    dsimp only
    split
    · exact .inl rfl
    · next references hreferences =>
      rcases LocalLinkKeyring.pruneRetiring_cases
        (mergePinRetentionReferences [contentReferences, references]) now w.keyring with
        hsame | hpruned
      · exact .inl hsame
      · refine .inr ⟨references, hreferences, fun id x hget through hthrough => ?_, ?_, ?_⟩
        · exact not_lt.mp (((hretained id x).mp hget).2 through hthrough)
        · dsimp only
          rw [hpruned]
          rfl
        · dsimp only
          rw [hpruned]
          rfl

/-- Every prune of the runtime goes by the references. -/
theorem pruneCommandRuntime_retains (w : CommandRuntime)
    (contentReferences : PinRetentionReferences) (now : CanonicalTimestamp) :
    PrunesByReferences w contentReferences now := by
  have hcases := pruneCommandRuntime_cases w contentReferences now
  constructor
  case held =>
    intro id x hget pin hpin hkey
    rcases hcases with hsame | ⟨references, hreferences, hretained, hpins, -⟩
    · rw [hsame]
      exact hpin
    · -- The record itself refers to the pin until the instant through which it is retained.
      obtain ⟨through, hthrough, -⟩ := (foldlM_addRetentionReference hreferences).2 x
        (Dict.mem_values_iff.mpr ⟨id, hget⟩)
      obtain ⟨latest, hlatest, hle⟩ := (retainUntil_greatest contentReferences
        hreferences (pinKey pin)).le (.inr ⟨id, x, hget, hkey.symm, hthrough⟩)
      rw [hpins]
      exact List.mem_filter.mpr ⟨hpin, isPinRetained_iff.mpr
        (.inr ⟨latest, hlatest, (hretained id x hget through hthrough).trans hle⟩)⟩
  case latest => exact fun references hreferences key => retainUntil_greatest contentReferences hreferences key
  case dropped =>
    intro pin hpin hgone
    rcases hcases with hsame | ⟨references, hreferences, -, hpins, -⟩
    · rw [hsame] at hgone
      exact absurd hpin hgone
    · rw [hpins, List.mem_filter, not_and, isPinRetained_iff, not_or] at hgone
      obtain ⟨hactive, hover⟩ := hgone hpin
      refine ⟨hactive, fun t ht => lt_of_not_ge fun hnow => hover ?_⟩
      obtain ⟨latest, hlatest, hle⟩ := (retainUntil_greatest contentReferences
        hreferences (pinKey pin)).le ht
      exact ⟨latest, hlatest, hnow.trans hle⟩
  case file =>
    rcases hcases with hsame | ⟨references, -, -, -, hfile⟩
    · rw [hsame]
      exact .inl rfl
    · exact .inr hfile

end

end Ariava.Proofs.PinRetention
