import Ariava.Proofs.RuntimeJournals

/-!
# `Ariava.Proofs.RuntimePreflight`: every start ends in the same runtime

A `Phase` is what a start can find and go on from: a runtime that is opened, one of an older schema,
or one of the two journals. It names the state that is opened in the end, unless that is an empty
one.

`Recovers` says that a program of a start opens this state, and that at every point of its trail the
files are in a phase with the same end (`Keeps`). Each phase has its lemma, and `phase_recovers`
puts them together. The calls that a start makes of itself decrease with the schema: from schema 1
it resets to 2, then to 3, and migrates this one.
-/

set_option autoImplicit false

namespace Ariava.Proofs.RuntimePreflight

open Ariava.Lib (Effect)
open Ariava.Lib.Effect (run_bind next_ok next_error)
open Ariava.Protocol (JsonValue JsonObject JsString jsString Thrown throwIf throwIf_eq_ok
  check_bind_eq_ok bind_eq_ok_iff isCanonicalTimestampString)
open Ariava.Proofs.RuntimeJournals
open Ariava.Proofs.RuntimePaths (IsFilePath)
open Ariava.Proofs.RuntimeTargets
open Ariava.StateStore.RawState

/-! ### What a start finds -/

/-- The bytes are this record, or are not there. -/
def ReadsAs (bytes : Option FileBytes) (record : Option JsonObject) : Prop :=
  ∀ label, parseRawJson bytes label = .ok record

theorem ReadsAs.of_ok {bytes : Option FileBytes} {record : Option JsonObject} {label : String}
    (h : parseRawJson bytes label = .ok record) : ReadsAs bytes record := by
  intro other
  unfold parseRawJson at h ⊢
  split at h
  · exact h
  · cases h
  · split at h
    · cases h
    · exact h

theorem ReadsAs.exists_bytes {bytes : Option FileBytes} {record : JsonObject}
    (h : ReadsAs bytes (some record)) :
    ∃ contents, bytes = some contents ∧ contents.decoded = some (.object record) := by
  have hparsed := h ""
  unfold parseRawJson at hparsed
  split at hparsed
  · cases hparsed
  · cases hparsed
  · next value hdecoded =>
    split at hparsed
    · cases hparsed
    · next found hrecord =>
      cases hparsed
      obtain ⟨contents, rfl, hvalue⟩ := Option.map_eq_some_iff.mp hdecoded
      refine ⟨contents, rfl, hvalue.trans (congrArg some ?_)⟩
      cases value with
      | object properties =>
        cases hrecord
        rfl
      | _ => cases hrecord

theorem ReadsAs.eq_none {bytes : Option FileBytes} (h : ReadsAs bytes none) : bytes = none := by
  have hparsed := h ""
  unfold parseRawJson at hparsed
  split at hparsed
  · next hnone => exact Option.map_eq_none_iff.mp hnone
  · cases hparsed
  · split at hparsed <;> cases hparsed

theorem readsAs_written (value : JsonObject) :
    ReadsAs (some (serializeSecureJson value)) (some value) := fun _ => rfl

theorem bytesOf_holds {stored : Option StoredFile} {record : JsonObject} (h : Holds stored record) :
    ∃ bytes, bytesOf stored = .ok (some bytes) ∧ ReadsAs (some bytes) (some record) := by
  obtain ⟨bytes, rfl, hdecoded⟩ := h
  refine ⟨bytes, rfl, fun label => ?_⟩
  simp [parseRawJson, hdecoded, recordOf]

theorem eq_secure_of_bytesOf {stored : Option StoredFile} {bytes : FileBytes}
    (h : bytesOf stored = .ok (some bytes)) : stored = some (.secure bytes) := by
  cases stored with
  | none => cases h
  | some found =>
    cases found with
    | insecure => cases h
    | secure found =>
      cases h
      rfl

theorem holds_of_reads {stored : Option StoredFile} {bytes : Option FileBytes} {record : JsonObject}
    (hbytes : bytesOf stored = .ok bytes) (hreads : ReadsAs bytes (some record)) :
    Holds stored record := by
  obtain ⟨contents, rfl, hdecoded⟩ := hreads.exists_bytes
  exact ⟨contents, eq_secure_of_bytesOf hbytes, hdecoded⟩

section
variable (checks : CodecChecks) (hash : RuntimeHash) (statePath hostId : JsString)

/-- The files of a runtime without a journal and without a schema floor. -/
structure Unsettled (disk : RuntimeDisk) (stateBytes spoolBytes : Option FileBytes)
    (stateRecord spoolRecord : Option JsonObject) : Prop where
  noReset : disk.files .resetIntent = none
  noMigration : disk.files .migrationIntent = none
  noFloor : disk.files .floor = none
  state : bytesOf (disk.files .state) = .ok stateBytes
  spool : bytesOf (disk.files .spool) = .ok spoolBytes
  stateReads : ReadsAs stateBytes stateRecord
  spoolReads : ReadsAs spoolBytes spoolRecord

/-- The key that a reset loads: it may create one only where there is no spool. -/
def LoadsKey (disk : RuntimeDisk) (spoolRecord : Option JsonObject) : Prop :=
  match disk.spoolKey with
  | .unreadable => False
  | .missing => spoolRecord = none
  | .unrecorded _ => spoolRecord = none
  | .present key => ∀ spool, spoolRecord = some spool →
      isNumber 2 (spool.get? "version") = true → textOf (spool.get? "keyId") = some key.val

/-- The runtimes that a start replaces by empty ones of the next schema. -/
inductive IsReplaced : Option JsonObject → Option JsonObject → Int → Int → Prop
  | empty : IsReplaced none none 2 3
  | obsolete {state spool : JsonObject}
      (h : isRecognizedObsoleteRuntime checks state spool hostId = true) :
      IsReplaced (some state) (some spool) 2 3
  | legacy {stateRecord spoolRecord : Option JsonObject}
      (hsome : stateRecord.isSome = true ∨ spoolRecord.isSome = true)
      (h : isRecognizedLegacyRuntime stateRecord spoolRecord hostId = true) :
      IsReplaced stateRecord spoolRecord 1 2

/-- The files that a start goes on from, with the state that it opens, unless it is an empty one. -/
inductive Phase (disk : RuntimeDisk) : Option JsonObject → Prop
  | settled {state : JsonObject} (h : Settled checks statePath hostId disk state) :
      Phase disk (some state)
  | migrating {intent : RuntimeMigrationIntentV1}
      (h : Migrating checks hash statePath hostId disk intent) :
      Phase disk (some intent.stateTarget)
  | resetting {intent : RuntimeResetIntentV1}
      (h : Resetting checks hash statePath hostId disk intent) : Phase disk none
  | current {stateBytes spoolBytes : Option FileBytes} {state spool : JsonObject}
      (h : Unsettled disk stateBytes spoolBytes (some state) (some spool))
      (hopened : parseCurrentRuntime checks hostId state spool = .ok state) :
      Phase disk (some state)
  | prior {stateBytes spoolBytes : FileBytes} {state spool : JsonObject}
      (h : Unsettled disk (some stateBytes) (some spoolBytes) (some state) (some spool))
      (hprior : isPriorRuntimeV3 checks hostId state spool = true) :
      Phase disk (some (migrationTarget state))
  | replaced {stateBytes spoolBytes : Option FileBytes}
      {stateRecord spoolRecord : Option JsonObject} {fromSchema toSchema : Int}
      (h : Unsettled disk stateBytes spoolBytes stateRecord spoolRecord)
      (hreplaced : IsReplaced checks hostId stateRecord spoolRecord fromSchema toSchema)
      (hkey : LoadsKey disk spoolRecord) : Phase disk none

end

/-- The migration of an empty runtime of schema 3. -/
def IsFresh (state : JsonObject) : Prop :=
  ∃ epoch : JsString, isRuntimeEpoch (some (.string epoch)) = true
    ∧ state = migrationTarget (emptyStateForSchema 3 epoch)

/-- The states that a start opens: the one that is kept, or any empty one. -/
def Opens : Option JsonObject → JsonObject → Prop
  | some kept, state => state = kept
  | none, state => IsFresh state

/-- What is opened from the second is opened from the first. -/
def Narrows (first second : Option JsonObject) : Prop :=
  ∀ state, Opens second state → Opens first state

section
variable {checks : CodecChecks} {hash : RuntimeHash} {statePath hostId : JsString}
  {files : KnownFiles checks hash statePath hostId} {draws : Nat → RuntimeDraw}

/-- The files are known, and a start opens from them what is kept. -/
def Keeps (files : KnownFiles checks hash statePath hostId) (kept : Option JsonObject)
    (disk : RuntimeDisk) : Prop :=
  KnownDisk files disk ∧ ∃ kept', Phase checks hash statePath hostId disk kept' ∧ Narrows kept kept'

/-- The same files, for what was kept before. -/
theorem Keeps.mono {kept kept' : Option JsonObject} (hnarrows : Narrows kept kept')
    (disk : RuntimeDisk) (h : Keeps files kept' disk) : Keeps files kept disk := by
  obtain ⟨hknown, kept'', hphase, hnarrows'⟩ := h
  exact ⟨hknown, kept'', hphase, fun state h => hnarrows state (hnarrows' state h)⟩

theorem Keeps.of_phase {disk : RuntimeDisk} {kept : Option JsonObject}
    (hknown : KnownDisk files disk) (h : Phase checks hash statePath hostId disk kept) :
    Keeps files kept disk :=
  ⟨hknown, kept, h, fun _ hopens => hopens⟩

/-- A program of a start opens the runtime. The files that it leaves are settled, and those at every
point of its trail are some that a start goes on from. -/
def Recovers (files : KnownFiles checks hash statePath hostId) (program : RuntimeProgram JsonObject)
    (w : RuntimeStart) (kept : Option JsonObject) : Prop :=
  ∃ state w', program.run w = (.ok state, w') ∧ Settled checks statePath hostId w'.disk state
    ∧ Opens kept state ∧ Passes (Keeps files kept) w w'

/-- A part of a program that leads to files from which the rest opens the runtime. -/
theorem Recovers.bind {α : Type} {first : RuntimeProgram α} {rest : α → RuntimeProgram JsonObject}
    {w w' : RuntimeStart} {a : α} {kept : Option JsonObject} (hrun : first.run w = (.ok a, w'))
    (hpasses : Passes (Keeps files kept) w w') (hrest : Recovers files (rest a) w' kept) :
    Recovers files (first >>= rest) w kept := by
  obtain ⟨state, w'', hrun', hsettled, hopens, hpasses'⟩ := hrest
  refine ⟨state, w'', ?_, hsettled, hopens, hpasses.trans hpasses'⟩
  rw [run_bind, hrun, next_ok, hrun']

/-! ### The branches of a start -/

theorem preflightRuntime_run {calls : Nat} {w : RuntimeStart} {kept : Option JsonObject}
    (h : Recovers files (preflightBody checks hash statePath hostId draws
      (preflightRuntime checks hash statePath hostId draws calls)) w kept) :
    Recovers files (preflightRuntime checks hash statePath hostId draws (calls + 1)) w kept := by
  obtain ⟨state, w', hrun, hrest⟩ := h
  refine ⟨state, w', ?_, hrest⟩
  show Effect.handle _ ((preflightBody checks hash statePath hostId draws _).run w) = _
  rw [hrun]
  rfl

variable {again : RuntimeProgram JsonObject} {w : RuntimeStart}

theorem preflightBody_migration_run (h : (w.disk.files .migrationIntent).isSome = true) :
    (preflightBody checks hash statePath hostId draws again).run w
      = (resumeRuntimeMigration checks hash statePath hostId >>= fun resumed =>
        Effect.ofExcept (parseCurrentState checks resumed hostId)).run w := by
  unfold preflightBody
  rw [run_bind, pathHasFilesystemEvidence_run, next_ok, h, if_pos rfl]

theorem readFloor_none_run (h : w.disk.files .floor = none) :
    (readFloor statePath hostId).run w = (.ok none, w) := by
  unfold readFloor
  rw [run_bind, readOptionalSecureBytes_run, h]
  rfl

theorem preflightBody_reset_run (hmigration : w.disk.files .migrationIntent = none)
    (hfloor : w.disk.files .floor = none) (hreset : (w.disk.files .resetIntent).isSome = true) :
    (preflightBody checks hash statePath hostId draws again).run w
      = (resumeRuntimeReset checks hash statePath hostId >>= fun resumed =>
        if isNumber 4 (resumed.get? "schemaVersion") then
          Effect.ofExcept (parseCurrentState checks resumed hostId)
        else again).run w := by
  unfold preflightBody
  rw [run_bind, pathHasFilesystemEvidence_run, next_ok, hmigration, Option.isSome_none,
    if_neg Bool.false_ne_true, run_bind, readFloor_none_run hfloor, next_ok, run_bind,
    pathHasFilesystemEvidence_run, next_ok, hreset, if_pos rfl]
  rfl

theorem preflightBody_open_run {floor : Option JsonObject}
    (hmigration : w.disk.files .migrationIntent = none)
    (hfloor : (readFloor statePath hostId).run w = (.ok floor, w))
    (hreset : w.disk.files .resetIntent = none) :
    (preflightBody checks hash statePath hostId draws again).run w
      = (openRuntime checks hash statePath hostId draws again floor).run w := by
  unfold preflightBody
  rw [run_bind, pathHasFilesystemEvidence_run, next_ok, hmigration, Option.isSome_none,
    if_neg Bool.false_ne_true, run_bind, hfloor, next_ok, run_bind, pathHasFilesystemEvidence_run,
    next_ok, hreset, Option.isSome_none, if_neg Bool.false_ne_true]

/-! ### A runtime that is there -/

theorem isCurrentStateRecord_of_parse {state spool current : JsonObject}
    (h : parseCurrentRuntime checks hostId state spool = .ok current) :
    isCurrentStateRecord checks state = true ∧ parseCurrentState checks state hostId = .ok state
      ∧ current = state := by
  obtain ⟨parsed, hstate, h⟩ := bind_eq_ok_iff.mp h
  obtain ⟨_, -, h⟩ := bind_eq_ok_iff.mp h
  obtain ⟨-, h⟩ := check_bind_eq_ok.mp h
  cases h
  have hparsed := hstate
  obtain ⟨hrecord, hstate⟩ := check_bind_eq_ok.mp hstate
  obtain ⟨-, hstate⟩ := check_bind_eq_ok.mp hstate
  cases hstate
  rw [throwIf_eq_ok, Bool.not_eq_false'] at hrecord
  exact ⟨hrecord, hparsed, rfl⟩

theorem readFloor_run {floor : JsonObject} (h : Holds (w.disk.files .floor) floor)
    (hparsed : parseRuntimeSchemaFloor (some floor) statePath hostId = .ok floor) :
    (readFloor statePath hostId).run w = (.ok (some floor), w) := by
  obtain ⟨bytes, hbytes, hreads⟩ := bytesOf_holds h
  unfold readFloor
  simp only [run_bind, readOptionalSecureBytes_run, hbytes, next_ok, Effect.run_ofExcept, hreads _,
    hparsed, Effect.run_pure]

/-- The reads of a start that finds no journal. -/
theorem openRuntime_run {floor : Option JsonObject} {stateBytes spoolBytes : Option FileBytes}
    {stateRecord spoolRecord : Option JsonObject}
    (hstate : bytesOf (w.disk.files .state) = .ok stateBytes)
    (hspool : bytesOf (w.disk.files .spool) = .ok spoolBytes)
    (hstateReads : ReadsAs stateBytes stateRecord) (hspoolReads : ReadsAs spoolBytes spoolRecord) :
    (openRuntime checks hash statePath hostId draws again floor).run w
      = if floor.isSome then (openWithFloor checks hostId stateRecord spoolRecord, w)
        else (openWithoutFloor checks hash statePath hostId draws again stateBytes spoolBytes
          stateRecord spoolRecord).run w := by
  unfold openRuntime
  simp only [run_bind, readOptionalSecureBytes_run, hstate, hspool, next_ok, Effect.run_ofExcept,
    hstateReads _, hspoolReads _]
  split <;> rfl

/-- A settled runtime is opened without a change. -/
theorem settled_run {calls : Nat} {state : JsonObject}
    (h : Settled checks statePath hostId w.disk state) :
    (preflightRuntime checks hash statePath hostId draws (calls + 1)).run w = (.ok state, w) := by
  obtain ⟨floor, hfloor, hparsed⟩ := h.floor
  obtain ⟨spool, hspool, hopened⟩ := h.spool
  obtain ⟨stateBytes, hstateBytes, hstateReads⟩ := bytesOf_holds h.state
  obtain ⟨spoolBytes, hspoolBytes, hspoolReads⟩ := bytesOf_holds hspool
  have hcurrent := (isCurrentStateRecord_of_parse hopened).1
  have hbody : (preflightBody checks hash statePath hostId draws
      (preflightRuntime checks hash statePath hostId draws calls)).run w = _ :=
    preflightBody_open_run h.noMigration (readFloor_run hfloor hparsed) h.noReset
  rw [openRuntime_run hstateBytes hspoolBytes hstateReads hspoolReads, Option.isSome_some,
    if_pos rfl] at hbody
  show Effect.handle _ ((preflightBody checks hash statePath hostId draws _).run w) = _
  rw [hbody]
  have hchecked : openWithFloor checks hostId (some state) (some spool) = .ok state := by
    refine check_bind_eq_ok.mpr ⟨throwIf_eq_ok.mpr ?_, hopened⟩
    rw [Option.getD_some, hcurrent]
    rfl
  rw [hchecked]
  rfl

theorem settled_recovers {calls : Nat} {state : JsonObject}
    (h : Settled checks statePath hostId w.disk state) :
    Recovers files (preflightRuntime checks hash statePath hostId draws (calls + 1)) w
      (some state) :=
  ⟨state, w, settled_run h, h, rfl, .refl w⟩

/-- Every start without a floor reads the two files and goes on by what they are. -/
theorem unsettled_run {calls : Nat} {stateBytes spoolBytes : Option FileBytes}
    {stateRecord spoolRecord : Option JsonObject} {kept : Option JsonObject}
    (h : Unsettled w.disk stateBytes spoolBytes stateRecord spoolRecord)
    (hopens : Recovers files (openWithoutFloor checks hash statePath hostId draws
      (preflightRuntime checks hash statePath hostId draws calls) stateBytes spoolBytes stateRecord
      spoolRecord) w kept) :
    Recovers files (preflightRuntime checks hash statePath hostId draws (calls + 1)) w kept := by
  apply preflightRuntime_run
  obtain ⟨state, w', hrun, hrest⟩ := hopens
  refine ⟨state, w', ?_, hrest⟩
  rw [preflightBody_open_run h.noMigration (readFloor_none_run h.noFloor) h.noReset,
    openRuntime_run h.state h.spool h.stateReads h.spoolReads, Option.isSome_none,
    if_neg Bool.false_ne_true, hrun]

/-- A runtime of the current schema gets its floor. -/
theorem current_recovers {calls : Nat} {stateBytes spoolBytes : Option FileBytes}
    {state spool : JsonObject} (hknown : KnownDisk files w.disk)
    (h : Unsettled w.disk stateBytes spoolBytes (some state) (some spool))
    (hopened : parseCurrentRuntime checks hostId state spool = .ok state) :
    Recovers files (preflightRuntime checks hash statePath hostId draws (calls + 1)) w
      (some state) := by
  obtain ⟨hcurrent, hparsed, -⟩ := isCurrentStateRecord_of_parse hopened
  have hsettled : Settled checks statePath hostId
      (w.disk.with .floor (written (runtimeSchemaFloor statePath hostId))) state := by
    refine ⟨?_, ?_, ⟨_, ?_, parseRuntimeSchemaFloor_runtimeSchemaFloor⟩, ?_, spool, ?_, hopened⟩
    · rw [RuntimeDisk.with_files_of_ne (by decide)]
      exact h.noReset
    · rw [RuntimeDisk.with_files_of_ne (by decide)]
      exact h.noMigration
    · rw [RuntimeDisk.with_files_self]
      exact holds_written _
    · rw [RuntimeDisk.with_files_of_ne (by decide)]
      exact holds_of_reads h.state h.stateReads
    · rw [RuntimeDisk.with_files_of_ne (by decide)]
      exact holds_of_reads h.spool h.spoolReads
  refine unsettled_run h ⟨state, changed w _, ?_, hsettled, rfl,
    .changed (.of_phase ?_ (.settled hsettled))⟩
  · have hfloor : bytesOf (w.disk.files .floor) = .ok none := by rw [h.noFloor]; rfl
    unfold openWithoutFloor
    simp only [Option.isSome_some, Option.getD_some, Bool.true_and, hcurrent, if_true, run_bind,
      Effect.run_ofExcept, hparsed, next_ok, Option.isNone_some, hopened,
      writeSecureJson_run hfloor, Effect.run_pure, throwIf, Bool.false_eq_true, if_false]
    rfl
  · exact hknown.install (.inr (.inr rfl)) files.floor

/-! ### The migration -/

/-- A migration is resumed. -/
theorem migrating_recovers {calls : Nat} {intent : RuntimeMigrationIntentV1}
    (hpath : IsFilePath statePath) (hknown : KnownDisk files w.disk)
    (h : Migrating checks hash statePath hostId w.disk intent) :
    Recovers files (preflightRuntime checks hash statePath hostId draws (calls + 1)) w
      (some intent.stateTarget) := by
  obtain ⟨bytes, record, hstored, hvalue, hversion, hparsed⟩ := h.journal
  obtain ⟨-, htargets⟩ := h.journal.targets
  have hcurrent := (assertMigrationIntentTargets_eq_ok htargets).1
  rw [h.hostId] at hcurrent
  -- on the way the migration can still be finished, and at the end the runtime is settled
  obtain ⟨w', hrun, hsettled, -, hpasses⟩ := finishRuntimeMigration_run hpath hknown h
  apply preflightRuntime_run
  refine ⟨intent.stateTarget, w', ?_, hsettled, rfl, hpasses.mono ?_⟩
  · rw [preflightBody_migration_run (by rw [hstored]; rfl)]
    unfold resumeRuntimeMigration
    simp only [run_bind, readSecureJson_run hstored hvalue, next_ok, recordOf, Option.isNone_some,
      Option.getD_some, Effect.run_ofExcept, throwIf, Bool.false_eq_true, if_false, hversion,
      Bool.not_true, hparsed, h.hostId, ne_eq, not_true_eq_false, decide_false, hrun, hcurrent]
  · rintro disk ⟨hknown', hmigrating | hsettled'⟩
    · exact .of_phase hknown' (.migrating hmigrating)
    · exact .of_phase hknown' (.settled hsettled')

/-- A migration begins. -/
theorem prior_recovers {calls : Nat} {stateBytes spoolBytes : FileBytes} {state spool : JsonObject}
    (hpath : IsFilePath statePath) (hhost : hostId ≠ []) (hknown : KnownDisk files w.disk)
    (h : Unsettled w.disk (some stateBytes) (some spoolBytes) (some state) (some spool))
    (hprior : isPriorRuntimeV3 checks hostId state spool = true) :
    Recovers files (preflightRuntime checks hash statePath hostId draws (calls + 2)) w
      (some (migrationTarget state)) := by
  have hpriors := hprior
  rw [isPriorRuntimeV3, Bool.and_eq_true] at hpriors
  obtain ⟨hstate, hspool⟩ := hpriors
  obtain ⟨hmigrated, hepoch, -⟩ := parseCurrentRuntime_migrated hstate hspool
  obtain ⟨hspoolMigrated, -⟩ := parseCurrentSpoolRecord_migrated hspool
  have hnotCurrent : isCurrentStateRecord checks state = false :=
    not_isCurrentStateRecord (isNumber_of_isPriorStateRecordV3 hstate) (by decide)
  generalize hintent : migrationIntentOf hash statePath hostId (draws w.drawn)
    (migrationTarget state) (spoolMigrationTarget spool) stateBytes spoolBytes = intent
  have hparsed : parseMigrationIntent checks hash intent.toJson statePath = .ok intent := by
    rw [← hintent]
    exact parseMigrationIntent_toJson (isMigrationIntent_migrationIntentOf hpath hhost _ _)
      (assertMigrationIntentTargets_migrationIntentOf hpath hprior)
  have hjournal : HoldsMigrationIntent checks hash statePath (written intent.toJson) intent :=
    ⟨_, intent.toJson, rfl, rfl, rfl, hparsed⟩
  -- the file holds this intent and no other
  have hwritten : ∀ other,
      HoldsMigrationIntent checks hash statePath (written intent.toJson) other →
        other = intent := by
    rintro other ⟨bytes, record, hbytes, hvalue, -, hother⟩
    cases hbytes
    cases hvalue
    exact Except.ok.inj (hother.symm.trans hparsed)
  -- the files are known, and so are the targets
  obtain ⟨_, hsameState, hstateDecoded⟩ := h.stateReads.exists_bytes
  obtain ⟨_, hsameSpool, hspoolDecoded⟩ := h.spoolReads.exists_bytes
  cases hsameState
  cases hsameSpool
  have hknownState := files.migratedState stateBytes state _
    (hknown.members _ (.inl rfl) _ (eq_secure_of_bytesOf h.state)) hstateDecoded hmigrated
  have hknownSpool := files.migratedSpool spoolBytes spool _ _
    (hknown.members _ (.inr (.inl rfl)) _ (eq_secure_of_bytesOf h.spool)) hspoolDecoded
    hspoolMigrated
  have hknown₁ : KnownDisk files (w.disk.with .migrationIntent (written intent.toJson)) := by
    refine hknown.withMigrationIntent fun other hother => ?_
    rw [hwritten other hother, ← hintent]
    exact ⟨hknownState, hknownSpool, files.floor⟩
  have hfile : ∀ file, file ≠ .migrationIntent →
      (w.disk.with .migrationIntent (written intent.toJson)).files file = w.disk.files file :=
    fun file hne => RuntimeDisk.with_files_of_ne hne
  have hmigrating : Migrating checks hash statePath hostId
      (w.disk.with .migrationIntent (written intent.toJson)) intent := by
    refine ⟨?_, ?_, ?_, ?_, ?_, ?_⟩
    · rw [hfile _ (by decide)]
      exact h.noReset
    · rw [RuntimeDisk.with_files_self]
      exact hjournal
    · rw [← hintent]
      rfl
    · rw [← hintent] at hknown₁ hfile ⊢
      have hread := h.state
      rw [← hfile .state (by decide)] at hread
      exact hknown₁.isMember (.inl rfl) hknownState hread (.inl rfl)
    · rw [← hintent] at hknown₁ hfile ⊢
      have hread := h.spool
      rw [← hfile .spool (by decide)] at hread
      exact hknown₁.isMember (.inr (.inl rfl)) hknownSpool hread (.inl rfl)
    · rw [← hintent] at hknown₁ hfile ⊢
      have hread : bytesOf (w.disk.files .floor) = .ok none := by
        rw [h.noFloor]
        rfl
      rw [← hfile .floor (by decide)] at hread
      exact hknown₁.isMember (.inr (.inr rfl)) files.floor hread (.inl rfl)
  have htarget : intent.stateTarget = migrationTarget state := by
    rw [← hintent]
    rfl
  -- from the write of the intent on, it is the run of a migration that is resumed
  let w₁ : RuntimeStart := changed { w with drawn := w.drawn + 1 }
    (w.disk.with .migrationIntent (written intent.toJson))
  obtain ⟨w', hrun, hsettled, hknown', hpasses⟩ :=
    finishRuntimeMigration_run (w := w₁) hpath hknown₁ hmigrating
  rw [htarget] at hsettled
  have hbegin : (beginRuntimeMigration checks hash statePath hostId draws state spool stateBytes
      spoolBytes).run w = (.ok (migrationTarget state), w') := by
    unfold beginRuntimeMigration
    have hexclusive := writeSecureJsonExclusive_run (w := { w with drawn := w.drawn + 1 })
      h.noMigration intent.toJson
    simp only [run_bind, Effect.run_ofExcept, hmigrated, next_ok, hepoch, hspoolMigrated, draw_run,
      hintent, hexclusive]
    exact hrun.trans (by rw [htarget])
  refine unsettled_run h ?_
  unfold openWithoutFloor
  simp only [Option.isSome_some, Option.getD_some, Bool.true_and, hnotCurrent, Bool.false_eq_true,
    if_false, hprior, if_true]
  refine Recovers.bind hbegin ?_ (settled_recovers hsettled)
  rw [← htarget]
  have hstep : Passes (Keeps files (some intent.stateTarget)) w w₁ :=
    .changed (.of_phase hknown₁ (.migrating hmigrating))
  refine hstep.trans (hpasses.mono ?_)
  rintro disk ⟨hknownDisk, hon | hdone⟩
  · exact .of_phase hknownDisk (.migrating hon)
  · exact .of_phase hknownDisk (.settled hdone)

/-! ### The reset -/

theorem IsReplaced.schemas {stateRecord spoolRecord : Option JsonObject} {fromSchema toSchema : Int}
    (h : IsReplaced checks hostId stateRecord spoolRecord fromSchema toSchema) :
    (fromSchema = 1 ∧ toSchema = 2) ∨ (fromSchema = 2 ∧ toSchema = 3) := by
  cases h with
  | empty => exact .inr ⟨rfl, rfl⟩
  | obsolete _ => exact .inr ⟨rfl, rfl⟩
  | legacy _ _ => exact .inl ⟨rfl, rfl⟩

/-- The epoch of a spool may be compared with the one of the state, or with its own. -/
theorem isSpoolRecordForSchema_mono {spool : JsonObject} {schemaVersion : Int}
    {isEpoch : JsValue → Bool}
    (h : isSpoolRecordForSchema spool schemaVersion hostId isEpoch = true) :
    isSpoolRecordForSchema spool schemaVersion hostId (fun _ => true) = true := by
  simp only [isSpoolRecordForSchema, Bool.and_eq_true] at h ⊢
  exact ⟨⟨⟨⟨h.1.1.1.1, trivial⟩, h.1.1.2⟩, h.1.2⟩, h.2⟩

/-- What is replaced passes the checks of the sources. -/
theorem IsReplaced.sources {stateRecord spoolRecord : Option JsonObject} {fromSchema toSchema : Int}
    (h : IsReplaced checks hostId stateRecord spoolRecord fromSchema toSchema) :
    (∀ state, stateRecord = some state →
        (if fromSchema = 1 then isRecognizedPriorStateRecord state hostId
          else isObsoleteStateRecord checks state hostId) = true)
      ∧ (∀ spool, spoolRecord = some spool →
        (if fromSchema = 1 then isRecognizedPriorSpoolRecord spool hostId
          else isSpoolRecordForSchema spool fromSchema hostId fun _ => true) = true)
      ∧ ∀ state spool, stateRecord = some state → spoolRecord = some spool →
        hasResetSourceRelationships checks fromSchema state spool hostId = true := by
  cases h with
  | empty => exact ⟨nofun, nofun, nofun⟩
  | @obsolete state spool h =>
    have hparts := h
    simp only [isRecognizedObsoleteRuntime, Bool.and_eq_true] at hparts
    refine ⟨fun _ hstate => ?_, fun _ hspool => ?_, fun _ _ hstate hspool => ?_⟩
    · cases hstate
      exact hparts.1.1
    · cases hspool
      exact isSpoolRecordForSchema_mono hparts.1.2
    · cases hstate
      cases hspool
      exact h
  | legacy hsome h =>
    simp only [isRecognizedLegacyRuntime, Bool.and_eq_true, Option.all_eq_true] at h
    refine ⟨fun state hstate => h.1.1 state hstate, fun spool hspool => h.1.2 spool hspool,
      fun state spool hstate hspool => h.2 state hstate spool hspool⟩

/-- The sources of a reset that begins are members. -/
theorem assertRuntimeResetMembers_sources {disk : RuntimeDisk} {intent : RuntimeResetIntentV1}
    {stateBytes spoolBytes : Option FileBytes} {stateRecord spoolRecord : Option JsonObject}
    {fromSchema toSchema : Int}
    (hreplaced : IsReplaced checks hostId stateRecord spoolRecord fromSchema toSchema)
    (hfrom : intent.fromSchemaVersion = fromSchema) (hto : intent.toSchemaVersion = toSchema)
    (hhost : intent.hostId = hostId)
    (hstateSource : intent.stateSourceHash = hashOptional hash stateBytes)
    (hspoolSource : intent.spoolSourceHash = hashOptional hash spoolBytes)
    (htargets : assertRuntimeResetTargets checks hash intent = .ok ())
    (hstate : bytesOf (disk.files .state) = .ok stateBytes)
    (hspool : bytesOf (disk.files .spool) = .ok spoolBytes)
    (hstateReads : ReadsAs stateBytes stateRecord) (hspoolReads : ReadsAs spoolBytes spoolRecord)
    (hstateMember : IsMember hash intent.stateSourceHash intent.stateTarget (disk.files .state))
    (hspoolMember : IsMember hash intent.spoolSourceHash intent.spoolTarget (disk.files .spool)) :
    AreMembers checks hash disk intent := by
  obtain ⟨hstateHash, hspoolHash, -⟩ := assertRuntimeResetTargets_eq_ok htargets
  obtain ⟨hstateOk, hspoolOk, hrelated⟩ := hreplaced.sources
  refine ⟨stateBytes, spoolBytes, hstate, hspool, assertRuntimeResetMembers_eq_ok.mpr
    ⟨?_, ?_, fun _ _ hstateThere hspoolThere => ?_⟩⟩
  · obtain ⟨bytes, hbytes, -, htarget⟩ := hstateMember
    obtain rfl : stateBytes = bytes := Except.ok.inj (hstate.symm.trans hbytes)
    by_cases hsame : hashOptional hash stateBytes = intent.stateTargetHash
    · -- the source is the target
      rw [htarget (hsame.trans hstateHash.symm)] at hstate
      cases hstate
      exact assertResetStateMember_target htargets
    · refine check_bind_eq_ok.mpr ⟨by simp [assertResetMemberHash, hstateSource], ?_⟩
      rw [if_neg hsame]
      split
      · next hthere =>
        cases stateRecord with
        | none =>
          rw [hstateReads.eq_none] at hthere
          cases hthere
        | some state =>
          refine bind_eq_ok_iff.mpr ⟨_, hstateReads _, throwIf_eq_ok.mpr ?_⟩
          have hsource := hstateOk state rfl
          rw [← hfrom, ← hhost] at hsource
          rw [Bool.not_eq_false']
          exact hsource
      · rfl
  · obtain ⟨bytes, hbytes, -, htarget⟩ := hspoolMember
    obtain rfl : spoolBytes = bytes := Except.ok.inj (hspool.symm.trans hbytes)
    by_cases hsame : hashOptional hash spoolBytes = intent.spoolTargetHash
    · rw [htarget (hsame.trans hspoolHash.symm)] at hspool
      cases hspool
      refine assertResetSpoolMember_target ?_ htargets
      rw [hto]
      exact hreplaced.schemas.imp And.right And.right
    · refine check_bind_eq_ok.mpr ⟨by simp [assertResetMemberHash, hspoolSource], ?_⟩
      rw [if_neg hsame]
      split
      · next hthere =>
        cases spoolRecord with
        | none =>
          rw [hspoolReads.eq_none] at hthere
          cases hthere
        | some spool =>
          refine bind_eq_ok_iff.mpr ⟨_, hspoolReads _, throwIf_eq_ok.mpr ?_⟩
          have hsource := hspoolOk spool rfl
          rw [← hfrom, ← hhost] at hsource
          rw [Bool.not_eq_false']
          exact hsource
      · rfl
  · refine ⟨stateRecord, spoolRecord, hstateReads _, hspoolReads _, ?_⟩
    cases stateRecord with
    | none =>
      rw [hstateReads.eq_none] at hstateThere
      cases hstateThere
    | some state =>
      cases spoolRecord with
      | none =>
        rw [hspoolReads.eq_none] at hspoolThere
        cases hspoolThere
      | some spool =>
        rw [hfrom, hhost]
        exact hrelated state spool rfl rfl

/-- The files that a reset to schema 3 leaves are those of a runtime that is migrated. -/
theorem ResetDone.prior {disk : RuntimeDisk} {intent : RuntimeResetIntentV1}
    (h : ResetDone disk intent) (hhost : intent.hostId = hostId)
    (htargets : assertRuntimeResetTargets checks hash intent = .ok ())
    (hto : intent.toSchemaVersion = 3) :
    Unsettled disk (some (serializeSecureJson intent.stateTarget))
        (some (serializeSecureJson intent.spoolTarget)) (some intent.stateTarget)
        (some intent.spoolTarget)
      ∧ isPriorRuntimeV3 checks hostId intent.stateTarget intent.spoolTarget = true
      ∧ IsFresh (migrationTarget intent.stateTarget) := by
  obtain ⟨-, -, hprior, -⟩ := assertRuntimeResetTargets_eq_ok htargets
  obtain ⟨hstate, hspool⟩ := hprior hto
  have hepoch : textIn intent.stateTarget "runtimeResetEpoch" = intent.epoch := by
    unfold RuntimeResetIntentV1.stateTarget textIn
    rw [get?_emptyStateForSchema_epoch]
    rfl
  refine ⟨⟨h.noReset, h.noMigration, h.noFloor, ?_, ?_, readsAs_written _, readsAs_written _⟩, ?_,
    intent.epoch, ?_, ?_⟩
  · rw [h.state]
    rfl
  · rw [h.spool]
    rfl
  · rw [isPriorRuntimeV3, hepoch, ← hhost, hstate, hspool]
    rfl
  · simp only [isPriorStateRecordV3, areCommonFields, Bool.and_eq_true] at hstate
    have hread := hstate.1.1.1.1.1.1.2.1.1.1.1.1.1.2
    unfold RuntimeResetIntentV1.stateTarget at hread
    rwa [get?_emptyStateForSchema_epoch] at hread
  · unfold RuntimeResetIntentV1.stateTarget
    rw [hto]

/-- The files that a reset to schema 2 leaves are those of a runtime that is replaced. -/
theorem ResetDone.replaced {disk : RuntimeDisk} {intent : RuntimeResetIntentV1}
    (h : ResetDone disk intent) (hhost : intent.hostId = hostId)
    (htargets : assertRuntimeResetTargets checks hash intent = .ok ())
    (hto : intent.toSchemaVersion = 2) :
    Unsettled disk (some (serializeSecureJson intent.stateTarget))
        (some (serializeSecureJson intent.spoolTarget)) (some intent.stateTarget)
        (some intent.spoolTarget)
      ∧ IsReplaced checks hostId (some intent.stateTarget) (some intent.spoolTarget) 2 3
      ∧ LoadsKey disk (some intent.spoolTarget) := by
  obtain ⟨-, -, -, hobsolete⟩ := assertRuntimeResetTargets_eq_ok htargets
  obtain ⟨hstate, hspool⟩ := hobsolete (by rw [hto]; decide)
  have hepoch : textIn intent.stateTarget "runtimeResetEpoch" = intent.epoch := by
    unfold RuntimeResetIntentV1.stateTarget textIn
    rw [get?_emptyStateForSchema_epoch]
    rfl
  obtain ⟨key, hkey, hkeyId⟩ := h.key
  refine ⟨⟨h.noReset, h.noMigration, h.noFloor, ?_, ?_, readsAs_written _, readsAs_written _⟩,
    .obsolete ?_, ?_⟩
  · rw [h.state]
    rfl
  · rw [h.spool]
    rfl
  · rw [isRecognizedObsoleteRuntime, hepoch, ← hhost, hstate, hspool, Bool.true_and, Bool.true_and]
    unfold RuntimeResetIntentV1.stateTarget RuntimeResetIntentV1.spoolTarget
    exact hasRecognizedPriorRuntimeRelationships_empty _
  · unfold LoadsKey
    rw [hkey]
    rintro spool hsame -
    cases hsame
    simp [RuntimeResetIntentV1.spoolTarget, spoolFileForSchema, get?_objectLiteral_some, textOf,
      hkeyId]

theorem ResetDone.keeps {disk : RuntimeDisk} {intent : RuntimeResetIntentV1}
    (hknown : KnownDisk files disk) (h : ResetDone disk intent) (hhost : intent.hostId = hostId)
    (htargets : assertRuntimeResetTargets checks hash intent = .ok ())
    (hto : intent.toSchemaVersion = 2 ∨ intent.toSchemaVersion = 3) : Keeps files none disk := by
  rcases hto with hto | hto
  · obtain ⟨hunsettled, hreplaced, hkey⟩ := ResetDone.replaced h hhost htargets hto
    exact .of_phase hknown (.replaced hunsettled hreplaced hkey)
  · obtain ⟨hunsettled, hprior, hfresh⟩ := ResetDone.prior h hhost htargets hto
    exact ⟨hknown, _, .prior hunsettled hprior, fun _ hopens => hopens ▸ hfresh⟩

/-- Another key, as long as it is loaded, leaves the runtime to replace as it is. -/
theorem Unsettled.withKey {disk : RuntimeDisk} {stateBytes spoolBytes : Option FileBytes}
    {stateRecord spoolRecord : Option JsonObject} (key : SpoolKey)
    (h : Unsettled disk stateBytes spoolBytes stateRecord spoolRecord) :
    Unsettled { disk with spoolKey := key } stateBytes spoolBytes stateRecord spoolRecord :=
  ⟨h.noReset, h.noMigration, h.noFloor, h.state, h.spool, h.stateReads, h.spoolReads⟩

/-- The key of a reset is loaded or created. What is there is replaced as before. -/
theorem loadOrCreate_run {created : SpoolKeyId} {stateBytes spoolBytes : Option FileBytes}
    {stateRecord spoolRecord : Option JsonObject} {fromSchema toSchema : Int}
    (hknown : KnownDisk files w.disk) (hcreated : files.keys created)
    (h : Unsettled w.disk stateBytes spoolBytes stateRecord spoolRecord)
    (hreplaced : IsReplaced checks hostId stateRecord spoolRecord fromSchema toSchema)
    (hkey : LoadsKey w.disk spoolRecord) :
    ∃ key w', (loadOrCreate (if spoolBytes.isNone then some created else none)).run w
        = (.ok key, w')
      ∧ files.keys key ∧ w'.disk = { w.disk with spoolKey := .present key }
      ∧ (∀ spool, spoolRecord = some spool → isNumber 2 (spool.get? "version") = true →
        textOf (spool.get? "keyId") = some key.val)
      ∧ KnownDisk files w'.disk
      ∧ Passes (Keeps files none) w w' := by
  obtain ⟨⟨diskFiles, spoolKey⟩, trail, drawn⟩ := w
  -- whatever write of the key is the last, a start replaces the runtime as before
  have hstay : ∀ key : SpoolKey, (∀ id, key = .present id ∨ key = .unrecorded id → files.keys id) →
      LoadsKey ⟨diskFiles, key⟩ spoolRecord → Keeps files none ⟨diskFiles, key⟩ :=
    fun _ hkeys hloads =>
      .of_phase (hknown.withKey hkeys) (.replaced (h.withKey _) hreplaced hloads)
  have hnoSpool : spoolRecord = none → spoolBytes = none := by
    rintro rfl
    exact h.spoolReads.eq_none
  cases spoolKey with
  | unreadable => cases hkey
  | present key =>
    exact ⟨key, _, rfl, hknown.key key (.inl rfl), rfl, hkey, hknown, .refl _⟩
  | unrecorded key =>
    have hkeys : files.keys key := hknown.key key (.inr rfl)
    have hnone : spoolRecord = none := hkey
    subst hnone
    rw [hnoSpool rfl, Option.isNone_none, if_pos rfl]
    have hpresent : ∀ id,
        SpoolKey.present key = .present id ∨ SpoolKey.present key = .unrecorded id →
          files.keys id := by
      rintro id (hid | hid)
      · cases hid
        exact hkeys
      · cases hid
    have hstays := hstay (.present key) hpresent fun _ hspool => nomatch hspool
    exact ⟨key, _, rfl, hkeys, rfl, (fun _ hspool => nomatch hspool), hstays.1, .changed hstays⟩
  | missing =>
    have hnone : spoolRecord = none := hkey
    subst hnone
    rw [hnoSpool rfl, Option.isNone_none, if_pos rfl]
    have hkeys : ∀ key : SpoolKey, key = .present created ∨ key = .unrecorded created →
        ∀ id, key = .present id ∨ key = .unrecorded id → files.keys id := by
      rintro key (rfl | rfl) id (hid | hid) <;> cases hid
      · exact hcreated
      · exact hcreated
    have hunrecorded := hstay _ (hkeys (.unrecorded created) (.inr rfl)) rfl
    have hpresent := hstay _ (hkeys (.present created) (.inl rfl)) fun _ hspool => nomatch hspool
    exact ⟨created, _, rfl, hcreated, rfl, (fun _ hspool => nomatch hspool), hpresent.1,
      (Passes.changed hunrecorded).trans (Passes.changed hpresent)⟩

/-- A reset begins, and is finished. -/
theorem beginRuntimeReset_run {stateBytes spoolBytes : Option FileBytes}
    {stateRecord spoolRecord : Option JsonObject} {fromSchema toSchema : Int}
    (hpath : IsFilePath statePath) (hhost : hostId ≠ [])
    (hdate : ∀ text, isCanonicalTimestampString text = true → checks.isFiniteDate text = true)
    (hdraws : KnownDraws files draws) (hknown : KnownDisk files w.disk)
    (h : Unsettled w.disk stateBytes spoolBytes stateRecord spoolRecord)
    (hreplaced : IsReplaced checks hostId stateRecord spoolRecord fromSchema toSchema)
    (hkey : LoadsKey w.disk spoolRecord) :
    ∃ intent w', (beginRuntimeReset checks hash statePath hostId draws stateBytes spoolBytes
        fromSchema toSchema).run w = (.ok intent.stateTarget, w')
      ∧ intent.toSchemaVersion = toSchema ∧ intent.hostId = hostId
      ∧ assertRuntimeResetTargets checks hash intent = .ok ()
      ∧ ResetDone w'.disk intent ∧ KnownDisk files w'.disk
      ∧ Passes (Keeps files none) w w' := by
  obtain ⟨hcreated, hempty⟩ := hdraws w.drawn
  obtain ⟨key, w₁, hload, hkeyKnown, hdisk₁, hkeyId, hknown₁, hpasses₁⟩ :=
    loadOrCreate_run (w := { w with drawn := w.drawn + 1 }) hknown hcreated h
      hreplaced hkey
  generalize hintent : resetIntentOf hash statePath hostId (draws w.drawn) key fromSchema toSchema
    stateBytes spoolBytes = intent
  have hschemas := hreplaced.schemas
  have htargets : assertRuntimeResetTargets checks hash intent = .ok () := by
    rw [← hintent]
    exact assertRuntimeResetTargets_resetIntentOf hschemas
  have hparsed : parseResetIntent checks (.object intent.toJson) = .ok intent := by
    rw [← hintent]
    exact parseResetIntent_toJson (isResetIntent_resetIntentOf hpath hhost
      (hdate _ (draws w.drawn).isTimestamp) hschemas)
  have hwritten : ∀ other, HoldsResetIntent checks (written intent.toJson) other →
      other = intent := by
    rintro other ⟨bytes, value, hbytes, hvalue, hother⟩
    cases hbytes
    cases hvalue
    exact Except.ok.inj (hother.symm.trans hparsed)
  obtain ⟨hknownState, hknownSpools⟩ := hempty toSchema (hschemas.imp And.right And.right)
  have hknownSpool := hknownSpools key hkeyKnown
  have hknown₂ : KnownDisk files (w₁.disk.with .resetIntent (written intent.toJson)) := by
    refine hknown₁.withResetIntent fun other hother => ?_
    rw [hwritten other hother, ← hintent]
    exact ⟨hknownState, hknownSpool⟩
  -- the members are still the sources
  have hfile : ∀ file, file ≠ .resetIntent →
      (w₁.disk.with .resetIntent (written intent.toJson)).files file = w.disk.files file := by
    intro file hne
    rw [RuntimeDisk.with_files_of_ne hne, hdisk₁]
  have hstate : bytesOf ((w₁.disk.with .resetIntent (written intent.toJson)).files .state)
      = .ok stateBytes := by
    rw [hfile _ (by decide)]
    exact h.state
  have hspool : bytesOf ((w₁.disk.with .resetIntent (written intent.toJson)).files .spool)
      = .ok spoolBytes := by
    rw [hfile _ (by decide)]
    exact h.spool
  have hresetting : Resetting checks hash statePath hostId
      (w₁.disk.with .resetIntent (written intent.toJson)) intent := by
    have hstateMember : IsMember hash intent.stateSourceHash intent.stateTarget
        ((w₁.disk.with .resetIntent (written intent.toJson)).files .state) := by
      refine hknown₂.isMember (.inl rfl) ?_ hstate (.inl ?_)
      · rw [← hintent]
        exact hknownState
      · rw [← hintent]
        rfl
    have hspoolMember : IsMember hash intent.spoolSourceHash intent.spoolTarget
        ((w₁.disk.with .resetIntent (written intent.toJson)).files .spool) := by
      refine hknown₂.isMember (.inr (.inl rfl)) ?_ hspool (.inl ?_)
      · rw [← hintent]
        exact hknownSpool
      · rw [← hintent]
        rfl
    refine ⟨⟨?_, ?_, key, ?_, ?_⟩, ⟨_, _, RuntimeDisk.with_files_self, rfl, hparsed⟩, ?_, ?_,
      htargets, hstateMember, hspoolMember, ?_⟩
    · rw [hfile _ (by decide)]
      exact h.noMigration
    · rw [hfile _ (by decide)]
      exact h.noFloor
    · rw [RuntimeDisk.with_spoolKey, hdisk₁]
    · rw [← hintent]
      rfl
    · rw [← hintent]
      rfl
    · rw [← hintent]
      exact assertResetIntentPaths_resetIntentOf hpath
    · refine assertRuntimeResetMembers_sources hreplaced ?_ ?_ ?_ ?_ ?_ htargets hstate hspool
        h.stateReads h.spoolReads hstateMember hspoolMember
      all_goals
        rw [← hintent]
        rfl
  -- from the write of the intent on, it is the run of a reset that is resumed
  obtain ⟨w', hrun, hdone, hknown', hpasses⟩ :=
    finishRuntimeReset_run (w := changed w₁ (w₁.disk.with .resetIntent (written intent.toJson)))
      hknown₂ hresetting
  have hsame : intent.toSchemaVersion = toSchema ∧ intent.hostId = hostId := by
    rw [← hintent]
    exact ⟨rfl, rfl⟩
  refine ⟨intent, w', ?_, hsame.1, hsame.2, htargets, hdone, hknown', ?_⟩
  · have hmismatch : (spoolRecord.any fun spool => isNumber 2 (spool.get? "version")
        && decide (textOf (spool.get? "keyId") ≠ some key.val)) = false := by
      cases spoolRecord with
      | none => rfl
      | some spool =>
        rw [Option.any_some, Bool.and_eq_false_imp, decide_eq_false_iff_not, not_not]
        exact hkeyId spool rfl
    have hexclusive : (writeSecureJsonExclusive .resetIntent intent.toJson).run w₁ = _ :=
      writeSecureJsonExclusive_run (by rw [hdisk₁]; exact h.noReset) intent.toJson
    unfold beginRuntimeReset
    simp only [run_bind, draw_run, next_ok, hload, Effect.run_ofExcept, h.spoolReads _, hmismatch,
      throwIf, Bool.false_eq_true, if_false, hintent, hexclusive]
    exact hrun
  · have hstart : Passes (Keeps files none) w w₁ := hpasses₁
    refine hstart.trans (Passes.trans (Passes.changed (.of_phase hknown₂ (.resetting hresetting)))
      (hpasses.mono ?_))
    rintro disk ⟨hknownDisk, hon | hended⟩
    · exact .of_phase hknownDisk (.resetting hon)
    · exact ResetDone.keeps hknownDisk hended hsame.2 htargets
        (hsame.1 ▸ hschemas.imp And.right And.right)

/-! ### Every phase -/

theorem Recovers.mono {program : RuntimeProgram JsonObject} {kept kept' : Option JsonObject}
    (hnarrows : Narrows kept kept') (h : Recovers files program w kept') :
    Recovers files program w kept := by
  obtain ⟨state, w', hrun, hsettled, hopens, hpasses⟩ := h
  exact ⟨state, w', hrun, hsettled, hnarrows state hopens, hpasses.mono (Keeps.mono hnarrows)⟩

/-- The version of a state that is replaced is the one that the reset names. -/
theorem IsReplaced.version {state : JsonObject} {spoolRecord : Option JsonObject}
    {number fromSchema toSchema : Int}
    (h : IsReplaced checks hostId (some state) spoolRecord fromSchema toSchema)
    (hnumber : isNumber number (state.get? "schemaVersion") = true) : number = fromSchema := by
  cases h with
  | obsolete h =>
    simp only [isRecognizedObsoleteRuntime, Bool.and_eq_true] at h
    exact isNumber_unique hnumber (isNumber_of_isObsoleteStateRecord h.1.1)
  | legacy hsome h =>
    simp only [isRecognizedLegacyRuntime, Bool.and_eq_true, Option.all_some] at h
    have hrecord := h.1.1
    simp only [isRecognizedPriorStateRecord, Bool.and_eq_true] at hrecord
    -- a state of schema 1 may leave the version out
    have hone := hrecord.1.1.1.1.1.1.1.1.1.1.1.1.1.1.1.1.1.1.2
    rw [optionally, Bool.or_eq_true] at hone
    rcases hone with hnone | hone
    · rw [Option.isNone_iff_eq_none] at hnone
      rw [hnone] at hnumber
      cases hnumber
    · exact isNumber_unique hnumber hone

/-- No check of another version accepts a state that is replaced. -/
theorem IsReplaced.rejected {state : JsonObject} {spoolRecord : Option JsonObject}
    {fromSchema toSchema : Int} (number : Int)
    (h : IsReplaced checks hostId (some state) spoolRecord fromSchema toSchema)
    {accepted : Bool} (hne : number ≠ fromSchema)
    (hcheck : accepted = true → isNumber number (state.get? "schemaVersion") = true) :
    accepted = false := by
  rw [Bool.eq_false_iff]
  intro haccepted
  exact hne (h.version (hcheck haccepted))

/-- What a start without a floor does with a runtime to replace. -/
theorem openWithoutFloor_replaced {stateBytes spoolBytes : Option FileBytes}
    {stateRecord spoolRecord : Option JsonObject} {fromSchema toSchema : Int}
    (h : IsReplaced checks hostId stateRecord spoolRecord fromSchema toSchema) :
    openWithoutFloor checks hash statePath hostId draws again stateBytes spoolBytes stateRecord
        spoolRecord
      = beginRuntimeReset checks hash statePath hostId draws stateBytes spoolBytes fromSchema
          toSchema >>= fun _ => again := by
  -- the earlier branches ask for a state of schema 4 or 3
  have hrejected : ∀ state, stateRecord = some state →
      isCurrentStateRecord checks state = false
        ∧ isPriorStateRecordV3 checks state hostId = false := by
    rintro state rfl
    have hfrom : fromSchema = 1 ∨ fromSchema = 2 := h.schemas.imp And.left And.left
    exact ⟨h.rejected 4 (by omega) isNumber_of_isCurrentStateRecord,
      h.rejected 3 (by omega) isNumber_of_isPriorStateRecordV3⟩
  unfold openWithoutFloor
  cases h with
  | empty => rfl
  | @obsolete state spool h =>
    obtain ⟨hcurrent, hprior⟩ := hrejected state rfl
    simp only [Option.isSome_some, Option.getD_some, Bool.true_and, hcurrent, Bool.false_eq_true,
      if_false, isPriorRuntimeV3, hprior, Bool.false_and, Option.isNone_some, h, if_true]
  | legacy hsome h =>
    have hthere : (stateRecord.isNone && spoolRecord.isNone) = false := by
      rw [Bool.and_eq_false_iff, Option.isNone_eq_false_iff, Option.isNone_eq_false_iff]
      exact hsome
    cases stateRecord with
    | none =>
      simp only [Option.isSome_none, Bool.false_and, hthere, h, Bool.false_eq_true, if_false,
        if_true]
    | some state =>
      obtain ⟨hcurrent, hprior⟩ := hrejected state rfl
      have hlegacy : IsReplaced checks hostId (some state) spoolRecord 1 2 := .legacy hsome h
      have hobsolete : isObsoleteStateRecord checks state hostId = false :=
        hlegacy.rejected 2 (by decide) isNumber_of_isObsoleteStateRecord
      simp only [Option.getD_some, hcurrent, isPriorRuntimeV3, hprior, isRecognizedObsoleteRuntime,
        hobsolete, Bool.false_and, Bool.and_false, hthere, h, Bool.false_eq_true, if_false, if_true]

section
variable (hpath : IsFilePath statePath) (hhost : hostId ≠ [])
  (hdate : ∀ text, isCanonicalTimestampString text = true → checks.isFiniteDate text = true)
  (hdraws : KnownDraws files draws)
include hpath hhost

/-- A start goes on after a reset to schema 3. -/
theorem resetDone_recovers {calls : Nat} {intent : RuntimeResetIntentV1}
    (hknown : KnownDisk files w.disk) (h : ResetDone w.disk intent)
    (hintent : intent.hostId = hostId)
    (htargets : assertRuntimeResetTargets checks hash intent = .ok ())
    (hto : intent.toSchemaVersion = 3) :
    Recovers files (preflightRuntime checks hash statePath hostId draws (calls + 2)) w none := by
  obtain ⟨hunsettled, hprior, hfresh⟩ := ResetDone.prior h hintent htargets hto
  -- the reset left a runtime of schema 3, and this one is migrated
  refine Recovers.mono (fun state hopens => ?_)
    (prior_recovers hpath hhost hknown hunsettled hprior)
  rw [show state = _ from hopens]
  exact hfresh

include hdate hdraws

/-- A runtime without files or of schema 2 is replaced by an empty one of schema 3. -/
theorem replaced_recovers {calls : Nat} {stateBytes spoolBytes : Option FileBytes}
    {stateRecord spoolRecord : Option JsonObject} (hknown : KnownDisk files w.disk)
    (h : Unsettled w.disk stateBytes spoolBytes stateRecord spoolRecord)
    (hreplaced : IsReplaced checks hostId stateRecord spoolRecord 2 3)
    (hkey : LoadsKey w.disk spoolRecord) :
    Recovers files (preflightRuntime checks hash statePath hostId draws (calls + 3)) w none := by
  obtain ⟨intent, w', hrun, hto, hintent, htargets, hdone, hknown', hpasses⟩ :=
    beginRuntimeReset_run hpath hhost hdate hdraws hknown h hreplaced hkey
  refine unsettled_run h ?_
  rw [openWithoutFloor_replaced hreplaced]
  exact Recovers.bind hrun hpasses
    (resetDone_recovers hpath hhost hknown' hdone hintent htargets hto)

/-- A start goes on after any reset. -/
theorem resetDone_recovers' {calls : Nat} {intent : RuntimeResetIntentV1}
    (hknown : KnownDisk files w.disk) (h : ResetDone w.disk intent)
    (hintent : intent.hostId = hostId)
    (htargets : assertRuntimeResetTargets checks hash intent = .ok ())
    (hto : intent.toSchemaVersion = 2 ∨ intent.toSchemaVersion = 3) :
    Recovers files (preflightRuntime checks hash statePath hostId draws (calls + 3)) w none := by
  rcases hto with hto | hto
  · obtain ⟨hunsettled, hreplaced, hkey⟩ := ResetDone.replaced h hintent htargets hto
    exact replaced_recovers hpath hhost hdate hdraws hknown hunsettled hreplaced hkey
  · exact resetDone_recovers hpath hhost hknown h hintent htargets hto

/-- A runtime of schema 1 is replaced by an empty one of schema 2, and this one in turn. -/
theorem legacy_recovers {calls : Nat} {stateBytes spoolBytes : Option FileBytes}
    {stateRecord spoolRecord : Option JsonObject} (hknown : KnownDisk files w.disk)
    (h : Unsettled w.disk stateBytes spoolBytes stateRecord spoolRecord)
    (hreplaced : IsReplaced checks hostId stateRecord spoolRecord 1 2)
    (hkey : LoadsKey w.disk spoolRecord) :
    Recovers files (preflightRuntime checks hash statePath hostId draws (calls + 4)) w none := by
  -- one call for this reset, and three for the runtime of schema 2 that it leaves
  obtain ⟨intent, w', hrun, hto, hintent, htargets, hdone, hknown', hpasses⟩ :=
    beginRuntimeReset_run hpath hhost hdate hdraws hknown h hreplaced hkey
  refine unsettled_run h ?_
  rw [openWithoutFloor_replaced hreplaced]
  exact Recovers.bind hrun hpasses
    (resetDone_recovers' hpath hhost hdate hdraws hknown' hdone hintent htargets (.inl hto))

/-- A reset is resumed. -/
theorem resetting_recovers {calls : Nat} {intent : RuntimeResetIntentV1}
    (hknown : KnownDisk files w.disk)
    (h : Resetting checks hash statePath hostId w.disk intent) :
    Recovers files (preflightRuntime checks hash statePath hostId draws (calls + 4)) w none := by
  obtain ⟨bytes, value, hstored, hvalue, hparsed⟩ := h.journal
  obtain ⟨stateBytes, spoolBytes, hstate, hspool, hmembers⟩ := h.members
  obtain ⟨key, hkey, hkeyId⟩ := h.key
  have hschemas := h.journal.schemas.imp And.right And.right
  obtain ⟨w', hrun, hdone, hknown', hpasses⟩ := finishRuntimeReset_run hknown h
  have hload : (loadOrCreate none).run w = (.ok key, w) := by
    unfold loadOrCreate
    rw [run_bind]
    show Effect.next _ (.ok w, w) = _
    rw [next_ok, hkey]
    rfl
  have hresumed : (resumeRuntimeReset checks hash statePath hostId).run w
      = (.ok intent.stateTarget, w') := by
    unfold resumeRuntimeReset
    simp only [run_bind, readSecureJson_run hstored hvalue, next_ok, Effect.run_ofExcept, hparsed,
      h.hostId, h.paths, h.targets, readOptionalSecureBytes_run, hstate, hspool, hmembers, hload,
      hkeyId, throwIf, ne_eq, not_true_eq_false, decide_false, Bool.false_eq_true, if_false, hrun]
  -- the target is of schema 2 or 3, so the start goes on
  have hversion : isNumber 4 (intent.stateTarget.get? "schemaVersion") = false := by
    unfold RuntimeResetIntentV1.stateTarget emptyStateForSchema
    rw [get?_objectLiteral_some, if_pos rfl]
    rcases hschemas with hto | hto <;> rw [hto] <;> decide
  apply preflightRuntime_run
  have hbody : ∀ again : RuntimeProgram JsonObject,
      (preflightBody checks hash statePath hostId draws again).run w
        = (resumeRuntimeReset checks hash statePath hostId >>= fun resumed =>
          if isNumber 4 (resumed.get? "schemaVersion") then
            Effect.ofExcept (parseCurrentState checks resumed hostId)
          else again).run w := fun again =>
    preflightBody_reset_run h.noMigration h.noFloor (by rw [hstored]; rfl)
  have hrest : Recovers files (preflightRuntime checks hash statePath hostId draws (calls + 3)) w'
      none :=
    resetDone_recovers' hpath hhost hdate hdraws hknown' hdone h.hostId h.targets hschemas
  obtain ⟨state, w'', hran, hsettled, hopens, hpasses'⟩ := hrest
  refine ⟨state, w'', ?_, hsettled, hopens, (hpasses.mono ?_).trans hpasses'⟩
  · rw [hbody, run_bind, hresumed, next_ok, hversion, if_neg Bool.false_ne_true]
    exact hran
  · rintro disk ⟨hknownDisk, hon | hended⟩
    · exact .of_phase hknownDisk (.resetting hon)
    · exact ResetDone.keeps hknownDisk hended h.hostId h.targets hschemas

/-- Four calls are enough for a start to open any runtime that it goes on from. -/
theorem phase_recovers {calls : Nat} {kept : Option JsonObject} (hknown : KnownDisk files w.disk)
    (h : Phase checks hash statePath hostId w.disk kept) :
    Recovers files (preflightRuntime checks hash statePath hostId draws (calls + 4)) w kept := by
  cases h with
  | settled h => exact settled_recovers h
  | migrating h => exact migrating_recovers hpath hknown h
  | resetting h => exact resetting_recovers hpath hhost hdate hdraws hknown h
  | current h hopened => exact current_recovers hknown h hopened
  | prior h hprior => exact prior_recovers hpath hhost hknown h hprior
  | replaced h hreplaced hkey =>
    rcases hreplaced.schemas with ⟨rfl, rfl⟩ | ⟨rfl, rfl⟩
    · exact legacy_recovers hpath hhost hdate hdraws hknown h hreplaced hkey
    · exact replaced_recovers hpath hhost hdate hdraws hknown h hreplaced hkey

end

end

end Ariava.Proofs.RuntimePreflight
