import Ariava.Proofs.RuntimeTargets

/-!
# `Ariava.Proofs.RuntimeJournals`: what a journal leaves at every point

`Passes P w w'` says that a start went from `w` to `w'` and that every point of its trail between
the two is in `P`. The two journals are followed with it.

- `Migrating` and `Resetting`: the files of a runtime with a journal that can be finished. Each
  member is the source or the target that the intent names.
- `finishRuntimeMigration_run` and `finishRuntimeReset_run`: from such files the journal is
  finished. At every point before its intent is gone the files are still such files.

A hash is compared with the hash of a target, so the results are about files among which SHA-256
has no collision. `KnownFiles` is a set of them with what is made of them.
-/

set_option autoImplicit false

namespace Ariava.Proofs.RuntimeJournals

open Ariava.Lib (Effect)
open Ariava.Lib.Effect (run_bind next_ok next_error)
open Ariava.Protocol (JsonValue JsonObject JsString jsString Thrown throwIf throwIf_eq_ok
  check_bind_eq_ok bind_eq_ok_iff stringify)
open Ariava.Proofs.RuntimePaths (IsFilePath)
open Ariava.Proofs.RuntimeTargets
open Ariava.StateStore.RawState

/-! ### Trails -/

/-- The start went on, and each point that it left is in `P`. -/
def Passes (P : RuntimeDisk → Prop) (w w' : RuntimeStart) : Prop :=
  ∃ added, w'.trail = added ++ w.trail ∧ ∀ disk ∈ added, P disk

section Passes
variable {P Q : RuntimeDisk → Prop} {w w' w'' : RuntimeStart}

theorem Passes.refl (w : RuntimeStart) : Passes P w w :=
  ⟨[], rfl, fun _ h => absurd h List.not_mem_nil⟩

theorem Passes.trans (h : Passes P w w') (h' : Passes P w' w'') : Passes P w w'' := by
  obtain ⟨added, htrail, hadded⟩ := h
  obtain ⟨added', htrail', hadded'⟩ := h'
  refine ⟨added' ++ added, by rw [htrail', htrail, List.append_assoc], fun disk hdisk => ?_⟩
  exact (List.mem_append.mp hdisk).elim (hadded' disk) (hadded disk)

theorem Passes.mono (h : Passes P w w') (himp : ∀ disk, P disk → Q disk) : Passes Q w w' := by
  obtain ⟨added, htrail, hadded⟩ := h
  exact ⟨added, htrail, fun disk hdisk => himp disk (hadded disk hdisk)⟩

/-- The point after a durable change. -/
def changed (w : RuntimeStart) (disk : RuntimeDisk) : RuntimeStart :=
  { w with disk := disk, trail := disk :: w.trail }

theorem Passes.changed {disk : RuntimeDisk} (h : P disk) :
    Passes P w (RuntimeJournals.changed w disk) := by
  refine ⟨[disk], rfl, fun other hother => ?_⟩
  rw [List.mem_singleton.mp hother]
  exact h

end Passes

/-! ### Runs of the operations on files -/

section
variable {w : RuntimeStart} {file : RuntimeFile}

@[simp] theorem pathHasFilesystemEvidence_run (file : RuntimeFile) (w : RuntimeStart) :
    (pathHasFilesystemEvidence file).run w = (.ok (w.disk.files file).isSome, w) := rfl

@[simp] theorem readOptionalSecureBytes_run (file : RuntimeFile) (w : RuntimeStart) :
    (readOptionalSecureBytes file).run w = (bytesOf (w.disk.files file), w) := rfl

theorem readSecureJson_run {bytes : FileBytes} {value : JsonValue}
    (hfile : w.disk.files file = some (.secure bytes)) (hvalue : bytes.replaced = some value) :
    (readSecureJson file).run w = (.ok value, w) := by
  unfold readSecureJson
  rw [run_bind, readOptionalSecureBytes_run, hfile]
  simp [bytesOf, secureJsonOf, hvalue]

theorem replaceFile_run {isReplaceable : Option StoredFile → Except Thrown Unit}
    (h : isReplaceable (w.disk.files file) = .ok ()) (stored : Option StoredFile) :
    (replaceFile file isReplaceable stored).run w
      = (.ok (), changed w (w.disk.with file stored)) := by
  unfold replaceFile storedFile
  rw [run_bind, run_bind]
  show Effect.next _ (.ok (w.disk.files file), w) = _
  rw [next_ok, run_bind, Effect.run_ofExcept, h]
  rfl

theorem writeSecureJson_run {bytes : Option FileBytes}
    (h : bytesOf (w.disk.files file) = .ok bytes) (value : JsonObject) :
    (writeSecureJson file value).run w
      = (.ok (), changed w (w.disk.with file (some (.secure (serializeSecureJson value))))) := by
  refine replaceFile_run ?_ _
  rw [h]
  rfl

theorem writeSecureJsonExclusive_run (h : w.disk.files file = none) (value : JsonObject) :
    (writeSecureJsonExclusive file value).run w
      = (.ok (), changed w (w.disk.with file (some (.secure (serializeSecureJson value))))) := by
  refine replaceFile_run ?_ _
  rw [h]
  rfl

theorem removeSecureFile_run {bytes : FileBytes} (h : w.disk.files file = some (.secure bytes)) :
    (removeSecureFile file).run w = (.ok (), changed w (w.disk.with file none)) := by
  refine replaceFile_run ?_ _
  rw [h]
  rfl

theorem draw_run (draws : Nat → RuntimeDraw) (w : RuntimeStart) :
    (draw draws).run w = (.ok (draws w.drawn), { w with drawn := w.drawn + 1 }) := rfl

end

/-! ### Files after a change -/

namespace RuntimeDisk

variable {disk : RuntimeDisk} {file other : RuntimeFile} {stored : Option StoredFile}

@[simp] theorem with_files_self : (disk.with file stored).files file = stored :=
  Function.update_self ..

@[simp] theorem with_files_of_ne (h : other ≠ file) :
    (disk.with file stored).files other = disk.files other := Function.update_of_ne h _ _

@[simp] theorem with_spoolKey : (disk.with file stored).spoolKey = disk.spoolKey := rfl

theorem with_eq_self (h : disk.files file = stored) : disk.with file stored = disk := by
  unfold RuntimeDisk.with
  rw [← h, Function.update_eq_self]

end RuntimeDisk

/-! ### Members of a journal -/

/-- The file of a text that this code wrote. -/
def written (value : JsonObject) : Option StoredFile :=
  some (.secure (serializeSecureJson value))

/-- The file is the source or the target that an intent names, and if it has the hash of the target
it is the target. -/
def IsMember (hash : RuntimeHash) (source : JsString) (target : JsonObject)
    (stored : Option StoredFile) : Prop :=
  ∃ bytes, bytesOf stored = .ok bytes
    ∧ (hashOptional hash bytes = source
      ∨ hashOptional hash bytes = hash.hashBytes (serializeSecureJson target))
    ∧ (hashOptional hash bytes = hash.hashBytes (serializeSecureJson target) →
      stored = written target)

section
variable {hash : RuntimeHash} {source : JsString} {target : JsonObject}

theorem isMember_written (hash : RuntimeHash) (source : JsString) (target : JsonObject) :
    IsMember hash source target (written target) :=
  ⟨some (serializeSecureJson target), rfl, .inr rfl, fun _ => rfl⟩

/-- After the installation the member is the target, and nothing else has changed. -/
theorem installMember_run {w : RuntimeStart} {file : RuntimeFile} {bytes : Option FileBytes}
    {P : RuntimeDisk → Prop} (hbytes : bytesOf (w.disk.files file) = .ok bytes)
    (hmember : IsMember hash source target (w.disk.files file))
    (hP : P (w.disk.with file (written target))) :
    ∃ w', (installMember hash file bytes (hash.hashBytes (serializeSecureJson target)) target).run w
        = (.ok (), w')
      ∧ w'.disk = w.disk.with file (written target) ∧ Passes P w w' := by
  obtain ⟨read, hread, -, htarget⟩ := hmember
  obtain rfl : bytes = read := Except.ok.inj (hbytes.symm.trans hread)
  unfold installMember
  by_cases hsame : hashOptional hash bytes = hash.hashBytes (serializeSecureJson target)
  · rw [if_pos hsame]
    exact ⟨w, rfl, (RuntimeDisk.with_eq_self (htarget hsame)).symm, .refl w⟩
  · rw [if_neg hsame]
    exact ⟨_, writeSecureJson_run hbytes target, rfl, .changed hP⟩

end

/-! ### Known files -/

/-- The file is a record. -/
def Holds (stored : Option StoredFile) (record : JsonObject) : Prop :=
  ∃ bytes, stored = some (.secure bytes) ∧ bytes.decoded = some (.object record)

theorem holds_written (value : JsonObject) : Holds (written value) value := ⟨_, rfl, rfl⟩

section
variable (checks : CodecChecks) (hash : RuntimeHash) (statePath hostId : JsString)

/-- The file is a reset intent that is read. -/
def HoldsResetIntent (stored : Option StoredFile) (intent : RuntimeResetIntentV1) : Prop :=
  ∃ (bytes : FileBytes) (value : JsonValue), stored = some (.secure bytes)
    ∧ bytes.replaced = some value ∧ parseResetIntent checks value = .ok intent

/-- The file is a migration intent that is read. -/
def HoldsMigrationIntent (stored : Option StoredFile) (intent : RuntimeMigrationIntentV1) : Prop :=
  ∃ (bytes : FileBytes) (record : JsonObject), stored = some (.secure bytes)
    ∧ bytes.replaced = some (.object record) ∧ isNumber 1 (record.get? "version") = true
    ∧ parseMigrationIntent checks hash record statePath = .ok intent

/-- Files among which the hash has no collision, with the targets of their migrations, and keys. -/
structure KnownFiles where
  known : FileBytes → Prop
  keys : SpoolKeyId → Prop
  injective : ∀ first second, known first → known second →
    hash.hashBytes first = hash.hashBytes second → first = second
  floor : known (serializeSecureJson (runtimeSchemaFloor statePath hostId))
  migratedState : ∀ bytes state target, known bytes → bytes.decoded = some (.object state) →
    migrateStateV3ToV4 checks state hostId = .ok target → known (serializeSecureJson target)
  migratedSpool : ∀ bytes spool epoch target, known bytes → bytes.decoded = some (.object spool) →
    migrateSpoolV3ToV4 spool hostId epoch = .ok target → known (serializeSecureJson target)

end

section
variable {checks : CodecChecks} {hash : RuntimeHash} {statePath hostId : JsString}
  (files : KnownFiles checks hash statePath hostId)

/-- The empty runtimes that a start may draw are known. -/
def KnownDraws (draws : Nat → RuntimeDraw) : Prop :=
  ∀ n, files.keys (draws n).keyId ∧ ∀ schemaVersion : Int, schemaVersion = 2 ∨ schemaVersion = 3 →
    files.known (serializeSecureJson (emptyStateForSchema schemaVersion (draws n).epoch))
      ∧ ∀ key, files.keys key → files.known (serializeSecureJson
        (spoolFileForSchema schemaVersion hostId (draws n).epoch key.val))

/-- The files of a runtime, its key and the targets of its journals are known. -/
structure KnownDisk (disk : RuntimeDisk) : Prop where
  members : ∀ file, file = .state ∨ file = .spool ∨ file = .floor →
    ∀ bytes, disk.files file = some (.secure bytes) → files.known bytes
  key : ∀ key, disk.spoolKey = .present key ∨ disk.spoolKey = .unrecorded key → files.keys key
  resetTargets : ∀ intent, HoldsResetIntent checks (disk.files .resetIntent) intent →
    files.known (serializeSecureJson intent.stateTarget)
      ∧ files.known (serializeSecureJson intent.spoolTarget)
  migrationTargets : ∀ intent,
    HoldsMigrationIntent checks hash statePath (disk.files .migrationIntent) intent →
      files.known (serializeSecureJson intent.stateTarget)
        ∧ files.known (serializeSecureJson intent.spoolTarget)
        ∧ files.known (serializeSecureJson intent.floorTarget)

variable {files} {disk : RuntimeDisk}

/-- A member is written. -/
theorem KnownDisk.install (h : KnownDisk files disk) {file : RuntimeFile} {target : JsonObject}
    (hfile : file = .state ∨ file = .spool ∨ file = .floor)
    (htarget : files.known (serializeSecureJson target)) :
    KnownDisk files (disk.with file (written target)) := by
  have hreset : RuntimeFile.resetIntent ≠ file := by
    rcases hfile with rfl | rfl | rfl <;> decide
  have hmigration : RuntimeFile.migrationIntent ≠ file := by
    rcases hfile with rfl | rfl | rfl <;> decide
  refine ⟨fun other hother bytes hbytes => ?_, h.key, fun intent hintent => ?_,
    fun intent hintent => ?_⟩
  · by_cases hsame : other = file
    · subst hsame
      rw [RuntimeDisk.with_files_self] at hbytes
      cases hbytes
      exact htarget
    · rw [RuntimeDisk.with_files_of_ne hsame] at hbytes
      exact h.members other hother bytes hbytes
  · rw [RuntimeDisk.with_files_of_ne hreset] at hintent
    exact h.resetTargets intent hintent
  · rw [RuntimeDisk.with_files_of_ne hmigration] at hintent
    exact h.migrationTargets intent hintent

/-- A reset intent is removed, or written with known targets. -/
theorem KnownDisk.withResetIntent (h : KnownDisk files disk) {stored : Option StoredFile}
    (htargets : ∀ intent, HoldsResetIntent checks stored intent →
      files.known (serializeSecureJson intent.stateTarget)
        ∧ files.known (serializeSecureJson intent.spoolTarget)) :
    KnownDisk files (disk.with .resetIntent stored) := by
  refine ⟨fun other hother bytes hbytes => ?_, h.key, fun intent hintent => ?_,
    fun intent hintent => ?_⟩
  · rw [RuntimeDisk.with_files_of_ne (by rcases hother with rfl | rfl | rfl <;> decide)] at hbytes
    exact h.members other hother bytes hbytes
  · rw [RuntimeDisk.with_files_self] at hintent
    exact htargets intent hintent
  · rw [RuntimeDisk.with_files_of_ne (by decide)] at hintent
    exact h.migrationTargets intent hintent

/-- A migration intent is removed, or written with known targets. -/
theorem KnownDisk.withMigrationIntent (h : KnownDisk files disk) {stored : Option StoredFile}
    (htargets : ∀ intent, HoldsMigrationIntent checks hash statePath stored intent →
      files.known (serializeSecureJson intent.stateTarget)
        ∧ files.known (serializeSecureJson intent.spoolTarget)
        ∧ files.known (serializeSecureJson intent.floorTarget)) :
    KnownDisk files (disk.with .migrationIntent stored) := by
  refine ⟨fun other hother bytes hbytes => ?_, h.key, fun intent hintent => ?_,
    fun intent hintent => ?_⟩
  · rw [RuntimeDisk.with_files_of_ne (by rcases hother with rfl | rfl | rfl <;> decide)] at hbytes
    exact h.members other hother bytes hbytes
  · rw [RuntimeDisk.with_files_of_ne (by decide)] at hintent
    exact h.resetTargets intent hintent
  · rw [RuntimeDisk.with_files_self] at hintent
    exact htargets intent hintent

/-- Another key is found. -/
theorem KnownDisk.withKey (h : KnownDisk files disk) {spoolKey : SpoolKey}
    (hkey : ∀ key, spoolKey = .present key ∨ spoolKey = .unrecorded key → files.keys key) :
    KnownDisk files { disk with spoolKey := spoolKey } :=
  ⟨h.members, hkey, h.resetTargets, h.migrationTargets⟩

/-- A known file that has a hash of its source or its target is a member. -/
theorem KnownDisk.isMember (h : KnownDisk files disk) {file : RuntimeFile} {source : JsString}
    {target : JsonObject} {bytes : Option FileBytes}
    (hfile : file = .state ∨ file = .spool ∨ file = .floor)
    (htarget : files.known (serializeSecureJson target))
    (hread : bytesOf (disk.files file) = .ok bytes)
    (hat : hashOptional hash bytes = source
      ∨ hashOptional hash bytes = hash.hashBytes (serializeSecureJson target)) :
    IsMember hash source target (disk.files file) := by
  refine ⟨bytes, hread, hat, fun hsame => ?_⟩
  cases hstored : disk.files file with
  | none =>
    rw [hstored] at hread
    cases hread
    exact absurd hsame.symm (hashBytes_ne_absentHash hash _)
  | some stored =>
    cases stored with
    | insecure =>
      rw [hstored] at hread
      cases hread
    | secure contents =>
      rw [hstored] at hread
      cases hread
      rw [files.injective contents _ (h.members file hfile contents hstored) htarget hsame]
      rfl

end

/-! ### The migration -/

section
variable (checks : CodecChecks) (hash : RuntimeHash) (statePath hostId : JsString)

/-- The files of a runtime that is opened as it is. -/
structure Settled (disk : RuntimeDisk) (current : JsonObject) : Prop where
  noReset : disk.files .resetIntent = none
  noMigration : disk.files .migrationIntent = none
  floor : ∃ floor, Holds (disk.files .floor) floor
    ∧ parseRuntimeSchemaFloor (some floor) statePath hostId = .ok floor
  state : Holds (disk.files .state) current
  spool : ∃ spool, Holds (disk.files .spool) spool
    ∧ parseCurrentRuntime checks hostId current spool = .ok current

/-- The files of a runtime whose migration can be finished. -/
structure Migrating (disk : RuntimeDisk) (intent : RuntimeMigrationIntentV1) : Prop where
  noReset : disk.files .resetIntent = none
  journal : HoldsMigrationIntent checks hash statePath (disk.files .migrationIntent) intent
  hostId : intent.hostId = hostId
  state : IsMember hash intent.stateSourceHash intent.stateTarget (disk.files .state)
  spool : IsMember hash intent.spoolSourceHash intent.spoolTarget (disk.files .spool)
  floor : IsMember hash intent.floorSourceHash intent.floorTarget (disk.files .floor)

end

section
variable {checks : CodecChecks} {hash : RuntimeHash} {statePath hostId : JsString}
  {disk : RuntimeDisk} {files : KnownFiles checks hash statePath hostId}

/-- A file that no check of the migration reads is another one, or a member is the target. -/
theorem Migrating.install {intent : RuntimeMigrationIntentV1}
    (h : Migrating checks hash statePath hostId disk intent) :
    Migrating checks hash statePath hostId (disk.with .spool (written intent.spoolTarget)) intent
      ∧ Migrating checks hash statePath hostId (disk.with .state (written intent.stateTarget))
        intent
      ∧ Migrating checks hash statePath hostId (disk.with .floor (written intent.floorTarget))
        intent := by
  refine ⟨⟨?_, ?_, h.hostId, ?_, ?_, ?_⟩, ⟨?_, ?_, h.hostId, ?_, ?_, ?_⟩,
    ⟨?_, ?_, h.hostId, ?_, ?_, ?_⟩⟩
  all_goals simp [isMember_written, h.noReset, h.journal, h.state, h.spool, h.floor]

/-- What an intent that was read says of its targets. -/
theorem HoldsMigrationIntent.targets {stored : Option StoredFile}
    {intent : RuntimeMigrationIntentV1}
    (h : HoldsMigrationIntent checks hash statePath stored intent) :
    intent.statePath = HostManager.resolve statePath
      ∧ assertMigrationIntentTargets checks hash intent = .ok () := by
  obtain ⟨bytes, record, -, -, -, hparsed⟩ := h
  obtain ⟨-, hparsed⟩ := check_bind_eq_ok.mp hparsed
  obtain ⟨hpaths, hparsed⟩ := check_bind_eq_ok.mp hparsed
  obtain ⟨read, hfields, hparsed⟩ := bind_eq_ok_iff.mp hparsed
  obtain ⟨htargets, hsame⟩ := check_bind_eq_ok.mp hparsed
  cases hsame
  refine ⟨?_, htargets⟩
  obtain ⟨-, hfields⟩ := check_bind_eq_ok.mp hfields
  obtain ⟨-, hfields⟩ := check_bind_eq_ok.mp hfields
  obtain ⟨-, hfields⟩ := check_bind_eq_ok.mp hfields
  cases hfields
  rw [throwIf_eq_ok] at hpaths
  simp only [Bool.or_eq_false_iff, decide_eq_false_iff_not, not_not] at hpaths
  exact hpaths.1.1.1

/-- What the checks of the targets say. -/
theorem assertMigrationIntentTargets_eq_ok {intent : RuntimeMigrationIntentV1}
    (h : assertMigrationIntentTargets checks hash intent = .ok ()) :
    parseCurrentState checks intent.stateTarget intent.hostId = .ok intent.stateTarget
      ∧ parseCurrentRuntime checks intent.hostId intent.stateTarget intent.spoolTarget
        = .ok intent.stateTarget
      ∧ parseRuntimeSchemaFloor (some intent.floorTarget) intent.statePath intent.hostId
        = .ok intent.floorTarget
      ∧ hash.hashBytes (serializeSecureJson intent.stateTarget) = intent.stateTargetHash
      ∧ hash.hashBytes (serializeSecureJson intent.spoolTarget) = intent.spoolTargetHash
      ∧ hash.hashBytes (serializeSecureJson intent.floorTarget) = intent.floorTargetHash := by
  obtain ⟨state, hstate, h⟩ := bind_eq_ok_iff.mp h
  obtain ⟨spool, hspool, h⟩ := bind_eq_ok_iff.mp h
  obtain ⟨floor, hfloor, h⟩ := bind_eq_ok_iff.mp h
  obtain ⟨-, h⟩ := check_bind_eq_ok.mp h
  obtain ⟨hrelated, hhashes⟩ := check_bind_eq_ok.mp h
  have hstateSame : state = intent.stateTarget := by
    obtain ⟨-, hstate⟩ := check_bind_eq_ok.mp hstate
    obtain ⟨-, hstate⟩ := check_bind_eq_ok.mp hstate
    cases hstate
    rfl
  have hspoolSame : spool = intent.spoolTarget := by
    obtain ⟨-, hspool⟩ := check_bind_eq_ok.mp hspool
    cases hspool
    rfl
  obtain hfloorSame := Option.some.inj (parseRuntimeSchemaFloor_eq_ok hfloor).1
  subst hstateSame hspoolSame hfloorSame
  rw [throwIf_eq_ok] at hhashes
  simp only [Bool.or_eq_false_iff, decide_eq_false_iff_not, not_not] at hhashes
  refine ⟨hstate, ?_, hfloor, hhashes.1.1.1, hhashes.1.1.2, hhashes.1.2⟩
  exact bind_eq_ok_iff.mpr ⟨_, hstate, bind_eq_ok_iff.mpr ⟨_, hspool, check_bind_eq_ok.mpr
    ⟨hrelated, rfl⟩⟩⟩

/-- A migration is finished, and can be finished from every point on the way. -/
theorem finishRuntimeMigration_run {w : RuntimeStart} {intent : RuntimeMigrationIntentV1}
    (hpath : IsFilePath statePath) (hknown : KnownDisk files w.disk)
    (h : Migrating checks hash statePath hostId w.disk intent) :
    ∃ w', (finishRuntimeMigration checks hash intent).run w = (.ok intent.stateTarget, w')
      ∧ Settled checks statePath hostId w'.disk intent.stateTarget ∧ KnownDisk files w'.disk
      ∧ Passes (fun disk => KnownDisk files disk
          ∧ (Migrating checks hash statePath hostId disk intent
            ∨ Settled checks statePath hostId disk intent.stateTarget)) w w' := by
  obtain ⟨hknownState, hknownSpool, hknownFloor⟩ := hknown.migrationTargets intent h.journal
  obtain ⟨hstatePath, htargets⟩ := h.journal.targets
  obtain ⟨-, hopened, hfloorParsed, hstateHash, hspoolHash, hfloorHash⟩ :=
    assertMigrationIntentTargets_eq_ok htargets
  obtain ⟨stateBytes, hstate, hstateAt, -⟩ := h.state
  obtain ⟨spoolBytes, hspool, hspoolAt, -⟩ := h.spool
  obtain ⟨floorBytes, hfloor, hfloorAt, -⟩ := h.floor
  rw [h.hostId] at hopened hfloorParsed
  rw [hstatePath, parseRuntimeSchemaFloor_resolve hpath] at hfloorParsed
  have hmember : ∀ (name : String) {bytes : Option FileBytes} {source target : JsString},
      hashOptional hash bytes = source ∨ hashOptional hash bytes = target →
      assertMigrationMemberHash hash name bytes source target = .ok () := by
    rintro name bytes source target (hat | hat) <;>
      simp [assertMigrationMemberHash, throwIf_eq_ok, hat]
  -- the three members, one after the other
  obtain ⟨w₁, hrun₁, hdisk₁, hpasses₁⟩ := installMember_run
    (P := fun disk => KnownDisk files disk ∧ Migrating checks hash statePath hostId disk intent)
    hspool h.spool ⟨hknown.install (.inr (.inl rfl)) hknownSpool, h.install.1⟩
  have h₁ : Migrating checks hash statePath hostId w₁.disk intent := hdisk₁ ▸ h.install.1
  have hknown₁ : KnownDisk files w₁.disk :=
    hdisk₁ ▸ hknown.install (.inr (.inl rfl)) hknownSpool
  obtain ⟨w₂, hrun₂, hdisk₂, hpasses₂⟩ := installMember_run (w := w₁)
    (P := fun disk => KnownDisk files disk ∧ Migrating checks hash statePath hostId disk intent)
    (by rw [hdisk₁, RuntimeDisk.with_files_of_ne (by decide)]; exact hstate) h₁.state
    ⟨hknown₁.install (.inl rfl) hknownState, h₁.install.2.1⟩
  have h₂ : Migrating checks hash statePath hostId w₂.disk intent := hdisk₂ ▸ h₁.install.2.1
  have hknown₂ : KnownDisk files w₂.disk := hdisk₂ ▸ hknown₁.install (.inl rfl) hknownState
  obtain ⟨w₃, hrun₃, hdisk₃, hpasses₃⟩ := installMember_run (w := w₂)
    (P := fun disk => KnownDisk files disk ∧ Migrating checks hash statePath hostId disk intent)
    (by
      rw [hdisk₂, RuntimeDisk.with_files_of_ne (by decide), hdisk₁,
        RuntimeDisk.with_files_of_ne (by decide)]
      exact hfloor) h₂.floor ⟨hknown₂.install (.inr (.inr rfl)) hknownFloor, h₂.install.2.2⟩
  have h₃ : Migrating checks hash statePath hostId w₃.disk intent := hdisk₃ ▸ h₂.install.2.2
  have hknown₃ : KnownDisk files w₃.disk :=
    hdisk₃ ▸ hknown₂.install (.inr (.inr rfl)) hknownFloor
  obtain ⟨bytes, record, hstored, -⟩ := h₃.journal
  -- without its journal, the runtime of the targets is settled
  have hsettled : Settled checks statePath hostId (w₃.disk.with .migrationIntent none)
      intent.stateTarget := by
    have hfiles : ∀ file, file ≠ .migrationIntent →
        (w₃.disk.with .migrationIntent none).files file = w₃.disk.files file :=
      fun file hfile => RuntimeDisk.with_files_of_ne hfile
    constructor
    · rw [hfiles _ (by decide)]
      exact h₃.noReset
    · exact RuntimeDisk.with_files_self
    · refine ⟨intent.floorTarget, ?_, hfloorParsed⟩
      rw [hfiles _ (by decide), hdisk₃, RuntimeDisk.with_files_self]
      exact holds_written _
    · rw [hfiles _ (by decide), hdisk₃, RuntimeDisk.with_files_of_ne (by decide), hdisk₂,
        RuntimeDisk.with_files_self]
      exact holds_written _
    · refine ⟨intent.spoolTarget, ?_, hopened⟩
      rw [hfiles _ (by decide), hdisk₃, RuntimeDisk.with_files_of_ne (by decide), hdisk₂,
        RuntimeDisk.with_files_of_ne (by decide), hdisk₁, RuntimeDisk.with_files_self]
      exact holds_written _
  have hknownEnd : KnownDisk files (w₃.disk.with .migrationIntent none) := by
    refine hknown₃.withMigrationIntent ?_
    rintro _ ⟨_, _, hnone, -⟩
    cases hnone
  refine ⟨changed w₃ (w₃.disk.with .migrationIntent none), ?_, hsettled, hknownEnd, ?_⟩
  · rw [hspoolHash] at hrun₁
    rw [hstateHash] at hrun₂
    rw [hfloorHash] at hrun₃
    unfold finishRuntimeMigration
    simp only [run_bind, Effect.run_ofExcept, htargets, next_ok, readOptionalSecureBytes_run,
      hstate, hspool, hfloor, hmember "state" (hstateHash ▸ hstateAt),
      hmember "spool" (hspoolHash ▸ hspoolAt), hmember "schema floor" (hfloorHash ▸ hfloorAt),
      hrun₁, hrun₂, hrun₃, removeSecureFile_run hstored, Effect.run_pure]
  · exact (((hpasses₁.trans hpasses₂).trans hpasses₃).mono fun _ h => ⟨h.1, .inl h.2⟩).trans
      (.changed ⟨hknownEnd, .inr hsettled⟩)

end

/-! ### The reset -/

section
variable (checks : CodecChecks) (hash : RuntimeHash) (statePath hostId : JsString)

/-- What a start needs to go on with a reset, besides its journal. -/
structure Resettable (disk : RuntimeDisk) (keyId : JsString) : Prop where
  noMigration : disk.files .migrationIntent = none
  noFloor : disk.files .floor = none
  key : ∃ key : SpoolKeyId, disk.spoolKey = .present key ∧ key.val = keyId

/-- The members pass the checks of the intent. -/
def AreMembers (disk : RuntimeDisk) (intent : RuntimeResetIntentV1) : Prop :=
  ∃ stateBytes spoolBytes, bytesOf (disk.files .state) = .ok stateBytes
    ∧ bytesOf (disk.files .spool) = .ok spoolBytes
    ∧ assertRuntimeResetMembers checks hash intent stateBytes spoolBytes = .ok ()

/-- The files of a runtime whose reset can be finished. -/
structure Resetting (disk : RuntimeDisk) (intent : RuntimeResetIntentV1) : Prop
    extends Resettable disk intent.keyId where
  journal : HoldsResetIntent checks (disk.files .resetIntent) intent
  hostId : intent.hostId = hostId
  paths : assertResetIntentPaths intent statePath = .ok ()
  targets : assertRuntimeResetTargets checks hash intent = .ok ()
  state : IsMember hash intent.stateSourceHash intent.stateTarget (disk.files .state)
  spool : IsMember hash intent.spoolSourceHash intent.spoolTarget (disk.files .spool)
  members : AreMembers checks hash disk intent

/-- The files of an empty runtime that a reset left. -/
structure ResetDone (disk : RuntimeDisk) (intent : RuntimeResetIntentV1) : Prop
    extends Resettable disk intent.keyId where
  noReset : disk.files .resetIntent = none
  state : disk.files .state = written intent.stateTarget
  spool : disk.files .spool = written intent.spoolTarget

end

section
variable {checks : CodecChecks} {hash : RuntimeHash} {statePath hostId : JsString}
  {disk : RuntimeDisk} {intent : RuntimeResetIntentV1}
  {files : KnownFiles checks hash statePath hostId}

/-- What the checks of the targets say. -/
theorem assertRuntimeResetTargets_eq_ok
    (h : assertRuntimeResetTargets checks hash intent = .ok ()) :
    hash.hashBytes (serializeSecureJson intent.stateTarget) = intent.stateTargetHash
      ∧ hash.hashBytes (serializeSecureJson intent.spoolTarget) = intent.spoolTargetHash
      ∧ (intent.toSchemaVersion = 3 → isPriorStateRecordV3 checks intent.stateTarget intent.hostId
          = true ∧ isSpoolRecordForSchema intent.spoolTarget 3 intent.hostId
            (isEpochOf intent.epoch) = true)
      ∧ (intent.toSchemaVersion ≠ 3 → isObsoleteStateRecord checks intent.stateTarget
          intent.hostId = true ∧ isSpoolRecordForSchema intent.spoolTarget 2 intent.hostId
            (isEpochOf intent.epoch) = true) := by
  obtain ⟨hhashes, h⟩ := check_bind_eq_ok.mp h
  rw [throwIf_eq_ok] at hhashes
  simp only [Bool.or_eq_false_iff, decide_eq_false_iff_not, not_not] at hhashes
  refine ⟨hhashes.1, hhashes.2, fun hto => ?_, fun hto => ?_⟩
  · rw [if_pos hto, throwIf_eq_ok, Bool.or_eq_false_iff, Bool.not_eq_false', Bool.not_eq_false']
      at h
    exact h
  · rw [if_neg hto, throwIf_eq_ok, Bool.or_eq_false_iff, Bool.not_eq_false', Bool.not_eq_false']
      at h
    exact h

/-- The three checks of the members. -/
theorem assertRuntimeResetMembers_eq_ok {stateBytes spoolBytes : Option FileBytes} :
    assertRuntimeResetMembers checks hash intent stateBytes spoolBytes = .ok () ↔
      assertResetStateMember checks hash stateBytes intent = .ok ()
        ∧ assertResetSpoolMember hash spoolBytes intent = .ok ()
        ∧ (hashOptional hash stateBytes = intent.stateSourceHash →
          hashOptional hash spoolBytes = intent.spoolSourceHash →
          stateBytes.isSome = true → spoolBytes.isSome = true →
          ∃ state spool,
            parseRawJson stateBytes "Bridge runtime reset state source" = .ok state
              ∧ parseRawJson spoolBytes "Bridge runtime reset spool source" = .ok spool
              ∧ (state.any fun state => spool.any fun spool => hasResetSourceRelationships checks
                intent.fromSchemaVersion state spool intent.hostId) = true) := by
  unfold assertRuntimeResetMembers
  rw [check_bind_eq_ok, check_bind_eq_ok]
  refine and_congr_right fun _ => and_congr_right fun _ => ?_
  split
  · next hsource =>
    simp only [bind_eq_ok_iff, throwIf_eq_ok, Bool.not_eq_false']
    constructor
    · rintro ⟨state, hstate, spool, hspool, hrelated⟩ - - - -
      exact ⟨state, spool, hstate, hspool, hrelated⟩
    · intro h
      obtain ⟨state, spool, hstate, hspool, hrelated⟩ := h hsource.1 hsource.2.1 hsource.2.2.1
        hsource.2.2.2
      exact ⟨state, hstate, spool, hspool, hrelated⟩
  · next hsource =>
    refine ⟨fun _ hstate hspool hstateThere hspoolThere => ?_, fun _ => rfl⟩
    exact absurd ⟨hstate, hspool, hstateThere, hspoolThere⟩ hsource

/-- The target of the state is a member. -/
theorem assertResetStateMember_target
    (h : assertRuntimeResetTargets checks hash intent = .ok ()) :
    assertResetStateMember checks hash (some (serializeSecureJson intent.stateTarget)) intent
      = .ok () := by
  obtain ⟨hstateHash, -, hprior, hobsolete⟩ := assertRuntimeResetTargets_eq_ok h
  have hat : hashOptional hash (some (serializeSecureJson intent.stateTarget))
      = intent.stateTargetHash := hstateHash
  refine check_bind_eq_ok.mpr ⟨?_, ?_⟩
  · simp [assertResetMemberHash, hat]
  · rw [if_pos hat]
    show throwIf (!(_ && decide (stringify (.object intent.stateTarget) = _))) _ = _
    rw [throwIf_eq_ok, Bool.not_eq_false', Bool.and_eq_true]
    refine ⟨?_, decide_eq_true rfl⟩
    show (if intent.toSchemaVersion = 3 then _ else _) = true
    by_cases hto : intent.toSchemaVersion = 3
    · rw [if_pos hto]
      exact (hprior hto).1
    · rw [if_neg hto]
      exact (hobsolete hto).1

/-- The target of the spool is a member. -/
theorem assertResetSpoolMember_target
    (hschema : intent.toSchemaVersion = 2 ∨ intent.toSchemaVersion = 3)
    (h : assertRuntimeResetTargets checks hash intent = .ok ()) :
    assertResetSpoolMember hash (some (serializeSecureJson intent.spoolTarget)) intent
      = .ok () := by
  obtain ⟨-, hspoolHash, hprior, hobsolete⟩ := assertRuntimeResetTargets_eq_ok h
  have hat : hashOptional hash (some (serializeSecureJson intent.spoolTarget))
      = intent.spoolTargetHash := hspoolHash
  refine check_bind_eq_ok.mpr ⟨?_, ?_⟩
  · simp [assertResetMemberHash, hat]
  · rw [if_pos hat]
    show throwIf (!(_ && decide (stringify (.object intent.spoolTarget) = _))) _ = _
    rw [throwIf_eq_ok, Bool.not_eq_false', Bool.and_eq_true]
    refine ⟨?_, decide_eq_true rfl⟩
    rcases hschema with hto | hto
    · rw [hto]
      exact (hobsolete (by rw [hto]; decide)).2
    · rw [hto]
      exact (hprior hto).2

/-- The schemas of an intent that was read. -/
theorem HoldsResetIntent.schemas {stored : Option StoredFile}
    (h : HoldsResetIntent checks stored intent) :
    (intent.fromSchemaVersion = 1 ∧ intent.toSchemaVersion = 2)
      ∨ (intent.fromSchemaVersion = 2 ∧ intent.toSchemaVersion = 3) := by
  obtain ⟨bytes, value, -, -, hparsed⟩ := h
  obtain ⟨hchecked, hparsed⟩ := check_bind_eq_ok.mp hparsed
  cases hparsed
  rw [throwIf_eq_ok] at hchecked
  simp only [Bool.or_eq_false_iff, Bool.not_eq_false'] at hchecked
  have htransition := hchecked.1.1.1.1.1.1.1.2
  have hread : ∀ (number : Int) (key : String),
      isNumber number (((recordOf (some value)).getD []).get? key) = true →
        integerIn ((recordOf (some value)).getD []) key = number := by
    intro number key hnumber
    rw [isNumber, decide_eq_true_eq] at hnumber
    rw [integerIn, hnumber]
    rfl
  rw [isValidResetTransition, Bool.or_eq_true, Bool.and_eq_true, Bool.and_eq_true] at htransition
  exact htransition.imp (fun h => ⟨hread _ _ h.1, hread _ _ h.2⟩)
    (fun h => ⟨hread _ _ h.1, hread _ _ h.2⟩)

/-- A member that is not yet the target is the source, and the target is not. -/
theorem IsMember.eq_or_ne {source : JsString} {target : JsonObject} {stored : Option StoredFile}
    (h : IsMember hash source target stored) :
    stored = written target ∨ hash.hashBytes (serializeSecureJson target) ≠ source := by
  obtain ⟨bytes, -, hat, htarget⟩ := h
  by_cases hsame : hash.hashBytes (serializeSecureJson target) = source
  · exact .inl (htarget (hat.elim (fun hsource => hsource.trans hsame.symm) id))
  · exact .inr hsame

/-- With the target of the spool in place the reset can be finished. -/
theorem Resetting.installSpool (h : Resetting checks hash statePath hostId disk intent) :
    Resetting checks hash statePath hostId (disk.with .spool (written intent.spoolTarget))
      intent := by
  rcases h.spool.eq_or_ne with hsame | hne
  · rwa [RuntimeDisk.with_eq_self hsame]
  obtain ⟨stateBytes, spoolBytes, hstate, -, hmembers⟩ := h.members
  rw [assertRuntimeResetMembers_eq_ok] at hmembers
  have hspool := assertResetSpoolMember_target (h.journal.schemas.imp And.right And.right) h.targets
  refine ⟨⟨?_, ?_, h.key⟩, ?_, h.hostId, h.paths, h.targets, ?_, ?_, stateBytes,
    some (serializeSecureJson intent.spoolTarget), ?_, ?_, ?_⟩
  · rw [RuntimeDisk.with_files_of_ne (by decide)]
    exact h.noMigration
  · rw [RuntimeDisk.with_files_of_ne (by decide)]
    exact h.noFloor
  · rw [RuntimeDisk.with_files_of_ne (by decide)]
    exact h.journal
  · rw [RuntimeDisk.with_files_of_ne (by decide)]
    exact h.state
  · rw [RuntimeDisk.with_files_self]
    exact isMember_written _ _ _
  · rw [RuntimeDisk.with_files_of_ne (by decide)]
    exact hstate
  · rw [RuntimeDisk.with_files_self]
    rfl
  · -- the relationships of the sources are not asked for once the spool is no source
    exact assertRuntimeResetMembers_eq_ok.mpr
      ⟨hmembers.1, hspool, fun _ hsource => absurd hsource hne⟩

/-- With the target of the state in place the reset can be finished. -/
theorem Resetting.installState (h : Resetting checks hash statePath hostId disk intent) :
    Resetting checks hash statePath hostId (disk.with .state (written intent.stateTarget))
      intent := by
  rcases h.state.eq_or_ne with hsame | hne
  · rwa [RuntimeDisk.with_eq_self hsame]
  obtain ⟨stateBytes, spoolBytes, -, hspool, hmembers⟩ := h.members
  rw [assertRuntimeResetMembers_eq_ok] at hmembers
  have hstate := assertResetStateMember_target h.targets
  refine ⟨⟨?_, ?_, h.key⟩, ?_, h.hostId, h.paths, h.targets, ?_, ?_,
    some (serializeSecureJson intent.stateTarget), spoolBytes, ?_, ?_, ?_⟩
  · rw [RuntimeDisk.with_files_of_ne (by decide)]
    exact h.noMigration
  · rw [RuntimeDisk.with_files_of_ne (by decide)]
    exact h.noFloor
  · rw [RuntimeDisk.with_files_of_ne (by decide)]
    exact h.journal
  · rw [RuntimeDisk.with_files_self]
    exact isMember_written _ _ _
  · rw [RuntimeDisk.with_files_of_ne (by decide)]
    exact h.spool
  · rw [RuntimeDisk.with_files_self]
    rfl
  · rw [RuntimeDisk.with_files_of_ne (by decide)]
    exact hspool
  · exact assertRuntimeResetMembers_eq_ok.mpr
      ⟨hstate, hmembers.2.1, fun hsource => absurd hsource hne⟩

/-- A reset is finished, and can be finished from every point on the way. -/
theorem finishRuntimeReset_run {w : RuntimeStart} (hknown : KnownDisk files w.disk)
    (h : Resetting checks hash statePath hostId w.disk intent) :
    ∃ w', (finishRuntimeReset checks hash intent).run w = (.ok intent.stateTarget, w')
      ∧ ResetDone w'.disk intent ∧ KnownDisk files w'.disk
      ∧ Passes (fun disk => KnownDisk files disk
          ∧ (Resetting checks hash statePath hostId disk intent ∨ ResetDone disk intent)) w w' := by
  obtain ⟨hknownState, hknownSpool⟩ := hknown.resetTargets intent h.journal
  obtain ⟨hstateHash, hspoolHash, -⟩ := assertRuntimeResetTargets_eq_ok h.targets
  obtain ⟨stateBytes, spoolBytes, hstate, hspool, hmembers⟩ := h.members
  obtain ⟨w₁, hrun₁, hdisk₁, hpasses₁⟩ := installMember_run
    (P := fun disk => KnownDisk files disk ∧ Resetting checks hash statePath hostId disk intent)
    hspool h.spool ⟨hknown.install (.inr (.inl rfl)) hknownSpool, h.installSpool⟩
  have h₁ : Resetting checks hash statePath hostId w₁.disk intent := hdisk₁ ▸ h.installSpool
  have hknown₁ : KnownDisk files w₁.disk :=
    hdisk₁ ▸ hknown.install (.inr (.inl rfl)) hknownSpool
  obtain ⟨w₂, hrun₂, hdisk₂, hpasses₂⟩ := installMember_run (w := w₁)
    (P := fun disk => KnownDisk files disk ∧ Resetting checks hash statePath hostId disk intent)
    (by rw [hdisk₁, RuntimeDisk.with_files_of_ne (by decide)]; exact hstate) h₁.state
    ⟨hknown₁.install (.inl rfl) hknownState, h₁.installState⟩
  have h₂ : Resetting checks hash statePath hostId w₂.disk intent := hdisk₂ ▸ h₁.installState
  have hknown₂ : KnownDisk files w₂.disk := hdisk₂ ▸ hknown₁.install (.inl rfl) hknownState
  obtain ⟨bytes, value, hstored, -⟩ := h₂.journal
  have hdone : ResetDone (w₂.disk.with .resetIntent none) intent := by
    have hfiles : ∀ file, file ≠ .resetIntent →
        (w₂.disk.with .resetIntent none).files file = w₂.disk.files file :=
      fun file hfile => RuntimeDisk.with_files_of_ne hfile
    refine ⟨⟨?_, ?_, h₂.key⟩, RuntimeDisk.with_files_self, ?_, ?_⟩
    · rw [hfiles _ (by decide)]
      exact h₂.noMigration
    · rw [hfiles _ (by decide)]
      exact h₂.noFloor
    · rw [hfiles _ (by decide), hdisk₂, RuntimeDisk.with_files_self]
    · rw [hfiles _ (by decide), hdisk₂, RuntimeDisk.with_files_of_ne (by decide), hdisk₁,
        RuntimeDisk.with_files_self]
  have hknownEnd : KnownDisk files (w₂.disk.with .resetIntent none) :=
    hknown₂.withResetIntent fun _ ⟨_, _, hnone, _⟩ => nomatch hnone
  refine ⟨changed w₂ (w₂.disk.with .resetIntent none), ?_, hdone, hknownEnd, ?_⟩
  · rw [hspoolHash] at hrun₁
    rw [hstateHash] at hrun₂
    unfold finishRuntimeReset
    simp only [run_bind, Effect.run_ofExcept, h.targets, next_ok, readOptionalSecureBytes_run,
      hstate, hspool, hmembers, hrun₁, hrun₂, removeSecureFile_run hstored, Effect.run_pure]
  · exact ((hpasses₁.trans hpasses₂).mono fun _ h => ⟨h.1, .inl h.2⟩).trans
      (.changed ⟨hknownEnd, .inr hdone⟩)

end

end Ariava.Proofs.RuntimeJournals
