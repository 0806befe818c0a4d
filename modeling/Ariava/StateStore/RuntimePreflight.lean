import Ariava.StateStore.RuntimeReset

/-!
# `Ariava.StateStore.RuntimePreflight`: a start on the files of a runtime

The programs of `runtime-reset.ts` and `preflightRuntime` of `state-store.ts`, over a
`RuntimeStart`: the files, and the trail of the files after each durable change. A write is durable
at once, since it ends with a rename or a link. So whatever stops a start, a failed write or a kill,
leaves the files as they are at some point of its trail. The callbacks between the steps, which only
report, are left out.

A start calls itself again after each journal. The fuel bounds these calls; a start needs four.
-/

set_option autoImplicit false

namespace Ariava.StateStore.RawState

open Ariava.HostManager (resolve)
open Ariava.Lib (Effect)
open Ariava.Protocol (JsonValue JsonObject JsString jsString Thrown throwIf)

/-- A start that runs. -/
structure RuntimeStart where
  disk : RuntimeDisk
  /-- The files after each durable change, the last one first. -/
  trail : List RuntimeDisk
  /-- How often it has drawn. -/
  drawn : Nat

/-- The start before its first step. -/
def RuntimeStart.initial (disk : RuntimeDisk) : RuntimeStart := ⟨disk, [disk], 0⟩

/-- A program of a start. -/
abbrev RuntimeProgram (α : Type) : Type := Effect Thrown RuntimeStart α

/-! ### Files -/

/-- A durable change. -/
def durably (change : RuntimeDisk → RuntimeDisk) : RuntimeProgram Unit :=
  modify fun start =>
    { start with disk := change start.disk, trail := change start.disk :: start.trail }

/-- The file of the runtime. -/
def storedFile (file : RuntimeFile) : RuntimeProgram (Option StoredFile) := do
  return (← get).disk.files file

/-- `pathHasFilesystemEvidence`. -/
def pathHasFilesystemEvidence (file : RuntimeFile) : RuntimeProgram Bool := do
  return (← storedFile file).isSome

/-- What a read gives. -/
def bytesOf : Option StoredFile → Except Thrown (Option FileBytes)
  | none => .ok none
  | some .insecure => .error (.error "Secure file check failed")
  | some (.secure bytes) => .ok (some bytes)

/-- `readOptionalSecureBytes`. -/
def readOptionalSecureBytes (file : RuntimeFile) : RuntimeProgram (Option FileBytes) := do
  Effect.ofExcept (bytesOf (← storedFile file))

/-- What `JSON.parse` gives of the bytes that `readSecureFile` read. -/
def secureJsonOf (bytes : Option FileBytes) : Except Thrown JsonValue :=
  match bytes.map FileBytes.replaced with
  | none => .error (.error "Secure file check failed")
  | some none => .error (.error "JSON is malformed")
  | some (some value) => .ok value

/-- `readSecureJson`. -/
def readSecureJson (file : RuntimeFile) : RuntimeProgram JsonValue := do
  Effect.ofExcept (secureJsonOf (← readOptionalSecureBytes file))

/-- A file is written, or removed, after the check of the one that is there. -/
def replaceFile (file : RuntimeFile) (isReplaceable : Option StoredFile → Except Thrown Unit)
    (stored : Option StoredFile) : RuntimeProgram Unit := do
  Effect.ofExcept (isReplaceable (← storedFile file))
  durably fun disk => disk.with file stored

/-- `writeSecureJson`. -/
def writeSecureJson (file : RuntimeFile) (value : JsonObject) : RuntimeProgram Unit :=
  replaceFile file (fun stored => (bytesOf stored).map fun _ => ())
    (some (.secure (serializeSecureJson value)))

/-- `writeSecureJsonExclusive`. -/
def writeSecureJsonExclusive (file : RuntimeFile) (value : JsonObject) : RuntimeProgram Unit :=
  replaceFile file (fun stored => throwIf stored.isSome (.error "Secure target already exists"))
    (some (.secure (serializeSecureJson value)))

/-- `removeSecureFile`. -/
def removeSecureFile (file : RuntimeFile) : RuntimeProgram Unit :=
  replaceFile file (fun stored => (bytesOf stored).bind fun bytes =>
    throwIf bytes.isNone (.error "Secure file check failed")) none

/-! ### Keys and draws -/

/-- The key store finds this from now on. -/
def keepKey (spoolKey : SpoolKey) : RuntimeProgram Unit :=
  durably fun disk => { disk with spoolKey := spoolKey }

/-- `loadOrCreate`, with the key that it would create, if it may. -/
def loadOrCreate (created : Option SpoolKeyId) : RuntimeProgram SpoolKeyId := do
  match (← get).disk.spoolKey, created with
  | .present keyId, _ => return keyId
  | .unreadable, _ => throw (.error "local spool key metadata is invalid; recovery is required")
  | .unrecorded keyId, some _ =>
    keepKey (.present keyId)
    return keyId
  | .missing, some keyId =>
    -- a stop between the two writes leaves a key without its metadata
    keepKey (.unrecorded keyId)
    keepKey (.present keyId)
    return keyId
  | .unrecorded _, none =>
    throw (.error "local spool Keychain metadata is missing; recovery is required")
  | .missing, none => throw (.error "local spool key is missing; recovery is required")

/-- The next draw. -/
def draw (draws : Nat → RuntimeDraw) : RuntimeProgram RuntimeDraw := do
  let drawn := (← get).drawn
  modify fun start => { start with drawn := start.drawn + 1 }
  return draws drawn

/-! ### Journals -/

section
variable (checks : CodecChecks) (hash : RuntimeHash) (statePath hostId : JsString)

/-- A member of a journal is written, unless it is there. -/
def installMember (file : RuntimeFile) (bytes : Option FileBytes) (targetHash : JsString)
    (target : JsonObject) : RuntimeProgram Unit :=
  if hashOptional hash bytes = targetHash then pure () else writeSecureJson file target

/-- `finishRuntimeReset`. -/
def finishRuntimeReset (intent : RuntimeResetIntentV1) : RuntimeProgram JsonObject := do
  Effect.ofExcept (assertRuntimeResetTargets checks hash intent)
  let stateBytes ← readOptionalSecureBytes .state
  let spoolBytes ← readOptionalSecureBytes .spool
  Effect.ofExcept (assertRuntimeResetMembers checks hash intent stateBytes spoolBytes)
  installMember hash .spool spoolBytes intent.spoolTargetHash intent.spoolTarget
  installMember hash .state stateBytes intent.stateTargetHash intent.stateTarget
  removeSecureFile .resetIntent
  return intent.stateTarget

/-- The intent that `beginRuntimeReset` writes. -/
def resetIntentOf (drawn : RuntimeDraw) (keyId : SpoolKeyId) (fromSchemaVersion : Int)
    (toSchemaVersion : Int) (stateSource spoolSource : Option FileBytes) :
    RuntimeResetIntentV1 where
  fromSchemaVersion := fromSchemaVersion
  toSchemaVersion := toSchemaVersion
  hostId := hostId
  epoch := drawn.epoch
  keyId := keyId.val
  statePath := resolve statePath
  spoolPath := resolve (spoolPathForState statePath)
  intentPath := resolve (runtimeResetIntentPathForState statePath)
  stateSourceHash := hashOptional hash stateSource
  spoolSourceHash := hashOptional hash spoolSource
  stateTargetHash :=
    hash.hashBytes (serializeSecureJson (emptyStateForSchema toSchemaVersion drawn.epoch))
  spoolTargetHash := hash.hashBytes
    (serializeSecureJson (spoolFileForSchema toSchemaVersion hostId drawn.epoch keyId.val))
  createdAt := drawn.createdAt

/-- `beginRuntimeReset`. -/
def beginRuntimeReset (draws : Nat → RuntimeDraw) (stateSource spoolSource : Option FileBytes)
    (fromSchemaVersion toSchemaVersion : Int) : RuntimeProgram JsonObject := do
  let drawn ← draw draws
  let keyId ← loadOrCreate (if spoolSource.isNone then some drawn.keyId else none)
  -- a spool of version 1 does not name its key
  let priorSpool ← Effect.ofExcept (parseRawJson spoolSource "Bridge runtime spool")
  Effect.ofExcept (throwIf (priorSpool.any fun spool => isNumber 2 (spool.get? "version")
      && decide (textOf (spool.get? "keyId") ≠ some keyId.val))
    (.error "Bridge runtime spool key mismatch"))
  let intent := resetIntentOf hash statePath hostId drawn keyId fromSchemaVersion toSchemaVersion
    stateSource spoolSource
  writeSecureJsonExclusive .resetIntent intent.toJson
  finishRuntimeReset checks hash intent

/-- `resumeRuntimeReset`. -/
def resumeRuntimeReset : RuntimeProgram JsonObject := do
  let intent ← Effect.ofExcept (parseResetIntent checks (← readSecureJson .resetIntent))
  Effect.ofExcept (throwIf (decide (intent.hostId ≠ hostId))
    (.error "Bridge runtime reset intent Host mismatch"))
  Effect.ofExcept (assertResetIntentPaths intent statePath)
  Effect.ofExcept (assertRuntimeResetTargets checks hash intent)
  let stateBytes ← readOptionalSecureBytes .state
  let spoolBytes ← readOptionalSecureBytes .spool
  Effect.ofExcept (assertRuntimeResetMembers checks hash intent stateBytes spoolBytes)
  -- a reset that is resumed creates no key
  let keyId ← loadOrCreate none
  Effect.ofExcept (throwIf (decide (keyId.val ≠ intent.keyId))
    (.error "Bridge runtime reset intent key mismatch"))
  finishRuntimeReset checks hash intent

/-- `finishRuntimeMigration`. -/
def finishRuntimeMigration (intent : RuntimeMigrationIntentV1) : RuntimeProgram JsonObject := do
  Effect.ofExcept (assertMigrationIntentTargets checks hash intent)
  let stateBytes ← readOptionalSecureBytes .state
  let spoolBytes ← readOptionalSecureBytes .spool
  let floorBytes ← readOptionalSecureBytes .floor
  Effect.ofExcept (assertMigrationMemberHash hash "state" stateBytes intent.stateSourceHash
    intent.stateTargetHash)
  Effect.ofExcept (assertMigrationMemberHash hash "spool" spoolBytes intent.spoolSourceHash
    intent.spoolTargetHash)
  Effect.ofExcept (assertMigrationMemberHash hash "schema floor" floorBytes intent.floorSourceHash
    intent.floorTargetHash)
  installMember hash .spool spoolBytes intent.spoolTargetHash intent.spoolTarget
  installMember hash .state stateBytes intent.stateTargetHash intent.stateTarget
  installMember hash .floor floorBytes intent.floorTargetHash intent.floorTarget
  removeSecureFile .migrationIntent
  return intent.stateTarget

/-- The intent that `beginRuntimeMigration` writes. -/
def migrationIntentOf (drawn : RuntimeDraw) (stateTarget spoolTarget : JsonObject)
    (stateSource spoolSource : FileBytes) : RuntimeMigrationIntentV1 where
  hostId := hostId
  statePath := resolve statePath
  spoolPath := resolve (spoolPathForState statePath)
  floorPath := resolve (runtimeSchemaFloorPathForState statePath)
  intentPath := resolve (runtimeMigrationIntentPathForState statePath)
  stateSourceHash := hash.hashBytes stateSource
  spoolSourceHash := hash.hashBytes spoolSource
  floorSourceHash := absentHash
  stateTargetHash := hash.hashBytes (serializeSecureJson stateTarget)
  spoolTargetHash := hash.hashBytes (serializeSecureJson spoolTarget)
  floorTargetHash := hash.hashBytes (serializeSecureJson (runtimeSchemaFloor statePath hostId))
  stateTarget := stateTarget
  spoolTarget := spoolTarget
  floorTarget := runtimeSchemaFloor statePath hostId
  createdAt := drawn.createdAt

/-- `beginRuntimeMigration`. -/
def beginRuntimeMigration (draws : Nat → RuntimeDraw) (stateRecord spoolRecord : JsonObject)
    (stateBytes spoolBytes : FileBytes) : RuntimeProgram JsonObject := do
  let stateTarget ← Effect.ofExcept (migrateStateV3ToV4 checks stateRecord hostId)
  let spoolTarget ← Effect.ofExcept
    (migrateSpoolV3ToV4 spoolRecord hostId (textIn stateTarget "runtimeResetEpoch"))
  let drawn ← draw draws
  let intent := migrationIntentOf hash statePath hostId drawn stateTarget spoolTarget stateBytes
    spoolBytes
  writeSecureJsonExclusive .migrationIntent intent.toJson
  finishRuntimeMigration checks hash intent

/-- `resumeRuntimeMigration`. -/
def resumeRuntimeMigration : RuntimeProgram JsonObject := do
  let value ← readSecureJson .migrationIntent
  let record := (recordOf (some value)).getD []
  Effect.ofExcept (throwIf (recordOf (some value)).isNone
    (.error "Bridge runtime migration intent is invalid"))
  Effect.ofExcept (throwIf (!isNumber 1 (record.get? "version"))
    (.error "Bridge runtime migration intent version is unknown"))
  let intent ← Effect.ofExcept (parseMigrationIntent checks hash record statePath)
  Effect.ofExcept (throwIf (decide (intent.hostId ≠ hostId))
    (.error "Bridge runtime migration intent Host mismatch"))
  finishRuntimeMigration checks hash intent

/-! ### The start -/

/-- State and spool of the current schema are opened. -/
def parseCurrentRuntime (state spool : JsonObject) : Except Thrown JsonObject := do
  let state ← parseCurrentState checks state hostId
  let spool ← parseCurrentSpoolRecord spool hostId (textIn state "runtimeResetEpoch")
  assertCurrentRuntimeRelationships checks state spool hostId
  return state

/-- The records are a state and a spool of schema 3. -/
def isPriorRuntimeV3 (state spool : JsonObject) : Bool :=
  isPriorStateRecordV3 checks state hostId
    && isSpoolRecordForSchema spool 3 hostId (isEpochOf (textIn state "runtimeResetEpoch"))

/-- A runtime without a schema floor, by what its files are. The program `again` is the start that
is called after a journal. -/
def openWithoutFloor (draws : Nat → RuntimeDraw) (again : RuntimeProgram JsonObject)
    (stateBytes spoolBytes : Option FileBytes) (stateRecord spoolRecord : Option JsonObject) :
    RuntimeProgram JsonObject := do
  let state := stateRecord.getD []
  let spool := spoolRecord.getD []
  let arePresent := stateRecord.isSome && spoolRecord.isSome
  let reset (fromSchemaVersion toSchemaVersion : Int) : RuntimeProgram JsonObject := do
    let _ ← beginRuntimeReset checks hash statePath hostId draws stateBytes spoolBytes
      fromSchemaVersion toSchemaVersion
    again
  if stateRecord.isSome && isCurrentStateRecord checks state then
    let current ← Effect.ofExcept (parseCurrentState checks state hostId)
    Effect.ofExcept (throwIf spoolRecord.isNone
      (.error "current Bridge runtime spool is missing"))
    -- `current` is the record itself, so it passes the same checks again
    let _ ← Effect.ofExcept (parseCurrentRuntime checks hostId current spool)
    writeSecureJson .floor (runtimeSchemaFloor statePath hostId)
    return current
  else if arePresent && isPriorRuntimeV3 checks hostId state spool then
    let _ ← beginRuntimeMigration checks hash statePath hostId draws state spool
      (stateBytes.getD ⟨none, none, []⟩) (spoolBytes.getD ⟨none, none, []⟩)
    again
  else if stateRecord.isNone && spoolRecord.isNone then
    -- `initializeFreshRuntime`
    reset 2 3
  else if arePresent && isRecognizedObsoleteRuntime checks state spool hostId then
    reset 2 3
  else if isRecognizedLegacyRuntime stateRecord spoolRecord hostId then
    reset 1 2
  else
    throw (.error "Bridge runtime schema is unknown, malformed, or internally inconsistent")

/-- A runtime with a schema floor. -/
def openWithFloor (stateRecord spoolRecord : Option JsonObject) : Except Thrown JsonObject := do
  throwIf (stateRecord.isNone || spoolRecord.isNone
      || !isCurrentStateRecord checks (stateRecord.getD []))
    (.error "Bridge runtime artifacts violate the established schema floor")
  parseCurrentRuntime checks hostId (stateRecord.getD []) (spoolRecord.getD [])

/-- What a start does where there is no journal. -/
def openRuntime (draws : Nat → RuntimeDraw) (again : RuntimeProgram JsonObject)
    (floor : Option JsonObject) : RuntimeProgram JsonObject := do
  let stateBytes ← readOptionalSecureBytes .state
  let spoolBytes ← readOptionalSecureBytes .spool
  let stateRecord ← Effect.ofExcept (parseRawJson stateBytes "Bridge runtime state")
  let spoolRecord ← Effect.ofExcept (parseRawJson spoolBytes "Bridge runtime spool")
  if floor.isSome then
    Effect.ofExcept (openWithFloor checks hostId stateRecord spoolRecord)
  else
    openWithoutFloor checks hash statePath hostId draws again stateBytes spoolBytes stateRecord
      spoolRecord

/-- The schema floor, if there is one. -/
def readFloor : RuntimeProgram (Option JsonObject) := do
  match ← readOptionalSecureBytes .floor with
  | none => return none
  | some bytes =>
    let record ← Effect.ofExcept (parseRawJson (some bytes) "Bridge runtime schema floor")
    let floor ← Effect.ofExcept (parseRuntimeSchemaFloor record statePath hostId)
    return some floor

/-- The body of `preflightRuntime`. -/
def preflightBody (draws : Nat → RuntimeDraw) (again : RuntimeProgram JsonObject) :
    RuntimeProgram JsonObject := do
  if ← pathHasFilesystemEvidence .migrationIntent then
    let resumed ← resumeRuntimeMigration checks hash statePath hostId
    Effect.ofExcept (parseCurrentState checks resumed hostId)
  else
    let floor ← readFloor statePath hostId
    if ← pathHasFilesystemEvidence .resetIntent then
      Effect.ofExcept (throwIf floor.isSome
        (.error "Bridge runtime reset intent exists after the schema floor was established"))
      let resumed ← resumeRuntimeReset checks hash statePath hostId
      if isNumber 4 (resumed.get? "schemaVersion") then
        Effect.ofExcept (parseCurrentState checks resumed hostId)
      else again
    else openRuntime checks hash statePath hostId draws again floor

/-- `preflightRuntime`, with a bound on its calls of itself. -/
def preflightRuntime (draws : Nat → RuntimeDraw) : Nat → RuntimeProgram JsonObject
  | 0 => throw (.error "Maximum call stack size exceeded")
  | calls + 1 =>
    tryCatch (preflightBody checks hash statePath hostId draws (preflightRuntime draws calls))
      fun _ => throw (.error "Bridge runtime preflight failed closed")

/-- A start on the files that are there. -/
def startRuntime (calls : Nat) (draws : Nat → RuntimeDraw) (disk : RuntimeDisk) :
    Except Thrown JsonObject × RuntimeStart :=
  (preflightRuntime checks hash statePath hostId draws calls).run (.initial disk)

end

end Ariava.StateStore.RawState
