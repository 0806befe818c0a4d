import Ariava.HostManager.NodePath
import Ariava.Lib.Effect
import Ariava.StateStore.PriorRuntime

/-!
# `Ariava.StateStore.RuntimeReset`: opening the runtime of a Host

A start of the bridge opens the files of its runtime with `preflightRuntime` of `state-store.ts`.
A runtime of schema 4 is opened as it is, one of schema 3 is migrated, and one of the schemas 1 and
2 is replaced by an empty one of the next schema. A change of more than one file goes through a
journal: `runtime-reset.ts` writes its intent first, then the files, and removes the intent last.

The checks are here, and `RuntimePreflight` has the programs. `FileBytes` is a file as the code
reads it. Two readers differ on bytes that are not UTF-8, and so there are two values.
`serializeSecureJson` gives the one text that this code writes.
-/

set_option autoImplicit false

namespace Ariava.StateStore.RawState

open Ariava.HostManager (resolve isAbsolute)
open Ariava.Lib (Effect)
open Ariava.Protocol (JsonValue JsonObject JsString jsString Thrown throwIf checkAll stringify
  isCanonicalTimestampString)

/-! ### Files -/

/-- The bytes of a file. -/
structure FileBytes where
  /-- What `JSON.parse` gives after the decoder that is fatal on bad bytes. -/
  decoded : Option JsonValue
  /-- What `JSON.parse` gives of `toString('utf8')`. -/
  replaced : Option JsonValue
  /-- What else there is to tell two files apart. -/
  layout : JsString

/-- `serializeSecureJson`. -/
def serializeSecureJson (value : JsonObject) : FileBytes :=
  ⟨some (.object value), some (.object value), []⟩

/-- A file that is there, and its bytes unless it is not secure. -/
inductive StoredFile
  | insecure
  | secure (bytes : FileBytes)

/-- The files of a runtime. -/
inductive RuntimeFile
  | state
  | spool
  | floor
  | resetIntent
  | migrationIntent
deriving DecidableEq

/-- `spoolKeyIdForKey` of a key: the id has the form that the checks ask for. -/
abbrev SpoolKeyId : Type := { keyId : JsString // isVerifier (some (.string keyId)) = true }

/-- What the key store finds for the Host. On macOS a key is in the Keychain before a file records
it. -/
inductive SpoolKey
  | missing
  | unreadable
  | unrecorded (keyId : SpoolKeyId)
  | present (keyId : SpoolKeyId)

/-- The files of a runtime and its key. -/
structure RuntimeDisk where
  files : RuntimeFile → Option StoredFile
  spoolKey : SpoolKey

/-- The file is another one. -/
def RuntimeDisk.with (disk : RuntimeDisk) (file : RuntimeFile) (stored : Option StoredFile) :
    RuntimeDisk :=
  { disk with files := Function.update disk.files file stored }

/-- `hashBytes`: SHA-256 as a text. -/
structure RuntimeHash where
  hashBytes : FileBytes → JsString
  isVerifier : ∀ bytes, isVerifier (some (.string (hashBytes bytes))) = true

/-- What a start draws for a journal: `randomUUID()`, the time, and a key. -/
structure RuntimeDraw where
  epoch : JsString
  createdAt : JsString
  keyId : SpoolKeyId
  isEpoch : isRuntimeEpoch (some (.string epoch)) = true
  isTimestamp : isCanonicalTimestampString createdAt = true

/-- `ABSENT_HASH`. -/
def absentHash : JsString := jsString "absent"

/-- `hashOptional`. -/
def hashOptional (hash : RuntimeHash) (bytes : Option FileBytes) : JsString :=
  (bytes.map hash.hashBytes).getD absentHash

/-- `isRuntimeHash`. -/
def isRuntimeHash (value : JsValue) : Bool :=
  decide (textOf value = some absentHash) || isVerifier value

/-- `parseRawJson`. -/
def parseRawJson (bytes : Option FileBytes) (label : String) :
    Except Thrown (Option JsonObject) :=
  match bytes.map FileBytes.decoded with
  | none => .ok none
  | some none => .error (.error (label ++ " JSON is malformed"))
  | some (some value) =>
    match recordOf (some value) with
    | none => .error (.error (label ++ " must be a JSON object"))
    | some record => .ok (some record)

/-! ### Paths -/

/-- `spoolPathForState`. -/
def spoolPathForState (statePath : JsString) : JsString := statePath ++ jsString ".spool.json"

/-- `runtimeResetIntentPathForState`. -/
def runtimeResetIntentPathForState (statePath : JsString) : JsString :=
  statePath ++ jsString ".runtime-reset.json"

/-- `runtimeMigrationIntentPathForState`. -/
def runtimeMigrationIntentPathForState (statePath : JsString) : JsString :=
  statePath ++ jsString ".runtime-migration.json"

/-- `runtimeSchemaFloorPathForState`. -/
def runtimeSchemaFloorPathForState (statePath : JsString) : JsString :=
  statePath ++ jsString ".schema-floor.json"

/-- `isAbsoluteResolvedPath`. -/
def isAbsoluteResolvedPath (value : JsValue) : Bool :=
  (textOf value).any fun path => isAbsolute path && decide (resolve path = path)

/-! ### State and spool of the current schema -/

/-- The values of a map of records. -/
def recordsOf (value : JsValue) : List JsonObject :=
  (entriesOf value).map fun entry => recordIn entry.2

/-- The first record with the text in a field. -/
def findRecord (records : List JsonObject) (key : String) (text : JsString) : Option JsonObject :=
  records.find? fun record => decide (textOf (record.get? key) = some text)

/-- A found record names another Session than the item. -/
def isOfAnotherSession (item : JsonObject) (found : Option JsonObject) : Bool :=
  found.any fun record => decide (textOf (record.get? "sessionId") ≠ textOf (item.get? "sessionId"))

/-- An item of an Event has the id that its kind asks for, and a recent event of that id is one of
the same Session. -/
def isItemOfRecentEvent (state item : JsonObject) (itemPrefix : String) : Bool :=
  let eventId := textIn item "eventId"
  let events := (elementsOf (state.get? "recentEvents")).map recordIn
  decide (textOf (item.get? "spoolItemId") = some (jsString itemPrefix ++ eventId))
    && !isOfAnotherSession item (findRecord events "eventId" eventId)

/-- A terminal cancellation that is on its way: its reservation is there, in both files. -/
def isRecoverableIntentOnly (state item : JsonObject) (items : List JsonObject) : Bool :=
  let eventId := textIn item "eventId"
  let sessionId := textOf (item.get? "sessionId")
  ((findRecord (recordsOf (state.get? "producerEventReservations")) "eventId" eventId).any
      fun reservation => decide (textOf (reservation.get? "sessionId") = sessionId))
    && (findRecord items "spoolItemId" eventId).any fun source =>
      isText "event-reservation-v3" (source.get? "payloadKind")
        && decide (textOf (source.get? "eventId") = some eventId)
        && decide (textOf (source.get? "sessionId") = sessionId)

/-- The checks of the loop over the items, by the kind of the payload. -/
def assertSpoolItem (state item : JsonObject) (items : List JsonObject) : Except Thrown Unit := do
  let isKind (kind : String) : Bool := isText kind (item.get? "payloadKind")
  let isItemWithId (id : JsString) : Bool := decide (textOf (item.get? "spoolItemId") = some id)
  let eventId := textIn item "eventId"
  let cancellation := readProperty (entriesOf (state.get? "terminalCancellations")) eventId
  let isCancelledElsewhere : Bool := cancellation.isFound
    && decide (textOf (cancellation.field "sessionId") ≠ textOf (item.get? "sessionId"))
  let reservation :=
    findRecord (recordsOf (state.get? "producerEventReservations")) "eventId" eventId
  throwIf (!isKind "session-source-v3" && !isKind "session-upload-v3"
      && !isNonEmptyString (item.get? "eventId"))
    (.error "Bridge runtime spool Event binding is invalid")
  throwIf (isKind "event-source-v3" && !isItemOfRecentEvent state item "")
    (.error "Bridge runtime Event source binding is invalid")
  throwIf (isKind "event-reservation-v3" && (!isItemWithId eventId
      || isOfAnotherSession item reservation || isCancelledElsewhere))
    (.error "Bridge runtime Event reservation binding is invalid")
  throwIf (isKind "event-upload-v3" && !isItemOfRecentEvent state item "inflight:event:")
    (.error "Bridge runtime Event upload binding is invalid")
  throwIf (isKind "event-dead-letter-v3" && !isItemOfRecentEvent state item "dead-letter:event:")
    (.error "Bridge runtime Event dead-letter binding is invalid")
  throwIf (isKind "session-upload-v3"
      && !isItemWithId (jsString "inflight:session:" ++ textIn item "sessionId"))
    (.error "Bridge runtime Session upload binding is invalid")
  throwIf (isKind "terminal-cancellation-v3"
      && (!isItemWithId (jsString "cancel:terminal:" ++ eventId)
        || (!cancellation.isFound && !isRecoverableIntentOnly state item items)
        || isCancelledElsewhere))
    (.error "Bridge runtime terminal cancellation spool binding is invalid")

/-- The loop over the items, with the ids that it has met. -/
def assertSpoolItems (state : JsonObject) (items : List JsonObject) :
    List JsString → List JsonObject → Except Thrown Unit
  | _, [] => .ok ()
  | ids, item :: rest => do
      let id := textIn item "spoolItemId"
      throwIf (decide (id ∈ ids)) (.error "Bridge runtime spool item ID is duplicated")
      assertSpoolItem state item items
      assertSpoolItems state items (id :: ids) rest

/-- An item of an upload completion is of its kind and its Session, and gone when the completion
says so. -/
def isItemOfCompletion (completion : JsonObject) (kind : String) (isRemoved : Bool)
    (item : Option JsonObject) : Bool :=
  item.all fun item => isText kind (item.get? "payloadKind")
    && decide (textOf (item.get? "sessionId") = textOf (completion.get? "sessionId"))
    && !isRemoved

/-- The loop over the upload completions. -/
def assertCompletionItems (items completions : List JsonObject) : Except Thrown Unit :=
  checkAll completions fun completion =>
    let eventId := textIn completion "eventId"
    throwIf (!isItemOfCompletion completion "event-upload-v3" (isSet completion "inflightRemoved")
          (findRecord items "spoolItemId" (jsString "inflight:event:" ++ eventId))
        || !isItemOfCompletion completion "event-source-v3" (isSet completion "sourceRemoved")
          (findRecord items "spoolItemId" eventId))
      (.error "Bridge runtime Event completion spool binding is invalid")

/-- `assertCurrentRuntimeRelationships`. -/
def assertCurrentRuntimeRelationships (checks : CodecChecks) (state spool : JsonObject)
    (hostId : JsString) : Except Thrown Unit := do
  assertCurrentStateRelationships checks state hostId
  assertSpoolItems state (spoolItemsOf spool) [] (spoolItemsOf spool)
  assertCompletionItems (spoolItemsOf spool) (recordsOf (state.get? "eventUploadCompletions"))

/-! ### The schema floor -/

/-- `runtimeSchemaFloor`. -/
def runtimeSchemaFloor (statePath hostId : JsString) : JsonObject :=
  objectLiteral [
    ("version", some (jsonInteger 1)),
    ("hostId", some (.string hostId)),
    ("minSchemaVersion", some (jsonInteger 4)),
    ("statePath", some (.string (resolve statePath))),
    ("spoolPath", some (.string (resolve (spoolPathForState (resolve statePath)))))]

/-- `parseRuntimeSchemaFloor`. -/
def parseRuntimeSchemaFloor (value : Option JsonObject) (statePath hostId : JsString) :
    Except Thrown JsonObject := do
  let floor := value.getD []
  throwIf (value.isNone
      || !hasExactKeys floor ["version", "hostId", "minSchemaVersion", "statePath", "spoolPath"]
      || !isNumber 1 (floor.get? "version")
      || decide (textOf (floor.get? "hostId") ≠ some hostId)
      || !isNumber 4 (floor.get? "minSchemaVersion"))
    (.error "Bridge runtime schema floor is invalid")
  throwIf (decide (textOf (floor.get? "statePath") ≠ some (resolve statePath))
      || decide (textOf (floor.get? "spoolPath")
        ≠ some (resolve (spoolPathForState (resolve statePath)))))
    (.error "Bridge runtime schema floor path binding is invalid")
  return floor

/-! ### The journal of a reset -/

/-- `RuntimeResetIntentV1`. -/
structure RuntimeResetIntentV1 where
  fromSchemaVersion : Int
  toSchemaVersion : Int
  hostId : JsString
  epoch : JsString
  keyId : JsString
  statePath : JsString
  spoolPath : JsString
  intentPath : JsString
  stateSourceHash : JsString
  spoolSourceHash : JsString
  stateTargetHash : JsString
  spoolTargetHash : JsString
  createdAt : JsString

namespace RuntimeResetIntentV1

/-- The intent as it is written. -/
def toJson (intent : RuntimeResetIntentV1) : JsonObject :=
  objectLiteral [
    ("version", some (jsonInteger 1)),
    ("fromSchemaVersion", some (jsonInteger intent.fromSchemaVersion)),
    ("toSchemaVersion", some (jsonInteger intent.toSchemaVersion)),
    ("hostId", some (.string intent.hostId)),
    ("epoch", some (.string intent.epoch)),
    ("keyId", some (.string intent.keyId)),
    ("statePath", some (.string intent.statePath)),
    ("spoolPath", some (.string intent.spoolPath)),
    ("intentPath", some (.string intent.intentPath)),
    ("stateSourceHash", some (.string intent.stateSourceHash)),
    ("spoolSourceHash", some (.string intent.spoolSourceHash)),
    ("stateTargetHash", some (.string intent.stateTargetHash)),
    ("spoolTargetHash", some (.string intent.spoolTargetHash)),
    ("createdAt", some (.string intent.createdAt))]

/-- The target of the state. -/
def stateTarget (intent : RuntimeResetIntentV1) : JsonObject :=
  emptyStateForSchema intent.toSchemaVersion intent.epoch

/-- The target of the spool. -/
def spoolTarget (intent : RuntimeResetIntentV1) : JsonObject :=
  spoolFileForSchema intent.toSchemaVersion intent.hostId intent.epoch intent.keyId

end RuntimeResetIntentV1

/-- `isValidResetTransition`. -/
def isValidResetTransition (fromSchema toSchema : JsValue) : Bool :=
  (isNumber 1 fromSchema && isNumber 2 toSchema) || (isNumber 2 fromSchema && isNumber 3 toSchema)

/-- The keys of a reset intent. -/
def resetIntentKeys : List String :=
  ["version", "fromSchemaVersion", "toSchemaVersion", "hostId", "epoch", "keyId", "statePath",
    "spoolPath", "intentPath", "stateSourceHash", "spoolSourceHash", "stateTargetHash",
    "spoolTargetHash", "createdAt"]

/-- `parseResetIntent`. -/
def parseResetIntent (checks : CodecChecks) (value : JsonValue) :
    Except Thrown RuntimeResetIntentV1 := do
  let intent := (recordOf (some value)).getD []
  throwIf ((recordOf (some value)).isNone || !hasExactKeys intent resetIntentKeys
      || !isNumber 1 (intent.get? "version")
      || !isValidResetTransition (intent.get? "fromSchemaVersion") (intent.get? "toSchemaVersion")
      || !isNonEmptyString (intent.get? "hostId")
      || !isRuntimeEpoch (intent.get? "epoch") || !isVerifier (intent.get? "keyId")
      || !(["statePath", "spoolPath", "intentPath"].all fun key =>
        isAbsoluteResolvedPath (intent.get? key))
      || !(["stateSourceHash", "spoolSourceHash", "stateTargetHash", "spoolTargetHash"].all
        fun key => isRuntimeHash (intent.get? key))
      || !isNonEmptyString (intent.get? "createdAt")
      || !(textOf (intent.get? "createdAt")).any checks.isFiniteDate)
    (.error "Bridge runtime reset intent is invalid")
  let text := textIn intent
  return {
    fromSchemaVersion := integerIn intent "fromSchemaVersion"
    toSchemaVersion := integerIn intent "toSchemaVersion"
    hostId := text "hostId"
    epoch := text "epoch"
    keyId := text "keyId"
    statePath := text "statePath"
    spoolPath := text "spoolPath"
    intentPath := text "intentPath"
    stateSourceHash := text "stateSourceHash"
    spoolSourceHash := text "spoolSourceHash"
    stateTargetHash := text "stateTargetHash"
    spoolTargetHash := text "spoolTargetHash"
    createdAt := text "createdAt" }

/-- `assertResetIntentPaths`. -/
def assertResetIntentPaths (intent : RuntimeResetIntentV1) (statePath : JsString) :
    Except Thrown Unit :=
  let expectedStatePath := resolve statePath
  throwIf (decide (intent.statePath ≠ expectedStatePath)
      || decide (intent.spoolPath ≠ resolve (spoolPathForState expectedStatePath))
      || decide (intent.intentPath ≠ resolve (runtimeResetIntentPathForState expectedStatePath)))
    (.error "Bridge runtime reset intent path binding is invalid")

section
variable (checks : CodecChecks) (hash : RuntimeHash)

/-- `assertRuntimeResetTargets`. -/
def assertRuntimeResetTargets (intent : RuntimeResetIntentV1) : Except Thrown Unit := do
  throwIf (decide (hash.hashBytes (serializeSecureJson intent.stateTarget)
          ≠ intent.stateTargetHash)
      || decide (hash.hashBytes (serializeSecureJson intent.spoolTarget)
          ≠ intent.spoolTargetHash))
    (.error "Bridge runtime reset intent target hash is invalid")
  let isSpool (schemaVersion : Int) : Bool :=
    isSpoolRecordForSchema intent.spoolTarget schemaVersion intent.hostId (isEpochOf intent.epoch)
  if intent.toSchemaVersion = 3 then
    throwIf (!isPriorStateRecordV3 checks intent.stateTarget intent.hostId || !isSpool 3)
      (.error "Bridge runtime reset intent prior target is invalid")
  else
    throwIf (!isObsoleteStateRecord checks intent.stateTarget intent.hostId || !isSpool 2)
      (.error "Bridge runtime reset intent obsolete target is invalid")

/-- `assertResetMemberHash`. -/
def assertResetMemberHash (name : String) (actual source target : JsString) : Except Thrown Unit :=
  throwIf (decide (actual ≠ source) && decide (actual ≠ target))
    (.error ("Bridge runtime reset " ++ name ++ " changed outside the reset journal"))

/-- `assertResetStateMember`. -/
def assertResetStateMember (bytes : Option FileBytes) (intent : RuntimeResetIntentV1) :
    Except Thrown Unit := do
  let actual := hashOptional hash bytes
  assertResetMemberHash "state" actual intent.stateSourceHash intent.stateTargetHash
  if actual = intent.stateTargetHash then
    let parsed ← parseRawJson bytes "Bridge runtime reset state target"
    let isTarget (state : JsonObject) : Bool :=
      if intent.toSchemaVersion = 3 then isPriorStateRecordV3 checks state intent.hostId
      else isObsoleteStateRecord checks state intent.hostId
    throwIf (!(parsed.any fun state => isTarget state
        && decide (stringify (.object state) = stringify (.object intent.stateTarget))))
      (.error "Bridge runtime reset state target is invalid")
  else if bytes.isSome then
    let parsed ← parseRawJson bytes "Bridge runtime reset state source"
    let isSource (state : JsonObject) : Bool :=
      if intent.fromSchemaVersion = 1 then isRecognizedPriorStateRecord state intent.hostId
      else isObsoleteStateRecord checks state intent.hostId
    throwIf (!parsed.any isSource) (.error "Bridge runtime reset state source schema is invalid")

/-- `assertResetSpoolMember`. -/
def assertResetSpoolMember (bytes : Option FileBytes) (intent : RuntimeResetIntentV1) :
    Except Thrown Unit := do
  let actual := hashOptional hash bytes
  assertResetMemberHash "spool" actual intent.spoolSourceHash intent.spoolTargetHash
  if actual = intent.spoolTargetHash then
    let parsed ← parseRawJson bytes "Bridge runtime reset spool target"
    throwIf (!(parsed.any fun spool =>
        isSpoolRecordForSchema spool intent.toSchemaVersion intent.hostId (isEpochOf intent.epoch)
          && decide (stringify (.object spool) = stringify (.object intent.spoolTarget))))
      (.error "Bridge runtime reset spool target is invalid")
  else if bytes.isSome then
    let parsed ← parseRawJson bytes "Bridge runtime reset spool source"
    -- any epoch is the epoch of the record itself
    let isSource (spool : JsonObject) : Bool :=
      if intent.fromSchemaVersion = 1 then isRecognizedPriorSpoolRecord spool intent.hostId
      else isSpoolRecordForSchema spool intent.fromSchemaVersion intent.hostId fun _ => true
    throwIf (!parsed.any isSource) (.error "Bridge runtime reset spool source schema is invalid")

/-- `assertRuntimeResetMembers`, of the bytes that were read. -/
def assertRuntimeResetMembers (intent : RuntimeResetIntentV1)
    (stateBytes spoolBytes : Option FileBytes) : Except Thrown Unit := do
  assertResetStateMember checks hash stateBytes intent
  assertResetSpoolMember hash spoolBytes intent
  if hashOptional hash stateBytes = intent.stateSourceHash
      ∧ hashOptional hash spoolBytes = intent.spoolSourceHash
      ∧ stateBytes.isSome ∧ spoolBytes.isSome then
    let state ← parseRawJson stateBytes "Bridge runtime reset state source"
    let spool ← parseRawJson spoolBytes "Bridge runtime reset spool source"
    throwIf (!(state.any fun state => spool.any fun spool =>
        hasResetSourceRelationships checks intent.fromSchemaVersion state spool intent.hostId))
      (.error "Bridge runtime reset source relationships are invalid")

end

/-! ### The journal of a migration -/

/-- `RuntimeMigrationIntentV1`. -/
structure RuntimeMigrationIntentV1 where
  hostId : JsString
  statePath : JsString
  spoolPath : JsString
  floorPath : JsString
  intentPath : JsString
  stateSourceHash : JsString
  spoolSourceHash : JsString
  floorSourceHash : JsString
  stateTargetHash : JsString
  spoolTargetHash : JsString
  floorTargetHash : JsString
  stateTarget : JsonObject
  spoolTarget : JsonObject
  floorTarget : JsonObject
  createdAt : JsString

/-- The intent as it is written. -/
def RuntimeMigrationIntentV1.toJson (intent : RuntimeMigrationIntentV1) : JsonObject :=
  objectLiteral [
    ("version", some (jsonInteger 1)),
    ("fromSchemaVersion", some (jsonInteger 3)),
    ("toSchemaVersion", some (jsonInteger 4)),
    ("hostId", some (.string intent.hostId)),
    ("statePath", some (.string intent.statePath)),
    ("spoolPath", some (.string intent.spoolPath)),
    ("floorPath", some (.string intent.floorPath)),
    ("intentPath", some (.string intent.intentPath)),
    ("stateSourceHash", some (.string intent.stateSourceHash)),
    ("spoolSourceHash", some (.string intent.spoolSourceHash)),
    ("floorSourceHash", some (.string intent.floorSourceHash)),
    ("stateTargetHash", some (.string intent.stateTargetHash)),
    ("spoolTargetHash", some (.string intent.spoolTargetHash)),
    ("floorTargetHash", some (.string intent.floorTargetHash)),
    ("stateTarget", some (.object intent.stateTarget)),
    ("spoolTarget", some (.object intent.spoolTarget)),
    ("floorTarget", some (.object intent.floorTarget)),
    ("createdAt", some (.string intent.createdAt))]

/-- The keys of a migration intent. -/
def migrationIntentKeys : List String :=
  ["version", "fromSchemaVersion", "toSchemaVersion", "hostId", "statePath", "spoolPath",
    "floorPath", "intentPath", "stateSourceHash", "spoolSourceHash", "floorSourceHash",
    "stateTargetHash", "spoolTargetHash", "floorTargetHash", "stateTarget", "spoolTarget",
    "floorTarget", "createdAt"]

section
variable (checks : CodecChecks) (hash : RuntimeHash)

/-- `assertMigrationIntentTargets`. -/
def assertMigrationIntentTargets (intent : RuntimeMigrationIntentV1) : Except Thrown Unit := do
  let state ← parseCurrentState checks intent.stateTarget intent.hostId
  let spool ← parseCurrentSpoolRecord intent.spoolTarget intent.hostId
    (textIn state "runtimeResetEpoch")
  let floor ← parseRuntimeSchemaFloor (some intent.floorTarget) intent.statePath intent.hostId
  throwIf (!isNumber 4 (floor.get? "minSchemaVersion"))
    (.error "Bridge runtime migration intent target is invalid")
  assertCurrentRuntimeRelationships checks state spool intent.hostId
  throwIf (decide (hash.hashBytes (serializeSecureJson intent.stateTarget)
          ≠ intent.stateTargetHash)
      || decide (hash.hashBytes (serializeSecureJson intent.spoolTarget)
          ≠ intent.spoolTargetHash)
      || decide (hash.hashBytes (serializeSecureJson floor) ≠ intent.floorTargetHash)
      || decide (intent.floorSourceHash ≠ absentHash))
    (.error "Bridge runtime migration intent target hash is invalid")

/-- The fields of a migration intent that was checked, where a target that is no record fails the
check of that target. -/
def readMigrationIntent (intent : JsonObject) : Except Thrown RuntimeMigrationIntentV1 := do
  throwIf (recordOf (intent.get? "stateTarget")).isNone
    (.error "Bridge runtime state schema is invalid")
  throwIf (recordOf (intent.get? "spoolTarget")).isNone
    (.error "current Bridge runtime spool schema is invalid")
  throwIf (recordOf (intent.get? "floorTarget")).isNone
    (.error "Bridge runtime schema floor is invalid")
  let text := textIn intent
  return {
    hostId := text "hostId"
    statePath := text "statePath"
    spoolPath := text "spoolPath"
    floorPath := text "floorPath"
    intentPath := text "intentPath"
    stateSourceHash := text "stateSourceHash"
    spoolSourceHash := text "spoolSourceHash"
    floorSourceHash := text "floorSourceHash"
    stateTargetHash := text "stateTargetHash"
    spoolTargetHash := text "spoolTargetHash"
    floorTargetHash := text "floorTargetHash"
    stateTarget := entriesOf (intent.get? "stateTarget")
    spoolTarget := entriesOf (intent.get? "spoolTarget")
    floorTarget := entriesOf (intent.get? "floorTarget")
    createdAt := text "createdAt" }

/-- `parseMigrationIntent`, of a record. -/
def parseMigrationIntent (value : JsonObject) (statePath : JsString) :
    Except Thrown RuntimeMigrationIntentV1 := do
  throwIf (!hasExactKeys value migrationIntentKeys
      || !isNumber 1 (value.get? "version") || !isNumber 3 (value.get? "fromSchemaVersion")
      || !isNumber 4 (value.get? "toSchemaVersion") || !isNonEmptyString (value.get? "hostId")
      || !(["statePath", "spoolPath", "floorPath", "intentPath"].all fun key =>
        isAbsoluteResolvedPath (value.get? key))
      || !(["stateSourceHash", "spoolSourceHash", "floorSourceHash", "stateTargetHash",
        "spoolTargetHash", "floorTargetHash"].all fun key => isRuntimeHash (value.get? key))
      || !(textOf (value.get? "createdAt")).any isCanonicalTimestampString)
    (.error "Bridge runtime migration intent is invalid")
  let text := textIn value
  let expectedStatePath := resolve statePath
  throwIf (decide (text "statePath" ≠ expectedStatePath)
      || decide (text "spoolPath" ≠ resolve (spoolPathForState expectedStatePath))
      || decide (text "floorPath" ≠ resolve (runtimeSchemaFloorPathForState expectedStatePath))
      || decide (text "intentPath"
        ≠ resolve (runtimeMigrationIntentPathForState expectedStatePath)))
    (.error "Bridge runtime migration intent path binding is invalid")
  let intent ← readMigrationIntent value
  assertMigrationIntentTargets checks hash intent
  return intent

/-- `assertMigrationMemberHash`. -/
def assertMigrationMemberHash (name : String) (bytes : Option FileBytes)
    (source target : JsString) : Except Thrown Unit :=
  throwIf (decide (hashOptional hash bytes ≠ source) && decide (hashOptional hash bytes ≠ target))
    (.error ("Bridge runtime migration " ++ name ++ " changed outside the migration journal"))

end

end Ariava.StateStore.RawState
