import Ariava.StateStore.RawState

/-!
# `Ariava.StateStore.StateMigration`: from schema 3 to schema 4

`isPriorStateRecordV3`, `parseCurrentState` and `migrateStateV3ToV4` of `state-codec.ts`, on the
values that `JSON.parse` gave. `structuredClone` of such a value is the value.

The relationship checks read maps under keys that come from the data, such as
`sessions[sessionId]`. Such a read also finds what every object inherits, so it is a
`PropertyRead`. An inherited value is truthy, and has none of the fields that the checks read.

`StateCodec` has the checks of the current schema on the typed state, with the spool.
-/

set_option autoImplicit false

namespace Ariava.StateStore.RawState

open Ariava.Protocol (JsonValue JsonObject JsonNumber JsString jsString Thrown throwIf checkAll)

/-! ### Reads under keys of the data -/

/-- The keys of `Object.prototype`. -/
def inheritedKeys : List String :=
  ["constructor", "hasOwnProperty", "isPrototypeOf", "propertyIsEnumerable", "toLocaleString",
    "toString", "valueOf", "__proto__", "__defineGetter__", "__defineSetter__",
    "__lookupGetter__", "__lookupSetter__"]

/-- What `map[key]` finds. -/
inductive PropertyRead
  | own (value : JsonValue)
  | inherited
  | missing

/-- `map[key]`. -/
def readProperty (map : JsonObject) (key : JsString) : PropertyRead :=
  match List.find? (fun property => decide (property.1 = key)) map with
  | some property => .own property.2
  | none => if key ∈ inheritedKeys.map jsString then .inherited else .missing

namespace PropertyRead

/-- Something was found. The values of the maps are records and texts that are not empty. -/
def isFound : PropertyRead → Bool
  | missing => false
  | _ => true

/-- The own value, or `undefined`. -/
def value : PropertyRead → JsValue
  | own value => some value
  | _ => none

/-- A field of what was found. -/
def field (read : PropertyRead) (key : String) : JsValue :=
  (recordOf read.value).bind fun record => record.get? key

end PropertyRead

/-- The entries of a map that was checked to be one. -/
def entriesOf (value : JsValue) : JsonObject := (recordOf value).getD []

/-- The record that a value was checked to be. -/
def recordIn (value : JsonValue) : JsonObject := (recordOf (some value)).getD []

/-- The elements of an array that was checked to be one. -/
def elementsOf (value : JsValue) : List JsonValue := (arrayOf value).getD []

/-- `producerReservationKey`. -/
def producerReservationKey (sessionId fingerprint : JsString) : JsString :=
  sessionId ++ jsString "\n" ++ fingerprint

/-- `sessionHandleKey`. -/
def sessionHandleKey (hostId sessionId : JsString) : JsString := hostId ++ jsString ":" ++ sessionId

/-- A field that was checked to be a text. -/
def textIn (record : JsonObject) (key : String) : JsString := (textOf (record.get? key)).getD []

/-- A field that was checked to be a safe integer. -/
def integerIn (record : JsonObject) (key : String) : Int :=
  (safeIntegerOf (record.get? key)).getD 0

/-- `record[key] === true`. -/
def isSet (record : JsonObject) (key : String) : Bool := isBoolean true (record.get? key)

/-! ### What both schemas check -/

/-- The events by their ids. -/
abbrev EventMap : Type := List (JsString × JsonObject)

/-- The host of a record is another one. -/
def isOfAnotherHost (record : JsonObject) (hostId : JsString) : Bool :=
  decide (textOf (record.get? "hostId") ≠ some hostId)

/-- `state.host && state.host.hostId !== hostId`. -/
def assertHost (state : JsonObject) (hostId : JsString) (message : String) : Except Thrown Unit :=
  throwIf ((recordOf (state.get? "host")).any fun host => isOfAnotherHost host hostId)
    (.error message)

/-- The loop over the Sessions. -/
def assertSessions (sessions : JsonObject) (hostId : JsString) (message : String) :
    Except Thrown Unit :=
  checkAll sessions fun entry =>
    throwIf (decide (textOf ((recordIn entry.2).get? "sessionId") ≠ some entry.1)
      || isOfAnotherHost (recordIn entry.2) hostId) (.error message)

/-- The loop over the recent events, which collects them by their ids. -/
def bindEvents (sessions : JsonObject) (hostId : JsString)
    (bindingMessage sessionMessage : String) : EventMap → List JsonValue → Except Thrown EventMap
  | events, [] => .ok events
  | events, item :: rest => do
      let event := recordIn item
      throwIf (isOfAnotherHost event hostId || (events.lookup (textIn event "eventId")).isSome)
        (.error bindingMessage)
      let session := readProperty sessions (textIn event "sessionId")
      throwIf (session.isFound
          && decide (textOf (session.field "provider") ≠ textOf (event.get? "provider")))
        (.error sessionMessage)
      bindEvents sessions hostId bindingMessage sessionMessage
        ((textIn event "eventId", event) :: events) rest

/-- The loop over the Session revisions. -/
def assertRevisions (sessionRevisions : JsonObject) (message : String) : Except Thrown Unit :=
  checkAll sessionRevisions fun entry =>
    throwIf ((safeIntegerOf (some entry.2)).any fun revision => decide (revision < 1))
      (.error message)

/-- A handle names a recent event of its Session. -/
def isHandleBound (events : EventMap) (hostId key : JsString) (handle : JsonObject) : Bool :=
  decide (key = sessionHandleKey hostId (textIn handle "sessionId"))
    && !isOfAnotherHost handle hostId
    && (events.lookup (textIn handle "handledThroughEventId")).any fun event =>
      decide (textOf (event.get? "sessionId") = textOf (handle.get? "sessionId"))
        && optionally (handle.get? "handledThroughEventCreatedAt") fun createdAt =>
          decide (textOf createdAt = textOf (event.get? "createdAt"))

/-- The loop over the pending handles. -/
def assertHandles (events : EventMap) (hostId : JsString) (handles : JsonObject)
    (message : String) : Except Thrown Unit :=
  checkAll handles fun entry =>
    throwIf (!isHandleBound events hostId entry.1 (recordIn entry.2)) (.error message)

/-- An event that is known is one of the Session. -/
def isOfSession (events : EventMap) (eventId sessionId : JsString) : Bool :=
  (events.lookup eventId).all fun event => decide (textOf (event.get? "sessionId") = some sessionId)

/-- A completion names an event of its Session, its revision is the current one, or the next one
while it is not committed, and its flags were set in their order. -/
def isCompletionBound (events : EventMap) (sessionRevisions : JsonObject) (eventId : JsString)
    (completion : JsonObject) : Bool :=
  let read := readProperty sessionRevisions (textIn completion "sessionId")
  let revision := integerIn completion "revision"
  let isRevision (number : Int) : Bool :=
    match read with
    | .own value => decide (safeIntegerOf (some value) = some number)
    | .inherited => false
    | .missing => decide (number = 0)
  decide (textOf (completion.get? "eventId") = some eventId)
    && isOfSession events eventId (textIn completion "sessionId")
    && (isRevision revision || (!isSet completion "revisionCommitted" && isRevision (revision - 1)))
    && (!isSet completion "inflightRemoved" || isSet completion "revisionCommitted")
    && (!isSet completion "sourceRemoved" || isSet completion "inflightRemoved")

/-- The loop over the upload completions. -/
def assertCompletions (events : EventMap) (sessionRevisions completions : JsonObject)
    (message : String) : Except Thrown Unit :=
  checkAll completions fun entry =>
    throwIf (!isCompletionBound events sessionRevisions entry.1 (recordIn entry.2))
      (.error message)

/-- The loop over the producer reservations. -/
def assertReservations (events : EventMap) (reservations : JsonObject) (message : String) :
    Except Thrown Unit :=
  checkAll reservations fun entry =>
    let reservation := recordIn entry.2
    throwIf (decide (entry.1 ≠ producerReservationKey (textIn reservation "sessionId")
          (textIn reservation "fingerprint"))
        || (events.lookup (textIn reservation "eventId")).any fun event =>
          decide (textOf (event.get? "sessionId") ≠ textOf (reservation.get? "sessionId"))
            || decide (textOf (event.get? "createdAt") ≠ textOf (reservation.get? "createdAt")))
      (.error message)

/-- The check of the publication: nothing accepted has no accepted fields, and something accepted
has all of them, for a recipient set that is known. -/
def isPublicationBound (state : JsonObject) : Bool :=
  let snapshot := entriesOf (state.get? "currentSessionsSnapshot")
  let acceptedKeys :=
    ["lastAcceptedDigest", "lastAcceptedContentDigest", "lastAcceptedRecipientSetVersion"]
  if integerIn snapshot "lastAcceptedRevision" = 0 then
    acceptedKeys.all fun key => (snapshot.get? key).isNone
  else (acceptedKeys.all fun key => (snapshot.get? key).isSome)
    && (state.get? "recipientSetVersion").isSome
    && decide (integerIn snapshot "lastAcceptedRecipientSetVersion"
      ≤ integerIn state "recipientSetVersion")

/-! ### The current schema -/

/-- `CURRENT_STATE_REQUIRED_KEYS`. -/
def currentStateRequiredKeys : List String :=
  ["schemaVersion", "runtimeResetEpoch", "host", "sessions", "sessionDrivers",
    "reconciledDrivers", "recentEvents", "sessionRevisions", "pendingHandles",
    "commandExecutions", "currentSessionsSnapshot"]

/-- `PRIOR_V3_STATE_REQUIRED_KEYS`. -/
def priorV3StateRequiredKeys : List String :=
  ["schemaVersion", "runtimeResetEpoch", "host", "sessions", "sessionDrivers",
    "reconciledDrivers", "recentEvents", "sessionRevisions", "pendingHandles",
    "commandResults", "seenCommands", "currentSessionsSnapshot"]

/-- `CURRENT_STATE_OPTIONAL_KEYS`. -/
def currentStateOptionalKeys : List String :=
  ["recipientSetVersion", "eventUploadCompletions", "producerEventReservations",
    "producerEventCheckpoints", "terminalCancellations", "runtimeHealth"]

/-- `value === null`. -/
def isNull : JsValue → Bool
  | some .null => true
  | _ => false

section
variable (checks : CodecChecks)

/-- The checks of the optional fields, which both schemas make. -/
def areOptionalFields (value : JsonObject) : Bool :=
  optionally (value.get? "recipientSetVersion") isPositiveSafeInteger
    && optionally (value.get? "eventUploadCompletions") (isValueMap isCurrentEventCompletion)
    && optionally (value.get? "producerEventReservations")
      (isValueMap isCurrentProducerReservation)
    && optionally (value.get? "producerEventCheckpoints") (isValueMap isCurrentProducerCheckpoint)
    && optionally (value.get? "terminalCancellations") (isValueMap isCurrentTerminalCancellation)
    && optionally (value.get? "runtimeHealth") (isCurrentRuntimeHealth checks)

/-- The fields that both schemas check alike, given the version. -/
def areCommonFields (schemaVersion : Int) (value : JsonObject) : Bool :=
  isNumber schemaVersion (value.get? "schemaVersion")
    && isRuntimeEpoch (value.get? "runtimeResetEpoch")
    && (isNull (value.get? "host") || isCurrentHost (value.get? "host"))
    && isStringMap (value.get? "sessionDrivers") && isTrueMap (value.get? "reconciledDrivers")
    && isNonNegativeIntegerMap (value.get? "sessionRevisions")
    && isValueMap isCurrentPendingHandle (value.get? "pendingHandles")
    && areOptionalFields checks value

/-- `isStateRecordOfShape`. -/
def isStateRecordOfShape (value : JsonObject) (schemaVersion : Int) : Bool :=
  hasExactOptionalKeys value currentStateRequiredKeys currentStateOptionalKeys
    && areCommonFields checks schemaVersion value
    && isValueMap isCurrentSession (value.get? "sessions")
    && ((arrayOf (value.get? "recentEvents")).any fun events =>
      events.all fun event => isCurrentEvent (some event))
    && isValueMap checks.isCommandExecution (value.get? "commandExecutions")
    && isCurrentSnapshot (value.get? "currentSessionsSnapshot")

/-- `isCurrentStateRecord`. -/
def isCurrentStateRecord (value : JsonObject) : Bool := isStateRecordOfShape checks value 4

/-- The loop over the drivers of the current schema. -/
def assertCurrentDrivers (sessions drivers : JsonObject) : Except Thrown Unit :=
  checkAll drivers fun entry =>
    let session := readProperty sessions entry.1
    throwIf (!session.isFound || decide (textOf (session.field "sessionId") ≠ some entry.1)
        || (!isText "agent-adapter" (some entry.2)
          && decide (textOf (some entry.2) ≠ textOf (session.field "provider"))))
      (.error "Bridge runtime Session driver binding is invalid")

/-- The loop over the command executions, with the nonce bindings that it has met. -/
def assertExecutions (hostId : JsString) : List JsString → JsonObject → Except Thrown Unit
  | _, [] => .ok ()
  | nonceBindings, entry :: rest => do
      throwIf (!checks.isCommandExecution (some entry.2))
        (.typeError "command execution is invalid")
      let execution := recordIn entry.2
      let command := entriesOf (execution.get? "originalEncryptedCommand")
      throwIf (decide (textOf (command.get? "commandId") ≠ some entry.1)
          || isOfAnotherHost command hostId)
        (.error "Bridge runtime command execution binding is invalid")
      let nonceBinding :=
        textIn execution "watchDeviceId" ++ jsString "\n" ++ textIn execution "nonce"
      throwIf (decide (nonceBinding ∈ nonceBindings))
        (.error "Bridge runtime command nonce binding is duplicated")
      assertExecutions hostId (nonceBinding :: nonceBindings) rest

/-- The loop over the producer checkpoints. -/
def assertCheckpoints (events : EventMap) (sessions checkpoints : JsonObject) :
    Except Thrown Unit :=
  checkAll checkpoints fun entry =>
    let checkpoint := recordIn entry.2
    throwIf (decide (textOf (checkpoint.get? "sessionId") ≠ some entry.1)
        || decide (entry.1 ∉ sessions.map Prod.fst)
        || !isOfSession events (textIn checkpoint "eventId") (textIn checkpoint "sessionId"))
      (.error "Bridge runtime producer Event checkpoint binding is invalid")

/-- The loop over the terminal cancellations of the current schema. -/
def assertCurrentCancellations (events : EventMap) (sessions cancellations : JsonObject) :
    Except Thrown Unit :=
  checkAll cancellations fun entry =>
    let cancellation := recordIn entry.2
    throwIf (decide (textOf (cancellation.get? "eventId") ≠ some entry.1)
        || (!isSet cancellation "removeSession"
          && decide (textIn cancellation "sessionId" ∉ sessions.map Prod.fst))
        || !isOfSession events entry.1 (textIn cancellation "sessionId"))
      (.error "Bridge runtime terminal cancellation binding is invalid")

/-- `assertCurrentStateRelationships`, with `assertCurrentPublicationRelationships`. -/
def assertCurrentStateRelationships (state : JsonObject) (hostId : JsString) :
    Except Thrown Unit := do
  let sessions := entriesOf (state.get? "sessions")
  assertHost state hostId "Bridge runtime Host projection belongs to another Host"
  assertSessions sessions hostId "Bridge runtime Session binding is invalid"
  assertCurrentDrivers sessions (entriesOf (state.get? "sessionDrivers"))
  let events ← bindEvents sessions hostId "Bridge runtime Event binding is invalid"
    "Bridge runtime Event references an invalid Session" []
    (elementsOf (state.get? "recentEvents"))
  assertRevisions (entriesOf (state.get? "sessionRevisions"))
    "Bridge runtime Session revision binding is invalid"
  assertHandles events hostId (entriesOf (state.get? "pendingHandles"))
    "Bridge runtime handle binding is invalid"
  assertExecutions checks hostId [] (entriesOf (state.get? "commandExecutions"))
  assertCompletions events (entriesOf (state.get? "sessionRevisions"))
    (entriesOf (state.get? "eventUploadCompletions"))
    "Bridge runtime Event completion binding is invalid"
  assertReservations events (entriesOf (state.get? "producerEventReservations"))
    "Bridge runtime producer fingerprint binding is invalid"
  assertCheckpoints events sessions (entriesOf (state.get? "producerEventCheckpoints"))
  assertCurrentCancellations events sessions (entriesOf (state.get? "terminalCancellations"))
  throwIf (!isPublicationBound state)
    (.error "Bridge runtime current publication binding is invalid")

/-- `parseCurrentState` of a record, for a given Host. -/
def parseCurrentState (value : JsonObject) (hostId : JsString) : Except Thrown JsonObject := do
  throwIf (!isCurrentStateRecord checks value) (.error "Bridge runtime state schema is invalid")
  assertCurrentStateRelationships checks value hostId
  return value

/-! ### The prior schema -/

/-- The loop over the drivers of the prior schema. -/
def assertPriorDrivers (sessions drivers : JsonObject) : Except Thrown Unit :=
  checkAll drivers fun entry =>
    let session := readProperty sessions entry.1
    throwIf (!session.isFound
        || decide (textOf (session.field "provider") ≠ textOf (some entry.2)))
      (.error "prior driver binding is invalid")

/-- The loop over the command results. -/
def assertResults (events : EventMap) (sessions seen : JsonObject) (hostId : JsString)
    (results : JsonObject) : Except Thrown Unit :=
  checkAll results fun entry =>
    let result := recordIn entry.2
    let session := readProperty sessions (textIn result "sessionId")
    let lastEventId := textOf (session.field "lastEventId")
    throwIf (decide (textOf (result.get? "commandId") ≠ some entry.1)
        || isOfAnotherHost result hostId
        || (lastEventId.any fun eventId => decide
          (((events.lookup eventId).bind fun event => textOf (event.get? "sessionId"))
            ≠ textOf (result.get? "sessionId")))
        || decide (textOf (readProperty seen entry.1).value ≠ textOf (result.get? "updatedAt")))
      (.error "prior command result binding is invalid")

/-- The loop over the terminal cancellations of the prior schema. -/
def assertPriorCancellations (events : EventMap) (cancellations : JsonObject) :
    Except Thrown Unit :=
  checkAll cancellations fun entry =>
    let cancellation := recordIn entry.2
    throwIf (decide (textOf (cancellation.get? "eventId") ≠ some entry.1)
        || !isOfSession events entry.1 (textIn cancellation "sessionId"))
      (.error "prior terminal cancellation binding is invalid")

/-- `assertPriorStateV3Relationships`. -/
def assertPriorStateV3Relationships (state : JsonObject) (hostId : JsString) :
    Except Thrown Unit := do
  let sessions := entriesOf (state.get? "sessions")
  let results := entriesOf (state.get? "commandResults")
  let seen := entriesOf (state.get? "seenCommands")
  assertHost state hostId "prior Host projection belongs to another Host"
  assertSessions sessions hostId "prior Session binding is invalid"
  assertPriorDrivers sessions (entriesOf (state.get? "sessionDrivers"))
  let events ← bindEvents sessions hostId "prior Event binding is invalid"
    "prior Event Session binding is invalid" [] (elementsOf (state.get? "recentEvents"))
  assertRevisions (entriesOf (state.get? "sessionRevisions")) "prior revision is invalid"
  assertHandles events hostId (entriesOf (state.get? "pendingHandles"))
    "prior handle binding is invalid"
  assertResults events sessions seen hostId results
  throwIf (List.any seen fun entry => !(readProperty results entry.1).isFound)
    (.error "prior seen-command binding is invalid")
  assertCompletions events (entriesOf (state.get? "sessionRevisions"))
    (entriesOf (state.get? "eventUploadCompletions")) "prior Event completion binding is invalid"
  assertReservations events (entriesOf (state.get? "producerEventReservations"))
    "prior producer fingerprint binding is invalid"
  assertPriorCancellations events (entriesOf (state.get? "terminalCancellations"))
  throwIf (!isPublicationBound state) (.error "prior publication binding is invalid")

/-- `isPriorStateRecordV3`. -/
def isPriorStateRecordV3 (value : JsonObject) (hostId : JsString) : Bool :=
  hasExactOptionalKeys value priorV3StateRequiredKeys currentStateOptionalKeys
    && areCommonFields checks 3 value
    && isValueMap isObsoleteSession (value.get? "sessions")
    && ((arrayOf (value.get? "recentEvents")).any fun events =>
      events.all fun event => isObsoleteEvent (some event))
    && isValueMap isPriorCommandResult (value.get? "commandResults")
    && isStringMap (value.get? "seenCommands")
    && isObsoleteSnapshot (value.get? "currentSessionsSnapshot")
    && (assertPriorStateV3Relationships value hostId).toBool

/-! ### The migration -/

/-- An object literal. A field that is spread in when it is defined is one whose value may be
`undefined`. -/
def objectLiteral (fields : List (String × JsValue)) : JsonObject :=
  fields.filterMap fun field => field.2.map fun value => (jsString field.1, value)

/-- The keys of a Session that the migration copies. -/
def migratedSessionKeys : List String :=
  ["sessionId", "hostId", "provider", "projectName", "nameText", "openingText",
    "latestActivityText", "workingDirectory", "harnessProvider", "status", "updatedAt",
    "snoozedUntil"]

/-- A Session after the migration. -/
def migratedSession (session : JsonObject) : JsonObject :=
  objectLiteral (migratedSessionKeys.map fun key => (key, session.get? key))

/-- A driver after the migration. -/
def migratedDriver (driver : JsonValue) : JsonValue :=
  if isText "pi" (some driver) then .string (jsString "agent-adapter") else driver

/-- A number of the target. -/
def jsonInteger (number : Int) : JsonValue := .number (.finite number)

/-- The target of `migrateStateV3ToV4`. -/
def migrationTarget (value : JsonObject) : JsonObject :=
  let snapshot := entriesOf (value.get? "currentSessionsSnapshot")
  objectLiteral [
    ("schemaVersion", some (jsonInteger 4)),
    ("runtimeResetEpoch", value.get? "runtimeResetEpoch"),
    ("host", value.get? "host"),
    ("sessions", some (.object ((entriesOf (value.get? "sessions")).map fun entry =>
      (entry.1, .object (migratedSession (recordIn entry.2)))))),
    ("sessionDrivers", some (.object ((entriesOf (value.get? "sessionDrivers")).map fun entry =>
      (entry.1, migratedDriver entry.2)))),
    ("reconciledDrivers", value.get? "reconciledDrivers"),
    ("recentEvents", some (.array [])),
    ("sessionRevisions", value.get? "sessionRevisions"),
    ("recipientSetVersion", value.get? "recipientSetVersion"),
    ("pendingHandles", some (.object [])),
    ("commandExecutions", some (.object [])),
    ("currentSessionsSnapshot", some (.object (objectLiteral [
      ("version", some (jsonInteger 1)),
      ("lastAllocatedRevision", some (jsonInteger (max (integerIn snapshot "lastAllocatedRevision")
        (integerIn snapshot "lastAcceptedRevision")))),
      ("lastAcceptedRevision", some (jsonInteger 0))]))),
    ("runtimeHealth", value.get? "runtimeHealth")]

/-- `migrateStateV3ToV4`. -/
def migrateStateV3ToV4 (value : JsonObject) (hostId : JsString) : Except Thrown JsonObject := do
  throwIf (!isPriorStateRecordV3 checks value hostId)
    (.error "Bridge runtime schema v3 is invalid")
  parseCurrentState checks (migrationTarget value) hostId

end

end Ariava.StateStore.RawState
