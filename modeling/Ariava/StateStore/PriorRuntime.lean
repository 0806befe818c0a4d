import Ariava.Protocol.JsonText
import Ariava.StateStore.StateMigration

/-!
# `Ariava.StateStore.PriorRuntime`: the runtimes that are reset

The checks of `state-codec.ts` on the states and spools of the schemas 1 and 2, which a start
replaces by empty ones, and on a spool of any schema. Like those of `StateMigration` they look at
what `JSON.parse` gave.

A state of schema 1 may lack any of its fields. Where its relationships read a map under a key
of the data, an inherited property is found too: it is truthy, none of its fields are there, and
no comparison of numbers with it is true.
-/

set_option autoImplicit false

namespace Ariava.StateStore.RawState

open Ariava.Protocol (JsonValue JsonObject JsonNumber JsString jsString Thrown throwIf checkAll
  base64UrlByteCount? stringify)

/-! ### Spools -/

/-- `isVerifier`. -/
def isVerifier (value : JsValue) : Bool :=
  (textOf value).any fun text => decide (text.length = 43)
    && text.all fun unit => unitIn 'A' 'Z' unit || unitIn 'a' 'z' unit || isDigitUnit unit
      || unitIs '_' unit || unitIs '-' unit

/-- `LOCAL_SPOOL_PAYLOAD_KINDS`. -/
def localSpoolPayloadKinds : List String :=
  ["event-source-v3", "event-reservation-v3", "event-dead-letter-v3", "session-source-v3",
    "event-upload-v3", "session-upload-v3", "terminal-cancellation-v3"]

/-- `PRIOR_V2_SPOOL_KINDS`. -/
def priorV2SpoolKinds : List String :=
  ["event-source-v2", "event-reservation-v2", "event-dead-letter-v2", "session-source-v2",
    "event-upload-v2", "session-upload-v2", "terminal-cancellation-v2"]

/-- `PRIOR_V1_SPOOL_KINDS`. -/
def priorV1SpoolKinds : List String :=
  ["event-source-v1", "event-dead-letter-v1", "session-source-v1", "event-upload-v1",
    "session-upload-v1"]

/-- `base64UrlDecode` returns this many bytes, by the test. -/
def isBase64UrlOf (isCount : Nat → Bool) (value : JsValue) : Bool :=
  (textOf value).any fun text => (base64UrlByteCount? text).any isCount

/-- `isRawSpoolItem`, with the payload kinds of the schema. -/
def isRawSpoolItem (hostId : JsString) (payloadKinds : List String) : JsValue → Bool :=
  isRecordWith ["version", "spoolItemId", "hostId", "sessionId", "payloadKind", "nonce",
      "ciphertext", "aadVersion", "createdAt"] ["eventId"] fun item =>
    isNumber 1 (item.get? "version")
      && decide (textOf (item.get? "hostId") = some hostId)
      && areNonEmptyStrings item ["spoolItemId", "sessionId", "nonce", "ciphertext", "createdAt"]
      && optionally (item.get? "eventId") isNonEmptyString
      && isOneOf payloadKinds (item.get? "payloadKind")
      && isNumber 1 (item.get? "aadVersion")
      && isBase64UrlOf (fun count => decide (count = 12)) (item.get? "nonce")
      && isBase64UrlOf (fun count => decide (16 ≤ count)) (item.get? "ciphertext")

/-- `isSpoolRecordForSchema`. The comparison with the epoch is an argument, since a caller may
pass the epoch of the value itself. -/
def isSpoolRecordForSchema (value : JsonObject) (schemaVersion : Int) (hostId : JsString)
    (isEpoch : JsValue → Bool) : Bool :=
  hasExactKeys value
      ["version", "runtimeStateSchemaVersion", "runtimeResetEpoch", "hostId", "keyId", "items"]
    && isNumber 2 (value.get? "version")
    && isNumber schemaVersion (value.get? "runtimeStateSchemaVersion")
    && isEpoch (value.get? "runtimeResetEpoch")
    && decide (textOf (value.get? "hostId") = some hostId)
    && isVerifier (value.get? "keyId")
    && (arrayOf (value.get? "items")).any fun items => items.all fun item =>
      isRawSpoolItem hostId
        (if schemaVersion = 4 then localSpoolPayloadKinds else priorV2SpoolKinds) (some item)

/-- The epoch is this text. -/
def isEpochOf (epoch : JsString) (value : JsValue) : Bool := decide (textOf value = some epoch)

/-- The items of a spool that was checked to have them. -/
def spoolItemsOf (spool : JsonObject) : List JsonObject :=
  (elementsOf (spool.get? "items")).map recordIn

/-- The binding of an item of a prior kind to its Event or its Session. -/
def isPriorSpoolItemBound (item : JsonObject) : Bool :=
  let kind := item.get? "payloadKind"
  let isItemOfEvent (itemPrefix : String) : Bool :=
    (textOf (item.get? "eventId")).any fun eventId => !eventId.isEmpty
      && decide (textOf (item.get? "spoolItemId") = some (jsString itemPrefix ++ eventId))
  let isItemOfSession (itemPrefix : String) : Bool :=
    (item.get? "eventId").isNone
      && decide (textOf (item.get? "spoolItemId")
        = some (jsString itemPrefix ++ textIn item "sessionId"))
  if isOneOf ["event-source-v1", "event-source-v2", "event-reservation-v2"] kind then
    isItemOfEvent ""
  else if isOneOf ["event-dead-letter-v1", "event-dead-letter-v2"] kind then
    isItemOfEvent "dead-letter:event:"
  else if isOneOf ["session-source-v1", "session-source-v2"] kind then isItemOfSession ""
  else if isOneOf ["event-upload-v1", "event-upload-v2"] kind then isItemOfEvent "inflight:event:"
  else if isOneOf ["session-upload-v1", "session-upload-v2"] kind then
    isItemOfSession "inflight:session:"
  else if isText "terminal-cancellation-v2" kind then isItemOfEvent "cancel:terminal:"
  else false

/-- `hasRecognizedPriorSpoolRelationships`. -/
def hasRecognizedPriorSpoolRelationships (items : List JsonObject) : Bool :=
  decide ((items.map fun item => textIn item "spoolItemId").Nodup)
    && items.all isPriorSpoolItemBound

/-- `isRecognizedPriorSpoolRecord`. -/
def isRecognizedPriorSpoolRecord (value : JsonObject) (hostId : JsString) : Bool :=
  if hasExactKeys value ["version", "items"] && isNumber 1 (value.get? "version")
      && ((arrayOf (value.get? "items")).any fun items => items.all fun item =>
        isRawSpoolItem hostId priorV1SpoolKinds (some item)) then
    hasRecognizedPriorSpoolRelationships (spoolItemsOf value)
  else
    isSpoolRecordForSchema value 2 hostId (isEpochOf (jsString "standalone"))
      && hasRecognizedPriorSpoolRelationships (spoolItemsOf value)

/-- `parseCurrentSpoolRecord`. -/
def parseCurrentSpoolRecord (value : JsonObject) (hostId epoch : JsString) :
    Except Thrown JsonObject := do
  throwIf (!isSpoolRecordForSchema value 4 hostId (isEpochOf epoch))
    (.error "current Bridge runtime spool schema is invalid")
  return value

/-- The value of a key is replaced, where it is. -/
def withProperty (record : JsonObject) (key : String) (value : JsonValue) : JsonObject :=
  record.map fun property =>
    if property.1 = jsString key then (property.1, value) else property

/-- `migrateSpoolV3ToV4`. -/
def migrateSpoolV3ToV4 (value : JsonObject) (hostId : JsString) (epoch : JsString) :
    Except Thrown JsonObject := do
  throwIf (!isSpoolRecordForSchema value 3 hostId (isEpochOf epoch))
    (.error "Bridge runtime spool schema v3 is invalid")
  return withProperty (withProperty value "runtimeStateSchemaVersion" (jsonInteger 4)) "items"
    (.array [])

/-! ### Schema 2 -/

/-- `isSchema2Event`. -/
def isSchema2Event (value : JsValue) : Bool :=
  ((recordOf value).any fun event => (event.get? "typeLabel").isSome) && isObsoleteEvent value

section
variable (checks : CodecChecks)

/-- `isObsoleteStateRecord`. -/
def isObsoleteStateRecord (value : JsonObject) (hostId : JsString) : Bool :=
  hasExactOptionalKeys value priorV3StateRequiredKeys currentStateOptionalKeys
    && areCommonFields checks 2 value
    && isValueMap isCurrentSession (value.get? "sessions")
    && ((arrayOf (value.get? "recentEvents")).any fun events =>
      events.all fun event => isSchema2Event (some event))
    && isValueMap isPriorCommandResult (value.get? "commandResults")
    && isStringMap (value.get? "seenCommands")
    && isCurrentSnapshot (value.get? "currentSessionsSnapshot")
    && (assertPriorStateV3Relationships value hostId).toBool

end

/-! ### Schema 1 -/

/-- `PRIOR_STATE_KEYS`. -/
def priorStateKeys : List String :=
  ["schemaVersion", "host", "sessions", "sessionDrivers", "reconciledDrivers", "recentEvents",
    "pendingEvents", "sessionRevisions", "recipientSetVersion", "spoolMigration",
    "eventUploadCompletions", "producerEventReservations", "terminalCancellations",
    "pendingHandles", "pendingReads", "commandResults", "seenCommands", "currentSessionsSnapshot"]

/-- `PRIOR_SESSION_REQUIRED_KEYS`. -/
def priorSessionRequiredKeys : List String := sessionRequiredKeys ++ ["stateLabel"]

/-- The record names the Host. -/
def isOfHost (hostId : JsString) (record : JsonObject) : Bool :=
  decide (textOf (record.get? "hostId") = some hostId)

/-- `isRecognizedPriorHost`. -/
def isRecognizedPriorHost (hostId : JsString) (value : JsValue) : Bool :=
  (recordOf value).any fun host => isOfHost hostId host
    && hasOnlyKeys host ["hostId", "hostName", "platform", "bridgeVersion", "registeredAt",
      "lastSeenAt", "bridgeStatus", "status", "claimCode", "claimCodeExpiresAt", "ownerUserId"]
    && List.all host fun entry =>
      if entry.1 = jsString "hostId" then true
      else if entry.1 = jsString "platform" then isOneOf ["macos", "linux"] (some entry.2)
      else if entry.1 = jsString "bridgeStatus" then
        isOneOf ["online", "offline", "degraded"] (some entry.2)
      else if entry.1 = jsString "status" then isOneOf ["active", "revoked"] (some entry.2)
      else isString (some entry.2)

/-- The statuses of schema 1. -/
def priorStatuses : List String := ["idle", "working", "blocked", "done", "unknown"]

/-- `isRecognizedPriorSession`. -/
def isRecognizedPriorSession (hostId : JsString) : JsValue → Bool :=
  isRecordWith priorSessionRequiredKeys obsoleteSessionOptionalKeys fun session =>
    isOfHost hostId session
      && areNonEmptyStrings session
        (priorSessionRequiredKeys.filter fun key => decide (key ≠ "status"))
      && isOneOf priorStatuses (session.get? "status")
      && obsoleteSessionOptionalKeys.all (isOptionalField session)

/-- The optional keys of an event without `needHuman`. -/
def priorEventOptionalKeys : List String :=
  obsoleteEventOptionalKeys.filter fun key => decide (key ≠ "needHuman")

/-- `isRecognizedPriorEvent`. -/
def isRecognizedPriorEvent (hostId : JsString) : JsValue → Bool :=
  isRecordWith obsoleteEventRequiredKeys priorEventOptionalKeys fun event =>
    isOfHost hostId event
      && areNonEmptyStrings event (obsoleteEventRequiredKeys.filter fun key =>
        decide (key ≠ "type") && decide (key ≠ "status"))
      && isOneOf ["working", "blocked", "done", "question_requested"] (event.get? "type")
      && isOneOf priorStatuses (event.get? "status")
      && priorEventOptionalKeys.all (isOptionalField event)

/-- `isRecognizedPriorSpoolMigration`. -/
def isRecognizedPriorSpoolMigration : JsValue → Bool :=
  isRecordOf ["version", "remainingEventIds", "startedAt"] fun migration =>
    isNumber 1 (migration.get? "version")
      && ((arrayOf (migration.get? "remainingEventIds")).any fun eventIds =>
        eventIds.all fun eventId => isNonEmptyString (some eventId))
      && isNonEmptyString (migration.get? "startedAt")

/-- `isRecognizedPriorRead`. -/
def isRecognizedPriorRead : JsValue → Bool :=
  isRecordWith ["hostId", "sessionId", "latestReadEventId", "readAt", "source", "updatedAt"]
    ["latestReadEventCreatedAt"] fun read =>
    areNonEmptyStrings read ["hostId", "sessionId", "latestReadEventId", "readAt", "updatedAt"]
      && isOneOf ["pi_local_interaction", "bridge_recovery"] (read.get? "source")
      && optionally (read.get? "latestReadEventCreatedAt") isNonEmptyString

/-- `isRecognizedPriorPublication`. -/
def isRecognizedPriorPublication (hostId : JsString) : JsValue → Bool :=
  isRecordOf ["request", "digest", "contentDigest"] fun publication =>
    areNonEmptyStrings publication ["digest", "contentDigest"]
      && isRecordOf ["hostId", "revision", "observedAt", "recipientSetVersion", "sessions"]
        (fun request => isOfHost hostId request
          && isPositiveSafeInteger (request.get? "revision")
          && isNonEmptyString (request.get? "observedAt")
          && isPositiveSafeInteger (request.get? "recipientSetVersion")
          && ((arrayOf (request.get? "sessions")).any fun sessions => sessions.all fun session =>
            isRecordOf ["sessionId", "sessionRevision"] (fun published =>
              isNonEmptyString (published.get? "sessionId")
                && isPositiveSafeInteger (published.get? "sessionRevision")) (some session)))
        (publication.get? "request")

/-- `isRecognizedPriorSnapshot`. -/
def isRecognizedPriorSnapshot (hostId : JsString) : JsValue → Bool :=
  isRecordWith ["version", "lastAllocatedRevision", "lastAcceptedRevision"]
    ["lastAcceptedDigest", "lastAcceptedContentDigest", "lastAcceptedRecipientSetVersion",
      "pending"] fun snapshot =>
    isNumber 1 (snapshot.get? "version")
      && isNonNegativeSafeInteger (snapshot.get? "lastAllocatedRevision")
      && isNonNegativeSafeInteger (snapshot.get? "lastAcceptedRevision")
      && optionally (snapshot.get? "pending") (isRecognizedPriorPublication hostId)
      && optionally (snapshot.get? "lastAcceptedDigest") isString
      && optionally (snapshot.get? "lastAcceptedContentDigest") isString
      && optionally (snapshot.get? "lastAcceptedRecipientSetVersion") isPositiveSafeInteger

/-- `isKeyedValueMap`. -/
def isKeyedValueMap (predicate : JsValue → Bool) (idKey : String) (value : JsValue) : Bool :=
  (recordOf value).any fun map => List.all map fun entry => predicate (some entry.2)
    && (recordOf (some entry.2)).any fun item => decide (textOf (item.get? idKey) = some entry.1)

/-- `Array.isArray(value) && value.every(predicate)`. -/
def isArrayOf (predicate : JsValue → Bool) (value : JsValue) : Bool :=
  (arrayOf value).any fun elements => elements.all fun element => predicate (some element)

/-- The events of a state by their ids, or nothing when two of one id differ, or one has another
provider than its Session. -/
def bindPriorEvents (sessions : JsonObject) : EventMap → List JsonObject → Option EventMap
  | events, [] => some events
  | events, event :: rest =>
    let eventId := textIn event "eventId"
    let session := readProperty sessions (textIn event "sessionId")
    if ((events.lookup eventId).any fun existing =>
          decide (stringify (.object existing) ≠ stringify (.object event)))
        || (session.isFound
          && decide (textOf (session.field "provider") ≠ textOf (event.get? "provider"))) then none
    else bindPriorEvents sessions ((eventId, event) :: events) rest

/-- The event is known, and one of the Session. -/
def isKnownEventOf (events : EventMap) (eventId sessionId : JsString) : Bool :=
  (events.lookup eventId).any fun event =>
    decide (textOf (event.get? "sessionId") = some sessionId)

/-- The loop over the upload completions of schema 1. -/
def isPriorCompletionBound (events : EventMap) (sessions sessionRevisions : JsonObject)
    (eventId : JsString) (completion : JsonObject) : Bool :=
  let sessionId := textIn completion "sessionId"
  let revision := integerIn completion "revision"
  let isRevision : Bool :=
    match readProperty sessionRevisions sessionId with
    | .own value => decide (revision - 1 ≤ (safeIntegerOf (some value)).getD 0)
        && decide ((safeIntegerOf (some value)).getD 0 ≤ revision)
    | .inherited => true
    | .missing => decide (revision - 1 ≤ 0) && decide (0 ≤ revision)
  decide (textOf (completion.get? "eventId") = some eventId)
    && (readProperty sessions sessionId).isFound
    && isKnownEventOf events eventId sessionId
    && isRevision
    && (!isSet completion "inflightRemoved" || isSet completion "revisionCommitted")
    && (!isSet completion "sourceRemoved" || isSet completion "inflightRemoved")

/-- The loop over the producer reservations of schema 1. -/
def isPriorReservationBound (events : EventMap) (sessions : JsonObject) (key : JsString)
    (reservation : JsonObject) : Bool :=
  let sessionId := textIn reservation "sessionId"
  decide (key = producerReservationKey sessionId (textIn reservation "fingerprint"))
    && (readProperty sessions sessionId).isFound
    && isKnownEventOf events (textIn reservation "eventId") sessionId

/-- The loop over the terminal cancellations of schema 1. -/
def isPriorCancellationBound (events : EventMap) (sessions reservations : JsonObject)
    (eventId : JsString) (cancellation : JsonObject) : Bool :=
  let sessionId := textIn cancellation "sessionId"
  let related := (reservations.map fun entry => recordIn entry.2).find? fun reservation =>
    decide (textOf (reservation.get? "eventId") = some eventId)
  decide (textOf (cancellation.get? "eventId") = some eventId)
    && isKnownEventOf events eventId sessionId
    && (isSet cancellation "removeSession" || (readProperty sessions sessionId).isFound)
    && related.all fun reservation =>
      decide (textOf (reservation.get? "sessionId") = some sessionId)
        && decide (textOf (reservation.get? "fingerprint")
          = textOf (cancellation.get? "fingerprint"))

/-- The loop over the pending handles of schema 1. -/
def isPriorHandleBound (events : EventMap) (hostId key : JsString) (handle : JsonObject) : Bool :=
  isHandleBound events hostId key handle
    && (events.lookup (textIn handle "handledThroughEventId")).any (isOfHost hostId)

/-- The loop over the pending reads of schema 1. -/
def isPriorReadBound (events : EventMap) (sessions : JsonObject) (hostId key : JsString)
    (read : JsonObject) : Bool :=
  let sessionId := textIn read "sessionId"
  decide (key = sessionHandleKey hostId sessionId) && isOfHost hostId read
    && (readProperty sessions sessionId).isFound
    && isKnownEventOf events (textIn read "latestReadEventId") sessionId

/-- `hasRecognizedPriorPublicationRelationships`. -/
def hasRecognizedPriorPublicationRelationships (state sessions : JsonObject) : Bool :=
  (recordOf (state.get? "currentSessionsSnapshot")).all fun snapshot =>
    let allocated := integerIn snapshot "lastAllocatedRevision"
    let accepted := integerIn snapshot "lastAcceptedRevision"
    let recipientSetVersion := safeIntegerOf (state.get? "recipientSetVersion")
    let isKnownVersion (version : Int) : Bool :=
      recipientSetVersion.any fun known => decide (version ≤ known)
    let acceptedKeys :=
      ["lastAcceptedDigest", "lastAcceptedContentDigest", "lastAcceptedRecipientSetVersion"]
    let sessionRevisions := entriesOf (state.get? "sessionRevisions")
    decide (accepted ≤ allocated)
      && (if accepted = 0 then acceptedKeys.all fun key => (snapshot.get? key).isNone
        else acceptedKeys.all fun key => (snapshot.get? key).isSome)
      && (decide (accepted = 0)
        || isKnownVersion (integerIn snapshot "lastAcceptedRecipientSetVersion"))
      && (recordOf (snapshot.get? "pending")).all fun pending =>
        let request := entriesOf (pending.get? "request")
        let published := (elementsOf (request.get? "sessions")).map recordIn
        decide (integerIn request "revision" ≤ allocated)
          && isKnownVersion (integerIn request "recipientSetVersion")
          && decide ((published.map fun session => textIn session "sessionId").Nodup)
          && published.all fun session =>
            let sessionId := textIn session "sessionId"
            (readProperty sessions sessionId).isFound
              && decide (safeIntegerOf (readProperty sessionRevisions sessionId).value
                = safeIntegerOf (session.get? "sessionRevision"))

/-- `hasRecognizedPriorStateRelationships`. -/
def hasRecognizedPriorStateRelationships (state : JsonObject) (hostId : JsString) : Bool :=
  let sessions := entriesOf (state.get? "sessions")
  let recentEvents := (elementsOf (state.get? "recentEvents")).map recordIn
  let pendingEvents := (elementsOf (state.get? "pendingEvents")).map recordIn
  let sessionRevisions := entriesOf (state.get? "sessionRevisions")
  let reservations := entriesOf (state.get? "producerEventReservations")
  let seen := entriesOf (state.get? "seenCommands")
  let results := entriesOf (state.get? "commandResults")
  let idOf (event : JsonObject) : JsString := textIn event "eventId"
  let all (key : String) (isBound : JsString → JsonObject → Bool) : Bool :=
    List.all (entriesOf (state.get? key)) fun entry => isBound entry.1 (recordIn entry.2)
  (bindPriorEvents sessions [] (recentEvents ++ pendingEvents)).any fun events =>
    decide ((recentEvents.map idOf).Nodup) && decide ((pendingEvents.map idOf).Nodup)
      && (assertPriorDrivers sessions (entriesOf (state.get? "sessionDrivers"))).toBool
      && (assertRevisions sessionRevisions "").toBool
      && ((recordOf (state.get? "spoolMigration")).all fun migration =>
        let remaining := (elementsOf (migration.get? "remainingEventIds")).map fun eventId =>
          (textOf (some eventId)).getD []
        decide remaining.Nodup
          && remaining.all fun eventId => decide (eventId ∈ pendingEvents.map idOf))
      && all "eventUploadCompletions" (isPriorCompletionBound events sessions sessionRevisions)
      && all "producerEventReservations" (isPriorReservationBound events sessions)
      && all "terminalCancellations" (isPriorCancellationBound events sessions reservations)
      && all "pendingHandles" (isPriorHandleBound events hostId)
      && all "pendingReads" (isPriorReadBound events sessions hostId)
      && (assertResults events sessions seen hostId results).toBool
      && (seen.all fun entry => (readProperty results entry.1).isFound)
      && hasRecognizedPriorPublicationRelationships state sessions

/-- `isRecognizedPriorStateRecord`. -/
def isRecognizedPriorStateRecord (value : JsonObject) (hostId : JsString) : Bool :=
  hasOnlyKeys value priorStateKeys
    && optionally (value.get? "schemaVersion") (isNumber 1)
    && optionally (value.get? "host") (fun host => isNull host || isRecognizedPriorHost hostId host)
    && optionally (value.get? "sessions")
      (isKeyedValueMap (isRecognizedPriorSession hostId) "sessionId")
    && optionally (value.get? "sessionDrivers") isStringMap
    && optionally (value.get? "reconciledDrivers") isTrueMap
    && optionally (value.get? "recentEvents") (isArrayOf (isRecognizedPriorEvent hostId))
    && optionally (value.get? "pendingEvents") (isArrayOf (isRecognizedPriorEvent hostId))
    && optionally (value.get? "sessionRevisions") isNonNegativeIntegerMap
    && optionally (value.get? "recipientSetVersion") isPositiveSafeInteger
    && optionally (value.get? "spoolMigration") isRecognizedPriorSpoolMigration
    && optionally (value.get? "eventUploadCompletions") (isValueMap isCurrentEventCompletion)
    && optionally (value.get? "producerEventReservations")
      (isValueMap isCurrentProducerReservation)
    && optionally (value.get? "terminalCancellations") (isValueMap isCurrentTerminalCancellation)
    && optionally (value.get? "pendingHandles") (isValueMap isCurrentPendingHandle)
    && optionally (value.get? "pendingReads") (isValueMap isRecognizedPriorRead)
    && optionally (value.get? "commandResults") (isValueMap isPriorCommandResult)
    && optionally (value.get? "seenCommands") isStringMap
    && optionally (value.get? "currentSessionsSnapshot") (isRecognizedPriorSnapshot hostId)
    && hasRecognizedPriorStateRelationships value hostId

/-! ### State and spool together -/

/-- `hasRecognizedPriorRuntimeRelationships`. -/
def hasRecognizedPriorRuntimeRelationships (state spool : JsonObject) : Bool :=
  let sessions := entriesOf (state.get? "sessions")
  let events : EventMap := ((elementsOf (state.get? "recentEvents")
      ++ elementsOf (state.get? "pendingEvents")).map fun event =>
    (textIn (recordIn event) "eventId", recordIn event)).reverse
  let itemIds := (spoolItemsOf spool).map fun item => textIn item "spoolItemId"
  let records (key : String) : List JsonObject :=
    (entriesOf (state.get? key)).map fun entry => recordIn entry.2
  ((spoolItemsOf spool).all fun item =>
      (readProperty sessions (textIn item "sessionId")).isFound
        && (textOf (item.get? "eventId")).all fun eventId =>
          isKnownEventOf events eventId (textIn item "sessionId"))
    && ((records "eventUploadCompletions").all fun completion =>
      let eventId := textIn completion "eventId"
      (isSet completion "inflightRemoved"
          || decide (jsString "inflight:event:" ++ eventId ∈ itemIds))
        && (isSet completion "sourceRemoved" || decide (eventId ∈ itemIds)))
    && (records "terminalCancellations").all fun cancellation =>
      decide (textIn cancellation "eventId" ∈ itemIds)

/-- `isRecognizedLegacyRuntime`. -/
def isRecognizedLegacyRuntime (state spool : Option JsonObject) (hostId : JsString) : Bool :=
  (state.all fun state => isRecognizedPriorStateRecord state hostId)
    && (spool.all fun spool => isRecognizedPriorSpoolRecord spool hostId)
    && state.all fun state => spool.all fun spool =>
      hasRecognizedPriorRuntimeRelationships state spool

section
variable (checks : CodecChecks)

/-- `isRecognizedObsoleteRuntime`, of a state and a spool that are there. -/
def isRecognizedObsoleteRuntime (state spool : JsonObject) (hostId : JsString) : Bool :=
  isObsoleteStateRecord checks state hostId
    && isSpoolRecordForSchema spool 2 hostId (isEpochOf (textIn state "runtimeResetEpoch"))
    && hasRecognizedPriorRuntimeRelationships state spool

/-- `hasResetSourceRelationships`. -/
def hasResetSourceRelationships (fromSchemaVersion : Int) (state spool : JsonObject)
    (hostId : JsString) : Bool :=
  if fromSchemaVersion = 1 then hasRecognizedPriorRuntimeRelationships state spool
  else isObsoleteStateRecord checks state hostId
    && isSpoolRecordForSchema spool fromSchemaVersion hostId
      (isEpochOf (textIn state "runtimeResetEpoch"))
    && hasRecognizedPriorRuntimeRelationships state spool

end

/-! ### The empty runtimes of the prior schemas -/

/-- `emptyStateForSchema`. -/
def emptyStateForSchema (schemaVersion : Int) (epoch : JsString) : JsonObject :=
  objectLiteral [
    ("schemaVersion", some (jsonInteger schemaVersion)),
    ("runtimeResetEpoch", some (.string epoch)),
    ("host", some .null),
    ("sessions", some (.object [])),
    ("sessionDrivers", some (.object [])),
    ("reconciledDrivers", some (.object [])),
    ("recentEvents", some (.array [])),
    ("sessionRevisions", some (.object [])),
    ("pendingHandles", some (.object [])),
    ("currentSessionsSnapshot", some (.object (objectLiteral [
      ("version", some (jsonInteger 1)),
      ("lastAllocatedRevision", some (jsonInteger 0)),
      ("lastAcceptedRevision", some (jsonInteger 0))]))),
    ("runtimeHealth", some (.object (objectLiteral [
      ("status", some (.string (jsString "healthy"))),
      ("drivers", some (.array []))]))),
    ("commandResults", some (.object [])),
    ("seenCommands", some (.object []))]

/-- `spoolFileForSchema`. -/
def spoolFileForSchema (schemaVersion : Int) (hostId epoch keyId : JsString) : JsonObject :=
  objectLiteral [
    ("version", some (jsonInteger 2)),
    ("runtimeStateSchemaVersion", some (jsonInteger schemaVersion)),
    ("runtimeResetEpoch", some (.string epoch)),
    ("hostId", some (.string hostId)),
    ("keyId", some (.string keyId)),
    ("items", some (.array []))]

end Ariava.StateStore.RawState
