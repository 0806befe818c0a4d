import Ariava.Protocol.CodeUnits
import Ariava.Protocol.Thrown

/-!
# `Ariava.StateStore.RawState`: the checks of a runtime state that was read as JSON

The shape predicates of `state-codec.ts`, which look at the value that `JSON.parse` gave for the
runtime state file: of the current schema 4 and of the prior schema 3. `State` has the typed records
of a state that passed them.

An expression `value[key]` is an `Option JsonValue`, where `none` is `undefined`, and so is an
argument of a predicate. `optionally` is `value === undefined || …`.

`CodecChecks` holds what the predicates take from elsewhere: whether `Date.parse` gives a number,
which the language leaves open outside the calendar, and `assertCommandExecution` on a raw value.
-/

set_option autoImplicit false

namespace Ariava.StateStore.RawState

open Ariava.Protocol (JsonValue JsonObject JsonNumber JsString jsString Thrown throwIf checkAll)

/-- A value, or `undefined`. -/
abbrev JsValue : Type := Option JsonValue

/-! ### Values -/

/-- The text that a value is. -/
def textOf : JsValue → Option JsString
  | some (.string s) => some s
  | _ => none

/-- The record that a value is: `isRecord`. -/
def recordOf : JsValue → Option JsonObject
  | some (.object properties) => some properties
  | _ => none

/-- The elements of the array that a value is: `Array.isArray`. -/
def arrayOf : JsValue → Option (List JsonValue)
  | some (.array elements) => some elements
  | _ => none

/-- The number that a value is, if it is a safe integer: `Number.isSafeInteger`. -/
def safeIntegerOf : JsValue → Option Int
  | some (.number (.finite value)) =>
      if (JsonNumber.finite value).isSafeInteger then some value.num else none
  | _ => none

/-- The truth value that a value is. -/
def booleanOf : JsValue → Option Bool
  | some (.bool value) => some value
  | _ => none

/-- `value === undefined || check(value)`. -/
def optionally (value : JsValue) (check : JsValue → Bool) : Bool := value.isNone || check value

/-- `value === text`. -/
def isText (text : String) (value : JsValue) : Bool := decide (textOf value = some (jsString text))

/-- `[…].includes(value)`. -/
def isOneOf (texts : List String) (value : JsValue) : Bool :=
  texts.any fun text => isText text value

/-- `value === number`. -/
def isNumber (number : Int) (value : JsValue) : Bool := decide (safeIntegerOf value = some number)

/-- `value === truth`. -/
def isBoolean (truth : Bool) (value : JsValue) : Bool := decide (booleanOf value = some truth)

/-- `typeof value === 'string'`. -/
def isString (value : JsValue) : Bool := (textOf value).isSome

/-- `isNonEmptyString`. -/
def isNonEmptyString (value : JsValue) : Bool := (textOf value).any fun text => !text.isEmpty

/-- `isPositiveSafeInteger`. -/
def isPositiveSafeInteger (value : JsValue) : Bool :=
  (safeIntegerOf value).any fun number => decide (0 < number)

/-- `isNonNegativeSafeInteger`. -/
def isNonNegativeSafeInteger (value : JsValue) : Bool :=
  (safeIntegerOf value).any fun number => decide (0 ≤ number)

/-! ### Keys -/

/-- `hasOnlyKeys`. -/
def hasOnlyKeys (value : JsonObject) (allowed : List String) : Bool :=
  List.all value fun property => decide (property.1 ∈ allowed.map jsString)

/-- `hasExactKeys`. -/
def hasExactKeys (value : JsonObject) (required : List String) : Bool :=
  decide (List.length value = required.length)
    && required.all fun key => JsonObject.hasOwn value key

/-- `hasExactOptionalKeys`. -/
def hasExactOptionalKeys (value : JsonObject) (required optional : List String) : Bool :=
  (required.all fun key => JsonObject.hasOwn value key)
    && hasOnlyKeys value (required ++ optional)

/-- The keys all hold texts that are not empty. -/
def areNonEmptyStrings (value : JsonObject) (keys : List String) : Bool :=
  keys.all fun key => isNonEmptyString (value.get? key)

/-! ### Maps -/

/-- `isValueMap`. -/
def isValueMap (predicate : JsValue → Bool) (value : JsValue) : Bool :=
  (recordOf value).any fun map => List.all map fun entry => predicate (some entry.2)

/-- `isStringMap`. -/
def isStringMap (value : JsValue) : Bool :=
  (recordOf value).any fun map => List.all map fun entry =>
    !entry.1.isEmpty && isNonEmptyString (some entry.2)

/-- `isTrueMap`. -/
def isTrueMap (value : JsValue) : Bool :=
  (recordOf value).any fun map => List.all map fun entry =>
    !entry.1.isEmpty && isBoolean true (some entry.2)

/-- `isNonNegativeIntegerMap`. -/
def isNonNegativeIntegerMap : JsValue → Bool := isValueMap isNonNegativeSafeInteger

/-! ### Patterns -/

/-- The code units match the classes of a pattern, one by one. -/
def matchesClasses : List (UInt16 → Bool) → JsString → Bool
  | [], [] => true
  | isMember :: classes, unit :: units => isMember unit && matchesClasses classes units
  | _, _ => false

/-- The code unit of a character. -/
def unitIs (c : Char) (unit : UInt16) : Bool := decide (unit.toNat = c.toNat)

/-- The code unit is between two characters. -/
def unitIn (low high : Char) (unit : UInt16) : Bool :=
  decide (low.toNat ≤ unit.toNat) && decide (unit.toNat ≤ high.toNat)

/-- `[0-9]`. -/
def isDigitUnit : UInt16 → Bool := unitIn '0' '9'

/-- `[0-9a-f]` without regard to case. -/
def isHexUnit (unit : UInt16) : Bool :=
  isDigitUnit unit || unitIn 'a' 'f' unit || unitIn 'A' 'F' unit

/-- `[89ab]` without regard to case. -/
def isVariantUnit (unit : UInt16) : Bool :=
  unitIs '8' unit || unitIs '9' unit || unitIs 'a' unit || unitIs 'b' unit || unitIs 'A' unit
    || unitIs 'B' unit

/-- The pattern of `isRuntimeEpoch`. -/
def runtimeEpochClasses : List (UInt16 → Bool) :=
  List.replicate 8 isHexUnit ++ [unitIs '-'] ++ List.replicate 4 isHexUnit
    ++ [unitIs '-', unitIs '4'] ++ List.replicate 3 isHexUnit ++ [unitIs '-', isVariantUnit]
    ++ List.replicate 3 isHexUnit ++ [unitIs '-'] ++ List.replicate 12 isHexUnit

/-- `isRuntimeEpoch`. -/
def isRuntimeEpoch (value : JsValue) : Bool :=
  (textOf value).any (matchesClasses runtimeEpochClasses)

/-- `isStableDriverId`. -/
def isStableDriverId (value : JsValue) : Bool :=
  (textOf value).any fun text => decide (1 ≤ text.length) && decide (text.length ≤ 64)
    && text.all fun unit => unitIn 'A' 'Z' unit || unitIn 'a' 'z' unit || isDigitUnit unit
      || unitIs '.' unit || unitIs '_' unit || unitIs '-' unit

/-- The pattern of `isCanonicalHealthTimestamp`. -/
def healthTimestampClasses : List (UInt16 → Bool) :=
  List.replicate 4 isDigitUnit ++ [unitIs '-'] ++ List.replicate 2 isDigitUnit ++ [unitIs '-']
    ++ List.replicate 2 isDigitUnit ++ [unitIs 'T'] ++ List.replicate 2 isDigitUnit
    ++ [unitIs ':'] ++ List.replicate 2 isDigitUnit ++ [unitIs ':'] ++ List.replicate 2 isDigitUnit
    ++ [unitIs '.'] ++ List.replicate 3 isDigitUnit ++ [unitIs 'Z']

/-! ### Records -/

/-- What the predicates take from elsewhere. -/
structure CodecChecks where
  /-- `Number.isFinite(Date.parse(text))`. -/
  isFiniteDate : JsString → Bool
  /-- `assertCommandExecution` does not throw. -/
  isCommandExecution : JsValue → Bool

/-- `SESSION_REQUIRED_KEYS`. -/
def sessionRequiredKeys : List String :=
  ["sessionId", "hostId", "provider", "projectName", "nameText", "status", "updatedAt"]

/-- `SESSION_OPTIONAL_KEYS`. -/
def sessionOptionalKeys : List String :=
  ["openingText", "latestActivityText", "workingDirectory", "harnessProvider", "lastEventId",
    "snoozedUntil"]

/-- `OBSOLETE_SESSION_OPTIONAL_KEYS`. -/
def obsoleteSessionOptionalKeys : List String :=
  sessionOptionalKeys ++ ["hbaseSessionKey", "actionablePrompt"]

/-- `EVENT_REQUIRED_KEYS`. -/
def eventRequiredKeys : List String :=
  ["eventId", "hostId", "sessionId", "provider", "type", "status", "agentText", "createdAt"]

/-- `EVENT_OPTIONAL_KEYS`. -/
def eventOptionalKeys : List String :=
  ["humanText", "projectName", "workingDirectory", "harnessProvider", "needHuman"]

/-- `OBSOLETE_EVENT_REQUIRED_KEYS`. -/
def obsoleteEventRequiredKeys : List String := eventRequiredKeys ++ ["typeLabel"]

/-- `OBSOLETE_EVENT_OPTIONAL_KEYS`. -/
def obsoleteEventOptionalKeys : List String :=
  eventOptionalKeys ++ ["contextText", "hbaseSessionKey", "actionablePrompt", "correlationId"]

/-- A record with these keys that passes a check. -/
def isRecordWith (required optional : List String) (check : JsonObject → Bool) (value : JsValue) :
    Bool :=
  (recordOf value).any fun record => hasExactOptionalKeys record required optional && check record

/-- `isCurrentHost`. -/
def isCurrentHost : JsValue → Bool :=
  isRecordWith
    ["hostId", "hostName", "platform", "bridgeVersion", "registeredAt", "lastSeenAt",
      "bridgeStatus"] ["status"] fun host =>
    areNonEmptyStrings host ["hostId", "hostName", "bridgeVersion", "registeredAt", "lastSeenAt"]
      && isOneOf ["macos", "linux"] (host.get? "platform")
      && isOneOf ["online", "offline", "degraded"] (host.get? "bridgeStatus")
      && optionally (host.get? "status") (isOneOf ["active", "revoked"])

/-- `isCurrentActionablePrompt`. -/
def isCurrentActionablePrompt : JsValue → Bool :=
  isRecordWith ["promptId", "type", "label"] ["options", "expiresAt"] fun prompt =>
    isNonEmptyString (prompt.get? "promptId") && isText "question" (prompt.get? "type")
      && isNonEmptyString (prompt.get? "label")
      && optionally (prompt.get? "options") (fun options =>
        (arrayOf options).any fun elements =>
          elements.all fun element => isNonEmptyString (some element))
      && optionally (prompt.get? "expiresAt") isNonEmptyString

/-- The check of an optional key: a text, but a prompt under `actionablePrompt`. -/
def isOptionalField (record : JsonObject) (key : String) : Bool :=
  optionally (record.get? key) fun value =>
    if key = "actionablePrompt" then isCurrentActionablePrompt value else isString value

/-- `isSessionForKeys`. -/
def isSessionForKeys (optionalKeys : List String) : JsValue → Bool :=
  isRecordWith sessionRequiredKeys optionalKeys fun session =>
    areNonEmptyStrings session (sessionRequiredKeys.filter fun key => decide (key ≠ "status"))
      && isOneOf ["idle", "working", "need_human"] (session.get? "status")
      && optionalKeys.all (isOptionalField session)

/-- `isCurrentSession`. -/
def isCurrentSession : JsValue → Bool := isSessionForKeys sessionOptionalKeys

/-- `isObsoleteSession`. -/
def isObsoleteSession : JsValue → Bool := isSessionForKeys obsoleteSessionOptionalKeys

/-- `isCurrentNeedHuman`. -/
def isCurrentNeedHuman : JsValue → Bool :=
  isRecordWith ["reason"] ["error"] fun context =>
    isOneOf ["question", "blocked", "error"] (context.get? "reason")
      && if isText "error" (context.get? "reason") then
        isRecordWith ["kind", "message", "retryExhausted"] ["providerCode"] (fun error =>
          isOneOf ["context_overflow", "provider_failure", "response_length",
              "incomplete_tool_use", "unknown"] (error.get? "kind")
            && isNonEmptyString (error.get? "message")
            && isBoolean true (error.get? "retryExhausted")
            && optionally (error.get? "providerCode") isNonEmptyString) (context.get? "error")
      else (context.get? "error").isNone

/-- The type, the status and the context of an event go together. -/
def isEventKind (event : JsonObject) : Bool :=
  (isText "done" (event.get? "type") && isText "idle" (event.get? "status")
      && (event.get? "needHuman").isNone)
    || (isText "need_human" (event.get? "type") && isText "need_human" (event.get? "status")
      && isCurrentNeedHuman (event.get? "needHuman"))

/-- The fields of an event, with its keys given. -/
def isEventWith (requiredKeys optionalKeys checkedKeys : List String) : JsValue → Bool :=
  isRecordWith requiredKeys optionalKeys fun event =>
    areNonEmptyStrings event
        (requiredKeys.filter fun key => decide (key ≠ "type") && decide (key ≠ "status"))
      && isEventKind event
      && checkedKeys.all fun key => decide (key = "needHuman") || isOptionalField event key

/-- `isEventForKeys`. -/
def isEventForKeys (optionalKeys : List String) : JsValue → Bool :=
  isEventWith eventRequiredKeys optionalKeys optionalKeys

/-- `isCurrentEvent`. -/
def isCurrentEvent : JsValue → Bool := isEventForKeys eventOptionalKeys

/-- `isObsoleteEvent`. -/
def isObsoleteEvent (value : JsValue) : Bool :=
  (recordOf value).any fun event =>
    if (event.get? "typeLabel").isNone then
      isEventForKeys obsoleteEventOptionalKeys value
        || isEventWith eventRequiredKeys obsoleteEventOptionalKeys obsoleteEventOptionalKeys value
    else
      isEventForKeys (obsoleteEventOptionalKeys ++ ["typeLabel"]) value
        || isEventWith obsoleteEventRequiredKeys obsoleteEventOptionalKeys
          obsoleteEventOptionalKeys value

/-- `isCurrentPendingHandle`. -/
def isCurrentPendingHandle : JsValue → Bool :=
  isRecordWith ["hostId", "sessionId", "handledThroughEventId", "handledAt", "action", "updatedAt"]
    ["handledThroughEventCreatedAt"] fun handle =>
    areNonEmptyStrings handle
        ["hostId", "sessionId", "handledThroughEventId", "handledAt", "updatedAt"]
      && isOneOf ["pi_input", "bridge_recovery"] (handle.get? "action")
      && optionally (handle.get? "handledThroughEventCreatedAt") isNonEmptyString

/-- `isPriorCommandResult`. -/
def isPriorCommandResult : JsValue → Bool :=
  isRecordWith ["commandId", "hostId", "sessionId", "accepted", "status", "message", "updatedAt"]
    ["correlationId"] fun result =>
    areNonEmptyStrings result ["commandId", "hostId", "sessionId", "message", "updatedAt"]
      && (booleanOf (result.get? "accepted")).isSome
      && isOneOf ["queued", "delivered", "executed", "expired", "rejected", "failed"]
        (result.get? "status")
      && optionally (result.get? "correlationId") isNonEmptyString

/-- `isCurrentEventCompletion`. -/
def isCurrentEventCompletion : JsValue → Bool :=
  isRecordWith ["version", "eventId", "sessionId", "revision", "eventContentId",
      "sessionContentId", "committedAt"]
    ["revisionCommitted", "inflightRemoved", "sourceRemoved"] fun completion =>
    isNumber 1 (completion.get? "version")
      && areNonEmptyStrings completion
        ["eventId", "sessionId", "eventContentId", "sessionContentId", "committedAt"]
      && isPositiveSafeInteger (completion.get? "revision")
      && ["revisionCommitted", "inflightRemoved", "sourceRemoved"].all fun key =>
        optionally (completion.get? key) fun value => (booleanOf value).isSome

/-- A record with exactly these keys that passes a check. -/
def isRecordOf (keys : List String) (check : JsonObject → Bool) (value : JsValue) : Bool :=
  (recordOf value).any fun record => hasExactKeys record keys && check record

/-- `isCurrentProducerReservation`. -/
def isCurrentProducerReservation : JsValue → Bool :=
  isRecordOf ["version", "eventId", "sessionId", "fingerprint", "createdAt"] fun reservation =>
    isNumber 1 (reservation.get? "version")
      && areNonEmptyStrings reservation ["eventId", "sessionId", "fingerprint", "createdAt"]

/-- `isCurrentProducerCheckpoint`. -/
def isCurrentProducerCheckpoint : JsValue → Bool :=
  isRecordOf ["version", "sessionId", "producerEventId", "producerEventOrder", "eventId",
      "fingerprint", "createdAt"] fun checkpoint =>
    isNumber 1 (checkpoint.get? "version")
      && areNonEmptyStrings checkpoint
        ["sessionId", "producerEventId", "producerEventOrder", "eventId", "fingerprint",
          "createdAt"]

/-- `isCurrentTerminalCancellation`. -/
def isCurrentTerminalCancellation : JsValue → Bool :=
  isRecordOf ["version", "sessionId", "eventId", "fingerprint", "removeSession",
      "createdAt"] fun cancellation =>
    isNumber 1 (cancellation.get? "version")
      && areNonEmptyStrings cancellation ["sessionId", "eventId", "fingerprint", "createdAt"]
      && (booleanOf (cancellation.get? "removeSession")).isSome

/-- `isObsoleteSnapshot`. -/
def isObsoleteSnapshot : JsValue → Bool :=
  isRecordWith ["version", "lastAllocatedRevision", "lastAcceptedRevision"]
    ["lastAcceptedDigest", "lastAcceptedContentDigest", "lastAcceptedRecipientSetVersion"]
    fun snapshot =>
      isNumber 1 (snapshot.get? "version")
        && isNonNegativeSafeInteger (snapshot.get? "lastAllocatedRevision")
        && isNonNegativeSafeInteger (snapshot.get? "lastAcceptedRevision")
        && optionally (snapshot.get? "lastAcceptedDigest") isString
        && optionally (snapshot.get? "lastAcceptedContentDigest") isString
        && optionally (snapshot.get? "lastAcceptedRecipientSetVersion") isPositiveSafeInteger

/-- `isCurrentSnapshot`: in addition, what was accepted was allocated. -/
def isCurrentSnapshot (value : JsValue) : Bool :=
  isObsoleteSnapshot value && (recordOf value).any fun snapshot =>
    match safeIntegerOf (snapshot.get? "lastAcceptedRevision"),
      safeIntegerOf (snapshot.get? "lastAllocatedRevision") with
    | some accepted, some allocated => decide (accepted ≤ allocated)
    | _, _ => false

section
variable (checks : CodecChecks)

/-- `isCanonicalHealthTimestamp`. -/
def isCanonicalHealthTimestamp (value : JsValue) : Bool :=
  (textOf value).any fun text =>
    matchesClasses healthTimestampClasses text && checks.isFiniteDate text

/-- `healthTimestampsValid`. -/
def healthTimestampsValid (health : JsonObject) : Bool :=
  (["firstSeenAt", "lastSeenAt", "nextRetryAt"].all fun key =>
      isCanonicalHealthTimestamp checks (health.get? key))
    && optionally (health.get? "lastSuccessAt") (isCanonicalHealthTimestamp checks)

/-- `isCurrentDriverHealth`. -/
def isCurrentDriverHealth : JsValue → Bool :=
  isRecordWith ["driver", "code", "count", "firstSeenAt", "lastSeenAt", "nextRetryAt"]
    ["lastSuccessAt"] fun health =>
    isStableDriverId (health.get? "driver")
      && isText "driver_reconciliation_failed" (health.get? "code")
      && isPositiveSafeInteger (health.get? "count") && healthTimestampsValid checks health

/-- `isCurrentRelayPresenceHealth`. -/
def isCurrentRelayPresenceHealth : JsValue → Bool :=
  isRecordWith ["code", "count", "firstSeenAt", "lastSeenAt", "nextRetryAt"]
    ["lastSuccessAt"] fun health =>
    isText "relay_presence_refresh_failed" (health.get? "code")
      && isPositiveSafeInteger (health.get? "count") && healthTimestampsValid checks health

/-- The driver of a health record. -/
def driverOf (health : JsonValue) : Option JsString :=
  (recordOf (some health)).bind fun record => textOf (record.get? "driver")

/-- `isCurrentRuntimeHealth`. -/
def isCurrentRuntimeHealth : JsValue → Bool :=
  isRecordWith ["status", "drivers"] ["relayPresence"] fun health =>
    (arrayOf (health.get? "drivers")).any fun drivers =>
      decide (drivers.length ≤ 32)
        && (drivers.all fun driver => isCurrentDriverHealth checks (some driver))
        && decide ((drivers.map driverOf).Nodup)
        && isText (if !drivers.isEmpty || (health.get? "relayPresence").isSome then "degraded"
          else "healthy") (health.get? "status")
        && optionally (health.get? "relayPresence") (isCurrentRelayPresenceHealth checks)

end

end Ariava.StateStore.RawState
