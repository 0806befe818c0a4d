import Ariava.Protocol.JsonValue

/-!
# `Ariava.Protocol.AgentAdapterContract`: the codecs of protocol 4

The register, heartbeat and handle validators of `agent-adapter.ts` and its parser of the poll
timeout. A validator collects its issues, and it returns the record itself when there are none;
`registerRequestOf` and its siblings read the members that were checked.
-/

set_option autoImplicit false

namespace Ariava.Protocol

/-! ### Bounds -/

/-- `AGENT_ADAPTER_LIMITS.driverInstanceIdMinBytes`. -/
def driverInstanceIdMinBytes : Nat := 16

/-- `AGENT_ADAPTER_LIMITS.sessionFieldBytes`. -/
def sessionFieldBytes : Nat := 64 * 1024

/-- `AGENT_ADAPTER_LIMITS.commandPollTimeoutMaxMs`. -/
def commandPollTimeoutMaxMs : Nat := 120000

/-- `isAgentAdapterIdentifier`, on a string. -/
def isAgentAdapterIdentifier (s : JsString) : Bool :=
  !s.isEmpty && isWellFormedUnicode s && decide (utf8ByteLength s ≤ identifierBytes)

/-- `isAgentAdapterText`, on a string. -/
def isAgentAdapterText (s : JsString) : Bool :=
  isWellFormedUnicode s && decide (utf8ByteLength s ≤ sessionFieldBytes)

/-- `isAgentAdapterDriverInstanceId`, on a string. -/
def isAgentAdapterDriverInstanceId (s : JsString) : Bool :=
  isAgentAdapterIdentifier s
    && (base64UrlByteCount? s).any fun bytes => decide (driverInstanceIdMinBytes ≤ bytes)

/-- The test of a string that is a value. Any other value fails it. -/
def holdsOfString (test : JsString → Bool) : Option JsonValue → Bool
  | some (.string s) => test s
  | _ => false

/-- The test of a string that may be absent. -/
def holdsOfOptionalString (test : JsString → Bool) : Option JsonValue → Bool
  | none => true
  | some (.string s) => test s
  | some _ => false

/-- The test of a string that may be absent or `null`. -/
def holdsOfNullableString (test : JsString → Bool) : Option JsonValue → Bool
  | none | some .null => true
  | some (.string s) => test s
  | some _ => false

/-- The check of `pid`. -/
def isOptionalPid : Option JsonValue → Bool
  | none => true
  | some (.number pid) => pid.isSafeInteger && !pid.isNegative
  | some _ => false

/-- The check of an optional status. -/
def isOptionalStatus : Option JsonValue → Bool
  | none => true
  | some value => (sessionStatus? value).isSome

/-! ### The validators -/

/-- `exactDataRecord`: the properties of a plain object with exactly these keys. -/
def exactDataRecord (value : JsonValue) (allowedKeys requiredKeys : List String)
    (label : String) : Except String JsonObject :=
  match value with
  | .object obj =>
      match JsonObject.unsupportedKey? obj allowedKeys with
      | some key => .error (label ++ "." ++ displayText key ++ " is unsupported")
      | none =>
          match requiredKeys.find? fun key => !JsonObject.hasOwn obj key with
          | some key => .error (label ++ "." ++ key ++ " is required")
          | none => .ok obj
  | _ => .error (label ++ " must be a plain object")

/-- The issue of a check that failed. -/
def issueUnless (passed : Bool) (issue : String) : List String := if passed then [] else [issue]

/-- The result of a validator: the value, or the issues. -/
def validated {α : Type} (issues : List String) (value : α) : Except (List String) α :=
  if issues = [] then .ok value else .error issues

/-- A member that is a string. -/
def textMember (obj : JsonObject) (key : String) : JsString :=
  match JsonObject.get? obj key with
  | some (.string s) => s
  | _ => []

/-- A member that is a string or absent. -/
def optionalTextMember (obj : JsonObject) (key : String) : Option JsString :=
  match JsonObject.get? obj key with
  | some (.string s) => some s
  | _ => none

/-- A member that is a string, `null` or absent. -/
def nullableTextMember (obj : JsonObject) (key : String) : Option (Option JsString) :=
  match JsonObject.get? obj key with
  | some (.string s) => some (some s)
  | some .null => some none
  | _ => none

/-- A member that is a number or absent. -/
def optionalNumberMember (obj : JsonObject) (key : String) : Option JsonNumber :=
  match JsonObject.get? obj key with
  | some (.number n) => some n
  | _ => none

/-- A member that is a status or absent. -/
def optionalStatusMember (obj : JsonObject) (key : String) : Option SessionStatus :=
  (JsonObject.get? obj key).bind sessionStatus?

/-- `AgentAdapterRegisterRequest`. -/
structure AgentAdapterRegisterRequest where
  sessionId : JsString
  provider : JsString
  projectName : JsString
  cwd : JsString
  nameText : JsString
  driverInstanceId : JsString
  openingText : Option JsString
  latestActivityText : Option JsString
  harnessProvider : Option JsString
  pid : Option JsonNumber
  status : Option SessionStatus
deriving DecidableEq

/-- `REGISTER_REQUIRED_KEYS`. -/
def registerRequiredKeys : List String :=
  ["sessionId", "provider", "projectName", "cwd", "nameText", "driverInstanceId"]

/-- `REGISTER_OPTIONAL_KEYS`. -/
def registerOptionalKeys : List String :=
  ["openingText", "latestActivityText", "harnessProvider", "pid", "status"]

/-- The record as a register request. -/
def registerRequestOf (obj : JsonObject) : AgentAdapterRegisterRequest where
  sessionId := textMember obj "sessionId"
  provider := textMember obj "provider"
  projectName := textMember obj "projectName"
  cwd := textMember obj "cwd"
  nameText := textMember obj "nameText"
  driverInstanceId := textMember obj "driverInstanceId"
  openingText := optionalTextMember obj "openingText"
  latestActivityText := optionalTextMember obj "latestActivityText"
  harnessProvider := optionalTextMember obj "harnessProvider"
  pid := optionalNumberMember obj "pid"
  status := optionalStatusMember obj "status"

/-- A text that is not empty. -/
def isAgentAdapterNonEmptyText (s : JsString) : Bool := isAgentAdapterText s && !s.isEmpty

/-- The issues of a register request with the right keys. -/
def registerIssues (record : JsonObject) : List String :=
  issueUnless (holdsOfString isAgentAdapterIdentifier (record.get? "sessionId"))
      "register request.sessionId is invalid"
    ++ issueUnless (holdsOfString isAgentAdapterIdentifier (record.get? "provider"))
      "register request.provider is invalid"
    ++ issueUnless (holdsOfString isAgentAdapterNonEmptyText (record.get? "projectName"))
      "register request.projectName is invalid"
    ++ issueUnless (holdsOfString isAgentAdapterNonEmptyText (record.get? "cwd"))
      "register request.cwd is invalid"
    ++ issueUnless (holdsOfString isAgentAdapterNonEmptyText (record.get? "nameText"))
      "register request.nameText is invalid"
    ++ issueUnless (holdsOfString isAgentAdapterDriverInstanceId (record.get? "driverInstanceId"))
      "register request.driverInstanceId is invalid"
    ++ issueUnless (holdsOfOptionalString isAgentAdapterText (record.get? "openingText"))
      "register request.openingText is invalid"
    ++ issueUnless (holdsOfOptionalString isAgentAdapterText (record.get? "latestActivityText"))
      "register request.latestActivityText is invalid"
    ++ issueUnless (holdsOfOptionalString isAgentAdapterIdentifier (record.get? "harnessProvider"))
      "register request.harnessProvider is invalid"
    ++ issueUnless (isOptionalPid (record.get? "pid"))
      "register request.pid must be a non-negative safe integer"
    ++ issueUnless (isOptionalStatus (record.get? "status"))
      "register request.status must be idle, working or need_human"

/-- `validateAgentAdapterRegisterRequest`. -/
def validateAgentAdapterRegisterRequest (value : JsonValue) :
    Except (List String) AgentAdapterRegisterRequest :=
  match exactDataRecord value (registerRequiredKeys ++ registerOptionalKeys) registerRequiredKeys
      "register request" with
  | .error issue => .error [issue]
  | .ok record => validated (registerIssues record) (registerRequestOf record)

/-- `AgentAdapterHeartbeatRequest`. -/
structure AgentAdapterHeartbeatRequest where
  status : SessionStatus
  latestActivityText : Option (Option JsString)
  openingText : Option (Option JsString)
  projectName : Option JsString
  nameText : Option JsString
deriving DecidableEq

/-- `HEARTBEAT_REQUIRED_KEYS`. -/
def heartbeatRequiredKeys : List String := ["status"]

/-- `HEARTBEAT_OPTIONAL_KEYS`. -/
def heartbeatOptionalKeys : List String :=
  ["latestActivityText", "openingText", "projectName", "nameText"]

/-- The record as a heartbeat request. -/
def heartbeatRequestOf (obj : JsonObject) : AgentAdapterHeartbeatRequest where
  status := (optionalStatusMember obj "status").getD .idle
  latestActivityText := nullableTextMember obj "latestActivityText"
  openingText := nullableTextMember obj "openingText"
  projectName := optionalTextMember obj "projectName"
  nameText := optionalTextMember obj "nameText"

/-- The issues of a heartbeat request with the right keys. -/
def heartbeatIssues (record : JsonObject) : List String :=
  issueUnless (optionalStatusMember record "status").isSome
      "heartbeat request.status is required and must be idle, working or need_human"
    ++ issueUnless (holdsOfNullableString isAgentAdapterText (record.get? "latestActivityText"))
      "heartbeat request.latestActivityText must be a string or null"
    ++ issueUnless (holdsOfNullableString isAgentAdapterText (record.get? "openingText"))
      "heartbeat request.openingText must be a string or null"
    ++ issueUnless (holdsOfOptionalString isAgentAdapterText (record.get? "projectName"))
      "heartbeat request.projectName must be a string"
    ++ issueUnless (holdsOfOptionalString isAgentAdapterText (record.get? "nameText"))
      "heartbeat request.nameText must be a string"

/-- `validateAgentAdapterHeartbeatRequest`. -/
def validateAgentAdapterHeartbeatRequest (value : JsonValue) :
    Except (List String) AgentAdapterHeartbeatRequest :=
  match exactDataRecord value (heartbeatRequiredKeys ++ heartbeatOptionalKeys)
      heartbeatRequiredKeys "heartbeat request" with
  | .error issue => .error [issue]
  | .ok record => validated (heartbeatIssues record) (heartbeatRequestOf record)

/-- `AgentAdapterHandleAction`. -/
inductive AgentAdapterHandleAction
  | localInput
  | bridgeRecovery
deriving DecidableEq

/-- The member of `AGENT_ADAPTER_HANDLE_ACTIONS` that a string is. -/
def handleAction? (s : JsString) : Option AgentAdapterHandleAction :=
  if s = jsString "local_input" then some .localInput
  else if s = jsString "bridge_recovery" then some .bridgeRecovery
  else none

/-- `AgentAdapterHandleRequest`. -/
structure AgentAdapterHandleRequest where
  handledThroughEventId : JsString
  handledThroughEventCreatedAt : Option JsString
  handledAt : Option JsString
  action : Option AgentAdapterHandleAction
deriving DecidableEq

/-- `HANDLE_REQUIRED_KEYS`. -/
def handleRequiredKeys : List String := ["handledThroughEventId"]

/-- `HANDLE_OPTIONAL_KEYS`. -/
def handleOptionalKeys : List String := ["handledThroughEventCreatedAt", "handledAt", "action"]

/-- The record as a handle request. -/
def handleRequestOf (obj : JsonObject) : AgentAdapterHandleRequest where
  handledThroughEventId := textMember obj "handledThroughEventId"
  handledThroughEventCreatedAt := optionalTextMember obj "handledThroughEventCreatedAt"
  handledAt := optionalTextMember obj "handledAt"
  action := (optionalTextMember obj "action").bind handleAction?

/-- The issues of a handle request with the right keys. -/
def handleIssues (record : JsonObject) : List String :=
  issueUnless (holdsOfString isAgentAdapterIdentifier (record.get? "handledThroughEventId"))
      "handle request.handledThroughEventId is invalid"
    ++ issueUnless (holdsOfOptionalString isCanonicalTimestampString
        (record.get? "handledThroughEventCreatedAt"))
      "handle request.handledThroughEventCreatedAt must be a canonical RFC3339 timestamp"
    ++ issueUnless (holdsOfOptionalString isCanonicalTimestampString (record.get? "handledAt"))
      "handle request.handledAt must be a canonical RFC3339 timestamp"
    ++ issueUnless (holdsOfOptionalString (fun s => (handleAction? s).isSome)
        (record.get? "action"))
      "handle request.action must be local_input or bridge_recovery"

/-- `validateAgentAdapterHandleRequest`. -/
def validateAgentAdapterHandleRequest (value : JsonValue) :
    Except (List String) AgentAdapterHandleRequest :=
  match exactDataRecord value (handleRequiredKeys ++ handleOptionalKeys) handleRequiredKeys
      "handle request" with
  | .error issue => .error [issue]
  | .ok record => validated (handleIssues record) (handleRequestOf record)

/-! ### The poll timeout -/

/-- The value of decimal digits. -/
def digitsValue (digits : JsString) : Nat :=
  digits.foldl (fun value digit => value * 10 + (decimalDigit? digit).getD 0) 0

/-- `CANONICAL_DECIMAL_RE`: zero, or digits that do not start with zero. -/
def isCanonicalDecimal (s : JsString) : Bool :=
  !s.isEmpty && s.all (fun unit => (decimalDigit? unit).isSome)
    && (decide (s.length = 1) || decide (s.head? ≠ some 0x30))

/-- `parseAgentAdapterCommandPollTimeout` on a string. A value above the limit rounds to a
number above the limit. -/
def parseAgentAdapterCommandPollTimeout (s : JsString) : Option Nat :=
  if isCanonicalDecimal s && decide (digitsValue s ≤ commandPollTimeoutMaxMs) then
    some (digitsValue s)
  else none

end Ariava.Protocol
