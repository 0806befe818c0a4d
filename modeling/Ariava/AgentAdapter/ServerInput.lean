import Ariava.AgentAdapter.RegistryTypes
import Ariava.Protocol.AgentAdapterContract
import Ariava.Protocol.CodeUnits

/-!
# `Ariava.AgentAdapter.ServerInput`: what the adapter server reads from a request

The parsers of `server.ts`: `parseRegisterInput`, `parseHandleInput`, `parseHeartbeatInput`
and the expression that reads the poll timeout. Each throws at its first failed check. They are
written apart from the validators of the protocol package, and their inputs have the same
members.
-/

set_option autoImplicit false

namespace Ariava.AgentAdapter

open Ariava.Protocol

/-- `isBoundedAgentAdapterIdentifier`, on a string. -/
def isBoundedAgentAdapterIdentifier (s : JsString) : Bool :=
  !s.isEmpty && isWellFormedUnicode s && decide (utf8ByteLength s ≤ identifierBytes)

/-- `assertExactKeys`. -/
def assertExactKeys (obj : JsonObject) (required optional : List String) (label : String) :
    Except Thrown Unit :=
  match JsonObject.unsupportedKey? obj (required ++ optional) with
  | some key => .error (clientInputError (label ++ "." ++ displayText key ++ " is unsupported"))
  | none =>
      match required.find? fun key => !JsonObject.hasOwn obj key with
      | some key => .error (clientInputError (label ++ "." ++ key ++ " is required"))
      | none => .ok ()

/-- `requireIdentifier`. -/
def requireIdentifier (obj : JsonObject) (key : String) : Except Thrown JsString :=
  match obj.get? key with
  | some (.string s) =>
      if isBoundedAgentAdapterIdentifier s then .ok s
      else .error (clientInputError ("Missing or invalid field: " ++ key))
  | _ => .error (clientInputError ("Missing or invalid field: " ++ key))

/-- `requireString`. -/
def requireString (obj : JsonObject) (key : String) : Except Thrown JsString :=
  match obj.get? key with
  | some (.string s) => .ok s
  | _ => .error (clientInputError ("Missing or invalid field: " ++ key))

/-- `optionalNullableString`. -/
def optionalNullableString (obj : JsonObject) (key : String) :
    Except Thrown (Option (Option JsString)) :=
  match obj.get? key with
  | none => .ok none
  | some .null => .ok (some none)
  | some (.string s) => .ok (some (some s))
  | some _ => .error (clientInputError ("Invalid field: " ++ key))

/-- `optionalIdentifier`. -/
def optionalIdentifier (obj : JsonObject) (key : String) : Except Thrown (Option JsString) :=
  match obj.get? key with
  | none => .ok none
  | some (.string s) =>
      if isBoundedAgentAdapterIdentifier s then .ok (some s)
      else .error (clientInputError ("Invalid field: " ++ key))
  | some _ => .error (clientInputError ("Invalid field: " ++ key))

/-- `optionalString`. -/
def optionalString (obj : JsonObject) (key : String) : Except Thrown (Option JsString) :=
  match obj.get? key with
  | none => .ok none
  | some (.string s) => .ok (some s)
  | some _ => .error (clientInputError ("Invalid field: " ++ key))

/-- `optionalNumber`. -/
def optionalNumber (obj : JsonObject) (key : String) : Except Thrown (Option JsonNumber) :=
  match obj.get? key with
  | none => .ok none
  | some (.number n) => .ok (some n)
  | some _ => .error (clientInputError ("Invalid field: " ++ key))

/-- The check that a string is one of `SESSION_STATUSES`. -/
def asSessionStatus (s : JsString) : Except Thrown SessionStatus :=
  match sessionStatus? (.string s) with
  | some status => .ok status
  | none => .error (clientInputError ("Invalid status: " ++ displayText s))

/-- `optionalStatus`. -/
def optionalStatus (obj : JsonObject) (key : String) : Except Thrown (Option SessionStatus) := do
  match ← optionalString obj key with
  | none => return none
  | some s => return some (← asSessionStatus s)

/-- `parseRegisterInput`. -/
def parseRegisterInput : JsonValue → Except Thrown AgentAdapterRegisterRequest
  | .object obj => do
      assertExactKeys obj
        ["sessionId", "provider", "projectName", "cwd", "nameText", "driverInstanceId"]
        ["openingText", "latestActivityText", "harnessProvider", "pid", "status"]
        "register Session"
      throwIf (!holdsOfString isAgentAdapterDriverInstanceId
          (JsonObject.get? obj "driverInstanceId"))
        (clientInputError "register driverInstanceId is invalid")
      return {
        sessionId := ← requireIdentifier obj "sessionId"
        provider := ← requireIdentifier obj "provider"
        projectName := ← requireString obj "projectName"
        cwd := ← requireString obj "cwd"
        nameText := ← requireString obj "nameText"
        driverInstanceId := textMember obj "driverInstanceId"
        openingText := ← optionalString obj "openingText"
        latestActivityText := ← optionalString obj "latestActivityText"
        harnessProvider := ← optionalIdentifier obj "harnessProvider"
        pid := ← optionalNumber obj "pid"
        status := ← optionalStatus obj "status" }
  | _ => .error (clientInputError "Request body must be an object")

/-- The `action` of `HandleSessionRequest`. -/
inductive SessionHandleAction
  | piInput
  | bridgeRecovery
deriving DecidableEq

/-- `HandleSessionRequest`. -/
structure HandleSessionRequest where
  handledThroughEventId : JsString
  handledThroughEventCreatedAt : Option JsString
  handledAt : Option JsString
  action : Option SessionHandleAction
deriving DecidableEq

/-- The persisted action of a wire action: `local_input` maps to `pi_input`. -/
def persistedHandleAction : AgentAdapterHandleAction → SessionHandleAction
  | .localInput => .piInput
  | .bridgeRecovery => .bridgeRecovery

/-- The check of `handle.action`, and its persisted form. -/
def asHandleAction (action : Option JsString) : Except Thrown (Option SessionHandleAction) := do
  throwIf (action.any fun s => decide (s ≠ jsString "local_input")
      && decide (s ≠ jsString "bridge_recovery")) (clientInputError "handle.action is invalid")
  if action = some (jsString "bridge_recovery") then return some .bridgeRecovery
  else return action.map fun _ => .piInput

/-- `parseHandleInput`. -/
def parseHandleInput : JsonValue → Except Thrown HandleSessionRequest
  | .object obj => do
      assertExactKeys obj ["handledThroughEventId"]
        ["handledThroughEventCreatedAt", "handledAt", "action"] "handle"
      let action ← optionalString obj "action"
      let handleAction ← asHandleAction action
      return {
        handledThroughEventId := ← requireIdentifier obj "handledThroughEventId"
        handledThroughEventCreatedAt := ← optionalString obj "handledThroughEventCreatedAt"
        handledAt := ← optionalString obj "handledAt"
        action := handleAction }
  | _ => .error (clientInputError "handle body must be an object")

/-- `parseHeartbeatInput`. -/
def parseHeartbeatInput : JsonValue → Except Thrown AgentAdapterHeartbeatRequest
  | .object obj => do
      assertExactKeys obj ["status"]
        ["latestActivityText", "openingText", "projectName", "nameText"] "heartbeat"
      let status ← asSessionStatus (← requireString obj "status")
      return {
        status := status
        latestActivityText := ← optionalNullableString obj "latestActivityText"
        openingText := ← optionalNullableString obj "openingText"
        projectName := ← optionalString obj "projectName"
        nameText := ← optionalString obj "nameText" }
  | _ => .error (clientInputError "Request body must be an object")

/-! ### The poll timeout -/

/-- The sign of `parseInt`, and what follows it. -/
def signOf : JsString → Int × JsString
  | 0x2d :: rest => (-1, rest)
  | 0x2b :: rest => (1, rest)
  | s => (1, s)

/-- `parseInt(text, 10)`, where `none` is `NaN`: the digits after white space and a sign, up to
the first other character. -/
def parseInt? (s : JsString) : Option Int :=
  let signed := signOf (s.dropWhile isWhiteSpace)
  let digits := signed.2.takeWhile fun unit => (decimalDigit? unit).isSome
  if digits.isEmpty then none else some (signed.1 * digitsValue digits)

/-- The timeout of a command poll with this query: `NaN` stays `NaN`, everything else is
clamped. -/
def commandPollTimeout (query : JsString) : Option Nat :=
  (parseInt? query).map fun timeout => (min (max timeout 0) 120000).toNat

end Ariava.AgentAdapter
