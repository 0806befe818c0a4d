import Ariava.Protocol.JsonRoundTrip
import Ariava.Protocol.Timestamp
import Ariava.StateStore.StateMigration

/-!
# `Ariava.Operations.HostDomainResetJournal`: the journal of a Host-domain reset

`host-domain-reset-journal-schema.ts` and `host-domain-reset-journal-binding.ts`. A journal is a
record of JavaScript, with its properties in their order, since the policy compares JSON texts.
`parseHostDomainResetJournal` gives the record back when it is one.

Some checks go through `String(value)`, so that an array of one text passes them like the text
(`stringIs`). What such a field has stays a value.

The hash of `node:crypto` is a parameter.
-/

set_option autoImplicit false

namespace Ariava.Operations

open Ariava.Protocol
open Ariava.StateStore.RawState (JsValue booleanOf hasExactKeys isBoolean isDigitUnit isNull isNumber
  isOneOf isText matchesClasses recordOf textOf unitIn unitIs)

/-! ### Bindings -/

/-- `HostDomainResetProfileId`. -/
inductive HostDomainResetProfileId
  | default
  | dev
deriving DecidableEq

/-- The text of a profile. -/
def HostDomainResetProfileId.text : HostDomainResetProfileId → String
  | default => "default"
  | dev => "dev"

/-- `HostDomainResetResourceSet`. The paths are in the order in which `localeCompare` puts their
names. -/
structure HostDomainResetResourceSet where
  identityProfile : HostDomainResetProfileId
  agentAdapterConfigPath : JsString
  configPath : JsString
  encryptedSpoolPath : JsString
  encryptionIdentityPath : JsString
  hostDomainResetJournalPath : JsString
  identityMetadataPath : JsString
  installMetadataPath : JsString
  linkKeyringPath : JsString
  linuxSpoolKeyPath : JsString
  macosSpoolEvidencePath : JsString
  piExtensionLogPath : JsString
  root : JsString
  runtimeLockPath : JsString
  runtimeResetIntentPath : JsString
  runtimeTakeoverMutexPath : JsString
  statePath : JsString

/-- `hostDomainResourcePaths`, in the order of `hostDomainResourceDigest`. -/
def hostDomainResourcePaths (resources : HostDomainResetResourceSet) : JsonObject :=
  [(jsString "agentAdapterConfigPath", .string resources.agentAdapterConfigPath),
    (jsString "configPath", .string resources.configPath),
    (jsString "encryptedSpoolPath", .string resources.encryptedSpoolPath),
    (jsString "encryptionIdentityPath", .string resources.encryptionIdentityPath),
    (jsString "hostDomainResetJournalPath", .string resources.hostDomainResetJournalPath),
    (jsString "identityMetadataPath", .string resources.identityMetadataPath),
    (jsString "installMetadataPath", .string resources.installMetadataPath),
    (jsString "linkKeyringPath", .string resources.linkKeyringPath),
    (jsString "linuxSpoolKeyPath", .string resources.linuxSpoolKeyPath),
    (jsString "macosSpoolEvidencePath", .string resources.macosSpoolEvidencePath),
    (jsString "piExtensionLogPath", .string resources.piExtensionLogPath),
    (jsString "root", .string resources.root),
    (jsString "runtimeLockPath", .string resources.runtimeLockPath),
    (jsString "runtimeResetIntentPath", .string resources.runtimeResetIntentPath),
    (jsString "runtimeTakeoverMutexPath", .string resources.runtimeTakeoverMutexPath),
    (jsString "statePath", .string resources.statePath)]

section Digests

/- `createHash('sha256').update(bytes).digest('hex')`. -/
variable (sha256 : List UInt8 → JsString)

/-- `identityResourceDigest`. -/
def identityResourceDigest (path : JsString) : JsString := sha256 (encodeUtf8 path)

/-- `hostDomainResourceDigest`. -/
def hostDomainResourceDigest (resources : HostDomainResetResourceSet) : JsString :=
  sha256 (encodeUtf8 (stringify (.object (hostDomainResourcePaths resources))))

end Digests

/-! ### Phases and fields -/

/-- `HostDomainResetPhase`. -/
inductive HostDomainResetPhase
  | quarantinePending
  | quarantined
  | prepared
  | revokePending
  | oldIdentityRevoked
  | signingReplacementPending
  | signingIdentityReplaced
  | encryptionIdentityReplaced
  | runtimeArtifactsCleared
  | configSaved
  | enrolled
  | serviceMetadataSynchronized
  | serviceRestorePending
deriving DecidableEq

namespace HostDomainResetPhase

/-- The text of a phase. -/
def text : HostDomainResetPhase → String
  | quarantinePending => "quarantine-pending"
  | quarantined => "quarantined"
  | prepared => "prepared"
  | revokePending => "revoke-pending"
  | oldIdentityRevoked => "old-identity-revoked"
  | signingReplacementPending => "signing-replacement-pending"
  | signingIdentityReplaced => "signing-identity-replaced"
  | encryptionIdentityReplaced => "encryption-identity-replaced"
  | runtimeArtifactsCleared => "runtime-artifacts-cleared"
  | configSaved => "config-saved"
  | enrolled => "enrolled"
  | serviceMetadataSynchronized => "service-metadata-synchronized"
  | serviceRestorePending => "service-restore-pending"

/-- `HOST_DOMAIN_RESET_PHASES`, which is also `HOST_DOMAIN_RESET_PHASE_ORDER`. -/
def all : List HostDomainResetPhase :=
  [quarantinePending, quarantined, prepared, revokePending, oldIdentityRevoked,
    signingReplacementPending, signingIdentityReplaced, encryptionIdentityReplaced,
    runtimeArtifactsCleared, configSaved, enrolled, serviceMetadataSynchronized,
    serviceRestorePending]

/-- `PHASE_INDEX`. -/
def index (phase : HostDomainResetPhase) : Nat := all.idxOf phase

end HostDomainResetPhase

/-- The keys of `HostDomainResetJournalV1`. -/
inductive JournalField
  | version
  | operationId
  | profile
  | phase
  | oldHostId
  | oldKeyId
  | newHostId
  | newKeyId
  | oldEncryptionKeyId
  | signingCleanup
  | signingReplacementAttemptedAt
  | encryptionIdentityReplacedAt
  | runtimeArtifactsClearedAt
  | configSavedAt
  | enrolledAt
  | serviceMetadataSynchronizedAt
  | resourceDigest
  | createdAt
  | updatedAt
  | revoke
  | service
deriving DecidableEq

namespace JournalField

/-- The key of a field. -/
def key : JournalField → String
  | version => "version"
  | operationId => "operationId"
  | profile => "profile"
  | phase => "phase"
  | oldHostId => "oldHostId"
  | oldKeyId => "oldKeyId"
  | newHostId => "newHostId"
  | newKeyId => "newKeyId"
  | oldEncryptionKeyId => "oldEncryptionKeyId"
  | signingCleanup => "signingCleanup"
  | signingReplacementAttemptedAt => "signingReplacementAttemptedAt"
  | encryptionIdentityReplacedAt => "encryptionIdentityReplacedAt"
  | runtimeArtifactsClearedAt => "runtimeArtifactsClearedAt"
  | configSavedAt => "configSavedAt"
  | enrolledAt => "enrolledAt"
  | serviceMetadataSynchronizedAt => "serviceMetadataSynchronizedAt"
  | resourceDigest => "resourceDigest"
  | createdAt => "createdAt"
  | updatedAt => "updatedAt"
  | revoke => "revoke"
  | service => "service"

/-- `JOURNAL_KEYS`. -/
def all : List JournalField :=
  [version, operationId, profile, phase, oldHostId, oldKeyId, newHostId, newKeyId,
    oldEncryptionKeyId, signingCleanup, signingReplacementAttemptedAt,
    encryptionIdentityReplacedAt, runtimeArtifactsClearedAt, configSavedAt, enrolledAt,
    serviceMetadataSynchronizedAt, resourceDigest, createdAt, updatedAt, revoke, service]

end JournalField

/-- `HostDomainResetJournalV1`, as the record that it is. -/
abbrev HostDomainResetJournalV1 : Type := JsonObject

namespace HostDomainResetJournalV1

/-- `journal[field]`. -/
def read (journal : HostDomainResetJournalV1) (field : JournalField) : JsValue :=
  JsonObject.get? journal field.key

/-- `journal.phase`, as the phase that it is. -/
def phase? (journal : HostDomainResetJournalV1) : Option HostDomainResetPhase :=
  HostDomainResetPhase.all.find? fun phase => isText phase.text (journal.read .phase)

/-- `journal.revoke[key]`. -/
def readRevoke (journal : HostDomainResetJournalV1) (key : String) : JsValue :=
  (recordOf (journal.read .revoke)).bind fun revoke => revoke.get? key

/-- `journal.revoke.state === 'skipped' && journal.revoke.outcome === 'old-identity-unreadable'`. -/
def isRevokeSkipped (journal : HostDomainResetJournalV1) : Bool :=
  isText "skipped" (journal.readRevoke "state")
    && isText "old-identity-unreadable" (journal.readRevoke "outcome")

end HostDomainResetJournalV1

/-! ### Dates -/

/-- The year of a date, and what is behind it: four digits, or a sign and six of them. -/
def isoYear? (text : JsString) : Option (Int × JsString) :=
  let digits := List.replicate 4 isDigitUnit
  let signedDigits := List.replicate 6 isDigitUnit
  let year := decimalNumber ((text.drop 1).take 6)
  if matchesClasses digits (text.take 4) then
    some (decimalNumber (text.take 4), text.drop 4)
  else if matchesClasses (unitIs '+' :: signedDigits) (text.take 7) && decide (9999 < year) then
    some (year, text.drop 7)
  else if matchesClasses (unitIs '-' :: signedDigits) (text.take 7) && decide (0 < year) then
    some (-year, text.drop 7)
  else none

/-- `-MM-DDTHH:mm:ss.sssZ`. -/
def isoRestClasses : List (UInt16 → Bool) :=
  let two := List.replicate 2 isDigitUnit
  [unitIs '-'] ++ two ++ [unitIs '-'] ++ two ++ [unitIs 'T'] ++ two ++ [unitIs ':'] ++ two
    ++ [unitIs ':'] ++ two ++ [unitIs '.'] ++ List.replicate 3 isDigitUnit ++ [unitIs 'Z']

/-- The days from the start of 1970 to a day of the Gregorian calendar. The year is counted from
March, so that the leap day is its last one. -/
def epochDays (year : Int) (month day : Nat) : Int :=
  let marchYear := if month ≤ 2 then year - 1 else year
  let yearOfEra := marchYear % 400
  let dayOfYear : Int := (153 * ((month + 9) % 12) + 2) / 5 + day - 1
  marchYear / 400 * 146097 + yearOfEra * 365 + yearOfEra / 4 - yearOfEra / 100 + dayOfYear - 719468

/-- `Date.parse` of a text that `toISOString` gives, and nothing for another one. -/
def isoDate? (text : JsString) : Option Int :=
  (isoYear? text).bind fun (year, rest) =>
    let number (start length : Nat) : Nat := decimalNumber ((rest.drop start).take length)
    let month := number 1 2
    let day := number 4 2
    let hour := number 7 2
    let minute := number 10 2
    let second := number 13 2
    let epochMs : Int := (((epochDays year month day * 24 + hour) * 60 + minute) * 60 + second) * 1000
      + number 16 3
    if matchesClasses isoRestClasses rest && decide (1 ≤ month ∧ month ≤ 12)
        && decide (1 ≤ day ∧ day ≤ daysInMonth (year % 400).toNat month)
        && decide (hour ≤ 23 ∧ minute ≤ 59 ∧ second ≤ 59)
        && decide (epochMs.natAbs ≤ 8640000000000000) then
      some epochMs
    else none

example : isoDate? (jsString "2026-08-11T00:00:00.000Z") = some 1786406400000 := by decide

/-- `Date.parse` of a value that is a canonical timestamp. -/
def dateOf (value : JsValue) : Option Int := (textOf value).bind isoDate?

/-- `isCanonicalTimestamp`. -/
def isCanonicalTimestamp (value : JsValue) : Bool := (dateOf value).isSome

/-- `isNullableJournalTimestamp`. -/
def isNullableJournalTimestamp (value createdAt updatedAt : JsValue) : Bool :=
  isNull value || match dateOf value, dateOf createdAt, dateOf updatedAt with
    | some date, some created, some updated => decide (created ≤ date) && decide (date ≤ updated)
    | _, _, _ => false

/-! ### Checks of the fields -/

/-- `String(value) === word`, for a word without a comma. -/
def stringIs (word : String) : JsonValue → Bool
  | .string text => decide (text = jsString word)
  | .array [element] => stringIs word element
  | _ => false

/-- `words.includes(String(value))`. -/
def stringIsOneOf (words : List String) (value : JsValue) : Bool :=
  value.any fun found => words.any fun word => stringIs word found

/-- `[A-Za-z0-9]`. -/
def isWordUnit (unit : UInt16) : Bool :=
  unitIn 'A' 'Z' unit || unitIn 'a' 'z' unit || isDigitUnit unit

/-- `[A-Za-z0-9_-]`. -/
def isIdUnit (unit : UInt16) : Bool := isWordUnit unit || unitIs '_' unit || unitIs '-' unit

/-- `isOperationId`. -/
def isOperationId (value : JsValue) : Bool :=
  (textOf value).any fun text =>
    (text.head?.any isWordUnit) && decide (7 ≤ text.tail.length) && decide (text.tail.length ≤ 127)
      && text.tail.all isIdUnit

/-- A text of a prefix and 43 characters of `[A-Za-z0-9_-]`. -/
def isPrefixedId (prefixText : String) (text : JsString) : Bool :=
  matchesClasses ((prefixText.toList.map unitIs) ++ List.replicate 43 isIdUnit) text

/-- `isNullablePublicId` and `isNullableEncryptionKeyId`. -/
def isNullableId (prefixText : String) (value : JsValue) : Bool :=
  isNull value || (textOf value).any (isPrefixedId prefixText)

/-- `isDigest`. -/
def isDigest (value : JsValue) : Bool :=
  (textOf value).any (matchesClasses
    (List.replicate 64 fun unit => unitIn 'a' 'f' unit || isDigitUnit unit))

/-- `isRevoke`. -/
def isRevoke (value : JsValue) : Bool :=
  (recordOf value).any fun revoke =>
    let state := revoke.get? "state"
    let outcome := revoke.get? "outcome"
    hasExactKeys revoke ["state", "outcome"]
      && isOneOf ["not-attempted", "pending", "complete", "skipped"] state
      && (isNull outcome || isOneOf ["revoked", "identity-already-revoked",
        "old-identity-unreadable"] outcome)
      && if isOneOf ["not-attempted", "pending"] state then isNull outcome
        else if isText "complete" state then isOneOf ["revoked", "identity-already-revoked"] outcome
        else isText "skipped" state && isText "old-identity-unreadable" outcome

/-- `isService`. -/
def isService (value : JsValue) : Bool :=
  (recordOf value).any fun service =>
    let isFlag (key : String) : Bool := (booleanOf (service.get? key)).isSome
    let isOff (key : String) : Bool := isBoolean false (service.get? key)
    hasExactKeys service ["managed", "installed", "enabled", "wasRunning", "backend"]
      && isFlag "managed" && isFlag "installed" && isFlag "enabled" && isFlag "wasRunning"
      && stringIsOneOf ["launchd", "systemd-user", "none"] (service.get? "backend")
      && if isOff "managed" then
          isText "none" (service.get? "backend") && isOff "installed" && isOff "enabled"
            && isOff "wasRunning"
        else !isText "none" (service.get? "backend")
          && !(isOff "installed" && (!isOff "enabled" || !isOff "wasRunning"))

/-- `isUnmanagedService`. -/
def isUnmanagedService (value : JsValue) : Bool :=
  (recordOf value).any fun service =>
    (["managed", "installed", "enabled", "wasRunning"].all fun key =>
      isBoolean false (service.get? key)) && isText "none" (service.get? "backend")

section Journals

variable (sha256 : List UInt8 → JsString) (resources : HostDomainResetResourceSet)

/-- `isSigningCleanup`. -/
def isSigningCleanup (value : JsValue) : Bool :=
  isNull value || (recordOf value).any fun cleanup =>
    let previousAccount := cleanup.get? "previousAccount"
    let previousPendingAccount := cleanup.get? "previousPendingAccount"
    let interruptedCreationAccount := cleanup.get? "interruptedCreationAccount"
    let previous := (textOf previousAccount).filter (isPrefixedId "host_")
    let pendingOf := previous.getD (jsString "null") ++ jsString ".pending"
    hasExactKeys cleanup ["kind", "resourceDigest", "profile", "previousAccount",
        "previousPendingAccount", "interruptedCreationAccount"]
      && stringIsOneOf ["linux-json", "macos-keychain"] (cleanup.get? "kind")
      && decide (textOf (cleanup.get? "resourceDigest")
        = some (identityResourceDigest sha256 resources.identityMetadataPath))
      && isText resources.identityProfile.text (cleanup.get? "profile")
      && if isText "linux-json" (cleanup.get? "kind") then
          isNull previousAccount && isNull previousPendingAccount && isNull interruptedCreationAccount
        else (isNull previousAccount || previous.isSome)
          && (isNull previousPendingAccount
            || decide (textOf previousPendingAccount = some pendingOf))
          && (isNull interruptedCreationAccount
            || (textOf interruptedCreationAccount).any fun account =>
              isPrefixedId "host_" account && previous.all fun found => decide (account = found))

/-- The state of the revoke that the phase and the old identity ask for. -/
def expectedRevokeState (journal : HostDomainResetJournalV1) (phase : HostDomainResetPhase) :
    String :=
  if phase = .quarantinePending ∨ phase = .quarantined then "not-attempted"
  else if journal.isRevokeSkipped then "skipped"
  else if isNull (journal.read .oldHostId) then "skipped"
  else if phase = .prepared then "not-attempted"
  else if phase = .revokePending then "pending"
  else "complete"

/-- The fields that are filled when a phase is reached, and are `null` before. -/
def evidenceFields : List (HostDomainResetPhase × List JournalField) :=
  [(.signingReplacementPending, [.signingReplacementAttemptedAt]),
    (.signingIdentityReplaced, [.newHostId, .newKeyId]),
    (.encryptionIdentityReplaced, [.encryptionIdentityReplacedAt]),
    (.runtimeArtifactsCleared, [.runtimeArtifactsClearedAt]), (.configSaved, [.configSavedAt]),
    (.enrolled, [.enrolledAt]), (.serviceMetadataSynchronized, [.serviceMetadataSynchronizedAt])]

/-- `exactEvidence`. -/
def exactEvidence (journal : HostDomainResetJournalV1) (phase : HostDomainResetPhase)
    (evidence : HostDomainResetPhase × List JournalField) : Bool :=
  decide (evidence.1.index ≤ phase.index)
    == evidence.2.all fun field => !isNull (journal.read field)

/-- `hasValidPhaseInvariants`. -/
def hasValidPhaseInvariants (journal : HostDomainResetJournalV1) (phase : HostDomainResetPhase) :
    Bool :=
  let oldKnown := !isNull (journal.read .oldHostId)
  let preInspection := decide (phase = .quarantinePending ∨ phase = .quarantined)
  !(oldKnown && decide (textOf (journal.read .newHostId) = textOf (journal.read .oldHostId)))
    && !(decide (phase = .revokePending ∨ phase = .oldIdentityRevoked) && !oldKnown)
    && isText (expectedRevokeState journal phase) (journal.readRevoke "state")
    && (if preInspection then
        !oldKnown && isNull (journal.read .oldEncryptionKeyId)
          && isNull (journal.readRevoke "outcome") && isNull (journal.read .signingCleanup)
      else oldKnown || journal.isRevokeSkipped)
    && !(journal.isRevokeSkipped && isNull (journal.read .signingCleanup))
    && evidenceFields.all (exactEvidence journal phase)

/-- The fields that hold a timestamp or `null`. -/
def journalTimestamps : List JournalField :=
  [.signingReplacementAttemptedAt, .encryptionIdentityReplacedAt, .runtimeArtifactsClearedAt,
    .configSavedAt, .enrolledAt, .serviceMetadataSynchronizedAt]

/-- The checks of `parseHostDomainResetJournal`, for a record. -/
def isHostDomainResetJournal (journal : HostDomainResetJournalV1) : Bool :=
  hasExactKeys journal (JournalField.all.map JournalField.key)
    && isNumber 1 (journal.read .version)
    && isOperationId (journal.read .operationId)
    && isText resources.identityProfile.text (journal.read .profile)
    && journal.phase?.isSome
    && isNullableId "host_" (journal.read .oldHostId)
    && isNullableId "key_" (journal.read .oldKeyId)
    && isNullableId "host_" (journal.read .newHostId)
    && isNullableId "key_" (journal.read .newKeyId)
    && isNullableId "ekey_" (journal.read .oldEncryptionKeyId)
    && isSigningCleanup sha256 resources (journal.read .signingCleanup)
    && isDigest (journal.read .resourceDigest)
    && decide (textOf (journal.read .resourceDigest)
      = some (hostDomainResourceDigest sha256 resources))
    && (match dateOf (journal.read .createdAt), dateOf (journal.read .updatedAt) with
      | some created, some updated => decide (created ≤ updated)
      | _, _ => false)
    && isRevoke (journal.read .revoke)
    && isService (journal.read .service)
    && !(decide (resources.identityProfile = .dev)
      && !isUnmanagedService (journal.read .service))
    && isNull (journal.read .oldHostId) == isNull (journal.read .oldKeyId)
    && isNull (journal.read .newHostId) == isNull (journal.read .newKeyId)
    && (journalTimestamps.all fun field =>
      isNullableJournalTimestamp (journal.read field) (journal.read .createdAt)
        (journal.read .updatedAt))
    && journal.phase?.any (hasValidPhaseInvariants journal)

/-- `parseHostDomainResetJournal`. Where it throws a `TypeError` there is nothing. The clone of a
record is the record. -/
def parseHostDomainResetJournal (value : JsonValue) : Option HostDomainResetJournalV1 :=
  (recordOf (some value)).filter (isHostDomainResetJournal sha256 resources)

end Journals

end Ariava.Operations
