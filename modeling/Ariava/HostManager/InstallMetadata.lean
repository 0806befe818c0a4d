import Ariava.HostManager.NodePath
import Ariava.StateStore.StateMigration

/-!
# `Ariava.HostManager.InstallMetadata`: the install metadata and how it is merged

`service/migration.ts` and the metadata functions of `config.ts`. A document is normalised when it
is loaded and again when it is saved: each member is kept or dropped by a check of its own, and
the diagnostics say whether something was dropped. A service record of an earlier version is
rewritten in the current form.

`mergeInstallMetadata` normalises the loaded metadata with the patch spread over it, and saves what
is left. It looks at the metadata of that result and not at its diagnostics.

The file is the document in it, or nothing where there is none. Reading and writing JSON give
the same document, and `readSecureJson` and `writeJsonFile` do not fail here.
-/

set_option autoImplicit false

namespace Ariava.HostManager

open Ariava.Protocol (ascii jsString JsString JsonObject JsonValue isCanonicalTimestampString
  isWhiteSpace Thrown)
open Ariava.StateStore.RawState (JsValue isOneOf isText objectLiteral recordOf textOf)

/-! ### Predicates -/

/-- `typeof value === 'string' && value.trim().length > 0`. -/
def isNonBlank (value : JsValue) : Bool :=
  (textOf value).any fun text => text.any fun unit => !isWhiteSpace unit

/-- `typeof value === 'string' && value.length > 0`. -/
def isNonEmpty (value : JsValue) : Bool := (textOf value).any fun text => !text.isEmpty

/-- `safeAbsolutePath` of a string. -/
def isSafePath (path : JsString) : Bool :=
  !path.isEmpty && isAbsolute path && decide (resolve path = path) && !path.any isControlUnit

/-- `safeAbsolutePath`. -/
def safeAbsolutePath (value : JsValue) : Bool := (textOf value).any isSafePath

/-- `isAssetSource`. -/
def isAssetSource (value : JsValue) : Bool :=
  (recordOf value).any fun source =>
    isOneOf ["release-bundle", "npm-package", "dev-repo", "explicit-path"] (source.get? "kind")
      && isNonEmpty (source.get? "updatedAt")
      && ((source.get? "path").isNone || safeAbsolutePath (source.get? "path"))
      && ((source.get? "package").isNone || isNonEmpty (source.get? "package"))
      && if isText "npm-package" (source.get? "kind") then
          (textOf (source.get? "package")).isSome
        else isText "release-bundle" (source.get? "kind") || (textOf (source.get? "path")).isSome

/-- `isPiExtensionRecord`. -/
def isPiExtensionRecord (value : JsValue) : Bool :=
  (recordOf value).any fun record =>
    isNonEmpty (record.get? "installedAt") && isNonEmpty (record.get? "version")
      && safeAbsolutePath (record.get? "managedPath") && isAssetSource (record.get? "source")

/-- `isInstallerMetadata`. -/
def isInstallerMetadata (value : JsValue) : Bool :=
  (recordOf value).any fun record =>
    isOneOf ["npm", "pnpm", "bun", "homebrew"] (record.get? "manager")
      && safeAbsolutePath (record.get? "ariavaBinRealPath")
      && (textOf (record.get? "recordedAt")).any isCanonicalTimestampString

/-- `isPublicIdentityReference`. -/
def isPublicIdentityReference (value : JsValue) : Bool :=
  (recordOf value).any fun reference =>
    if isText "linux-json" (reference.get? "type") then safeAbsolutePath (reference.get? "path")
    else isText "macos-keychain" (reference.get? "type")
      && isText "io.noyx.ariava.host-identity" (reference.get? "service")
      && isNonEmpty (reference.get? "account")

/-! ### Service records -/

/-- `ServiceBackend`. -/
inductive ServiceBackend
  | launchd
  | systemdUser
deriving DecidableEq

/-- The text of a backend. -/
def ServiceBackend.text : ServiceBackend → String
  | launchd => "launchd"
  | systemdUser => "systemd-user"

/-- `ARIAVA_LAUNCHD_LABEL` and `ARIAVA_SYSTEMD_SERVICE_ID`. -/
def ServiceBackend.serviceId : ServiceBackend → String
  | launchd => "io.noyx.ariava.bridge"
  | systemdUser => "ariava.service"

/-- `isServiceBackend`. -/
def serviceBackend? (value : JsValue) : Option ServiceBackend :=
  if isText "launchd" value then some .launchd
  else if isText "systemd-user" value then some .systemdUser
  else none

/-- `AriavaServiceInstallRecord`. A version comes with the runtime name `node`, and a config path
with an identity reference. -/
structure AriavaServiceInstallRecord where
  backend : ServiceBackend
  installedAt : JsString
  runtimePath : JsString
  runtimeVersion : Option JsString
  ariavaBinPath : JsString
  definitionPath : JsString
  serviceId : JsString
  identity : Option (JsString × JsonValue)

/-- The properties of a service record. -/
def AriavaServiceInstallRecord.properties (record : AriavaServiceInstallRecord) : JsonObject :=
  objectLiteral
    [("backend", some (.string (jsString record.backend.text))),
      ("installedAt", some (.string record.installedAt)),
      ("runtimePath", some (.string record.runtimePath)),
      ("runtimeName", record.runtimeVersion.map fun _ => .string (jsString "node")),
      ("runtimeVersion", record.runtimeVersion.map .string),
      ("ariavaBinPath", some (.string record.ariavaBinPath)),
      ("definitionPath", some (.string record.definitionPath)),
      ("serviceId", some (.string record.serviceId)),
      ("configPath", record.identity.map fun identity => .string identity.1),
      ("identityReference", record.identity.map Prod.snd)]

/-- A service record as a value. -/
def AriavaServiceInstallRecord.value (record : AriavaServiceInstallRecord) : JsonValue :=
  .object record.properties

/-- The path, when it is there and safe. -/
def safePath? (value : JsValue) : Option JsString := (textOf value).filter isSafePath

/-- The text, when it is there and not blank. -/
def nonBlank? (value : JsValue) : Option JsString :=
  if isNonBlank value then textOf value else none

/-- A path of a service record: `hasNonEmptyStrings` and `safeAbsolutePath`. -/
def recordPath? (value : JsValue) : Option JsString :=
  if isNonBlank value then safePath? value else none

/-- The runtime version of a service record. -/
def runtimeVersion? (record : JsonObject) : Option JsString :=
  if isText "node" (record.get? "runtimeName") then nonBlank? (record.get? "runtimeVersion") else none

/-- The identity reference, when it is valid. -/
def identityReference? (record : JsonObject) : Option JsonValue :=
  if isPublicIdentityReference (record.get? "identityReference") then
    record.get? "identityReference"
  else none

/-- The identity of a current record: with a safe config path, or without both. -/
def currentIdentity? (record : JsonObject) : Option (Option (JsString × JsonValue)) :=
  match safePath? (record.get? "configPath"), identityReference? record with
  | some configPath, some reference => some (some (configPath, reference))
  | none, none => some none
  | _, _ => none

/-- The identity of a record of an earlier version: with any config path. -/
def legacyIdentity? (record : JsonObject) : Option (JsString × JsonValue) :=
  match textOf (record.get? "configPath"), identityReference? record with
  | some configPath, some reference => some (configPath, reference)
  | _, _ => none

/-- A record with a `backend`. -/
def currentRecord? (record : JsonObject) : Option AriavaServiceInstallRecord := do
  let backend ← serviceBackend? (record.get? "backend")
  let installedAt ← nonBlank? (record.get? "installedAt")
  let runtimePath ← recordPath? (record.get? "runtimePath")
  let ariavaBinPath ← recordPath? (record.get? "ariavaBinPath")
  let definitionPath ← recordPath? (record.get? "definitionPath")
  let serviceId ← nonBlank? (record.get? "serviceId")
  let identity ← currentIdentity? record
  if serviceId = jsString backend.serviceId then
    some ⟨backend, installedAt, runtimePath, runtimeVersion? record, ariavaBinPath, definitionPath,
      serviceId, identity⟩
  else none

/-- A record of an earlier version, which was always one of launchd. -/
def legacyRecord? (record : JsonObject) : Option AriavaServiceInstallRecord := do
  let installedAt ← nonBlank? (record.get? "installedAt")
  let nodePath ← recordPath? (record.get? "nodePath")
  let ariavaBinPath ← recordPath? (record.get? "ariavaBinPath")
  let plistPath ← recordPath? (record.get? "plistPath")
  let label ← nonBlank? (record.get? "label")
  if label = jsString (ServiceBackend.serviceId .launchd) then
    some ⟨.launchd, installedAt, nodePath, none, ariavaBinPath, plistPath, label,
      legacyIdentity? record⟩
  else none

/-- `normalizeServiceInstallRecord`. -/
def normalizeServiceInstallRecord (value : JsValue) : Option AriavaServiceInstallRecord :=
  (recordOf value).bind fun record =>
    if JsonObject.hasOwn record "backend" then currentRecord? record else legacyRecord? record

/-! ### Documents -/

/-- `AriavaInstallMetadata`. The members that are kept as they are stay values. -/
structure AriavaInstallMetadata where
  bridgeSource : JsValue
  piSource : JsValue
  piExtension : JsValue
  identityPath : Option JsString
  installer : JsValue
  service : Option AriavaServiceInstallRecord

/-- The properties of a document. -/
def AriavaInstallMetadata.properties (metadata : AriavaInstallMetadata) : JsonObject :=
  objectLiteral
    [("bridgeSource", metadata.bridgeSource), ("piSource", metadata.piSource),
      ("piExtension", metadata.piExtension), ("identityPath", metadata.identityPath.map .string),
      ("installer", metadata.installer),
      ("service", metadata.service.map AriavaServiceInstallRecord.value)]

/-- The metadata as a document. -/
def AriavaInstallMetadata.value (metadata : AriavaInstallMetadata) : JsonValue :=
  .object metadata.properties

/-- `documentMetadataIssue`. -/
inductive DocumentMetadataIssue
  | invalidRoot
  | invalidIdentityPath
  | invalidSourceRecord
deriving DecidableEq

/-- `InstallMetadataDiagnostics`. Each issue says that its part is not valid. -/
structure InstallMetadataDiagnostics where
  serviceMetadataValid : Bool
  installerMetadataValid : Option Bool
  documentMetadataIssue : Option DocumentMetadataIssue
deriving DecidableEq

/-- `InstallMetadataLoadResult`. -/
structure InstallMetadataLoadResult where
  metadata : AriavaInstallMetadata
  diagnostics : InstallMetadataDiagnostics

/-- A member that passes its check, and nothing for another one. -/
def keptMember (check : JsValue → Bool) (value : JsValue) : JsValue :=
  if check value then value else none

/-- A member that is there and does not pass its check. -/
def isRejected (check : JsValue → Bool) (value : JsValue) : Bool := value.isSome && !check value

/-- The issue of the members besides the service and the installer. The last one counts. -/
def documentIssue (value : JsonObject) : Option DocumentMetadataIssue :=
  if isRejected safeAbsolutePath (value.get? "identityPath") then some .invalidIdentityPath
  else if isRejected isAssetSource (value.get? "bridgeSource")
      || isRejected isAssetSource (value.get? "piSource")
      || isRejected isPiExtensionRecord (value.get? "piExtension") then some .invalidSourceRecord
  else none

/-- The members of a document that are kept. -/
def keptMembers (value : JsonObject) : AriavaInstallMetadata where
  bridgeSource := keptMember isAssetSource (value.get? "bridgeSource")
  piSource := keptMember isAssetSource (value.get? "piSource")
  piExtension := keptMember isPiExtensionRecord (value.get? "piExtension")
  identityPath := (safePath? (value.get? "identityPath")).map resolve
  installer := keptMember isInstallerMetadata (value.get? "installer")
  service := normalizeServiceInstallRecord (value.get? "service")

/-- The diagnostics of a document. Next to an invalid service the document issue is not given. -/
def recordDiagnostics (value : JsonObject) : InstallMetadataDiagnostics :=
  let hasInstaller := (value.get? "installer").isSome
  let installerValid := isInstallerMetadata (value.get? "installer")
  if (value.get? "service").isSome && (normalizeServiceInstallRecord (value.get? "service")).isNone
    then
      { serviceMetadataValid := false
        installerMetadataValid := if hasInstaller then some installerValid else none
        documentMetadataIssue := none }
  else
    { serviceMetadataValid := true
      installerMetadataValid := if hasInstaller && !installerValid then some false else none
      documentMetadataIssue := documentIssue value }

/-- `normalizeInstallMetadata`. -/
def normalizeInstallMetadata (value : JsonValue) : InstallMetadataLoadResult :=
  match recordOf (some value) with
  | some record => ⟨keptMembers record, recordDiagnostics record⟩
  | none => ⟨⟨none, none, none, none, none, none⟩, ⟨true, none, some .invalidRoot⟩⟩

/-- No issue is reported. -/
def InstallMetadataDiagnostics.isValid (diagnostics : InstallMetadataDiagnostics) : Bool :=
  diagnostics.serviceMetadataValid && decide (diagnostics.installerMetadataValid ≠ some false)
    && diagnostics.documentMetadataIssue.isNone

/-- The text of the error. -/
def invalidMetadataText : String :=
  "Ariava install metadata is invalid. " ++
    "Repair or remove the corrupt install metadata before retrying."

/-- `assertValidInstallMetadata`, and the metadata. -/
def assertValidInstallMetadata (result : InstallMetadataLoadResult) :
    Except Thrown AriavaInstallMetadata :=
  if result.diagnostics.isValid then .ok result.metadata
  else .error (.error invalidMetadataText)

/-- `loadInstallMetadata`. -/
def loadInstallMetadata (file : Option JsonValue) : Except Thrown AriavaInstallMetadata :=
  assertValidInstallMetadata (normalizeInstallMetadata (file.getD (.object [])))

/-- `saveInstallMetadata`: what is written. -/
def saveInstallMetadata (metadata : AriavaInstallMetadata) : Except Thrown AriavaInstallMetadata :=
  assertValidInstallMetadata (normalizeInstallMetadata metadata.value)

/-- `Partial<AriavaInstallMetadata>`: a member is not there, or has a value, which may be
`undefined`. -/
structure InstallPatch where
  bridgeSource : Option JsValue
  piSource : Option JsValue
  piExtension : Option JsValue
  identityPath : Option JsValue
  installer : Option JsValue
  service : Option JsValue

/-- `{ ...loaded, ...patch }`. -/
def spreadPatch (loaded : AriavaInstallMetadata) (patch : InstallPatch) : JsonObject :=
  objectLiteral
    [("bridgeSource", patch.bridgeSource.getD loaded.bridgeSource),
      ("piSource", patch.piSource.getD loaded.piSource),
      ("piExtension", patch.piExtension.getD loaded.piExtension),
      ("identityPath", patch.identityPath.getD (loaded.identityPath.map .string)),
      ("installer", patch.installer.getD loaded.installer),
      ("service", patch.service.getD (loaded.service.map AriavaServiceInstallRecord.value))]

/-- `mergeInstallMetadata`: the result, and the file behind it. -/
def mergeInstallMetadata (patch : InstallPatch) (file : Option JsonValue) :
    Except Thrown AriavaInstallMetadata × Option JsonValue :=
  match loadInstallMetadata file with
  | .error thrown => (.error thrown, file)
  | .ok loaded =>
      let next := (normalizeInstallMetadata (.object (spreadPatch loaded patch))).metadata
      match saveInstallMetadata next with
      | .error thrown => (.error thrown, file)
      | .ok written => (.ok next, some written.value)

end Ariava.HostManager
