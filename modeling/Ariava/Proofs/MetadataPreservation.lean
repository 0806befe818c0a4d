import Ariava.HostManager.InstallMetadata
import Ariava.Proofs.RawValues
import Ariava.Proofs.StateMigration

/-!
# `Ariava.Proofs.MetadataPreservation`: which install metadata is kept

What is proved here:

* `normalizeInstallMetadata` keeps what it made, except a service record of an earlier version
  whose config path is not safe. It is accepted, and as a current record it no longer is.
* `mergeInstallMetadata` looks at the metadata of the normalised result and not at its
  diagnostics. So it writes the patch and keeps the rest exactly when every member of the patch
  passes its check, and the stored service is not one of those records (`keepsMembers_iff`).
-/

set_option autoImplicit false

namespace Ariava.Proofs.MetadataPreservation

open Ariava.HostManager
open Ariava.Protocol (JsonObject JsonValue JsString jsString jsString_injective Thrown)
open Ariava.Proofs.RawValues
open Ariava.Proofs.StateMigration (get?_objectLiteral_cons get?_objectLiteral_nil)
open Ariava.StateStore.RawState (JsValue hasOnlyKeys isText objectLiteral recordOf textOf)

/-! ### Values -/

/-- The property of a record under a key. -/
def propertyOf (record : JsonObject) (key : JsString) : JsValue :=
  (List.find? (fun property => decide (property.1 = key)) record).map Prod.snd

/-- The same value. The order of the keys of a record does not matter. -/
def SameValue : JsValue → JsValue → Prop
  | some (.object left), some (.object right) => ∀ key, propertyOf left key = propertyOf right key
  | left, right => left = right

theorem SameValue.refl (value : JsValue) : SameValue value value := by
  cases value with
  | none => rfl
  | some value =>
    cases value with
    | object record => exact fun _ => rfl
    | _ => rfl

/-- Nothing is the same as nothing only. -/
@[simp] theorem sameValue_none {value : JsValue} : SameValue none value ↔ value = none := by
  cases value <;> simp [SameValue]

/-- A text is the same as itself only. -/
@[simp] theorem sameValue_string {text : JsString} {value : JsValue} :
    SameValue (some (.string text)) value ↔ value = some (.string text) := by
  cases value <;> simp [SameValue, eq_comm]

/-- A key that an object literal does not write. -/
theorem propertyOf_objectLiteral {fields : List (String × JsValue)} {key : JsString}
    (h : key ∉ (fields.map Prod.fst).map jsString) : propertyOf (objectLiteral fields) key = none := by
  rw [propertyOf, Option.map_eq_none_iff, List.find?_eq_none]
  intro property hproperty
  obtain ⟨field, hfield, hvalue⟩ := List.mem_filterMap.mp hproperty
  obtain ⟨value, -, rfl⟩ := Option.map_eq_some_iff.mp hvalue
  have hmem : jsString field.1 ∈ (fields.map Prod.fst).map jsString :=
    List.mem_map_of_mem (List.mem_map_of_mem hfield)
  simp only [decide_eq_true_eq]
  intro heq
  exact h (heq ▸ hmem)

/-- A record has only these keys when there is nothing under another one. -/
theorem hasOnlyKeys_iff {record : JsonObject} {keys : List String} :
    hasOnlyKeys record keys = true
      ↔ ∀ key, key ∉ keys.map jsString → propertyOf record key = none := by
  rw [hasOnlyKeys, List.all_eq_true]
  constructor
  · intro h key hkey
    rw [propertyOf, Option.map_eq_none_iff, List.find?_eq_none]
    intro property hproperty
    have hmem := of_decide_eq_true (h property hproperty)
    simp only [decide_eq_true_eq]
    intro heq
    exact hkey (heq ▸ hmem)
  · intro h property hproperty
    by_contra hmem
    rw [decide_eq_true_eq] at hmem
    have hnone := h property.1 hmem
    rw [propertyOf, Option.map_eq_none_iff, List.find?_eq_none] at hnone
    exact hnone property hproperty (decide_eq_true rfl)

/-! ### Members -/

section Members

variable {check : JsValue → Bool} {value : JsValue}

theorem keptMember_keptMember : keptMember check (keptMember check value) = keptMember check value := by
  unfold keptMember
  by_cases h : check value = true
  · rw [if_pos h, if_pos h]
  · rw [if_neg h]
    split <;> rfl

theorem isRejected_eq_false :
    isRejected check value = false ↔ value = none ∨ check value = true := by
  cases value <;> simp [isRejected]

/-- What was kept is not rejected. -/
@[simp] theorem isRejected_keptMember : isRejected check (keptMember check value) = false := by
  rw [isRejected_eq_false, keptMember]
  by_cases h : check value = true
  · exact .inr (by rw [if_pos h, h])
  · exact .inl (if_neg h)

theorem isRejected_of_kept (h : keptMember check value = value) : isRejected check value = false := by
  rw [← h]
  exact isRejected_keptMember

/-- A member is kept as it is exactly when it is not rejected. -/
theorem sameValue_keptMember :
    SameValue (keptMember check value) value ↔ isRejected check value = false := by
  rw [isRejected_eq_false, keptMember]
  by_cases h : check value = true
  · simp [h, SameValue.refl]
  · simp [h]

end Members

theorem resolve_of_isSafePath {path : JsString} (h : isSafePath path = true) : resolve path = path := by
  simp only [isSafePath, Bool.and_eq_true, decide_eq_true_eq] at h
  exact h.1.2

theorem safePath?_eq_some {value : JsValue} {path : JsString} :
    safePath? value = some path ↔ value = some (.string path) ∧ isSafePath path = true := by
  rw [safePath?, Option.filter_eq_some_iff, textOf_eq_some]

/-- The identity path of a document is stored as it is. -/
theorem map_resolve_safePath? (value : JsValue) : (safePath? value).map resolve = safePath? value := by
  cases h : safePath? value with
  | none => rfl
  | some path => rw [Option.map_some, resolve_of_isSafePath (safePath?_eq_some.mp h).2]

theorem map_string_safePath? (value : JsValue) :
    (safePath? value).map JsonValue.string = keptMember safeAbsolutePath value := by
  rw [safePath?, keptMember, safeAbsolutePath]
  cases htext : textOf value with
  | none => rfl
  | some path =>
    rw [textOf_eq_some.mp htext, Option.filter_some, Option.any_some]
    split <;> rfl

/-! ### Service records -/

/-- What every accepted service record has, of this version or an earlier one. -/
structure IsAccepted (record : AriavaServiceInstallRecord) : Prop where
  installedAt : nonBlank? (some (.string record.installedAt)) = some record.installedAt
  runtimePath : recordPath? (some (.string record.runtimePath)) = some record.runtimePath
  ariavaBinPath : recordPath? (some (.string record.ariavaBinPath)) = some record.ariavaBinPath
  definitionPath : recordPath? (some (.string record.definitionPath)) = some record.definitionPath
  serviceId_nonBlank : nonBlank? (some (.string record.serviceId)) = some record.serviceId
  serviceId : record.serviceId = jsString record.backend.serviceId
  runtimeVersion : ∀ version, record.runtimeVersion = some version →
    nonBlank? (some (.string version)) = some version
  reference : ∀ identity, record.identity = some identity →
    isPublicIdentityReference (some identity.2) = true

/-- The config path of a record is safe, if it has one. -/
def hasSafeConfigPath (record : AriavaServiceInstallRecord) : Bool :=
  record.identity.all fun identity => isSafePath identity.1

theorem nonBlank?_eq_some {value : JsValue} {text : JsString} :
    nonBlank? value = some text ↔ value = some (.string text) ∧ isNonBlank value = true := by
  rw [nonBlank?]
  split
  · simp [textOf_eq_some, *]
  · simp [*]

theorem recordPath?_eq_some {value : JsValue} {path : JsString} :
    recordPath? value = some path
      ↔ value = some (.string path) ∧ isNonBlank value = true ∧ isSafePath path = true := by
  rw [recordPath?]
  split
  · simp [safePath?_eq_some, *]
  · simp [*]

/-- A value that was read as a text that is not blank is that text. -/
theorem nonBlank?_self {value : JsValue} {text : JsString} (h : nonBlank? value = some text) :
    nonBlank? (some (.string text)) = some text := by
  rwa [(nonBlank?_eq_some.mp h).1] at h

theorem recordPath?_self {value : JsValue} {path : JsString} (h : recordPath? value = some path) :
    recordPath? (some (.string path)) = some path := by
  rwa [(recordPath?_eq_some.mp h).1] at h

theorem runtimeVersion?_eq_some {record : JsonObject} {version : JsString} :
    runtimeVersion? record = some version
      ↔ record.get? "runtimeName" = some (.string (jsString "node"))
        ∧ nonBlank? (record.get? "runtimeVersion") = some version := by
  rw [runtimeVersion?]
  split
  · simp_all
  · simp_all

theorem identityReference?_eq_some {record : JsonObject} {reference : JsonValue} :
    identityReference? record = some reference
      ↔ record.get? "identityReference" = some reference
        ∧ isPublicIdentityReference (some reference) = true := by
  rw [identityReference?]
  constructor
  · intro h
    split at h
    · next hvalid => exact ⟨h, h ▸ hvalid⟩
    · cases h
  · rintro ⟨hread, hvalid⟩
    rw [hread, if_pos hvalid]

theorem serviceBackend?_eq_some {value : JsValue} {backend : ServiceBackend} :
    serviceBackend? value = some backend ↔ value = some (.string (jsString backend.text)) := by
  have hne : jsString "launchd" ≠ jsString "systemd-user" := by decide
  rw [serviceBackend?]
  by_cases hlaunchd : isText "launchd" value = true
  · rw [if_pos hlaunchd, isText_iff.mp hlaunchd]
    cases backend <;> simp [ServiceBackend.text, hne]
  · rw [if_neg hlaunchd]
    rw [isText_iff] at hlaunchd
    by_cases hsystemd : isText "systemd-user" value = true
    · rw [if_pos hsystemd, isText_iff.mp hsystemd]
      cases backend <;> simp [ServiceBackend.text, hne.symm]
    · rw [if_neg hsystemd]
      rw [isText_iff] at hsystemd
      cases backend <;> simp [ServiceBackend.text, hlaunchd, hsystemd]

/-- When a current record is accepted, and as what. -/
theorem currentRecord?_eq_some {properties : JsonObject} {record : AriavaServiceInstallRecord} :
    currentRecord? properties = some record
      ↔ properties.get? "backend" = some (.string (jsString record.backend.text))
        ∧ nonBlank? (properties.get? "installedAt") = some record.installedAt
        ∧ recordPath? (properties.get? "runtimePath") = some record.runtimePath
        ∧ recordPath? (properties.get? "ariavaBinPath") = some record.ariavaBinPath
        ∧ recordPath? (properties.get? "definitionPath") = some record.definitionPath
        ∧ nonBlank? (properties.get? "serviceId") = some record.serviceId
        ∧ currentIdentity? properties = some record.identity
        ∧ record.serviceId = jsString record.backend.serviceId
        ∧ runtimeVersion? properties = record.runtimeVersion := by
  simp only [currentRecord?, Option.bind_eq_bind, Option.bind_eq_some_iff, serviceBackend?_eq_some]
  constructor
  · rintro ⟨backend, hbackend, installedAt, hinstalledAt, runtimePath, hruntimePath, ariavaBinPath,
      hariavaBinPath, definitionPath, hdefinitionPath, serviceId, hserviceId, identity, hidentity, h⟩
    split at h
    · next hid =>
      cases h
      exact ⟨hbackend, hinstalledAt, hruntimePath, hariavaBinPath, hdefinitionPath, hserviceId,
        hidentity, hid, rfl⟩
    · cases h
  · rintro ⟨hbackend, hinstalledAt, hruntimePath, hariavaBinPath, hdefinitionPath, hserviceId,
      hidentity, hid, hversion⟩
    refine ⟨_, hbackend, _, hinstalledAt, _, hruntimePath, _, hariavaBinPath, _, hdefinitionPath,
      _, hserviceId, _, hidentity, ?_⟩
    rw [if_pos hid, hversion]

/-- When a record of an earlier version is accepted, and as what. -/
theorem legacyRecord?_eq_some {properties : JsonObject} {record : AriavaServiceInstallRecord} :
    legacyRecord? properties = some record
      ↔ record.backend = .launchd
        ∧ nonBlank? (properties.get? "installedAt") = some record.installedAt
        ∧ recordPath? (properties.get? "nodePath") = some record.runtimePath
        ∧ recordPath? (properties.get? "ariavaBinPath") = some record.ariavaBinPath
        ∧ recordPath? (properties.get? "plistPath") = some record.definitionPath
        ∧ nonBlank? (properties.get? "label") = some record.serviceId
        ∧ record.serviceId = jsString (ServiceBackend.serviceId .launchd)
        ∧ record.runtimeVersion = none ∧ record.identity = legacyIdentity? properties := by
  simp only [legacyRecord?, Option.bind_eq_bind, Option.bind_eq_some_iff]
  constructor
  · rintro ⟨installedAt, hinstalledAt, runtimePath, hruntimePath, ariavaBinPath, hariavaBinPath,
      definitionPath, hdefinitionPath, serviceId, hserviceId, h⟩
    split at h
    · next hid =>
      cases h
      exact ⟨rfl, hinstalledAt, hruntimePath, hariavaBinPath, hdefinitionPath, hserviceId, hid,
        rfl, rfl⟩
    · cases h
  · rintro ⟨hbackend, hinstalledAt, hruntimePath, hariavaBinPath, hdefinitionPath, hserviceId, hid,
      hversion, hidentity⟩
    refine ⟨_, hinstalledAt, _, hruntimePath, _, hariavaBinPath, _, hdefinitionPath, _, hserviceId,
      ?_⟩
    rw [if_pos hid, ← hbackend, ← hversion, ← hidentity]

theorem currentIdentity?_eq_some {properties : JsonObject}
    {identity : Option (JsString × JsonValue)} (h : currentIdentity? properties = some identity) :
    ∀ found, identity = some found →
      isSafePath found.1 = true ∧ isPublicIdentityReference (some found.2) = true
        ∧ properties.get? "configPath" = some (.string found.1)
        ∧ properties.get? "identityReference" = some found.2 := by
  intro found hfound
  subst hfound
  unfold currentIdentity? at h
  split at h
  · next hpath hreference =>
    cases h
    obtain ⟨hread, hsafe⟩ := safePath?_eq_some.mp hpath
    obtain ⟨hreadReference, hvalid⟩ := identityReference?_eq_some.mp hreference
    exact ⟨hsafe, hvalid, hread, hreadReference⟩
  · cases h
  · cases h

theorem legacyIdentity?_eq_some {properties : JsonObject} {identity : JsString × JsonValue} :
    legacyIdentity? properties = some identity
      ↔ textOf (properties.get? "configPath") = some identity.1
        ∧ identityReference? properties = some identity.2 := by
  unfold legacyIdentity?
  split
  · next hpath hreference => simp [hpath, hreference, Prod.ext_iff]
  · next hnone =>
    constructor
    · intro h
      cases h
    · rintro ⟨hpath, hreference⟩
      exact (hnone _ _ hpath hreference).elim

/-- A record that was accepted has its parts, and a config path that is checked only now. -/
theorem isAccepted_of_normalize {value : JsValue} {record : AriavaServiceInstallRecord}
    (h : normalizeServiceInstallRecord value = some record) : IsAccepted record := by
  obtain ⟨properties, -, hrecord⟩ := Option.bind_eq_some_iff.mp h
  split at hrecord
  · obtain ⟨-, hinstalledAt, hruntimePath, hariavaBinPath, hdefinitionPath, hserviceId, hidentity,
      hid, hversion⟩ := currentRecord?_eq_some.mp hrecord
    refine ⟨nonBlank?_self hinstalledAt, recordPath?_self hruntimePath,
      recordPath?_self hariavaBinPath, recordPath?_self hdefinitionPath, nonBlank?_self hserviceId,
      hid, ?_, ?_⟩
    · intro version hsome
      rw [← hversion] at hsome
      exact nonBlank?_self (runtimeVersion?_eq_some.mp hsome).2
    · intro identity hsome
      exact (currentIdentity?_eq_some hidentity identity hsome).2.1
  · obtain ⟨hbackend, hinstalledAt, hruntimePath, hariavaBinPath, hdefinitionPath, hserviceId, hid,
      hversion, hidentity⟩ := legacyRecord?_eq_some.mp hrecord
    refine ⟨nonBlank?_self hinstalledAt, recordPath?_self hruntimePath,
      recordPath?_self hariavaBinPath, recordPath?_self hdefinitionPath, nonBlank?_self hserviceId,
      hbackend ▸ hid, ?_, ?_⟩
    · intro version hsome
      rw [hversion] at hsome
      cases hsome
    · intro identity hsome
      rw [hidentity] at hsome
      exact (identityReference?_eq_some.mp (legacyIdentity?_eq_some.mp hsome).2).2

section Properties

variable (record : AriavaServiceInstallRecord)

/-- The members of a service record. -/
def serviceMembers : List (String × JsValue) :=
  [("backend", some (.string (jsString record.backend.text))),
    ("installedAt", some (.string record.installedAt)),
    ("runtimePath", some (.string record.runtimePath)),
    ("runtimeName", record.runtimeVersion.map fun _ => .string (jsString "node")),
    ("runtimeVersion", record.runtimeVersion.map .string),
    ("ariavaBinPath", some (.string record.ariavaBinPath)),
    ("definitionPath", some (.string record.definitionPath)),
    ("serviceId", some (.string record.serviceId)),
    ("configPath", record.identity.map fun identity => .string identity.1),
    ("identityReference", record.identity.map Prod.snd)]

theorem properties_eq : record.properties = objectLiteral (serviceMembers record) := rfl

/-- What is read of the members of a service record. -/
theorem get?_properties :
    ∀ member ∈ serviceMembers record, record.properties.get? member.1 = member.2 := by
  simp [serviceMembers, AriavaServiceInstallRecord.properties, get?_objectLiteral_cons]

theorem currentIdentity?_properties (h : IsAccepted record) :
    currentIdentity? record.properties
      = if hasSafeConfigPath record then some record.identity else none := by
  have hpath : record.properties.get? "configPath"
      = record.identity.map fun identity => .string identity.1 :=
    get?_properties record ("configPath", record.identity.map fun identity => .string identity.1)
      (by simp [serviceMembers])
  have hreference : record.properties.get? "identityReference" = record.identity.map Prod.snd :=
    get?_properties record ("identityReference", record.identity.map Prod.snd)
      (by simp [serviceMembers])
  unfold currentIdentity? identityReference? hasSafeConfigPath
  rw [hpath, hreference]
  cases hidentity : record.identity with
  | none => rfl
  | some identity =>
    have hvalid := h.reference identity hidentity
    by_cases hsafe : isSafePath identity.1 = true
    · simp [safePath?, Option.filter_some, hvalid, hsafe]
    · simp [safePath?, Option.filter_some, hvalid, hsafe]

theorem runtimeVersion?_properties (h : IsAccepted record) :
    runtimeVersion? record.properties = record.runtimeVersion := by
  have hname : record.properties.get? "runtimeName"
      = record.runtimeVersion.map fun _ => .string (jsString "node") :=
    get?_properties record
      ("runtimeName", record.runtimeVersion.map fun _ => .string (jsString "node"))
      (by simp [serviceMembers])
  have hversion : record.properties.get? "runtimeVersion" = record.runtimeVersion.map .string :=
    get?_properties record ("runtimeVersion", record.runtimeVersion.map .string)
      (by simp [serviceMembers])
  unfold runtimeVersion?
  rw [hname, hversion]
  cases hsome : record.runtimeVersion with
  | none => rfl
  | some version =>
    rw [Option.map_some, Option.map_some, if_pos (isText_iff.mpr rfl),
      h.runtimeVersion version hsome]

/-- An accepted record is accepted again, as the same, exactly when its config path is safe. -/
theorem normalize_value (h : IsAccepted record) :
    normalizeServiceInstallRecord (some record.value)
      = if hasSafeConfigPath record then some record else none := by
  have hget := get?_properties record
  simp only [serviceMembers, List.forall_mem_cons, List.not_mem_nil, false_implies, implies_true,
    and_true] at hget
  obtain ⟨hbackend, hinstalledAt, hruntimePath, -, -, hariavaBinPath, hdefinitionPath, hserviceId,
    -, -⟩ := hget
  have hown : JsonObject.hasOwn record.properties "backend" = true := by
    rw [JsonObject.hasOwn, hbackend, Option.isSome_some]
  have hnormalize : normalizeServiceInstallRecord (some record.value)
      = currentRecord? record.properties := by
    simp [normalizeServiceInstallRecord, AriavaServiceInstallRecord.value, hown]
  rw [hnormalize]
  by_cases hsafe : hasSafeConfigPath record = true
  · rw [if_pos hsafe, currentRecord?_eq_some, hbackend, hinstalledAt, hruntimePath, hariavaBinPath,
      hdefinitionPath, hserviceId, currentIdentity?_properties record h, if_pos hsafe]
    exact ⟨rfl, h.installedAt, h.runtimePath, h.ariavaBinPath, h.definitionPath,
      h.serviceId_nonBlank, rfl, h.serviceId, runtimeVersion?_properties record h⟩
  · rw [if_neg hsafe]
    refine Option.eq_none_iff_forall_ne_some.mpr fun other hother => ?_
    have hidentity := (currentRecord?_eq_some.mp hother).2.2.2.2.2.2.1
    rw [currentIdentity?_properties record h, if_neg hsafe] at hidentity
    cases hidentity

end Properties

/-- The checks of a record of an earlier version: `hasNonEmptyStrings` and
`isValidLegacyLaunchdRecord`. -/
def isLegacyRecord (record : JsonObject) : Bool :=
  (["installedAt", "nodePath", "ariavaBinPath", "plistPath", "label"].all fun key =>
      isNonBlank (record.get? key))
    && (["nodePath", "ariavaBinPath", "plistPath"].all fun key => safeAbsolutePath (record.get? key))
    && isText (ServiceBackend.serviceId .launchd) (record.get? "label")

/-- A service record of an earlier version that is accepted with a config path that is not safe. -/
def isUnsafeLegacy (value : JsValue) : Bool :=
  (recordOf value).any fun record =>
    !JsonObject.hasOwn record "backend" && isLegacyRecord record
      && (textOf (record.get? "configPath")).any (fun path => !isSafePath path)
      && isPublicIdentityReference (record.get? "identityReference")

theorem exists_nonBlank? {value : JsValue} (h : isNonBlank value = true) :
    ∃ text, nonBlank? value = some text := by
  obtain ⟨text, htext, -⟩ := (Option.any_eq_true _ _).mp h
  exact ⟨text, by rw [nonBlank?, if_pos h, htext]⟩

theorem exists_recordPath? {value : JsValue} (h : isNonBlank value = true)
    (hsafe : safeAbsolutePath value = true) : ∃ path, recordPath? value = some path := by
  obtain ⟨path, hpath, hok⟩ := (Option.any_eq_true _ _).mp hsafe
  exact ⟨path, recordPath?_eq_some.mpr ⟨textOf_eq_some.mp hpath, h, hok⟩⟩

theorem valid_of_recordPath? {value : JsValue} {path : JsString}
    (h : recordPath? value = some path) :
    isNonBlank value = true ∧ safeAbsolutePath value = true := by
  obtain ⟨hread, hblank, hsafe⟩ := recordPath?_eq_some.mp h
  refine ⟨hblank, ?_⟩
  rw [hread, safeAbsolutePath, textOf_string, Option.any_some, hsafe]

theorem isLegacyRecord_iff {properties : JsonObject} :
    isLegacyRecord properties = true ↔ ∃ record, legacyRecord? properties = some record := by
  simp only [isLegacyRecord, Bool.and_eq_true, List.all_cons, List.all_nil, Bool.and_true]
  constructor
  · rintro ⟨⟨⟨hinstalledAt, hnodePath, hbinPath, hplistPath, hlabel⟩, hnode, hbin, hplist⟩, hid⟩
    obtain ⟨installedAt, hinstalledAt⟩ := exists_nonBlank? hinstalledAt
    obtain ⟨runtimePath, hruntimePath⟩ := exists_recordPath? hnodePath hnode
    obtain ⟨ariavaBinPath, hariavaBinPath⟩ := exists_recordPath? hbinPath hbin
    obtain ⟨definitionPath, hdefinitionPath⟩ := exists_recordPath? hplistPath hplist
    obtain ⟨serviceId, hserviceId⟩ := exists_nonBlank? hlabel
    have htext := (nonBlank?_eq_some.mp hserviceId).1
    rw [isText_iff.mp hid, Option.some.injEq, JsonValue.string.injEq] at htext
    exact ⟨⟨.launchd, installedAt, runtimePath, none, ariavaBinPath, definitionPath, serviceId,
        legacyIdentity? properties⟩,
      legacyRecord?_eq_some.mpr ⟨rfl, hinstalledAt, hruntimePath, hariavaBinPath, hdefinitionPath,
        hserviceId, htext.symm, rfl, rfl⟩⟩
  · rintro ⟨record, hrecord⟩
    obtain ⟨-, hinstalledAt, hruntimePath, hariavaBinPath, hdefinitionPath, hserviceId, hid, -, -⟩ :=
      legacyRecord?_eq_some.mp hrecord
    have hinstalled := (nonBlank?_eq_some.mp hinstalledAt).2
    obtain ⟨htext, hlabel⟩ := nonBlank?_eq_some.mp hserviceId
    obtain ⟨hnode, hnodeSafe⟩ := valid_of_recordPath? hruntimePath
    obtain ⟨hbin, hbinSafe⟩ := valid_of_recordPath? hariavaBinPath
    obtain ⟨hplist, hplistSafe⟩ := valid_of_recordPath? hdefinitionPath
    exact ⟨⟨⟨hinstalled, hnode, hbin, hplist, hlabel⟩, hnodeSafe, hbinSafe, hplistSafe⟩,
      isText_iff.mpr (by rw [htext, hid])⟩

/-- An accepted record has a config path that is not safe only when it is one of an earlier
version. -/
theorem hasSafeConfigPath_iff {value : JsValue} {record : AriavaServiceInstallRecord}
    (h : normalizeServiceInstallRecord value = some record) :
    hasSafeConfigPath record = true ↔ isUnsafeLegacy value = false := by
  obtain ⟨properties, hproperties, hrecord⟩ := Option.bind_eq_some_iff.mp h
  rw [isUnsafeLegacy, hproperties, Option.any_some]
  split at hrecord
  · next hown =>
    -- The config path of a current record was checked.
    have hidentity := (currentRecord?_eq_some.mp hrecord).2.2.2.2.2.2.1
    have hsafe : hasSafeConfigPath record = true := by
      rw [hasSafeConfigPath, Option.all_eq_true]
      intro identity hsome
      exact (currentIdentity?_eq_some hidentity identity hsome).1
    simp [hsafe, hown]
  · next hown =>
    have hidentity := (legacyRecord?_eq_some.mp hrecord).2.2.2.2.2.2.2.2
    have hlegacy := isLegacyRecord_iff.mpr ⟨record, hrecord⟩
    rw [Bool.not_eq_true] at hown
    rw [hown, hlegacy, Bool.not_false, Bool.true_and, Bool.true_and, hasSafeConfigPath, hidentity,
      legacyIdentity?]
    -- Only the identity is left, which is there when both of its parts are.
    cases hpath : textOf (properties.get? "configPath") with
    | none => simp
    | some path =>
      by_cases hvalid : isPublicIdentityReference (properties.get? "identityReference") = true
      · cases hread : properties.get? "identityReference" with
        | none =>
          rw [hread] at hvalid
          cases hvalid
        | some reference =>
          rw [hread] at hvalid
          simp [identityReference?, hread, hvalid]
      · simp [identityReference?, hvalid]

theorem exists_of_isUnsafeLegacy {value : JsValue} (h : isUnsafeLegacy value = true) :
    ∃ record, normalizeServiceInstallRecord value = some record
      ∧ hasSafeConfigPath record = false := by
  obtain ⟨properties, hproperties, hparts⟩ := (Option.any_eq_true _ _).mp h
  simp only [Bool.and_eq_true, Bool.not_eq_true'] at hparts
  obtain ⟨record, hrecord⟩ := isLegacyRecord_iff.mp hparts.1.1.2
  have hnormalize : normalizeServiceInstallRecord value = some record := by
    rw [normalizeServiceInstallRecord, hproperties, Option.bind_some, hparts.1.1.1]
    exact hrecord
  refine ⟨record, hnormalize, ?_⟩
  rw [← Bool.not_eq_true, hasSafeConfigPath_iff hnormalize, h]
  decide

/-! ### Documents -/

/-- A service record that is accepted. -/
def isServiceRecord (value : JsValue) : Bool := (normalizeServiceInstallRecord value).isSome

/-- No issue is reported exactly when no member is rejected. -/
theorem isValid_recordDiagnostics {record : JsonObject} :
    (recordDiagnostics record).isValid = true
      ↔ isRejected isServiceRecord (record.get? "service") = false
        ∧ isRejected isInstallerMetadata (record.get? "installer") = false
        ∧ isRejected safeAbsolutePath (record.get? "identityPath") = false
        ∧ isRejected isAssetSource (record.get? "bridgeSource") = false
        ∧ isRejected isAssetSource (record.get? "piSource") = false
        ∧ isRejected isPiExtensionRecord (record.get? "piExtension") = false := by
  have hservice : ((record.get? "service").isSome
      && (normalizeServiceInstallRecord (record.get? "service")).isNone)
        = isRejected isServiceRecord (record.get? "service") := by
    simp [isRejected, isServiceRecord]
  have hinstaller : ((record.get? "installer").isSome
      && !isInstallerMetadata (record.get? "installer"))
        = isRejected isInstallerMetadata (record.get? "installer") := rfl
  have hdocument : documentIssue record = none
      ↔ isRejected safeAbsolutePath (record.get? "identityPath") = false
        ∧ isRejected isAssetSource (record.get? "bridgeSource") = false
        ∧ isRejected isAssetSource (record.get? "piSource") = false
        ∧ isRejected isPiExtensionRecord (record.get? "piExtension") = false := by
    unfold documentIssue
    split
    · simp [*]
    · split
      · next hsource =>
        simp only [Bool.or_eq_true, or_assoc] at hsource
        rcases hsource with h | h | h <;> simp [h]
      · simp_all
  simp only [recordDiagnostics, hservice, hinstaller]
  split
  · simp [InstallMetadataDiagnostics.isValid, *]
  · next hnot =>
    rw [← hdocument]
    simp [InstallMetadataDiagnostics.isValid, hnot]

/-- Metadata that a normalisation made: every member passed its check. -/
structure IsKept (metadata : AriavaInstallMetadata) : Prop where
  bridgeSource : keptMember isAssetSource metadata.bridgeSource = metadata.bridgeSource
  piSource : keptMember isAssetSource metadata.piSource = metadata.piSource
  piExtension : keptMember isPiExtensionRecord metadata.piExtension = metadata.piExtension
  identityPath : safePath? (metadata.identityPath.map .string) = metadata.identityPath
  installer : keptMember isInstallerMetadata metadata.installer = metadata.installer
  service : ∀ record, metadata.service = some record → IsAccepted record

theorem isKept_keptMembers (record : JsonObject) : IsKept (keptMembers record) where
  bridgeSource := keptMember_keptMember
  piSource := keptMember_keptMember
  piExtension := keptMember_keptMember
  identityPath := by
    simp only [keptMembers, map_resolve_safePath?]
    cases h : safePath? (record.get? "identityPath") with
    | none => rfl
    | some path => exact safePath?_eq_some.mpr ⟨rfl, (safePath?_eq_some.mp h).2⟩
  installer := keptMember_keptMember
  service := fun _ h => isAccepted_of_normalize h

/-- The config path of the service is safe, if the metadata has one. -/
def hasSafeService (metadata : AriavaInstallMetadata) : Bool := metadata.service.all hasSafeConfigPath

/-- The members of metadata, or of a patch over it. -/
def metadataMembers (bridgeSource piSource piExtension identityPath installer service : JsValue) :
    List (String × JsValue) :=
  [("bridgeSource", bridgeSource), ("piSource", piSource), ("piExtension", piExtension),
    ("identityPath", identityPath), ("installer", installer), ("service", service)]

theorem forall_metadataMembers {prop : String × JsValue → Prop}
    {bridgeSource piSource piExtension identityPath installer service : JsValue} :
    (∀ member ∈ metadataMembers bridgeSource piSource piExtension identityPath installer service,
        prop member)
      ↔ prop ("bridgeSource", bridgeSource) ∧ prop ("piSource", piSource)
        ∧ prop ("piExtension", piExtension) ∧ prop ("identityPath", identityPath)
        ∧ prop ("installer", installer) ∧ prop ("service", service) := by
  simp [metadataMembers]

/-- What is read of the members of a document. -/
theorem get?_metadataMembers
    (bridgeSource piSource piExtension identityPath installer service : JsValue) :
    ∀ member ∈ metadataMembers bridgeSource piSource piExtension identityPath installer service,
      (objectLiteral (metadataMembers bridgeSource piSource piExtension identityPath installer
        service)).get? member.1 = member.2 := by
  simp [metadataMembers, get?_objectLiteral_cons]

/-- What is read of metadata. -/
theorem get?_metadata (metadata : AriavaInstallMetadata) :
    metadata.properties.get? "bridgeSource" = metadata.bridgeSource
      ∧ metadata.properties.get? "piSource" = metadata.piSource
      ∧ metadata.properties.get? "piExtension" = metadata.piExtension
      ∧ metadata.properties.get? "identityPath" = metadata.identityPath.map .string
      ∧ metadata.properties.get? "installer" = metadata.installer
      ∧ metadata.properties.get? "service"
        = metadata.service.map AriavaServiceInstallRecord.value :=
  forall_metadataMembers.mp (get?_metadataMembers _ _ _ _ _ _)

section Metadata

variable {metadata : AriavaInstallMetadata}

theorem normalize_service (h : IsKept metadata) :
    normalizeServiceInstallRecord (metadata.service.map AriavaServiceInstallRecord.value)
      = metadata.service.filter hasSafeConfigPath := by
  cases hservice : metadata.service with
  | none => rfl
  | some record => rw [Option.map_some, normalize_value record (h.service record hservice),
      Option.filter_some]

/-- Normalised again, metadata loses a service whose config path is not safe, and nothing else. -/
theorem normalizeInstallMetadata_value (h : IsKept metadata) :
    (normalizeInstallMetadata metadata.value).metadata
        = { metadata with service := metadata.service.filter hasSafeConfigPath }
      ∧ (normalizeInstallMetadata metadata.value).diagnostics.isValid = hasSafeService metadata := by
  have hrecord : recordOf (some metadata.value) = some metadata.properties := rfl
  obtain ⟨hbridgeSource, hpiSource, hpiExtension, hidentityPath, hinstaller, hservice⟩ :=
    get?_metadata metadata
  rw [normalizeInstallMetadata, hrecord]
  constructor
  · have hresolved : (safePath? (metadata.identityPath.map .string)).map resolve
        = metadata.identityPath := by
      rw [map_resolve_safePath?, h.identityPath]
    simp only [keptMembers, hbridgeSource, hpiSource, hpiExtension, hidentityPath, hinstaller,
      hservice, h.bridgeSource, h.piSource, h.piExtension, hresolved, h.installer,
      normalize_service h]
  · rw [Bool.eq_iff_iff, isValid_recordDiagnostics, hbridgeSource, hpiSource, hpiExtension,
      hidentityPath, hinstaller, hservice]
    -- Everything but the service was kept by the same check.
    have hpath : isRejected safeAbsolutePath (metadata.identityPath.map .string) = false := by
      apply isRejected_of_kept
      rw [← map_string_safePath?, h.identityPath]
    simp only [isRejected_of_kept h.bridgeSource, isRejected_of_kept h.piSource,
      isRejected_of_kept h.piExtension, isRejected_of_kept h.installer, hpath, and_true]
    rw [isRejected, isServiceRecord, normalize_service h, hasSafeService]
    cases metadata.service with
    | none => simp
    | some record => cases hsafe : hasSafeConfigPath record <;> simp [Option.filter_some, hsafe]

/-- Metadata is normalised to itself, with no issue, exactly when its service is safe. -/
theorem renormalizes_iff (h : IsKept metadata) :
    (normalizeInstallMetadata metadata.value).diagnostics.isValid = true
        ∧ (normalizeInstallMetadata metadata.value).metadata = metadata
      ↔ hasSafeService metadata = true := by
  obtain ⟨hmetadata, hvalid⟩ := normalizeInstallMetadata_value h
  rw [hmetadata, hvalid]
  refine and_iff_left_of_imp fun hsafe => ?_
  rw [hasSafeService] at hsafe
  cases hservice : metadata.service with
  | none =>
    rw [Option.filter_none, ← hservice]
  | some record =>
    rw [hservice, Option.all_some] at hsafe
    rw [Option.filter_some, if_pos hsafe, ← hservice]

end Metadata

/-- The service of a document. -/
def serviceOf (document : JsValue) : JsValue :=
  (recordOf document).bind fun record => record.get? "service"

theorem hasSafeService_keptMembers {record : JsonObject} :
    hasSafeService (keptMembers record) = true ↔ isUnsafeLegacy (record.get? "service") = false := by
  rw [hasSafeService]
  cases hservice : (keptMembers record).service with
  | none =>
    simp only [Option.all_none, true_iff]
    by_contra hrejected
    rw [Bool.not_eq_false] at hrejected
    obtain ⟨found, hfound, -⟩ := exists_of_isUnsafeLegacy hrejected
    rw [keptMembers, hfound] at hservice
    cases hservice
  | some found => exact hasSafeConfigPath_iff hservice

/-! ### Services that are kept as they are -/

/-- The keys of a current service record. -/
def serviceKeys : List String :=
  ["backend", "installedAt", "runtimePath", "runtimeName", "runtimeVersion", "ariavaBinPath",
    "definitionPath", "serviceId", "configPath", "identityReference"]

/-- The runtime name and the version are both valid, or not there. -/
def isRuntimeKept (record : JsonObject) : Bool :=
  (isText "node" (record.get? "runtimeName") && isNonBlank (record.get? "runtimeVersion"))
    || ((record.get? "runtimeName").isNone && (record.get? "runtimeVersion").isNone)

/-- The config path and the identity reference are both valid, or not there. -/
def isIdentityKept (record : JsonObject) : Bool :=
  (safeAbsolutePath (record.get? "configPath")
      && isPublicIdentityReference (record.get? "identityReference"))
    || ((record.get? "configPath").isNone && (record.get? "identityReference").isNone)

/-- The checks of the other members of a current record. -/
def isCurrentRecord (record : JsonObject) : Bool :=
  (serviceBackend? (record.get? "backend")).any (fun backend =>
      isText backend.serviceId (record.get? "serviceId"))
    && (["installedAt", "runtimePath", "ariavaBinPath", "definitionPath", "serviceId"].all fun key =>
      isNonBlank (record.get? key))
    && (["runtimePath", "ariavaBinPath", "definitionPath"].all fun key =>
      safeAbsolutePath (record.get? key))

/-- A current service record with nothing that is left out. -/
def isKeptService (value : JsValue) : Bool :=
  (recordOf value).any fun record =>
    isCurrentRecord record && isRuntimeKept record && isIdentityKept record
      && hasOnlyKeys record serviceKeys

/-- Two records have the same properties when they have the same members and no others. -/
theorem sameMembers_iff {fields : List (String × JsValue)} {record : JsonObject} :
    (∀ key, propertyOf (objectLiteral fields) key = propertyOf record key)
      ↔ (∀ field ∈ fields, (objectLiteral fields).get? field.1 = record.get? field.1)
        ∧ hasOnlyKeys record (fields.map Prod.fst) = true := by
  rw [hasOnlyKeys_iff]
  constructor
  · intro h
    constructor
    · intro field _
      exact h (jsString field.1)
    · intro key hkey
      rw [← h key, propertyOf_objectLiteral hkey]
  · rintro ⟨hmembers, hothers⟩ key
    by_cases hkey : key ∈ (fields.map Prod.fst).map jsString
    · obtain ⟨name, hname, rfl⟩ := List.mem_map.mp hkey
      obtain ⟨field, hfield, rfl⟩ := List.mem_map.mp hname
      exact hmembers field hfield
    · rw [propertyOf_objectLiteral hkey, hothers key hkey]

section Service

variable {properties : JsonObject}

theorem isRuntimeKept_iff :
    isRuntimeKept properties = true
      ↔ properties.get? "runtimeName"
          = (runtimeVersion? properties).map (fun _ => .string (jsString "node"))
        ∧ properties.get? "runtimeVersion" = (runtimeVersion? properties).map .string := by
  unfold isRuntimeKept
  rw [Bool.or_eq_true, Bool.and_eq_true, Bool.and_eq_true, isText_iff, Option.isNone_iff_eq_none,
    Option.isNone_iff_eq_none]
  constructor
  · rintro (⟨hname, hversion⟩ | ⟨hname, hversion⟩)
    · obtain ⟨version, hsome⟩ := exists_nonBlank? hversion
      rw [runtimeVersion?_eq_some.mpr ⟨hname, hsome⟩, hname, (nonBlank?_eq_some.mp hsome).1]
      exact ⟨rfl, rfl⟩
    · have hnone : runtimeVersion? properties = none := by
        simp [runtimeVersion?, hname]
      rw [hname, hversion, hnone]
      exact ⟨rfl, rfl⟩
  · rintro ⟨hname, hversion⟩
    cases hread : runtimeVersion? properties with
    | none =>
      rw [hread] at hname hversion
      exact .inr ⟨hname, hversion⟩
    | some version =>
      obtain ⟨hnode, hsome⟩ := runtimeVersion?_eq_some.mp hread
      exact .inl ⟨hnode, (nonBlank?_eq_some.mp hsome).2⟩

theorem isIdentityKept_iff {identity : Option (JsString × JsonValue)}
    (h : currentIdentity? properties = some identity) :
    isIdentityKept properties = true
      ↔ properties.get? "configPath" = identity.map (fun found => .string found.1)
        ∧ properties.get? "identityReference" = identity.map Prod.snd := by
  unfold isIdentityKept
  rw [Bool.or_eq_true, Bool.and_eq_true, Bool.and_eq_true, Option.isNone_iff_eq_none,
    Option.isNone_iff_eq_none]
  cases identity with
  | none =>
    have hnot : ¬ (safeAbsolutePath (properties.get? "configPath") = true
        ∧ isPublicIdentityReference (properties.get? "identityReference") = true) := by
      rintro ⟨hpath, hvalid⟩
      obtain ⟨path, htext, hsafe⟩ := (Option.any_eq_true _ _).mp hpath
      rw [currentIdentity?, safePath?_eq_some.mpr ⟨textOf_eq_some.mp htext, hsafe⟩] at h
      cases hread : properties.get? "identityReference" with
      | none =>
        rw [hread] at hvalid
        cases hvalid
      | some reference =>
        rw [hread] at hvalid
        rw [identityReference?_eq_some.mpr ⟨hread, hvalid⟩] at h
        cases h
    rw [or_iff_right hnot]
    rfl
  | some found =>
    obtain ⟨hsafe, hvalid, hpath, hreference⟩ := currentIdentity?_eq_some h found rfl
    rw [hpath, hreference, safeAbsolutePath, textOf_string, Option.any_some]
    simp [hsafe, hvalid]

/-- The identity of a record is accepted when nothing of it is left out. -/
theorem exists_currentIdentity? (h : isIdentityKept properties = true) :
    ∃ identity, currentIdentity? properties = some identity := by
  unfold isIdentityKept at h
  rw [Bool.or_eq_true, Bool.and_eq_true, Bool.and_eq_true, Option.isNone_iff_eq_none,
    Option.isNone_iff_eq_none] at h
  rcases h with ⟨hpath, hvalid⟩ | ⟨hpath, hreference⟩
  · obtain ⟨path, htext, hsafe⟩ := (Option.any_eq_true _ _).mp hpath
    cases hread : properties.get? "identityReference" with
    | none =>
      rw [hread] at hvalid
      cases hvalid
    | some reference =>
      rw [hread] at hvalid
      rw [currentIdentity?, safePath?_eq_some.mpr ⟨textOf_eq_some.mp htext, hsafe⟩,
        identityReference?_eq_some.mpr ⟨hread, hvalid⟩]
      exact ⟨_, rfl⟩
  · rw [currentIdentity?, identityReference?, hpath, hreference]
    exact ⟨none, rfl⟩

theorem isCurrentRecord_of_currentRecord? {record : AriavaServiceInstallRecord}
    (h : currentRecord? properties = some record) : isCurrentRecord properties = true := by
  obtain ⟨hbackend, hinstalledAt, hruntimePath, hariavaBinPath, hdefinitionPath, hserviceId, -, hid,
    -⟩ := currentRecord?_eq_some.mp h
  have hinstalled := (nonBlank?_eq_some.mp hinstalledAt).2
  obtain ⟨htext, hservice⟩ := nonBlank?_eq_some.mp hserviceId
  obtain ⟨hruntime, hruntimeSafe⟩ := valid_of_recordPath? hruntimePath
  obtain ⟨hbin, hbinSafe⟩ := valid_of_recordPath? hariavaBinPath
  obtain ⟨hdefinition, hdefinitionSafe⟩ := valid_of_recordPath? hdefinitionPath
  have hidText : isText record.backend.serviceId (properties.get? "serviceId") = true :=
    isText_iff.mpr (by rw [htext, hid])
  simp only [isCurrentRecord, serviceBackend?_eq_some.mpr hbackend, Option.any_some, List.all_cons,
    List.all_nil, hidText, hinstalled, hservice, hruntime, hruntimeSafe, hbin, hbinSafe,
    hdefinition, hdefinitionSafe, Bool.and_self]

theorem exists_currentRecord? {identity : Option (JsString × JsonValue)}
    (h : isCurrentRecord properties = true) (hidentity : currentIdentity? properties = some identity) :
    ∃ record, currentRecord? properties = some record := by
  simp only [isCurrentRecord, Bool.and_eq_true, List.all_cons, List.all_nil, Bool.and_true] at h
  obtain ⟨⟨hbackend, hinstalledAt, hruntime, hbin, hdefinition, hserviceId⟩, hruntimeSafe, hbinSafe,
    hdefinitionSafe⟩ := h
  obtain ⟨backend, hbackend, hid⟩ := (Option.any_eq_true _ _).mp hbackend
  obtain ⟨installedAt, hinstalledAt⟩ := exists_nonBlank? hinstalledAt
  obtain ⟨runtimePath, hruntimePath⟩ := exists_recordPath? hruntime hruntimeSafe
  obtain ⟨ariavaBinPath, hariavaBinPath⟩ := exists_recordPath? hbin hbinSafe
  obtain ⟨definitionPath, hdefinitionPath⟩ := exists_recordPath? hdefinition hdefinitionSafe
  obtain ⟨serviceId, hserviceId⟩ := exists_nonBlank? hserviceId
  have htext := (nonBlank?_eq_some.mp hserviceId).1
  rw [isText_iff.mp hid, Option.some.injEq, JsonValue.string.injEq] at htext
  exact ⟨⟨backend, installedAt, runtimePath, runtimeVersion? properties, ariavaBinPath,
      definitionPath, serviceId, identity⟩,
    currentRecord?_eq_some.mpr ⟨serviceBackend?_eq_some.mp hbackend, hinstalledAt, hruntimePath,
      hariavaBinPath, hdefinitionPath, hserviceId, hidentity, htext.symm, rfl⟩⟩

end Service

/-- An accepted service is kept as it is exactly when nothing of it is rewritten or left out. -/
theorem sameValue_service {value : JsValue} {record : AriavaServiceInstallRecord}
    (h : normalizeServiceInstallRecord value = some record) :
    SameValue (some record.value) value ↔ isKeptService value = true := by
  obtain ⟨properties, hproperties, hrecord⟩ := Option.bind_eq_some_iff.mp h
  have hsame : SameValue (some record.value) value
      ↔ (∀ member ∈ serviceMembers record, member.2 = properties.get? member.1)
        ∧ hasOnlyKeys properties serviceKeys = true := by
    have hkeys : (serviceMembers record).map Prod.fst = serviceKeys := rfl
    rw [recordOf_eq_some.mp hproperties, ← hkeys]
    show (∀ key, propertyOf (objectLiteral (serviceMembers record)) key = propertyOf properties key)
      ↔ _
    rw [sameMembers_iff]
    refine and_congr_left fun _ => forall₂_congr fun member hmember => ?_
    rw [← properties_eq, get?_properties record member hmember]
  rw [hsame, isKeptService, hproperties, Option.any_some, Bool.and_eq_true]
  refine and_congr_left fun _ => ?_
  simp only [serviceMembers, List.forall_mem_cons, List.not_mem_nil, false_implies, implies_true,
    and_true]
  split at hrecord
  · -- The other members of a current record are written as they were read.
    obtain ⟨hbackend, hinstalledAt, hruntimePath, hariavaBinPath, hdefinitionPath, hserviceId,
      hidentity, -, hversion⟩ := currentRecord?_eq_some.mp hrecord
    rw [isCurrentRecord_of_currentRecord? hrecord, Bool.true_and, Bool.and_eq_true,
      isRuntimeKept_iff, isIdentityKept_iff hidentity, hversion]
    simp only [hbackend, (nonBlank?_eq_some.mp hinstalledAt).1,
      (recordPath?_eq_some.mp hruntimePath).1, (recordPath?_eq_some.mp hariavaBinPath).1,
      (recordPath?_eq_some.mp hdefinitionPath).1, (nonBlank?_eq_some.mp hserviceId).1, true_and]
    constructor
    · rintro ⟨hname, hruntime, hpath, hreference⟩
      exact ⟨⟨hname.symm, hruntime.symm⟩, hpath.symm, hreference.symm⟩
    · rintro ⟨⟨hname, hruntime⟩, hpath, hreference⟩
      exact ⟨hname.symm, hruntime.symm, hpath.symm, hreference.symm⟩
  · -- A record of an earlier version has no backend.
    next hown =>
    rw [Bool.not_eq_true, JsonObject.hasOwn, Option.isSome_eq_false_iff,
      Option.isNone_iff_eq_none] at hown
    have hcurrent : isCurrentRecord properties = false := by
      rw [isCurrentRecord, hown]
      rfl
    simp [hown, hcurrent]

theorem exists_of_isKeptService {value : JsValue} (h : isKeptService value = true) :
    ∃ record, normalizeServiceInstallRecord value = some record := by
  obtain ⟨properties, hproperties, hparts⟩ := (Option.any_eq_true _ _).mp h
  simp only [Bool.and_eq_true] at hparts
  obtain ⟨identity, hidentity⟩ := exists_currentIdentity? hparts.1.2
  obtain ⟨record, hrecord⟩ := exists_currentRecord? hparts.1.1.1 hidentity
  have hown : JsonObject.hasOwn properties "backend" = true := by
    rw [JsonObject.hasOwn, (currentRecord?_eq_some.mp hrecord).1, Option.isSome_some]
  exact ⟨record, by rw [normalizeServiceInstallRecord, hproperties, Option.bind_some, if_pos hown,
    hrecord]⟩

/-- What is written for a service is the same exactly when it was rejected by no check. -/
theorem sameValue_normalized {value : JsValue} :
    SameValue ((normalizeServiceInstallRecord value).map AriavaServiceInstallRecord.value) value
      ↔ isRejected isKeptService value = false := by
  rw [isRejected_eq_false]
  cases h : normalizeServiceInstallRecord value with
  | none =>
    have hnot : ¬ isKeptService value = true := by
      intro hkept
      obtain ⟨record, hrecord⟩ := exists_of_isKeptService hkept
      rw [h] at hrecord
      cases hrecord
    rw [Option.map_none, sameValue_none, or_iff_left hnot]
  | some record =>
    have hne : value ≠ none := by
      rintro rfl
      cases h
    rw [Option.map_some, sameValue_service h, or_iff_right hne]

/-! ### The merge -/

/-- The members that a merged document is to have: those of the patch, and the others as they were
loaded. -/
def expectedMembers (patch : InstallPatch) (loaded : AriavaInstallMetadata) :
    List (String × JsValue) :=
  metadataMembers (patch.bridgeSource.getD loaded.bridgeSource)
    (patch.piSource.getD loaded.piSource) (patch.piExtension.getD loaded.piExtension)
    (patch.identityPath.getD (loaded.identityPath.map .string))
    (patch.installer.getD loaded.installer)
    (patch.service.getD (loaded.service.map AriavaServiceInstallRecord.value))

/-- `mergeInstallMetadata` throws and leaves the file, or writes a document with every member of
the patch and every other member as it was loaded. -/
def KeepsMembers (patch : InstallPatch) (file : Option JsonValue) (loaded : AriavaInstallMetadata) :
    Prop :=
  match mergeInstallMetadata patch file with
  | (.error _, written) => written = file
  | (.ok _, written) => ∃ document, written = some (.object document)
      ∧ ∀ member ∈ expectedMembers patch loaded, SameValue (JsonObject.get? document member.1) member.2

/-- Every member of a patch passes its check, and a service is a current record that keeps all of
its members. -/
def isPatchKept (patch : InstallPatch) : Bool :=
  patch.bridgeSource.all (fun value => !isRejected isAssetSource value)
    && patch.piSource.all (fun value => !isRejected isAssetSource value)
    && patch.piExtension.all (fun value => !isRejected isPiExtensionRecord value)
    && patch.identityPath.all (fun value => !isRejected safeAbsolutePath value)
    && patch.installer.all (fun value => !isRejected isInstallerMetadata value)
    && patch.service.all (fun value => !isRejected isKeptService value)

/-- The metadata that a merge writes. -/
def mergedMetadata (patch : InstallPatch) (loaded : AriavaInstallMetadata) : AriavaInstallMetadata :=
  keptMembers (spreadPatch loaded patch)

section Merge

variable {patch : InstallPatch} {file : Option JsonValue} {loaded : AriavaInstallMetadata}

theorem saveInstallMetadata_eq {metadata : AriavaInstallMetadata} (h : IsKept metadata) :
    saveInstallMetadata metadata
      = if hasSafeService metadata then .ok metadata
        else .error (.error invalidMetadataText) := by
  obtain ⟨-, hvalid⟩ := normalizeInstallMetadata_value h
  rw [saveInstallMetadata, assertValidInstallMetadata, hvalid]
  split
  · next hsafe => rw [((renormalizes_iff h).mpr hsafe).2]
  · rfl

/-- What a loaded document is. -/
theorem loadInstallMetadata_eq (h : loadInstallMetadata file = .ok loaded) :
    ∃ record, serviceOf file = record.get? "service" ∧ (recordDiagnostics record).isValid = true
      ∧ loaded = keptMembers record := by
  rw [loadInstallMetadata, assertValidInstallMetadata] at h
  split at h
  · next hvalid =>
    cases h
    cases file with
    | none => exact ⟨[], rfl, hvalid, rfl⟩
    | some document =>
      cases document with
      | object record => exact ⟨record, rfl, hvalid, rfl⟩
      | _ => cases hvalid
  · cases h

/-- A merge writes exactly when the service of what it would write is safe. -/
theorem mergeInstallMetadata_eq (h : loadInstallMetadata file = .ok loaded) :
    (hasSafeService (mergedMetadata patch loaded) = true
        ∧ mergeInstallMetadata patch file
          = (.ok (mergedMetadata patch loaded), some (mergedMetadata patch loaded).value))
      ∨ (hasSafeService (mergedMetadata patch loaded) = false
        ∧ ∃ thrown, mergeInstallMetadata patch file = (.error thrown, file)) := by
  have hsave := saveInstallMetadata_eq (isKept_keptMembers (spreadPatch loaded patch))
  cases hsafe : hasSafeService (mergedMetadata patch loaded) with
  | true =>
    rw [mergedMetadata] at hsafe
    rw [hsafe, if_pos rfl] at hsave
    have hsaved : saveInstallMetadata (normalizeInstallMetadata (.object
        (spreadPatch loaded patch))).metadata = .ok (mergedMetadata patch loaded) := hsave
    refine .inl ⟨rfl, ?_⟩
    simp only [mergeInstallMetadata, h, hsaved]
    rfl
  | false =>
    rw [mergedMetadata] at hsafe
    rw [hsafe, if_neg Bool.false_ne_true] at hsave
    have hsaved : saveInstallMetadata (normalizeInstallMetadata (.object
        (spreadPatch loaded patch))).metadata = .error (.error invalidMetadataText) := hsave
    refine .inr ⟨rfl, .error invalidMetadataText, ?_⟩
    simp only [mergeInstallMetadata, h, hsaved]

/-- A merge that does not write leaves the file, so nothing more is asked of it. -/
theorem keepsMembers_of_merge (h : loadInstallMetadata file = .ok loaded) :
    KeepsMembers patch file loaded
      ↔ hasSafeService (mergedMetadata patch loaded) = false
        ∨ ∀ member ∈ expectedMembers patch loaded,
          SameValue ((mergedMetadata patch loaded).properties.get? member.1) member.2 := by
  rw [KeepsMembers]
  have hcases := @mergeInstallMetadata_eq patch file loaded h
  rcases hcases with ⟨hsafe, hmerge⟩ | ⟨hsafe, thrown, hmerge⟩
  · rw [hmerge, hsafe]
    simp [AriavaInstallMetadata.value]
  · rw [hmerge, hsafe]
    simp

/-- A member of the patch or of the loaded metadata, which passed its check. -/
theorem isRejected_getD {check : JsValue → Bool} {member : Option JsValue} {value : JsValue}
    (h : isRejected check value = false) :
    isRejected check (member.getD value) = false
      ↔ member.all (fun value => !isRejected check value) = true := by
  cases member with
  | none => simp [h]
  | some found => simp

/-- A service of loaded metadata is never one of an earlier version. -/
theorem isUnsafeLegacy_getD {member : Option JsValue} {service : Option AriavaServiceInstallRecord} :
    isUnsafeLegacy (member.getD (service.map AriavaServiceInstallRecord.value))
      = isUnsafeLegacy (member.getD none) := by
  cases member with
  | some value => rfl
  | none =>
    cases service with
    | none => rfl
    | some record =>
      have hown : JsonObject.hasOwn record.properties "backend" = true := by
        rw [JsonObject.hasOwn, get?_properties record
          ("backend", some (.string (jsString record.backend.text))) (by simp [serviceMembers]),
          Option.isSome_some]
      simp [isUnsafeLegacy, AriavaServiceInstallRecord.value, hown, recordOf]

/-- The service of loaded metadata is written as it is when its config path is safe. -/
theorem isRejected_loaded_service {record : JsonObject} :
    isRejected isKeptService
        ((keptMembers record).service.map AriavaServiceInstallRecord.value) = false
      ↔ isUnsafeLegacy (record.get? "service") = false := by
  have hkept := isKept_keptMembers record
  rw [← hasSafeService_keptMembers, ← sameValue_normalized, normalize_service hkept, hasSafeService]
  cases (keptMembers record).service with
  | none => simp
  | some found =>
    cases hsafe : hasSafeConfigPath found with
    | true => simp [Option.filter_some, hsafe, SameValue.refl]
    | false => simp [Option.filter_some, hsafe]

/-- What a merge keeps of the patch and the loaded metadata. -/
theorem mergedMetadata_eq (patch : InstallPatch) (loaded : AriavaInstallMetadata) :
    (mergedMetadata patch loaded).bridgeSource
        = keptMember isAssetSource (patch.bridgeSource.getD loaded.bridgeSource)
      ∧ (mergedMetadata patch loaded).piSource
        = keptMember isAssetSource (patch.piSource.getD loaded.piSource)
      ∧ (mergedMetadata patch loaded).piExtension
        = keptMember isPiExtensionRecord (patch.piExtension.getD loaded.piExtension)
      ∧ (mergedMetadata patch loaded).identityPath.map JsonValue.string
        = keptMember safeAbsolutePath (patch.identityPath.getD (loaded.identityPath.map .string))
      ∧ (mergedMetadata patch loaded).installer
        = keptMember isInstallerMetadata (patch.installer.getD loaded.installer)
      ∧ (mergedMetadata patch loaded).service = normalizeServiceInstallRecord
        (patch.service.getD (loaded.service.map AriavaServiceInstallRecord.value)) := by
  obtain ⟨hbridgeSource, hpiSource, hpiExtension, hidentityPath, hinstaller, hservice⟩ :=
    forall_metadataMembers.mp (get?_metadataMembers (patch.bridgeSource.getD loaded.bridgeSource)
      (patch.piSource.getD loaded.piSource) (patch.piExtension.getD loaded.piExtension)
      (patch.identityPath.getD (loaded.identityPath.map .string))
      (patch.installer.getD loaded.installer)
      (patch.service.getD (loaded.service.map AriavaServiceInstallRecord.value)))
  have hspread : spreadPatch loaded patch = objectLiteral (expectedMembers patch loaded) := rfl
  simp only [mergedMetadata, keptMembers, map_resolve_safePath?, map_string_safePath?]
  rw [hspread, expectedMembers, hbridgeSource, hpiSource, hpiExtension, hidentityPath, hinstaller,
    hservice]
  exact ⟨rfl, rfl, rfl, rfl, rfl, rfl⟩

/-- When the members of a merged document are the expected ones. -/
theorem sameMembers_merged (h : loadInstallMetadata file = .ok loaded) :
    (∀ member ∈ expectedMembers patch loaded,
        SameValue ((mergedMetadata patch loaded).properties.get? member.1) member.2)
      ↔ isPatchKept patch = true
        ∧ (patch.service = none → isUnsafeLegacy (serviceOf file) = false) := by
  obtain ⟨record, hstored, -, rfl⟩ := loadInstallMetadata_eq h
  have hkept := isKept_keptMembers record
  obtain ⟨hbridgeSource, hpiSource, hpiExtension, hidentityPath, hinstaller, hservice⟩ :=
    get?_metadata (mergedMetadata patch (keptMembers record))
  obtain ⟨kbridgeSource, kpiSource, kpiExtension, kidentityPath, kinstaller, kservice⟩ :=
    mergedMetadata_eq patch (keptMembers record)
  have hpath : isRejected safeAbsolutePath ((keptMembers record).identityPath.map .string)
      = false := by
    simp only [keptMembers, map_resolve_safePath?, map_string_safePath?, isRejected_keptMember]
  rw [expectedMembers, forall_metadataMembers, hbridgeSource, hpiSource, hpiExtension,
    hidentityPath, hinstaller, hservice, kbridgeSource, kpiSource, kpiExtension, kidentityPath,
    kinstaller, kservice]
  simp only [sameValue_keptMember, sameValue_normalized]
  rw [isRejected_getD (isRejected_of_kept hkept.bridgeSource),
    isRejected_getD (isRejected_of_kept hkept.piSource),
    isRejected_getD (isRejected_of_kept hkept.piExtension), isRejected_getD hpath,
    isRejected_getD (isRejected_of_kept hkept.installer)]
  -- The service of the patch, or else the one that was loaded.
  have hserviceKept : isRejected isKeptService (patch.service.getD
        ((keptMembers record).service.map AriavaServiceInstallRecord.value)) = false
      ↔ patch.service.all (fun value => !isRejected isKeptService value) = true
        ∧ (patch.service = none → isUnsafeLegacy (serviceOf file) = false) := by
    cases patch.service with
    | none => simp [isRejected_loaded_service, hstored]
    | some value => simp
  rw [hserviceKept]
  simp only [isPatchKept, Bool.and_eq_true, and_assoc]

/-- A merge keeps the members exactly when the patch is refused because of a service of an earlier
version that is not safe, or every member of it passes its check, and no such service is stored. -/
theorem keepsMembers_iff (h : loadInstallMetadata file = .ok loaded) :
    KeepsMembers patch file loaded
      ↔ isUnsafeLegacy (patch.service.getD none) = true
        ∨ (isPatchKept patch = true
          ∧ (patch.service = none → isUnsafeLegacy (serviceOf file) = false)) := by
  have hrejected : hasSafeService (mergedMetadata patch loaded) = false
      ↔ isUnsafeLegacy (patch.service.getD none) = true := by
    have hread : (spreadPatch loaded patch).get? "service"
        = patch.service.getD (loaded.service.map AriavaServiceInstallRecord.value) :=
      (forall_metadataMembers.mp (get?_metadataMembers _ _ _ _ _ _)).2.2.2.2.2
    rw [← Bool.not_eq_true, mergedMetadata, hasSafeService_keptMembers, hread,
      isUnsafeLegacy_getD, Bool.not_eq_false]
  rw [keepsMembers_of_merge h, hrejected, sameMembers_merged h]

end Merge

/-! ### The metadata is preserved -/

/-- Normalised again, the metadata of a document has no issue and stays as it is. -/
def Renormalizes (value : JsonValue) : Prop :=
  let metadata := (normalizeInstallMetadata value).metadata
  (normalizeInstallMetadata metadata.value).diagnostics.isValid = true
    ∧ (normalizeInstallMetadata metadata.value).metadata = metadata

theorem renormalizes_document {value : JsonValue}
    (h : (normalizeInstallMetadata value).diagnostics.isValid = true) :
    Renormalizes value ↔ isUnsafeLegacy (serviceOf (some value)) = false := by
  cases value with
  | object record =>
    have hmetadata : (normalizeInstallMetadata (.object record)).metadata = keptMembers record := rfl
    rw [Renormalizes, hmetadata, renormalizes_iff (isKept_keptMembers record),
      hasSafeService_keptMembers]
    rfl
  | _ => cases h

/-- Of a document without an issue, the metadata is normalised to itself exactly when its service
is not one of an earlier version with a config path that is not safe. A merge keeps every member
exactly when it is refused because of such a service in the patch, or every member of the patch
passes its check and no such service is left in the file. -/
theorem metadataPreserved_iff (value : JsonValue) (patch : InstallPatch)
    (file : Option JsonValue) (loaded : AriavaInstallMetadata) :
    ((normalizeInstallMetadata value).diagnostics.isValid = true →
        (Renormalizes value ↔ isUnsafeLegacy (serviceOf (some value)) = false))
      ∧ (loadInstallMetadata file = .ok loaded →
        (KeepsMembers patch file loaded
          ↔ isUnsafeLegacy (patch.service.getD none) = true
            ∨ (isPatchKept patch = true
              ∧ (patch.service = none → isUnsafeLegacy (serviceOf file) = false)))) :=
  ⟨renormalizes_document, keepsMembers_iff⟩

/-- A service of an earlier version. -/
def sampleService (configPath : String) : JsonObject :=
  [(jsString "installedAt", .string (jsString "now")),
    (jsString "nodePath", .string (jsString "/node")),
    (jsString "ariavaBinPath", .string (jsString "/ariava")),
    (jsString "plistPath", .string (jsString "/plist")),
    (jsString "label", .string (jsString "io.noyx.ariava.bridge")),
    (jsString "configPath", .string (jsString configPath)),
    (jsString "identityReference", .object
      [(jsString "type", .string (jsString "macos-keychain")),
        (jsString "service", .string (jsString "io.noyx.ariava.host-identity")),
        (jsString "account", .string (jsString "host"))])]

/-- A document with that service. -/
def sampleDocument (configPath : String) : JsonValue :=
  .object [(jsString "service", .object (sampleService configPath))]

/-- A patch of an identity path. -/
def identityPatch (path : String) : InstallPatch where
  bridgeSource := none
  piSource := none
  piExtension := none
  identityPath := some (some (.string (jsString path)))
  installer := none
  service := none

section Sample

variable (configPath : String)

/-- The config path is not looked at. -/
theorem isServiceRecord_sample : isServiceRecord (some (.object (sampleService configPath))) = true := by
  have hown : JsonObject.hasOwn (sampleService configPath) "backend" = false := by
    simp [sampleService, JsonObject.hasOwn, JsonObject.get?, jsString_injective.eq_iff]
  have hpaths : safeAbsolutePath (some (.string (jsString "/node"))) = true
      ∧ safeAbsolutePath (some (.string (jsString "/ariava"))) = true
      ∧ safeAbsolutePath (some (.string (jsString "/plist"))) = true := by
    decide
  have hwords : ∀ word ∈ ["now", "/node", "/ariava", "/plist", "io.noyx.ariava.bridge"],
      isNonBlank (some (.string (jsString word))) = true := by
    decide
  have hlegacy : isLegacyRecord (sampleService configPath) = true := by
    simp_all [isLegacyRecord, sampleService, JsonObject.get?, jsString_injective.eq_iff,
      ServiceBackend.serviceId]
  obtain ⟨record, hrecord⟩ := isLegacyRecord_iff.mp hlegacy
  rw [isServiceRecord, normalizeServiceInstallRecord, recordOf_object, Option.bind_some, hown,
    if_neg Bool.false_ne_true, hrecord, Option.isSome_some]

theorem isValid_sampleDocument :
    (normalizeInstallMetadata (sampleDocument configPath)).diagnostics.isValid = true := by
  refine isValid_recordDiagnostics.mpr ⟨isRejected_eq_false.mpr (.inr ?_), ?_⟩
  · exact isServiceRecord_sample configPath
  · exact ⟨rfl, rfl, rfl, rfl, rfl⟩

theorem loadInstallMetadata_sampleDocument :
    loadInstallMetadata (some (sampleDocument configPath))
      = .ok (normalizeInstallMetadata (sampleDocument configPath)).metadata := by
  rw [loadInstallMetadata, Option.getD_some, assertValidInstallMetadata,
    if_pos (isValid_sampleDocument configPath)]

end Sample

/-- With a safe config path the service stays, and a safe identity path is merged. -/
theorem metadataPreserved_sample : Renormalizes (sampleDocument "/config")
    ∧ KeepsMembers (identityPatch "/identity") (some (sampleDocument "/config"))
      (normalizeInstallMetadata (sampleDocument "/config")).metadata := by
  have hsafe : isUnsafeLegacy (serviceOf (some (sampleDocument "/config"))) = false := by decide
  have hpatch : isPatchKept (identityPatch "/identity") = true := by decide
  obtain ⟨hrenormalizes, hkeeps⟩ := metadataPreserved_iff (sampleDocument "/config")
    (identityPatch "/identity") (some (sampleDocument "/config"))
    (normalizeInstallMetadata (sampleDocument "/config")).metadata
  constructor
  · exact (hrenormalizes (isValid_sampleDocument "/config")).mpr hsafe
  · apply (hkeeps (loadInstallMetadata_sampleDocument "/config")).mpr
    exact .inr ⟨hpatch, fun _ => hsafe⟩

/-- A service of an earlier version is lost when its config path is not safe, whatever is merged. -/
theorem not_metadataPreserved :
    (¬ ∀ value, (normalizeInstallMetadata value).diagnostics.isValid = true → Renormalizes value)
      ∧ ¬ ∀ patch file loaded, loadInstallMetadata file = .ok loaded →
        KeepsMembers patch file loaded := by
  have hrejected : isUnsafeLegacy (serviceOf (some (sampleDocument "config"))) = true := by decide
  constructor
  · intro h
    have hvalid := isValid_sampleDocument "config"
    have hsafe := (renormalizes_document hvalid).mp (h _ hvalid)
    rw [hrejected] at hsafe
    cases hsafe
  · intro h
    have hload := loadInstallMetadata_sampleDocument "config"
    have hkept := h (identityPatch "/identity") (some (sampleDocument "config"))
      (normalizeInstallMetadata (sampleDocument "config")).metadata hload
    rcases (keepsMembers_iff hload).mp hkept with hpatch | hkept
    · cases hpatch
    · have hsafe := hkept.2 rfl
      rw [hrejected] at hsafe
      cases hsafe

end Ariava.Proofs.MetadataPreservation
