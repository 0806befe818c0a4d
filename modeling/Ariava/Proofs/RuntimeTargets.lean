import Ariava.Proofs.RuntimePaths
import Ariava.Proofs.StateMigration
import Ariava.StateStore.RuntimePreflight

/-!
# `Ariava.Proofs.RuntimeTargets`: what the journals write passes the checks

A start goes on after a journal only if it recognizes what the journal wrote. So the empty runtimes
of the schemas 2 and 3, the target of a migration, the schema floor and the two intents are read
back by the checks here. The schemas exclude each other, since each check reads the version first.
-/

set_option autoImplicit false

namespace Ariava.Proofs.RuntimeTargets

open Ariava.HostManager (resolve)
open Ariava.Protocol (JsonValue JsonObject JsString jsString Thrown throwIf throwIf_eq_ok checkAll
  checkAll_eq_ok check_bind_eq_ok bind_eq_ok_iff isCanonicalTimestampString)
open Ariava.Proofs.RuntimePaths (IsFilePath resolve_append isAbsoluteResolvedPath_resolve)
open Ariava.Proofs.StateMigration (get?_objectLiteral_cons get?_objectLiteral_nil
  safeIntegerOf_jsonInteger migrateStateV3ToV4_accepted migrateStateV3ToV4_eq_ok)
open Ariava.StateStore.RawState

variable {checks : CodecChecks} {hostId epoch keyId : JsString}

/-! ### Reads of literals -/

theorem isNumber_jsonInteger (number : Int) (h : number.natAbs ≤ 10) (other : Int) :
    isNumber other (some (jsonInteger number)) = decide (number = other) := by
  have hsafe : number.natAbs ≤ Protocol.maxSafeInteger := le_trans h (by decide)
  simp [isNumber, safeIntegerOf_jsonInteger hsafe]

/-- A read of a field that is defined. -/
theorem get?_objectLiteral_some (name : String) (value : JsonValue)
    (fields : List (String × JsValue)) (key : String) :
    (objectLiteral ((name, some value) :: fields)).get? key
      = if name = key then some value else (objectLiteral fields).get? key := by
  rw [get?_objectLiteral_cons]
  rfl

/-- A literal that defines every field has exactly their keys. -/
theorem hasExactKeys_objectLiteral (fields : List (String × JsonValue)) :
    hasExactKeys (objectLiteral (fields.map fun field => (field.1, some field.2)))
      (fields.map Prod.fst) = true := by
  rw [hasExactKeys, Bool.and_eq_true, decide_eq_true_eq, List.all_eq_true]
  constructor
  · simp [objectLiteral]
  · intro key hkey
    rw [JsonObject.hasOwn]
    induction fields with
    | nil => cases hkey
    | cons first rest ih =>
      rw [List.map_cons, get?_objectLiteral_some]
      by_cases hname : first.1 = key
      · simp [hname]
      · rw [if_neg hname]
        rcases List.mem_cons.mp hkey with rfl | hrest
        · exact absurd rfl hname
        · exact ih hrest

/-! ### The empty runtimes -/

theorem get?_emptyStateForSchema_epoch (schemaVersion : Int) :
    (emptyStateForSchema schemaVersion epoch).get? "runtimeResetEpoch"
      = some (.string epoch) := by
  simp [emptyStateForSchema, get?_objectLiteral_some]

theorem get?_emptyStateForSchema_snapshot (schemaVersion : Int) :
    (emptyStateForSchema schemaVersion epoch).get? "currentSessionsSnapshot"
      = some (.object (objectLiteral [("version", some (jsonInteger 1)),
        ("lastAllocatedRevision", some (jsonInteger 0)),
        ("lastAcceptedRevision", some (jsonInteger 0))])) := by
  simp [emptyStateForSchema, get?_objectLiteral_some]

theorem hasExactOptionalKeys_empty (schemaVersion : Int) :
    hasExactOptionalKeys (emptyStateForSchema schemaVersion epoch) priorV3StateRequiredKeys
      currentStateOptionalKeys = true := by
  rw [hasExactOptionalKeys, Bool.and_eq_true]
  constructor
  · simp [emptyStateForSchema, priorV3StateRequiredKeys, JsonObject.hasOwn,
      get?_objectLiteral_some]
  · refine Proofs.StateMigration.hasOnlyKeys_objectLiteral fun field hfield => ?_
    have hkeys : ∀ key ∈ ["schemaVersion", "runtimeResetEpoch", "host", "sessions",
        "sessionDrivers", "reconciledDrivers", "recentEvents", "sessionRevisions",
        "pendingHandles", "currentSessionsSnapshot", "runtimeHealth", "commandResults",
        "seenCommands"], key ∈ priorV3StateRequiredKeys ++ currentStateOptionalKeys := by decide
    apply hkeys
    simp only [List.mem_cons, List.not_mem_nil, or_false] at hfield ⊢
    rcases hfield with rfl | rfl | rfl | rfl | rfl | rfl | rfl | rfl | rfl | rfl | rfl | rfl | rfl
      <;> simp

theorem areCommonFields_empty {schemaVersion : Int} (hversion : schemaVersion.natAbs ≤ 10)
    (hepoch : isRuntimeEpoch (some (.string epoch)) = true) :
    areCommonFields checks schemaVersion (emptyStateForSchema schemaVersion epoch) = true := by
  have hhealth : isCurrentRuntimeHealth checks (some (.object (objectLiteral [
      ("status", some (.string (jsString "healthy"))), ("drivers", some (.array []))])))
      = true := by
    have hkeys : hasExactOptionalKeys (objectLiteral [
        ("status", some (.string (jsString "healthy"))), ("drivers", some (.array []))])
        ["status", "drivers"] ["relayPresence"] = true := by decide
    simp [isCurrentRuntimeHealth, isRecordWith, recordOf, hkeys, get?_objectLiteral_some, arrayOf,
      isText, textOf, optionally]
  simp [areCommonFields, emptyStateForSchema, get?_objectLiteral_some,
    isNumber_jsonInteger _ hversion, hepoch, isNull, isStringMap, isTrueMap,
    isNonNegativeIntegerMap, isValueMap, recordOf, areOptionalFields, optionally, hhealth]

/-- A state that never published has nothing to check. -/
theorem isPublicationBound_of_unpublished {state : JsonObject}
    (h : state.get? "currentSessionsSnapshot" = some (.object (objectLiteral [
      ("version", some (jsonInteger 1)), ("lastAllocatedRevision", some (jsonInteger 0)),
      ("lastAcceptedRevision", some (jsonInteger 0))]))) : isPublicationBound state = true := by
  have hzero : safeIntegerOf (some (jsonInteger 0)) = some 0 := by decide
  unfold isPublicationBound
  rw [h]
  simp [entriesOf, recordOf, integerIn, get?_objectLiteral_cons, hzero]

theorem assertPriorStateV3Relationships_empty (schemaVersion : Int) :
    assertPriorStateV3Relationships (emptyStateForSchema schemaVersion epoch) hostId = .ok () := by
  have hread : ∀ key ∈ ["sessions", "sessionDrivers", "sessionRevisions", "pendingHandles",
      "commandResults", "seenCommands"],
      (emptyStateForSchema schemaVersion epoch).get? key = some (.object []) := by
    intro key hkey
    simp only [List.mem_cons, List.not_mem_nil, or_false] at hkey
    rcases hkey with rfl | rfl | rfl | rfl | rfl | rfl <;>
      simp [emptyStateForSchema, get?_objectLiteral_some]
  have hpublication : isPublicationBound (emptyStateForSchema schemaVersion epoch) = true :=
    isPublicationBound_of_unpublished (get?_emptyStateForSchema_snapshot schemaVersion)
  have hhost : (emptyStateForSchema schemaVersion epoch).get? "host" = some .null := by
    simp [emptyStateForSchema, get?_objectLiteral_some]
  have hevents : (emptyStateForSchema schemaVersion epoch).get? "recentEvents"
      = some (.array []) := by simp [emptyStateForSchema, get?_objectLiteral_some]
  have habsent : ∀ key ∈ ["eventUploadCompletions", "producerEventReservations",
      "terminalCancellations"], (emptyStateForSchema schemaVersion epoch).get? key = none := by
    intro key hkey
    simp only [List.mem_cons, List.not_mem_nil, or_false] at hkey
    rcases hkey with rfl | rfl | rfl <;> simp [emptyStateForSchema, get?_objectLiteral_some]
  unfold assertPriorStateV3Relationships assertHost
  rw [hread "sessions" (by decide), hread "sessionDrivers" (by decide),
    hread "sessionRevisions" (by decide), hread "pendingHandles" (by decide),
    hread "commandResults" (by decide), hread "seenCommands" (by decide), hhost, hevents,
    habsent "eventUploadCompletions" (by decide),
    habsent "producerEventReservations" (by decide),
    habsent "terminalCancellations" (by decide), hpublication]
  -- every loop is over nothing
  rfl

/-- The empty runtime of schema 3 is one that the migration recognizes. -/
theorem isPriorStateRecordV3_empty (hepoch : isRuntimeEpoch (some (.string epoch)) = true) :
    isPriorStateRecordV3 checks (emptyStateForSchema 3 epoch) hostId = true := by
  have hcommon : areCommonFields checks 3 (emptyStateForSchema 3 epoch) = true :=
    areCommonFields_empty (by decide) hepoch
  have hsnapshot : isObsoleteSnapshot
      ((emptyStateForSchema 3 epoch).get? "currentSessionsSnapshot") = true := by
    rw [get?_emptyStateForSchema_snapshot]
    decide
  rw [isPriorStateRecordV3, hasExactOptionalKeys_empty, hcommon, hsnapshot,
    assertPriorStateV3Relationships_empty]
  simp [emptyStateForSchema, get?_objectLiteral_some, isValueMap, isStringMap, recordOf, arrayOf,
    Except.toBool]

/-- The empty runtime of schema 2 is one that is reset. -/
theorem isObsoleteStateRecord_empty (hepoch : isRuntimeEpoch (some (.string epoch)) = true) :
    isObsoleteStateRecord checks (emptyStateForSchema 2 epoch) hostId = true := by
  have hcommon : areCommonFields checks 2 (emptyStateForSchema 2 epoch) = true :=
    areCommonFields_empty (by decide) hepoch
  have hsnapshot : isCurrentSnapshot
      ((emptyStateForSchema 2 epoch).get? "currentSessionsSnapshot") = true := by
    rw [get?_emptyStateForSchema_snapshot]
    decide
  rw [isObsoleteStateRecord, hasExactOptionalKeys_empty, hcommon, hsnapshot,
    assertPriorStateV3Relationships_empty]
  simp [emptyStateForSchema, get?_objectLiteral_some, isValueMap, isStringMap, recordOf, arrayOf,
    Except.toBool]

theorem isSpoolRecordForSchema_empty {schemaVersion : Int} (hversion : schemaVersion.natAbs ≤ 10)
    (hkey : isVerifier (some (.string keyId)) = true) :
    isSpoolRecordForSchema (spoolFileForSchema schemaVersion hostId epoch keyId) schemaVersion
      hostId (isEpochOf epoch) = true := by
  have hkeys : hasExactKeys (spoolFileForSchema schemaVersion hostId epoch keyId)
      ["version", "runtimeStateSchemaVersion", "runtimeResetEpoch", "hostId", "keyId", "items"]
      = true :=
    hasExactKeys_objectLiteral [("version", jsonInteger 2),
      ("runtimeStateSchemaVersion", jsonInteger schemaVersion),
      ("runtimeResetEpoch", .string epoch), ("hostId", .string hostId), ("keyId", .string keyId),
      ("items", .array [])]
  rw [isSpoolRecordForSchema, hkeys]
  simp [spoolFileForSchema, get?_objectLiteral_some, isNumber_jsonInteger _ hversion,
    isNumber_jsonInteger 2 (by decide), isEpochOf, textOf, hkey, arrayOf]

theorem hasRecognizedPriorRuntimeRelationships_empty (schemaVersion : Int) :
    hasRecognizedPriorRuntimeRelationships (emptyStateForSchema schemaVersion epoch)
      (spoolFileForSchema schemaVersion hostId epoch keyId) = true := by
  simp [hasRecognizedPriorRuntimeRelationships, spoolItemsOf, spoolFileForSchema,
    emptyStateForSchema, get?_objectLiteral_some, elementsOf, arrayOf, entriesOf, recordOf]

/-! ### The schemas exclude each other -/

theorem isNumber_unique {value : JsValue} {first second : Int}
    (hfirst : isNumber first value = true) (hsecond : isNumber second value = true) :
    first = second := by
  rw [isNumber, decide_eq_true_eq] at hfirst hsecond
  exact Option.some.inj (hfirst.symm.trans hsecond)

theorem isNumber_schemaVersion_of_common {schemaVersion : Int} {state : JsonObject}
    (h : areCommonFields checks schemaVersion state = true) :
    isNumber schemaVersion (state.get? "schemaVersion") = true := by
  simp only [areCommonFields, Bool.and_eq_true] at h
  exact h.1.1.1.1.1.1.1

theorem isNumber_of_isCurrentStateRecord {state : JsonObject}
    (h : isCurrentStateRecord checks state = true) :
    isNumber 4 (state.get? "schemaVersion") = true := by
  simp only [isCurrentStateRecord, isStateRecordOfShape, Bool.and_eq_true] at h
  exact isNumber_schemaVersion_of_common h.1.1.1.1.2

theorem isNumber_of_isPriorStateRecordV3 {state : JsonObject}
    (h : isPriorStateRecordV3 checks state hostId = true) :
    isNumber 3 (state.get? "schemaVersion") = true := by
  simp only [isPriorStateRecordV3, Bool.and_eq_true] at h
  exact isNumber_schemaVersion_of_common h.1.1.1.1.1.1.2

theorem isNumber_of_isObsoleteStateRecord {state : JsonObject}
    (h : isObsoleteStateRecord checks state hostId = true) :
    isNumber 2 (state.get? "schemaVersion") = true := by
  simp only [isObsoleteStateRecord, Bool.and_eq_true] at h
  exact isNumber_schemaVersion_of_common h.1.1.1.1.1.1.2

/-- A state is not of two schemas. -/
theorem not_isCurrentStateRecord {schemaVersion : Int} {state : JsonObject}
    (h : isNumber schemaVersion (state.get? "schemaVersion") = true) (hother : schemaVersion ≠ 4) :
    isCurrentStateRecord checks state = false := by
  rw [Bool.eq_false_iff]
  exact fun hcurrent => hother (isNumber_unique h (isNumber_of_isCurrentStateRecord hcurrent))

/-! ### The target of a migration -/

/-- The target of `migrateSpoolV3ToV4`. -/
def spoolMigrationTarget (spool : JsonObject) : JsonObject :=
  withProperty (withProperty spool "runtimeStateSchemaVersion" (jsonInteger 4)) "items" (.array [])

theorem get?_withProperty (record : JsonObject) (name key : String) (value : JsonValue) :
    (withProperty record name value).get? key
      = if key = name then (record.get? key).map fun _ => value else record.get? key := by
  unfold withProperty JsonObject.get?
  induction record with
  | nil => simp
  | cons property rest ih =>
    rw [List.map_cons, List.find?_cons, List.find?_cons]
    by_cases hproperty : property.1 = jsString name
    · rw [if_pos hproperty]
      by_cases hkey : key = name
      · subst hkey
        simp [hproperty]
      · have hne : property.1 ≠ jsString key := fun h =>
          hkey (Protocol.jsString_injective (h.symm.trans hproperty))
        rw [if_neg hkey] at ih ⊢
        simp only [hne, decide_false]
        exact ih
    · rw [if_neg hproperty]
      by_cases hkey : property.1 = jsString key
      · have hne : key ≠ name := fun h => hproperty (h ▸ hkey)
        simp [hkey, hne]
      · simp only [hkey, decide_false]
        exact ih

theorem hasExactKeys_withProperty {record : JsonObject} {name : String} {value : JsonValue}
    {keys : List String} (h : hasExactKeys record keys = true) :
    hasExactKeys (withProperty record name value) keys = true := by
  rw [hasExactKeys, Bool.and_eq_true, decide_eq_true_eq, List.all_eq_true] at h ⊢
  refine ⟨by simpa [withProperty] using h.1, fun key hkey => ?_⟩
  have hown := h.2 key hkey
  rw [JsonObject.hasOwn] at hown ⊢
  rw [get?_withProperty]
  split
  · rwa [Option.isSome_map]
  · exact hown

/-- A spool of schema 3 becomes an empty one of schema 4. -/
theorem parseCurrentSpoolRecord_migrated {spool : JsonObject}
    (h : isSpoolRecordForSchema spool 3 hostId (isEpochOf epoch) = true) :
    migrateSpoolV3ToV4 spool hostId epoch = .ok (spoolMigrationTarget spool)
      ∧ parseCurrentSpoolRecord (spoolMigrationTarget spool) hostId epoch
        = .ok (spoolMigrationTarget spool) := by
  constructor
  · exact check_bind_eq_ok.mpr ⟨throwIf_eq_ok.mpr (by rw [h]; rfl), rfl⟩
  · refine check_bind_eq_ok.mpr ⟨throwIf_eq_ok.mpr ((Bool.not_eq_false' _).mpr ?_), rfl⟩
    simp only [isSpoolRecordForSchema, Bool.and_eq_true] at h ⊢
    obtain ⟨⟨⟨⟨⟨⟨hkeys, hversion⟩, hschema⟩, hepoch⟩, hhost⟩, hkeyId⟩, hitems⟩ := h
    have hfields : ∀ key, key ≠ "runtimeStateSchemaVersion" → key ≠ "items" →
        (spoolMigrationTarget spool).get? key = spool.get? key := by
      intro key hschemaKey hitemsKey
      rw [spoolMigrationTarget, get?_withProperty, if_neg hitemsKey, get?_withProperty,
        if_neg hschemaKey]
    have hnewSchema : (spoolMigrationTarget spool).get? "runtimeStateSchemaVersion"
        = some (jsonInteger 4) := by
      rw [spoolMigrationTarget, get?_withProperty, if_neg (by decide), get?_withProperty,
        if_pos rfl]
      cases hread : spool.get? "runtimeStateSchemaVersion" with
      | none =>
        rw [hread] at hschema
        cases hschema
      | some value => rfl
    have hnewItems : (spoolMigrationTarget spool).get? "items" = some (.array []) := by
      rw [spoolMigrationTarget, get?_withProperty, if_pos rfl, get?_withProperty,
        if_neg (by decide)]
      cases hread : spool.get? "items" with
      | none =>
        rw [hread] at hitems
        cases hitems
      | some value => rfl
    rw [hnewSchema, hnewItems, hfields "version" (by decide) (by decide),
      hfields "runtimeResetEpoch" (by decide) (by decide),
      hfields "hostId" (by decide) (by decide), hfields "keyId" (by decide) (by decide)]
    refine ⟨⟨⟨⟨⟨⟨?_, hversion⟩, ?_⟩, hepoch⟩, hhost⟩, hkeyId⟩, rfl⟩
    · exact hasExactKeys_withProperty (hasExactKeys_withProperty hkeys)
    · decide

/-- State and spool of schema 3 become a runtime that is opened. -/
theorem parseCurrentRuntime_migrated {state spool : JsonObject}
    (hstate : isPriorStateRecordV3 checks state hostId = true)
    (hspool : isSpoolRecordForSchema spool 3 hostId
      (isEpochOf (textIn state "runtimeResetEpoch")) = true) :
    migrateStateV3ToV4 checks state hostId = .ok (migrationTarget state)
      ∧ textIn (migrationTarget state) "runtimeResetEpoch" = textIn state "runtimeResetEpoch"
      ∧ parseCurrentRuntime checks hostId (migrationTarget state) (spoolMigrationTarget spool)
        = .ok (migrationTarget state) := by
  obtain ⟨target, hmigrated, hparsed, -⟩ := migrateStateV3ToV4_accepted hstate
  obtain rfl := migrateStateV3ToV4_eq_ok hmigrated
  have hepoch : textIn (migrationTarget state) "runtimeResetEpoch"
      = textIn state "runtimeResetEpoch" := by
    rw [textIn, Proofs.StateMigration.get?_copied "runtimeResetEpoch" (by decide), textIn]
  refine ⟨hmigrated, hepoch, bind_eq_ok_iff.mpr ⟨_, hparsed, bind_eq_ok_iff.mpr
    ⟨spoolMigrationTarget spool, ?_, check_bind_eq_ok.mpr ⟨?_, rfl⟩⟩⟩⟩
  · rw [hepoch]
    exact (parseCurrentSpoolRecord_migrated hspool).2
  · -- no items, and no completions
    have hitems : spoolItemsOf (spoolMigrationTarget spool) = [] := by
      rw [spoolItemsOf, spoolMigrationTarget, get?_withProperty, if_pos rfl]
      cases (withProperty spool "runtimeStateSchemaVersion" (jsonInteger 4)).get? "items" <;> rfl
    obtain ⟨-, hrelated⟩ := check_bind_eq_ok.mp hparsed
    refine check_bind_eq_ok.mpr ⟨(check_bind_eq_ok.mp hrelated).1, ?_⟩
    rw [hitems, Proofs.StateMigration.get?_dropped "eventUploadCompletions" (by decide)]
    rfl

/-! ### The schema floor -/

section
variable {statePath : JsString}

theorem isVerifier_isRuntimeHash {text : JsString} (h : isVerifier (some (.string text)) = true) :
    isRuntimeHash (some (.string text)) = true := by
  simp [isRuntimeHash, h]

theorem isRuntimeHash_hashOptional (hash : RuntimeHash) (bytes : Option FileBytes) :
    isRuntimeHash (some (.string (hashOptional hash bytes))) = true := by
  cases bytes with
  | none => rfl
  | some bytes => exact isVerifier_isRuntimeHash (hash.isVerifier bytes)

/-- The hash of a file is not the mark of a missing one. -/
theorem hashBytes_ne_absentHash (hash : RuntimeHash) (bytes : FileBytes) :
    hash.hashBytes bytes ≠ absentHash := by
  intro h
  have hverifier := hash.isVerifier bytes
  rw [h] at hverifier
  revert hverifier
  decide

theorem resolve_resolve (hpath : IsFilePath statePath) :
    resolve (resolve statePath) = resolve statePath :=
  (resolve_append hpath (jsString ".spool.json") (by decide) (by decide)).2.2

/-- The floor is the same one for the state path and for the resolved state path. -/
theorem parseRuntimeSchemaFloor_resolve (hpath : IsFilePath statePath)
    (value : Option JsonObject) :
    parseRuntimeSchemaFloor value (resolve statePath) hostId
      = parseRuntimeSchemaFloor value statePath hostId := by
  unfold parseRuntimeSchemaFloor
  rw [resolve_resolve hpath]

theorem parseRuntimeSchemaFloor_runtimeSchemaFloor :
    parseRuntimeSchemaFloor (some (runtimeSchemaFloor statePath hostId)) statePath hostId
      = .ok (runtimeSchemaFloor statePath hostId) := by
  have hkeys : hasExactKeys (runtimeSchemaFloor statePath hostId)
      ["version", "hostId", "minSchemaVersion", "statePath", "spoolPath"] = true :=
    hasExactKeys_objectLiteral [("version", jsonInteger 1), ("hostId", .string hostId),
      ("minSchemaVersion", jsonInteger 4), ("statePath", .string (resolve statePath)),
      ("spoolPath", .string (resolve (spoolPathForState (resolve statePath))))]
  refine check_bind_eq_ok.mpr ⟨throwIf_eq_ok.mpr ?_, check_bind_eq_ok.mpr
    ⟨throwIf_eq_ok.mpr ?_, rfl⟩⟩
  · rw [Option.getD_some, hkeys]
    simp [runtimeSchemaFloor, get?_objectLiteral_cons, textOf,
      isNumber_jsonInteger 1 (by decide), isNumber_jsonInteger 4 (by decide)]
  · simp [runtimeSchemaFloor, get?_objectLiteral_cons, textOf]

/-- A floor that was parsed is the floor that was read. -/
theorem parseRuntimeSchemaFloor_eq_ok {value : Option JsonObject} {floor : JsonObject}
    (h : parseRuntimeSchemaFloor value statePath hostId = .ok floor) :
    value = some floor ∧ isNumber 4 (floor.get? "minSchemaVersion") = true := by
  obtain ⟨hchecked, h⟩ := check_bind_eq_ok.mp h
  obtain ⟨-, h⟩ := check_bind_eq_ok.mp h
  cases h
  rw [throwIf_eq_ok] at hchecked
  simp only [Bool.or_eq_false_iff, Bool.not_eq_false'] at hchecked
  cases value with
  | none => cases hchecked.1.1.1.1
  | some record => exact ⟨rfl, hchecked.2⟩

/-! ### The intents -/

variable {hash : RuntimeHash} {drawn : RuntimeDraw}

theorem isNonEmptyString_of_ne {text : JsString} (h : text ≠ []) :
    isNonEmptyString (some (.string text)) = true := by
  simp [isNonEmptyString, textOf, h]

/-- A timestamp is a text that is not empty. -/
theorem createdAt_ne_nil (drawn : RuntimeDraw) : drawn.createdAt ≠ [] := by
  intro h
  have htimestamp := drawn.isTimestamp
  rw [h] at htimestamp
  revert htimestamp
  decide

/-- What the reader of a reset intent asks of its fields. -/
structure IsResetIntent (checks : CodecChecks) (intent : RuntimeResetIntentV1) : Prop where
  schemas : (intent.fromSchemaVersion = 1 ∧ intent.toSchemaVersion = 2)
    ∨ (intent.fromSchemaVersion = 2 ∧ intent.toSchemaVersion = 3)
  hostId : intent.hostId ≠ []
  epoch : isRuntimeEpoch (some (.string intent.epoch)) = true
  keyId : isVerifier (some (.string intent.keyId)) = true
  paths : ∀ path ∈ [intent.statePath, intent.spoolPath, intent.intentPath],
    isAbsoluteResolvedPath (some (.string path)) = true
  hashes : ∀ text ∈ [intent.stateSourceHash, intent.spoolSourceHash, intent.stateTargetHash,
    intent.spoolTargetHash], isRuntimeHash (some (.string text)) = true
  createdAt : intent.createdAt ≠ [] ∧ checks.isFiniteDate intent.createdAt = true

/-- A reset intent is read back. -/
theorem parseResetIntent_toJson {intent : RuntimeResetIntentV1} (h : IsResetIntent checks intent) :
    parseResetIntent checks (.object intent.toJson) = .ok intent := by
  have hkeys : hasExactKeys intent.toJson resetIntentKeys = true :=
    hasExactKeys_objectLiteral [("version", jsonInteger 1),
      ("fromSchemaVersion", jsonInteger intent.fromSchemaVersion),
      ("toSchemaVersion", jsonInteger intent.toSchemaVersion), ("hostId", .string intent.hostId),
      ("epoch", .string intent.epoch), ("keyId", .string intent.keyId),
      ("statePath", .string intent.statePath), ("spoolPath", .string intent.spoolPath),
      ("intentPath", .string intent.intentPath),
      ("stateSourceHash", .string intent.stateSourceHash),
      ("spoolSourceHash", .string intent.spoolSourceHash),
      ("stateTargetHash", .string intent.stateTargetHash),
      ("spoolTargetHash", .string intent.spoolTargetHash),
      ("createdAt", .string intent.createdAt)]
  obtain ⟨hschemas, hhost, hepoch, hkey, hpaths, hhashes, hcreated, hdate⟩ := h
  simp only [List.mem_cons, List.not_mem_nil, or_false, forall_eq_or_imp, forall_eq]
    at hpaths hhashes
  obtain ⟨hstatePath, hspoolPath, hintentPath⟩ := hpaths
  obtain ⟨hstateSource, hspoolSource, hstateTarget, hspoolTarget⟩ := hhashes
  have hversions : isValidResetTransition (some (jsonInteger intent.fromSchemaVersion))
        (some (jsonInteger intent.toSchemaVersion)) = true
      ∧ safeIntegerOf (some (jsonInteger intent.fromSchemaVersion))
        = some intent.fromSchemaVersion
      ∧ safeIntegerOf (some (jsonInteger intent.toSchemaVersion))
        = some intent.toSchemaVersion := by
    rcases hschemas with ⟨hfrom, hto⟩ | ⟨hfrom, hto⟩ <;> rw [hfrom, hto] <;> decide
  obtain ⟨htransition, hfrom, hto⟩ := hversions
  refine check_bind_eq_ok.mpr ⟨throwIf_eq_ok.mpr ?_, ?_⟩
  · show (_ || !hasExactKeys intent.toJson resetIntentKeys || _ || _ || _ || _ || _ || _ || _ || _
      || _) = false
    rw [hkeys]
    simp [recordOf, RuntimeResetIntentV1.toJson, get?_objectLiteral_cons, htransition,
      isNumber_jsonInteger 1 (by decide), isNonEmptyString_of_ne hhost, hepoch, hkey,
      hstatePath, hspoolPath, hintentPath, hstateSource, hspoolSource, hstateTarget, hspoolTarget,
      isNonEmptyString_of_ne hcreated, textOf, hdate]
  · simp [recordOf, RuntimeResetIntentV1.toJson, get?_objectLiteral_cons, integerIn, textIn, textOf,
      hfrom, hto, pure, Except.pure]

/-- What the reader of a migration intent asks of its fields. -/
structure IsMigrationIntent (path : JsString) (intent : RuntimeMigrationIntentV1) : Prop where
  hostId : intent.hostId ≠ []
  statePath : intent.statePath = resolve path
  spoolPath : intent.spoolPath = resolve (spoolPathForState (resolve path))
  floorPath : intent.floorPath = resolve (runtimeSchemaFloorPathForState (resolve path))
  intentPath : intent.intentPath
    = resolve (runtimeMigrationIntentPathForState (resolve path))
  paths : ∀ path ∈ [intent.statePath, intent.spoolPath, intent.floorPath, intent.intentPath],
    isAbsoluteResolvedPath (some (.string path)) = true
  hashes : ∀ text ∈ [intent.stateSourceHash, intent.spoolSourceHash, intent.floorSourceHash,
    intent.stateTargetHash, intent.spoolTargetHash, intent.floorTargetHash],
    isRuntimeHash (some (.string text)) = true
  createdAt : isCanonicalTimestampString intent.createdAt = true

/-- A migration intent is read back, if its targets pass their checks. -/
theorem parseMigrationIntent_toJson {intent : RuntimeMigrationIntentV1}
    (h : IsMigrationIntent statePath intent)
    (htargets : assertMigrationIntentTargets checks hash intent = .ok ()) :
    parseMigrationIntent checks hash intent.toJson statePath = .ok intent := by
  have hkeys : hasExactKeys intent.toJson migrationIntentKeys = true :=
    hasExactKeys_objectLiteral [("version", jsonInteger 1), ("fromSchemaVersion", jsonInteger 3),
      ("toSchemaVersion", jsonInteger 4), ("hostId", .string intent.hostId),
      ("statePath", .string intent.statePath), ("spoolPath", .string intent.spoolPath),
      ("floorPath", .string intent.floorPath), ("intentPath", .string intent.intentPath),
      ("stateSourceHash", .string intent.stateSourceHash),
      ("spoolSourceHash", .string intent.spoolSourceHash),
      ("floorSourceHash", .string intent.floorSourceHash),
      ("stateTargetHash", .string intent.stateTargetHash),
      ("spoolTargetHash", .string intent.spoolTargetHash),
      ("floorTargetHash", .string intent.floorTargetHash),
      ("stateTarget", .object intent.stateTarget), ("spoolTarget", .object intent.spoolTarget),
      ("floorTarget", .object intent.floorTarget), ("createdAt", .string intent.createdAt)]
  obtain ⟨hhost, hstate, hspool, hfloor, hintent, hpaths, hhashes, hcreated⟩ := h
  simp only [List.mem_cons, List.not_mem_nil, or_false, forall_eq_or_imp, forall_eq]
    at hpaths hhashes
  obtain ⟨hstatePath, hspoolPath, hfloorPath, hintentPath⟩ := hpaths
  obtain ⟨hstateSource, hspoolSource, hfloorSource, hstateTarget, hspoolTarget, hfloorTarget⟩ :=
    hhashes
  have hfields : readMigrationIntent intent.toJson = .ok intent := by
    refine check_bind_eq_ok.mpr ⟨?_, check_bind_eq_ok.mpr ⟨?_, check_bind_eq_ok.mpr ⟨?_, ?_⟩⟩⟩
    all_goals simp [RuntimeMigrationIntentV1.toJson, get?_objectLiteral_cons, recordOf, textIn,
      textOf, entriesOf, pure, Except.pure]
  refine check_bind_eq_ok.mpr ⟨throwIf_eq_ok.mpr ?_, check_bind_eq_ok.mpr
    ⟨throwIf_eq_ok.mpr ?_, bind_eq_ok_iff.mpr ⟨intent, hfields, check_bind_eq_ok.mpr
      ⟨htargets, rfl⟩⟩⟩⟩
  · rw [hkeys]
    simp [RuntimeMigrationIntentV1.toJson, get?_objectLiteral_cons,
      isNumber_jsonInteger 1 (by decide), isNumber_jsonInteger 3 (by decide),
      isNumber_jsonInteger 4 (by decide), isNonEmptyString_of_ne hhost, hstatePath,
      hspoolPath, hfloorPath, hintentPath, hstateSource, hspoolSource, hfloorSource, hstateTarget,
      hspoolTarget, hfloorTarget, textOf, hcreated]
  · simp [RuntimeMigrationIntentV1.toJson, get?_objectLiteral_cons, textIn, textOf, hstate, hspool,
      hfloor, hintent]

/-! ### What the journals begin with -/

theorem mem_suffixes {suffix : String} (h : suffix ∈ [".spool.json", ".runtime-reset.json",
      ".runtime-migration.json", ".schema-floor.json"]) :
    Protocol.ascii '/' ∉ jsString suffix ∧ 3 ≤ (jsString suffix).length := by
  simp only [List.mem_cons, List.not_mem_nil, or_false] at h
  rcases h with rfl | rfl | rfl | rfl <;> decide

/-- A path that an intent names, and the one that its reader compares it with. -/
theorem intentPath_sound (hpath : IsFilePath statePath) (suffix : String)
    (h : suffix ∈ [".spool.json", ".runtime-reset.json", ".runtime-migration.json",
      ".schema-floor.json"]) :
    resolve (statePath ++ jsString suffix) = resolve (resolve statePath ++ jsString suffix)
      ∧ isAbsoluteResolvedPath (some (.string (resolve (statePath ++ jsString suffix))))
        = true := by
  obtain ⟨hslash, hlong⟩ := mem_suffixes h
  exact ⟨(resolve_append hpath _ hslash hlong).1.symm,
    (isAbsoluteResolvedPath_resolve hpath _ hslash hlong).2⟩

theorem isAbsoluteResolvedPath_state (hpath : IsFilePath statePath) :
    isAbsoluteResolvedPath (some (.string (resolve statePath))) = true :=
  (isAbsoluteResolvedPath_resolve hpath (jsString ".spool.json") (by decide)
    (by decide)).1

section
variable {key : SpoolKeyId} {fromSchema toSchema : Int} {stateSource spoolSource : Option FileBytes}

theorem isResetIntent_resetIntentOf (hpath : IsFilePath statePath) (hhost : hostId ≠ [])
    (hdate : checks.isFiniteDate drawn.createdAt = true)
    (hschemas : (fromSchema = 1 ∧ toSchema = 2) ∨ (fromSchema = 2 ∧ toSchema = 3)) :
    IsResetIntent checks (resetIntentOf hash statePath hostId drawn key fromSchema toSchema
      stateSource spoolSource) where
  schemas := hschemas
  hostId := hhost
  epoch := drawn.isEpoch
  keyId := key.property
  paths := by
    simp only [List.mem_cons, List.not_mem_nil, or_false, forall_eq_or_imp, forall_eq]
    exact ⟨isAbsoluteResolvedPath_state hpath, (intentPath_sound hpath ".spool.json" (by decide)).2,
      (intentPath_sound hpath ".runtime-reset.json" (by decide)).2⟩
  hashes := by
    simp only [List.mem_cons, List.not_mem_nil, or_false, forall_eq_or_imp, forall_eq]
    exact ⟨isRuntimeHash_hashOptional hash _, isRuntimeHash_hashOptional hash _,
      isVerifier_isRuntimeHash (hash.isVerifier _), isVerifier_isRuntimeHash (hash.isVerifier _)⟩
  createdAt := ⟨createdAt_ne_nil drawn, hdate⟩

theorem assertResetIntentPaths_resetIntentOf (hpath : IsFilePath statePath) :
    assertResetIntentPaths (resetIntentOf hash statePath hostId drawn key fromSchema toSchema
      stateSource spoolSource) statePath = .ok () := by
  refine throwIf_eq_ok.mpr ?_
  have hspool := (intentPath_sound hpath ".spool.json" (by decide)).1
  have hintent := (intentPath_sound hpath ".runtime-reset.json" (by decide)).1
  simp [resetIntentOf, spoolPathForState, runtimeResetIntentPathForState, hspool, hintent]

theorem assertRuntimeResetTargets_resetIntentOf
    (hschemas : (fromSchema = 1 ∧ toSchema = 2) ∨ (fromSchema = 2 ∧ toSchema = 3)) :
    assertRuntimeResetTargets checks hash (resetIntentOf hash statePath hostId drawn key fromSchema
      toSchema stateSource spoolSource) = .ok () := by
  refine check_bind_eq_ok.mpr ⟨throwIf_eq_ok.mpr ?_, ?_⟩
  · simp [resetIntentOf, RuntimeResetIntentV1.stateTarget, RuntimeResetIntentV1.spoolTarget]
  · rcases hschemas with ⟨-, rfl⟩ | ⟨-, rfl⟩
    · refine throwIf_eq_ok.mpr ?_
      have hspool : isSpoolRecordForSchema (spoolFileForSchema 2 hostId drawn.epoch key.val) 2
          hostId (isEpochOf drawn.epoch) = true :=
        isSpoolRecordForSchema_empty (by decide) key.property
      have hstate : isObsoleteStateRecord checks (emptyStateForSchema 2 drawn.epoch) hostId
          = true := isObsoleteStateRecord_empty drawn.isEpoch
      simp [resetIntentOf, RuntimeResetIntentV1.stateTarget, RuntimeResetIntentV1.spoolTarget,
        hspool, hstate]
    · refine throwIf_eq_ok.mpr ?_
      have hspool : isSpoolRecordForSchema (spoolFileForSchema 3 hostId drawn.epoch key.val) 3
          hostId (isEpochOf drawn.epoch) = true :=
        isSpoolRecordForSchema_empty (by decide) key.property
      have hstate : isPriorStateRecordV3 checks (emptyStateForSchema 3 drawn.epoch) hostId = true :=
        isPriorStateRecordV3_empty drawn.isEpoch
      simp [resetIntentOf, RuntimeResetIntentV1.stateTarget, RuntimeResetIntentV1.spoolTarget,
        hspool, hstate]

end

section
variable {state spool : JsonObject} {stateBytes spoolBytes : FileBytes}

theorem isMigrationIntent_migrationIntentOf (hpath : IsFilePath statePath) (hhost : hostId ≠ [])
    (stateTarget spoolTarget : JsonObject) :
    IsMigrationIntent statePath (migrationIntentOf hash statePath hostId drawn stateTarget
      spoolTarget stateBytes spoolBytes) where
  hostId := hhost
  statePath := rfl
  spoolPath := (intentPath_sound hpath ".spool.json" (by decide)).1
  floorPath := (intentPath_sound hpath ".schema-floor.json" (by decide)).1
  intentPath := (intentPath_sound hpath ".runtime-migration.json" (by decide)).1
  paths := by
    simp only [List.mem_cons, List.not_mem_nil, or_false, forall_eq_or_imp, forall_eq]
    exact ⟨isAbsoluteResolvedPath_state hpath, (intentPath_sound hpath ".spool.json" (by decide)).2,
      (intentPath_sound hpath ".schema-floor.json" (by decide)).2,
      (intentPath_sound hpath ".runtime-migration.json" (by decide)).2⟩
  hashes := by
    have hverifier : ∀ bytes, isRuntimeHash (some (.string (hash.hashBytes bytes))) = true :=
      fun bytes => isVerifier_isRuntimeHash (hash.isVerifier bytes)
    simp only [List.mem_cons, List.not_mem_nil, or_false, forall_eq_or_imp, forall_eq]
    exact ⟨hverifier _, hverifier _, rfl, hverifier _, hverifier _, hverifier _⟩
  createdAt := drawn.isTimestamp

/-- The targets of a migration pass the checks of the intent that names them. -/
theorem assertMigrationIntentTargets_migrationIntentOf (hpath : IsFilePath statePath)
    (h : isPriorRuntimeV3 checks hostId state spool = true) :
    assertMigrationIntentTargets checks hash (migrationIntentOf hash statePath hostId drawn
      (migrationTarget state) (spoolMigrationTarget spool) stateBytes spoolBytes) = .ok () := by
  rw [isPriorRuntimeV3, Bool.and_eq_true] at h
  obtain ⟨-, -, hparsed⟩ := parseCurrentRuntime_migrated h.1 h.2
  obtain ⟨current, hstate, hparsed⟩ := bind_eq_ok_iff.mp hparsed
  obtain ⟨items, hspool, hparsed⟩ := bind_eq_ok_iff.mp hparsed
  obtain ⟨hrelated, hsame⟩ := check_bind_eq_ok.mp hparsed
  cases hsame
  refine bind_eq_ok_iff.mpr ⟨_, hstate, bind_eq_ok_iff.mpr ⟨_, hspool, bind_eq_ok_iff.mpr
    ⟨runtimeSchemaFloor statePath hostId, ?_, check_bind_eq_ok.mpr ⟨throwIf_eq_ok.mpr ?_,
      check_bind_eq_ok.mpr ⟨?_, throwIf_eq_ok.mpr ?_⟩⟩⟩⟩⟩
  · show parseRuntimeSchemaFloor _ (resolve statePath) hostId = _
    rw [parseRuntimeSchemaFloor_resolve hpath]
    exact parseRuntimeSchemaFloor_runtimeSchemaFloor
  · rw [(parseRuntimeSchemaFloor_eq_ok parseRuntimeSchemaFloor_runtimeSchemaFloor).2]
    rfl
  · have hitems : items = spoolMigrationTarget spool := by
      obtain ⟨-, hspool⟩ := check_bind_eq_ok.mp hspool
      cases hspool
      rfl
    rw [hitems] at hrelated ⊢
    exact hrelated
  · simp [migrationIntentOf]

end

end

end Ariava.Proofs.RuntimeTargets
