import Mathlib.Data.List.Forall2
import Ariava.StateStore.StateMigration

/-!
# `Ariava.Proofs.StateMigration`: every state of schema 3 is migrated

`migrateStateV3ToV4` checks its source with the predicate of schema 3 and its target with the one
of schema 4. `migrateStateV3ToV4_accepted`: what passes the first passes the second, so the
migration never throws on a state that it recognizes, and it can be parsed again.

`Migrated` says what the target keeps. A Session keeps every field but the three of
`droppedSessionKeys`: its last event, which the migration drops with all events, and two fields
that schema 4 does not have. So a Session is not kept as it was
(`not_migrationPreservesSessions`).

The proof follows the target: `get?_objectLiteral_cons` reads it field by field. The shape of
schema 4 asks of each field what schema 3 asked of the field it comes from, and the loops over the
dropped records have nothing to do. What is left are the Sessions and the drivers.
-/

set_option autoImplicit false

namespace Ariava.Proofs.StateMigration

open Ariava.Protocol (JsonValue JsonObject JsonNumber JsString jsString jsString_injective Thrown
  throwIf throwIf_eq_ok checkAll checkAll_eq_ok check_bind_eq_ok bind_eq_ok_iff)
open Ariava.StateStore.RawState

/-! ### Object literals -/

/-- A read of an object literal. -/
theorem get?_objectLiteral_cons (name : String) (value : JsValue)
    (fields : List (String × JsValue)) (key : String) :
    (objectLiteral ((name, value) :: fields)).get? key
      = if name = key then value.orElse fun _ => (objectLiteral fields).get? key
        else (objectLiteral fields).get? key := by
  unfold objectLiteral
  cases value with
  | none =>
    rw [List.filterMap_cons]
    simp
  | some v =>
    rw [List.filterMap_cons]
    simp only [Option.map_some, JsonObject.get?, List.find?_cons, Option.orElse_some]
    by_cases hname : name = key
    · subst hname
      simp
    · have hne : jsString name ≠ jsString key := fun h => hname (jsString_injective h)
      simp [hname, hne]

@[simp] theorem get?_objectLiteral_nil (key : String) :
    (objectLiteral []).get? key = none := rfl

/-- A copy of some fields of a record. -/
theorem get?_copy (record : JsonObject) (keys : List String) (key : String) :
    (objectLiteral (keys.map fun name => (name, record.get? name))).get? key
      = if key ∈ keys then record.get? key else none := by
  induction keys with
  | nil => rfl
  | cons name rest ih =>
    rw [List.map_cons, get?_objectLiteral_cons, ih]
    by_cases hname : name = key
    · subst hname
      by_cases hrest : name ∈ rest
      · simp [hrest]
      · cases record.get? name <;> simp [hrest]
    · have hne : key ≠ name := fun h => hname h.symm
      simp [hname, hne]

/-- The keys of an object literal are those that it writes. -/
theorem hasOnlyKeys_objectLiteral {fields : List (String × JsValue)} {allowed : List String}
    (h : ∀ field ∈ fields, field.1 ∈ allowed) :
    hasOnlyKeys (objectLiteral fields) allowed = true := by
  unfold hasOnlyKeys objectLiteral
  rw [List.all_eq_true]
  intro property hproperty
  obtain ⟨field, hfield, hvalue⟩ := List.mem_filterMap.mp hproperty
  obtain ⟨value, -, rfl⟩ := Option.map_eq_some_iff.mp hvalue
  exact decide_eq_true (List.mem_map_of_mem (h field hfield))

/-! ### Sessions -/

/-- What a record with checked keys is. -/
theorem isRecordWith_eq_true {required optional : List String} {check : JsonObject → Bool}
    {value : JsValue} :
    isRecordWith required optional check value = true ↔
      ∃ record, recordOf value = some record
        ∧ hasExactOptionalKeys record required optional = true ∧ check record = true := by
  simp [isRecordWith, Option.any_eq_true]

/-- The three fields of a Session that the migration drops. -/
def droppedSessionKeys : List String := ["lastEventId", "hbaseSessionKey", "actionablePrompt"]

/-- A field of a migrated Session. -/
theorem get?_migratedSession (session : JsonObject) (key : String) :
    (migratedSession session).get? key
      = if key ∈ migratedSessionKeys then session.get? key else none :=
  get?_copy session migratedSessionKeys key

theorem get?_migratedSession_copied {session : JsonObject} (key : String)
    (h : key ∈ migratedSessionKeys) : (migratedSession session).get? key = session.get? key := by
  rw [get?_migratedSession, if_pos h]

@[simp] theorem recordIn_object (record : JsonObject) : recordIn (.object record) = record := rfl

/-- A key of schema 3 is one that the migration copies, or one that it drops. -/
theorem mem_migratedSessionKeys {key : String}
    (h : key ∈ sessionRequiredKeys ++ obsoleteSessionOptionalKeys)
    (hdropped : key ∉ droppedSessionKeys) : key ∈ migratedSessionKeys := by
  simp only [sessionRequiredKeys, obsoleteSessionOptionalKeys, sessionOptionalKeys,
    droppedSessionKeys, migratedSessionKeys, List.cons_append, List.nil_append, List.mem_cons,
    List.not_mem_nil, or_false] at h hdropped ⊢
  tauto

/-- A record has no other field than those of its keys. -/
theorem get?_eq_none_of_hasOnlyKeys {record : JsonObject} {allowed : List String} {key : String}
    (h : hasOnlyKeys record allowed = true) (hkey : key ∉ allowed) : record.get? key = none := by
  unfold JsonObject.get?
  rw [Option.map_eq_none_iff, List.find?_eq_none]
  intro property hproperty
  have hmem := of_decide_eq_true (List.all_eq_true.mp h property hproperty)
  obtain ⟨name, hname, heq⟩ := List.mem_map.mp hmem
  simp only [decide_eq_true_eq]
  intro hsame
  exact hkey (jsString_injective (heq.trans hsame) ▸ hname)

/-- Every field of a Session of schema 3 is kept, but for the dropped ones. -/
theorem get?_migratedSession_of_kept {session : JsonObject} {key : String}
    (hkeys : hasExactOptionalKeys session sessionRequiredKeys obsoleteSessionOptionalKeys = true)
    (hkept : key ∉ droppedSessionKeys) :
    (migratedSession session).get? key = session.get? key := by
  rw [get?_migratedSession]
  by_cases hmem : key ∈ migratedSessionKeys
  · rw [if_pos hmem]
  · rw [if_neg hmem]
    rw [hasExactOptionalKeys, Bool.and_eq_true] at hkeys
    refine (get?_eq_none_of_hasOnlyKeys hkeys.2 fun hknown => ?_).symm
    exact hmem (mem_migratedSessionKeys hknown hkept)

/-- A Session of schema 3 becomes one of schema 4. -/
theorem isCurrentSession_migrated {session : JsonValue}
    (h : isObsoleteSession (some session) = true) :
    isCurrentSession (some (.object (migratedSession (recordIn session)))) = true := by
  unfold isObsoleteSession isSessionForKeys at h
  obtain ⟨record, hrecord, hkeys, hfields⟩ := isRecordWith_eq_true.mp h
  have hin : recordIn session = record := by rw [recordIn, hrecord]; rfl
  rw [hin]
  simp only [Bool.and_eq_true] at hfields
  obtain ⟨⟨htexts, hstatus⟩, hoptional⟩ := hfields
  have hkept : ∀ key, key ∉ droppedSessionKeys →
      (migratedSession record).get? key = record.get? key :=
    fun key hkey => get?_migratedSession_of_kept hkeys hkey
  have hrequiredKept : ∀ key ∈ sessionRequiredKeys, key ∉ droppedSessionKeys := by decide
  unfold isCurrentSession isSessionForKeys
  refine isRecordWith_eq_true.mpr ⟨migratedSession record, rfl, ?_, ?_⟩
  · rw [hasExactOptionalKeys, Bool.and_eq_true] at hkeys ⊢
    refine ⟨?_, hasOnlyKeys_objectLiteral ?_⟩
    · rw [List.all_eq_true] at hkeys ⊢
      intro key hkey
      rw [JsonObject.hasOwn, hkept key (hrequiredKept key hkey)]
      exact hkeys.1 key hkey
    · intro field hfield
      obtain ⟨key, hkey, rfl⟩ := List.mem_map.mp hfield
      exact (by decide : ∀ key ∈ migratedSessionKeys,
        key ∈ sessionRequiredKeys ++ sessionOptionalKeys) key hkey
  · simp only [Bool.and_eq_true]
    refine ⟨⟨?_, ?_⟩, ?_⟩
    · unfold areNonEmptyStrings at htexts ⊢
      rw [List.all_eq_true] at htexts ⊢
      intro key hkey
      rw [hkept key (hrequiredKept key (List.mem_of_mem_filter hkey))]
      exact htexts key hkey
    · rw [hkept "status" (by decide)]
      exact hstatus
    · rw [List.all_eq_true] at hoptional ⊢
      intro key hkey
      unfold isOptionalField
      by_cases hdropped : key ∈ droppedSessionKeys
      · -- of the optional keys of schema 4 only the last event is dropped
        have hnone : (migratedSession record).get? key = none := by
          rw [get?_migratedSession, if_neg]
          exact (by decide : ∀ key ∈ droppedSessionKeys, key ∉ migratedSessionKeys) key hdropped
        simp [optionally, hnone]
      · rw [hkept key hdropped]
        exact hoptional key (List.mem_append_left _ hkey)

/-! ### The fields of the target -/

section
variable {checks : CodecChecks} {value : JsonObject} {hostId : JsString}

/-- The fields that the migration copies. -/
def copiedKeys : List String :=
  ["runtimeResetEpoch", "host", "reconciledDrivers", "sessionRevisions", "recipientSetVersion",
    "runtimeHealth"]

/-- The Sessions of the target. -/
def migratedSessions (sessions : JsonObject) : JsonObject :=
  sessions.map fun entry => (entry.1, .object (migratedSession (recordIn entry.2)))

/-- The drivers of the target. -/
def migratedDrivers (drivers : JsonObject) : JsonObject :=
  drivers.map fun entry => (entry.1, migratedDriver entry.2)

/-- The publication of the target. -/
def migratedSnapshot (allocated : Int) : JsonObject :=
  objectLiteral [("version", some (jsonInteger 1)),
    ("lastAllocatedRevision", some (jsonInteger allocated)),
    ("lastAcceptedRevision", some (jsonInteger 0))]

/-- The revision from which the target goes on: the greater one of the two that it finds. -/
def migratedRevision (value : JsonObject) : Int :=
  let snapshot := entriesOf (value.get? "currentSessionsSnapshot")
  max (integerIn snapshot "lastAllocatedRevision") (integerIn snapshot "lastAcceptedRevision")

theorem get?_copied (key : String) (h : key ∈ copiedKeys) :
    (migrationTarget value).get? key = value.get? key := by
  simp only [copiedKeys, List.mem_cons, List.not_mem_nil, or_false] at h
  rcases h with rfl | rfl | rfl | rfl | rfl | rfl <;>
    simp [migrationTarget, get?_objectLiteral_cons]

theorem get?_schemaVersion :
    (migrationTarget value).get? "schemaVersion" = some (jsonInteger 4) := by
  simp [migrationTarget, get?_objectLiteral_cons]

theorem get?_sessions : (migrationTarget value).get? "sessions"
    = some (.object (migratedSessions (entriesOf (value.get? "sessions")))) := by
  simp [migrationTarget, get?_objectLiteral_cons, migratedSessions]

theorem get?_sessionDrivers : (migrationTarget value).get? "sessionDrivers"
    = some (.object (migratedDrivers (entriesOf (value.get? "sessionDrivers")))) := by
  simp [migrationTarget, get?_objectLiteral_cons, migratedDrivers]

theorem get?_recentEvents : (migrationTarget value).get? "recentEvents" = some (.array []) := by
  simp [migrationTarget, get?_objectLiteral_cons]

theorem get?_emptied (key : String) (h : key ∈ ["pendingHandles", "commandExecutions"]) :
    (migrationTarget value).get? key = some (.object []) := by
  simp only [List.mem_cons, List.not_mem_nil, or_false] at h
  rcases h with rfl | rfl <;> simp [migrationTarget, get?_objectLiteral_cons]

theorem get?_snapshot : (migrationTarget value).get? "currentSessionsSnapshot"
    = some (.object (migratedSnapshot (migratedRevision value))) := by
  simp [migrationTarget, get?_objectLiteral_cons, migratedSnapshot, migratedRevision]

/-- The optional fields that are about the dropped records. -/
theorem get?_dropped (key : String) (h : key ∈ ["eventUploadCompletions",
      "producerEventReservations", "producerEventCheckpoints", "terminalCancellations"]) :
    (migrationTarget value).get? key = none := by
  simp only [List.mem_cons, List.not_mem_nil, or_false] at h
  rcases h with rfl | rfl | rfl | rfl <;> simp [migrationTarget, get?_objectLiteral_cons]

/-! ### The shape of the target -/

/-- A safe integer is read back. -/
theorem safeIntegerOf_jsonInteger {number : Int} (h : number.natAbs ≤ Protocol.maxSafeInteger) :
    safeIntegerOf (some (jsonInteger number)) = some number := by
  simp [safeIntegerOf, jsonInteger, JsonNumber.isSafeInteger, h]

theorem safeIntegerOf_bounded {read : JsValue} {number : Int}
    (h : safeIntegerOf read = some number) : number.natAbs ≤ Protocol.maxSafeInteger := by
  unfold safeIntegerOf at h
  split at h
  · split at h
    · next hsafe =>
      cases h
      rw [JsonNumber.isSafeInteger, Bool.and_eq_true, decide_eq_true_eq, decide_eq_true_eq] at hsafe
      exact hsafe.2
    · cases h
  · cases h

/-- The two revisions of a publication of schema 3. -/
theorem isObsoleteSnapshot_revisions (h : isObsoleteSnapshot (value.get? "currentSessionsSnapshot")
    = true) :
    0 ≤ migratedRevision value ∧ (migratedRevision value).natAbs ≤ Protocol.maxSafeInteger := by
  unfold isObsoleteSnapshot at h
  obtain ⟨snapshot, hsnapshot, -, hfields⟩ := isRecordWith_eq_true.mp h
  simp only [Bool.and_eq_true] at hfields
  obtain ⟨⟨⟨⟨⟨-, hallocated⟩, haccepted⟩, -⟩, -⟩, -⟩ := hfields
  unfold isNonNegativeSafeInteger at hallocated haccepted
  rw [Option.any_eq_true] at hallocated haccepted
  obtain ⟨allocated, hread, hsign⟩ := hallocated
  obtain ⟨accepted, hread', hsign'⟩ := haccepted
  have hsign := of_decide_eq_true hsign
  have hsign' := of_decide_eq_true hsign'
  have hbound := safeIntegerOf_bounded hread
  have hbound' := safeIntegerOf_bounded hread'
  have hrevision : migratedRevision value = max allocated accepted := by
    simp [migratedRevision, entriesOf, hsnapshot, integerIn, hread, hread']
  rw [hrevision]
  omega

theorem isCurrentSnapshot_migrated {revision : Int} (hsign : 0 ≤ revision)
    (hbound : revision.natAbs ≤ Protocol.maxSafeInteger) :
    isCurrentSnapshot (some (.object (migratedSnapshot revision))) = true := by
  have hone : safeIntegerOf (some (jsonInteger 1)) = some 1 := by decide
  have hzero : safeIntegerOf (some (jsonInteger 0)) = some 0 := by decide
  have hrevision := safeIntegerOf_jsonInteger hbound
  rw [isCurrentSnapshot, Bool.and_eq_true]
  constructor
  · unfold isObsoleteSnapshot
    refine isRecordWith_eq_true.mpr ⟨migratedSnapshot revision, rfl, ?_, ?_⟩
    · rw [hasExactOptionalKeys, Bool.and_eq_true]
      constructor
      · simp [JsonObject.hasOwn, migratedSnapshot, get?_objectLiteral_cons]
      · exact hasOnlyKeys_objectLiteral (by simp)
    · simp [migratedSnapshot, get?_objectLiteral_cons, isNumber, isNonNegativeSafeInteger,
        optionally, hone, hzero, hrevision, hsign]
  · simp [recordOf, migratedSnapshot, get?_objectLiteral_cons, hzero, hrevision, hsign]

/-- A map whose values are mapped keeps a check that the values keep. -/
theorem isValueMap_map {before after : JsValue → Bool} {read : JsValue}
    {f : JsonValue → JsonValue} (hread : isValueMap before read = true)
    (h : ∀ item, before (some item) = true → after (some (f item)) = true) :
    isValueMap after (some (.object ((entriesOf read).map fun entry => (entry.1, f entry.2))))
      = true := by
  unfold isValueMap at hread ⊢
  rw [Option.any_eq_true] at hread
  obtain ⟨map, hmap, hall⟩ := hread
  rw [entriesOf, hmap]
  simp only [recordOf, Option.getD_some, Option.any_some, List.all_map, List.all_eq_true] at hall ⊢
  exact fun entry hentry => h entry.2 (hall entry hentry)

theorem isStringMap_migratedDrivers {read : JsValue} (h : isStringMap read = true) :
    isStringMap (some (.object (migratedDrivers (entriesOf read)))) = true := by
  unfold isStringMap at h ⊢
  rw [Option.any_eq_true] at h
  obtain ⟨drivers, hdrivers, hall⟩ := h
  rw [entriesOf, hdrivers]
  simp only [recordOf, migratedDrivers, Option.getD_some, Option.any_some, List.all_map,
    List.all_eq_true, Function.comp_apply, Bool.and_eq_true] at hall ⊢
  intro entry hentry
  obtain ⟨hkey, hdriver⟩ := hall entry hentry
  refine ⟨hkey, ?_⟩
  unfold migratedDriver
  split
  · decide +kernel
  · exact hdriver

/-- The target has the keys of schema 4. -/
theorem hasKeys_target
    (h : hasExactOptionalKeys value priorV3StateRequiredKeys currentStateOptionalKeys = true) :
    hasExactOptionalKeys (migrationTarget value) currentStateRequiredKeys currentStateOptionalKeys
      = true := by
  rw [hasExactOptionalKeys, Bool.and_eq_true, List.all_eq_true] at h ⊢
  obtain ⟨hrequired, -⟩ := h
  refine ⟨fun key hkey => ?_, hasOnlyKeys_objectLiteral ?_⟩
  · unfold JsonObject.hasOwn
    by_cases hcopied : key ∈ copiedKeys
    · rw [get?_copied key hcopied]
      exact hrequired key ((by decide : ∀ key ∈ currentStateRequiredKeys, key ∈ copiedKeys →
        key ∈ priorV3StateRequiredKeys) key hkey hcopied)
    · simp only [currentStateRequiredKeys, copiedKeys, List.mem_cons, List.not_mem_nil,
        or_false] at hkey hcopied
      rcases hkey with rfl | rfl | rfl | rfl | rfl | rfl | rfl | rfl | rfl | rfl | rfl <;>
        simp [migrationTarget, get?_objectLiteral_cons] at hcopied ⊢
  · simp [currentStateRequiredKeys, currentStateOptionalKeys]

/-- What passes the shape of schema 3 passes the shape of schema 4 after the migration. -/
theorem isCurrentStateRecord_target
    (hkeys : hasExactOptionalKeys value priorV3StateRequiredKeys currentStateOptionalKeys = true)
    (hcommon : areCommonFields checks 3 value = true)
    (hsessions : isValueMap isObsoleteSession (value.get? "sessions") = true)
    (hsnapshot : isObsoleteSnapshot (value.get? "currentSessionsSnapshot") = true) :
    isCurrentStateRecord checks (migrationTarget value) = true := by
  obtain ⟨hsign, hbound⟩ := isObsoleteSnapshot_revisions hsnapshot
  rw [areCommonFields, areOptionalFields] at hcommon
  simp only [Bool.and_eq_true] at hcommon
  obtain ⟨⟨⟨⟨⟨⟨⟨-, hepoch⟩, hhost⟩, hdrivers⟩, hreconciled⟩, hrevisions⟩, -⟩, hrest⟩ := hcommon
  obtain ⟨⟨⟨⟨⟨hrecipients, -⟩, -⟩, -⟩, -⟩, hhealth⟩ := hrest
  have hversion : isNumber 4 (some (jsonInteger 4)) = true := by decide
  have hempty : ∀ check, isValueMap check (some (.object [])) = true := fun check => rfl
  have habsent : ∀ check, optionally none check = true := fun check => rfl
  have htarget := isStringMap_migratedDrivers hdrivers
  have hcurrent := isValueMap_map (f := fun item => .object (migratedSession (recordIn item)))
    hsessions fun item => isCurrentSession_migrated
  have hpublication := isCurrentSnapshot_migrated hsign hbound
  unfold isCurrentStateRecord isStateRecordOfShape areCommonFields areOptionalFields
  rw [hasKeys_target hkeys, get?_schemaVersion, get?_sessions, get?_sessionDrivers,
    get?_recentEvents, get?_snapshot, get?_emptied "pendingHandles" (by decide),
    get?_emptied "commandExecutions" (by decide), get?_copied "runtimeResetEpoch" (by decide),
    get?_copied "host" (by decide), get?_copied "reconciledDrivers" (by decide),
    get?_copied "sessionRevisions" (by decide), get?_copied "recipientSetVersion" (by decide),
    get?_copied "runtimeHealth" (by decide), get?_dropped "eventUploadCompletions" (by decide),
    get?_dropped "producerEventReservations" (by decide),
    get?_dropped "producerEventCheckpoints" (by decide),
    get?_dropped "terminalCancellations" (by decide)]
  simp only [hversion, hepoch, hhost, htarget, hreconciled, hrevisions, hempty, hrecipients,
    habsent, hhealth, hpublication, Bool.and_true, Bool.true_and]
  rw [Bool.and_eq_true]
  exact ⟨hcurrent, rfl⟩

/-! ### The relationships of the target -/

theorem mem_migratedSessions {sessions : JsonObject} {entry : JsString × JsonValue}
    (h : entry ∈ migratedSessions sessions) :
    ∃ session, (entry.1, session) ∈ sessions
      ∧ entry.2 = .object (migratedSession (recordIn session)) := by
  obtain ⟨old, hold, rfl⟩ := List.mem_map.mp h
  exact ⟨old.2, hold, rfl⟩

/-- A read of a migrated Session. -/
theorem readProperty_migratedSessions (sessions : JsonObject) (key : JsString) :
    readProperty (migratedSessions sessions) key = match readProperty sessions key with
      | .own session => .own (.object (migratedSession (recordIn session)))
      | .inherited => .inherited
      | .missing => .missing := by
  unfold readProperty migratedSessions
  rw [List.find?_map]
  have hsame : (fun property : JsString × JsonValue => decide (property.1 = key))
      ∘ (fun entry : JsString × JsonValue =>
        (entry.1, JsonValue.object (migratedSession (recordIn entry.2))))
      = fun property => decide (property.1 = key) := rfl
  rw [hsame]
  cases List.find? (fun property : JsString × JsonValue => decide (property.1 = key)) sessions with
  | some property => rfl
  | none =>
    rw [Option.map_none]
    dsimp only
    split <;> rfl

/-- A Session that is found was checked to be of this Host and at its id. -/
theorem sessionId_of_readProperty {sessions : JsonObject} {message : String} {key : JsString}
    {session : JsonValue} (h : assertSessions sessions hostId message = .ok ())
    (hread : readProperty sessions key = .own session) :
    textOf ((recordIn session).get? "sessionId") = some key := by
  unfold readProperty at hread
  split at hread
  · next property hfind =>
    cases hread
    have hkey : property.1 = key := by simpa using List.find?_some hfind
    have hchecked := checkAll_eq_ok.mp h property (List.mem_of_find?_eq_some hfind)
    rw [throwIf_eq_ok, Bool.or_eq_false_iff, decide_eq_false_iff_not, not_not, hkey] at hchecked
    exact hchecked.1
  · split at hread <;> cases hread

theorem assertSessions_migrated {sessions : JsonObject} {message : String} (message' : String)
    (h : assertSessions sessions hostId message = .ok ()) :
    assertSessions (migratedSessions sessions) hostId message' = .ok () := by
  refine checkAll_eq_ok.mpr fun entry hentry => ?_
  obtain ⟨session, hsession, hmigrated⟩ := mem_migratedSessions hentry
  have hchecked := throwIf_eq_ok.mp (checkAll_eq_ok.mp h _ hsession)
  rw [throwIf_eq_ok, hmigrated]
  simp only [recordIn_object, isOfAnotherHost, get?_migratedSession_copied "sessionId" (by decide),
    get?_migratedSession_copied "hostId" (by decide)]
  exact hchecked

theorem isNonEmptyString_driver {read : JsValue} (h : isStringMap read = true) :
    ∀ entry ∈ entriesOf read, isNonEmptyString (some entry.2) = true := by
  unfold isStringMap at h
  rw [Option.any_eq_true] at h
  obtain ⟨drivers, hdrivers, hall⟩ := h
  intro entry hentry
  rw [entriesOf, hdrivers] at hentry
  have hchecked := List.all_eq_true.mp hall entry hentry
  rw [Bool.and_eq_true] at hchecked
  exact hchecked.2

/-- A driver of schema 3 is the provider of its Session. Schema 4 asks the same of it, unless it is
the agent adapter. -/
theorem assertCurrentDrivers_migrated {sessions drivers : JsonObject} {message : String}
    (htexts : ∀ entry ∈ drivers, isNonEmptyString (some entry.2) = true)
    (hsessions : assertSessions sessions hostId message = .ok ())
    (h : assertPriorDrivers sessions drivers = .ok ()) :
    assertCurrentDrivers (migratedSessions sessions) (migratedDrivers drivers) = .ok () := by
  refine checkAll_eq_ok.mpr fun entry hentry => ?_
  obtain ⟨old, hold, rfl⟩ := List.mem_map.mp hentry
  have hchecked := throwIf_eq_ok.mp (checkAll_eq_ok.mp h old hold)
  rw [Bool.or_eq_false_iff, Bool.not_eq_false'] at hchecked
  obtain ⟨hfound, hprovider⟩ := hchecked
  have hprovider : textOf ((readProperty sessions old.1).field "provider")
      = textOf (some old.2) := by simpa using hprovider
  have hmigrated := readProperty_migratedSessions sessions old.1
  rw [throwIf_eq_ok]
  cases hread : readProperty sessions old.1 with
  | missing =>
    rw [hread] at hfound
    cases hfound
  | inherited =>
    -- an inherited value has no provider, but the driver is a text
    rw [hread] at hprovider
    have htext := htexts old hold
    rw [isNonEmptyString, ← hprovider] at htext
    cases htext
  | own session =>
    rw [hread] at hprovider hmigrated
    have hid := sessionId_of_readProperty hsessions hread
    have hfield : ∀ key ∈ migratedSessionKeys,
        (readProperty (migratedSessions sessions) old.1).field key
          = (recordIn session).get? key := by
      intro key hkey
      rw [hmigrated]
      exact get?_migratedSession_copied key hkey
    have hprovider : textOf ((recordIn session).get? "provider") = textOf (some old.2) := by
      rw [← hprovider]
      cases session <;> rfl
    simp only [hfield "sessionId" (by decide), hfield "provider" (by decide), hid, hprovider]
    rw [hmigrated]
    by_cases hpi : isText "pi" (some old.2) = true
    · rw [migratedDriver, if_pos hpi]
      have hadapter : isText "agent-adapter" (some (.string (jsString "agent-adapter"))) = true :=
        decide_eq_true rfl
      simp [PropertyRead.isFound, hadapter]
    · rw [migratedDriver, if_neg hpi]
      simp [PropertyRead.isFound]

/-- The publication of the target has accepted nothing. -/
theorem isPublicationBound_target : isPublicationBound (migrationTarget value) = true := by
  have hzero : safeIntegerOf (some (jsonInteger 0)) = some 0 := by decide
  unfold isPublicationBound
  rw [get?_snapshot]
  simp [entriesOf, recordOf, migratedSnapshot, integerIn, get?_objectLiteral_cons, hzero]

/-- What the relationships of schema 3 say of the Host, the Sessions, the drivers and the
revisions. -/
theorem assertPriorStateV3Relationships_ok
    (h : assertPriorStateV3Relationships value hostId = .ok ()) :
    ((recordOf (value.get? "host")).any fun host => isOfAnotherHost host hostId) = false
      ∧ assertSessions (entriesOf (value.get? "sessions")) hostId "prior Session binding is invalid"
        = .ok ()
      ∧ assertPriorDrivers (entriesOf (value.get? "sessions"))
        (entriesOf (value.get? "sessionDrivers")) = .ok ()
      ∧ assertRevisions (entriesOf (value.get? "sessionRevisions")) "prior revision is invalid"
        = .ok () := by
  unfold assertPriorStateV3Relationships at h
  obtain ⟨hhost, h⟩ := check_bind_eq_ok.mp h
  obtain ⟨hsessions, h⟩ := check_bind_eq_ok.mp h
  obtain ⟨hdrivers, h⟩ := check_bind_eq_ok.mp h
  obtain ⟨events, -, h⟩ := bind_eq_ok_iff.mp h
  obtain ⟨hrevisions, -⟩ := check_bind_eq_ok.mp h
  exact ⟨throwIf_eq_ok.mp hhost, hsessions, hdrivers, hrevisions⟩

/-- What passes the relationships of schema 3 passes those of schema 4 after the migration. -/
theorem assertCurrentStateRelationships_target (hdrivers : isStringMap (value.get? "sessionDrivers")
      = true) (h : assertPriorStateV3Relationships value hostId = .ok ()) :
    assertCurrentStateRelationships checks (migrationTarget value) hostId = .ok () := by
  obtain ⟨hhost, hsessions, hprior, hrevisions⟩ := assertPriorStateV3Relationships_ok h
  have hcurrent := assertCurrentDrivers_migrated (isNonEmptyString_driver hdrivers) hsessions hprior
  have hmessage : ∀ message, assertRevisions (entriesOf (value.get? "sessionRevisions")) message
      = .ok () := by
    intro message
    refine checkAll_eq_ok.mpr fun entry hentry => ?_
    exact throwIf_eq_ok.mpr (throwIf_eq_ok.mp (checkAll_eq_ok.mp hrevisions entry hentry))
  unfold assertCurrentStateRelationships
  rw [get?_sessions, get?_sessionDrivers, get?_recentEvents,
    get?_emptied "pendingHandles" (by decide), get?_emptied "commandExecutions" (by decide), get?_copied "sessionRevisions" (by decide),
    get?_dropped "eventUploadCompletions" (by decide),
    get?_dropped "producerEventReservations" (by decide),
    get?_dropped "producerEventCheckpoints" (by decide),
    get?_dropped "terminalCancellations" (by decide), isPublicationBound_target]
  refine check_bind_eq_ok.mpr ⟨?_, ?_⟩
  · unfold assertHost
    rw [get?_copied "host" (by decide)]
    exact throwIf_eq_ok.mpr hhost
  refine check_bind_eq_ok.mpr ⟨assertSessions_migrated _ hsessions, ?_⟩
  refine check_bind_eq_ok.mpr ⟨hcurrent, ?_⟩
  refine bind_eq_ok_iff.mpr ⟨[], rfl, ?_⟩
  refine check_bind_eq_ok.mpr ⟨hmessage _, ?_⟩
  -- the loops over the dropped records have nothing to do
  rfl

/-! ### The migration -/

/-- What the target of a migration keeps of its source. -/
structure Migrated (value state : JsonObject) : Prop where
  /-- The Sessions are the same, but for the dropped fields. -/
  sessions : List.Forall₂ (fun old new => new.1 = old.1 ∧ ∃ record : JsonObject,
      new.2 = .object record ∧
        ∀ key, key ∉ droppedSessionKeys → record.get? key = (recordIn old.2).get? key)
    (entriesOf (value.get? "sessions")) (entriesOf (state.get? "sessions"))
  /-- The driver `pi` is now the agent adapter, the others are the same. -/
  drivers : List.Forall₂ (fun old new => new.1 = old.1 ∧ new.2 =
      if isText "pi" (some old.2) then .string (jsString "agent-adapter") else old.2)
    (entriesOf (value.get? "sessionDrivers")) (entriesOf (state.get? "sessionDrivers"))
  sessionRevisions : state.get? "sessionRevisions" = value.get? "sessionRevisions"
  runtimeResetEpoch : state.get? "runtimeResetEpoch" = value.get? "runtimeResetEpoch"
  recipientSetVersion : state.get? "recipientSetVersion" = value.get? "recipientSetVersion"
  /-- The next revision is after all revisions that were allocated or accepted. -/
  lastAllocatedRevision : ∃ allocated,
    safeIntegerOf ((entriesOf (state.get? "currentSessionsSnapshot")).get? "lastAllocatedRevision")
        = some allocated
      ∧ ∀ key ∈ ["lastAllocatedRevision", "lastAcceptedRevision"],
        ∀ revision, safeIntegerOf
          ((entriesOf (value.get? "currentSessionsSnapshot")).get? key) = some revision →
          revision ≤ allocated

theorem migrated_target (hsessions : isValueMap isObsoleteSession (value.get? "sessions") = true)
    (hsnapshot : isObsoleteSnapshot (value.get? "currentSessionsSnapshot") = true) :
    Migrated value (migrationTarget value) := by
  obtain ⟨-, hbound⟩ := isObsoleteSnapshot_revisions hsnapshot
  constructor
  · rw [get?_sessions]
    show List.Forall₂ _ _ (migratedSessions _)
    unfold migratedSessions
    rw [List.forall₂_map_right_iff, List.forall₂_same]
    intro entry hentry
    refine ⟨rfl, migratedSession (recordIn entry.2), rfl, fun key hkey => ?_⟩
    unfold isValueMap at hsessions
    rw [Option.any_eq_true] at hsessions
    obtain ⟨sessions, hread, hall⟩ := hsessions
    rw [entriesOf, hread] at hentry
    have hsession := List.all_eq_true.mp hall entry hentry
    unfold isObsoleteSession isSessionForKeys at hsession
    obtain ⟨record, hrecord, hkeys, -⟩ := isRecordWith_eq_true.mp hsession
    rw [recordIn, hrecord]
    exact get?_migratedSession_of_kept hkeys hkey
  · rw [get?_sessionDrivers]
    show List.Forall₂ _ _ (migratedDrivers _)
    unfold migratedDrivers
    rw [List.forall₂_map_right_iff, List.forall₂_same]
    exact fun entry _ => ⟨rfl, rfl⟩
  · exact get?_copied "sessionRevisions" (by decide)
  · exact get?_copied "runtimeResetEpoch" (by decide)
  · exact get?_copied "recipientSetVersion" (by decide)
  · refine ⟨migratedRevision value, ?_, ?_⟩
    · rw [get?_snapshot]
      simp [entriesOf, recordOf, migratedSnapshot, get?_objectLiteral_cons,
        safeIntegerOf_jsonInteger hbound]
    · intro key hkey revision hrevision
      simp only [List.mem_cons, List.not_mem_nil, or_false] at hkey
      rcases hkey with rfl | rfl
      · simp [migratedRevision, integerIn, hrevision]
      · simp [migratedRevision, integerIn, hrevision]

/-- Every state of schema 3 is migrated, and the result is parsed again. -/
theorem migrateStateV3ToV4_accepted (h : isPriorStateRecordV3 checks value hostId = true) :
    ∃ state, migrateStateV3ToV4 checks value hostId = .ok state
      ∧ parseCurrentState checks state hostId = .ok state ∧ Migrated value state := by
  have hprior := h
  unfold isPriorStateRecordV3 at hprior
  simp only [Bool.and_eq_true] at hprior
  obtain ⟨⟨⟨⟨⟨⟨⟨hkeys, hcommon⟩, hsessions⟩, -⟩, -⟩, -⟩, hsnapshot⟩, hrelated⟩ := hprior
  have hdrivers : isStringMap (value.get? "sessionDrivers") = true := by
    unfold areCommonFields at hcommon
    simp only [Bool.and_eq_true] at hcommon
    exact hcommon.1.1.1.1.2
  have hrelationships : assertPriorStateV3Relationships value hostId = .ok () := by
    cases hresult : assertPriorStateV3Relationships value hostId with
    | ok _ => rfl
    | error thrown =>
      rw [hresult] at hrelated
      cases hrelated
  have hparsed : parseCurrentState checks (migrationTarget value) hostId
      = .ok (migrationTarget value) := by
    have hshape := isCurrentStateRecord_target hkeys hcommon hsessions hsnapshot
    refine check_bind_eq_ok.mpr ⟨throwIf_eq_ok.mpr (by rw [hshape]; rfl), ?_⟩
    exact check_bind_eq_ok.mpr ⟨assertCurrentStateRelationships_target hdrivers hrelationships, rfl⟩
  refine ⟨migrationTarget value, ?_, hparsed, migrated_target hsessions hsnapshot⟩
  exact check_bind_eq_ok.mpr ⟨throwIf_eq_ok.mpr (by rw [h]; rfl), hparsed⟩

theorem migrateStateV3ToV4_eq_ok {state : JsonObject}
    (h : migrateStateV3ToV4 checks value hostId = .ok state) : state = migrationTarget value := by
  obtain ⟨-, hparsed⟩ := check_bind_eq_ok.mp h
  obtain ⟨-, hparsed⟩ := check_bind_eq_ok.mp hparsed
  obtain ⟨-, hparsed⟩ := check_bind_eq_ok.mp hparsed
  cases hparsed
  rfl

end

/-! ### A Session with a last event -/

/-- The Sessions of two states are the same, with all their fields. -/
def SessionsPreserved (value state : JsonObject) : Prop :=
  List.Forall₂ (fun old new => new.1 = old.1 ∧
      ∀ key, (recordIn new.2).get? key = (recordIn old.2).get? key)
    (entriesOf (value.get? "sessions")) (entriesOf (state.get? "sessions"))

/-- Every state of schema 3 is migrated, with all its Sessions as they were. -/
def MigrationPreservesSessions : Prop :=
  ∀ checks value hostId, isPriorStateRecordV3 checks value hostId = true →
    ∃ state, migrateStateV3ToV4 checks value hostId = .ok state
      ∧ parseCurrentState checks state hostId = .ok state ∧ Migrated value state
      ∧ SessionsPreserved value state

/-- A record whose fields are texts. -/
def textRecord (fields : List (String × String)) : JsonValue :=
  .object (fields.map fun field => (jsString field.1, .string (jsString field.2)))

/-- A state of schema 3 with one Session, which had an event. -/
def priorState : JsonObject := [
  (jsString "schemaVersion", jsonInteger 3),
  (jsString "runtimeResetEpoch", .string (jsString "00000000-0000-4000-8000-000000000000")),
  (jsString "host", .null),
  (jsString "sessions", .object [(jsString "session", textRecord [
    ("sessionId", "session"), ("hostId", "host"), ("provider", "pi"), ("projectName", "project"),
    ("nameText", "name"), ("status", "idle"), ("updatedAt", "2026-01-01T00:00:00.000Z"),
    ("lastEventId", "event")])]),
  (jsString "sessionDrivers", textRecord [("session", "pi")]),
  (jsString "reconciledDrivers", .object []),
  (jsString "recentEvents", .array []),
  (jsString "sessionRevisions", .object [(jsString "session", jsonInteger 2)]),
  (jsString "pendingHandles", .object []),
  (jsString "commandResults", .object []),
  (jsString "seenCommands", .object []),
  (jsString "currentSessionsSnapshot", .object [(jsString "version", jsonInteger 1),
    (jsString "lastAllocatedRevision", jsonInteger 3),
    (jsString "lastAcceptedRevision", jsonInteger 0)])]

/-- Checks that find every timestamp finite. -/
def plainChecks : CodecChecks := ⟨fun _ => true, fun _ => true⟩

set_option maxRecDepth 20000 in
theorem isPriorStateRecordV3_priorState :
    isPriorStateRecordV3 plainChecks priorState (jsString "host") = true := by
  decide +kernel

/-- The Session of the target has no last event. -/
theorem not_migrationPreservesSessions : ¬ MigrationPreservesSessions := by
  intro h
  obtain ⟨state, hmigrated, -, -, hsessions⟩ := h plainChecks priorState (jsString "host")
    isPriorStateRecordV3_priorState
  rw [migrateStateV3ToV4_eq_ok hmigrated] at hsessions
  unfold SessionsPreserved at hsessions
  rw [get?_sessions] at hsessions
  have hsession := congrArg Option.isSome ((List.forall₂_cons.mp hsessions).1.2 "lastEventId")
  revert hsession
  decide +kernel

/-- The state with the Session is migrated. -/
theorem migrateStateV3ToV4_priorState :
    ∃ state, migrateStateV3ToV4 plainChecks priorState (jsString "host") = .ok state
      ∧ parseCurrentState plainChecks state (jsString "host") = .ok state
      ∧ Migrated priorState state :=
  migrateStateV3ToV4_accepted isPriorStateRecordV3_priorState

end Ariava.Proofs.StateMigration
