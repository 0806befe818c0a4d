import Mathlib.Data.List.Chain
import Mathlib.Data.List.Nodup
import Ariava.Operations.HostDomainResetPolicy
import Ariava.Proofs.RawValues

/-!
# `Ariava.Proofs.HostDomainReset`: the history of a reset journal

What is proved here:

* The policy compares JSON texts. The text of an accepted journal determines it
  (`isReadable_of_accepted`), so a field that passes the comparison is the same.
* `validateTransition_cases` says what a transition that is kept can do, and `isHistory_keptJournals` what
  this means for all the journals that are kept, from any accepted one on.
* `nextHostResetAction_isSome_iff`: there is a next action for an accepted journal, unless a revoke
  that was skipped stands in one of the two phases of a revoke. The schema accepts such a journal.
  A run that starts with another one has no such journal (`not_skippedInRevoke_of_kept`).

`resetJournalHistory` puts these together for a journal that the schema has parsed.
-/

set_option autoImplicit false

namespace Ariava.Proofs.HostDomainReset

open Ariava.Operations
open Ariava.Protocol
open Ariava.Proofs.RawValues
open Ariava.StateStore.RawState

/-! ### Texts that determine their values -/

/-- What a property holds comes back from its text. -/
def ReadsBack (value : JsValue) : Prop := ∀ found, value = some found → IsReadable found

theorem readsBack_of_text {value : JsValue} (h : (textOf value).isSome = true) :
    ReadsBack value := by
  intro found hfound
  obtain ⟨text, htext⟩ := Option.isSome_iff_exists.mp h
  rw [textOf_eq_some, hfound, Option.some.injEq] at htext
  rw [htext]
  trivial

theorem readsBack_of_isNull {value : JsValue} (h : isNull value = true) : ReadsBack value := by
  intro found hfound
  subst hfound
  cases found with
  | null => trivial
  | _ => cases h

theorem readsBack_of_any {value : JsValue} {check : JsString → Bool}
    (h : (textOf value).any check = true) : ReadsBack value := by
  apply readsBack_of_text
  cases htext : textOf value with
  | none =>
    rw [htext] at h
    cases h
  | some text => rfl

theorem readsBack_of_isText {word : String} {value : JsValue} (h : isText word value = true) :
    ReadsBack value := by
  apply readsBack_of_text
  rw [isText_iff] at h
  rw [h]
  rfl

theorem readsBack_of_isOneOf {words : List String} {value : JsValue}
    (h : isOneOf words value = true) : ReadsBack value := by
  obtain ⟨word, -, hword⟩ := List.any_eq_true.mp h
  exact readsBack_of_isText hword

theorem readsBack_of_boolean {value : JsValue} (h : (booleanOf value).isSome = true) :
    ReadsBack value := by
  intro found hfound
  subst hfound
  cases found with
  | bool truth => trivial
  | _ => cases h

/-- The digits of a text in an array are those of the text. -/
theorem isReadable_of_stringIs {word : String} {value : JsonValue} (h : stringIs word value = true) :
    IsReadable value := by
  induction value using stringIs.induct with
  | case1 text => trivial
  | case2 element ih =>
    rw [stringIs] at h
    exact ⟨ih h, trivial⟩
  | case3 value htext harray =>
    cases value with
    | string text => exact absurd rfl (htext text)
    | array elements =>
      cases elements with
      | nil => cases h
      | cons element rest =>
        cases rest with
        | nil => exact absurd rfl (harray element)
        | cons _ _ => cases h
    | _ => cases h

theorem readsBack_of_stringIsOneOf {words : List String} {value : JsValue}
    (h : stringIsOneOf words value = true) : ReadsBack value := by
  intro found hfound
  subst hfound
  obtain ⟨word, -, hword⟩ := List.any_eq_true.mp h
  exact isReadable_of_stringIs hword

/-- A record with exactly these keys comes back from its text when each of its values does. -/
theorem isReadable_of_hasExactKeys {record : JsonObject} {keys : List String}
    (h : hasExactKeys record keys = true) (hnodup : keys.Nodup)
    (hindex : ∀ key ∈ keys, arrayIndex? (jsString key) = none)
    (hvalues : ∀ key ∈ keys, ReadsBack (record.get? key)) : IsReadable (.object record) := by
  rw [hasExactKeys, Bool.and_eq_true, decide_eq_true_eq, List.all_eq_true] at h
  obtain ⟨hlength, hown⟩ := h
  have hkeys : (keys.map jsString).Nodup := (List.nodup_map_iff jsString_injective).mpr hnodup
  have hsub : keys.map jsString ⊆ record.map Prod.fst := by
    intro key hkey
    obtain ⟨name, hname, rfl⟩ := List.mem_map.mp hkey
    have hfound := hown name hname
    rw [JsonObject.hasOwn, JsonObject.get?, Option.isSome_map, List.find?_isSome] at hfound
    obtain ⟨property, hproperty, heq⟩ := hfound
    rw [decide_eq_true_eq] at heq
    rw [← heq]
    exact List.mem_map_of_mem hproperty
  -- There are as many keys as there are properties, so there is no other one and none twice.
  have hperm : (keys.map jsString).Perm (record.map Prod.fst) :=
    (List.subperm_of_subset hkeys hsub).perm_of_length_le (by simp [hlength])
  have hrecord : (record.map Prod.fst).Nodup := hperm.nodup_iff.mp hkeys
  refine ⟨hrecord, readableProperties_iff.mpr fun property hproperty => ?_⟩
  have hmem := hperm.mem_iff.mpr (List.mem_map_of_mem hproperty)
  obtain ⟨key, hkey, hfst⟩ := List.mem_map.mp hmem
  refine ⟨by rw [← hfst]; exact hindex key hkey, hvalues key hkey _ ?_⟩
  rw [JsonObject.get?, Option.map_eq_some_iff]
  refine ⟨property, ?_, rfl⟩
  cases hfind : record.find? fun property => decide (property.1 = jsString key) with
  | none => simpa [hfst] using List.find?_eq_none.mp hfind property hproperty
  | some other =>
    have heq := List.find?_some hfind
    rw [decide_eq_true_eq] at heq
    exact congrArg some (List.inj_on_of_nodup_map hrecord (List.mem_of_find?_eq_some hfind)
      hproperty (heq.trans hfst))

/-! ### Accepted journals -/

section Accepted

variable {sha256 : List UInt8 → JsString} {resources : HostDomainResetResourceSet}
  {journal : HostDomainResetJournalV1}

/-- What the checks of the schema say about a journal in a phase. -/
structure IsAccepted (sha256 : List UInt8 → JsString) (resources : HostDomainResetResourceSet)
    (journal : HostDomainResetJournalV1) (phase : HostDomainResetPhase) : Prop where
  keys : hasExactKeys journal (JournalField.all.map JournalField.key) = true
  version : isNumber 1 (journal.read .version) = true
  operationId : isOperationId (journal.read .operationId) = true
  profile : isText resources.identityProfile.text (journal.read .profile) = true
  inPhase : journal.phase? = some phase
  hostIds : ∀ field ∈ [JournalField.oldHostId, .newHostId],
    isNullableId "host_" (journal.read field) = true
  keyIds : ∀ field ∈ [JournalField.oldKeyId, .newKeyId],
    isNullableId "key_" (journal.read field) = true
  oldEncryptionKeyId : isNullableId "ekey_" (journal.read .oldEncryptionKeyId) = true
  signingCleanup : isSigningCleanup sha256 resources (journal.read .signingCleanup) = true
  resourceDigest : isDigest (journal.read .resourceDigest) = true
  dates : ∃ created updated, dateOf (journal.read .createdAt) = some created
    ∧ dateOf (journal.read .updatedAt) = some updated ∧ created ≤ updated
  revoke : isRevoke (journal.read .revoke) = true
  service : isService (journal.read .service) = true
  timestamps : ∀ field ∈ journalTimestamps, isNullableJournalTimestamp (journal.read field)
    (journal.read .createdAt) (journal.read .updatedAt) = true
  invariants : hasValidPhaseInvariants journal phase = true

theorem exists_isAccepted (h : isHostDomainResetJournal sha256 resources journal = true) :
    ∃ phase, IsAccepted sha256 resources journal phase := by
  simp only [isHostDomainResetJournal, Bool.and_eq_true] at h
  obtain ⟨⟨⟨⟨⟨⟨⟨⟨⟨⟨⟨⟨⟨⟨⟨⟨⟨⟨⟨⟨hkeys, hversion⟩, hoperationId⟩, hprofile⟩, -⟩, holdHostId⟩, holdKeyId⟩,
    hnewHostId⟩, hnewKeyId⟩, hekey⟩, hcleanup⟩, hdigest⟩, -⟩, hdates⟩, hrevoke⟩, hservice⟩, -⟩, -⟩,
    -⟩, htimestamps⟩, hinvariants⟩ := h
  obtain ⟨phase, hphase, hinvariants⟩ := (Option.any_eq_true _ _).mp hinvariants
  refine ⟨phase, ⟨hkeys, hversion, hoperationId, hprofile, hphase, ?_, ?_, hekey, hcleanup, hdigest,
    ?_, hrevoke, hservice, List.all_eq_true.mp htimestamps, hinvariants⟩⟩
  · simp [holdHostId, hnewHostId]
  · simp [holdKeyId, hnewKeyId]
  · split at hdates
    · next created updated hcreated hupdated =>
      exact ⟨created, updated, hcreated, hupdated, of_decide_eq_true hdates⟩
    · cases hdates

theorem readsBack_of_isNullableId {prefixText : String} {value : JsValue}
    (h : isNullableId prefixText value = true) : ReadsBack value := by
  rw [isNullableId, Bool.or_eq_true] at h
  rcases h with hnull | htext
  · exact readsBack_of_isNull hnull
  · exact readsBack_of_any htext

theorem readsBack_of_date {value : JsValue} {date : Int} (h : dateOf value = some date) :
    ReadsBack value := by
  apply readsBack_of_text
  obtain ⟨text, htext, -⟩ := Option.bind_eq_some_iff.mp h
  rw [htext, Option.isSome_some]

theorem readsBack_of_timestamp {value created updated : JsValue}
    (h : isNullableJournalTimestamp value created updated = true) : ReadsBack value := by
  rw [isNullableJournalTimestamp, Bool.or_eq_true] at h
  rcases h with hnull | hdates
  · exact readsBack_of_isNull hnull
  · split at hdates
    · next hdate _ _ => exact readsBack_of_date hdate
    · cases hdates

theorem readsBack_of_isNumber {value : JsValue} (h : isNumber 1 value = true) : ReadsBack value := by
  intro found hfound
  subst hfound
  rw [isNumber, decide_eq_true_eq] at h
  cases found with
  | number number =>
    cases number with
    | infinite isNegative => cases h
    | finite value =>
      rw [safeIntegerOf] at h
      split at h
      · next hsafe =>
        -- A safe integer is its numerator.
        rw [JsonNumber.isSafeInteger, Bool.and_eq_true, decide_eq_true_eq] at hsafe
        refine ⟨1, by decide, ?_⟩
        have hvalue : value = 1 := by
          rw [← Rat.coe_int_num_of_den_eq_one hsafe.1, Option.some.inj h]
          rfl
        rw [hvalue]
        rfl
      · cases h
  | _ => cases h

/-- A record comes back when each of its values does. -/
theorem readsBack_of_record {value : JsValue} {record : JsonObject} {keys : List String}
    (h : recordOf value = some record) (hkeys : hasExactKeys record keys = true)
    (hnodup : keys.Nodup) (hindex : ∀ key ∈ keys, arrayIndex? (jsString key) = none)
    (hvalues : ∀ key ∈ keys, ReadsBack (record.get? key)) : ReadsBack value := by
  intro found hfound
  rw [recordOf_eq_some, hfound, Option.some.injEq] at h
  rw [h]
  exact isReadable_of_hasExactKeys hkeys hnodup hindex hvalues

theorem readsBack_of_isRevoke {value : JsValue} (h : isRevoke value = true) : ReadsBack value := by
  obtain ⟨record, hrecord, hparts⟩ := (Option.any_eq_true _ _).mp h
  simp only [Bool.and_eq_true, Bool.or_eq_true] at hparts
  obtain ⟨⟨⟨hkeys, hstate⟩, houtcome⟩, -⟩ := hparts
  apply readsBack_of_record hrecord hkeys (by decide) (by decide)
  have houtcome' : ReadsBack (record.get? "outcome") := by
    rcases houtcome with hnull | htext
    · exact readsBack_of_isNull hnull
    · exact readsBack_of_isOneOf htext
  simpa using ⟨readsBack_of_isOneOf hstate, houtcome'⟩

theorem readsBack_of_isService {value : JsValue} (h : isService value = true) :
    ReadsBack value := by
  obtain ⟨record, hrecord, hparts⟩ := (Option.any_eq_true _ _).mp h
  simp only [Bool.and_eq_true] at hparts
  obtain ⟨⟨⟨⟨⟨⟨hkeys, hmanaged⟩, hinstalled⟩, henabled⟩, hrunning⟩, hbackend⟩, -⟩ := hparts
  apply readsBack_of_record hrecord hkeys (by decide) (by decide)
  simpa using ⟨readsBack_of_boolean hmanaged, readsBack_of_boolean hinstalled,
    readsBack_of_boolean henabled, readsBack_of_boolean hrunning,
    readsBack_of_stringIsOneOf hbackend⟩

theorem readsBack_of_isSigningCleanup {value : JsValue}
    (h : isSigningCleanup sha256 resources value = true) : ReadsBack value := by
  rw [isSigningCleanup, Bool.or_eq_true] at h
  rcases h with hnull | hcleanup
  · exact readsBack_of_isNull hnull
  obtain ⟨record, hrecord, hparts⟩ := (Option.any_eq_true _ _).mp hcleanup
  simp only [Bool.and_eq_true, decide_eq_true_eq] at hparts
  obtain ⟨⟨⟨⟨hkeys, hkind⟩, hdigest⟩, hprofile⟩, haccounts⟩ := hparts
  have hdigestText : ReadsBack (record.get? "resourceDigest") :=
    readsBack_of_text (by rw [hdigest, Option.isSome_some])
  have haccounts' : ReadsBack (record.get? "previousAccount")
      ∧ ReadsBack (record.get? "previousPendingAccount")
      ∧ ReadsBack (record.get? "interruptedCreationAccount") := by
    split at haccounts
    · simp only [Bool.and_eq_true] at haccounts
      exact ⟨readsBack_of_isNull haccounts.1.1, readsBack_of_isNull haccounts.1.2,
        readsBack_of_isNull haccounts.2⟩
    · simp only [Bool.and_eq_true, Bool.or_eq_true, decide_eq_true_eq] at haccounts
      obtain ⟨⟨hprevious, hpending⟩, hinterrupted⟩ := haccounts
      refine ⟨?_, ?_, ?_⟩
      · rcases hprevious with hnull | htext
        · exact readsBack_of_isNull hnull
        · obtain ⟨text, hsome⟩ := Option.isSome_iff_exists.mp htext
          apply readsBack_of_text
          rw [(Option.filter_eq_some_iff.mp hsome).1, Option.isSome_some]
      · rcases hpending with hnull | htext
        · exact readsBack_of_isNull hnull
        · exact readsBack_of_text (by rw [htext, Option.isSome_some])
      · rcases hinterrupted with hnull | htext
        · exact readsBack_of_isNull hnull
        · exact readsBack_of_any htext
  apply readsBack_of_record hrecord hkeys (by decide) (by decide)
  simpa using ⟨readsBack_of_stringIsOneOf hkind, hdigestText, readsBack_of_isText hprofile,
    haccounts'⟩

/-- Each field of an accepted journal comes back from its text. -/
theorem readsBack_of_accepted {phase : HostDomainResetPhase}
    (h : IsAccepted sha256 resources journal phase) (field : JournalField) :
    ReadsBack (journal.read field) := by
  have htimestamp : ∀ field ∈ journalTimestamps, ReadsBack (journal.read field) :=
    fun field hfield => readsBack_of_timestamp (h.timestamps field hfield)
  obtain ⟨created, updated, hcreated, hupdated, -⟩ := h.dates
  cases field with
  | version => exact readsBack_of_isNumber h.version
  | operationId => exact readsBack_of_any h.operationId
  | profile => exact readsBack_of_isText h.profile
  | phase =>
    have hphase := List.find?_some h.inPhase
    exact readsBack_of_isText hphase
  | oldHostId => exact readsBack_of_isNullableId (h.hostIds _ (by simp))
  | oldKeyId => exact readsBack_of_isNullableId (h.keyIds _ (by simp))
  | newHostId => exact readsBack_of_isNullableId (h.hostIds _ (by simp))
  | newKeyId => exact readsBack_of_isNullableId (h.keyIds _ (by simp))
  | oldEncryptionKeyId => exact readsBack_of_isNullableId h.oldEncryptionKeyId
  | signingCleanup => exact readsBack_of_isSigningCleanup h.signingCleanup
  | signingReplacementAttemptedAt => exact htimestamp _ (by simp [journalTimestamps])
  | encryptionIdentityReplacedAt => exact htimestamp _ (by simp [journalTimestamps])
  | runtimeArtifactsClearedAt => exact htimestamp _ (by simp [journalTimestamps])
  | configSavedAt => exact htimestamp _ (by simp [journalTimestamps])
  | enrolledAt => exact htimestamp _ (by simp [journalTimestamps])
  | serviceMetadataSynchronizedAt => exact htimestamp _ (by simp [journalTimestamps])
  | resourceDigest => exact readsBack_of_any h.resourceDigest
  | createdAt => exact readsBack_of_date hcreated
  | updatedAt => exact readsBack_of_date hupdated
  | revoke => exact readsBack_of_isRevoke h.revoke
  | service => exact readsBack_of_isService h.service

/-- An accepted journal comes back from its text. -/
theorem isReadable_of_accepted {phase : HostDomainResetPhase}
    (h : IsAccepted sha256 resources journal phase) : IsReadable (.object journal) := by
  apply isReadable_of_hasExactKeys h.keys (by decide) (by decide)
  intro key hkey
  obtain ⟨field, -, rfl⟩ := List.mem_map.mp hkey
  exact readsBack_of_accepted h field

/-- What comes back from its text is the same when the texts are. -/
theorem eq_of_sameValue {left right : JsValue} (hleft : ReadsBack left) (hright : ReadsBack right)
    (h : sameValue left right = true) : left = right := by
  rw [sameValue, decide_eq_true_eq] at h
  cases left with
  | none =>
    cases right with
    | none => rfl
    | some right => cases h
  | some left =>
    cases right with
    | none => cases h
    | some right =>
      rw [Option.map_some, Option.map_some, Option.some.injEq] at h
      rw [stringify_inj (hleft left rfl) (hright right rfl) h]

end Accepted

/-! ### What the policy lets through -/

/-- The fields that never change. -/
def fixedFields : List JournalField :=
  [.version, .operationId, .profile, .resourceDigest, .createdAt, .service]

/-- The fields that are filled once. -/
def oneWayFields : List JournalField :=
  [.oldHostId, .oldKeyId, .oldEncryptionKeyId, .signingCleanup, .newHostId, .newKeyId,
    .signingReplacementAttemptedAt, .encryptionIdentityReplacedAt, .runtimeArtifactsClearedAt,
    .configSavedAt, .enrolledAt, .serviceMetadataSynchronizedAt]

/-- The journal is the same, or the next phase follows, or the phases of the revoke are left out
because the old identity was found unreadable. -/
def FollowsPhase (current next : HostDomainResetJournalV1) : Prop :=
  next = current ∨ ∃ source target, current.phase? = some source ∧ next.phase? = some target
    ∧ (target.index = source.index + 1
      ∨ (source = .prepared ∧ target = .signingReplacementPending
        ∧ current.isRevokeSkipped = true))

/-- What a later journal has of an earlier one. -/
structure Precedes (earlier later : HostDomainResetJournalV1) : Prop where
  fixed : ∀ field ∈ fixedFields, later.read field = earlier.read field
  filled : ∀ field ∈ oneWayFields, isNull (earlier.read field) = false →
    later.read field = earlier.read field
  updatedAt : ∃ before after, dateOf (earlier.read .updatedAt) = some before
    ∧ dateOf (later.read .updatedAt) = some after ∧ before ≤ after

theorem Precedes.trans {first second third : HostDomainResetJournalV1} (h : Precedes first second)
    (h' : Precedes second third) : Precedes first third where
  fixed field hfield := (h'.fixed field hfield).trans (h.fixed field hfield)
  filled field hfield hnull := by
    have heq := h.filled field hfield hnull
    rw [h'.filled field hfield (by rw [heq, hnull]), heq]
  updatedAt := by
    obtain ⟨before, between, hbefore, hbetween, hle⟩ := h.updatedAt
    obtain ⟨between', after, hbetween', hafter, hle'⟩ := h'.updatedAt
    rw [hbetween, Option.some.injEq] at hbetween'
    exact ⟨before, after, hbefore, hafter, by omega⟩

/-- An edge leads to the next phase, or it is the one without the revoke. -/
theorem edge_cases : ∀ edge ∈ transitionEdges, edge.target.index = edge.source.index + 1
    ∨ (edge.source = .prepared ∧ edge.target = .signingReplacementPending
      ∧ edge.require = .skipped) := by
  decide

/-- A one-way field that an edge may change is filled by it. -/
theorem fillOnly_of_writable : ∀ edge ∈ transitionEdges, ∀ field ∈ oneWayFields,
    field ∈ edge.writable → field ∈ edge.fillOnly := by
  decide

/-- What the loop over the fields has checked. -/
theorem checkTransitionFields_ok {edge : TransitionEdge}
    {current candidate : HostDomainResetJournalV1} {fields : List JournalField}
    (h : checkTransitionFields edge current candidate fields = .ok ()) :
    ∀ field ∈ fields, field ∉ immutableFields → isChanged current candidate field = true →
      field ∈ edge.writable ∧ (field ∈ edge.fillOnly → isNull (current.read field) = true) := by
  induction fields with
  | nil =>
    intro field hfield
    cases hfield
  | cons first rest ih =>
    rw [checkTransitionFields] at h
    intro field hfield hnot hchanged
    rcases List.mem_cons.mp hfield with rfl | hrest
    · rw [if_pos ⟨hnot, hchanged⟩] at h
      split at h
      · cases h
      · next hwritable =>
        split at h
        · cases h
        · next hfill =>
          refine ⟨not_not.mp hwritable, fun hmem => ?_⟩
          rw [not_and, Bool.not_eq_false] at hfill
          exact hfill hmem
    · refine ih ?_ field hrest hnot hchanged
      split at h
      · split at h
        · cases h
        · split at h
          · cases h
          · exact h
      · exact h

section Steps

variable {sha256 : List UInt8 → JsString} {resources : HostDomainResetResourceSet}
  {current candidate : HostDomainResetJournalV1} {source target : HostDomainResetPhase}

/-- A field that did not change is the same. -/
theorem read_eq_of_unchanged (hcurrent : IsAccepted sha256 resources current source)
    (hcandidate : IsAccepted sha256 resources candidate target) {field : JournalField}
    (h : isChanged current candidate field = false) : candidate.read field = current.read field := by
  rw [isChanged, Bool.not_eq_false'] at h
  exact (eq_of_sameValue (readsBack_of_accepted hcurrent field)
    (readsBack_of_accepted hcandidate field) h).symm

/-- A candidate that the policy lets through is the current journal again, or follows it along an
edge. -/
theorem validateTransition_cases (hcurrent : IsAccepted sha256 resources current source)
    (hcandidate : IsAccepted sha256 resources candidate target)
    (h : validateTransition current candidate source target = .ok ()) :
    candidate = current
      ∨ ∃ edge ∈ transitionEdges, edge.source = source ∧ edge.target = target
        ∧ edge.require.holds current = true
        ∧ isTimestampRollback current candidate = false
        ∧ (∀ field ∈ immutableFields, candidate.read field = current.read field)
        ∧ ∀ field ∈ transitionFields, field ∉ immutableFields →
          candidate.read field = current.read field
            ∨ (field ∈ edge.writable
              ∧ (field ∈ edge.fillOnly → isNull (current.read field) = true)) := by
  rw [validateTransition] at h
  split at h
  · split at h
    · next hsame =>
      left
      have hreadable : ReadsBack (some (.object current)) := by
        rintro _ ⟨⟩
        exact isReadable_of_accepted hcurrent
      have hreadable' : ReadsBack (some (.object candidate)) := by
        rintro _ ⟨⟩
        exact isReadable_of_accepted hcandidate
      have heq := eq_of_sameValue hreadable hreadable' hsame
      rw [Option.some.injEq, JsonValue.object.injEq] at heq
      exact heq.symm
    · cases h
  split at h
  · cases h
  split at h
  · cases h
  · next edge hedge =>
    right
    rw [findEdge] at hedge
    have hends := List.find?_some hedge
    rw [decide_eq_true_eq] at hends
    obtain ⟨hsource, htarget⟩ := hends
    split at h
    · cases h
    next hrequire =>
    split at h
    · cases h
    next hrollback =>
    split at h
    · cases h
    next hfixed =>
    refine ⟨edge, List.mem_of_find?_eq_some hedge, hsource, htarget, ?_, ?_, ?_, ?_⟩
    · exact Bool.eq_true_of_not_eq_false hrequire
    · exact Bool.eq_false_of_not_eq_true hrollback
    · intro field hfield
      have hunchanged := List.find?_eq_none.mp hfixed field hfield
      exact read_eq_of_unchanged hcurrent hcandidate (Bool.eq_false_of_not_eq_true hunchanged)
    · intro field hfield hnot
      cases hchanged : isChanged current candidate field with
      | false => exact .inl (read_eq_of_unchanged hcurrent hcandidate hchanged)
      | true => exact .inr (checkTransitionFields_ok h field hfield hnot hchanged)

/-- A step from one kept journal to the next. -/
def IsStep (sha256 : List UInt8 → JsString) (resources : HostDomainResetResourceSet)
    (current next : HostDomainResetJournalV1) : Prop :=
  ∃ source target, IsAccepted sha256 resources current source
    ∧ IsAccepted sha256 resources next target
    ∧ validateTransition current next source target = .ok ()

theorem followsPhase_of_isStep (h : IsStep sha256 resources current candidate) :
    FollowsPhase current candidate := by
  obtain ⟨source, target, hcurrent, hcandidate, hvalid⟩ := h
  rcases validateTransition_cases hcurrent hcandidate hvalid with hsame | hedge
  · exact .inl hsame
  · obtain ⟨edge, hedge, rfl, rfl, hrequire, -⟩ := hedge
    right
    refine ⟨_, _, hcurrent.inPhase, hcandidate.inPhase, ?_⟩
    rcases edge_cases edge hedge with hnext | ⟨hsource, htarget, hskipped⟩
    · exact .inl hnext
    · rw [hskipped] at hrequire
      exact .inr ⟨hsource, htarget, hrequire⟩

theorem precedes_of_isStep (h : IsStep sha256 resources current candidate) :
    Precedes current candidate := by
  obtain ⟨source, target, hcurrent, hcandidate, hvalid⟩ := h
  obtain ⟨-, before, -, hbefore, -⟩ := hcurrent.dates
  obtain ⟨-, after, -, hafter, -⟩ := hcandidate.dates
  rcases validateTransition_cases hcurrent hcandidate hvalid with hsame | hedge
  · subst hsame
    exact ⟨fun _ _ => rfl, fun _ _ _ => rfl, before, before, hbefore, hbefore, le_rfl⟩
  · obtain ⟨edge, hedge, -, -, -, hrollback, hfixed, hchanged⟩ := hedge
    refine ⟨hfixed, ?_, before, after, hbefore, hafter, ?_⟩
    · intro field hfield hnull
      -- The policy looks at each one-way field, and an edge that may write it may only fill it.
      have hlooked : ∀ field ∈ oneWayFields, field ∈ transitionFields ∧ field ∉ immutableFields := by
        decide
      obtain ⟨hmem, hnot⟩ := hlooked field hfield
      rcases hchanged field hmem hnot with hread | ⟨hwritable, hfill⟩
      · exact hread
      · have hfilled := hfill (fillOnly_of_writable edge hedge field hfield hwritable)
        rw [hnull] at hfilled
        cases hfilled
    · rw [isTimestampRollback, hbefore, hafter, decide_eq_false_iff_not] at hrollback
      omega

end Steps

/-! ### Histories -/

/-- A revoke that was concluded. -/
def HasConcludedRevoke (journal : HostDomainResetJournalV1) : Prop :=
  isText "complete" (journal.readRevoke "state") = true
    ∧ isOneOf ["revoked", "identity-already-revoked"] (journal.readRevoke "outcome") = true

/-- What the journals of a reset have in common. -/
structure IsHistory (journals : List HostDomainResetJournalV1) : Prop where
  path : journals.IsChain FollowsPhase
  ordered : journals.Pairwise Precedes
  revoked : ∀ journal ∈ journals, ∀ phase, journal.phase? = some phase →
    HostDomainResetPhase.signingReplacementPending.index ≤ phase.index →
      HasConcludedRevoke journal ∨ journal.isRevokeSkipped = true

section Revokes

variable {sha256 : List UInt8 → JsString} {resources : HostDomainResetResourceSet}
  {journal : HostDomainResetJournalV1} {phase : HostDomainResetPhase}

/-- The revokes that there are. -/
theorem revoke_cases {state outcome : JsValue} (h : isLegalRevokeCombination state outcome = true) :
    (isNull outcome = true
        ∧ (isText "not-attempted" state = true ∨ isText "pending" state = true))
      ∨ (isText "complete" state = true
        ∧ isOneOf ["revoked", "identity-already-revoked"] outcome = true)
      ∨ (isText "skipped" state = true ∧ isText "old-identity-unreadable" outcome = true) := by
  simp only [isLegalRevokeCombination, Bool.and_eq_true] at h
  obtain ⟨-, hkind⟩ := h
  split at hkind
  · next hopen => exact .inl ⟨hkind, by simpa [isOneOf] using hopen⟩
  · split at hkind
    · next hcomplete => exact .inr (.inl ⟨hcomplete, hkind⟩)
    · exact .inr (.inr (by simpa using hkind))

theorem outcome_of_open {state outcome : JsValue}
    (h : isLegalRevokeCombination state outcome = true) (hcomplete : isText "complete" state = false)
    (hskipped : isText "skipped" state = false) : isNull outcome = true := by
  rcases revoke_cases h with ⟨hnull, -⟩ | ⟨hstate, -⟩ | ⟨hstate, -⟩
  · exact hnull
  · rw [hcomplete] at hstate
    cases hstate
  · rw [hskipped] at hstate
    cases hstate

theorem outcome_of_complete {state outcome : JsValue}
    (h : isLegalRevokeCombination state outcome = true)
    (hcomplete : state = some (.string (jsString "complete"))) :
    isOneOf ["revoked", "identity-already-revoked"] outcome = true := by
  rw [hcomplete] at h
  rcases revoke_cases h with ⟨-, hopen⟩ | ⟨-, hconcluded⟩ | ⟨hskipped, -⟩
  · exact absurd hopen (by decide)
  · exact hconcluded
  · exact absurd hskipped (by decide)

/-- The schema accepts the revokes that are legal. -/
theorem isLegal_of_accepted (h : IsAccepted sha256 resources journal phase) :
    isLegalRevokeCombination (journal.readRevoke "state") (journal.readRevoke "outcome")
      = true := by
  obtain ⟨record, hrecord, hparts⟩ := (Option.any_eq_true _ _).mp h.revoke
  have hread : ∀ key, journal.readRevoke key = record.get? key := by
    intro key
    rw [HostDomainResetJournalV1.readRevoke, hrecord, Option.bind_some]
  rw [hread, hread]
  simp only [Bool.and_eq_true] at hparts
  obtain ⟨⟨⟨-, hstate⟩, houtcome⟩, hkind⟩ := hparts
  simp only [isLegalRevokeCombination, Bool.and_eq_true]
  exact ⟨⟨hstate, houtcome⟩, hkind⟩

/-- The state in each phase of a revoke that was not skipped. -/
def stateInPhase : HostDomainResetPhase → String
  | .quarantinePending | .quarantined | .prepared => "not-attempted"
  | .revokePending => "pending"
  | _ => "complete"

theorem expectedRevokeState_cases (phase : HostDomainResetPhase)
    (hnot : journal.isRevokeSkipped = false) : expectedRevokeState journal phase = "skipped"
      ∨ expectedRevokeState journal phase = stateInPhase phase := by
  rw [expectedRevokeState, hnot]
  cases hnull : isNull (journal.read .oldHostId) with
  | true => cases phase <;> simp [stateInPhase]
  | false => cases phase <;> simp [stateInPhase]

/-- The state of a revoke that was not skipped is the one that its phase asks for. -/
theorem state_of_notSkipped (h : IsAccepted sha256 resources journal phase)
    (hnot : journal.isRevokeSkipped = false) :
    isText (stateInPhase phase) (journal.readRevoke "state") = true := by
  have hinvariants := h.invariants
  simp only [hasValidPhaseInvariants, Bool.and_eq_true] at hinvariants
  obtain ⟨⟨⟨⟨-, hstate⟩, -⟩, -⟩, -⟩ := hinvariants
  have hnotSkipped : isText "skipped" (journal.readRevoke "state") = false := by
    rcases revoke_cases (isLegal_of_accepted h) with ⟨-, hopen⟩ | ⟨hcomplete, -⟩ | ⟨hskipped, hunreadable⟩
    · rcases hopen with hopen | hopen <;> rw [isText_iff] at hopen <;> rw [hopen] <;> decide
    · rw [isText_iff] at hcomplete
      rw [hcomplete]
      decide
    · rw [HostDomainResetJournalV1.isRevokeSkipped, hskipped, hunreadable] at hnot
      cases hnot
  rcases expectedRevokeState_cases phase hnot with hskipped | hphase
  · rw [hskipped, hnotSkipped] at hstate
    cases hstate
  · rw [← hphase, hstate]

/-- From the phase `signing-replacement-pending` on the revoke was concluded or skipped. -/
theorem isRevoked_of_accepted (h : IsAccepted sha256 resources journal phase)
    (hphase : HostDomainResetPhase.signingReplacementPending.index ≤ phase.index) :
    HasConcludedRevoke journal ∨ journal.isRevokeSkipped = true := by
  cases hskipped : journal.isRevokeSkipped with
  | true => exact .inr rfl
  | false =>
    left
    have hstate := state_of_notSkipped h hskipped
    have hcomplete : isText "complete" (journal.readRevoke "state") = true := by
      cases phase with
      | quarantinePending | quarantined | prepared | revokePending | oldIdentityRevoked =>
        exact absurd hphase (by decide)
      | _ => exact hstate
    exact ⟨hcomplete, outcome_of_complete (isLegal_of_accepted h) (isText_iff.mp hcomplete)⟩

/-- The revoke was skipped, and the phase is one of the two of a revoke. -/
def IsSkippedInRevoke (journal : HostDomainResetJournalV1) : Prop :=
  (journal.phase? = some .revokePending ∨ journal.phase? = some .oldIdentityRevoked)
    ∧ journal.isRevokeSkipped = true

/-- The revoke of an accepted journal is legal, so its phase decides. -/
theorem nextHostResetAction_eq (h : IsAccepted sha256 resources journal phase) :
    nextHostResetAction journal
      = if isRevokeOfPhase (journal.readRevoke "state") (journal.readRevoke "outcome") phase then
          actionInPhase (journal.readRevoke "state") (journal.readRevoke "outcome") phase
        else none := by
  rw [nextHostResetAction, assertLegalJournal, h.inPhase, Option.filter_some,
    isLegal_of_accepted h, Bool.true_and]
  split
  · rfl
  · rfl

/-- There is a next action for an accepted journal, unless a revoke that was skipped stands in a
phase of the revoke. -/
theorem nextHostResetAction_isSome_iff (h : IsAccepted sha256 resources journal phase) :
    (nextHostResetAction journal).isSome = true ↔ ¬ IsSkippedInRevoke journal := by
  rw [nextHostResetAction_eq h, IsSkippedInRevoke, h.inPhase]
  cases hskipped : journal.isRevokeSkipped with
  | true =>
    -- `skipped` is a state for `prepared` and for the phases behind the revoke.
    obtain ⟨hstate, houtcome⟩ := Bool.and_eq_true_iff.mp hskipped
    rw [isText_iff] at hstate houtcome
    rw [hstate, houtcome]
    have hexpected : ¬ (phase = .quarantinePending ∨ phase = .quarantined) := by
      intro hopen
      have hinvariants := h.invariants
      simp only [hasValidPhaseInvariants, Bool.and_eq_true] at hinvariants
      obtain ⟨⟨⟨⟨-, hexpected⟩, -⟩, -⟩, -⟩ := hinvariants
      rw [hstate, expectedRevokeState, if_pos hopen] at hexpected
      exact absurd hexpected (by decide)
    cases phase with
    | quarantinePending => exact absurd (.inl rfl) hexpected
    | quarantined => exact absurd (.inr rfl) hexpected
    | _ => decide
  | false =>
    have hstate := state_of_notSkipped h hskipped
    have hnone : ¬ ((some phase = some .revokePending ∨ some phase = some .oldIdentityRevoked)
        ∧ false = true) := by simp
    refine iff_of_true ?_ hnone
    have hlegal := isLegal_of_accepted h
    rw [isText_iff] at hstate
    rw [hstate] at hlegal ⊢
    cases phase with
    | quarantinePending | quarantined =>
      have hopen := outcome_of_open hlegal (by decide) (by decide)
      rw [isRevokeOfPhase, hopen]
      rfl
    | prepared =>
      have hopen := outcome_of_open hlegal (by decide) (by decide)
      rw [actionInPhase, preparedAction, hopen]
      rfl
    | revokePending =>
      have hopen := outcome_of_open hlegal (by decide) (by decide)
      rw [isRevokeOfPhase, hopen]
      rfl
    | oldIdentityRevoked =>
      have hconcluded := outcome_of_complete hlegal rfl
      rw [isRevokeOfPhase, hconcluded]
      rfl
    | _ => rfl

end Revokes

/-! ### Transitions -/

theorem read_spreadFields (current : HostDomainResetJournalV1)
    (fields : List (JournalField × JsonValue)) (field : JournalField)
    (h : ∀ entry ∈ fields, entry.1.key ≠ field.key) :
    (spreadFields current fields).read field = current.read field := by
  induction fields generalizing current with
  | nil => rfl
  | cons entry rest ih =>
    have hne : jsString field.key ≠ jsString entry.1.key := by
      intro heq
      exact h entry List.mem_cons_self (jsString_injective heq).symm
    have hrest := ih (setProperty current (jsString entry.1.key) entry.2)
      fun other hother => h other (List.mem_cons_of_mem _ hother)
    show (spreadFields (setProperty current (jsString entry.1.key) entry.2) rest).read field = _
    rw [hrest]
    show JsonObject.get? _ _ = JsonObject.get? _ _
    rw [get?_setProperty, if_neg hne]

/-- A field that is set and not set again. -/
theorem read_spreadFields_cons (current : HostDomainResetJournalV1) (field : JournalField)
    (value : JsonValue) (rest : List (JournalField × JsonValue))
    (h : ∀ entry ∈ rest, entry.1.key ≠ field.key) :
    (spreadFields current ((field, value) :: rest)).read field = some value := by
  show (spreadFields (setProperty current (jsString field.key) value) rest).read field = _
  rw [read_spreadFields _ _ _ h]
  show JsonObject.get? _ _ = _
  rw [get?_setProperty, if_pos rfl]

/-- A transition leads to its phase. -/
theorem phase?_apply (current : HostDomainResetJournalV1) (transition : HostDomainResetTransition)
    (updatedAt : JsString) :
    (applyHostDomainResetTransition current transition updatedAt).phase?
      = some transition.phase := by
  have hother : ∀ entry ∈ transition.fields
      ++ [(JournalField.updatedAt, JsonValue.string updatedAt)], entry.1.key ≠ JournalField.phase.key := by
    cases transition <;> simp [HostDomainResetTransition.fields, JournalField.key]
  rw [HostDomainResetJournalV1.phase?, applyHostDomainResetTransition,
    read_spreadFields_cons _ _ _ _ hother]
  cases transition.phase <;> decide

theorem not_isRevokeSkipped {journal : HostDomainResetJournalV1} {state : String}
    {outcome : JsonValue} (h : journal.read .revoke = some (revokeValue state outcome))
    (hstate : state ≠ "skipped") : journal.isRevokeSkipped = false := by
  have hread : journal.readRevoke "state" = some (.string (jsString state)) := by
    rw [HostDomainResetJournalV1.readRevoke, h]
    rfl
  have hnot : isText "skipped" (journal.readRevoke "state") = false := by
    rw [hread, ← Bool.not_eq_true, isText_iff, Option.some.injEq, JsonValue.string.injEq]
    exact fun heq => hstate (jsString_injective heq)
  rw [HostDomainResetJournalV1.isRevokeSkipped, hnot, Bool.false_and]

/-- No transition leads to a revoke that is skipped in a phase of the revoke. -/
theorem not_isSkippedInRevoke_apply (current : HostDomainResetJournalV1)
    (transition : HostDomainResetTransition) (updatedAt : JsString) :
    ¬ IsSkippedInRevoke (applyHostDomainResetTransition current transition updatedAt) := by
  rintro ⟨hphase, hskipped⟩
  rw [phase?_apply, Option.some.injEq, Option.some.injEq] at hphase
  have hother : ∀ entry ∈ [(JournalField.updatedAt, JsonValue.string updatedAt)],
      entry.1.key ≠ JournalField.revoke.key := by simp [JournalField.key]
  -- The transitions to these two phases bring their own revoke.
  cases transition with
  | revokePending =>
    have hread := read_spreadFields_cons (setProperty current (jsString "phase")
      (.string (jsString HostDomainResetPhase.revokePending.text))) .revoke
      (revokeValue "pending" .null) _ hother
    have hnot := not_isRevokeSkipped hread (by decide)
    exact absurd hskipped (ne_true_of_eq_false hnot)
  | oldIdentityRevoked outcome =>
    have hread := read_spreadFields_cons (setProperty current (jsString "phase")
      (.string (jsString HostDomainResetPhase.oldIdentityRevoked.text))) .revoke
      (revokeValue "complete" (.string (jsString outcome.text))) _ hother
    have hnot := not_isRevokeSkipped hread (by decide)
    exact absurd hskipped (ne_true_of_eq_false hnot)
  | _ => simp [HostDomainResetTransition.phase] at hphase

/-! ### Runs -/

section Runs

variable {sha256 : List UInt8 → JsString} {resources : HostDomainResetResourceSet}

/-- A transition that is kept. -/
theorem advance?_some {current next : HostDomainResetJournalV1}
    {transition : HostDomainResetTransition} {updatedAt : JsString}
    (h : advance? sha256 resources current transition updatedAt = some next) :
    next = applyHostDomainResetTransition current transition updatedAt
      ∧ isHostDomainResetJournal sha256 resources next = true
      ∧ ∃ source target, current.phase? = some source ∧ next.phase? = some target
        ∧ validateTransition current next source target = .ok () := by
  obtain ⟨candidate, hparse, hresult⟩ := Option.bind_eq_some_iff.mp h
  obtain ⟨hcandidate, haccepted⟩ := Option.filter_eq_some_iff.mp hparse
  rw [recordOf_object, Option.some.injEq] at hcandidate
  obtain ⟨result, hvalidate, hnext⟩ := Option.bind_eq_some_iff.mp hresult
  obtain ⟨source, hsource, htarget⟩ := Option.bind_eq_some_iff.mp hvalidate
  obtain ⟨target, htarget, hmap⟩ := Option.map_eq_some_iff.mp htarget
  cases hchecked : validateTransition current candidate source target with
  | error violation =>
    rw [hchecked] at hmap
    subst hmap
    cases hnext
  | ok _ =>
    rw [hchecked] at hmap
    rw [← hmap] at hnext
    have heq : candidate = next := Option.some.inj hnext
    subst heq
    exact ⟨hcandidate.symm, haccepted, source, target, hsource, htarget, hchecked⟩

theorem isStep_of_advance? {current next : HostDomainResetJournalV1}
    {transition : HostDomainResetTransition} {updatedAt : JsString}
    (hcurrent : isHostDomainResetJournal sha256 resources current = true)
    (h : advance? sha256 resources current transition updatedAt = some next) :
    IsStep sha256 resources current next := by
  obtain ⟨-, hnext, source, target, hsource, htarget, hvalid⟩ := advance?_some h
  obtain ⟨phase, hcurrent⟩ := exists_isAccepted hcurrent
  obtain ⟨phase', hnext⟩ := exists_isAccepted hnext
  rw [hcurrent.inPhase, Option.some.injEq] at hsource
  rw [hnext.inPhase, Option.some.injEq] at htarget
  subst hsource htarget
  exact ⟨phase, phase', hcurrent, hnext, hvalid⟩

/-- What a kept transition keeps holds of each kept journal. -/
theorem keptJournals_rule {P : HostDomainResetJournalV1 → Prop}
    (hstep : ∀ current transition updatedAt next, P current →
      advance? sha256 resources current transition updatedAt = some next → P next)
    (start : HostDomainResetJournalV1) (hstart : P start)
    (steps : List (HostDomainResetTransition × JsString)) :
    ∀ journal ∈ keptJournals sha256 resources start steps, P journal := by
  induction steps generalizing start with
  | nil =>
    intro journal hjournal
    rw [keptJournals, List.mem_singleton] at hjournal
    rw [hjournal]
    exact hstart
  | cons step rest ih =>
    intro journal hjournal
    rw [keptJournals] at hjournal
    cases hnext : advance? sha256 resources start step.1 step.2 with
    | some next =>
      rw [hnext, Option.elim_some] at hjournal
      rcases List.mem_cons.mp hjournal with rfl | hrest
      · exact hstart
      · exact ih next (hstep _ _ _ _ hstart hnext) journal hrest
    | none =>
      rw [hnext, Option.elim_none] at hjournal
      exact ih start hstart journal hjournal

theorem head?_keptJournals (start : HostDomainResetJournalV1)
    (steps : List (HostDomainResetTransition × JsString)) :
    (keptJournals sha256 resources start steps).head? = some start := by
  induction steps with
  | nil => rfl
  | cons step rest ih =>
    rw [keptJournals]
    cases advance? sha256 resources start step.1 step.2 with
    | some next => rfl
    | none => exact ih

theorem isChain_keptJournals {start : HostDomainResetJournalV1}
    (hstart : isHostDomainResetJournal sha256 resources start = true)
    (steps : List (HostDomainResetTransition × JsString)) :
    (keptJournals sha256 resources start steps).IsChain (IsStep sha256 resources) := by
  induction steps generalizing start with
  | nil => exact .singleton _
  | cons step rest ih =>
    rw [keptJournals]
    cases hnext : advance? sha256 resources start step.1 step.2 with
    | some next =>
      rw [Option.elim_some, List.isChain_cons]
      refine ⟨?_, ih (advance?_some hnext).2.1⟩
      intro journal hhead
      rw [head?_keptJournals, Option.mem_some_iff] at hhead
      rw [← hhead]
      exact isStep_of_advance? hstart hnext
    | none => exact ih hstart

/-- The journals that are kept are a history, from any accepted one on. -/
theorem isHistory_keptJournals {start : HostDomainResetJournalV1}
    (hstart : isHostDomainResetJournal sha256 resources start = true)
    (steps : List (HostDomainResetTransition × JsString)) :
    IsHistory (keptJournals sha256 resources start steps) where
  path := (isChain_keptJournals hstart steps).imp fun _ _ => followsPhase_of_isStep
  ordered := by
    have hchain := (isChain_keptJournals hstart steps).imp fun _ _ => precedes_of_isStep
    have : IsTrans HostDomainResetJournalV1 Precedes := ⟨fun _ _ _ => Precedes.trans⟩
    exact List.isChain_iff_pairwise.mp hchain
  revoked := by
    intro journal hjournal phase hphase hreached
    have haccepted := keptJournals_rule (P := fun journal =>
      isHostDomainResetJournal sha256 resources journal = true)
      (fun _ _ _ _ _ hnext => (advance?_some hnext).2.1) start hstart steps journal hjournal
    obtain ⟨found, haccepted⟩ := exists_isAccepted haccepted
    rw [haccepted.inPhase, Option.some.injEq] at hphase
    subst hphase
    exact isRevoked_of_accepted haccepted hreached

/-- A run that does not start with a revoke skipped in a phase of the revoke has no such journal. -/
theorem not_skippedInRevoke_of_kept {start : HostDomainResetJournalV1}
    (hnot : ¬ IsSkippedInRevoke start) (steps : List (HostDomainResetTransition × JsString)) :
    ∀ journal ∈ keptJournals sha256 resources start steps, ¬ IsSkippedInRevoke journal := by
  refine keptJournals_rule (P := fun journal => ¬ IsSkippedInRevoke journal) ?_ start hnot steps
  intro current transition updatedAt next _ hnext
  rw [(advance?_some hnext).1]
  exact not_isSkippedInRevoke_apply current transition updatedAt

/-- The journals that are kept are a history. A journal of the schema has a next action just when
it is not a revoke skipped in a phase of the revoke, and a run from such a journal keeps only
journals with one. -/
theorem resetJournalHistory {value : JsonValue} {start : HostDomainResetJournalV1}
    (hstart : parseHostDomainResetJournal sha256 resources value = some start)
    (steps : List (HostDomainResetTransition × JsString)) :
    IsHistory (keptJournals sha256 resources start steps)
      ∧ ((nextHostResetAction start).isSome = true ↔ ¬ IsSkippedInRevoke start)
      ∧ (¬ IsSkippedInRevoke start → ∀ journal ∈ keptJournals sha256 resources start steps,
        (nextHostResetAction journal).isSome = true) := by
  have haccepted := (Option.filter_eq_some_iff.mp hstart).2
  obtain ⟨phase, hphase⟩ := exists_isAccepted haccepted
  refine ⟨isHistory_keptJournals haccepted steps, nextHostResetAction_isSome_iff hphase, ?_⟩
  intro hnot journal hjournal
  have hkept := keptJournals_rule (P := fun journal =>
    isHostDomainResetJournal sha256 resources journal = true)
    (fun _ _ _ _ _ hnext => (advance?_some hnext).2.1) start haccepted steps journal hjournal
  obtain ⟨found, hfound⟩ := exists_isAccepted hkept
  exact (nextHostResetAction_isSome_iff hfound).mpr
    (not_skippedInRevoke_of_kept hnot steps journal hjournal)

end Runs

def samplePath (name : String) : JsString := jsString ("/h/" ++ name)

def sampleResources : HostDomainResetResourceSet where
  identityProfile := .default
  agentAdapterConfigPath := samplePath "agentAdapterConfigPath"
  configPath := samplePath "configPath"
  encryptedSpoolPath := samplePath "encryptedSpoolPath"
  encryptionIdentityPath := samplePath "encryptionIdentityPath"
  hostDomainResetJournalPath := samplePath "hostDomainResetJournalPath"
  identityMetadataPath := samplePath "identityMetadataPath"
  installMetadataPath := samplePath "installMetadataPath"
  linkKeyringPath := samplePath "linkKeyringPath"
  linuxSpoolKeyPath := samplePath "linuxSpoolKeyPath"
  macosSpoolEvidencePath := samplePath "macosSpoolEvidencePath"
  piExtensionLogPath := samplePath "piExtensionLogPath"
  root := jsString "/h"
  runtimeLockPath := samplePath "runtimeLockPath"
  runtimeResetIntentPath := samplePath "runtimeResetIntentPath"
  runtimeTakeoverMutexPath := samplePath "runtimeTakeoverMutexPath"
  statePath := samplePath "statePath"

/-- The hashes of the path of the identity metadata and of the sorted paths. -/
def sampleSha256 (bytes : List UInt8) : JsString :=
  if bytes = encodeUtf8 (samplePath "identityMetadataPath") then
    jsString "fe0abcb851f3c2304595b412630886da6bb4db82adcbe401e5bb56250469f1b1"
  else jsString "b591856896e98a76f9d3352ab9290a74991d53d016db682c596fb89f3adcef28"

def sampleId (prefixText : String) : JsonValue :=
  .string (jsString prefixText ++ List.replicate 43 (ascii 'A'))

def sampleDate (day : String) : JsString := jsString ("2026-08-" ++ day ++ "T00:00:00.000Z")

/-- A journal in the phase `revoke-pending`. -/
def sampleJournal (revoke : JsonValue) : HostDomainResetJournalV1 :=
  let null (field : JournalField) : JsString × JsonValue := (jsString field.key, .null)
  let text (field : JournalField) (text : String) : JsString × JsonValue :=
    (jsString field.key, .string (jsString text))
  [(jsString "version", .number (.finite 1)), text .operationId "operation", text .profile "default",
    text .phase "revoke-pending", (jsString "oldHostId", sampleId "host_"),
    (jsString "oldKeyId", sampleId "key_"), null .newHostId, null .newKeyId,
    null .oldEncryptionKeyId,
    (jsString "signingCleanup", .object [(jsString "kind", .string (jsString "linux-json")),
      (jsString "resourceDigest", .string (identityResourceDigest sampleSha256
        sampleResources.identityMetadataPath)),
      (jsString "profile", .string (jsString "default")), (jsString "previousAccount", .null),
      (jsString "previousPendingAccount", .null), (jsString "interruptedCreationAccount", .null)]),
    null .signingReplacementAttemptedAt, null .encryptionIdentityReplacedAt,
    null .runtimeArtifactsClearedAt, null .configSavedAt, null .enrolledAt,
    null .serviceMetadataSynchronizedAt,
    (jsString "resourceDigest", .string (hostDomainResourceDigest sampleSha256 sampleResources)),
    (jsString "createdAt", .string (sampleDate "11")),
    (jsString "updatedAt", .string (sampleDate "11")), (jsString "revoke", revoke),
    (jsString "service", .object [(jsString "managed", .bool false),
      (jsString "installed", .bool false), (jsString "enabled", .bool false),
      (jsString "wasRunning", .bool false), (jsString "backend", .string (jsString "none"))])]

/-- A revoke that was skipped because the old identity was unreadable. -/
def skippedRevoke : JsonValue :=
  revokeValue "skipped" (.string (jsString "old-identity-unreadable"))

theorem parse_sampleJournal {revoke : JsonValue} (h : isHostDomainResetJournal sampleSha256
      sampleResources (sampleJournal revoke) = true) :
    parseHostDomainResetJournal sampleSha256 sampleResources (.object (sampleJournal revoke))
      = some (sampleJournal revoke) := by
  rw [parseHostDomainResetJournal, recordOf_object, Option.filter_some, h, if_pos rfl]

theorem resetJournalHistory_sample :
    (keptJournals sampleSha256 sampleResources (sampleJournal (revokeValue "pending" .null))
        [(.oldIdentityRevoked .revoked, sampleDate "12")]).length = 2
      ∧ IsHistory (keptJournals sampleSha256 sampleResources
        (sampleJournal (revokeValue "pending" .null))
        [(.oldIdentityRevoked .revoked, sampleDate "12")]) := by
  have haccepted : isHostDomainResetJournal sampleSha256 sampleResources
      (sampleJournal (revokeValue "pending" .null)) = true := by decide +kernel
  refine ⟨by decide +kernel, ?_⟩
  exact (resetJournalHistory (parse_sampleJournal haccepted)
    [(.oldIdentityRevoked .revoked, sampleDate "12")]).1

/-- The schema accepts a revoke skipped in the phase `revoke-pending`, and the machine throws. -/
theorem not_resetJournalHistory :
    ¬ ∀ (sha256 : List UInt8 → JsString) (resources : HostDomainResetResourceSet)
      (value : JsonValue) (start : HostDomainResetJournalV1),
      parseHostDomainResetJournal sha256 resources value = some start →
        ∀ steps, IsHistory (keptJournals sha256 resources start steps)
          ∧ (nextHostResetAction start).isSome = true := by
  intro h
  have haccepted : isHostDomainResetJournal sampleSha256 sampleResources
      (sampleJournal skippedRevoke) = true := by decide +kernel
  have hsome := (h sampleSha256 sampleResources _ _ (parse_sampleJournal haccepted) []).2
  have hnone : (nextHostResetAction (sampleJournal skippedRevoke)).isSome = false := by
    decide +kernel
  rw [hnone] at hsome
  cases hsome

end Ariava.Proofs.HostDomainReset
