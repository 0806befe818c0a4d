import Ariava.StateStore.CurrentSessionsTransitions
import Ariava.StateStore.SpoolTransactions
import Ariava.StateStore.StoreFrames

/-!
# `Ariava.StateStore.SessionInflights`: the Session uploads in flight

The methods of `state-store.ts` for the records of Session uploads in the spool. A record holds an
upload and, in its second version, the digest of the source that the upload was made of. A record
that cannot be read, or whose upload is of another Session than its key, is never used, and no
upload is written over it.

- `usableUpload` is the upload of a record that can be used;
- `usableUpload_write`, `usableUpload_remove`: what the writes do to the records of all Sessions.
-/

set_option autoImplicit false

namespace Ariava.StateStore

open Ariava.Lib
open Ariava.Protocol

/-! ### Reading a record -/

/-- `SessionInflightLookup`. -/
inductive SessionInflightLookup
  | missing
  | v2 (upload : EncryptedSessionSnapshotUploadV3)
  | legacy (upload : EncryptedSessionSnapshotUploadV3)
  | crossBound (upload : EncryptedSessionSnapshotUploadV3)
  | malformed
deriving DecidableEq

/-- The record that the spool has under the key of a Session. -/
def sessionInflightPlaintext (items : List SpoolItem) (sessionId : String) :
    Option SpoolPlaintext :=
  (spoolGet items (inflightSessionItemId sessionId)).map SpoolItem.plaintext

/-- `getSessionInflightLookup`. -/
def getSessionInflightLookup (items : List SpoolItem) (sessionId : String) :
    SessionInflightLookup :=
  match sessionInflightPlaintext items sessionId with
  | none => .missing
  | some (.sessionUpload sourceDigest upload) =>
      if isEncryptedSessionUploadShape upload && sourceDigest.all isVerifier then
        if upload.sessionId = sessionId then
          if sourceDigest.isSome then .v2 upload else .legacy upload
        else .crossBound upload
      else .malformed
  | some _ => .malformed

/-- `getInflightSessionUpload`. -/
def getInflightSessionUpload (items : List SpoolItem) (sessionId : String) :
    Except Thrown (Option EncryptedSessionSnapshotUploadV3) :=
  match getSessionInflightLookup items sessionId with
  | .missing => .ok none
  | .v2 upload => .ok (some upload)
  | .legacy upload => .ok (some upload)
  | _ => .error (.typeError
      "Session inflight evidence is malformed or cross-bound (recovery required)")

/-- The `sourceDigest` of `getSessionInflightRecordV2`. -/
def sessionInflightDigest (items : List SpoolItem) (sessionId : String) : Option String :=
  match sessionInflightPlaintext items sessionId with
  | some (.sessionUpload (some sourceDigest) upload) =>
      if isVerifier sourceDigest && isEncryptedSessionUploadShape upload then some sourceDigest
      else none
  | _ => none

/-- `listInflightSessionIds`. -/
def listInflightSessionIds (items : List SpoolItem) : List String :=
  (spoolList items .sessionUploadV3).map SpoolItem.sessionId

/-! ### Writing a record -/

/-- `assertSessionUploadBoundTo`. -/
def assertSessionUploadBoundTo (sessionId : String) (upload : EncryptedSessionSnapshotUploadV3) :
    Except Thrown Unit :=
  throwIf (decide (upload.sessionId ≠ sessionId))
    (.typeError "Session inflight upload is bound to a different Session")

/-- The item of a record. `withSourceDigestWrapper` leaves out what is not a digest. -/
def sessionInflightItem (sessionId : String) (upload : EncryptedSessionSnapshotUploadV3)
    (sourceDigest createdAt : String) : SpoolItem where
  spoolItemId := inflightSessionItemId sessionId
  sessionId := sessionId
  eventId := none
  payloadKind := .sessionUploadV3
  createdAt := createdAt
  plaintext := .sessionUpload (if isVerifier sourceDigest then some sourceDigest else none) upload

/-- `persistInflightSessionUpload`. -/
def persistInflightSessionUpload (sessionId : String) (upload : EncryptedSessionSnapshotUploadV3)
    (sourceDigest createdAt : String) : StoreEffect Unit := do
  Effect.ofExcept (assertSessionUploadBoundTo sessionId upload)
  let _ ← enqueue (sessionInflightItem sessionId upload sourceDigest createdAt)

/-- `replaceInflightSessionUpload`. -/
def replaceInflightSessionUpload (sessionId : String) (upload : EncryptedSessionSnapshotUploadV3)
    (sourceDigest createdAt : String) : StoreEffect Unit := do
  Effect.ofExcept (assertSessionUploadBoundTo sessionId upload)
  replace [inflightSessionItemId sessionId]
    [sessionInflightItem sessionId upload sourceDigest createdAt]

/-- `removeInflightSessionUpload`. -/
def removeInflightSessionUpload (sessionId : String) : StoreEffect Unit :=
  removeItem (inflightSessionItemId sessionId)

/-- `setRecipientSetVersion`. -/
def setRecipientSetVersion (version : Nat) : StoreEffect Unit :=
  applyTransition fun state => setRecipientSetVersionTransition state version

/-! ### The records of the Sessions -/

/-- The upload of a record that can be used. -/
def usableUpload (items : List SpoolItem) (sessionId : String) :
    Option EncryptedSessionSnapshotUploadV3 :=
  match getSessionInflightLookup items sessionId with
  | .v2 upload => some upload
  | .legacy upload => some upload
  | _ => none

section
variable {items : List SpoolItem} {sessionId sourceDigest createdAt : String}
  {upload : EncryptedSessionSnapshotUploadV3} {s t : BridgeStore}

theorem getInflightSessionUpload_ok {found : Option EncryptedSessionSnapshotUploadV3}
    (h : getInflightSessionUpload items sessionId = .ok found) :
    usableUpload items sessionId = found := by
  unfold getInflightSessionUpload at h
  unfold usableUpload
  split at h
  · next hlookup =>
    cases h
    rw [hlookup]
  · next hlookup =>
    cases h
    rw [hlookup]
  · next hlookup =>
    cases h
    rw [hlookup]
  · cases h

/-- A usable record is a record of an upload of its Session. -/
theorem usableUpload_eq_some (h : usableUpload items sessionId = some upload) :
    upload.sessionId = sessionId ∧ ∃ digest,
      sessionInflightPlaintext items sessionId = some (.sessionUpload digest upload) := by
  unfold usableUpload getSessionInflightLookup at h
  grind

theorem usableUpload_congr {items' : List SpoolItem}
    (h : spoolGet items' (inflightSessionItemId sessionId)
      = spoolGet items (inflightSessionItemId sessionId)) :
    usableUpload items' sessionId = usableUpload items sessionId := by
  unfold usableUpload getSessionInflightLookup sessionInflightPlaintext
  rw [h]

theorem inflightSessionItemId_inj {other : String} :
    inflightSessionItemId sessionId = inflightSessionItemId other ↔ sessionId = other := by
  unfold inflightSessionItemId
  exact String.append_right_inj _

/-! ### What the writes do -/

theorem persistSpool_state (items : List SpoolItem) (s : BridgeStore) :
    ((persistSpool items).run s).2.state = s.state := by
  show (if _ then _ else _ : Except Thrown Unit × BridgeStore).2.state = _
  split
  · exact BridgeStore.afterWrite_state ..
  · exact BridgeStore.afterWrite_state ..

theorem replace_state {removeIds : List String} {additions : List SpoolItem}
    (h : (replace removeIds additions).run s = (.ok (), t)) : t.state = s.state := by
  obtain ⟨_, _, hget, hwrite⟩ := Effect.run_bind_eq_ok.mp h
  cases hget
  split at hwrite
  · cases hwrite
  · next written _ =>
    have hstate := persistSpool_state written s
    rwa [hwrite] at hstate

theorem enqueue_state {input stored : SpoolItem} (h : (enqueue input).run s = (.ok stored, t)) :
    t.state = s.state := by
  obtain ⟨_, _, hget, hrest⟩ := Effect.run_bind_eq_ok.mp h
  cases hget
  split at hrest
  · split at hrest
    · cases hrest
      rfl
    · cases hrest
  · obtain ⟨_, _, hwrite, hreturn⟩ := Effect.run_bind_eq_ok.mp hrest
    cases hreturn
    have hstate := persistSpool_state (s.items ++ [sealedItem input]) s
    rwa [hwrite] at hstate

/-- After the write of an upload for a Session, the records are those from before and this one. -/
structure Written (sessionId : String) (upload : EncryptedSessionSnapshotUploadV3)
    (s t : BridgeStore) : Prop where
  bound : upload.sessionId = sessionId
  state : t.state = s.state
  records : ∀ other found, usableUpload t.items other = some found →
    (other = sessionId ∧ found = upload) ∨ usableUpload s.items other = some found

/-- A record that was read from the written item. -/
theorem usableUpload_written {other : String} {found : EncryptedSessionSnapshotUploadV3}
    {item : SpoolItem} (hitem : item = sessionInflightItem sessionId upload sourceDigest createdAt)
    (hget : spoolGet t.items (inflightSessionItemId sessionId) = some (sealedItem item))
    (hothers : ∀ id, id ≠ inflightSessionItemId sessionId →
      spoolGet t.items id = spoolGet s.items id)
    (h : usableUpload t.items other = some found) :
    (other = sessionId ∧ found = upload) ∨ usableUpload s.items other = some found := by
  subst hitem
  by_cases hsame : other = sessionId
  · subst hsame
    obtain ⟨-, digest, hplain⟩ := usableUpload_eq_some h
    rw [sessionInflightPlaintext, hget] at hplain
    cases hplain
    exact .inl ⟨rfl, rfl⟩
  · right
    rwa [← usableUpload_congr (hothers _ fun heq => hsame (inflightSessionItemId_inj.mp heq))]

theorem persistInflightSessionUpload_ok
    (h : (persistInflightSessionUpload sessionId upload sourceDigest createdAt).run s
      = (.ok (), t)) : Written sessionId upload s t := by
  obtain ⟨_, _, hbound, hrest⟩ := Effect.run_bind_eq_ok.mp h
  rw [Effect.run_ofExcept, Prod.mk.injEq] at hbound
  obtain ⟨hbound, rfl⟩ := hbound
  obtain ⟨stored, _, henqueue, hreturn⟩ := Effect.run_bind_eq_ok.mp hrest
  cases hreturn
  refine ⟨by simpa using throwIf_eq_ok.mp hbound, enqueue_state henqueue,
    fun other found hfound => ?_⟩
  rcases enqueue_ok henqueue with ⟨hfree, hitems⟩ | ⟨-, -, rfl⟩
  · generalize hitem : sessionInflightItem sessionId upload sourceDigest createdAt = item
      at hfree hitems
    have hid : item.spoolItemId = inflightSessionItemId sessionId := by rw [← hitem]; rfl
    refine usableUpload_written hitem.symm ?_ (fun id hne => ?_) hfound
    · rw [hitems, spoolGet_append_single, ← hid, hfree]
      exact if_pos rfl
    · rw [← hid] at hne
      have hother : (sealedItem item).spoolItemId ≠ id := fun heq => hne heq.symm
      rw [hitems, spoolGet_append_single, if_neg hother, Option.or_none]
  · exact .inr hfound

theorem replaceInflightSessionUpload_ok
    (h : (replaceInflightSessionUpload sessionId upload sourceDigest createdAt).run s
      = (.ok (), t)) : Written sessionId upload s t := by
  obtain ⟨_, _, hbound, hreplace⟩ := Effect.run_bind_eq_ok.mp h
  rw [Effect.run_ofExcept, Prod.mk.injEq] at hbound
  obtain ⟨hbound, rfl⟩ := hbound
  refine ⟨by simpa using throwIf_eq_ok.mp hbound, replace_state hreplace,
    fun other found hfound => ?_⟩
  generalize hitem : sessionInflightItem sessionId upload sourceDigest createdAt = item at hreplace
  have hid : item.spoolItemId = inflightSessionItemId sessionId := by rw [← hitem]; rfl
  have hitems := replace_ok hreplace
  rw [← hid] at hitems
  refine usableUpload_written hitem.symm ?_ (fun id hne => ?_) hfound
  · rw [← hid]
    exact spoolGet_replaceItems_single hitems
  rw [← hid] at hne
  have hother : (sealedItem item).spoolItemId ≠ id := fun heq => hne heq.symm
  rw [replaceItems_single hitems, spoolGet_append_single, if_neg hother, Option.or_none]
  exact spoolGet_withoutItems_of_not_mem fun hmem => hne (List.mem_singleton.mp hmem)

/-- After a removal the records are those of the other Sessions. -/
theorem removeInflightSessionUpload_ok
    (h : (removeInflightSessionUpload sessionId).run s = (.ok (), t)) :
    t.state = s.state ∧ ∀ other found, usableUpload t.items other = some found →
      other ≠ sessionId ∧ usableUpload s.items other = some found := by
  have hrun : (replace [inflightSessionItemId sessionId] []).run s = (.ok (), t) := h
  refine ⟨replace_state hrun, fun other found hfound => ?_⟩
  have hitems : t.items = withoutItems s.items [inflightSessionItemId sessionId] :=
    (Except.ok.inj (replace_ok hrun)).symm
  by_cases hsame : other = sessionId
  · subst hsame
    obtain ⟨-, digest, hplain⟩ := usableUpload_eq_some hfound
    rw [sessionInflightPlaintext, hitems,
      spoolGet_withoutItems_of_mem (List.mem_singleton_self _)] at hplain
    cases hplain
  · refine ⟨hsame, ?_⟩
    rw [← hfound, usableUpload_congr]
    rw [hitems, spoolGet_withoutItems_of_not_mem]
    intro hmem
    exact hsame (inflightSessionItemId_inj.mp (List.mem_singleton.mp hmem))

/-- A transition that is applied leaves its state, and the items as they were. -/
theorem applyTransition_ok {transition : PersistedBridgeState → Except Thrown (StateTransition Unit)}
    (h : (applyTransition transition).run s = (.ok (), t)) :
    ∃ result, transition s.state = .ok result ∧ t.items = s.items ∧
      t.state = result.stateFrom s.state := by
  obtain ⟨_, _, hget, hrest⟩ := Effect.run_bind_eq_ok.mp h
  cases hget
  rcases htransition : transition s.state with thrown | (result | ⟨state, result⟩)
  · simp only [htransition] at hrest
    cases hrest
  · simp only [htransition] at hrest
    cases hrest
    exact ⟨_, rfl, rfl, rfl⟩
  · simp only [htransition] at hrest
    obtain ⟨_, u, hset, hpersist⟩ := Effect.run_bind_eq_ok.mp hrest
    cases hset
    obtain ⟨_, v, hpersist, hreturn⟩ := Effect.run_bind_eq_ok.mp hpersist
    cases hreturn
    have hstore := persist_ok hpersist
    subst hstore
    exact ⟨_, rfl, rfl, rfl⟩

/-- A committed revision is the current one afterwards, and no revision goes back. -/
theorem commitSessionRevision_ok {revision : Nat}
    (h : (commitSessionRevision sessionId revision).run s = (.ok (), t)) :
    t.items = s.items ∧ readCurrentSessionRevision t.state sessionId = revision ∧
      ∀ other, readCurrentSessionRevision s.state other
        ≤ readCurrentSessionRevision t.state other := by
  obtain ⟨result, htransition, hitems, hstate⟩ := applyTransition_ok h
  refine ⟨hitems, ?_⟩
  rcases commitSessionRevisionTransition_cases htransition with ⟨hcurrent, rfl⟩ | ⟨hnext, rfl⟩
  · have hsame : t.state = s.state := hstate
    rw [hsame]
    exact ⟨hcurrent.symm, fun _ => Nat.le_refl _⟩
  · have hset : t.state = { s.state with
        sessionRevisions := s.state.sessionRevisions.set sessionId revision } := hstate
    rw [hset]
    refine ⟨readCurrentSessionRevision_set_self .., fun other => ?_⟩
    by_cases hsame : other = sessionId
    · subst hsame
      rw [readCurrentSessionRevision_set_self, hnext]
      exact Nat.le_succ _
    · rw [readCurrentSessionRevision_set_ne _ _ hsame]

end

end Ariava.StateStore
