import Ariava.Proofs.ProducerOrder

/-!
# `Ariava.Proofs.ProducerReplay`: re-posting the last accepted source tuple

A producer that did not see the answer to its event posts the same tuple again. The Bridge
has the tuple as the checkpoint of the Session and answers with the event id of the
checkpoint. On the way it stages and promotes the tuple again when the reservation of the
content is still there, so the answer can fail or change what it should leave alone.

- `queuePendingEvent_still_iff`: queueing an event changes nothing exactly when it is
  already applied.
- `replayed_iff_replaySafe`: the replay is answered and changes nothing exactly when the
  reservation is gone, or the promotion is held back, or it re-applies what is there.
-/

set_option autoImplicit false

namespace Ariava.Proofs.ProducerReplay

open Ariava.Lib
open Ariava.Protocol
open Ariava.StateStore
open Ariava.AgentAdapter
open Ariava.AgentAdapter.AgentAdapterRegistry
open Ariava.Proofs.ProducerOrder

/-! ### An event that is already applied -/

/-- The state, the spool and their files have the same content. -/
structure SameContent (s s' : BridgeStore) : Prop where
  state : s'.state = s.state
  items : s'.items = s.items
  files : s'.files = s.files

/-- Queueing the tuple changes nothing: it is the pending source of its event, the state is
what it leads to, the file has that state, and the write succeeds. -/
structure AlreadyApplied (text : ProtocolText) (s : BridgeStore) (pending : PendingTerminal)
    (fingerprint : String) : Prop where
  bound : assertEventSessionBinding pending.event pending.session = .ok ()
  source : (spoolGet s.items pending.event.eventId).map SpoolItem.payloadKind
    = some .eventSourceV3
  stored : openProducerTuple s.items .eventSourceV3 pending.event.eventId fingerprint
    = .ok (some pending)
  applied : applyProducerReservation
    (applyPendingEventState text s.state pending.event pending.session) pending.event fingerprint
      = .ok s.state
  file : s.files.state = s.state
  write : s.nextWrite = .written

section
variable {text : ProtocolText} {s s' : BridgeStore} {pending : PendingTerminal}
  {fingerprint : String}

theorem assertStoredTuple_ok {kind : LocalSpoolPayloadKind}
    (h : (assertStoredTuple kind pending.event pending.session fingerprint).run s = (.ok (), s')) :
    openProducerTuple s.items kind pending.event.eventId fingerprint = .ok (some pending) ∧
      s' = s := by
  have hread : (do
      let existing ← openProducerTuple s.items kind pending.event.eventId fingerprint
      throwIf (decide (existing ≠ some (PendingTerminal.mk pending.event pending.session)))
        (Thrown.typeError "pending Event retry journal conflicts with the bound tuple"))
      = .ok () ∧ s' = s := by
    simp only [assertStoredTuple, readStore, Effect.run, Prod.mk.injEq] at h
    exact And.intro h.1 h.2.symm
  obtain ⟨hchecked, hsame⟩ := hread
  obtain ⟨existing, hopened, hequal⟩ := bind_eq_ok_iff.mp hchecked
  rw [throwIf_eq_ok, decide_eq_false_iff_not, not_not] at hequal
  rw [hopened, hequal]
  exact ⟨rfl, hsame⟩

/-- Journalling a tuple leaves the spool as it was only when it is the pending source
already. -/
theorem journalPendingEvent_still
    (h : (journalPendingEvent pending.event pending.session (some fingerprint)).run s
      = (.ok (), s')) (hitems : s'.items = s.items) :
    (spoolGet s.items pending.event.eventId).map SpoolItem.payloadKind = some .eventSourceV3 ∧
      openProducerTuple s.items .eventSourceV3 pending.event.eventId fingerprint
        = .ok (some pending) ∧ s' = s := by
  obtain ⟨_, _, hget, hjournal⟩ := Effect.run_bind_eq_ok.mp h
  cases hget
  split at hjournal
  · next hfingerprint hkind =>
    -- a reservation becomes a source, so the spool differs
    obtain ⟨_, t, hstored, hreplace⟩ := Effect.run_bind_eq_ok.mp hjournal
    cases hfingerprint
    obtain ⟨-, rfl⟩ := assertStoredTuple_ok hstored
    have hplaced := spoolGet_replaceItems_single (replace_ok hreplace)
    have hsource : (spoolGet s'.items pending.event.eventId).map SpoolItem.payloadKind
        = some .eventSourceV3 := congrArg (Option.map SpoolItem.payloadKind) hplaced
    rw [hitems, hkind] at hsource
    cases hsource
  · next hfingerprint hkind =>
    cases hfingerprint
    obtain ⟨hstored, hsame⟩ := assertStoredTuple_ok hjournal
    exact ⟨hkind, hstored, hsame⟩
  · next hreserved hsource =>
    -- a missing source is added, and an item of another kind is a conflict
    obtain ⟨stored, t, henqueue, hchecked⟩ := Effect.run_bind_eq_ok.mp hjournal
    rw [Effect.run_ofExcept, Prod.mk.injEq] at hchecked
    obtain ⟨-, rfl⟩ := hchecked
    rcases enqueue_ok henqueue with ⟨-, hadded⟩ | ⟨hfound, hbinding, -⟩
    · rw [hitems] at hadded
      have hlength := congrArg List.length hadded
      rw [List.length_append, List.length_singleton] at hlength
      omega
    · have hkind : stored.payloadKind = .eventSourceV3 := by
        simp only [sameItemBinding, Bool.and_eq_true, decide_eq_true_eq] at hbinding
        exact hbinding.2
      refine absurd ?_ (hsource fingerprint rfl)
      rw [show spoolGet s.items pending.event.eventId = some stored from hfound, Option.map_some,
        hkind]

/-- Journalling the pending source again changes nothing. -/
theorem journalPendingEvent_of_source
    (hsource : (spoolGet s.items pending.event.eventId).map SpoolItem.payloadKind
      = some .eventSourceV3)
    (hstored : openProducerTuple s.items .eventSourceV3 pending.event.eventId fingerprint
      = .ok (some pending)) :
    (journalPendingEvent pending.event pending.session (some fingerprint)).run s
      = (.ok (), s) := by
  refine Effect.run_bind_eq_ok.mpr ⟨s, s, rfl, ?_⟩
  rw [hsource]
  show ((do
    let existing ← openProducerTuple s.items .eventSourceV3 pending.event.eventId fingerprint
    throwIf (decide (existing ≠ some (PendingTerminal.mk pending.event pending.session)))
      (Thrown.typeError "pending Event retry journal conflicts with the bound tuple")), s) = _
  rw [hstored]
  show (throwIf (decide (some pending ≠ some pending)) _, s) = _
  rw [decide_eq_false (not_not.mpr rfl)]
  rfl

theorem applyReservationWhen_run_eq_ok :
    (applyReservationWhen pending.event (some fingerprint)).run s = (.ok (), s') ↔
      ∃ state, applyProducerReservation s.state pending.event fingerprint = .ok state ∧
        s' = { s with state := state } := by
  constructor
  · intro h
    obtain ⟨_, _, hget, hrest⟩ := Effect.run_bind_eq_ok.mp h
    cases hget
    obtain ⟨state, t, happlied, hset⟩ := Effect.run_bind_eq_ok.mp hrest
    rw [Effect.run_ofExcept, Prod.mk.injEq] at happlied
    obtain ⟨happlied, rfl⟩ := happlied
    cases hset
    exact ⟨state, happlied, rfl⟩
  · rintro ⟨state, happlied, rfl⟩
    refine Effect.run_bind_eq_ok.mpr ⟨s, s, rfl, Effect.run_bind_eq_ok.mpr ⟨state, s, ?_, rfl⟩⟩
    rw [Effect.run_ofExcept, happlied]

/-- Queueing an event changes no content exactly when it is already applied. -/
theorem queuePendingEvent_still_iff :
    (∃ s', (queuePendingEvent text pending.event pending.session (some fingerprint)).run s
        = (.ok (), s') ∧ SameContent s s') ↔ AlreadyApplied text s pending fingerprint := by
  constructor
  · rintro ⟨s', hrun, hsame⟩
    obtain ⟨_, t₁, hbound, h₁⟩ := Effect.run_bind_eq_ok.mp hrun
    obtain ⟨_, t₂, hjournal, h₂⟩ := Effect.run_bind_eq_ok.mp h₁
    obtain ⟨_, t₃, hget, h₃⟩ := Effect.run_bind_eq_ok.mp h₂
    obtain ⟨_, t₄, hset, h₄⟩ := Effect.run_bind_eq_ok.mp h₃
    obtain ⟨_, t₅, hreserve, hlast⟩ := Effect.run_bind_eq_ok.mp h₄
    rw [Effect.run_ofExcept, Prod.mk.injEq] at hbound
    obtain ⟨hbound, rfl⟩ := hbound
    cases hget
    cases hset
    obtain ⟨state, happlied, rfl⟩ := applyReservationWhen_run_eq_ok.mp hreserve
    rw [Effect.run_tryCatch] at hlast
    rcases hpersist : persist.run { t₂ with state := state } with ⟨_ | _, t₆⟩
    · rw [show persist.run _ = _ from hpersist] at hlast
      cases hlast
    · rw [show persist.run _ = _ from hpersist] at hlast
      cases hlast
      obtain ⟨hwritten, rfl⟩ := persist_run_eq_ok.mp hpersist
      obtain ⟨hsource, hstored, rfl⟩ := journalPendingEvent_still hjournal hsame.items
      have hstate : state = t₂.state := hsame.state
      subst hstate
      refine ⟨hbound, hsource, hstored, happlied, ?_, hwritten⟩
      exact (congrArg RuntimeFiles.state hsame.files).symm
  · intro h
    refine ⟨s.replaced { s.files with state := s.state }, ?_, rfl, rfl, ?_⟩
    · refine Effect.run_bind_eq_ok.mpr ⟨(), s, by rw [Effect.run_ofExcept, h.bound], ?_⟩
      refine Effect.run_bind_eq_ok.mpr ⟨(), s, journalPendingEvent_of_source h.source h.stored, ?_⟩
      refine Effect.run_bind_eq_ok.mpr ⟨s, s, rfl, ?_⟩
      refine Effect.run_bind_eq_ok.mpr ⟨(), _, rfl, ?_⟩
      refine Effect.run_bind_eq_ok.mpr ⟨(), s,
        applyReservationWhen_run_eq_ok.mpr ⟨s.state, h.applied, rfl⟩, ?_⟩
      rw [Effect.run_tryCatch, persist_run_eq_ok.mpr ⟨h.write, rfl⟩]
      rfl
    · show { s.files with state := s.state } = s.files
      rw [← h.file]

end

/-! ### A promotion that changes nothing -/

/-- The live Session and the content of the store are as before. -/
structure SameSession (sessionId : String) (w w' : BridgeWorld) : Prop where
  content : SameContent w.store w'.store
  session : w'.registry.sessions.get? sessionId = w.registry.sessions.get? sessionId

section
variable {text : ProtocolText} {at_ : RegistryReadings} {w w' : BridgeWorld}
  {sessionId fingerprint : String} {session : RegisteredSession} {pending : PendingTerminal}

/-- The retry of a committed event is forgotten, when its content can be encoded. -/
theorem cancelTerminalRetry_committed
    (hstaged : w.registry.terminals.delayedTerminalEvents.get? sessionId = some pending) :
    (cancelTerminalRetry text (bridgeStateStore text) at_ sessionId { committed := true }).run w
      = match producerEventFingerprint text (producerPart pending.event) with
        | .error thrown => (.error thrown, w)
        | .ok _ => (.ok (), { w with registry := { w.registry with
            terminals := forgetTerminal w.registry.terminals sessionId } }) := by
  unfold cancelTerminalRetry
  rw [Effect.run_bind, run_read, Effect.next_ok, Effect.run_bind, Effect.run_ofExcept, hstaged,
    terminalToCancel]
  rcases producerEventFingerprint text (producerPart pending.event) with thrown | content
  · rfl
  · rfl

theorem commitTerminalSession_run (previous terminal : RegisteredSession) (w : BridgeWorld) :
    ∃ w', (commitTerminalSession sessionId previous terminal).run w = (.ok (), w') ∧
      w'.store = w.store ∧
      w'.registry = { w.registry with
        sessions := w.registry.sessions.set sessionId terminal } := by
  unfold commitTerminalSession
  rw [Effect.run_bind, run_setSessions, Effect.next_ok]
  split
  · exact ⟨_, rfl, rfl, rfl⟩
  · exact ⟨_, rfl, rfl, rfl⟩

/-- A staged event is committed without a change exactly when it is already applied, in the
state and in the live Session. -/
theorem commitPendingTerminal_still_iff
    (hsession : w.registry.sessions.get? sessionId = some session)
    (hstaged : w.registry.terminals.delayedTerminalEvents.get? sessionId = some pending) :
    (∃ w', (commitPendingTerminal text (bridgeStateStore text) at_ sessionId pending
        fingerprint).run w = (.ok (), w') ∧ SameSession sessionId w w') ↔
      AlreadyApplied text w.store pending fingerprint ∧
        fromCanonicalTerminalSession session pending.session = session ∧
        (producerEventFingerprint text (producerPart pending.event)).isOk = true := by
  unfold commitPendingTerminal
  rw [Effect.run_bind, run_read, Effect.next_ok, hsession]
  dsimp only
  rw [Effect.run_bind, run_storeCall, ← queuePendingEvent_still_iff]
  show (∃ w', Effect.next _ (((queuePendingEvent text pending.event pending.session
    (some fingerprint)).run w.store).1, { w with store := ((queuePendingEvent text pending.event
      pending.session (some fingerprint)).run w.store).2 }) = _ ∧ _) ↔ _
  rcases hqueue : (queuePendingEvent text pending.event pending.session
    (some fingerprint)).run w.store with ⟨thrown | _, s'⟩
  · constructor
    · rintro ⟨w', hrun, -⟩
      cases hrun
    · rintro ⟨⟨_, hrun, -⟩, -⟩
      cases hrun
  obtain ⟨u, hcommit, hstore, hregistry⟩ := @commitTerminalSession_run sessionId
    session (fromCanonicalTerminalSession session pending.session) { w with store := s' }
  have hstaged' : u.registry.terminals.delayedTerminalEvents.get? sessionId = some pending := by
    rw [hregistry]
    exact hstaged
  have hlive : u.registry.sessions.get? sessionId
      = some (fromCanonicalTerminalSession session pending.session) := by
    rw [hregistry]
    exact Dict.get?_set_self _ _ _
  rw [Effect.next_ok, Effect.run_bind, hcommit, Effect.next_ok,
    cancelTerminalRetry_committed hstaged']
  rcases hcontent : producerEventFingerprint text (producerPart pending.event) with
    thrown | content
  · constructor
    · rintro ⟨w', hrun, -⟩
      cases hrun
    · rintro ⟨-, -, hok⟩
      cases hok
  constructor
  · rintro ⟨w', hrun, hsame⟩
    cases hrun
    have hstore' : SameContent w.store u.store := hsame.content
    rw [hstore] at hstore'
    refine ⟨⟨s', rfl, hstore'⟩, ?_, rfl⟩
    have hsessions := hsame.session
    rw [hsession] at hsessions
    exact Option.some.inj (hlive.symm.trans hsessions)
  · rintro ⟨⟨_, hrun, hsame⟩, happlied, -⟩
    cases hrun
    refine ⟨_, rfl, ?_, ?_⟩
    · show SameContent w.store u.store
      rw [hstore]
      exact hsame
    · show u.registry.sessions.get? sessionId = _
      rw [hlive, hsession, happlied]

/-- A promotion returns when its commit does. -/
theorem promotePendingTerminal_ok_iff :
    (promotePendingTerminal text (bridgeStateStore text) at_ sessionId pending fingerprint).run w
        = (.ok (), w') ↔
      (commitPendingTerminal text (bridgeStateStore text) at_ sessionId pending fingerprint).run w
        = (.ok (), w') := by
  unfold promotePendingTerminal
  rw [Effect.run_tryCatch]
  rcases (commitPendingTerminal text (bridgeStateStore text) at_ sessionId pending
    fingerprint).run w with ⟨thrown | _, u⟩
  · constructor
    · intro h
      obtain ⟨_, v, -, hthrow⟩ := Effect.run_bind_eq_ok.mp h
      cases hthrow
    · intro h
      cases h
  · exact Iff.rfl

end

/-! ### The replay -/

/-- The request is the last source tuple that the Bridge accepted for the Session: the
checkpoint has its tuple and its content, and the Session is still registered. -/
structure LastAccepted (text : ProtocolText) (sessionId : String) (w : BridgeWorld)
    (request : AgentAdapterEventRequest) (session : RegisteredSession)
    (checkpoint : ProducerEventSourceCheckpointV1) : Prop where
  registered : w.registry.sessions.get? sessionId = some session
  valid : validateAgentAdapterEventRequest request = true
  accepted : w.store.state.producerEventCheckpoints.get? sessionId = some checkpoint
  tuple : SameTuple checkpoint request
  content : producerEventFingerprint text request.event = .ok checkpoint.fingerprint

/-- The replay is answered as a duplicate with the event id of the checkpoint, and neither the
content of the store nor the live Session changes. -/
def Replayed (text : ProtocolText) (at_ : RegistryReadings) (sessionId : String)
    (w : BridgeWorld) (request : AgentAdapterEventRequest)
    (checkpoint : ProducerEventSourceCheckpointV1) : Prop :=
  ∃ w', (pushEventSource text (bridgeStateStore text) at_ sessionId request).run w
      = (.ok ⟨checkpoint.eventId, request.producerEventId, request.producerEventOrder,
          .duplicate⟩, w') ∧
    SameSession sessionId w w'

/-- In every run of the registry in which the Session stays with its owner, the replay of the
last accepted tuple is answered and changes nothing. -/
def ReplayIdempotence (text : ProtocolText) : Prop :=
  ∀ sessionId restart files as s at_ request session checkpoint,
    Run (ProducerStep text sessionId) (freshSystem restart files) as s →
    LastAccepted text sessionId s.system.world request session checkpoint →
    Replayed text at_ sessionId s.system.world request checkpoint

/-- The tuple that the replay stages is there, and it is not promoted, or its promotion
re-applies what is there. -/
structure TupleSettled (text : ProtocolText) (sessionId : String) (w : BridgeWorld)
    (session : RegisteredSession) (checkpoint : ProducerEventSourceCheckpointV1)
    (pending : PendingTerminal) : Prop where
  stored : producerEventTuple w.store.items checkpoint.eventId checkpoint.fingerprint
    = .ok (some pending)
  settled : w.registry.commands.hasPendingCommandWork sessionId = true ∨
    (AlreadyApplied text w.store pending checkpoint.fingerprint ∧
      fromCanonicalTerminalSession session pending.session = session ∧
      (producerEventFingerprint text (producerPart pending.event)).isOk = true)

/-- The condition under which a replay is idempotent: the live Session still has the context
of the event, and the reservation of its content is gone, or its tuple is settled. -/
structure ReplaySafe (text : ProtocolText) (sessionId : String) (w : BridgeWorld)
    (request : AgentAdapterEventRequest) (session : RegisteredSession)
    (checkpoint : ProducerEventSourceCheckpointV1) : Prop where
  context : acceptProducerEventInput text sessionId session request.event = .ok request.event
  settled : ∀ reserved, reservationOf w.store.state sessionId checkpoint.fingerprint
      = some reserved →
    reserved.eventId = checkpoint.eventId ∧
      ∃ pending, TupleSettled text sessionId w session checkpoint pending

section
variable {text : ProtocolText} {at_ : RegistryReadings} {w w' : BridgeWorld}
  {sessionId fingerprint : String} {session : RegisteredSession}
  {request : AgentAdapterEventRequest} {checkpoint : ProducerEventSourceCheckpointV1}

/-- A replay in the context of the Session is answered from the checkpoint. -/
theorem pushEventSource_of_lastAccepted
    (hlast : LastAccepted text sessionId w request session checkpoint)
    (hcontext : acceptProducerEventInput text sessionId session request.event
      = .ok request.event) :
    (pushEventSource text (bridgeStateStore text) at_ sessionId request).run w
      = (answerAcceptedSource text (bridgeStateStore text) at_ sessionId checkpoint request
          checkpoint.fingerprint).run w := by
  unfold pushEventSource
  rw [Effect.run_bind, run_read, Effect.next_ok, hlast.registered]
  dsimp only
  rw [if_pos hlast.valid, Effect.run_bind, Effect.run_ofExcept, hcontext, Effect.next_ok,
    Effect.run_bind, Effect.run_ofExcept, hlast.content, Effect.next_ok, Effect.run_bind]
  show Effect.next _ (.ok (w.store.state.producerEventCheckpoints.get? sessionId), w) = _
  rw [hlast.accepted, Effect.next_ok]
  obtain ⟨hid, horder⟩ := hlast.tuple
  dsimp only
  rw [if_pos ⟨hid, horder⟩]

/-- A replay out of the context of the Session is refused. -/
theorem pushEventSource_of_context {thrown : Thrown}
    (hlast : LastAccepted text sessionId w request session checkpoint)
    (hcontext : acceptProducerEventInput text sessionId session request.event
      = .error thrown) :
    (pushEventSource text (bridgeStateStore text) at_ sessionId request).run w
      = (.error thrown, w) := by
  unfold pushEventSource
  rw [Effect.run_bind, run_read, Effect.next_ok, hlast.registered]
  dsimp only
  rw [if_pos hlast.valid, Effect.run_bind, Effect.run_ofExcept, hcontext]
  rfl

/-- The world with the tuple staged. -/
def stagedWorld (w : BridgeWorld) (sessionId : String) (pending : PendingTerminal) :
    BridgeWorld :=
  { w with registry := { w.registry with terminals := { w.registry.terminals with
      delayedTerminalEvents :=
        w.registry.terminals.delayedTerminalEvents.set sessionId pending } } }

theorem sameSession_stagedWorld {pending : PendingTerminal} :
    SameSession sessionId (stagedWorld w sessionId pending) w' ↔ SameSession sessionId w w' :=
  ⟨fun h => ⟨h.content, h.session⟩, fun h => ⟨h.content, h.session⟩⟩

/-- The staged tuple is promoted when no command is pending. -/
theorem promoteStaged_still_iff {pending : PendingTerminal}
    (hsession : w.registry.sessions.get? sessionId = some session) :
    (∃ w', (do
        stageTerminal sessionId pending
        let registry ← read
        promoteWhen text (bridgeStateStore text) at_
          (!registry.commands.hasPendingCommandWork sessionId) sessionId pending fingerprint :
          RegistryEffect BridgeStore Unit).run w = (.ok (), w') ∧ SameSession sessionId w w') ↔
      (w.registry.commands.hasPendingCommandWork sessionId = true ∨
        (AlreadyApplied text w.store pending fingerprint ∧
          fromCanonicalTerminalSession session pending.session = session ∧
          (producerEventFingerprint text (producerPart pending.event)).isOk = true)) := by
  have hstage : (stageTerminal sessionId pending : RegistryEffect BridgeStore Unit).run w
      = (.ok (), stagedWorld w sessionId pending) := rfl
  have hcommands : (stagedWorld w sessionId pending).registry.commands = w.registry.commands := rfl
  rw [Effect.run_bind, hstage, Effect.next_ok, Effect.run_bind, run_read, Effect.next_ok,
    hcommands]
  unfold promoteWhen
  rcases w.registry.commands.hasPendingCommandWork sessionId with _ | _
  · rw [Bool.not_false, if_pos rfl, or_iff_right Bool.false_ne_true]
    simp only [promotePendingTerminal_ok_iff]
    have hcommit : (∃ w', (commitPendingTerminal text (bridgeStateStore text) at_ sessionId pending
        fingerprint).run (stagedWorld w sessionId pending) = (.ok (), w') ∧
          SameSession sessionId (stagedWorld w sessionId pending) w') ↔ _ :=
      commitPendingTerminal_still_iff hsession (Dict.get?_set_self _ _ pending)
    simp only [sameSession_stagedWorld] at hcommit
    exact hcommit
  · rw [Bool.not_true, if_neg Bool.false_ne_true]
    exact iff_of_true ⟨_, rfl, ⟨rfl, rfl, rfl⟩, rfl⟩ (.inl rfl)

/-- The replay changes nothing exactly when the reservation is gone or its tuple is settled. -/
theorem promoteAcceptedSource_still_iff
    (hsession : w.registry.sessions.get? sessionId = some session) :
    (∃ w', (promoteAcceptedSource text (bridgeStateStore text) at_ sessionId checkpoint
        checkpoint.fingerprint).run w = (.ok (), w') ∧ SameSession sessionId w w') ↔
      ∀ reserved, reservationOf w.store.state sessionId checkpoint.fingerprint = some reserved →
        reserved.eventId = checkpoint.eventId ∧
          ∃ pending, TupleSettled text sessionId w session checkpoint pending := by
  have hreservation : (storeCall ((bridgeStateStore text).getProducerEventReservation sessionId
      checkpoint.fingerprint) : RegistryEffect BridgeStore _).run w
      = (.ok (reservationOf w.store.state sessionId checkpoint.fingerprint), w) := rfl
  have htuple : (storeCall ((bridgeStateStore text).getProducerEventTuple checkpoint.eventId
      checkpoint.fingerprint) : RegistryEffect BridgeStore _).run w
      = (producerEventTuple w.store.items checkpoint.eventId checkpoint.fingerprint, w) := rfl
  unfold promoteAcceptedSource
  rw [Effect.run_bind, hreservation]
  rcases reservationOf w.store.state sessionId checkpoint.fingerprint with _ | reserved
  · exact iff_of_true ⟨w, rfl, ⟨rfl, rfl, rfl⟩, rfl⟩ nofun
  rw [Effect.next_ok]
  dsimp only
  simp only [Option.some.injEq, forall_eq']
  by_cases hid : reserved.eventId = checkpoint.eventId
  case neg =>
    rw [if_pos hid]
    refine iff_of_false ?_ fun h => hid h.1
    rintro ⟨w', hrun, -⟩
    cases hrun
  rw [if_neg (not_not.mpr hid), Effect.run_bind, htuple]
  rcases hstored : producerEventTuple w.store.items checkpoint.eventId checkpoint.fingerprint with
    thrown | (_ | pending)
  · refine iff_of_false ?_ ?_
    · rintro ⟨w', hrun, -⟩
      cases hrun
    · rintro ⟨-, pending, hsettled⟩
      exact absurd (hstored.symm.trans hsettled.stored) nofun
  · refine iff_of_false ?_ ?_
    · rintro ⟨w', hrun, -⟩
      cases hrun
    · rintro ⟨-, pending, hsettled⟩
      exact absurd (hstored.symm.trans hsettled.stored) nofun
  · rw [Effect.next_ok]
    dsimp only
    rw [promoteStaged_still_iff hsession]
    constructor
    · exact fun h => ⟨hid, pending, hstored, h⟩
    · rintro ⟨-, other, hsettled⟩
      have hsame : pending = other :=
        Option.some.inj (Except.ok.inj (hstored.symm.trans hsettled.stored))
      rw [hsame]
      exact hsettled.settled

/-- The replay of the last accepted tuple is answered as a duplicate and changes nothing,
exactly when the live Session still has the context of the event, and the reservation of its
content is gone or its tuple is settled. -/
theorem replayed_iff_replaySafe
    (hlast : LastAccepted text sessionId w request session checkpoint) :
    Replayed text at_ sessionId w request checkpoint ↔
      ReplaySafe text sessionId w request session checkpoint := by
  rcases hcontext : acceptProducerEventInput text sessionId session request.event with
    thrown | input
  · refine iff_of_false ?_ fun h => absurd (hcontext.symm.trans h.context) nofun
    rintro ⟨w', hrun, -⟩
    rw [pushEventSource_of_context hlast hcontext] at hrun
    cases hrun
  obtain rfl := acceptProducerEventInput_ok hcontext
  have hsettled : (∃ w', (promoteAcceptedSource text (bridgeStateStore text) at_ sessionId
      checkpoint checkpoint.fingerprint).run w = (.ok (), w') ∧ SameSession sessionId w w') ↔ _ :=
    promoteAcceptedSource_still_iff hlast.registered
  have hanswer : (answerAcceptedSource text (bridgeStateStore text) at_ sessionId checkpoint
      request checkpoint.fingerprint).run w
      = Effect.next (fun _ => pure ⟨checkpoint.eventId, request.producerEventId,
          request.producerEventOrder, .duplicate⟩)
        ((promoteAcceptedSource text (bridgeStateStore text) at_ sessionId checkpoint
          checkpoint.fingerprint).run w) := by
    rw [answerAcceptedSource, if_neg (not_not.mpr rfl)]
    rfl
  unfold Replayed
  rw [pushEventSource_of_lastAccepted hlast hcontext, hanswer]
  constructor
  · rintro ⟨w', hrun, hsame⟩
    refine ⟨hcontext, hsettled.mp ⟨w', ?_, hsame⟩⟩
    rcases hpromote : (promoteAcceptedSource text (bridgeStateStore text) at_ sessionId checkpoint
      checkpoint.fingerprint).run w with ⟨thrown | _, u⟩
    · rw [hpromote] at hrun
      cases hrun
    · rw [hpromote] at hrun
      cases hrun
      rfl
  · intro hsafe
    obtain ⟨w', hpromote, hsame⟩ := hsettled.mpr hsafe.settled
    rw [hpromote]
    exact ⟨w', rfl, hsame⟩

end

/-! ### A replay after a heartbeat -/

/-- The Session works again. -/
def workingHeartbeat : RegistryAction BridgeStore :=
  .request ⟨"session", some ("AAAAAAAAAAAAAAAAAAAAAA", "lease"),
    .heartbeat ⟨.working, .keep, .keep, none, none⟩⟩

/-- The Session finishes a turn and then works again. -/
def movedOn : List (TimedAction BridgeStore) :=
  [bridgeAt 1 "lease" registerPi,
    bridgeAt 2 "event-1" (postDone "00000000000000000000000000000001" "Done"),
    bridgeAt 3 "" workingHeartbeat]

/-- The system after that. -/
def movedOnSystem : ProducerSystem := emptyBridge.after parityText "session" movedOn

/-- The tuple of the finished turn. -/
def postedDone : AgentAdapterEventRequest := doneRequest "00000000000000000000000000000001" "Done"

/-- The checkpoint of the finished turn. -/
def movedOnCheckpoint : ProducerEventSourceCheckpointV1 where
  sessionId := "session"
  producerEventId := "AAAAAAAAAAAAAAAAAAAAAA"
  producerEventOrder := "00000000000000000000000000000001"
  eventId := "event-1"
  fingerprint := "EAAAAAAAAAAAAAAAAAAAAAAAAAAAAAAAAAAAAAAAAAA"
  createdAt := "2026-01-01T00:00:00.000Z"

set_option maxRecDepth 20000 in
theorem movedOn_run :
    Run (ProducerStep parityText "session") emptyBridge (movedOn.map .act) movedOnSystem :=
  run_of_acts (by decide +kernel)

set_option maxRecDepth 20000 in
theorem movedOn_checkpoint :
    movedOnSystem.system.world.store.state.producerEventCheckpoints.get? "session"
      = some movedOnCheckpoint := by
  decide +kernel

set_option maxRecDepth 20000 in
theorem movedOn_registered :
    (movedOnSystem.system.world.registry.sessions.get? "session").isSome = true := by
  decide +kernel

set_option maxRecDepth 20000 in
theorem postedDone_valid : validateAgentAdapterEventRequest postedDone = true := by
  decide +kernel

set_option maxRecDepth 20000 in
theorem postedDone_fingerprint :
    producerEventFingerprint parityText postedDone.event = .ok movedOnCheckpoint.fingerprint := by
  decide +kernel

theorem movedOn_lastAccepted : ∃ session,
    LastAccepted parityText "session" movedOnSystem.system.world postedDone session
      movedOnCheckpoint := by
  obtain ⟨session, hsession⟩ := Option.isSome_iff_exists.mp movedOn_registered
  exact ⟨session, hsession, postedDone_valid, movedOn_checkpoint, ⟨rfl, rfl⟩,
    postedDone_fingerprint⟩

theorem replayed_iff_replaySafe_movedOn : ∃ session,
    LastAccepted parityText "session" movedOnSystem.system.world postedDone session
        movedOnCheckpoint ∧
      (Replayed parityText (bridgeAt 4 "event-2" registerPi).at_ "session"
          movedOnSystem.system.world postedDone movedOnCheckpoint ↔
        ReplaySafe parityText "session" movedOnSystem.system.world postedDone session
          movedOnCheckpoint) :=
  movedOn_lastAccepted.imp fun _ h => ⟨h, replayed_iff_replaySafe h⟩

set_option maxRecDepth 20000 in
theorem movedOn_session_changes :
    (((pushEventSource parityText (bridgeStateStore parityText)
        (bridgeAt 4 "event-2" registerPi).at_ "session" postedDone).run
          movedOnSystem.system.world).2.registry.sessions.get? "session").map (·.status)
      ≠ (movedOnSystem.system.world.registry.sessions.get? "session").map (·.status) := by
  decide +kernel

/-- The replay promotes the event again, so the live Session goes back to `idle`. -/
theorem not_replayIdempotence : ¬ReplayIdempotence parityText := by
  intro hidempotent
  obtain ⟨session, hlast⟩ := movedOn_lastAccepted
  obtain ⟨w', hrun, hsame⟩ := hidempotent _ _ _ _ _ (bridgeAt 4 "event-2" registerPi).at_ _ _ _
    movedOn_run hlast
  have hsession := hsame.session
  have hchanges := movedOn_session_changes
  rw [hrun] at hchanges
  exact hchanges (congrArg (Option.map (·.status)) hsession)

end Ariava.Proofs.ProducerReplay
