import Ariava.AgentAdapter.EventPush
import Ariava.Lib.Gate
import Ariava.Proofs.EventPublishability

/-!
# `Ariava.Proofs.TerminalMoves`: the delayed terminal event of a Session is a gate

The terminal event of a Session waits in the registry until the Session has no pending command
work. Its command work, its staged tuple and its retry timer are the parts of a gate
(`gateOf`), and the store is the sink. The registry runs over a store that records the calls
about terminal events (`recordedStore`), so the calls are in the gate too.

Each method of the registry plays a run of moves of the gate (`Plays`): it changes the gate as
these moves do, and each of them is allowed. A push stages one tuple at most, and the other
methods stage none.

- `plays_flushDelayedTerminalEvent`, `plays_terminalRetryTimerFires`: the triggers.
- `plays_enqueueCommand`, `plays_dequeueCommand`, `plays_resolveCommand`,
  `plays_abandonCommand`, `plays_heartbeat`: the other methods.
- `plays_pushEvent`, `plays_pushEventSource`: the pushes, when the staging is sound
  (`SoundStaging`).
-/

set_option autoImplicit false

namespace Ariava.Proofs.TerminalMoves

open Ariava.Lib
open Ariava.Protocol
open Ariava.StateStore
open Ariava.AgentAdapter
open Ariava.AgentAdapter.AgentAdapterRegistry
open Ariava.Proofs.EventPublishability

variable {ω α β : Type}

/-! ### The recorded store -/

/-- A store with its calls about terminal events, latest first. -/
structure Recorded (ω : Type) where
  store : ω
  calls : List (GateCall PendingTerminal String)

/-- A call that is not recorded. -/
def unrecorded (p : Effect Thrown ω α) : Effect Thrown (Recorded ω) α :=
  Effect.zoom (fun r => r.store) (fun store r => { r with store := store }) p

/-- Record a call. -/
def record (call : GateCall PendingTerminal String) : Effect Thrown (Recorded ω) Unit :=
  modify fun r => { r with calls := call :: r.calls }

/-- The store, with a record of the tuples that it is asked to queue and of the cancellations
that it makes. -/
def recordedStore (store : RegistryStateStore ω) : RegistryStateStore (Recorded ω) where
  getSession id := unrecorded (store.getSession id)
  getDriverNameForSession id := unrecorded (store.getDriverNameForSession id)
  setSessionDriver id driver session := unrecorded (store.setSessionDriver id driver session)
  removeSession id driver := unrecorded (store.removeSession id driver)
  getTerminalEventCancellation id := unrecorded (store.getTerminalEventCancellation id)
  cancelTerminalEvent input := do
    unrecorded (store.cancelTerminalEvent input)
    record (.cancelled input.eventId)
  reserveProducerEventTuple event session fingerprint :=
    unrecorded (store.reserveProducerEventTuple event session fingerprint)
  getProducerEventTuple eventId fingerprint :=
    unrecorded (store.getProducerEventTuple eventId fingerprint)
  reserveProducerEvent reservation := unrecorded (store.reserveProducerEvent reservation)
  acceptProducerEventSource input := unrecorded (store.acceptProducerEventSource input)
  getProducerEventReservation id fingerprint :=
    unrecorded (store.getProducerEventReservation id fingerprint)
  listProducerEventReservations id := unrecorded (store.listProducerEventReservations id)
  getProducerEventCheckpoint id := unrecorded (store.getProducerEventCheckpoint id)
  getRecentEvent eventId := unrecorded (store.getRecentEvent eventId)
  queuePendingEvent event session fingerprint := do
    tryCatch (unrecorded (store.queuePendingEvent event session fingerprint)) fun thrown => do
      record (.offered ⟨event, session⟩ false)
      throw thrown
    record (.offered ⟨event, session⟩ true)
  queuePendingSessionHandle handle := unrecorded (store.queuePendingSessionHandle handle)
  markCommandOutcomeUnknownIfPresent commandId :=
    unrecorded (store.markCommandOutcomeUnknownIfPresent commandId)

theorem run_unrecorded (p : Effect Thrown ω α) (r : Recorded ω) :
    (unrecorded p).run r = ((p.run r.store).1, { r with store := (p.run r.store).2 }) := rfl

/-- A store is asked to queue a tuple: it takes it or throws, and either is recorded. -/
theorem queuePendingEvent_cases (store : RegistryStateStore ω) (event : CanonicalEvent)
    (session : CanonicalSessionState) (fingerprint : String) (r : Recorded ω) :
    (∃ t, ((recordedStore store).queuePendingEvent event session fingerprint).run r
        = (.ok (), ⟨t, .offered ⟨event, session⟩ true :: r.calls⟩)) ∨
      ∃ thrown t, ((recordedStore store).queuePendingEvent event session fingerprint).run r
        = (.error thrown, ⟨t, .offered ⟨event, session⟩ false :: r.calls⟩) := by
  unfold recordedStore
  dsimp only
  rw [Effect.run_bind, Effect.run_tryCatch, run_unrecorded]
  rcases (store.queuePendingEvent event session fingerprint).run r.store with ⟨thrown | _, t⟩
  · exact .inr ⟨thrown, t, rfl⟩
  · exact .inl ⟨t, rfl⟩

/-- A cancellation is recorded when the store makes it. -/
theorem cancelTerminalEvent_cases (store : RegistryStateStore ω)
    (input : TerminalEventCancellationInput) (r : Recorded ω) :
    (∃ t, ((recordedStore store).cancelTerminalEvent input).run r
        = (.ok (), ⟨t, .cancelled input.eventId :: r.calls⟩)) ∨
      ∃ thrown t, ((recordedStore store).cancelTerminalEvent input).run r
        = (.error thrown, ⟨t, r.calls⟩) := by
  unfold recordedStore
  dsimp only
  rw [Effect.run_bind, run_unrecorded]
  rcases (store.cancelTerminalEvent input).run r.store with ⟨thrown | _, t⟩
  · exact .inr ⟨thrown, t, rfl⟩
  · exact .inl ⟨t, rfl⟩

/-- The call that accepts a tuple is not recorded. -/
theorem acceptance_calls (store : RegistryStateStore ω) (acceptance : TupleAcceptance)
    (r : Recorded ω) :
    ((acceptance.call (recordedStore store)).run r).2.calls = r.calls := by
  cases acceptance <;> rfl

/-! ### The gate -/

/-- A world over a recorded store. -/
abbrev RecordedWorld (ω : Type) : Type := RegistryWorld (Recorded ω)

/-- The name under which a tuple is cancelled. -/
def eventName (tuple : PendingTerminal) : String := tuple.event.eventId

/-- The gate of a Session. -/
def gateOf (sessionId : String) (w : RecordedWorld ω) : Gate PendingTerminal String where
  staged := w.registry.terminals.delayedTerminalEvents.get? sessionId
  busy := w.registry.commands.hasPendingCommandWork sessionId
  armed := w.registry.terminals.terminalRetryTimers.contains sessionId
  due := false
  calls := w.store.calls

/-- The producer fingerprint of a tuple can be computed: its content passes the check of a
producer event. -/
def Printable (text : ProtocolText) (tuple : PendingTerminal) : Prop :=
  ∃ fingerprint, producerEventFingerprint text (producerPart tuple.event) = .ok fingerprint

/-- The Session is registered, its queue holds its own commands, and its staged tuple has a
fingerprint. -/
structure Attended (text : ProtocolText) (sessionId : String) (w : RecordedWorld ω) : Prop where
  registered : w.registry.sessions.contains sessionId = true
  live : w.registry.disposed = false
  queued : ∀ command ∈ w.registry.commands.queue sessionId, command.sessionId = sessionId
  printable : ∀ tuple, (gateOf sessionId w).staged = some tuple → Printable text tuple

/-- Neither the gate nor the registration nor the queue of the Session changes. -/
structure Unmoved (sessionId : String) (w w' : RecordedWorld ω) : Prop where
  registered : w'.registry.sessions.contains sessionId = w.registry.sessions.contains sessionId
  live : w'.registry.disposed = w.registry.disposed
  queue : w'.registry.commands.queue sessionId = w.registry.commands.queue sessionId
  gate : gateOf sessionId w' = gateOf sessionId w

/-- The registry and the record stay as they are. -/
structure Reads (w w' : RecordedWorld ω) : Prop where
  registry : w'.registry = w.registry
  calls : w'.store.calls = w.store.calls

/-- The store is offered a tuple, and the gate changes as it does in that move. -/
structure Offers (sessionId : String) (tuple : PendingTerminal) (taken : Bool)
    (w w' : RecordedWorld ω) : Prop where
  registered : w'.registry.sessions.contains sessionId = w.registry.sessions.contains sessionId
  live : w'.registry.disposed = w.registry.disposed
  commands : w'.registry.commands = w.registry.commands
  gate : gateOf sessionId w' = (gateOf sessionId w).move eventName (.offer tuple taken)

/-- The gate changes along moves that are all allowed, with at most `n` new tuples. -/
def Plays (text : ProtocolText) (sessionId : String) (n : Nat) (w w' : RecordedWorld ω) : Prop :=
  Attended text sessionId w → Attended text sessionId w' ∧
    ∃ moves, Run (Gate.Step eventName) (gateOf sessionId w) moves (gateOf sessionId w') ∧
      moves.countP GateMove.isStage ≤ n

section
variable {text : ProtocolText} {sessionId : String} {m n : Nat} {u v w w' : RecordedWorld ω}

theorem Attended.unmoved (h : Attended text sessionId w) (hsame : Unmoved sessionId w w') :
    Attended text sessionId w' where
  registered := hsame.registered.trans h.registered
  live := hsame.live.trans h.live
  queued := by
    rw [hsame.queue]
    exact h.queued
  printable := by
    rw [hsame.gate]
    exact h.printable

theorem Reads.refl (w : RecordedWorld ω) : Reads w w := ⟨rfl, rfl⟩

theorem Reads.trans (u v w : RecordedWorld ω) (h₁ : Reads u v) (h₂ : Reads v w) : Reads u w :=
  ⟨h₂.registry.trans h₁.registry, h₂.calls.trans h₁.calls⟩

theorem Reads.unmoved (h : Reads w w') : Unmoved sessionId w w' where
  registered := by rw [h.registry]
  live := by rw [h.registry]
  queue := by rw [h.registry]
  gate := by rw [gateOf, gateOf, h.registry, h.calls]

/-- A call that is not recorded reads. -/
theorem reads_unrecorded (p : Effect Thrown ω α) :
    Effect.Leaves Reads (storeCall (unrecorded p)) := fun _ => ⟨rfl, rfl⟩

namespace Plays

theorem of_unmoved (h : Unmoved sessionId w w') : Plays text sessionId n w w' := by
  intro hattended
  refine ⟨hattended.unmoved h, [], ?_, Nat.zero_le n⟩
  rw [h.gate]
  exact Run.nil _

theorem refl (w : RecordedWorld ω) : Plays text sessionId n w w :=
  of_unmoved ⟨rfl, rfl, rfl, rfl⟩

theorem of_reads (h : Reads w w') : Plays text sessionId n w w' := of_unmoved h.unmoved

theorem append (h₁ : Plays text sessionId m u v) (h₂ : Plays text sessionId n v w) :
    Plays text sessionId (m + n) u w := by
  intro hattended
  obtain ⟨hmiddle, before, hbefore, hm⟩ := h₁ hattended
  obtain ⟨hlast, after, hafter, hn⟩ := h₂ hmiddle
  refine ⟨hlast, before ++ after, hbefore.append hafter, ?_⟩
  rw [List.countP_append]
  omega

/-- A part that stages nothing comes first. -/
theorem then_ (h₁ : Plays text sessionId 0 u v) (h₂ : Plays text sessionId n v w) :
    Plays text sessionId n u w := by
  have h := h₁.append h₂
  rwa [Nat.zero_add] at h

theorem mono (hmn : m ≤ n) (h : Plays text sessionId m w w') : Plays text sessionId n w w' := by
  intro hattended
  obtain ⟨hlast, moves, hrun, hcount⟩ := h hattended
  exact ⟨hlast, moves, hrun, hcount.trans hmn⟩

/-- A program whose first part stages nothing. -/
theorem bind {p : RegistryEffect (Recorded ω) α} {f : α → RegistryEffect (Recorded ω) β}
    (hp : Plays text sessionId 0 w (p.run w).2)
    (hf : ∀ a, (p.run w).1 = .ok a →
      Plays text sessionId n (p.run w).2 ((f a).run (p.run w).2).2) :
    Plays text sessionId n w ((p >>= f).run w).2 := by
  rw [Effect.run_bind]
  rcases hrun : p.run w with ⟨_ | a, t⟩
  · rw [hrun] at hp
    exact hp.mono (Nat.zero_le n)
  · rw [hrun] at hp hf
    exact hp.then_ (hf a rfl)

/-- A program that reads first. -/
theorem reads_bind {p : RegistryEffect (Recorded ω) α} {f : α → RegistryEffect (Recorded ω) β}
    (hp : Effect.Leaves Reads p)
    (hf : ∀ a v, p.run w = (.ok a, v) → Reads w v →
      Plays text sessionId n v ((f a).run v).2) :
    Plays text sessionId n w ((p >>= f).run w).2 :=
  bind (of_reads (hp w)) fun a ha => hf a _ (Prod.ext ha rfl) (hp w)

end Plays

end

/-! ### Offering the staged tuple -/

section
variable {text : ProtocolText} {sessionId fingerprint : String} {tuple : PendingTerminal}
  {w w' : RecordedWorld ω} {taken : Bool}

/-- What an offer does is the same whether or not it was due. -/
theorem move_offer_due (g : Gate PendingTerminal String) (due : Bool) :
    ({ g with due := due } : Gate PendingTerminal String).move eventName (.offer tuple taken)
      = g.move eventName (.offer tuple taken) := by
  cases taken <;> rfl

theorem Attended.offers (h : Attended text sessionId w)
    (hoffers : Offers sessionId tuple taken w w') : Attended text sessionId w' where
  registered := hoffers.registered.trans h.registered
  live := hoffers.live.trans h.live
  queued := by
    rw [hoffers.commands]
    exact h.queued
  printable := by
    rw [hoffers.gate]
    intro other hother
    cases taken with
    | true => cases hother
    | false => exact h.printable other hother

/-- The retry timer of a staged tuple is armed, if it is not. -/
theorem scheduleTerminalRetry_run (hlive : w.registry.disposed = false)
    (hstaged : (gateOf sessionId w).staged = some tuple) :
    ∃ v, (scheduleTerminalRetry sessionId : RegistryEffect (Recorded ω) Unit).run w = (.ok (), v) ∧
      v.registry.sessions = w.registry.sessions ∧ v.registry.disposed = w.registry.disposed ∧
      v.registry.commands = w.registry.commands ∧
      gateOf sessionId v = { gateOf sessionId w with armed := true } := by
  have hcontains : w.registry.terminals.delayedTerminalEvents.contains sessionId = true :=
    Dict.contains_eq_true.mpr ⟨tuple, hstaged⟩
  unfold scheduleTerminalRetry
  rw [Effect.run_bind, run_read, Effect.next_ok]
  split
  · next harmed =>
    rw [hlive, hcontains] at harmed
    exact ⟨w, rfl, rfl, rfl, rfl, Gate.ext rfl rfl harmed rfl rfl⟩
  · refine ⟨_, rfl, rfl, rfl, rfl, Gate.ext rfl rfl ?_ rfl rfl⟩
    exact Dict.contains_eq_true.mpr ⟨(), Dict.get?_set_self _ _ _⟩

/-- After its tuple is committed, a Session has none, and no retry timer. -/
theorem cancelTerminalRetry_committed_run (store : RegistryStateStore (Recorded ω))
    (at_ : RegistryReadings) (hstaged : (gateOf sessionId w).staged = some tuple)
    (hprintable : Printable text tuple) :
    (cancelTerminalRetry text store at_ sessionId { committed := true }).run w
      = (.ok (), { w with registry :=
          { w.registry with terminals := forgetTerminal w.registry.terminals sessionId } }) := by
  obtain ⟨printed, hprinted⟩ := hprintable
  have hdelayed : w.registry.terminals.delayedTerminalEvents.get? sessionId = some tuple := hstaged
  have hcancel : terminalToCancel text (some tuple) none
      = .ok (some ⟨tuple.event.eventId, printed⟩) := by
    rw [terminalToCancel, hprinted]
    rfl
  unfold cancelTerminalRetry
  rw [Effect.run_bind, run_read, Effect.next_ok, hdelayed, hcancel]
  rfl

/-- The gate of a Session whose terminal event is forgotten. -/
theorem gateOf_forgetTerminal (sessionId : String) (w : RecordedWorld ω) :
    gateOf sessionId { w with registry :=
        { w.registry with terminals := forgetTerminal w.registry.terminals sessionId } }
      = { gateOf sessionId w with staged := none, armed := false } := by
  refine Gate.ext ?_ rfl ?_ rfl rfl
  · exact Dict.get?_erase_self _ _
  · simp [gateOf, forgetTerminal, Dict.contains]

/-- The staged tuple is committed, or the store refuses it and the registry stays. -/
theorem commitPendingTerminal_cases (store : RegistryStateStore ω) (at_ : RegistryReadings)
    (fingerprint : String) (hattended : Attended text sessionId w)
    (hstaged : (gateOf sessionId w).staged = some tuple) :
    (∃ v, (commitPendingTerminal text (recordedStore store) at_ sessionId tuple fingerprint).run w
        = (.ok (), v) ∧ Offers sessionId tuple true w v) ∨
      ∃ thrown v, (commitPendingTerminal text (recordedStore store) at_ sessionId tuple
          fingerprint).run w = (.error thrown, v) ∧ v.registry = w.registry ∧
        v.store.calls = .offered tuple false :: w.store.calls := by
  obtain ⟨current, hcurrent⟩ := Dict.contains_eq_true.mp hattended.registered
  unfold commitPendingTerminal
  rw [Effect.run_bind, run_read, Effect.next_ok, hcurrent]
  dsimp only
  rw [Effect.run_bind, run_storeCall]
  rcases queuePendingEvent_cases store tuple.event tuple.session fingerprint w.store with
    ⟨t, hqueue⟩ | ⟨thrown, t, hqueue⟩
  · left
    rw [hqueue, Effect.next_ok, Effect.run_bind]
    generalize fromCanonicalTerminalSession current tuple.session = terminal
    obtain ⟨u, hcommit, hstore, hregistry⟩ :
        ∃ u : RecordedWorld ω, (commitTerminalSession sessionId current terminal).run
            { w with store := ⟨t, .offered tuple true :: w.store.calls⟩ } = (.ok (), u) ∧
          u.store.calls = .offered tuple true :: w.store.calls ∧
          u.registry = { w.registry with
            sessions := w.registry.sessions.set sessionId terminal } := by
      unfold commitTerminalSession
      rw [Effect.run_bind, run_setSessions, Effect.next_ok]
      split
      · exact ⟨_, rfl, rfl, rfl⟩
      · exact ⟨_, rfl, rfl, rfl⟩
    have hstill : (gateOf sessionId u).staged = some tuple := by
      rw [gateOf, hregistry]
      exact hstaged
    rw [hcommit, Effect.next_ok, cancelTerminalRetry_committed_run _ at_ hstill
      (hattended.printable tuple hstaged)]
    refine ⟨_, rfl, ?_, ?_, ?_, ?_⟩
    · show u.registry.sessions.contains sessionId = w.registry.sessions.contains sessionId
      rw [hregistry, hattended.registered]
      exact Dict.contains_eq_true.mpr ⟨_, Dict.get?_set_self _ _ _⟩
    · show u.registry.disposed = w.registry.disposed
      rw [hregistry]
    · show u.registry.commands = w.registry.commands
      rw [hregistry]
    · rw [gateOf_forgetTerminal, gateOf, hregistry, hstore]
      rfl
  · right
    rw [hqueue]
    exact ⟨thrown, _, rfl, rfl, rfl⟩

/-- A commit that is retried offers the staged tuple: it is taken, or a retry timer is
armed. -/
theorem offers_retried (store : RegistryStateStore ω) (at_ : RegistryReadings)
    (fingerprint : String) (handler : Thrown → RegistryEffect (Recorded ω) Unit)
    (hattended : Attended text sessionId w) (hstaged : (gateOf sessionId w).staged = some tuple)
    (hhandler : ∀ thrown u v, (scheduleTerminalRetry sessionId).run u = (.ok (), v) →
      ((handler thrown).run u).2 = v) :
    ∃ taken, Offers sessionId tuple taken w
      ((tryCatch (commitPendingTerminal text (recordedStore store) at_ sessionId tuple fingerprint)
        handler).run w).2 := by
  rw [Effect.run_tryCatch]
  rcases commitPendingTerminal_cases store at_ fingerprint hattended hstaged with
    ⟨v, hrun, hoffers⟩ | ⟨thrown, v, hrun, hregistry, hcalls⟩
  · rw [hrun]
    exact ⟨true, hoffers⟩
  · have hgate : gateOf sessionId v
        = { gateOf sessionId w with calls := .offered tuple false :: w.store.calls } := by
      rw [gateOf, hregistry, hcalls]
      rfl
    have hlive : v.registry.disposed = false := by
      rw [hregistry]
      exact hattended.live
    have hstill : (gateOf sessionId v).staged = some tuple := by
      rw [hgate]
      exact hstaged
    obtain ⟨u, hschedule, hsessions, hdisposed, hcommands, harmed⟩ :=
      scheduleTerminalRetry_run hlive hstill
    refine ⟨false, ?_⟩
    rw [hrun, Effect.handle_error, hhandler thrown v u hschedule]
    refine ⟨?_, ?_, ?_, ?_⟩
    · rw [hsessions, hregistry]
    · rw [hdisposed, hregistry]
    · rw [hcommands, hregistry]
    · rw [harmed, hgate]
      rfl

/-- `promotePendingTerminal` offers the staged tuple. -/
theorem offers_promotePendingTerminal (store : RegistryStateStore ω) (at_ : RegistryReadings)
    (fingerprint : String) (hattended : Attended text sessionId w)
    (hstaged : (gateOf sessionId w).staged = some tuple) :
    ∃ taken, Offers sessionId tuple taken w
      ((promotePendingTerminal text (recordedStore store) at_ sessionId tuple fingerprint).run
        w).2 := by
  refine offers_retried store at_ fingerprint _ hattended hstaged fun thrown u v hschedule => ?_
  rw [Effect.run_bind, hschedule]
  rfl

/-- `flushDelayedTerminalEvent` offers the staged tuple of an idle Session, and does nothing
else. -/
theorem flushDelayedTerminalEvent_cases (store : RegistryStateStore ω) (at_ : RegistryReadings)
    (hattended : Attended text sessionId w) :
    (((gateOf sessionId w).busy = true ∨ (gateOf sessionId w).staged = none) ∧
        ((flushDelayedTerminalEvent text (recordedStore store) at_ sessionId).run w).2 = w) ∨
      ((gateOf sessionId w).busy = false ∧ ∃ tuple taken,
        (gateOf sessionId w).staged = some tuple ∧ Offers sessionId tuple taken w
          ((flushDelayedTerminalEvent text (recordedStore store) at_ sessionId).run w).2) := by
  unfold flushDelayedTerminalEvent
  rw [Effect.run_bind, run_read, Effect.next_ok]
  split
  · next hbusy => exact .inl ⟨.inl hbusy, rfl⟩
  · next hidle =>
    rcases hstaged : w.registry.terminals.delayedTerminalEvents.get? sessionId with _ | tuple
    · exact .inl ⟨.inr hstaged, rfl⟩
    · right
      dsimp only
      rw [if_pos hattended.registered]
      obtain ⟨printed, hprinted⟩ := hattended.printable tuple hstaged
      have hattempt : attemptDelayedTerminal text (recordedStore store) at_ sessionId tuple
          = commitPendingTerminal text (recordedStore store) at_ sessionId tuple printed := by
        unfold attemptDelayedTerminal
        rw [hprinted]
        rfl
      rw [hattempt]
      obtain ⟨taken, hoffers⟩ := offers_retried store at_ printed
        (fun _ => scheduleTerminalRetry sessionId) hattended hstaged
        fun thrown u v hschedule => by rw [hschedule]
      exact ⟨Bool.eq_false_iff.mpr hidle, tuple, taken, hstaged, hoffers⟩

end

/-! ### The triggers and the commands -/

section
variable {text : ProtocolText} {sessionId : String} {n : Nat} {w w' : RecordedWorld ω}
  {t : CommandTables} (store : RegistryStateStore ω) (at_ : RegistryReadings)

/-- A move after which the staged tuple of an idle Session is due, and then a flush. -/
theorem plays_flush_after {m : GateMove PendingTerminal} (hstage : m.isStage = false)
    (hattended : Attended text sessionId w → Attended text sessionId w')
    (hallowed : (gateOf sessionId w).Allows m)
    (hgate : (gateOf sessionId w).move eventName m = { gateOf sessionId w' with
      due := (gateOf sessionId w').staged.isSome && !(gateOf sessionId w').busy }) :
    Plays text sessionId 0 w
      ((flushDelayedTerminalEvent text (recordedStore store) at_ sessionId).run w').2 := by
  intro h
  rcases flushDelayedTerminalEvent_cases store at_ (hattended h) with ⟨hquiet, hfinal⟩ |
    ⟨hidle, tuple, taken, hstaged, hoffers⟩
  · -- nothing is due
    rw [hfinal]
    refine ⟨hattended h, [m], Run.single ⟨hallowed, ?_⟩, ?_⟩
    · rw [hgate]
      refine Gate.ext rfl rfl rfl ?_ rfl
      show false = ((gateOf sessionId w').staged.isSome && !(gateOf sessionId w').busy)
      rcases hquiet with hbusy | hnone
      · rw [hbusy, Bool.not_true, Bool.and_false]
      · rw [hnone, Option.isSome_none, Bool.false_and]
    · simp [hstage]
  · refine ⟨(hattended h).offers hoffers, [m, .offer tuple taken], ?_, ?_⟩
    · refine Run.cons ⟨hallowed, rfl⟩ (Run.single ⟨?_, ?_⟩)
      · rw [hgate]
        exact ⟨hidle, hstaged⟩
      · rw [hgate, move_offer_due]
        exact hoffers.gate
    · rw [List.countP_cons_of_neg (by rw [hstage]; exact Bool.false_ne_true)]
      exact Nat.le_refl 0

theorem plays_terminalRetryTimerFires : Plays text sessionId n w
    ((terminalRetryTimerFires text (recordedStore store) at_ sessionId).run w).2 := by
  refine Plays.mono (Nat.zero_le n) fun h => ?_
  have hfires : ((terminalRetryTimerFires text (recordedStore store) at_ sessionId).run w).2
      = ((flushDelayedTerminalEvent text (recordedStore store) at_ sessionId).run
        { w with registry := { w.registry with terminals := { w.registry.terminals with
          terminalRetryTimers :=
            w.registry.terminals.terminalRetryTimers.erase sessionId } } }).2 := by
    unfold terminalRetryTimerFires
    rw [Effect.run_bind]
    show ((if w.registry.disposed = true then _ else _ : RegistryEffect (Recorded ω) Unit).run
      _).2 = _
    rw [if_neg (by rw [h.live]; exact Bool.false_ne_true)]
  rw [hfires]
  refine plays_flush_after store at_ (m := .fire) rfl (fun _ => ?_) rfl ?_ h
  · exact ⟨h.registered, h.live, h.queued, h.printable⟩
  · refine Gate.ext rfl rfl ?_ rfl rfl
    simp [Gate.move, gateOf, Dict.contains]

/-- A change of the command maps that leaves the work of the Session as it is. -/
theorem unmoved_commands
    (hqueue : t.queue sessionId = w.registry.commands.queue sessionId)
    (hbusy : t.hasPendingCommandWork sessionId
      = w.registry.commands.hasPendingCommandWork sessionId) :
    Unmoved sessionId w (w.withCommands t) :=
  ⟨rfl, rfl, hqueue, Gate.ext rfl hbusy rfl rfl rfl⟩

/-- A change of the command maps after which the Session has work. -/
theorem plays_begin (hbusy : t.hasPendingCommandWork sessionId = true)
    (hqueued : (∀ command ∈ w.registry.commands.queue sessionId, command.sessionId = sessionId) →
      ∀ command ∈ t.queue sessionId, command.sessionId = sessionId) :
    Plays text sessionId n w (w.withCommands t) := by
  intro h
  refine ⟨⟨h.registered, h.live, hqueued h.queued, h.printable⟩, [.begin], ?_, Nat.zero_le n⟩
  exact Run.single ⟨rfl, Gate.ext rfl hbusy rfl rfl rfl⟩

/-- A Session with a queued command has work. -/
theorem busy_of_queue (h : t.queue sessionId ≠ []) : t.hasPendingCommandWork sessionId = true := by
  unfold CommandTables.hasPendingCommandWork
  simp [h]

/-- A Session with a command in flight has work. -/
theorem busy_addInFlight (t : CommandTables) (command : CommandEnvelope) :
    (t.addInFlight command).hasPendingCommandWork command.sessionId = true := by
  unfold CommandTables.hasPendingCommandWork
  have hflight : (t.addInFlight command).inFlight command.sessionId ≠ [] := by
    unfold CommandTables.addInFlight CommandTables.inFlight
    rw [Dict.get?_set_self, Option.getD_some]
    split
    · next hmem => exact List.ne_nil_of_mem hmem
    · simp
  simp [hflight]

@[simp] theorem hasPendingCommandWork_settlePoll (poll : PollRequest)
    (command : Option CommandEnvelope) :
    (t.settlePoll poll command).hasPendingCommandWork sessionId
      = t.hasPendingCommandWork sessionId := rfl

@[simp] theorem hasPendingCommandWork_record (occurrence : CommandOccurrence) :
    (t.record occurrence).hasPendingCommandWork sessionId
      = t.hasPendingCommandWork sessionId := rfl

/-- `enqueueCommand` leaves the Session with work. -/
theorem plays_enqueueCommand {command : CommandEnvelope}
    (hsession : command.sessionId = sessionId) :
    Plays text sessionId n w
      ((enqueueCommand command : RegistryEffect (Recorded ω) Unit).run w).2 := by
  subst hsession
  unfold enqueueCommand
  rw [Effect.run_bind, run_read, Effect.next_ok, Effect.run_bind, Effect.run_ofExcept]
  rcases htarget : dispatchTarget w.registry command with thrown | session
  · exact Plays.refl w
  rw [Effect.next_ok, Effect.run_bind, run_setCommands, Effect.next_ok]
  rcases hwaiters : w.registry.commands.waiters command.sessionId with _ | ⟨poll, rest⟩
  · dsimp only
    rw [run_setCommands]
    simp only [RegistryWorld.withCommands_commands, RegistryWorld.withCommands_withCommands]
    refine plays_begin (busy_of_queue ?_) fun hqueued other hother => ?_
    all_goals rw [CommandTables.queue, Dict.get?_set_self, Option.getD_some] at *
    · simp
    · rcases List.mem_append.mp hother with hother | hother
      · exact hqueued other hother
      · rw [List.mem_singleton.mp hother]
  · dsimp only
    rw [Effect.run_bind, run_setCommands, Effect.next_ok, Effect.run_bind,
      RegistryWorld.withCommands_withCommands,
      run_markCommandInFlight (dispatchTarget_ok htarget), Effect.next_ok, run_setCommands]
    simp only [RegistryWorld.withCommands_commands, RegistryWorld.withCommands_withCommands]
    refine plays_begin ?_ fun hqueued => hqueued
    rw [hasPendingCommandWork_settlePoll]
    exact busy_addInFlight _ command

/-- `dequeueCommand` hands over a queued command, or leaves the work as it is. -/
theorem plays_dequeueCommand {poll : PollRequest} (timeoutMs : Nat)
    (hsession : poll.sessionId = sessionId) :
    Plays text sessionId n w
      ((dequeueCommand poll timeoutMs : RegistryEffect (Recorded ω) Unit).run w).2 := by
  subst hsession
  intro h
  refine Plays.mono (m := n) le_rfl ?_ h
  unfold dequeueCommand
  rw [Effect.run_bind, run_read, Effect.next_ok]
  split
  · exact Plays.of_unmoved (unmoved_commands rfl rfl)
  rcases hqueue : w.registry.commands.queue poll.sessionId with _ | ⟨command, rest⟩
  · dsimp only
    split
    · exact Plays.of_unmoved (unmoved_commands rfl rfl)
    · exact Plays.of_unmoved (unmoved_commands rfl rfl)
  · have hcommand : command.sessionId = poll.sessionId :=
      h.queued command (by rw [hqueue]; exact List.mem_cons_self ..)
    obtain ⟨session, hregistered⟩ := Dict.contains_eq_true.mp h.registered
    rw [← hcommand] at hregistered
    dsimp only
    rw [Effect.run_bind, run_setCommands, Effect.next_ok, Effect.run_bind,
      run_markCommandInFlight hregistered, Effect.next_ok, run_setCommands]
    simp only [RegistryWorld.withCommands_commands, RegistryWorld.withCommands_withCommands]
    refine plays_begin ?_ fun hqueued other hother => hqueued other ?_
    · rw [← hcommand, hasPendingCommandWork_record]
      exact busy_addInFlight _ command
    · have hrest := congrFun (CommandTables.getD_setOrDelete w.registry.commands.commandQueues
        poll.sessionId rest) poll.sessionId
      rw [Function.update_self] at hrest
      rw [hqueue]
      exact List.mem_cons_of_mem _ (hrest ▸ hother)

/-- `clearCommandInFlight` offers the staged tuple when it leaves the Session idle. -/
theorem plays_clearCommandInFlight (commandId : String) :
    Plays text sessionId n w
      ((clearCommandInFlight text (recordedStore store) at_ sessionId commandId).run w).2 := by
  refine Plays.mono (Nat.zero_le n) fun h => ?_
  unfold clearCommandInFlight
  rw [Effect.run_bind, run_setCommands, Effect.next_ok]
  generalize ht : w.registry.commands.removeInFlight sessionId commandId = t
  have hqueue : t.queue sessionId = w.registry.commands.queue sessionId := by
    rw [← ht]
    rfl
  have hattended : Attended text sessionId (w.withCommands t) :=
    ⟨h.registered, h.live, fun command hcommand => h.queued command (hqueue ▸ hcommand),
      h.printable⟩
  by_cases hbusy : t.hasPendingCommandWork sessionId = true
  · rcases flushDelayedTerminalEvent_cases store at_ hattended with ⟨-, hfinal⟩ | ⟨hidle, -⟩
    · rw [hfinal]
      exact plays_begin hbusy (fun hqueued => hqueue.symm ▸ hqueued) h
    · exact absurd (hidle.symm.trans hbusy) Bool.false_ne_true
  · have hidle : t.hasPendingCommandWork sessionId = false := Bool.eq_false_iff.mpr hbusy
    refine plays_flush_after store at_ (m := .clear) rfl (fun _ => hattended) rfl ?_ h
    refine Gate.ext rfl hidle.symm rfl ?_ rfl
    show Option.isSome _ = (Option.isSome _ && !t.hasPendingCommandWork sessionId)
    rw [hidle, Bool.not_false, Bool.and_true]
    rfl

/-- `resolveCommand` refuses the result, or clears the command. -/
theorem plays_resolveCommand (commandId : String) (value : CommandResult) :
    Plays text sessionId n w
      ((resolveCommand text (recordedStore store) at_ commandId value sessionId).run w).2 := by
  unfold resolveCommand
  rw [Effect.run_bind, Effect.run_ofExcept]
  rcases parseAgentAdapterCommandResult value with thrown | result
  · exact Plays.refl w
  rw [Effect.next_ok, Effect.run_bind, run_read, Effect.next_ok]
  split
  · exact Plays.refl w
  rcases hmatch : resultMatches w.registry commandId sessionId result with _ | binding
  · exact Plays.refl w
  obtain ⟨-, hsession, -, -⟩ := resultMatches_some hmatch
  dsimp only
  rw [hsession]
  refine Plays.bind (Plays.of_unmoved (unmoved_commands rfl rfl)) fun _ _ => ?_
  refine Plays.bind (plays_clearCommandInFlight store at_ commandId) fun _ _ => ?_
  exact Plays.of_unmoved (unmoved_commands rfl rfl)

/-- `abandonCommand` clears the command, when it is bound to the Session. -/
theorem plays_abandonCommand {commandId : String}
    (hbound : ∀ binding, w.registry.commands.commandSessions.get? commandId = some binding →
      binding.sessionId = sessionId) :
    Plays text sessionId n w
      ((abandonCommand text (recordedStore store) at_ commandId).run w).2 := by
  unfold abandonCommand
  rw [Effect.run_bind, run_setCommands, Effect.next_ok, Effect.run_bind, run_read, Effect.next_ok]
  refine (Plays.of_unmoved (unmoved_commands (t := w.registry.commands.record
    (.abandoned commandId)) rfl rfl)).then_ ?_
  rcases hbinding : w.registry.commands.commandSessions.get? commandId with _ | binding
  · rw [show (w.withCommands (w.registry.commands.record
      (.abandoned commandId))).registry.commands.commandSessions.get? commandId = none
      from hbinding]
    exact Plays.refl _
  · rw [show (w.withCommands (w.registry.commands.record
      (.abandoned commandId))).registry.commands.commandSessions.get? commandId = some binding
      from hbinding]
    dsimp only
    rw [hbound binding hbinding]
    refine Plays.bind (Plays.of_unmoved (unmoved_commands rfl rfl)) fun _ _ => ?_
    refine Plays.bind (plays_clearCommandInFlight store at_ commandId) fun _ _ => ?_
    exact Plays.of_unmoved (unmoved_commands rfl rfl)

end

/-! ### Cancellation and heartbeats -/

section
variable {text : ProtocolText} {sessionId : String} {n : Nat} {w : RecordedWorld ω}
  (store : RegistryStateStore ω) (at_ : RegistryReadings)

theorem Attended.forget (h : Attended text sessionId w) (r : Recorded ω) :
    Attended text sessionId { w with
      registry := { w.registry with terminals := forgetTerminal w.registry.terminals sessionId }
      store := r } where
  registered := h.registered
  live := h.live
  queued := h.queued
  printable := by
    intro tuple htuple
    have hnone : (forgetTerminal w.registry.terminals sessionId).delayedTerminalEvents.get?
        sessionId = none := Dict.get?_erase_self _ _
    exact nomatch hnone.symm.trans htuple

/-- `cancelTerminalRetry` cancels the staged tuple, or drops a timer that nothing waits for. -/
theorem plays_cancelTerminalRetry : Plays text sessionId n w
    ((cancelTerminalRetry text (recordedStore store) at_ sessionId {}).run w).2 := by
  intro h
  unfold cancelTerminalRetry
  rw [Effect.run_bind, run_read, Effect.next_ok]
  rcases hstaged : w.registry.terminals.delayedTerminalEvents.get? sessionId with _ | tuple
  · -- nothing is staged
    have hfinal := gateOf_forgetTerminal sessionId w
    exact ⟨h.forget w.store, [.disarm], Run.single ⟨⟨rfl, hstaged⟩,
      hfinal.trans (Gate.ext hstaged.symm rfl rfl rfl rfl)⟩, Nat.zero_le n⟩
  · obtain ⟨printed, hprinted⟩ := h.printable tuple hstaged
    have hcancel : terminalToCancel text (some tuple) none
        = .ok (some ⟨tuple.event.eventId, printed⟩) := by
      rw [terminalToCancel, hprinted]
      rfl
    rw [hcancel, Effect.run_bind, Effect.run_ofExcept, Effect.next_ok, Effect.run_bind]
    unfold persistCancellation
    dsimp only
    rw [if_neg Bool.false_ne_true, run_storeCall]
    rcases cancelTerminalEvent_cases store ⟨tuple.event.eventId, sessionId, printed, false, none,
      at_.nowIso, none⟩ w.store with ⟨t, hrun⟩ | ⟨thrown, t, hrun⟩
    · rw [hrun, Effect.next_ok]
      have hfinal := gateOf_forgetTerminal sessionId
        { w with store := ⟨t, .cancelled tuple.event.eventId :: w.store.calls⟩ }
      exact ⟨h.forget _, [.cancel tuple], Run.single ⟨⟨rfl, hstaged⟩, hfinal⟩, Nat.zero_le n⟩
    · -- the store refuses the cancellation, and the tuple stays staged
      rw [hrun]
      exact Plays.of_unmoved ⟨rfl, rfl, rfl, rfl⟩ h

/-- `heartbeat` cancels the staged tuple when the context of the Session changes. -/
theorem plays_heartbeat (input : HeartbeatInput) : Plays text sessionId n w
    ((heartbeat text (recordedStore store) at_ sessionId input).run w).2 := by
  unfold heartbeat
  refine Plays.reads_bind (fun _ => Reads.refl _) fun registry v hread _ => ?_
  cases hread
  split
  · exact Plays.refl w
  · next session hsession =>
    dsimp only
    refine Plays.reads_bind (fun _ => Reads.refl _) fun _ v hcheck _ => ?_
    rw [Effect.run_ofExcept, Prod.mk.injEq] at hcheck
    rw [← hcheck.2]
    refine Plays.bind ?_ fun _ _ => ?_
    · unfold cancelWhen
      split
      · exact plays_cancelTerminalRetry store at_
      · exact Plays.refl w
    refine Plays.bind (Plays.of_unmoved ?_) fun _ _ h => ?_
    · unfold mutatedWhen
      split
      · exact ⟨rfl, rfl, rfl, rfl⟩
      · exact ⟨rfl, rfl, rfl, rfl⟩
    · refine Plays.of_unmoved ⟨?_, rfl, rfl, rfl⟩ h
      rw [h.registered]
      exact Dict.contains_eq_true.mpr ⟨_, Dict.get?_set_self _ _ _⟩

end

/-! ### Staging -/

/-- What a push is about to stage is sound: its fingerprint can be computed, and when the
Session is idle and no retry timer is armed, the store does not refuse it. -/
structure SoundStaging (text : ProtocolText) (store : RegistryStateStore ω) (sessionId : String)
    (staging : Staging) (w : RegistryWorld ω) : Prop where
  printable : Printable text staging.tuple
  accepted : w.registry.commands.hasPendingCommandWork sessionId = false →
    w.registry.terminals.terminalRetryTimers.contains sessionId = false →
    ((staging.acceptance.call store).run w.store).1 = .ok ()

section
variable {text : ProtocolText} {sessionId fingerprint : String} {tuple : PendingTerminal}
  {w : RecordedWorld ω} {store : RegistryStateStore ω} {at_ : RegistryReadings}
  {promoteNow : Bool}

theorem final_bind_pure (p : RegistryEffect (Recorded ω) α) (b : β) :
    ((p >>= fun _ => pure b).run w).2 = (p.run w).2 := by
  rw [Effect.run_bind]
  rcases p.run w with ⟨_ | _, _⟩
  · rfl
  · rfl

/-- A staged tuple is promoted when the Session is idle. -/
theorem plays_promoteWhen (hstaged : (gateOf sessionId w).staged = some tuple)
    (hpromote : promoteNow = !w.registry.commands.hasPendingCommandWork sessionId) :
    Plays text sessionId 0 w
      ((promoteWhen text (recordedStore store) at_ promoteNow sessionId tuple fingerprint).run
        w).2 := by
  intro h
  cases promoteNow with
  | false => exact Plays.refl w h
  | true =>
    have hidle : w.registry.commands.hasPendingCommandWork sessionId = false := by
      simpa using hpromote
    obtain ⟨taken, hoffers⟩ := offers_promotePendingTerminal store at_ fingerprint h hstaged
    exact ⟨h.offers hoffers, [.offer tuple taken],
      Run.single ⟨⟨hidle, hstaged⟩, hoffers.gate⟩, Nat.le_refl 0⟩

/-- A tuple is staged, accepted by the store, and promoted when the Session is idle. -/
theorem plays_stage (at_ : RegistryReadings) (fingerprint : String) (staging : Staging)
    (hsound : SoundStaging text (recordedStore store) sessionId staging w)
    (hpromote : promoteNow = !w.registry.commands.hasPendingCommandWork sessionId) :
    Plays text sessionId 1 w
      ((stageTerminal sessionId staging.tuple >>= fun _ =>
        storeCall (staging.acceptance.call (recordedStore store)) >>= fun _ =>
        promoteWhen text (recordedStore store) at_ promoteNow sessionId staging.tuple
          fingerprint).run w).2 := by
  intro h
  obtain ⟨tuple, acceptance⟩ := staging
  obtain ⟨hprintable, haccepted⟩ := hsound
  have hcalls := acceptance_calls store acceptance w.store
  rcases hcall : (acceptance.call (recordedStore store)).run w.store with ⟨r, t⟩
  rw [hcall] at haccepted hcalls
  -- the world in which the store has answered
  let staged : RecordedWorld ω := { w with
    registry := { w.registry with terminals := { w.registry.terminals with
      delayedTerminalEvents := w.registry.terminals.delayedTerminalEvents.set sessionId tuple } }
    store := t }
  have hgate : gateOf sessionId staged = { gateOf sessionId w with staged := some tuple } :=
    Gate.ext (Dict.get?_set_self _ _ _) rfl rfl rfl hcalls
  have hattended : Attended text sessionId staged := by
    refine ⟨h.registered, h.live, h.queued, fun other hother => ?_⟩
    rw [hgate] at hother
    cases hother
    exact hprintable
  have hmove : (gateOf sessionId w).move eventName (.stage tuple) = { gateOf sessionId staged with
      due := !(gateOf sessionId w).busy && !(gateOf sessionId w).armed } := by
    rw [hgate]
    rfl
  have hrun : (stageTerminal sessionId tuple >>= fun _ =>
      storeCall (acceptance.call (recordedStore store)) >>= fun _ =>
      promoteWhen text (recordedStore store) at_ promoteNow sessionId tuple fingerprint).run w
      = Effect.next (fun _ => promoteWhen text (recordedStore store) at_ promoteNow sessionId tuple
          fingerprint) (r, staged) := by
    rw [Effect.run_bind]
    show Effect.next _ (((acceptance.call (recordedStore store)).run w.store).1,
      { w with
        registry := { w.registry with terminals := { w.registry.terminals with
          delayedTerminalEvents :=
            w.registry.terminals.delayedTerminalEvents.set sessionId tuple } }
        store := ((acceptance.call (recordedStore store)).run w.store).2 }) = _
    rw [hcall]
  rw [hrun]
  /- Without a promotion nothing may be due: the Session is busy, or a timer is armed, or the
  store has taken the tuple. -/
  have hstays (hdue : (!(gateOf sessionId w).busy && !(gateOf sessionId w).armed) = false) :
      ∃ moves, Run (Gate.Step eventName) (gateOf sessionId w) moves (gateOf sessionId staged) ∧
        moves.countP GateMove.isStage ≤ 1 := by
    refine ⟨[.stage tuple], Run.single ⟨rfl, ?_⟩, Nat.le_refl 1⟩
    rw [hmove, hdue]
    rfl
  rcases r with thrown | _
  · refine ⟨hattended, hstays ?_⟩
    rcases hbusy : (gateOf sessionId w).busy with _ | _
    · rcases harmed : (gateOf sessionId w).armed with _ | _
      · exact nomatch haccepted hbusy harmed
      · rfl
    · rfl
  · rw [Effect.next_ok]
    cases promoteNow with
    | false =>
      refine ⟨hattended, hstays ?_⟩
      have hbusy : w.registry.commands.hasPendingCommandWork sessionId = true := by
        simpa using hpromote
      show (!w.registry.commands.hasPendingCommandWork sessionId && _) = false
      rw [hbusy]
      rfl
    | true =>
      have hidle : w.registry.commands.hasPendingCommandWork sessionId = false := by
        simpa using hpromote
      have hstaged : (gateOf sessionId staged).staged = some tuple := congrArg Gate.staged hgate
      obtain ⟨taken, hoffers⟩ := offers_promotePendingTerminal store at_ fingerprint hattended
        hstaged
      refine ⟨hattended.offers hoffers, [.stage tuple, .offer tuple taken],
        Run.cons ⟨rfl, rfl⟩ (Run.single ⟨?_, ?_⟩), Nat.le_refl 1⟩
      · rw [hmove]
        exact ⟨hidle, hstaged⟩
      · rw [hmove, move_offer_due]
        exact hoffers.gate

end

/-! ### The plan of a push -/

/-- Whether a plan promotes the tuple, when it has one. -/
def promotes : TerminalEventPlan → Option Bool
  | .returnLiveDuplicate promoteNow => some promoteNow
  | .stageReservedTuple _ promoteNow => some promoteNow
  | .cancelOlderAndReserve _ _ promoteNow => some promoteNow
  | .reserveNewTuple _ _ promoteNow => some promoteNow
  | .returnReservationWithoutTuple _ => none
  | .reject _ => none

section
variable {text : ProtocolText} {sessionId fingerprint : String} {w : RecordedWorld ω}
  {at_ : RegistryReadings}

/-- A plan promotes its tuple exactly when the Session has no command work. -/
theorem planTerminalEvent_promotes {snapshot : TerminalEventPlanInput} {plan : TerminalEventPlan}
    (h : planTerminalEvent text snapshot = .ok plan) {promoteNow : Bool}
    (hpromotes : promotes plan = some promoteNow) :
    promoteNow = !snapshot.hasPendingCommandWork := by
  rcases planTerminalEvent_decided h with ⟨thrown, -, rfl⟩ | ⟨printed, duplicate, -, -, -, h⟩
  · cases hpromotes
  split at h
  · cases h
    exact (Option.some.inj hpromotes).symm
  · split at h
    · cases h
      cases hpromotes
    · cases h
      exact (Option.some.inj hpromotes).symm
    · split at h <;> cases h <;> exact (Option.some.inj hpromotes).symm

/-- A planned event fits the world: it promotes its tuple exactly when the Session is idle, a
live duplicate is the staged tuple, and a reserved tuple has a reservation. -/
inductive PlanFits (sessionId : String) (w : RecordedWorld ω) :
    PlannedEvent → Prop
  | reject {existing reservation} (thrown : Thrown) :
      PlanFits sessionId w ⟨existing, reservation, .reject thrown⟩
  | liveDuplicate {reservation} : PlanFits sessionId w ⟨(gateOf sessionId w).staged,
      reservation, .returnLiveDuplicate !(gateOf sessionId w).busy⟩
  | withoutTuple {existing reservation} (eventId : String) :
      PlanFits sessionId w ⟨existing, reservation, .returnReservationWithoutTuple eventId⟩
  | reserved {existing} (reservation : PersistedProducerEventReservationV1)
      (tuple : PendingTerminal) : PlanFits sessionId w
        ⟨existing, some reservation, .stageReservedTuple tuple !(gateOf sessionId w).busy⟩
  | cancelOlder {existing persisted reservation} (tuple : PendingTerminal) :
      PlanFits sessionId w ⟨existing, persisted,
        .cancelOlderAndReserve tuple reservation !(gateOf sessionId w).busy⟩
  | reserveNew {existing persisted reservation} (tuple : PendingTerminal) :
      PlanFits sessionId w ⟨existing, persisted,
        .reserveNewTuple tuple reservation !(gateOf sessionId w).busy⟩

theorem PlanFits.of_gate {planned : PlannedEvent} {v : RecordedWorld ω}
    (h : PlanFits sessionId w planned) (hgate : gateOf sessionId v = gateOf sessionId w) :
    PlanFits sessionId v planned := by
  cases h with
  | reject thrown => exact .reject thrown
  | withoutTuple eventId => exact .withoutTuple eventId
  | liveDuplicate => exact hgate ▸ .liveDuplicate
  | reserved reservation tuple => exact hgate ▸ .reserved reservation tuple
  | cancelOlder tuple => exact hgate ▸ .cancelOlder tuple
  | reserveNew tuple => exact hgate ▸ .reserveNew tuple

theorem reads_read : Effect.Leaves Reads (read : RegistryEffect (Recorded ω) _) :=
  fun w => Reads.refl w

theorem reads_ofExcept (r : Except Thrown α) :
    Effect.Leaves Reads (Effect.ofExcept r : RegistryEffect (Recorded ω) α) :=
  fun w => Reads.refl w

theorem reads_reservationFor (store : RegistryStateStore ω) (duplicate : Bool) :
    Effect.Leaves Reads
      (AgentAdapterRegistry.reservationFor (recordedStore store) duplicate sessionId
        fingerprint) := by
  cases duplicate with
  | true => exact fun w => Reads.refl w
  | false => exact reads_unrecorded _

theorem reads_tupleFor (store : RegistryStateStore ω)
    (reservation : Option PersistedProducerEventReservationV1) :
    Effect.Leaves Reads (tupleFor (recordedStore store) reservation fingerprint) := by
  rcases reservation with _ | reservation
  · exact fun w => Reads.refl w
  · exact reads_unrecorded _

/-- Planning an event reads. -/
theorem reads_planEvent (store : RegistryStateStore ω) (session : RegisteredSession)
    (input : AgentAdapterEventInput) :
    Effect.Leaves Reads
      (planEvent text (recordedStore store) at_ sessionId session input fingerprint) := by
  unfold planEvent
  refine Effect.Leaves.bind Reads.trans reads_read fun registry => ?_
  refine Effect.Leaves.bind Reads.trans (reads_ofExcept _) fun duplicate => ?_
  refine Effect.Leaves.bind Reads.trans (reads_reservationFor store duplicate) fun persisted => ?_
  refine Effect.Leaves.bind Reads.trans (reads_tupleFor store persisted) fun tuple => ?_
  exact Effect.Leaves.bind Reads.trans (reads_ofExcept _) fun _ => fun w => Reads.refl w

/-- A planned event fits the world it was planned in. -/
theorem planEvent_fits {store : RegistryStateStore ω} {session : RegisteredSession}
    {input : AgentAdapterEventInput} {planned : PlannedEvent} {v : RecordedWorld ω}
    (hfingerprint : producerEventFingerprint text input = .ok fingerprint)
    (h : (planEvent text (recordedStore store) at_ sessionId session input fingerprint).run w
      = (.ok planned, v)) : PlanFits sessionId w planned := by
  obtain ⟨_, _, hread, h⟩ := Effect.run_bind_eq_ok.mp h
  cases hread
  obtain ⟨duplicate, _, hduplicate, h⟩ := Effect.run_bind_eq_ok.mp h
  rw [Effect.run_ofExcept, Prod.mk.injEq] at hduplicate
  obtain ⟨hduplicate, rfl⟩ := hduplicate
  obtain ⟨persisted, _, -, h⟩ := Effect.run_bind_eq_ok.mp h
  obtain ⟨tuple, _, -, h⟩ := Effect.run_bind_eq_ok.mp h
  obtain ⟨plan, _, hplan, hreturn⟩ := Effect.run_bind_eq_ok.mp h
  rw [Effect.run_ofExcept, Prod.mk.injEq] at hplan
  obtain ⟨hplan, -⟩ := hplan
  cases hreturn
  have hpromotes := fun b hb => @planTerminalEvent_promotes text _ plan hplan b hb
  rcases planTerminalEvent_cases hplan hfingerprint with ⟨thrown, rfl⟩ | ⟨promoteNow, rfl⟩ |
    ⟨hlive, ⟨eventId, rfl⟩ | ⟨reserved, promoteNow, hsome, -, rfl⟩ |
      ⟨-, -, promoteNow, rfl | rfl⟩⟩
  · exact .reject thrown
  · cases hpromotes _ rfl
    exact .liveDuplicate
  · exact .withoutTuple eventId
  · cases hpromotes _ rfl
    obtain ⟨reservation, rfl⟩ := Option.isSome_iff_exists.mp hsome
    exact .reserved reservation reserved
  · cases hpromotes _ rfl
    exact .cancelOlder _
  · cases hpromotes _ rfl
    exact .reserveNew _

end

/-! ### The pushes -/

section
variable {text : ProtocolText} {sessionId fingerprint : String} {w : RecordedWorld ω}
  {store : RegistryStateStore ω} {at_ : RegistryReadings} {planned : PlannedEvent}

/-- What a program is about to stage is sound. -/
def Stages (text : ProtocolText) (store : RegistryStateStore ω) (sessionId : String)
    (staging : RegistryEffect (Recorded ω) (Option Staging)) (w : RecordedWorld ω) : Prop :=
  ∀ staged v, staging.run w = (.ok (some staged), v) →
    SoundStaging text (recordedStore store) sessionId staged v

/-- What follows a part that is common to a push and to its staging. -/
theorem Stages.next {p : RegistryEffect (Recorded ω) α}
    {f : α → RegistryEffect (Recorded ω) (Option Staging)} {a : α} {v : RecordedWorld ω}
    (h : Stages text store sessionId (p >>= f) w) (hp : p.run w = (.ok a, v)) :
    Stages text store sessionId (f a) v := by
  intro staged u hstaged
  refine h staged u ?_
  rw [Effect.run_bind, hp]
  exact hstaged

/-- A new tuple is reserved, staged, accepted and promoted. -/
theorem plays_reserveAndStage (at_ : RegistryReadings) (acceptance : TupleAcceptance)
    {tuple : PendingTerminal} {promoteNow : Bool}
    (hstages : Stages text store sessionId
      (storeCall ((recordedStore store).reserveProducerEventTuple tuple.event tuple.session
        fingerprint) >>= fun _ => pure (some ⟨tuple, acceptance⟩)) w)
    (hpromote : promoteNow = !w.registry.commands.hasPendingCommandWork sessionId) :
    Plays text sessionId 1 w
      ((storeCall ((recordedStore store).reserveProducerEventTuple tuple.event tuple.session
        fingerprint) >>= fun _ => stageTerminal sessionId tuple >>= fun _ =>
          storeCall (acceptance.call (recordedStore store)) >>= fun _ =>
          promoteWhen text (recordedStore store) at_ promoteNow sessionId tuple
            fingerprint).run w).2 := by
  refine Plays.reads_bind (reads_unrecorded _) fun _ v hreserve hreads => ?_
  refine plays_stage at_ fingerprint ⟨tuple, acceptance⟩ (hstages.next hreserve _ v rfl) ?_
  rw [hreads.registry]
  exact hpromote

/-- The older tuple is cancelled first. -/
theorem plays_cancelOlder (at_ : RegistryReadings) (acceptance : TupleAcceptance)
    {tuple : PendingTerminal} {promoteNow : Bool}
    (hstages : Stages text store sessionId
      (cancelTerminalRetry text (recordedStore store) at_ sessionId {} >>= fun _ =>
        storeCall ((recordedStore store).reserveProducerEventTuple tuple.event tuple.session
          fingerprint) >>= fun _ => pure (some ⟨tuple, acceptance⟩)) w)
    (hpromote : promoteNow = !w.registry.commands.hasPendingCommandWork sessionId) :
    Plays text sessionId 1 w
      ((cancelTerminalRetry text (recordedStore store) at_ sessionId {} >>= fun _ =>
        storeCall ((recordedStore store).reserveProducerEventTuple tuple.event tuple.session
          fingerprint) >>= fun _ => stageTerminal sessionId tuple >>= fun _ =>
          storeCall (acceptance.call (recordedStore store)) >>= fun _ =>
          promoteWhen text (recordedStore store) at_ promoteNow sessionId tuple
            fingerprint).run w).2 := by
  refine Plays.bind (plays_cancelTerminalRetry store at_) fun _ hok => ?_
  refine plays_reserveAndStage at_ acceptance (hstages.next (Prod.ext hok rfl)) ?_
  rw [(quiet_cancelTerminalRetry text (recordedStore store) at_ sessionId {} w).commands]
  exact hpromote

/-- A live duplicate is promoted when the Session is idle. -/
theorem plays_liveDuplicate {respond : PendingTerminal → α} {thrown : Thrown} :
    Plays text sessionId 1 w
      ((match (gateOf sessionId w).staged with
        | none => throw thrown
        | some duplicate =>
            promoteWhen text (recordedStore store) at_ (!(gateOf sessionId w).busy) sessionId
              duplicate fingerprint >>= fun _ => pure (respond duplicate) :
          RegistryEffect (Recorded ω) α).run w).2 := by
  split
  · exact Plays.refl w
  · next duplicate hstaged =>
    rw [final_bind_pure]
    exact (plays_promoteWhen hstaged rfl).mono (Nat.zero_le 1)

/-- The `switch` of `pushEvent`. -/
theorem plays_carryOutEventPlan (hfits : PlanFits sessionId w planned)
    (hstages : Stages text store sessionId (planStaging text (recordedStore store) at_
      eventAcceptances sessionId fingerprint planned.persistedReservation planned.plan) w) :
    Plays text sessionId 1 w
      ((carryOutEventPlan text (recordedStore store) at_ sessionId fingerprint planned.existing
        planned.persistedReservation planned.plan).run w).2 := by
  cases hfits with
  | reject thrown => exact Plays.refl w
  | liveDuplicate => exact plays_liveDuplicate
  | withoutTuple eventId => exact Plays.refl w
  | reserved reservation tuple =>
    -- the reservation of the tuple is there already
    have hplays := plays_stage at_ fingerprint ⟨tuple, .accepted⟩ (hstages _ w rfl) rfl
    rw [← final_bind_pure _ reservation.eventId] at hplays
    exact hplays
  | cancelOlder tuple =>
    rename_i reservation
    have hplays := plays_cancelOlder at_ (.event reservation) hstages rfl
    rw [← final_bind_pure _ tuple.event.eventId] at hplays
    simp only [Effect.bind_bind] at hplays
    exact hplays
  | reserveNew tuple =>
    rename_i reservation
    have hplays := plays_reserveAndStage at_ (.event reservation) hstages rfl
    rw [← final_bind_pure _ tuple.event.eventId] at hplays
    simp only [Effect.bind_bind] at hplays
    exact hplays

/-- The `switch` of `pushEventSource`. -/
theorem plays_carryOutPlan {request : AgentAdapterEventRequest}
    (hfits : PlanFits sessionId w planned)
    (hstages : Stages text store sessionId (planStaging text (recordedStore store) at_
      (sourceAcceptances at_ sessionId request fingerprint) sessionId fingerprint
      planned.persistedReservation planned.plan) w) :
    Plays text sessionId 1 w
      ((carryOutPlan text (recordedStore store) at_ sessionId request fingerprint planned.existing
        planned.persistedReservation planned.plan).run w).2 := by
  cases hfits with
  | reject thrown => exact Plays.refl w
  | liveDuplicate => exact plays_liveDuplicate
  | withoutTuple eventId => exact Plays.refl w
  | reserved reservation tuple =>
    have hplays := plays_stage at_ fingerprint
      ⟨tuple, (sourceAcceptances at_ sessionId request fingerprint).reserved reservation⟩
      (hstages _ w rfl) rfl
    rw [← final_bind_pure _ (respond request reservation.eventId .committed)] at hplays
    simp only [Effect.bind_bind] at hplays
    exact hplays
  | cancelOlder tuple =>
    rename_i reservation
    have hplays := plays_cancelOlder at_
      ((sourceAcceptances at_ sessionId request fingerprint).new reservation) hstages rfl
    rw [← final_bind_pure _ (respond request reservation.eventId .committed)] at hplays
    simp only [Effect.bind_bind] at hplays
    exact hplays
  | reserveNew tuple =>
    rename_i reservation
    have hplays := plays_reserveAndStage at_
      ((sourceAcceptances at_ sessionId request fingerprint).new reservation) hstages rfl
    rw [← final_bind_pure _ (respond request reservation.eventId .committed)] at hplays
    simp only [Effect.bind_bind] at hplays
    exact hplays

/-- An event is planned, and the plan is carried out. -/
theorem plays_planned {f : PlannedEvent → RegistryEffect (Recorded ω) α} {acceptances : Acceptances}
    {session : RegisteredSession} {input : AgentAdapterEventInput}
    (hfingerprint : producerEventFingerprint text input = .ok fingerprint)
    (hstages : Stages text store sessionId (newStaging text (recordedStore store) at_ acceptances
      sessionId session input fingerprint) w)
    (hcarry : ∀ planned v, PlanFits sessionId v planned →
      Stages text store sessionId (planStaging text (recordedStore store) at_ acceptances sessionId
        fingerprint planned.persistedReservation planned.plan) v →
      Plays text sessionId 1 v ((f planned).run v).2) :
    Plays text sessionId 1 w
      ((planEvent text (recordedStore store) at_ sessionId session input fingerprint >>= f).run
        w).2 := by
  refine Plays.reads_bind (reads_planEvent store session input) fun planned v hplanned hreads => ?_
  refine hcarry planned v ?_ (hstages.next hplanned)
  exact (planEvent_fits hfingerprint hplanned).of_gate hreads.unmoved.gate

/-- `pushEvent` stages one tuple at most. -/
theorem plays_pushEvent {value : AgentAdapterEventInput}
    (hstages : Stages text store sessionId
      (eventStaging text (recordedStore store) at_ sessionId value) w) :
    Plays text sessionId 1 w
      ((pushEvent text (recordedStore store) at_ sessionId value).run w).2 := by
  unfold pushEvent
  have hstages := hstages.next (a := w.registry) (v := w) rfl
  rw [Effect.run_bind, run_read, Effect.next_ok]
  rcases hsession : w.registry.sessions.get? sessionId with _ | session
  · exact Plays.refl w
  rw [hsession] at hstages
  dsimp only at hstages ⊢
  rcases haccepted : acceptProducerEventInput text sessionId session value with thrown | input
  · exact Plays.refl w
  rcases hfingerprint : producerEventFingerprint text input with thrown | fingerprint
  · rw [Effect.run_bind, Effect.run_ofExcept, Effect.next_ok, Effect.run_bind, hfingerprint]
    exact Plays.refl w
  rw [haccepted] at hstages
  have hstages := hstages.next (a := input) (v := w) rfl
  rw [hfingerprint] at hstages
  have hstages := hstages.next (a := fingerprint) (v := w) rfl
  rw [Effect.run_bind, Effect.run_ofExcept, Effect.next_ok, Effect.run_bind, hfingerprint,
    Effect.run_ofExcept, Effect.next_ok]
  exact plays_planned hfingerprint hstages fun planned v hfits hstages =>
    plays_carryOutEventPlan hfits hstages

/-- A source that the checkpoint already has stages its tuple again, when it is reserved. -/
theorem plays_promoteAcceptedSource {checkpoint : ProducerEventSourceCheckpointV1}
    (hstages : Stages text store sessionId
      (acceptedSourceStaging (recordedStore store) sessionId checkpoint fingerprint) w) :
    Plays text sessionId 1 w
      ((promoteAcceptedSource text (recordedStore store) at_ sessionId checkpoint fingerprint).run
        w).2 := by
  unfold promoteAcceptedSource
  refine Plays.reads_bind (reads_unrecorded _) fun reservation v hreservation hreads => ?_
  have hstages := hstages.next hreservation
  rcases reservation with _ | reserved
  · exact Plays.refl v
  dsimp only at hstages ⊢
  by_cases hid : reserved.eventId ≠ checkpoint.eventId
  · rw [if_pos hid]
    exact Plays.refl v
  rw [if_neg hid] at hstages ⊢
  refine Plays.reads_bind (reads_unrecorded _) fun tuple u htuple _ => ?_
  have hstages := hstages.next htuple
  rcases tuple with _ | pending
  · exact Plays.refl u
  · exact plays_stage at_ fingerprint ⟨pending, .accepted⟩ (hstages _ u rfl) rfl

/-- `pushEventSource` stages one tuple at most. -/
theorem plays_pushEventSource {request : AgentAdapterEventRequest}
    (hstages : Stages text store sessionId
      (sourceStaging text (recordedStore store) at_ sessionId request) w) :
    Plays text sessionId 1 w
      ((pushEventSource text (recordedStore store) at_ sessionId request).run w).2 := by
  unfold pushEventSource
  have hstages := hstages.next (a := w.registry) (v := w) rfl
  rw [Effect.run_bind, run_read, Effect.next_ok]
  rcases hsession : w.registry.sessions.get? sessionId with _ | session
  · exact Plays.refl w
  rw [hsession] at hstages
  dsimp only at hstages ⊢
  by_cases hvalid : validateAgentAdapterEventRequest request = true
  swap
  · rw [if_neg hvalid]
    exact Plays.refl w
  rw [if_pos hvalid] at hstages ⊢
  rcases haccepted : acceptProducerEventInput text sessionId session request.event with
    thrown | input
  · exact Plays.refl w
  cases acceptProducerEventInput_ok haccepted
  rcases hfingerprint : producerEventFingerprint text request.event with thrown | fingerprint
  · rw [Effect.run_bind, Effect.run_ofExcept, Effect.next_ok, Effect.run_bind, hfingerprint]
    exact Plays.refl w
  rw [haccepted] at hstages
  have hstages := hstages.next (a := request.event) (v := w) rfl
  rw [hfingerprint] at hstages
  have hstages := hstages.next (a := fingerprint) (v := w) rfl
  rw [Effect.run_bind, Effect.run_ofExcept, Effect.next_ok, Effect.run_bind, hfingerprint,
    Effect.run_ofExcept, Effect.next_ok]
  refine Plays.reads_bind (reads_unrecorded _) fun checkpoint v hcheckpoint hreads => ?_
  have hstages := hstages.next hcheckpoint
  have hnew (h : Stages text store sessionId (newStaging text (recordedStore store) at_
      (sourceAcceptances at_ sessionId request fingerprint) sessionId session request.event
      fingerprint) v) : Plays text sessionId 1 v ((acceptNewSource text (recordedStore store) at_
        sessionId session request fingerprint).run v).2 := by
    rw [acceptNewSource_eq]
    exact plays_planned hfingerprint h fun planned u hfits hstages =>
      plays_carryOutPlan hfits hstages
  rcases checkpoint with _ | accepted
  · exact hnew hstages
  dsimp only at hstages ⊢
  split
  · next hsame =>
    rw [if_pos hsame] at hstages
    unfold answerAcceptedSource
    split
    · exact Plays.refl v
    · next hcontent =>
      rw [if_neg hcontent] at hstages
      rw [final_bind_pure]
      exact plays_promoteAcceptedSource hstages
  · next hother =>
    rw [if_neg hother] at hstages
    split
    · next hincreases =>
      rw [if_pos hincreases] at hstages
      exact hnew hstages
    · exact Plays.refl v

end

end Ariava.Proofs.TerminalMoves
