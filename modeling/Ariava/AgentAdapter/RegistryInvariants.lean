import Ariava.AgentAdapter.RegistrySteps

/-!
# `Ariava.AgentAdapter.RegistryInvariants`: from steps to runs of the registry

The rules by which a property of the leases or of the mailboxes becomes a property of every
run of the registry. `RegistryInvariant` holds in every reachable state, so
`RegistryStep.refines` applies to every step of a run. `RegistryStep.mail_rule` lifts an
invariant of the mailboxes that needs a guard, when the guard follows from the condition under
which the steps of the run are taken.
-/

set_option autoImplicit false

namespace Ariava.AgentAdapter

open Ariava.Lib
open Ariava.Protocol
open Ariava.StateStore

section
variable {ω : Type} {text : ProtocolText} {store : RegistryStateStore ω}
  {s s' : RegistrySystem ω} {a : TimedAction ω} {w w' : RegistryWorld ω}

/-! ### Rules for the mailboxes -/

/-- An invariant of the mailboxes under a guard, when the guard follows from where the events
come from. -/
theorem Refines.mail_rule {I : CommandMailbox → Prop}
    {G : CommandMailbox → CommandMailEvent → Prop}
    (hI : ∀ m e m', I m → G m e → MailStep commandScheme m e m' → I m')
    (hgrant : ∀ m sessionId lease, G m (.grant sessionId lease))
    (hlose : ∀ m sessionId, LosesOwner w a sessionId → m.parked = w.view.mail.parked →
      G m (.lose sessionId))
    (hmail : ∀ e, MailArises w a e → G w.view.mail e) (h : Refines a w w') (hw : I w.view.mail) :
    I w'.view.mail := by
  rcases h with hmoves | hmails
  · obtain ⟨es, hrun⟩ := hmoves.run
    refine hrun.invariant (I := fun v => I v.mail) (fun v e v' hv hguarded => ?_) hw
    obtain ⟨harises, hmove⟩ := hguarded
    have halong := hmove.mail
    cases e with
    | grant sessionId tenure => exact hI _ _ _ hv (hgrant _ _ _) halong
    | renew sessionId checkedAt now =>
      rw [show v'.mail = v.mail from halong]
      exact hv
    | release sessionId => exact hI _ _ _ hv (hlose _ _ harises.1 harises.2) halong
    | expire sessionId now => exact hI _ _ _ hv (hlose _ _ harises.1 harises.2) halong
  · obtain ⟨e, harises, hstep⟩ := hmails.step
    exact hI _ _ _ hw (hmail e harises) hstep

/-- An invariant of the mailboxes that needs no guard. -/
theorem Refines.mail_invariant {I : CommandMailbox → Prop}
    (hI : ∀ m e m', I m → MailStep commandScheme m e m' → I m') (h : Refines a w w')
    (hw : I w.view.mail) : I w'.view.mail :=
  h.mail_rule (G := fun _ _ => True) (fun m e m' hm _ => hI m e m' hm) (fun _ _ _ => trivial)
    (fun _ _ _ _ => trivial) (fun _ _ => trivial) hw

/-- Moving owners notes nothing. -/
theorem OwnerMove.log {v v' : RegistryView} {e : OwnerEvent} (hmove : OwnerMove v e v') :
    v'.mail.log = v.mail.log := by
  have halong := hmove.mail
  cases e with
  | grant sessionId tenure => exact MailStep.grant_log halong
  | renew sessionId checkedAt now => exact congrArg Mailbox.log halong
  | release sessionId => exact MailStep.lose_log halong
  | expire sessionId now => exact MailStep.lose_log halong

/-- What is noted in a step is noted in one step of the mailboxes, in which no owner
changes. -/
theorem Refines.log_cases (h : Refines a w w') :
    w'.view.mail.log = w.view.mail.log ∨ (w'.leases = w.leases ∧
      ∃ e, MailArises w a e ∧ MailStep commandScheme w.view.mail e w'.view.mail) := by
  rcases h with hmoves | hmails
  · left
    obtain ⟨es, hrun⟩ := hmoves.run
    exact hrun.invariant (I := fun v => v.mail.log = w.view.mail.log)
      (fun v e v' hv hguarded => hguarded.2.log.trans hv) rfl
  · exact Or.inr ⟨hmails.leases, hmails.step⟩

/-! ### Rules for the leases -/

/-- A step of the registry is a run of lease steps, and its events arise as they should. -/
theorem Refines.lease_run (h : Refines a w w') :
    ∃ es, Run (LeaseStep LeaseLapsed) w.leases es w'.leases ∧
      ∀ e ∈ es, ∃ v, OwnerArises w a v e := by
  rcases h with hmoves | hmails
  · obtain ⟨es, hrun⟩ := hmoves.run
    refine ⟨es, ?_, fun e he => hrun.guard_of_mem he⟩
    have hproject : Run (LeaseStep LeaseLapsed) w.leases (es.filterMap some) w'.leases :=
      hrun.project RegistryView.leases some fun v e v' hguarded => hguarded.2.leases
    rwa [List.filterMap_some] at hproject
  · refine ⟨[], ?_, fun e he => absurd he (by simp)⟩
    rw [hmails.leases]
    exact Run.nil _

/-- An owner stays under its lease, or the step can lose it. -/
theorem Refines.kept_cases (h : Refines a w w') {sessionId : String}
    {tenure : Tenure String String Nat} (hheld : w.leases.held sessionId = some tenure) :
    (∃ next, w'.leases.held sessionId = some next ∧ next.lease = tenure.lease ∧
      next.holder = tenure.holder) ∨ LosesOwner w a sessionId := by
  obtain ⟨es, hrun, harises⟩ := h.lease_run
  rcases kept_or_lost_of_run hrun hheld with hkept | hrelease | ⟨now, hexpire⟩
  · exact Or.inl hkept
  · obtain ⟨v, hloses, -⟩ := harises _ hrelease
    exact Or.inr hloses
  · obtain ⟨v, hloses, -⟩ := harises _ hexpire
    exact Or.inr hloses

/-! ### Every reachable state -/

/-- What holds in every reachable state. -/
structure RegistryInvariant (s : RegistrySystem ω) : Prop where
  keys : SessionKeys s.world
  conserved : Conserved commandScheme s.world.view.mail
  leases : s.world.leases.Sound

theorem Refines.keys (h : Refines a w w') (hkeys : SessionKeys w) : SessionKeys w' := by
  rcases h with hmoves | hmails
  · exact hmoves.keys hkeys
  · exact hmails.keys hkeys

theorem RegistryInvariant.refines (hinv : RegistryInvariant s)
    (hstep : RegistryStep text store s a s') : Refines a s.world s'.world :=
  hstep.refines hinv.keys hinv.conserved.toAddressed

theorem RegistryInvariant.step (hinv : RegistryInvariant s)
    (hstep : RegistryStep text store s a s') : RegistryInvariant s' := by
  have hrefines := hinv.refines hstep
  obtain ⟨es, hrun, -⟩ := hrefines.lease_run
  refine ⟨hrefines.keys hinv.keys, ?_, ?_⟩
  · exact hrefines.mail_invariant (fun _ _ _ hm hmail => hm.step hmail) hinv.conserved
  · exact hrun.invariant (fun _ _ _ htable hlease => hlease.sound htable) hinv.leases

/-- The first state has nothing in it. -/
theorem RegistryInvariant.start (hostId : String) (nowMs : Int) (st : ω) :
    RegistryInvariant (RegistrySystem.start hostId nowMs st) := by
  refine ⟨fun _ _ h => absurd h (by simp [RegistrySystem.start, AgentAdapterRegistry.new]),
    ⟨⟨fun k x hx => ?_, fun k p hp => ?_⟩, fun x => Nat.le_refl 0⟩, ⟨fun k x hx => ?_,
    fun k k' x x' hx => ?_⟩⟩
  · exact absurd hx (by simp [RegistryWorld.view, CommandTables.mail, RegistrySystem.start,
      AgentAdapterRegistry.new, CommandTables.empty, CommandTables.queue])
  · exact absurd hp (by simp [RegistryWorld.view, CommandTables.mail, RegistrySystem.start,
      AgentAdapterRegistry.new, CommandTables.empty, CommandTables.waiters])
  · exact absurd hx (by simp [RegistryWorld.leases, RegistrySystem.start,
      AgentAdapterRegistry.new])
  · exact absurd hx (by simp [RegistryWorld.leases, RegistrySystem.start,
      AgentAdapterRegistry.new])

/-- Every state of a run satisfies the invariant. -/
theorem RegistryInvariant.of_run {hostId : String} {nowMs : Int} {st : ω}
    {as : List (TimedAction ω)}
    (hrun : Run (RegistryStep text store) (RegistrySystem.start hostId nowMs st) as s) :
    RegistryInvariant s :=
  hrun.invariant (fun _ _ _ hinv hstep => hinv.step hstep) (.start hostId nowMs st)

end

/-! ### A sample registry -/

/-- The state after a list of actions. -/
def RegistrySystem.after {ω : Type} (text : ProtocolText) (store : RegistryStateStore ω)
    (s : RegistrySystem ω) (as : List (TimedAction ω)) : RegistrySystem ω :=
  as.foldl (fun t a => t.next text store a) s

/-- Each action of a list can be taken, one after the other. -/
def AllAdmissible {ω : Type} (text : ProtocolText) (store : RegistryStateStore ω)
    (C : RegistrySystem ω → TimedAction ω → Prop) :
    RegistrySystem ω → List (TimedAction ω) → Prop
  | _, [] => True
  | s, a :: rest => (C s a ∧ Admissible s a) ∧ AllAdmissible text store C (s.next text store a) rest

instance {ω : Type} (text : ProtocolText) (store : RegistryStateStore ω)
    (C : RegistrySystem ω → TimedAction ω → Prop) [∀ s a, Decidable (C s a)] :
    (s : RegistrySystem ω) → (as : List (TimedAction ω)) →
      Decidable (AllAdmissible text store C s as)
  | _, [] => instDecidableTrue
  | s, a :: rest =>
      haveI := instDecidableAllAdmissible text store C (s.next text store a) rest
      instDecidableAnd

/-- Actions that can be taken one after the other are a run. -/
theorem AllAdmissible.run {ω : Type} {text : ProtocolText} {store : RegistryStateStore ω}
    {C : RegistrySystem ω → TimedAction ω → Prop} {s : RegistrySystem ω}
    {as : List (TimedAction ω)} (h : AllAdmissible text store C s as) :
    Run (Guarded (RegistryStep text store) C) s as (s.after text store as) := by
  induction as generalizing s with
  | nil => exact Run.nil s
  | cons a rest ih => exact Run.cons ⟨h.1.1, h.1.2.step⟩ (ih h.2)

/-- The same without a condition. -/
theorem run_of_admissible {ω : Type} {text : ProtocolText} {store : RegistryStateStore ω}
    {s : RegistrySystem ω} {as : List (TimedAction ω)}
    (h : AllAdmissible text store (fun _ _ => True) s as) :
    Run (RegistryStep text store) s as (s.after text store as) :=
  h.run.mono fun _ _ _ hguarded => hguarded.2

/-- The text functions of the sample registry. -/
def sampleText : ProtocolText where
  hash := ⟨fun _ => "AAAAAAAAAAAAAAAAAAAAAAAAAAAAAAAAAAAAAAAAAAA", fun _ => by decide⟩
  localeCompare := compare
  isNeedHumanError _ := true

/-- A store that keeps nothing. -/
def idleStore : RegistryStateStore Unit where
  getSession _ := pure none
  getDriverNameForSession _ := pure none
  setSessionDriver _ _ _ := pure ()
  removeSession _ _ := pure ()
  getTerminalEventCancellation _ := pure none
  cancelTerminalEvent _ := pure ()
  reserveProducerEventTuple _ _ _ := pure ()
  getProducerEventTuple _ _ := pure none
  reserveProducerEvent _ := pure ()
  acceptProducerEventSource _ := pure ()
  getProducerEventReservation _ _ := pure none
  listProducerEventReservations _ := pure []
  getProducerEventCheckpoint _ := pure none
  getRecentEvent _ := pure none
  queuePendingEvent _ _ _ := pure ()
  queuePendingSessionHandle _ := pure ()
  markCommandOutcomeUnknownIfPresent _ := pure ()

/-- An action at a second of the monotonic clock. The lease is the one it would draw. -/
def atSecond (second : Nat) (lease : String) (action : RegistryAction Unit) : TimedAction Unit :=
  let readings : RegistryReadings := ⟨second * 1000000000, 0, "2026-01-01T00:00:00.000Z", lease, ""⟩
  ⟨action, readings, readings⟩

/-- A registration of the sample Session by an instance. -/
def sampleRegistration (driverInstanceId : String) : RegistryAction Unit :=
  .register {
    sessionId := "session"
    provider := "pi"
    projectName := "project"
    cwd := "/project"
    nameText := "name"
    openingText := none
    latestActivityText := none
    harnessProvider := none
    pid := none
    status := some .working
    driverInstanceId := driverInstanceId }

/-- A request to an owner route of the sample Session. -/
def sampleRequest (driverInstanceId ownerLease : String) (operation : OwnerOperation) :
    RegistryAction Unit :=
  .request ⟨"session", some (driverInstanceId, ownerLease), operation⟩

/-- A command for the sample Session. -/
def sampleCommand : CommandEnvelope where
  commandId := "command"
  hostId := "host"
  sessionId := "session"
  type := .interrupt
  text := none
  targetAlertEventId := none
  issuedAt := ⟨⟨0, by decide⟩, by decide⟩
  expiresAt := ⟨⟨60000, by decide⟩, by decide⟩
  nonce := "nonce"
  watchDeviceId := "watch"

/-- The result of the sample command. -/
def sampleResult : CommandResult where
  commandId := "command"
  hostId := "host"
  sessionId := "session"
  status := .executed
  updatedAt := ⟨⟨1000, by decide⟩, by decide⟩

/-- The sample registry before its first registration. -/
def sampleStart : RegistrySystem Unit := .start "host" 0 ()

end Ariava.AgentAdapter
