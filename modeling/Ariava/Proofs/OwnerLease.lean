import Ariava.AgentAdapter.RegistryInvariants

/-!
# `Ariava.Proofs.OwnerLease`: a Session has one owner

The owner check accepts one instance under one lease at a time. `ownerLeases_safe` covers every
order of requests, registrations and listings from any number of instances.

- Two pairs of instance and lease that are accepted for a Session are one pair.
- An instance takes over a Session from another one only after the other one unregistered it,
  or later than the time to live after the last renewal. The theorem points at the step of the
  run in which the first owner lost the Session.
- A lease that is gone, or has lapsed, is not accepted again, for no Session.

The leases are drawn fresh (`RegistryStep.freshLease`), so the last item holds also when the
Session returns to the same instance.
-/

set_option autoImplicit false

namespace Ariava.Proofs

open Ariava.Lib
open Ariava.Protocol
open Ariava.StateStore
open Ariava.AgentAdapter

section
variable {ω : Type} (text : ProtocolText) (store : RegistryStateStore ω)

/-- The owner check accepts an instance and a lease at a reading of the clock. -/
def Accepts (w : RegistryWorld ω) (at_ : RegistryReadings)
    (sessionId driverInstanceId ownerLease : String) : Prop :=
  ((AgentAdapterRegistry.assertCurrentOwner text store at_ sessionId driverInstanceId
    ownerLease).run w).1 = .ok ()

/-- The instance owns the Session under the lease. -/
def Owns (w : RegistryWorld ω) (sessionId driverInstanceId ownerLease : String) : Prop :=
  ∃ session ∈ w.registry.sessions.get? sessionId,
    session.driverInstanceId = driverInstanceId ∧ session.ownerLease = ownerLease

instance (w : RegistryWorld ω) (sessionId driverInstanceId ownerLease : String) :
    Decidable (Owns w sessionId driverInstanceId ownerLease) :=
  Option.decidableExistsMem _

/-- A lease is gone from a Session, or its time to live has passed. -/
def LeaseOver (s : RegistrySystem ω) (sessionId ownerLease : String) : Prop :=
  ∀ session ∈ s.world.registry.sessions.get? sessionId,
    session.ownerLease = ownerLease → LeaseLapsed session.lastOwnerLeaseMonotonic s.clock

instance (s : RegistrySystem ω) (sessionId ownerLease : String) :
    Decidable (LeaseOver s sessionId ownerLease) :=
  Option.decidableForallMem _

/-- The current owner of a Session asks to unregister it. -/
def Unregisters (a : TimedAction ω) (sessionId driverInstanceId ownerLease : String) : Prop :=
  ∃ request, a.action = .request request ∧ request.operation = .unregister ∧
    request.sessionId = sessionId ∧ request.headers = some (driverInstanceId, ownerLease)

/-- Why an owner loses a Session in a step: it unregisters it, or the time to live of its lease
has passed. -/
def LosesForCause (w : RegistryWorld ω) (a : TimedAction ω)
    (sessionId driverInstanceId ownerLease : String) : Prop :=
  Unregisters a sessionId driverInstanceId ownerLease ∨
    ∃ session, w.registry.sessions.get? sessionId = some session ∧
      session.lastOwnerLeaseMonotonic + ownerLeaseTtl < a.at_.monotonicNow

variable {text store} {s s' : RegistrySystem ω} {a : TimedAction ω} {as : List (TimedAction ω)}
  {sessionId driverInstanceId ownerLease : String}

/-! ### The owner check -/

/-- An accepted pair owns the Session, and its lease has not lapsed. -/
theorem Accepts.owns {w : RegistryWorld ω} {at_ : RegistryReadings}
    (h : Accepts text store w at_ sessionId driverInstanceId ownerLease) :
    ∃ session, w.registry.sessions.get? sessionId = some session ∧
      session.driverInstanceId = driverInstanceId ∧ session.ownerLease = ownerLease ∧
      ¬ LeaseLapsed session.lastOwnerLeaseMonotonic at_.monotonicNow := by
  unfold Accepts at h
  rcases AgentAdapterRegistry.assertCurrentOwner_cases (w := w) text store at_ sessionId
    driverInstanceId ownerLease with
    (⟨thrown, hrun⟩ | ⟨session, -, -, ⟨thrown, hthrown⟩, -⟩) |
    ⟨session, hsession, hlive, hinstance, hlease, -⟩
  · rw [hrun] at h
    exact absurd h (by simp)
  · rw [hthrown] at h
    exact absurd h (by simp)
  · exact ⟨session, hsession, hinstance, hlease, hlive⟩

/-- Two accepted pairs are one pair. -/
theorem Accepts.unique {w : RegistryWorld ω} {at₁ at₂ : RegistryReadings}
    {instance₂ lease₂ : String}
    (h₁ : Accepts text store w at₁ sessionId driverInstanceId ownerLease)
    (h₂ : Accepts text store w at₂ sessionId instance₂ lease₂) :
    driverInstanceId = instance₂ ∧ ownerLease = lease₂ := by
  obtain ⟨session₁, hsession₁, rfl, rfl, -⟩ := h₁.owns
  obtain ⟨session₂, hsession₂, rfl, rfl, -⟩ := h₂.owns
  rw [hsession₁, Option.some.injEq] at hsession₂
  rw [hsession₂]
  exact ⟨rfl, rfl⟩

/-! ### How a Session is lost -/

/-- Losing an owner has a cause. -/
theorem losesForCause_of_losesOwner {w : RegistryWorld ω} (h : LosesOwner w a sessionId)
    (hclock : a.checkedAt.monotonicNow ≤ a.at_.monotonicNow)
    (howns : Owns w sessionId driverInstanceId ownerLease) :
    LosesForCause w a sessionId driverInstanceId ownerLease := by
  obtain ⟨session, hsession, hcause⟩ := h
  obtain ⟨owned, howned, rfl, rfl⟩ := howns
  rw [hsession, Option.mem_some_iff] at howned
  subst howned
  rcases haction : a.action with input | request | _ | command | ⟨token, commandId⟩ |
    ⟨token, commandId⟩ | poll | commandId | id | id | next | _
  all_goals rw [haction] at hcause
  · exact Or.inr ⟨session, hsession, hcause.2⟩
  · obtain ⟨hid, headers, hheaders, hlapsed | ⟨hoperation, rfl⟩⟩ := hcause
    · exact Or.inr ⟨session, hsession, Nat.lt_of_lt_of_le hlapsed hclock⟩
    · exact Or.inl ⟨request, haction, hoperation, hid, hheaders⟩
  · exact Or.inr ⟨session, hsession, hcause⟩
  all_goals exact hcause.elim

/-- In one step an owner stays, or it loses the Session for a cause. -/
theorem Owns.step (hinv : RegistryInvariant s) (hstep : RegistryStep text store s a s')
    (howns : Owns s.world sessionId driverInstanceId ownerLease) :
    Owns s'.world sessionId driverInstanceId ownerLease ∨
      LosesForCause s.world a sessionId driverInstanceId ownerLease := by
  obtain ⟨session, hsession, hinstance, hlease⟩ := howns
  rcases (hinv.refines hstep).kept_cases (AgentAdapterRegistry.held_of_get hsession) with
    ⟨next, hnext, hnextLease, hnextHolder⟩ | hloses
  · left
    obtain ⟨session', hsession', rfl⟩ := Option.map_eq_some_iff.mp hnext
    exact ⟨session', hsession', hnextHolder.trans hinstance, hnextLease.trans hlease⟩
  · exact Or.inr (losesForCause_of_losesOwner hloses hstep.clock.2
      ⟨session, hsession, hinstance, hlease⟩)

/-- Where an owner is replaced by another instance, a step of the run lost it for a cause. -/
theorem Owns.lost {s₀ : RegistrySystem ω} {instance' lease' : String} (hinv : RegistryInvariant s₀)
    (hrun : Run (RegistryStep text store) s₀ as s)
    (howns : Owns s₀.world sessionId driverInstanceId ownerLease)
    (hother : Owns s.world sessionId instance' lease') (hne : instance' ≠ driverInstanceId) :
    ∃ pre a post t t', as = pre ++ a :: post ∧ Run (RegistryStep text store) s₀ pre t ∧
      Owns t.world sessionId driverInstanceId ownerLease ∧ RegistryStep text store t a t' ∧
      Run (RegistryStep text store) t' post s ∧
      LosesForCause t.world a sessionId driverInstanceId ownerLease := by
  have hlost : ¬ Owns s.world sessionId driverInstanceId ownerLease := by
    rintro ⟨session, hsession, hinstance, -⟩
    obtain ⟨session', hsession', hinstance', -⟩ := hother
    rw [hsession, Option.mem_some_iff] at hsession'
    exact hne (hinstance'.symm.trans (hsession' ▸ hinstance))
  obtain ⟨pre, a, post, t, t', rfl, hpre, hbefore, hstep, hafter, hpost⟩ :=
    hrun.exists_loss (P := fun t => Owns t.world sessionId driverInstanceId ownerLease) howns hlost
  have hinv' : RegistryInvariant t :=
    hpre.invariant (fun _ _ _ hinv hstep => hinv.step hstep) hinv
  exact ⟨pre, a, post, t, t', rfl, hpre, hbefore, hstep, hpost,
    (hbefore.step hinv' hstep).resolve_left hafter⟩

/-! ### Leases that are over -/

/-- A lease that was granted and is over, in terms of the lease table. -/
abbrev EndedLease (s : RegistrySystem ω) (sessionId ownerLease : String) : Prop :=
  s.world.leases.Ended LeaseLapsed s.clock sessionId ownerLease

/-- A lease that has ended stays so. -/
theorem endedLease_step (hinv : RegistryInvariant s) (hstep : RegistryStep text store s a s')
    (hended : EndedLease s sessionId ownerLease) : EndedLease s' sessionId ownerLease := by
  have hlater : ∀ c c' since : Nat, c ≤ c' → LeaseLapsed since c → LeaseLapsed since c' :=
    fun _ _ _ hle h => Nat.lt_of_lt_of_le h hle
  obtain ⟨es, hrun, harises⟩ := (hinv.refines hstep).lease_run
  have hguarded : ∀ e ∈ es, LeaseEvent.From s.clock e := by
    intro e he
    obtain ⟨v, hv⟩ := harises e he
    cases e with
    | renew id checkedAt now => exact Nat.le_trans hstep.clock.1 hv
    | grant => trivial
    | release => trivial
    | expire => trivial
  have hclock : s.clock ≤ s'.clock := by
    rw [hstep.clock']
    exact Nat.le_trans hstep.clock.1 hstep.clock.2
  have hend := ended_of_run hrun (fun since now h hle => hlater _ _ _ hle h) hguarded hended
  exact ⟨hend.1, fun x hx hlease => hlater _ _ _ hclock (hend.2 x hx hlease)⟩

/-- A lease that has ended for a Session is not accepted there from now on. -/
theorem EndedLease.not_accepted (hended : EndedLease s sessionId ownerLease)
    {at_ : RegistryReadings} (hat : s.clock ≤ at_.monotonicNow) :
    ¬ Accepts text store s.world at_ sessionId driverInstanceId ownerLease := by
  intro haccepts
  obtain ⟨session, hsession, -, hlease, hlive⟩ := haccepts.owns
  have hlapsed := hended.2 _ (AgentAdapterRegistry.held_of_get hsession) hlease
  exact hlive (Nat.lt_of_lt_of_le hlapsed hat)

/-- The lease of an owner is over at another Session. -/
theorem Owns.ended_elsewhere (hinv : RegistryInvariant s)
    (howns : Owns s.world sessionId driverInstanceId ownerLease) {sessionId' : String}
    (hne : sessionId' ≠ sessionId) : EndedLease s sessionId' ownerLease := by
  obtain ⟨session, hsession, -, rfl⟩ := howns
  have hheld := AgentAdapterRegistry.held_of_get hsession
  refine ⟨hinv.leases.used _ _ hheld, fun x hx hlease => ?_⟩
  exact absurd (hinv.leases.exclusive _ _ _ _ hx hheld hlease) hne

/-- A lease that an owner had and that is over has ended. -/
theorem LeaseOver.ended {s₀ : RegistrySystem ω} (hinv : RegistryInvariant s₀)
    (hrun : Run (RegistryStep text store) s₀ as s)
    (howns : Owns s₀.world sessionId driverInstanceId ownerLease)
    (hover : LeaseOver s sessionId ownerLease) : EndedLease s sessionId ownerLease := by
  have hused : s.world.leases.used ownerLease := by
    obtain ⟨session, hsession, -, rfl⟩ := howns
    have hfirst := hinv.leases.used _ _ (AgentAdapterRegistry.held_of_get hsession)
    have hboth := hrun.invariant
      (I := fun t => RegistryInvariant t ∧ t.world.leases.used session.ownerLease)
      (fun t a t' ht hstep => ?_) ⟨hinv, hfirst⟩
    · exact hboth.2
    · obtain ⟨es, hlease, -⟩ := (ht.1.refines hstep).lease_run
      exact ⟨ht.1.step hstep, used_of_run hlease ht.2⟩
  refine ⟨hused, fun x hx hlease => ?_⟩
  obtain ⟨session, hsession, rfl⟩ := Option.map_eq_some_iff.mp hx
  exact hover session hsession hlease

/-- A lease that has ended stays so along a run. -/
theorem endedLease_of_run {s₀ : RegistrySystem ω} (hinv : RegistryInvariant s₀)
    (hrun : Run (RegistryStep text store) s₀ as s) (hended : EndedLease s₀ sessionId ownerLease) :
    EndedLease s sessionId ownerLease := by
  have hboth := hrun.invariant
    (I := fun t => RegistryInvariant t ∧ EndedLease t sessionId ownerLease)
    (fun t a t' ht hstep => ⟨ht.1.step hstep, endedLease_step ht.1 hstep ht.2⟩) ⟨hinv, hended⟩
  exact hboth.2

/-- A lease that an owner had and that is over is never accepted again, for any Session. -/
theorem LeaseOver.never_accepted {s₀ s₁ s₂ : RegistrySystem ω} {as bs : List (TimedAction ω)}
    (hinv : RegistryInvariant s₀) (hrun₁ : Run (RegistryStep text store) s₀ as s₁)
    (howns : Owns s₀.world sessionId driverInstanceId ownerLease)
    (hover : LeaseOver s₁ sessionId ownerLease) (hrun₂ : Run (RegistryStep text store) s₁ bs s₂)
    {at_ : RegistryReadings} (hat : s₂.clock ≤ at_.monotonicNow) (sessionId' instance' : String) :
    ¬ Accepts text store s₂.world at_ sessionId' instance' ownerLease := by
  have hinv₁ : RegistryInvariant s₁ :=
    hrun₁.invariant (fun _ _ _ hinv hstep => hinv.step hstep) hinv
  have hended : EndedLease s₂ sessionId' ownerLease := by
    by_cases hid : sessionId' = sessionId
    · subst hid
      exact endedLease_of_run hinv₁ hrun₂ (hover.ended hinv hrun₁ howns)
    · exact endedLease_of_run hinv (hrun₁.append hrun₂) (howns.ended_elsewhere hinv hid)
  exact hended.not_accepted hat

/-! ### The theorem -/

/-- In every reachable state at most one pair of instance and lease is accepted for a Session.
Another instance owns the Session later only if, in a step between, the owner unregistered it or
the time to live had passed since its last renewal. A lease that is over is never accepted
again. -/
theorem ownerLeases_safe {hostId : String} {nowMs : Int} {st : ω}
    (hrun : Run (RegistryStep text store) (RegistrySystem.start hostId nowMs st) as s) :
    (∀ sessionId at₁ at₂ instance₁ lease₁ instance₂ lease₂,
      Accepts text store s.world at₁ sessionId instance₁ lease₁ →
      Accepts text store s.world at₂ sessionId instance₂ lease₂ →
      instance₁ = instance₂ ∧ lease₁ = lease₂) ∧
    (∀ bs s', Run (RegistryStep text store) s bs s' →
      ∀ sessionId instance₁ lease₁ instance₂ lease₂, Owns s.world sessionId instance₁ lease₁ →
      Owns s'.world sessionId instance₂ lease₂ → instance₂ ≠ instance₁ →
      ∃ pre a post t t', bs = pre ++ a :: post ∧ Run (RegistryStep text store) s pre t ∧
        Owns t.world sessionId instance₁ lease₁ ∧ RegistryStep text store t a t' ∧
        Run (RegistryStep text store) t' post s' ∧
        LosesForCause t.world a sessionId instance₁ lease₁) ∧
    (∀ bs s₁, Run (RegistryStep text store) s bs s₁ →
      ∀ sessionId driverInstanceId ownerLease, Owns s.world sessionId driverInstanceId ownerLease →
      LeaseOver s₁ sessionId ownerLease → ∀ cs s₂, Run (RegistryStep text store) s₁ cs s₂ →
      ∀ at_, s₂.clock ≤ at_.monotonicNow → ∀ sessionId' instance',
      ¬ Accepts text store s₂.world at_ sessionId' instance' ownerLease) := by
  have hinv := RegistryInvariant.of_run hrun
  refine ⟨fun _ _ _ _ _ _ _ h₁ h₂ => h₁.unique h₂, ?_, ?_⟩
  · intro bs s' hrun' sessionId instance₁ lease₁ instance₂ lease₂ howns hother hne
    exact Owns.lost hinv hrun' howns hother hne
  · intro bs s₁ hrun₁ sessionId driverInstanceId ownerLease howns hover cs s₂ hrun₂ at_ hat
      sessionId' instance'
    exact hover.never_accepted hinv hrun₁ howns hrun₂ hat sessionId' instance'

end

/-- The instance `a` registers the Session. -/
def sampleTakeover₁ : List (TimedAction Unit) := [atSecond 1 "lease-1" (sampleRegistration "a")]

/-- Seven seconds later the instance `b` does. -/
def sampleTakeover₂ : List (TimedAction Unit) := [atSecond 8 "lease-2" (sampleRegistration "b")]

set_option maxRecDepth 10000 in
/-- The instance `b` gets the Session because the lease of `a` has lapsed, and the lease of `a`
is not accepted any more. -/
theorem ownerLeases_safe_takeover :
    let s := sampleStart.after sampleText idleStore sampleTakeover₁
    let s' := s.after sampleText idleStore sampleTakeover₂
    (∃ pre a post t t', sampleTakeover₂ = pre ++ a :: post ∧
      Run (RegistryStep sampleText idleStore) s pre t ∧ Owns t.world "session" "a" "lease-1" ∧
      RegistryStep sampleText idleStore t a t' ∧
      Run (RegistryStep sampleText idleStore) t' post s' ∧
      LosesForCause t.world a "session" "a" "lease-1") ∧
    ¬ Accepts sampleText idleStore s'.world (atSecond 9 "" .dispose).at_ "session" "a" "lease-1" := by
  intro s s'
  have hrun : Run (RegistryStep sampleText idleStore) sampleStart sampleTakeover₁ s :=
    run_of_admissible (by decide)
  have hrun' : Run (RegistryStep sampleText idleStore) s sampleTakeover₂ s' :=
    run_of_admissible (by decide)
  have howns : Owns s.world "session" "a" "lease-1" := by decide
  obtain ⟨-, htakeover, hover⟩ := ownerLeases_safe hrun
  refine ⟨htakeover _ _ hrun' _ _ _ "b" "lease-2" howns (by decide) (by decide), ?_⟩
  exact hover _ _ hrun' _ _ _ howns (by decide) _ _ (Run.nil s') _ (by decide) _ _

end Ariava.Proofs
