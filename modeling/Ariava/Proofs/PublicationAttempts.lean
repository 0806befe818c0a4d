import Ariava.Proofs.AlertFreshness

/-!
# `Ariava.Proofs.PublicationAttempts`: when a run is pushed again

The Pi extension pushes the alert of a run again when `pushEvent` throws. `Attempts.failed` says
that this is the only reason: of two pushes of one run of one session lifetime, the first has
failed by the time the second is made. So an event whose push was acknowledged, or is still in
flight, is not pushed once more.

A run is known by the lifetime of the session and the generation of the run. The generations of a
lifetime are drawn one after the other, and each of them settles at most once, so all pushes of a
run are of one alert. Of one alert one push is in flight at a time (`Flights`), and after an
acknowledged one nothing is left that could push it again (`Quiet`).
-/

set_option autoImplicit false

namespace Ariava.Proofs.PublicationAttempts

open Ariava.Lib
open Ariava.Extensions
open Ariava.Extensions.PiExtension
open Ariava.Proofs.AlertFreshness

variable {eventPublicationEnabled : Bool} {text : PiText} {w x : PiExtension} {a : PiAction}
  {as : List PiAction} {s t : PiReducerState} {alert : PendingTerminalAlert}

/-- Two pushes are of one run of one session lifetime. -/
def SameRun (c d : PushCall) : Prop :=
  c.lifetime = d.lifetime ∧ c.alert.runGeneration = d.alert.runGeneration

/-! ### What the changes do to the runs -/

/-- What is read of the state here. -/
structure RunView where
  id : Nat
  generationSequence : Nat
  currentRunGeneration : Option Nat
  latestPendingAlert : Option PendingTerminalAlert

/-- The part of a state with its runs. -/
def runViewOf (s : PiReducerState) : RunView :=
  ⟨s.id, s.generationSequence, s.currentRunGeneration, s.latestPendingAlert⟩

/-- The part of the state with its runs. -/
def runView (w : PiExtension) : Option RunView := w.state.map runViewOf

/-- The runs are as they were, or one or both of the current run and the alert are gone. -/
structure KeepsRuns (w x : PiExtension) : Prop where
  created : w.created ≤ x.created
  view : ∀ v, runView x = some v → ∃ u, runView w = some u ∧ v.id = u.id ∧
    v.generationSequence = u.generationSequence ∧
    (v.currentRunGeneration = u.currentRunGeneration ∨ v.currentRunGeneration = none) ∧
    (v.latestPendingAlert = u.latestPendingAlert ∨ v.latestPendingAlert = none)

/-- What a change does to the runs and the pushes. -/
inductive AttemptChange (w x : PiExtension) : Prop
  | renewed (hpushes : x.pushes = w.pushes) (hcreated : w.created ≤ x.created)
      (hview : ∀ v, runView x = some v → v = ⟨w.created, 0, none, none⟩ ∧ w.created < x.created)
  | kept (hpushes : x.pushes = w.pushes) (hkept : KeepsRuns w x)
      (htimers : ∀ timer ∈ x.timers, timer ∈ w.timers)
  | started (v : RunView) (hv : runView w = some v)
      (hview : runView x = some ⟨v.id, v.generationSequence + 1, some (v.generationSequence + 1), none⟩)
      (hpushes : x.pushes = w.pushes) (hcreated : w.created ≤ x.created)
  | built (v : RunView) (alert : PendingTerminalAlert) (hv : runView w = some v)
      (hcurrent : v.currentRunGeneration = some alert.runGeneration)
      (hnone : v.latestPendingAlert = none) (hid : alert.id = w.created)
      (hview : runView x = some ⟨v.id, v.generationSequence, none, some alert⟩)
      (hpushes : x.pushes = w.pushes) (hcreated : w.created ≤ x.created)
  | pushed (v : RunView) (hv : runView w = some v) (hview : runView x = some v) (call : PushCall)
      (halert : v.latestPendingAlert = some call.alert) (hlifetime : call.lifetime = v.id)
      (houtcome : call.outcome = .inFlight)
      (hbefore : w.timers ≠ []) (htimers : x.timers = []) (hpushes : x.pushes = w.pushes ++ [call])
      (hcreated : w.created ≤ x.created)
  | ended (push : Nat) (outcome : PushOutcome) (houtcome : outcome ≠ .inFlight) (call : PushCall)
      (hcall : w.pushes[push]? = some call) (hflight : call.outcome = .inFlight)
      (hpushes : x.pushes = w.endedPushes push outcome) (hkept : KeepsRuns w x)
      (htimers : (∀ timer ∈ x.timers, timer ∈ w.timers) ∨
        (outcome = .failed ∧ pendingAlert w = some call.alert))

theorem runView_of_state (hstate : w.state = some s) : runView w = some (runViewOf s) := by
  unfold runView
  rw [hstate]
  rfl

/-- A state with the same runs, or fewer. -/
theorem KeepsRuns.of_state (hstate : w.state = some s) (hx : x.state = some t) (hid : t.id = s.id)
    (hsequence : t.generationSequence = s.generationSequence)
    (hcurrent : t.currentRunGeneration = s.currentRunGeneration ∨ t.currentRunGeneration = none)
    (hpending : t.latestPendingAlert = s.latestPendingAlert ∨ t.latestPendingAlert = none)
    (hcreated : w.created ≤ x.created) : KeepsRuns w x where
  created := hcreated
  view v hv := by
    cases (runView_of_state hx).symm.trans hv
    exact ⟨runViewOf s, runView_of_state hstate, hid, hsequence, hcurrent, hpending⟩

/-- The same for a change within the state, if there is one. -/
theorem KeepsRuns.of_map {f : PiReducerState → PiReducerState} (hx : x.state = w.state.map f)
    (hf : ∀ s, runViewOf (f s) = runViewOf s) (hcreated : w.created ≤ x.created) :
    KeepsRuns w x where
  created := hcreated
  view v hv := by
    have hsame : runView x = runView w := by
      unfold runView
      rw [hx, Option.map_map]
      exact Option.map_congr fun s _ => hf s
    exact ⟨v, hsame.symm.trans hv, rfl, rfl, Or.inl rfl, Or.inl rfl⟩

theorem KeepsRuns.refl (hstate : x.state = w.state) (hcreated : w.created ≤ x.created) :
    KeepsRuns w x :=
  .of_map (f := fun s => s) (by rw [hstate, Option.map_id']) (fun _ => rfl) hcreated

/-- Every change does one of these to the runs and the pushes. -/
theorem attempt_change (hw : Timed w) (hallowed : w.Allowed a)
    (h : Change eventPublicationEnabled w a x) : AttemptChange w x := by
  have hnone : ∀ timer ∈ w.clearedTimers, timer ∈ w.timers := by
    intro timer htimer
    rw [hw.clearedTimers_eq_nil] at htimer
    cases htimer
  have hfiltered : ∀ (s : PiReducerState) (timer : Nat),
      ∀ other ∈ (w.firedTimers timer).filter fun t => s.quietTimer ≠ some t.id,
        other ∈ w.timers :=
    fun s timer other hother => List.mem_of_mem_filter (List.mem_of_mem_filter hother)
  cases h with
  | restart ctx =>
    refine .renewed rfl (Nat.le_succ _) fun v hv => ?_
    cases hv
    exact ⟨rfl, Nat.lt_succ_self _⟩
  | restartFails ctx => exact .kept rfl (.of_map rfl (fun _ => rfl) le_rfl) hnone
  | shutdown ctx =>
    refine .renewed rfl le_rfl fun v hv => ?_
    cases hv
  | ignored a hignored => exact .kept rfl (.refl rfl le_rfl) fun _ h => h
  | steering s hstate now =>
    exact .kept rfl (.of_state hstate rfl rfl rfl (.inl rfl) (.inl rfl) le_rfl) fun _ h => h
  | typed s hstate now =>
    exact .kept rfl (.of_state hstate rfl rfl rfl (.inr rfl) (.inr rfl) le_rfl) hnone
  | start s hstate ctx hactive =>
    exact .started (runViewOf s) (runView_of_state hstate) rfl rfl le_rfl
  | ended s hstate ctx hactive messages result hcurrent =>
    exact .kept rfl (.of_state hstate rfl rfl rfl (.inl rfl) (.inl rfl) le_rfl) fun _ h => h
  | notRunning s hstate ctx hactive messages =>
    exact .kept rfl (.of_state hstate rfl rfl rfl (.inl rfl) (.inl rfl) le_rfl) fun _ h => h
  | unsettled ctx hactive createdAt => exact .kept rfl (.refl rfl le_rfl) fun _ h => h
  | dropped s hstate ctx hactive createdAt =>
    exact .kept rfl (.of_state hstate rfl rfl rfl (.inr rfl) (.inl rfl) le_rfl) fun _ h => h
  | settled s hstate =>
    exact .kept rfl (.of_state hstate rfl rfl rfl (.inr rfl) (.inl rfl) le_rfl) fun _ h => h
  | submitted s hstate ctx hactive createdAt result hresult hcurrent hpending alert hid hflow
      hgeneration =>
    exact .built (runViewOf s) alert (runView_of_state hstate) (hgeneration ▸ hcurrent) hpending hid
      rfl rfl (Nat.le_add_right _ 2)
  | switched s hstate ctx hactive newLeafId =>
    exact .kept rfl (.of_state hstate rfl rfl rfl (.inr rfl) (.inr rfl) le_rfl) hnone
  | fired timer newWork =>
    exact .kept rfl (.refl rfl le_rfl) fun _ h => List.mem_of_mem_filter h
  | skipped s hstate timer newWork =>
    exact .kept rfl (.of_state hstate rfl rfl rfl (.inl rfl) (.inl rfl) le_rfl) (hfiltered s timer)
  | interrupted s hstate timer newWork =>
    exact .kept rfl (.of_state hstate rfl rfl rfl (.inl rfl) (.inr rfl) le_rfl) (hfiltered s timer)
  | unpublished s hstate timer newWork hdisabled =>
    exact .kept rfl (.of_state hstate rfl rfl rfl (.inl rfl) (.inr rfl) le_rfl) (hfiltered s timer)
  | pushed s hstate timer newWork htimer call hemit hlifetime htoken hsession hleaf hflow hsettled
      hcursor houtcome =>
    obtain ⟨-, hpending, -⟩ := mayEmit_iff.mp hemit
    obtain ⟨quietTimer, hmem, -⟩ := List.mem_map.mp htimer
    exact .pushed (runViewOf s) (runView_of_state hstate) rfl call hpending hlifetime houtcome
      (List.ne_nil_of_mem hmem) (hw.filter_eq_nil hstate timer) rfl le_rfl
  | acknowledgedLate push eventId call hcall hlate =>
    obtain ⟨-, hflight⟩ := mem_of_allowed hcall hallowed
    exact .ended push _ (by simp) call hcall hflight rfl (.of_map rfl (fun _ => rfl) le_rfl)
      (.inl fun _ h => h)
  | acknowledgedAnswered push eventId call hcall s hstate =>
    obtain ⟨-, hflight⟩ := mem_of_allowed hcall hallowed
    exact .ended push _ (by simp) call hcall hflight rfl
      (.of_state hstate rfl rfl rfl (.inl rfl) (.inl rfl) le_rfl) (.inl fun _ h => h)
  | acknowledged push eventId call hcall s hstate =>
    obtain ⟨-, hflight⟩ := mem_of_allowed hcall hallowed
    exact .ended push _ (by simp) call hcall hflight rfl
      (.of_state hstate rfl rfl rfl (.inl rfl) (.inr rfl) le_rfl) (.inl fun _ h => h)
  | failed push call hcall =>
    obtain ⟨-, hflight⟩ := mem_of_allowed hcall hallowed
    exact .ended push _ (by simp) call hcall hflight rfl (.of_map rfl (fun _ => rfl) le_rfl)
      (.inl fun _ h => h)
  | failedAgain push call hcall s hstate hdelivered hpending =>
    obtain ⟨-, hflight⟩ := mem_of_allowed hcall hallowed
    refine .ended push _ (by simp) call hcall hflight rfl
      (.of_state hstate rfl rfl rfl (.inl rfl) (.inl rfl) (Nat.le_succ _)) (.inr ⟨rfl, ?_⟩)
    rw [pendingAlert_eq hstate]
    exact (stillPending_iff.mp hpending).1
  | handled handle call hcall =>
    exact .kept rfl (.of_map rfl (fun _ => rfl) le_rfl) fun _ h => h
  | unhandled handle call hcall =>
    exact .kept rfl (.of_map rfl (fun _ => rfl) le_rfl) fun _ h => h

/-! ### After an acknowledged push -/

/-- While a push of the pending alert is in flight no timer is set, and after an acknowledged one
nothing is left that could push the alert again. -/
structure Quiet (w : PiExtension) : Prop where
  flying : ∀ alert, pendingAlert w = some alert → ∀ call ∈ w.pushes, call.alert.id = alert.id →
    call.outcome = .inFlight → w.timers = []
  acknowledged : ∀ alert, pendingAlert w = some alert → ∀ call ∈ w.pushes,
    call.alert.id = alert.id → ∀ eventId, call.outcome = .acknowledged eventId → ¬ Live w alert

theorem pendingAlert_of_view {v : RunView} (hv : runView w = some v) :
    pendingAlert w = v.latestPendingAlert := by
  obtain ⟨s, hs, rfl⟩ := Option.map_eq_some_iff.mp hv
  exact pendingAlert_eq hs

theorem view_of_pendingAlert (h : pendingAlert w = some alert) :
    ∃ v, runView w = some v ∧ v.latestPendingAlert = some alert := by
  obtain ⟨s, hs, halert⟩ := Option.bind_eq_some_iff.mp h
  exact ⟨runViewOf s, runView_of_state hs, halert⟩

/-- The pending alert is the one from before. -/
theorem KeepsRuns.pending (h : KeepsRuns w x) (halert : pendingAlert x = some alert) :
    pendingAlert w = some alert := by
  obtain ⟨v, hv, hpending⟩ := view_of_pendingAlert halert
  obtain ⟨u, hu, -, -, -, hsame | hnone⟩ := h.view v hv
  · rw [pendingAlert_of_view hu, ← hsame, hpending]
  · rw [hnone] at hpending
    cases hpending

theorem eq_nil_of_subset {timers timers' : List QuietTimer} (hnil : timers = [])
    (hsubset : ∀ timer ∈ timers', timer ∈ timers) : timers' = [] := by
  rw [hnil] at hsubset
  exact List.eq_nil_iff_forall_not_mem.mpr fun timer htimer => by cases hsubset timer htimer

/-- What was quiet stays quiet when the pushes are the same. -/
theorem Quiet.of_same (hq : Quiet w) (hpushes : x.pushes = w.pushes)
    (hpending : ∀ alert, pendingAlert x = some alert → pendingAlert w = some alert)
    (htimers : ∀ timer ∈ x.timers, timer ∈ w.timers)
    (hlive : ∀ alert, pendingAlert w = some alert → Live x alert → Live w alert) : Quiet x where
  flying alert halert call hcall hid hflight := by
    rw [hpushes] at hcall
    exact eq_nil_of_subset (hq.flying alert (hpending alert halert) call hcall hid hflight) htimers
  acknowledged alert halert call hcall hid eventId hended := by
    rw [hpushes] at hcall
    have hbefore := hpending alert halert
    exact mt (hlive alert hbefore) (hq.acknowledged alert hbefore call hcall hid eventId hended)

/-- Every change keeps the extension quiet. -/
theorem Quiet.change (hq : Quiet w) (hw : Timed w) (hflights : Flights w) (hallowed : w.Allowed a)
    (h : Change eventPublicationEnabled w a x) : Quiet x := by
  have hlive : ∀ alert, pendingAlert w = some alert → Live x alert → Live w alert :=
    fun alert hbefore => live_of_change hw hallowed h hbefore
  cases attempt_change hw hallowed h with
  | renewed hpushes hcreated hview =>
    have hnone : ∀ alert, pendingAlert x ≠ some alert := by
      intro alert halert
      obtain ⟨v, hv, hpending⟩ := view_of_pendingAlert halert
      rw [(hview v hv).1] at hpending
      cases hpending
    exact ⟨fun alert halert => absurd halert (hnone alert),
      fun alert halert => absurd halert (hnone alert)⟩
  | kept hpushes hkept htimers => exact hq.of_same hpushes (fun _ => hkept.pending) htimers hlive
  | started v hv hview =>
    have hnone : pendingAlert x = none := pendingAlert_of_view hview
    constructor
    · intro alert halert
      rw [hnone] at halert
      cases halert
    · intro alert halert
      rw [hnone] at halert
      cases halert
  | built v alert hv hcurrent hnone hid hview hpushes =>
    -- The alert is new, so no push is of it.
    have hfresh : ∀ other, pendingAlert x = some other → ∀ call ∈ x.pushes,
        call.alert.id ≠ other.id := by
      intro other hother call hcall hsame
      rw [pendingAlert_of_view hview] at hother
      cases hother
      rw [hpushes] at hcall
      have hlt := hflights.pushed call hcall
      omega
    exact ⟨fun other hother call hcall hsame => absurd hsame (hfresh other hother call hcall),
      fun other hother call hcall hsame => absurd hsame (hfresh other hother call hcall)⟩
  | pushed v hv hview call halert hlifetime houtcome hbefore htimers hpushes =>
    refine ⟨fun _ _ _ _ _ _ => htimers, ?_⟩
    intro alert hpending other hother hid eventId hended
    rw [pendingAlert_of_view hview, ← pendingAlert_of_view hv] at hpending
    rw [hpushes] at hother
    rcases List.mem_append.mp hother with hold | hnew
    · exact mt (hlive alert hpending) (hq.acknowledged alert hpending other hold hid eventId hended)
    · rw [List.mem_singleton.mp hnew, houtcome] at hended
      cases hended
  | ended push outcome houtcome call hcall hflight hpushes hkept htimers =>
    -- A push of the same alert that is in flight is the one that has ended.
    have honly : ∀ i other, w.pushes[i]? = some other → other.outcome = .inFlight →
        other.alert.id = call.alert.id → i = push :=
      fun i other hi hother hid => hflights.one i push other call hi hcall hother hflight hid
    constructor
    · intro alert halert other hother hid hother'
      have hbefore := hkept.pending halert
      obtain ⟨i, hi⟩ := List.mem_iff_getElem?.mp hother
      rw [hpushes] at hi
      obtain ⟨hold, hne⟩ := getElem?_endedPushes houtcome hi hother'
      rcases htimers with hsubset | ⟨-, hsame⟩
      · exact eq_nil_of_subset (hq.flying alert hbefore other (List.mem_of_getElem? hold) hid hother')
          hsubset
      · cases hsame.symm.trans hbefore
        exact absurd (honly i other hold hother' hid) hne
    · intro alert halert other hother hid eventId hended hlivex
      have hbefore := hkept.pending halert
      have hlivew := hlive alert hbefore hlivex
      obtain ⟨i, hi⟩ := List.mem_iff_getElem?.mp hother
      rw [hpushes] at hi
      obtain ⟨old, hold, rfl | ⟨rfl, rfl⟩⟩ := getElem?_ended hi
      · exact hq.acknowledged alert hbefore _ (List.mem_of_getElem? hold) hid eventId hended hlivew
      · -- The answer has just come: no timer is set, and no other push is in flight.
        cases hcall.symm.trans hold
        rcases htimers with hsubset | ⟨hfailed, -⟩
        · have hnil := eq_nil_of_subset
            (hq.flying alert hbefore call (List.mem_of_getElem? hcall) hid hflight) hsubset
          rcases hlivex with htimer | ⟨another, hanother, rfl, hflying, -⟩
          · exact htimer hnil
          · obtain ⟨j, hj⟩ := List.mem_iff_getElem?.mp hanother
            rw [hpushes] at hj
            obtain ⟨hold', hne⟩ := getElem?_endedPushes houtcome hj hflying
            exact hne (honly j another hold' hflying hid.symm)
        · rw [show outcome = .acknowledged eventId from hended] at hfailed
          cases hfailed

/-! ### The runs of the pushes -/

/-- The generations of a lifetime are drawn in order, each settles at most once, and a run is
pushed again only after the push before has failed. -/
structure Attempts (w : PiExtension) : Prop where
  lifetime : ∀ v, runView w = some v → v.id < w.created
  pushed : ∀ call ∈ w.pushes, call.lifetime < w.created
  current : ∀ v runGeneration, runView w = some v →
    v.currentRunGeneration = some runGeneration → runGeneration ≤ v.generationSequence
  pending : ∀ v alert, runView w = some v → v.latestPendingAlert = some alert →
    alert.runGeneration ≤ v.generationSequence ∧
      v.currentRunGeneration ≠ some alert.runGeneration
  drawn : ∀ v, runView w = some v → ∀ call ∈ w.pushes, call.lifetime = v.id →
    call.alert.runGeneration ≤ v.generationSequence ∧
      v.currentRunGeneration ≠ some call.alert.runGeneration
  same : ∀ v alert, runView w = some v → v.latestPendingAlert = some alert →
    ∀ call ∈ w.pushes, call.lifetime = v.id → call.alert.runGeneration = alert.runGeneration →
      call.alert.id = alert.id
  failed : ∀ (i j : Nat) (c d : PushCall), i < j → w.pushes[i]? = some c → w.pushes[j]? = some d →
    SameRun c d → c.outcome = .failed

/-- What the pushes of an earlier extension were, but for their outcomes. -/
def SamePushes (w x : PiExtension) : Prop :=
  ∀ (i : Nat) (call : PushCall), x.pushes[i]? = some call → ∃ old, w.pushes[i]? = some old ∧
    call.lifetime = old.lifetime ∧ call.alert = old.alert ∧
      (old.outcome = .failed → call.outcome = .failed)

/-- Pushes that have the same runs. -/
theorem Attempts.of_kept (hw : Attempts w) (hkept : KeepsRuns w x) (hpushes : SamePushes w x) :
    Attempts x where
  lifetime v hv := by
    obtain ⟨u, hu, hid, -⟩ := hkept.view v hv
    rw [hid]
    exact lt_of_lt_of_le (hw.lifetime u hu) hkept.created
  pushed call hcall := by
    obtain ⟨i, hi⟩ := List.mem_iff_getElem?.mp hcall
    obtain ⟨old, hold, hlifetime, -⟩ := hpushes i call hi
    rw [hlifetime]
    exact lt_of_lt_of_le (hw.pushed old (List.mem_of_getElem? hold)) hkept.created
  current v runGeneration hv hcurrent := by
    obtain ⟨u, hu, -, hsequence, hsame | hnone, -⟩ := hkept.view v hv
    · rw [hsequence]
      exact hw.current u runGeneration hu (hsame ▸ hcurrent)
    · rw [hnone] at hcurrent
      cases hcurrent
  pending v alert hv halert := by
    obtain ⟨u, hu, -, hsequence, hcurrent, hsame | hnone⟩ := hkept.view v hv
    · obtain ⟨hle, hne⟩ := hw.pending u alert hu (hsame ▸ halert)
      refine ⟨hsequence ▸ hle, ?_⟩
      rcases hcurrent with hcurrent | hcurrent
      · rw [hcurrent]
        exact hne
      · rw [hcurrent]
        simp
    · rw [hnone] at halert
      cases halert
  drawn v hv call hcall hlifetime := by
    obtain ⟨u, hu, hid, hsequence, hcurrent, -⟩ := hkept.view v hv
    obtain ⟨i, hi⟩ := List.mem_iff_getElem?.mp hcall
    obtain ⟨old, hold, holder, halert, -⟩ := hpushes i call hi
    obtain ⟨hle, hne⟩ := hw.drawn u hu old (List.mem_of_getElem? hold)
      (holder.symm.trans (hlifetime.trans hid))
    rw [halert, hsequence]
    refine ⟨hle, ?_⟩
    rcases hcurrent with hcurrent | hcurrent
    · rw [hcurrent]
      exact hne
    · rw [hcurrent]
      simp
  same v alert hv halert call hcall hlifetime hgeneration := by
    obtain ⟨u, hu, hid, -, -, hsame | hnone⟩ := hkept.view v hv
    · obtain ⟨i, hi⟩ := List.mem_iff_getElem?.mp hcall
      obtain ⟨old, hold, holder, hsamealert, -⟩ := hpushes i call hi
      rw [hsamealert] at hgeneration ⊢
      exact hw.same u alert hu (hsame ▸ halert) old (List.mem_of_getElem? hold)
        (holder.symm.trans (hlifetime.trans hid)) hgeneration
    · rw [hnone] at halert
      cases halert
  failed i j c d hlt hi hj hrun := by
    obtain ⟨c', hc, hclife, hcalert, hcfailed⟩ := hpushes i c hi
    obtain ⟨d', hd, hdlife, hdalert, -⟩ := hpushes j d hj
    refine hcfailed (hw.failed i j c' d' hlt hc hd ⟨?_, ?_⟩)
    · rw [← hclife, ← hdlife, hrun.1]
    · rw [← hcalert, ← hdalert, hrun.2]

theorem samePushes_of_eq (hpushes : x.pushes = w.pushes) : SamePushes w x := by
  intro i call hi
  rw [hpushes] at hi
  exact ⟨call, hi, rfl, rfl, id⟩

theorem samePushes_of_ended {push : Nat} {outcome : PushOutcome} {call : PushCall}
    (hcall : w.pushes[push]? = some call) (hflight : call.outcome = .inFlight)
    (hpushes : x.pushes = w.endedPushes push outcome) : SamePushes w x := by
  intro i other hi
  rw [hpushes] at hi
  obtain ⟨old, hold, rfl | ⟨rfl, rfl⟩⟩ := getElem?_ended hi
  · exact ⟨_, hold, rfl, rfl, id⟩
  · cases hcall.symm.trans hold
    refine ⟨call, hold, rfl, rfl, fun hfailed => ?_⟩
    rw [hflight] at hfailed
    cases hfailed

/-- Every change keeps the attempts. -/
theorem Attempts.change (hi : Attempts w) (hq : Quiet w) (hw : Timed w) (hallowed : w.Allowed a)
    (h : Change eventPublicationEnabled w a x) : Attempts x := by
  cases attempt_change hw hallowed h with
  | renewed hpushes hcreated hview =>
    have hold : ∀ v, runView x = some v → ∀ call ∈ x.pushes, call.lifetime ≠ v.id := by
      intro v hv call hcall hsame
      rw [(hview v hv).1] at hsame
      rw [hpushes] at hcall
      have hlt := hi.pushed call hcall
      simp only at hsame
      omega
    refine ⟨?_, ?_, ?_, ?_, ?_, ?_, ?_⟩
    · intro v hv
      obtain ⟨rfl, hlt⟩ := hview v hv
      exact hlt
    · intro call hcall
      rw [hpushes] at hcall
      exact lt_of_lt_of_le (hi.pushed call hcall) hcreated
    · intro v runGeneration hv hcurrent
      rw [(hview v hv).1] at hcurrent
      cases hcurrent
    · intro v alert hv halert
      rw [(hview v hv).1] at halert
      cases halert
    · exact fun v hv call hcall hsame => absurd hsame (hold v hv call hcall)
    · exact fun v alert hv _ call hcall hsame => absurd hsame (hold v hv call hcall)
    · rw [hpushes]
      exact hi.failed
  | kept hpushes hkept => exact hi.of_kept hkept (samePushes_of_eq hpushes)
  | started v hv hview hpushes hcreated =>
    have honly : ∀ u, runView x = some u →
        u = ⟨v.id, v.generationSequence + 1, some (v.generationSequence + 1), none⟩ :=
      fun u hu => (Option.some.inj (hview.symm.trans hu)).symm
    refine ⟨?_, ?_, ?_, ?_, ?_, ?_, ?_⟩
    · intro u hu
      rw [honly u hu]
      exact lt_of_lt_of_le (hi.lifetime v hv) hcreated
    · intro call hcall
      rw [hpushes] at hcall
      exact lt_of_lt_of_le (hi.pushed call hcall) hcreated
    · intro u runGeneration hu hcurrent
      rw [honly u hu] at hcurrent ⊢
      cases hcurrent
      exact le_rfl
    · intro u alert hu halert
      rw [honly u hu] at halert
      cases halert
    · intro u hu call hcall hlifetime
      rw [honly u hu] at hlifetime ⊢
      rw [hpushes] at hcall
      have hle := (hi.drawn v hv call hcall hlifetime).1
      refine ⟨Nat.le_succ_of_le hle, fun hsame => ?_⟩
      have heq := Option.some.inj hsame
      omega
    · intro u alert hu halert
      rw [honly u hu] at halert
      cases halert
    · rw [hpushes]
      exact hi.failed
  | built v alert hv hcurrent hnone hid hview hpushes hcreated =>
    have honly : ∀ u, runView x = some u →
        u = ⟨v.id, v.generationSequence, none, some alert⟩ :=
      fun u hu => (Option.some.inj (hview.symm.trans hu)).symm
    refine ⟨?_, ?_, ?_, ?_, ?_, ?_, ?_⟩
    · intro u hu
      rw [honly u hu]
      exact lt_of_lt_of_le (hi.lifetime v hv) hcreated
    · intro call hcall
      rw [hpushes] at hcall
      exact lt_of_lt_of_le (hi.pushed call hcall) hcreated
    · intro u runGeneration hu hsome
      rw [honly u hu] at hsome
      cases hsome
    · intro u other hu halert
      rw [honly u hu] at halert ⊢
      cases halert
      exact ⟨hi.current v _ hv hcurrent, by simp⟩
    · intro u hu call hcall hlifetime
      rw [honly u hu] at hlifetime ⊢
      rw [hpushes] at hcall
      exact ⟨(hi.drawn v hv call hcall hlifetime).1, by simp⟩
    · -- The run has just settled, so no push is of it.
      intro u other hu halert call hcall hlifetime hgeneration
      rw [honly u hu] at hlifetime halert
      cases halert
      rw [hpushes] at hcall
      have hne := (hi.drawn v hv call hcall hlifetime).2
      rw [hgeneration] at hne
      exact absurd hcurrent hne
    · rw [hpushes]
      exact hi.failed
  | pushed v hv hview new halert hlifetime houtcome hbefore htimers hpushes hcreated =>
    have honly : ∀ u, runView x = some u → u = v :=
      fun u hu => (Option.some.inj (hview.symm.trans hu)).symm
    have hpending : pendingAlert w = some new.alert := (pendingAlert_of_view hv).trans halert
    refine ⟨?_, ?_, ?_, ?_, ?_, ?_, ?_⟩
    · intro u hu
      rw [honly u hu]
      exact lt_of_lt_of_le (hi.lifetime v hv) hcreated
    · intro call hcall
      rw [hpushes] at hcall
      rcases List.mem_append.mp hcall with hold | hnew
      · exact lt_of_lt_of_le (hi.pushed call hold) hcreated
      · rw [List.mem_singleton.mp hnew, hlifetime]
        exact lt_of_lt_of_le (hi.lifetime v hv) hcreated
    · intro u runGeneration hu hcurrent
      rw [honly u hu] at hcurrent ⊢
      exact hi.current v runGeneration hv hcurrent
    · intro u alert hu hsome
      rw [honly u hu] at hsome ⊢
      exact hi.pending v alert hv hsome
    · intro u hu call hcall hsame
      rw [honly u hu] at hsame ⊢
      rw [hpushes] at hcall
      rcases List.mem_append.mp hcall with hold | hnew
      · exact hi.drawn v hv call hold hsame
      · rw [List.mem_singleton.mp hnew]
        exact hi.pending v new.alert hv halert
    · intro u alert hu hsome call hcall hsame hgeneration
      rw [honly u hu] at hsome hsame
      rw [hpushes] at hcall
      rcases List.mem_append.mp hcall with hold | hnew
      · exact hi.same v alert hv hsome call hold hsame hgeneration
      · rw [List.mem_singleton.mp hnew]
        cases halert.symm.trans hsome
        rfl
    · intro i j c d hlt hc hd hrun
      rw [hpushes, List.getElem?_append] at hc hd
      have hcount : ∀ {k : Nat} {call : PushCall}, [new][k - w.pushes.length]? = some call →
          k - w.pushes.length = 0 ∧ call = new := by
        intro k call hk
        have hlt := (List.getElem?_eq_some_iff.mp hk).1
        simp only [List.length_singleton] at hlt
        exact ⟨by omega, List.mem_singleton.mp (List.mem_of_getElem? hk)⟩
      split at hc
      · split at hd
        · exact hi.failed i j c d hlt hc hd hrun
        · obtain ⟨-, rfl⟩ := hcount hd
          -- The new push: an earlier one of the run is neither in flight nor acknowledged.
          have hmem := List.mem_of_getElem? hc
          have hid := hi.same v d.alert hv halert c hmem (hrun.1.trans hlifetime) hrun.2
          cases hc' : c.outcome with
          | failed => rfl
          | inFlight => exact absurd (hq.flying d.alert hpending c hmem hid hc') hbefore
          | acknowledged eventId =>
            exact absurd (Or.inl hbefore) (hq.acknowledged d.alert hpending c hmem hid eventId hc')
      · obtain ⟨hzero, -⟩ := hcount hc
        split at hd
        · omega
        · obtain ⟨hzero', -⟩ := hcount hd
          omega
  | ended push outcome houtcome call hcall hflight hpushes hkept =>
    exact hi.of_kept hkept (samePushes_of_ended hcall hflight hpushes)

/-! ### Every run -/

/-- What every step of the extension keeps. -/
structure Tried (w : PiExtension) : Prop where
  consistent : w.Consistent
  timed : Timed w
  flights : Flights w
  quiet : Quiet w
  attempts : Attempts w

theorem Tried.initial : Tried initial where
  consistent := ⟨by rintro _ ⟨⟩, fun _ => rfl⟩
  timed := ⟨by rintro _ ⟨⟩, by rintro _ ⟨⟩⟩
  flights := ⟨by rintro _ ⟨⟩, by rintro _ ⟨⟩, by rintro _ ⟨⟩, by rintro _ _ _ _ ⟨⟩⟩
  quiet := ⟨by rintro _ ⟨⟩, by rintro _ ⟨⟩⟩
  attempts := ⟨by rintro _ ⟨⟩, by rintro _ ⟨⟩, by rintro _ _ ⟨⟩, by rintro _ _ ⟨⟩, by rintro _ ⟨⟩,
    by rintro _ _ ⟨⟩, by rintro _ _ _ _ _ ⟨⟩⟩

/-- It does not depend on the texts. -/
theorem Tried.retext (h : Tried x) (texts : PiTexts) : Tried (x.retext texts) where
  consistent := ⟨h.consistent.session, h.consistent.none⟩
  timed := ⟨h.timed.quiet, h.timed.token⟩
  flights := ⟨h.flights.pending, h.flights.pushed, h.flights.flag, h.flights.one⟩
  quiet := ⟨h.quiet.flying, h.quiet.acknowledged⟩
  attempts := ⟨h.attempts.lifetime, h.attempts.pushed, h.attempts.current, h.attempts.pending,
    h.attempts.drawn, h.attempts.same, h.attempts.failed⟩

/-- Every step of the extension keeps it. -/
theorem Tried.step {w' : PiExtension} (h : Tried w)
    (hstep : Step text eventPublicationEnabled w a w') : Tried w' := by
  obtain ⟨hallowed, rfl⟩ := hstep
  obtain ⟨x, hchange, heq⟩ := perform_does eventPublicationEnabled text h.consistent hallowed
  rw [heq]
  refine Tried.retext ⟨h.consistent.change hchange, h.timed.change hchange,
    h.flights.change hallowed hchange, ?_, ?_⟩ _
  · exact h.quiet.change h.timed h.flights hallowed hchange
  · exact h.attempts.change h.quiet h.timed hallowed hchange

end Ariava.Proofs.PublicationAttempts
