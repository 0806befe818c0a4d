import Ariava.Extensions.PiChanges
import Ariava.Lib.Since

/-!
# `Ariava.Proofs.AlertFreshness`: what the Pi extension pushes is fresh

`pushed_fresh` covers every order of callbacks, timers and ends of calls. When the extension
calls `pushEvent` for an alert, the last run started, ended and settled, the alert was built when
it settled, and since then nothing has disturbed it: no run started, the user typed nothing but
steering input, the tree was not switched, and no session started or shut down. And no two calls
of `pushEvent` for one alert are in flight.

A run that starts and a tree that is switched count when the callback comes from the session
manager of the session. The extension takes no notice of others, and `not_fresh_of_foreign` is a
run in which such a callback comes between the settlement and the push.

`Live` says that an alert can still be pushed: a timer is set, or a push is in flight that may
set one. `live_of_change` shows that no change makes an alert live again, so a session start that
fails halfway, and leaves the alert pending, has no push after it.
-/

set_option autoImplicit false

namespace Ariava.Proofs.AlertFreshness

open Ariava.Lib
open Ariava.Extensions
open Ariava.Extensions.PiExtension

/-! ### What is claimed -/

/-- A run starts, by a callback that counts. -/
def Starts (counts : PiExtension → PiContext → Bool) (w : PiExtension) (a : PiAction) : Prop :=
  ∃ ctx, a = .agentStart ctx ∧ counts w ctx = true

/-- No session starts or shuts down, the user types nothing but steering input, and by the
callbacks that count no run starts and the tree is not switched. -/
def Calm (counts : PiExtension → PiContext → Bool) (w : PiExtension) : PiAction → Prop
  | .sessionStart _ => False
  | .sessionShutdown _ => False
  | .input _ steering => steering = true
  | .agentStart ctx => counts w ctx = false
  | .sessionTree ctx _ => counts w ctx = false
  | _ => True

section
variable (text : PiText) (eventPublicationEnabled : Bool) (counts : PiExtension → PiContext → Bool)

/-- A run starts after a list of actions. -/
def IsStart (pre : List PiAction) (a : PiAction) : Prop :=
  Starts counts (after text eventPublicationEnabled pre) a

/-- No run starts. -/
def NoStart (pre : List PiAction) (a : PiAction) : Prop :=
  ¬ IsStart text eventPublicationEnabled counts pre a

/-- The run of a generation starts. -/
def StartsRun (runGeneration : Nat) (pre : List PiAction) (a : PiAction) : Prop :=
  IsStart text eventPublicationEnabled counts pre a ∧
    ∃ s, (after text eventPublicationEnabled (pre ++ [a])).state = some s ∧
      s.currentRunGeneration = some runGeneration

/-- The run of a generation ends, and it is the last one started. -/
def EndsRun (runGeneration : Nat) (pre : List PiAction) (a : PiAction) : Prop :=
  (∃ ctx messages, a = .agentEnd ctx messages) ∧
    (∃ s result, (after text eventPublicationEnabled (pre ++ [a])).state = some s ∧
      s.latestAgentEndResult = some result ∧ result.runGeneration = runGeneration) ∧
    Since (NoStart text eventPublicationEnabled counts)
      (StartsRun text eventPublicationEnabled counts runGeneration) pre

/-- The pending alert. -/
def pendingAlert (w : PiExtension) : Option PendingTerminalAlert :=
  w.state.bind (·.latestPendingAlert)

/-- A run settles and the alert is built from it; it has ended, and it is the last one
started. -/
def Builds (alert : PendingTerminalAlert) (pre : List PiAction) (a : PiAction) : Prop :=
  (∃ ctx createdAt, a = .agentSettled ctx createdAt) ∧
    pendingAlert (after text eventPublicationEnabled pre) = none ∧
    pendingAlert (after text eventPublicationEnabled (pre ++ [a])) = some alert ∧
    Since (NoStart text eventPublicationEnabled counts)
      (EndsRun text eventPublicationEnabled counts alert.runGeneration) pre

/-- Nothing that makes an alert stale happens after a list of actions. -/
def Undisturbed (pre : List PiAction) (a : PiAction) : Prop :=
  Calm counts (after text eventPublicationEnabled pre) a

/-- The alert was built when the last run settled, and nothing has disturbed it since. -/
def Fresh (alert : PendingTerminalAlert) (as : List PiAction) : Prop :=
  Since (Undisturbed text eventPublicationEnabled counts)
    (Builds text eventPublicationEnabled counts alert) as

end

/-- No two pushes of one alert are in flight. -/
def OneInFlight (w : PiExtension) : Prop :=
  ∀ (i j : Nat) (c d : PushCall), w.pushes[i]? = some c → w.pushes[j]? = some d →
    c.outcome = .inFlight → d.outcome = .inFlight → c.alert.id = d.alert.id → i = j

/-- The claim, for the callbacks that count. -/
def PushesFresh (counts : PiExtension → PiContext → Bool) : Prop :=
  ∀ (text : PiText) (eventPublicationEnabled : Bool) (as : List PiAction) (w : PiExtension),
    Run (Step text eventPublicationEnabled) initial as w →
      OneInFlight w ∧
      ∀ a w' call, Step text eventPublicationEnabled w a w' → w'.pushes = w.pushes ++ [call] →
        Fresh text eventPublicationEnabled counts call.alert as

/-! ### Timers and tokens -/

variable {eventPublicationEnabled : Bool} {text : PiText} {w x : PiExtension} {a : PiAction}
  {as : List PiAction} {s t : PiReducerState} {alert : PendingTerminalAlert}

/-- The only timer is the quiet timer of the state, and no push has a token that was not yet
drawn. -/
structure Timed (w : PiExtension) : Prop where
  quiet : ∀ timer ∈ w.timers, w.state.bind (·.quietTimer) = some timer.id
  token : ∀ call ∈ w.pushes, call.deliveryToken ≤ w.deliverySequence

theorem Timed.clearedTimers_eq_nil (hw : Timed w) : w.clearedTimers = [] := by
  unfold clearedTimers
  rw [List.filter_eq_nil_iff]
  intro timer htimer
  simp [hw.quiet timer htimer]

theorem Timed.filter_eq_nil (hw : Timed w) (hstate : w.state = some s) (timer : Nat) :
    ((w.firedTimers timer).filter fun t => s.quietTimer ≠ some t.id) = [] := by
  rw [List.filter_eq_nil_iff]
  intro other hother
  have hquiet := hw.quiet other (List.mem_of_mem_filter hother)
  rw [hstate] at hquiet
  simp [show s.quietTimer = some other.id from hquiet]

/-- A push after another one, or the same one, has ended. -/
theorem getElem?_ended {push i : Nat} {outcome : PushOutcome} {call : PushCall}
    (h : (w.endedPushes push outcome)[i]? = some call) :
    ∃ old, w.pushes[i]? = some old ∧ (call = old ∨ (i = push ∧ call = { old with outcome })) := by
  unfold endedPushes at h
  rw [List.getElem?_modify] at h
  obtain ⟨old, hold, hcall⟩ := Option.map_eq_some_iff.mp h
  refine ⟨old, hold, ?_⟩
  split at hcall
  · next hpush => exact Or.inr ⟨hpush.symm, hcall.symm⟩
  · exact Or.inl hcall.symm

/-- An ended push is the one that it was, but for its outcome. -/
theorem mem_endedPushes {push : Nat} {outcome : PushOutcome} {call : PushCall}
    (h : call ∈ w.endedPushes push outcome) :
    ∃ old ∈ w.pushes, call = old ∨ call = { old with outcome } := by
  obtain ⟨i, hi⟩ := List.mem_iff_getElem?.mp h
  obtain ⟨old, hold, hsame | ⟨-, hended⟩⟩ := getElem?_ended hi
  · exact ⟨old, List.mem_of_getElem? hold, Or.inl hsame⟩
  · exact ⟨old, List.mem_of_getElem? hold, Or.inr hended⟩

/-- The tokens stay below when the pushes do not grow. -/
theorem Timed.token_of_subset (hw : Timed w) (hseq : w.deliverySequence ≤ x.deliverySequence)
    (hpushes : ∀ call ∈ x.pushes, ∃ old ∈ w.pushes, old.deliveryToken = call.deliveryToken) :
    ∀ call ∈ x.pushes, call.deliveryToken ≤ x.deliverySequence := by
  intro call hcall
  obtain ⟨old, hold, htoken⟩ := hpushes call hcall
  have hle := hw.token old hold
  omega

/-- Without timers only the tokens matter. -/
theorem Timed.of_none (hw : Timed w) (htimers : x.timers = [])
    (hseq : w.deliverySequence ≤ x.deliverySequence)
    (hpushes : ∀ call ∈ x.pushes, ∃ old ∈ w.pushes, old.deliveryToken = call.deliveryToken) :
    Timed x where
  quiet timer htimer := by
    rw [htimers] at htimer
    cases htimer
  token := hw.token_of_subset hseq hpushes

/-- The timers and the quiet timer stay. -/
theorem Timed.of_same (hw : Timed w) (htimers : ∀ timer ∈ x.timers, timer ∈ w.timers)
    (hquiet : x.state.bind (·.quietTimer) = w.state.bind (·.quietTimer))
    (hseq : w.deliverySequence ≤ x.deliverySequence)
    (hpushes : ∀ call ∈ x.pushes, ∃ old ∈ w.pushes, old.deliveryToken = call.deliveryToken) :
    Timed x where
  quiet timer htimer := by
    rw [hquiet]
    exact hw.quiet timer (htimers timer htimer)
  token := hw.token_of_subset hseq hpushes

theorem samePushes (w : PiExtension) :
    ∀ call ∈ w.pushes, ∃ old ∈ w.pushes, old.deliveryToken = call.deliveryToken :=
  fun call hcall => ⟨call, hcall, rfl⟩

theorem endedTokens (w : PiExtension) (push : Nat) (outcome : PushOutcome) :
    ∀ call ∈ w.endedPushes push outcome,
      ∃ old ∈ w.pushes, old.deliveryToken = call.deliveryToken := by
  intro call hcall
  obtain ⟨old, hold, rfl | rfl⟩ := mem_endedPushes hcall
  · exact ⟨_, hold, rfl⟩
  · exact ⟨old, hold, rfl⟩

/-- What is read of the state is kept by a change within the state. -/
theorem bind_map_state {α : Type} {f : PiReducerState → PiReducerState}
    {g : PiReducerState → Option α} {state state' : Option PiReducerState}
    (hstate : state' = state.map f) (hf : ∀ s, g (f s) = g s) : state'.bind g = state.bind g := by
  subst hstate
  cases state with
  | none => rfl
  | some s => exact hf s

/-- Every change keeps the timers and the tokens. -/
theorem Timed.change (hw : Timed w) (h : Change eventPublicationEnabled w a x) : Timed x := by
  have hcleared := hw.clearedTimers_eq_nil
  have hsame := samePushes w
  cases h with
  | restart ctx => exact hw.of_none hcleared (Nat.le_succ _) hsame
  | restartFails ctx => exact hw.of_none hcleared (Nat.le_succ _) hsame
  | shutdown ctx => exact hw.of_none hcleared (Nat.le_succ _) hsame
  | ignored a hignored => exact hw
  | steering s hstate now => exact hw.of_same (fun _ h => h) (by rw [hstate]; rfl) le_rfl hsame
  | typed s hstate now => exact hw.of_none hcleared le_rfl hsame
  | start s hstate ctx hactive => exact hw.of_none hcleared le_rfl hsame
  | ended s hstate ctx hactive messages result hcurrent =>
    exact hw.of_same (fun _ h => h) (by rw [hstate]; rfl) le_rfl hsame
  | notRunning s hstate ctx hactive messages =>
    exact hw.of_same (fun _ h => h) (by rw [hstate]; rfl) le_rfl hsame
  | unsettled ctx hactive createdAt => exact hw
  | dropped s hstate ctx hactive createdAt =>
    exact hw.of_same (fun _ h => h) (by rw [hstate]; rfl) le_rfl hsame
  | settled s hstate =>
    exact hw.of_same (fun _ h => h) (by rw [hstate]; rfl) le_rfl hsame
  | submitted s hstate =>
    refine ⟨?_, hw.token_of_subset le_rfl hsame⟩
    intro timer htimer
    rw [hcleared, List.nil_append, List.mem_singleton] at htimer
    rw [htimer]
    rfl
  | switched s hstate ctx hactive newLeafId => exact hw.of_none hcleared (Nat.le_succ _) hsame
  | fired timer newWork =>
    exact hw.of_same (fun _ h => List.mem_of_mem_filter h) rfl le_rfl hsame
  | skipped s hstate timer newWork => exact hw.of_none (hw.filter_eq_nil hstate timer) le_rfl hsame
  | interrupted s hstate timer newWork =>
    exact hw.of_none (hw.filter_eq_nil hstate timer) le_rfl hsame
  | unpublished s hstate timer newWork hdisabled =>
    exact hw.of_none (hw.filter_eq_nil hstate timer) le_rfl hsame
  | pushed s hstate timer newWork htimer call hemit hlifetime htoken =>
    refine ⟨?_, ?_⟩
    · intro other hother
      rw [hw.filter_eq_nil hstate timer] at hother
      cases hother
    · intro other hother
      rcases List.mem_append.mp hother with hold | hnew
      · exact hw.token other hold
      · rw [List.mem_singleton.mp hnew, htoken]
  | acknowledgedLate push eventId call hcall hlate =>
    exact hw.of_same (fun _ h => h) (bind_map_state rfl fun _ => rfl) le_rfl (endedTokens w push _)
  | acknowledgedAnswered push eventId call hcall s hstate =>
    exact hw.of_same (fun _ h => h) (by rw [hstate]; rfl) le_rfl (endedTokens w push _)
  | acknowledged push eventId call hcall s hstate =>
    exact hw.of_same (fun _ h => h) (by rw [hstate]; rfl) le_rfl (endedTokens w push _)
  | failed push call hcall =>
    exact hw.of_same (fun _ h => h) (bind_map_state rfl fun _ => rfl) le_rfl (endedTokens w push _)
  | failedAgain push call hcall s hstate =>
    refine ⟨?_, hw.token_of_subset le_rfl (endedTokens w push _)⟩
    intro timer htimer
    rw [hcleared, List.nil_append, List.mem_singleton] at htimer
    rw [htimer]
    rfl
  | handled handle call hcall =>
    exact hw.of_same (fun _ h => h) (bind_map_state rfl fun _ => rfl) le_rfl hsame
  | unhandled handle call hcall =>
    exact hw.of_same (fun _ h => h) (bind_map_state rfl fun _ => rfl) le_rfl hsame

/-! ### Alerts that can still be pushed -/

/-- A timer is set, or a push of the alert is in flight that may set one when it fails. -/
def Live (w : PiExtension) (alert : PendingTerminalAlert) : Prop :=
  w.timers ≠ [] ∨ ∃ call ∈ w.pushes, call.alert = alert ∧ call.outcome = .inFlight ∧
    call.deliveryToken = w.deliverySequence

/-- No timer is new, and no push. -/
theorem live_of_subset (h : Live x alert) (htimers : ∀ timer ∈ x.timers, timer ∈ w.timers)
    (hpushes : ∀ call ∈ x.pushes, call.outcome = .inFlight → call ∈ w.pushes)
    (hseq : x.deliverySequence = w.deliverySequence) : Live w alert := by
  rcases h with htimer | ⟨call, hcall, halert, hflight, htoken⟩
  · obtain ⟨timer, hmem⟩ := List.exists_mem_of_ne_nil _ htimer
    exact Or.inl (List.ne_nil_of_mem (htimers timer hmem))
  · exact Or.inr ⟨call, hpushes call hcall hflight, halert, hflight, hseq ▸ htoken⟩

/-- After a new token nothing is live without a timer. -/
theorem not_live_of_token (hw : Timed w) (htimers : x.timers = []) (hpushes : x.pushes = w.pushes)
    (hseq : x.deliverySequence = w.deliverySequence + 1) : ¬ Live x alert := by
  rintro (htimer | ⟨call, hcall, -, -, htoken⟩)
  · exact htimer htimers
  · rw [hpushes] at hcall
    have hle := hw.token call hcall
    omega

/-- A push in flight was in flight before a push ended. -/
theorem inFlight_of_ended {push : Nat} {outcome : PushOutcome} (houtcome : outcome ≠ .inFlight) :
    ∀ call ∈ w.endedPushes push outcome, call.outcome = .inFlight → call ∈ w.pushes := by
  intro call hcall hflight
  obtain ⟨old, hold, rfl | rfl⟩ := mem_endedPushes hcall
  · exact hold
  · exact absurd hflight houtcome

/-- The call that ends was in flight. -/
theorem mem_of_allowed {push : Nat} {call : PushCall} (hcall : w.pushes[push]? = some call)
    (hallowed : ∃ c ∈ w.pushes[push]?, c.outcome = .inFlight) :
    call ∈ w.pushes ∧ call.outcome = .inFlight := by
  obtain ⟨c, hc, hflight⟩ := hallowed
  cases hcall.symm.trans hc
  exact ⟨List.mem_of_getElem? hcall, hflight⟩

/-- What `stillPending` and `stillDelivered` say. -/
theorem stillPending_iff {call : PushCall} : stillPending s call = true ↔
    s.latestPendingAlert = some call.alert ∧ s.flowRevision = call.deliveredFlowRevision ∧
      s.settledRunGeneration = call.deliveredRunGeneration := by
  unfold stillPending
  simp [and_assoc]

theorem stillDelivered_iff {call : PushCall} : w.stillDelivered s call = true ↔
    call.deliveryToken = w.deliverySequence ∧ s.sessionId = call.deliveredSessionId ∧
      s.activeLeafId = call.deliveredLeafId := by
  unfold stillDelivered
  simp [and_assoc]

theorem mayEmit_iff : mayEmit s alert = true ↔
    s.rootSessionActive = true ∧ s.latestPendingAlert = some alert ∧
      s.terminalDeliveryInFlight = false ∧ s.flowRevision = alert.flowRevision ∧
      s.settledRunGeneration = some alert.runGeneration := by
  unfold mayEmit
  simp [and_assoc]

/-- A change that leaves an alert pending does not make it live. -/
theorem live_of_change (hw : Timed w) (hallowed : w.Allowed a)
    (h : Change eventPublicationEnabled w a x) (hbefore : pendingAlert w = some alert)
    (hlive : Live x alert) : Live w alert := by
  have hsame : ∀ call ∈ w.pushes, call.outcome = .inFlight → call ∈ w.pushes :=
    fun _ hcall _ => hcall
  have hnone : ∀ {y : PiExtension}, y.timers = w.clearedTimers → ∀ timer ∈ y.timers,
      timer ∈ w.timers := by
    intro y hy timer htimer
    rw [hy, hw.clearedTimers_eq_nil] at htimer
    cases htimer
  have hfiltered : ∀ {s : PiReducerState} {timer : Nat} (other : QuietTimer),
      other ∈ ((w.firedTimers timer).filter fun t => s.quietTimer ≠ some t.id) →
        other ∈ w.timers :=
    fun other hother => List.mem_of_mem_filter (List.mem_of_mem_filter hother)
  cases h with
  | restart ctx =>
    exact absurd hlive (not_live_of_token hw hw.clearedTimers_eq_nil rfl rfl)
  | restartFails ctx =>
    exact absurd hlive (not_live_of_token hw hw.clearedTimers_eq_nil rfl rfl)
  | shutdown ctx =>
    exact absurd hlive (not_live_of_token hw hw.clearedTimers_eq_nil rfl rfl)
  | ignored a hignored => exact hlive
  | steering s hstate now => exact live_of_subset hlive (fun _ h => h) hsame rfl
  | typed s hstate now => exact live_of_subset hlive (hnone rfl) hsame rfl
  | start s hstate ctx hactive => exact live_of_subset hlive (hnone rfl) hsame rfl
  | ended s hstate ctx hactive messages result hcurrent =>
    exact live_of_subset hlive (fun _ h => h) hsame rfl
  | notRunning s hstate ctx hactive messages =>
    exact live_of_subset hlive (fun _ h => h) hsame rfl
  | unsettled ctx hactive createdAt => exact hlive
  | dropped s hstate ctx hactive createdAt =>
    exact live_of_subset hlive (fun _ h => h) hsame rfl
  | settled s hstate => exact live_of_subset hlive (fun _ h => h) hsame rfl
  | submitted s hstate ctx hactive createdAt result hresult hcurrent hpending =>
    -- An alert is only built when none is pending.
    unfold pendingAlert at hbefore
    rw [hstate, Option.bind_some, hpending] at hbefore
    cases hbefore
  | switched s hstate ctx hactive newLeafId =>
    exact absurd hlive (not_live_of_token hw hw.clearedTimers_eq_nil rfl rfl)
  | fired timer newWork =>
    exact live_of_subset hlive (fun _ h => List.mem_of_mem_filter h) hsame rfl
  | skipped s hstate timer newWork => exact live_of_subset hlive hfiltered hsame rfl
  | interrupted s hstate timer newWork => exact live_of_subset hlive hfiltered hsame rfl
  | unpublished s hstate timer newWork hdisabled =>
    exact live_of_subset hlive hfiltered hsame rfl
  | pushed s hstate timer newWork htimer => exact Or.inl (List.ne_nil_of_mem
      (List.mem_map.mp htimer).choose_spec.1)
  | acknowledgedLate push eventId call hcall hlate =>
    exact live_of_subset hlive (fun _ h => h) (inFlight_of_ended (by simp)) rfl
  | acknowledgedAnswered push eventId call hcall s hstate =>
    exact live_of_subset hlive (fun _ h => h) (inFlight_of_ended (by simp)) rfl
  | acknowledged push eventId call hcall s hstate =>
    exact live_of_subset hlive (fun _ h => h) (inFlight_of_ended (by simp)) rfl
  | failed push call hcall =>
    exact live_of_subset hlive (fun _ h => h) (inFlight_of_ended (by simp)) rfl
  | failedAgain push call hcall s hstate hdelivered hpending =>
    -- The push that failed was itself what made the alert live.
    obtain ⟨hmem, hflight⟩ := mem_of_allowed hcall hallowed
    have halert := (stillPending_iff.mp hpending).1
    unfold pendingAlert at hbefore
    rw [hstate, Option.bind_some, halert] at hbefore
    cases hbefore
    exact Or.inr ⟨call, hmem, rfl, hflight, (stillDelivered_iff.mp hdelivered).1⟩
  | handled handle call hcall => exact live_of_subset hlive (fun _ h => h) hsame rfl
  | unhandled handle call hcall => exact live_of_subset hlive (fun _ h => h) hsame rfl

/-! ### One push of an alert at a time -/

/-- The flag of the state says when a push of the pending alert is in flight, and identities are
below the number of the next one. -/
structure Flights (w : PiExtension) : Prop where
  pending : ∀ alert, pendingAlert w = some alert → alert.id < w.created
  pushed : ∀ call ∈ w.pushes, call.alert.id < w.created
  flag : ∀ alert, pendingAlert w = some alert → ∀ call ∈ w.pushes, call.outcome = .inFlight →
    call.alert.id = alert.id → w.state.map (·.terminalDeliveryInFlight) = some true
  one : OneInFlight w

/-- A call that is in flight after another one has ended was in flight, at another place. -/
theorem getElem?_endedPushes {push i : Nat} {outcome : PushOutcome} {call : PushCall}
    (houtcome : outcome ≠ .inFlight) (h : (w.endedPushes push outcome)[i]? = some call)
    (hflight : call.outcome = .inFlight) : w.pushes[i]? = some call ∧ i ≠ push := by
  unfold endedPushes at h
  rw [List.getElem?_modify] at h
  obtain ⟨old, hold, hcall⟩ := Option.map_eq_some_iff.mp h
  split at hcall
  · rw [← hcall] at hflight
    exact absurd hflight houtcome
  · next hne => exact ⟨hcall ▸ hold, fun hi => hne hi.symm⟩

/-- The pushes stay, and the pending alert stays with its flag or is gone. -/
theorem Flights.of_same (hw : Flights w)
    (hpending : ∀ alert, pendingAlert x = some alert → pendingAlert w = some alert ∧
      x.state.map (·.terminalDeliveryInFlight) = w.state.map (·.terminalDeliveryInFlight))
    (hpushes : x.pushes = w.pushes) (hcreated : w.created ≤ x.created) : Flights x where
  pending alert halert := lt_of_lt_of_le (hw.pending alert (hpending alert halert).1) hcreated
  pushed call hcall := by
    rw [hpushes] at hcall
    exact lt_of_lt_of_le (hw.pushed call hcall) hcreated
  flag alert halert call hcall hflight hid := by
    rw [hpushes] at hcall
    rw [(hpending alert halert).2]
    exact hw.flag alert (hpending alert halert).1 call hcall hflight hid
  one := by
    intro i j c d
    rw [hpushes]
    exact hw.one i j c d

/-- A push has ended, and the pending alert stays with its flag, is the one of the push, or is
gone. -/
theorem Flights.of_ended (hw : Flights w) {push : Nat} {outcome : PushOutcome} {call : PushCall}
    (houtcome : outcome ≠ .inFlight) (hcall : w.pushes[push]? = some call)
    (hflight : call.outcome = .inFlight) (hpushes : x.pushes = w.endedPushes push outcome)
    (hpending : ∀ alert, pendingAlert x = some alert → pendingAlert w = some alert ∧
      (x.state.map (·.terminalDeliveryInFlight) = w.state.map (·.terminalDeliveryInFlight) ∨
        call.alert.id = alert.id))
    (hcreated : w.created ≤ x.created) : Flights x where
  pending alert halert := lt_of_lt_of_le (hw.pending alert (hpending alert halert).1) hcreated
  pushed other hother := by
    rw [hpushes] at hother
    obtain ⟨old, hold, rfl | rfl⟩ := mem_endedPushes hother
    · exact lt_of_lt_of_le (hw.pushed _ hold) hcreated
    · exact lt_of_lt_of_le (hw.pushed old hold) hcreated
  flag alert halert other hother hinFlight hid := by
    obtain ⟨i, hi⟩ := List.mem_iff_getElem?.mp hother
    rw [hpushes] at hi
    obtain ⟨hold, hne⟩ := getElem?_endedPushes houtcome hi hinFlight
    obtain ⟨hbefore, hsame | hended⟩ := hpending alert halert
    · rw [hsame]
      exact hw.flag alert hbefore other (List.mem_of_getElem? hold) hinFlight hid
    · exact absurd (hw.one i push other call hold hcall hinFlight hflight (hid.trans hended.symm)) hne
  one := by
    intro i j c d hi hj hc hd hid
    rw [hpushes] at hi hj
    exact hw.one i j c d (getElem?_endedPushes houtcome hi hc).1
      (getElem?_endedPushes houtcome hj hd).1 hc hd hid

/-- A state without a pending alert. -/
theorem Flights.of_none (hw : Flights w) (hnone : pendingAlert x = none)
    (hpushes : x.pushes = w.pushes) (hcreated : w.created ≤ x.created) : Flights x := by
  refine hw.of_same ?_ hpushes hcreated
  intro alert halert
  rw [hnone] at halert
  cases halert

theorem pendingAlert_eq (hstate : w.state = some s) : pendingAlert w = s.latestPendingAlert := by
  unfold pendingAlert
  rw [hstate]
  rfl

/-- What is read of the state stays when the state changes in another respect. -/
theorem Flights.of_state (hw : Flights w) (hstate : w.state = some s) (hx : x.state = some t)
    (hpending : t.latestPendingAlert = s.latestPendingAlert)
    (hflag : t.terminalDeliveryInFlight = s.terminalDeliveryInFlight)
    (hpushes : x.pushes = w.pushes) (hcreated : w.created ≤ x.created) : Flights x := by
  refine hw.of_same ?_ hpushes hcreated
  intro alert halert
  rw [pendingAlert_eq hx, hpending] at halert
  rw [pendingAlert_eq hstate, hx, hstate, Option.map_some, Option.map_some, hflag]
  exact ⟨halert, rfl⟩

/-- The same for a change within the state, if there is one. -/
theorem Flights.of_map (hw : Flights w) {f : PiReducerState → PiReducerState}
    (hx : x.state = w.state.map f) (hpending : ∀ s, (f s).latestPendingAlert = s.latestPendingAlert)
    (hflag : ∀ s, (f s).terminalDeliveryInFlight = s.terminalDeliveryInFlight)
    (hpushes : x.pushes = w.pushes) (hcreated : w.created ≤ x.created) : Flights x := by
  cases hstate : w.state with
  | none =>
    refine hw.of_none ?_ hpushes hcreated
    unfold pendingAlert
    rw [hx, hstate]
    rfl
  | some s =>
    exact hw.of_state hstate (by rw [hx, hstate]; rfl) (hpending s) (hflag s) hpushes hcreated

/-- The `finally` of a push leaves the pending alert, with its flag or the one of the push. -/
theorem delivered_pending {call : PushCall} (hx : x.state = w.state.map (·.delivered call)) :
    ∀ alert, pendingAlert x = some alert → pendingAlert w = some alert ∧
      (x.state.map (·.terminalDeliveryInFlight) = w.state.map (·.terminalDeliveryInFlight) ∨
        call.alert.id = alert.id) := by
  intro alert halert
  cases hstate : w.state with
  | none =>
    rw [hstate] at hx
    unfold pendingAlert at halert
    rw [hx] at halert
    cases halert
  | some s =>
    rw [hstate, Option.map_some] at hx
    rw [pendingAlert_eq hx] at halert
    rw [pendingAlert_eq hstate]
    refine ⟨halert, ?_⟩
    rw [hx]
    by_cases hsame : s.latestPendingAlert = some call.alert
    · right
      have halert' : s.latestPendingAlert = some alert := halert
      rw [hsame] at halert'
      cases halert'
      rfl
    · left
      simp [PiReducerState.delivered, hsame]

/-- Every change keeps the flights. -/
theorem Flights.change (hw : Flights w) (hallowed : w.Allowed a)
    (h : Change eventPublicationEnabled w a x) : Flights x := by
  cases h with
  | restart ctx => exact hw.of_none rfl rfl (Nat.le_succ _)
  | restartFails ctx =>
    exact hw.of_map rfl (fun _ => rfl) (fun _ => rfl) rfl le_rfl
  | shutdown ctx => exact hw.of_none rfl rfl le_rfl
  | ignored a hignored => exact hw
  | steering s hstate now => exact hw.of_state hstate rfl rfl rfl rfl le_rfl
  | typed s hstate now => exact hw.of_none rfl rfl le_rfl
  | start s hstate ctx hactive => exact hw.of_none rfl rfl le_rfl
  | ended s hstate ctx hactive messages result hcurrent =>
    exact hw.of_state hstate rfl rfl rfl rfl le_rfl
  | notRunning s hstate ctx hactive messages => exact hw.of_state hstate rfl rfl rfl rfl le_rfl
  | unsettled ctx hactive createdAt => exact hw
  | dropped s hstate ctx hactive createdAt => exact hw.of_state hstate rfl rfl rfl rfl le_rfl
  | settled s hstate => exact hw.of_state hstate rfl rfl rfl rfl le_rfl
  | submitted s hstate ctx hactive createdAt result hresult hcurrent hpending alert hid =>
    refine ⟨?_, ?_, ?_, hw.one⟩
    · intro other hother
      cases hother
      rw [hid]
      exact Nat.lt_add_of_pos_right Nat.two_pos
    · intro call hcall
      exact Nat.lt_add_right 2 (hw.pushed call hcall)
    · intro other hother call hcall _ hsame
      cases hother
      have hlt := hw.pushed call hcall
      rw [hsame, hid] at hlt
      exact absurd hlt (lt_irrefl _)
  | switched s hstate ctx hactive newLeafId => exact hw.of_none rfl rfl le_rfl
  | fired timer newWork => exact hw.of_same (fun _ h => ⟨h, rfl⟩) rfl le_rfl
  | skipped s hstate timer newWork => exact hw.of_state hstate rfl rfl rfl rfl le_rfl
  | interrupted s hstate timer newWork => exact hw.of_none rfl rfl le_rfl
  | unpublished s hstate timer newWork hdisabled => exact hw.of_none rfl rfl le_rfl
  | pushed s hstate timer newWork htimer call hemit =>
    obtain ⟨-, hpending, hidle, -⟩ := mayEmit_iff.mp hemit
    have hbefore : pendingAlert w = some call.alert := by rw [pendingAlert_eq hstate, hpending]
    -- No push of this alert is in flight, or the flag would say so.
    have hfree : ∀ other ∈ w.pushes, other.outcome = .inFlight →
        other.alert.id ≠ call.alert.id := by
      intro other hother hflight hid
      have hflag := hw.flag call.alert hbefore other hother hflight hid
      rw [hstate, Option.map_some, hidle] at hflag
      cases hflag
    refine ⟨?_, ?_, fun _ _ _ _ _ _ => rfl, ?_⟩
    · intro alert halert
      exact hw.pending alert (by rw [pendingAlert_eq hstate]; exact halert)
    · intro other hother
      rcases List.mem_append.mp hother with hold | hnew
      · exact hw.pushed other hold
      · rw [List.mem_singleton.mp hnew]
        exact hw.pending call.alert hbefore
    · intro i j c d hi hj hc hd hid
      rw [List.getElem?_append] at hi hj
      split at hi
      · split at hj
        · exact hw.one i j c d hi hj hc hd hid
        · obtain rfl := List.mem_singleton.mp (List.mem_of_getElem? hj)
          exact absurd hid (hfree c (List.mem_of_getElem? hi) hc)
      · obtain rfl := List.mem_singleton.mp (List.mem_of_getElem? hi)
        split at hj
        · exact absurd hid.symm (hfree d (List.mem_of_getElem? hj) hd)
        · have hi' := (List.getElem?_eq_some_iff.mp hi).1
          have hj' := (List.getElem?_eq_some_iff.mp hj).1
          simp only [List.length_singleton] at hi' hj'
          omega
  | acknowledgedLate push eventId call hcall hlate =>
    obtain ⟨-, hflight⟩ := mem_of_allowed hcall hallowed
    exact hw.of_ended (by simp) hcall hflight rfl (delivered_pending rfl) le_rfl
  | acknowledgedAnswered push eventId call hcall s hstate =>
    obtain ⟨-, hflight⟩ := mem_of_allowed hcall hallowed
    refine hw.of_ended (by simp) hcall hflight rfl ?_ le_rfl
    exact delivered_pending (x := { w with state := some (s.delivered call) })
      (by rw [hstate]; rfl)
  | acknowledged push eventId call hcall s hstate =>
    obtain ⟨-, hflight⟩ := mem_of_allowed hcall hallowed
    refine hw.of_ended (by simp) hcall hflight rfl ?_ le_rfl
    intro alert halert
    cases halert
  | failed push call hcall =>
    obtain ⟨-, hflight⟩ := mem_of_allowed hcall hallowed
    exact hw.of_ended (by simp) hcall hflight rfl (delivered_pending rfl) le_rfl
  | failedAgain push call hcall s hstate hdelivered hpending =>
    obtain ⟨-, hflight⟩ := mem_of_allowed hcall hallowed
    refine hw.of_ended (by simp) hcall hflight rfl ?_ (Nat.le_succ _)
    intro alert halert
    have halert' : s.latestPendingAlert = some alert := halert
    rw [pendingAlert_eq hstate]
    refine ⟨halert', Or.inr ?_⟩
    rw [(stillPending_iff.mp hpending).1] at halert'
    cases halert'
    rfl
  | handled handle call hcall =>
    exact hw.of_map rfl (fun _ => rfl) (fun _ => rfl) rfl le_rfl
  | unhandled handle call hcall =>
    exact hw.of_map rfl (fun _ => rfl) (fun _ => rfl) rfl le_rfl

/-! ### Runs and alerts along a change -/

/-- No action but a callback of the session starts a run. -/
theorem not_starts_of_ignored (h : w.Ignored a) : ¬ Starts isActive w a := by
  rintro ⟨ctx, rfl, hactive⟩
  rw [show w.isActive ctx = false from h] at hactive
  cases hactive

/-- The generation of the run that runs or has ended, until it settles. -/
def currentRun (w : PiExtension) : Option Nat :=
  w.state.bind (·.currentRunGeneration)

/-- The result of the run that has ended, until it settles. -/
def endedRun (w : PiExtension) : Option LatestAgentEndResult :=
  w.state.bind (·.latestAgentEndResult)

/-- What a change does to the current run and its result. -/
inductive RunChange (w : PiExtension) (a : PiAction) (x : PiExtension) : Prop
  | starts (h : Starts isActive w a) (hended : endedRun x = none)
  | ends (ctx : PiContext) (messages : List AgentMessage) (h : a = .agentEnd ctx messages)
      (result : LatestAgentEndResult) (hcurrent : currentRun w = some result.runGeneration)
      (hkept : currentRun x = currentRun w) (hended : endedRun x = some result)
  | cleared (hcurrent : currentRun x = none) (hended : endedRun x = none)
  | kept (h : ¬ Starts isActive w a) (hcurrent : currentRun x = currentRun w)
      (hended : endedRun x = endedRun w)

/-- A change within the state that leaves the runs alone. -/
theorem RunChange.of_map {f : PiReducerState → PiReducerState} (hx : x.state = w.state.map f)
    (h : ¬ Starts isActive w a) (hcurrent : ∀ s, (f s).currentRunGeneration = s.currentRunGeneration)
    (hended : ∀ s, (f s).latestAgentEndResult = s.latestAgentEndResult) : RunChange w a x :=
  .kept h (bind_map_state hx hcurrent) (bind_map_state hx hended)

/-- The same for two states. -/
theorem RunChange.of_state (hstate : w.state = some s) (hx : x.state = some t)
    (h : ¬ Starts isActive w a) (hcurrent : t.currentRunGeneration = s.currentRunGeneration)
    (hended : t.latestAgentEndResult = s.latestAgentEndResult) : RunChange w a x := by
  refine .kept h ?_ ?_
  · unfold currentRun
    rw [hstate, hx, Option.bind_some, Option.bind_some, hcurrent]
  · unfold endedRun
    rw [hstate, hx, Option.bind_some, Option.bind_some, hended]

/-- A run starts by a callback, ends by one, and is cleared or kept by all the others. -/
theorem run_change (h : Change eventPublicationEnabled w a x) : RunChange w a x := by
  have hother : ∀ {b : PiAction}, (∀ ctx, b ≠ .agentStart ctx) → ¬ Starts isActive w b :=
    fun hne ⟨ctx, hb, _⟩ => hne ctx hb
  cases h with
  | restart ctx => exact .cleared rfl rfl
  | restartFails ctx => exact .of_map rfl (hother (by simp)) (fun _ => rfl) (fun _ => rfl)
  | shutdown ctx => exact .cleared rfl rfl
  | ignored a hignored => exact .kept (not_starts_of_ignored hignored) rfl rfl
  | steering s hstate now => exact .of_state hstate rfl (hother (by simp)) rfl rfl
  | typed s hstate now => exact .cleared rfl rfl
  | start s hstate ctx hactive => exact .starts ⟨ctx, rfl, hactive⟩ rfl
  | ended s hstate ctx hactive messages result hcurrent =>
    have hbefore : currentRun w = some result.runGeneration := by
      unfold currentRun
      rw [hstate, Option.bind_some, hcurrent]
    exact .ends ctx messages rfl result hbefore (hcurrent.trans hbefore.symm) rfl
  | notRunning s hstate ctx hactive messages =>
    exact .of_state hstate rfl (hother (by simp)) rfl rfl
  | unsettled ctx hactive createdAt => exact .kept (hother (by simp)) rfl rfl
  | dropped s hstate ctx hactive createdAt => exact .cleared rfl rfl
  | settled s hstate => exact .cleared rfl rfl
  | submitted s hstate => exact .cleared rfl rfl
  | switched s hstate ctx hactive newLeafId => exact .cleared rfl rfl
  | fired timer newWork => exact .kept (hother (by simp)) rfl rfl
  | skipped s hstate timer newWork => exact .of_state hstate rfl (hother (by simp)) rfl rfl
  | interrupted s hstate timer newWork => exact .of_state hstate rfl (hother (by simp)) rfl rfl
  | unpublished s hstate timer newWork hdisabled =>
    exact .of_state hstate rfl (hother (by simp)) rfl rfl
  | pushed s hstate => exact .of_state hstate rfl (hother (by simp)) rfl rfl
  | acknowledgedLate push eventId call hcall hlate =>
    exact .of_map rfl (hother (by simp)) (fun _ => rfl) (fun _ => rfl)
  | acknowledgedAnswered push eventId call hcall s hstate =>
    exact .of_state hstate rfl (hother (by simp)) rfl rfl
  | acknowledged push eventId call hcall s hstate =>
    exact .of_state hstate rfl (hother (by simp)) rfl rfl
  | failed push call hcall => exact .of_map rfl (hother (by simp)) (fun _ => rfl) (fun _ => rfl)
  | failedAgain push call hcall s hstate =>
    exact .of_state hstate rfl (hother (by simp)) rfl rfl
  | handled handle call hcall =>
    exact .of_map rfl (hother (by simp)) (fun _ => rfl) (fun _ => rfl)
  | unhandled handle call hcall =>
    exact .of_map rfl (hother (by simp)) (fun _ => rfl) (fun _ => rfl)

/-- What a change does to a pending alert. -/
inductive AlertChange (w : PiExtension) (a : PiAction) (x : PiExtension)
    (alert : PendingTerminalAlert) : Prop
  | kept (h : Calm isActive w a) (hbefore : pendingAlert w = some alert)
  | stranded (h : ¬ Live x alert)
  | built (ctx : PiContext) (createdAt : String) (h : a = .agentSettled ctx createdAt)
      (hnone : pendingAlert w = none) (result : LatestAgentEndResult)
      (hended : endedRun w = some result) (hgeneration : alert.runGeneration = result.runGeneration)

/-- A callback that is ignored disturbs nothing. -/
theorem calm_of_ignored (h : w.Ignored a) (hpending : pendingAlert w = some alert) :
    Calm isActive w a := by
  cases a with
  | input now steering =>
    unfold pendingAlert at hpending
    rw [show w.state = none from h] at hpending
    cases hpending
  | agentStart ctx => exact h
  | sessionTree ctx newLeafId => exact h
  | sessionStart ctx => exact absurd h id
  | sessionShutdown ctx => exact absurd h id
  | _ => exact trivial

/-- An alert that is pending was pending before, and nothing has disturbed it, or it was built
from the run that has ended. Only a session start that fails leaves an alert behind. -/
theorem alert_change (hw : Timed w) (h : Change eventPublicationEnabled w a x)
    (halert : pendingAlert x = some alert) : AlertChange w a x alert := by
  have hstays : ∀ {s : PiReducerState}, w.state = some s →
      s.latestPendingAlert = some alert → pendingAlert w = some alert :=
    fun hstate hpending => (pendingAlert_eq hstate).trans hpending
  have hmapped : ∀ {f : PiReducerState → PiReducerState}, x.state = w.state.map f →
      (∀ s, (f s).latestPendingAlert = s.latestPendingAlert) → pendingAlert w = some alert :=
    fun hx hf => (bind_map_state hx hf).symm.trans halert
  cases h with
  | restart ctx => cases halert
  | restartFails ctx => exact .stranded (not_live_of_token hw hw.clearedTimers_eq_nil rfl rfl)
  | shutdown ctx => cases halert
  | ignored a hignored => exact .kept (calm_of_ignored hignored halert) halert
  | steering s hstate now => exact .kept rfl (hstays hstate halert)
  | typed s hstate now => cases halert
  | start s hstate ctx hactive => cases halert
  | ended s hstate ctx hactive messages result hcurrent =>
    exact .kept trivial (hstays hstate halert)
  | notRunning s hstate ctx hactive messages => exact .kept trivial (hstays hstate halert)
  | unsettled ctx hactive createdAt => exact .kept trivial halert
  | dropped s hstate ctx hactive createdAt => exact .kept trivial (hstays hstate halert)
  | settled s hstate => exact .kept trivial (hstays hstate halert)
  | submitted s hstate ctx hactive createdAt result hresult hcurrent hpending built hid hflow
      hgeneration =>
    cases halert
    refine .built ctx createdAt rfl ((pendingAlert_eq hstate).trans hpending) result ?_ hgeneration
    unfold endedRun
    rw [hstate, Option.bind_some, hresult]
  | switched s hstate ctx hactive newLeafId => cases halert
  | fired timer newWork => exact .kept trivial halert
  | skipped s hstate timer newWork => exact .kept trivial (hstays hstate halert)
  | interrupted s hstate timer newWork => cases halert
  | unpublished s hstate timer newWork hdisabled => cases halert
  | pushed s hstate => exact .kept trivial (hstays hstate halert)
  | acknowledgedLate push eventId call hcall hlate =>
    exact .kept trivial (hmapped rfl fun _ => rfl)
  | acknowledgedAnswered push eventId call hcall s hstate =>
    exact .kept trivial (hstays hstate halert)
  | acknowledged push eventId call hcall s hstate => cases halert
  | failed push call hcall => exact .kept trivial (hmapped rfl fun _ => rfl)
  | failedAgain push call hcall s hstate => exact .kept trivial (hstays hstate halert)
  | handled handle call hcall => exact .kept trivial (hmapped rfl fun _ => rfl)
  | unhandled handle call hcall => exact .kept trivial (hmapped rfl fun _ => rfl)

/-! ### The history of a run of the extension -/

section
variable (text : PiText) (eventPublicationEnabled : Bool)

/-- The current run has started, the result is of a run that has ended, and a pending alert that
can still be pushed is fresh. -/
structure History (as : List PiAction) (w : PiExtension) : Prop where
  timed : Timed w
  flights : Flights w
  current : ∀ runGeneration, currentRun w = some runGeneration →
    Since (NoStart text eventPublicationEnabled isActive)
      (StartsRun text eventPublicationEnabled isActive runGeneration) as
  ended : ∀ result, endedRun w = some result →
    Since (NoStart text eventPublicationEnabled isActive)
      (EndsRun text eventPublicationEnabled isActive result.runGeneration) as
  pending : ∀ alert, pendingAlert w = some alert → Live w alert →
    Fresh text eventPublicationEnabled isActive alert as

end

/-- Before the first action there is nothing to remember. -/
theorem History.nil : History text eventPublicationEnabled [] initial where
  timed := ⟨by rintro _ ⟨⟩, by rintro _ ⟨⟩⟩
  flights := ⟨by rintro _ ⟨⟩, by rintro _ ⟨⟩, by rintro _ ⟨⟩, by rintro _ _ _ _ ⟨⟩⟩
  current := by rintro _ ⟨⟩
  ended := by rintro _ ⟨⟩
  pending := by rintro _ ⟨⟩

/-- The history does not depend on the texts. -/
theorem History.retext (h : History text eventPublicationEnabled as x) (texts : PiTexts) :
    History text eventPublicationEnabled as (x.retext texts) where
  timed := ⟨h.timed.quiet, h.timed.token⟩
  flights := ⟨h.flights.pending, h.flights.pushed, h.flights.flag, h.flights.one⟩
  current := h.current
  ended := h.ended
  pending := h.pending

theorem state_of_bind {α : Type} {g : PiReducerState → Option α} {value : α}
    (h : w.state.bind g = some value) : ∃ s, w.state = some s ∧ g s = some value :=
  Option.bind_eq_some_iff.mp h

/-- The current run, after an action. -/
theorem History.current_change (hi : History text eventPublicationEnabled as w)
    (hafter : w = after text eventPublicationEnabled as)
    (hnext : (after text eventPublicationEnabled (as ++ [a])).state = x.state) (hrun : RunChange w a x)
    {runGeneration : Nat} (hcurrent : currentRun x = some runGeneration) :
    Since (NoStart text eventPublicationEnabled isActive)
      (StartsRun text eventPublicationEnabled isActive runGeneration) (as ++ [a]) := by
  cases hrun with
  | starts h hended =>
    refine Since.now ⟨?_, ?_⟩
    · rw [hafter] at h
      exact h
    · rw [hnext]
      exact state_of_bind hcurrent
  | ends ctx messages h result hbefore hkept hended =>
    refine (hi.current runGeneration (hkept ▸ hcurrent)).keep ?_
    rintro ⟨ctx, hstart, -⟩
    rw [h] at hstart
    cases hstart
  | cleared hnone hended =>
    rw [hnone] at hcurrent
    cases hcurrent
  | kept h hkept hended =>
    refine (hi.current runGeneration (hkept ▸ hcurrent)).keep ?_
    rw [hafter] at h
    exact h

/-- The result of the run that has ended, after an action. -/
theorem History.ended_change (hi : History text eventPublicationEnabled as w)
    (hafter : w = after text eventPublicationEnabled as)
    (hnext : (after text eventPublicationEnabled (as ++ [a])).state = x.state) (hrun : RunChange w a x)
    {result : LatestAgentEndResult} (hresult : endedRun x = some result) :
    Since (NoStart text eventPublicationEnabled isActive)
      (EndsRun text eventPublicationEnabled isActive result.runGeneration) (as ++ [a]) := by
  cases hrun with
  | starts h hended =>
    rw [hended] at hresult
    cases hresult
  | ends ctx messages h ended hbefore hkept hended =>
    cases hended.symm.trans hresult
    obtain ⟨s, hs, hlatest⟩ := state_of_bind hresult
    refine Since.now ⟨⟨ctx, messages, h⟩, ⟨s, result, ?_, hlatest, rfl⟩, hi.current _ hbefore⟩
    rw [hnext]
    exact hs
  | cleared hcurrent hended =>
    rw [hended] at hresult
    cases hresult
  | kept h hkept hended =>
    refine (hi.ended result (hended ▸ hresult)).keep ?_
    rw [hafter] at h
    exact h

/-- The pending alert, after an action. -/
theorem History.pending_change (hi : History text eventPublicationEnabled as w)
    (hafter : w = after text eventPublicationEnabled as)
    (hnext : (after text eventPublicationEnabled (as ++ [a])).state = x.state)
    (hbefore : pendingAlert w = some alert → Live w alert)
    (halert : pendingAlert x = some alert) (hlive : Live x alert)
    (hchange : AlertChange w a x alert) :
    Fresh text eventPublicationEnabled isActive alert (as ++ [a]) := by
  cases hchange with
  | kept h hpending =>
    refine (hi.pending alert hpending (hbefore hpending)).keep ?_
    rw [hafter] at h
    exact h
  | stranded h => exact absurd hlive h
  | built ctx createdAt h hnone result hended hgeneration =>
    refine Since.now ⟨⟨ctx, createdAt, h⟩, ?_, ?_, ?_⟩
    · rw [← hafter]
      exact hnone
    · unfold pendingAlert
      rw [hnext]
      exact halert
    · rw [hgeneration]
      exact hi.ended result hended

/-- Every change keeps the history. -/
theorem History.change (hi : History text eventPublicationEnabled as w)
    (hafter : w = after text eventPublicationEnabled as) (hallowed : w.Allowed a)
    (h : Change eventPublicationEnabled w a x)
    (hnext : (after text eventPublicationEnabled (as ++ [a])).state = x.state) :
    History text eventPublicationEnabled (as ++ [a]) x where
  timed := hi.timed.change h
  flights := hi.flights.change hallowed h
  current _ hcurrent := hi.current_change hafter hnext (run_change h) hcurrent
  ended _ hresult := hi.ended_change hafter hnext (run_change h) hresult
  pending _ halert hlive := by
    have hbefore := fun hpending => live_of_change hi.timed hallowed h hpending hlive
    exact hi.pending_change hafter hnext hbefore halert hlive (alert_change hi.timed h halert)

/-- Every run of the extension has its history. -/
theorem History.of_run (hrun : Run (Step text eventPublicationEnabled) initial as w) :
    w = after text eventPublicationEnabled as ∧ w.Consistent ∧
      History text eventPublicationEnabled as w := by
  refine run_history text History.nil ?_ hrun
  intro as w a x texts hafter _ hallowed hi hchange hnext
  exact (hi.change hafter hallowed hchange (by rw [hnext]; rfl)).retext texts

/-! ### What is pushed -/

/-- Only a timer pushes, and only the pending alert. -/
theorem pushed_of_change (h : Change eventPublicationEnabled w a x) {call : PushCall}
    (hpushes : x.pushes = w.pushes ++ [call]) :
    pendingAlert w = some call.alert ∧ w.timers ≠ [] := by
  have hsame : ∀ {pushes : List PushCall}, pushes.length = w.pushes.length →
      pushes ≠ w.pushes ++ [call] := by
    intro pushes hlength heq
    rw [heq, List.length_append, List.length_singleton] at hlength
    omega
  have hended : ∀ (push : Nat) (outcome : PushOutcome),
      (w.endedPushes push outcome).length = w.pushes.length :=
    fun push outcome => List.length_modify ..
  cases h with
  | pushed s hstate timer newWork htimer other hemit =>
    obtain rfl : other = call := List.append_cancel_left hpushes |> List.singleton_inj.mp
    obtain ⟨-, hpending, -⟩ := mayEmit_iff.mp hemit
    obtain ⟨quietTimer, hmem, -⟩ := List.mem_map.mp htimer
    exact ⟨(pendingAlert_eq hstate).trans hpending, List.ne_nil_of_mem hmem⟩
  | acknowledgedLate => exact absurd hpushes (hsame (hended _ _))
  | acknowledgedAnswered => exact absurd hpushes (hsame (hended _ _))
  | acknowledged => exact absurd hpushes (hsame (hended _ _))
  | failed => exact absurd hpushes (hsame (hended _ _))
  | failedAgain => exact absurd hpushes (hsame (hended _ _))
  | _ => exact absurd hpushes (hsame rfl)

/-- What the extension pushes is fresh, and one push of an alert is in flight at a time. -/
theorem pushed_fresh : PushesFresh isActive := by
  intro text eventPublicationEnabled as w hrun
  obtain ⟨hafter, hconsistent, hi⟩ := History.of_run hrun
  refine ⟨hi.flights.one, ?_⟩
  rintro a w' call ⟨hallowed, rfl⟩ hpushes
  obtain ⟨x, hchange, heq⟩ :=
    perform_does eventPublicationEnabled text hconsistent hallowed
  rw [heq] at hpushes
  obtain ⟨hpending, htimers⟩ := pushed_of_change hchange hpushes
  exact hi.pending call.alert hpending (Or.inl htimers)

/-! ### A callback of another session manager -/

/-- A text whose functions find nothing. -/
def plainText : PiText where
  trim text := text
  isQuestionPattern _ := false
  isBlockedPattern _ := false
  digest text := text
  extractNeedHumanError _ _ _ := ⟨.unknown, "", none⟩

/-- The context of a session manager. -/
def sampleContext (sessionManager : Nat) : PiContext :=
  ⟨sessionManager, "session", some "leaf", "project", "/project", none, none, none, none⟩

/-- A run that ends and settles, and a run of another session manager that starts before the
timer fires. -/
def foreignActions : List PiAction :=
  [.sessionStart (sampleContext 0), .agentStart (sampleContext 0),
    .agentEnd (sampleContext 0) [⟨"assistant", some "stop", [], none, none⟩],
    .agentSettled (sampleContext 0) "2026-01-01T00:00:00.000Z", .agentStart (sampleContext 1)]

set_option maxRecDepth 20000 in
/-- An extension that takes every callback to count is not fresh: a run of another session manager
starts after the settlement, and the alert is pushed. -/
theorem not_fresh_of_foreign : ¬ PushesFresh fun _ _ => true := by
  intro h
  have hallowed : AllAllowed Allowed (perform plainText true) initial foreignActions := by
    decide +kernel
  have hrun : Run (Step plainText true) initial foreignActions
      (foreignActions.foldl (perform plainText true) initial) :=
    Run.of_allAllowed (fun s a ha => ⟨ha, rfl⟩) hallowed
  have hnone : (foreignActions.foldl (perform plainText true) initial).pushes = [] := by
    decide +kernel
  have hone : (((foreignActions.foldl (perform plainText true) initial).perform plainText true
      (.timerFires 2 false)).pushes).length = 1 := by decide +kernel
  obtain ⟨call, hcall⟩ := List.length_eq_one_iff.mp hone
  have hfresh := (h plainText true foreignActions _ hrun).2 (.timerFires 2 false) _ call
    ⟨by decide +kernel, rfl⟩ (by rw [hnone]; exact hcall)
  -- The last action is a start, which neither builds an alert nor leaves it undisturbed.
  rcases Since.since_snoc.mp (show Fresh plainText true (fun _ _ => true) call.alert
    (foreignActions.dropLast ++ [.agentStart (sampleContext 1)]) from hfresh) with
    ⟨⟨ctx, createdAt, hbuilt⟩, -⟩ | ⟨hcalm, -⟩
  · cases hbuilt
  · cases hcalm

end Ariava.Proofs.AlertFreshness
