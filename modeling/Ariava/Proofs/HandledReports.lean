import Ariava.Proofs.AlertFreshness

/-!
# `Ariava.Proofs.HandledReports`: local input reports an event as handled

An event whose push was acknowledged waits in one slot of the state until the user gives input.
`input_reported` says, for every run in which the slot is not lost, when the extension calls
`handleSession`: with the answer of the push when there was input in the meantime, and otherwise
with the next input, again after a call that failed. `justified_of_run` holds of every run: no
event is reported that was not acknowledged, or before there was input.

The slot is lost when the answer of a push comes after the active leaf has moved on, or after
something else than input took the alert away. The answer is dropped then, and the event is never
reported, as in `not_inputMarksHandled`. It is also lost when an old answer takes the slot of a
newer event, and an input at the clock reading 0 is not seen.

`ReportChange` is what the changes of the extension do to the slot and the calls.
-/

set_option autoImplicit false

namespace Ariava.Proofs.HandledReports

open Ariava.Lib
open Ariava.Extensions
open Ariava.Extensions.PiExtension
open Ariava.Proofs.AlertFreshness

/-! ### What is claimed -/

/-- No session has started or shut down since the push, and the tree was not switched. Each of
these draws a new token. -/
def Current (w : PiExtension) (call : PushCall) : Prop :=
  call.deliveryToken = w.deliverySequence

/-- A newer push was acknowledged, with no session start, shutdown or tree switch since then. -/
def Superseded (w : PiExtension) (push : Nat) : Prop :=
  ∃ newer call eventId, push < newer ∧ w.pushes[newer]? = some call ∧ Current w call ∧
    call.outcome = .acknowledged eventId

/-- The step calls `handleSession` for the event of a push. -/
def Reports (w w' : PiExtension) (push : Nat) (eventId : String) : Prop :=
  ∃ call, w'.handles = w.handles ++ [call] ∧ call.push = push ∧
    call.handledThroughEventId = eventId

section
variable (text : PiText) (eventPublicationEnabled : Bool)

/-- The user gives input after a push was made. -/
def InputAfter (push : Nat) (pre : List PiAction) (a : PiAction) : Prop :=
  (∃ now steering, a = .input now steering) ∧
    push < (after text eventPublicationEnabled pre).pushes.length

/-- The user has given input since a push was made. -/
def GaveInput (push : Nat) (as : List PiAction) : Prop :=
  Since (fun _ _ => True) (InputAfter text eventPublicationEnabled push) as

/-- What a step reports after a list of actions. -/
structure ReportsInput (as : List PiAction) (w : PiExtension) (a : PiAction) (w' : PiExtension) :
    Prop where
  /-- The answer of a push with input in the meantime is reported at once. -/
  answered : ∀ push eventId call, a = .pushResolves push eventId → w.pushes[push]? = some call →
    Current w call → GaveInput text eventPublicationEnabled push as → ¬ Superseded w push →
      Reports w w' push eventId
  /-- An event that was acknowledged is reported at the next input, unless a call for it has
  succeeded or is on its way. -/
  given : ∀ now steering push call eventId, a = .input now steering →
    w.pushes[push]? = some call → call.outcome = .acknowledged eventId → Current w call →
      ¬ Superseded w push → (∀ handle ∈ w.handles, handle.push = push → handle.outcome = .failed) →
        Reports w w' push eventId
  /-- No event is reported that was not acknowledged, or before there was input. -/
  justified : ∀ handle ∈ w'.handles,
    GaveInput text eventPublicationEnabled handle.push (as ++ [a]) ∧
      ∃ call, w'.pushes[handle.push]? = some call ∧
        call.outcome = .acknowledged handle.handledThroughEventId

end

/-- The claim. -/
def InputMarksHandled : Prop :=
  ∀ (text : PiText) (eventPublicationEnabled : Bool) (as : List PiAction) (w : PiExtension),
    Run (Step text eventPublicationEnabled) initial as w → ∀ a w',
      Step text eventPublicationEnabled w a w' →
        ReportsInput text eventPublicationEnabled as w a w'

/-- The answer of a push is taken: the leaf is the same, and there was input since the push or the
alert is still pending. -/
def Taken (s : PiReducerState) (call : PushCall) : Prop :=
  s.activeLeafId = call.deliveredLeafId ∧
    (call.observedUserInputCursor < s.inputCursor ∨ stillPending s call = true)

/-- The slot is not lost: an answer is taken unless a newer one was, an old answer leaves the slot
of a newer event alone, and the clock does not read 0. -/
def KeepsSlot (w : PiExtension) : PiAction → Prop
  | .pushResolves push _ => ∀ s call, w.state = some s → w.pushes[push]? = some call →
      Current w call → (¬ Superseded w push → Taken s call) ∧
        (Taken s call → Superseded w push → s.pendingHandleCandidate = none)
  | .input now _ => now ≠ 0
  | _ => True

/-! ### What the changes do to the slot -/

/-- What the reports read of the state. -/
structure ReportView where
  sessionId : String
  inputCursor : Nat
  candidate : Option PendingHandleCandidate

/-- The part of a state that the reports read. -/
def viewOf (s : PiReducerState) : ReportView :=
  ⟨s.sessionId, s.inputCursor, s.pendingHandleCandidate⟩

/-- The part of the state that the reports read. -/
def view (w : PiExtension) : Option ReportView := w.state.map viewOf

/-- The candidate after the end of a report. -/
def ReportView.answered (v : ReportView) (push : Nat)
    (f : PendingHandleCandidate → Option PendingHandleCandidate) : ReportView :=
  { v with candidate := v.candidate.bind fun c => if c.push = push then f c else some c }

variable {eventPublicationEnabled : Bool} {text : PiText} {w x : PiExtension} {a : PiAction}
  {as : List PiAction} {s t : PiReducerState}

/-- The calls that a step leaves as they are, and the token. -/
structure SameCalls (w x : PiExtension) : Prop where
  deliverySequence : x.deliverySequence = w.deliverySequence
  pushes : x.pushes = w.pushes
  handles : x.handles = w.handles

/-- What a change does to the slot and the calls. -/
inductive ReportChange (eventPublicationEnabled : Bool) (w : PiExtension) (a : PiAction)
    (x : PiExtension) : Prop
  | fresh (hseq : x.deliverySequence = w.deliverySequence + 1) (hpushes : x.pushes = w.pushes)
      (hhandles : x.handles = w.handles)
      (hcandidate : ∀ v c, view x = some v → v.candidate = some c →
        ∃ u, view w = some u ∧ u.candidate = some c)
  | same (hcalls : SameCalls w x) (hview : view x = view w)
      (hinput : ∀ now steering, a = .input now steering → view w = none)
  | unpublished (hdisabled : eventPublicationEnabled = false) (hcalls : SameCalls w x)
      (v : ReportView) (hv : view w = some v) (hview : view x = some { v with candidate := none })
      (hinput : ∀ now steering, a ≠ .input now steering)
  | input (now : Int) (steering : Bool) (ha : a = .input now steering) (s : PiReducerState)
      (hstate : w.state = some s)
      (hview : view x = some (viewOf (s.received now)))
      (hseq : x.deliverySequence = w.deliverySequence) (hpushes : x.pushes = w.pushes)
      (hhandles : x.handles = w.handles ++ (s.reports? now).toList.map (·.call (some now)))
  | pushed (v : ReportView) (hv : view w = some v) (hview : view x = some v) (call : PushCall)
      (htoken : call.deliveryToken = w.deliverySequence)
      (hsession : call.deliveredSessionId = v.sessionId)
      (hcursor : call.observedUserInputCursor = v.inputCursor) (houtcome : call.outcome = .inFlight)
      (henabled : eventPublicationEnabled = true)
      (hseq : x.deliverySequence = w.deliverySequence) (hpushes : x.pushes = w.pushes ++ [call])
      (hhandles : x.handles = w.handles) (hinput : ∀ now steering, a ≠ .input now steering)
  | late (push : Nat) (eventId : String) (ha : a = .pushResolves push eventId) (call : PushCall)
      (hcall : w.pushes[push]? = some call)
      (hlate : ∀ s, w.state = some s → w.stillDelivered s call = true →
        s.inputCursor ≤ call.observedUserInputCursor ∧ stillPending s call = false)
      (hview : view x = view w) (hseq : x.deliverySequence = w.deliverySequence)
      (hpushes : x.pushes = w.endedPushes push (.acknowledged eventId))
      (hhandles : x.handles = w.handles)
  | taken (push : Nat) (eventId : String) (ha : a = .pushResolves push eventId) (call : PushCall)
      (hcall : w.pushes[push]? = some call) (s : PiReducerState) (hstate : w.state = some s)
      (hdelivered : w.stillDelivered s call = true)
      (htaken : call.observedUserInputCursor < s.inputCursor ∨ stillPending s call = true)
      (hview : view x = some
        { viewOf s with candidate := some { call.candidate push eventId with
            reported := decide (call.observedUserInputCursor < s.inputCursor) } })
      (hseq : x.deliverySequence = w.deliverySequence)
      (hpushes : x.pushes = w.endedPushes push (.acknowledged eventId))
      (hhandles : x.handles = w.handles ++
        if call.observedUserInputCursor < s.inputCursor then
          [(call.candidate push eventId).call s.lastInputAt] else [])
  | failed (push : Nat) (ha : a = .pushRejects push) (call : PushCall)
      (hcall : w.pushes[push]? = some call) (hview : view x = view w)
      (hseq : x.deliverySequence = w.deliverySequence)
      (hpushes : x.pushes = w.endedPushes push .failed) (hhandles : x.handles = w.handles)
  | handled (handle : Nat) (ha : a = .handleResolves handle) (call : HandleCall)
      (hcall : w.handles[handle]? = some call)
      (hview : view x = (view w).map (·.answered call.push fun _ => none))
      (hseq : x.deliverySequence = w.deliverySequence) (hpushes : x.pushes = w.pushes)
      (hhandles : x.handles = w.endedHandles handle .succeeded)
  | unhandled (handle : Nat) (ha : a = .handleRejects handle) (call : HandleCall)
      (hcall : w.handles[handle]? = some call)
      (hview : view x = (view w).map (·.answered call.push fun c => some { c with reported := false }))
      (hseq : x.deliverySequence = w.deliverySequence) (hpushes : x.pushes = w.pushes)
      (hhandles : x.handles = w.endedHandles handle .failed)

theorem view_of_state (hstate : w.state = some s) : view w = some (viewOf s) := by
  unfold view
  rw [hstate]
  rfl

/-- A state that the reports read in the same way. -/
theorem ReportChange.of_state (hstate : w.state = some s) (hx : x.state = some t)
    (hview : viewOf t = viewOf s) (hcalls : SameCalls w x)
    (hinput : ∀ now steering, a ≠ .input now steering) :
    ReportChange eventPublicationEnabled w a x := by
  refine .same hcalls ?_ fun now steering h => absurd h (hinput now steering)
  rw [view_of_state hx, view_of_state hstate, hview]

theorem view_map {f : PiReducerState → PiReducerState} (hx : x.state = w.state.map f)
    (hf : ∀ s, viewOf (f s) = viewOf s) : view x = view w := by
  unfold view
  rw [hx, Option.map_map]
  exact Option.map_congr fun s _ => hf s

/-- The end of a report, as the reports read it. -/
theorem view_answered {call : HandleCall}
    {f : PendingHandleCandidate → Option PendingHandleCandidate}
    (hx : x.state = w.state.map (·.answered call f)) :
    view x = (view w).map (·.answered call.push f) := by
  unfold view
  rw [hx, Option.map_map, Option.map_map]
  rfl

/-- Every change does one of these to the slot and the calls. -/
theorem report_change (h : Change eventPublicationEnabled w a x) :
    ReportChange eventPublicationEnabled w a x := by
  cases h with
  | restart ctx =>
    refine .fresh rfl rfl rfl fun v c hv hc => ?_
    cases hv
    cases hc
  | restartFails ctx =>
    refine .fresh rfl rfl rfl fun v c hv hc => ?_
    obtain ⟨t, ht, rfl⟩ := Option.map_eq_some_iff.mp hv
    obtain ⟨s, hs, rfl⟩ := Option.map_eq_some_iff.mp ht
    exact ⟨viewOf s, view_of_state hs, hc⟩
  | shutdown ctx =>
    refine .fresh rfl rfl rfl fun v c hv hc => ?_
    cases hv
  | ignored a hignored =>
    refine .same ⟨rfl, rfl, rfl⟩ rfl ?_
    rintro now steering rfl
    unfold view
    rw [show w.state = none from hignored]
    rfl
  | steering s hstate now => exact .input now true rfl s hstate rfl rfl rfl rfl
  | typed s hstate now => exact .input now false rfl s hstate rfl rfl rfl rfl
  | start s hstate ctx hactive => exact .of_state hstate rfl rfl ⟨rfl, rfl, rfl⟩ (by simp)
  | ended s hstate ctx hactive messages result hcurrent =>
    exact .of_state hstate rfl rfl ⟨rfl, rfl, rfl⟩ (by simp)
  | notRunning s hstate ctx hactive messages =>
    exact .of_state hstate rfl rfl ⟨rfl, rfl, rfl⟩ (by simp)
  | unsettled ctx hactive createdAt => exact .same ⟨rfl, rfl, rfl⟩ rfl (by simp)
  | dropped s hstate ctx hactive createdAt =>
    exact .of_state hstate rfl rfl ⟨rfl, rfl, rfl⟩ (by simp)
  | settled s hstate => exact .of_state hstate rfl rfl ⟨rfl, rfl, rfl⟩ (by simp)
  | submitted s hstate => exact .of_state hstate rfl rfl ⟨rfl, rfl, rfl⟩ (by simp)
  | switched s hstate ctx hactive newLeafId =>
    refine .fresh rfl rfl rfl fun v c hv hc => ?_
    cases hv
    cases hc
  | fired timer newWork => exact .same ⟨rfl, rfl, rfl⟩ rfl (by simp)
  | skipped s hstate timer newWork => exact .of_state hstate rfl rfl ⟨rfl, rfl, rfl⟩ (by simp)
  | interrupted s hstate timer newWork => exact .of_state hstate rfl rfl ⟨rfl, rfl, rfl⟩ (by simp)
  | unpublished s hstate timer newWork hdisabled =>
    exact .unpublished hdisabled ⟨rfl, rfl, rfl⟩ (viewOf s) (view_of_state hstate) rfl (by simp)
  | pushed s hstate timer newWork htimer call hemit hlifetime htoken hsession hleaf hflow hsettled
      hcursor houtcome henabled =>
    exact .pushed (viewOf s) (view_of_state hstate) rfl call htoken hsession hcursor houtcome
      henabled rfl rfl rfl (by simp)
  | acknowledgedLate push eventId call hcall hlate =>
    exact .late push eventId rfl call hcall hlate (view_map rfl fun _ => rfl) rfl rfl rfl
  | acknowledgedAnswered push eventId call hcall s hstate hdelivered hinput =>
    refine .taken push eventId rfl call hcall s hstate hdelivered (Or.inl hinput) ?_ rfl rfl ?_
    · rw [decide_eq_true hinput]
      rfl
    · rw [if_pos hinput]
  | acknowledged push eventId call hcall s hstate hdelivered hinput hpending =>
    refine .taken push eventId rfl call hcall s hstate hdelivered (Or.inr hpending) ?_ rfl rfl ?_
    · rw [decide_eq_false (not_lt.mpr hinput)]
      rfl
    · rw [if_neg (not_lt.mpr hinput), List.append_nil]
  | failed push call hcall =>
    exact .failed push rfl call hcall (view_map rfl fun _ => rfl) rfl rfl rfl
  | failedAgain push call hcall s hstate =>
    exact .failed push rfl call hcall (view_of_state hstate).symm rfl rfl rfl
  | handled handle call hcall => exact .handled handle rfl call hcall (view_answered rfl) rfl rfl rfl
  | unhandled handle call hcall =>
    exact .unhandled handle rfl call hcall (view_answered rfl) rfl rfl rfl

/-! ### Pushes and input along a change -/

/-- A push that has ended is as it was. -/
theorem ended_stays {push i : Nat} {outcome : PushOutcome} {call : PushCall} {eventId : String}
    (hallowed : ∃ c ∈ w.pushes[push]?, c.outcome = .inFlight) (hcall : w.pushes[i]? = some call)
    (hended : call.outcome = .acknowledged eventId) :
    (w.endedPushes push outcome)[i]? = some call := by
  have hne : push ≠ i := by
    rintro rfl
    obtain ⟨c, hc, hflight⟩ := hallowed
    cases hcall.symm.trans hc
    rw [hflight] at hended
    cases hended
  unfold endedPushes
  rw [List.getElem?_modify, hcall]
  show some (if push = i then _ else call) = some call
  rw [if_neg hne]

/-- A push that was acknowledged is as it was after every change. -/
theorem acknowledged_stays (hallowed : w.Allowed a)
    (h : ReportChange eventPublicationEnabled w a x) {i : Nat} {call : PushCall} {eventId : String}
    (hcall : w.pushes[i]? = some call) (hended : call.outcome = .acknowledged eventId) :
    x.pushes[i]? = some call := by
  cases h with
  | fresh hseq hpushes => rw [hpushes, hcall]
  | same hcalls => rw [hcalls.pushes, hcall]
  | unpublished hdisabled hcalls => rw [hcalls.pushes, hcall]
  | input now steering ha s hstate hview hseq hpushes => rw [hpushes, hcall]
  | pushed v hv hview new htoken hsession hcursor houtcome henabled hseq hpushes =>
    rw [hpushes, List.getElem?_append_left (List.getElem?_eq_some_iff.mp hcall).1, hcall]
  | late push eventId ha old hold hlate hview hseq hpushes =>
    subst ha
    rw [hpushes, ended_stays hallowed hcall hended]
  | taken push eventId ha old hold s hstate hdelivered htaken hview hseq hpushes =>
    subst ha
    rw [hpushes, ended_stays hallowed hcall hended]
  | failed push ha old hold hview hseq hpushes =>
    subst ha
    rw [hpushes, ended_stays hallowed hcall hended]
  | handled handle ha old hold hview hseq hpushes => rw [hpushes, hcall]
  | unhandled handle ha old hold hview hseq hpushes => rw [hpushes, hcall]

/-- The fields of a push that do not change. -/
structure SamePush (old call : PushCall) : Prop where
  deliveryToken : call.deliveryToken = old.deliveryToken
  deliveredSessionId : call.deliveredSessionId = old.deliveredSessionId
  observedUserInputCursor : call.observedUserInputCursor = old.observedUserInputCursor

/-- A push after a change was there before. -/
theorem samePush_of_ended {push i : Nat} {outcome : PushOutcome} {call : PushCall}
    (h : (w.endedPushes push outcome)[i]? = some call) :
    ∃ old, w.pushes[i]? = some old ∧ SamePush old call := by
  obtain ⟨old, hold, rfl | ⟨-, rfl⟩⟩ := getElem?_ended h
  · exact ⟨_, hold, rfl, rfl, rfl⟩
  · exact ⟨old, hold, rfl, rfl, rfl⟩

theorem gaveInput_snoc {push : Nat} (hafter : w = after text eventPublicationEnabled as) :
    GaveInput text eventPublicationEnabled push (as ++ [a]) ↔
      ((∃ now steering, a = .input now steering) ∧ push < w.pushes.length) ∨
        GaveInput text eventPublicationEnabled push as := by
  unfold GaveInput
  rw [Since.since_snoc, hafter]
  simp only [InputAfter, true_and]

/-- Without input there is no input. -/
theorem gaveInput_snoc_of_not {push : Nat} (hafter : w = after text eventPublicationEnabled as)
    (hinput : ∀ now steering, a ≠ .input now steering) :
    GaveInput text eventPublicationEnabled push (as ++ [a]) ↔
      GaveInput text eventPublicationEnabled push as := by
  rw [gaveInput_snoc hafter, or_iff_right]
  rintro ⟨⟨now, steering, ha⟩, -⟩
  exact hinput now steering ha

/-! ### What holds of every run -/

section
variable (text : PiText) (eventPublicationEnabled : Bool)

/-- The cursor says whether there was input since a push, the slot holds an acknowledged event,
and the reports are justified. -/
structure Reporting (as : List PiAction) (w : PiExtension) : Prop where
  timed : Timed w
  allocated : ∀ pre post, as = pre ++ post →
    (after text eventPublicationEnabled pre).pushes.length ≤ w.pushes.length
  current : ∀ push call, w.pushes[push]? = some call → Current w call →
    ∃ v, view w = some v ∧ v.sessionId = call.deliveredSessionId ∧
      call.observedUserInputCursor ≤ v.inputCursor ∧
      (call.observedUserInputCursor < v.inputCursor ↔
        GaveInput text eventPublicationEnabled push as)
  candidate : ∀ v c, view w = some v → v.candidate = some c →
    ∃ call, w.pushes[c.push]? = some call ∧ call.outcome = .acknowledged c.eventId ∧
      c.observedUserInputCursor = call.observedUserInputCursor
  justified : ∀ handle ∈ w.handles, GaveInput text eventPublicationEnabled handle.push as ∧
    ∃ call, w.pushes[handle.push]? = some call ∧
      call.outcome = .acknowledged handle.handledThroughEventId

end

theorem Reporting.nil : Reporting text eventPublicationEnabled [] initial where
  timed := ⟨by rintro _ ⟨⟩, by rintro _ ⟨⟩⟩
  allocated := by
    intro pre post h
    obtain ⟨rfl, -⟩ := List.append_eq_nil_iff.mp h.symm
    exact le_rfl
  current := by rintro _ _ ⟨⟩
  candidate := by rintro _ _ ⟨⟩
  justified := by rintro _ ⟨⟩

/-- The reports do not depend on the texts. -/
theorem Reporting.retext (h : Reporting text eventPublicationEnabled as x) (texts : PiTexts) :
    Reporting text eventPublicationEnabled as (x.retext texts) where
  timed := ⟨h.timed.quiet, h.timed.token⟩
  allocated := h.allocated
  current := h.current
  candidate := h.candidate
  justified := h.justified

/-- No push is forgotten. -/
theorem pushes_le (h : ReportChange eventPublicationEnabled w a x) :
    w.pushes.length ≤ x.pushes.length := by
  have hended : ∀ (push : Nat) (outcome : PushOutcome),
      (w.endedPushes push outcome).length = w.pushes.length :=
    fun push outcome => List.length_modify ..
  cases h with
  | fresh hseq hpushes => rw [hpushes]
  | same hcalls => rw [hcalls.pushes]
  | unpublished hdisabled hcalls => rw [hcalls.pushes]
  | input now steering ha s hstate hview hseq hpushes => rw [hpushes]
  | pushed v hv hview call htoken hsession hcursor houtcome henabled hseq hpushes =>
    rw [hpushes, List.length_append]
    exact Nat.le_add_right _ _
  | late push eventId ha call hcall hlate hview hseq hpushes => rw [hpushes, hended]
  | taken push eventId ha call hcall s hstate hdelivered htaken hview hseq hpushes =>
    rw [hpushes, hended]
  | failed push ha call hcall hview hseq hpushes => rw [hpushes, hended]
  | handled handle ha call hcall hview hseq hpushes => rw [hpushes]
  | unhandled handle ha call hcall hview hseq hpushes => rw [hpushes]

/-- A push is as current as it was, when there is no input and no new token. -/
theorem Reporting.current_of_old (hi : Reporting text eventPublicationEnabled as w)
    (hafter : w = after text eventPublicationEnabled as) {push : Nat} {old call : PushCall}
    (hold : w.pushes[push]? = some old) (hsame : SamePush old call)
    (hseq : x.deliverySequence = w.deliverySequence) (hcurrent : Current x call)
    (hview : ∀ v, view w = some v → ∃ u, view x = some u ∧ u.sessionId = v.sessionId ∧
      u.inputCursor = v.inputCursor ∧ ∀ now steering, a ≠ .input now steering) :
    ∃ v, view x = some v ∧ v.sessionId = call.deliveredSessionId ∧
      call.observedUserInputCursor ≤ v.inputCursor ∧
      (call.observedUserInputCursor < v.inputCursor ↔
        GaveInput text eventPublicationEnabled push (as ++ [a])) := by
  have hbefore : Current w old := by
    unfold Current at hcurrent ⊢
    rw [← hsame.deliveryToken, hcurrent, hseq]
  obtain ⟨v, hv, hsession, hle, hiff⟩ := hi.current push old hold hbefore
  obtain ⟨u, hu, husession, hucursor, hinput⟩ := hview v hv
  refine ⟨u, hu, ?_, ?_, ?_⟩
  · rw [husession, hsession, hsame.deliveredSessionId]
  · rw [hucursor, hsame.observedUserInputCursor]
    exact hle
  · rw [hucursor, hsame.observedUserInputCursor, hiff, gaveInput_snoc_of_not hafter hinput]

/-- The cursor says whether there was input, also after a change. -/
theorem Reporting.current_change (hi : Reporting text eventPublicationEnabled as w)
    (hafter : w = after text eventPublicationEnabled as)
    (h : ReportChange eventPublicationEnabled w a x) {push : Nat} {call : PushCall}
    (hcall : x.pushes[push]? = some call) (hcurrent : Current x call) :
    ∃ v, view x = some v ∧ v.sessionId = call.deliveredSessionId ∧
      call.observedUserInputCursor ≤ v.inputCursor ∧
      (call.observedUserInputCursor < v.inputCursor ↔
        GaveInput text eventPublicationEnabled push (as ++ [a])) := by
  have hrefl : ∀ call : PushCall, SamePush call call := fun _ => ⟨rfl, rfl, rfl⟩
  cases h with
  | fresh hseq hpushes =>
    -- Every push has an older token.
    rw [hpushes] at hcall
    have hle := hi.timed.token call (List.mem_of_getElem? hcall)
    unfold Current at hcurrent
    omega
  | same hcalls hview hinput =>
    rw [hcalls.pushes] at hcall
    refine hi.current_of_old hafter hcall (hrefl _) hcalls.deliverySequence hcurrent ?_
    intro v hv
    refine ⟨v, hview.trans hv, rfl, rfl, ?_⟩
    rintro now steering rfl
    rw [hinput now steering rfl] at hv
    cases hv
  | unpublished hdisabled hcalls v hv hview hinput =>
    rw [hcalls.pushes] at hcall
    refine hi.current_of_old hafter hcall (hrefl _) hcalls.deliverySequence hcurrent ?_
    intro u hu
    cases hv.symm.trans hu
    exact ⟨_, hview, rfl, rfl, hinput⟩
  | input now steering ha s hstate hview hseq hpushes =>
    rw [hpushes] at hcall
    have hbefore : Current w call := hcurrent.trans hseq
    obtain ⟨v, hv, hsession, hle, -⟩ := hi.current push call hcall hbefore
    rw [view_of_state hstate] at hv
    cases hv
    refine ⟨_, hview, hsession, Nat.le_succ_of_le hle, ?_⟩
    have hgave : GaveInput text eventPublicationEnabled push (as ++ [a]) :=
      (gaveInput_snoc hafter).mpr
        (Or.inl ⟨⟨now, steering, ha⟩, (List.getElem?_eq_some_iff.mp hcall).1⟩)
    exact ⟨fun _ => hgave, fun _ => Nat.lt_succ_of_le hle⟩
  | pushed v hv hview new htoken hsession hcursor houtcome henabled hseq hpushes hhandles hinput =>
    rw [hpushes, List.getElem?_append] at hcall
    split at hcall
    · refine hi.current_of_old hafter hcall (hrefl _) hseq hcurrent ?_
      intro u hu
      cases hv.symm.trans hu
      exact ⟨v, hview, rfl, rfl, hinput⟩
    · next hpush =>
      obtain rfl := List.mem_singleton.mp (List.mem_of_getElem? hcall)
      refine ⟨v, hview, hsession.symm, hcursor.le, ?_⟩
      -- The push is new, and no input came after it.
      refine ⟨fun hlt => absurd (hcursor ▸ hlt) (lt_irrefl _), fun hgave => ?_⟩
      obtain ⟨pre, b, post, rfl, ⟨-, hlt⟩, -⟩ := (gaveInput_snoc_of_not hafter hinput).mp hgave
      have hle := hi.allocated pre (b :: post) rfl
      omega
  | late push' eventId ha old hold hlate hview hseq hpushes =>
    subst ha
    rw [hpushes] at hcall
    obtain ⟨old, hold, hsame⟩ := samePush_of_ended hcall
    refine hi.current_of_old hafter hold hsame hseq hcurrent ?_
    exact fun v hv => ⟨v, hview.trans hv, rfl, rfl, by simp⟩
  | taken push' eventId ha old hold s hstate hdelivered htaken hview hseq hpushes =>
    subst ha
    rw [hpushes] at hcall
    obtain ⟨old, hold, hsame⟩ := samePush_of_ended hcall
    refine hi.current_of_old hafter hold hsame hseq hcurrent ?_
    intro v hv
    rw [view_of_state hstate] at hv
    cases hv
    exact ⟨_, hview, rfl, rfl, by simp⟩
  | failed push' ha old hold hview hseq hpushes =>
    subst ha
    rw [hpushes] at hcall
    obtain ⟨old, hold, hsame⟩ := samePush_of_ended hcall
    refine hi.current_of_old hafter hold hsame hseq hcurrent ?_
    exact fun v hv => ⟨v, hview.trans hv, rfl, rfl, by simp⟩
  | handled handle ha old hold hview hseq hpushes =>
    subst ha
    rw [hpushes] at hcall
    refine hi.current_of_old hafter hcall (hrefl _) hseq hcurrent ?_
    exact fun v hv => ⟨v.answered old.push _, by rw [hview, hv]; rfl, rfl, rfl, by simp⟩
  | unhandled handle ha old hold hview hseq hpushes =>
    subst ha
    rw [hpushes] at hcall
    refine hi.current_of_old hafter hcall (hrefl _) hseq hcurrent ?_
    exact fun v hv => ⟨v.answered old.push _, by rw [hview, hv]; rfl, rfl, rfl, by simp⟩

/-- What the slot holds was acknowledged. -/
def Acknowledged (w : PiExtension) (c : PendingHandleCandidate) : Prop :=
  ∃ call, w.pushes[c.push]? = some call ∧ call.outcome = .acknowledged c.eventId ∧
    c.observedUserInputCursor = call.observedUserInputCursor

/-- The push that was acknowledged just now. -/
theorem ended_acknowledged {push : Nat} {eventId : String} {call : PushCall}
    (hcall : w.pushes[push]? = some call) :
    (w.endedPushes push (.acknowledged eventId))[push]?
      = some { call with outcome := .acknowledged eventId } := by
  unfold endedPushes
  rw [List.getElem?_modify, hcall]
  show some (if push = push then _ else call) = _
  rw [if_pos rfl]

/-- The slot after an input holds what it held. -/
theorem received_candidate {now : Int} {c : PendingHandleCandidate}
    (h : (s.received now).pendingHandleCandidate = some c) :
    ∃ old, s.pendingHandleCandidate = some old ∧ c.push = old.push ∧ c.eventId = old.eventId ∧
      c.observedUserInputCursor = old.observedUserInputCursor := by
  unfold PiReducerState.received at h
  dsimp only at h
  split at h
  · next candidate hreports =>
    cases h
    exact ⟨candidate, (Option.filter_eq_some_iff.mp hreports).1, rfl, rfl, rfl⟩
  · exact ⟨c, h, rfl, rfl, rfl⟩

/-- The slot after the end of a report holds what it held, or nothing. -/
theorem answered_candidate {v : ReportView} {push : Nat} {c : PendingHandleCandidate}
    {f : PendingHandleCandidate → Option PendingHandleCandidate}
    (hf : ∀ old new, f old = some new → new.push = old.push ∧ new.eventId = old.eventId ∧
      new.observedUserInputCursor = old.observedUserInputCursor)
    (h : (v.answered push f).candidate = some c) :
    ∃ old, v.candidate = some old ∧ c.push = old.push ∧ c.eventId = old.eventId ∧
      c.observedUserInputCursor = old.observedUserInputCursor := by
  obtain ⟨old, hold, hc⟩ := Option.bind_eq_some_iff.mp h
  refine ⟨old, hold, ?_⟩
  split at hc
  · exact hf old c hc
  · cases hc
    exact ⟨rfl, rfl, rfl⟩

/-- What the slot holds was acknowledged, also after a change. -/
theorem Reporting.candidate_change (hi : Reporting text eventPublicationEnabled as w)
    (hallowed : w.Allowed a) (h : ReportChange eventPublicationEnabled w a x) {v : ReportView}
    {c : PendingHandleCandidate} (hv : view x = some v) (hc : v.candidate = some c) :
    Acknowledged x c := by
  have hkept : ∀ {u : ReportView} {old : PendingHandleCandidate}, view w = some u →
      u.candidate = some old → c.push = old.push → c.eventId = old.eventId →
      c.observedUserInputCursor = old.observedUserInputCursor → Acknowledged x c := by
    intro u old hu hold hpush hid hcursor
    obtain ⟨call, hcall, houtcome, hobserved⟩ := hi.candidate u old hu hold
    refine ⟨call, ?_, by rw [hid, houtcome], hcursor.trans hobserved⟩
    rw [hpush]
    exact acknowledged_stays hallowed h hcall houtcome
  cases h with
  | fresh hseq hpushes hhandles hcandidate =>
    obtain ⟨u, hu, hold⟩ := hcandidate v c hv hc
    exact hkept hu hold rfl rfl rfl
  | same hcalls hview => exact hkept (hview ▸ hv) hc rfl rfl rfl
  | unpublished hdisabled hcalls u hu hview =>
    cases hview.symm.trans hv
    cases hc
  | input now steering ha s hstate hview =>
    cases hview.symm.trans hv
    obtain ⟨old, hold, hpush, hid, hcursor⟩ := received_candidate hc
    exact hkept (view_of_state hstate) hold hpush hid hcursor
  | pushed u hu hview =>
    cases hview.symm.trans hv
    exact hkept hu hc rfl rfl rfl
  | late push eventId ha call hcall hlate hview => exact hkept (hview ▸ hv) hc rfl rfl rfl
  | taken push eventId ha call hcall s hstate hdelivered htaken hview hseq hpushes =>
    cases hview.symm.trans hv
    cases hc
    refine ⟨{ call with outcome := .acknowledged eventId }, ?_, rfl, rfl⟩
    rw [hpushes]
    exact ended_acknowledged hcall
  | failed push ha call hcall hview => exact hkept (hview ▸ hv) hc rfl rfl rfl
  | handled handle ha call hcall hview =>
    obtain ⟨u, hu, rfl⟩ := Option.map_eq_some_iff.mp (hview ▸ hv)
    obtain ⟨old, hold, hpush, hid, hcursor⟩ := answered_candidate (by simp) hc
    exact hkept hu hold hpush hid hcursor
  | unhandled handle ha call hcall hview =>
    obtain ⟨u, hu, rfl⟩ := Option.map_eq_some_iff.mp (hview ▸ hv)
    obtain ⟨old, hold, hpush, hid, hcursor⟩ := answered_candidate (by
      rintro old new h
      cases h
      exact ⟨rfl, rfl, rfl⟩) hc
    exact hkept hu hold hpush hid hcursor

/-- A report is justified when the user has given input since the push of its event, which was
acknowledged. -/
def Justified (text : PiText) (eventPublicationEnabled : Bool) (as : List PiAction)
    (w : PiExtension) (handle : HandleCall) : Prop :=
  GaveInput text eventPublicationEnabled handle.push as ∧
    ∃ call, w.pushes[handle.push]? = some call ∧
      call.outcome = .acknowledged handle.handledThroughEventId

/-- A candidate that an input reports is the one of the slot. -/
theorem reports?_eq_some {now : Int} {c : PendingHandleCandidate} (h : s.reports? now = some c) :
    s.pendingHandleCandidate = some c :=
  (Option.filter_eq_some_iff.mp h).1

/-- A report is as it was, but for its outcome. -/
theorem mem_endedHandles {handle : Nat} {outcome : HandleOutcome} {call : HandleCall}
    (h : call ∈ w.endedHandles handle outcome) :
    ∃ old ∈ w.handles, call.push = old.push ∧
      call.handledThroughEventId = old.handledThroughEventId := by
  unfold endedHandles at h
  obtain ⟨i, hi⟩ := List.mem_iff_getElem?.mp h
  rw [List.getElem?_modify] at hi
  obtain ⟨old, hold, hcall⟩ := Option.map_eq_some_iff.mp hi
  refine ⟨old, List.mem_of_getElem? hold, ?_⟩
  split at hcall
  · rw [← hcall]
    exact ⟨rfl, rfl⟩
  · rw [← hcall]
    exact ⟨rfl, rfl⟩

/-- The reports are justified, also after a change. -/
theorem Reporting.justified_change (hi : Reporting text eventPublicationEnabled as w)
    (hafter : w = after text eventPublicationEnabled as) (hallowed : w.Allowed a)
    (h : ReportChange eventPublicationEnabled w a x) {handle : HandleCall}
    (hhandle : handle ∈ x.handles) :
    Justified text eventPublicationEnabled (as ++ [a]) x handle := by
  have hkept : ∀ old ∈ w.handles, handle.push = old.push →
      handle.handledThroughEventId = old.handledThroughEventId →
        Justified text eventPublicationEnabled (as ++ [a]) x handle := by
    intro old hold hpush hid
    obtain ⟨hgave, call, hcall, houtcome⟩ := hi.justified old hold
    unfold Justified
    rw [hpush, hid]
    refine ⟨(gaveInput_snoc hafter).mpr (Or.inr hgave), call, ?_, houtcome⟩
    exact acknowledged_stays hallowed h hcall houtcome
  cases h with
  | fresh hseq hpushes hhandles =>
    exact hkept handle (hhandles ▸ hhandle) rfl rfl
  | same hcalls => exact hkept handle (hcalls.handles ▸ hhandle) rfl rfl
  | unpublished hdisabled hcalls => exact hkept handle (hcalls.handles ▸ hhandle) rfl rfl
  | input now steering ha s hstate hview hseq hpushes hhandles =>
    rw [hhandles, List.mem_append, List.mem_map] at hhandle
    rcases hhandle with hold | ⟨c, hc, rfl⟩
    · exact hkept handle hold rfl rfl
    · have hcandidate := reports?_eq_some (Option.mem_toList.mp hc)
      obtain ⟨call, hcall, houtcome, -⟩ := hi.candidate _ c (view_of_state hstate) hcandidate
      refine ⟨(gaveInput_snoc hafter).mpr (Or.inl ⟨⟨now, steering, ha⟩, ?_⟩), call, ?_, houtcome⟩
      · exact (List.getElem?_eq_some_iff.mp hcall).1
      · rw [hpushes]
        exact hcall
  | pushed v hv hview new htoken hsession hcursor houtcome henabled hseq hpushes hhandles =>
    exact hkept handle (hhandles ▸ hhandle) rfl rfl
  | late push eventId ha call hcall hlate hview hseq hpushes hhandles =>
    exact hkept handle (hhandles ▸ hhandle) rfl rfl
  | taken push eventId ha call hcall s hstate hdelivered htaken hview hseq hpushes hhandles =>
    rw [hhandles, List.mem_append] at hhandle
    rcases hhandle with hold | hnew
    · exact hkept handle hold rfl rfl
    · split at hnew
      · next hinput =>
        obtain rfl := List.mem_singleton.mp hnew
        refine ⟨?_, _, hpushes ▸ ended_acknowledged hcall, rfl⟩
        obtain ⟨v, hv, -, -, hiff⟩ :=
          hi.current push call hcall (stillDelivered_iff.mp hdelivered).1
        rw [view_of_state hstate] at hv
        cases hv
        exact (gaveInput_snoc hafter).mpr (Or.inr (hiff.mp hinput))
      · cases hnew
  | failed push ha call hcall hview hseq hpushes hhandles =>
    exact hkept handle (hhandles ▸ hhandle) rfl rfl
  | handled number ha call hcall hview hseq hpushes hhandles =>
    rw [hhandles] at hhandle
    obtain ⟨old, hold, hpush, hid⟩ := mem_endedHandles hhandle
    exact hkept old hold hpush hid
  | unhandled number ha call hcall hview hseq hpushes hhandles =>
    rw [hhandles] at hhandle
    obtain ⟨old, hold, hpush, hid⟩ := mem_endedHandles hhandle
    exact hkept old hold hpush hid

/-- No push of a prefix is forgotten. -/
theorem Reporting.allocated_change (hi : Reporting text eventPublicationEnabled as w)
    (hnext : (after text eventPublicationEnabled (as ++ [a])).pushes = x.pushes)
    (h : ReportChange eventPublicationEnabled w a x) {pre post : List PiAction}
    (has : as ++ [a] = pre ++ post) :
    (after text eventPublicationEnabled pre).pushes.length ≤ x.pushes.length := by
  rcases List.eq_nil_or_concat post with rfl | ⟨init, last, rfl⟩
  · rw [← List.append_nil pre, ← has, hnext]
  · rw [List.concat_eq_append, ← List.append_assoc] at has
    obtain ⟨rfl, -⟩ := List.append_inj' has rfl
    exact (hi.allocated pre init rfl).trans (pushes_le h)

/-- Every change keeps the reports. -/
theorem Reporting.change (hi : Reporting text eventPublicationEnabled as w)
    (hafter : w = after text eventPublicationEnabled as) (hallowed : w.Allowed a)
    (h : Change eventPublicationEnabled w a x)
    (hnext : (after text eventPublicationEnabled (as ++ [a])).pushes = x.pushes) :
    Reporting text eventPublicationEnabled (as ++ [a]) x where
  timed := hi.timed.change h
  allocated _ _ has := hi.allocated_change hnext (report_change h) has
  current _ _ hcall hcurrent := hi.current_change hafter (report_change h) hcall hcurrent
  candidate _ _ hv hc := hi.candidate_change hallowed (report_change h) hv hc
  justified _ hhandle := hi.justified_change hafter hallowed (report_change h) hhandle

/-- Every run has its reports. -/
theorem Reporting.of_run (hrun : Run (Step text eventPublicationEnabled) initial as w) :
    w = after text eventPublicationEnabled as ∧ w.Consistent ∧
      Reporting text eventPublicationEnabled as w := by
  refine run_history text Reporting.nil ?_ hrun
  intro as w a x texts hafter _ hallowed hi hchange hnext
  exact (hi.change hafter hallowed hchange (by rw [hnext]; rfl)).retext texts

/-- In every run, a report is of an event that was acknowledged, and comes after input. -/
theorem justified_of_run (hrun : Run (Step text eventPublicationEnabled) initial as w)
    {handle : HandleCall} (hhandle : handle ∈ w.handles) :
    Justified text eventPublicationEnabled as w handle :=
  (Reporting.of_run hrun).2.2.justified handle hhandle

/-! ### The newest event -/

/-- The event of a push waits in the slot for input, or a call reports it, or one has. -/
def Waiting (w : PiExtension) (push : Nat) (eventId : String) : Prop :=
  (∃ handle ∈ w.handles, handle.push = push ∧ handle.outcome = .succeeded) ∨
    ∃ v c, view w = some v ∧ v.candidate = some c ∧ c.push = push ∧ c.eventId = eventId ∧
      (c.reported = true → ∃ handle ∈ w.handles, handle.push = push ∧ handle.outcome = .inFlight)

/-- The newest event that was acknowledged is not lost. -/
structure KeepsNewest (eventPublicationEnabled : Bool) (w : PiExtension) : Prop where
  enabled : eventPublicationEnabled = false → w.pushes = []
  newest : ∀ push call eventId, w.pushes[push]? = some call → call.outcome = .acknowledged eventId →
    Current w call → ¬ Superseded w push → Waiting w push eventId

/-- What is superseded stays so, while the token is the same. -/
theorem Superseded.change {push : Nat} (h : Superseded w push) (hallowed : w.Allowed a)
    (hchange : ReportChange eventPublicationEnabled w a x)
    (hseq : x.deliverySequence = w.deliverySequence) : Superseded x push := by
  obtain ⟨newer, call, eventId, hlt, hcall, hcurrent, houtcome⟩ := h
  refine ⟨newer, call, eventId, hlt, acknowledged_stays hallowed hchange hcall houtcome, ?_, houtcome⟩
  exact hcurrent.trans hseq.symm

/-- What waits still does when the slot is the same and no call ends. -/
theorem Waiting.of_same {push : Nat} {eventId : String} (h : Waiting w push eventId)
    (hview : view x = view w) (hhandles : x.handles = w.handles) : Waiting x push eventId := by
  unfold Waiting
  rw [hview, hhandles]
  exact h

/-- Another call has ended. -/
theorem mem_endedHandles_of_ne {handle : Nat} {outcome : HandleOutcome} {call old : HandleCall}
    (hcall : w.handles[handle]? = some call) (hold : old ∈ w.handles) (hne : old ≠ call) :
    old ∈ w.endedHandles handle outcome := by
  obtain ⟨i, hi⟩ := List.mem_iff_getElem?.mp hold
  refine List.mem_iff_getElem?.mpr ⟨i, ?_⟩
  unfold endedHandles
  rw [List.getElem?_modify, hi]
  show some (if handle = i then _ else old) = some old
  rw [if_neg]
  rintro rfl
  cases hi.symm.trans hcall
  exact hne rfl

/-- The call that has ended. -/
theorem ended_mem_endedHandles {handle : Nat} {outcome : HandleOutcome} {call : HandleCall}
    (hcall : w.handles[handle]? = some call) :
    { call with outcome } ∈ w.endedHandles handle outcome := by
  refine List.mem_iff_getElem?.mpr ⟨handle, ?_⟩
  unfold endedHandles
  rw [List.getElem?_modify, hcall]
  show some (if handle = handle then _ else call) = _
  rw [if_pos rfl]

/-- What waits still does after an input. -/
theorem Waiting.input {push : Nat} {eventId : String} {now : Int} (h : Waiting w push eventId)
    (hstate : w.state = some s) (hview : view x = some (viewOf (s.received now)))
    (hhandles : x.handles = w.handles ++ (s.reports? now).toList.map (·.call (some now))) :
    Waiting x push eventId := by
  have hgrows : ∀ handle ∈ w.handles, handle ∈ x.handles := by
    intro handle hhandle
    rw [hhandles]
    exact List.mem_append_left _ hhandle
  rcases h with ⟨handle, hhandle, hpush, houtcome⟩ | ⟨v, c, hv, hc, hpush, hid, hreported⟩
  · exact Or.inl ⟨handle, hgrows handle hhandle, hpush, houtcome⟩
  · right
    rw [view_of_state hstate] at hv
    cases hv
    cases hreports : s.reports? now with
    | none =>
      refine ⟨_, c, hview, ?_, hpush, hid, ?_⟩
      · simpa [viewOf, PiReducerState.received, hreports] using hc
      · intro h
        obtain ⟨handle, hhandle, hrest⟩ := hreported h
        exact ⟨handle, hgrows handle hhandle, hrest⟩
    | some candidate =>
      cases (reports?_eq_some hreports).symm.trans hc
      refine ⟨_, { c with reported := true }, hview, ?_, hpush, hid, fun _ => ?_⟩
      · simp [viewOf, PiReducerState.received, hreports]
      · refine ⟨c.call (some now), ?_, hpush, rfl⟩
        rw [hhandles, hreports]
        exact List.mem_append_right _ (List.mem_singleton_self _)

/-- What waits still does after a call has succeeded: its own event is reported then. -/
theorem Waiting.handled {push handle : Nat} {eventId : String} {call : HandleCall}
    (h : Waiting w push eventId) (hcall : w.handles[handle]? = some call)
    (hflight : call.outcome = .inFlight)
    (hview : view x = (view w).map (·.answered call.push fun _ => none))
    (hhandles : x.handles = w.endedHandles handle .succeeded) : Waiting x push eventId := by
  rcases h with ⟨old, hold, hpush, houtcome⟩ | ⟨v, c, hv, hc, hpush, hid, hreported⟩
  · refine Or.inl ⟨old, ?_, hpush, houtcome⟩
    rw [hhandles]
    refine mem_endedHandles_of_ne hcall hold ?_
    rintro rfl
    rw [hflight] at houtcome
    cases houtcome
  · by_cases hsame : c.push = call.push
    · refine Or.inl ⟨{ call with outcome := .succeeded }, ?_, hsame.symm.trans hpush, rfl⟩
      rw [hhandles]
      exact ended_mem_endedHandles hcall
    · refine Or.inr ⟨v.answered call.push _, c, by rw [hview, hv]; rfl, ?_, hpush, hid, ?_⟩
      · simp [ReportView.answered, hc, hsame]
      · intro h
        obtain ⟨old, hold, hother, hflying⟩ := hreported h
        refine ⟨old, ?_, hother, hflying⟩
        rw [hhandles]
        refine mem_endedHandles_of_ne hcall hold ?_
        rintro rfl
        exact hsame (hpush.trans hother.symm)

/-- What waits still does after a call has failed: its own event waits for the next input. -/
theorem Waiting.unhandled {push handle : Nat} {eventId : String} {call : HandleCall}
    (h : Waiting w push eventId) (hcall : w.handles[handle]? = some call)
    (hflight : call.outcome = .inFlight)
    (hview : view x = (view w).map (·.answered call.push fun c => some { c with reported := false }))
    (hhandles : x.handles = w.endedHandles handle .failed) : Waiting x push eventId := by
  rcases h with ⟨old, hold, hpush, houtcome⟩ | ⟨v, c, hv, hc, hpush, hid, hreported⟩
  · refine Or.inl ⟨old, ?_, hpush, houtcome⟩
    rw [hhandles]
    refine mem_endedHandles_of_ne hcall hold ?_
    rintro rfl
    rw [hflight] at houtcome
    cases houtcome
  · right
    by_cases hsame : c.push = call.push
    · refine ⟨v.answered call.push _, { c with reported := false }, by rw [hview, hv]; rfl, ?_,
        hpush, hid, ?_⟩
      · simp [ReportView.answered, hc, hsame]
      · intro h
        cases h
    · refine ⟨v.answered call.push _, c, by rw [hview, hv]; rfl, ?_, hpush, hid, ?_⟩
      · simp [ReportView.answered, hc, hsame]
      · intro h
        obtain ⟨old, hold, hother, hflying⟩ := hreported h
        refine ⟨old, ?_, hother, hflying⟩
        rw [hhandles]
        refine mem_endedHandles_of_ne hcall hold ?_
        rintro rfl
        exact hsame (hpush.trans hother.symm)

/-- A push that is over was acknowledged before, or its answer has just come. -/
theorem acknowledged_of_ended {push i : Nat} {outcome : PushOutcome} {call : PushCall}
    {eventId : String} (h : (w.endedPushes push outcome)[i]? = some call)
    (hended : call.outcome = .acknowledged eventId) (hne : i ≠ push ∨ outcome = .failed) :
    w.pushes[i]? = some call := by
  obtain ⟨old, hold, rfl | ⟨hpush, rfl⟩⟩ := getElem?_ended h
  · exact hold
  · rcases hne with hne | hfailed
    · exact absurd hpush hne
    · rw [show outcome = .acknowledged eventId from hended] at hfailed
      cases hfailed

/-- The answer that an extension takes is of a push in the same session. -/
theorem Reporting.stillDelivered_of_taken (hi : Reporting text eventPublicationEnabled as w)
    {push : Nat} {call : PushCall} (hcall : w.pushes[push]? = some call) (hcurrent : Current w call)
    (hstate : w.state = some s) (htaken : Taken s call) : w.stillDelivered s call = true := by
  obtain ⟨v, hv, hsession, -⟩ := hi.current push call hcall hcurrent
  rw [view_of_state hstate] at hv
  cases hv
  exact stillDelivered_iff.mpr ⟨hcurrent, hsession, htaken.1⟩

/-- The newest event is not lost in a step that keeps the slot. -/
theorem KeepsNewest.newest_change (hn : KeepsNewest eventPublicationEnabled w)
    (hi : Reporting text eventPublicationEnabled as w) (hallowed : w.Allowed a)
    (hkeeps : KeepsSlot w a) (h : ReportChange eventPublicationEnabled w a x) {push : Nat}
    {call : PushCall} {eventId : String} (hcall : x.pushes[push]? = some call)
    (hended : call.outcome = .acknowledged eventId) (hcurrent : Current x call)
    (hnewest : ¬ Superseded x push) : Waiting x push eventId := by
  have hbefore : x.deliverySequence = w.deliverySequence → w.pushes[push]? = some call →
      Waiting w push eventId := by
    intro hseq hold
    refine hn.newest push call eventId hold hended (hcurrent.trans hseq) ?_
    exact fun hsuperseded => hnewest (hsuperseded.change hallowed h hseq)
  have hchange := h
  cases h with
  | fresh hseq hpushes =>
    rw [hpushes] at hcall
    have hle := hi.timed.token call (List.mem_of_getElem? hcall)
    unfold Current at hcurrent
    omega
  | same hcalls hview =>
    rw [hcalls.pushes] at hcall
    exact (hbefore hcalls.deliverySequence hcall).of_same hview hcalls.handles
  | unpublished hdisabled hcalls =>
    rw [hcalls.pushes, hn.enabled hdisabled] at hcall
    cases hcall
  | input now steering ha s hstate hview hseq hpushes hhandles =>
    rw [hpushes] at hcall
    exact (hbefore hseq hcall).input hstate hview hhandles
  | pushed v hv hview new htoken hsession hcursor houtcome henabled hseq hpushes hhandles =>
    rw [hpushes, List.getElem?_append] at hcall
    split at hcall
    · exact (hbefore hseq hcall).of_same (hview.trans hv.symm) hhandles
    · obtain rfl := List.mem_singleton.mp (List.mem_of_getElem? hcall)
      rw [houtcome] at hended
      cases hended
  | late push' eventId' ha old hold hlate hview hseq hpushes hhandles =>
    subst ha
    rw [hpushes] at hcall
    by_cases hpush : push = push'
    · -- The answer of the newest push would have been taken.
      subst hpush
      obtain ⟨before, hbefore', hsame⟩ := samePush_of_ended hcall
      cases hold.symm.trans hbefore'
      have hcurrent' : Current w old := by
        unfold Current at hcurrent ⊢
        rw [← hsame.deliveryToken, hcurrent, hseq]
      obtain ⟨v, hv, -⟩ := hi.current push old hold hcurrent'
      obtain ⟨s, hstate, -⟩ := Option.map_eq_some_iff.mp hv
      have htaken := (hkeeps s old hstate hold hcurrent').1
        fun hsuperseded => hnewest (hsuperseded.change hallowed hchange hseq)
      obtain ⟨hle, hpending⟩ :=
        hlate s hstate (hi.stillDelivered_of_taken hold hcurrent' hstate htaken)
      rcases htaken.2 with hlt | htrue
      · omega
      · rw [hpending] at htrue
        cases htrue
    · have hcall' := acknowledged_of_ended hcall hended (Or.inl hpush)
      exact (hbefore hseq hcall').of_same hview hhandles
  | taken push' eventId' ha old hold s hstate hdelivered htaken hview hseq hpushes hhandles =>
    subst ha
    by_cases hpush : push = push'
    · subst hpush
      rw [hpushes, ended_acknowledged hold] at hcall
      cases hcall
      cases hended
      refine Or.inr ⟨_, _, hview, rfl, rfl, rfl, fun hreported => ?_⟩
      have hinput := of_decide_eq_true hreported
      refine ⟨(old.candidate push eventId).call s.lastInputAt, ?_, rfl, rfl⟩
      rw [hhandles, if_pos hinput]
      exact List.mem_append_right _ (List.mem_singleton_self _)
    · -- An older answer has come, so the slot was empty and the newest event is reported.
      have hcurrent' : Current w old := (stillDelivered_iff.mp hdelivered).1
      have hcall' : w.pushes[push]? = some call :=
        acknowledged_of_ended (hpushes ▸ hcall) hended (Or.inl hpush)
      have holder : push' < push := by
        by_contra hle
        refine hnewest ⟨push', _, eventId', by omega, hpushes ▸ ended_acknowledged hold, ?_, rfl⟩
        exact hcurrent'.trans hseq.symm
      have hempty := (hkeeps s old hstate hold hcurrent').2
        ⟨(stillDelivered_iff.mp hdelivered).2.2.symm ▸ rfl, htaken⟩
        ⟨push, call, eventId, holder, hcall', hcurrent.trans hseq, hended⟩
      rcases hbefore hseq hcall' with ⟨handle, hhandle, hrest⟩ | ⟨v, c, hv, hc, -⟩
      · refine Or.inl ⟨handle, ?_, hrest⟩
        rw [hhandles]
        exact List.mem_append_left _ hhandle
      · rw [view_of_state hstate] at hv
        cases hv
        rw [show s.pendingHandleCandidate = some c from hc] at hempty
        cases hempty
  | failed push' ha old hold hview hseq hpushes hhandles =>
    rw [hpushes] at hcall
    have hcall' := acknowledged_of_ended hcall hended (Or.inr rfl)
    exact (hbefore hseq hcall').of_same hview hhandles
  | handled handle ha old hold hview hseq hpushes hhandles =>
    subst ha
    rw [hpushes] at hcall
    obtain ⟨old', hold', hflight⟩ := hallowed
    cases hold.symm.trans hold'
    exact (hbefore hseq hcall).handled hold hflight hview hhandles
  | unhandled handle ha old hold hview hseq hpushes hhandles =>
    subst ha
    rw [hpushes] at hcall
    obtain ⟨old', hold', hflight⟩ := hallowed
    cases hold.symm.trans hold'
    exact (hbefore hseq hcall).unhandled hold hflight hview hhandles

/-- Without publication nothing is pushed. -/
theorem KeepsNewest.enabled_change (hn : KeepsNewest eventPublicationEnabled w)
    (h : ReportChange eventPublicationEnabled w a x) (hdisabled : eventPublicationEnabled = false) :
    x.pushes = [] := by
  have hnone := hn.enabled hdisabled
  have hended : ∀ (push : Nat) (outcome : PushOutcome), w.endedPushes push outcome = [] := by
    intro push outcome
    unfold endedPushes
    rw [hnone]
    exact List.modify_nil ..
  cases h with
  | fresh hseq hpushes => rw [hpushes, hnone]
  | same hcalls => rw [hcalls.pushes, hnone]
  | unpublished _ hcalls => rw [hcalls.pushes, hnone]
  | input now steering ha s hstate hview hseq hpushes => rw [hpushes, hnone]
  | pushed v hv hview call htoken hsession hcursor houtcome henabled =>
    rw [hdisabled] at henabled
    cases henabled
  | late push eventId ha call hcall hlate hview hseq hpushes => rw [hpushes, hended]
  | taken push eventId ha call hcall s hstate hdelivered htaken hview hseq hpushes =>
    rw [hpushes, hended]
  | failed push ha call hcall hview hseq hpushes => rw [hpushes, hended]
  | handled handle ha call hcall hview hseq hpushes => rw [hpushes, hnone]
  | unhandled handle ha call hcall hview hseq hpushes => rw [hpushes, hnone]

/-! ### What a step reports -/

/-- The newest event is not lost in a run that keeps the slot. -/
theorem keepsNewest_of_run
    (hrun : Run (Guarded (Step text eventPublicationEnabled) KeepsSlot) initial as w) :
    w.Consistent ∧ Reporting text eventPublicationEnabled as w ∧
      KeepsNewest eventPublicationEnabled w := by
  have hkept := guarded_history text (I := fun as w => Reporting text eventPublicationEnabled as w ∧
    KeepsNewest eventPublicationEnabled w) ?_ ?_ hrun
  · exact ⟨hkept.2.1, hkept.2.2⟩
  · exact ⟨Reporting.nil, fun _ => rfl, by rintro _ _ _ ⟨⟩⟩
  · rintro as w a x texts hafter - hallowed hkeeps ⟨hi, hn⟩ hchange hnext
    refine ⟨(hi.change hafter hallowed hchange (by rw [hnext]; rfl)).retext texts, ?_, ?_⟩
    · intro hdisabled
      have hnone : x.pushes = [] := hn.enabled_change (report_change hchange) hdisabled
      exact hnone
    · intro push call eventId hcall hended hcurrent hnewest
      have hwaits : Waiting x push eventId := hn.newest_change hi hallowed hkeeps
        (report_change hchange) hcall hended hcurrent hnewest
      exact hwaits

/-- The answer of a push with input in the meantime is reported at once. -/
theorem Reporting.answered_of_change (hi : Reporting text eventPublicationEnabled as w)
    {push : Nat} {eventId : String} {call : PushCall} (hkeeps : KeepsSlot w (.pushResolves push eventId))
    (h : Change eventPublicationEnabled w (.pushResolves push eventId) x)
    (hcall : w.pushes[push]? = some call) (hcurrent : Current w call)
    (hgave : GaveInput text eventPublicationEnabled push as) (hnewest : ¬ Superseded w push) :
    Reports w x push eventId := by
  obtain ⟨v, hv, -, -, hiff⟩ := hi.current push call hcall hcurrent
  obtain ⟨s, hstate, rfl⟩ := Option.map_eq_some_iff.mp hv
  have htaken := (hkeeps s call hstate hcall hcurrent).1 hnewest
  have hdelivered := hi.stillDelivered_of_taken hcall hcurrent hstate htaken
  have hinput : call.observedUserInputCursor < s.inputCursor := hiff.mpr hgave
  cases h with
  | ignored a hignored => exact absurd hignored id
  | acknowledgedLate push eventId other hother hlate =>
    cases hcall.symm.trans hother
    have hle := (hlate s hstate hdelivered).1
    omega
  | acknowledgedAnswered push eventId other hother t ht =>
    exact ⟨_, rfl, rfl, rfl⟩
  | acknowledged push eventId other hother t ht hdelivered' hle =>
    cases hcall.symm.trans hother
    cases hstate.symm.trans ht
    omega

/-- An input reports the event that waits, unless a call for it is on its way. -/
theorem reports?_of_waiting {push : Nat} {eventId : String} {now : Int} (hnow : now ≠ 0)
    (hi : Reporting text eventPublicationEnabled as w) (hstate : w.state = some s)
    (hcurrent : ∃ call, w.pushes[push]? = some call ∧ Current w call)
    (hwaits : Waiting w push eventId)
    (hfailed : ∀ handle ∈ w.handles, handle.push = push → handle.outcome = .failed) :
    ∃ c, s.reports? now = some c ∧ c.push = push ∧ c.eventId = eventId := by
  rcases hwaits with ⟨handle, hhandle, hpush, houtcome⟩ | ⟨v, c, hv, hc, hpush, hid, hreported⟩
  · rw [hfailed handle hhandle hpush] at houtcome
    cases houtcome
  · have hview := view_of_state hstate
    cases hview.symm.trans hv
    have hnot : c.reported = false := by
      rw [Bool.eq_false_iff]
      intro h
      obtain ⟨handle, hhandle, hsame, hflight⟩ := hreported h
      rw [hfailed handle hhandle hsame] at hflight
      cases hflight
    obtain ⟨call, hcall, -, hobserved⟩ := hi.candidate _ c hview hc
    obtain ⟨other, hother, htoken⟩ := hcurrent
    rw [hpush, hother] at hcall
    cases hcall
    obtain ⟨u, hu, -, hle, -⟩ := hi.current push call hother htoken
    cases hview.symm.trans hu
    have hcursor : c.observedUserInputCursor < s.inputCursor + 1 := by
      rw [hobserved]
      exact Nat.lt_succ_of_le hle
    refine ⟨c, Option.filter_eq_some_iff.mpr ⟨hc, ?_⟩, hpush, hid⟩
    simp [hnot, hnow, hcursor]

/-- An event that was acknowledged is reported at the next input. -/
theorem Reporting.given_of_change (hi : Reporting text eventPublicationEnabled as w)
    (hn : KeepsNewest eventPublicationEnabled w) {now : Int} {steering : Bool} {push : Nat}
    {eventId : String} {call : PushCall} (hnow : now ≠ 0)
    (h : Change eventPublicationEnabled w (.input now steering) x)
    (hcall : w.pushes[push]? = some call) (hended : call.outcome = .acknowledged eventId)
    (hcurrent : Current w call) (hnewest : ¬ Superseded w push)
    (hfailed : ∀ handle ∈ w.handles, handle.push = push → handle.outcome = .failed) :
    Reports w x push eventId := by
  have hwaits := hn.newest push call eventId hcall hended hcurrent hnewest
  have hreports : ∀ {s : PiReducerState}, w.state = some s →
      ∃ c, s.reports? now = some c ∧ c.push = push ∧ c.eventId = eventId :=
    fun hstate => reports?_of_waiting hnow hi hstate ⟨call, hcall, hcurrent⟩ hwaits hfailed
  cases h with
  | ignored a hignored =>
    obtain ⟨v, hv, -⟩ := hi.current push call hcall hcurrent
    obtain ⟨s, hstate, -⟩ := Option.map_eq_some_iff.mp hv
    rw [show w.state = none from hignored] at hstate
    cases hstate
  | steering s hstate now =>
    obtain ⟨c, hc, hpush, hid⟩ := hreports hstate
    refine ⟨c.call (some now), ?_, hpush, hid⟩
    dsimp only
    rw [hc]
    rfl
  | typed s hstate now =>
    obtain ⟨c, hc, hpush, hid⟩ := hreports hstate
    refine ⟨c.call (some now), ?_, hpush, hid⟩
    dsimp only
    rw [hc]
    rfl

/-- In every run that keeps the slot, a step reports what it should. -/
theorem input_reported {w' : PiExtension}
    (hrun : Run (Guarded (Step text eventPublicationEnabled) KeepsSlot) initial as w)
    (hstep : Guarded (Step text eventPublicationEnabled) KeepsSlot w a w') :
    ReportsInput text eventPublicationEnabled as w a w' := by
  obtain ⟨hconsistent, hi, hn⟩ := keepsNewest_of_run hrun
  have hnext := Run.snoc (hrun.mono fun _ _ _ h => h.2) hstep.2
  obtain ⟨hkeeps, hallowed, hw'⟩ := hstep
  obtain ⟨x, hchange, heq⟩ := perform_does eventPublicationEnabled text hconsistent hallowed
  refine ⟨?_, ?_, fun handle hhandle => justified_of_run hnext hhandle⟩
  · rintro push eventId call rfl hcall hcurrent hgave hnewest
    obtain ⟨handle, hhandles, hrest⟩ :=
      hi.answered_of_change hkeeps hchange hcall hcurrent hgave hnewest
    exact ⟨handle, by rw [hw', heq]; exact hhandles, hrest⟩
  · rintro now steering push call eventId rfl hcall hended hcurrent hnewest hfailed
    obtain ⟨handle, hhandles, hrest⟩ :=
      hi.given_of_change hn hkeeps hchange hcall hended hcurrent hnewest hfailed
    exact ⟨handle, by rw [hw', heq]; exact hhandles, hrest⟩

/-! ### Runs -/

/-- A run that settles and is pushed. -/
def pushedActions : List PiAction :=
  [.sessionStart (sampleContext 0), .agentStart (sampleContext 0),
    .agentEnd (sampleContext 0) [⟨"assistant", some "stop", [], none, none⟩],
    .agentSettled (sampleContext 0) "2026-01-01T00:00:00.000Z", .timerFires 2 false]

/-- An action that is neither input nor the answer of a push. -/
def isSilent : PiAction → Bool
  | .pushResolves _ _ => false
  | .input _ _ => false
  | _ => true

theorem keepsSlot_of_isSilent (h : isSilent a = true) : KeepsSlot w a := by
  cases a with
  | pushResolves push eventId => cases h
  | input now steering => cases h
  | _ => exact trivial

set_option maxRecDepth 20000 in
/-- The answer of the push keeps the slot when nothing has happened in the meantime. -/
theorem keepsSlot_pushed :
    KeepsSlot (pushedActions.foldl (perform plainText true) initial) (.pushResolves 0 "event") := by
  intro s call hstate hcall _
  have htaken : ∀ s ∈ (pushedActions.foldl (perform plainText true) initial).state,
      ∀ call ∈ (pushedActions.foldl (perform plainText true) initial).pushes[0]?,
        s.activeLeafId = call.deliveredLeafId ∧ stillPending s call = true := by decide +kernel
  obtain ⟨hleaf, hpending⟩ := htaken s hstate call hcall
  refine ⟨fun _ => ⟨hleaf, Or.inr hpending⟩, ?_⟩
  rintro - ⟨newer, other, eventId, hlt, hother, -⟩
  have hone : (pushedActions.foldl (perform plainText true) initial).pushes.length = 1 := by
    decide +kernel
  have hlength := (List.getElem?_eq_some_iff.mp hother).1
  omega

/-- The push is acknowledged. -/
def acknowledgedActions : List PiAction := pushedActions ++ [.pushResolves 0 "event"]

set_option maxRecDepth 20000 in
/-- An event that is acknowledged, and the input that reports it. -/
theorem input_reported_acknowledged :
    ReportsInput plainText true acknowledgedActions
      (acknowledgedActions.foldl (perform plainText true) initial) (.input 1 false)
      ((acknowledgedActions.foldl (perform plainText true) initial).perform plainText true
        (.input 1 false)) := by
  have hsilent : AllAllowed (fun w a => w.Allowed a ∧ isSilent a = true) (perform plainText true)
      initial pushedActions := by decide +kernel
  have hrun : Run (Guarded (Step plainText true) KeepsSlot) initial pushedActions
      (pushedActions.foldl (perform plainText true) initial) :=
    Run.of_allAllowed (fun s a ha => ⟨keepsSlot_of_isSilent ha.2, ha.1, rfl⟩) hsilent
  refine input_reported (hrun.snoc ⟨keepsSlot_pushed, by decide +kernel, ?_⟩)
    ⟨show (1 : Int) ≠ 0 by decide, trivial, rfl⟩
  unfold acknowledgedActions
  rw [List.foldl_append]
  rfl

/-- The user gives input during the push, and the run that it starts has another leaf. -/
def movedOnActions : List PiAction :=
  pushedActions ++ [.input 1 false, .agentStart { sampleContext 0 with activeLeafId := some "next" }]

set_option maxRecDepth 20000 in
/-- The answer of the push comes after the next run has started, and the event is not reported. -/
theorem not_inputMarksHandled : ¬ InputMarksHandled := by
  intro h
  have hallowed : AllAllowed Allowed (perform plainText true) initial movedOnActions := by
    decide +kernel
  have hrun : Run (Step plainText true) initial movedOnActions
      (movedOnActions.foldl (perform plainText true) initial) :=
    Run.of_allAllowed (fun s a ha => ⟨ha, rfl⟩) hallowed
  have hreports := h plainText true movedOnActions _ hrun (.pushResolves 0 "event") _
    ⟨by decide +kernel, rfl⟩
  have hone : (movedOnActions.foldl (perform plainText true) initial).pushes.map
      (fun call => (call.deliveryToken, call.outcome)) = [(1, .inFlight)] := by decide +kernel
  obtain ⟨call, hcalls, hcall⟩ := List.map_eq_singleton_iff.mp hone
  have hgave : GaveInput plainText true 0 movedOnActions := by
    refine ⟨pushedActions, _, _, rfl, ⟨⟨1, false, rfl⟩, ?_⟩, fun _ _ _ _ => trivial⟩
    decide +kernel
  have hcurrent : Current (movedOnActions.foldl (perform plainText true) initial) call := by
    refine (congrArg Prod.fst hcall).trans ?_
    decide +kernel
  have hnewest : ¬ Superseded (movedOnActions.foldl (perform plainText true) initial) 0 := by
    rintro ⟨newer, other, eventId, hlt, hother, -⟩
    rw [hcalls, List.getElem?_singleton, if_neg (by omega)] at hother
    cases hother
  obtain ⟨handle, hhandles, -⟩ := hreports.answered 0 "event" call rfl (by rw [hcalls]; rfl)
    hcurrent hgave hnewest
  have hnone : ((movedOnActions.foldl (perform plainText true) initial).perform plainText true
      (.pushResolves 0 "event")).handles = [] := by decide +kernel
  rw [hnone] at hhandles
  exact absurd hhandles (by simp)

end Ariava.Proofs.HandledReports
