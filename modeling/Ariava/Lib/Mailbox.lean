import Ariava.Lib.Run
import Mathlib.Data.List.Count
import Mathlib.Logic.Function.Basic

/-!
# `Ariava.Lib.Mailbox`: mailboxes with an exclusive owner

Messages are sent to addresses. The owner of an address, known by its lease, takes them with
polls: a poll takes the oldest queued message, or is parked until one arrives. A taken
message is in flight until its result is accepted. A message is bound to its address from
the moment it is sent until its result is accepted, it is abandoned, or the owner is lost.

`MailStep` has one constructor for each thing that can happen. It is deliberately weak: a
result is accepted for any bound message, an abandoned message stays in its queue, and the
parked polls survive their owner. What holds in every run is `Conserved`. The rest holds in
the runs whose steps meet a guard, and there is one guard for each property:

- `ParkedCurrent`, under `QuietLoss`: every parked poll is the current owner's.
- `AbandonedGone`, under `AbandonsBound`: an abandoned message is gone.
- `BoundCurrent` and `AcceptedOnce`, under `AcceptsBound`: a result is accepted after the
  delivery to the current owner, once, and its message is gone then.

Addresses, message ids, leases, messages, polls and results are parameters.
-/

set_option autoImplicit false
set_option linter.unusedSectionVars false

namespace Ariava.Lib

/-- How messages, polls and results name things. -/
structure MailScheme (κ ι l μ π ρ : Type) where
  idOf : μ → ι
  address : μ → κ
  recipient : π → κ
  lease : π → l
  resultId : ρ → ι

/-- What has happened to messages. -/
inductive MailEntry (ι μ π ρ : Type)
  | enqueued (message : μ)
  | delivered (poll : π) (message : μ)
  | accepted (id : ι) (result : ρ)
  | abandoned (id : ι)
  | answered (id : ι) (result : ρ)

/-- The state of all mailboxes, with the log of what happened, newest first. -/
@[ext]
structure Mailbox (κ ι l μ π ρ : Type) where
  owner : κ → Option l
  queue : κ → List μ
  parked : κ → List π
  inFlight : κ → ι → Prop
  bound : ι → Option κ
  results : ι → Option ρ
  log : List (MailEntry ι μ π ρ)

/-- The events of the mailboxes. -/
inductive MailEvent (κ ι l μ π ρ : Type)
  | grant (address : κ) (lease : l)
  | lose (address : κ)
  | park (poll : π)
  | unpark
  | enqueue (message : μ)
  | handOver (poll : π) (message : μ)
  | accept (id : ι) (result : ρ)
  | abandon (id : ι)
  | answer (id : ι) (result : ρ)
  | clear

namespace Mailbox

variable {κ ι l μ π ρ : Type} [DecidableEq κ]

/-- Replace the queue of an address. -/
def setQueue (m : Mailbox κ ι l μ π ρ) (k : κ) (messages : List μ) : Mailbox κ ι l μ π ρ :=
  { m with queue := Function.update m.queue k messages }

/-- The queue of an address after one queue was replaced. -/
theorem setQueue_queue (m : Mailbox κ ι l μ π ρ) (k k' : κ) (messages : List μ) :
    (m.setQueue k messages).queue k' = if k' = k then messages else m.queue k' := by
  simp [setQueue, Function.update_apply]

/-- Replace the parked polls of an address. -/
def setParked (m : Mailbox κ ι l μ π ρ) (k : κ) (polls : List π) : Mailbox κ ι l μ π ρ :=
  { m with parked := Function.update m.parked k polls }

variable [DecidableEq ι]

/-- Bind a message to an address. -/
def bindTo (m : Mailbox κ ι l μ π ρ) (i : ι) (k : κ) : Mailbox κ ι l μ π ρ :=
  { m with bound := Function.update m.bound i (some k) }

/-- Unbind a message. -/
def unbind (m : Mailbox κ ι l μ π ρ) (i : ι) : Mailbox κ ι l μ π ρ :=
  { m with bound := Function.update m.bound i none }

/-- Unbind every message of a list. -/
def unbindAll (m : Mailbox κ ι l μ π ρ) (is : List ι) : Mailbox κ ι l μ π ρ :=
  { m with bound := fun i => if i ∈ is then none else m.bound i }

/-- Unbinding a list is unbinding its head and then the rest. -/
theorem unbindAll_cons (m : Mailbox κ ι l μ π ρ) (i : ι) (is : List ι) :
    (m.unbind i).unbindAll is = m.unbindAll (i :: is) := by
  refine Mailbox.ext rfl rfl rfl rfl (funext fun j => ?_) rfl rfl
  show (if j ∈ is then none else Function.update m.bound i none j) = _
  rw [Function.update_apply]
  by_cases his : j ∈ is
  · simp [unbindAll, his]
  · by_cases hj : j = i <;> simp [unbindAll, his, hj]

/-- A message is in flight at an address. -/
def takeOff (m : Mailbox κ ι l μ π ρ) (k : κ) (i : ι) : Mailbox κ ι l μ π ρ :=
  { m with inFlight := fun k' i' => m.inFlight k' i' ∨ (k' = k ∧ i' = i) }

/-- A message is no longer in flight at an address. -/
def land (m : Mailbox κ ι l μ π ρ) (k : κ) (i : ι) : Mailbox κ ι l μ π ρ :=
  { m with inFlight := fun k' i' => m.inFlight k' i' ∧ ¬ (k' = k ∧ i' = i) }

/-- Add entries to the log. -/
def note (m : Mailbox κ ι l μ π ρ) (entries : List (MailEntry ι μ π ρ)) :
    Mailbox κ ι l μ π ρ :=
  { m with log := entries ++ m.log }

/-- Replace the result of a message. -/
def setResult (m : Mailbox κ ι l μ π ρ) (i : ι) (result : Option ρ) : Mailbox κ ι l μ π ρ :=
  { m with results := Function.update m.results i result }

/-- The owner of an address is lost, with what is queued, in flight and bound there. -/
def dropOwner (m : Mailbox κ ι l μ π ρ) (k : κ) : Mailbox κ ι l μ π ρ :=
  { m with
      owner := Function.update m.owner k none
      queue := Function.update m.queue k []
      inFlight := fun k' i => k' ≠ k ∧ m.inFlight k' i
      bound := fun i => (m.bound i).filter fun k' => decide (k' ≠ k) }

/-- A message is sent to its address. -/
def send (scheme : MailScheme κ ι l μ π ρ) (m : Mailbox κ ι l μ π ρ) (x : μ) :
    Mailbox κ ι l μ π ρ :=
  (m.bindTo (scheme.idOf x) (scheme.address x)).note [.enqueued x]

/-- A message is delivered to a poll. -/
def deliver (scheme : MailScheme κ ι l μ π ρ) (m : Mailbox κ ι l μ π ρ) (p : π) (x : μ) :
    Mailbox κ ι l μ π ρ :=
  ((m.bindTo (scheme.idOf x) (scheme.address x)).takeOff (scheme.address x)
    (scheme.idOf x)).note [.delivered p x]

/-- The messages that were sent. -/
def sent (m : Mailbox κ ι l μ π ρ) : List μ :=
  m.log.filterMap fun
    | .enqueued x => some x
    | _ => none

/-- The deliveries, with the poll of each. -/
def deliveries (m : Mailbox κ ι l μ π ρ) : List (π × μ) :=
  m.log.filterMap fun
    | .delivered p x => some (p, x)
    | _ => none

/-- The messages that were delivered. -/
def delivered (m : Mailbox κ ι l μ π ρ) : List μ := m.deliveries.map Prod.snd

/-- The accepted results. -/
def acceptances (m : Mailbox κ ι l μ π ρ) : List (ι × ρ) :=
  m.log.filterMap fun
    | .accepted i r => some (i, r)
    | _ => none

/-- The abandoned messages. -/
def abandonments (m : Mailbox κ ι l μ π ρ) : List ι :=
  m.log.filterMap fun
    | .abandoned i => some i
    | _ => none

/-- The results that were given to waiters. -/
def answers (m : Mailbox κ ι l μ π ρ) : List (ι × ρ) :=
  m.log.filterMap fun
    | .answered i r => some (i, r)
    | _ => none

/-- A result is accepted, and the waiters of its message get it. -/
def acceptResult (m : Mailbox κ ι l μ π ρ) (k : κ) (i : ι) (r : ρ) (waiters : List Unit) :
    Mailbox κ ι l μ π ρ :=
  (((m.setResult i (some r)).land k i).unbind i).note
    (waiters.map (fun _ => .answered i r) ++ [.accepted i r])

section
variable (m : Mailbox κ ι l μ π ρ) (k : κ) (i : ι) (r : ρ) (waiters : List Unit)

@[simp] theorem sent_acceptResult : (m.acceptResult k i r waiters).sent = m.sent := by
  simp [acceptResult, note, sent, setResult, land, unbind]

@[simp] theorem deliveries_acceptResult :
    (m.acceptResult k i r waiters).deliveries = m.deliveries := by
  simp [acceptResult, note, deliveries, setResult, land, unbind]

@[simp] theorem delivered_acceptResult :
    (m.acceptResult k i r waiters).delivered = m.delivered := by
  rw [delivered, deliveries_acceptResult]
  rfl

@[simp] theorem abandonments_acceptResult :
    (m.acceptResult k i r waiters).abandonments = m.abandonments := by
  simp [acceptResult, note, abandonments, setResult, land, unbind]

@[simp] theorem acceptances_acceptResult :
    (m.acceptResult k i r waiters).acceptances = (i, r) :: m.acceptances := by
  simp [acceptResult, note, acceptances, setResult, land, unbind]

theorem bound_acceptResult (i' : ι) :
    (m.acceptResult k i r waiters).bound i' = if i' = i then none else m.bound i' := by
  simp [acceptResult, note, unbind, land, setResult, Function.update_apply]

end

end Mailbox

open Mailbox

section
variable {κ ι l μ π ρ : Type} [DecidableEq κ] [DecidableEq ι]
  (scheme : MailScheme κ ι l μ π ρ)

/-- The steps of the mailboxes. -/
inductive MailStep : Mailbox κ ι l μ π ρ → MailEvent κ ι l μ π ρ → Mailbox κ ι l μ π ρ → Prop
  | grant {m : Mailbox κ ι l μ π ρ} {k : κ} {a : l} (hfree : m.owner k = none) :
      MailStep m (.grant k a) { m with owner := Function.update m.owner k (some a) }
  | lose {m : Mailbox κ ι l μ π ρ} {k : κ} : MailStep m (.lose k) (m.dropOwner k)
  | park {m : Mailbox κ ι l μ π ρ} {p : π}
      (howner : m.owner (scheme.recipient p) = some (scheme.lease p)) :
      MailStep m (.park p)
        (m.setParked (scheme.recipient p) (m.parked (scheme.recipient p) ++ [p]))
  | unpark {m : Mailbox κ ι l μ π ρ} {parked : κ → List π}
      (hsub : ∀ k, ∀ p ∈ parked k, p ∈ m.parked k) : MailStep m .unpark { m with parked := parked }
  | enqueue {m : Mailbox κ ι l μ π ρ} {x : μ} (howner : m.owner (scheme.address x) ≠ none) :
      MailStep m (.enqueue x)
        ((m.send scheme x).setQueue (scheme.address x) (m.queue (scheme.address x) ++ [x]))
  | enqueueParked {m : Mailbox κ ι l μ π ρ} {p : π} {x : μ} {rest left : List π}
      (howner : m.owner (scheme.address x) ≠ none)
      (hparked : m.parked (scheme.address x) = p :: rest) (hleft : left ⊆ rest) :
      MailStep m (.enqueue x)
        (((m.send scheme x).setParked (scheme.address x) left).deliver scheme p x)
  | handOver {m : Mailbox κ ι l μ π ρ} {p : π} {x : μ} {rest : List μ}
      (howner : m.owner (scheme.recipient p) = some (scheme.lease p))
      (hqueue : m.queue (scheme.recipient p) = x :: rest) :
      MailStep m (.handOver p x) ((m.setQueue (scheme.recipient p) rest).deliver scheme p x)
  | accept {m : Mailbox κ ι l μ π ρ} {i : ι} {r : ρ} {k : κ} {waiters : List Unit}
      (hbound : m.bound i = some k) (hid : scheme.resultId r = i) :
      MailStep m (.accept i r) (m.acceptResult k i r waiters)
  | abandon {m m' : Mailbox κ ι l μ π ρ} {i : ι} {k : κ} (hbound : m.bound i = some k)
      (hm' : m' = (m.setResult i none).land k i ∨ m' = ((m.setResult i none).land k i).unbind i) :
      MailStep m (.abandon i) (m'.note [.abandoned i])
  | abandonUnbound {m : Mailbox κ ι l μ π ρ} {i : ι} (hbound : m.bound i = none) :
      MailStep m (.abandon i) (m.note [.abandoned i])
  | answer {m : Mailbox κ ι l μ π ρ} {i : ι} {r : ρ} (hresult : m.results i = some r) :
      MailStep m (.answer i r) (m.note [.answered i r])
  | clear {m : Mailbox κ ι l μ π ρ} :
      MailStep m .clear { m with
        queue := fun _ => []
        parked := fun _ => []
        inFlight := fun _ _ => False
        bound := fun _ => none
        results := fun _ => none }

/-! ### The guards -/

/-- An owner is lost only while no poll is parked at its address. -/
def QuietLoss (m : Mailbox κ ι l μ π ρ) : MailEvent κ ι l μ π ρ → Prop
  | .lose k => m.parked k = []
  | _ => True

/-- No queue holds the message. -/
def Unqueued (m : Mailbox κ ι l μ π ρ) (i : ι) : Prop :=
  ∀ k, ∀ x ∈ m.queue k, scheme.idOf x ≠ i

/-- No queue holds the message, and it is in flight at no address but the one that it is bound
to. -/
structure OnlyBound (m : Mailbox κ ι l μ π ρ) (i : ι) : Prop where
  unqueued : Unqueued scheme m i
  inFlight : ∀ k, m.inFlight k i → m.bound i = some k

/-- A message is abandoned only where its binding says all about it, and no message of its id
is sent again. -/
def AbandonsBound (m : Mailbox κ ι l μ π ρ) : MailEvent κ ι l μ π ρ → Prop
  | .abandon i => OnlyBound scheme m i
  | .enqueue x => scheme.idOf x ∉ m.abandonments
  | _ => True

/-- A result is accepted only where the binding of its message says all about it, no message
of its id is sent again, and a message is sent to a parked poll only when the poll is the
current owner's. -/
def AcceptsBound (m : Mailbox κ ι l μ π ρ) : MailEvent κ ι l μ π ρ → Prop
  | .accept i _ => OnlyBound scheme m i
  | .enqueue x => (∀ r, (scheme.idOf x, r) ∉ m.acceptances) ∧
      ∀ p rest, m.parked (scheme.address x) = p :: rest →
        m.owner (scheme.address x) = some (scheme.lease p)
  | _ => True

/-! ### Conservation -/

/-- Queued messages and parked polls are at their own addresses. -/
structure Addressed (m : Mailbox κ ι l μ π ρ) : Prop where
  queue : ∀ k, ∀ x ∈ m.queue k, scheme.address x = k
  parked : ∀ k, ∀ p ∈ m.parked k, scheme.recipient p = k

/-- Messages and polls are at their own addresses, and each message is delivered and queued at
most as often as it was sent. -/
structure Conserved [DecidableEq μ] (m : Mailbox κ ι l μ π ρ) : Prop extends
    Addressed scheme m where
  count : ∀ x, m.delivered.count x + (m.queue (scheme.address x)).count x ≤ m.sent.count x

variable {scheme} {m m' : Mailbox κ ι l μ π ρ} {e : MailEvent κ ι l μ π ρ}

/-- The parked polls after one list was replaced are old ones, or in the new list. -/
theorem mem_update_cases {α : Type} {f : κ → List α} {k k' : κ} {xs : List α} {x : α}
    (hx : x ∈ Function.update f k xs k') : (k' = k ∧ x ∈ xs) ∨ (k' ≠ k ∧ x ∈ f k') := by
  rw [Function.update_apply] at hx
  by_cases hk : k' = k
  · rw [if_pos hk] at hx
    exact Or.inl ⟨hk, hx⟩
  · rw [if_neg hk] at hx
    exact Or.inr ⟨hk, hx⟩

/-- Every step keeps messages and polls at their own addresses. -/
theorem Addressed.step (hinv : Addressed scheme m) (hstep : MailStep scheme m e m') :
    Addressed scheme m' := by
  cases hstep with
  | grant => exact ⟨hinv.queue, hinv.parked⟩
  | lose =>
    refine ⟨fun k' x hx => ?_, hinv.parked⟩
    rcases mem_update_cases hx with ⟨-, hnone⟩ | ⟨-, hold⟩
    · exact absurd hnone (by simp)
    · exact hinv.queue k' x hold
  | @park q =>
    refine ⟨hinv.queue, fun k' p hp => ?_⟩
    rcases mem_update_cases hp with ⟨rfl, hnew⟩ | ⟨-, hold⟩
    · rcases List.mem_append.mp hnew with hold | hself
      · exact hinv.parked _ p hold
      · rw [List.mem_singleton.mp hself]
    · exact hinv.parked k' p hold
  | unpark hsub => exact ⟨hinv.queue, fun k p hp => hinv.parked k p (hsub k p hp)⟩
  | @enqueue x =>
    refine ⟨fun k' y hy => ?_, hinv.parked⟩
    rcases mem_update_cases hy with ⟨rfl, hnew⟩ | ⟨-, hold⟩
    · rcases List.mem_append.mp hnew with hold | hself
      · exact hinv.queue _ y hold
      · rw [List.mem_singleton.mp hself]
    · exact hinv.queue k' y hold
  | @enqueueParked p x rest left howner hparked hleft =>
    refine ⟨hinv.queue, fun k' q hq => ?_⟩
    rcases mem_update_cases hq with ⟨rfl, hnew⟩ | ⟨-, hold⟩
    · refine hinv.parked _ q ?_
      rw [hparked]
      exact List.mem_cons_of_mem p (hleft hnew)
    · exact hinv.parked k' q hold
  | @handOver p x rest howner hqueue =>
    refine ⟨fun k' y hy => ?_, hinv.parked⟩
    rcases mem_update_cases hy with ⟨rfl, hnew⟩ | ⟨-, hold⟩
    · refine hinv.queue _ y ?_
      rw [hqueue]
      exact List.mem_cons_of_mem x hnew
    · exact hinv.queue k' y hold
  | accept => exact ⟨hinv.queue, hinv.parked⟩
  | @abandon _ i k hbound hm' => rcases hm' with rfl | rfl <;> exact ⟨hinv.queue, hinv.parked⟩
  | abandonUnbound => exact ⟨hinv.queue, hinv.parked⟩
  | answer => exact ⟨hinv.queue, hinv.parked⟩
  | clear => exact ⟨fun _ _ h => absurd h (by simp), fun _ _ h => absurd h (by simp)⟩

/-- Every step conserves messages. -/
theorem Conserved.step [DecidableEq μ] (hinv : Conserved scheme m) (hstep : MailStep scheme m e m') :
    Conserved scheme m' := by
  refine ⟨hinv.toAddressed.step hstep, ?_⟩
  cases hstep with
  | grant => exact hinv.count
  | park => exact hinv.count
  | unpark => exact hinv.count
  | @lose k =>
    intro x
    have hcount := hinv.count x
    have hle : ((m.dropOwner k).queue (scheme.address x)).count x
        ≤ (m.queue (scheme.address x)).count x := by
      by_cases hk : scheme.address x = k <;> simp [dropOwner, hk]
    exact Nat.le_trans (Nat.add_le_add_left hle _) hcount
  | @enqueue x =>
    intro y
    have hcount := hinv.count y
    rw [setQueue_queue]
    show m.delivered.count y + _ ≤ (x :: m.sent).count y
    by_cases hxy : x = y
    · subst hxy
      simp only [if_true, List.count_append, List.count_cons_self, List.count_nil]
      omega
    · rw [List.count_cons_of_ne hxy]
      by_cases hk : scheme.address y = scheme.address x
      · rw [if_pos hk, List.count_append, List.count_cons_of_ne hxy, ← hk]
        exact hcount
      · rw [if_neg hk]
        exact hcount
  | @enqueueParked p x rest =>
    intro y
    have hcount := hinv.count y
    show (x :: m.delivered).count y + (m.queue (scheme.address y)).count y ≤ (x :: m.sent).count y
    rw [List.count_cons, List.count_cons]
    omega
  | @handOver p x rest howner hqueue =>
    intro y
    have hcount := hinv.count y
    show (x :: m.delivered).count y
      + ((m.setQueue (scheme.recipient p) rest).queue (scheme.address y)).count y
        ≤ m.sent.count y
    rw [setQueue_queue, List.count_cons]
    by_cases hk : scheme.address y = scheme.recipient p
    · rw [hk, hqueue, List.count_cons] at hcount
      rw [if_pos hk]
      omega
    · have hxy : x ≠ y := by
        rintro rfl
        exact hk (hinv.queue _ x (by rw [hqueue]; exact List.mem_cons_self ..))
      rw [if_neg hk]
      simpa [hxy] using hcount
  | accept =>
    intro y
    rw [delivered_acceptResult, sent_acceptResult]
    exact hinv.count y
  | @abandon _ i k hbound hm' => rcases hm' with rfl | rfl <;> exact hinv.count
  | abandonUnbound => exact hinv.count
  | answer => exact hinv.count
  | clear => exact fun x => Nat.le_trans (Nat.add_le_add_left (by simp) _) (hinv.count x)

/-- Granting an address notes nothing. -/
theorem MailStep.grant_log {k : κ} {a : l} (hstep : MailStep scheme m (.grant k a) m') :
    m'.log = m.log := by
  cases hstep
  rfl

/-- Losing an owner notes nothing. -/
theorem MailStep.lose_log {k : κ} (hstep : MailStep scheme m (.lose k) m') :
    m'.log = m.log := by
  cases hstep
  rfl

/-! ### Parked polls -/

/-- Every parked poll was issued under the current lease. -/
def ParkedCurrent (scheme : MailScheme κ ι l μ π ρ) (m : Mailbox κ ι l μ π ρ) : Prop :=
  ∀ k, ∀ p ∈ m.parked k, m.owner k = some (scheme.lease p)

/-- A step keeps every parked poll the current owner's, when no owner with parked polls is
lost. -/
theorem ParkedCurrent.step (hinv : ParkedCurrent scheme m) (hguard : QuietLoss m e)
    (hstep : MailStep scheme m e m') : ParkedCurrent scheme m' := by
  cases hstep with
  | @grant k a hfree =>
    intro k' p hp
    have howner := hinv k' p hp
    have hk : k' ≠ k := by
      rintro rfl
      rw [hfree] at howner
      exact absurd howner (by simp)
    simpa [hk] using howner
  | @lose k =>
    intro k' p hp
    have hk : k' ≠ k := by
      rintro rfl
      change m.parked k' = [] at hguard
      change p ∈ m.parked k' at hp
      rw [hguard] at hp
      exact absurd hp (by simp)
    simpa [dropOwner, hk] using hinv k' p hp
  | @park q howner =>
    intro k' p hp
    rcases mem_update_cases hp with ⟨rfl, hnew⟩ | ⟨-, hold⟩
    · rcases List.mem_append.mp hnew with hold | hself
      · exact hinv _ p hold
      · rw [List.mem_singleton.mp hself]
        exact howner
    · exact hinv k' p hold
  | unpark hsub => exact fun k' p hp => hinv k' p (hsub k' p hp)
  | enqueue => exact hinv
  | @enqueueParked q x rest left howner hparked hleft =>
    intro k' p hp
    rcases mem_update_cases hp with ⟨rfl, hnew⟩ | ⟨-, hold⟩
    · refine hinv _ p ?_
      rw [hparked]
      exact List.mem_cons_of_mem q (hleft hnew)
    · exact hinv k' p hold
  | handOver => exact hinv
  | accept => exact hinv
  | @abandon _ i k hbound hm' => rcases hm' with rfl | rfl <;> exact hinv
  | abandonUnbound => exact hinv
  | answer => exact hinv
  | clear => exact fun k' p hp => absurd hp (by simp)

/-- What a step delivers, it delivers to a poll of the current owner of the message's
address. -/
theorem ParkedCurrent.delivers (hinv : ParkedCurrent scheme m)
    (haddressed : Addressed scheme m) (hstep : MailStep scheme m e m') {p : π} {x : μ}
    (hnew : m'.deliveries = (p, x) :: m.deliveries) :
    scheme.recipient p = scheme.address x ∧ m.owner (scheme.address x) = some (scheme.lease p) := by
  have hlength := congrArg List.length hnew
  cases hstep with
  | @enqueueParked q y rest left howner hparked hleft =>
    change (q, y) :: m.deliveries = _ at hnew
    rw [List.cons.injEq, Prod.mk.injEq] at hnew
    obtain ⟨⟨rfl, rfl⟩, -⟩ := hnew
    have hq : q ∈ m.parked (scheme.address y) := by
      rw [hparked]
      exact List.mem_cons_self ..
    exact ⟨haddressed.parked _ q hq, hinv _ q hq⟩
  | @handOver q y rest howner hqueue =>
    change (q, y) :: m.deliveries = _ at hnew
    rw [List.cons.injEq, Prod.mk.injEq] at hnew
    obtain ⟨⟨rfl, rfl⟩, -⟩ := hnew
    have hy := haddressed.queue _ y (by rw [hqueue]; exact List.mem_cons_self ..)
    exact ⟨hy.symm, hy ▸ howner⟩
  | accept => simp at hlength
  | @abandon _ i k hbound hm' =>
    rcases hm' with rfl | rfl <;>
      simp [note, deliveries, setResult, land, unbind] at hlength
  | _ =>
    simp [deliveries, dropOwner, setParked, setQueue, send, bindTo, note] at hlength

/-! ### Messages that are gone -/

/-- The message is in no queue and not in flight. -/
structure Gone (scheme : MailScheme κ ι l μ π ρ) (m : Mailbox κ ι l μ π ρ) (i : ι) : Prop where
  unqueued : Unqueued scheme m i
  landed : ∀ k, ¬ m.inFlight k i

/-- A message that is gone stays gone, unless one of its id is sent. -/
theorem Gone.step {i : ι} (hgone : Gone scheme m i) (hstep : MailStep scheme m e m')
    (hsend : ∀ x, e = .enqueue x → scheme.idOf x ≠ i) : Gone scheme m' i := by
  cases hstep with
  | grant => exact ⟨hgone.unqueued, hgone.landed⟩
  | park => exact ⟨hgone.unqueued, hgone.landed⟩
  | unpark => exact ⟨hgone.unqueued, hgone.landed⟩
  | @lose k =>
    refine ⟨fun k' x hx => ?_, fun k' h => hgone.landed k' h.2⟩
    by_cases hk : k' = k
    · simp [dropOwner, hk] at hx
    · exact hgone.unqueued k' x (by simpa [dropOwner, hk] using hx)
  | @enqueue x =>
    refine ⟨fun k' y hy => ?_, hgone.landed⟩
    rw [setQueue_queue] at hy
    by_cases hk : k' = scheme.address x
    · rw [if_pos hk, List.mem_append, List.mem_singleton] at hy
      rcases hy with hy | rfl
      · exact hgone.unqueued _ y hy
      · exact hsend y rfl
    · rw [if_neg hk] at hy
      exact hgone.unqueued k' y hy
  | @enqueueParked p x rest =>
    refine ⟨hgone.unqueued, fun k' h => ?_⟩
    rcases h with h | ⟨-, hi⟩
    · exact hgone.landed k' h
    · exact hsend x rfl hi.symm
  | @handOver p x rest howner hqueue =>
    have hx : x ∈ m.queue (scheme.recipient p) := by
      rw [hqueue]
      exact List.mem_cons_self ..
    refine ⟨fun k' y hy => ?_, fun k' h => ?_⟩
    · change y ∈ (m.setQueue (scheme.recipient p) rest).queue k' at hy
      rw [setQueue_queue] at hy
      by_cases hk : k' = scheme.recipient p
      · rw [if_pos hk] at hy
        exact hgone.unqueued _ y (by rw [hqueue]; exact List.mem_cons_of_mem x hy)
      · rw [if_neg hk] at hy
        exact hgone.unqueued k' y hy
    · rcases h with h | ⟨-, hi⟩
      · exact hgone.landed k' h
      · exact hgone.unqueued _ x hx hi.symm
  | accept => exact ⟨hgone.unqueued, fun k' h => hgone.landed k' h.1⟩
  | @abandon _ i' k hbound hm' =>
    rcases hm' with rfl | rfl <;> exact ⟨hgone.unqueued, fun k' h => hgone.landed k' h.1⟩
  | abandonUnbound => exact ⟨hgone.unqueued, hgone.landed⟩
  | answer => exact ⟨hgone.unqueued, hgone.landed⟩
  | clear => exact ⟨fun _ _ h => absurd h (by simp), fun _ h => h⟩

/-- A message that is landed at its bound address is gone, when its binding says all about
it. -/
theorem OnlyBound.gone {i : ι} {k : κ} (honly : OnlyBound scheme m i) (hbound : m.bound i = some k)
    (hqueue : m'.queue = m.queue)
    (hflight : ∀ k', m'.inFlight k' i → m.inFlight k' i ∧ ¬ (k' = k ∧ i = i)) :
    Gone scheme m' i := by
  refine ⟨fun k' x hx => honly.unqueued k' x (hqueue ▸ hx), fun k' h => ?_⟩
  obtain ⟨hold, hother⟩ := hflight k' h
  have hk := honly.inFlight k' hold
  rw [hbound, Option.some.injEq] at hk
  exact hother ⟨hk.symm, rfl⟩

/-- What a step delivers: the message that is being sent, or the head of a queue. -/
theorem MailStep.deliveries_cases (hstep : MailStep scheme m e m') :
    m'.deliveries = m.deliveries ∨ ∃ p x, m'.deliveries = (p, x) :: m.deliveries ∧
      (e = .enqueue x ∨ (e = .handOver p x ∧ x ∈ m.queue (scheme.recipient p))) := by
  cases hstep with
  | @enqueueParked p x rest => exact Or.inr ⟨p, x, rfl, Or.inl rfl⟩
  | @handOver p x rest howner hqueue =>
    exact Or.inr ⟨p, x, rfl, Or.inr ⟨rfl, by rw [hqueue]; exact List.mem_cons_self ..⟩⟩
  | accept => exact Or.inl (deliveries_acceptResult ..)
  | @abandon _ i k hbound hm' => rcases hm' with rfl | rfl <;> exact Or.inl rfl
  | _ => exact Or.inl rfl

/-- A step delivers no message that is gone, unless one of its id is sent. -/
theorem Gone.not_delivered {i : ι} (hgone : Gone scheme m i) (hstep : MailStep scheme m e m')
    (hsend : ∀ x, e = .enqueue x → scheme.idOf x ≠ i) {p : π} {x : μ}
    (hnew : m'.deliveries = (p, x) :: m.deliveries) : scheme.idOf x ≠ i := by
  rcases hstep.deliveries_cases with hsame | ⟨q, y, hq, hy⟩
  · exact absurd (congrArg List.length (hsame.symm.trans hnew)) (by simp)
  · obtain ⟨⟨rfl, rfl⟩, -⟩ : (q = p ∧ y = x) ∧ True := by
      have hhead := (List.cons.inj (hq.symm.trans hnew)).1
      exact ⟨Prod.mk.inj hhead, trivial⟩
    rcases hy with he | ⟨-, hqueued⟩
    · exact hsend y he
    · exact hgone.unqueued _ y hqueued

/-! ### Abandoned messages -/

/-- Every abandoned message is gone. -/
def AbandonedGone (scheme : MailScheme κ ι l μ π ρ) (m : Mailbox κ ι l μ π ρ) : Prop :=
  ∀ i ∈ m.abandonments, Gone scheme m i

/-- What a step abandons. -/
theorem MailStep.abandonments_cases (hstep : MailStep scheme m e m') :
    m'.abandonments = m.abandonments ∨
      ∃ i, e = .abandon i ∧ m'.abandonments = i :: m.abandonments := by
  cases hstep with
  | accept => exact Or.inl (abandonments_acceptResult ..)
  | @abandon _ i k hbound hm' => rcases hm' with rfl | rfl <;> exact Or.inr ⟨i, rfl, rfl⟩
  | @abandonUnbound i => exact Or.inr ⟨i, rfl, rfl⟩
  | _ => exact Or.inl rfl

/-- A message that is abandoned where its binding says all about it is gone. -/
theorem MailStep.gone_of_abandon {i : ι} (hstep : MailStep scheme m (.abandon i) m')
    (honly : OnlyBound scheme m i) : Gone scheme m' i := by
  cases hstep with
  | @abandon m' _ k hbound hm' =>
    rcases hm' with rfl | rfl <;> exact honly.gone hbound rfl fun _ h => h
  | abandonUnbound hbound =>
    refine ⟨honly.unqueued, fun k h => ?_⟩
    have hk := honly.inFlight k h
    rw [hbound] at hk
    exact absurd hk (by simp)

/-- Every step keeps abandoned messages gone. -/
theorem AbandonedGone.step (hinv : AbandonedGone scheme m) (hguard : AbandonsBound scheme m e)
    (hstep : MailStep scheme m e m') : AbandonedGone scheme m' := by
  intro i hi
  rcases hstep.abandonments_cases with hsame | ⟨i', rfl, hnew⟩
  · rw [hsame] at hi
    refine (hinv i hi).step hstep fun x he hid => ?_
    subst he
    exact hguard (hid ▸ hi)
  · rw [hnew, List.mem_cons] at hi
    rcases hi with rfl | hi
    · exact hstep.gone_of_abandon hguard
    · exact (hinv i hi).step hstep fun x he => absurd he (by simp)

/-- No step delivers an abandoned message. -/
theorem AbandonedGone.not_delivered (hinv : AbandonedGone scheme m)
    (hguard : AbandonsBound scheme m e) (hstep : MailStep scheme m e m') {p : π} {x : μ}
    (hnew : m'.deliveries = (p, x) :: m.deliveries) : scheme.idOf x ∉ m.abandonments := by
  intro hmem
  refine (hinv _ hmem).not_delivered hstep (fun y he hid => ?_) hnew rfl
  subst he
  exact hguard (hid ▸ hmem)

/-! ### Accepted results -/

/-- Every bound message has an owner at its address, and is queued there or was delivered to
the current owner. -/
structure BoundCurrent (scheme : MailScheme κ ι l μ π ρ) (m : Mailbox κ ι l μ π ρ) : Prop where
  owned : ∀ k i, m.bound i = some k → m.owner k ≠ none
  delivered : ∀ k i, m.bound i = some k → (∃ x ∈ m.queue k, scheme.idOf x = i) ∨
    ∃ p x, (p, x) ∈ m.deliveries ∧ scheme.idOf x = i ∧ scheme.address x = k ∧
      scheme.recipient p = k ∧ m.owner k = some (scheme.lease p)

/-- A step keeps the bound messages with their current owner. -/
theorem BoundCurrent.step (hinv : BoundCurrent scheme m)
    (haddressed : Addressed scheme m) (hguard : AcceptsBound scheme m e)
    (hstep : MailStep scheme m e m') : BoundCurrent scheme m' := by
  cases hstep with
  | @grant k a hfree =>
    have hne : ∀ k' i, m.bound i = some k' → k' ≠ k := by
      rintro k' i hbound rfl
      exact hinv.owned k' i hbound hfree
    refine ⟨fun k' i h => ?_, fun k' i h => ?_⟩
    · simpa [hne k' i h] using hinv.owned k' i h
    · simpa [hne k' i h, deliveries] using hinv.delivered k' i h
  | @lose k =>
    have hold : ∀ k' i, (m.dropOwner k).bound i = some k' → k' ≠ k ∧ m.bound i = some k' := by
      intro k' i h
      rw [dropOwner, Option.filter_eq_some_iff] at h
      exact ⟨by simpa using h.2, h.1⟩
    refine ⟨fun k' i h => ?_, fun k' i h => ?_⟩
    · obtain ⟨hk, hbound⟩ := hold k' i h
      simpa [dropOwner, hk] using hinv.owned k' i hbound
    · obtain ⟨hk, hbound⟩ := hold k' i h
      simpa [dropOwner, hk, deliveries] using hinv.delivered k' i hbound
  | park => exact ⟨hinv.owned, hinv.delivered⟩
  | unpark => exact ⟨hinv.owned, hinv.delivered⟩
  | @enqueue x howner =>
    refine ⟨fun k' i h => ?_, fun k' i h => ?_⟩
    · by_cases hi : i = scheme.idOf x
      · have hk : scheme.address x = k' := by
          simpa [setQueue, send, bindTo, note, hi] using h
        exact hk ▸ howner
      · exact hinv.owned k' i (by simpa [setQueue, send, bindTo, note, hi] using h)
    · by_cases hi : i = scheme.idOf x
      · have hk : scheme.address x = k' := by
          simpa [setQueue, send, bindTo, note, hi] using h
        refine Or.inl ⟨x, ?_, hi.symm⟩
        rw [setQueue_queue, if_pos hk.symm]
        simp
      · rcases hinv.delivered k' i (by simpa [setQueue, send, bindTo, note, hi] using h) with
          ⟨y, hy, hid⟩ | hdelivered
        · refine Or.inl ⟨y, ?_, hid⟩
          rw [setQueue_queue]
          by_cases hk : k' = scheme.address x
          · rw [if_pos hk, List.mem_append]
            exact Or.inl (hk ▸ hy)
          · rw [if_neg hk]
            exact hy
        · exact Or.inr hdelivered
  | @enqueueParked p x rest left howner hp hleft =>
    refine ⟨fun k' i h => ?_, fun k' i h => ?_⟩
    · by_cases hi : i = scheme.idOf x
      · have hk : scheme.address x = k' := by
          simpa [deliver, takeOff, setParked, send, bindTo, note, hi] using h
        exact hk ▸ howner
      · exact hinv.owned k' i (by
          simpa [deliver, takeOff, setParked, send, bindTo, note, hi] using h)
    · by_cases hi : i = scheme.idOf x
      · have hk : scheme.address x = k' := by
          simpa [deliver, takeOff, setParked, send, bindTo, note, hi] using h
        have hrecipient := haddressed.parked _ p (by rw [hp]; exact List.mem_cons_self ..)
        have hcurrent := hguard.2 p rest hp
        refine Or.inr ⟨p, x, List.mem_cons_self .., hi.symm, hk, hrecipient.trans hk, ?_⟩
        exact hk ▸ hcurrent
      · rcases hinv.delivered k' i (by
          simpa [deliver, takeOff, setParked, send, bindTo, note, hi] using h) with
          hqueued | ⟨q, y, hmem, hrest⟩
        · exact Or.inl hqueued
        · exact Or.inr ⟨q, y, List.mem_cons_of_mem _ hmem, hrest⟩
  | @handOver p x rest howner hqueue =>
    have hx : scheme.address x = scheme.recipient p :=
      haddressed.queue _ x (by rw [hqueue]; exact List.mem_cons_self ..)
    refine ⟨fun k' i h => ?_, fun k' i h => ?_⟩
    · by_cases hi : i = scheme.idOf x
      · have hk : scheme.address x = k' := by
          simpa [deliver, takeOff, setQueue, bindTo, note, hi] using h
        show m.owner k' ≠ none
        rw [← hk, hx, howner]
        simp
      · exact hinv.owned k' i (by simpa [deliver, takeOff, setQueue, bindTo, note, hi] using h)
    · by_cases hi : i = scheme.idOf x
      · have hk : scheme.address x = k' := by
          simpa [deliver, takeOff, setQueue, bindTo, note, hi] using h
        refine Or.inr ⟨p, x, List.mem_cons_self .., hi.symm, hk, hx.symm.trans hk, ?_⟩
        show m.owner k' = _
        rw [← hk, hx, howner]
      · rcases hinv.delivered k' i (by
          simpa [deliver, takeOff, setQueue, bindTo, note, hi] using h) with
          ⟨y, hy, hid⟩ | ⟨q, y, hmem, hrest⟩
        · refine Or.inl ⟨y, ?_, hid⟩
          show y ∈ (m.setQueue (scheme.recipient p) rest).queue k'
          rw [setQueue_queue]
          by_cases hk : k' = scheme.recipient p
          · rw [hk, hqueue, List.mem_cons] at hy
            rw [if_pos hk]
            rcases hy with rfl | hy
            · exact absurd hid.symm hi
            · exact hy
          · rw [if_neg hk]
            exact hy
        · exact Or.inr ⟨q, y, List.mem_cons_of_mem _ hmem, hrest⟩
  | @accept i r k waiters hbound hid =>
    have hold : ∀ k' i', (m.acceptResult k i r waiters).bound i' = some k' →
        m.bound i' = some k' := by
      intro k' i' h
      rw [bound_acceptResult] at h
      by_cases hi : i' = i
      · simp [hi] at h
      · rwa [if_neg hi] at h
    refine ⟨fun k' i' h => hinv.owned k' i' (hold k' i' h), fun k' i' h => ?_⟩
    rw [deliveries_acceptResult]
    exact hinv.delivered k' i' (hold k' i' h)
  | @abandon _ i k hbound hm' =>
    rcases hm' with rfl | rfl
    · exact ⟨hinv.owned, hinv.delivered⟩
    · have hold : ∀ k' i', Function.update m.bound i none i' = some k' → m.bound i' = some k' := by
        intro k' i' h
        by_cases hi : i' = i
        · simp [hi] at h
        · simpa [hi] using h
      exact ⟨fun k' i' h => hinv.owned k' i' (hold k' i' h),
        fun k' i' h => hinv.delivered k' i' (hold k' i' h)⟩
  | abandonUnbound => exact ⟨hinv.owned, hinv.delivered⟩
  | answer => exact ⟨hinv.owned, hinv.delivered⟩
  | clear => exact ⟨fun _ _ h => absurd h (by simp), fun _ _ h => absurd h (by simp)⟩

/-- A message whose result was accepted is gone and not bound, and no other result of it was
accepted. -/
structure AcceptedOnce (scheme : MailScheme κ ι l μ π ρ) (m : Mailbox κ ι l μ π ρ) : Prop where
  unbound : ∀ a ∈ m.acceptances, m.bound a.1 = none
  gone : ∀ a ∈ m.acceptances, Gone scheme m a.1
  once : (m.acceptances.map Prod.fst).Nodup

/-- What a step accepts. -/
theorem MailStep.acceptances_cases (hstep : MailStep scheme m e m') :
    m'.acceptances = m.acceptances ∨
      ∃ i r, e = .accept i r ∧ m'.acceptances = (i, r) :: m.acceptances := by
  cases hstep with
  | @accept i r => exact Or.inr ⟨i, r, rfl, acceptances_acceptResult ..⟩
  | @abandon _ i k hbound hm' => rcases hm' with rfl | rfl <;> exact Or.inl rfl
  | _ => exact Or.inl rfl

/-- A message that is gone and not bound stays so, unless one of its id is sent. -/
theorem Gone.unbound_step {i : ι} (hgone : Gone scheme m i) (hbound : m.bound i = none)
    (hstep : MailStep scheme m e m') (hsend : ∀ x, e = .enqueue x → scheme.idOf x ≠ i) :
    m'.bound i = none := by
  cases hstep with
  | lose =>
    show (m.bound i).filter _ = none
    rw [hbound]
    rfl
  | @enqueue x =>
    have hne := hsend x rfl
    simpa [setQueue, send, bindTo, note, hne.symm] using hbound
  | @enqueueParked p x rest =>
    have hne := hsend x rfl
    simpa [deliver, takeOff, setParked, send, bindTo, note, hne.symm] using hbound
  | @handOver p x rest howner hqueue =>
    have hne : scheme.idOf x ≠ i :=
      hgone.unqueued _ x (by rw [hqueue]; exact List.mem_cons_self ..)
    simpa [deliver, takeOff, setQueue, bindTo, note, hne.symm] using hbound
  | @accept i' =>
    rw [bound_acceptResult, hbound]
    exact ite_self none
  | @abandon _ i' k _ hm' =>
    rcases hm' with rfl | rfl
    · exact hbound
    · show Function.update m.bound i' none i = none
      rw [Function.update_apply, hbound]
      exact ite_self none
  | clear => rfl
  | _ => exact hbound

/-- A message whose result is accepted where its binding says all about it is gone and not
bound. -/
theorem MailStep.gone_of_accept {i : ι} {r : ρ} (hstep : MailStep scheme m (.accept i r) m')
    (honly : OnlyBound scheme m i) : Gone scheme m' i ∧ m.bound i ≠ none ∧ m'.bound i = none := by
  cases hstep with
  | @accept _ _ k waiters hbound hid =>
    refine ⟨honly.gone hbound rfl fun _ h => h, ?_, ?_⟩
    · rw [hbound]
      simp
    · rw [bound_acceptResult, if_pos rfl]

/-- A step keeps accepted messages over. -/
theorem AcceptedOnce.step (hinv : AcceptedOnce scheme m) (hguard : AcceptsBound scheme m e)
    (hstep : MailStep scheme m e m') : AcceptedOnce scheme m' := by
  rcases hstep.acceptances_cases with hsame | ⟨i, r, rfl, hnew⟩
  · have hsend : ∀ a ∈ m.acceptances, ∀ x, e = .enqueue x → scheme.idOf x ≠ a.1 := by
      intro a ha x he hid
      subst he
      exact hguard.1 a.2 (hid ▸ ha)
    refine ⟨fun a ha => ?_, fun a ha => ?_, ?_⟩
    · rw [hsame] at ha
      exact (hinv.gone a ha).unbound_step (hinv.unbound a ha) hstep (hsend a ha)
    · rw [hsame] at ha
      exact (hinv.gone a ha).step hstep (hsend a ha)
    · rw [hsame]
      exact hinv.once
  · obtain ⟨hgone, hbound, hunbound⟩ := hstep.gone_of_accept hguard
    have hsend : ∀ x : μ, (.accept i r : MailEvent κ ι l μ π ρ) ≠ .enqueue x := by simp
    refine ⟨fun a ha => ?_, fun a ha => ?_, ?_⟩
    · rw [hnew, List.mem_cons] at ha
      rcases ha with rfl | ha
      · exact hunbound
      · exact (hinv.gone a ha).unbound_step (hinv.unbound a ha) hstep
          fun x he => absurd he (hsend x)
    · rw [hnew, List.mem_cons] at ha
      rcases ha with rfl | ha
      · exact hgone
      · exact (hinv.gone a ha).step hstep fun x he => absurd he (hsend x)
    · rw [hnew, List.map_cons, List.nodup_cons]
      refine ⟨fun hmem => ?_, hinv.once⟩
      -- The accepted message was bound, so no result of it was accepted before.
      obtain ⟨a, ha, hi⟩ := List.mem_map.mp hmem
      have hnone := hinv.unbound a ha
      rw [show a.1 = i from hi] at hnone
      exact hbound hnone

/-- No step delivers a message whose result was accepted. -/
theorem AcceptedOnce.not_delivered (hinv : AcceptedOnce scheme m)
    (hguard : AcceptsBound scheme m e) (hstep : MailStep scheme m e m') {p : π} {x : μ}
    (hnew : m'.deliveries = (p, x) :: m.deliveries) (r : ρ) :
    (scheme.idOf x, r) ∉ m.acceptances := by
  intro hmem
  refine (hinv.gone _ hmem).not_delivered hstep (fun y he hid => ?_) hnew rfl
  subst he
  exact hguard.1 r (hid ▸ hmem)

/-- A result that is accepted while its message is in no queue is for a message that was
delivered to the current owner. -/
theorem BoundCurrent.accepts (hinv : BoundCurrent scheme m) {i : ι} {r : ρ}
    (hunqueued : Unqueued scheme m i) (hstep : MailStep scheme m (.accept i r) m') :
    ∃ p x, (p, x) ∈ m.deliveries ∧ scheme.idOf x = i ∧ scheme.recipient p = scheme.address x ∧
      m.owner (scheme.address x) = some (scheme.lease p) := by
  cases hstep with
  | @accept _ _ k _ hbound hid =>
    rcases hinv.delivered k i hbound with ⟨x, hx, hxid⟩ | ⟨p, x, hmem, hxid, rfl, hp, howner⟩
    · exact absurd hxid (hunqueued k x hx)
    · exact ⟨p, x, hmem, hxid, hp, howner⟩

/-- The stored results and the results that waiters got were accepted, each for its own
message. -/
structure AnswersAccepted (scheme : MailScheme κ ι l μ π ρ) (m : Mailbox κ ι l μ π ρ) :
    Prop where
  results : ∀ i r, m.results i = some r → (i, r) ∈ m.acceptances
  answers : ∀ a ∈ m.answers, a ∈ m.acceptances
  own : ∀ a ∈ m.acceptances, scheme.resultId a.2 = a.1

/-- A step gives waiters only accepted results. -/
theorem AnswersAccepted.step (hinv : AnswersAccepted scheme m)
    (hstep : MailStep scheme m e m') : AnswersAccepted scheme m' := by
  cases hstep with
  | @accept i r k waiters hbound hid =>
    refine ⟨fun i' r' h => ?_, fun a ha => ?_, fun a ha => ?_⟩
    · rw [acceptances_acceptResult, List.mem_cons]
      by_cases hi : i' = i
      · subst hi
        left
        simpa [acceptResult, note, unbind, land, setResult, eq_comm] using h
      · right
        exact hinv.results i' r' (by simpa [acceptResult, note, unbind, land, setResult, hi] using h)
    · rw [acceptances_acceptResult, List.mem_cons]
      simp only [acceptResult, note, Mailbox.answers, setResult, land, unbind, List.filterMap_append,
        List.mem_append, List.mem_filterMap, List.mem_map] at ha
      rcases ha with (⟨_, ⟨_, -, rfl⟩, ha⟩ | ⟨entry, hentry, ha⟩) | ha
      · exact Or.inl (Option.some.inj ha).symm
      · rw [List.mem_singleton] at hentry
        subst hentry
        exact absurd ha (by simp)
      · exact Or.inr (hinv.answers a (List.mem_filterMap.mpr ha))
    · rw [acceptances_acceptResult, List.mem_cons] at ha
      rcases ha with rfl | ha
      · exact hid
      · exact hinv.own a ha
  | @abandon _ i k hbound hm' =>
    have hold : ∀ i' r', Function.update m.results i none i' = some r' → m.results i' = some r' := by
      intro i' r' h
      by_cases hi : i' = i
      · simp [hi] at h
      · simpa [hi] using h
    rcases hm' with rfl | rfl <;>
      exact ⟨fun i' r' h => hinv.results i' r' (hold i' r' h), hinv.answers, hinv.own⟩
  | @answer i r hresult =>
    refine ⟨hinv.results, fun a ha => ?_, hinv.own⟩
    rcases List.mem_cons.mp ha with rfl | ha
    · exact hinv.results i r hresult
    · exact hinv.answers a ha
  | clear => exact ⟨fun _ _ h => absurd h (by simp), hinv.answers, hinv.own⟩
  | _ => exact ⟨hinv.results, hinv.answers, hinv.own⟩

end

end Ariava.Lib
