import Ariava.HostManager.ProcessAwareLock
import Ariava.Lib.RelyGuarantee
import Mathlib.Tactic.ByContra
import Mathlib.Data.Fintype.Basic

/-!
# `Ariava.Proofs.ProcessLockExclusion`: who holds the process-aware lock

`processLock_exclusive` covers every order of the file operations of any number of processes:
they start, acquire, recover, release and die at any time. At most one live process holds the
lock, and no recovery or release removes a record that another live process has created,
provided that each removal of a recovery finds the record that the recovery has read twice.

Nothing in the code sees to that condition. `not_mutualExclusion` is a run in which two
processes recover one stale record at once. The first one removes it and creates its own; the
second one, which has compared the stale record before, removes the new record and creates a
third. Both hold the lock.

The proof is by rely and guarantee. `Upholds` is what a process maintains about itself, and
`Rely` is all it needs of the others: they leave a record of its own in place while it lives,
and they write no record with a token of its own.
-/

set_option autoImplicit false

namespace Ariava.Proofs.ProcessLockExclusion

open Ariava.Lib
open Ariava.HostManager

variable {P : Type}

/-! ### The claim -/

/-- The process runs, and has a lock that it has not released. -/
def Holds (w : LockWorld P) (p : P) : Prop :=
  w.Live p ∧ ∃ lock ∈ (w.process p).locks, lock.status = .held

/-- At most one live process holds the lock. -/
def AtMostOneHolder (w : LockWorld P) : Prop := ∀ p q, Holds w p → Holds w q → p = q

/-- The step removes a record that another live process has created. -/
def RemovesAnothers (w : LockWorld P) (a : LockAction P) (w' : LockWorld P) : Prop :=
  ∃ record q, w.file = some (.record record) ∧ w'.file = none ∧
    w.token record.ownerToken = .drawn q ∧ q ≠ a.actor ∧ w.Live q

/-- Mutual exclusion over every run. -/
def MutualExclusion : Prop :=
  ∀ (P : Type) [DecidableEq P] (host : LockHost P) (w : LockWorld P) (as : List (LockAction P))
    (w' : LockWorld P), w.Initial → Run (LockStep host) w as w' →
      AtMostOneHolder w' ∧ ∀ a w'', LockStep host w' a w'' → ¬ RemovesAnothers w' a w''

/-- Where the removal of a recovery takes a file, it is still the record that was rechecked. -/
def RecoversWhatItRead (w : LockWorld P) : LockAction P → Prop
  | .operate p fault =>
    match (w.process p).point with
    | .removing _ existing =>
      fault = .before ∨ w.file = none ∨ w.file = some (.record existing)
    | _ => True
  | _ => True

/-- Within the condition, a recovery that takes a file takes the record it has read. -/
theorem RecoversWhatItRead.found {w : LockWorld P} {p : P} {fault : Fault}
    {record existing : ProcessAwareLockRecord} (h : RecoversWhatItRead w (.operate p fault))
    (hpoint : (w.process p).point = .removing record existing) (hfault : fault ≠ .before)
    (hfile : w.file ≠ none) : w.file = some (.record existing) := by
  simp only [RecoversWhatItRead, hpoint] at h
  rcases h with h | h | h
  · exact absurd h hfault
  · exact absurd h hfile
  · exact h

/-! ### What an operation can do -/

/-- What an operation of a process can do, in cases that say what it has read. -/
inductive Move (fault : Fault) (file : Option LockFile) (process : Process) :
    Process × Option LockFile → Prop
  | stay : Move fault file process (process, file)
  | finish (result : CallResult) : Move fault file process (process.finish result, file)
  | find (record : ProcessAwareLockRecord) (staleAgeMs : Int)
      (hpoint : process.point = .creating record staleAgeMs) :
      Move fault file process (process.goTo (.finding record staleAgeMs), file)
  | read (record : ProcessAwareLockRecord) (staleAgeMs : Int)
      (hpoint : process.point = .finding record staleAgeMs) :
      Move fault file process (process.goTo (.reading record staleAgeMs), file)
  | inspect (record existing : ProcessAwareLockRecord) (staleAgeMs : Int)
      (hpoint : process.point = .reading record staleAgeMs)
      (hfile : file = some (.record existing)) :
      Move fault file process (process.goTo (.inspecting record existing staleAgeMs), file)
  | recheck (record existing : ProcessAwareLockRecord)
      (hpoint : process.point = .rechecking record existing) :
      Move fault file process (process.goTo (.removing record existing), file)
  | matchToken (ownerToken : String) (current : ProcessAwareLockRecord)
      (hpoint : process.point = .releaseReading ownerToken)
      (hfile : file = some (.record current)) (htoken : current.ownerToken = ownerToken) :
      Move fault file process (process.goTo (.releaseRemoving ownerToken), file)
  | acquire (record : ProcessAwareLockRecord) (hpoint : process.point.creates? = some record)
      (hfile : file = none) :
      Move fault file process (process.acquired record, some (.record record))
  | writeAndFind (record : ProcessAwareLockRecord) (staleAgeMs : Int)
      (hpoint : process.point = .creating record staleAgeMs) (hfile : file = none) :
      Move fault file process
        (process.goTo (.finding record staleAgeMs), some (.record record))
  | writeAndThrow (record : ProcessAwareLockRecord) (hpoint : process.point = .recreating record)
      (hfile : file = none) (result : CallResult) :
      Move fault file process (process.finish result, some (.record record))
  | recover (record existing : ProcessAwareLockRecord)
      (hpoint : process.point = .removing record existing) (hfault : fault ≠ .before)
      (hfile : file ≠ none) : Move fault file process (process.goTo (.recreating record), none)
  | recoverAndThrow (record existing : ProcessAwareLockRecord)
      (hpoint : process.point = .removing record existing) (hfault : fault ≠ .before)
      (hfile : file ≠ none) (result : CallResult) :
      Move fault file process (process.finish result, none)
  | release (ownerToken : String) (hpoint : process.point = .releaseRemoving ownerToken)
      (result : CallResult) (status : LockStatus) (hstatus : status ≠ .held) :
      Move fault file process ((process.finish result).mark ownerToken status, none)

/-- A record that was read is the record in the file. -/
theorem readValidatedRecord_eq_some {host : LockHost P} {fault : Fault}
    {file : Option LockFile} {record : ProcessAwareLockRecord}
    (h : readValidatedRecord host fault file = some record) : file = some (.record record) := by
  unfold readValidatedRecord at h
  split at h
  · split at h
    · cases h
      rfl
    · cases h
  · cases h

/-- An operation makes one of the moves. -/
theorem operate_move (host : LockHost P) (fault : Fault) (file : Option LockFile)
    (process : Process) : Move fault file process (process.operate host fault file) := by
  unfold Process.operate
  split
  case h_1 record staleAgeMs hpoint =>
    cases file with
    | some file => exact Move.find record staleAgeMs hpoint
    | none =>
      cases fault with
      | none => exact Move.acquire record (by rw [hpoint]; rfl) rfl
      | before => exact Move.find record staleAgeMs hpoint
      | after => exact Move.writeAndFind record staleAgeMs hpoint rfl
  case h_2 record staleAgeMs hpoint =>
    split
    · exact Move.finish _
    · exact Move.read record staleAgeMs hpoint
  case h_3 record staleAgeMs hpoint =>
    split
    · exact Move.finish _
    · next existing hread =>
      exact Move.inspect record existing staleAgeMs hpoint (readValidatedRecord_eq_some hread)
  case h_4 record existing hpoint =>
    split
    · exact Move.finish _
    · split
      · exact Move.finish _
      · exact Move.recheck record existing hpoint
  case h_5 record existing hpoint =>
    cases file with
    | none => exact Move.finish _
    | some file =>
      cases fault with
      | none => exact Move.recover record existing hpoint (by simp) (by simp)
      | before => exact Move.finish _
      | after => exact Move.recoverAndThrow record existing hpoint (by simp) (by simp) _
  case h_6 record hpoint =>
    cases file with
    | some file => exact Move.finish _
    | none =>
      cases fault with
      | none => exact Move.acquire record (by rw [hpoint]; rfl) rfl
      | before => exact Move.finish _
      | after => exact Move.writeAndThrow record hpoint rfl _
  case h_7 ownerToken hpoint =>
    split
    · exact Move.finish _
    · next current hread =>
      split
      · exact Move.finish _
      · next htoken =>
        exact Move.matchToken ownerToken current hpoint (readValidatedRecord_eq_some hread)
          (not_not.mp htoken)
  case h_8 ownerToken hpoint =>
    cases file with
    | none => exact Move.finish _
    | some file =>
      cases fault with
      | none => exact Move.release ownerToken hpoint _ _ (by simp)
      | before => exact Move.finish _
      | after => exact Move.release ownerToken hpoint _ _ (by simp)
  case h_9 => exact Move.stay
  case h_10 => exact Move.stay

/-- No move changes whether the process lives. -/
theorem Move.life {fault : Fault} {file : Option LockFile} {process : Process}
    {r : Process × Option LockFile} (h : Move fault file process r) :
    r.1.life = process.life := by
  cases h <;> rfl

/-! ### What a process maintains, and what it needs of the others -/

section
variable (host : LockHost P)

/-- The token of the record is not fresh, and a process that has drawn it is the one that the
record names. -/
structure Known (w : LockWorld P) (record : ProcessAwareLockRecord) : Prop where
  seen : w.token record.ownerToken ≠ .fresh
  named : ∀ q, w.token record.ownerToken = .drawn q →
    record.pid = host.pid q ∧ record.processStart = host.processStart q
  born : ∀ q, w.token record.ownerToken = .drawn q → (w.process q).life ≠ .unborn

/-- The process that created the record, if it is one of these, has ended. -/
structure Abandoned (w : LockWorld P) (record : ProcessAwareLockRecord) : Prop where
  seen : w.token record.ownerToken ≠ .fresh
  dead : ∀ q, w.token record.ownerToken = .drawn q → (w.process q).life = .dead

/-- The record of an acquisition of the process, whose token no lock of it has. -/
structure Own (w : LockWorld P) (p : P) (record : ProcessAwareLockRecord) : Prop where
  drawn : w.token record.ownerToken = .drawn p
  pid : record.pid = host.pid p
  processStart : record.processStart = host.processStart p
  unused : ∀ lock ∈ (w.process p).locks, lock.record.ownerToken ≠ record.ownerToken

/-- What holds of the values that a call has read, at each of its operations. -/
def PointSound (w : LockWorld P) (p : P) : Point → Prop
  | .idle => True
  | .creating record _ => Own host w p record
  | .finding record _ => Own host w p record
  | .reading record _ => Own host w p record
  | .inspecting record existing _ => Own host w p record ∧ Known host w existing
  | .rechecking record existing => Own host w p record ∧ Abandoned w existing
  | .removing record existing => Own host w p record ∧ Abandoned w existing
  | .recreating record => Own host w p record
  | .releaseReading ownerToken =>
    ∃ lock ∈ (w.process p).locks, lock.record.ownerToken = ownerToken
  | .releaseRemoving ownerToken =>
    ∃ lock ∈ (w.process p).locks, lock.record.ownerToken = ownerToken ∧ lock.status = .held

/-- What a process maintains: its record is in the file while it lives and holds a lock, and a
lock that it has given up is not in the file. -/
structure Upholds (p : P) (w : LockWorld P) : Prop where
  unborn : (w.process p).life = .unborn → (w.process p).point = .idle ∧ (w.process p).locks = []
  known : ∀ record, w.file = some (.record record) → Known host w record
  point : w.Live p → PointSound host w p (w.process p).point
  drawn : ∀ lock ∈ (w.process p).locks, w.token lock.record.ownerToken = .drawn p
  distinct : ((w.process p).locks.map fun lock => lock.record.ownerToken).Nodup
  held : w.Live p → ∀ lock ∈ (w.process p).locks, lock.status = .held →
    w.file = some (.record lock.record)
  given : ∀ lock ∈ (w.process p).locks, lock.status ≠ .held →
    ∀ record, w.file = some (.record record) → record.ownerToken ≠ lock.record.ownerToken

/-- What a step of another process may do. -/
structure Rely (p : P) (w w' : LockWorld P) : Prop where
  process : w'.process p = w.process p
  tokens : ∀ token, w.token token ≠ .fresh → w'.token token = w.token token
  dead : ∀ q, (w.process q).life = .dead → (w'.process q).life = .dead
  born : ∀ q, (w.process q).life ≠ .unborn → (w'.process q).life ≠ .unborn
  kept : w.Live p → ∀ record, w.file = some (.record record) →
    w.token record.ownerToken = .drawn p → w'.file = some (.record record)
  written : ∀ record, w'.file = some (.record record) →
    w.file = some (.record record) ∨
      (Known host w' record ∧ w'.token record.ownerToken ≠ .drawn p)

variable {host} {w w' : LockWorld P} {p : P} {record : ProcessAwareLockRecord}

/-! ### What a process maintains is stable -/

theorem Known.stable (h : Known host w record) (hr : Rely host p w w') :
    Known host w' record := by
  have htoken := hr.tokens _ h.seen
  refine ⟨?_, ?_, ?_⟩
  · rw [htoken]
    exact h.seen
  · rw [htoken]
    exact h.named
  · intro q hq
    rw [htoken] at hq
    exact hr.born q (h.born q hq)

theorem Abandoned.stable (h : Abandoned w record) (hr : Rely host p w w') :
    Abandoned w' record := by
  have htoken := hr.tokens _ h.seen
  refine ⟨?_, ?_⟩
  · rw [htoken]
    exact h.seen
  · intro q hq
    rw [htoken] at hq
    exact hr.dead q (h.dead q hq)

theorem Own.stable (h : Own host w p record) (hr : Rely host p w w') :
    Own host w' p record where
  drawn := by
    rw [hr.tokens _ (by rw [h.drawn]; simp)]
    exact h.drawn
  pid := h.pid
  processStart := h.processStart
  unused := by
    rw [hr.process]
    exact h.unused

/-- A process that is about to create a file draws its token itself. -/
theorem PointSound.own {point : Point} (h : PointSound host w p point)
    (hcreates : point.creates? = some record) : Own host w p record := by
  cases point with
  | creating record' staleAgeMs =>
    cases hcreates
    exact h
  | recreating record' =>
    cases hcreates
    exact h
  | idle => cases hcreates
  | finding record' staleAgeMs => cases hcreates
  | reading record' staleAgeMs => cases hcreates
  | inspecting record' existing staleAgeMs => cases hcreates
  | rechecking record' existing => cases hcreates
  | removing record' existing => cases hcreates
  | releaseReading ownerToken => cases hcreates
  | releaseRemoving ownerToken => cases hcreates

theorem PointSound.stable {point : Point} (h : PointSound host w p point)
    (hr : Rely host p w w') : PointSound host w' p point := by
  cases point with
  | idle => trivial
  | creating record staleAgeMs => exact Own.stable h hr
  | finding record staleAgeMs => exact Own.stable h hr
  | reading record staleAgeMs => exact Own.stable h hr
  | inspecting record existing staleAgeMs => exact ⟨h.1.stable hr, h.2.stable hr⟩
  | rechecking record existing => exact ⟨h.1.stable hr, h.2.stable hr⟩
  | removing record existing => exact ⟨h.1.stable hr, h.2.stable hr⟩
  | recreating record => exact Own.stable h hr
  | releaseReading ownerToken =>
    unfold PointSound
    rw [hr.process]
    exact h
  | releaseRemoving ownerToken =>
    unfold PointSound
    rw [hr.process]
    exact h

/-- Whatever the others do within the rely, a process keeps what it maintains. -/
theorem Upholds.stable (h : Upholds host p w) (hr : Rely host p w w') : Upholds host p w' where
  unborn := by
    rw [hr.process]
    exact h.unborn
  known record hfile := by
    rcases hr.written record hfile with hold | hnew
    · exact (h.known record hold).stable hr
    · exact hnew.1
  point hlive := by
    have hlive' : w.Live p := by
      unfold LockWorld.Live at hlive ⊢
      rwa [hr.process] at hlive
    rw [hr.process]
    exact (h.point hlive').stable hr
  drawn lock hlock := by
    rw [hr.process] at hlock
    have hdrawn := h.drawn lock hlock
    rw [hr.tokens _ (by rw [hdrawn]; simp)]
    exact hdrawn
  distinct := by
    rw [hr.process]
    exact h.distinct
  held hlive lock hlock hheld := by
    unfold LockWorld.Live at hlive
    rw [hr.process] at hlive hlock
    exact hr.kept hlive _ (h.held hlive lock hlock hheld) (h.drawn lock hlock)
  given lock hlock hgiven record hfile := by
    rw [hr.process] at hlock
    rcases hr.written record hfile with hold | hnew
    · exact h.given lock hlock hgiven record hold
    · intro hsame
      have hdrawn := h.drawn lock hlock
      rw [← hsame] at hdrawn
      exact hnew.2 (by rw [hr.tokens _ (by rw [hdrawn]; simp)]; exact hdrawn)

/-! ### One step -/

variable [DecidableEq P] {q : P} {r : Process × Option LockFile}

/-- The world when a process and the file have changed. -/
def after (w : LockWorld P) (p : P) (r : Process × Option LockFile) : LockWorld P :=
  { w.setProcess p r.1 with file := r.2 }

@[simp] theorem after_self : (after w p r).process p = r.1 := w.setProcess_self p r.1

theorem after_ne (h : q ≠ p) : (after w p r).process q = w.process q := w.setProcess_ne r.1 h

@[simp] theorem after_file : (after w p r).file = r.2 := rfl

@[simp] theorem after_token : (after w p r).token = w.token := rfl

theorem Known.after (h : Known host w record)
    (hborn : (w.process p).life ≠ .unborn → r.1.life ≠ .unborn) :
    Known host (after w p r) record where
  seen := h.seen
  named := h.named
  born q hq := by
    by_cases hqp : q = p
    · rw [hqp, after_self]
      exact hborn (h.born p (by rw [← hqp]; exact hq))
    · rw [after_ne hqp]
      exact h.born q hq

omit [DecidableEq P] in
theorem Own.known (h : Own host w p record) (hlive : w.Live p) : Known host w record where
  seen := by
    rw [h.drawn]
    simp
  named q hq := by
    rw [h.drawn] at hq
    cases hq
    exact ⟨h.pid, h.processStart⟩
  born q hq := by
    rw [h.drawn] at hq
    cases hq
    unfold LockWorld.Live at hlive
    rw [hlive]
    simp

theorem Own.after (h : Own host w p record) (hlocks : r.1.locks = (w.process p).locks) :
    Own host (after w p r) p record where
  drawn := h.drawn
  pid := h.pid
  processStart := h.processStart
  unused := by
    rw [after_self, hlocks]
    exact h.unused

theorem Abandoned.after (h : Abandoned w record)
    (hdead : (w.process p).life = .dead → r.1.life = .dead) : Abandoned (after w p r) record where
  seen := h.seen
  dead q hq := by
    by_cases hqp : q = p
    · rw [hqp, after_self]
      exact hdead (h.dead p (by rw [← hqp]; exact hq))
    · rw [after_ne hqp]
      exact h.dead q hq

/-- What a call has read stays sound when the process keeps its life and its locks. -/
theorem PointSound.after {point : Point} (h : PointSound host w p point)
    (hlife : r.1.life = (w.process p).life) (hlocks : r.1.locks = (w.process p).locks) :
    PointSound host (after w p r) p point := by
  have hborn : (w.process p).life ≠ .unborn → r.1.life ≠ .unborn := by
    rw [hlife]
    exact id
  have hdead : (w.process p).life = .dead → r.1.life = .dead := by
    rw [hlife]
    exact id
  cases point with
  | idle => trivial
  | creating record staleAgeMs => exact Own.after h hlocks
  | finding record staleAgeMs => exact Own.after h hlocks
  | reading record staleAgeMs => exact Own.after h hlocks
  | inspecting record existing staleAgeMs => exact ⟨h.1.after hlocks, h.2.after hborn⟩
  | rechecking record existing => exact ⟨h.1.after hlocks, h.2.after hdead⟩
  | removing record existing => exact ⟨h.1.after hlocks, h.2.after hdead⟩
  | recreating record => exact Own.after h hlocks
  | releaseReading ownerToken =>
    unfold PointSound
    rw [after_self, hlocks]
    exact h
  | releaseRemoving ownerToken =>
    unfold PointSound
    rw [after_self, hlocks]
    exact h

/-- A change of another process is within the rely when it removes no record of this one and
writes only known records of others. -/
theorem Rely.of_after (hq : q ≠ p) (hdead : (w.process p).life = .dead → r.1.life = .dead)
    (hborn : (w.process p).life ≠ .unborn → r.1.life ≠ .unborn)
    (hkept : w.Live q → ∀ record, w.file = some (.record record) →
      w.token record.ownerToken = .drawn q → r.2 = some (.record record))
    (hwritten : ∀ record, r.2 = some (.record record) → w.file = some (.record record) ∨
      (Known host w record ∧ w.token record.ownerToken ≠ .drawn q)) :
    Rely host q w (after w p r) where
  process := after_ne hq
  tokens _ _ := rfl
  dead x hx := by
    by_cases hxp : x = p
    · subst hxp
      rw [after_self]
      exact hdead hx
    · rwa [after_ne hxp]
  born x hx := by
    by_cases hxp : x = p
    · subst hxp
      rw [after_self]
      exact hborn hx
    · rwa [after_ne hxp]
  kept := hkept
  written record hfile := by
    rcases hwritten record hfile with hold | ⟨hknown, hother⟩
    · exact Or.inl hold
    · exact Or.inr ⟨hknown.after hborn, hother⟩

/-- The move of a process, within the condition, is within the rely of the others. -/
theorem rely_of_move (hp : Upholds host p w) (hlive : w.Live p) {fault : Fault}
    (hcondition : RecoversWhatItRead w (.operate p fault))
    (hmove : Move fault w.file (w.process p) r) (hq : q ≠ p) : Rely host q w (after w p r) := by
  have hsound := hp.point hlive
  have hdead : (w.process p).life = .dead → r.1.life = .dead := by
    rw [hmove.life]
    exact id
  have hborn : (w.process p).life ≠ .unborn → r.1.life ≠ .unborn := by
    rw [hmove.life]
    exact id
  -- A file that is written was not there before, and has a token of the process that writes.
  have hcreate : ∀ record process, w.file = none → Own host w p record →
      r = (process, some (.record record)) → Rely host q w (after w p r) := by
    intro record process hfile hown hr
    refine Rely.of_after hq hdead hborn ?_ ?_
    · intro _ kept hkept
      rw [hfile] at hkept
      cases hkept
    · intro written hwritten
      rw [hr] at hwritten
      cases hwritten
      refine Or.inr ⟨hown.known hlive, ?_⟩
      rw [hown.drawn]
      intro h
      cases h
      exact hq rfl
  -- A file that is removed in a recovery is the record of a process that has ended.
  have hrecover : ∀ record existing process, (w.process p).point = .removing record existing →
      fault ≠ .before → w.file ≠ none → r = (process, none) → Rely host q w (after w p r) := by
    intro record existing process hpoint hfault hfile hr
    have hfound := hcondition.found hpoint hfault hfile
    rw [hpoint] at hsound
    refine Rely.of_after hq hdead hborn ?_ ?_
    · intro hlive kept hkept hdrawn
      rw [hfound] at hkept
      cases hkept
      have hended := hsound.2.dead q hdrawn
      unfold LockWorld.Live at hlive
      rw [hlive] at hended
      cases hended
    · intro written hwritten
      rw [hr] at hwritten
      cases hwritten
  have hsame : r.2 = w.file → Rely host q w (after w p r) := by
    intro hfile
    refine Rely.of_after hq hdead hborn ?_ ?_
    · intro _ kept hkept _
      rw [hfile]
      exact hkept
    · intro written hwritten
      rw [hfile] at hwritten
      exact Or.inl hwritten
  cases hmove with
  | stay => exact hsame rfl
  | finish result => exact hsame rfl
  | find record staleAgeMs hpoint => exact hsame rfl
  | read record staleAgeMs hpoint => exact hsame rfl
  | inspect record existing staleAgeMs hpoint hfile => exact hsame rfl
  | recheck record existing hpoint => exact hsame rfl
  | matchToken ownerToken current hpoint hfile htoken => exact hsame rfl
  | acquire record hpoint hfile => exact hcreate record _ hfile (hsound.own hpoint) rfl
  | writeAndFind record staleAgeMs hpoint hfile =>
    exact hcreate record _ hfile (hsound.own (by rw [hpoint]; rfl)) rfl
  | writeAndThrow record hpoint hfile result =>
    exact hcreate record _ hfile (hsound.own (by rw [hpoint]; rfl)) rfl
  | recover record existing hpoint hfault hfile =>
    exact hrecover record existing _ hpoint hfault hfile rfl
  | recoverAndThrow record existing hpoint hfault hfile result =>
    exact hrecover record existing _ hpoint hfault hfile rfl
  | release ownerToken hpoint result status hstatus =>
    rw [hpoint] at hsound
    obtain ⟨lock, hlock, -, hheld⟩ := hsound
    have hfile := hp.held hlive lock hlock hheld
    refine Rely.of_after hq hdead hborn ?_ ?_
    · intro _ kept hkept hdrawn
      rw [hfile] at hkept
      cases hkept
      rw [hp.drawn lock hlock] at hdrawn
      cases hdrawn
      exact absurd rfl hq
    · intro written hwritten
      cases hwritten

/-- A live process stays born. -/
theorem not_unborn (hlive : w.Live p) (hlife : r.1.life = (w.process p).life) :
    ((after w p r).process p).life ≠ .unborn := by
  unfold LockWorld.Live at hlive
  rw [after_self, hlife, hlive]
  simp

/-- A step of a process that leaves the file and its locks alone. -/
theorem Upholds.moved (hp : Upholds host p w) (hlive : w.Live p) {process : Process}
    (hlife : process.life = (w.process p).life) (hlocks : process.locks = (w.process p).locks)
    (hpoint : PointSound host w p process.point) :
    Upholds host p (after w p (process, w.file)) where
  unborn h := absurd h (not_unborn hlive hlife)
  known record hfile := (hp.known record hfile).after (by rw [hlife]; exact id)
  point _ := by
    rw [after_self]
    exact hpoint.after hlife hlocks
  drawn := by
    rw [after_self, hlocks]
    exact hp.drawn
  distinct := by
    rw [after_self, hlocks]
    exact hp.distinct
  held hlive lock hlock hheld := by
    unfold LockWorld.Live at hlive
    rw [after_self] at hlive hlock
    rw [hlife] at hlive
    rw [hlocks] at hlock
    exact hp.held hlive lock hlock hheld
  given := by
    rw [after_self, hlocks]
    exact hp.given

/-- A step of a process that creates the file and keeps its locks. -/
theorem Upholds.wrote (hp : Upholds host p w) (hlive : w.Live p) (hfile : w.file = none)
    (hown : Own host w p record) {process : Process}
    (hlife : process.life = (w.process p).life) (hlocks : process.locks = (w.process p).locks)
    (hpoint : PointSound host w p process.point) :
    Upholds host p (after w p (process, some (.record record))) where
  unborn h := absurd h (not_unborn hlive hlife)
  known written hwritten := by
    cases hwritten
    exact (hown.known hlive).after (by rw [hlife]; exact id)
  point _ := by
    rw [after_self]
    exact hpoint.after hlife hlocks
  drawn := by
    rw [after_self, hlocks]
    exact hp.drawn
  distinct := by
    rw [after_self, hlocks]
    exact hp.distinct
  held _ lock hlock hheld := by
    rw [after_self, hlocks] at hlock
    have hold := hp.held hlive lock hlock hheld
    rw [hfile] at hold
    cases hold
  given lock hlock _ written hwritten := by
    rw [after_self, hlocks] at hlock
    cases hwritten
    exact (hown.unused lock hlock).symm

/-- A step of a process that creates the file and is given the lock. -/
theorem Upholds.acquired (hp : Upholds host p w) (hlive : w.Live p) (hfile : w.file = none)
    (hown : Own host w p record) :
    Upholds host p (after w p ((w.process p).acquired record, some (.record record))) where
  unborn h := absurd h (not_unborn hlive rfl)
  known written hwritten := by
    cases hwritten
    exact (hown.known hlive).after id
  point _ := by
    rw [after_self]
    trivial
  drawn lock hlock := by
    rw [after_self] at hlock
    rcases List.mem_append.mp hlock with hold | hnew
    · exact hp.drawn lock hold
    · rw [List.mem_singleton.mp hnew]
      exact hown.drawn
  distinct := by
    rw [after_self]
    unfold Process.acquired
    rw [List.map_append, List.nodup_append]
    refine ⟨hp.distinct, by simp, ?_⟩
    intro token htoken other hother
    obtain ⟨lock, hlock, rfl⟩ := List.mem_map.mp htoken
    rw [List.map_singleton, List.mem_singleton] at hother
    rw [hother]
    exact hown.unused lock hlock
  held _ lock hlock hheld := by
    rw [after_self] at hlock
    rcases List.mem_append.mp hlock with hold | hnew
    · have hbefore := hp.held hlive lock hold hheld
      rw [hfile] at hbefore
      cases hbefore
    · rw [List.mem_singleton.mp hnew]
      rfl
  given lock hlock hgiven written hwritten := by
    rw [after_self] at hlock
    cases hwritten
    rcases List.mem_append.mp hlock with hold | hnew
    · exact (hown.unused lock hold).symm
    · rw [List.mem_singleton.mp hnew] at hgiven
      exact absurd rfl hgiven

/-- A recovery that removes the record of a process that has ended. -/
theorem Upholds.recovered (hp : Upholds host p w) (hlive : w.Live p)
    {existing : ProcessAwareLockRecord} (hfound : w.file = some (.record existing))
    (habandoned : Abandoned w existing) {process : Process}
    (hlife : process.life = (w.process p).life) (hlocks : process.locks = (w.process p).locks)
    (hpoint : PointSound host w p process.point) :
    Upholds host p (after w p (process, none)) where
  unborn h := absurd h (not_unborn hlive hlife)
  known _ h := by cases h
  point _ := by
    rw [after_self]
    exact hpoint.after hlife hlocks
  drawn := by
    rw [after_self, hlocks]
    exact hp.drawn
  distinct := by
    rw [after_self, hlocks]
    exact hp.distinct
  held _ lock hlock hheld := by
    rw [after_self, hlocks] at hlock
    have hown := hp.held hlive lock hlock hheld
    rw [hfound] at hown
    cases hown
    have hended := habandoned.dead p (hp.drawn lock hlock)
    unfold LockWorld.Live at hlive
    rw [hlive] at hended
    cases hended
  given _ _ _ _ h := by cases h

omit [DecidableEq P] in
/-- A lock of a process whose lock with a token was marked. -/
theorem mem_mark {process : Process} {ownerToken : String} {status : LockStatus}
    {lock : OwnedLock} (h : lock ∈ (process.mark ownerToken status).locks) :
    ∃ old ∈ process.locks, old.record = lock.record ∧
      (lock.status = old.status ∧ old.record.ownerToken ≠ ownerToken ∨ lock.status = status) := by
  obtain ⟨old, hold, rfl⟩ := List.mem_map.mp h
  by_cases htoken : old.record.ownerToken = ownerToken
  · rw [if_pos htoken]
    exact ⟨old, hold, rfl, Or.inr rfl⟩
  · rw [if_neg htoken]
    exact ⟨old, hold, rfl, Or.inl ⟨rfl, htoken⟩⟩

/-- A release that removes the file. -/
theorem Upholds.released (hp : Upholds host p w) (hlive : w.Live p) {ownerToken : String}
    (hpoint : (w.process p).point = .releaseRemoving ownerToken) (result : CallResult)
    {status : LockStatus} (hstatus : status ≠ .held) :
    Upholds host p (after w p (((w.process p).finish result).mark ownerToken status, none)) where
  unborn h := absurd h (not_unborn hlive rfl)
  known _ h := by cases h
  point _ := by
    rw [after_self]
    trivial
  drawn lock hlock := by
    rw [after_self] at hlock
    obtain ⟨old, hold, hrecord, -⟩ := mem_mark hlock
    rw [← hrecord]
    exact hp.drawn old hold
  distinct := by
    rw [after_self]
    unfold Process.mark
    rw [List.map_map]
    have hsame : ((fun lock : OwnedLock => lock.record.ownerToken) ∘ fun lock : OwnedLock =>
        if lock.record.ownerToken = ownerToken then { lock with status := status } else lock)
        = fun lock => lock.record.ownerToken := by
      funext lock
      show (if lock.record.ownerToken = ownerToken then { lock with status := status }
        else lock).record.ownerToken = lock.record.ownerToken
      split <;> rfl
    rw [hsame]
    exact hp.distinct
  held _ lock hlock hheld := by
    rw [after_self] at hlock
    obtain ⟨old, hold, -, hcase⟩ := mem_mark hlock
    have hsound := hp.point hlive
    rw [hpoint] at hsound
    obtain ⟨own, hown, htoken, hownHeld⟩ := hsound
    rcases hcase with ⟨hsame, hother⟩ | hmarked
    · -- Two locks that are held have one record in the file, so this is the released one.
      have h₁ := hp.held hlive old hold (hsame ▸ hheld)
      have h₂ := hp.held hlive own hown hownHeld
      have hrecord : old.record = own.record := by simpa using h₁.symm.trans h₂
      rw [hrecord] at hother
      exact absurd htoken hother
    · exact absurd (hmarked ▸ hheld) hstatus
  given _ _ _ _ h := by cases h

/-- A move of a process within the condition keeps what the process maintains. -/
theorem upholds_of_move (hp : Upholds host p w) (hlive : w.Live p) {fault : Fault}
    (hcondition : RecoversWhatItRead w (.operate p fault))
    (hmove : Move fault w.file (w.process p) r) : Upholds host p (after w p r) := by
  have hsound := hp.point hlive
  cases hmove with
  | stay => exact hp.moved hlive rfl rfl hsound
  | finish result => exact hp.moved hlive rfl rfl trivial
  | find record staleAgeMs hpoint =>
    rw [hpoint] at hsound
    exact hp.moved hlive rfl rfl hsound
  | read record staleAgeMs hpoint =>
    rw [hpoint] at hsound
    exact hp.moved hlive rfl rfl hsound
  | inspect record existing staleAgeMs hpoint hfile =>
    rw [hpoint] at hsound
    exact hp.moved hlive rfl rfl ⟨hsound, hp.known existing hfile⟩
  | recheck record existing hpoint =>
    rw [hpoint] at hsound
    exact hp.moved hlive rfl rfl hsound
  | matchToken ownerToken current hpoint hfile htoken =>
    rw [hpoint] at hsound
    obtain ⟨lock, hlock, hlockToken⟩ := hsound
    refine hp.moved hlive rfl rfl ⟨lock, hlock, hlockToken, ?_⟩
    -- The token of a lock that was given up is not in the file.
    by_contra hgiven
    exact hp.given lock hlock hgiven current hfile (htoken.trans hlockToken.symm)
  | acquire record hpoint hfile => exact hp.acquired hlive hfile (hsound.own hpoint)
  | writeAndFind record staleAgeMs hpoint hfile =>
    rw [hpoint] at hsound
    exact hp.wrote hlive hfile hsound rfl rfl hsound
  | writeAndThrow record hpoint hfile result =>
    rw [hpoint] at hsound
    exact hp.wrote hlive hfile hsound rfl rfl trivial
  | recover record existing hpoint hfault hfile =>
    have hfound := hcondition.found hpoint hfault hfile
    rw [hpoint] at hsound
    exact hp.recovered hlive hfound hsound.2 rfl rfl hsound.1
  | recoverAndThrow record existing hpoint hfault hfile result =>
    have hfound := hcondition.found hpoint hfault hfile
    rw [hpoint] at hsound
    exact hp.recovered hlive hfound hsound.2 rfl rfl trivial
  | release ownerToken hpoint result status hstatus =>
    exact hp.released hlive hpoint result hstatus

omit [DecidableEq P] in
/-- An old record whose inspected owner is not the one it names was abandoned. -/
theorem abandoned_of_canRecover {existing : ProcessAwareLockRecord} (hknown : Known host w existing)
    {now staleAgeMs : Int} {inspection : ProcessInspection}
    (htruthful : w.Truthful host existing.pid inspection)
    (hrecover : canRecover host existing now inspection staleAgeMs = true) :
    Abandoned w existing where
  seen := hknown.seen
  dead q hq := by
    have hborn := hknown.born q hq
    obtain ⟨hpid, hstart⟩ := hknown.named q hq
    by_contra hdead
    have hlive : w.Live q := by
      unfold LockWorld.Live
      cases hlife : (w.process q).life with
      | unborn => exact absurd hlife hborn
      | live => rfl
      | dead => exact absurd hlife hdead
    unfold canRecover at hrecover
    split at hrecover
    · cases hrecover
    · split at hrecover
      · cases hrecover
      · rcases htruthful q hlive hpid.symm with rfl | rfl
        · cases hrecover
        · exact absurd hstart.symm (of_decide_eq_true hrecover)

omit [DecidableEq P] in
/-- Drawing a fresh token changes nothing for any process. -/
theorem rely_of_draw {token : String} (hfresh : w.token token = .fresh) (p q : P) :
    Rely host q w (w.draw p token) where
  process := rfl
  tokens t ht := by
    show (if t = token then TokenOwner.drawn p else w.token t) = w.token t
    rw [if_neg]
    rintro rfl
    exact ht hfresh
  dead _ h := h
  born _ h := h
  kept _ _ h _ := h
  written _ h := Or.inl h

/-- A process that starts. -/
theorem Upholds.spawned (hp : Upholds host p w) (hunborn : (w.process p).life = .unborn) :
    Upholds host p (after w p ({ w.process p with life := .live }, w.file)) := by
  obtain ⟨hidle, hlocks⟩ := hp.unborn hunborn
  refine ⟨?_, ?_, ?_, ?_, ?_, ?_, ?_⟩
  · rw [after_self]
    intro h
    cases h
  · intro record hfile
    exact (hp.known record hfile).after (fun h => absurd hunborn h)
  · intro _
    rw [after_self, hidle]
    trivial
  · rw [after_self]
    exact hp.drawn
  · rw [after_self]
    exact hp.distinct
  · intro _ lock hlock
    rw [after_self, hlocks] at hlock
    cases hlock
  · rw [after_self]
    exact hp.given

/-- A process that ends. -/
theorem Upholds.ended (hp : Upholds host p w) :
    Upholds host p (after w p ({ w.process p with life := .dead }, w.file)) := by
  have hnotLive : ¬ (after w p ({ w.process p with life := .dead }, w.file)).Live p := by
    unfold LockWorld.Live
    rw [after_self]
    simp
  refine ⟨?_, ?_, fun h => absurd h hnotLive, ?_, ?_, fun h => absurd h hnotLive, ?_⟩
  · rw [after_self]
    intro h
    cases h
  · intro record hfile
    exact (hp.known record hfile).after (fun _ => by simp)
  · rw [after_self]
    exact hp.drawn
  · rw [after_self]
    exact hp.distinct
  · rw [after_self]
    exact hp.given

/-- What a process does without the file is within the rely of the others. -/
theorem Rely.of_process (hq : q ≠ p) {process : Process}
    (hdead : (w.process p).life = .dead → process.life = .dead)
    (hborn : (w.process p).life ≠ .unborn → process.life ≠ .unborn) :
    Rely host q w (after w p (process, w.file)) :=
  Rely.of_after hq hdead hborn (fun _ _ h _ => h) (fun _ h => Or.inl h)

/-- The call of `release` changes neither the life nor the locks of the process. -/
theorem callRelease_same (ownerToken : String) (process : Process) :
    (process.callRelease ownerToken).life = process.life ∧
      (process.callRelease ownerToken).locks = process.locks := by
  unfold Process.callRelease
  split
  · exact ⟨rfl, rfl⟩
  · exact ⟨rfl, rfl⟩

variable (host) in
omit [DecidableEq P] in
/-- An inspection changes neither the life nor the locks of the process. -/
theorem inspected_same (now : Int) (inspection : ProcessInspection) (process : Process) :
    (process.inspected host now inspection).life = process.life ∧
      (process.inspected host now inspection).locks = process.locks := by
  unfold Process.inspected
  split
  · split
    · exact ⟨rfl, rfl⟩
    · exact ⟨rfl, rfl⟩
  · exact ⟨rfl, rfl⟩

omit [DecidableEq P] in
/-- A truthful inspection leaves a call at a sound point. -/
theorem pointSound_inspected (hp : Upholds host p w) (hlive : w.Live p) {now : Int}
    {inspection : ProcessInspection}
    (htruthful : ∀ existing ∈ (w.process p).point.inspecting?,
      w.Truthful host existing.pid inspection) :
    PointSound host w p ((w.process p).inspected host now inspection).point := by
  have hsound := hp.point hlive
  unfold Process.inspected
  split
  next record existing staleAgeMs hpoint =>
    rw [hpoint] at hsound
    split
    · next hrecover =>
      have hinspected := htruthful existing (by rw [hpoint]; rfl)
      exact ⟨hsound.1, abandoned_of_canRecover hsound.2 hinspected hrecover⟩
    · trivial
  next => exact hsound

omit [DecidableEq P] in
/-- The record of a new acquisition belongs to the process that has drawn its token. -/
theorem own_lockRecord (hp : Upholds host p w) {token : String} (hfresh : w.token token = .fresh)
    (now : Int) :
    Own host (w.draw p token) p
      (lockRecord host p now token) where
  drawn := if_pos rfl
  pid := rfl
  processStart := rfl
  unused lock hlock hsame := by
    have hdrawn := hp.drawn lock hlock
    rw [show lock.record.ownerToken = token from hsame, hfresh] at hdrawn
    cases hdrawn

/-- The steps within the condition meet the three obligations. -/
theorem relyGuarantee (host : LockHost P) :
    RelyGuarantee (Guarded (LockStep host) RecoversWhatItRead) LockAction.actor
      (Upholds host) (Rely host) where
  stable _ _ _ h hr := h.stable hr
  own w a w' hall hstep := by
    obtain ⟨hcondition, hallowed, rfl⟩ := hstep
    have hp := hall a.actor
    cases a with
    | spawn p => exact hp.spawned hallowed
    | die p => exact hp.ended
    | acquire p ownerToken now staleAgeMs =>
      obtain ⟨hlive, -, hfresh⟩ := hallowed
      have hdrawn := hp.stable (rely_of_draw hfresh p p)
      exact hdrawn.moved hlive rfl rfl (own_lockRecord hp hfresh now)
    | release p ownerToken =>
      obtain ⟨hlive, -, hlock⟩ := hallowed
      obtain ⟨hlife, hlocks⟩ := callRelease_same ownerToken (w.process p)
      refine hp.moved hlive hlife hlocks ?_
      show PointSound host w p ((w.process p).callRelease ownerToken).point
      unfold Process.callRelease
      split
      · trivial
      · exact hlock
    | inspect p now inspection =>
      obtain ⟨hlive, existing, hexisting, htruthful⟩ := hallowed
      obtain ⟨hlife, hlocks⟩ := inspected_same host now inspection (w.process p)
      refine hp.moved hlive hlife hlocks (pointSound_inspected hp hlive ?_)
      intro other hother
      cases Option.mem_unique hother hexisting
      exact htruthful
    | operate p fault =>
      exact upholds_of_move hp hallowed hcondition (operate_move host fault w.file _)
  guarantee w a w' q hall hstep hq := by
    obtain ⟨hcondition, hallowed, rfl⟩ := hstep
    have hp := hall a.actor
    cases a with
    | spawn p =>
      have hunborn : (w.process p).life = .unborn := hallowed
      refine Rely.of_process hq (fun h => ?_) (by simp)
      rw [show (w.process p).life = .dead from h] at hunborn
      cases hunborn
    | die p => exact Rely.of_process hq (by simp) (by simp)
    | acquire p ownerToken now staleAgeMs =>
      have hdraw : Rely host q w (w.draw p ownerToken) := rely_of_draw hallowed.2.2 p q
      have hcall : Rely host q (w.draw p ownerToken)
          (after (w.draw p ownerToken) p ((w.process p).goTo
            (.creating (lockRecord host p now ownerToken) staleAgeMs), w.file)) :=
        Rely.of_process hq id id
      exact ⟨hcall.process, hdraw.tokens, hcall.dead, hcall.born, hdraw.kept,
        fun _ h => Or.inl h⟩
    | release p ownerToken =>
      obtain ⟨hlife, -⟩ := callRelease_same ownerToken (w.process p)
      exact Rely.of_process hq (hlife.trans ·) (fun h => hlife ▸ h)
    | inspect p now inspection =>
      obtain ⟨hlife, -⟩ := inspected_same host now inspection (w.process p)
      exact Rely.of_process hq (hlife.trans ·) (fun h => hlife ▸ h)
    | operate p fault =>
      exact rely_of_move hp hallowed hcondition (operate_move host fault w.file _) hq

/-! ### Every run -/

omit [DecidableEq P] in
/-- At the start every process maintains its part. -/
theorem upholds_initial (hw : w.Initial) (host : LockHost P) (p : P) : Upholds host p w := by
  have hprocess := hw.unborn p
  refine ⟨?_, ?_, ?_, ?_, ?_, ?_, ?_⟩
  · rw [hprocess]
    exact fun _ => ⟨rfl, rfl⟩
  · intro record hfile
    have hforeign := hw.foreign record hfile
    refine ⟨by rw [hforeign]; simp, ?_, ?_⟩
    · intro q hq
      exact absurd hq (hw.undrawn _ q)
    · intro q hq
      exact absurd hq (hw.undrawn _ q)
  · rw [hprocess]
    exact fun _ => trivial
  · rw [hprocess]
    exact fun _ h => absurd h List.not_mem_nil
  · rw [hprocess]
    simp
  · rw [hprocess]
    exact fun _ _ h => absurd h List.not_mem_nil
  · rw [hprocess]
    exact fun _ h => absurd h List.not_mem_nil

omit [DecidableEq P] in
/-- Two holders have the same record in the file, and so the same token. -/
theorem atMostOneHolder (hall : ∀ p, Upholds host p w) : AtMostOneHolder w := by
  rintro p q ⟨hp, lock, hlock, hheld⟩ ⟨hq, other, hother, hheld'⟩
  have hfile := (hall p).held hp lock hlock hheld
  rw [(hall q).held hq other hother hheld'] at hfile
  have hrecord : other.record = lock.record := by simpa using hfile
  have hdrawn := (hall p).drawn lock hlock
  rw [← hrecord, (hall q).drawn other hother] at hdrawn
  cases hdrawn
  rfl

/-- A step within the condition removes no record of another live process. -/
theorem not_removesAnothers (hall : ∀ p, Upholds host p w) {a : LockAction P}
    (hstep : Guarded (LockStep host) RecoversWhatItRead w a w') : ¬ RemovesAnothers w a w' := by
  rintro ⟨record, q, hfile, hremoved, hdrawn, hq, hlive⟩
  have hrely := (relyGuarantee host).guarantee w a w' q hall hstep hq
  have hkept := hrely.kept hlive record hfile hdrawn
  rw [hremoved] at hkept
  cases hkept

/-- In every run whose recoveries remove the record they have read, at most one live process
holds the lock, and no step removes a record that another live process has created. -/
theorem processLock_exclusive (host : LockHost P) {as : List (LockAction P)} (hw : w.Initial)
    (hrun : Run (Guarded (LockStep host) RecoversWhatItRead) w as w') :
    AtMostOneHolder w' ∧
      ∀ a w'', Guarded (LockStep host) RecoversWhatItRead w' a w'' →
        ¬ RemovesAnothers w' a w'' := by
  have hall : ∀ p, Upholds host p w' :=
    hrun.relyGuarantee (relyGuarantee host) (upholds_initial hw host)
  exact ⟨atMostOneHolder hall, fun a w'' hstep => not_removesAnothers hall hstep⟩

end

/-! ### Two recoveries of one record -/

section
variable [Fintype P] [DecidableEq P] (host : LockHost P) (w : LockWorld P)

instance (pid : Int) (inspection : ProcessInspection) :
    Decidable (w.Truthful host pid inspection) :=
  inferInstanceAs (Decidable (∀ _, _ → _ → _ ∨ _))

instance : (a : LockAction P) → Decidable (w.Allowed host a)
  | .spawn _ => inferInstanceAs (Decidable (_ = _))
  | .die _ => inferInstanceAs (Decidable (_ = _))
  | .acquire _ _ _ _ => inferInstanceAs (Decidable (_ ∧ _ = _ ∧ _ = _))
  | .release _ _ => inferInstanceAs (Decidable (_ ∧ _ = _ ∧ ∃ _ ∈ _, _))
  | .inspect p _ inspection =>
    inferInstanceAs (Decidable (_ ∧ ∃ existing ∈ (w.process p).point.inspecting?,
      w.Truthful host existing.pid inspection))
  | .operate _ _ => inferInstanceAs (Decidable (_ = _))

instance : (a : LockAction P) → Decidable (RecoversWhatItRead w a)
  | .operate p fault =>
    match hpoint : (w.process p).point with
    | .removing _ existing =>
      decidable_of_iff (fault = .before ∨ w.file = none ∨ w.file = some (.record existing))
        (by simp only [RecoversWhatItRead, hpoint])
    | .idle | .creating _ _ | .finding _ _ | .reading _ _ | .inspecting _ _ _ | .rechecking _ _
    | .recreating _ | .releaseReading _ | .releaseRemoving _ =>
      isTrue (by simp only [RecoversWhatItRead, hpoint])
  | .spawn _ | .die _ | .acquire _ _ _ _ | .release _ _ | .inspect _ _ _ => isTrue trivial

instance (p : P) : Decidable (Holds w p) := inferInstanceAs (Decidable (_ ∧ ∃ _ ∈ _, _))

end

/-- Three processes of one host, and the two instants of the runs below. -/
def threeProcesses : LockHost (Fin 3) where
  pid p := 100 + p.val
  processStart _ := "7"
  dateParse
    | "1970-01-01T00:00:00.000Z" => some 0
    | "1970-01-01T00:05:00.000Z" => some 300000
    | _ => none
  toISOString
    | 300000 => "1970-01-01T00:05:00.000Z"
    | _ => "1970-01-01T00:00:00.000Z"

/-- Nothing has run, and there is no file. -/
def noProcesses : LockWorld (Fin 3) := ⟨none, fun _ => ⟨.unborn, .idle, [], none⟩, fun _ => .fresh⟩

/-- A process takes the lock and ends, without a release. -/
def abandonedLock : List (LockAction (Fin 3)) :=
  [.spawn 0, .acquire 0 "00000000000000000000000000000000" 0 defaultStaleLockAgeMs,
    .operate 0 .none, .die 0]

/-- A process reads the abandoned record, inspects its owner and reads the record again. -/
def recheckedBy (p : Fin 3) (ownerToken : String) : List (LockAction (Fin 3)) :=
  [.spawn p, .acquire p ownerToken 300000 defaultStaleLockAgeMs, .operate p .none,
    .operate p .none, .operate p .none, .inspect p 300000 .absent, .operate p .none]

/-- A process removes the file and creates its own. -/
def replacedBy (p : Fin 3) : List (LockAction (Fin 3)) := [.operate p .none, .operate p .none]

/-- Two processes recover the abandoned record at once. -/
def twoRecoveries : List (LockAction (Fin 3)) :=
  abandonedLock ++ recheckedBy 1 "11111111111111111111111111111111" ++
    recheckedBy 2 "22222222222222222222222222222222" ++ replacedBy 1 ++ replacedBy 2

theorem noProcesses_initial : noProcesses.Initial where
  unborn _ := rfl
  undrawn _ _ h := by cases h
  foreign _ h := by cases h

theorem twoRecoveries_run :
    Run (LockStep threeProcesses) noProcesses twoRecoveries
      (twoRecoveries.foldl (LockWorld.perform threeProcesses) noProcesses) :=
  Run.of_allAllowed (fun _ _ h => ⟨h, rfl⟩)
    (show AllAllowed (LockWorld.Allowed threeProcesses) _ _ _ by decide +kernel)

/-- The second recovery removes the record that the first one has just created. -/
theorem not_mutualExclusion : ¬ MutualExclusion := by
  intro hall
  have hone := (hall (Fin 3) threeProcesses noProcesses twoRecoveries _ noProcesses_initial
    twoRecoveries_run).1
  have hholds : Holds (twoRecoveries.foldl (LockWorld.perform threeProcesses) noProcesses) 1 ∧
      Holds (twoRecoveries.foldl (LockWorld.perform threeProcesses) noProcesses) 2 := by
    decide +kernel
  exact absurd (hone 1 2 hholds.1 hholds.2) (by decide)

/-- One process alone recovers the abandoned record and holds the lock. -/
theorem processLock_exclusive_recovery :
    ∃ as w, Run (Guarded (LockStep threeProcesses) RecoversWhatItRead) noProcesses as w ∧
      Holds w 1 ∧ AtMostOneHolder w := by
  have hrun : Run (Guarded (LockStep threeProcesses) RecoversWhatItRead) noProcesses
      (abandonedLock ++ recheckedBy 1 "11111111111111111111111111111111" ++ replacedBy 1) _ :=
    Run.of_allAllowed (fun _ _ h => ⟨h.2, h.1, rfl⟩)
      (show AllAllowed (fun w a => LockWorld.Allowed threeProcesses w a ∧ RecoversWhatItRead w a)
        (LockWorld.perform threeProcesses) _ _ by decide +kernel)
  exact ⟨_, _, hrun, by decide +kernel,
    (processLock_exclusive threeProcesses noProcesses_initial hrun).1⟩

end Ariava.Proofs.ProcessLockExclusion
