import Ariava.Lib.Run

/-!
# `Ariava.HostManager.ProcessAwareLock`: the lock file of `process-aware-lock.ts`

A process takes the lock by creating the lock file, exclusively, with a record that names the
process. A record whose owner is gone is recovered: the file is read, the owner inspected, the
file read again and compared, then removed and created anew. A release reads the file, compares
the owner token and removes it.

Between two file operations of one process any other process may take a step. So a call is
modelled by the operation it is about to make (`Point`), with the values it has read so far, and
`LockStep` interleaves the operations of all processes. `Process.operate` and
`Process.inspected` are the code of `acquireProcessAwareLock` and of `release` between two
operations.

- The file is `none` when there is none. `removeSecureFile` unlinks whatever file is at the
  path, and `writeSecureJsonExclusive` fails when there is one.
- An operation may fail before it takes effect, or after it (`Fault`), as a failed sync of the
  directory does.
- `LockHost` says which pid and start each process has, and gives `Date.parse` and
  `toISOString`.
- `LockWorld.token` records who drew a token. No code reads it. An owner token has 24 random
  bytes, so a token that is drawn was never seen before.
-/

set_option autoImplicit false

namespace Ariava.HostManager

open Ariava.Lib

/-! ### Records and files -/

/-- `ProcessAwareLockRecord`. The field `others` has the members that the interface does not
declare, which `JSON.stringify` compares too. -/
structure ProcessAwareLockRecord where
  schemaVersion : Int
  pid : Int
  processStart : String
  createdAt : String
  ownerToken : String
  others : List (String × String)
  deriving DecidableEq, Repr

/-- What is at the path of the lock: a record, or a file that `assertSecure` or `read` rejects
or whose fields have other types. -/
inductive LockFile
  | unreadable
  | record (record : ProcessAwareLockRecord)
  deriving DecidableEq, Repr

/-- `ProcessInspection`. -/
inductive ProcessInspection
  | alive (processStart : String)
  | absent
  | unprovable
  deriving DecidableEq, Repr

/-- What the processes run on: their pids and starts, and the conversions of dates. -/
structure LockHost (P : Type) where
  pid : P → Int
  processStart : P → String
  dateParse : String → Option Int
  toISOString : Int → String

/-- `PROCESS_AWARE_LOCK_SCHEMA_VERSION`. -/
def processAwareLockSchemaVersion : Int := 1

/-- `DEFAULT_STALE_LOCK_AGE_MS`. -/
def defaultStaleLockAgeMs : Int := 5 * 60000

/-- `Number.MAX_SAFE_INTEGER`. -/
def maxSafeInteger : Int := 9007199254740991

/-- `/^[0-9a-f]{32,}$/`. -/
def isOwnerToken (token : String) : Bool :=
  decide (32 ≤ token.toList.length) &&
    token.toList.all fun c => ('0' ≤ c && c ≤ '9') || ('a' ≤ c && c ≤ 'f')

section
variable {P : Type} (host : LockHost P)

/-- The checks of `readValidatedRecord` on the fields. -/
def isValidRecord (record : ProcessAwareLockRecord) : Bool :=
  decide (record.schemaVersion = 1) &&
  decide (record.pid ≤ maxSafeInteger) && decide (0 < record.pid) &&
  decide (record.processStart ≠ "") &&
  (host.dateParse record.createdAt).isSome &&
  isOwnerToken record.ownerToken

/-- `canRecover`: the record is old enough, and its owner is gone or is another process under
the same pid. -/
def canRecover (record : ProcessAwareLockRecord) (now : Int) (inspection : ProcessInspection)
    (staleAgeMs : Int) : Bool :=
  match host.dateParse record.createdAt with
  | none => false
  | some created =>
    if now - created < staleAgeMs then false
    else match inspection with
      | .absent => true
      | .alive processStart => decide (processStart ≠ record.processStart)
      | .unprovable => false

/-! ### Operations on the file -/

/-- Where an operation fails, if it does. -/
inductive Fault
  | none
  | before
  | after
  deriving DecidableEq, Repr

/-- How an operation that changes the file ends: `unsynced` took effect and then threw. -/
inductive Completion
  | done
  | failed
  | unsynced
  deriving DecidableEq, Repr

/-- `create`: an exclusive link of the new file. -/
def create (fault : Fault) (record : ProcessAwareLockRecord) :
    Option LockFile → Completion × Option LockFile
  | some file => (.failed, some file)
  | none =>
    match fault with
    | .none => (.done, some (.record record))
    | .before => (.failed, none)
    | .after => (.unsynced, some (.record record))

/-- `remove`: an unlink of whatever file is there. -/
def remove (fault : Fault) : Option LockFile → Completion × Option LockFile
  | none => (.failed, none)
  | some file =>
    match fault with
    | .none => (.done, none)
    | .before => (.failed, some file)
    | .after => (.unsynced, none)

/-- `readValidatedRecord`. It throws `lockedError` where this is `none`. -/
def readValidatedRecord (fault : Fault) (file : Option LockFile) :
    Option ProcessAwareLockRecord :=
  match fault, file with
  | .none, some (.record record) => if isValidRecord host record then some record else none
  | _, _ => none

/-! ### Processes -/

/-- What a call throws: the error of the caller, or the one of the file operation. -/
inductive LockError
  | locked
  | file
  deriving DecidableEq, Repr

/-- How the last call of a process ended. -/
inductive CallResult
  | acquired
  | released
  | threw (error : LockError)
  deriving DecidableEq, Repr

/-- A lock that a call returned. `released` is the variable of the closure; `dropped` is a lock
whose release removed the file and then threw, so the variable is still false. -/
inductive LockStatus
  | held
  | dropped
  | released
  deriving DecidableEq, Repr

/-- `OwnedProcessAwareLock`. -/
structure OwnedLock where
  record : ProcessAwareLockRecord
  status : LockStatus
  deriving DecidableEq, Repr

/-- The operation that a call is about to make. -/
inductive Point
  | idle
  /-- The first `create` of an acquisition. -/
  | creating (record : ProcessAwareLockRecord) (staleAgeMs : Int)
  /-- `exists`, after a failed `create`. -/
  | finding (record : ProcessAwareLockRecord) (staleAgeMs : Int)
  | reading (record : ProcessAwareLockRecord) (staleAgeMs : Int)
  /-- `canRecover` of the record that was read. -/
  | inspecting (record existing : ProcessAwareLockRecord) (staleAgeMs : Int)
  | rechecking (record existing : ProcessAwareLockRecord)
  | removing (record existing : ProcessAwareLockRecord)
  /-- The second `create` of an acquisition. -/
  | recreating (record : ProcessAwareLockRecord)
  | releaseReading (ownerToken : String)
  | releaseRemoving (ownerToken : String)
  deriving DecidableEq, Repr

/-- The record whose owner is inspected next. -/
def Point.inspecting? : Point → Option ProcessAwareLockRecord
  | .inspecting _ existing _ => some existing
  | _ => none

/-- The record that a `create` writes next. -/
def Point.creates? : Point → Option ProcessAwareLockRecord
  | .creating record _ => some record
  | .recreating record => some record
  | _ => none

/-- Whether a process has started, runs, or has ended. -/
inductive Life
  | unborn
  | live
  | dead
  deriving DecidableEq, Repr

/-- A process: its life, the call it is in, the locks it was given, and the last result. -/
structure Process where
  life : Life
  point : Point
  locks : List OwnedLock
  result : Option CallResult
  deriving DecidableEq, Repr

namespace Process

/-- The call goes on with another operation. -/
def goTo (process : Process) (point : Point) : Process := { process with point }

/-- The call ends. -/
def finish (process : Process) (result : CallResult) : Process :=
  { process with point := .idle, result := some result }

/-- The acquisition returns the lock. -/
def acquired (process : Process) (record : ProcessAwareLockRecord) : Process :=
  { process.finish .acquired with locks := process.locks ++ [⟨record, .held⟩] }

/-- The lock with the token changes its status. -/
def mark (process : Process) (ownerToken : String) (status : LockStatus) : Process :=
  { process with
    locks := process.locks.map fun lock =>
      if lock.record.ownerToken = ownerToken then { lock with status } else lock }

@[simp] theorem goTo_life (p : Process) (point : Point) : (p.goTo point).life = p.life := rfl

@[simp] theorem goTo_locks (p : Process) (point : Point) : (p.goTo point).locks = p.locks := rfl

@[simp] theorem goTo_point (p : Process) (point : Point) : (p.goTo point).point = point := rfl

@[simp] theorem finish_life (p : Process) (r : CallResult) : (p.finish r).life = p.life := rfl

@[simp] theorem finish_locks (p : Process) (r : CallResult) : (p.finish r).locks = p.locks := rfl

@[simp] theorem finish_point (p : Process) (r : CallResult) : (p.finish r).point = .idle := rfl

/-- What a call does with the file operation it is about to make: the process and the file
afterwards. -/
def operate (fault : Fault) (file : Option LockFile) (process : Process) :
    Process × Option LockFile :=
  match process.point with
  | .creating record staleAgeMs =>
    match create fault record file with
    | (.done, file') => (process.acquired record, file')
    | (_, file') => (process.goTo (.finding record staleAgeMs), file')
  | .finding record staleAgeMs =>
    -- Without a file the error of `create` is thrown again; `exists` itself may throw too.
    if fault ≠ .none ∨ file = none then (process.finish (.threw .file), file)
    else (process.goTo (.reading record staleAgeMs), file)
  | .reading record staleAgeMs =>
    match readValidatedRecord host fault file with
    | none => (process.finish (.threw .locked), file)
    | some existing => (process.goTo (.inspecting record existing staleAgeMs), file)
  | .rechecking record existing =>
    match readValidatedRecord host fault file with
    | none => (process.finish (.threw .locked), file)
    | some rechecked =>
      if rechecked ≠ existing then (process.finish (.threw .locked), file)
      else (process.goTo (.removing record existing), file)
  | .removing record _ =>
    match remove fault file with
    | (.done, file') => (process.goTo (.recreating record), file')
    | (_, file') => (process.finish (.threw .file), file')
  | .recreating record =>
    match create fault record file with
    | (.done, file') => (process.acquired record, file')
    | (_, file') => (process.finish (.threw .locked), file')
  | .releaseReading ownerToken =>
    match readValidatedRecord host fault file with
    | none => (process.finish (.threw .locked), file)
    | some current =>
      -- The token is another one: `release` returns, and `released` stays false.
      if current.ownerToken ≠ ownerToken then (process.finish .released, file)
      else (process.goTo (.releaseRemoving ownerToken), file)
  | .releaseRemoving ownerToken =>
    match remove fault file with
    | (.done, file') => ((process.finish .released).mark ownerToken .released, file')
    | (.failed, file') => (process.finish (.threw .file), file')
    | (.unsynced, file') => ((process.finish (.threw .file)).mark ownerToken .dropped, file')
  | .idle => (process, file)
  | .inspecting _ _ _ => (process, file)

/-- What an acquisition does with the inspection of the owner. -/
def inspected (now : Int) (inspection : ProcessInspection) (process : Process) : Process :=
  match process.point with
  | .inspecting record existing staleAgeMs =>
    if canRecover host existing now inspection staleAgeMs then
      process.goTo (.rechecking record existing)
    else process.finish (.threw .locked)
  | _ => process

/-- The call of `release` on the lock with the token. -/
def callRelease (ownerToken : String) (process : Process) : Process :=
  if process.locks.any fun lock =>
      decide (lock.record.ownerToken = ownerToken) && decide (lock.status = .released) then
    process.finish .released
  else process.goTo (.releaseReading ownerToken)

end Process

/-- The record of an acquisition. -/
def lockRecord (p : P) (now : Int) (ownerToken : String) : ProcessAwareLockRecord where
  schemaVersion := processAwareLockSchemaVersion
  pid := host.pid p
  processStart := host.processStart p
  createdAt := host.toISOString now
  ownerToken
  others := []

end

/-! ### The processes together -/

/-- Who drew a token. A `foreign` token was on the disk at the start. -/
inductive TokenOwner (P : Type)
  | fresh
  | foreign
  | drawn (owner : P)
  deriving DecidableEq

/-- The lock file, the processes, and who drew which token. -/
structure LockWorld (P : Type) where
  file : Option LockFile
  process : P → Process
  token : String → TokenOwner P

/-- One step of the processes. -/
inductive LockAction (P : Type)
  | spawn (p : P)
  | die (p : P)
  | acquire (p : P) (ownerToken : String) (now staleAgeMs : Int)
  | release (p : P) (ownerToken : String)
  | inspect (p : P) (now : Int) (inspection : ProcessInspection)
  | operate (p : P) (fault : Fault)

/-- The process that takes the step. -/
def LockAction.actor {P : Type} : LockAction P → P
  | .spawn p => p
  | .die p => p
  | .acquire p _ _ _ => p
  | .release p _ => p
  | .inspect p _ _ => p
  | .operate p _ => p

namespace LockWorld

variable {P : Type}

/-- The process runs. -/
def Live (w : LockWorld P) (p : P) : Prop := (w.process p).life = .live

instance (w : LockWorld P) (p : P) : Decidable (w.Live p) :=
  inferInstanceAs (Decidable (_ = _))

/-- What an inspection of a pid says is true of the processes that run: it does not report one
of them as absent, nor with another start. -/
def Truthful (host : LockHost P) (w : LockWorld P) (pid : Int)
    (inspection : ProcessInspection) : Prop :=
  ∀ q, w.Live q → host.pid q = pid →
    inspection = .unprovable ∨ inspection = .alive (host.processStart q)

/-- The process can take the step. -/
def Allowed (host : LockHost P) (w : LockWorld P) : LockAction P → Prop
  | .spawn p => (w.process p).life = .unborn
  | .die p => w.Live p
  | .acquire p ownerToken _ _ =>
    w.Live p ∧ (w.process p).point = .idle ∧ w.token ownerToken = .fresh
  | .release p ownerToken =>
    w.Live p ∧ (w.process p).point = .idle ∧
      ∃ lock ∈ (w.process p).locks, lock.record.ownerToken = ownerToken
  | .inspect p _ inspection =>
    w.Live p ∧ ∃ existing ∈ (w.process p).point.inspecting?,
      Truthful host w existing.pid inspection
  | .operate p _ => w.Live p

variable [DecidableEq P]

/-- A process changes. -/
def setProcess (w : LockWorld P) (p : P) (process : Process) : LockWorld P :=
  { w with process := fun q => if q = p then process else w.process q }

/-- A process draws a token. -/
def draw {P : Type} (w : LockWorld P) (p : P) (ownerToken : String) : LockWorld P :=
  { w with token := fun token => if token = ownerToken then .drawn p else w.token token }

/-- What a step does. -/
def perform (host : LockHost P) (w : LockWorld P) : LockAction P → LockWorld P
  | .spawn p => w.setProcess p { w.process p with life := .live }
  | .die p => w.setProcess p { w.process p with life := .dead }
  | .acquire p ownerToken now staleAgeMs =>
    (w.draw p ownerToken).setProcess p
      ((w.process p).goTo (.creating (lockRecord host p now ownerToken) staleAgeMs))
  | .release p ownerToken => w.setProcess p ((w.process p).callRelease ownerToken)
  | .inspect p now inspection =>
    w.setProcess p ((w.process p).inspected host now inspection)
  | .operate p fault =>
    { w.setProcess p ((w.process p).operate host fault w.file).1 with
      file := ((w.process p).operate host fault w.file).2 }

@[simp] theorem setProcess_file (w : LockWorld P) (p : P) (process : Process) :
    (w.setProcess p process).file = w.file := rfl

@[simp] theorem setProcess_token (w : LockWorld P) (p : P) (process : Process) :
    (w.setProcess p process).token = w.token := rfl

@[simp] theorem setProcess_self (w : LockWorld P) (p : P) (process : Process) :
    (w.setProcess p process).process p = process := if_pos rfl

theorem setProcess_ne (w : LockWorld P) {p q : P} (process : Process) (h : q ≠ p) :
    (w.setProcess p process).process q = w.process q := if_neg h

end LockWorld

/-- The steps of the processes, in any order. -/
def LockStep {P : Type} [DecidableEq P] (host : LockHost P) (w : LockWorld P)
    (a : LockAction P) (w' : LockWorld P) : Prop :=
  w.Allowed host a ∧ w' = w.perform host a

/-- At the start no process has run. Any file may be at the path, and a token in it is not
drawn again. -/
structure LockWorld.Initial {P : Type} (w : LockWorld P) : Prop where
  unborn : ∀ p, w.process p = ⟨.unborn, .idle, [], none⟩
  undrawn : ∀ token p, w.token token ≠ .drawn p
  foreign : ∀ record, w.file = some (.record record) → w.token record.ownerToken = .foreign

end Ariava.HostManager
