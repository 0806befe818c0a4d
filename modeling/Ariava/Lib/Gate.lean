import Ariava.Lib.Run

/-!
# `Ariava.Lib.Gate`: an item that waits until its owner is idle

A gate holds back at most one item, the newest that was staged. Its owner is busy or idle. An
item is offered to a sink only while the owner is idle, and the sink takes it or refuses it.
After a refusal a timer is armed, and the item is offered again when it fires.

The step relation says when each move is allowed. A gate is `due` after a move that must be
followed by an offer: the owner became idle, or the timer fired, or an item was staged for an
idle owner with no timer. Nothing else is allowed while a gate is due.

The name under which an item is cancelled is a parameter.

- `Gate.run_staged`, `Gate.run_busy`: what is staged, and whether the owner is busy, can be
  read off the moves.
- `Gate.offered_newest`: an item is offered only when it is the newest one that was staged and
  neither cancelled nor taken, and the owner is idle.
- `Gate.staged_again`: what is offered after an item was taken was staged after that.
- `Gate.offered_after_clear`: what waits is offered as soon as the owner becomes idle.
- `Gate.Waiting.run`: an item that waits for an idle owner has a timer, or is due.
- `Gate.run_calls`: the calls of the sink are those of the moves.
-/

set_option autoImplicit false

namespace Ariava.Lib

universe u v

variable {ι : Type u} {ν : Type v}

/-- A call of the sink: an item is offered, or its name is cancelled. -/
inductive GateCall (ι : Type u) (ν : Type v)
  | offered (item : ι) (taken : Bool)
  | cancelled (name : ν)
deriving DecidableEq

/-- The state of a gate, with the calls of the sink, latest first. -/
@[ext] structure Gate (ι : Type u) (ν : Type v) where
  staged : Option ι
  busy : Bool
  armed : Bool
  due : Bool
  calls : List (GateCall ι ν)

/-- A move of a gate. -/
inductive GateMove (ι : Type u)
  /-- The owner becomes busy. -/
  | begin
  /-- The owner becomes idle. -/
  | clear
  /-- The timer fires. -/
  | fire
  /-- The timer is dropped, with nothing staged. -/
  | disarm
  | stage (item : ι)
  | cancel (item : ι)
  | offer (item : ι) (taken : Bool)
deriving DecidableEq

namespace GateMove

/-- The move stages an item. -/
def isStage : GateMove ι → Bool
  | stage _ => true
  | _ => false

/-- The call of the sink in a move. -/
def call (name : ι → ν) : GateMove ι → Option (GateCall ι ν)
  | cancel item => some (.cancelled (name item))
  | offer item taken => some (.offered item taken)
  | _ => none

/-- What is staged after a move. -/
def staged : Option ι → GateMove ι → Option ι
  | _, stage item => some item
  | _, cancel _ => none
  | _, offer _ true => none
  | before, _ => before

/-- Whether the owner is busy after a move. -/
def busy : Bool → GateMove ι → Bool
  | _, begin => true
  | _, clear => false
  | before, _ => before

end GateMove

/-- The newest item that the moves staged and neither cancelled nor handed over. -/
def newest (before : Option ι) (moves : List (GateMove ι)) : Option ι :=
  moves.foldl GateMove.staged before

/-- Whether the owner is busy after the moves. -/
def busyAfter (before : Bool) (moves : List (GateMove ι)) : Bool :=
  moves.foldl GateMove.busy before

namespace Gate

/-- A move is allowed. -/
def Allows (g : Gate ι ν) : GateMove ι → Prop
  | .begin | .clear | .fire | .stage _ => g.due = false
  | .disarm => g.due = false ∧ g.staged = none
  | .cancel item => g.due = false ∧ g.staged = some item
  | .offer item _ => g.busy = false ∧ g.staged = some item

/-- The gate after a move. -/
def move (name : ι → ν) (g : Gate ι ν) : GateMove ι → Gate ι ν
  | .begin => { g with busy := true }
  | .clear => { g with busy := false, due := g.staged.isSome }
  | .fire => { g with armed := false, due := g.staged.isSome && !g.busy }
  | .disarm => { g with armed := false }
  | .stage item => { g with staged := some item, due := !g.busy && !g.armed }
  | .cancel item => { g with
      staged := none
      armed := false
      calls := .cancelled (name item) :: g.calls }
  | .offer item true => { g with
      staged := none
      armed := false
      due := false
      calls := .offered item true :: g.calls }
  | .offer item false =>
      { g with armed := true, due := false, calls := .offered item false :: g.calls }

/-- A step of a gate. -/
def Step (name : ι → ν) (g : Gate ι ν) (m : GateMove ι) (g' : Gate ι ν) :
    Prop :=
  g.Allows m ∧ g' = g.move name m

/-- An item that waits for an idle owner has a timer, or is about to be offered. -/
def Waiting (g : Gate ι ν) : Prop :=
  g.staged.isSome = true → g.busy = false → g.armed = true ∨ g.due = true

variable {name : ι → ν} {g g' : Gate ι ν} {m : GateMove ι}
  {moves : List (GateMove ι)}

/-! ### One move -/

theorem move_staged : (g.move name m).staged = m.staged g.staged := by
  cases m with
  | offer item taken => cases taken <;> rfl
  | _ => rfl

theorem move_busy : (g.move name m).busy = m.busy g.busy := by
  cases m with
  | offer item taken => cases taken <;> rfl
  | _ => rfl

theorem move_calls : (g.move name m).calls = (m.call name).toList ++ g.calls := by
  cases m with
  | offer item taken => cases taken <;> rfl
  | _ => rfl

/-- After any move, an item of an idle owner has a timer or is due. -/
theorem waiting_of_step (hstep : Step name g m g') : g'.Waiting := by
  obtain ⟨hallowed, rfl⟩ := hstep
  cases m with
  | begin =>
    intro _ hidle
    cases hidle
  | clear => exact fun hstaged _ => .inr hstaged
  | fire =>
    intro hstaged hidle
    have hidle' : g.busy = false := hidle
    exact .inr (by simp [Gate.move, show g.staged.isSome = true from hstaged, hidle'])
  | disarm =>
    intro hstaged
    have hnone : (g.move name .disarm).staged = none := hallowed.2
    rw [hnone] at hstaged
    cases hstaged
  | stage item =>
    intro _ hidle
    have hidle' : g.busy = false := hidle
    rcases harmed : g.armed with _ | _
    · exact .inr (by simp [Gate.move, hidle', harmed])
    · exact .inl harmed
  | cancel item =>
    intro hstaged
    cases hstaged
  | offer item taken =>
    cases taken with
    | true =>
      intro hstaged
      cases hstaged
    | false => exact fun _ _ => .inl rfl

/-! ### Runs -/

/-- What is staged at the end of a run. -/
theorem run_staged (hrun : Run (Step name) g moves g') :
    g'.staged = newest g.staged moves := by
  induction hrun with
  | nil => rfl
  | snoc _ hlast ih =>
    rw [hlast.2, move_staged, ih, newest, newest, List.foldl_append]
    rfl

/-- Whether the owner is busy at the end of a run. -/
theorem run_busy (hrun : Run (Step name) g moves g') :
    g'.busy = busyAfter g.busy moves := by
  induction hrun with
  | nil => rfl
  | snoc _ hlast ih =>
    rw [hlast.2, move_busy, ih, busyAfter, busyAfter, List.foldl_append]
    rfl

/-- The calls of the sink in a run. -/
theorem run_calls (hrun : Run (Step name) g moves g') :
    g'.calls = (moves.filterMap (GateMove.call name)).reverse ++ g.calls := by
  induction hrun with
  | nil => rfl
  | @snoc _ _ _ m _ hlast ih =>
    rw [hlast.2, move_calls, ih, List.filterMap_append, List.reverse_append, List.append_assoc]
    cases hcall : m.call name <;> simp [hcall]

/-- A run keeps an item of an idle owner waiting. -/
theorem Waiting.run (hrun : Run (Step name) g moves g') (h : g.Waiting) : g'.Waiting :=
  hrun.invariant (fun _ _ _ _ hstep => waiting_of_step hstep) h

/-- A move of a run was allowed where it was made. -/
theorem run_allowed {pre post : List (GateMove ι)}
    (hrun : Run (Step name) g moves g') (hmoves : moves = pre ++ m :: post) :
    ∃ h : Gate ι ν, Run (Step name) g pre h ∧ h.Allows m ∧
      Run (Step name) (h.move name m) post g' := by
  rw [hmoves] at hrun
  obtain ⟨h, hpre, hrest⟩ := hrun.split
  obtain ⟨next, ⟨hallowed, rfl⟩, hpost⟩ := hrest.uncons
  exact ⟨h, hpre, hallowed, hpost⟩

/-- An item is offered only when it is the newest staged one and the owner is idle. -/
theorem offered_newest {pre post : List (GateMove ι)} {item : ι} {taken : Bool}
    (hrun : Run (Step name) g moves g') (hmoves : moves = pre ++ .offer item taken :: post) :
    newest g.staged pre = some item ∧ busyAfter g.busy pre = false := by
  obtain ⟨h, hpre, ⟨hidle, hstaged⟩, -⟩ := run_allowed hrun hmoves
  exact ⟨(run_staged hpre).symm.trans hstaged, (run_busy hpre).symm.trans hidle⟩

/-- Moves that stage nothing leave staged what was, or nothing. -/
theorem newest_of_no_stage {before : Option ι} {item : ι}
    (hnone : ∀ staged, GateMove.stage staged ∉ moves) (h : newest before moves = some item) :
    before = some item := by
  induction moves generalizing before with
  | nil => exact h
  | cons m rest ih =>
    have hbefore : m.staged before = some item :=
      ih (fun staged hmem => hnone staged (List.mem_cons_of_mem m hmem)) h
    cases m with
    | stage staged => exact absurd (List.mem_cons_self ..) (hnone staged)
    | cancel staged => cases hbefore
    | offer staged taken =>
      cases taken with
      | true => cases hbefore
      | false => exact hbefore
    | _ => exact hbefore

/-- What is offered after an item was taken was staged after that. -/
theorem staged_again {pre mid post : List (GateMove ι)} {item other : ι} {taken : Bool}
    (hrun : Run (Step name) g moves g')
    (hmoves : moves = pre ++ .offer item true :: mid ++ .offer other taken :: post) :
    ∃ staged, GateMove.stage staged ∈ mid := by
  have hoffered := (offered_newest hrun hmoves).1
  by_cases hsome : ∃ staged, GateMove.stage staged ∈ mid
  · exact hsome
  have hmid : newest (newest g.staged (pre ++ [.offer item true])) mid = some other := by
    rw [← hoffered, newest, newest, newest, ← List.foldl_append, List.append_assoc]
    rfl
  have hbefore := newest_of_no_stage (fun staged hmem => hsome ⟨staged, hmem⟩) hmid
  rw [newest, List.foldl_append] at hbefore
  cases hbefore

/-- What waits when the owner becomes idle is offered at once. -/
theorem offered_after_clear {pre post : List (GateMove ι)} {item : ι}
    (hrun : Run (Step name) g moves g') (hmoves : moves = pre ++ .clear :: post)
    (hstaged : newest g.staged pre = some item) (hdone : g'.due = false) :
    ∃ taken rest, post = .offer item taken :: rest := by
  obtain ⟨h, hpre, -, hpost⟩ := run_allowed hrun hmoves
  have hitem : h.staged = some item := (run_staged hpre).trans hstaged
  have hdue : (h.move name .clear).due = true := congrArg Option.isSome hitem
  rcases post with _ | ⟨next, rest⟩
  · rw [hpost.of_nil, hdue] at hdone
    cases hdone
  obtain ⟨t, ⟨hallowed, -⟩, -⟩ := hpost.uncons
  cases next with
  | offer other taken =>
    have hother : h.staged = some other := hallowed.2
    rw [hitem] at hother
    cases hother
    exact ⟨taken, rest, rfl⟩
  | disarm => exact absurd (hallowed.1.symm.trans hdue) Bool.false_ne_true
  | cancel other => exact absurd (hallowed.1.symm.trans hdue) Bool.false_ne_true
  | _ => exact absurd (hallowed.symm.trans hdue) Bool.false_ne_true

end Gate

end Ariava.Lib
