import Ariava.Lib.Run
import Ariava.E2e.LocalEncryptedSpool

/-!
# `Ariava.Proofs.SpoolCoherence`: the items in memory are the items in the file

A method of the spool changes the file first and its items in memory after that. `Loads`
says that loading the file gives the items in memory, and it is what every method keeps,
whatever becomes of its write.

- `persist_cases`: `persist` throws and changes nothing, or it returns and loading the file
  gives the items. A write whose error follows the replacement returns: the items are valid,
  so the file reads back as the target.
- `SpoolResult` and `program_cases`: every method fails with the items and the file of
  before, keeps both, or installs new items in both.
- `coherent_of_run`: after every run from a loaded spool, the items in memory are what loading
  the file gives, their ids are distinct when they were at the start, a method that fails
  leaves both alone, and every item is one of the start or opens to an input of the run.
-/

set_option autoImplicit false

namespace Ariava.Proofs.SpoolCoherence

open Ariava.Lib
open Ariava.Protocol
open Ariava.E2e
open Ariava.E2e.EncryptedSpool

/-- Loading the file gives the items in memory. -/
def Loads (settings : SpoolSettings) (file : SpoolFile) (items : List EncryptedSpoolItem) : Prop :=
  ∃ keyId, settings.read file = .ok ⟨items, keyId⟩

/-- The ids of the items. -/
def itemIds (items : List EncryptedSpoolItem) : List String :=
  items.map EncryptedSpoolItem.spoolItemId

variable {settings : SpoolSettings} {cipher : SpoolCipher} {runtime : SpoolRuntime}
  {s s' : EncryptedSpool} {items : List EncryptedSpoolItem}

/-! ### Valid items -/

/-- The items that a load gives are valid. -/
theorem validItem_of_loads {file : SpoolFile} (h : Loads settings file items) :
    ∀ item ∈ items, validItem settings.hostId item = true := by
  obtain ⟨keyId, hread⟩ := h
  cases file with
  | absent =>
    cases hread
    exact fun _ hmem => absurd hmem List.not_mem_nil
  | malformed thrown => cases hread
  | record file =>
    rw [SpoolSettings.read, check_bind_eq_ok, throwIf_eq_ok, Bool.or_eq_false_iff,
      List.any_eq_false] at hread
    obtain ⟨⟨-, hitems⟩, hloaded⟩ := hread
    cases hloaded
    intro item hmem
    simpa using hitems item hmem

/-- The target of `persist` loads as what it was written from, when the items are valid. -/
theorem read_target (hvalid : ∀ item ∈ items, validItem settings.hostId item = true)
    (keyId : String) :
    settings.read (.record (settings.target keyId items)) = .ok ⟨items, some keyId⟩ := by
  rw [SpoolSettings.read, check_bind_eq_ok, throwIf_eq_ok]
  refine ⟨?_, rfl⟩
  simp only [SpoolSettings.target, ne_eq, not_true_eq_false, decide_false, Bool.false_or,
    List.any_eq_false]
  intro item hmem
  simp [hvalid item hmem]

/-- A sealed input is a valid item. -/
theorem validItem_sealInput (key : List UInt8) (input : SpoolInput) :
    validItem settings.hostId (sealInput settings cipher key input) = true := by
  have hnonce := input.nonce.length_eq
  simp [validItem, sealInput, hnonce, cipher.length_chachaPolySeal]

/-! ### The parts of a method -/

/-- `loadVerifiedKey` throws and changes nothing, or it notes the id of the key. -/
theorem loadVerifiedKey_cases (cipher : SpoolCipher) (runtime : SpoolRuntime)
    (s : EncryptedSpool) :
    (∃ thrown, (loadVerifiedKey cipher runtime).run s = (.error thrown, s)) ∨
      ∃ key, (loadVerifiedKey cipher runtime).run s
        = (.ok key, { s with keyId := some (cipher.keyIdForKey key) }) := by
  rcases haccess : runtime.access with thrown | _
  · refine .inl ⟨thrown, ?_⟩
    rw [loadVerifiedKey, Effect.run_bind, Effect.run_ofExcept, haccess]
    rfl
  · rw [loadVerifiedKey, Effect.run_bind, Effect.run_ofExcept, haccess, Effect.next_ok,
      Effect.run_bind, Effect.run_get, Effect.next_ok]
    rcases runtime.loadOrCreate (!s.hasPersistedItems) with thrown | key
    · dsimp only
      split
      · exact .inl ⟨_, rfl⟩
      · exact .inl ⟨_, rfl⟩
    · dsimp only
      split
      · exact .inl ⟨_, rfl⟩
      · exact .inr ⟨key, rfl⟩

/-- The handler of a write throws the error of the write, or the file loads as the target. -/
theorem confirmTarget_cases (settings : SpoolSettings) (runtime : SpoolRuntime)
    (target : LocalSpoolFileV2) (thrown : Thrown) (s : EncryptedSpool) :
    (confirmTarget settings runtime target thrown).run s = (.error thrown, s) ∨
      ((confirmTarget settings runtime target thrown).run s = (.ok (), s) ∧
        settings.read s.file = .ok ⟨target.items, some target.keyId⟩) := by
  rw [confirmTarget, Effect.run_bind, Effect.run_get, Effect.next_ok]
  rcases hload : load settings runtime s.file with e | persisted
  · exact .inl rfl
  · dsimp only
    split
    · rename_i hsame
      refine .inr ⟨rfl, ?_⟩
      have hread : settings.read s.file = .ok persisted := by
        rw [load, check_bind_eq_ok] at hload
        exact hload.2
      rw [hread, ← hsame.1, ← hsame.2]
    · exact .inl rfl

/-- `persist` throws and changes nothing, or the file loads as the items. -/
theorem persist_cases (runtime : SpoolRuntime)
    (hvalid : ∀ item ∈ items, validItem settings.hostId item = true) (s : EncryptedSpool) :
    (∃ thrown, (persist settings runtime items).run s = (.error thrown, s)) ∨
      ∃ file, (persist settings runtime items).run s = (.ok (), { s with file := file }) ∧
        Loads settings file items := by
  obtain ⟨held, known, flag, file⟩ := s
  rcases haccess : runtime.access with thrown | _
  · refine .inl ⟨thrown, ?_⟩
    rw [persist, Effect.run_bind, Effect.run_ofExcept, haccess]
    rfl
  rw [persist, Effect.run_bind, Effect.run_ofExcept, haccess, Effect.next_ok, Effect.run_bind,
    Effect.run_get, Effect.next_ok]
  rcases known with _ | keyId
  · exact .inl ⟨_, rfl⟩
  have htarget := read_target hvalid keyId
  dsimp only
  rcases runtime.write with _ | thrown | thrown
  · exact .inr ⟨_, rfl, some keyId, htarget⟩
  · rcases confirmTarget_cases settings runtime (settings.target keyId items) thrown
      ⟨held, some keyId, flag, file⟩
      with hrun | ⟨hrun, hread⟩
    · exact .inl ⟨thrown, hrun⟩
    · exact .inr ⟨file, hrun, some keyId, hread⟩
  · -- The file is the target, and it reads back as the target.
    refine .inr ⟨.record (settings.target keyId items), ?_, some keyId, htarget⟩
    dsimp only
    rw [Effect.run_bind, Effect.run_set, Effect.next_ok, confirmTarget, Effect.run_bind,
      Effect.run_get, Effect.next_ok, load, haccess]
    have hload : (do
        (.ok () : Except Thrown Unit)
        settings.read (.record (settings.target keyId items)))
        = .ok ⟨items, some keyId⟩ := htarget
    rw [hload]
    dsimp only
    rw [if_pos ⟨rfl, rfl⟩]
    rfl

/-! ### The methods -/

/-- An item of a list after a method: one of before, or a sealed input of the method. -/
def FromInputs (settings : SpoolSettings) (cipher : SpoolCipher) (inputs : List SpoolInput)
    (before : List EncryptedSpoolItem) (item : EncryptedSpoolItem) : Prop :=
  item ∈ before ∨ ∃ key, ∃ input ∈ inputs, item = sealInput settings cipher key input

/-- How a method ends. It fails and keeps the items and the file, or it returns and keeps
them, or it returns with new items that the file loads as. -/
inductive SpoolResult (settings : SpoolSettings) (cipher : SpoolCipher)
    (inputs : List SpoolInput) (s : EncryptedSpool) {α : Type} :
    Except Thrown α × EncryptedSpool → Prop
  | refused (thrown : Thrown) (s' : EncryptedSpool) (items : s'.items = s.items)
      (file : s'.file = s.file) : SpoolResult settings cipher inputs s (.error thrown, s')
  | kept (a : α) (s' : EncryptedSpool) (items : s'.items = s.items) (file : s'.file = s.file) :
      SpoolResult settings cipher inputs s (.ok a, s')
  | installed (a : α) (s' : EncryptedSpool) (loads : Loads settings s'.file s'.items)
      (distinct : (itemIds s.items).Nodup → (itemIds s'.items).Nodup)
      (origin : ∀ item ∈ s'.items, FromInputs settings cipher inputs s.items item) :
      SpoolResult settings cipher inputs s (.ok a, s')

/-- A method without its result ends in the same way. -/
theorem SpoolResult.withoutResult {α : Type} {inputs : List SpoolInput} {p : SpoolEffect α}
    (h : SpoolResult settings cipher inputs s (p.run s)) :
    SpoolResult settings cipher inputs s ((do let _ ← p; return () : SpoolEffect Unit).run s) := by
  rw [Effect.run_bind]
  rcases hp : p.run s with ⟨outcome, s'⟩
  rw [hp] at h
  cases h with
  | refused thrown s' items file => exact .refused thrown s' items file
  | kept a s' items file => exact .kept () s' items file
  | installed a s' loads distinct origin => exact .installed () s' loads distinct origin

/-- The loop over the additions appends sealed inputs under free ids. -/
theorem addSealed_ok {key : List UInt8} {additions : List SpoolInput}
    {before after : List EncryptedSpoolItem}
    (h : addSealed settings cipher key before additions = .ok after) :
    ((itemIds before).Nodup → (itemIds after).Nodup) ∧
      ∀ item ∈ after, item ∈ before ∨
        ∃ input ∈ additions, item = sealInput settings cipher key input := by
  induction additions generalizing before with
  | nil =>
    cases h
    exact ⟨id, fun item hmem => .inl hmem⟩
  | cons input rest ih =>
    rw [addSealed] at h
    split at h
    · cases h
    rename_i hfree
    obtain ⟨hdistinct, horigin⟩ := ih h
    have hid : input.spoolItemId ∉ itemIds before := by
      intro hmem
      obtain ⟨item, hitem, hid⟩ := List.mem_map.mp hmem
      exact hfree (List.any_eq_true.mpr ⟨item, hitem, decide_eq_true hid⟩)
    refine ⟨fun hbefore => hdistinct ?_, fun item hmem => ?_⟩
    · rw [itemIds, List.map_append, List.map_singleton]
      refine List.Nodup.append hbefore (List.nodup_singleton _) ?_
      exact List.disjoint_singleton.mpr hid
    · rcases horigin item hmem with hitem | ⟨later, hlater, rfl⟩
      · rcases List.mem_append.mp hitem with hitem | hitem
        · exact .inl hitem
        · exact .inr ⟨input, List.mem_cons_self, List.mem_singleton.mp hitem⟩
      · exact .inr ⟨later, List.mem_cons_of_mem _ hlater, rfl⟩

/-- A free id of `enqueue` is the loop of `replace` over one addition. -/
theorem addSealed_single {key : List UInt8} {input : SpoolInput}
    (hfree : s.items.find? (fun item => decide (item.spoolItemId = input.spoolItemId)) = none) :
    addSealed settings cipher key s.items [input]
      = .ok (s.items ++ [sealInput settings cipher key input]) := by
  have hany : (s.items.any fun item => decide (item.spoolItemId = input.spoolItemId)) = false := by
    rw [List.any_eq_false]
    exact List.find?_eq_none.mp hfree
  rw [addSealed, hany]
  rfl

/-- A write of valid items and then these items in memory. -/
theorem persist_then_cases {α : Type} {inputs : List SpoolInput} {after : SpoolEffect α}
    {next : List EncryptedSpoolItem} {keyId : Option String}
    (hvalid : ∀ item ∈ next, validItem settings.hostId item = true)
    (hdistinct : (itemIds s.items).Nodup → (itemIds next).Nodup)
    (horigin : ∀ item ∈ next, FromInputs settings cipher inputs s.items item)
    (hafter : ∀ t, ∃ a t', after.run t = (.ok a, t') ∧ t'.items = next ∧ t'.file = t.file) :
    SpoolResult settings cipher inputs s ((do
      persist settings runtime next
      after : SpoolEffect α).run { s with keyId := keyId }) := by
  rw [Effect.run_bind]
  rcases persist_cases runtime hvalid { s with keyId := keyId }
    with ⟨thrown, hrun⟩ | ⟨file, hrun, hloads⟩
  · rw [hrun]
    exact .refused thrown _ rfl rfl
  · rw [hrun, Effect.next_ok]
    obtain ⟨a, t', hrun', hitems, hfile⟩ := hafter { s with keyId := keyId, file := file }
    rw [hrun']
    refine .installed a t' ?_ ?_ ?_
    · rw [hfile, hitems]
      exact hloads
    · rw [hitems]
      exact hdistinct
    · rw [hitems]
      exact horigin

/-- A write of sealed additions and then the items in memory. -/
theorem persist_additions_cases {α : Type} (h : Loads settings s.file s.items)
    {inputs : List SpoolInput} {key : List UInt8} {kept next : List EncryptedSpoolItem}
    (hkept : kept.Sublist s.items) (hnext : addSealed settings cipher key kept inputs = .ok next)
    {keyId : Option String} {after : SpoolEffect α}
    (hafter : ∀ t, ∃ a t', after.run t = (.ok a, t') ∧ t'.items = next ∧ t'.file = t.file) :
    SpoolResult settings cipher inputs s ((do
      persist settings runtime next
      after : SpoolEffect α).run { s with keyId := keyId }) := by
  obtain ⟨hdistinct, horigin⟩ := addSealed_ok hnext
  refine persist_then_cases ?_ (fun hold => hdistinct ((hkept.map _).nodup hold)) ?_ hafter
  · intro item hmem
    rcases horigin item hmem with hitem | ⟨input, -, rfl⟩
    · exact validItem_of_loads h item (hkept.subset hitem)
    · exact validItem_sealInput key input
  · intro item hmem
    rcases horigin item hmem with hitem | ⟨input, hinput, rfl⟩
    · exact .inl (hkept.subset hitem)
    · exact .inr ⟨key, input, hinput, rfl⟩

/-- What follows the check of the access does not run without access. -/
theorem access_then_cases {α : Type} {inputs : List SpoolInput} {p : SpoolEffect α}
    (h : SpoolResult settings cipher inputs s (p.run s)) :
    SpoolResult settings cipher inputs s
      ((do Effect.ofExcept runtime.access; p : SpoolEffect α).run s) := by
  rw [Effect.run_bind, Effect.run_ofExcept]
  rcases runtime.access with thrown | _
  · exact .refused thrown s rfl rfl
  · exact h

/-- What follows the key runs with the id of the key noted, or not at all. -/
theorem key_then_cases {α : Type} {inputs : List SpoolInput} {p : List UInt8 → SpoolEffect α}
    (h : ∀ key, SpoolResult settings cipher inputs s
      ((p key).run { s with keyId := some (cipher.keyIdForKey key) })) :
    SpoolResult settings cipher inputs s
      ((do let key ← loadVerifiedKey cipher runtime; p key : SpoolEffect α).run s) := by
  rw [Effect.run_bind]
  rcases loadVerifiedKey_cases cipher runtime s with ⟨thrown, hrun⟩ | ⟨key, hrun⟩
  · rw [hrun]
    exact .refused thrown s rfl rfl
  · rw [hrun, Effect.next_ok]
    exact h key

theorem enqueue_cases (h : Loads settings s.file s.items) (input : SpoolInput) :
    SpoolResult settings cipher [input] s ((enqueue settings cipher runtime input).run s) := by
  refine access_then_cases ?_
  rw [Effect.run_bind, Effect.run_get, Effect.next_ok]
  rcases hfind : s.items.find? (fun item => decide (item.spoolItemId = input.spoolItemId))
    with _ | existing
  · simp only [hfind]
    refine key_then_cases fun key => ?_
    refine persist_additions_cases h (List.Sublist.refl _) (addSealed_single hfind) fun t => ?_
    exact ⟨_, _, rfl, rfl, rfl⟩
  · simp only [hfind]
    split
    · exact .refused _ s rfl rfl
    · exact .kept existing s rfl rfl

theorem replace_cases (h : Loads settings s.file s.items) (removeIds : List String)
    (additions : List SpoolInput) :
    SpoolResult settings cipher additions s
      ((replace settings cipher runtime removeIds additions).run s) := by
  refine access_then_cases ?_
  rw [Effect.run_bind, Effect.run_get, Effect.next_ok]
  refine key_then_cases fun key => ?_
  rw [Effect.run_bind, Effect.run_ofExcept]
  rcases hnext : addSealed settings cipher key
    (s.items.filter fun item => decide (item.spoolItemId ∉ removeIds)) additions with thrown | next
  · exact .refused thrown _ rfl rfl
  · rw [Effect.next_ok]
    refine persist_additions_cases h List.filter_sublist hnext fun t => ?_
    exact ⟨_, _, rfl, rfl, rfl⟩

theorem recoverUnreadable_cases (h : Loads settings s.file s.items) :
    SpoolResult settings cipher [] s ((recoverUnreadable settings cipher runtime).run s) := by
  refine access_then_cases ?_
  refine key_then_cases fun key => ?_
  rw [Effect.run_bind, Effect.run_get, Effect.next_ok]
  dsimp only
  split
  · have hsublist : (s.items.filter fun item => (openWithKey cipher key item).isSome).Sublist
        s.items := List.filter_sublist
    refine persist_then_cases (fun item hmem => validItem_of_loads h item (hsublist.subset hmem))
      (fun hold => (hsublist.map _).nodup hold) (fun item hmem => .inl (hsublist.subset hmem))
      fun t => ?_
    exact ⟨_, _, rfl, rfl, rfl⟩
  · exact .kept _ _ rfl rfl

/-- The next process loads the items that were in memory. -/
theorem construct_cases (h : Loads settings s.file s.items) :
    SpoolResult settings cipher [] s ((construct settings runtime).run s) := by
  obtain ⟨keyId, hread⟩ := h
  rw [construct, Effect.run_bind, Effect.run_get, Effect.next_ok, Effect.run_bind,
    Effect.run_ofExcept]
  rcases haccess : runtime.access with thrown | _
  · have hload : load settings runtime s.file = .error thrown := by
      rw [load, haccess]
      rfl
    rw [hload]
    exact .refused thrown s rfl rfl
  · have hload : load settings runtime s.file = .ok ⟨s.items, keyId⟩ := by
      rw [load, haccess]
      exact hread
    rw [hload]
    exact .kept () _ rfl rfl

/-- How an operation ends. -/
theorem program_cases (cipher : SpoolCipher) (runtime : SpoolRuntime)
    (h : Loads settings s.file s.items) (operation : SpoolOperation) :
    SpoolResult settings cipher operation.inputs s
      ((operation.program settings cipher runtime).run s) := by
  cases operation with
  | enqueue input => exact (enqueue_cases h input).withoutResult
  | replace removeIds additions => exact replace_cases h removeIds additions
  | remove spoolItemId => exact replace_cases h [spoolItemId] []
  | removeMany spoolItemIds => exact replace_cases h spoolItemIds []
  | recoverUnreadable => exact (recoverUnreadable_cases h).withoutResult
  | construct => exact construct_cases h

/-! ### Runs -/

/-- One step: an operation, with what it meets. -/
def SpoolStep (settings : SpoolSettings) (cipher : SpoolCipher) (s : EncryptedSpool)
    (call : SpoolRuntime × SpoolOperation) (s' : EncryptedSpool) : Prop :=
  s' = (call.2.program settings cipher call.1).final s

/-- Every operation keeps the items loadable. -/
theorem loads_step (h : Loads settings s.file s.items) {call : SpoolRuntime × SpoolOperation}
    (hstep : SpoolStep settings cipher s call s') : Loads settings s'.file s'.items := by
  rw [SpoolStep, Effect.final] at hstep
  have hcases := program_cases cipher call.1 h call.2
  generalize (call.2.program settings cipher call.1).run s = r at hcases hstep
  cases hcases with
  | refused thrown t items file =>
    rw [hstep, items, file]
    exact h
  | kept a t items file =>
    rw [hstep, items, file]
    exact h
  | installed a t loads distinct origin =>
    rw [hstep]
    exact loads

/-- Every operation keeps the ids distinct, and its items come from it. -/
theorem items_step (h : Loads settings s.file s.items) {call : SpoolRuntime × SpoolOperation}
    (hstep : SpoolStep settings cipher s call s') :
    ((itemIds s.items).Nodup → (itemIds s'.items).Nodup) ∧
      ∀ item ∈ s'.items, FromInputs settings cipher call.2.inputs s.items item := by
  rw [SpoolStep, Effect.final] at hstep
  have hcases := program_cases cipher call.1 h call.2
  generalize (call.2.program settings cipher call.1).run s = r at hcases hstep
  cases hcases with
  | refused thrown t items file =>
    rw [hstep, items]
    exact ⟨fun hold => hold, fun item hmem => .inl hmem⟩
  | kept a t items file =>
    rw [hstep, items]
    exact ⟨fun hold => hold, fun item hmem => .inl hmem⟩
  | installed a t loads distinct origin =>
    rw [hstep]
    exact ⟨distinct, origin⟩

/-- The inputs of a run. -/
def runInputs (calls : List (SpoolRuntime × SpoolOperation)) : List SpoolInput :=
  calls.flatMap fun call => call.2.inputs

/-- After a run the items are loadable and distinct, and they come from the run. -/
theorem items_of_run {start : EncryptedSpool} {calls : List (SpoolRuntime × SpoolOperation)}
    (hstart : Loads settings start.file start.items)
    (hrun : Run (SpoolStep settings cipher) start calls s) :
    Loads settings s.file s.items ∧
      ((itemIds start.items).Nodup → (itemIds s.items).Nodup) ∧
      ∀ item ∈ s.items, FromInputs settings cipher (runInputs calls) start.items item := by
  induction hrun with
  | nil => exact ⟨hstart, fun hold => hold, fun item hmem => .inl hmem⟩
  | @snoc t u calls call _ last ih =>
    obtain ⟨hloads, hdistinct, horigin⟩ := ih
    obtain ⟨hdistinct', horigin'⟩ := items_step hloads last
    refine ⟨loads_step hloads last, fun hold => hdistinct' (hdistinct hold), fun item hmem => ?_⟩
    have hinputs : runInputs (calls ++ [call]) = runInputs calls ++ call.2.inputs := by
      simp [runInputs]
    rw [hinputs]
    rcases horigin' item hmem with hitem | ⟨key, input, hinput, rfl⟩
    · rcases horigin item hitem with hstartItem | ⟨key, input, hinput, rfl⟩
      · exact .inl hstartItem
      · exact .inr ⟨key, input, List.mem_append_left _ hinput, rfl⟩
    · exact .inr ⟨key, input, List.mem_append_right _ hinput, rfl⟩

/-- The cipher decrypts what it encrypted, under the same associated data. -/
def DecryptsWhatItSealed (cipher : SpoolCipher) : Prop :=
  ∀ key plaintext additionalData nonce,
    cipher.chachaPolyOpen key nonce.bytes
      (cipher.chachaPolySeal key plaintext additionalData nonce) additionalData = some plaintext

/-- A sealed input opens to its plaintext: the metadata that is authenticated does not include
the nonce and the ciphertext. -/
theorem openWithKey_sealInput (hcipher : DecryptsWhatItSealed cipher) (key : List UInt8)
    (input : SpoolInput) :
    openWithKey cipher key (sealInput settings cipher key input) = some input.plaintext :=
  hcipher key input.plaintext _ input.nonce

/-- A spool as its constructor leaves it: its fields are what loading its file gives. -/
def Constructed (settings : SpoolSettings) (s : EncryptedSpool) : Prop :=
  ∃ runtime t, (construct settings runtime).run t = (.ok (), s)

/-- What holds of every spool that a run reaches.

- `loads`: loading the file gives the items in memory, for every call that has access;
- `distinct`: the ids of the items are distinct, when they were at the start;
- `failed`: an operation that fails leaves the items and the file as before it;
- `opens`: each item is one of the start, or it opens to the plaintext of an input of the run
  whose id, Session and kind it has. -/
structure Coherent (settings : SpoolSettings) (cipher : SpoolCipher) (start : EncryptedSpool)
    (calls : List (SpoolRuntime × SpoolOperation)) (s : EncryptedSpool) : Prop where
  loads : ∀ runtime : SpoolRuntime, runtime.access = .ok () →
    (load settings runtime s.file).map LoadedSpool.items = .ok s.items
  distinct : (itemIds start.items).Nodup → (itemIds s.items).Nodup
  failed : ∀ runtime (operation : SpoolOperation) thrown,
    (operation.program settings cipher runtime).outcome s = .error thrown →
    ((operation.program settings cipher runtime).final s).items = s.items ∧
      ((operation.program settings cipher runtime).final s).file = s.file
  opens : ∀ item ∈ s.items, item ∈ start.items ∨ ∃ key, ∃ input ∈ runInputs calls,
    item.spoolItemId = input.spoolItemId ∧ item.sessionId = input.sessionId ∧
      item.payloadKind = input.payloadKind ∧ openWithKey cipher key item = some input.plaintext

/-- The constructor leaves a loadable spool. -/
theorem loads_of_constructed (h : Constructed settings s) : Loads settings s.file s.items := by
  obtain ⟨runtime, t, hrun⟩ := h
  rw [construct, Effect.run_bind, Effect.run_get, Effect.next_ok, Effect.run_bind,
    Effect.run_ofExcept] at hrun
  rcases hload : load settings runtime t.file with thrown | loaded
  · rw [hload] at hrun
    cases hrun
  · rw [hload] at hrun
    cases hrun
    rw [load, check_bind_eq_ok] at hload
    exact ⟨loaded.keyId, hload.2⟩

/-- Every run of operations, with every outcome of each write, keeps the spool coherent. -/
theorem coherent_of_run {start : EncryptedSpool} {calls : List (SpoolRuntime × SpoolOperation)}
    (hcipher : DecryptsWhatItSealed cipher) (hstart : Constructed settings start)
    (hrun : Run (SpoolStep settings cipher) start calls s) :
    Coherent settings cipher start calls s := by
  obtain ⟨hloads, hdistinct, horigin⟩ := items_of_run (loads_of_constructed hstart) hrun
  refine ⟨?_, hdistinct, ?_, ?_⟩
  · intro runtime haccess
    obtain ⟨keyId, hread⟩ := hloads
    have hload : load settings runtime s.file = .ok ⟨s.items, keyId⟩ := by
      rw [load, haccess]
      exact hread
    rw [hload]
    rfl
  · intro runtime operation thrown hthrown
    rw [Effect.outcome] at hthrown
    rw [Effect.final]
    have hcases := program_cases cipher runtime hloads operation
    generalize (operation.program settings cipher runtime).run s = r at hcases hthrown
    cases hcases with
    | refused thrown t items file => exact ⟨items, file⟩
    | kept => cases hthrown
    | installed => cases hthrown
  · intro item hmem
    refine (horigin item hmem).imp_right ?_
    rintro ⟨key, input, hinput, rfl⟩
    exact ⟨key, input, hinput, rfl, rfl, rfl, openWithKey_sealInput hcipher key input⟩

/-! ### A sample run -/

/-- A cipher that appends an empty tag. -/
def tagCipher : SpoolCipher where
  keyIdForKey _ := "key"
  chachaPolySeal _ plaintext _ _ := plaintext ++ List.replicate 16 0
  chachaPolyOpen _ _ ciphertext _ := some (ciphertext.take (ciphertext.length - 16))
  length_chachaPolySeal _ _ _ _ := by simp

theorem tagCipher_decrypts : DecryptsWhatItSealed tagCipher := by
  intro key plaintext additionalData nonce
  simp [tagCipher]

/-- The settings of the sample. -/
def sampleSettings : SpoolSettings := ⟨"host", 4, "epoch"⟩

/-- A call whose write ends in this way. -/
def runtimeWith (write : SpoolWrite) : SpoolRuntime := ⟨.ok (), fun _ => .ok [7], write⟩

/-- An input with this id. -/
def sampleInput (spoolItemId : String) : SpoolInput where
  spoolItemId := spoolItemId
  sessionId := "session"
  eventId := some spoolItemId
  payloadKind := .eventSourceV3
  createdAt := "2026-01-01T00:00:00.000Z"
  plaintext := [1, 2, 3]
  nonce := ⟨List.replicate 12 0, rfl⟩

/-- The spool before its first file. -/
def absentSpool : EncryptedSpool := ⟨[], none, false, .absent⟩

/-- The spool after a write that reports an error behind the replacement. -/
def enqueuedSpool : EncryptedSpool :=
  ((SpoolOperation.enqueue (sampleInput "a")).program sampleSettings tagCipher
    (runtimeWith (.replaced (.error "directory sync failed")))).final absentSpool

/-- The spool after a replacement whose write fails. -/
def retainedSpool : EncryptedSpool :=
  ((SpoolOperation.replace ["a"] [sampleInput "b"]).program sampleSettings tagCipher
    (runtimeWith (.failed (.error "disk full")))).final enqueuedSpool

/-- The enqueued item is there after both errors, in memory and in the file. -/
theorem coherent_of_failedWrites :
    Coherent sampleSettings tagCipher absentSpool
      [(runtimeWith (.replaced (.error "directory sync failed")), .enqueue (sampleInput "a")),
        (runtimeWith (.failed (.error "disk full")), .replace ["a"] [sampleInput "b"])]
      retainedSpool ∧ itemIds retainedSpool.items = ["a"] := by
  have hstart : Constructed sampleSettings absentSpool :=
    ⟨runtimeWith .written, absentSpool, rfl⟩
  exact ⟨coherent_of_run tagCipher_decrypts hstart (((Run.nil absentSpool).snoc rfl).snoc rfl),
    by decide +kernel⟩

end Ariava.Proofs.SpoolCoherence
