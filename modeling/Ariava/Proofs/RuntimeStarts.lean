import Ariava.Lib.Run
import Ariava.Proofs.RuntimePreflight
import Mathlib.Data.List.Nodup

/-!
# `Ariava.Proofs.RuntimeStarts`: starts that are interrupted

A start of the bridge goes on from the files that earlier starts left, however these ended. The
results are about `startRuntime` on any files, and about every run of starts that were stopped at
any point of their trails.

- `startRuntime_opens_or_refuses`: a start opens the runtime, and then the next start opens the
  same state without a write, or it throws, and then it has written nothing.
- `startRuntime_crashSafe`: if a start opens a state, then after any run of interrupted starts the
  next start opens that state. If the runtime was replaced by an empty one, the epoch may be
  another one.
- `startRuntime_keepsState`: a state of schema 3 or 4 is opened, migrated or as it is, after any run
  of interrupted starts.
- `journals_readBack`: the start that resumes a journal accepts every intent that was written.

There is one condition on the files: the two journals are not both there. The code never writes one
while it finds the other. With both, a start would finish the migration and leave a reset intent
behind the new schema floor, where every later start fails.
-/

set_option autoImplicit false

namespace Ariava.Proofs.RuntimeStarts

open Ariava.Lib (Effect Run)
open Ariava.Lib.Effect (run_bind next_ok next_error)
open Ariava.Protocol (JsonValue JsonObject JsString jsString Thrown throwIf throwIf_eq_ok
  check_bind_eq_ok bind_eq_ok_iff isCanonicalTimestampString)
open Ariava.Proofs.RuntimeJournals
open Ariava.Proofs.RuntimePaths (IsFilePath)
open Ariava.Proofs.RuntimePreflight
open Ariava.Proofs.RuntimeTargets
open Ariava.StateStore.RawState

variable {checks : CodecChecks} {hash : RuntimeHash} {statePath hostId : JsString}
  {files : KnownFiles checks hash statePath hostId} {draws : Nat → RuntimeDraw}

/-! ### Starts that throw -/

/-- The program throws and has written nothing. -/
def Refuses {α : Type} (program : RuntimeProgram α) (w : RuntimeStart) : Prop :=
  ∃ thrown w', program.run w = (.error thrown, w') ∧ w'.disk = w.disk ∧ w'.trail = w.trail

section
variable {α β : Type} {w : RuntimeStart} {C : Prop}

theorem Refuses.bind {first : RuntimeProgram α} {rest : α → RuntimeProgram β}
    (h : Refuses first w) : Refuses (first >>= rest) w := by
  obtain ⟨thrown, w', hrun, hsame⟩ := h
  refine ⟨thrown, w', ?_, hsame⟩
  rw [run_bind, hrun, next_error]

theorem refuses_throw (thrown : Thrown) : Refuses (throw thrown : RuntimeProgram α) w :=
  ⟨thrown, w, rfl, rfl, rfl⟩

/-- Both branches are looked at. -/
theorem refuses_or_ite {c : Prop} [Decidable c] {yes no : RuntimeProgram α}
    (hyes : c → Refuses yes w ∨ C) (hno : ¬ c → Refuses no w ∨ C) :
    Refuses (if c then yes else no) w ∨ C := by
  by_cases hc : c
  · rw [if_pos hc]
    exact hyes hc
  · rw [if_neg hc]
    exact hno hc

/-- A check fails, or the rest is looked at. -/
theorem refuses_or_ofExcept {checked : Except Thrown α} {rest : α → RuntimeProgram β}
    (h : ∀ a, checked = .ok a → Refuses (rest a) w ∨ C) :
    Refuses (Effect.ofExcept checked >>= rest) w ∨ C := by
  cases hchecked : checked with
  | error thrown => exact .inl ⟨thrown, w, rfl, rfl, rfl⟩
  | ok a => exact h a hchecked

theorem refuses_or_read {file : RuntimeFile} {rest : Option FileBytes → RuntimeProgram β}
    (h : ∀ bytes, bytesOf (w.disk.files file) = .ok bytes → Refuses (rest bytes) w ∨ C) :
    Refuses (readOptionalSecureBytes file >>= rest) w ∨ C := by
  have hrun : (readOptionalSecureBytes file >>= rest).run w
      = (Effect.ofExcept (bytesOf (w.disk.files file)) >>= rest).run w := rfl
  unfold Refuses
  rw [hrun]
  exact refuses_or_ofExcept h

theorem refuses_or_readSecureJson {file : RuntimeFile} {rest : JsonValue → RuntimeProgram β}
    (h : ∀ bytes value, w.disk.files file = some (.secure bytes) → bytes.replaced = some value →
      Refuses (rest value) w ∨ C) : Refuses (readSecureJson file >>= rest) w ∨ C := by
  unfold readSecureJson
  rw [Effect.bind_bind]
  refine refuses_or_read fun bytes hbytes => refuses_or_ofExcept fun value hvalue => ?_
  unfold secureJsonOf at hvalue
  split at hvalue
  · cases hvalue
  · cases hvalue
  · next found hfound =>
    cases hvalue
    obtain ⟨contents, rfl, hreplaced⟩ := Option.map_eq_some_iff.mp hfound
    exact h contents _ (eq_secure_of_bytesOf hbytes) hreplaced

end

/-- The check of a member hash. -/
theorem eq_or_eq_of_memberHash {actual source target : JsString} {thrown : Thrown}
    (h : throwIf (decide (actual ≠ source) && decide (actual ≠ target)) thrown = .ok ()) :
    actual = source ∨ actual = target := by
  simpa [or_iff_not_imp_left] using h

/-! ### What a start that does not throw goes on from -/

section
variable {w : RuntimeStart} {again : RuntimeProgram JsonObject}

/-- A migration is refused, or it can be finished. -/
theorem migration_refuses_or (hknown : KnownDisk files w.disk)
    (hnoReset : w.disk.files .resetIntent = none) :
    Refuses (resumeRuntimeMigration checks hash statePath hostId) w
      ∨ ∃ kept, Phase checks hash statePath hostId w.disk kept := by
  refine refuses_or_readSecureJson fun bytes value hstored hvalue => ?_
  refine refuses_or_ofExcept fun _ hrecord => ?_
  refine refuses_or_ofExcept fun _ hversion => ?_
  refine refuses_or_ofExcept fun intent hparsed => ?_
  refine refuses_or_ofExcept fun _ hhost => ?_
  rw [throwIf_eq_ok] at hrecord hversion hhost
  obtain ⟨record, hrecord⟩ := Option.isSome_iff_exists.mp (by simpa using hrecord)
  rw [hrecord, Option.getD_some] at hversion hparsed
  have hobject : value = .object record := by
    cases value with
    | object properties =>
      cases hrecord
      rfl
    | _ => cases hrecord
  have hjournal : HoldsMigrationIntent checks hash statePath (w.disk.files .migrationIntent)
      intent :=
    ⟨bytes, record, hstored, hvalue.trans (congrArg some hobject), by simpa using hversion, hparsed⟩
  -- a member has the hash of its source or of its target, so it is one of the two
  obtain ⟨hknownState, hknownSpool, hknownFloor⟩ := hknown.migrationTargets intent hjournal
  obtain ⟨-, htargets⟩ := hjournal.targets
  obtain ⟨-, -, -, hstateHash, hspoolHash, hfloorHash⟩ :=
    assertMigrationIntentTargets_eq_ok htargets
  refine refuses_or_ofExcept fun _ _ => ?_
  refine refuses_or_read fun stateBytes hstate => refuses_or_read fun spoolBytes hspool =>
    refuses_or_read fun floorBytes hfloor => ?_
  refine refuses_or_ofExcept fun _ hstateAt => refuses_or_ofExcept fun _ hspoolAt =>
    refuses_or_ofExcept fun _ hfloorAt => .inr ⟨_, .migrating ⟨hnoReset, hjournal, ?_, ?_, ?_, ?_⟩⟩
  · simpa using hhost
  · refine hknown.isMember (.inl rfl) hknownState hstate ?_
    rw [hstateHash]
    exact eq_or_eq_of_memberHash hstateAt
  · refine hknown.isMember (.inr (.inl rfl)) hknownSpool hspool ?_
    rw [hspoolHash]
    exact eq_or_eq_of_memberHash hspoolAt
  · refine hknown.isMember (.inr (.inr rfl)) hknownFloor hfloor ?_
    rw [hfloorHash]
    exact eq_or_eq_of_memberHash hfloorAt

/-- A reset is refused, or it can be finished. -/
theorem reset_refuses_or (hknown : KnownDisk files w.disk)
    (hnoMigration : w.disk.files .migrationIntent = none) (hnoFloor : w.disk.files .floor = none) :
    Refuses (resumeRuntimeReset checks hash statePath hostId) w
      ∨ ∃ kept, Phase checks hash statePath hostId w.disk kept := by
  refine refuses_or_readSecureJson fun bytes value hstored hvalue => ?_
  refine refuses_or_ofExcept fun intent hparsed => ?_
  have hjournal : HoldsResetIntent checks (w.disk.files .resetIntent) intent :=
    ⟨bytes, value, hstored, hvalue, hparsed⟩
  obtain ⟨hknownState, hknownSpool⟩ := hknown.resetTargets intent hjournal
  refine refuses_or_ofExcept fun _ hhost => refuses_or_ofExcept fun _ hpaths =>
    refuses_or_ofExcept fun _ htargets => ?_
  obtain ⟨hstateHash, hspoolHash, -⟩ := assertRuntimeResetTargets_eq_ok htargets
  refine refuses_or_read fun stateBytes hstate => refuses_or_read fun spoolBytes hspool =>
    refuses_or_ofExcept fun _ hmembers => ?_
  have hchecked := assertRuntimeResetMembers_eq_ok.mp hmembers
  have hstateAt := (check_bind_eq_ok.mp hchecked.1).1
  have hspoolAt := (check_bind_eq_ok.mp hchecked.2.1).1
  rw [throwIf_eq_ok] at hhost
  -- only a key with its metadata is loaded, and it has to be the one of the intent
  obtain ⟨⟨diskFiles, spoolKey⟩, trail, drawn⟩ := w
  cases spoolKey with
  | missing => exact .inl (Refuses.bind ⟨_, _, rfl, rfl, rfl⟩)
  | unreadable => exact .inl (Refuses.bind ⟨_, _, rfl, rfl, rfl⟩)
  | unrecorded key => exact .inl (Refuses.bind ⟨_, _, rfl, rfl, rfl⟩)
  | present key =>
    by_cases hkey : key.val = intent.keyId
    · refine .inr ⟨none, .resetting ⟨⟨hnoMigration, hnoFloor, key, rfl, hkey⟩, hjournal, ?_, hpaths,
        htargets, ?_, ?_, stateBytes, spoolBytes, hstate, hspool, hmembers⟩⟩
      · simpa using hhost
      · refine hknown.isMember (.inl rfl) hknownState hstate ?_
        rw [hstateHash]
        exact eq_or_eq_of_memberHash hstateAt
      · refine hknown.isMember (.inr (.inl rfl)) hknownSpool hspool ?_
        rw [hspoolHash]
        exact eq_or_eq_of_memberHash hspoolAt
    · refine .inl ⟨.error "Bridge runtime reset intent key mismatch", _, ?_, rfl, rfl⟩
      show Effect.next _ ((Effect.ofExcept _).run _) = _
      rw [Effect.run_ofExcept]
      simp [throwIf, hkey]

/-- A reset that cannot load its key is refused. -/
theorem begin_refuses {stateBytes spoolBytes : Option FileBytes} {spoolRecord : Option JsonObject}
    {fromSchema toSchema : Int} (hspoolReads : ReadsAs spoolBytes spoolRecord)
    (h : ¬ LoadsKey w.disk spoolRecord) :
    Refuses (beginRuntimeReset checks hash statePath hostId draws stateBytes spoolBytes fromSchema
      toSchema) w := by
  obtain ⟨⟨diskFiles, spoolKey⟩, trail, drawn⟩ := w
  have hsome : (¬ spoolRecord = none) → spoolBytes.isNone = false := by
    intro hne
    obtain ⟨spool, rfl⟩ := Option.ne_none_iff_exists'.mp hne
    obtain ⟨contents, rfl, -⟩ := hspoolReads.exists_bytes
    rfl
  cases spoolKey with
  | unreadable => exact ⟨_, ⟨⟨diskFiles, .unreadable⟩, trail, drawn + 1⟩, rfl, rfl, rfl⟩
  | missing =>
    refine ⟨.error "local spool key is missing; recovery is required",
      ⟨⟨diskFiles, .missing⟩, trail, drawn + 1⟩, ?_, rfl, rfl⟩
    unfold beginRuntimeReset
    rw [run_bind, draw_run, next_ok, hsome h, if_neg Bool.false_ne_true]
    rfl
  | unrecorded key =>
    refine ⟨.error "local spool Keychain metadata is missing; recovery is required",
      ⟨⟨diskFiles, .unrecorded key⟩, trail, drawn + 1⟩, ?_, rfl, rfl⟩
    unfold beginRuntimeReset
    rw [run_bind, draw_run, next_ok, hsome h, if_neg Bool.false_ne_true]
    rfl
  | present key =>
    have hmismatch : (spoolRecord.any fun spool => isNumber 2 (spool.get? "version")
        && decide (textOf (spool.get? "keyId") ≠ some key.val)) = true := by
      unfold LoadsKey at h
      simp only [not_forall] at h
      obtain ⟨spool, rfl, hversion, hkey⟩ := h
      simp [hversion, hkey]
    refine ⟨.error "Bridge runtime spool key mismatch",
      ⟨⟨diskFiles, .present key⟩, trail, drawn + 1⟩, ?_, rfl, rfl⟩
    have hload : ∀ created, (loadOrCreate created).run
        (⟨⟨diskFiles, .present key⟩, trail, drawn + 1⟩ : RuntimeStart)
          = (.ok key, ⟨⟨diskFiles, .present key⟩, trail, drawn + 1⟩) := by
      intro created
      cases created <;> rfl
    unfold beginRuntimeReset
    simp only [run_bind, draw_run, next_ok, hload, Effect.run_ofExcept, hspoolReads _, hmismatch,
      throwIf, if_true, next_error]

/-- A runtime without a floor is refused, or a start goes on from it. -/
theorem openWithoutFloor_refuses_or {stateBytes spoolBytes : Option FileBytes}
    {stateRecord spoolRecord : Option JsonObject}
    (h : Unsettled w.disk stateBytes spoolBytes stateRecord spoolRecord) :
    Refuses (openWithoutFloor checks hash statePath hostId draws again stateBytes spoolBytes
        stateRecord spoolRecord) w
      ∨ ∃ kept, Phase checks hash statePath hostId w.disk kept := by
  have hreplace : ∀ {fromSchema toSchema : Int},
      IsReplaced checks hostId stateRecord spoolRecord fromSchema toSchema →
        Refuses (beginRuntimeReset checks hash statePath hostId draws stateBytes spoolBytes
            fromSchema toSchema >>= fun _ => again) w
          ∨ ∃ kept, Phase checks hash statePath hostId w.disk kept := by
    intro fromSchema toSchema hreplaced
    by_cases hkey : LoadsKey w.disk spoolRecord
    · exact .inr ⟨none, .replaced h hreplaced hkey⟩
    · exact .inl (Refuses.bind (begin_refuses h.spoolReads hkey))
  unfold openWithoutFloor
  refine refuses_or_ite (fun hcurrent => ?_) fun _ => refuses_or_ite (fun hprior => ?_) fun _ =>
    refuses_or_ite (fun hempty => ?_) fun hsome => refuses_or_ite (fun hobsolete => ?_) fun _ =>
      refuses_or_ite (fun hlegacy => ?_) fun _ => .inl (refuses_throw _)
  · rw [Bool.and_eq_true] at hcurrent
    obtain ⟨state, rfl⟩ := Option.isSome_iff_exists.mp hcurrent.1
    refine refuses_or_ofExcept fun current hparsed => refuses_or_ofExcept fun _ hthere =>
      refuses_or_ofExcept fun opened hopened => ?_
    rw [throwIf_eq_ok] at hthere
    obtain ⟨spool, rfl⟩ := Option.isSome_iff_exists.mp (by simpa using hthere)
    obtain ⟨-, hsame⟩ := check_bind_eq_ok.mp hparsed
    obtain ⟨-, hsame⟩ := check_bind_eq_ok.mp hsame
    cases hsame
    obtain ⟨-, -, rfl⟩ := isCurrentStateRecord_of_parse hopened
    exact .inr ⟨_, .current h hopened⟩
  · rw [Bool.and_eq_true, Bool.and_eq_true] at hprior
    obtain ⟨state, rfl⟩ := Option.isSome_iff_exists.mp hprior.1.1
    obtain ⟨spool, rfl⟩ := Option.isSome_iff_exists.mp hprior.1.2
    obtain ⟨stateContents, rfl, -⟩ := h.stateReads.exists_bytes
    obtain ⟨spoolContents, rfl, -⟩ := h.spoolReads.exists_bytes
    exact .inr ⟨_, .prior h hprior.2⟩
  · rw [Bool.and_eq_true, Option.isNone_iff_eq_none, Option.isNone_iff_eq_none] at hempty
    obtain ⟨rfl, rfl⟩ := hempty
    exact hreplace .empty
  · rw [Bool.and_eq_true, Bool.and_eq_true] at hobsolete
    obtain ⟨state, rfl⟩ := Option.isSome_iff_exists.mp hobsolete.1.1
    obtain ⟨spool, rfl⟩ := Option.isSome_iff_exists.mp hobsolete.1.2
    exact hreplace (.obsolete hobsolete.2)
  · refine hreplace (.legacy ?_ hlegacy)
    rw [Bool.not_eq_true, Bool.and_eq_false_iff, Option.isNone_eq_false_iff,
      Option.isNone_eq_false_iff] at hsome
    exact hsome

/-- The floor is refused, or it is read: there is none, or one of the runtime. -/
theorem refuses_or_readFloor {β : Type} {C : Prop} {rest : Option JsonObject → RuntimeProgram β}
    (hnone : w.disk.files .floor = none → Refuses (rest none) w ∨ C)
    (hsome : ∀ floor, Holds (w.disk.files .floor) floor →
      parseRuntimeSchemaFloor (some floor) statePath hostId = .ok floor →
        Refuses (rest (some floor)) w ∨ C) :
    Refuses (readFloor statePath hostId >>= rest) w ∨ C := by
  unfold readFloor
  rw [Effect.bind_bind]
  refine refuses_or_read fun bytes hbytes => ?_
  cases bytes with
  | none =>
    have habsent : w.disk.files .floor = none := by
      cases hstored : w.disk.files .floor with
      | none => rfl
      | some stored =>
        rw [hstored] at hbytes
        cases stored <;> cases hbytes
    exact hnone habsent
  | some contents =>
    show Refuses ((Effect.ofExcept _ >>= _) >>= rest) w ∨ C
    rw [Effect.bind_bind]
    refine refuses_or_ofExcept fun record hrecord => ?_
    rw [Effect.bind_bind]
    refine refuses_or_ofExcept fun floor hfloor => ?_
    obtain ⟨rfl, -⟩ := parseRuntimeSchemaFloor_eq_ok hfloor
    exact hsome floor (holds_of_reads hbytes (ReadsAs.of_ok hrecord)) hfloor

/-- A start throws and has written nothing, or there is a phase from which it goes on. -/
theorem preflightBody_refuses_or (hknown : KnownDisk files w.disk)
    (hone : w.disk.files .resetIntent = none ∨ w.disk.files .migrationIntent = none) :
    Refuses (preflightBody checks hash statePath hostId draws again) w
      ∨ ∃ kept, Phase checks hash statePath hostId w.disk kept := by
  cases hmigration : w.disk.files .migrationIntent with
  | some stored =>
    have hrun : (preflightBody checks hash statePath hostId draws again).run w = _ :=
      preflightBody_migration_run (by rw [hmigration]; rfl)
    have hnoReset : w.disk.files .resetIntent = none := by
      rcases hone with hnone | hnone
      · exact hnone
      · rw [hmigration] at hnone
        cases hnone
    unfold Refuses
    rw [hrun]
    exact (migration_refuses_or hknown hnoReset).imp_left Refuses.bind
  | none =>
    unfold preflightBody
    have hskip : ∀ rest : Bool → RuntimeProgram JsonObject,
        (pathHasFilesystemEvidence .migrationIntent >>= rest).run w = (rest false).run w := by
      intro rest
      rw [run_bind, pathHasFilesystemEvidence_run, next_ok, hmigration]
      rfl
    unfold Refuses
    rw [hskip, if_neg Bool.false_ne_true]
    cases hreset : w.disk.files .resetIntent with
    | some stored =>
      have hgo : ∀ rest : Bool → RuntimeProgram JsonObject,
          (pathHasFilesystemEvidence .resetIntent >>= rest).run w = (rest true).run w := by
        intro rest
        rw [run_bind, pathHasFilesystemEvidence_run, next_ok, hreset]
        rfl
      refine refuses_or_readFloor (fun hfloor => ?_) fun floor _ _ => ?_
      · unfold Refuses
        rw [hgo, if_pos rfl]
        refine refuses_or_ofExcept fun _ _ => ?_
        exact (reset_refuses_or hknown hmigration hfloor).imp_left Refuses.bind
      · unfold Refuses
        rw [hgo, if_pos rfl]
        exact refuses_or_ofExcept fun _ hthere => nomatch throwIf_eq_ok.mp hthere
    | none =>
      have hgo : ∀ rest : Bool → RuntimeProgram JsonObject,
          (pathHasFilesystemEvidence .resetIntent >>= rest).run w = (rest false).run w := by
        intro rest
        rw [run_bind, pathHasFilesystemEvidence_run, next_ok, hreset]
        rfl
      refine refuses_or_readFloor (fun hfloor => ?_) fun floor hfloor hparsed => ?_
      · unfold Refuses
        rw [hgo, if_neg Bool.false_ne_true]
        refine refuses_or_read fun stateBytes hstate => refuses_or_read fun spoolBytes hspool =>
          refuses_or_ofExcept fun stateRecord hstateReads =>
            refuses_or_ofExcept fun spoolRecord hspoolReads => ?_
        exact openWithoutFloor_refuses_or ⟨hreset, hmigration, hfloor, hstate, hspool,
          .of_ok hstateReads, .of_ok hspoolReads⟩
      · unfold Refuses
        rw [hgo, if_neg Bool.false_ne_true]
        refine refuses_or_read fun stateBytes hstate => refuses_or_read fun spoolBytes hspool =>
          refuses_or_ofExcept fun stateRecord hstateReads =>
            refuses_or_ofExcept fun spoolRecord hspoolReads => ?_
        rw [Option.isSome_some, if_pos rfl]
        cases hopened : openWithFloor checks hostId stateRecord spoolRecord with
        | error thrown => exact .inl ⟨thrown, w, rfl, rfl, rfl⟩
        | ok state =>
          obtain ⟨hthere, hparsedRuntime⟩ := check_bind_eq_ok.mp hopened
          rw [throwIf_eq_ok, Bool.or_eq_false_iff, Bool.or_eq_false_iff, Option.isNone_eq_false_iff,
            Option.isNone_eq_false_iff] at hthere
          obtain ⟨⟨hstateThere, hspoolThere⟩, -⟩ := hthere
          obtain ⟨record, rfl⟩ := Option.isSome_iff_exists.mp hstateThere
          obtain ⟨spool, rfl⟩ := Option.isSome_iff_exists.mp hspoolThere
          obtain ⟨-, -, rfl⟩ := isCurrentStateRecord_of_parse hparsedRuntime
          exact .inr ⟨_, .settled ⟨hreset, hmigration, ⟨floor, hfloor, hparsed⟩,
            holds_of_reads hstate (.of_ok hstateReads), spool,
            holds_of_reads hspool (.of_ok hspoolReads), hparsedRuntime⟩⟩

end

/-- A start throws and has written nothing, or there is a phase from which it goes on. -/
theorem preflightRuntime_refuses_or {w : RuntimeStart} (draws : Nat → RuntimeDraw) (calls : Nat)
    (hknown : KnownDisk files w.disk)
    (hone : w.disk.files .resetIntent = none ∨ w.disk.files .migrationIntent = none) :
    Refuses (preflightRuntime checks hash statePath hostId draws (calls + 1)) w
      ∨ ∃ kept, Phase checks hash statePath hostId w.disk kept := by
  have hbody : Refuses (preflightBody checks hash statePath hostId draws
      (preflightRuntime checks hash statePath hostId draws calls)) w
        ∨ ∃ kept, Phase checks hash statePath hostId w.disk kept :=
    preflightBody_refuses_or hknown hone
  refine hbody.imp_left ?_
  rintro ⟨thrown, w', hrun, hsame⟩
  refine ⟨.error "Bridge runtime preflight failed closed", w', ?_, hsame⟩
  show Effect.handle _ ((preflightBody checks hash statePath hostId draws _).run w) = _
  rw [hrun]
  rfl

/-! ### The state that is kept -/

theorem eq_of_holds {stored : Option StoredFile} {record other : JsonObject}
    (h : Holds stored record) (hother : Holds stored other) : other = record := by
  obtain ⟨bytes, rfl, hdecoded⟩ := h
  obtain ⟨bytes', hsame, hdecoded'⟩ := hother
  cases hsame
  rw [hdecoded] at hdecoded'
  cases hdecoded'
  rfl

/-- The bytes of a file that holds a record are that record. -/
theorem eq_of_holds_of_reads {stored : Option StoredFile} {record : JsonObject}
    {bytes : Option FileBytes} {found : Option JsonObject} (h : Holds stored record)
    (hbytes : bytesOf stored = .ok bytes) (hreads : ReadsAs bytes found) : found = some record := by
  obtain ⟨contents, hcontents, hrecord⟩ := bytesOf_holds h
  rw [hcontents] at hbytes
  cases hbytes
  exact Except.ok.inj ((hreads "").symm.trans (hrecord ""))

/-- Where there is no journal, the version of the state says whether it is opened as it is,
migrated, or replaced. -/
theorem kept_of_state {disk : RuntimeDisk} {kept : Option JsonObject} {state : JsonObject}
    (h : Phase checks hash statePath hostId disk kept) (hnoReset : disk.files .resetIntent = none)
    (hnoMigration : disk.files .migrationIntent = none) (hstate : Holds (disk.files .state) state) :
    (kept = some state ∧ isNumber 4 (state.get? "schemaVersion") = true)
      ∨ (kept = some (migrationTarget state) ∧ isNumber 3 (state.get? "schemaVersion") = true
        ∧ migrateStateV3ToV4 checks state hostId = .ok (migrationTarget state))
      ∨ ∀ number, isNumber number (state.get? "schemaVersion") = true →
        number = 1 ∨ number = 2 := by
  cases h with
  | settled h =>
    obtain ⟨_, -, hopened⟩ := h.spool
    obtain rfl := eq_of_holds hstate h.state
    exact .inl ⟨rfl, isNumber_of_isCurrentStateRecord (isCurrentStateRecord_of_parse hopened).1⟩
  | migrating h =>
    obtain ⟨_, _, hstored, -⟩ := h.journal
    rw [hnoMigration] at hstored
    cases hstored
  | resetting h =>
    obtain ⟨_, _, hstored, -⟩ := h.journal
    rw [hnoReset] at hstored
    cases hstored
  | current h hopened =>
    cases eq_of_holds_of_reads hstate h.state h.stateReads
    exact .inl ⟨rfl, isNumber_of_isCurrentStateRecord (isCurrentStateRecord_of_parse hopened).1⟩
  | prior h hprior =>
    cases eq_of_holds_of_reads hstate h.state h.stateReads
    have hversion := hprior
    rw [isPriorRuntimeV3, Bool.and_eq_true] at hversion
    exact .inr (.inl ⟨rfl, isNumber_of_isPriorStateRecordV3 hversion.1,
      (parseCurrentRuntime_migrated hversion.1 hversion.2).1⟩)
  | replaced h hreplaced hkey =>
    cases eq_of_holds_of_reads hstate h.state h.stateReads
    refine .inr (.inr fun number hnumber => ?_)
    rw [hreplaced.version hnumber]
    exact hreplaced.schemas.imp And.left And.left

/-! ### Starts -/

section
variable {calls : Nat} {disk disk' : RuntimeDisk} {state : JsonObject}

/-- A start on the files is stopped, or ends, with these files. -/
def Interrupted (files : KnownFiles checks hash statePath hostId) (calls : Nat) (disk : RuntimeDisk)
    (draws : Nat → RuntimeDraw) (disk' : RuntimeDisk) : Prop :=
  KnownDraws files draws
    ∧ disk' ∈ (startRuntime checks hash statePath hostId calls draws disk).2.trail

variable (hcalls : 4 ≤ calls) (hpath : IsFilePath statePath) (hhost : hostId ≠ [])
  (hdate : ∀ text, isCanonicalTimestampString text = true → checks.isFiniteDate text = true)
include hcalls

/-- A start that opens the runtime has found files that it goes on from. -/
theorem phase_of_opens (hknown : KnownDisk files disk)
    (hone : disk.files .resetIntent = none ∨ disk.files .migrationIntent = none)
    (hopens : (startRuntime checks hash statePath hostId calls draws disk).1 = .ok state) :
    ∃ kept, Phase checks hash statePath hostId disk kept := by
  obtain ⟨more, rfl⟩ := Nat.exists_eq_add_of_le' hcalls
  refine (preflightRuntime_refuses_or (w := .initial disk) draws (more + 3) hknown
    hone).resolve_left ?_
  rintro ⟨thrown, w', hrun, -⟩
  rw [startRuntime, hrun] at hopens
  cases hopens

include hpath hhost hdate

/-- A start goes on from files from which one does. -/
theorem start_of_keeps (hdraws : KnownDraws files draws) {kept : Option JsonObject}
    (h : Keeps files kept disk) :
    ∃ state w', startRuntime checks hash statePath hostId calls draws disk = (.ok state, w')
      ∧ Settled checks statePath hostId w'.disk state ∧ Opens kept state
      ∧ ∀ disk' ∈ w'.trail, Keeps files kept disk' := by
  obtain ⟨hknown, kept', hphase, hnarrows⟩ := h
  obtain ⟨more, rfl⟩ := Nat.exists_eq_add_of_le' hcalls
  obtain ⟨state, w', hrun, hsettled, hopens, added, htrail, hadded⟩ :=
    phase_recovers (w := .initial disk) hpath hhost hdate hdraws hknown hphase
  refine ⟨state, w', hrun, hsettled, hnarrows state hopens, fun disk' hdisk' => ?_⟩
  rw [htrail] at hdisk'
  rcases List.mem_append.mp hdisk' with hlater | hfirst
  · exact Keeps.mono hnarrows disk' (hadded disk' hlater)
  · rw [List.mem_singleton.mp hfirst]
    exact ⟨hknown, kept', hphase, hnarrows⟩

/-- An interrupted start leaves files from which the next one goes on. -/
theorem keeps_of_interrupted {kept : Option JsonObject} (h : Keeps files kept disk)
    (hstep : Interrupted files calls disk draws disk') : Keeps files kept disk' := by
  obtain ⟨hdraws, hcut⟩ := hstep
  obtain ⟨state, w', hrun, -, -, htrail⟩ := start_of_keeps hcalls hpath hhost hdate hdraws h
  rw [hrun] at hcut
  exact htrail disk' hcut

/-- So does any run of interrupted starts. -/
theorem keeps_of_run {kept : Option JsonObject} {starts : List (Nat → RuntimeDraw)}
    (h : Keeps files kept disk) (hrun : Run (Interrupted files calls) disk starts disk') :
    Keeps files kept disk' :=
  hrun.invariant (fun _ _ _ hkeeps hstep =>
    keeps_of_interrupted hcalls hpath hhost hdate hkeeps hstep) h

end

/-! ### A migration that is interrupted -/

section
open Ariava.Proofs.StateMigration (plainChecks priorState isPriorStateRecordV3_priorState)
open Ariava.Protocol (ascii stringify)

/-- A text of 43 letters for the lower bits of a number. -/
def bitText (number : Nat) : JsString :=
  (List.range 43).map fun bit => if number.testBit bit then ascii 'B' else ascii 'A'

/-- A number for all of the text of a value. -/
def textNumber (value : JsonValue) : Nat :=
  (stringify value).foldl (fun number unit => (number * 31 + unit.toNat) % 2 ^ 43) 0

/-- A hash of files. -/
def bitHash : RuntimeHash where
  hashBytes bytes := bitText ((bytes.decoded.map textNumber).getD 0)
  isVerifier bytes := by
    simp only [isVerifier, textOf, Option.any_some, bitText, List.length_map, List.length_range,
      decide_true, Bool.true_and, List.all_map, List.all_eq_true, Function.comp_apply]
    intro bit _
    split <;> decide

/-- The key that is there. -/
def letterKey : SpoolKeyId := ⟨List.replicate 43 (ascii 'A'), by decide⟩

def plainEpoch : JsString := jsString "00000000-0000-4000-8000-000000000000"

/-- Every draw is the same. -/
def plainDraw : RuntimeDraw where
  epoch := plainEpoch
  createdAt := jsString "2026-01-01T00:00:00.000Z"
  keyId := letterKey
  isEpoch := by decide
  isTimestamp := by decide

def plainPath : JsString := jsString "/state.json"
def plainHost : JsString := jsString "host"

theorem isFilePath_plainPath : IsFilePath plainPath :=
  ⟨by decide, [[]], jsString "state.json", by decide, by decide, by decide, by decide⟩

/-- A state with a Session, the empty states and spools, what these are migrated to, and a floor. -/
def plainFiles : List JsonObject := [
  priorState, migrationTarget priorState,
  emptyStateForSchema 2 plainEpoch,
  emptyStateForSchema 3 plainEpoch, migrationTarget (emptyStateForSchema 3 plainEpoch),
  spoolFileForSchema 2 plainHost plainEpoch letterKey.val,
  spoolFileForSchema 3 plainHost plainEpoch letterKey.val,
  spoolMigrationTarget (spoolFileForSchema 3 plainHost plainEpoch letterKey.val),
  runtimeSchemaFloor plainPath plainHost]

set_option maxRecDepth 20000 in
theorem nodup_plainFiles :
    (plainFiles.map fun value => bitHash.hashBytes (serializeSecureJson value)).Nodup := by
  decide +kernel

theorem migrationTarget_mem {value : JsonObject} (h : value ∈ plainFiles)
    (hversion : isNumber 3 (value.get? "schemaVersion") = true) :
    migrationTarget value ∈ plainFiles := by
  unfold plainFiles at h ⊢
  simp only [List.mem_cons, List.not_mem_nil, or_false] at h ⊢
  rcases h with rfl | rfl | rfl | rfl | rfl | rfl | rfl | rfl | rfl
  case inl => exact .inr (.inl rfl)
  case inr.inr.inr.inl => exact .inr (.inr (.inr (.inr (.inl rfl))))
  all_goals exact absurd hversion (by decide +kernel)

theorem spoolMigrationTarget_mem {value : JsonObject} (h : value ∈ plainFiles)
    (hversion : isNumber 3 (value.get? "runtimeStateSchemaVersion") = true) :
    spoolMigrationTarget value ∈ plainFiles := by
  unfold plainFiles at h ⊢
  simp only [List.mem_cons, List.not_mem_nil, or_false] at h ⊢
  rcases h with rfl | rfl | rfl | rfl | rfl | rfl | rfl | rfl | rfl
  case inr.inr.inr.inr.inr.inr.inl =>
    exact .inr (.inr (.inr (.inr (.inr (.inr (.inr (.inl rfl)))))))
  all_goals exact absurd hversion (by decide +kernel)

/-- No two of these files have one hash. -/
def plainKnown : KnownFiles plainChecks bitHash plainPath plainHost where
  known bytes := ∃ value ∈ plainFiles, bytes = serializeSecureJson value
  keys key := key = letterKey
  injective := by
    rintro _ _ ⟨value, hvalue, rfl⟩ ⟨other, hother, rfl⟩ hsame
    rw [List.inj_on_of_nodup_map nodup_plainFiles hvalue hother hsame]
  floor := ⟨_, by simp [plainFiles], rfl⟩
  migratedState := by
    rintro _ state target ⟨value, hvalue, rfl⟩ hdecoded hmigrated
    cases hdecoded
    obtain rfl := Ariava.Proofs.StateMigration.migrateStateV3ToV4_eq_ok hmigrated
    obtain ⟨hprior, -⟩ := check_bind_eq_ok.mp hmigrated
    rw [throwIf_eq_ok, Bool.not_eq_false'] at hprior
    exact ⟨_, migrationTarget_mem hvalue (isNumber_of_isPriorStateRecordV3 hprior), rfl⟩
  migratedSpool := by
    rintro _ spool epoch target ⟨value, hvalue, rfl⟩ hdecoded hmigrated
    cases hdecoded
    obtain ⟨hprior, htarget⟩ := check_bind_eq_ok.mp hmigrated
    cases htarget
    rw [throwIf_eq_ok, Bool.not_eq_false'] at hprior
    simp only [isSpoolRecordForSchema, Bool.and_eq_true] at hprior
    exact ⟨_, spoolMigrationTarget_mem hvalue hprior.1.1.1.1.2, rfl⟩

/-- The files of the state with a Session. -/
def plainDisk : RuntimeDisk where
  files file := match file with
    | .state => written priorState
    | .spool => written (spoolFileForSchema 3 plainHost plainEpoch letterKey.val)
    | _ => none
  spoolKey := .present letterKey

/-- A start of the Host. -/
abbrev plainStart := startRuntime plainChecks bitHash plainPath plainHost 4 fun _ => plainDraw

theorem knownDraws_plain : KnownDraws plainKnown fun _ => plainDraw := by
  refine fun _ => ⟨rfl, fun schemaVersion hschema => ?_⟩
  rcases hschema with rfl | rfl
  all_goals
    refine ⟨⟨_, by simp [plainFiles, plainDraw], rfl⟩, fun key hkey => ⟨_, ?_, rfl⟩⟩
    rw [show key = letterKey from hkey]
    simp [plainFiles, plainDraw]

theorem knownDisk_plain : KnownDisk plainKnown plainDisk where
  members := by
    rintro _ (rfl | rfl | rfl) bytes hbytes <;> cases hbytes
    · exact ⟨_, by simp [plainFiles], rfl⟩
    · exact ⟨_, by simp [plainFiles], rfl⟩
  key := by
    rintro key (hkey | hkey) <;> cases hkey
    rfl
  resetTargets := by
    rintro intent ⟨_, _, hstored, -⟩
    cases hstored
  migrationTargets := by
    rintro intent ⟨_, _, hstored, -⟩
    cases hstored

theorem isPriorRuntimeV3_plain : isPriorRuntimeV3 plainChecks plainHost priorState
    (spoolFileForSchema 3 plainHost plainEpoch letterKey.val) = true := by
  rw [isPriorRuntimeV3, Bool.and_eq_true]
  exact ⟨isPriorStateRecordV3_priorState, by decide +kernel⟩

set_option maxRecDepth 20000 in
/-- A start opens the migration of the state, and is at some point with the intent written. -/
theorem plainDisk_opens :
    (plainStart plainDisk).1 = .ok (migrationTarget priorState)
      ∧ ∃ disk ∈ (plainStart plainDisk).2.trail, (disk.files .migrationIntent).isSome = true := by
  have hphase : Phase plainChecks bitHash plainPath plainHost plainDisk
      (some (migrationTarget priorState)) :=
    .prior ⟨rfl, rfl, rfl, rfl, rfl, readsAs_written _, readsAs_written _⟩ isPriorRuntimeV3_plain
  have hkeeps : Keeps plainKnown (some (migrationTarget priorState)) plainDisk :=
    .of_phase knownDisk_plain hphase
  obtain ⟨state, w', hrun, -, hopens, -⟩ := start_of_keeps (Nat.le_refl 4) isFilePath_plainPath
    (by decide) (fun _ _ => rfl) knownDraws_plain hkeeps
  refine ⟨by rw [plainStart, hrun, show state = _ from hopens], ?_⟩
  have hany : (plainStart plainDisk).2.trail.any (fun disk =>
      (disk.files .migrationIntent).isSome) = true := by
    decide +kernel
  simpa using hany

end

/-! ### Results -/

section
open Ariava.Proofs.StateMigration (plainChecks priorState isPriorStateRecordV3_priorState)

variable {calls : Nat} {disk disk' : RuntimeDisk} {state : JsonObject} (hcalls : 4 ≤ calls)
  (hpath : IsFilePath statePath) (hhost : hostId ≠ [])
  (hdate : ∀ text, isCanonicalTimestampString text = true → checks.isFiniteDate text = true)

section
include hcalls hpath hhost hdate

/-- A start opens the runtime, and then every start opens the same state from the files that it
leaves, without a write. Or it throws, and then it has written nothing. -/
theorem startRuntime_opens_or_refuses (hdraws : KnownDraws files draws)
    (hknown : KnownDisk files disk)
    (hone : disk.files .resetIntent = none ∨ disk.files .migrationIntent = none) :
    (∃ state w', startRuntime checks hash statePath hostId calls draws disk = (.ok state, w')
        ∧ ∀ draws', startRuntime checks hash statePath hostId calls draws' w'.disk
          = (.ok state, .initial w'.disk))
      ∨ ∃ thrown w',
        startRuntime checks hash statePath hostId calls draws disk = (.error thrown, w')
          ∧ w'.trail = [disk] := by
  obtain ⟨more, rfl⟩ := Nat.exists_eq_add_of_le' hcalls
  rcases preflightRuntime_refuses_or (w := .initial disk) draws (more + 3) hknown hone
    with ⟨thrown, w', hrun, -, htrail⟩ | ⟨kept, hphase⟩
  · exact .inr ⟨thrown, w', hrun, htrail⟩
  · -- what a start leaves is settled, and a settled runtime is opened without a write
    have hkeeps : Keeps files kept disk := .of_phase hknown hphase
    obtain ⟨state, w', hrun, hsettled, -, -⟩ :=
      start_of_keeps hcalls hpath hhost hdate hdraws hkeeps
    exact .inl ⟨state, w', hrun, fun draws' => settled_run hsettled⟩

end

/-- The state of schema 3 is migrated, and the next start opens the result. -/
theorem startRuntime_opens_or_refuses_plain :
    (∃ state w', plainStart plainDisk = (.ok state, w')
        ∧ ∀ draws', startRuntime plainChecks bitHash plainPath plainHost 4 draws' w'.disk
          = (.ok state, .initial w'.disk))
      ∨ ∃ thrown w', plainStart plainDisk = (.error thrown, w') ∧ w'.trail = [plainDisk] :=
  startRuntime_opens_or_refuses (Nat.le_refl 4) isFilePath_plainPath (by decide) (fun _ _ => rfl)
    knownDraws_plain knownDisk_plain (.inl rfl)

section
include hcalls hpath hhost hdate

/-- If a start opens a state, then so does the start after any run of interrupted ones: the same
state, or an empty one instead of an empty one. -/
theorem startRuntime_crashSafe {starts : List (Nat → RuntimeDraw)} {draws' : Nat → RuntimeDraw}
    (hknown : KnownDisk files disk)
    (hone : disk.files .resetIntent = none ∨ disk.files .migrationIntent = none)
    (hdraws : KnownDraws files draws) (hdraws' : KnownDraws files draws')
    (hopens : (startRuntime checks hash statePath hostId calls draws disk).1 = .ok state)
    (hrun : Run (Interrupted files calls) disk starts disk') :
    ∃ state', (startRuntime checks hash statePath hostId calls draws' disk').1 = .ok state'
      ∧ (state' = state ∨ IsFresh state ∧ IsFresh state') := by
  obtain ⟨kept, hphase⟩ := phase_of_opens hcalls hknown hone hopens
  have hkeeps : Keeps files kept disk := .of_phase hknown hphase
  obtain ⟨first, w, hfirst, -, hkept, -⟩ := start_of_keeps hcalls hpath hhost hdate hdraws hkeeps
  rw [hfirst] at hopens
  cases hopens
  -- every stop leaves files from which the same is opened
  obtain ⟨state', w', hlast, -, hkept', -⟩ :=
    start_of_keeps hcalls hpath hhost hdate hdraws'
      (keeps_of_run hcalls hpath hhost hdate hkeeps hrun)
  refine ⟨state', by rw [hlast], ?_⟩
  cases kept with
  | none => exact .inr ⟨hkept, hkept'⟩
  | some kept => exact .inl (hkept'.trans hkept.symm)

end

/-- A start that is stopped after the intent was written is followed by one that opens the same
state. -/
theorem startRuntime_crashSafe_plain :
    ∃ disk', (disk'.files .migrationIntent).isSome = true
      ∧ ∃ state', (plainStart disk').1 = .ok state'
        ∧ (state' = migrationTarget priorState
          ∨ IsFresh (migrationTarget priorState) ∧ IsFresh state') := by
  obtain ⟨hopens, disk', hcut, hintent⟩ := plainDisk_opens
  have hrun : Run (Interrupted plainKnown 4) plainDisk [fun _ => plainDraw] disk' :=
    Run.single ⟨knownDraws_plain, hcut⟩
  exact ⟨disk', hintent, startRuntime_crashSafe (Nat.le_refl 4) isFilePath_plainPath (by decide)
    (fun _ _ => rfl) knownDisk_plain (.inl rfl) knownDraws_plain knownDraws_plain hopens hrun⟩

section
include hcalls hpath hhost hdate

/-- A state of schema 3 or 4 from which a start opens the runtime is not lost: after any run of
interrupted starts, a start opens it as it is, or its migration. -/
theorem startRuntime_keepsState {starts : List (Nat → RuntimeDraw)} {draws' : Nat → RuntimeDraw}
    {opened : JsonObject} (hknown : KnownDisk files disk)
    (hnoReset : disk.files .resetIntent = none) (hnoMigration : disk.files .migrationIntent = none)
    (hstate : Holds (disk.files .state) state)
    (hversion : isNumber 3 (state.get? "schemaVersion") = true
      ∨ isNumber 4 (state.get? "schemaVersion") = true)
    (hdraws' : KnownDraws files draws')
    (hopens : (startRuntime checks hash statePath hostId calls draws disk).1 = .ok opened)
    (hrun : Run (Interrupted files calls) disk starts disk') :
    ∃ kept, (startRuntime checks hash statePath hostId calls draws' disk').1 = .ok kept
      ∧ (isNumber 4 (state.get? "schemaVersion") = true → kept = state)
      ∧ (isNumber 3 (state.get? "schemaVersion") = true →
        migrateStateV3ToV4 checks state hostId = .ok kept) := by
  obtain ⟨kept, hphase⟩ := phase_of_opens hcalls hknown (.inl hnoReset) hopens
  have hkeeps : Keeps files kept disk := .of_phase hknown hphase
  obtain ⟨last, w', hlast, -, hkept, -⟩ :=
    start_of_keeps hcalls hpath hhost hdate hdraws'
      (keeps_of_run hcalls hpath hhost hdate hkeeps hrun)
  refine ⟨last, by rw [hlast], ?_⟩
  rcases kept_of_state hphase hnoReset hnoMigration hstate with
    ⟨rfl, hfour⟩ | ⟨rfl, hthree, hmigrated⟩ | hother
  · cases hkept
    exact ⟨fun _ => rfl, fun hthree => (nomatch isNumber_unique hthree hfour)⟩
  · cases hkept
    exact ⟨fun hfour => (nomatch isNumber_unique hthree hfour), fun _ => hmigrated⟩
  · rcases hversion with hthree | hfour
    · exact absurd (hother 3 hthree) (by decide)
    · exact absurd (hother 4 hfour) (by decide)

end

/-- The Session of the state is not lost by a start that is stopped after the intent was written. -/
theorem startRuntime_keepsState_plain :
    ∃ disk', (disk'.files .migrationIntent).isSome = true
      ∧ ∃ kept, (plainStart disk').1 = .ok kept
        ∧ (isNumber 4 (priorState.get? "schemaVersion") = true → kept = priorState)
        ∧ (isNumber 3 (priorState.get? "schemaVersion") = true →
          migrateStateV3ToV4 plainChecks priorState plainHost = .ok kept) := by
  obtain ⟨hopens, disk', hcut, hintent⟩ := plainDisk_opens
  have hrun : Run (Interrupted plainKnown 4) plainDisk [fun _ => plainDraw] disk' :=
    Run.single ⟨knownDraws_plain, hcut⟩
  exact ⟨disk', hintent, startRuntime_keepsState (Nat.le_refl 4) isFilePath_plainPath (by decide)
    (fun _ _ => rfl) knownDisk_plain rfl rfl ⟨_, rfl, rfl⟩
    (.inl (isNumber_of_isPriorStateRecordV3 isPriorStateRecordV3_priorState)) knownDraws_plain
    hopens hrun⟩

/-- The intents that a start writes are read back, and pass the checks of a start that goes on from
them. So a journal is never left that no start can finish. -/
theorem journals_readBack (hpath : IsFilePath statePath) (hhost : hostId ≠ [])
    (hdate : ∀ text, isCanonicalTimestampString text = true → checks.isFiniteDate text = true)
    (drawn : RuntimeDraw) :
    (∀ key fromSchema toSchema stateSource spoolSource intent,
        (fromSchema = 1 ∧ toSchema = 2) ∨ (fromSchema = 2 ∧ toSchema = 3) →
        intent = resetIntentOf hash statePath hostId drawn key fromSchema toSchema stateSource
          spoolSource →
        parseResetIntent checks (.object intent.toJson) = .ok intent
          ∧ assertResetIntentPaths intent statePath = .ok ()
          ∧ assertRuntimeResetTargets checks hash intent = .ok ())
      ∧ ∀ state spool stateBytes spoolBytes, isPriorRuntimeV3 checks hostId state spool = true →
        ∃ stateTarget spoolTarget, migrateStateV3ToV4 checks state hostId = .ok stateTarget
          ∧ migrateSpoolV3ToV4 spool hostId (textIn stateTarget "runtimeResetEpoch")
            = .ok spoolTarget
          ∧ ∀ intent, intent = migrationIntentOf hash statePath hostId drawn stateTarget spoolTarget
              stateBytes spoolBytes →
            parseMigrationIntent checks hash intent.toJson statePath = .ok intent := by
  constructor
  · rintro key fromSchema toSchema stateSource spoolSource intent hschemas rfl
    exact ⟨parseResetIntent_toJson (isResetIntent_resetIntentOf hpath hhost
        (hdate _ drawn.isTimestamp) hschemas), assertResetIntentPaths_resetIntentOf hpath,
      assertRuntimeResetTargets_resetIntentOf hschemas⟩
  · intro state spool stateBytes spoolBytes hprior
    have hrecords := hprior
    rw [isPriorRuntimeV3, Bool.and_eq_true] at hrecords
    obtain ⟨hmigrated, hepoch, -⟩ := parseCurrentRuntime_migrated hrecords.1 hrecords.2
    obtain ⟨hspoolMigrated, -⟩ := parseCurrentSpoolRecord_migrated hrecords.2
    refine ⟨_, _, hmigrated, hepoch ▸ hspoolMigrated, ?_⟩
    rintro intent rfl
    exact parseMigrationIntent_toJson (isMigrationIntent_migrationIntentOf hpath hhost _ _)
      (assertMigrationIntentTargets_migrationIntentOf hpath hprior)

/-- The intent of the state with a Session is read back. -/
theorem journals_readBack_plain :
    ∃ stateTarget spoolTarget, migrateStateV3ToV4 plainChecks priorState plainHost = .ok stateTarget
      ∧ migrateSpoolV3ToV4 (spoolFileForSchema 3 plainHost plainEpoch letterKey.val) plainHost
          (textIn stateTarget "runtimeResetEpoch") = .ok spoolTarget
      ∧ ∀ intent, intent = migrationIntentOf bitHash plainPath plainHost plainDraw stateTarget
          spoolTarget (serializeSecureJson priorState)
          (serializeSecureJson (spoolFileForSchema 3 plainHost plainEpoch letterKey.val)) →
        parseMigrationIntent plainChecks bitHash intent.toJson plainPath = .ok intent :=
  (journals_readBack isFilePath_plainPath (by decide) (fun _ _ => rfl) plainDraw).2 _ _ _ _
    isPriorRuntimeV3_plain

end

end Ariava.Proofs.RuntimeStarts
