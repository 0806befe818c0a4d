import Mathlib.Data.List.TakeWhile
import Ariava.AgentAdapter.ServerInput

/-!
# `Ariava.Proofs.IngressAgreement`: the server's parsers against the codecs of protocol 4

The adapter server and the protocol package read the same messages with checks of their own.
Their keys, identifiers, member types and statuses are checked in the same way: this is the
shape of a message (`RegisterShape`, `HeartbeatShape`, `HandleShape`). The codec checks more:
that texts are well formed, bounded and not empty, that a process id is a non-negative safe
integer, that timestamps are canonical, and that a poll timeout is a canonical decimal within
its limit.

- `parseRegisterInput_eq_ok_iff`, `validateRegister_eq_ok_iff` and their siblings: what each
  side accepts, and the input that it gives.
- `agreement_iff`: the two sides agree on a message exactly when the message has the shape
  only within these bounds.
- `disagreement_of_pid`: the server registers a Session with a process id of -1.
-/

set_option autoImplicit false

namespace Ariava.Proofs.IngressAgreement

open Ariava.Protocol
open Ariava.AgentAdapter

/-! ### Agreement -/

section
variable {ε δ α : Type}

/-- Both sides reject, or both accept with the same input. -/
inductive Agrees : Except ε α → Except δ α → Prop
  | accepted (a : α) : Agrees (.ok a) (.ok a)
  | rejected (e : ε) (d : δ) : Agrees (.error e) (.error d)

/-- Sides that agree accept together. -/
theorem Agrees.isSome_eq {server : Except ε α} {contract : Except δ α}
    (h : Agrees server contract) : server.toOption.isSome = contract.toOption.isSome := by
  cases h with
  | accepted a => rfl
  | rejected e d => rfl

/-- When one side accepts under `P` and the other under `P` and `Q`, with one and the same
input, they agree exactly when `P` implies `Q`. -/
theorem agrees_iff {server : Except ε α} {contract : Except δ α} {P Q : Prop} {a : α}
    (hserver : ∀ r, server = .ok r ↔ P ∧ r = a)
    (hcontract : ∀ r, contract = .ok r ↔ (P ∧ Q) ∧ r = a) :
    Agrees server contract ↔ (P → Q) := by
  constructor
  · intro h hP
    have hok : server = .ok a := (hserver a).mpr ⟨hP, rfl⟩
    rw [hok] at h
    cases h
    exact ((hcontract a).mp rfl).1.2
  · intro h
    rcases server with e | r
    · rcases contract with e' | r'
      · exact .rejected e e'
      · have hP := ((hcontract r').mp rfl).1.1
        exact absurd ((hserver a).mpr ⟨hP, rfl⟩) (by simp)
    · obtain ⟨hP, rfl⟩ := (hserver r).mp rfl
      rw [(hcontract r).mpr ⟨⟨hP, h hP⟩, rfl⟩]
      exact .accepted r

end

/-! ### Members -/

variable {obj : JsonObject}

/-- Every key is allowed, and the required ones are there. -/
structure HasExactKeys (obj : JsonObject) (required optional : List String) : Prop where
  allowed : ∀ property ∈ obj, property.1 ∈ (required ++ optional).map jsString
  present : ∀ key ∈ required, JsonObject.hasOwn obj key = true

/-- Any string. -/
def anyString (_ : JsString) : Bool := true

/-- The check that a member is a number or absent. -/
def isOptionalNumber : Option JsonValue → Bool
  | none | some (.number _) => true
  | some _ => false

/-- A process id that the codec accepts. -/
def isContractPid (pid : JsonNumber) : Bool := pid.isSafeInteger && !pid.isNegative

theorem unsupportedKey?_eq_none {allowed : List String} :
    JsonObject.unsupportedKey? obj allowed = none ↔
      ∀ property ∈ obj, property.1 ∈ allowed.map jsString := by
  rw [JsonObject.unsupportedKey?, Option.map_eq_none_iff, List.find?_eq_none]
  simp only [decide_eq_true_eq, not_not]

theorem findMissing_eq_none {required : List String} :
    required.find? (fun key => !JsonObject.hasOwn obj key) = none ↔
      ∀ key ∈ required, JsonObject.hasOwn obj key = true := by
  rw [List.find?_eq_none]
  simp only [Bool.not_eq_true', Bool.not_eq_false]

/-- `assertExactKeys` accepts the exact keys. -/
theorem assertExactKeys_eq_ok {required optional : List String} {label : String} :
    assertExactKeys obj required optional label = .ok () ↔ HasExactKeys obj required optional := by
  unfold assertExactKeys
  constructor
  · intro h
    split at h
    · cases h
    rename_i hallowed
    split at h
    · cases h
    rename_i hpresent
    exact ⟨unsupportedKey?_eq_none.mp hallowed, findMissing_eq_none.mp hpresent⟩
  · intro h
    rw [unsupportedKey?_eq_none.mpr h.allowed]
    dsimp only
    rw [findMissing_eq_none.mpr h.present]

/-- `exactDataRecord` accepts an object with the exact keys. -/
theorem exactDataRecord_object_eq_ok {required optional : List String} {label : String}
    {record : JsonObject} :
    exactDataRecord (.object obj) (required ++ optional) required label = .ok record ↔
      HasExactKeys obj required optional ∧ record = obj := by
  unfold exactDataRecord
  constructor
  · intro h
    dsimp only at h
    split at h
    · cases h
    rename_i hallowed
    split at h
    · cases h
    rename_i hpresent
    cases h
    exact ⟨⟨unsupportedKey?_eq_none.mp hallowed, findMissing_eq_none.mp hpresent⟩, rfl⟩
  · rintro ⟨h, rfl⟩
    dsimp only
    rw [unsupportedKey?_eq_none.mpr h.allowed]
    dsimp only
    rw [findMissing_eq_none.mpr h.present]

section
variable {key : String}

theorem requireString_eq_ok {s : JsString} :
    requireString obj key = .ok s ↔
      holdsOfString anyString (obj.get? key) = true ∧ s = textMember obj key := by
  unfold requireString textMember
  rcases obj.get? key with _ | (_ | _ | _ | _ | _ | _) <;> simp [holdsOfString, anyString, eq_comm]

theorem optionalString_eq_ok {o : Option JsString} :
    optionalString obj key = .ok o ↔
      holdsOfOptionalString anyString (obj.get? key) = true ∧ o = optionalTextMember obj key := by
  unfold optionalString optionalTextMember
  rcases obj.get? key with _ | (_ | _ | _ | _ | _ | _) <;>
    simp [holdsOfOptionalString, anyString, eq_comm]

theorem optionalNullableString_eq_ok {o : Option (Option JsString)} :
    optionalNullableString obj key = .ok o ↔
      holdsOfNullableString anyString (obj.get? key) = true ∧ o = nullableTextMember obj key := by
  unfold optionalNullableString nullableTextMember
  rcases obj.get? key with _ | (_ | _ | _ | _ | _ | _) <;>
    simp [holdsOfNullableString, anyString, eq_comm]

theorem optionalNumber_eq_ok {o : Option JsonNumber} :
    optionalNumber obj key = .ok o ↔
      isOptionalNumber (obj.get? key) = true ∧ o = optionalNumberMember obj key := by
  unfold optionalNumber optionalNumberMember
  rcases obj.get? key with _ | (_ | _ | _ | _ | _ | _) <;> simp [isOptionalNumber, eq_comm]

/-- The two checks of an identifier are the same. -/
theorem isBoundedAgentAdapterIdentifier_eq (s : JsString) :
    isBoundedAgentAdapterIdentifier s = isAgentAdapterIdentifier s := rfl

theorem requireIdentifier_eq_ok {s : JsString} :
    requireIdentifier obj key = .ok s ↔
      holdsOfString isAgentAdapterIdentifier (obj.get? key) = true ∧ s = textMember obj key := by
  unfold requireIdentifier textMember
  rcases obj.get? key with _ | (_ | _ | _ | text | _ | _)
  case some.string =>
    simp only [isBoundedAgentAdapterIdentifier_eq, holdsOfString]
    by_cases htest : isAgentAdapterIdentifier text = true <;> simp [htest, eq_comm]
  all_goals simp [holdsOfString]

theorem optionalIdentifier_eq_ok {o : Option JsString} :
    optionalIdentifier obj key = .ok o ↔
      holdsOfOptionalString isAgentAdapterIdentifier (obj.get? key) = true ∧
        o = optionalTextMember obj key := by
  unfold optionalIdentifier optionalTextMember
  rcases obj.get? key with _ | (_ | _ | _ | text | _ | _)
  case some.string =>
    simp only [isBoundedAgentAdapterIdentifier_eq, holdsOfOptionalString]
    by_cases htest : isAgentAdapterIdentifier text = true <;> simp [htest, eq_comm]
  all_goals simp [holdsOfOptionalString, eq_comm]

theorem asSessionStatus_eq_ok {s : JsString} {status : SessionStatus} :
    asSessionStatus s = .ok status ↔ sessionStatus? (.string s) = some status := by
  unfold asSessionStatus
  rcases sessionStatus? (.string s) with _ | found <;> simp

theorem optionalStatus_eq_ok {o : Option SessionStatus} :
    optionalStatus obj key = .ok o ↔
      isOptionalStatus (obj.get? key) = true ∧ o = optionalStatusMember obj key := by
  rw [optionalStatus, bind_eq_ok_iff, optionalStatusMember]
  unfold optionalString
  rcases obj.get? key with _ | (_ | _ | _ | text | _ | _)
  case none => simp [isOptionalStatus, eq_comm, pure, Except.pure]
  case some.string =>
    simp only [Except.ok.injEq, exists_eq_left', bind_eq_ok_iff, asSessionStatus_eq_ok,
      isOptionalStatus, Option.bind_some]
    rcases sessionStatus? (.string text) with _ | found <;>
      simp [eq_comm, pure, Except.pure]
  all_goals simp [isOptionalStatus, sessionStatus?]

/-! ### The bounds of the codec -/

theorem holdsOfString_iff {test : JsString → Bool} :
    holdsOfString test (obj.get? key) = true ↔
      holdsOfString anyString (obj.get? key) = true ∧ test (textMember obj key) = true := by
  unfold textMember
  rcases obj.get? key with _ | (_ | _ | _ | _ | _ | _) <;> simp [holdsOfString, anyString]

theorem holdsOfOptionalString_iff {test : JsString → Bool} :
    holdsOfOptionalString test (obj.get? key) = true ↔
      holdsOfOptionalString anyString (obj.get? key) = true ∧
        (optionalTextMember obj key).all test = true := by
  unfold optionalTextMember
  rcases obj.get? key with _ | (_ | _ | _ | _ | _ | _) <;> simp [holdsOfOptionalString, anyString]

theorem holdsOfNullableString_iff {test : JsString → Bool} :
    holdsOfNullableString test (obj.get? key) = true ↔
      holdsOfNullableString anyString (obj.get? key) = true ∧
        ((nullableTextMember obj key).all fun text => text.all test) = true := by
  unfold nullableTextMember
  rcases obj.get? key with _ | (_ | _ | _ | _ | _ | _) <;> simp [holdsOfNullableString, anyString]

theorem isOptionalPid_iff :
    isOptionalPid (obj.get? key) = true ↔
      isOptionalNumber (obj.get? key) = true ∧
        (optionalNumberMember obj key).all isContractPid = true := by
  unfold optionalNumberMember
  rcases obj.get? key with _ | (_ | _ | _ | _ | _ | _) <;>
    simp [isOptionalPid, isOptionalNumber, isContractPid]

end

/-- A check that passes has no issue. -/
theorem issueUnless_eq_nil {passed : Bool} {issue : String} :
    issueUnless passed issue = [] ↔ passed = true := by
  cases passed <;> simp [issueUnless]

/-- A validator accepts when it has no issue. -/
theorem validated_eq_ok {α : Type} {issues : List String} {value r : α} :
    validated issues value = .ok r ↔ issues = [] ∧ r = value := by
  unfold validated
  split
  · rename_i hnil
    simp [hnil, eq_comm]
  · rename_i hissues
    simp [hissues]

/-! ### Register -/

/-- The keys, the identifiers, the member types and the status of a register message. -/
structure RegisterShape (obj : JsonObject) : Prop where
  keys : HasExactKeys obj registerRequiredKeys registerOptionalKeys
  driverInstanceId :
    holdsOfString isAgentAdapterDriverInstanceId (obj.get? "driverInstanceId") = true
  identifiers : ∀ key ∈ ["sessionId", "provider"],
    holdsOfString isAgentAdapterIdentifier (obj.get? key) = true
  texts : ∀ key ∈ ["projectName", "cwd", "nameText"],
    holdsOfString anyString (obj.get? key) = true
  optionalTexts : ∀ key ∈ ["openingText", "latestActivityText"],
    holdsOfOptionalString anyString (obj.get? key) = true
  harnessProvider :
    holdsOfOptionalString isAgentAdapterIdentifier (obj.get? "harnessProvider") = true
  pid : isOptionalNumber (obj.get? "pid") = true
  status : isOptionalStatus (obj.get? "status") = true

/-- The bounds of the codec on the members of a register message. -/
structure RegisterBounds (obj : JsonObject) : Prop where
  texts : ∀ key ∈ ["projectName", "cwd", "nameText"],
    isAgentAdapterNonEmptyText (textMember obj key) = true
  optionalTexts : ∀ key ∈ ["openingText", "latestActivityText"],
    (optionalTextMember obj key).all isAgentAdapterText = true
  pid : (optionalNumberMember obj "pid").all isContractPid = true

/-- The server accepts the register messages of the right shape. -/
theorem parseRegisterInput_eq_ok_iff {r : AgentAdapterRegisterRequest} :
    parseRegisterInput (.object obj) = .ok r ↔ RegisterShape obj ∧ r = registerRequestOf obj := by
  rw [parseRegisterInput, check_bind_eq_ok, check_bind_eq_ok, assertExactKeys_eq_ok,
    throwIf_eq_ok, Bool.not_eq_false']
  simp only [bind_eq_ok_iff, requireIdentifier_eq_ok, requireString_eq_ok, optionalString_eq_ok,
    optionalIdentifier_eq_ok, optionalNumber_eq_ok, optionalStatus_eq_ok]
  constructor
  · rintro ⟨hkeys, hinstance, _, ⟨hsession, rfl⟩, _, ⟨hprovider, rfl⟩, _, ⟨hproject, rfl⟩, _,
      ⟨hcwd, rfl⟩, _, ⟨hname, rfl⟩, _, ⟨hopening, rfl⟩, _, ⟨hactivity, rfl⟩, _, ⟨hharness, rfl⟩,
      _, ⟨hpid, rfl⟩, _, ⟨hstatus, rfl⟩, hr⟩
    refine ⟨⟨hkeys, hinstance, ?_, ?_, ?_, hharness, hpid, hstatus⟩, ?_⟩
    · simp [hsession, hprovider]
    · simp [hproject, hcwd, hname]
    · simp [hopening, hactivity]
    · cases hr
      rfl
  · rintro ⟨h, rfl⟩
    have hidentifiers := h.identifiers
    have htexts := h.texts
    have hoptional := h.optionalTexts
    simp only [List.mem_cons, List.not_mem_nil, or_false, forall_eq_or_imp, forall_eq]
      at hidentifiers htexts hoptional
    exact ⟨h.keys, h.driverInstanceId, _, ⟨hidentifiers.1, rfl⟩, _, ⟨hidentifiers.2, rfl⟩, _,
      ⟨htexts.1, rfl⟩, _, ⟨htexts.2.1, rfl⟩, _, ⟨htexts.2.2, rfl⟩, _, ⟨hoptional.1, rfl⟩, _,
      ⟨hoptional.2, rfl⟩, _, ⟨h.harnessProvider, rfl⟩, _, ⟨h.pid, rfl⟩, _, ⟨h.status, rfl⟩, rfl⟩

/-- The codec accepts the register messages of the right shape within its bounds. -/
theorem validateRegister_eq_ok_iff {r : AgentAdapterRegisterRequest} :
    validateAgentAdapterRegisterRequest (.object obj) = .ok r ↔
      (RegisterShape obj ∧ RegisterBounds obj) ∧ r = registerRequestOf obj := by
  have hissues : registerIssues obj = [] ↔
      (∀ key ∈ ["sessionId", "provider"],
        holdsOfString isAgentAdapterIdentifier (obj.get? key) = true) ∧
      (∀ key ∈ ["projectName", "cwd", "nameText"],
        holdsOfString isAgentAdapterNonEmptyText (obj.get? key) = true) ∧
      holdsOfString isAgentAdapterDriverInstanceId (obj.get? "driverInstanceId") = true ∧
      (∀ key ∈ ["openingText", "latestActivityText"],
        holdsOfOptionalString isAgentAdapterText (obj.get? key) = true) ∧
      holdsOfOptionalString isAgentAdapterIdentifier (obj.get? "harnessProvider") = true ∧
      isOptionalPid (obj.get? "pid") = true ∧ isOptionalStatus (obj.get? "status") = true := by
    simp only [registerIssues, List.append_eq_nil_iff, issueUnless_eq_nil, List.mem_cons,
      List.not_mem_nil, or_false, forall_eq_or_imp, forall_eq, and_assoc]
  have hbounds : registerIssues obj = [] ∧ HasExactKeys obj registerRequiredKeys
      registerOptionalKeys ↔ RegisterShape obj ∧ RegisterBounds obj := by
    rw [hissues]
    constructor
    · rintro ⟨⟨hidentifiers, htexts, hinstance, hoptional, hharness, hpid, hstatus⟩, hkeys⟩
      exact ⟨⟨hkeys, hinstance, hidentifiers,
          fun key hkey => (holdsOfString_iff.mp (htexts key hkey)).1,
          fun key hkey => (holdsOfOptionalString_iff.mp (hoptional key hkey)).1, hharness,
          (isOptionalPid_iff.mp hpid).1, hstatus⟩,
        ⟨fun key hkey => (holdsOfString_iff.mp (htexts key hkey)).2,
          fun key hkey => (holdsOfOptionalString_iff.mp (hoptional key hkey)).2,
          (isOptionalPid_iff.mp hpid).2⟩⟩
    · rintro ⟨hshape, hbounds⟩
      exact ⟨⟨hshape.identifiers,
        fun key hkey => holdsOfString_iff.mpr ⟨hshape.texts key hkey, hbounds.texts key hkey⟩,
        hshape.driverInstanceId,
        fun key hkey => holdsOfOptionalString_iff.mpr
          ⟨hshape.optionalTexts key hkey, hbounds.optionalTexts key hkey⟩,
        hshape.harnessProvider, isOptionalPid_iff.mpr ⟨hshape.pid, hbounds.pid⟩, hshape.status⟩,
        hshape.keys⟩
  rw [← hbounds, validateAgentAdapterRegisterRequest]
  constructor
  · intro h
    split at h
    · cases h
    rename_i record hrecord
    obtain ⟨hkeys, rfl⟩ := exactDataRecord_object_eq_ok.mp hrecord
    obtain ⟨hnil, hr⟩ := validated_eq_ok.mp h
    exact ⟨⟨hnil, hkeys⟩, hr⟩
  · rintro ⟨⟨hnil, hkeys⟩, hr⟩
    rw [exactDataRecord_object_eq_ok.mpr ⟨hkeys, rfl⟩]
    exact validated_eq_ok.mpr ⟨hnil, hr⟩

/-! ### Heartbeat -/

/-- The keys, the member types and the status of a heartbeat message. -/
structure HeartbeatShape (obj : JsonObject) : Prop where
  keys : HasExactKeys obj heartbeatRequiredKeys heartbeatOptionalKeys
  status : (optionalStatusMember obj "status").isSome = true
  nullableTexts : ∀ key ∈ ["latestActivityText", "openingText"],
    holdsOfNullableString anyString (obj.get? key) = true
  optionalTexts : ∀ key ∈ ["projectName", "nameText"],
    holdsOfOptionalString anyString (obj.get? key) = true

/-- The bounds of the codec on the texts of a heartbeat message. -/
structure HeartbeatBounds (obj : JsonObject) : Prop where
  nullableTexts : ∀ key ∈ ["latestActivityText", "openingText"],
    ((nullableTextMember obj key).all fun text => text.all isAgentAdapterText) = true
  optionalTexts : ∀ key ∈ ["projectName", "nameText"],
    (optionalTextMember obj key).all isAgentAdapterText = true

/-- The two steps of the server to a status: a string, and one of the statuses. -/
theorem requireStatus_eq_ok {key : String} {status : SessionStatus} :
    (requireString obj key >>= asSessionStatus) = .ok status ↔
      optionalStatusMember obj key = some status := by
  rw [bind_eq_ok_iff, optionalStatusMember]
  unfold requireString
  rcases obj.get? key with _ | (_ | _ | _ | text | _ | _)
  case some.string => simp [asSessionStatus_eq_ok]
  all_goals simp [sessionStatus?]

/-- The server accepts the heartbeat messages of the right shape. -/
theorem parseHeartbeatInput_eq_ok_iff {r : AgentAdapterHeartbeatRequest} :
    parseHeartbeatInput (.object obj) = .ok r ↔
      HeartbeatShape obj ∧ r = heartbeatRequestOf obj := by
  have hstatus : parseHeartbeatInput (.object obj) = (do
      assertExactKeys obj heartbeatRequiredKeys heartbeatOptionalKeys "heartbeat"
      let status ← requireString obj "status" >>= asSessionStatus
      return {
        status := status
        latestActivityText := ← optionalNullableString obj "latestActivityText"
        openingText := ← optionalNullableString obj "openingText"
        projectName := ← optionalString obj "projectName"
        nameText := ← optionalString obj "nameText" }) := by
    rw [bind_assoc]
    rfl
  rw [hstatus, check_bind_eq_ok, assertExactKeys_eq_ok, bind_eq_ok_iff]
  simp only [requireStatus_eq_ok]
  simp only [bind_eq_ok_iff, optionalNullableString_eq_ok, optionalString_eq_ok]
  constructor
  · rintro ⟨hkeys, status, hfound, _, ⟨hactivity, rfl⟩, _, ⟨hopening, rfl⟩, _, ⟨hproject, rfl⟩, _,
      ⟨hname, rfl⟩, hr⟩
    refine ⟨⟨hkeys, by rw [hfound]; rfl, ?_, ?_⟩, ?_⟩
    · simp [hactivity, hopening]
    · simp [hproject, hname]
    · cases hr
      rw [heartbeatRequestOf, hfound]
      rfl
  · rintro ⟨h, rfl⟩
    have hnullable := h.nullableTexts
    have hoptional := h.optionalTexts
    simp only [List.mem_cons, List.not_mem_nil, or_false, forall_eq_or_imp, forall_eq]
      at hnullable hoptional
    obtain ⟨status, hfound⟩ := Option.isSome_iff_exists.mp h.status
    refine ⟨h.keys, status, hfound, _, ⟨hnullable.1, rfl⟩, _, ⟨hnullable.2, rfl⟩, _,
      ⟨hoptional.1, rfl⟩, _, ⟨hoptional.2, rfl⟩, ?_⟩
    rw [heartbeatRequestOf, hfound]
    rfl

/-- The codec accepts the heartbeat messages of the right shape within its bounds. -/
theorem validateHeartbeat_eq_ok_iff {r : AgentAdapterHeartbeatRequest} :
    validateAgentAdapterHeartbeatRequest (.object obj) = .ok r ↔
      (HeartbeatShape obj ∧ HeartbeatBounds obj) ∧ r = heartbeatRequestOf obj := by
  have hissues : heartbeatIssues obj = [] ↔ (optionalStatusMember obj "status").isSome = true ∧
      (∀ key ∈ ["latestActivityText", "openingText"],
        holdsOfNullableString isAgentAdapterText (obj.get? key) = true) ∧
      ∀ key ∈ ["projectName", "nameText"],
        holdsOfOptionalString isAgentAdapterText (obj.get? key) = true := by
    simp only [heartbeatIssues, List.append_eq_nil_iff, issueUnless_eq_nil, List.mem_cons,
      List.not_mem_nil, or_false, forall_eq_or_imp, forall_eq, and_assoc]
  have hbounds : heartbeatIssues obj = [] ∧ HasExactKeys obj heartbeatRequiredKeys
      heartbeatOptionalKeys ↔ HeartbeatShape obj ∧ HeartbeatBounds obj := by
    rw [hissues]
    constructor
    · rintro ⟨⟨hstatus, hnullable, hoptional⟩, hkeys⟩
      exact ⟨⟨hkeys, hstatus, fun key hkey => (holdsOfNullableString_iff.mp (hnullable key hkey)).1,
          fun key hkey => (holdsOfOptionalString_iff.mp (hoptional key hkey)).1⟩,
        ⟨fun key hkey => (holdsOfNullableString_iff.mp (hnullable key hkey)).2,
          fun key hkey => (holdsOfOptionalString_iff.mp (hoptional key hkey)).2⟩⟩
    · rintro ⟨hshape, hbounds⟩
      exact ⟨⟨hshape.status,
        fun key hkey => holdsOfNullableString_iff.mpr
          ⟨hshape.nullableTexts key hkey, hbounds.nullableTexts key hkey⟩,
        fun key hkey => holdsOfOptionalString_iff.mpr
          ⟨hshape.optionalTexts key hkey, hbounds.optionalTexts key hkey⟩⟩, hshape.keys⟩
  rw [← hbounds, validateAgentAdapterHeartbeatRequest]
  constructor
  · intro h
    split at h
    · cases h
    rename_i record hrecord
    obtain ⟨hkeys, rfl⟩ := exactDataRecord_object_eq_ok.mp hrecord
    obtain ⟨hnil, hr⟩ := validated_eq_ok.mp h
    exact ⟨⟨hnil, hkeys⟩, hr⟩
  · rintro ⟨⟨hnil, hkeys⟩, hr⟩
    rw [exactDataRecord_object_eq_ok.mpr ⟨hkeys, rfl⟩]
    exact validated_eq_ok.mpr ⟨hnil, hr⟩

/-! ### Handle -/

/-- The keys, the identifier, the member types and the action of a handle message. -/
structure HandleShape (obj : JsonObject) : Prop where
  keys : HasExactKeys obj handleRequiredKeys handleOptionalKeys
  identifier : holdsOfString isAgentAdapterIdentifier (obj.get? "handledThroughEventId") = true
  timestamps : ∀ key ∈ ["handledThroughEventCreatedAt", "handledAt"],
    holdsOfOptionalString anyString (obj.get? key) = true
  action : holdsOfOptionalString (fun s => (handleAction? s).isSome) (obj.get? "action") = true

/-- The bounds of the codec on a handle message: its timestamps are canonical. -/
structure HandleBounds (obj : JsonObject) : Prop where
  timestamps : ∀ key ∈ ["handledThroughEventCreatedAt", "handledAt"],
    (optionalTextMember obj key).all isCanonicalTimestampString = true

/-- A wire request with its persisted action, the input of the registry. -/
def persistedHandleRequest (request : AgentAdapterHandleRequest) : HandleSessionRequest where
  handledThroughEventId := request.handledThroughEventId
  handledThroughEventCreatedAt := request.handledThroughEventCreatedAt
  handledAt := request.handledAt
  action := request.action.map persistedHandleAction

theorem asHandleAction_eq_ok {o : Option JsString} {a : Option SessionHandleAction} :
    asHandleAction o = .ok a ↔ (o.all fun s => (handleAction? s).isSome) = true ∧
      a = (o.bind handleAction?).map persistedHandleAction := by
  rw [asHandleAction, check_bind_eq_ok, throwIf_eq_ok]
  rcases o with _ | s
  · simp [eq_comm, pure, Except.pure]
  · have hdistinct : jsString "local_input" ≠ jsString "bridge_recovery" := by decide
    by_cases hlocal : s = jsString "local_input"
    · subst hlocal
      simp [handleAction?, persistedHandleAction, hdistinct, hdistinct.symm, eq_comm, pure,
        Except.pure]
    · by_cases hrecovery : s = jsString "bridge_recovery"
      · subst hrecovery
        simp [handleAction?, persistedHandleAction, hdistinct.symm, eq_comm, pure, Except.pure]
      · simp [handleAction?, hlocal, hrecovery]

/-- The server accepts the handle messages of the right shape. -/
theorem parseHandleInput_eq_ok_iff {r : HandleSessionRequest} :
    parseHandleInput (.object obj) = .ok r ↔
      HandleShape obj ∧ r = persistedHandleRequest (handleRequestOf obj) := by
  rw [parseHandleInput, check_bind_eq_ok, assertExactKeys_eq_ok]
  simp only [bind_eq_ok_iff, optionalString_eq_ok, asHandleAction_eq_ok, requireIdentifier_eq_ok]
  constructor
  · rintro ⟨hkeys, _, ⟨haction, rfl⟩, _, ⟨hknown, rfl⟩, _, ⟨hevent, rfl⟩, _, ⟨hcreated, rfl⟩, _,
      ⟨hhandled, rfl⟩, hr⟩
    refine ⟨⟨hkeys, hevent, ?_, holdsOfOptionalString_iff.mpr ⟨haction, hknown⟩⟩, ?_⟩
    · simp [hcreated, hhandled]
    · cases hr
      rfl
  · rintro ⟨h, rfl⟩
    have htimestamps := h.timestamps
    simp only [List.mem_cons, List.not_mem_nil, or_false, forall_eq_or_imp, forall_eq]
      at htimestamps
    obtain ⟨haction, hknown⟩ := holdsOfOptionalString_iff.mp h.action
    exact ⟨h.keys, _, ⟨haction, rfl⟩, _, ⟨hknown, rfl⟩, _, ⟨h.identifier, rfl⟩, _,
      ⟨htimestamps.1, rfl⟩, _, ⟨htimestamps.2, rfl⟩, rfl⟩

/-- The codec accepts the handle messages of the right shape within its bounds. -/
theorem validateHandle_eq_ok_iff {r : HandleSessionRequest} :
    (validateAgentAdapterHandleRequest (.object obj)).map persistedHandleRequest = .ok r ↔
      (HandleShape obj ∧ HandleBounds obj) ∧ r = persistedHandleRequest (handleRequestOf obj) := by
  have hissues : handleIssues obj = [] ↔
      holdsOfString isAgentAdapterIdentifier (obj.get? "handledThroughEventId") = true ∧
      (∀ key ∈ ["handledThroughEventCreatedAt", "handledAt"],
        holdsOfOptionalString isCanonicalTimestampString (obj.get? key) = true) ∧
      holdsOfOptionalString (fun s => (handleAction? s).isSome) (obj.get? "action") = true := by
    simp only [handleIssues, List.append_eq_nil_iff, issueUnless_eq_nil, List.mem_cons,
      List.not_mem_nil, or_false, forall_eq_or_imp, forall_eq, and_assoc]
  have hbounds : handleIssues obj = [] ∧ HasExactKeys obj handleRequiredKeys handleOptionalKeys ↔
      HandleShape obj ∧ HandleBounds obj := by
    rw [hissues]
    constructor
    · rintro ⟨⟨hevent, htimestamps, haction⟩, hkeys⟩
      exact ⟨⟨hkeys, hevent,
          fun key hkey => (holdsOfOptionalString_iff.mp (htimestamps key hkey)).1, haction⟩,
        ⟨fun key hkey => (holdsOfOptionalString_iff.mp (htimestamps key hkey)).2⟩⟩
    · rintro ⟨hshape, hbounds⟩
      exact ⟨⟨hshape.identifier,
        fun key hkey => holdsOfOptionalString_iff.mpr
          ⟨hshape.timestamps key hkey, hbounds.timestamps key hkey⟩, hshape.action⟩, hshape.keys⟩
  rw [← hbounds, validateAgentAdapterHandleRequest]
  constructor
  · intro h
    split at h
    · cases h
    rename_i record hrecord
    obtain ⟨hkeys, rfl⟩ := exactDataRecord_object_eq_ok.mp hrecord
    rcases hvalidated : validated (handleIssues record) (handleRequestOf record) with issues | request
    · rw [hvalidated] at h
      cases h
    · rw [hvalidated] at h
      obtain ⟨hnil, rfl⟩ := validated_eq_ok.mp hvalidated
      cases h
      exact ⟨⟨hnil, hkeys⟩, rfl⟩
  · rintro ⟨⟨hnil, hkeys⟩, rfl⟩
    rw [exactDataRecord_object_eq_ok.mpr ⟨hkeys, rfl⟩]
    dsimp only
    rw [validated_eq_ok.mpr ⟨hnil, rfl⟩]
    rfl

/-! ### The poll timeout -/

/-- A decimal digit is between 0 and 9. -/
theorem decimalDigit?_isSome {unit : UInt16} :
    (decimalDigit? unit).isSome = true ↔ 0x30 ≤ unit ∧ unit ≤ 0x39 := by
  unfold decimalDigit?
  split
  · rename_i hrange
    simp [hrange]
  · rename_i hrange
    simp [hrange]

theorem isWhiteSpace_of_digit {unit : UInt16} (h : (decimalDigit? unit).isSome = true) :
    isWhiteSpace unit = false := by
  rw [decimalDigit?_isSome, UInt16.le_iff_toNat_le, UInt16.le_iff_toNat_le] at h
  have hlow : (48 : Nat) ≤ unit.toNat := h.1
  have hhigh : unit.toNat ≤ (57 : Nat) := h.2
  rw [isWhiteSpace, Bool.or_eq_false_iff]
  constructor
  · rw [decide_eq_false_iff_not]
    intro hmem
    simp only [List.mem_cons, List.not_mem_nil, or_false] at hmem
    rcases hmem with rfl | rfl | rfl | rfl | rfl | rfl | rfl | rfl | rfl | rfl | rfl | rfl | rfl | rfl
      <;> revert hlow hhigh <;> decide
  · have hsmall : ¬ (0x2000 : UInt16) ≤ unit := by
      rw [UInt16.le_iff_toNat_le]
      show ¬ (8192 : Nat) ≤ unit.toNat
      omega
    simp [hsmall]

/-- `parseInt` of digits is their value: there is nothing to skip and no sign. -/
theorem parseInt?_of_digits {s : JsString} (hne : s ≠ [])
    (h : ∀ unit ∈ s, (decimalDigit? unit).isSome = true) :
    parseInt? s = some (digitsValue s : Int) := by
  obtain ⟨first, rest, rfl⟩ := List.exists_cons_of_ne_nil hne
  have hfirst := h first List.mem_cons_self
  have hdrop : (first :: rest).dropWhile isWhiteSpace = first :: rest := by
    rw [List.dropWhile_cons, isWhiteSpace_of_digit hfirst]
    rfl
  have hsign : signOf (first :: rest) = (1, first :: rest) := by
    unfold signOf
    split
    · rename_i heq
      cases heq
      exact absurd hfirst (by decide)
    · rename_i heq
      cases heq
      exact absurd hfirst (by decide)
    · rfl
  have htake : (first :: rest).takeWhile (fun unit => (decimalDigit? unit).isSome)
      = first :: rest := List.takeWhile_eq_self_iff.mpr h
  rw [parseInt?, hdrop, hsign]
  dsimp only
  rw [htake]
  simp

/-- What the codec makes of a query: its timeout, or an error. -/
def contractPollTimeout (query : JsString) : Except Unit (Option Nat) :=
  match parseAgentAdapterCommandPollTimeout query with
  | some timeout => .ok (some timeout)
  | none => .error ()

/-- The server accepts every query. -/
def serverPollTimeout (query : JsString) : Except Thrown (Option Nat) :=
  .ok (commandPollTimeout query)

/-- The query is a canonical decimal within the limit. -/
def PollTimeoutBounds (query : JsString) : Prop :=
  isCanonicalDecimal query = true ∧ digitsValue query ≤ commandPollTimeoutMaxMs

theorem pollTimeout_agrees_iff {query : JsString} :
    Agrees (serverPollTimeout query) (contractPollTimeout query) ↔ PollTimeoutBounds query := by
  unfold contractPollTimeout parseAgentAdapterCommandPollTimeout
  by_cases hbounds : PollTimeoutBounds query
  · obtain ⟨hcanonical, hlimit⟩ := hbounds
    have hdigits := hcanonical
    rw [isCanonicalDecimal, Bool.and_eq_true, Bool.and_eq_true, List.all_eq_true] at hdigits
    have hne : query ≠ [] := by
      rintro rfl
      exact absurd hdigits.1.1 (by decide)
    have hvalue : commandPollTimeout query = some (digitsValue query) := by
      have hlimit' : digitsValue query ≤ 120000 := hlimit
      rw [commandPollTimeout, parseInt?_of_digits hne hdigits.1.2, Option.map_some]
      congr 1
      omega
    rw [if_pos (by simp [hcanonical, hlimit]), serverPollTimeout, hvalue]
    exact ⟨fun _ => ⟨hcanonical, hlimit⟩, fun _ => .accepted _⟩
  · rw [if_neg (by simpa [PollTimeoutBounds] using hbounds)]
    constructor
    · intro h
      cases h
    · exact fun h => absurd h hbounds

/-! ### All messages -/

/-- An object of the shape is within the bounds. Other values have no shape. -/
def WithinBounds (shape bounds : JsonObject → Prop) : JsonValue → Prop
  | .object obj => shape obj → bounds obj
  | _ => True

/-- The agreement of the two sides on a value, for each message, and on a query. -/
structure AgreesOn (message : JsonValue) (query : JsString) : Prop where
  register : Agrees (parseRegisterInput message) (validateAgentAdapterRegisterRequest message)
  heartbeat : Agrees (parseHeartbeatInput message) (validateAgentAdapterHeartbeatRequest message)
  handle : Agrees (parseHandleInput message)
    ((validateAgentAdapterHandleRequest message).map persistedHandleRequest)
  pollTimeout : Agrees (serverPollTimeout query) (contractPollTimeout query)

/-- On every value and every query, the two sides agree on a message exactly when the message
has the shape only within the bounds of the codec, and on a query exactly when it is a
canonical decimal within the limit. -/
theorem agreement_iff (message : JsonValue) (query : JsString) :
    (Agrees (parseRegisterInput message) (validateAgentAdapterRegisterRequest message) ↔
      WithinBounds RegisterShape RegisterBounds message) ∧
    (Agrees (parseHeartbeatInput message) (validateAgentAdapterHeartbeatRequest message) ↔
      WithinBounds HeartbeatShape HeartbeatBounds message) ∧
    (Agrees (parseHandleInput message)
        ((validateAgentAdapterHandleRequest message).map persistedHandleRequest) ↔
      WithinBounds HandleShape HandleBounds message) ∧
    (Agrees (serverPollTimeout query) (contractPollTimeout query) ↔ PollTimeoutBounds query) := by
  refine ⟨?_, ?_, ?_, pollTimeout_agrees_iff⟩
  · cases message with
    | object obj =>
      exact agrees_iff (fun _ => parseRegisterInput_eq_ok_iff) fun _ => validateRegister_eq_ok_iff
    | null | bool | number | string | array =>
      exact ⟨fun _ => trivial, fun _ => .rejected _ _⟩
  · cases message with
    | object obj =>
      exact agrees_iff (fun _ => parseHeartbeatInput_eq_ok_iff)
        fun _ => validateHeartbeat_eq_ok_iff
    | null | bool | number | string | array =>
      exact ⟨fun _ => trivial, fun _ => .rejected _ _⟩
  · cases message with
    | object obj =>
      exact agrees_iff (fun _ => parseHandleInput_eq_ok_iff) fun _ => validateHandle_eq_ok_iff
    | null | bool | number | string | array =>
      exact ⟨fun _ => trivial, fun _ => .rejected _ _⟩

/-- A register message with a process id of -1. -/
def negativePid : JsonValue := .object [
  (jsString "sessionId", .string (jsString "session")),
  (jsString "provider", .string (jsString "pi")),
  (jsString "projectName", .string (jsString "project")),
  (jsString "cwd", .string (jsString "/project")),
  (jsString "nameText", .string (jsString "name")),
  (jsString "driverInstanceId", .string (jsString "AAAAAAAAAAAAAAAAAAAAAA")),
  (jsString "pid", .number (.finite (-1)))]

set_option maxRecDepth 20000 in
theorem negativePid_accepted : (parseRegisterInput negativePid).toOption.isSome = true := by
  decide +kernel

set_option maxRecDepth 20000 in
theorem negativePid_rejected :
    (validateAgentAdapterRegisterRequest negativePid).toOption.isSome = false := by
  decide +kernel

/-- The server accepts the process id, and the codec rejects it. -/
theorem disagreement_of_pid : ¬ ∀ message query, AgreesOn message query := by
  intro h
  have hregister := (h negativePid []).register
  have hagrees := Agrees.isSome_eq hregister
  rw [negativePid_accepted, negativePid_rejected] at hagrees
  cases hagrees

end Ariava.Proofs.IngressAgreement
