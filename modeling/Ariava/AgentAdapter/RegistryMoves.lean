import Ariava.Lib.Mailbox
import Ariava.AgentAdapter.RegistryFrames

/-!
# `Ariava.AgentAdapter.RegistryMoves`: the registry as a table of leases

What a registry is for, seen from its adapters: a table of owner leases and a mailbox for
each Session (`RegistryWorld.view`). Both are abstract models with steps of their own
(`LeaseStep`, `MailStep`), and they are coupled: whoever is granted a lease becomes the
owner of the mailbox, and whoever loses it loses the mailbox (`OwnerMove`).

The methods that change owners are runs of owner moves (`Moves`): `moves_register`,
`moves_heartbeat` and `moves_listSessions` for the methods, and `sheds_loseOwnership` for
what they share. A method gets the conditions under which its moves arise as hypotheses on a
guard `A`, so the caller learns where an owner can be lost.
-/

set_option autoImplicit false

namespace Ariava.AgentAdapter

open Ariava.Lib
open Ariava.Protocol
open Ariava.StateStore

/-! ### The abstract view -/

/-- How commands, polls and results name things. -/
def commandScheme : MailScheme String String String CommandEnvelope PollRequest CommandResult where
  idOf command := command.commandId
  address command := command.sessionId
  recipient poll := poll.sessionId
  lease poll := poll.ownerLease
  resultId result := result.commandId

/-- The mailboxes of commands. -/
abbrev CommandMailbox : Type :=
  Mailbox String String String CommandEnvelope PollRequest CommandResult

/-- The events of the mailboxes of commands. -/
abbrev CommandMailEvent : Type :=
  MailEvent String String String CommandEnvelope PollRequest CommandResult

/-- The leases of Session owners, and the events of their table. -/
abbrev OwnerLeases : Type := LeaseTable String String String Nat

/-- The events of the table of owner leases. -/
abbrev OwnerEvent : Type := LeaseEvent String String String Nat

/-- An occurrence as an entry of the mail log. Polls and waits that end without a command or
a result are left out. -/
def CommandOccurrence.mailEntry :
    CommandOccurrence → Option (MailEntry String CommandEnvelope PollRequest CommandResult)
  | .enqueued command => some (.enqueued command)
  | .pollSettled poll (some command) => some (.delivered poll command)
  | .pollSettled _ none => none
  | .resultAccepted commandId result => some (.accepted commandId result)
  | .waitSettled _ commandId (some result) => some (.answered commandId result)
  | .waitSettled _ _ none => none
  | .abandoned commandId => some (.abandoned commandId)

/-- The command maps as mailboxes. -/
def CommandTables.mail (owner : String → Option String) (t : CommandTables) : CommandMailbox where
  owner := owner
  queue := t.queue
  parked := t.waiters
  inFlight sessionId commandId := commandId ∈ t.inFlight sessionId
  bound commandId := (t.commandSessions.get? commandId).map fun binding => binding.sessionId
  results := t.results.get?
  log := t.occurrences.filterMap CommandOccurrence.mailEntry

/-- The owner leases together with the mailboxes. -/
structure RegistryView where
  leases : OwnerLeases
  mail : CommandMailbox

/-- The owner leases of the table, by Session. -/
def ownerOf (leases : OwnerLeases) (sessionId : String) : Option String :=
  (leases.held sessionId).map fun tenure => tenure.lease

/-- The view of a registry. -/
def RegistryWorld.view {ω : Type} (w : RegistryWorld ω) : RegistryView :=
  ⟨w.leases, w.registry.commands.mail (ownerOf w.leases)⟩

/-- The time to live of a lease has passed. -/
def LeaseLapsed (since now : Nat) : Prop := since + ownerLeaseTtl < now

instance (since now : Nat) : Decidable (LeaseLapsed since now) := Nat.decLt _ _

theorem leaseExpired_iff {session : RegisteredSession} {now : Nat} :
    AgentAdapterRegistry.leaseExpired session now = true
      ↔ LeaseLapsed session.lastOwnerLeaseMonotonic now := by
  simp [AgentAdapterRegistry.leaseExpired, LeaseLapsed]

/-- What an event of the leases does to the mailboxes. -/
def ownerMail : OwnerEvent → Option CommandMailEvent
  | .grant sessionId tenure => some (.grant sessionId tenure.lease)
  | .renew _ _ _ => none
  | .release sessionId => some (.lose sessionId)
  | .expire sessionId _ => some (.lose sessionId)

/-- A step of the leases, which takes the mailboxes with it. -/
structure OwnerMove (v : RegistryView) (e : OwnerEvent) (v' : RegistryView) : Prop where
  leases : LeaseStep LeaseLapsed v.leases e v'.leases
  mail : Along (MailStep commandScheme) (ownerMail e) v.mail v'.mail

/-! ### Programs that move the leases -/

/-- A guarded run of owner moves leads from the one view to the other, and the Sessions stay
registered under their own ids. -/
structure Moves {ω : Type} (A : RegistryView → OwnerEvent → Prop) (w w' : RegistryWorld ω) :
    Prop where
  run : ∃ es, Run (Guarded OwnerMove A) w.view es w'.view
  keys : SessionKeys w → SessionKeys w'

section
variable {ω α : Type} {A : RegistryView → OwnerEvent → Prop} {w w' : RegistryWorld ω}

theorem Quiet.view (h : Quiet w w') : w'.view = w.view := by
  rw [RegistryWorld.view, RegistryWorld.view, h.leases, h.commands]

theorem Moves.of_view (hview : w'.view = w.view) (hkeys : SessionKeys w → SessionKeys w') :
    Moves A w w' :=
  ⟨⟨[], hview ▸ Run.nil _⟩, hkeys⟩

theorem Moves.of_quiet (h : Quiet w w') : Moves A w w' := .of_view h.view h.keys

theorem Moves.refl (w : RegistryWorld ω) : Moves A w w := .of_quiet (Quiet.refl w)

theorem Moves.trans (u v w : RegistryWorld ω) (h₁ : Moves A u v) (h₂ : Moves A v w) :
    Moves A u w := by
  obtain ⟨es, hes⟩ := h₁.run
  obtain ⟨fs, hfs⟩ := h₂.run
  exact ⟨⟨es ++ fs, hes.append hfs⟩, fun hkeys => h₂.keys (h₁.keys hkeys)⟩

theorem Moves.single {e : OwnerEvent} (hA : A w.view e) (hmove : OwnerMove w.view e w'.view)
    (hkeys : SessionKeys w → SessionKeys w') : Moves A w w' :=
  ⟨⟨[e], Run.single ⟨hA, hmove⟩⟩, hkeys⟩

/-- The rule of `bind` for `Moves` at one state. -/
theorem Moves.bind_at {β : Type} {p : RegistryEffect ω α} {f : α → RegistryEffect ω β}
    (hp : Moves A w (p.run w).2)
    (hf : ∀ a, (p.run w).1 = .ok a → Moves A (p.run w).2 ((f a).run (p.run w).2).2) :
    Moves A w ((p >>= f).run w).2 :=
  Effect.Leaves.bind_at Moves.trans hp hf

end

/-- A quiet part before the rest moves nothing. -/
theorem Moves.after_quiet {ω α β : Type} {A : RegistryView → OwnerEvent → Prop}
    {w : RegistryWorld ω} {p : RegistryEffect ω α} {f : α → RegistryEffect ω β}
    (hp : Effect.Leaves Quiet p)
    (hf : ∀ a w', Quiet w w' → Moves A w' ((f a).run w').2) :
    Moves A w ((p >>= f).run w).2 :=
  Moves.bind_at (.of_quiet (hp w)) fun a _ => hf a _ (hp w)

/-! ### Losing an owner -/

namespace CommandTables

variable (owner : String → Option String) (t : CommandTables)

/-- Unbinding a command unbinds its message. -/
theorem mail_unbind (commandId : String) :
    (t.unbind commandId).mail owner = (t.mail owner).unbind commandId := by
  refine Mailbox.ext rfl rfl rfl rfl (funext fun id => ?_) rfl rfl
  show ((t.commandSessions.erase commandId).get? id).map _
    = Function.update (t.mail owner).bound _ _ id
  rw [Dict.get?_erase, Function.update_apply]
  by_cases hid : id = commandId
  · rw [if_pos hid, if_pos hid]
    rfl
  · rw [if_neg hid, if_neg hid]
    rfl

/-- Settling the waiters of a command without a result notes nothing. -/
theorem mail_settle_none (commandId : String) :
    (t.settleResultWaiters commandId none).mail owner = t.mail owner := by
  refine Mailbox.ext rfl rfl rfl rfl rfl rfl ?_
  show ((_ : List CommandOccurrence) ++ t.occurrences).filterMap _ = t.occurrences.filterMap _
  rw [List.filterMap_append, List.filterMap_reverse, List.filterMap_map]
  simp [Function.comp_def, CommandOccurrence.mailEntry]

/-- Orphaning a command unbinds it. What its waiters get is no result. -/
theorem mail_orphan (commandId : String) :
    (t.orphan commandId).mail owner = (t.mail owner).unbind commandId := by
  unfold orphan
  rw [mail_unbind, mail_settle_none]
  rfl

/-- Orphaning commands unbinds them. -/
theorem mail_orphans (ids : List String) :
    (ids.foldl orphan t).mail owner = (t.mail owner).unbindAll ids := by
  induction ids generalizing t with
  | nil => rfl
  | cons commandId rest ih => rw [List.foldl_cons, ih, mail_orphan, Mailbox.unbindAll_cons]

/-- The commands bound to a Session. -/
theorem mem_boundTo {sessionId commandId : String} :
    commandId ∈ t.boundTo sessionId ↔ (t.mail owner).bound commandId = some sessionId := by
  show commandId ∈ (Dict.filter _ _).keys ↔ Option.map _ _ = _
  rw [Dict.mem_keys_iff, Option.map_eq_some_iff]
  refine exists_congr fun binding => ?_
  rw [Dict.get?_filter, Option.filter_eq_some_iff, decide_eq_true_eq]

/-- What `loseOwnership` does to the command maps is what losing the owner does to the
mailboxes. -/
theorem mail_lose (sessionId : String) :
    (((t.boundTo sessionId).foldl orphan t).dropSession sessionId).mail
        (Function.update owner sessionId none)
      = (t.mail owner).dropOwner sessionId := by
  have horphans := mail_orphans owner t (t.boundTo sessionId)
  have hqueue := congrArg Mailbox.queue horphans
  have hparked := congrArg Mailbox.parked horphans
  have hflight := congrArg Mailbox.inFlight horphans
  have hbound := congrArg Mailbox.bound horphans
  have hresults := congrArg Mailbox.results horphans
  have hlog := congrArg Mailbox.log horphans
  refine Mailbox.ext rfl (funext fun k => ?_) hparked (funext fun k => funext fun id => ?_)
    (hbound.trans (funext fun id => ?_)) hresults hlog
  · show (Option.getD (Dict.get? (Dict.erase _ sessionId) k) []) = Function.update t.queue _ _ k
    rw [Dict.get?_erase, Function.update_apply]
    by_cases hk : k = sessionId
    · rw [if_pos hk, if_pos hk]
      rfl
    · rw [if_neg hk, if_neg hk]
      exact congrFun hqueue k
  · show (id ∈ Option.getD (Dict.get? (Dict.erase _ sessionId) k) [])
      = (k ≠ sessionId ∧ id ∈ t.inFlight k)
    rw [Dict.get?_erase]
    by_cases hk : k = sessionId
    · simp [hk]
    · rw [if_neg hk]
      have hsame : (id ∈ ((t.boundTo sessionId).foldl orphan t).inFlight k) = (id ∈ t.inFlight k) :=
        congrFun (congrFun hflight k) id
      exact hsame.trans (by simp [hk])
  · show (if id ∈ t.boundTo sessionId then none else (t.mail owner).bound id)
      = ((t.mail owner).bound id).filter fun k => decide (k ≠ sessionId)
    by_cases hid : id ∈ t.boundTo sessionId
    · rw [if_pos hid, (mem_boundTo owner t).mp hid]
      simp [Option.filter]
    · rw [if_neg hid]
      rcases hcase : (t.mail owner).bound id with _ | k
      · rfl
      · have hk : k ≠ sessionId := by
          rintro rfl
          exact hid ((mem_boundTo owner t).mpr hcase)
        simp [Option.filter, hk]

end CommandTables

namespace AgentAdapterRegistry

section
variable {ω : Type} {A : RegistryView → OwnerEvent → Prop} (text : ProtocolText)
  (store : RegistryStateStore ω) (at_ : RegistryReadings)

/-- One round of the loop of `loseOwnership` does not throw. -/
theorem run_orphanCommand (commandId : String) (w : RegistryWorld ω) :
    ∃ next, (orphanCommand store commandId).run w = (.ok (), { w with
      store := next
      registry := { w.registry with commands := w.registry.commands.orphan commandId } }) := by
  unfold orphanCommand
  rw [Effect.run_bind, Effect.run_tryCatch, run_storeCall]
  rcases ((store.markCommandOutcomeUnknownIfPresent commandId).run w.store) with ⟨r, next⟩
  cases r <;> exact ⟨next, rfl⟩

/-- The loop of `loseOwnership` orphans every command of the list. -/
theorem run_orphanCommands (ids : List String) (w : RegistryWorld ω) :
    ∃ next, (Effect.forEach ids (orphanCommand store)).run w = (.ok (), { w with
      store := next
      registry := { w.registry with
        commands := ids.foldl CommandTables.orphan w.registry.commands } }) := by
  induction ids generalizing w with
  | nil => exact ⟨w.store, rfl⟩
  | cons commandId rest ih =>
    obtain ⟨first, hfirst⟩ := run_orphanCommand store commandId w
    show ∃ next, (orphanCommand store commandId >>= fun _ => Effect.forEach rest _).run w = _
    rw [Effect.run_bind, hfirst, Effect.next_ok]
    exact ih _

/-- A Session is no longer registered, its commands are orphaned, and its queue and its
in-flight set are dropped. -/
structure DropsOwner (sessionId : String) (w w' : RegistryWorld ω) : Prop where
  sessions : w'.registry.sessions = w.registry.sessions.erase sessionId
  drawnLeases : w'.drawnLeases = w.drawnLeases
  commands : w'.registry.commands = CommandTables.dropSession
    ((w.registry.commands.boundTo sessionId).foldl CommandTables.orphan w.registry.commands)
    sessionId

/-- The owners after one tenure was replaced. -/
theorem ownerOf_put (leases : OwnerLeases) (sessionId : String)
    (tenure : Option (Tenure String String Nat)) :
    ownerOf (leases.put sessionId tenure)
      = Function.update (ownerOf leases) sessionId (tenure.map fun x => x.lease) := by
  funext id
  rw [Function.update_apply]
  show ((if id = sessionId then tenure else leases.held id).map _) = _
  by_cases hid : id = sessionId
  · rw [if_pos hid, if_pos hid]
  · rw [if_neg hid, if_neg hid]
    rfl

/-- The leases after a Session was dropped. -/
theorem DropsOwner.leases {sessionId : String} {w w' : RegistryWorld ω}
    (h : DropsOwner sessionId w w') : w'.leases = w.leases.put sessionId none := by
  have hused : w'.leases.used = w.leases.used := by
    show (fun lease => lease ∈ w'.drawnLeases) = _
    rw [h.drawnLeases]
    rfl
  refine (congrArg (LeaseTable.mk w'.leases.held) hused).trans
    (congrArg (fun held => LeaseTable.mk held w.leases.used) (funext fun id => ?_))
  show (w'.registry.sessions.get? id).map tenureOf
    = if id = sessionId then none else (w.registry.sessions.get? id).map tenureOf
  rw [h.sessions, Dict.get?_erase]
  by_cases hid : id = sessionId
  · rw [if_pos hid, if_pos hid]
    rfl
  · rw [if_neg hid, if_neg hid]

/-- The mailboxes after a Session was dropped. -/
theorem DropsOwner.mail {sessionId : String} {w w' : RegistryWorld ω}
    (h : DropsOwner sessionId w w') : w'.view.mail = w.view.mail.dropOwner sessionId := by
  show w'.registry.commands.mail (ownerOf w'.leases) = _
  rw [h.leases, h.commands, ownerOf_put]
  exact CommandTables.mail_lose (ownerOf w.leases) w.registry.commands sessionId

/-- The part of `loseOwnership` after the durable release drops the Session and does not
throw. -/
theorem run_dropOwner (sessionId : String) (reason : RegistryMutationReason)
    (w : RegistryWorld ω) :
    DropsOwner sessionId w ((do
      let registry ← read
      Effect.forEach (registry.commands.boundTo sessionId) (orphanCommand store)
      setCommands fun t => t.dropSession sessionId
      setSessions fun sessions => sessions.erase sessionId
      onMutation reason : RegistryEffect ω Unit).run w).2 := by
  obtain ⟨next, hnext⟩ := run_orphanCommands store (w.registry.commands.boundTo sessionId) w
  rw [Effect.run_bind, run_read, Effect.next_ok, Effect.run_bind, hnext, Effect.next_ok]
  exact ⟨rfl, rfl, rfl⟩

/-- What `loseOwnership` does: nothing when the store refuses the release, else it drops the
Session. -/
theorem loseOwnership_cases (session : RegisteredSession) (reason : RegistryMutationReason)
    (w : RegistryWorld ω) :
    ((∃ thrown, ((loseOwnership text store at_ session reason).run w).1 = .error thrown) ∧
      Quiet w ((loseOwnership text store at_ session reason).run w).2) ∨
    ∃ u, Quiet w u ∧
      DropsOwner session.sessionId u ((loseOwnership text store at_ session reason).run w).2 := by
  unfold loseOwnership
  have hrelease := quiet_releaseDurably text store at_ session.sessionId w
  rw [Effect.run_bind]
  rcases hrun : (releaseDurably text store at_ session.sessionId).run w with ⟨r, u⟩
  rw [hrun] at hrelease
  cases r with
  | error thrown => exact Or.inl ⟨⟨thrown, rfl⟩, hrelease⟩
  | ok _ => exact Or.inr ⟨u, hrelease, run_dropOwner store session.sessionId reason u⟩

/-- Dropping a Session after something quiet is one move of the leases. -/
theorem DropsOwner.moves {w u w' : RegistryWorld ω} {sessionId : String} {e : OwnerEvent}
    (hquiet : Quiet w u) (hdrops : DropsOwner sessionId u w')
    (hlose : ownerMail e = some (.lose sessionId))
    (hstep : LeaseStep LeaseLapsed w.leases e (w.leases.put sessionId none)) (hA : A w.view e) :
    Moves A w w' := by
  refine Moves.trans w u w' (.of_quiet hquiet) ?_
  refine Moves.single (hquiet.view ▸ hA) ⟨?_, ?_⟩ fun hkeys id other hother => ?_
  · -- The leases lose the Session.
    show LeaseStep LeaseLapsed u.leases e w'.leases
    rw [hdrops.leases, hquiet.leases]
    exact hstep
  · -- The mailboxes lose their owner.
    rw [hlose, hdrops.mail]
    exact MailStep.lose
  · rw [hdrops.sessions] at hother
    exact hkeys id other (Dict.get?_of_erase hother)

/-- The Sessions can only be dropped, and the parked polls stay. -/
structure Sheds (A : RegistryView → OwnerEvent → Prop) (w w' : RegistryWorld ω) : Prop where
  moves : Moves A w w'
  held : ∀ sessionId, w'.leases.held sessionId = none ∨
    w'.leases.held sessionId = w.leases.held sessionId
  parked : w'.view.mail.parked = w.view.mail.parked

theorem Sheds.of_quiet {w w' : RegistryWorld ω} (h : Quiet w w') : Sheds A w w' :=
  ⟨.of_quiet h, fun _ => Or.inr (by rw [h.leases]), by rw [h.view]⟩

theorem Sheds.trans (u v w : RegistryWorld ω) (h₁ : Sheds A u v) (h₂ : Sheds A v w) :
    Sheds A u w where
  moves := Moves.trans u v w h₁.moves h₂.moves
  held sessionId := by
    rcases h₂.held sessionId with hnone | hsame
    · exact Or.inl hnone
    · rw [hsame]
      exact h₁.held sessionId
  parked := h₂.parked.trans h₁.parked

/-- `loseOwnership` of a Session sheds it. -/
theorem sheds_loseOwnership {w : RegistryWorld ω} {session : RegisteredSession}
    {e : OwnerEvent} (hlose : ownerMail e = some (.lose session.sessionId))
    (hstep : LeaseStep LeaseLapsed w.leases e (w.leases.put session.sessionId none))
    (hA : A w.view e) (reason : RegistryMutationReason) :
    Sheds A w ((loseOwnership text store at_ session reason).run w).2 := by
  rcases loseOwnership_cases text store at_ session reason w with
    ⟨-, hquiet⟩ | ⟨u, hquiet, hdrops⟩
  · exact .of_quiet hquiet
  · refine Sheds.trans w u _ (.of_quiet hquiet) ?_
    refine ⟨hdrops.moves (Quiet.refl u) hlose (hquiet.leases ▸ hstep) (hquiet.view ▸ hA),
      fun id => ?_, ?_⟩
    · rw [hdrops.leases, LeaseTable.put_held]
      by_cases hid : id = session.sessionId
      · exact Or.inl (if_pos hid)
      · exact Or.inr (if_neg hid)
    · rw [hdrops.mail]
      rfl

/-- `loseOwnership` of a Session whose lease has lapsed is an expiry. -/
theorem sheds_expired {w : RegistryWorld ω} {session : RegisteredSession} {n : Nat}
    (hheld : w.leases.held session.sessionId = some (tenureOf session))
    (hexpired : LeaseLapsed session.lastOwnerLeaseMonotonic n)
    (hA : A w.view (.expire session.sessionId n)) (reason : RegistryMutationReason) :
    Sheds A w ((loseOwnership text store at_ session reason).run w).2 :=
  sheds_loseOwnership text store at_ rfl (LeaseStep.expire hheld hexpired) hA reason

/-! ### Listing -/

/-- A Session that is registered under its own id holds its lease. -/
theorem held_of_get {w : RegistryWorld ω} {sessionId : String} {session : RegisteredSession}
    (hsession : w.registry.sessions.get? sessionId = some session) :
    w.leases.held sessionId = some (tenureOf session) := by
  show (w.registry.sessions.get? sessionId).map tenureOf = _
  rw [hsession]
  rfl

/-- `unregister` of a Session whose lease has lapsed sheds it, if it is still registered. -/
theorem sheds_unregister {w₀ : RegistryWorld ω} (hkeys : SessionKeys w₀)
    {session : RegisteredSession} {now : Nat}
    (hsession : w₀.registry.sessions.get? session.sessionId = some session)
    (hexpired : LeaseLapsed session.lastOwnerLeaseMonotonic now)
    (hA : ∀ v, v.mail.parked = w₀.view.mail.parked → A v (.expire session.sessionId now)) :
    Effect.Triple (Sheds A w₀) (unregister text store at_ session.sessionId .ttl)
      fun _ w => Sheds A w₀ w := by
  intro w hw
  unfold unregister
  rw [Effect.run_bind, run_read, Effect.next_ok]
  split
  · exact hw
  · rename_i live hlive
    -- The Session is still the one that was listed, as far as its lease goes.
    have hid : live.sessionId = session.sessionId := hw.moves.keys hkeys _ _ hlive
    have htenure : tenureOf live = tenureOf session := by
      have hheld := held_of_get hlive
      rcases hw.held session.sessionId with hnone | hsame
      · rw [hheld] at hnone
        exact absurd hnone (by simp)
      · rw [hheld, held_of_get hsession] at hsame
        exact Option.some.inj hsame
    have hrenewed : live.lastOwnerLeaseMonotonic = session.lastOwnerLeaseMonotonic :=
      congrArg Tenure.renewedAt htenure
    have hlose : Sheds A w ((loseOwnership text store at_ live .ttl).run w).2 :=
      sheds_expired text store at_ (n := now) (hid ▸ held_of_get hlive) (hrenewed ▸ hexpired)
        (hid ▸ hA _ hw.parked) .ttl
    refine Sheds.trans w₀ w _ hw ?_
    exact Effect.Leaves.bind_at Sheds.trans hlose fun _ _ => .of_quiet (Quiet.refl _)

/-- The loop of `listSessions` sheds the Sessions whose lease has lapsed. -/
theorem sheds_listActive {w₀ : RegistryWorld ω} (hkeys : SessionKeys w₀)
    (hA : ∀ v sessionId session, w₀.registry.sessions.get? sessionId = some session →
      LeaseLapsed session.lastOwnerLeaseMonotonic at_.monotonicNow →
      v.mail.parked = w₀.view.mail.parked → A v (.expire sessionId at_.monotonicNow))
    (sessions : List RegisteredSession)
    (hsessions : ∀ session ∈ sessions,
      w₀.registry.sessions.get? session.sessionId = some session) :
    Effect.Triple (Sheds A w₀) (listActive text store at_ sessions) fun _ w => Sheds A w₀ w := by
  induction sessions with
  | nil => exact fun w hw => hw
  | cons session rest ih =>
    have hrest := ih fun other hother => hsessions other (List.mem_cons_of_mem _ hother)
    have hsession := hsessions session (List.mem_cons_self ..)
    unfold listActive
    refine Effect.Triple.ite (fun hexpired => ?_) fun _ => ?_
    · rw [leaseExpired_iff] at hexpired
      refine Effect.Triple.bind (sheds_unregister text store at_ hkeys hsession hexpired
        fun v => hA v _ session hsession hexpired) (fun _ => hrest) fun _ _ hw => hw
    · exact Effect.Triple.bind hrest (fun _ _ hw => hw) fun _ _ hw => hw

/-- `listSessions` moves the leases. -/
theorem moves_listSessions {w : RegistryWorld ω} (hkeys : SessionKeys w)
    (hA : ∀ v sessionId session, w.registry.sessions.get? sessionId = some session →
      LeaseLapsed session.lastOwnerLeaseMonotonic at_.monotonicNow →
      v.mail.parked = w.view.mail.parked → A v (.expire sessionId at_.monotonicNow)) :
    Moves A w ((listSessions text store at_).run w).2 := by
  unfold listSessions
  refine Moves.bind_at (Moves.refl w) fun registry hread => ?_
  cases hread
  have hloop := sheds_listActive text store at_ hkeys hA w.registry.sessions.values
    (fun session hsession => by
      obtain ⟨id, hid⟩ := Dict.mem_values_iff.mp hsession
      rw [hkeys id session hid]
      exact hid) w (.of_quiet (Quiet.refl w))
  exact Moves.bind_at hloop.moves fun _ _ => Moves.refl _

/-! ### Granting and renewing -/

/-- A Session is registered and leases are drawn, with the command maps as they were. -/
structure SetsOwner (sessionId : String) (next : RegisteredSession) (drawn : List String)
    (w w' : RegistryWorld ω) : Prop where
  sessions : w'.registry.sessions = w.registry.sessions.set sessionId next
  drawnLeases : w'.drawnLeases = drawn ++ w.drawnLeases
  commands : w'.registry.commands = w.registry.commands

section
variable {sessionId : String} {next : RegisteredSession} {drawn : List String}
  {w w' : RegistryWorld ω}

/-- The tenures after a Session was registered. -/
theorem SetsOwner.held (h : SetsOwner sessionId next drawn w w') :
    w'.leases.held = (w.leases.put sessionId (some (tenureOf next))).held := by
  funext id
  show (w'.registry.sessions.get? id).map tenureOf
    = if id = sessionId then _ else (w.registry.sessions.get? id).map tenureOf
  rw [h.sessions, Dict.get?_set]
  by_cases hid : id = sessionId
  · rw [if_pos hid, if_pos hid]
    rfl
  · rw [if_neg hid, if_neg hid]

theorem SetsOwner.keys (h : SetsOwner sessionId next drawn w w') (hid : next.sessionId = sessionId)
    (hkeys : SessionKeys w) : SessionKeys w' := by
  intro id session hsession
  rw [h.sessions] at hsession
  rcases Dict.get?_set_cases hsession with ⟨rfl, rfl⟩ | ⟨-, hold⟩
  · exact hid
  · exact hkeys id session hold

/-- The mailboxes after a Session was registered. -/
theorem SetsOwner.mail (h : SetsOwner sessionId next drawn w w') :
    w'.view.mail = { w.view.mail with
      owner := Function.update (ownerOf w.leases) sessionId (some next.ownerLease) } := by
  have howner : ownerOf w'.leases = ownerOf (w.leases.put sessionId (some (tenureOf next))) := by
    funext id
    show (w'.leases.held id).map _ = _
    rw [h.held]
    rfl
  show w'.registry.commands.mail (ownerOf w'.leases) = _
  rw [h.commands, howner, ownerOf_put]
  rfl

/-- A Session that no one holds is granted under a lease that was never drawn. -/
theorem SetsOwner.grant (h : SetsOwner sessionId next [next.ownerLease] w w')
    (hid : next.sessionId = sessionId) (hfree : w.leases.held sessionId = none)
    (hfresh : next.ownerLease ∉ w.drawnLeases)
    (hA : A w.view (.grant sessionId (tenureOf next))) : Moves A w w' := by
  have hleases : w'.leases
      = (w.leases.put sessionId (some (tenureOf next))).use next.ownerLease := by
    refine (congrArg (fun held => LeaseTable.mk held w'.leases.used) h.held).trans
      (congrArg (LeaseTable.mk _) (funext fun lease => ?_))
    show (lease ∈ w'.drawnLeases) = (lease = next.ownerLease ∨ lease ∈ w.drawnLeases)
    rw [h.drawnLeases, List.singleton_append, List.mem_cons]
  refine Moves.single hA ⟨?_, ?_⟩ (h.keys hid)
  · show LeaseStep LeaseLapsed w.leases _ w'.leases
    rw [hleases]
    exact LeaseStep.grant hfree hfresh
  · show MailStep commandScheme w.view.mail _ w'.view.mail
    rw [h.mail]
    refine MailStep.grant ?_
    show (w.leases.held sessionId).map _ = none
    rw [hfree]
    rfl

/-- A Session whose owner stays the same is renewed, when its lease has not lapsed. -/
theorem SetsOwner.renew {previous : RegisteredSession} {checkedAt : Nat}
    (h : SetsOwner sessionId next [] w w') (hid : next.sessionId = sessionId)
    (hheld : w.leases.held sessionId = some (tenureOf previous))
    (hholder : next.driverInstanceId = previous.driverInstanceId)
    (hlease : next.ownerLease = previous.ownerLease)
    (hlive : ¬ LeaseLapsed previous.lastOwnerLeaseMonotonic checkedAt)
    (hA : A w.view (.renew sessionId checkedAt next.lastOwnerLeaseMonotonic)) : Moves A w w' := by
  have htenure : tenureOf next
      = { tenureOf previous with renewedAt := next.lastOwnerLeaseMonotonic } := by
    rw [tenureOf, tenureOf, hholder, hlease]
  have hleases : w'.leases = w.leases.put sessionId (some (tenureOf next)) := by
    refine (congrArg (fun held => LeaseTable.mk held w'.leases.used) h.held).trans
      (congrArg (LeaseTable.mk _) (funext fun lease => ?_))
    show (lease ∈ w'.drawnLeases) = (lease ∈ w.drawnLeases)
    rw [h.drawnLeases, List.nil_append]
  refine Moves.single hA ⟨?_, ?_⟩ (h.keys hid)
  · show LeaseStep LeaseLapsed w.leases _ w'.leases
    rw [hleases, htenure]
    exact LeaseStep.renew hheld hlive
  · -- The owner of the mailbox stays the same.
    show w'.view.mail = w.view.mail
    rw [h.mail]
    have howner : ownerOf w.leases sessionId = some next.ownerLease := by
      show (w.leases.held sessionId).map _ = _
      rw [hheld, hlease]
      rfl
    rw [← howner, Function.update_eq_self]
    rfl

end

theorem quiet_mutatedWhen (semanticChanged : Bool) (reason : RegistryMutationReason) :
    Effect.Leaves Quiet (mutatedWhen semanticChanged reason : RegistryEffect ω Unit) := by
  unfold mutatedWhen
  exact Effect.Leaves.ite (fun _ => quiet_onMutation _) fun _ => Quiet.pure' ()

/-- A Session is free and the drawn lease is fresh, or the live owner of the Session is the
registering instance with a lease that has not lapsed. -/
inductive Available (input : RegisterSessionInput) (at_ : RegistryReadings)
    (previous : Option RegisteredSession) (w : RegistryWorld ω) : Prop
  | free (hfree : w.leases.held input.sessionId = none) (hfresh : ¬ w.leases.used at_.ownerLease)
  | kept (live : RegisteredSession) (hprevious : previous = some live)
      (hheld : w.leases.held input.sessionId = some (tenureOf live))
      (howner : live.driverInstanceId = input.driverInstanceId)
      (hlive : ¬ LeaseLapsed live.lastOwnerLeaseMonotonic at_.monotonicNow)

theorem Available.of_quiet {input : RegisterSessionInput} {at_ : RegistryReadings}
    {previous : Option RegisteredSession} {w w' : RegistryWorld ω}
    (h : Available input at_ previous w) (hquiet : Quiet w w') :
    Available input at_ previous w' := by
  cases h with
  | free hfree hfresh => exact .free (hquiet.leases ▸ hfree) (hquiet.leases ▸ hfresh)
  | kept live hprevious hheld howner hlive =>
    exact .kept live hprevious (hquiet.leases ▸ hheld) howner hlive

/-- After the expiry and conflict checks of `register`, the Session is available. -/
theorem sheds_revokeOrRefuse {w : RegistryWorld ω} (input : RegisterSessionInput)
    (previous : Option RegisteredSession)
    (hprevious : w.leases.held input.sessionId = previous.map tenureOf)
    (hid : ∀ live ∈ previous, live.sessionId = input.sessionId)
    (hfresh : ¬ w.leases.used at_.ownerLease)
    (hA : ∀ live ∈ previous, LeaseLapsed live.lastOwnerLeaseMonotonic at_.monotonicNow →
      A w.view (.expire input.sessionId at_.monotonicNow)) :
    Sheds A w ((revokeOrRefuse text store at_ input previous).run w).2 ∧
      (((revokeOrRefuse text store at_ input previous).run w).1 = .ok () →
        Available input at_ previous
          ((revokeOrRefuse text store at_ input previous).run w).2) := by
  unfold revokeOrRefuse
  rcases previous with _ | live
  · exact ⟨.of_quiet (Quiet.refl w), fun _ => .free hprevious hfresh⟩
  have hsession : live.sessionId = input.sessionId := hid live rfl
  have hheld : w.leases.held live.sessionId = some (tenureOf live) := by
    rw [hsession]
    exact hprevious
  dsimp only
  split
  · rename_i hexpired
    rw [leaseExpired_iff] at hexpired
    refine ⟨sheds_expired text store at_ hheld hexpired (hsession ▸ hA live rfl hexpired) .ttl,
      fun hok => ?_⟩
    rcases loseOwnership_cases text store at_ live .ttl w with
      ⟨⟨thrown, hthrown⟩, -⟩ | ⟨u, hquiet, hdrops⟩
    · rw [hthrown] at hok
      exact absurd hok (by simp)
    · refine .free ?_ fun hused => hfresh ?_
      · rw [hdrops.leases, LeaseTable.put_held, if_pos hsession.symm]
      · rw [hdrops.leases] at hused
        exact hquiet.leases ▸ hused
  · rename_i hexpired
    rw [leaseExpired_iff] at hexpired
    split
    · exact ⟨.of_quiet (Quiet.refl w), fun hok => absurd hok (by simp)⟩
    · rename_i howner
      exact ⟨.of_quiet (Quiet.refl w),
        fun _ => .kept live rfl hprevious (by simpa using howner) hexpired⟩

/-- The last part of `register` grants the Session, or renews it for the instance that has
it. -/
theorem moves_grantOwnership {w : RegistryWorld ω} {input : RegisterSessionInput}
    {previous : Option RegisteredSession} {transition : RegistrationTransition}
    (hid : transition.nextSession.sessionId = input.sessionId)
    (havailable : Available input at_ previous w)
    (hgrant : ∀ tenure, tenure.holder = input.driverInstanceId →
      A w.view (.grant input.sessionId tenure))
    (hrenew : A w.view (.renew input.sessionId at_.monotonicNow at_.monotonicNow)) :
    Moves A w ((grantOwnership at_ input previous transition).run w).2 := by
  unfold grantOwnership
  rw [Effect.run_bind, run_read, Effect.next_ok]
  have hcontains : w.registry.sessions.contains input.sessionId
      = (w.leases.held input.sessionId).isSome := by
    show _ = ((w.registry.sessions.get? input.sessionId).map tenureOf).isSome
    rw [Option.isSome_map]
    rfl
  cases havailable with
  | free hfree hfresh =>
    rw [hfree, Option.isSome_none] at hcontains
    have hkept : (previous.filter fun live =>
        decide (live.driverInstanceId = input.driverInstanceId)
          && w.registry.sessions.contains input.sessionId) = none := by
      rw [hcontains]
      simp
    rw [hkept]
    let owned : RegisteredSession := { transition.nextSession with
      driverInstanceId := input.driverInstanceId
      ownerLease := at_.ownerLease
      lastOwnerLeaseMonotonic := at_.monotonicNow }
    let granted : RegistryWorld ω := { w with
      drawnLeases := at_.ownerLease :: w.drawnLeases
      registry := { w.registry with
        sessions := w.registry.sessions.set input.sessionId owned } }
    have hsets : SetsOwner input.sessionId owned [at_.ownerLease] w granted := ⟨rfl, rfl, rfl⟩
    refine Moves.trans w granted _ (hsets.grant hid hfree hfresh (hgrant _ rfl)) ?_
    exact .of_quiet (Quiet.bind (quiet_mutatedWhen _ _) (fun _ => Quiet.pure' owned) granted)
  | kept live hprevious hheld howner hlive =>
    rw [hheld, Option.isSome_some] at hcontains
    have hkept : (previous.filter fun live =>
        decide (live.driverInstanceId = input.driverInstanceId)
          && w.registry.sessions.contains input.sessionId) = some live := by
      rw [hcontains, hprevious]
      simp [Option.filter, howner]
    rw [hkept]
    let owned : RegisteredSession := { transition.nextSession with
      driverInstanceId := input.driverInstanceId
      ownerLease := live.ownerLease
      lastOwnerLeaseMonotonic := at_.monotonicNow }
    let renewed : RegistryWorld ω := { w with
      registry := { w.registry with
        sessions := w.registry.sessions.set input.sessionId owned } }
    have hsets : SetsOwner input.sessionId owned [] w renewed := ⟨rfl, rfl, rfl⟩
    refine Moves.trans w renewed _ (hsets.renew hid hheld howner.symm rfl hlive hrenew) ?_
    exact .of_quiet (Quiet.bind (quiet_mutatedWhen _ _) (fun _ => Quiet.pure' owned) renewed)

/-- `register` moves the leases. -/
theorem moves_register {w : RegistryWorld ω} {input : RegisterSessionInput}
    (hkeys : SessionKeys w) (hfresh : ¬ w.leases.used at_.ownerLease)
    (hgrant : ∀ v tenure, tenure.holder = input.driverInstanceId →
      A v (.grant input.sessionId tenure))
    (hrenew : ∀ v, A v (.renew input.sessionId at_.monotonicNow at_.monotonicNow))
    (hexpire : ∀ live, w.registry.sessions.get? input.sessionId = some live →
      LeaseLapsed live.lastOwnerLeaseMonotonic at_.monotonicNow →
      A w.view (.expire input.sessionId at_.monotonicNow)) :
    Moves A w ((register text store at_ input).run w).2 := by
  unfold register
  split
  · exact Moves.refl w
  refine Moves.bind_at (Moves.refl w) fun registry hread => ?_
  cases hread
  show Moves A w _
  -- Up to the checks everything is quiet, so the live Session is still the one that was read.
  refine Moves.after_quiet (quiet_storeCall _) fun stored w₁ hquiet₁ => ?_
  refine Moves.after_quiet (quiet_restoreForRegistration text store _ _ _)
    fun persisted w₂ hquiet₂ => ?_
  replace hquiet₂ := Quiet.trans w w₁ w₂ hquiet₁ hquiet₂
  split
  · obtain ⟨hsheds, havailable⟩ := sheds_revokeOrRefuse (A := A) (w := w₂) text store at_
      input (w.registry.sessions.get? input.sessionId)
      (hquiet₂.leases ▸ rfl) (fun live hlive => hkeys _ live hlive) (hquiet₂.leases ▸ hfresh)
      (fun live hlive hexpired => hquiet₂.view ▸ hexpire live hlive hexpired)
    refine Moves.bind_at hsheds.moves fun _ hok => ?_
    replace havailable := havailable hok
    generalize ((revokeOrRefuse text store at_ input
      (w.registry.sessions.get? input.sessionId)).run w₂).2 = w₃ at havailable ⊢
    refine Moves.after_quiet (quiet_storeCall _) fun cancellation w₄ hquiet₄ => ?_
    refine Moves.after_quiet (Quiet.ofExcept _) fun _ w₅ hquiet₅ => ?_
    refine Moves.after_quiet (quiet_persistRegistration text store at_ _ _) fun _ w₆ hquiet₆ => ?_
    exact moves_grantOwnership at_ (reduceRegistration_sessionId ..)
      (((havailable.of_quiet hquiet₄).of_quiet hquiet₅).of_quiet hquiet₆)
      (hgrant _) (hrenew _)
  · exact Moves.refl _

/-! ### Heartbeats -/

/-- `heartbeat` of a Session whose lease had not lapsed at the owner check renews it. -/
theorem moves_heartbeat {w : RegistryWorld ω} {sessionId : String} {session : RegisteredSession}
    {checkedAt : Nat} (input : HeartbeatInput)
    (hsession : w.registry.sessions.get? sessionId = some session) (hkeys : SessionKeys w)
    (hlive : ¬ LeaseLapsed session.lastOwnerLeaseMonotonic checkedAt)
    (hA : ∀ v, A v (.renew sessionId checkedAt at_.monotonicNow)) :
    Moves A w ((heartbeat text store at_ sessionId input).run w).2 := by
  unfold heartbeat
  refine Moves.bind_at (Moves.refl w) fun registry hread => ?_
  cases hread
  show Moves A w _
  rw [hsession]
  refine Moves.after_quiet (Quiet.ofExcept _) fun _ w₁ hquiet₁ => ?_
  refine Moves.after_quiet ?_ fun _ w₂ hquiet₂ => ?_
  · unfold cancelWhen
    exact Effect.Leaves.ite (fun _ => quiet_cancelTerminalRetry text store at_ _ _)
      fun _ => Quiet.pure' ()
  refine Moves.after_quiet (quiet_mutatedWhen _ _) fun _ w₃ hquiet₃ => ?_
  have hquiet := Quiet.trans w w₂ w₃ (Quiet.trans w w₁ w₂ hquiet₁ hquiet₂) hquiet₃
  obtain ⟨hid, howner, hlease⟩ := reduceHeartbeat_owner session
    (effectiveHeartbeat (w.registry.terminals.delayedTerminalEvents.get? sessionId) session input)
    at_.nowIso
  have hheld : w₃.leases.held sessionId = some (tenureOf session) :=
    hquiet.leases ▸ held_of_get hsession
  refine Moves.bind_at (SetsOwner.renew ⟨rfl, rfl, rfl⟩ (hid.trans (hkeys _ _ hsession)) hheld
    howner hlease hlive (hA _)) fun _ _ => Moves.refl _

end

end AgentAdapterRegistry

end Ariava.AgentAdapter
