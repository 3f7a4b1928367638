import Wavvon.Channels.Overwrites
import Wavvon.Moderation.Sanctions
import Wavvon.Roles.Ceiling
import Wavvon.Shared.Runs
import Wavvon.Socket.Connection

set_option autoImplicit false

namespace Wavvon.Socket

open Std (ExtTreeMap)
open Runs

/-- The calls that give or take access to a channel. -/
inductive AccessCall where
  | createRole (req : Roles.CreateRoleRequest) (id : String) (now : Int)
  | updateRole (roleId : String) (req : Roles.UpdateRoleRequest)
  | deleteRole (roleId : String)
  | assignRole (publicKey roleId : String)
  | removeRole (publicKey roleId : String)
  | putChannelPermissions (channelId roleId : String) (req : Overwrites.OverwriteSet)
  | deleteChannelPermissions (channelId roleId : String)
  | channelBan (channelId target : String)
  | channelUnban (channelId target : String)
  | kickUser (target : String)

-- What the call leaves of the tables the permissions are read from.
def AccessCall.run (db : Db) (user : String) : AccessCall → Db
  | .createRole req id now => (Roles.createRole db user req id now).1
  | .updateRole roleId req => (Roles.updateRole db user roleId req).1
  | .deleteRole roleId => (Roles.deleteRole { db := db } user roleId).1.db
  | .assignRole publicKey roleId => (Roles.assignRole db user publicKey roleId).1
  | .removeRole publicKey roleId => (Roles.removeRole db user publicKey roleId).1
  | .putChannelPermissions channelId roleId req =>
    (Overwrites.putChannelPermissions db user channelId roleId req).1
  | .deleteChannelPermissions channelId roleId =>
    (Overwrites.deleteChannelPermissions db user channelId roleId).1
  | .channelBan channelId target => (Moderation.channelBan db user channelId target).1
  | .channelUnban channelId target => (Moderation.channelUnban db user channelId target).1
  | .kickUser target => (Moderation.kickUser { auth := { db := db } } user target).1.auth.db

/-- A connected socket and the broadcasts its loop has still to take. -/
structure Listener where
  conn : Conn
  waiting : List (ChatEvent × Option String) := []

-- The chat arm of the loop.
def Listener.receive (l : Listener) : Listener × List Frame :=
  match l.waiting with
  | [] => (l, [])
  | (event, target) :: rest =>
    let answer := receiveChat l.conn event target
    ({ conn := answer.1, waiting := rest }, answer.2)

structure Audience where
  hub : ScreenHub := {}
  sockets : Table Listener := ∅

/-- The turns of the sockets' loops, the calls of others, and the chat events broadcast meanwhile. -/
inductive Turn where
  | connect (opening : Opening)
  | subscribe (sessionId channelId : String)
  | unsubscribe (sessionId channelId : String)
  | call (user : String) (call : AccessCall)
  | send (event : ChatEvent) (target : Option String)
  | receive (sessionId : String)
  | lagged (sessionId : String) (missed : Nat)
  | close (sessionId : String)

def Turn.IsChat : Turn → Prop
  | .send _ _ | .receive _ => True
  | _ => False

namespace Audience

def modify (s : Audience) (sessionId : String) (change : Listener → Listener) : Audience :=
  { s with sockets := s.sockets.modify sessionId change }

-- A kick ends the loops of its target, each when it comes to it: until then the other arms run on.
def step (s : Audience) : Turn → Audience
  | .connect opening =>
    { s with sockets := s.sockets.insert opening.sessionId { conn := (handleSocket s.hub opening).1 } }
  | .subscribe sessionId channelId => s.modify sessionId fun l =>
    { l with conn := (handleSubscribe s.hub l.conn channelId).1 }
  | .unsubscribe sessionId channelId => s.modify sessionId fun l =>
    { l with conn := handleUnsubscribe l.conn channelId }
  | .call user call => { s with hub := { s.hub with db := call.run s.hub.db user } }
  | .send event target => { s with sockets := s.sockets.map fun _ l =>
      { l with waiting := l.waiting ++ [(event, target)] } }
  | .receive sessionId => s.modify sessionId fun l => l.receive.1
  | .lagged sessionId missed => s.modify sessionId fun l => { l with waiting := l.waiting.drop missed }
  | .close sessionId => { s with sockets := s.sockets.erase sessionId }

end Audience

def Reads (db : Db) (publicKey channelId : String) : Prop :=
  (channelPermissions db publicKey channelId).has MESSAGES_READ = true

instance (db : Db) (publicKey channelId : String) : Decidable (Reads db publicKey channelId) :=
  inferInstanceAs (Decidable (_ = true))

-- A socket of the key is connected and subscribed to the channel.
def Audience.Listens (s : Audience) (publicKey channelId : String) : Prop :=
  ∃ (sessionId : String) (l : Listener), s.sockets[sessionId]? = some l ∧ l.conn.publicKey = publicKey ∧
    channelId ∈ l.conn.subscribed

/-- What the socket is sent of a channel's chat, its user may read at that moment. -/
def Permitted (s : Audience) : Turn → Prop
  | .receive sessionId => ∀ l : Listener, s.sockets[sessionId]? = some l → ∀ event, .chat event ∈ l.receive.2 →
      isHubWide event = false → Reads s.hub.db l.conn.publicKey (eventChannel event)
  | _ => True

-- Whatever is said in the channels from here on.
def Discreet (s : Audience) : Prop :=
  ∀ chat : List Turn, (∀ turn ∈ chat, turn.IsChat) → Meets Audience.step Permitted s chat

def Confidential (s : Audience) (turns : List Turn) : Prop :=
  ∀ front, front <+: turns → Discreet (run Audience.step s front)

/-- No call takes a channel from somebody who is connected and subscribed to it. -/
def SparesListeners (s : Audience) : Turn → Prop
  | .call user call => ∀ publicKey c, s.Listens publicKey c → Reads s.hub.db publicKey c →
      Reads (call.run s.hub.db user) publicKey c
  | _ => True

-- A foreign key of the overwrites.
def Referenced (db : Db) : Prop := ∀ row ∈ db.overwrites, row.channelId ∈ db.channels

structure Covered (s : Audience) : Prop where
  referenced : Referenced s.hub.db
  reads : ∀ publicKey c, s.Listens publicKey c → Reads s.hub.db publicKey c

section

variable {s : Audience} {sessionId : String}

theorem autoSubscribed_reads {db : Db} (referenced : Referenced db) (opening : Opening) {c : String}
    (listed : c ∈ autoSubscribed db opening) : Reads db opening.publicKey c := by
  simp only [autoSubscribed, List.mem_toFinset, List.mem_filter, Bool.and_eq_true, decide_eq_true_eq] at listed
  exact ((mem_channelsWithPermission referenced).mp listed.2.1.2).2

theorem handleSubscribe_subscribed (h : ScreenHub) (cs : Conn) (channelId : String) {c : String}
    (listed : c ∈ (handleSubscribe h cs channelId).1.subscribed) :
    c ∈ cs.subscribed ∨ Reads h.db cs.publicKey c := by
  unfold handleSubscribe at listed
  split at listed
  next => exact .inl listed
  next readable =>
    split at listed
    next => exact .inl listed
    next =>
      obtain rfl | before := Finset.mem_insert.mp listed
      · exact .inr (by simpa [Reads] using readable)
      · exact .inl before

@[simp] theorem handleSubscribe_publicKey (h : ScreenHub) (cs : Conn) (channelId : String) :
    (handleSubscribe h cs channelId).1.publicKey = cs.publicKey := by
  unfold handleSubscribe
  split
  next => rfl
  next => split <;> rfl

theorem receiveChat_conn (cs : Conn) (event : ChatEvent) (target : Option String) :
    (receiveChat cs event target).1.subscribed = cs.subscribed ∧
      (receiveChat cs event target).1.publicKey = cs.publicKey := by
  unfold receiveChat
  split
  next => exact ⟨rfl, rfl⟩
  next =>
    split
    next => exact ⟨rfl, rfl⟩
    next =>
      split
      next => split <;> exact ⟨rfl, rfl⟩
      next => exact ⟨rfl, rfl⟩

-- Only what its channel is subscribed to gets past the arm's filter.
theorem receiveChat_sends {cs : Conn} {event sent : ChatEvent} {target : Option String}
    (told : .chat sent ∈ (receiveChat cs event target).2) (ofChannel : isHubWide sent = false) :
    eventChannel sent ∈ cs.subscribed := by
  unfold receiveChat at told
  split at told
  next hubWide =>
    split at told
    next =>
      obtain rfl : sent = event := by simpa using told
      simp [hubWide] at ofChannel
    next => cases told
  next =>
    split at told
    next => cases told
    next passed =>
      simp only [not_or, not_not] at passed
      split at told
      next =>
        split at told
        next => cases told
        next =>
          obtain rfl := Frame.chat.inj (List.mem_singleton.mp told)
          exact passed.1
      next =>
        obtain rfl := Frame.chat.inj (List.mem_singleton.mp told)
        exact passed.1

@[simp] theorem Listener.receive_subscribed (l : Listener) : l.receive.1.conn.subscribed = l.conn.subscribed := by
  unfold Listener.receive
  split
  next => rfl
  next => exact (receiveChat_conn _ _ _).1

@[simp] theorem Listener.receive_publicKey (l : Listener) : l.receive.1.conn.publicKey = l.conn.publicKey := by
  unfold Listener.receive
  split
  next => rfl
  next => exact (receiveChat_conn _ _ _).2

theorem Covered.permitted (covered : Covered s) (turn : Turn) : Permitted s turn := by
  cases turn with
  | receive sessionId =>
    intro l connected event told ofChannel
    refine covered.reads _ _ ⟨sessionId, l, connected, rfl, ?_⟩
    unfold Listener.receive at told
    split at told
    next => cases told
    next => exact receiveChat_sends told ofChannel
  | _ => trivial

-- A change of one socket that keeps whose it is and subscribes it to nothing its user may not read.
theorem listens_modify {change : Listener → Listener}
    (same : ∀ l, (change l).conn.publicKey = l.conn.publicKey)
    (within : ∀ l, ∀ c ∈ (change l).conn.subscribed, c ∈ l.conn.subscribed ∨ Reads s.hub.db l.conn.publicKey c)
    {publicKey c : String} (listens : (s.modify sessionId change).Listens publicKey c) :
    s.Listens publicKey c ∨ Reads s.hub.db publicKey c := by
  obtain ⟨other, l, found, rfl, listed⟩ := listens
  simp only [Audience.modify, ExtTreeMap.getElem?_modify] at found
  split at found
  next here =>
    obtain ⟨old, connected, rfl⟩ := Option.map_eq_some_iff.mp found
    rw [Std.compare_eq_iff_eq] at here
    subst here
    rw [same]
    exact (within old c listed).imp (fun before => ⟨_, old, connected, rfl, before⟩) id
  next => exact .inl ⟨other, l, found, rfl, listed⟩

theorem Covered.modify (covered : Covered s) {change : Listener → Listener}
    (same : ∀ l, (change l).conn.publicKey = l.conn.publicKey)
    (within : ∀ l, ∀ c ∈ (change l).conn.subscribed, c ∈ l.conn.subscribed ∨ Reads s.hub.db l.conn.publicKey c) :
    Covered (s.modify sessionId change) := by
  refine ⟨covered.referenced, ?_⟩
  intro publicKey c listens
  exact (listens_modify same within listens).elim (covered.reads publicKey c) id

theorem listens_send {event : ChatEvent} {target : Option String} {publicKey c : String} :
    (s.step (.send event target)).Listens publicKey c ↔ s.Listens publicKey c := by
  constructor
  · rintro ⟨other, l, found, rfl, listed⟩
    simp only [Audience.step, ExtTreeMap.getElem?_map] at found
    obtain ⟨old, connected, rfl⟩ := Option.map_eq_some_iff.mp found
    exact ⟨other, old, connected, rfl, listed⟩
  · rintro ⟨other, l, connected, rfl, listed⟩
    exact ⟨other, { l with waiting := l.waiting ++ [(event, target)] },
      by simp [Audience.step, ExtTreeMap.getElem?_map, connected], rfl, listed⟩

theorem Covered.chat (covered : Covered s) {turn : Turn} (chat : turn.IsChat) : Covered (s.step turn) := by
  cases turn with
  | send event target => exact ⟨covered.referenced, fun publicKey c listens =>
      covered.reads publicKey c (listens_send.mp listens)⟩
  | receive sessionId =>
    refine covered.modify (fun l => l.receive_publicKey) ?_
    intro l c listed
    exact .inl (by simpa using listed)
  | _ => cases chat

theorem Covered.discreet (covered : Covered s) : Discreet s := by
  intro chat said
  induction chat generalizing s with
  | nil => trivial
  | cons turn rest ih =>
    refine ⟨covered.permitted turn, ih (covered.chat (said turn List.mem_cons_self)) ?_⟩
    intro later member
    exact said later (List.mem_cons_of_mem turn member)

end

-- What the calls do to the rows a foreign key ties together.
structure KeepsChannels (db after : Db) : Prop where
  channels : after.channels = db.channels
  overwrites : ∀ row ∈ after.overwrites, row ∈ db.overwrites ∨ row.channelId ∈ db.channels

theorem KeepsChannels.refl (db : Db) : KeepsChannels db db := ⟨rfl, fun _ => .inl⟩

theorem KeepsChannels.referenced {db after : Db} (kept : KeepsChannels db after) (referenced : Referenced db) :
    Referenced after := by
  intro row listed
  rw [kept.channels]
  exact (kept.overwrites row listed).elim (referenced row) id

theorem call_keepsChannels (db : Db) (user : String) (call : AccessCall) :
    KeepsChannels db (call.run db user) := by
  cases call with
  | createRole req id now =>
    rcases Roles.createRole_cases db user req id now with same | ⟨_, _, _, same, _⟩ <;>
      exact ⟨by simp [AccessCall.run, same], by simp +contextual [AccessCall.run, same]⟩
  | updateRole roleId req =>
    obtain ⟨_, _, same⟩ := Roles.applyUpdate_frame db roleId req
    unfold AccessCall.run Roles.updateRole
    dsimp only
    split
    next => exact .refl db
    next =>
      split
      next applied =>
        rw [applied] at same
        exact same ▸ ⟨rfl, fun _ => .inl⟩
      next applied =>
        rw [applied] at same
        exact same ▸ ⟨rfl, fun _ => .inl⟩
  | deleteRole roleId =>
    unfold AccessCall.run Roles.deleteRole
    dsimp only
    split
    next => exact .refl db
    next => exact ⟨rfl, fun row listed => .inl (List.mem_filter.mp listed).1⟩
  | assignRole publicKey roleId =>
    unfold AccessCall.run Roles.assignRole
    dsimp only
    split
    next => exact .refl db
    next => split <;> exact ⟨rfl, fun _ => .inl⟩
  | removeRole publicKey roleId =>
    unfold AccessCall.run Roles.removeRole
    dsimp only
    split <;> exact ⟨rfl, fun _ => .inl⟩
  | putChannelPermissions channelId roleId req =>
    unfold AccessCall.run Overwrites.putChannelPermissions
    dsimp only
    split
    next => exact .refl db
    next role passed =>
      split
      next =>
        refine ⟨rfl, ?_⟩
        intro row listed
        rcases (Overwrites.mem_rewritten req row).mp listed with ⟨before, _⟩ | ⟨here, _⟩
        · exact .inl before
        · rw [here]
          obtain ⟨_, _, passed⟩ := Checks.bind_ok passed
          obtain ⟨_, present, _⟩ := Checks.bind_ok passed
          unfold Overwrites.requireChannelExists at present
          split at present
          next known => exact .inr known
          next => cases present
      next => exact .refl db
  | deleteChannelPermissions channelId roleId =>
    unfold AccessCall.run Overwrites.deleteChannelPermissions
    dsimp only
    split
    next => exact .refl db
    next => exact ⟨rfl, fun row listed => .inl (List.mem_filter.mp listed).1⟩
  | channelBan channelId target =>
    unfold AccessCall.run Moderation.channelBan
    dsimp only
    split
    next => exact .refl db
    next =>
      split
      next => exact .refl db
      next => split <;> exact ⟨rfl, fun _ => .inl⟩
  | channelUnban channelId target =>
    unfold AccessCall.run Moderation.channelUnban
    dsimp only
    split <;> exact ⟨rfl, fun _ => .inl⟩
  | kickUser target =>
    unfold AccessCall.run Moderation.kickUser
    dsimp only
    split <;> exact ⟨rfl, fun _ => .inl⟩

section

variable {s : Audience} {sessionId : String}

theorem Covered.step (covered : Covered s) (turn : Turn) (spares : SparesListeners s turn) :
    Covered (s.step turn) := by
  cases turn with
  | connect opening =>
    refine ⟨covered.referenced, ?_⟩
    rintro publicKey c ⟨other, l, found, rfl, listed⟩
    simp only [Audience.step, ExtTreeMap.getElem?_insert] at found
    split at found
    next =>
      obtain rfl := Option.some.inj found
      exact autoSubscribed_reads covered.referenced opening listed
    next => exact covered.reads _ c ⟨other, l, found, rfl, listed⟩
  | subscribe sessionId channelId =>
    refine covered.modify (fun l => handleSubscribe_publicKey s.hub l.conn channelId) ?_
    intro l c listed
    exact handleSubscribe_subscribed s.hub l.conn channelId listed
  | unsubscribe sessionId channelId =>
    exact covered.modify (fun _ => rfl) fun _ _ listed => .inl (Finset.mem_of_mem_erase listed)
  | call user call =>
    refine ⟨(call_keepsChannels s.hub.db user call).referenced covered.referenced, ?_⟩
    intro publicKey c listens
    exact spares publicKey c listens (covered.reads publicKey c listens)
  | send event target => exact covered.chat trivial
  | receive sessionId => exact covered.chat trivial
  | lagged sessionId missed => exact covered.modify (fun _ => rfl) fun _ _ => .inl
  | close sessionId =>
    refine ⟨covered.referenced, ?_⟩
    rintro publicKey c ⟨other, l, found, rfl, listed⟩
    simp only [Audience.step, ExtTreeMap.getElem?_erase] at found
    split at found
    next => cases found
    next => exact covered.reads _ c ⟨other, l, found, rfl, listed⟩

-- The loop comes to a broadcast that waits, whatever waits before it.
theorem unread_delivered {l : Listener} {c : String} {before after : List (ChatEvent × Option String)}
    (connected : s.sockets[sessionId]? = some l) (subscribed : c ∈ l.conn.subscribed)
    (barred : ¬ Reads s.hub.db l.conn.publicKey c) (waiting : l.waiting = before ++ (.edited c, none) :: after) :
    ¬ Meets Audience.step Permitted s (List.replicate (before.length + 1) (.receive sessionId)) := by
  induction before generalizing s l with
  | nil =>
    rintro ⟨permitted, _⟩
    refine barred (permitted l connected (.edited c) ?_ rfl)
    simp [Listener.receive, waiting, receiveChat, isHubWide, eventChannel, subscribed, addressedTo]
  | cons first before ih =>
    rintro ⟨_, later⟩
    refine @ih (s.step (.receive sessionId)) l.receive.1 ?_ (by simpa using subscribed) ?_ ?_ later
    · simp [Audience.step, Audience.modify, connected]
    · rw [Listener.receive_publicKey]
      exact barred
    · simp [Listener.receive, waiting]

theorem unread_leaks {publicKey c : String} (listens : s.Listens publicKey c)
    (barred : ¬ Reads s.hub.db publicKey c) : ¬ Discreet s := by
  obtain ⟨sessionId, l, connected, rfl, subscribed⟩ := listens
  intro discreet
  have said : ∀ turn ∈ Turn.send (.edited c) none :: List.replicate (l.waiting.length + 1) (.receive sessionId),
      turn.IsChat := by
    intro turn member
    rcases List.mem_cons.mp member with rfl | later
    · trivial
    · rw [List.eq_of_mem_replicate later]
      trivial
  obtain ⟨_, later⟩ := discreet _ said
  refine @unread_delivered (s.step (.send (.edited c) none)) sessionId
    { l with waiting := l.waiting ++ [(.edited c, none)] } c l.waiting [] ?_ subscribed barred rfl later
  simp [Audience.step, ExtTreeMap.getElem?_map, connected]

end

/-- With no socket open at first. -/
theorem confidential_iff (hub : ScreenHub) (referenced : Referenced hub.db) (turns : List Turn) :
    Confidential { hub := hub } turns ↔ Meets Audience.step SparesListeners { hub := hub } turns := by
  have start : Covered { hub := hub } := by
    refine ⟨referenced, ?_⟩
    rintro publicKey c ⟨sessionId, l, connected, _⟩
    simp at connected
  refine always_iff_meets Covered Discreet (fun s covered => covered.discreet)
    (fun s turn covered spares => covered.step turn spares) ?_ start turns
  intro s turn covered takes
  cases turn with
  | call user call =>
    simp only [SparesListeners, not_forall] at takes
    obtain ⟨publicKey, c, listens, _, barred⟩ := takes
    exact @unread_leaks (s.step (.call user call)) publicKey c listens barred
  | _ => exact absurd trivial takes

-- Olga owns the hub; readers may read the news, and mia is one.
def newsHub : ScreenHub where
  db :=
    { users := ((∅ : Table User).insert "olga" { isMember := true }).insert "mia" { isMember := true }
      roles := ((∅ : Table Role).insert BUILTIN_OWNER_ROLE_ID { name := "Owner", priority := 999999 }).insert "reader"
        { name := "reader", priority := 1 }
      userRoles := {("olga", BUILTIN_OWNER_ROLE_ID), ("mia", "reader")}
      rolePermissions := {("reader", MESSAGES_READ)}
      channels := (∅ : Table Channel).insert "news" { name := "news", createdBy := "olga" } }

theorem confidential_iff_later :
    Confidential { hub := newsHub }
      [.call "olga" (.removeRole "mia" "reader"), .connect { publicKey := "mia", sessionId := "tab" }] := by
  refine (confidential_iff newsHub nofun _).mpr ⟨?_, trivial, trivial⟩
  rintro publicKey c ⟨sessionId, l, connected, _⟩
  simp at connected

-- Mia is connected when the role goes, and the next message of the channel still reaches her.
theorem confidential_demoted :
    ¬ Confidential { hub := newsHub }
      [.connect { publicKey := "mia", sessionId := "tab" }, .call "olga" (.removeRole "mia" "reader")] := by
  intro confidential
  have discreet := confidential _ List.prefix_rfl [.send (.new "news" none) none, .receive "tab"]
    (by simp [Turn.IsChat])
  obtain ⟨_, permitted, _⟩ := discreet
  have reads := permitted _ (Option.eq_some_of_isSome (by decide)) (.new "news" none) (by decide) rfl
  revert reads
  decide

end Wavvon.Socket
