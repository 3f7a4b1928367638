import Wavvon.Socket.Dispatch

set_option autoImplicit false

namespace Wavvon.Socket

open Tables
open Runs

/-- One turn of the socket's loop, with the hub as it stands then. -/
inductive ConnInput where
  | client (h : ScreenHub) (msg : WsClientMessage) (env : JoinEnv)
  | binary (h : ScreenHub) (data : Bytes)
  | chat (event : ChatEvent) (target : Option String)
  | dm (event : DmEvent)
  | voice (channelId : String) (msg : WsServerMessage)
  | chunk (h : ScreenHub) (ev : ScreenChunkEvent)
  | key (msg : WsServerMessage)
  | app (envelope : String)
  | lagged (count : Nat)

structure Session where
  conn : Conn
  sent : List Frame

namespace Session

def after (s : Session) (outcome : Conn × List Frame) : Session :=
  { conn := outcome.1, sent := s.sent ++ outcome.2 }

def step (s : Session) : ConnInput → Session
  | .client h msg env => s.after (dispatchClientMsg h s.conn msg env).2
  | .binary h data => s.after ((handleBinaryChunk h s.conn data).2, [])
  | .chat event target => s.after (receiveChat s.conn event target)
  | .dm event => s.after (receiveDm s.conn event)
  | .voice channelId msg => s.after (s.conn, receiveVoice s.conn channelId msg)
  | .chunk h ev => s.after (relayChunk h s.conn ev)
  | .key msg => s.after (s.conn, [.message msg])
  | .app envelope => s.after (s.conn, [.app envelope])
  | .lagged count => s.after (s.conn, [.message (.lagged count)])

-- A mini-app token carries the channel its session is bound to.
def openMiniApp (h : ScreenHub) (opening : Opening) (bound : String) : Session :=
  let opened := handleSocket h { opening with miniAppChannelId := some bound }
  { conn := opened.1, sent := opened.2 }

end Session

-- No direct message, and no chat event of a channel other than the bound one.
def Frame.Within (bound : String) : Frame → Prop
  | .chat event => isHubWide event = true ∨ eventChannel event = bound
  | .dm _ => False
  | _ => True

structure Confined (bound : String) (s : Session) : Prop where
  subscribed : s.conn.subscribed ⊆ {bound}
  conversations : s.conn.myConversations = ∅
  sent : ∀ frame ∈ s.sent, frame.Within bound

/-- The session asks for no other channel its user may read, and its user is added to no conversation. -/
def KeepsToChannel (bound : String) (s : Session) : ConnInput → Prop
  | .client h (.subscribe channelId) _ => s.conn.allianceVoiceChannel = none →
      (channelPermissions h.db s.conn.publicKey channelId).has MESSAGES_READ = true → channelId = bound
  | .dm event => event.adds s.conn.publicKey = false
  | _ => True

theorem Frame.Answers.within {shares : Nested String String ActiveShare} {frame : Frame}
    (answers : frame.Answers shares) (bound : String) : frame.Within bound := by
  have reply := answers.reply
  cases frame <;> simp_all [Frame.IsReply, Frame.Within]

section

variable {bound : String} {s : Session}

theorem Confined.after (confined : Confined bound s) {outcome : Conn × List Frame}
    (subscribed : outcome.1.subscribed ⊆ {bound}) (conversations : outcome.1.myConversations = ∅)
    (within : ∀ frame ∈ outcome.2, frame.Within bound) : Confined bound (s.after outcome) := by
  refine ⟨subscribed, conversations, ?_⟩
  intro frame member
  rcases List.mem_append.mp member with earlier | now
  · exact confined.sent frame earlier
  · exact within frame now

-- A turn that neither subscribes nor joins a conversation only has to answer for its frames.
theorem Confined.told (confined : Confined bound s) {frames : List Frame}
    (within : ∀ frame ∈ frames, frame.Within bound) : Confined bound (s.after (s.conn, frames)) :=
  confined.after confined.subscribed confined.conversations within

theorem dispatch_confined (confined : Confined bound s) (h : ScreenHub) (msg : WsClientMessage)
    (env : JoinEnv) (other : msg.subscribes = false) :
    Confined bound (s.step (.client h msg env)) := by
  have effect := dispatch_effect h s.conn msg env
  refine confined.after ((effect.subscribed other).trans confined.subscribed)
    (effect.conversations.trans confined.conversations) ?_
  intro frame member
  exact (effect.answers frame member).within bound

theorem subscribe_confined (confined : Confined bound s) (h : ScreenHub) (channelId : String)
    (env : JoinEnv) (keeps : KeepsToChannel bound s (.client h (.subscribe channelId) env)) :
    Confined bound (s.step (.client h (.subscribe channelId) env)) := by
  have effect := dispatch_effect h s.conn (.subscribe channelId) env
  refine confined.after ?_ (effect.conversations.trans confined.conversations) ?_
  · unfold dispatchClientMsg
    split
    next => exact confined.subscribed
    next member =>
      dsimp only [handleSubscribe]
      split
      next => exact confined.subscribed
      next readable =>
        split
        next => exact confined.subscribed
        next =>
          have same : channelId = bound :=
            keeps (by simpa [visitorMaySend] using member) (by simpa using readable)
          exact Finset.insert_subset (by simp [same]) confined.subscribed
  · intro frame member
    exact (effect.answers frame member).within bound

theorem chat_confined (confined : Confined bound s) (event : ChatEvent) (target : Option String) :
    Confined bound (s.after (receiveChat s.conn event target)) := by
  unfold receiveChat
  split
  next hubWide =>
    refine confined.told ?_
    split <;> simp [Frame.Within, hubWide]
  next =>
    split
    next => exact confined.told (by simp)
    next passed =>
      have here : eventChannel event = bound := by
        simp only [not_or, not_not] at passed
        simpa using confined.subscribed passed.1
      split
      next =>
        split
        next => exact confined.told (by simp)
        next =>
          exact confined.after confined.subscribed confined.conversations (by simp [Frame.Within, here])
      next => exact confined.told (by simp [Frame.Within, here])

-- With no conversation and none added, the gate drops every event.
theorem dm_confined (confined : Confined bound s) (event : DmEvent)
    (keeps : event.adds s.conn.publicKey = false) :
    Confined bound (s.after (receiveDm s.conn event)) := by
  have dropped : receiveDm s.conn event = (s.conn, []) := by
    simp [receiveDm, keeps, confined.conversations]
  rw [dropped]
  exact confined.told (by simp)

theorem chunk_confined (confined : Confined bound s) (h : ScreenHub) (ev : ScreenChunkEvent) :
    Confined bound (s.after (relayChunk h s.conn ev)) := by
  have chunk : ∀ frame ∈ chunkFrames ev.channelId ev.streamId ev.sharerPubkey ev.seq ev.isInit ev.data,
      frame.Within bound := by
    simp [chunkFrames, Frame.Within]
  unfold relayChunk
  split
  next =>
    dsimp only
    split
    next => exact confined.told chunk
    next =>
      split
      next => exact confined.told chunk
      next =>
        refine confined.after confined.subscribed confined.conversations ?_
        exact List.forall_mem_cons.mpr ⟨trivial, chunk⟩
  next => exact confined.told (by simp)

end

namespace Session

theorem step_confined (bound : String) (s : Session) (input : ConnInput) (confined : Confined bound s)
    (keeps : KeepsToChannel bound s input) : Confined bound (s.step input) := by
  cases input with
  | client h msg env =>
    cases msg with
    | subscribe channelId => exact subscribe_confined confined h channelId env keeps
    | _ => exact dispatch_confined confined h _ env rfl
  | binary h data =>
    simp only [step, handleBinaryChunk]
    split <;> exact confined.after confined.subscribed confined.conversations (by simp)
  | chat event target => exact chat_confined confined event target
  | dm event => exact dm_confined confined event keeps
  | voice channelId msg =>
    refine confined.told ?_
    intro frame member
    simp only [receiveVoice, List.mem_ite_nil_right, List.mem_singleton] at member
    obtain ⟨_, rfl⟩ := member
    trivial
  | chunk h ev => exact chunk_confined confined h ev
  | key msg => exact confined.told (by simp [Frame.Within])
  | app envelope => exact confined.told (by simp [Frame.Within])
  | lagged count => exact confined.told (by simp [Frame.Within])

theorem step_escapes (bound : String) (s : Session) (input : ConnInput) (confined : Confined bound s)
    (strays : ¬ KeepsToChannel bound s input) : ¬ Confined bound (s.step input) := by
  intro still
  cases input with
  | client h msg env =>
    cases msg with
    | subscribe channelId =>
      simp only [KeepsToChannel, Classical.not_imp] at strays
      obtain ⟨member, readable, other⟩ := strays
      have absent : channelId ∉ s.conn.subscribed := by
        intro listed
        exact other (by simpa using confined.subscribed listed)
      have widened := still.subscribed
      simp only [step, dispatchClientMsg, member, handleSubscribe, readable, absent] at widened
      exact other (by simpa using widened (Finset.mem_insert_self channelId s.conn.subscribed))
    | _ => exact strays trivial
  | dm event =>
    have added : event.adds s.conn.publicKey = true := by simpa [KeepsToChannel] using strays
    have echoed : event.suppressEcho = false := by
      cases event <;> simp_all [DmEvent.adds, DmEvent.suppressEcho]
    have delivered : Frame.dm event ∈ (s.step (.dm event)).sent := by
      simp [step, Session.after, receiveDm, added, echoed]
    exact still.sent _ delivered
  | _ => exact strays trivial

theorem openMiniApp_confined (h : ScreenHub) (opening : Opening) (bound : String) :
    Confined bound (openMiniApp h opening bound) := by
  refine ⟨?_, rfl, ?_⟩
  · intro channelId member
    have listed : channelId ∈ autoSubscribed h.db { opening with miniAppChannelId := some bound } := member
    simp only [autoSubscribed, List.mem_toFinset, List.mem_filter, Bool.and_eq_true, Option.all_some,
      beq_iff_eq] at listed
    simpa using listed.2.2.symm
  · intro frame member
    exact (answers_handleSocket h _ frame member).within bound

theorem confined_iff (h : ScreenHub) (opening : Opening) (bound : String) (inputs : List ConnInput) :
    (∀ front, front <+: inputs → Confined bound (run step (openMiniApp h opening bound) front)) ↔
      Meets step (KeepsToChannel bound) (openMiniApp h opening bound) inputs :=
  always_iff_meets (Confined bound) (Confined bound) (fun _ => id) (step_confined bound)
    (step_escapes bound) (openMiniApp_confined h opening bound) inputs

end Session

def arcadeHub : ScreenHub :=
  { db := { lobbyDb with
      channels := lobbyDb.channels.insert "arcade" { name := "arcade", createdBy := "ann" } } }

-- Ann's mini-app in the arcade subscribes to the lobby and is sent the next message there.
theorem confined_subscribes :
    ¬ ∀ (h : ScreenHub) (opening : Opening) (bound : String) (inputs : List ConnInput),
      Confined bound (run Session.step (Session.openMiniApp h opening bound) inputs) := by
  intro always
  have confined := always arcadeHub { publicKey := "ann", sessionId := "s0" } "arcade"
    [.client arcadeHub (.subscribe "lobby") (callEnv 1 "t0"), .chat (.new "lobby" none) none]
  have leaked := confined.sent (.chat (.new "lobby" none)) (by decide)
  simp [Frame.Within, isHubWide, eventChannel] at leaked

end Wavvon.Socket
