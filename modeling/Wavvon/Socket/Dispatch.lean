import Wavvon.Socket.Streams

set_option autoImplicit false

namespace Wavvon.Socket

open Tables

namespace Frame

-- The stream a frame announces bytes of: channel, sharer and id.
def chunkOf : Frame → Option (String × String × String)
  | .message (.screenShareChunkOut channelId streamId sharerPubkey _ _) =>
    some (channelId, sharerPubkey, streamId)
  | _ => none

def IsReply : Frame → Prop
  | .chat _ | .dm _ => False
  | _ => True

/-- What a handler answers: never a relayed event, and bytes only of a stream that is registered. -/
structure Answers (shares : Nested String String ActiveShare) (frame : Frame) : Prop where
  reply : frame.IsReply
  sourced : ∀ c who st, frame.chunkOf = some (c, who, st) →
    ∃ k, (streamOf shares c k st).map (·.sharerPubkey) = some who

end Frame

section

variable {shares : Nested String String ActiveShare}

theorem answers_silent {frame : Frame} (reply : frame.IsReply) (silent : frame.chunkOf = none) :
    frame.Answers shares := by
  refine ⟨reply, ?_⟩
  intro c who st announced
  simp [silent] at announced

theorem answers_messages (replies : List WsServerMessage)
    (silent : ∀ reply ∈ replies, Frame.chunkOf (.message reply) = none) :
    ∀ frame ∈ replies.map Frame.message, frame.Answers shares := by
  intro frame member
  obtain ⟨reply, inside, rfl⟩ := List.mem_map.mp member
  exact answers_silent trivial (silent reply inside)

theorem answers_refuse (context text : String) : ∀ frame ∈ refuse context text, frame.Answers shares :=
  answers_messages [.error context text] (by simp [Frame.chunkOf])

theorem answers_initFrames {channelId k streamId : String} {about : ScreenStreamMeta}
    (held : streamOf shares channelId k streamId = some about) :
    ∀ frame ∈ initFrames channelId streamId about, frame.Answers shares := by
  intro frame member
  unfold initFrames at member
  split at member
  next => cases member
  next data _ =>
    simp only [chunkFrames, List.mem_cons, List.not_mem_nil, or_false] at member
    rcases member with rfl | rfl
    · refine ⟨trivial, ?_⟩
      intro c who st announced
      simp only [Frame.chunkOf, Option.some.injEq, Prod.mk.injEq] at announced
      obtain ⟨rfl, rfl, rfl⟩ := announced
      exact ⟨k, by simp [held]⟩
    · exact answers_silent trivial rfl

theorem answers_pushShares (cs : Conn) (streams : List (String × String × ScreenStreamMeta))
    (listed : ∀ stream ∈ streams, stream ∈ activeStreams shares) :
    ∀ frame ∈ (pushShares cs streams).2, frame.Answers shares := by
  intro frame member
  obtain ⟨stream, inside, pushed⟩ := List.mem_flatMap.mp member
  obtain ⟨k, held⟩ := activeStreams_mem shares stream (listed stream inside)
  rcases List.mem_cons.mp pushed with rfl | later
  · exact answers_silent trivial rfl
  · split at later
    next => cases later
    next => exact answers_initFrames held frame later

end

theorem answers_handleSocket (h : ScreenHub) (opening : Opening) :
    ∀ frame ∈ (handleSocket h opening).2, frame.Answers h.shares :=
  answers_pushShares _ _ fun _ inside => List.mem_of_mem_filter inside

theorem answers_handleSubscribe (h : ScreenHub) (cs : Conn) (channelId : String) :
    ∀ frame ∈ (handleSubscribe h cs channelId).2, frame.Answers h.shares := by
  unfold handleSubscribe
  split
  next => exact answers_refuse _ _
  next =>
    split
    next => simp
    next => exact answers_pushShares _ _ fun _ inside => List.mem_of_mem_filter inside

-- The voice handlers answer with voice messages.
theorem handleVoiceJoin_silent (h : Hub) (cs : ConnState) (channelId : String) (env : JoinEnv) :
    ∀ reply ∈ (handleVoiceJoin h cs channelId env).replies, Frame.chunkOf (.message reply) = none := by
  rcases handleVoiceJoin_cases h cs channelId env with ⟨message, _, outcome⟩ | ⟨room, _, outcome⟩
  · rw [outcome]
    simp [Frame.chunkOf]
  · rw [outcome]
    intro reply member
    simp only [enterRoom, zoneSnapshot, videoSnapshot, List.mem_cons, List.mem_append] at member
    rcases member with rfl | zones | videos
    · rfl
    · split at zones <;> simp_all [Frame.chunkOf]
    · split at videos <;> simp_all [Frame.chunkOf]

theorem handleVoiceMove_silent (h : Hub) (mover targetPubkey targetChannelId : String)
    (eventId : Option String) (now : Int) :
    ∀ reply ∈ (handleVoiceMove h mover targetPubkey targetChannelId eventId now).2,
      Frame.chunkOf (.message reply) = none := by
  have error : ∀ message, ∀ reply ∈ voiceMoveError message, Frame.chunkOf (.message reply) = none := by
    simp [voiceMoveError, Frame.chunkOf]
  unfold handleVoiceMove
  split
  next => exact error _
  next =>
    split
    next => exact error _
    next =>
      split
      next => exact error _
      next =>
        split
        next => exact error _
        next =>
          dsimp only
          split
          next => exact error _
          next => simp
        next => simp

def WsClientMessage.subscribes : WsClientMessage → Bool
  | .subscribe _ => true
  | _ => false

def WsClientMessage.startsOrStops : WsClientMessage → Bool
  | .screenShareStart _ _ _ _ _ _ _ _ _ | .screenShareStop _ _ => true
  | _ => false

/--
All that one client message can do: it broadcasts no chunk, only a start and a stop change which
streams there are, and only a subscription widens what the connection listens to.
-/
structure DispatchEffect (h : ScreenHub) (cs : Conn) (msg : WsClientMessage)
    (outcome : ScreenHub × Conn × List Frame) : Prop where
  tx : outcome.1.screenShareTx = h.screenShareTx
  streams : msg.startsOrStops = false → ∀ c k st,
    streamOf outcome.1.shares c k st = streamOf h.shares c k st
  subscribed : msg.subscribes = false → outcome.2.1.subscribed ⊆ cs.subscribed
  conversations : outcome.2.1.myConversations = cs.myConversations
  answers : ∀ frame ∈ outcome.2.2, frame.Answers h.shares

section

variable (h : ScreenHub) (cs : Conn)

-- The handlers that only read the connection and the shares.
theorem dispatchEffect_reads (msg : WsClientMessage) {after : ScreenHub}
    (tx : after.screenShareTx = h.screenShareTx) (shares : after.shares = h.shares) {frames : List Frame}
    (answers : ∀ frame ∈ frames, frame.Answers h.shares) :
    DispatchEffect h cs msg (after, cs, frames) :=
  ⟨tx, fun _ c k st => by rw [shares], fun _ => subset_rfl, rfl, answers⟩

theorem handleSubscribe_effect (channelId : String) :
    DispatchEffect h cs (.subscribe channelId) (h, handleSubscribe h cs channelId) := by
  refine ⟨rfl, fun _ _ _ _ => rfl, nofun, ?_, answers_handleSubscribe h cs channelId⟩
  unfold handleSubscribe
  split
  next => rfl
  next => split <;> rfl

theorem handleScreenShareStart_effect (channelId streamId kind mime : String) (hasAudio : Bool)
    (width height fps kbps : Option Nat) (instant : Int) :
    DispatchEffect h cs (.screenShareStart channelId streamId kind mime hasAudio width height fps kbps)
      ((handleScreenShareStart h cs channelId streamId kind mime hasAudio width height fps kbps instant).1,
        cs, (handleScreenShareStart h cs channelId streamId kind mime hasAudio width height fps kbps
          instant).2) := by
  unfold handleScreenShareStart
  split
  next => exact dispatchEffect_reads h cs _ rfl rfl (answers_refuse _ _)
  next =>
    split
    next => exact ⟨rfl, nofun, fun _ => subset_rfl, rfl, by simp⟩
    next => exact dispatchEffect_reads h cs _ rfl rfl (answers_refuse _ _)

theorem handleStreamSubscribe_effect (channelId streamId : String) :
    DispatchEffect h cs (.streamSubscribe channelId streamId)
      (handleStreamSubscribe h cs channelId streamId) := by
  unfold handleStreamSubscribe
  split
  next => exact dispatchEffect_reads h cs _ rfl rfl (answers_refuse _ _)
  next =>
    split
    next => exact dispatchEffect_reads h cs _ rfl rfl (answers_refuse _ _)
    next sharer active found =>
      have share := findStream_get _ _ _ _ found
      refine ⟨rfl, ?_, ?_, ?_, ?_⟩
      · intro _ c k st
        dsimp only
        split
        next => rfl
        next => exact streamOf_watchers _ _ _ _ _ _ _ _ share
      · intro _
        dsimp only
        split <;> exact subset_rfl
      · dsimp only
        split <;> rfl
      · dsimp only
        split
        next => exact answers_refuse _ _
        next about listed =>
          have held : streamOf h.shares channelId sharer streamId = some about := by
            simp [streamOf, share, listed]
          intro frame member
          rcases List.mem_cons.mp member with rfl | later
          · exact answers_silent trivial rfl
          · exact answers_initFrames held frame later

theorem handleStreamUnsubscribe_effect (channelId streamId : String) :
    DispatchEffect h cs (.streamUnsubscribe channelId streamId)
      ((handleStreamUnsubscribe h cs channelId streamId).1,
        (handleStreamUnsubscribe h cs channelId streamId).2, []) := by
  unfold handleStreamUnsubscribe
  split
  next => exact ⟨rfl, fun _ _ _ _ => rfl, fun _ => subset_rfl, rfl, by simp⟩
  next =>
    split
    next => exact dispatchEffect_reads h cs _ rfl rfl (by simp)
    next sharer active found =>
      refine ⟨rfl, ?_, fun _ => subset_rfl, rfl, by simp⟩
      intro _ c k st
      exact streamOf_watchers _ _ _ _ _ _ _ _ (findStream_get _ _ _ _ found)

theorem dispatch_effect (msg : WsClientMessage) (env : JoinEnv) :
    DispatchEffect h cs msg (dispatchClientMsg h cs msg env) := by
  unfold dispatchClientMsg
  split
  next => exact dispatchEffect_reads h cs msg rfl rfl (by simp)
  next =>
    cases msg with
    | subscribe channelId => exact handleSubscribe_effect h cs channelId
    | unsubscribe channelId =>
      exact ⟨rfl, fun _ _ _ _ => rfl, fun _ => Finset.erase_subset _ _, rfl, by simp⟩
    | voiceJoin channelId =>
      exact ⟨rfl, fun _ _ _ _ => rfl, fun _ => subset_rfl, rfl,
        answers_messages _ (handleVoiceJoin_silent _ _ _ _)⟩
    | voiceLeave channelId => exact ⟨rfl, fun _ _ _ _ => rfl, fun _ => subset_rfl, rfl, by simp⟩
    | voiceWatch channelId =>
      dsimp only
      split <;> exact ⟨rfl, fun _ _ _ _ => rfl, fun _ => subset_rfl, rfl, by simp⟩
    | voiceMove targetPubkey targetChannelId eventId =>
      exact ⟨rfl, fun _ _ _ _ => rfl, fun _ => subset_rfl, rfl,
        answers_messages _ (handleVoiceMove_silent _ _ _ _ _ _)⟩
    | screenShareStart channelId streamId kind mime hasAudio width height fps kbps =>
      exact handleScreenShareStart_effect h cs _ _ _ _ _ _ _ _ _ _
    | screenShareStop channelId streamId => exact ⟨rfl, nofun, fun _ => subset_rfl, rfl, by simp⟩
    | streamList =>
      exact dispatchEffect_reads h cs _ rfl rfl (answers_messages [_] (by simp [Frame.chunkOf]))
    | streamSubscribe channelId streamId => exact handleStreamSubscribe_effect h cs channelId streamId
    | streamUnsubscribe channelId streamId => exact handleStreamUnsubscribe_effect h cs channelId streamId
    | _ => exact ⟨rfl, fun _ _ _ _ => rfl, fun _ => subset_rfl, rfl, by simp⟩

end

end Wavvon.Socket
