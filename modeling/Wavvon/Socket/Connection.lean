import Wavvon.Voice.Whispers

set_option autoImplicit false

namespace Wavvon.Socket

open Tables

abbrev Bytes := List UInt8

structure ScreenStreamMeta where
  kind : String
  mime : String
  hasAudio : Bool
  sharerPubkey : String
  viaHttp : Bool
  sessionId : String
  initChunk : Option Bytes
  startedAt : Int
  deriving DecidableEq, Repr

structure ActiveShare where
  streams : Table ScreenStreamMeta := ∅
  crossChannelSubscribers : Table Unit := ∅

structure ScreenChunkEvent where
  channelId : String
  streamId : String
  sharerPubkey : String
  seq : UInt32
  isInit : Bool
  data : Bytes
  deriving DecidableEq, Repr

/-- The hub with its screen shares, by channel and sharer, and every chunk it has broadcast. -/
structure ScreenHub extends Hub where
  shares : Nested String String ActiveShare := ∅
  screenShareTx : List ScreenChunkEvent := []
  httpVideoStreamBudget : Nat := 0

structure Conn extends ConnState where
  sessionId : String
  watchedVoiceChannel : Option String := none
  pendingChunk : Option (String × String × UInt32 × Bool) := none
  subscribed : Finset String := ∅
  notifiedStreams : Finset (String × String) := ∅
  streamsOnRequest : Bool := false
  openedStreams : Finset (String × String) := ∅
  myConversations : Finset String := ∅

inductive DmEvent where
  | message (conversationId sender content : String)
  | typing (conversationId sender : String) (typing : Bool)
  | memberChanged (conversationId actor : String) (added removed : List String)
  deriving DecidableEq, Repr

/-- What goes out on the socket: replies of the handlers, stream bytes, relayed broadcasts. -/
inductive Frame where
  | message (reply : WsServerMessage)
  | binary (data : Bytes)
  | chat (event : ChatEvent)
  | dm (event : DmEvent)
  | app (envelope : String)
  deriving DecidableEq

inductive WsClientMessage where
  | subscribe (channelId : String)
  | unsubscribe (channelId : String)
  | voiceJoin (channelId : String)
  | voiceWatch (channelId : String)
  | voiceUnwatch
  | ping (nonce : Int)
  | voiceLeave (channelId : String)
  | voiceSpeaking (channelId : String) (speaking : Bool)
  | typing (channelId : String) (typing : Bool)
  | setStatus (status : String) (custom : Option String)
  | dmTyping (conversationId : String) (typing : Bool)
  | screenShareStart (channelId streamId kind mime : String) (hasAudio : Bool)
      (width height fps kbps : Option Nat)
  | screenShareChunk (channelId streamId : String) (seq : UInt32) (isInit : Bool)
  | screenShareStop (channelId streamId : String)
  | streamList
  | streamSubscribe (sourceChannelId streamId : String)
  | streamUnsubscribe (sourceChannelId streamId : String)
  | videoEnable (channelId : String)
  | videoDisable (channelId : String)
  | videoOffer (channelId toPubkey sdp : String)
  | videoAnswer (channelId toPubkey sdp : String)
  | videoIce (channelId toPubkey candidate : String)
  | voiceWhisperStart (targets : List WhisperTargetDef)
  | voiceWhisperStop
  | voiceWhisperOptout (enabled : Bool)
  | voiceMove (targetPubkey targetChannelId : String) (eventId : Option String)
  | resume (sinceSeq : Int)
  | componentInteraction (messageId customId : String) (values : List String)
  | voiceZoneCreate (zoneId name : String)
  | voiceZoneDestroy (zoneId : String)
  | voicePositionUpdate (zoneId : String)
  | voiceKeyOffer (channelId : String)
  | appAnnounce (title description channelId : String)
  | botAppJoin (appId channelId : String)
  | appDismiss (channelId : String)
  | miniAppMessage (appId channelId payload : String) (toPubkey : Option String)

def visitorMaySend : WsClientMessage → Bool
  | .voiceJoin _ | .voiceLeave _ | .voiceSpeaking _ _ | .voiceKeyOffer _ | .ping _ => true
  | _ => false

structure StreamLimits where
  maxWidth : Option Nat
  maxHeight : Option Nat
  maxFps : Option Nat
  maxKbps : Option Nat

def readStreamLimits (db : Db) : StreamLimits :=
  let read (key : String) := ((db.readSetting key).bind (parseUnsigned (2 ^ 32))).filter (0 < ·)
  { maxWidth := read "stream_max_width"
    maxHeight := read "stream_max_height"
    maxFps := read "stream_max_fps"
    maxKbps := read "stream_max_kbps" }

def StreamLimits.exceededBy (limits : StreamLimits) (width height fps kbps : Option Nat) :
    Option String :=
  let isOver (declared max : Option Nat) : Bool :=
    match declared, max with
    | some declared, some max => decide (max < declared)
    | _, _ => false
  ([("width", isOver width limits.maxWidth), ("height", isOver height limits.maxHeight),
    ("frame rate", isOver fps limits.maxFps), ("bitrate", isOver kbps limits.maxKbps)].find? (·.2)).map (·.1)

def sendChat (h : ScreenHub) (entries : List (ChatEvent × WsServerMessage)) : ScreenHub :=
  { h with outbox := { h.outbox with chatTx := h.outbox.chatTx ++ entries } }

def refuse (context text : String) : List Frame :=
  [.message (.error context text)]

-- Every stream of the hub with the channel it is shared in, in the order of the tables.
def activeStreams (shares : Nested String String ActiveShare) :
    List (String × String × ScreenStreamMeta) :=
  shares.toList.flatMap fun channel => channel.2.toList.flatMap fun sharer =>
    sharer.2.streams.toList.map fun stream => (channel.1, stream.1, stream.2)

def chunkFrames (channelId streamId sharerPubkey : String) (seq : UInt32) (isInit : Bool) (data : Bytes) :
    List Frame :=
  [.message (.screenShareChunkOut channelId streamId sharerPubkey seq isInit), .binary data]

def initFrames (channelId streamId : String) (about : ScreenStreamMeta) : List Frame :=
  match about.initChunk with
  | none => []
  | some data => chunkFrames channelId streamId about.sharerPubkey 0 true data

-- An in-progress share, as a connection that has just come to its channel is told of it.
def pushShare (onRequest : Bool) (stream : String × String × ScreenStreamMeta) : List Frame :=
  .message (.screenShareStarted stream.1 stream.2.1 stream.2.2.sharerPubkey stream.2.2.kind
    stream.2.2.mime stream.2.2.hasAudio) ::
    if onRequest then [] else initFrames stream.1 stream.2.1 stream.2.2

def pushShares (cs : Conn) (streams : List (String × String × ScreenStreamMeta)) : Conn × List Frame :=
  ({ cs with notifiedStreams :=
      cs.notifiedStreams ∪ (streams.map fun stream => (stream.1, stream.2.1)).toFinset },
    streams.flatMap (pushShare cs.streamsOnRequest))

def handleSubscribe (h : ScreenHub) (cs : Conn) (channelId : String) : Conn × List Frame :=
  if !(channelPermissions h.db cs.publicKey channelId).has MESSAGES_READ then
    (cs, refuse "subscribe" "You do not have access to this channel.")
  else if channelId ∈ cs.subscribed then (cs, [])
  else
    pushShares { cs with subscribed := insert channelId cs.subscribed }
      ((activeStreams h.shares).filter (·.1 = channelId))

def handleUnsubscribe (cs : Conn) (channelId : String) : Conn :=
  { cs with subscribed := cs.subscribed.erase channelId }

def handleScreenShareChunkHeader (cs : Conn) (channelId streamId : String) (seq : UInt32)
    (isInit : Bool) : Conn :=
  { cs with pendingChunk := some (channelId, streamId, seq, isInit) }

-- `shares.get_mut(..)`, where there is such an entry.
def modifyShare (shares : Nested String String ActiveShare) (channelId sharer : String)
    (f : ActiveShare → ActiveShare) : Nested String String ActiveShare :=
  match Nested.get shares channelId sharer with
  | none => shares
  | some active => Nested.put shares channelId sharer (f active)

def cacheInit (shares : Nested String String ActiveShare) (channelId sharer streamId : String)
    (data : Bytes) : Nested String String ActiveShare :=
  modifyShare shares channelId sharer fun active =>
    { active with streams := active.streams.modify streamId fun about =>
        { about with initChunk := some data } }

def handleBinaryChunk (h : ScreenHub) (cs : Conn) (data : Bytes) : ScreenHub × Conn :=
  match cs.pendingChunk with
  | none => (h, cs)
  | some (channelId, streamId, seq, isInit) =>
    let shares := if isInit then cacheInit h.shares channelId cs.publicKey streamId data else h.shares
    ({ h with
        shares := shares
        screenShareTx := h.screenShareTx ++
          [{ channelId := channelId, streamId := streamId, sharerPubkey := cs.publicKey, seq := seq
             isInit := isInit, data := data }] },
      { cs with pendingChunk := none })

def mayShare (db : Db) (publicKey channelId : String) : Bool :=
  let perms := channelPermissions db publicKey channelId
  perms.has VOICE_JOIN && perms.has VOICE_SCREEN_SHARE

def registerStream (shares : Nested String String ActiveShare) (channelId sharer streamId : String)
    (about : ScreenStreamMeta) : Nested String String ActiveShare :=
  let active := (Nested.get shares channelId sharer).getD {}
  Nested.put shares channelId sharer { active with streams := active.streams.insert streamId about }

def startedEvent (channelId streamId : String) (about : ScreenStreamMeta) :
    List (ChatEvent × WsServerMessage) :=
  [(.screenShareStarted channelId streamId about.sharerPubkey about.kind about.mime about.hasAudio,
    .screenShareStarted channelId streamId about.sharerPubkey about.kind about.mime about.hasAudio)]

def handleScreenShareStart (h : ScreenHub) (cs : Conn) (channelId streamId kind mime : String)
    (hasAudio : Bool) (width height fps kbps : Option Nat) (instant : Int) : ScreenHub × List Frame :=
  match (readStreamLimits h.db).exceededBy width height fps kbps with
  | some what =>
    (h, refuse "screen_share_start" ("This hub caps a stream's " ++ what ++ "; choose a lower setting."))
  | none =>
    if mayShare h.db cs.publicKey channelId then
      let about : ScreenStreamMeta :=
        { kind := kind, mime := mime, hasAudio := hasAudio, sharerPubkey := cs.publicKey
          viaHttp := false, sessionId := cs.sessionId, initChunk := none, startedAt := instant }
      (sendChat { h with shares := registerStream h.shares channelId cs.publicKey streamId about }
        (startedEvent channelId streamId about), [])
    else (h, refuse "screen_share_start" "You cannot share into this channel.")

def removeStream (shares : Nested String String ActiveShare) (channelId sharer streamId : String) :
    Nested String String ActiveShare :=
  match Nested.get shares channelId sharer with
  | none => shares
  | some active =>
    let streams := active.streams.erase streamId
    if streams.isEmpty then Nested.drop shares channelId sharer
    else Nested.put shares channelId sharer { active with streams := streams }

def subscriptionEnded (channelId streamId : String) (subscribers : List String) :
    List (ChatEvent × WsServerMessage) :=
  subscribers.map fun subscriber =>
    (.streamSubscriptionEnded subscriber channelId streamId, .streamSubscriptionEnded channelId streamId)

-- The body of `handle_screen_share_stop`, which `DELETE /screenshare/stop` repeats.
def stopStream (h : ScreenHub) (sharer channelId streamId : String) : ScreenHub :=
  let crossSubscribers :=
    ((Nested.get h.shares channelId sharer).map (·.crossChannelSubscribers.keys)).getD []
  sendChat { h with shares := removeStream h.shares channelId sharer streamId }
    ((.screenShareStopped channelId streamId sharer, .screenShareStopped channelId streamId sharer) ::
      subscriptionEnded channelId streamId crossSubscribers)

def handleScreenShareStop (h : ScreenHub) (cs : Conn) (channelId streamId : String) : ScreenHub :=
  stopStream h cs.publicKey channelId streamId

def screenshareStart (h : ScreenHub) (sharer channelId kind mime : String) (hasAudio : Bool)
    (streamId : String) (instant : Int) : ScreenHub × Except (Nat × String) String :=
  if (h.db.channels[channelId]?.all (·.isCategory)) then (h, .error (404, "Channel not found"))
  else if !mayShare h.db sharer channelId then (h, .error (403, "You cannot share into this channel"))
  else if h.httpVideoStreamBudget ≤ ((activeStreams h.shares).filter (·.2.2.viaHttp)).length then
    (h, .error (429, "Hub-wide video stream budget exceeded"))
  else
    let about : ScreenStreamMeta :=
      { kind := kind, mime := mime, hasAudio := hasAudio, sharerPubkey := sharer, viaHttp := true
        sessionId := "http", initChunk := none, startedAt := instant }
    (sendChat { h with shares := registerStream h.shares channelId sharer streamId about }
      (startedEvent channelId streamId about), .ok streamId)

def screenshareStop (h : ScreenHub) (sharer channelId streamId : String) : ScreenHub :=
  stopStream h sharer channelId streamId

def handleStreamList (h : ScreenHub) (cs : Conn) : List Frame :=
  [.message (.hubStreams (((activeStreams h.shares).filter (·.1 ∈ cs.subscribed)).map fun stream =>
    { channelId := stream.1, streamId := stream.2.1, sharerPubkey := stream.2.2.sharerPubkey
      kind := stream.2.2.kind, mime := stream.2.2.mime, hasAudio := stream.2.2.hasAudio }))]

-- The first share of the channel with a stream of that id; several sharers may have one.
def findStream (shares : Nested String String ActiveShare) (channelId streamId : String) :
    Option (String × ActiveShare) :=
  (shares[channelId]?.getD ∅).toList.find? fun entry => entry.2.streams.contains streamId

def mayView (h : ScreenHub) (cs : Conn) (channelId : String) : Bool :=
  let perms := channelPermissions h.db cs.publicKey channelId
  decide (channelId ∈ cs.subscribed) || perms.has MESSAGES_READ || perms.has VOICE_JOIN

def handleStreamSubscribe (h : ScreenHub) (cs : Conn) (sourceChannelId streamId : String) :
    ScreenHub × Conn × List Frame :=
  if !mayView h cs sourceChannelId then
    (h, cs, refuse "stream_subscribe" "Channel not found or access denied.")
  else
    match findStream h.shares sourceChannelId streamId with
    | none =>
      (h, cs, refuse "stream_subscribe" "No active stream with that ID in the specified channel.")
    | some (sharer, active) =>
      let opened := if cs.streamsOnRequest then
          { cs with openedStreams := insert (sourceChannelId, streamId) cs.openedStreams }
        else cs
      let shares := if cs.streamsOnRequest then h.shares
        else Nested.put h.shares sourceChannelId sharer { active with
          crossChannelSubscribers := active.crossChannelSubscribers.insert cs.publicKey () }
      let frames := match active.streams[streamId]? with
        | none => refuse "stream_subscribe" "No active stream with that ID in the specified channel."
        | some about =>
          .message (.streamSubscribed sourceChannelId streamId sharer about.kind about.mime
            about.hasAudio) :: initFrames sourceChannelId streamId about
      ({ h with shares := shares }, opened, frames)

def handleStreamUnsubscribe (h : ScreenHub) (cs : Conn) (sourceChannelId streamId : String) :
    ScreenHub × Conn :=
  if cs.streamsOnRequest then
    (h, { cs with openedStreams := cs.openedStreams.erase (sourceChannelId, streamId) })
  else
    match findStream h.shares sourceChannelId streamId with
    | none => (h, cs)
    | some (sharer, active) =>
      ({ h with shares := Nested.put h.shares sourceChannelId sharer { active with
          crossChannelSubscribers := active.crossChannelSubscribers.erase cs.publicKey } }, cs)

/-- One frame of the client, after the alliance visitors' allowlist. -/
def dispatchClientMsg (h : ScreenHub) (cs : Conn) (msg : WsClientMessage) (env : JoinEnv) :
    ScreenHub × Conn × List Frame :=
  if cs.allianceVoiceChannel.isSome && !visitorMaySend msg then (h, cs, [])
  else
    match msg with
    | .subscribe channelId => (h, handleSubscribe h cs channelId)
    | .unsubscribe channelId => (h, handleUnsubscribe cs channelId, [])
    | .voiceJoin channelId =>
      let outcome := handleVoiceJoin h.toHub cs.toConnState channelId env
      ({ h with toHub := outcome.hub }, { cs with toConnState := outcome.conn },
        outcome.replies.map .message)
    | .voiceWatch channelId =>
      let perms := channelPermissions h.db cs.publicKey channelId
      if perms.has VOICE_JOIN || perms.has MESSAGES_READ then
        (h, { cs with watchedVoiceChannel := some channelId }, [])
      else (h, cs, [])
    | .voiceUnwatch => (h, { cs with watchedVoiceChannel := none }, [])
    | .voiceLeave channelId =>
      let after := handleVoiceLeave h.toHub cs.toConnState channelId env.now
      ({ h with toHub := after.1 }, { cs with toConnState := after.2 }, [])
    | .voiceWhisperStart targets =>
      ({ h with toHub := handleVoiceWhisperStart h.toHub cs.toConnState targets }, cs, [])
    | .voiceWhisperStop => ({ h with toHub := handleVoiceWhisperStop h.toHub cs.toConnState }, cs, [])
    | .voiceWhisperOptout enabled =>
      ({ h with toHub := handleVoiceWhisperOptout h.toHub cs.toConnState enabled }, cs, [])
    | .voiceMove targetPubkey targetChannelId eventId =>
      let moved := handleVoiceMove h.toHub cs.publicKey targetPubkey targetChannelId eventId env.now
      ({ h with toHub := moved.1 }, cs, moved.2.map .message)
    | .screenShareStart channelId streamId kind mime hasAudio width height fps kbps =>
      let started := handleScreenShareStart h cs channelId streamId kind mime hasAudio width height fps
        kbps env.instant
      (started.1, cs, started.2)
    | .screenShareChunk channelId streamId seq isInit =>
      (h, handleScreenShareChunkHeader cs channelId streamId seq isInit, [])
    | .screenShareStop channelId streamId => (handleScreenShareStop h cs channelId streamId, cs, [])
    | .streamList => (h, cs, handleStreamList h cs)
    | .streamSubscribe sourceChannelId streamId => handleStreamSubscribe h cs sourceChannelId streamId
    | .streamUnsubscribe sourceChannelId streamId =>
      let after := handleStreamUnsubscribe h cs sourceChannelId streamId
      (after.1, after.2, [])
    -- These handlers change neither the shares nor any field of `Conn`; what they reply is left out.
    | .ping _ | .voiceSpeaking _ _ | .typing _ _ | .setStatus _ _ | .dmTyping _ _
    | .componentInteraction _ _ _ | .voiceZoneCreate _ _ | .voiceZoneDestroy _
    | .voicePositionUpdate _ | .videoEnable _ | .videoDisable _ | .videoOffer _ _ _
    | .videoAnswer _ _ _ | .videoIce _ _ _ | .voiceKeyOffer _ | .appAnnounce _ _ _
    | .botAppJoin _ _ | .appDismiss _ | .miniAppMessage _ _ _ _ | .resume _ => (h, cs, [])

-- `ChatEvent::channel_id`; the hub-wide events answer with the empty string.
def eventChannel : ChatEvent → String
  | .new channelId _ | .edited channelId | .deleted channelId | .reactionsUpdated channelId
  | .typing channelId _ | .screenShareStarted channelId _ _ _ _ _ | .screenShareStopped channelId _ _
  | .forum channelId | .voiceZone channelId | .video channelId | .poll channelId
  | .messagePinned channelId | .messageUnpinned channelId | .whisperSignal channelId _
  | .appModal channelId | .soundboard channelId => channelId
  | .streamSubscriptionEnded _ sourceChannelId _ => sourceChannelId
  | .channelsUpdated | .hubUpdated | .memberOnline _ | .memberOffline _ | .memberUpdated _
  | .memberStatus _ | .webhookDisabled _ | .voiceMove _ => ""

def isHubWide : ChatEvent → Bool
  | .channelsUpdated | .hubUpdated | .memberOnline _ | .memberOffline _ | .memberUpdated _
  | .memberStatus _ | .webhookDisabled _ | .voiceMove _ => true
  | _ => false

-- The filters on the recipient; `target` is the `to_pubkey` of the event's payload, if it has one.
def addressedTo (publicKey : String) (target : Option String) : ChatEvent → Bool
  | .typing _ sender => sender ≠ publicKey
  | .new _ (some visibleTo) => visibleTo = publicKey
  | .streamSubscriptionEnded toPubkey _ _ => toPubkey = publicKey
  | .video _ => target.all (· = publicKey)
  | .whisperSignal _ toPubkeys => publicKey ∈ toPubkeys
  | .voiceMove toPubkey => toPubkey = publicKey
  | _ => true

def receiveChat (cs : Conn) (event : ChatEvent) (target : Option String) : Conn × List Frame :=
  if isHubWide event then
    (cs, if addressedTo cs.publicKey target event then [.chat event] else [])
  else if eventChannel event ∉ cs.subscribed ∨ !addressedTo cs.publicKey target event then (cs, [])
  else
    match event with
    | .screenShareStarted channelId streamId _ _ _ _ =>
      -- The relay of a chunk may have announced the stream already.
      if (channelId, streamId) ∈ cs.notifiedStreams then (cs, [])
      else
        ({ cs with notifiedStreams := insert (channelId, streamId) cs.notifiedStreams }, [.chat event])
    | _ => (cs, [.chat event])

namespace DmEvent

def conversationId : DmEvent → String
  | .message conversationId _ _ | .typing conversationId _ _ | .memberChanged conversationId _ _ _ =>
    conversationId

def sender : DmEvent → String
  | .message _ sender _ | .typing _ sender _ => sender
  | .memberChanged _ actor _ _ => actor

def suppressEcho : DmEvent → Bool
  | .message _ _ _ | .typing _ _ _ => true
  | .memberChanged _ _ _ _ => false

def adds (publicKey : String) : DmEvent → Bool
  | .memberChanged _ _ added _ => added.contains publicKey
  | _ => false

def removes (publicKey : String) : DmEvent → Bool
  | .memberChanged _ _ _ removed => removed.contains publicKey
  | _ => false

end DmEvent

def receiveDm (cs : Conn) (dm : DmEvent) : Conn × List Frame :=
  let joined := if dm.adds cs.publicKey then
      { cs with myConversations := insert dm.conversationId cs.myConversations }
    else cs
  if (dm.suppressEcho && dm.sender = cs.publicKey) ∨ dm.conversationId ∉ joined.myConversations then
    (joined, [])
  else
    -- A removed member still gets its last event.
    let left := if dm.removes cs.publicKey then
        { joined with myConversations := joined.myConversations.erase dm.conversationId }
      else joined
    (left, [.dm dm])

def receiveVoice (cs : Conn) (channelId : String) (msg : WsServerMessage) : List Frame :=
  let isSelf := match msg with
    | .voiceParticipantSpeaking _ pk _ => pk == cs.publicKey
    | .voiceParticipantJoined _ participant => participant.publicKey == cs.publicKey
    | .voiceParticipantLeft _ pk => pk == cs.publicKey
    | _ => false
  let isRosterEvent := match msg with
    | .voiceParticipantJoined _ _ | .voiceParticipantLeft _ _ => true
    | _ => false
  let inSameChannel := cs.voiceChannel == some channelId || cs.watchedVoiceChannel == some channelId
  if isRosterEvent || (inSameChannel && !isSelf) then [.message msg] else []

def streamOf (shares : Nested String String ActiveShare) (channelId sharer streamId : String) :
    Option ScreenStreamMeta :=
  (Nested.get shares channelId sharer).bind (·.streams[streamId]?)

def delivers (h : ScreenHub) (cs : Conn) (ev : ScreenChunkEvent) : Bool :=
  let inChannel := ev.sharerPubkey ≠ cs.publicKey ∧ ev.channelId ∈ cs.subscribed
  let isCrossSubscriber := (Nested.get h.shares ev.channelId ev.sharerPubkey).any
    fun active => active.crossChannelSubscribers.contains cs.publicKey
  if cs.streamsOnRequest then
    decide (ev.sharerPubkey ≠ cs.publicKey ∧ (ev.channelId, ev.streamId) ∈ cs.openedStreams)
  else decide inChannel || isCrossSubscriber

def relayChunk (h : ScreenHub) (cs : Conn) (ev : ScreenChunkEvent) : Conn × List Frame :=
  if delivers h cs ev then
    let chunk := chunkFrames ev.channelId ev.streamId ev.sharerPubkey ev.seq ev.isInit ev.data
    if (ev.channelId, ev.streamId) ∈ cs.notifiedStreams then (cs, chunk)
    else
      match streamOf h.shares ev.channelId ev.sharerPubkey ev.streamId with
      | none => (cs, chunk)
      | some about =>
        ({ cs with notifiedStreams := insert (ev.channelId, ev.streamId) cs.notifiedStreams },
          .message (.screenShareStarted ev.channelId ev.streamId about.sharerPubkey about.kind about.mime
            about.hasAudio) :: chunk)
  else (cs, [])

/-- What a socket is opened with; `conversations` are the rows of the membership query. -/
structure Opening where
  publicKey : String
  sessionId : String
  miniAppChannelId : Option String := none
  allianceVoiceChannel : Option String := none
  streamsOnRequest : Bool := false
  conversations : Finset String := ∅
  chatRxSince : Int := 0

def autoSubscribed (db : Db) (opening : Opening) : Finset String :=
  (db.channels.keys.filter fun id =>
    db.channels[id]?.any (!·.isCategory) && decide ((id, opening.publicKey) ∉ db.channelBans) &&
      decide (id ∈ channelsWithPermission db opening.publicKey MESSAGES_READ) &&
      opening.miniAppChannelId.all (· == id)).toFinset

def handleSocket (h : ScreenHub) (opening : Opening) : Conn × List Frame :=
  let cs : Conn :=
    { publicKey := opening.publicKey
      isMiniApp := opening.miniAppChannelId.isSome
      allianceVoiceChannel := opening.allianceVoiceChannel
      sessionId := opening.sessionId
      subscribed := autoSubscribed h.db opening
      streamsOnRequest := opening.streamsOnRequest
      myConversations := if opening.miniAppChannelId.isSome then ∅ else opening.conversations }
  pushShares cs ((activeStreams h.shares).filter fun stream =>
    stream.1 ∈ cs.subscribed ∧ stream.2.2.startedAt < opening.chatRxSince)

-- One entry of the shares when a session ends: its own streams go, and its subscription elsewhere.
def endSession (publicKey sessionId sharer : String) (active : ActiveShare) : Option ActiveShare :=
  let kept := if sharer = publicKey then active.streams.filter fun _ about => about.sessionId ≠ sessionId
    else active.streams
  if sharer = publicKey ∧ kept.isEmpty then none
  else some { streams := kept
              crossChannelSubscribers := active.crossChannelSubscribers.erase publicKey }

def endedWithSubs (shares : Nested String String ActiveShare) (publicKey sessionId : String) :
    List (ChatEvent × WsServerMessage) :=
  shares.toList.flatMap fun channel =>
    match channel.2[publicKey]? with
    | none => []
    | some active =>
      (active.streams.toList.filter fun stream => stream.2.sessionId = sessionId).flatMap fun stream =>
        subscriptionEnded channel.1 stream.1 active.crossChannelSubscribers.keys

def closeSocket (h : ScreenHub) (cs : Conn) (now : Int) : ScreenHub :=
  let left := { h with toHub := handleDisconnect h.toHub cs.toConnState now }
  sendChat { left with shares := left.shares.map fun _ sharers =>
      sharers.filterMap (endSession cs.publicKey cs.sessionId) }
    (endedWithSubs h.shares cs.publicKey cs.sessionId)

end Wavvon.Socket
