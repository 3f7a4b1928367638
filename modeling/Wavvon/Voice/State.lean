import Wavvon.Hub.Permissions
import Wavvon.Shared.Tables

set_option autoImplicit false

namespace Wavvon

open Tables

abbrev Connection := Nat

structure PendingVoiceBind where
  channelId : String
  pubkey : String
  expiresAt : Int
  deriving DecidableEq, Repr

structure SenderLoss where
  highestCtr : UInt64
  firstCtr : UInt64
  received : UInt64
  deriving DecidableEq, Repr

structure VoiceZone where
  channelId : String
  zoneId : String
  name : String
  positions : Finset String
  deriving DecidableEq

/-- The pubkey-keyed voice tables of `AppState`, each behind its own lock in the source. -/
structure VoiceState where
  voiceChannels : Nested String String (Option Connection) := ∅
  voiceSenderIds : Nested String String UInt16 := ∅
  voiceNextSenderId : Table UInt16 := ∅
  voiceRelayActive : Finset String := ∅
  voiceTalkBlocked : Finset String := ∅
  voiceLastActive : Table Int := ∅
  voicePendingBinds : Table PendingVoiceBind := ∅
  voiceOutboundLoss : Table SenderLoss := ∅
  stagingVoiceGrants : Nested String String Unit := ∅
  voiceZones : List VoiceZone := []
  videoChannels : Nested String String Unit := ∅

inductive TargetType where
  | user
  | channel
  | role
  | other
  deriving DecidableEq, Repr

structure WhisperTargetDef where
  targetType : TargetType
  id : String
  deriving DecidableEq, Repr

structure WhisperState where
  targetDefs : Table (List WhisperTargetDef) := ∅
  targetPubkeys : Table (Finset String) := ∅
  optouts : Finset String := ∅

structure VoiceParticipantInfo where
  publicKey : String
  displayName : Option String
  senderId : Option UInt16
  visitingFrom : Option String
  deriving DecidableEq, Repr

structure VoiceRosterEntry where
  senderId : UInt16
  publicKey : String
  displayName : Option String
  deriving DecidableEq, Repr

structure VoiceMove where
  targetChannelId : String
  targetChannelName : String
  sourceChannelId : Option String
  eventId : Option String
  auto : Bool
  deriving DecidableEq, Repr

structure HubStreamInfo where
  channelId : String
  streamId : String
  sharerPubkey : String
  kind : String
  mime : String
  hasAudio : Bool
  deriving DecidableEq, Repr

inductive WsServerMessage where
  | error (context message : String)
  | voiceJoined (channelId : String) (senderId : UInt16) (participants : List VoiceParticipantInfo)
      (voiceToken voiceWtUrl : String) (voiceCertHash : Option String) (maySpeak : Bool)
  | voiceParticipantJoined (channelId : String) (participant : VoiceParticipantInfo)
  | voiceParticipantLeft (channelId publicKey : String)
  | voiceParticipantSpeaking (channelId publicKey : String) (speaking : Bool)
  | voiceRosterUpdate (channelId : String) (participants : List VoiceRosterEntry)
  | voiceKeyRequest (channelId : String) (newSenderId : UInt16) (newPubkey : String)
  | voiceZoneState (channelId : String) (zones : List VoiceZone)
  | videoParticipants (channelId : String) (pubkeys : List String)
  | videoParticipantDisabled (channelId pubkey : String)
  | voiceWhisperStarted (senderPubkey : String)
  | voiceWhisperStopped (senderPubkey : String)
  | voiceMove (move : VoiceMove)
  | channelsUpdated
  | screenShareStarted (channelId streamId sharerPubkey kind mime : String) (hasAudio : Bool)
  | screenShareStopped (channelId streamId sharerPubkey : String)
  | screenShareChunkOut (channelId streamId sharerPubkey : String) (seq : UInt32) (isInit : Bool)
  | hubStreams (streams : List HubStreamInfo)
  | streamSubscribed (sourceChannelId streamId sharerPubkey kind mime : String) (hasAudio : Bool)
  | streamSubscriptionEnded (sourceChannelId streamId : String)
  | lagged (count : Nat)
  deriving DecidableEq

inductive ChatEvent where
  | channelsUpdated
  | video (channelId : String)
  | whisperSignal (channelId : String) (toPubkeys : Finset String)
  | voiceMove (toPubkey : String)
  | new (channelId : String) (visibleToPubkey : Option String)
  | edited (channelId : String)
  | deleted (channelId : String)
  | reactionsUpdated (channelId : String)
  | typing (channelId publicKey : String)
  | screenShareStarted (channelId streamId sharerPubkey kind mime : String) (hasAudio : Bool)
  | screenShareStopped (channelId streamId sharerPubkey : String)
  | streamSubscriptionEnded (toPubkey sourceChannelId streamId : String)
  | forum (channelId : String)
  | voiceZone (channelId : String)
  | poll (channelId : String)
  | messagePinned (channelId : String)
  | messageUnpinned (channelId : String)
  | appModal (channelId : String)
  | soundboard (channelId : String)
  | hubUpdated
  | memberOnline (publicKey : String)
  | memberOffline (publicKey : String)
  | memberUpdated (publicKey : String)
  | memberStatus (publicKey : String)
  | webhookDisabled (webhookId : String)
  deriving DecidableEq

/-- Everything the hub has sent so far, and the WebTransport sessions it has closed. -/
structure Outbox where
  chatTx : List (ChatEvent × WsServerMessage) := []
  voiceEventTx : List (String × WsServerMessage) := []
  userTx : List (String × WsServerMessage) := []
  closed : List Connection := []

structure VoiceConfig where
  voiceWtUrl : Option String := none
  voiceUdpPort : Nat := 0
  voiceCertHash : Option String := none
  deriving DecidableEq, Repr

structure Hub where
  db : Db := {}
  voice : VoiceState := {}
  whisper : WhisperState := {}
  outbox : Outbox := {}
  config : VoiceConfig := {}

namespace VoiceState

def slot (v : VoiceState) (channelId publicKey : String) : Option (Option Connection) :=
  Nested.get v.voiceChannels channelId publicKey

def inRoster (v : VoiceState) (channelId publicKey : String) : Prop :=
  (v.slot channelId publicKey).isSome

instance (v : VoiceState) (channelId publicKey : String) : Decidable (v.inRoster channelId publicKey) :=
  inferInstanceAs (Decidable (_ = true))

def senderId (v : VoiceState) (channelId publicKey : String) : Option UInt16 :=
  Nested.get v.voiceSenderIds channelId publicKey

def granted (v : VoiceState) (publicKey channelId : String) : Bool :=
  (Nested.get v.stagingVoiceGrants publicKey channelId).isSome

def participants (v : VoiceState) (channelId : String) : List String :=
  (v.voiceChannels[channelId]?.getD ∅).keys

def channelsOf (v : VoiceState) (publicKey : String) : List String :=
  (v.voiceChannels.toList.filter fun entry => entry.2.contains publicKey).map Prod.fst

def occupied (v : VoiceState) (channelId : String) : Prop :=
  ∃ publicKey, v.inRoster channelId publicKey

@[simp] theorem not_inRoster_empty (channelId publicKey : String) :
    ¬ ({} : VoiceState).inRoster channelId publicKey := by
  simp [inRoster, slot]

theorem mem_channelsOf (v : VoiceState) (channelId publicKey : String) :
    channelId ∈ v.channelsOf publicKey ↔ v.inRoster channelId publicKey := by
  simp only [channelsOf, List.mem_map, List.mem_filter, Prod.exists, inRoster, slot, Nested.get]
  constructor
  · rintro ⟨id, inner, ⟨listed, held⟩, rfl⟩
    have found := Std.ExtTreeMap.mem_toList_iff_getElem?_eq_some.mp listed
    simpa [found] using held
  · intro held
    cases found : v.voiceChannels[channelId]? with
    | none => simp [found] at held
    | some inner =>
      refine ⟨channelId, inner, ⟨Std.ExtTreeMap.mem_toList_iff_getElem?_eq_some.mpr found, ?_⟩, rfl⟩
      simpa [found] using held

end VoiceState

def sendWhisperNotification (outbox : Outbox) (senderPubkey channelId : String) (started : Bool)
    (pubkeys : Finset String) : Outbox :=
  if pubkeys = ∅ then outbox
  else
    let reply := if started then WsServerMessage.voiceWhisperStarted senderPubkey
      else .voiceWhisperStopped senderPubkey
    { outbox with chatTx := outbox.chatTx ++ [(.whisperSignal channelId pubkeys, reply)] }

-- Everyone present in some voice room who holds the role.
def resolveRolePubkeys (h : Hub) (roleId : String) : Finset String :=
  ((h.voice.voiceChannels.toList.flatMap fun entry => entry.2.keys).filter
    fun pk => memberRole h.db pk roleId).toFinset

def resolveWhisperTarget (h : Hub) (target : WhisperTargetDef) : Finset String :=
  match target.targetType with
  | .user => {target.id}
  | .channel => (h.voice.participants target.id).toFinset
  | .role => resolveRolePubkeys h target.id
  | .other => ∅

def resolveWhisperTargetPubkeys (h : Hub) (targets : List WhisperTargetDef) (excludePubkey : String) :
    Finset String :=
  ((targets.foldl (fun pks target => pks ∪ resolveWhisperTarget h target) ∅).filter
    (· ∉ h.whisper.optouts)).erase excludePubkey

def reResolveSession (h : Hub) (session : String × List WhisperTargetDef) : Hub :=
  match (h.voice.channelsOf session.1).head? with
  | none => h
  | some channelId =>
    let newPks := resolveWhisperTargetPubkeys h session.2 session.1
    let oldPks := h.whisper.targetPubkeys[session.1]?.getD ∅
    let told := sendWhisperNotification h.outbox session.1 channelId true (newPks \ oldPks)
    { h with
      whisper := { h.whisper with targetPubkeys := h.whisper.targetPubkeys.insert session.1 newPks }
      outbox := sendWhisperNotification told session.1 channelId false (oldPks \ newPks) }

def reResolveWhisperSessions (h : Hub) : Hub :=
  h.whisper.targetDefs.toList.foldl reResolveSession h

theorem reResolveSession_frame (h : Hub) (session : String × List WhisperTargetDef) :
    (reResolveSession h session).db = h.db ∧ (reResolveSession h session).voice = h.voice := by
  unfold reResolveSession
  split <;> exact ⟨rfl, rfl⟩

-- Re-resolution only moves whisper target sets; rosters and the database are read.
theorem reResolve_frame (h : Hub) :
    (reResolveWhisperSessions h).db = h.db ∧ (reResolveWhisperSessions h).voice = h.voice := by
  unfold reResolveWhisperSessions
  generalize h.whisper.targetDefs.toList = sessions
  induction sessions generalizing h with
  | nil => exact ⟨rfl, rfl⟩
  | cons session rest ih =>
    have later := ih (reResolveSession h session)
    have first := reResolveSession_frame h session
    exact ⟨later.1.trans first.1, later.2.trans first.2⟩

@[simp] theorem reResolve_db (h : Hub) : (reResolveWhisperSessions h).db = h.db :=
  (reResolve_frame h).1

@[simp] theorem reResolve_voice (h : Hub) : (reResolveWhisperSessions h).voice = h.voice :=
  (reResolve_frame h).2

def invisibleSubset (db : Db) (keys : List String) : List String :=
  keys.filter db.isInvisible

def getVoiceParticipants (h : Hub) (channelId : String) (viewer : Option String) :
    List VoiceParticipantInfo :=
  let keys := h.voice.participants channelId
  let invisible := invisibleSubset h.db keys
  (keys.filter fun pk => some pk = viewer ∨ pk ∉ invisible).map fun pk =>
    let identity := h.db.voiceIdentity pk
    { publicKey := pk
      displayName := identity.1
      senderId := h.voice.senderId channelId pk
      visitingFrom := identity.2 }

def getVoiceRoster (db : Db) (v : VoiceState) (channelId : String) : List VoiceRosterEntry :=
  let entries := (v.voiceSenderIds[channelId]?.getD ∅).toList
  let invisible := invisibleSubset db (entries.map Prod.fst)
  (entries.filter fun entry => entry.1 ∉ invisible).map fun entry =>
    { senderId := entry.2, publicKey := entry.1, displayName := db.displayName entry.1 }

def CTR_OFFSET : Nat := 4
def CTR_LEN : Nat := 8

def readCtr (payload : List UInt8) : Option UInt64 :=
  let bytes := (payload.drop CTR_OFFSET).take CTR_LEN
  if bytes.length = CTR_LEN then
    some (UInt64.ofNat (bytes.foldl (fun value byte => value * 256 + byte.toNat) 0))
  else none

def track (prev : Option SenderLoss) (ctr : UInt64) : SenderLoss :=
  match prev with
  | none => { highestCtr := ctr, firstCtr := ctr, received := 1 }
  | some p =>
    { highestCtr := max p.highestCtr ctr, firstCtr := min p.firstCtr ctr, received := p.received + 1 }

def idBytes (id : UInt16) : List UInt8 := [UInt8.ofNat (id.toNat / 256), UInt8.ofNat id.toNat]

structure Relayed where
  bytes : List UInt8
  recipients : List Connection

def Relayed.namedId (datagram : Relayed) : UInt16 :=
  match datagram.bytes with
  | high :: low :: _ => UInt16.ofNat (high.toNat * 256 + low.toNat)
  | _ => 0

def relayDatagram (h : Hub) (channelId senderPk : String) (payload : List UInt8) :
    Hub × Option Relayed :=
  if senderPk ∉ h.voice.voiceRelayActive then (h, none)
  else if senderPk ∈ h.voice.voiceTalkBlocked then (h, none)
  else
    let losses := match readCtr payload with
      | none => h.voice.voiceOutboundLoss
      | some ctr => h.voice.voiceOutboundLoss.insert senderPk
          (track h.voice.voiceOutboundLoss[senderPk]? ctr)
    let after := { h with voice := { h.voice with voiceOutboundLoss := losses } }
    let targets := h.whisper.targetPubkeys[senderPk]?
    let packetType : UInt8 := if targets.isSome then 1 else 0
    let outbound := idBytes ((h.voice.senderId channelId senderPk).getD 0) ++ packetType :: payload
    match h.voice.voiceChannels[channelId]? with
    | none => (after, none)
    | some participants =>
      let hears (pk : String) : Bool := match targets with
        | some pubkeys => decide (pk ∈ pubkeys)
        | none => pk ≠ senderPk
      let reached := participants.toList.filter fun entry => hears entry.1
      (after, some { bytes := outbound, recipients := reached.filterMap Prod.snd })

end Wavvon
