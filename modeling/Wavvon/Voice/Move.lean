import Wavvon.Voice.State

set_option autoImplicit false

namespace Wavvon

open Tables

namespace VoiceState

def withGrants (v : VoiceState) (grants : Nested String String Unit) : VoiceState :=
  { v with stagingVoiceGrants := grants }

variable (v : VoiceState) (grants : Nested String String Unit)

@[simp] theorem slot_withGrants (c pk : String) : (v.withGrants grants).slot c pk = v.slot c pk := rfl
@[simp] theorem senderId_withGrants (c pk : String) :
    (v.withGrants grants).senderId c pk = v.senderId c pk := rfl
@[simp] theorem relay_withGrants : (v.withGrants grants).voiceRelayActive = v.voiceRelayActive := rfl
@[simp] theorem nextId_withGrants : (v.withGrants grants).voiceNextSenderId = v.voiceNextSenderId := rfl

end VoiceState

def grantPresence (v : VoiceState) (publicKey channelId : String) : VoiceState :=
  v.withGrants (Nested.put v.stagingVoiceGrants publicKey channelId ())

def sendVoiceMove (h : Hub) (toPubkey : String) (move : VoiceMove) : Hub :=
  { h with outbox := { h.outbox with
      chatTx := h.outbox.chatTx ++ [(.voiceMove toPubkey, .voiceMove move)] } }

def pushEventMove (h : Hub) (pubkey eventId targetChannelId sourceChannelId assignedBy : String) : Hub :=
  if (channelPermissions h.db assignedBy targetChannelId).has VOICE_MOVE_MEMBERS then
    match h.db.channels[targetChannelId]? with
    | none => h
    | some row =>
      if row.isCategory then h
      else
        let voice := if (channelPermissions h.db pubkey targetChannelId).has MESSAGES_READ then h.voice
          else grantPresence h.voice pubkey targetChannelId
        sendVoiceMove { h with voice := voice } pubkey
          { targetChannelId := targetChannelId
            targetChannelName := row.name
            sourceChannelId := some sourceChannelId
            eventId := some eventId
            auto := h.db.isGoing eventId pubkey }
  else h

-- `ORDER BY created_at DESC LIMIT 1`.
def latestAssignment (rows : List MoveAssignment) : Option MoveAssignment :=
  rows.foldl (fun best row =>
    match best with
    | none => some row
    | some held => if held.createdAt < row.createdAt then some row else some held) none

def pendingAssignment (db : Db) (pubkey joinedChannelId : String) (now : Int) : Option MoveAssignment :=
  latestAssignment (db.eventMoveAssignments.filter fun row =>
    row.userPubkey = pubkey ∧ row.targetChannelId ≠ joinedChannelId ∧
      (db.hubEvents[row.eventId]?).any fun event => event.endsAt.all (now < ·))

def applyPendingVoiceMoveAssignment (h : Hub) (pubkey joinedChannelId : String) (now : Int) : Hub :=
  match pendingAssignment h.db pubkey joinedChannelId now with
  | none => h
  | some row =>
    pushEventMove h pubkey row.eventId row.targetChannelId joinedChannelId row.assignedBy

def queueAssignment (db : Db) (row : MoveAssignment) : Except String Db :=
  if row.eventId ∈ db.hubEvents then
    .ok { db with
      eventMoveAssignments := (db.eventMoveAssignments.filter fun old =>
        ¬(old.eventId = row.eventId ∧ old.userPubkey = row.userPubkey)) ++ [row] }
  else
    .error (foreignKeyViolation "event_move_assignments" "event_move_assignments_event_id_fkey")

def voiceMoveError (message : String) : List WsServerMessage :=
  [.error "voice_move" message]

def handleVoiceMove (h : Hub) (mover targetPubkey targetChannelId : String) (eventId : Option String)
    (now : Int) : Hub × List WsServerMessage :=
  if !(channelPermissions h.db mover targetChannelId).has VOICE_MOVE_MEMBERS then
    (h, voiceMoveError "You do not have permission to move members into this channel.")
  else
    match h.db.channels[targetChannelId]? with
    | none => (h, voiceMoveError "Target is not a voice channel.")
    | some row =>
      if row.channelType ≠ .voice then (h, voiceMoveError "Target is not a voice channel.")
      else
        match (h.voice.channelsOf targetPubkey).head?, eventId with
        | none, none => (h, voiceMoveError "Target is not currently in voice.")
        | none, some event =>
          let assignment := { eventId := event, userPubkey := targetPubkey
                              targetChannelId := targetChannelId, assignedBy := mover, createdAt := now }
          match queueAssignment h.db assignment with
          | .error e => (h, voiceMoveError ("Unable to queue assignment: " ++ e))
          | .ok db => ({ h with db := db }, [])
        | some sourceChannelId, _ =>
          let voice := if (channelPermissions h.db targetPubkey targetChannelId).has VOICE_JOIN
            then h.voice else grantPresence h.voice targetPubkey targetChannelId
          (sendVoiceMove { h with voice := voice } targetPubkey
            { targetChannelId := targetChannelId
              targetChannelName := row.name
              sourceChannelId := some sourceChannelId
              eventId := eventId
              auto := eventId.any fun event => h.db.isGoing event targetPubkey }, [])

def DEFAULT_AFK_TIMEOUT_SECS : Int := 300

def afkChannelId (db : Db) : Option String :=
  (db.readSetting "afk_channel_id").filter (· ≠ "")

def afkTimeoutSecs (db : Db) : Int :=
  ((db.readSetting "afk_timeout_secs").bind parseI64).getD DEFAULT_AFK_TIMEOUT_SECS

def afkCandidates (h : Hub) (afkChannel : String) (now : Int) : List (String × String) :=
  let outside := h.voice.voiceChannels.toList.filter fun entry => entry.1 ≠ afkChannel
  (outside.flatMap fun entry => entry.2.keys.map fun pk => (entry.1, pk)).filter fun candidate =>
    (h.voice.voiceLastActive[candidate.2]?).any fun last => afkTimeoutSecs h.db ≤ now - last

-- One pass of the sweep's loop: the push, and the stamp that spaces out the next one.
def sweepCandidate (afkChannel afkName : String) (now : Int) (h : Hub) (candidate : String × String) :
    Hub :=
  if (channelPermissions h.db candidate.2 afkChannel).has VOICE_JOIN then
    let pushed := sendVoiceMove h candidate.2
      { targetChannelId := afkChannel
        targetChannelName := afkName
        sourceChannelId := some candidate.1
        eventId := none
        auto := true }
    { pushed with voice := { pushed.voice with
        voiceLastActive := pushed.voice.voiceLastActive.insert candidate.2 now } }
  else h

-- Where the sweep moves people, when it is enabled: the channel and its name.
def afkDestination (db : Db) : Option (String × String) :=
  match afkChannelId db with
  | none => none
  | some channelId =>
    match db.channels[channelId]? with
    | none => none
    | some row => if row.isCategory then none else some (channelId, row.name)

def runSweep (h : Hub) (now : Int) : Hub :=
  match afkDestination h.db with
  | none => h
  | some destination =>
    (afkCandidates h destination.1 now).foldl (sweepCandidate destination.1 destination.2 now) h

theorem pushEventMove_frame (h : Hub) (pubkey eventId target source assignedBy : String) :
    (pushEventMove h pubkey eventId target source assignedBy).db = h.db ∧
      ∃ grants, (pushEventMove h pubkey eventId target source assignedBy).voice =
        h.voice.withGrants grants := by
  have same : ∃ grants, h.voice = h.voice.withGrants grants := ⟨_, rfl⟩
  unfold pushEventMove
  split
  next =>
    split
    next => exact ⟨rfl, same⟩
    next row found =>
      split
      next => exact ⟨rfl, same⟩
      next =>
        refine ⟨rfl, ?_⟩
        dsimp only [sendVoiceMove]
        split
        next => exact same
        next => exact ⟨_, rfl⟩
  next => exact ⟨rfl, same⟩

-- A queued move changes nothing of the voice state but the presence grants.
theorem applyPending_frame (h : Hub) (pubkey joined : String) (now : Int) :
    (applyPendingVoiceMoveAssignment h pubkey joined now).db = h.db ∧
      ∃ grants, (applyPendingVoiceMoveAssignment h pubkey joined now).voice =
        h.voice.withGrants grants := by
  unfold applyPendingVoiceMoveAssignment
  split
  next => exact ⟨rfl, _, rfl⟩
  next row _ => exact pushEventMove_frame h pubkey row.eventId row.targetChannelId joined row.assignedBy

end Wavvon
