import Wavvon.Voice.Leave
import Wavvon.Voice.Move

set_option autoImplicit false

namespace Wavvon

open Tables
open Std (ExtTreeMap)

structure ConnState where
  publicKey : String
  isMiniApp : Bool := false
  allianceVoiceChannel : Option String := none
  voiceChannel : Option String := none
  deriving DecidableEq, Repr

/-- What a join takes from outside: wall clock, monotonic clock, random token, fresh room ids. -/
structure JoinEnv where
  now : Int
  instant : Int
  token : String
  roomIds : Nat → String

def replaceUser (label : List Char) : List Char → List Char
  | '\x7b' :: 'u' :: 's' :: 'e' :: 'r' :: '\x7d' :: rest => label ++ replaceUser label rest
  | c :: rest => c :: replaceUser label rest
  | [] => []

def roomName (template displayName : Option String) (joinerPubkey : String) : String :=
  let pattern := template.getD "\x7buser\x7d's room"
  let fallback := String.ofList (joinerPubkey.toList.take 8)
  let label := ((displayName.map trim).filter (· ≠ "")).getD fallback
  String.ofList (replaceUser label.toList pattern.toList)

inductive InsertError where
  | uniqueViolation
  | other (text : String)

def insertChannel (db : Db) (id : String) (row : Channel) : Except InsertError Db :=
  if id ∈ db.channels ∨ db.channels.toList.any (·.2.name == row.name) then .error .uniqueViolation
  else if row.createdBy ∈ db.users then .ok { db with channels := db.channels.insert id row }
  else
    .error (.other (foreignKeyViolation "channels" "channels_created_by_fkey"))

-- The insert loop: a name or id that is taken is retried under the next numbered name.
def allocateRoom (db : Db) (baseName : String) (row : Channel) (roomIds : Nat → String) :
    Nat → Nat → Except String (String × Db)
  | 0, _ => .error "Could not allocate a unique room name"
  | tries + 1, attempt =>
    let name := if attempt = 0 then baseName else baseName ++ " " ++ toString (attempt + 1)
    match insertChannel db (roomIds attempt) { row with name := name } with
    | .ok inserted => .ok (roomIds attempt, inserted)
    | .error (.other text) => .error ("DB error: " ++ text)
    | .error .uniqueViolation => allocateRoom db baseName row roomIds tries (attempt + 1)

theorem allocateRoom_fresh (db : Db) (baseName : String) (row : Channel) (roomIds : Nat → String)
    (tries attempt : Nat) (id : String) (inserted : Db)
    (done : allocateRoom db baseName row roomIds tries attempt = .ok (id, inserted)) :
    id ∉ db.channels ∧
      ∃ name, inserted = { db with channels := db.channels.insert id { row with name := name } } := by
  induction tries generalizing attempt with
  | zero => simp [allocateRoom] at done
  | succ tries ih =>
    simp only [allocateRoom, insertChannel] at done
    by_cases taken : roomIds attempt ∈ db.channels
    next => exact ih (attempt + 1) (by simpa [taken] using done)
    next => grind

def makeRoomAfter (db : Db) (parentId : Option String) (order : Int) : Db :=
  { db with channels := db.channels.map fun _ row =>
      if row.parentId = parentId ∧ order < row.displayOrder
      then { row with displayOrder := row.displayOrder + 1 } else row }

theorem room_makeRoomAfter (db : Db) (parentId : Option String) (order : Int) (channelId : String) :
    (makeRoomAfter db parentId order).room channelId = db.room channelId := by
  simp only [Db.room, makeRoomAfter, ExtTreeMap.getElem?_map, Option.map_map]
  cases db.channels[channelId]? with
  | none => rfl
  | some row =>
    simp only [Option.map_some, Function.comp_apply]
    split <;> rfl

def spawnTempChannel (db : Db) (spawnerId joinerPubkey : String) (joinerDisplayName : Option String)
    (env : JoinEnv) : Db × Except String String :=
  match db.channels[spawnerId]? with
  | none => (db, .error "Spawner channel not found")
  | some spawner =>
    if spawner.channelType ≠ .spawner then (db, .error "Channel is not a spawner")
    else
      let shifted := makeRoomAfter db spawner.parentId spawner.displayOrder
      let base := roomName spawner.spawnerNameTemplate joinerDisplayName joinerPubkey
      let row : Channel :=
        { name := base, createdBy := joinerPubkey, parentId := spawner.parentId
          displayOrder := spawner.displayOrder + 1, channelType := .voice, createdAt := env.now
          isTemporary := true, ownerPubkey := some joinerPubkey }
      match allocateRoom shifted base row env.roomIds 51 0 with
      | .error message => (shifted, .error message)
      | .ok (id, inserted) => (inserted, .ok id)

-- A spawned room is new, is a temporary voice room, and disturbs no other room.
theorem spawnTempChannel_room (db : Db) (spawnerId joinerPubkey : String) (displayName : Option String)
    (env : JoinEnv) (id : String)
    (spawned : (spawnTempChannel db spawnerId joinerPubkey displayName env).2 = .ok id) :
    db.room id = none ∧ ∀ channelId,
      (spawnTempChannel db spawnerId joinerPubkey displayName env).1.room channelId =
        if channelId = id then some { channelType := .voice, isTemporary := true, emptySince := none }
        else db.room channelId := by
  unfold spawnTempChannel at spawned ⊢
  cases found : db.channels[spawnerId]? with
  | none => simp [found] at spawned
  | some spawner =>
    simp only [found] at spawned ⊢
    split at spawned
    next => cases spawned
    next isSpawner =>
      rw [if_neg isSpawner]
      split at spawned
      next => cases spawned
      next id' inserted allocated =>
        cases spawned
        obtain ⟨fresh, name, rfl⟩ := allocateRoom_fresh _ _ _ _ _ _ _ _ allocated
        have unshifted := room_makeRoomAfter db spawner.parentId spawner.displayOrder
        have absent : db.room id = none := by
          rw [← unshifted id]
          simp [Db.room, fresh]
        refine ⟨absent, ?_⟩
        intro channelId
        by_cases same : channelId = id
        next => simp [Db.room, same]
        next =>
          rw [if_neg same, ← unshifted channelId]
          simp [Db.room, ExtTreeMap.getElem?_insert, Ne.symm same]

theorem spawnTempChannel_failed (db : Db) (spawnerId joinerPubkey : String)
    (displayName : Option String) (env : JoinEnv) (message channelId : String)
    (failed : (spawnTempChannel db spawnerId joinerPubkey displayName env).2 = .error message) :
    (spawnTempChannel db spawnerId joinerPubkey displayName env).1.room channelId =
      db.room channelId := by
  unfold spawnTempChannel at failed ⊢
  cases found : db.channels[spawnerId]? with
  | none => rfl
  | some spawner =>
    simp only [found] at failed ⊢
    split
    next => rfl
    next =>
      split
      next => exact room_makeRoomAfter _ _ _ _
      next => simp_all

def joinRefusal (h : Hub) (cs : ConnState) (channelId : String) (now : Int) : Option String :=
  if cs.isMiniApp then some "Mini-app sessions cannot join voice."
  else if cs.allianceVoiceChannel.any (channelId ≠ ·) then some "This visit is scoped to one channel."
  else if h.db.isVoiceMuted cs.publicKey then some "You are voice-muted on this hub."
  else if h.db.isChannelVoiceMuted channelId cs.publicKey then some "You are voice-muted in this channel."
  else if !(channelPermissions h.db cs.publicKey channelId).has VOICE_JOIN &&
      !h.voice.granted cs.publicKey channelId && cs.allianceVoiceChannel ≠ some channelId then
    some "You do not have access to this channel."
  else if h.db.squadRoomEventEnded channelId now then
    some "This event has ended; its squad room no longer accepts new joins."
  else none

/-- The gates in order, up to the room the join will enter. -/
def admitJoin (h : Hub) (cs : ConnState) (channelId : String) (env : JoinEnv) :
    Hub × Except String String :=
  match joinRefusal h cs channelId env.now with
  | some message => (h, .error message)
  | none =>
    match h.db.channelType channelId with
    | some .spawner =>
      match spawnTempChannel h.db channelId cs.publicKey (h.db.displayName cs.publicKey) env with
      | (db, .error message) => ({ h with db := db }, .error message)
      | (db, .ok room) =>
        ({ h with
            db := db
            outbox := { h.outbox with
              chatTx := h.outbox.chatTx ++ [(.channelsUpdated, .channelsUpdated)] } }, .ok room)
    | some .voice => ({ h with db := h.db.setEmptySince channelId none }, .ok channelId)
    | _ =>
      ({ h with db := h.db.setEmptySince channelId none },
        .error "This channel has no voice. Join a voice channel instead.")

def minTalkPower (db : Db) (channelId : String) : Int :=
  let own := (db.channels[channelId]?.map (·.minTalkPower)).getD 0
  if own = 0 then db.channelSettings[channelId]?.getD 0 else own

def userTalkPower (db : Db) (publicKey : String) : Int :=
  ((db.roles.toList.filter fun row => memberRole db publicKey row.1).map (·.2.talkPower)).max?.getD 0

def maySpeak (db : Db) (publicKey channelId : String) : Bool :=
  let threshold := minTalkPower db channelId
  if 0 < threshold then
    (userPermissions db publicKey).isOwner || decide (threshold ≤ userTalkPower db publicKey)
  else true

def bindTtl : Int := 30

namespace VoiceState

def nextId (v : VoiceState) (channelId : String) : UInt16 :=
  v.voiceNextSenderId[channelId]?.getD 0

def enter (v : VoiceState) (publicKey channelId : String) (speaks : Bool) (env : JoinEnv) : VoiceState :=
  let live := (v.voicePendingBinds.filter fun _ bind => env.instant < bind.expiresAt).filter
    fun _ bind => bind.pubkey ≠ publicKey
  { v with
    voicePendingBinds := live.insert env.token
      { channelId := channelId, pubkey := publicKey, expiresAt := env.instant + bindTtl }
    voiceChannels := Nested.put v.voiceChannels channelId publicKey none
    voiceLastActive := v.voiceLastActive.insert publicKey env.now
    voiceRelayActive := insert publicKey v.voiceRelayActive
    voiceTalkBlocked := if speaks then v.voiceTalkBlocked.erase publicKey
      else insert publicKey v.voiceTalkBlocked
    voiceOutboundLoss := v.voiceOutboundLoss.erase publicKey
    voiceNextSenderId := v.voiceNextSenderId.insert channelId (v.nextId channelId + 1)
    voiceSenderIds := Nested.put v.voiceSenderIds channelId publicKey (v.nextId channelId) }

end VoiceState

def keyRequests (v : VoiceState) (publicKey channelId : String) (id : UInt16) :
    List (String × WsServerMessage) :=
  ((v.participants channelId).filter (· ≠ publicKey)).map fun pk =>
    (pk, .voiceKeyRequest channelId id publicKey)

def zoneSnapshot (v : VoiceState) (channelId : String) : List WsServerMessage :=
  let zones := v.voiceZones.filter (·.channelId = channelId)
  if zones.isEmpty then [] else [.voiceZoneState channelId zones]

def videoSnapshot (v : VoiceState) (channelId : String) : List WsServerMessage :=
  let pubkeys := (v.videoChannels[channelId]?.getD ∅).keys
  if pubkeys.isEmpty then [] else [.videoParticipants channelId pubkeys]

structure JoinOutcome where
  hub : Hub
  conn : ConnState
  replies : List WsServerMessage
  joined : Option String

/-- The tail of the join, once every gate has passed: evict, register, announce. -/
def enterRoom (h : Hub) (cs : ConnState) (room : String) (env : JoinEnv) : JoinOutcome :=
  let pk := cs.publicKey
  let speaks := maySpeak h.db pk room
  let evicted := leaveAll h pk (h.voice.channelsOf pk) env.now
  let id := evicted.voice.nextId room
  let entered := { evicted with voice := evicted.voice.enter pk room speaks env }
  let url := h.config.voiceWtUrl.getD ("https://localhost:" ++ toString h.config.voiceUdpPort ++ "/voice")
  let reply := WsServerMessage.voiceJoined room id (getVoiceParticipants entered room (some pk))
    env.token url h.config.voiceCertHash speaks
  let identity := entered.db.voiceIdentity pk
  let announced := if entered.db.isInvisible pk then []
    else [(room, WsServerMessage.voiceParticipantJoined room
      { publicKey := pk, displayName := identity.1, senderId := some id, visitingFrom := identity.2 })]
  let told := { entered with outbox := { entered.outbox with
    voiceEventTx := entered.outbox.voiceEventTx ++ announced ++
      [(room, .voiceRosterUpdate room (getVoiceRoster entered.db entered.voice room))] } }
  let resolved := reResolveWhisperSessions told
  let keyed := { resolved with outbox := { resolved.outbox with
    userTx := resolved.outbox.userTx ++ keyRequests resolved.voice pk room id } }
  { hub := applyPendingVoiceMoveAssignment keyed pk room env.now
    conn := { cs with voiceChannel := some room }
    replies := reply :: (zoneSnapshot keyed.voice room ++ videoSnapshot keyed.voice room)
    joined := some room }

def handleVoiceJoin (h : Hub) (cs : ConnState) (channelId : String) (env : JoinEnv) : JoinOutcome :=
  match admitJoin h cs channelId env with
  | (after, .error message) =>
    { hub := after, conn := cs, replies := [.error "voice_join" message], joined := none }
  | (after, .ok room) => enterRoom after cs room env

end Wavvon
