import Wavvon.Voice.Join

set_option autoImplicit false

namespace Wavvon

open Tables

section

variable (h : Hub) (cs : ConnState) (channelId : String) (env : JoinEnv)

-- No gate touches a roster; a refused join leaves the voice state as it found it.
@[simp] theorem admitJoin_voice : (admitJoin h cs channelId env).1.voice = h.voice := by
  unfold admitJoin
  split
  next => rfl
  next =>
    split
    next => split <;> rfl
    next => rfl
    next => rfl

/-- The two ways in: the voice room that was named, or a new room behind a spawner. -/
inductive Admitted (h : Hub) (channelId room : String) (after : Db) : Prop where
  | existing (same : room = channelId) (voice : h.db.channelType channelId = some .voice)
      (cleared : after = h.db.setEmptySince channelId none)
  | spawned (spawner : h.db.channelType channelId = some .spawner) (fresh : h.db.room room = none)
      (rooms : ∀ c, after.room c =
        if c = room then some { channelType := .voice, isTemporary := true, emptySince := none }
        else h.db.room c)

theorem admitJoin_ok (room : String) (admitted : (admitJoin h cs channelId env).2 = .ok room) :
    Admitted h channelId room (admitJoin h cs channelId env).1.db := by
  unfold admitJoin at admitted ⊢
  split at admitted
  next => cases admitted
  next =>
    split at admitted
    next spawner =>
      have spec := spawnTempChannel_room h.db channelId cs.publicKey (h.db.displayName cs.publicKey) env
      split at admitted
      next => cases admitted
      next db id spawned =>
        cases admitted
        rw [spawned] at spec
        obtain ⟨fresh, rooms⟩ := spec room rfl
        exact .spawned spawner fresh rooms
    next voice =>
      cases admitted
      exact .existing rfl voice rfl
    next => cases admitted

theorem admitJoin_refusal (room : String) (admitted : (admitJoin h cs channelId env).2 = .ok room) :
    joinRefusal h cs channelId env.now = none := by
  unfold admitJoin at admitted
  split at admitted
  next => cases admitted
  next passed => exact passed

theorem admitJoin_existing (passed : joinRefusal h cs channelId env.now = none)
    (voice : h.db.channelType channelId = some .voice) :
    admitJoin h cs channelId env = ({ h with db := h.db.setEmptySince channelId none }, .ok channelId) := by
  simp [admitJoin, passed, voice]

-- A refused join may have cleared a stamp; it never sets one.
theorem admitJoin_error (message : String) (refused : (admitJoin h cs channelId env).2 = .error message)
    (c : String) : (admitJoin h cs channelId env).1.db.room c = h.db.room c ∨
      (admitJoin h cs channelId env).1.db.room c = (h.db.room c).map (Db.Room.stamped none) := by
  unfold admitJoin at refused ⊢
  split at refused
  next => exact .inl rfl
  next =>
    split at refused
    next =>
      have spec := spawnTempChannel_failed h.db channelId cs.publicKey (h.db.displayName cs.publicKey) env
      split at refused
      next db text failed =>
        rw [failed] at spec
        exact .inl (spec text c rfl)
      next => cases refused
    next => cases refused
    next =>
      dsimp only
      rw [Db.room_setEmptySince]
      by_cases same : c = channelId
      next => exact .inr (by simp [same])
      next => exact .inl (by simp [same])

theorem handleVoiceJoin_cases :
    (∃ message, (admitJoin h cs channelId env).2 = .error message ∧
      handleVoiceJoin h cs channelId env =
        { hub := (admitJoin h cs channelId env).1, conn := cs
          replies := [.error "voice_join" message], joined := none }) ∨
    ∃ room, (admitJoin h cs channelId env).2 = .ok room ∧
      handleVoiceJoin h cs channelId env = enterRoom (admitJoin h cs channelId env).1 cs room env := by
  unfold handleVoiceJoin
  split
  next after message refused => exact .inl ⟨message, by rw [refused], by rw [refused]⟩
  next after room admitted => exact .inr ⟨room, by rw [admitted], by rw [admitted]⟩

end

namespace VoiceState

variable (v : VoiceState) (publicKey channelId : String) (speaks : Bool) (env : JoinEnv)

theorem slot_enter (c pk : String) : (v.enter publicKey channelId speaks env).slot c pk =
    if c = channelId ∧ pk = publicKey then some none else v.slot c pk :=
  Nested.get_put v.voiceChannels channelId c publicKey pk none

theorem senderId_enter (c pk : String) : (v.enter publicKey channelId speaks env).senderId c pk =
    if c = channelId ∧ pk = publicKey then some (v.nextId channelId) else v.senderId c pk :=
  Nested.get_put v.voiceSenderIds channelId c publicKey pk (v.nextId channelId)

theorem relay_enter (pk : String) : pk ∈ (v.enter publicKey channelId speaks env).voiceRelayActive ↔
    pk = publicKey ∨ pk ∈ v.voiceRelayActive := by
  simp [enter]

end VoiceState

section

variable (h : Hub) (cs : ConnState) (room : String) (env : JoinEnv)

def evictStale (h : Hub) (publicKey : String) (now : Int) : Hub :=
  leaveAll h publicKey (h.voice.channelsOf publicKey) now

theorem evictStale_absent (publicKey : String) (now : Int)
    (absent : ∀ c, ¬ h.voice.inRoster c publicKey) : evictStale h publicKey now = h := by
  have none : h.voice.channelsOf publicKey = [] := by
    apply List.eq_nil_iff_forall_not_mem.mpr
    intro c
    rw [VoiceState.mem_channelsOf]
    exact absent c
  simp [evictStale, leaveAll, none]

theorem enterRoom_frame : (enterRoom h cs room env).hub.db = (evictStale h cs.publicKey env.now).db ∧
    ∃ grants, (enterRoom h cs room env).hub.voice =
      ((evictStale h cs.publicKey env.now).voice.enter cs.publicKey room
        (maySpeak h.db cs.publicKey room) env).withGrants grants := by
  unfold enterRoom
  dsimp only
  constructor
  next =>
    rw [(applyPending_frame _ _ _ _).1]
    simp [evictStale]
  next =>
    obtain ⟨grants, frame⟩ := (applyPending_frame _ cs.publicKey room env.now).2
    refine ⟨grants, frame.trans ?_⟩
    simp [evictStale]

theorem slot_enterRoom (c pk : String) : (enterRoom h cs room env).hub.voice.slot c pk =
    if pk = cs.publicKey then (if c = room then some none else none) else h.voice.slot c pk := by
  obtain ⟨grants, frame⟩ := (enterRoom_frame h cs room env).2
  rw [frame, VoiceState.slot_withGrants, VoiceState.slot_enter, evictStale, slot_evict]
  by_cases same : pk = cs.publicKey <;> by_cases here : c = room <;> simp [same, here]

theorem senderId_enterRoom (c pk : String) : (enterRoom h cs room env).hub.voice.senderId c pk =
    if c = room ∧ pk = cs.publicKey then some ((evictStale h cs.publicKey env.now).voice.nextId room)
    else if pk = cs.publicKey ∧ h.voice.inRoster c pk then none else h.voice.senderId c pk := by
  obtain ⟨grants, frame⟩ := (enterRoom_frame h cs room env).2
  rw [frame, VoiceState.senderId_withGrants, VoiceState.senderId_enter]
  congr 1
  simp only [evictStale, senderId_leaveAll, VoiceState.mem_channelsOf]
  by_cases same : pk = cs.publicKey <;> simp [same]

theorem relay_enterRoom (pk : String) : pk ∈ (enterRoom h cs room env).hub.voice.voiceRelayActive ↔
    pk = cs.publicKey ∨ pk ∈ h.voice.voiceRelayActive := by
  obtain ⟨grants, frame⟩ := (enterRoom_frame h cs room env).2
  rw [frame, VoiceState.relay_withGrants, VoiceState.relay_enter, evictStale]
  by_cases same : pk = cs.publicKey
  next => simp [same]
  next => simp [same, relay_leaveAll h cs.publicKey _ env.now pk same]

-- The eviction stamps the rooms it empties, after the join has cleared its target's stamp.
theorem room_enterRoom (full : Nested.NoEmpty h.voice.voiceChannels) (c : String) :
    (enterRoom h cs room env).hub.db.room c =
      if h.voice.becomesEmpty cs.publicKey c then (h.db.room c).map (Db.Room.stamped (some env.now))
      else h.db.room c := by
  rw [(enterRoom_frame h cs room env).1, evictStale, room_leaveAll h _ _ _ full]
  simp only [VoiceState.mem_channelsOf]
  have within := (h.voice.becomesEmpty_iff cs.publicKey c full).mp
  grind

theorem nextId_enterRoom : (enterRoom h cs room env).hub.voice.nextId room =
    (evictStale h cs.publicKey env.now).voice.nextId room + 1 := by
  obtain ⟨grants, frame⟩ := (enterRoom_frame h cs room env).2
  rw [frame, VoiceState.nextId, VoiceState.nextId_withGrants]
  simp [VoiceState.enter]

theorem enterRoom_noEmpty (full : Nested.NoEmpty h.voice.voiceChannels) :
    Nested.NoEmpty (enterRoom h cs room env).hub.voice.voiceChannels := by
  obtain ⟨grants, frame⟩ := (enterRoom_frame h cs room env).2
  rw [frame]
  exact Nested.put_noEmpty (leaveAll_noEmpty h _ _ _ full) room cs.publicKey none

theorem inRoster_enterRoom (c pk : String) : (enterRoom h cs room env).hub.voice.inRoster c pk ↔
    if pk = cs.publicKey then c = room else h.voice.inRoster c pk := by
  unfold VoiceState.inRoster
  rw [slot_enterRoom]
  by_cases same : pk = cs.publicKey <;> by_cases here : c = room <;> simp [same, here]

/-- The three tables that say who is in a call, read together. -/
structure VoiceState.Agrees (v : VoiceState) : Prop where
  oneRoom : ∀ pk c c', v.inRoster c pk → v.inRoster c' pk → c = c'
  relay : ∀ pk, (∃ c, v.inRoster c pk) ↔ pk ∈ v.voiceRelayActive
  ids : ∀ c pk, v.inRoster c pk ↔ (v.senderId c pk).isSome

theorem VoiceState.empty_agrees : ({} : VoiceState).Agrees := by
  constructor
  · intro pk c c' present
    simp at present
  · intro pk
    simp
  · intro c pk
    simp [VoiceState.senderId]

theorem VoiceState.Agrees.leave {v : VoiceState} (agrees : v.Agrees) (pk c : String)
    (only : ∀ c', v.inRoster c' pk → c' = c) : (v.leave pk c).Agrees := by
  have rosters : ∀ c' k, (v.leave pk c).inRoster c' k ↔ v.inRoster c' k ∧ k ≠ pk := by
    intro c' k
    rw [VoiceState.inRoster_leave]
    grind
  constructor
  · intro k c₁ c₂ first second
    exact agrees.oneRoom k c₁ c₂ ((rosters c₁ k).mp first).1 ((rosters c₂ k).mp second).1
  · intro k
    rw [VoiceState.relay_leave, ← agrees.relay k]
    simp only [rosters]
    grind
  · intro c' k
    rw [rosters, VoiceState.senderId_leave, agrees.ids c' k]
    have known := agrees.ids c' k
    by_cases same : c' = c ∧ k = pk
    · simp [same]
    · rw [if_neg same]
      grind

theorem enterRoom_agrees (agrees : h.voice.Agrees) : (enterRoom h cs room env).hub.voice.Agrees := by
  constructor
  · intro k c₁ c₂ first second
    rw [inRoster_enterRoom] at first second
    have known := agrees.oneRoom k c₁ c₂
    grind
  · intro k
    rw [relay_enterRoom, ← agrees.relay k]
    simp only [inRoster_enterRoom]
    by_cases same : k = cs.publicKey <;> simp [same]
  · intro c k
    rw [inRoster_enterRoom, senderId_enterRoom]
    have known := agrees.ids c k
    grind

@[simp] theorem enterRoom_conn :
    (enterRoom h cs room env).conn = { cs with voiceChannel := some room } := rfl

@[simp] theorem enterRoom_joined : (enterRoom h cs room env).joined = some room := rfl

end

/-- Whole executions of the two roster operations, by whichever connection. -/
inductive VoiceStep where
  | join (cs : ConnState) (channelId : String) (env : JoinEnv)
  | leave (publicKey channelId : String) (now : Int)

def voiceStep (h : Hub) : VoiceStep → Hub
  | .join cs channelId env => (handleVoiceJoin h cs channelId env).hub
  | .leave publicKey channelId now => leaveVoice h publicKey channelId now

def voiceRoom (name : String) : Channel :=
  { name := name, createdBy := "ann", channelType := .voice }

-- A hub with two voice rooms whose owner may join either.
def callDb : Db :=
  { users := (∅ : Table User).insert "ann" {}
    channels := ((∅ : Table Channel).insert "den" (voiceRoom "den")).insert "hall" (voiceRoom "hall")
    roles := (∅ : Table Role).insert BUILTIN_OWNER_ROLE_ID { name := "owner" }
    userRoles := {("ann", BUILTIN_OWNER_ROLE_ID)} }

def callEnv (now : Int) (token : String) : JoinEnv :=
  { now := now, instant := now, token := token, roomIds := fun _ => "" }

end Wavvon
