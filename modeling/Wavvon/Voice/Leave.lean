import Wavvon.Voice.State

set_option autoImplicit false

namespace Wavvon

open Tables

namespace VoiceState

-- The roster of the channel is present and holds nobody else.
def becomesEmpty (v : VoiceState) (publicKey channelId : String) : Bool :=
  v.voiceChannels[channelId]?.any fun inner => (inner.erase publicKey).isEmpty

def leave (v : VoiceState) (publicKey channelId : String) : VoiceState :=
  let channels := Nested.drop v.voiceChannels channelId publicKey
  { v with
    voiceLastActive := v.voiceLastActive.erase publicKey
    voiceChannels := channels
    voicePendingBinds := v.voicePendingBinds.filter fun _ bind => bind.pubkey ≠ publicKey
    voiceSenderIds := Nested.drop v.voiceSenderIds channelId publicKey
    voiceNextSenderId :=
      if channelId ∈ channels then v.voiceNextSenderId else v.voiceNextSenderId.erase channelId
    voiceZones := v.voiceZones.map fun zone =>
      if zone.channelId = channelId then { zone with positions := zone.positions.erase publicKey }
      else zone
    videoChannels :=
      if (Nested.get v.videoChannels channelId publicKey).isSome then
        Nested.drop v.videoChannels channelId publicKey
      else v.videoChannels
    voiceRelayActive := v.voiceRelayActive.erase publicKey
    voiceOutboundLoss := v.voiceOutboundLoss.erase publicKey
    voiceTalkBlocked := v.voiceTalkBlocked.erase publicKey
    stagingVoiceGrants := Nested.drop v.stagingVoiceGrants publicKey channelId }

end VoiceState

def leaveVoice (h : Hub) (publicKey channelId : String) (now : Int) : Hub :=
  let voice := h.voice.leave publicKey channelId
  let db := if h.voice.becomesEmpty publicKey channelId then h.db.setEmptySince channelId (some now)
    else h.db
  -- An invisible participant was never announced as joined.
  let left := if db.isInvisible publicKey then []
    else [(channelId, WsServerMessage.voiceParticipantLeft channelId publicKey)]
  let video := if (Nested.get h.voice.videoChannels channelId publicKey).isSome then
      [(ChatEvent.video channelId, WsServerMessage.videoParticipantDisabled channelId publicKey)]
    else []
  let whisper := { h.whisper with
    targetDefs := h.whisper.targetDefs.erase publicKey
    targetPubkeys := h.whisper.targetPubkeys.erase publicKey }
  let outbox := { h.outbox with
    closed := h.outbox.closed ++ (h.voice.slot channelId publicKey).join.toList
    chatTx := h.outbox.chatTx ++ video
    voiceEventTx := h.outbox.voiceEventTx ++ left ++
      [(channelId, .voiceRosterUpdate channelId (getVoiceRoster db voice channelId))] }
  let stopped := sendWhisperNotification outbox publicKey channelId false
    (h.whisper.targetPubkeys[publicKey]?.getD ∅)
  reResolveWhisperSessions { h with db := db, voice := voice, whisper := whisper, outbox := stopped }

@[simp] theorem leaveVoice_voice (h : Hub) (publicKey channelId : String) (now : Int) :
    (leaveVoice h publicKey channelId now).voice = h.voice.leave publicKey channelId := by
  simp [leaveVoice]

theorem leaveVoice_db (h : Hub) (publicKey channelId : String) (now : Int) :
    (leaveVoice h publicKey channelId now).db =
      if h.voice.becomesEmpty publicKey channelId then h.db.setEmptySince channelId (some now)
      else h.db := by
  simp [leaveVoice]

namespace VoiceState

variable (v : VoiceState) (publicKey channelId : String)

theorem slot_leave (c pk : String) :
    (v.leave publicKey channelId).slot c pk =
      if c = channelId ∧ pk = publicKey then none else v.slot c pk :=
  Nested.get_drop v.voiceChannels channelId c publicKey pk

theorem senderId_leave (c pk : String) :
    (v.leave publicKey channelId).senderId c pk =
      if c = channelId ∧ pk = publicKey then none else v.senderId c pk :=
  Nested.get_drop v.voiceSenderIds channelId c publicKey pk

theorem relay_leave (pk : String) :
    pk ∈ (v.leave publicKey channelId).voiceRelayActive ↔
      pk ≠ publicKey ∧ pk ∈ v.voiceRelayActive := by
  simp [leave]

theorem inRoster_leave (c pk : String) :
    (v.leave publicKey channelId).inRoster c pk ↔
      v.inRoster c pk ∧ ¬(c = channelId ∧ pk = publicKey) := by
  unfold inRoster
  rw [slot_leave]
  split <;> simp [*]

theorem leave_noEmpty (full : Nested.NoEmpty v.voiceChannels) :
    Nested.NoEmpty (v.leave publicKey channelId).voiceChannels :=
  Nested.drop_noEmpty full channelId publicKey

theorem mem_voiceChannels (full : Nested.NoEmpty v.voiceChannels) (c : String) :
    c ∈ v.voiceChannels ↔ v.occupied c := by
  rw [Nested.mem_iff full]
  simp only [occupied, inRoster, slot, Option.isSome_iff_exists]

-- The counter of a room is thrown away with its last participant.
theorem nextSenderId_leave (full : Nested.NoEmpty v.voiceChannels) (c : String)
    (stays : (v.leave publicKey channelId).occupied c) :
    (v.leave publicKey channelId).voiceNextSenderId[c]? = v.voiceNextSenderId[c]? := by
  have kept := (mem_voiceChannels _ (v.leave_noEmpty publicKey channelId full) c).mpr stays
  simp only [leave] at kept ⊢
  split
  next => rfl
  next gone =>
    have other : channelId ≠ c := by
      rintro rfl
      exact gone kept
    grind

theorem becomesEmpty_iff (full : Nested.NoEmpty v.voiceChannels) :
    v.becomesEmpty publicKey channelId ↔
      v.inRoster channelId publicKey ∧ ∀ pk, v.inRoster channelId pk → pk = publicKey := by
  unfold becomesEmpty inRoster slot Nested.get
  cases found : v.voiceChannels[channelId]? with
  | none => simp
  | some inner =>
    have inhabited := full channelId inner found
    simp only [ne_eq, Std.ExtTreeMap.eq_empty_iff_forall_not_mem, not_forall, not_not] at inhabited
    obtain ⟨someone, member⟩ := inhabited
    simp only [Option.any_some, Std.ExtTreeMap.isEmpty_iff, Std.ExtTreeMap.eq_empty_iff_forall_not_mem,
      Std.ExtTreeMap.mem_erase, Option.bind_some]
    constructor
    · intro others
      have same : someone = publicKey := by
        have := others someone
        grind
      subst same
      refine ⟨by simpa using member, ?_⟩
      intro pk held
      have := others pk
      grind
    · rintro ⟨held, only⟩ pk
      have := only pk
      grind

theorem becomesEmpty_leave (full : Nested.NoEmpty v.voiceChannels) (c : String) :
    (v.leave publicKey channelId).becomesEmpty publicKey c ↔
      c ≠ channelId ∧ v.becomesEmpty publicKey c := by
  rw [becomesEmpty_iff _ _ _ (v.leave_noEmpty publicKey channelId full), becomesEmpty_iff _ _ _ full]
  simp only [inRoster_leave]
  by_cases same : c = channelId
  · simp [same]
  · simp [same]

end VoiceState

theorem room_leaveVoice (h : Hub) (publicKey channelId : String) (now : Int) (c : String) :
    (leaveVoice h publicKey channelId now).db.room c =
      if c = channelId ∧ h.voice.becomesEmpty publicKey c then
        (h.db.room c).map (Db.Room.stamped (some now))
      else h.db.room c := by
  rw [leaveVoice_db]
  by_cases same : c = channelId
  next =>
    subst same
    split <;> simp_all [Db.room_setEmptySince]
  next =>
    split <;> simp [Db.room_setEmptySince, same]

-- `for stale in stale_channels { leave_voice(..) }`.
def leaveAll (h : Hub) (publicKey : String) (channels : List String) (now : Int) : Hub :=
  channels.foldl (fun current channelId => leaveVoice current publicKey channelId now) h

section

variable (h : Hub) (publicKey : String) (channels : List String) (now : Int)

theorem slot_leaveAll (c pk : String) :
    (leaveAll h publicKey channels now).voice.slot c pk =
      if c ∈ channels ∧ pk = publicKey then none else h.voice.slot c pk := by
  induction channels generalizing h with
  | nil => simp [leaveAll]
  | cons first rest ih =>
    have later := ih (leaveVoice h publicKey first now)
    simp only [leaveAll, List.foldl_cons] at later ⊢
    rw [later, leaveVoice_voice, VoiceState.slot_leave]
    grind

theorem senderId_leaveAll (c pk : String) :
    (leaveAll h publicKey channels now).voice.senderId c pk =
      if c ∈ channels ∧ pk = publicKey then none else h.voice.senderId c pk := by
  induction channels generalizing h with
  | nil => simp [leaveAll]
  | cons first rest ih =>
    have later := ih (leaveVoice h publicKey first now)
    simp only [leaveAll, List.foldl_cons] at later ⊢
    rw [later, leaveVoice_voice, VoiceState.senderId_leave]
    grind

theorem relay_leaveAll (pk : String) (other : pk ≠ publicKey) :
    pk ∈ (leaveAll h publicKey channels now).voice.voiceRelayActive ↔
      pk ∈ h.voice.voiceRelayActive := by
  induction channels generalizing h with
  | nil => rfl
  | cons first rest ih =>
    have later := ih (leaveVoice h publicKey first now)
    simp only [leaveAll, List.foldl_cons] at later ⊢
    rw [later, leaveVoice_voice, VoiceState.relay_leave]
    simp [other]

-- While somebody else is in the room, evicting a key does not reset the room's counter.
theorem nextSenderId_leaveAll (full : Nested.NoEmpty h.voice.voiceChannels) (c pk : String)
    (other : pk ≠ publicKey) (present : h.voice.inRoster c pk) :
    (leaveAll h publicKey channels now).voice.voiceNextSenderId[c]? = h.voice.voiceNextSenderId[c]? := by
  induction channels generalizing h with
  | nil => rfl
  | cons first rest ih =>
    have stays : (leaveVoice h publicKey first now).voice.inRoster c pk := by
      rw [leaveVoice_voice, VoiceState.inRoster_leave]
      exact ⟨present, by simp [other]⟩
    have kept := ih (leaveVoice h publicKey first now)
      (by rw [leaveVoice_voice]; exact h.voice.leave_noEmpty publicKey first full) stays
    simp only [leaveAll, List.foldl_cons] at kept ⊢
    rw [kept, leaveVoice_voice]
    rw [leaveVoice_voice] at stays
    exact h.voice.nextSenderId_leave publicKey first full c ⟨pk, stays⟩

theorem room_leaveAll (full : Nested.NoEmpty h.voice.voiceChannels) (c : String) :
    (leaveAll h publicKey channels now).db.room c =
      if c ∈ channels ∧ h.voice.becomesEmpty publicKey c then
        (h.db.room c).map (Db.Room.stamped (some now))
      else h.db.room c := by
  induction channels generalizing h with
  | nil => simp [leaveAll]
  | cons first rest ih =>
    have later := ih (leaveVoice h publicKey first now)
      (by rw [leaveVoice_voice]; exact h.voice.leave_noEmpty publicKey first full)
    simp only [leaveAll, List.foldl_cons] at later ⊢
    rw [later, room_leaveVoice]
    simp only [leaveVoice_voice, h.voice.becomesEmpty_leave publicKey first full c]
    by_cases same : c = first
    next => simp [same]
    next => simp [same]

theorem leaveAll_noEmpty (full : Nested.NoEmpty h.voice.voiceChannels) :
    Nested.NoEmpty (leaveAll h publicKey channels now).voice.voiceChannels := by
  induction channels generalizing h with
  | nil => exact full
  | cons first rest ih =>
    exact ih (leaveVoice h publicKey first now)
      (by rw [leaveVoice_voice]; exact h.voice.leave_noEmpty publicKey first full)

end

-- Every room the key was in, and no other slot, is cleared by evicting its stale channels.
theorem slot_evict (h : Hub) (publicKey : String) (now : Int) (c pk : String) :
    (leaveAll h publicKey (h.voice.channelsOf publicKey) now).voice.slot c pk =
      if pk = publicKey then none else h.voice.slot c pk := by
  simp only [slot_leaveAll, VoiceState.mem_channelsOf]
  by_cases same : pk = publicKey
  next =>
    subst same
    by_cases held : h.voice.inRoster c pk
    next => simp [held]
    next =>
      have empty : h.voice.slot c pk = none := by simpa [VoiceState.inRoster] using held
      simp [held, empty]
  next => simp [same]

end Wavvon
