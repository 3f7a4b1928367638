import Wavvon.Shared.Runs
import Wavvon.Voice.JoinEffect

set_option autoImplicit false

namespace Wavvon

open Tables
open Runs
open Std (ExtTreeMap)

def GRACE_SECS : Int := 30

def holdsParticipants (v : VoiceState) (channelId : String) : Bool :=
  v.voiceChannels[channelId]?.any fun members => !members.isEmpty

def stampUnoccupiedTempChannels (h : Hub) (now : Int) : Hub :=
  { h with db := { h.db with channels := h.db.channels.map fun id row =>
      if row.isTemporary && row.emptySince.isNone && !holdsParticipants h.voice id
      then { row with emptySince := some now } else row } }

-- The transaction fails as a whole while another channel still names this one as its parent.
def deleteChannel (db : Db) (id : String) : Option Db :=
  let gone := (db.hubEvents.toList.filter fun entry => entry.2.channelId = id).map Prod.fst
  let channels := db.channels.erase id
  if channels.toList.any fun entry => entry.2.parentId = some id then none
  else some { db with
    channels := channels
    hubEvents := db.hubEvents.filter fun _ event => event.channelId ≠ id
    eventRsvps := db.eventRsvps.filter fun row => row.1 ∉ gone
    eventMoveAssignments := db.eventMoveAssignments.filter fun row =>
      row.eventId ∉ gone ∧ row.targetChannelId ≠ id
    channelBans := db.channelBans.filter fun ban => ban.1 ≠ id
    channelSettings := db.channelSettings.erase id
    overwrites := db.overwrites.filter fun row => row.channelId ≠ id }

def dueTempChannels (db : Db) (now : Int) : List String :=
  (db.channels.toList.filter fun entry =>
    entry.2.isTemporary && entry.2.emptySince.any fun stamp => stamp < now - GRACE_SECS).map Prod.fst

def deleteDue (swept : Db × Nat) (id : String) : Db × Nat :=
  match deleteChannel swept.1 id with
  | none => swept
  | some db => (db, swept.2 + 1)

def deleteExpiredTempChannels (h : Hub) (now : Int) : Hub :=
  let swept := (dueTempChannels h.db now).foldl deleteDue (h.db, 0)
  let told := if 0 < swept.2 then [(ChatEvent.channelsUpdated, WsServerMessage.channelsUpdated)] else []
  { h with db := swept.1, outbox := { h.outbox with chatTx := h.outbox.chatTx ++ told } }

def tick (h : Hub) (now : Int) : Hub :=
  deleteExpiredTempChannels (stampUnoccupiedTempChannels h now) now

inductive RoomStep where
  | voice (a : VoiceStep)
  | tick (now : Int)

def roomStep (h : Hub) : RoomStep → Hub
  | .voice a => voiceStep h a
  | .tick now => tick h now

def OccupiedKept (h : Hub) : Prop :=
  (∀ c room, h.db.room c = some room → room.isTemporary → h.voice.occupied c →
    room.emptySince = none) ∧
  ∀ now c, (h.db.room c).isSome → (tick h now).db.room c = none → ¬ h.voice.occupied c

structure RoomsKept (h : Hub) : Prop where
  full : Nested.NoEmpty h.voice.voiceChannels
  rooms : ∀ c, h.voice.occupied c → (h.db.room c).isSome
  unstamped : ∀ c room, h.db.room c = some room → room.isTemporary → h.voice.occupied c →
    room.emptySince = none

theorem holdsParticipants_iff (v : VoiceState) (full : Nested.NoEmpty v.voiceChannels) (c : String) :
    holdsParticipants v c ↔ v.occupied c := by
  rw [← v.mem_voiceChannels full c]
  unfold holdsParticipants
  cases found : v.voiceChannels[c]? with
  | none => simpa using found
  | some members =>
    have inhabited := full c members found
    have present : c ∈ v.voiceChannels := by grind
    simpa [present, ExtTreeMap.isEmpty_iff] using inhabited

theorem room_stampUnoccupied (h : Hub) (now : Int) (c : String) :
    (stampUnoccupiedTempChannels h now).db.room c = (h.db.room c).map fun room =>
      if room.isTemporary && room.emptySince.isNone && !holdsParticipants h.voice c
      then { room with emptySince := some now } else room := by
  simp only [stampUnoccupiedTempChannels, Db.room, ExtTreeMap.getElem?_map, Option.map_map]
  cases h.db.channels[c]? with
  | none => rfl
  | some row =>
    simp only [Option.map_some, Function.comp_apply]
    split <;> rfl

theorem room_deleteChannel (db after : Db) (id c : String) (deleted : deleteChannel db id = some after) :
    after.room c = if c = id then none else db.room c := by
  unfold deleteChannel at deleted
  dsimp only at deleted
  split at deleted
  next => cases deleted
  next =>
    cases deleted
    by_cases same : c = id
    next => simp [Db.room, same]
    next => simp [Db.room, ExtTreeMap.getElem?_erase, same, Ne.symm same]

-- The sweep touches no room outside its list.
theorem room_deleteDue (ids : List String) (swept : Db × Nat) (c : String) (kept : c ∉ ids) :
    (ids.foldl deleteDue swept).1.room c = swept.1.room c := by
  induction ids generalizing swept with
  | nil => rfl
  | cons id rest ih =>
    have apart : c ≠ id := by grind
    rw [List.foldl_cons, ih (deleteDue swept id) (by grind)]
    unfold deleteDue
    split
    next => rfl
    next db deleted => simp [room_deleteChannel swept.1 db id c deleted, apart]

theorem mem_dueTempChannels (db : Db) (now : Int) (c : String) :
    c ∈ dueTempChannels db now ↔
      ∃ room, db.room c = some room ∧ room.isTemporary ∧
        ∃ stamp, room.emptySince = some stamp ∧ stamp < now - GRACE_SECS := by
  simp only [dueTempChannels, List.mem_map, List.mem_filter, Prod.exists,
    ExtTreeMap.mem_toList_iff_getElem?_eq_some, Db.room, Bool.and_eq_true, Option.any_eq_true,
    decide_eq_true_eq]
  constructor
  · rintro ⟨id, row, ⟨found, temporary, stamp, stamped, old⟩, rfl⟩
    exact ⟨_, by rw [found]; rfl, temporary, stamp, stamped, old⟩
  · rintro ⟨room, found, temporary, stamp, stamped, old⟩
    obtain ⟨row, listed, rfl⟩ := Option.map_eq_some_iff.mp found
    exact ⟨c, row, ⟨listed, temporary, stamp, stamped, old⟩, rfl⟩

-- An unstamped room with people in it is neither stamped nor due.
theorem tick_keeps (h : Hub) (now : Int) (c : String) (full : Nested.NoEmpty h.voice.voiceChannels)
    (occupied : h.voice.occupied c)
    (unstamped : ∀ room, h.db.room c = some room → room.isTemporary → room.emptySince = none) :
    (tick h now).db.room c = h.db.room c := by
  have holds := (holdsParticipants_iff h.voice full c).mpr occupied
  have same : (stampUnoccupiedTempChannels h now).db.room c = h.db.room c := by
    rw [room_stampUnoccupied]
    simp [holds]
  have notDue : c ∉ dueTempChannels (stampUnoccupiedTempChannels h now).db now := by
    rw [mem_dueTempChannels, same]
    rintro ⟨room, found, temporary, stamp, stamped, _⟩
    simp [unstamped room found temporary] at stamped
  rw [← same]
  exact room_deleteDue _ _ c notDue

theorem RoomsKept.occupiedKept {h : Hub} (kept : RoomsKept h) : OccupiedKept h := by
  refine ⟨kept.unstamped, ?_⟩
  intro now c present deleted occupied
  have same := tick_keeps h now c kept.full occupied
    (fun room found temporary => kept.unstamped c room found temporary occupied)
  rw [deleted] at same
  simp [← same] at present

/-- The joiner is not the only participant of the temporary room it joins again. -/
def NotAlone (h : Hub) : RoomStep → Prop
  | .voice (.join cs channelId env) =>
    joinRefusal h cs channelId env.now = none →
      ∀ room, h.db.room channelId = some room → room.channelType = .voice → room.isTemporary →
        ¬ (h.voice.inRoster channelId cs.publicKey ∧
          ∀ pk, h.voice.inRoster channelId pk → pk = cs.publicKey)
  | _ => True

theorem leaveVoice_roomsKept {h : Hub} (kept : RoomsKept h) (pk channelId : String) (now : Int) :
    RoomsKept (leaveVoice h pk channelId now) := by
  have before : ∀ c, (leaveVoice h pk channelId now).voice.occupied c →
      h.voice.occupied c ∧ ¬ (c = channelId ∧ h.voice.becomesEmpty pk c) := by
    rintro c ⟨k, present⟩
    rw [leaveVoice_voice, VoiceState.inRoster_leave] at present
    refine ⟨⟨k, present.1⟩, ?_⟩
    rintro ⟨rfl, emptied⟩
    have alone := ((h.voice.becomesEmpty_iff pk c kept.full).mp emptied).2 k present.1
    exact present.2 ⟨rfl, alone⟩
  constructor
  · rw [leaveVoice_voice]
    exact h.voice.leave_noEmpty pk channelId kept.full
  · intro c occupied
    rw [room_leaveVoice, if_neg (before c occupied).2]
    exact kept.rooms c (before c occupied).1
  · intro c room found temporary occupied
    rw [room_leaveVoice, if_neg (before c occupied).2] at found
    exact kept.unstamped c room found temporary (before c occupied).1

theorem refused_roomsKept {h : Hub} (kept : RoomsKept h) (cs : ConnState) (channelId : String)
    (env : JoinEnv) (message : String) (refused : (admitJoin h cs channelId env).2 = .error message) :
    RoomsKept (admitJoin h cs channelId env).1 := by
  constructor
  · simpa using kept.full
  · intro c occupied
    have present := kept.rooms c (by simpa using occupied)
    rcases admitJoin_error h cs channelId env message refused c with same | same <;>
      simpa [same] using present
  · intro c room found temporary occupied
    rcases admitJoin_error h cs channelId env message refused c with same | same
    next =>
      exact kept.unstamped c room (by rw [← same, found]) temporary (by simpa using occupied)
    next =>
      rw [same] at found
      obtain ⟨old, _, rfl⟩ := Option.map_eq_some_iff.mp found
      exact old.stamped_emptySince none (by simpa using temporary)

-- Entering keeps the bookkeeping when the room entered is unstamped and not emptied on the way.
theorem enterRoom_roomsKept {h : Hub} (cs : ConnState) (room : String) (env : JoinEnv)
    (full : Nested.NoEmpty h.voice.voiceChannels) (entered : (h.db.room room).isSome)
    (rooms : ∀ c, h.voice.occupied c → (h.db.room c).isSome)
    (others : ∀ c info, c ≠ room → h.db.room c = some info → info.isTemporary → h.voice.occupied c →
      info.emptySince = none)
    (target : ∀ info, h.db.room room = some info → info.isTemporary →
      info.emptySince = none ∧ ¬ h.voice.becomesEmpty cs.publicKey room) :
    RoomsKept (enterRoom h cs room env).hub := by
  have elsewhere : ∀ c, c ≠ room → (enterRoom h cs room env).hub.voice.occupied c →
      h.voice.occupied c ∧ ¬ h.voice.becomesEmpty cs.publicKey c := by
    rintro c other ⟨k, present⟩
    rw [inRoster_enterRoom] at present
    have apart : k ≠ cs.publicKey := by grind
    rw [if_neg apart] at present
    refine ⟨⟨k, present⟩, ?_⟩
    intro emptied
    exact apart (((h.voice.becomesEmpty_iff cs.publicKey c full).mp emptied).2 k present)
  constructor
  · exact enterRoom_noEmpty h cs room env full
  · intro c occupied
    have present : (h.db.room c).isSome := by
      by_cases here : c = room
      · rwa [here]
      · exact rooms c (elsewhere c here occupied).1
    rw [room_enterRoom h cs room env full]
    split <;> simpa using present
  · intro c info found temporary occupied
    rw [room_enterRoom h cs room env full] at found
    by_cases here : c = room
    · subst here
      split at found
      next emptied =>
        obtain ⟨old, known, rfl⟩ := Option.map_eq_some_iff.mp found
        exact absurd emptied (target old known (by simpa using temporary)).2
      next => exact (target info found temporary).1
    · obtain ⟨before, unemptied⟩ := elsewhere c here occupied
      rw [if_neg unemptied] at found
      exact others c info here found temporary before

-- The clear at the top of the join holds to its end unless the eviction empties the room.
theorem existing_roomsKept {h : Hub} (kept : RoomsKept h) (cs : ConnState) (channelId : String)
    (env : JoinEnv) (voice : h.db.channelType channelId = some .voice)
    (cleared : (admitJoin h cs channelId env).1.db = h.db.setEmptySince channelId none)
    (shared : ∀ room, h.db.room channelId = some room → room.channelType = .voice → room.isTemporary →
      ¬ h.voice.becomesEmpty cs.publicKey channelId) :
    RoomsKept (enterRoom (admitJoin h cs channelId env).1 cs channelId env).hub := by
  apply enterRoom_roomsKept
  · simpa using kept.full
  · rw [cleared, Db.room_setEmptySince]
    simpa using h.db.room_isSome channelId _ voice
  · intro c occupied
    rw [cleared, Db.room_setEmptySince]
    have present := kept.rooms c (by simpa using occupied)
    split <;> simpa using present
  · intro c info other found temporary occupied
    rw [cleared, Db.room_setEmptySince, if_neg other] at found
    exact kept.unstamped c info found temporary (by simpa using occupied)
  · intro info found temporary
    rw [cleared, Db.room_setEmptySince, if_pos rfl] at found
    obtain ⟨old, before, rfl⟩ := Option.map_eq_some_iff.mp found
    have wasTemporary : old.isTemporary := by simpa using temporary
    have kind : old.channelType = .voice := by
      have typed := h.db.room_channelType channelId old before
      rw [voice] at typed
      exact (Option.some.inj typed).symm
    rw [admitJoin_voice]
    exact ⟨old.stamped_emptySince none wasTemporary, shared old before kind wasTemporary⟩

theorem spawned_roomsKept {h : Hub} (kept : RoomsKept h) (cs : ConnState) (channelId room : String)
    (env : JoinEnv) (fresh : h.db.room room = none)
    (rooms : ∀ c, (admitJoin h cs channelId env).1.db.room c =
      if c = room then some { channelType := .voice, isTemporary := true, emptySince := none }
      else h.db.room c) :
    RoomsKept (enterRoom (admitJoin h cs channelId env).1 cs room env).hub := by
  have unoccupied : ¬ h.voice.occupied room := by
    intro occupied
    have present := kept.rooms room occupied
    simp [fresh] at present
  apply enterRoom_roomsKept
  · simpa using kept.full
  · simp [rooms]
  · intro c occupied
    rw [admitJoin_voice] at occupied
    rw [rooms]
    split
    next => rfl
    next => exact kept.rooms c occupied
  · intro c info other found temporary occupied
    rw [rooms, if_neg other] at found
    exact kept.unstamped c info found temporary (by simpa using occupied)
  · intro info found _
    rw [rooms, if_pos rfl] at found
    refine ⟨by simp [← Option.some.inj found], ?_⟩
    rw [admitJoin_voice, h.voice.becomesEmpty_iff cs.publicKey room kept.full]
    intro alone
    exact unoccupied ⟨cs.publicKey, alone.1⟩

theorem join_roomsKept {h : Hub} (kept : RoomsKept h) (cs : ConnState) (channelId : String)
    (env : JoinEnv) (notAlone : NotAlone h (.voice (.join cs channelId env))) :
    RoomsKept (handleVoiceJoin h cs channelId env).hub := by
  rcases handleVoiceJoin_cases h cs channelId env with
    ⟨message, refused, outcome⟩ | ⟨room, admitted, outcome⟩
  next =>
    rw [outcome]
    exact refused_roomsKept kept cs channelId env message refused
  next =>
    rw [outcome]
    have passed := admitJoin_refusal h cs channelId env room admitted
    cases admitJoin_ok h cs channelId env room admitted with
    | existing same voice cleared =>
      subst same
      refine existing_roomsKept kept cs room env voice cleared ?_
      intro info found kind temporary
      rw [h.voice.becomesEmpty_iff cs.publicKey room kept.full]
      exact notAlone passed info found kind temporary
    | spawned spawner fresh rooms =>
      exact spawned_roomsKept kept cs channelId room env fresh rooms

theorem tick_roomsKept {h : Hub} (kept : RoomsKept h) (now : Int) : RoomsKept (tick h now) := by
  have same : ∀ c, h.voice.occupied c → (tick h now).db.room c = h.db.room c := by
    intro c occupied
    exact tick_keeps h now c kept.full occupied
      (fun room found temporary => kept.unstamped c room found temporary occupied)
  constructor
  · exact kept.full
  · intro c occupied
    rw [same c occupied]
    exact kept.rooms c occupied
  · intro c room found temporary occupied
    rw [same c occupied] at found
    exact kept.unstamped c room found temporary occupied

theorem roomStep_roomsKept (h : Hub) (a : RoomStep) (kept : RoomsKept h) (notAlone : NotAlone h a) :
    RoomsKept (roomStep h a) := by
  cases a with
  | tick now => exact tick_roomsKept kept now
  | voice a =>
    cases a with
    | join cs channelId env => exact join_roomsKept kept cs channelId env notAlone
    | leave pk channelId now => exact leaveVoice_roomsKept kept pk channelId now

-- The eviction that a rejoin performs empties the room for a moment, and stamps it after the clear.
theorem roomStep_stamps (h : Hub) (a : RoomStep) (kept : RoomsKept h) (alone : ¬ NotAlone h a) :
    ¬ OccupiedKept (roomStep h a) := by
  cases a with
  | tick now => simp [NotAlone] at alone
  | voice a =>
    cases a with
    | leave pk channelId now => simp [NotAlone] at alone
    | join cs channelId env =>
      simp only [NotAlone, not_forall, not_not] at alone
      obtain ⟨passed, room, found, kind, temporary, present, only⟩ := alone
      have voice : h.db.channelType channelId = some .voice := by
        rw [h.db.room_channelType channelId room found, kind]
      have admitted := admitJoin_existing h cs channelId env passed voice
      have emptied := (h.voice.becomesEmpty_iff cs.publicKey channelId kept.full).mpr ⟨present, only⟩
      intro occupiedKept
      have unstamped := occupiedKept.1 channelId { room with emptySince := some env.now }
      simp only [roomStep, voiceStep, handleVoiceJoin, admitted] at unstamped
      rw [room_enterRoom { h with db := h.db.setEmptySince channelId none } cs channelId env kept.full]
        at unstamped
      have stamp := unstamped
        (by simp [emptied, Db.room_setEmptySince, found, Db.Room.stamped, temporary]) temporary
        ⟨cs.publicKey, by simp [inRoster_enterRoom]⟩
      cases stamp

theorem boot_roomsKept (db : Db) (config : VoiceConfig) : RoomsKept { db := db, config := config } := by
  constructor
  · exact Nested.empty_noEmpty
  · rintro c ⟨pk, present⟩
    simp at present
  · rintro c room _ _ ⟨pk, present⟩
    simp at present

theorem occupiedKept_iff (db : Db) (config : VoiceConfig) (acts : List RoomStep) :
    (∀ front, front <+: acts → OccupiedKept (run roomStep { db := db, config := config } front)) ↔
      Meets roomStep NotAlone { db := db, config := config } acts :=
  always_iff_meets RoomsKept OccupiedKept (fun _ kept => kept.occupiedKept) roomStep_roomsKept
    roomStep_stamps (boot_roomsKept db config) acts

-- A personal room and its owner.
def tempRoomDb : Db :=
  { users := (∅ : Table User).insert "ann" { isMember := true }
    channels := (∅ : Table Channel).insert "den"
      { name := "Ann's room", createdBy := "ann", channelType := .voice, isTemporary := true
        ownerPubkey := some "ann" }
    roles := (∅ : Table Role).insert BUILTIN_EVERYONE_ROLE_ID { name := "everyone" }
    rolePermissions := {(BUILTIN_EVERYONE_ROLE_ID, VOICE_JOIN)} }

-- Ann rejoins the room she is alone in; the tick after the grace period deletes it under her.
theorem occupiedKept_rejoin :
    ¬ ∀ (db : Db) (config : VoiceConfig) (acts : List RoomStep),
      OccupiedKept (run roomStep { db := db, config := config } acts) := by
  intro always
  have kept := always tempRoomDb {}
    [.voice (.join { publicKey := "ann" } "den" (callEnv 1 "t0")),
      .voice (.join { publicKey := "ann" } "den" (callEnv 2 "t1"))]
  exact kept.2 40 "den" (by decide) (by decide) ⟨"ann", by decide⟩

end Wavvon
