import Wavvon.Shared.Runs
import Wavvon.Voice.JoinEffect
import Wavvon.Voice.State

set_option autoImplicit false

namespace Wavvon

open Tables
open Runs

def DistinctIds (v : VoiceState) : Prop :=
  ∀ c pk pk' id, v.senderId c pk = some id → v.senderId c pk' = some id → pk = pk'

/-- No two participants share an id, so the id in a relayed header is read as one of them at most. -/
def IdsIdentify (h : Hub) : Prop :=
  DistinctIds h.voice ∧
    ∀ channelId senderPk payload datagram,
      (relayDatagram h channelId senderPk payload).2 = some datagram →
      ∀ pk pk', h.voice.senderId channelId pk = some datagram.namedId →
        h.voice.senderId channelId pk' = some datagram.namedId → pk = pk'

structure Numbered (h : Hub) : Prop where
  full : Nested.NoEmpty h.voice.voiceChannels
  listed : ∀ c pk, (h.voice.senderId c pk).isSome → h.voice.inRoster c pk
  rooms : ∀ c pk, h.voice.inRoster c pk → (h.db.room c).isSome
  distinct : DistinctIds h.voice

theorem Numbered.identify {h : Hub} (numbered : Numbered h) : IdsIdentify h := by
  refine ⟨numbered.distinct, ?_⟩
  intro channelId senderPk payload datagram _ pk pk' first second
  exact numbered.distinct channelId pk pk' datagram.namedId first second

/-- The room's counter does not stand at the id of somebody else in it. -/
def CounterFree (h : Hub) : VoiceStep → Prop
  | .join cs channelId env =>
    joinRefusal h cs channelId env.now = none → h.db.channelType channelId = some .voice →
      ∀ pk, pk ≠ cs.publicKey → h.voice.senderId channelId pk ≠ some (h.voice.nextId channelId)
  | .leave _ _ _ => True

theorem leaveVoice_numbered {h : Hub} (numbered : Numbered h) (pk c : String) (now : Int) :
    Numbered (leaveVoice h pk c now) := by
  constructor
  · rw [leaveVoice_voice]
    exact h.voice.leave_noEmpty pk c numbered.full
  · intro c' k known
    simp only [leaveVoice_voice, VoiceState.senderId_leave, VoiceState.inRoster_leave] at known ⊢
    have before := numbered.listed c' k
    grind
  · intro c' k present
    rw [leaveVoice_voice, VoiceState.inRoster_leave] at present
    have before := numbered.rooms c' k present.1
    rw [room_leaveVoice]
    split <;> simpa using before
  · intro c' k k' id first second
    simp only [leaveVoice_voice, VoiceState.senderId_leave] at first second
    have before := numbered.distinct c' k k' id
    grind

-- Evicting the joiner leaves the counter of a room with other people in it alone.
theorem evictStale_nextId {h : Hub} (numbered : Numbered h) (publicKey : String) (now : Int)
    (c pk : String) (other : pk ≠ publicKey) (present : h.voice.inRoster c pk) :
    (evictStale h publicKey now).voice.nextId c = h.voice.nextId c := by
  unfold VoiceState.nextId evictStale
  rw [nextSenderId_leaveAll h publicKey _ now numbered.full c pk other present]

theorem enterRoom_numbered {h : Hub} (numbered : Numbered h) (cs : ConnState) (room : String)
    (env : JoinEnv) (exists' : (h.db.room room).isSome)
    (free : ∀ pk, pk ≠ cs.publicKey → h.voice.senderId room pk ≠ some (h.voice.nextId room)) :
    Numbered (enterRoom h cs room env).hub := by
  constructor
  · exact enterRoom_noEmpty h cs room env numbered.full
  · intro c pk known
    rw [senderId_enterRoom] at known
    rw [inRoster_enterRoom]
    have before := numbered.listed c pk
    grind
  · intro c pk present
    rw [inRoster_enterRoom] at present
    have before := numbered.rooms c pk
    have kept : (h.db.room c).isSome := by grind
    rw [room_enterRoom h cs room env numbered.full]
    split <;> simpa using kept
  · intro c pk pk' id first second
    rw [senderId_enterRoom] at first second
    have before := numbered.distinct c pk pk' id
    have fresh : ∀ k, k ≠ cs.publicKey →
        h.voice.senderId room k ≠ some ((evictStale h cs.publicKey env.now).voice.nextId room) := by
      intro k other same
      have present := numbered.listed room k (by simp [same])
      rw [evictStale_nextId numbered cs.publicKey env.now room k other present] at same
      exact free k other same
    grind

theorem admitJoin_numbered {h : Hub} (numbered : Numbered h) (cs : ConnState) (channelId : String)
    (env : JoinEnv) (kept : ∀ c, (h.db.room c).isSome →
      ((admitJoin h cs channelId env).1.db.room c).isSome) :
    Numbered (admitJoin h cs channelId env).1 := by
  refine ⟨?_, ?_, ?_, ?_⟩
  · simpa using numbered.full
  · simpa using numbered.listed
  · intro c pk present
    exact kept c (numbered.rooms c pk (by simpa using present))
  · simpa using numbered.distinct

theorem voiceStep_numbered (h : Hub) (a : VoiceStep) (numbered : Numbered h) (free : CounterFree h a) :
    Numbered (voiceStep h a) := by
  cases a with
  | leave pk c now => exact leaveVoice_numbered numbered pk c now
  | join cs channelId env =>
    simp only [voiceStep]
    rcases handleVoiceJoin_cases h cs channelId env with
      ⟨message, refused, outcome⟩ | ⟨room, admitted, outcome⟩
    next =>
      rw [outcome]
      apply admitJoin_numbered numbered
      intro c present
      rcases admitJoin_error h cs channelId env message refused c with same | same <;>
        simpa [same] using present
    next =>
      rw [outcome]
      have passed := admitJoin_refusal h cs channelId env room admitted
      have way := admitJoin_ok h cs channelId env room admitted
      have ids : (admitJoin h cs channelId env).1.voice = h.voice := admitJoin_voice h cs channelId env
      cases way with
      | existing same voice cleared =>
        subst same
        have known := h.db.room_isSome room _ voice
        have kept : ∀ c, (h.db.room c).isSome → ((admitJoin h cs room env).1.db.room c).isSome := by
          intro c present
          rw [cleared, Db.room_setEmptySince]
          split <;> simpa using present
        apply enterRoom_numbered (admitJoin_numbered numbered cs room env kept)
        · exact kept room known
        · rw [ids]
          exact free passed voice
      | spawned spawner fresh rooms =>
        have kept : ∀ c, (h.db.room c).isSome → ((admitJoin h cs channelId env).1.db.room c).isSome := by
          intro c present
          rw [rooms]
          split <;> simp [present]
        apply enterRoom_numbered (admitJoin_numbered numbered cs channelId env kept)
        · simp [rooms]
        · intro pk _ held
          rw [ids] at held
          have present := numbered.rooms room pk (numbered.listed room pk (by simp [held]))
          simp [fresh] at present

-- A counter that has come round to a live id hands that id out a second time.
theorem voiceStep_collides (h : Hub) (a : VoiceStep) (numbered : Numbered h)
    (taken : ¬ CounterFree h a) : ¬ IdsIdentify (voiceStep h a) := by
  cases a with
  | leave pk c now => simp [CounterFree] at taken
  | join cs channelId env =>
    simp only [CounterFree, not_forall, not_not] at taken
    obtain ⟨passed, voice, pk, other, held⟩ := taken
    have present := numbered.listed channelId pk (by simp [held])
    have admitted := admitJoin_existing h cs channelId env passed voice
    intro identify
    have distinct := identify.1 channelId cs.publicKey pk (h.voice.nextId channelId)
    simp only [voiceStep, handleVoiceJoin, admitted, senderId_enterRoom] at distinct
    have cleared : Numbered { h with db := h.db.setEmptySince channelId none } := by
      have kept := admitJoin_numbered numbered cs channelId env
      rw [admitted] at kept
      apply kept
      intro c known
      rw [Db.room_setEmptySince]
      split <;> simpa using known
    have counter := evictStale_nextId cleared cs.publicKey env.now channelId pk other present
    rw [counter] at distinct
    exact other (distinct (by simp) (by simpa [other] using held)).symm

theorem boot_numbered (db : Db) (config : VoiceConfig) : Numbered { db := db, config := config } := by
  constructor
  · exact Nested.empty_noEmpty
  · intro c pk known
    simp [VoiceState.senderId] at known
  · intro c pk present
    simp at present
  · intro c pk pk' id first
    simp [VoiceState.senderId] at first

theorem idsIdentify_iff (db : Db) (config : VoiceConfig) (acts : List VoiceStep) :
    (∀ front, front <+: acts → IdsIdentify (run voiceStep { db := db, config := config } front)) ↔
      Meets voiceStep CounterFree { db := db, config := config } acts :=
  always_iff_meets Numbered IdsIdentify (fun _ numbered => numbered.identify) voiceStep_numbered
    voiceStep_collides (boot_numbered db config) acts

-- Two members and one voice room that every member may join.
def pairDb : Db :=
  { users := ((∅ : Table User).insert "ann" { isMember := true }).insert "bob" { isMember := true }
    channels := (∅ : Table Channel).insert "den"
      { name := "den", createdBy := "ann", channelType := .voice }
    roles := (∅ : Table Role).insert BUILTIN_EVERYONE_ROLE_ID { name := "everyone" }
    rolePermissions := {(BUILTIN_EVERYONE_ROLE_ID, VOICE_JOIN)} }

def pairEnv : JoinEnv := { now := 1, instant := 1, token := "token", roomIds := fun _ => "" }

theorem pairDb_admits (h : Hub) (same : h.db = pairDb) (pk : String) (member : pk = "ann" ∨ pk = "bob") :
    admitJoin h { publicKey := pk } "den" pairEnv = (h, .ok "den") := by
  have passed : joinRefusal h { publicKey := pk } "den" pairEnv.now = none := by
    have may : (channelPermissions pairDb pk "den").has VOICE_JOIN = true := by
      rcases member with rfl | rfl <;> decide
    have muted : pairDb.isVoiceMuted pk = false := by simp [Db.isVoiceMuted, pairDb]
    have mutedHere : pairDb.isChannelVoiceMuted "den" pk = false := by
      simp [Db.isChannelVoiceMuted, pairDb]
    have running : pairDb.squadRoomEventEnded "den" pairEnv.now = false := by decide
    simp [joinRefusal, same, may, muted, mutedHere, running]
  have ordinary : pairDb.setEmptySince "den" none = pairDb :=
    pairDb.setEmptySince_ordinary "den" none { name := "den", createdBy := "ann", channelType := .voice }
      (by decide) rfl
  rw [admitJoin_existing h _ _ _ passed (by rw [same]; decide), same, ordinary, ← same]

-- Ann has sat in the den with id 0 while Bob joined and left it n times.
structure Churned (n : Nat) (h : Hub) : Prop where
  db : h.db = pairDb
  full : Nested.NoEmpty h.voice.voiceChannels
  annId : h.voice.senderId "den" "ann" = some 0
  annIn : h.voice.inRoster "den" "ann"
  bobOut : ∀ c, ¬ h.voice.inRoster c "bob"
  counter : h.voice.nextId "den" = UInt16.ofNat (n + 1)

theorem churned_start :
    Churned 0 (run voiceStep { db := pairDb } [.join { publicKey := "ann" } "den" pairEnv]) := by
  have step : run voiceStep { db := pairDb } [.join { publicKey := "ann" } "den" pairEnv] =
      (enterRoom { db := pairDb } { publicKey := "ann" } "den" pairEnv).hub := by
    simp [voiceStep, handleVoiceJoin, pairDb_admits { db := pairDb } rfl "ann" (.inl rfl)]
  have alone : evictStale { db := pairDb } "ann" pairEnv.now = { db := pairDb } :=
    evictStale_absent _ "ann" _ (by simp)
  rw [step]
  constructor
  · rw [(enterRoom_frame _ _ _ _).1, alone]
  · exact enterRoom_noEmpty _ _ _ _ Nested.empty_noEmpty
  · simp [senderId_enterRoom, alone, VoiceState.nextId]
  · simp [inRoster_enterRoom]
  · intro c
    simp [inRoster_enterRoom]
  · rw [nextId_enterRoom, alone]
    decide

theorem churned_cycle (n : Nat) (h : Hub) (churned : Churned n h) :
    Churned (n + 1) (run voiceStep h
      [.join { publicKey := "bob" } "den" pairEnv, .leave "bob" "den" 1]) := by
  have admitted := pairDb_admits h churned.db "bob" (.inr rfl)
  have absent := evictStale_absent h "bob" pairEnv.now churned.bobOut
  simp only [run_cons, run_nil, voiceStep, handleVoiceJoin, admitted]
  have annStays : (enterRoom h { publicKey := "bob" } "den" pairEnv).hub.voice.inRoster "den" "ann" := by
    simpa [inRoster_enterRoom] using churned.annIn
  have full := enterRoom_noEmpty h { publicKey := "bob" } "den" pairEnv churned.full
  constructor
  · have occupied : ¬ (enterRoom h { publicKey := "bob" } "den" pairEnv).hub.voice.becomesEmpty
        "bob" "den" := by
      rw [VoiceState.becomesEmpty_iff _ _ _ full]
      intro only
      have same := only.2 "ann" annStays
      revert same
      decide
    rw [leaveVoice_db, if_neg occupied, (enterRoom_frame _ _ _ _).1]
    simp only [absent, churned.db]
  · rw [leaveVoice_voice]
    exact VoiceState.leave_noEmpty _ _ _ full
  · simpa [VoiceState.senderId_leave, senderId_enterRoom] using churned.annId
  · rw [leaveVoice_voice, VoiceState.inRoster_leave]
    exact ⟨annStays, by decide⟩
  · intro c
    simp [VoiceState.inRoster_leave, inRoster_enterRoom]
  · have stays : ((enterRoom h { publicKey := "bob" } "den" pairEnv).hub.voice.leave "bob" "den").occupied
        "den" := by
      refine ⟨"ann", ?_⟩
      rw [VoiceState.inRoster_leave]
      exact ⟨annStays, by decide⟩
    have kept := VoiceState.nextSenderId_leave _ _ _ full "den" stays
    rw [VoiceState.nextId, leaveVoice_voice, kept, ← VoiceState.nextId, nextId_enterRoom]
    simp only [absent, churned.counter]
    apply UInt16.toNat_inj.mp
    simp only [UInt16.toNat_add, UInt16.toNat_ofNat', UInt16.toNat_ofNat]
    omega

def churn : Nat → List VoiceStep
  | 0 => [.join { publicKey := "ann" } "den" pairEnv]
  | n + 1 => churn n ++ [.join { publicKey := "bob" } "den" pairEnv, .leave "bob" "den" 1]

theorem churn_churned (n : Nat) : Churned n (run voiceStep { db := pairDb } (churn n)) := by
  induction n with
  | zero => exact churned_start
  | succ n ih =>
    rw [churn, run_append]
    exact churned_cycle n _ ih

theorem churned_collides (n : Nat) (h : Hub) (churned : Churned n h) (wrapped : UInt16.ofNat (n + 1) = 0) :
    ¬ IdsIdentify (voiceStep h (.join { publicKey := "bob" } "den" pairEnv)) := by
  intro identify
  simp only [voiceStep, handleVoiceJoin, pairDb_admits h churned.db "bob" (.inr rfl)] at identify
  have same := identify.1 "den" "bob" "ann" 0
  simp only [senderId_enterRoom, evictStale_absent h "bob" pairEnv.now churned.bobOut] at same
  have shared := same (by simp [churned.counter, wrapped]) (by simpa using churned.annId)
  revert shared
  decide

-- 65535 rejoins later the u16 counter is back at 0 and Bob is given Ann's id.
theorem idsIdentify_wraps :
    ¬ ∀ (db : Db) (config : VoiceConfig) (acts : List VoiceStep),
      IdsIdentify (run voiceStep { db := db, config := config } acts) := by
  intro always
  obtain ⟨acts, churned⟩ : ∃ acts, Churned 65535 (run voiceStep { db := pairDb } acts) :=
    ⟨churn 65535, churn_churned 65535⟩
  have identify := always pairDb {} (acts ++ [.join { publicKey := "bob" } "den" pairEnv])
  rw [run_append] at identify
  exact churned_collides 65535 _ churned (by decide) identify

end Wavvon
