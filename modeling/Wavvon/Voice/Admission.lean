import Wavvon.Voice.Join

set_option autoImplicit false

namespace Wavvon

open Tables

def IsVoiceTarget (kind : Option ChannelType) : Prop :=
  kind = some .voice ∨ kind = some .spawner

instance (kind : Option ChannelType) : Decidable (IsVoiceTarget kind) :=
  inferInstanceAs (Decidable (_ ∨ _))

/-- The admission question of the join: the channel has voice, and the key may be in it. -/
def PassesGate (h : Hub) (pk channelId : String) : Prop :=
  IsVoiceTarget (h.db.channelType channelId) ∧
    ((channelPermissions h.db pk channelId).has VOICE_JOIN ∨ h.voice.granted pk channelId)

instance (h : Hub) (pk channelId : String) : Decidable (PassesGate h pk channelId) :=
  inferInstanceAs (Decidable (_ ∧ _))

-- For a member's socket, mutes and an ended event apart, the gate is the only refusal.
theorem joinRefusal_iff (h : Hub) (cs : ConnState) (channelId : String) (now : Int)
    (full : cs.isMiniApp = false) (member : cs.allianceVoiceChannel = none)
    (unmuted : h.db.isVoiceMuted cs.publicKey = false)
    (unmutedHere : h.db.isChannelVoiceMuted channelId cs.publicKey = false)
    (running : h.db.squadRoomEventEnded channelId now = false) :
    PassesGate h cs.publicKey channelId ↔
      joinRefusal h cs channelId now = none ∧ IsVoiceTarget (h.db.channelType channelId) := by
  unfold PassesGate joinRefusal
  simp only [full, member, unmuted, unmutedHere, running]
  cases (channelPermissions h.db cs.publicKey channelId).has VOICE_JOIN <;>
    cases h.voice.granted cs.publicKey channelId <;> simp

structure Push where
  hub : Hub
  pubkey : String
  move : VoiceMove

/-- The moves a step appended to the log, each with the state right after it. -/
def newMoves (before after : Hub) : List Push :=
  (after.outbox.chatTx.drop before.outbox.chatTx.length).filterMap fun entry =>
    match entry with
    | (.voiceMove pubkey, .voiceMove move) => some { hub := after, pubkey := pubkey, move := move }
    | _ => none

def sweepPushes (afkChannel afkName : String) (now : Int) : Hub → List (String × String) → List Push
  | _, [] => []
  | h, candidate :: rest =>
    let after := sweepCandidate afkChannel afkName now h candidate
    newMoves h after ++ sweepPushes afkChannel afkName now after rest

inductive MoveSite where
  | live (mover targetPubkey targetChannelId : String) (eventId : Option String) (now : Int)
  | queued (pubkey eventId targetChannelId sourceChannelId assignedBy : String)
  | sweep (now : Int)

def MoveSite.pushes (h : Hub) : MoveSite → List Push
  | .live mover targetPubkey targetChannelId eventId now =>
    newMoves h (handleVoiceMove h mover targetPubkey targetChannelId eventId now).1
  | .queued pubkey eventId targetChannelId sourceChannelId assignedBy =>
    newMoves h (pushEventMove h pubkey eventId targetChannelId sourceChannelId assignedBy)
  | .sweep now =>
    match afkDestination h.db with
    | none => []
    | some destination =>
      sweepPushes destination.1 destination.2 now h (afkCandidates h destination.1 now)

def MoveSite.Obeyable (h : Hub) : MoveSite → Prop
  | .live _ _ _ _ _ => True
  | .queued pubkey _ targetChannelId _ assignedBy =>
    (channelPermissions h.db assignedBy targetChannelId).has VOICE_MOVE_MEMBERS →
    ∀ row, h.db.channels[targetChannelId]? = some row → row.isCategory = false →
      IsVoiceTarget (some row.channelType) ∧
        ((channelPermissions h.db pubkey targetChannelId).has VOICE_JOIN ∨
          ¬ (channelPermissions h.db pubkey targetChannelId).has MESSAGES_READ ∨
          h.voice.granted pubkey targetChannelId)
  | .sweep now =>
    ∀ destination, afkDestination h.db = some destination →
      ∀ candidate ∈ afkCandidates h destination.1 now,
        (channelPermissions h.db candidate.2 destination.1).has VOICE_JOIN →
          IsVoiceTarget (h.db.channelType destination.1)

@[simp] theorem newMoves_same (before after : Hub) (same : after.outbox = before.outbox) :
    newMoves before after = [] := by
  simp [newMoves, same]

theorem newMoves_send (h : Hub) (voice : VoiceState) (pubkey : String) (move : VoiceMove) :
    newMoves h (sendVoiceMove { h with voice := voice } pubkey move) =
      [{ hub := sendVoiceMove { h with voice := voice } pubkey move, pubkey := pubkey, move := move }] := by
  simp [newMoves, sendVoiceMove]

theorem granted_grantPresence (v : VoiceState) (pk channelId : String) :
    (grantPresence v pk channelId).granted pk channelId = true := by
  simp [grantPresence, VoiceState.withGrants, VoiceState.granted, Nested.get_put]

theorem channelType_of_row {db : Db} {channelId : String} {row : Channel}
    (found : db.channels[channelId]? = some row) : db.channelType channelId = some row.channelType := by
  simp [Db.channelType, found]

theorem live_passes (h : Hub) (mover targetPubkey targetChannelId : String) (eventId : Option String)
    (now : Int) (push : Push)
    (pushed : push ∈ (MoveSite.live mover targetPubkey targetChannelId eventId now).pushes h) :
    PassesGate push.hub push.pubkey push.move.targetChannelId := by
  simp only [MoveSite.pushes, handleVoiceMove] at pushed
  split at pushed
  next => simp at pushed
  next =>
    split at pushed
    next => simp at pushed
    next row found =>
      split at pushed
      next => simp at pushed
      next isVoice =>
        have kind : row.channelType = .voice := by simpa using isVoice
        split at pushed
        next => simp at pushed
        next => split at pushed <;> simp at pushed
        next source _ _ =>
          dsimp only at pushed
          rw [newMoves_send] at pushed
          obtain rfl := List.mem_singleton.mp pushed
          refine ⟨.inl ?_, ?_⟩
          · simp [sendVoiceMove, channelType_of_row found, kind]
          · dsimp only [sendVoiceMove]
            split
            next may => exact .inl may
            next => exact .inr (granted_grantPresence _ _ _)

theorem queued_passes_iff (h : Hub) (pubkey eventId targetChannelId sourceChannelId assignedBy : String) :
    (∀ push ∈ (MoveSite.queued pubkey eventId targetChannelId sourceChannelId assignedBy).pushes h,
      PassesGate push.hub push.pubkey push.move.targetChannelId) ↔
      (MoveSite.queued pubkey eventId targetChannelId sourceChannelId assignedBy).Obeyable h := by
  simp only [MoveSite.pushes, MoveSite.Obeyable, pushEventMove]
  split
  next may =>
    cases found : h.db.channels[targetChannelId]? with
    | none => simp
    | some row =>
      cases category : row.isCategory with
      | true => simp [category]
      | false =>
        simp only [category, Bool.false_eq_true, if_false]
        rw [newMoves_send]
        simp only [List.mem_singleton, forall_eq, PassesGate, sendVoiceMove, channelType_of_row found]
        cases reads : (channelPermissions h.db pubkey targetChannelId).has MESSAGES_READ with
        | true => simp [may, category]
        | false => simp [may, category, granted_grantPresence]
  next refused => simp [refused]

theorem sweepCandidate_frame (afkChannel afkName : String) (now : Int) (h : Hub)
    (candidate : String × String) :
    (sweepCandidate afkChannel afkName now h candidate).db = h.db := by
  unfold sweepCandidate
  split <;> rfl

theorem sweepCandidate_log (afkChannel afkName : String) (now : Int) (h : Hub)
    (candidate : String × String) :
    (sweepCandidate afkChannel afkName now h candidate).outbox.chatTx = h.outbox.chatTx ++
      (newMoves h (sweepCandidate afkChannel afkName now h candidate)).map fun push =>
        (.voiceMove push.pubkey, .voiceMove push.move) := by
  unfold sweepCandidate
  split
  · simp [newMoves, sendVoiceMove]
  · simp

-- The pushes listed for the sweep are what it appends to the log, in that order.
theorem runSweep_log (h : Hub) (now : Int) :
    (runSweep h now).outbox.chatTx = h.outbox.chatTx ++
      ((MoveSite.sweep now).pushes h).map fun push => (.voiceMove push.pubkey, .voiceMove push.move) := by
  simp only [runSweep, MoveSite.pushes]
  cases afkDestination h.db with
  | none => simp
  | some destination =>
    dsimp only
    generalize afkCandidates h destination.1 now = candidates
    induction candidates generalizing h with
    | nil => simp [sweepPushes]
    | cons candidate rest ih =>
      rw [List.foldl_cons, ih, sweepCandidate_log, sweepPushes, List.map_append, List.append_assoc]

theorem sweepPushes_passes_iff (afkChannel afkName : String) (now : Int) (h : Hub)
    (candidates : List (String × String)) :
    (∀ push ∈ sweepPushes afkChannel afkName now h candidates,
      PassesGate push.hub push.pubkey push.move.targetChannelId) ↔
      ∀ candidate ∈ candidates, (channelPermissions h.db candidate.2 afkChannel).has VOICE_JOIN →
        IsVoiceTarget (h.db.channelType afkChannel) := by
  induction candidates generalizing h with
  | nil => simp [sweepPushes]
  | cons candidate rest ih =>
    simp only [sweepPushes, List.forall_mem_append, List.forall_mem_cons, ih, sweepCandidate_frame]
    apply and_congr_left'
    unfold sweepCandidate
    split
    next may =>
      simp [newMoves, sendVoiceMove, PassesGate, may]
    next refused => simp [refused]

theorem movePushes_iff (h : Hub) (site : MoveSite) :
    (∀ push ∈ site.pushes h, PassesGate push.hub push.pubkey push.move.targetChannelId) ↔
      site.Obeyable h := by
  cases site with
  | live mover targetPubkey targetChannelId eventId now =>
    exact iff_of_true (live_passes h mover targetPubkey targetChannelId eventId now) trivial
  | queued pubkey eventId targetChannelId sourceChannelId assignedBy =>
    exact queued_passes_iff h pubkey eventId targetChannelId sourceChannelId assignedBy
  | sweep now =>
    simp only [MoveSite.pushes, MoveSite.Obeyable]
    cases afkDestination h.db with
    | none => simp
    | some destination =>
      simpa using sweepPushes_passes_iff destination.1 destination.2 now h
        (afkCandidates h destination.1 now)

-- Every member may read the den; only the owner may join its call.
def quietDb : Db :=
  { users := ((∅ : Table User).insert "ann" {}).insert "bob" { isMember := true }
    channels := (∅ : Table Channel).insert "den"
      { name := "den", createdBy := "ann", channelType := .voice }
    roles := ((∅ : Table Role).insert BUILTIN_OWNER_ROLE_ID { name := "owner" }).insert
      BUILTIN_EVERYONE_ROLE_ID { name := "everyone" }
    userRoles := {("ann", BUILTIN_OWNER_ROLE_ID)}
    rolePermissions := {(BUILTIN_EVERYONE_ROLE_ID, MESSAGES_READ)} }

-- The queued move asks for the read permission, so no grant is minted, and the join asks for another.
theorem movePushes_read_only :
    ¬ ∀ (h : Hub) (site : MoveSite), ∀ push ∈ site.pushes h,
      PassesGate push.hub push.pubkey push.move.targetChannelId := by
  intro always
  have passes := always { db := quietDb } (.queued "bob" "raid" "den" "hall" "ann")
  revert passes
  decide

end Wavvon
