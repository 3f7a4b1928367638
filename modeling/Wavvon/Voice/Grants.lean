import Wavvon.Voice.Sockets

set_option autoImplicit false

namespace Wavvon

open Tables
open Std (ExtTreeMap)
open Runs

-- One queued assignment of an event that has just started, as the reminder worker applies it.
def applyDueEventMove (h : Hub) (row : MoveAssignment) : Hub :=
  match (h.voice.channelsOf row.userPubkey).head? with
  | none => h
  | some sourceChannelId =>
    if sourceChannelId = row.targetChannelId then h
    else pushEventMove h row.userPubkey row.eventId row.targetChannelId sourceChannelId row.assignedBy

/-- Everything that mints a presence grant or takes one away, and the sockets it depends on. -/
inductive GrantStep where
  | socket (a : SocketStep)
  | move (socket : Nat) (targetPubkey targetChannelId : String) (eventId : Option String) (now : Int)
  | dueMove (row : MoveAssignment)
  | sweep (now : Int)

namespace Server

-- `voice_move` is outside what an alliance visitor may send.
def grantStep (s : Server) : GrantStep → Server
  | .socket a => s.step a
  | .move socket targetPubkey targetChannelId eventId now =>
    match s.sockets[socket]? with
    | none => s
    | some cs =>
      if cs.allianceVoiceChannel.isSome then s
      else
        { s with hub := (handleVoiceMove s.hub cs.publicKey targetPubkey targetChannelId eventId now).1 }
  | .dueMove row => { s with hub := applyDueEventMove s.hub row }
  | .sweep now => { s with hub := runSweep s.hub now }

def IsOpen (s : Server) (pk : String) : Prop :=
  ∃ (socket : Nat) (cs : ConnState), s.sockets[socket]? = some cs ∧ cs.publicKey = pk

def GrantsEnd (s : Server) : Prop :=
  ∀ pk, ¬ s.IsOpen pk → pk ∉ s.hub.voice.stagingVoiceGrants

end Server

-- A live move puts its target where it could not go by itself.
def MoveMints (h : Hub) (mover targetPubkey targetChannelId : String) : Prop :=
  (channelPermissions h.db mover targetChannelId).has VOICE_MOVE_MEMBERS = true ∧
    h.db.channelType targetChannelId = some .voice ∧ h.voice.channelsOf targetPubkey ≠ [] ∧
    (channelPermissions h.db targetPubkey targetChannelId).has VOICE_JOIN = false

def PushMints (h : Hub) (pubkey targetChannelId assignedBy : String) : Prop :=
  (channelPermissions h.db assignedBy targetChannelId).has VOICE_MOVE_MEMBERS = true ∧
    (∃ row, h.db.channels[targetChannelId]? = some row ∧ row.isCategory = false) ∧
    (channelPermissions h.db pubkey targetChannelId).has MESSAGES_READ = false

def DueMoveMints (h : Hub) (row : MoveAssignment) : Prop :=
  (∃ source, (h.voice.channelsOf row.userPubkey).head? = some source ∧ source ≠ row.targetChannelId) ∧
    PushMints h row.userPubkey row.targetChannelId row.assignedBy

/--
The last socket of a key closes with no grant left but that of the room it is in, and whoever is
moved under a grant has a socket open.
-/
def GrantsBacked (s : Server) : GrantStep → Prop
  | .socket (.disconnect socket _) =>
    ∀ cs : ConnState, s.sockets[socket]? = some cs →
      (∀ (other : Nat) (held : ConnState), s.sockets[other]? = some held →
        held.publicKey = cs.publicKey → other = socket) →
      ∀ c, s.hub.voice.granted cs.publicKey c → cs.voiceChannel = some c
  | .move socket targetPubkey targetChannelId _ _ =>
    ∀ cs : ConnState, s.sockets[socket]? = some cs → cs.allianceVoiceChannel = none →
      MoveMints s.hub cs.publicKey targetPubkey targetChannelId → s.IsOpen targetPubkey
  | .dueMove row => DueMoveMints s.hub row → s.IsOpen row.userPubkey
  | _ => True

namespace VoiceState

theorem granted_leave (v : VoiceState) (publicKey channelId pk c : String) :
    (v.leave publicKey channelId).granted pk c =
      if pk = publicKey ∧ c = channelId then false else v.granted pk c := by
  simp only [granted, leave, Nested.get_drop]
  split <;> rfl

theorem granted_grantPresence (v : VoiceState) (publicKey channelId pk c : String) :
    (grantPresence v publicKey channelId).granted pk c =
      if pk = publicKey ∧ c = channelId then true else v.granted pk c := by
  simp only [granted, grantPresence, withGrants, Nested.get_put]
  split <;> rfl

end VoiceState

-- The grants may differ for one key only, and still have no empty entry.
structure GrantsOnly (publicKey : String) (before after : VoiceState) : Prop where
  others : ∀ pk c, pk ≠ publicKey → after.granted pk c = before.granted pk c
  full : Nested.NoEmpty before.stagingVoiceGrants → Nested.NoEmpty after.stagingVoiceGrants

namespace GrantsOnly

variable {publicKey : String} {first second third : VoiceState}

theorem refl : GrantsOnly publicKey first first :=
  ⟨fun _ _ _ => rfl, id⟩

theorem trans (early : GrantsOnly publicKey first second) (late : GrantsOnly publicKey second third) :
    GrantsOnly publicKey first third :=
  ⟨fun pk c other => (late.others pk c other).trans (early.others pk c other),
    fun full => late.full (early.full full)⟩

theorem leave (channelId : String) : GrantsOnly publicKey first (first.leave publicKey channelId) := by
  constructor
  · intro pk c other
    rw [VoiceState.granted_leave, if_neg (fun both => other both.1)]
  · intro full
    exact Nested.drop_noEmpty full publicKey channelId

theorem grant (channelId : String) : GrantsOnly publicKey first (grantPresence first publicKey channelId) := by
  constructor
  · intro pk c other
    rw [VoiceState.granted_grantPresence, if_neg (fun both => other both.1)]
  · intro full
    exact Nested.put_noEmpty full publicKey channelId ()

end GrantsOnly

theorem leaveAll_grants (h : Hub) (publicKey : String) (channels : List String) (now : Int) :
    GrantsOnly publicKey h.voice (leaveAll h publicKey channels now).voice := by
  unfold leaveAll
  induction channels generalizing h with
  | nil => exact .refl
  | cons channelId rest ih =>
    rw [List.foldl_cons]
    have first : GrantsOnly publicKey h.voice (leaveVoice h publicKey channelId now).voice := by
      rw [leaveVoice_voice]
      exact .leave channelId
    exact first.trans (ih _)

section

variable {h : Hub} {pubkey targetChannelId assignedBy : String}

theorem pushEventMove_minted (mints : PushMints h pubkey targetChannelId assignedBy)
    (eventId source : String) :
    (pushEventMove h pubkey eventId targetChannelId source assignedBy).voice =
      grantPresence h.voice pubkey targetChannelId := by
  obtain ⟨mayMove, ⟨row, found, leaf⟩, unreadable⟩ := mints
  simp [pushEventMove, mayMove, found, leaf, unreadable, sendVoiceMove]

theorem pushEventMove_spared (spares : ¬ PushMints h pubkey targetChannelId assignedBy)
    (eventId source : String) :
    (pushEventMove h pubkey eventId targetChannelId source assignedBy).voice = h.voice := by
  unfold pushEventMove
  split
  next mayMove =>
    split
    · rfl
    next row found =>
      split
      · rfl
      next leaf =>
        dsimp only [sendVoiceMove]
        split
        · rfl
        next unreadable =>
          have mints : PushMints h pubkey targetChannelId assignedBy :=
            ⟨mayMove, ⟨row, found, by simpa using leaf⟩, by simpa using unreadable⟩
          exact absurd mints spares
  · rfl

theorem pushEventMove_grants (eventId source : String) :
    GrantsOnly pubkey h.voice
      (pushEventMove h pubkey eventId targetChannelId source assignedBy).voice := by
  by_cases mints : PushMints h pubkey targetChannelId assignedBy
  · rw [pushEventMove_minted mints]
    exact .grant targetChannelId
  · rw [pushEventMove_spared mints]
    exact .refl

theorem handleVoiceMove_minted {mover targetPubkey : String}
    (mints : MoveMints h mover targetPubkey targetChannelId) (eventId : Option String) (now : Int) :
    (handleVoiceMove h mover targetPubkey targetChannelId eventId now).1.voice =
      grantPresence h.voice targetPubkey targetChannelId := by
  obtain ⟨mayMove, voice, present, barred⟩ := mints
  obtain ⟨source, rest, rooms⟩ := List.exists_cons_of_ne_nil present
  obtain ⟨row, found, kind⟩ := Option.map_eq_some_iff.mp voice
  simp [handleVoiceMove, mayMove, found, kind, rooms, barred, sendVoiceMove]

theorem handleVoiceMove_spared {mover targetPubkey : String}
    (spares : ¬ MoveMints h mover targetPubkey targetChannelId) (eventId : Option String) (now : Int) :
    (handleVoiceMove h mover targetPubkey targetChannelId eventId now).1.voice = h.voice := by
  unfold handleVoiceMove
  split
  · rfl
  next mayMove =>
    split
    · rfl
    next row found =>
      split
      · rfl
      next voice =>
        split
        · rfl
        · dsimp only
          split <;> rfl
        next source present =>
          dsimp only [sendVoiceMove]
          split
          · rfl
          next barred =>
            have mints : MoveMints h mover targetPubkey targetChannelId := by
              refine ⟨by simpa using mayMove, ?_, ?_, by simpa using barred⟩
              · simpa [Db.channelType, found] using voice
              · intro none
                rw [none] at present
                cases present
            exact absurd mints spares

theorem applyDueEventMove_minted {row : MoveAssignment} (mints : DueMoveMints h row) :
    (applyDueEventMove h row).voice = grantPresence h.voice row.userPubkey row.targetChannelId := by
  obtain ⟨⟨source, found, apart⟩, minted⟩ := mints
  simp only [applyDueEventMove, found, apart, if_false]
  exact pushEventMove_minted minted row.eventId source

theorem applyDueEventMove_spared {row : MoveAssignment} (spares : ¬ DueMoveMints h row) :
    (applyDueEventMove h row).voice = h.voice := by
  unfold applyDueEventMove
  split
  · rfl
  next source found =>
    split
    · rfl
    next apart =>
      refine pushEventMove_spared (fun minted => spares ⟨⟨source, found, apart⟩, minted⟩) _ _

end

theorem runSweep_grants (h : Hub) (now : Int) :
    (runSweep h now).voice.stagingVoiceGrants = h.voice.stagingVoiceGrants := by
  unfold runSweep
  split
  · rfl
  next destination found =>
    generalize afkCandidates h destination.1 now = candidates
    clear found
    induction candidates generalizing h with
    | nil => rfl
    | cons candidate rest ih =>
      rw [List.foldl_cons, ih]
      unfold sweepCandidate
      split <;> rfl

theorem enterRoom_grants (h : Hub) (cs : ConnState) (room : String) (env : JoinEnv) :
    GrantsOnly cs.publicKey h.voice (enterRoom h cs room env).hub.voice := by
  have evicted := leaveAll_grants h cs.publicKey (h.voice.channelsOf cs.publicKey) env.now
  refine evicted.trans ?_
  -- Entering touches no grant; the queued move it sets off grants the joiner only.
  unfold enterRoom applyPendingVoiceMoveAssignment
  dsimp only
  split
  · rw [reResolve_voice]
    exact ⟨fun _ _ _ => rfl, id⟩
  next row _ =>
    refine GrantsOnly.trans ?_ (pushEventMove_grants row.eventId room)
    dsimp only
    rw [reResolve_voice]
    exact ⟨fun _ _ _ => rfl, id⟩

theorem handleVoiceJoin_grants (h : Hub) (cs : ConnState) (channelId : String) (env : JoinEnv) :
    GrantsOnly cs.publicKey h.voice (handleVoiceJoin h cs channelId env).hub.voice := by
  rcases handleVoiceJoin_cases h cs channelId env with
    ⟨message, refused, outcome⟩ | ⟨room, admitted, outcome⟩
  · rw [outcome, admitJoin_voice]
    exact .refl
  · rw [outcome]
    have entered := enterRoom_grants (admitJoin h cs channelId env).1 cs room env
    rwa [admitJoin_voice] at entered

namespace Server

structure GrantsHeld (s : Server) : Prop where
  full : Nested.NoEmpty s.hub.voice.stagingVoiceGrants
  ended : ∀ pk, ¬ s.IsOpen pk → ∀ c, s.hub.voice.granted pk c = false

theorem GrantsHeld.grantsEnd {s : Server} (held : s.GrantsHeld) : s.GrantsEnd := by
  intro pk closed listed
  obtain ⟨c, _, found⟩ := (Nested.mem_iff held.full pk).mp listed
  have ended := held.ended pk closed c
  rw [VoiceState.granted, found] at ended
  cases ended

theorem GrantsEnd.not_granted {s : Server} (ends : s.GrantsEnd) {pk : String} (closed : ¬ s.IsOpen pk)
    (c : String) : s.hub.voice.granted pk c = false := by
  by_contra granted
  rw [Bool.not_eq_false, VoiceState.granted, Option.isSome_iff_exists] at granted
  obtain ⟨_, found⟩ := granted
  exact ends pk closed (Nested.mem_of_get found)

-- Grants that change for one key only stay held while that key has a socket open afterwards.
theorem GrantsHeld.only {s t : Server} (held : s.GrantsHeld) (pk : String)
    (grants : GrantsOnly pk s.hub.voice t.hub.voice) (isOpen : t.IsOpen pk)
    (opens : ∀ k, s.IsOpen k → t.IsOpen k) : t.GrantsHeld := by
  refine ⟨grants.full held.full, ?_⟩
  intro k closed c
  have other : k ≠ pk := by
    rintro rfl
    exact closed isOpen
  rw [grants.others k c other]
  exact held.ended k (fun before => closed (opens k before)) c

theorem GrantsHeld.unchanged {s : Server} (held : s.GrantsHeld) {hub : Hub}
    (same : hub.voice.stagingVoiceGrants = s.hub.voice.stagingVoiceGrants) :
    ({ s with hub := hub } : Server).GrantsHeld := by
  constructor
  · dsimp only
    rw [same]
    exact held.full
  · intro pk closed c
    dsimp only
    rw [VoiceState.granted, same]
    exact held.ended pk closed c

theorem isOpen_insert {s : Server} {socket : Nat} {cs : ConnState} (hub : Hub) (pk : String) :
    ({ hub := hub, sockets := s.sockets.insert socket cs } : Server).IsOpen pk ↔
      cs.publicKey = pk ∨ ∃ (other : Nat) (held : ConnState),
        other ≠ socket ∧ s.sockets[other]? = some held ∧ held.publicKey = pk := by
  constructor
  · rintro ⟨other, held, found, own⟩
    rw [ExtTreeMap.getElem?_insert] at found
    split at found
    · cases found
      exact .inl own
    next apart =>
      refine .inr ⟨other, held, ?_, found, own⟩
      rintro rfl
      exact apart Std.ReflCmp.compare_self
  · rintro (own | ⟨other, held, apart, found, own⟩)
    · exact ⟨socket, cs, by simp, own⟩
    · exact ⟨other, held, by simp [ExtTreeMap.getElem?_insert, apart.symm, found], own⟩

-- A socket that keeps its key keeps every key's sockets open.
theorem isOpen_kept {s : Server} {socket : Nat} {cs : ConnState}
    (found : s.sockets[socket]? = some cs) (after : ConnState) (same : after.publicKey = cs.publicKey)
    (hub : Hub) (pk : String) (before : s.IsOpen pk) :
    ({ hub := hub, sockets := s.sockets.insert socket after } : Server).IsOpen pk := by
  rw [isOpen_insert]
  obtain ⟨other, held, listed, own⟩ := before
  by_cases here : other = socket
  · subst here
    rw [found] at listed
    cases listed
    exact .inl (same.trans own)
  · exact .inr ⟨other, held, here, listed, own⟩

theorem connect_grants {s : Server} (held : s.GrantsHeld) (socket : Nat) (cs : ConnState) :
    (s.step (.connect socket cs)).GrantsHeld := by
  simp only [step]
  split
  · exact held
  next unused =>
    refine ⟨held.full, ?_⟩
    intro pk closed c
    refine held.ended pk (fun before => closed ?_) c
    obtain ⟨other, conn, listed, own⟩ := before
    refine (isOpen_insert s.hub pk).mpr (.inr ⟨other, conn, ?_, listed, own⟩)
    rintro rfl
    exact unused (by simp [ExtTreeMap.mem_iff_isSome_getElem?, listed])

theorem join_grants {s : Server} (held : s.GrantsHeld) (socket : Nat) (channelId : String)
    (env : JoinEnv) : (s.step (.join socket channelId env)).GrantsHeld := by
  simp only [step]
  cases found : s.sockets[socket]? with
  | none => exact held
  | some cs =>
    have same : (handleVoiceJoin s.hub cs channelId env).conn.publicKey = cs.publicKey := by
      rcases handleVoiceJoin_cases s.hub cs channelId env with ⟨_, _, outcome⟩ | ⟨_, _, outcome⟩
      · rw [outcome]
      · rw [outcome, enterRoom_conn]
    have opens := isOpen_kept found _ same (handleVoiceJoin s.hub cs channelId env).hub
    exact held.only cs.publicKey (handleVoiceJoin_grants s.hub cs channelId env)
      (opens _ ⟨socket, cs, found, rfl⟩) opens

theorem leave_grants {s : Server} (held : s.GrantsHeld) (socket : Nat) (channelId : String) (now : Int) :
    (s.step (.leave socket channelId now)).GrantsHeld := by
  simp only [step]
  cases found : s.sockets[socket]? with
  | none => exact held
  | some cs =>
    simp only [handleVoiceLeave]
    have grants : GrantsOnly cs.publicKey s.hub.voice (leaveVoice s.hub cs.publicKey channelId now).voice := by
      rw [leaveVoice_voice]
      exact .leave channelId
    have opens := isOpen_kept found { cs with voiceChannel := none } rfl
      (leaveVoice s.hub cs.publicKey channelId now)
    exact held.only cs.publicKey grants (opens _ ⟨socket, cs, found, rfl⟩) opens

theorem handleDisconnect_granted (h : Hub) (cs : ConnState) (now : Int) (pk c : String) :
    (handleDisconnect h cs now).voice.granted pk c =
      if pk = cs.publicKey ∧ cs.voiceChannel = some c then false else h.voice.granted pk c := by
  unfold handleDisconnect
  split
  next idle => simp [idle]
  next channelId recorded =>
    rw [leaveVoice_voice, VoiceState.granted_leave, recorded]
    simp only [Option.some.injEq, eq_comm]

theorem handleDisconnect_full (h : Hub) (cs : ConnState) (now : Int)
    (full : Nested.NoEmpty h.voice.stagingVoiceGrants) :
    Nested.NoEmpty (handleDisconnect h cs now).voice.stagingVoiceGrants := by
  unfold handleDisconnect
  split
  · exact full
  · rw [leaveVoice_voice]
    exact Nested.drop_noEmpty full _ _

theorem isOpen_erase {s : Server} {socket : Nat} (hub : Hub) (pk : String) :
    ({ hub := hub, sockets := s.sockets.erase socket } : Server).IsOpen pk ↔
      ∃ (other : Nat) (held : ConnState),
        other ≠ socket ∧ s.sockets[other]? = some held ∧ held.publicKey = pk := by
  simp only [IsOpen, ExtTreeMap.getElem?_erase]
  constructor
  · rintro ⟨other, held, found, own⟩
    split at found
    · cases found
    next apart =>
      refine ⟨other, held, ?_, found, own⟩
      rintro rfl
      exact apart Std.ReflCmp.compare_self
  · rintro ⟨other, held, apart, found, own⟩
    exact ⟨other, held, by simp [apart.symm, found], own⟩

theorem disconnect_grants {s : Server} (held : s.GrantsHeld) (socket : Nat) (now : Int)
    (backed : GrantsBacked s (.socket (.disconnect socket now))) :
    (s.step (.disconnect socket now)).GrantsHeld := by
  simp only [step]
  cases found : s.sockets[socket]? with
  | none => exact held
  | some cs =>
    refine ⟨handleDisconnect_full s.hub cs now held.full, ?_⟩
    intro pk closed c
    rw [isOpen_erase] at closed
    dsimp only
    rw [handleDisconnect_granted]
    split
    · rfl
    next kept =>
      by_contra granted
      rw [Bool.not_eq_false] at granted
      by_cases own : pk = cs.publicKey
      · subst own
        have last := backed cs found (fun other conn listed same => by
          by_contra apart
          exact closed ⟨other, conn, apart, listed, same⟩) c granted
        exact kept ⟨rfl, last⟩
      · have ended := held.ended pk (fun before => ?_) c
        · rw [granted] at ended
          cases ended
        · obtain ⟨other, conn, listed, same⟩ := before
          refine closed ⟨other, conn, ?_, listed, same⟩
          rintro rfl
          rw [found] at listed
          cases listed
          exact own same.symm

theorem grantStep_held (s : Server) (a : GrantStep) (held : s.GrantsHeld) (backed : GrantsBacked s a) :
    (s.grantStep a).GrantsHeld := by
  cases a with
  | socket a =>
    cases a with
    | connect socket cs => exact connect_grants held socket cs
    | join socket channelId env => exact join_grants held socket channelId env
    | leave socket channelId now => exact leave_grants held socket channelId now
    | disconnect socket now => exact disconnect_grants held socket now backed
    | rewrite db => exact ⟨held.full, held.ended⟩
  | move socket targetPubkey targetChannelId eventId now =>
    simp only [grantStep]
    cases found : s.sockets[socket]? with
    | none => exact held
    | some cs =>
      dsimp only
      split
      · exact held
      next member =>
        by_cases mints : MoveMints s.hub cs.publicKey targetPubkey targetChannelId
        · have isOpen := backed cs found (by simpa using member) mints
          refine held.only targetPubkey ?_ isOpen fun k before => before
          dsimp only
          rw [handleVoiceMove_minted mints]
          exact .grant targetChannelId
        · refine held.unchanged ?_
          rw [handleVoiceMove_spared mints]
  | dueMove row =>
    by_cases mints : DueMoveMints s.hub row
    · refine held.only row.userPubkey ?_ (backed mints) fun k before => before
      simp only [grantStep, applyDueEventMove_minted mints]
      exact .grant row.targetChannelId
    · refine held.unchanged ?_
      rw [applyDueEventMove_spared mints]
  | sweep now => exact held.unchanged (runSweep_grants s.hub now)

-- A grant minted for a key without a socket, or kept past its last socket, has nothing left to end it.
theorem grantStep_breaks (s : Server) (a : GrantStep) (unbacked : ¬ GrantsBacked s a) :
    ¬ (s.grantStep a).GrantsEnd := by
  intro ends
  apply unbacked
  cases a with
  | socket a =>
    cases a with
    | disconnect socket now =>
      intro cs found last c granted
      by_contra elsewhere
      have closed : ¬ (s.grantStep (.socket (.disconnect socket now))).IsOpen cs.publicKey := by
        simp only [grantStep, step, found]
        rw [isOpen_erase]
        rintro ⟨other, conn, apart, listed, same⟩
        exact apart (last other conn listed same)
      have ended := ends.not_granted closed c
      simp only [grantStep, step, found] at ended
      rw [handleDisconnect_granted, if_neg (fun both => elsewhere both.2), granted] at ended
      cases ended
    | connect => trivial
    | join => trivial
    | leave => trivial
    | rewrite => trivial
  | move socket targetPubkey targetChannelId eventId now =>
    intro cs found member mints
    by_contra closed
    have moved : s.grantStep (.move socket targetPubkey targetChannelId eventId now) =
        { s with
          hub := (handleVoiceMove s.hub cs.publicKey targetPubkey targetChannelId eventId now).1 } := by
      simp [grantStep, found, member]
    rw [moved] at ends
    have ended := ends.not_granted closed targetChannelId
    dsimp only at ended
    rw [handleVoiceMove_minted mints, VoiceState.granted_grantPresence, if_pos ⟨rfl, rfl⟩] at ended
    cases ended
  | dueMove row =>
    intro mints
    by_contra closed
    have ended := ends.not_granted closed row.targetChannelId
    simp only [grantStep] at ended
    rw [applyDueEventMove_minted mints, VoiceState.granted_grantPresence, if_pos ⟨rfl, rfl⟩] at ended
    cases ended
  | sweep now => trivial

/--
No grant outlives the last socket of its key exactly in the runs where every last socket closes with
no grant but that of the room it is in, and nobody without a socket is moved under a grant.
-/
theorem grantsEnd_iff (db : Db) (config : VoiceConfig) (acts : List GrantStep) :
    (∀ front, front <+: acts → (run grantStep (boot db config) front).GrantsEnd) ↔
      Meets grantStep GrantsBacked (boot db config) acts := by
  refine always_iff_meets GrantsHeld GrantsEnd (fun _ held => held.grantsEnd) grantStep_held
    (fun s a _ => grantStep_breaks s a) ?_ acts
  refine ⟨Nested.empty_noEmpty, ?_⟩
  intro pk _ c
  simp [boot, VoiceState.granted]

end Server

-- Bob may join the hall only; ann moves him to the den and he closes his socket instead.
def denDb : Db :=
  { callDb with
    users := callDb.users.insert "bob" { isMember := true }
    roles := callDb.roles.insert BUILTIN_EVERYONE_ROLE_ID { name := "everyone" }
    overwrites := [⟨"hall", BUILTIN_EVERYONE_ROLE_ID, VOICE_JOIN, true⟩] }

def declinedMove : List GrantStep :=
  [.socket (.connect 0 { publicKey := "ann" }), .socket (.connect 1 { publicKey := "bob" }),
    .socket (.join 1 "hall" (callEnv 1 "t1")), .move 0 "bob" "den" none 2, .socket (.disconnect 1 3)]

def secondVisit : List GrantStep :=
  [.socket (.connect 2 { publicKey := "bob" }), .socket (.join 2 "den" (callEnv 4 "t2"))]

theorem grantsEnd_declined_move :
    (channelPermissions denDb "bob" "den").has VOICE_JOIN = false ∧
      ¬ (run Server.grantStep (Server.boot denDb {}) declinedMove).GrantsEnd ∧
      (run Server.grantStep (Server.boot denDb {}) (declinedMove ++ secondVisit)).hub.voice.inRoster
        "den" "bob" := by
  refine ⟨by decide, ?_, by decide⟩
  intro ends
  refine ends "bob" ?_ (by decide)
  rintro ⟨socket, cs, found, own⟩
  have sockets : (run Server.grantStep (Server.boot denDb {}) declinedMove).sockets =
      (∅ : ExtTreeMap Nat ConnState).insert 0 { publicKey := "ann" } := by
    decide
  rw [sockets, ExtTreeMap.getElem?_insert] at found
  split at found
  · cases found
    exact absurd own (by decide)
  · simp at found

end Wavvon
