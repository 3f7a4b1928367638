import Wavvon.Shared.Runs
import Wavvon.Voice.JoinEffect

set_option autoImplicit false

namespace Wavvon

open Std (ExtTreeMap)
open Runs

def handleVoiceLeave (h : Hub) (cs : ConnState) (channelId : String) (now : Int) : Hub × ConnState :=
  (leaveVoice h cs.publicKey channelId now, { cs with voiceChannel := none })

-- The voice part of the cleanup after a socket's loop has ended.
def handleDisconnect (h : Hub) (cs : ConnState) (now : Int) : Hub :=
  match cs.voiceChannel with
  | none => h
  | some channelId => leaveVoice h cs.publicKey channelId now

structure Server where
  hub : Hub := {}
  sockets : ExtTreeMap Nat ConnState := ∅

inductive SocketStep where
  | connect (socket : Nat) (cs : ConnState)
  | join (socket : Nat) (channelId : String) (env : JoinEnv)
  | leave (socket : Nat) (channelId : String) (now : Int)
  | disconnect (socket : Nat) (now : Int)
  -- Any other request may rewrite the database between two voice steps.
  | rewrite (db : Db)

namespace Server

def step (s : Server) : SocketStep → Server
  | .connect socket cs =>
    if socket ∈ s.sockets then s
    else { s with sockets := s.sockets.insert socket { cs with voiceChannel := none } }
  | .join socket channelId env =>
    match s.sockets[socket]? with
    | none => s
    | some cs =>
      let outcome := handleVoiceJoin s.hub cs channelId env
      { hub := outcome.hub, sockets := s.sockets.insert socket outcome.conn }
  | .leave socket channelId now =>
    match s.sockets[socket]? with
    | none => s
    | some cs =>
      let after := handleVoiceLeave s.hub cs channelId now
      { hub := after.1, sockets := s.sockets.insert socket after.2 }
  | .disconnect socket now =>
    match s.sockets[socket]? with
    | none => s
    | some cs => { hub := handleDisconnect s.hub cs now, sockets := s.sockets.erase socket }
  | .rewrite db => { s with hub := { s.hub with db := db } }

def boot (db : Db) (config : VoiceConfig) : Server :=
  { hub := { db := db, config := config } }

def RosterAgreement (s : Server) : Prop := ∀ pk,
  (∀ c c', s.hub.voice.inRoster c pk → s.hub.voice.inRoster c' pk → c = c') ∧
  ((∃ c, s.hub.voice.inRoster c pk) ↔ pk ∈ s.hub.voice.voiceRelayActive) ∧
  (∀ c, s.hub.voice.inRoster c pk ↔ (s.hub.voice.senderId c pk).isSome) ∧
  ((∀ (socket : Nat) (cs : ConnState), s.sockets[socket]? = some cs → cs.publicKey ≠ pk) →
    ∀ c, ¬ s.hub.voice.inRoster c pk)

/-- The agreement, and the socket whose own record keeps each membership alive. -/
structure Coherent (s : Server) : Prop where
  agrees : s.hub.voice.Agrees
  backed : ∀ c pk, s.hub.voice.inRoster c pk →
    ∃ (socket : Nat) (cs : ConnState),
      s.sockets[socket]? = some cs ∧ cs.publicKey = pk ∧ cs.voiceChannel = some c

theorem Coherent.agreement {s : Server} (coherent : Coherent s) : RosterAgreement s := by
  intro pk
  refine ⟨coherent.agrees.oneRoom pk, coherent.agrees.relay pk, fun c => coherent.agrees.ids c pk, ?_⟩
  intro gone c present
  obtain ⟨socket, cs, isOpen, same, _⟩ := coherent.backed c pk present
  exact gone socket cs isOpen same

theorem boot_coherent (db : Db) (config : VoiceConfig) : Coherent (boot db config) := by
  refine ⟨VoiceState.empty_agrees, ?_⟩
  intro c pk present
  exact absurd present (VoiceState.not_inRoster_empty c pk)

/-- The key is in no room other than the named one. -/
def OnlyIn (v : VoiceState) (pk channelId : String) : Prop :=
  ∀ c, v.inRoster c pk → c = channelId

def NamesOwnRoom (s : Server) : SocketStep → Prop
  | .leave socket channelId _ =>
    ∀ cs : ConnState, s.sockets[socket]? = some cs → OnlyIn s.hub.voice cs.publicKey channelId
  | .disconnect socket _ =>
    ∀ (cs : ConnState) (channelId : String), s.sockets[socket]? = some cs →
      cs.voiceChannel = some channelId → OnlyIn s.hub.voice cs.publicKey channelId
  | _ => True

-- After a leave that names the right room, nobody but the leaver has moved.
theorem inRoster_leave_only {v : VoiceState} {pk channelId : String} (only : OnlyIn v pk channelId)
    (c k : String) : (v.leave pk channelId).inRoster c k ↔ v.inRoster c k ∧ k ≠ pk := by
  rw [VoiceState.inRoster_leave]
  have known := only c
  grind

theorem connect_coherent {s : Server} (coherent : Coherent s) (socket : Nat) (cs : ConnState) :
    Coherent (s.step (.connect socket cs)) := by
  simp only [step]
  split
  next => exact coherent
  next closed =>
    refine ⟨coherent.agrees, ?_⟩
    intro c pk present
    obtain ⟨other, held, isOpen, same, room⟩ := coherent.backed c pk present
    exact ⟨other, held, by grind, same, room⟩

theorem join_coherent {s : Server} (coherent : Coherent s) (socket : Nat) (channelId : String)
    (env : JoinEnv) : Coherent (s.step (.join socket channelId env)) := by
  simp only [step]
  cases isOpen : s.sockets[socket]? with
  | none => exact coherent
  | some cs =>
    dsimp only
    rcases handleVoiceJoin_cases s.hub cs channelId env with
      ⟨message, refused, outcome⟩ | ⟨room, admitted, outcome⟩
    next =>
      rw [outcome]
      refine ⟨by simpa using coherent.agrees, ?_⟩
      intro c pk present
      obtain ⟨other, held, found, same, recorded⟩ := coherent.backed c pk (by simpa using present)
      exact ⟨other, held, by grind, same, recorded⟩
    next =>
      rw [outcome]
      refine ⟨enterRoom_agrees _ cs room env (by simpa using coherent.agrees), ?_⟩
      intro c pk present
      dsimp only at present
      rw [inRoster_enterRoom, admitJoin_voice] at present
      by_cases same : pk = cs.publicKey
      next =>
        have here : c = room := by simpa [same] using present
        exact ⟨socket, { cs with voiceChannel := some room }, by grind [enterRoom_conn],
          same.symm, by simp [here]⟩
      next =>
        obtain ⟨other, held, found, key, recorded⟩ :=
          coherent.backed c pk (by simpa [same] using present)
        exact ⟨other, held, by grind, key, recorded⟩

theorem leave_coherent {s : Server} (coherent : Coherent s) (socket : Nat) (channelId : String)
    (now : Int) (own : NamesOwnRoom s (.leave socket channelId now)) :
    Coherent (s.step (.leave socket channelId now)) := by
  simp only [step]
  cases isOpen : s.sockets[socket]? with
  | none => exact coherent
  | some cs =>
    have only := own cs isOpen
    simp only [handleVoiceLeave]
    refine ⟨by simpa using coherent.agrees.leave cs.publicKey channelId only, ?_⟩
    intro c pk present
    dsimp only at present
    rw [leaveVoice_voice, inRoster_leave_only only] at present
    obtain ⟨other, held, found, key, recorded⟩ := coherent.backed c pk present.1
    exact ⟨other, held, by grind, key, recorded⟩

theorem disconnect_coherent {s : Server} (coherent : Coherent s) (socket : Nat) (now : Int)
    (own : NamesOwnRoom s (.disconnect socket now)) : Coherent (s.step (.disconnect socket now)) := by
  simp only [step]
  cases isOpen : s.sockets[socket]? with
  | none => exact coherent
  | some cs =>
    dsimp only
    unfold handleDisconnect
    split
    next idle =>
      refine ⟨coherent.agrees, ?_⟩
      intro c pk present
      obtain ⟨other, held, found, key, recorded⟩ := coherent.backed c pk present
      exact ⟨other, held, by grind, key, recorded⟩
    next channelId recordedRoom =>
      have only := own cs channelId isOpen recordedRoom
      refine ⟨by simpa using coherent.agrees.leave cs.publicKey channelId only, ?_⟩
      intro c pk present
      dsimp only at present
      rw [leaveVoice_voice, inRoster_leave_only only] at present
      obtain ⟨other, held, found, key, recorded⟩ := coherent.backed c pk present.1
      exact ⟨other, held, by grind, key, recorded⟩

theorem step_coherent (s : Server) (a : SocketStep) (coherent : Coherent s) (own : NamesOwnRoom s a) :
    Coherent (s.step a) := by
  cases a with
  | connect socket cs => exact connect_coherent coherent socket cs
  | join socket channelId env => exact join_coherent coherent socket channelId env
  | leave socket channelId now => exact leave_coherent coherent socket channelId now own
  | disconnect socket now => exact disconnect_coherent coherent socket now own
  | rewrite db => exact ⟨coherent.agrees, coherent.backed⟩

-- A leave that names another room takes the relay slot and keeps the membership.
theorem leave_elsewhere (h : Hub) (pk channelId : String) (now : Int) (sockets : ExtTreeMap Nat ConnState)
    (elsewhere : ¬ OnlyIn h.voice pk channelId) :
    ¬ RosterAgreement { hub := leaveVoice h pk channelId now, sockets := sockets } := by
  intro agreement
  simp only [OnlyIn, not_forall] at elsewhere
  obtain ⟨c, present, other⟩ := elsewhere
  have relay := (agreement pk).2.1
  simp only [leaveVoice_voice, VoiceState.inRoster_leave, VoiceState.relay_leave] at relay
  have slot := relay.mp ⟨c, present, by simp [other]⟩
  exact slot.1 rfl

theorem step_breaks (s : Server) (a : SocketStep) (other : ¬ NamesOwnRoom s a) :
    ¬ RosterAgreement (s.step a) := by
  cases a with
  | connect socket cs => simp [NamesOwnRoom] at other
  | join socket channelId env => simp [NamesOwnRoom] at other
  | leave socket channelId now =>
    simp only [NamesOwnRoom, not_forall] at other
    obtain ⟨cs, isOpen, elsewhere⟩ := other
    simp only [step, isOpen, handleVoiceLeave]
    exact leave_elsewhere _ _ _ _ _ elsewhere
  | disconnect socket now =>
    simp only [NamesOwnRoom, not_forall] at other
    obtain ⟨cs, channelId, isOpen, recorded, elsewhere⟩ := other
    simp only [step, isOpen, handleDisconnect, recorded]
    exact leave_elsewhere _ _ _ _ _ elsewhere
  | rewrite db => simp [NamesOwnRoom] at other

theorem rosterAgreement_iff (db : Db) (config : VoiceConfig) (acts : List SocketStep) :
    (∀ front, front <+: acts → RosterAgreement (run step (boot db config) front)) ↔
      Meets step NamesOwnRoom (boot db config) acts :=
  always_iff_meets Coherent RosterAgreement (fun _ coherent => coherent.agreement) step_coherent
    (fun s a _ other => step_breaks s a other) (boot_coherent db config) acts

end Server

-- Ann joins the den and sends `voice_leave` for the hall: she stays listed, without a relay slot.
theorem rosterAgreement_wrong_room :
    ¬ ∀ (db : Db) (config : VoiceConfig) (acts : List SocketStep),
      Server.RosterAgreement (run Server.step (Server.boot db config) acts) := by
  intro always
  have agreement := always callDb {} [.connect 0 { publicKey := "ann" },
    .join 0 "den" (callEnv 1 "t0"), .leave 0 "hall" 2]
  have relay := (agreement "ann").2.1.mp ⟨"den", by decide⟩
  revert relay
  decide

end Wavvon
