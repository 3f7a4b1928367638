import Wavvon.Voice.Sockets

set_option autoImplicit false

namespace Wavvon

open Runs

namespace Server

def InCall (s : Server) (pk channelId : String) : Prop :=
  s.hub.voice.inRoster channelId pk ∧ pk ∈ s.hub.voice.voiceRelayActive ∧
    (s.hub.voice.senderId channelId pk).isSome

/--
What may happen beside the socket in the call: anything by other keys, and the other
sockets of the same key closing.
-/
def Beside (caller : Nat) (pk : String) (s : Server) : SocketStep → Prop
  | .connect _ _ => True
  | .rewrite _ => True
  | .join socket _ _ => ∀ cs : ConnState, s.sockets[socket]? = some cs → cs.publicKey ≠ pk
  | .leave socket _ _ => ∀ cs : ConnState, s.sockets[socket]? = some cs → cs.publicKey ≠ pk
  | .disconnect socket _ => socket ≠ caller

/-- A closing socket of the key has no voice channel on record. -/
def NoStaleRecord (pk : String) (s : Server) : SocketStep → Prop
  | .disconnect socket _ => ∀ cs : ConnState, s.sockets[socket]? = some cs → cs.publicKey = pk →
      cs.voiceChannel = none
  | _ => True

theorem leaveVoice_inCall {s : Server} {pk channelId : String} (inCall : InCall s pk channelId)
    (k c : String) (now : Int) (sockets : Std.ExtTreeMap Nat ConnState) (other : k ≠ pk) :
    InCall { hub := leaveVoice s.hub k c now, sockets := sockets } pk channelId := by
  obtain ⟨listed, relay, known⟩ := inCall
  refine ⟨?_, ?_, ?_⟩
  · simp only [leaveVoice_voice, VoiceState.inRoster_leave]
    exact ⟨listed, by simp [Ne.symm other]⟩
  · simp only [leaveVoice_voice, VoiceState.relay_leave]
    exact ⟨Ne.symm other, relay⟩
  · simp only [leaveVoice_voice, VoiceState.senderId_leave]
    simpa [Ne.symm other] using known

theorem join_inCall {s : Server} {pk channelId : String} (inCall : InCall s pk channelId)
    (socket : Nat) (target : String) (env : JoinEnv)
    (other : ∀ cs : ConnState, s.sockets[socket]? = some cs → cs.publicKey ≠ pk) :
    InCall (s.step (.join socket target env)) pk channelId := by
  simp only [step]
  cases isOpen : s.sockets[socket]? with
  | none => exact inCall
  | some cs =>
    have apart := Ne.symm (other cs isOpen)
    obtain ⟨listed, relay, known⟩ := inCall
    rcases handleVoiceJoin_cases s.hub cs target env with
      ⟨message, refused, outcome⟩ | ⟨room, admitted, outcome⟩
    next =>
      simp only [InCall, outcome, admitJoin_voice]
      exact ⟨listed, relay, known⟩
    next =>
      simp only [InCall, outcome, inRoster_enterRoom, relay_enterRoom, senderId_enterRoom,
        admitJoin_voice, apart]
      exact ⟨by simpa using listed, .inr relay, by simpa using known⟩

theorem beside_inCall (caller : Nat) (pk channelId : String) (s : Server) (a : SocketStep)
    (inCall : InCall s pk channelId) (beside : Beside caller pk s a) (clean : NoStaleRecord pk s a) :
    InCall (s.step a) pk channelId := by
  cases a with
  | connect socket cs =>
    simp only [step]
    split <;> exact inCall
  | join socket target env => exact join_inCall inCall socket target env beside
  | leave socket target now =>
    simp only [step]
    cases isOpen : s.sockets[socket]? with
    | none => exact inCall
    | some cs => exact leaveVoice_inCall inCall cs.publicKey target now _ (beside cs isOpen)
  | disconnect socket now =>
    simp only [step]
    cases isOpen : s.sockets[socket]? with
    | none => exact inCall
    | some cs =>
      simp only [handleDisconnect]
      split
      next => exact inCall
      next target recorded =>
        apply leaveVoice_inCall inCall
        intro same
        simp [clean cs isOpen same] at recorded
  | rewrite db => exact inCall

-- Whatever room the stale record names, the teardown revokes the key's relay slot.
theorem stale_breaks (pk channelId : String) (s : Server) (a : SocketStep)
    (stale : ¬ NoStaleRecord pk s a) : ¬ InCall (s.step a) pk channelId := by
  cases a with
  | disconnect socket now =>
    simp only [NoStaleRecord, not_forall] at stale
    obtain ⟨cs, isOpen, rfl, recorded⟩ := stale
    obtain ⟨target, found⟩ := Option.ne_none_iff_exists'.mp recorded
    simp only [step, isOpen, handleDisconnect, found, InCall, leaveVoice_voice, VoiceState.relay_leave]
    simp
  | _ => simp [NoStaleRecord] at stale

theorem joined_inCall (s : Server) (socket : Nat) (cs : ConnState) (target channelId : String)
    (env : JoinEnv) (isOpen : s.sockets[socket]? = some cs)
    (joined : (handleVoiceJoin s.hub cs target env).joined = some channelId) :
    InCall (s.step (.join socket target env)) cs.publicKey channelId := by
  rcases handleVoiceJoin_cases s.hub cs target env with
    ⟨message, refused, outcome⟩ | ⟨room, admitted, outcome⟩
  next => simp [outcome] at joined
  next =>
    obtain rfl : room = channelId := by simpa [outcome] using joined
    simp [step, isOpen, outcome, InCall, inRoster_enterRoom, relay_enterRoom, senderId_enterRoom]

theorem latestJoin_iff (s : Server) (caller : Nat) (cs : ConnState) (target channelId : String)
    (env : JoinEnv) (acts : List SocketStep) (isOpen : s.sockets[caller]? = some cs)
    (joined : (handleVoiceJoin s.hub cs target env).joined = some channelId)
    (beside : Meets step (Beside caller cs.publicKey) (s.step (.join caller target env)) acts) :
    (∀ front, front <+: acts →
      InCall (run step (s.step (.join caller target env)) front) cs.publicKey channelId) ↔
      Meets step (NoStaleRecord cs.publicKey) (s.step (.join caller target env)) acts :=
  always_iff_meets_within (fun s => InCall s cs.publicKey channelId)
    (fun s => InCall s cs.publicKey channelId) (fun _ inCall => inCall)
    (beside_inCall caller cs.publicKey channelId)
    (fun s a _ _ stale => stale_breaks cs.publicKey channelId s a stale)
    (joined_inCall s caller cs target channelId env isOpen joined) acts beside

def twoDevices : Server :=
  run step (boot callDb {}) [.connect 0 { publicKey := "ann" }, .connect 1 { publicKey := "ann" }]

theorem latestJoin_iff_idle_device :
    (∀ front, front <+: [SocketStep.disconnect 0 9] →
      InCall (run step (twoDevices.step (.join 1 "den" (callEnv 5 "t1"))) front) "ann" "den") ↔
      Meets step (NoStaleRecord "ann") (twoDevices.step (.join 1 "den" (callEnv 5 "t1")))
        [.disconnect 0 9] :=
  latestJoin_iff twoDevices 1 { publicKey := "ann" } "den" "den" (callEnv 5 "t1") [.disconnect 0 9]
    (by decide) (by decide) ⟨by simp [Beside], trivial⟩

-- The phone joins the room the desktop is in; closing the desktop hangs up the phone.
theorem latestJoin_stale_device :
    ¬ ∀ (db : Db) (config : VoiceConfig) (acts : List SocketStep) (caller other : Nat) (cs : ConnState)
      (target channelId : String) (env : JoinEnv) (now : Int),
      (run step (boot db config) acts).sockets[caller]? = some cs → other ≠ caller →
      (handleVoiceJoin (run step (boot db config) acts).hub cs target env).joined = some channelId →
      InCall (((run step (boot db config) acts).step (.join caller target env)).step
        (.disconnect other now)) cs.publicKey channelId := by
  intro always
  have inCall := always callDb {} [.connect 0 { publicKey := "ann" }, .connect 1 { publicKey := "ann" },
    .join 0 "den" (callEnv 1 "t0")] 1 0 { publicKey := "ann" } "den" "den" (callEnv 5 "t1") 9
    (by decide) (by decide) (by decide)
  have listed := inCall.1
  revert listed
  decide

end Server

end Wavvon
