import Wavvon.Socket.Dispatch

set_option autoImplicit false

namespace Wavvon.Socket

open Tables
open Std (ExtTreeMap)
open Runs

structure SocketServer where
  hub : ScreenHub := {}
  sockets : ExtTreeMap Nat Conn := ∅
  sent : List (Nat × Frame) := []

inductive ScreenStep where
  | connect (socket : Nat) (opening : Opening)
  | client (socket : Nat) (msg : WsClientMessage) (env : JoinEnv)
  | binary (socket : Nat) (data : Bytes)
  -- The socket receives the broadcast chunk of that number.
  | relay (socket : Nat) (number : Nat)
  | disconnect (socket : Nat) (now : Int)
  | httpStart (sharer channelId kind mime : String) (hasAudio : Bool) (streamId : String) (instant : Int)
  | httpStop (sharer channelId streamId : String)
  -- Any other request may change what is not a screen share.
  | rewrite (hub : Hub)

namespace SocketServer

def tell (s : SocketServer) (socket : Nat) (outcome : Conn × List Frame) : SocketServer :=
  { s with sockets := s.sockets.insert socket outcome.1
           sent := s.sent ++ outcome.2.map fun frame => (socket, frame) }

def step (s : SocketServer) : ScreenStep → SocketServer
  | .connect socket opening =>
    if socket ∈ s.sockets then s else s.tell socket (handleSocket s.hub opening)
  | .client socket msg env =>
    match s.sockets[socket]? with
    | none => s
    | some cs =>
      let outcome := dispatchClientMsg s.hub cs msg env
      { s with hub := outcome.1 }.tell socket outcome.2
  | .binary socket data =>
    match s.sockets[socket]? with
    | none => s
    | some cs =>
      let outcome := handleBinaryChunk s.hub cs data
      { s with hub := outcome.1 }.tell socket (outcome.2, [])
  | .relay socket number =>
    match s.sockets[socket]?, s.hub.screenShareTx[number]? with
    | some cs, some ev => s.tell socket (relayChunk s.hub cs ev)
    | _, _ => s
  | .disconnect socket now =>
    match s.sockets[socket]? with
    | none => s
    | some cs => { s with hub := closeSocket s.hub cs now, sockets := s.sockets.erase socket }
  | .httpStart sharer channelId kind mime hasAudio streamId instant =>
    { s with hub := (screenshareStart s.hub sharer channelId kind mime hasAudio streamId instant).1 }
  | .httpStop sharer channelId streamId => { s with hub := screenshareStop s.hub sharer channelId streamId }
  | .rewrite hub => { s with hub := { s.hub with toHub := hub } }

def boot (hub : Hub) (httpVideoStreamBudget : Nat) : SocketServer :=
  { hub := { toHub := hub, httpVideoStreamBudget := httpVideoStreamBudget } }

def Registered (s : SocketServer) (c k st : String) : Prop :=
  (streamOf s.hub.shares c k st).isSome

section

variable (c k st : String)

/-- An accepted start of the stream, over the socket or over HTTP. -/
def StartAccepted (s : SocketServer) : ScreenStep → Prop
  | .client socket (.screenShareStart channelId streamId _ _ _ width height fps kbps) _ =>
    ∃ cs, s.sockets[socket]? = some cs ∧ cs.allianceVoiceChannel = none ∧ cs.publicKey = k ∧
      channelId = c ∧ streamId = st ∧ Admits s.hub.db k c width height fps kbps
  | .httpStart sharer channelId _ _ _ streamId _ =>
    sharer = k ∧ channelId = c ∧ streamId = st ∧ AdmitsHttp s.hub k c
  | _ => False

/-- Its sharer stops it, or the session that started it ends. -/
def Ends (s : SocketServer) : ScreenStep → Prop
  | .client socket (.screenShareStop channelId streamId) _ =>
    ∃ cs, s.sockets[socket]? = some cs ∧ cs.allianceVoiceChannel = none ∧ cs.publicKey = k ∧
      channelId = c ∧ streamId = st
  | .httpStop sharer channelId streamId => sharer = k ∧ channelId = c ∧ streamId = st
  | .disconnect socket _ =>
    ∃ cs about, s.sockets[socket]? = some cs ∧ cs.publicKey = k ∧
      streamOf s.hub.shares c k st = some about ∧ about.sessionId = cs.sessionId
  | _ => False

-- Under whose key the stream is kept; a stream is registered when it has an owner.
def owner (s : SocketServer) : Option String :=
  (streamOf s.hub.shares c k st).map (·.sharerPubkey)

theorem registered_iff_owner (s : SocketServer) :
    s.Registered c k st ↔ (owner c k st s).isSome := by
  simp [Registered, owner]

/-- The three things a step can do to a stream: start it, end it, leave it as it is. -/
inductive OwnerEffect (s : SocketServer) (a : ScreenStep) (after : Option String) : Prop where
  | started (accepted : StartAccepted c k st s a) (owned : after = some k)
  | ended (notStarted : ¬ StartAccepted c k st s a) (ends : Ends c k st s a) (gone : after = none)
  | kept (notStarted : ¬ StartAccepted c k st s a) (goesOn : ¬ Ends c k st s a)
      (same : after = owner c k st s)

theorem owner_tell (s : SocketServer) (socket : Nat) (outcome : Conn × List Frame) :
    owner c k st (s.tell socket outcome) = owner c k st s := rfl

-- An owner after registering one stream: its sharer for that stream, as before for the others.
theorem owner_register (shares : Nested String String ActiveShare) (channelId sharer streamId : String)
    (about : ScreenStreamMeta) (own : about.sharerPubkey = sharer) :
    (streamOf (registerStream shares channelId sharer streamId about) c k st).map (·.sharerPubkey) =
      if c = channelId ∧ k = sharer ∧ st = streamId then some k
      else (streamOf shares c k st).map (·.sharerPubkey) := by
  rw [streamOf_register]
  split
  next same => simp [own, same.2.1]
  next => rfl

/-- A request to start a stream: accepted it is registered under its sharer, refused nothing changes. -/
theorem register_owner {s : SocketServer} {a : ScreenStep} (sharer channelId streamId : String)
    (admitted : Prop) (goesOn : ¬ Ends c k st s a)
    (accepted_iff : StartAccepted c k st s a ↔ (c = channelId ∧ k = sharer ∧ st = streamId) ∧ admitted)
    (outcome : (admitted ∧ ∃ about : ScreenStreamMeta, about.sharerPubkey = sharer ∧
        (s.step a).hub.shares = registerStream s.hub.shares channelId sharer streamId about) ∨
      (¬ admitted ∧ (s.step a).hub.shares = s.hub.shares)) :
    OwnerEffect c k st s a (owner c k st (s.step a)) := by
  rcases outcome with ⟨admits, about, own, shares⟩ | ⟨refused, shares⟩
  · have after := owner_register c k st s.hub.shares channelId sharer streamId about own
    rw [← shares] at after
    by_cases same : c = channelId ∧ k = sharer ∧ st = streamId
    next =>
      rw [if_pos same] at after
      exact .started (accepted_iff.mpr ⟨same, admits⟩) after
    next =>
      rw [if_neg same] at after
      exact .kept (fun accepted => same (accepted_iff.mp accepted).1) goesOn after
  · refine .kept (fun accepted => refused (accepted_iff.mp accepted).2) goesOn ?_
    unfold owner
    rw [shares]

theorem start_owner (s : SocketServer) (socket : Nat) (cs : Conn) (channelId streamId kind mime : String)
    (hasAudio : Bool) (width height fps kbps : Option Nat) (env : JoinEnv)
    (isOpen : s.sockets[socket]? = some cs) :
    let a := ScreenStep.client socket
      (.screenShareStart channelId streamId kind mime hasAudio width height fps kbps) env
    OwnerEffect c k st s a (owner c k st (s.step a)) := by
  intro a
  refine register_owner c k st cs.publicKey channelId streamId (cs.allianceVoiceChannel = none ∧
    Admits s.hub.db cs.publicKey channelId width height fps kbps) id ?accepted ?outcome
  case accepted =>
    simp only [a, StartAccepted, isOpen, Option.some.injEq, exists_eq_left']
    constructor
    · rintro ⟨member, rfl, rfl, rfl, admits⟩
      exact ⟨⟨rfl, rfl, rfl⟩, member, admits⟩
    · rintro ⟨⟨rfl, rfl, rfl⟩, member, admits⟩
      exact ⟨member, rfl, rfl, rfl, admits⟩
  case outcome =>
    simp only [a, step, isOpen, tell, dispatchClientMsg]
    cases visitor : cs.allianceVoiceChannel with
    | some _ => simp [visitorMaySend]
    | none =>
      simpa using
        start_shares s.hub cs channelId streamId kind mime hasAudio width height fps kbps env.instant

theorem owner_stop (h : ScreenHub) (sharer channelId streamId : String) :
    (streamOf (stopStream h sharer channelId streamId).shares c k st).map (·.sharerPubkey) =
      if c = channelId ∧ k = sharer ∧ st = streamId then none
      else (streamOf h.shares c k st).map (·.sharerPubkey) := by
  have removed := streamOf_remove h.shares channelId sharer streamId c k st
  dsimp only [stopStream, sendChat]
  rw [removed]
  split <;> rfl

-- A request to stop a stream ends that stream and no other.
theorem removal_owner {s : SocketServer} {a : ScreenStep} (sharer channelId streamId : String)
    (notStarted : ¬ StartAccepted c k st s a)
    (ends_iff : Ends c k st s a ↔ c = channelId ∧ k = sharer ∧ st = streamId)
    (outcome : (s.step a).hub.shares = (stopStream s.hub sharer channelId streamId).shares) :
    OwnerEffect c k st s a (owner c k st (s.step a)) := by
  have after := owner_stop c k st s.hub sharer channelId streamId
  rw [← outcome] at after
  by_cases same : c = channelId ∧ k = sharer ∧ st = streamId
  next =>
    rw [if_pos same] at after
    exact .ended notStarted (ends_iff.mpr same) after
  next =>
    rw [if_neg same] at after
    exact .kept notStarted (fun ends => same (ends_iff.mp ends)) after

theorem stop_owner (s : SocketServer) (socket : Nat) (cs : Conn) (channelId streamId : String)
    (env : JoinEnv) (isOpen : s.sockets[socket]? = some cs) :
    let a := ScreenStep.client socket (.screenShareStop channelId streamId) env
    OwnerEffect c k st s a (owner c k st (s.step a)) := by
  intro a
  have notStarted : ¬ StartAccepted c k st s a := id
  cases visitor : cs.allianceVoiceChannel with
  | some _ =>
    refine .kept notStarted ?_ ?_
    · rintro ⟨found, opened, member, _⟩
      obtain rfl : cs = found := Option.some.inj (isOpen.symm.trans opened)
      simp [visitor] at member
    · simp [a, step, isOpen, tell, dispatchClientMsg, visitor, visitorMaySend, owner]
  | none =>
    refine removal_owner c k st cs.publicKey channelId streamId notStarted ?_ ?_
    · simp only [a, Ends, isOpen, Option.some.injEq, exists_eq_left', visitor, true_and]
      grind
    · simp [a, step, isOpen, tell, dispatchClientMsg, visitor, handleScreenShareStop]

theorem disconnect_owner (s : SocketServer) (socket : Nat) (cs : Conn) (now : Int)
    (isOpen : s.sockets[socket]? = some cs) :
    OwnerEffect c k st s (.disconnect socket now) (owner c k st (s.step (.disconnect socket now))) := by
  have notStarted : ¬ StartAccepted c k st s (.disconnect socket now) := fun accepted => accepted
  have ends_iff : Ends c k st s (.disconnect socket now) ↔ cs.publicKey = k ∧
      ∃ about, streamOf s.hub.shares c k st = some about ∧ about.sessionId = cs.sessionId := by
    simp [Ends, isOpen]
  have after : owner c k st (s.step (.disconnect socket now)) =
      (if k = cs.publicKey then (streamOf s.hub.shares c k st).filter (·.sessionId ≠ cs.sessionId)
        else streamOf s.hub.shares c k st).map (·.sharerPubkey) := by
    simp only [step, isOpen, owner, closeSocket, sendChat]
    rw [streamOf_endSession]
  rw [after]
  by_cases ends : Ends c k st s (.disconnect socket now)
  next =>
    obtain ⟨same, about, found, session⟩ := ends_iff.mp ends
    exact .ended notStarted ends (by simp [same, found, session])
  next =>
    refine .kept notStarted ends ?_
    rw [ends_iff] at ends
    unfold owner
    cases found : streamOf s.hub.shares c k st with
    | none => simp
    | some about => grind

theorem client_kept (s : SocketServer) (socket : Nat) (msg : WsClientMessage) (env : JoinEnv)
    (other : msg.startsOrStops = false) :
    owner c k st (s.step (.client socket msg env)) = owner c k st s := by
  simp only [step]
  split
  next => rfl
  next cs _ =>
    rw [owner_tell]
    exact congrArg (Option.map (·.sharerPubkey)) ((dispatch_effect s.hub cs msg env).streams other c k st)

theorem client_owner (s : SocketServer) (socket : Nat) (msg : WsClientMessage) (env : JoinEnv) :
    OwnerEffect c k st s (.client socket msg env) (owner c k st (s.step (.client socket msg env))) := by
  cases msg with
  | screenShareStart channelId streamId kind mime hasAudio width height fps kbps =>
    cases isOpen : s.sockets[socket]? with
    | none =>
      refine .kept ?_ id (by simp [step, isOpen])
      rintro ⟨cs, found, _⟩
      simp [isOpen] at found
    | some cs =>
      exact start_owner c k st s socket cs channelId streamId kind mime hasAudio width height fps kbps
        env isOpen
  | screenShareStop channelId streamId =>
    cases isOpen : s.sockets[socket]? with
    | none =>
      refine .kept id ?_ (by simp [step, isOpen])
      rintro ⟨cs, found, _⟩
      simp [isOpen] at found
    | some cs => exact stop_owner c k st s socket cs channelId streamId env isOpen
  | _ => exact .kept id id (client_kept c k st s socket _ env rfl)

theorem step_owner (s : SocketServer) (a : ScreenStep) :
    OwnerEffect c k st s a (owner c k st (s.step a)) := by
  cases a with
  | connect socket opening =>
    refine .kept id id ?_
    simp only [step]
    split <;> rfl
  | client socket msg env => exact client_owner c k st s socket msg env
  | binary socket data =>
    refine .kept id id ?_
    simp only [step]
    split
    next => rfl
    next cs _ => exact binary_streams s.hub cs data c k st
  | relay socket number =>
    refine .kept id id ?_
    simp only [step]
    split <;> rfl
  | disconnect socket now =>
    cases isOpen : s.sockets[socket]? with
    | none =>
      refine .kept id ?_ (by simp [step, isOpen])
      rintro ⟨cs, _, found, _⟩
      simp [isOpen] at found
    | some cs => exact disconnect_owner c k st s socket cs now isOpen
  | httpStart sharer channelId kind mime hasAudio streamId instant =>
    refine register_owner c k st sharer channelId streamId (AdmitsHttp s.hub sharer channelId) id ?_
      (httpStart_shares s.hub sharer channelId kind mime hasAudio streamId instant)
    constructor
    · rintro ⟨rfl, rfl, rfl, admits⟩
      exact ⟨⟨rfl, rfl, rfl⟩, admits⟩
    · rintro ⟨⟨rfl, rfl, rfl⟩, admits⟩
      exact ⟨rfl, rfl, rfl, admits⟩
  | httpStop sharer channelId streamId =>
    refine removal_owner c k st sharer channelId streamId id ?_ rfl
    simp only [Ends]
    grind
  | rewrite hub => exact .kept id id rfl

theorem step_registered (s : SocketServer) (a : ScreenStep) :
    (s.step a).Registered c k st ↔
      StartAccepted c k st s a ∨ (s.Registered c k st ∧ ¬ Ends c k st s a) := by
  simp only [registered_iff_owner]
  rcases step_owner c k st s a with ⟨accepted, owned⟩ | ⟨notStarted, ends, gone⟩ |
    ⟨notStarted, goesOn, same⟩
  · simp [accepted, owned]
  · simp [notStarted, ends, gone]
  · simp [notStarted, goesOn, same]

-- The table holds exactly the streams that were accepted and not ended since.
theorem registered_iff_since (hub : Hub) (budget : Nat) (acts : List ScreenStep) :
    (run step (boot hub budget) acts).Registered c k st ↔
      Since step (StartAccepted c k st) (Ends c k st) (boot hub budget) acts := by
  refine holds_iff_since (fun s : SocketServer => s.Registered c k st) (step_registered c k st) ?_ acts
  simp [Registered, boot, streamOf]

theorem owner_own (hub : Hub) (budget : Nat) (acts : List ScreenStep) (who : String)
    (owned : owner c k st (run step (boot hub budget) acts) = some who) : who = k := by
  have kept : ∀ s a, (∀ who, owner c k st s = some who → who = k) →
      ∀ who, owner c k st (step s a) = some who → who = k := by
    intro s a before who owned
    rcases step_owner c k st s a with ⟨_, started⟩ | ⟨_, _, gone⟩ | ⟨_, _, same⟩
    · rw [started] at owned
      exact (Option.some.inj owned).symm
    · simp [gone] at owned
    · exact before who (same ▸ owned)
  refine run_invariant (fun s => ∀ who, owner c k st s = some who → who = k) kept _ ?_ acts who owned
  simp [owner, boot, streamOf]

end

/-- A frame is backed by a chunk that was broadcast before or by a stream that is registered. -/
def Backed (s : SocketServer) (frame : Frame) : Prop :=
  ∀ c who st, frame.chunkOf = some (c, who, st) →
    (∃ ev ∈ s.hub.screenShareTx, ev.channelId = c ∧ ev.sharerPubkey = who ∧ ev.streamId = st) ∨
      ∃ k, owner c k st s = some who

theorem answers_backed {s : SocketServer} {frame : Frame} (answers : frame.Answers s.hub.shares) :
    s.Backed frame :=
  fun c who st announced => .inr (answers.sourced c who st announced)

theorem relay_backed (s : SocketServer) (cs : Conn) (ev : ScreenChunkEvent)
    (sent : ev ∈ s.hub.screenShareTx) : ∀ frame ∈ (relayChunk s.hub cs ev).2, s.Backed frame := by
  have chunk : ∀ frame ∈ chunkFrames ev.channelId ev.streamId ev.sharerPubkey ev.seq ev.isInit ev.data,
      s.Backed frame := by
    intro frame member c who st announced
    simp only [chunkFrames, List.mem_cons, List.not_mem_nil, or_false] at member
    rcases member with rfl | rfl
    · simp only [Frame.chunkOf, Option.some.injEq, Prod.mk.injEq] at announced
      exact .inl ⟨ev, sent, announced⟩
    · simp [Frame.chunkOf] at announced
  unfold relayChunk
  split
  next =>
    dsimp only
    split
    next => exact chunk
    next =>
      split
      next => exact chunk
      next =>
        intro frame member
        rcases List.mem_cons.mp member with rfl | later
        · intro c who st announced
          simp [Frame.chunkOf] at announced
        · exact chunk frame later
  next => simp

-- Whatever a step sends is backed in the state it starts from.
theorem step_sent (s : SocketServer) (a : ScreenStep) :
    ∀ entry ∈ (s.step a).sent, entry ∈ s.sent ∨ s.Backed entry.2 := by
  have told : ∀ (current : SocketServer) (socket : Nat) (outcome : Conn × List Frame),
      current.sent = s.sent → (∀ frame ∈ outcome.2, s.Backed frame) →
      ∀ entry ∈ (current.tell socket outcome).sent, entry ∈ s.sent ∨ s.Backed entry.2 := by
    intro current socket outcome same backed entry member
    rcases List.mem_append.mp member with earlier | now
    · exact .inl (same ▸ earlier)
    · obtain ⟨frame, inside, rfl⟩ := List.mem_map.mp now
      exact .inr (backed frame inside)
  have old : ∀ entry ∈ s.sent, entry ∈ s.sent ∨ s.Backed entry.2 := fun _ => .inl
  cases a with
  | connect socket opening =>
    simp only [step]
    split
    next => exact old
    next =>
      exact told s socket _ rfl fun frame member =>
        answers_backed (answers_handleSocket s.hub opening frame member)
  | client socket msg env =>
    simp only [step]
    split
    next => exact old
    next cs _ =>
      exact told _ socket _ rfl fun frame member =>
        answers_backed ((dispatch_effect s.hub cs msg env).answers frame member)
  | binary socket data =>
    simp only [step]
    split
    next => exact old
    next => exact told _ socket _ rfl (by simp)
  | relay socket number =>
    simp only [step]
    split
    next cs ev _ found => exact told s socket _ rfl (relay_backed s cs ev (List.mem_of_getElem? found))
    next => exact old
  | disconnect socket now =>
    simp only [step]
    split <;> exact old
  | httpStart sharer channelId kind mime hasAudio streamId instant => exact old
  | httpStop sharer channelId streamId => exact old
  | rewrite hub => exact old

-- The one broadcast there is: the chunk of a binary frame whose header is pending.
theorem step_tx (s : SocketServer) (a : ScreenStep) :
    (s.step a).hub.screenShareTx = s.hub.screenShareTx ∨
      ∃ socket data cs channelId streamId seq isInit, a = .binary socket data ∧
        s.sockets[socket]? = some cs ∧ cs.pendingChunk = some (channelId, streamId, seq, isInit) ∧
        (s.step a).hub.screenShareTx = s.hub.screenShareTx ++
          [{ channelId := channelId, streamId := streamId, sharerPubkey := cs.publicKey, seq := seq
             isInit := isInit, data := data }] := by
  cases a with
  | connect socket opening =>
    simp only [step]
    split <;> exact .inl rfl
  | client socket msg env =>
    simp only [step]
    split
    next => exact .inl rfl
    next cs _ => exact .inl (dispatch_effect s.hub cs msg env).tx
  | binary socket data =>
    cases isOpen : s.sockets[socket]? with
    | none => exact .inl (by simp [step, isOpen])
    | some cs =>
      simp only [step, isOpen, handleBinaryChunk, tell]
      split
      next => exact .inl rfl
      next channelId streamId seq isInit pending =>
        exact .inr ⟨socket, data, cs, channelId, streamId, seq, isInit, rfl, isOpen, pending, rfl⟩
  | relay socket number =>
    simp only [step]
    split <;> exact .inl rfl
  | disconnect socket now =>
    simp only [step]
    split <;> exact .inl rfl
  | httpStart sharer channelId kind mime hasAudio streamId instant =>
    exact .inl (screenshareStart_tx s.hub sharer channelId kind mime hasAudio streamId instant)
  | httpStop sharer channelId streamId => exact .inl rfl
  | rewrite hub => exact .inl rfl

/-- The chunk belongs to a stream that its sharer was allowed to start and that has not ended. -/
structure Authorised (start : SocketServer) (front : List ScreenStep) (ev : ScreenChunkEvent) : Prop where
  registered : (run step start front).Registered ev.channelId ev.sharerPubkey ev.streamId
  since : Since step (StartAccepted ev.channelId ev.sharerPubkey ev.streamId)
    (Ends ev.channelId ev.sharerPubkey ev.streamId) start front

/-- Every chunk is authorised when it is broadcast, and nobody is sent bytes of a stream never started. -/
structure OnlyAuthorised (start : SocketServer) (acts : List ScreenStep) : Prop where
  broadcast : ∀ front a ev, front ++ [a] <+: acts →
    (run step start (front ++ [a])).hub.screenShareTx = (run step start front).hub.screenShareTx ++ [ev] →
    Authorised start front ev
  delivered : ∀ entry ∈ (run step start acts).sent, ∀ c k st, entry.2.chunkOf = some (c, k, st) →
    ∃ before a, before ++ [a] <+: acts ∧ StartAccepted c k st (run step start before) a

/-- A binary frame comes with the header of a stream registered under the socket's own key. -/
def ChunkRegistered (s : SocketServer) : ScreenStep → Prop
  | .binary socket _ => ∀ cs : Conn, s.sockets[socket]? = some cs →
      ∀ channelId streamId seq isInit, cs.pendingChunk = some (channelId, streamId, seq, isInit) →
        s.Registered channelId cs.publicKey streamId
  | _ => True

theorem since_started {start : SocketServer} {acts : List ScreenStep} {c k st : String}
    (since : Since step (StartAccepted c k st) (Ends c k st) start acts) :
    ∃ before a, before ++ [a] <+: acts ∧ StartAccepted c k st (run step start before) a := by
  obtain ⟨before, a, after, rfl, accepted, _⟩ := since
  exact ⟨before, a, ⟨after, by simp⟩, accepted⟩

section

variable (hub : Hub) (budget : Nat)

theorem broadcast_authorised {acts : List ScreenStep}
    (met : Meets step ChunkRegistered (boot hub budget) acts) (front : List ScreenStep) (a : ScreenStep)
    (ev : ScreenChunkEvent) (before : front ++ [a] <+: acts)
    (sent : (run step (boot hub budget) (front ++ [a])).hub.screenShareTx =
      (run step (boot hub budget) front).hub.screenShareTx ++ [ev]) :
    Authorised (boot hub budget) front ev := by
  have cond := meets_iff.mp met front a before
  rw [run_append, run_cons, run_nil] at sent
  have registered : (run step (boot hub budget) front).Registered ev.channelId ev.sharerPubkey
      ev.streamId := by
    rcases step_tx (run step (boot hub budget) front) a with
      same | ⟨socket, data, cs, channelId, streamId, seq, isInit, rfl, isOpen, pending, chunk⟩
    · rw [same] at sent
      simp at sent
    · rw [chunk] at sent
      simp only [List.append_cancel_left_eq, List.cons.injEq, and_true] at sent
      subst sent
      exact cond cs isOpen channelId streamId seq isInit pending
  exact ⟨registered, (registered_iff_since _ _ _ hub budget front).mp registered⟩

-- Chunks in the log and frames that went out both name a stream some step was allowed to start.
theorem delivered_started {acts : List ScreenStep}
    (met : Meets step ChunkRegistered (boot hub budget) acts) :
    (∀ ev ∈ (run step (boot hub budget) acts).hub.screenShareTx,
      ∃ before a, before ++ [a] <+: acts ∧
        StartAccepted ev.channelId ev.sharerPubkey ev.streamId (run step (boot hub budget) before) a) ∧
    ∀ entry ∈ (run step (boot hub budget) acts).sent, ∀ c k st, entry.2.chunkOf = some (c, k, st) →
      ∃ before a, before ++ [a] <+: acts ∧ StartAccepted c k st (run step (boot hub budget) before) a := by
  induction acts using List.reverseRecOn with
  | nil => simp [boot]
  | append_singleton front a ih =>
    have authorised := broadcast_authorised hub budget met front a
    obtain ⟨chunks, frames⟩ := ih (Meets.append.mp met).1
    have later : ∀ {c k st : String}, (∃ before b, before ++ [b] <+: front ∧
        StartAccepted c k st (run step (boot hub budget) before) b) →
        ∃ before b, before ++ [b] <+: front ++ [a] ∧
          StartAccepted c k st (run step (boot hub budget) before) b := by
      rintro c k st ⟨before, b, inside, accepted⟩
      exact ⟨before, b, inside.trans (List.prefix_append front [a]), accepted⟩
    constructor
    · intro ev member
      have last : run step (boot hub budget) (front ++ [a]) = (run step (boot hub budget) front).step a := by
        rw [run_append, run_cons, run_nil]
      rw [last] at member authorised
      rcases step_tx (run step (boot hub budget) front) a with
        same | ⟨socket, data, cs, channelId, streamId, seq, isInit, rfl, isOpen, pending, chunk⟩
      · exact later (chunks ev (same ▸ member))
      · rw [chunk] at member
        rcases List.mem_append.mp member with earlier | now
        · exact later (chunks ev earlier)
        · rw [List.mem_singleton] at now
          subst now
          exact later (since_started (authorised _ (List.prefix_refl _) chunk).since)
    · intro entry member c k st announced
      rw [run_append, run_cons, run_nil] at member
      rcases step_sent _ a entry member with earlier | backed
      · exact later (frames entry earlier c k st announced)
      · rcases backed c k st announced with ⟨ev, sent, rfl, rfl, rfl⟩ | ⟨key, owned⟩
        · exact later (chunks ev sent)
        · have own := owner_own c key st hub budget front k owned
          subst own
          have registered : (run step (boot hub budget) front).Registered c k st :=
            (registered_iff_owner c k st _).mpr (by rw [owned]; rfl)
          exact later (since_started ((registered_iff_since c k st hub budget front).mp registered))

theorem onlyAuthorised_iff (acts : List ScreenStep) :
    OnlyAuthorised (boot hub budget) acts ↔ Meets step ChunkRegistered (boot hub budget) acts := by
  constructor
  · intro only
    rw [meets_iff]
    intro front a before
    cases a with
    | binary socket data =>
      intro cs isOpen channelId streamId seq isInit pending
      refine (only.broadcast front (.binary socket data)
        { channelId := channelId, streamId := streamId, sharerPubkey := cs.publicKey, seq := seq
          isInit := isInit, data := data } before ?_).registered
      rw [run_append, run_cons, run_nil]
      simp [step, isOpen, handleBinaryChunk, pending, tell]
    | _ => trivial
  · intro met
    exact ⟨broadcast_authorised hub budget met, (delivered_started hub budget met).2⟩

end

end SocketServer

def denHub : Hub :=
  { db :=
      { users := ((∅ : Table User).insert "ann" { isMember := true }).insert "mal" { isMember := true }
        roles := (∅ : Table Role).insert BUILTIN_EVERYONE_ROLE_ID { name := "everyone" }
        rolePermissions := {(BUILTIN_EVERYONE_ROLE_ID, MESSAGES_READ)}
        channels := (∅ : Table Channel).insert "den" { name := "den", createdBy := "ann" } } }

-- Mal may only read the den. A header and a binary frame put her bytes on Ann's socket.
theorem onlyAuthorised_unshared :
    ¬ ∀ (hub : Hub) (budget : Nat) (acts : List ScreenStep),
      SocketServer.OnlyAuthorised (SocketServer.boot hub budget) acts := by
  intro always
  have only := always denHub 0 [.connect 0 { publicKey := "ann", sessionId := "s0" },
    .connect 1 { publicKey := "mal", sessionId := "s1" },
    .client 1 (.screenShareChunk "den" "film" 0 false) (callEnv 1 "t0"), .binary 1 [7], .relay 0 0]
  obtain ⟨before, a, inside, accepted⟩ := only.delivered
    (0, .message (.screenShareChunkOut "den" "film" "mal" 0 false)) (by decide) "den" "mal" "film" rfl
  have member := inside.subset (List.mem_append_right before (List.mem_singleton_self a))
  simp only [List.mem_cons, List.not_mem_nil, or_false] at member
  rcases member with rfl | rfl | rfl | rfl | rfl <;> exact accepted

end Wavvon.Socket
