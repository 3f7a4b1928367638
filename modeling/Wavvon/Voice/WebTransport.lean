import Wavvon.Shared.Runs
import Wavvon.Voice.JoinEffect
import Wavvon.Voice.State

set_option autoImplicit false

namespace Wavvon

open Tables
open Runs
open Std (ExtTreeMap)

inductive SessionStage where
  | consumed
  | accepted
  | bound
  | closed
  deriving DecidableEq, Repr

structure WtSession where
  bind : PendingVoiceBind
  stage : SessionStage
  deriving DecidableEq, Repr

inductive SlotOp where
  | joined
  | left
  | bound (connection : Connection)
  | ended (connection : Connection)
  deriving DecidableEq, Repr

structure SlotEvent where
  op : SlotOp
  channelId : String
  pubkey : String
  deriving DecidableEq, Repr

/--
The hub, its `handle_session` tasks (each owning the connection of its own number), and the
events so far, newest first.
-/
structure Transport where
  hub : Hub := {}
  sessions : ExtTreeMap Nat WtSession := ∅
  history : List SlotEvent := []

inductive TransportStep where
  | consume (task : Nat) (token : String) (instant : Int)
  | accept (task : Nat)
  | fail (task : Nat)
  | insert (task : Nat)
  | datagram (task : Nat) (payload : List UInt8)
  | finish (task : Nat)
  | voice (a : VoiceStep)

namespace Transport

def setStage (s : Transport) (task : Nat) (session : WtSession) (stage : SessionStage) : Transport :=
  { s with sessions := s.sessions.insert task { session with stage := stage } }

-- `binds.retain(..)`, then `binds.remove(token)`.
def consume (s : Transport) (task : Nat) (token : String) (instant : Int) : Transport :=
  if task ∈ s.sessions then s
  else
    let live := s.hub.voice.voicePendingBinds.filter fun _ bind => instant < bind.expiresAt
    let hub := { s.hub with voice := { s.hub.voice with voicePendingBinds := live.erase token } }
    match live[token]? with
    | none => { s with hub := hub }
    | some bind =>
      { s with hub := hub, sessions := s.sessions.insert task { bind := bind, stage := .consumed } }

def setSlot (h : Hub) (bind : PendingVoiceBind) (connection : Option Connection) : Hub :=
  { h with voice := { h.voice with
      voiceChannels := Nested.put h.voice.voiceChannels bind.channelId bind.pubkey connection } }

def record (s : Transport) (op : SlotOp) (bind : PendingVoiceBind) : Transport :=
  { s with history := { op := op, channelId := bind.channelId, pubkey := bind.pubkey } :: s.history }

def insert (s : Transport) (task : Nat) (session : WtSession) : Transport :=
  ({ s with hub := setSlot s.hub session.bind (some task) }.setStage task session .bound).record
    (.bound task) session.bind

-- The cleanup writes the slot if it is still there, whichever connection it holds.
def finish (s : Transport) (task : Nat) (session : WtSession) : Transport :=
  let hub := if (s.hub.voice.slot session.bind.channelId session.bind.pubkey).isSome
    then setSlot s.hub session.bind none else s.hub
  ({ s with hub := hub }.setStage task session .closed).record (.ended task) session.bind

-- A join that gets in first leaves every room its key is in.
def voiceEvents (h : Hub) : VoiceStep → List SlotEvent
  | .join cs channelId env =>
    match (handleVoiceJoin h cs channelId env).joined with
    | none => []
    | some room =>
      { op := .joined, channelId := room, pubkey := cs.publicKey } ::
        (h.voice.channelsOf cs.publicKey).map fun stale =>
          { op := .left, channelId := stale, pubkey := cs.publicKey }
  | .leave publicKey channelId _ => [{ op := .left, channelId := channelId, pubkey := publicKey }]

def step (s : Transport) : TransportStep → Transport
  | .consume task token instant => s.consume task token instant
  | .accept task =>
    match s.sessions[task]? with
    | some session => if session.stage = .consumed then s.setStage task session .accepted else s
    | none => s
  | .fail task =>
    match s.sessions[task]? with
    | some session => if session.stage = .consumed then s.setStage task session .closed else s
    | none => s
  | .insert task =>
    match s.sessions[task]? with
    | some session => if session.stage = .accepted then s.insert task session else s
    | none => s
  | .datagram task payload =>
    match s.sessions[task]? with
    | some session =>
      if session.stage = .bound then
        { s with hub := (relayDatagram s.hub session.bind.channelId session.bind.pubkey payload).1 }
      else s
    | none => s
  | .finish task =>
    match s.sessions[task]? with
    | some session => if session.stage = .bound then s.finish task session else s
    | none => s
  | .voice a => { s with hub := voiceStep s.hub a, history := voiceEvents s.hub a ++ s.history }

def boot (db : Db) (config : VoiceConfig) : Transport :=
  { hub := { db := db, config := config } }

end Transport

def SlotEvent.on (channelId pubkey : String) (event : SlotEvent) : Bool :=
  event.channelId == channelId && event.pubkey == pubkey

/-- What an event does to its slot; an ended session clears a slot that is still there. -/
def SlotOp.apply (op : SlotOp) (slot : Option (Option Connection)) : Option (Option Connection) :=
  match op with
  | .joined => some none
  | .left => none
  | .bound connection => some (some connection)
  | .ended _ => slot.map fun _ => none

/-- The slot the events of a history leave behind, newest event first. -/
def replay (channelId pubkey : String) (history : List SlotEvent) (start : Option (Option Connection)) :
    Option (Option Connection) :=
  history.foldr (fun event slot => if event.on channelId pubkey then event.op.apply slot else slot) start

@[simp] theorem replay_nil (channelId pubkey : String) (start : Option (Option Connection)) :
    replay channelId pubkey [] start = start := rfl

theorem replay_append (channelId pubkey : String) (new old : List SlotEvent)
    (start : Option (Option Connection)) : replay channelId pubkey (new ++ old) start =
      replay channelId pubkey new (replay channelId pubkey old start) :=
  List.foldr_append

theorem replay_cons (channelId pubkey : String) (event : SlotEvent) (old : List SlotEvent)
    (start : Option (Option Connection)) : replay channelId pubkey (event :: old) start =
      if event.on channelId pubkey then event.op.apply (replay channelId pubkey old start)
      else replay channelId pubkey old start := rfl

theorem SlotEvent.on_iff (op : SlotOp) (c pk channelId pubkey : String) :
    SlotEvent.on channelId pubkey { op := op, channelId := c, pubkey := pk } = true ↔
      c = channelId ∧ pk = pubkey := by
  simp [SlotEvent.on]

theorem replay_leaves (channelId pubkey publicKey : String) (stale : List String)
    (start : Option (Option Connection)) :
    replay channelId pubkey (stale.map fun c => { op := .left, channelId := c, pubkey := publicKey })
      start = if channelId ∈ stale ∧ pubkey = publicKey then none else start := by
  induction stale with
  | nil => simp
  | cons first rest ih =>
    rw [List.map_cons, replay_cons, ih]
    simp only [SlotEvent.on_iff, SlotOp.apply]
    grind

namespace Transport

def SlotsReplay (s : Transport) : Prop :=
  ∀ c pk, s.hub.voice.slot c pk = replay c pk s.history none

theorem slot_setSlot (h : Hub) (bind : PendingVoiceBind) (connection : Option Connection)
    (c pk : String) : (setSlot h bind connection).voice.slot c pk =
      if c = bind.channelId ∧ pk = bind.pubkey then some connection else h.voice.slot c pk :=
  Nested.get_put h.voice.voiceChannels bind.channelId c bind.pubkey pk connection

theorem slot_insert (s : Transport) (task : Nat) (session : WtSession) (c pk : String) :
    (s.insert task session).hub.voice.slot c pk =
      if c = session.bind.channelId ∧ pk = session.bind.pubkey then some (some task)
      else s.hub.voice.slot c pk :=
  slot_setSlot s.hub session.bind (some task) c pk

theorem slot_finish (s : Transport) (task : Nat) (session : WtSession) (c pk : String) :
    (s.finish task session).hub.voice.slot c pk =
      if c = session.bind.channelId ∧ pk = session.bind.pubkey then
        (s.hub.voice.slot c pk).map fun _ => none
      else s.hub.voice.slot c pk := by
  simp only [finish, record, setStage]
  split
  next present =>
    rw [slot_setSlot]
    split
    next same =>
      obtain ⟨held, found⟩ := Option.isSome_iff_exists.mp present
      simp [same, found]
    next => rfl
  next absent =>
    split
    next same =>
      have empty : s.hub.voice.slot session.bind.channelId session.bind.pubkey = none := by
        simpa using absent
      simp [same, empty]
    next => rfl

theorem slot_consume (s : Transport) (task : Nat) (token : String) (instant : Int) (c pk : String) :
    (s.consume task token instant).hub.voice.slot c pk = s.hub.voice.slot c pk := by
  unfold consume
  split
  next => rfl
  next =>
    dsimp only
    split <;> rfl

theorem history_consume (s : Transport) (task : Nat) (token : String) (instant : Int) :
    (s.consume task token instant).history = s.history := by
  unfold consume
  split
  next => rfl
  next =>
    dsimp only
    split <;> rfl

theorem slot_voice (h : Hub) (a : VoiceStep) (c pk : String) :
    (voiceStep h a).voice.slot c pk = replay c pk (voiceEvents h a) (h.voice.slot c pk) := by
  cases a with
  | leave publicKey channelId now =>
    simp only [voiceStep, voiceEvents, leaveVoice_voice, VoiceState.slot_leave, replay_cons,
      SlotEvent.on_iff, SlotOp.apply, replay_nil]
    grind
  | join cs channelId env =>
    rcases handleVoiceJoin_cases h cs channelId env with
      ⟨message, refused, outcome⟩ | ⟨room, admitted, outcome⟩
    next =>
      simp [voiceStep, voiceEvents, outcome]
    next =>
      simp only [voiceStep, voiceEvents, outcome, enterRoom_joined, slot_enterRoom, admitJoin_voice,
        replay_cons, replay_leaves, SlotEvent.on_iff, SlotOp.apply, VoiceState.mem_channelsOf]
      have unlisted : ¬ h.voice.inRoster c pk → h.voice.slot c pk = none := by
        simp [VoiceState.inRoster]
      grind

theorem slot_datagram (h : Hub) (channelId senderPk : String) (payload : List UInt8) (c pk : String) :
    (relayDatagram h channelId senderPk payload).1.voice.slot c pk = h.voice.slot c pk := by
  unfold relayDatagram
  split
  next => rfl
  next =>
    split
    next => rfl
    next =>
      dsimp only
      split <;> rfl

-- The steps that move a slot or record an event are the bind, the cleanup, and the roster
-- operations; every other step leaves both alone.
theorem step_cases (s : Transport) (a : TransportStep) :
    ((∀ c pk, (s.step a).hub.voice.slot c pk = s.hub.voice.slot c pk) ∧
        (s.step a).history = s.history) ∨
      (∃ task session, a = .insert task ∧ s.sessions[task]? = some session ∧
        session.stage = .accepted ∧ s.step a = s.insert task session) ∨
      (∃ task session, a = .finish task ∧ s.sessions[task]? = some session ∧
        session.stage = .bound ∧ s.step a = s.finish task session) ∨
      ∃ v, a = .voice v := by
  cases a with
  | consume task token instant =>
    exact .inl ⟨slot_consume s task token instant, history_consume s task token instant⟩
  | accept task =>
    refine .inl ?_
    simp only [step]
    split
    next => split <;> exact ⟨fun _ _ => rfl, rfl⟩
    next => exact ⟨fun _ _ => rfl, rfl⟩
  | fail task =>
    refine .inl ?_
    simp only [step]
    split
    next => split <;> exact ⟨fun _ _ => rfl, rfl⟩
    next => exact ⟨fun _ _ => rfl, rfl⟩
  | insert task =>
    cases found : s.sessions[task]? with
    | none => exact .inl (by simp [step, found])
    | some session =>
      by_cases accepted : session.stage = .accepted
      · exact .inr (.inl ⟨task, session, rfl, found, accepted, by simp [step, found, accepted]⟩)
      · exact .inl (by simp [step, found, accepted])
  | datagram task payload =>
    refine .inl ?_
    simp only [step]
    split
    next =>
      split
      next => exact ⟨slot_datagram s.hub _ _ payload, rfl⟩
      next => exact ⟨fun _ _ => rfl, rfl⟩
    next => exact ⟨fun _ _ => rfl, rfl⟩
  | finish task =>
    cases found : s.sessions[task]? with
    | none => exact .inl (by simp [step, found])
    | some session =>
      by_cases bound : session.stage = .bound
      · exact .inr (.inr (.inl ⟨task, session, rfl, found, bound, by simp [step, found, bound]⟩))
      · exact .inl (by simp [step, found, bound])
  | voice v => exact .inr (.inr (.inr ⟨v, rfl⟩))

-- Every step of the system moves the slots exactly as the events it records say.
theorem step_slotsReplay (s : Transport) (a : TransportStep) (replays : SlotsReplay s) :
    SlotsReplay (s.step a) := by
  intro c pk
  have before := replays c pk
  rcases step_cases s a with ⟨slots, history⟩ | ⟨task, session, rfl, -, -, bound⟩ |
    ⟨task, session, rfl, -, -, ended⟩ | ⟨v, rfl⟩
  · rw [slots, history]
    exact before
  · rw [bound, slot_insert]
    simp only [insert, record, setStage, replay_cons, SlotEvent.on_iff, SlotOp.apply]
    grind
  · rw [ended, slot_finish]
    simp only [finish, record, setStage, replay_cons, SlotEvent.on_iff, SlotOp.apply, ← before]
    grind
  · simp only [step, slot_voice, replay_append, before]

theorem boot_slotsReplay (db : Db) (config : VoiceConfig) : SlotsReplay (boot db config) := by
  intro c pk
  simp [boot, VoiceState.slot]

theorem run_slotsReplay (db : Db) (config : VoiceConfig) (acts : List TransportStep) :
    SlotsReplay (run step (boot db config) acts) :=
  run_invariant SlotsReplay step_slotsReplay _ (boot_slotsReplay db config) acts

end Transport

end Wavvon
