import Wavvon.Voice.WebTransport

set_option autoImplicit false

namespace Wavvon

open Runs

def SlotOp.isRoster : SlotOp → Bool
  | .joined => true
  | .left => true
  | _ => false

def lastSlotOp (history : List SlotEvent) (channelId pubkey : String) : Option SlotOp :=
  (history.find? (SlotEvent.on channelId pubkey)).map (·.op)

-- The last completed join or leave of the key on the channel.
def lastRosterOp (history : List SlotEvent) (channelId pubkey : String) : Option SlotOp :=
  lastSlotOp (history.filter (·.op.isRoster)) channelId pubkey

theorem lastSlotOp_cons (event : SlotEvent) (history : List SlotEvent) (c pk : String) :
    lastSlotOp (event :: history) c pk =
      if event.on c pk then some event.op else lastSlotOp history c pk := by
  unfold lastSlotOp
  rw [List.find?_cons]
  split <;> simp_all

theorem lastRosterOp_cons (event : SlotEvent) (history : List SlotEvent) (c pk : String) :
    lastRosterOp (event :: history) c pk =
      if event.op.isRoster ∧ event.on c pk then some event.op else lastRosterOp history c pk := by
  unfold lastRosterOp
  rw [List.filter_cons]
  split
  next roster =>
    rw [lastSlotOp_cons]
    simp [roster]
  next other => simp [other]

theorem lastRosterOp_leaves (c pk publicKey : String) (stale : List String) (history : List SlotEvent) :
    lastRosterOp ((stale.map fun room => { op := .left, channelId := room, pubkey := publicKey })
      ++ history) c pk =
      if c ∈ stale ∧ pk = publicKey then some .left else lastRosterOp history c pk := by
  induction stale with
  | nil => simp
  | cons first rest ih =>
    rw [List.map_cons, List.cons_append, lastRosterOp_cons, ih]
    simp only [SlotEvent.on_iff, SlotOp.isRoster]
    grind

-- Only a bind puts a connection into a slot, and any later event on the slot takes it out.
theorem replay_bound_iff (c pk : String) (history : List SlotEvent) (connection : Connection) :
    replay c pk history none = some (some connection) ↔
      lastSlotOp history c pk = some (.bound connection) := by
  induction history with
  | nil => simp [lastSlotOp]
  | cons event rest ih =>
    rw [replay_cons, lastSlotOp_cons]
    split
    next => cases h : event.op <;> simp [SlotOp.apply]
    next => exact ih

namespace Transport

def SparesOthers (s : Transport) : TransportStep → Prop
  | .finish task => ∀ session : WtSession, s.sessions[task]? = some session → session.stage = .bound →
      (s.step (.finish task)).hub.voice.slot session.bind.channelId session.bind.pubkey ≠
        s.hub.voice.slot session.bind.channelId session.bind.pubkey →
      s.hub.voice.slot session.bind.channelId session.bind.pubkey = some (some task)
  | _ => True

/-- The last thing that happened to the slot is not the bind of another session. -/
def NoLaterBind (s : Transport) : TransportStep → Prop
  | .finish task => ∀ session : WtSession, s.sessions[task]? = some session → session.stage = .bound →
      ∀ other, lastSlotOp s.history session.bind.channelId session.bind.pubkey = some (.bound other) →
        other = task
  | _ => True

theorem finish_changes_iff (s : Transport) (task : Nat) (session : WtSession) :
    (s.finish task session).hub.voice.slot session.bind.channelId session.bind.pubkey ≠
      s.hub.voice.slot session.bind.channelId session.bind.pubkey ↔
      ∃ other, s.hub.voice.slot session.bind.channelId session.bind.pubkey = some (some other) := by
  rw [slot_finish, if_pos ⟨rfl, rfl⟩]
  cases s.hub.voice.slot session.bind.channelId session.bind.pubkey with
  | none => simp
  | some held => cases held <;> simp

theorem sparesOthers_iff (s : Transport) (a : TransportStep) (replays : SlotsReplay s) :
    SparesOthers s a ↔ NoLaterBind s a := by
  cases a with
  | finish task =>
    simp only [SparesOthers, NoLaterBind]
    apply forall_congr'
    intro session
    apply forall_congr'
    intro found
    apply forall_congr'
    intro bound
    have stepped : s.step (.finish task) = s.finish task session := by simp [step, found, bound]
    rw [stepped, finish_changes_iff]
    simp only [replays session.bind.channelId session.bind.pubkey, replay_bound_iff]
    constructor
    · intro spares other held
      have own := spares ⟨other, held⟩
      rw [held] at own
      exact SlotOp.bound.inj (Option.some.inj own)
    · rintro only ⟨other, held⟩
      rw [held, only other held]
  | _ => rfl

theorem endOfSession_iff (db : Db) (config : VoiceConfig) (acts : List TransportStep) :
    Meets step SparesOthers (boot db config) acts ↔ Meets step NoLaterBind (boot db config) acts :=
  meets_congr SlotsReplay step_slotsReplay sparesOthers_iff (boot_slotsReplay db config) acts

def rebound : List TransportStep :=
  [.voice (.join { publicKey := "ann" } "den" (callEnv 1 "t0")), .consume 0 "t0" 2, .accept 0, .insert 0,
    .voice (.join { publicKey := "ann" } "den" (callEnv 3 "t1")), .consume 1 "t1" 4, .accept 1, .insert 1]

-- Ann rejoins and binds a second session; the first one's cleanup then empties the slot.
theorem endOfSession_rejoin :
    ¬ ∀ (db : Db) (config : VoiceConfig) (acts : List TransportStep),
      Meets step SparesOthers (boot db config) acts := by
  intro always
  have spares := (Meets.append.mp (always callDb {} (rebound ++ [.finish 0]))).2.1
  have own := spares { bind := { channelId := "den", pubkey := "ann", expiresAt := 31 }, stage := .bound }
    (by decide +kernel) rfl (by decide +kernel)
  revert own
  decide +kernel

def NoGhost (s : Transport) : Prop := ∀ c pk,
  (lastRosterOp s.history c pk = some .left → ¬ s.hub.voice.inRoster c pk) ∧
  ∀ connection, s.hub.voice.slot c pk = some (some connection) →
    lastRosterOp s.history c pk = some .joined

def PresentByJoin (s : Transport) : Prop := ∀ c pk,
  s.hub.voice.inRoster c pk ↔ lastRosterOp s.history c pk = some .joined

theorem PresentByJoin.noGhost {s : Transport} (present : PresentByJoin s) : NoGhost s := by
  intro c pk
  constructor
  · intro departed listed
    have joined := (present c pk).mp listed
    simp [departed] at joined
  · intro connection held
    exact (present c pk).mp (by simp [VoiceState.inRoster, held])

/-- The key is in the roster at the moment its session is written there. -/
def BindsPresent (s : Transport) : TransportStep → Prop
  | .insert task => ∀ session : WtSession, s.sessions[task]? = some session →
      session.stage = .accepted → s.hub.voice.inRoster session.bind.channelId session.bind.pubkey
  | _ => True

theorem voice_presentByJoin {s : Transport} (present : PresentByJoin s) (a : VoiceStep) :
    PresentByJoin (s.step (.voice a)) := by
  intro c pk
  have before := present c pk
  cases a with
  | leave publicKey channelId now =>
    simp only [step, voiceStep, voiceEvents, leaveVoice_voice, VoiceState.inRoster_leave,
      List.cons_append, List.nil_append, lastRosterOp_cons, SlotEvent.on_iff, SlotOp.isRoster]
    grind
  | join cs channelId env =>
    rcases handleVoiceJoin_cases s.hub cs channelId env with
      ⟨message, refused, outcome⟩ | ⟨room, admitted, outcome⟩
    next =>
      simpa [step, voiceStep, voiceEvents, outcome] using before
    next =>
      simp only [step, voiceStep, voiceEvents, outcome, enterRoom_joined, inRoster_enterRoom,
        admitJoin_voice, List.cons_append, lastRosterOp_cons, lastRosterOp_leaves, SlotEvent.on_iff,
        SlotOp.isRoster, VoiceState.mem_channelsOf]
      grind

theorem step_presentByJoin (s : Transport) (a : TransportStep) (present : PresentByJoin s)
    (binds : BindsPresent s a) : PresentByJoin (s.step a) := by
  rcases step_cases s a with ⟨slots, history⟩ | ⟨task, session, rfl, found, accepted, bound⟩ |
    ⟨task, session, rfl, -, -, ended⟩ | ⟨v, rfl⟩
  · intro c pk
    rw [VoiceState.inRoster, slots, history]
    exact present c pk
  · intro c pk
    have listed := binds session found accepted
    have before := present c pk
    simp only [VoiceState.inRoster] at listed before ⊢
    rw [bound, slot_insert]
    simp only [insert, record, setStage, lastRosterOp_cons, SlotOp.isRoster]
    grind
  · intro c pk
    have before := present c pk
    simp only [VoiceState.inRoster] at before ⊢
    rw [ended, slot_finish]
    simp only [finish, record, setStage, lastRosterOp_cons, SlotOp.isRoster]
    grind
  · exact voice_presentByJoin present v

-- `entry().or_default().insert(..)` makes the roster entry it does not find.
theorem step_resurrects (s : Transport) (a : TransportStep) (present : PresentByJoin s)
    (absent : ¬ BindsPresent s a) : ¬ NoGhost (s.step a) := by
  cases a with
  | insert task =>
    simp only [BindsPresent, not_forall] at absent
    obtain ⟨session, found, accepted, unlisted⟩ := absent
    intro noGhost
    have stepped : s.step (.insert task) = s.insert task session := by simp [step, found, accepted]
    have joined := (noGhost session.bind.channelId session.bind.pubkey).2 task
    rw [stepped, slot_insert] at joined
    have last := joined (by simp)
    simp only [insert, record, setStage, lastRosterOp_cons, SlotOp.isRoster] at last
    rw [present] at unlisted
    simp [unlisted] at last
  | _ => simp [BindsPresent] at absent

theorem boot_presentByJoin (db : Db) (config : VoiceConfig) : PresentByJoin (boot db config) := by
  intro c pk
  simp [boot, lastRosterOp, lastSlotOp]

theorem noGhost_iff (db : Db) (config : VoiceConfig) (acts : List TransportStep) :
    (∀ front, front <+: acts → NoGhost (run step (boot db config) front)) ↔
      Meets step BindsPresent (boot db config) acts :=
  always_iff_meets PresentByJoin NoGhost (fun _ present => present.noGhost) step_presentByJoin
    step_resurrects (boot_presentByJoin db config) acts

-- Ann leaves between the use of her token and the bind, and is back in the roster.
theorem noGhost_late_bind :
    ¬ ∀ (db : Db) (config : VoiceConfig) (acts : List TransportStep),
      NoGhost (run step (boot db config) acts) := by
  intro always
  have noGhost := always callDb {} [.voice (.join { publicKey := "ann" } "den" (callEnv 1 "t0")),
    .consume 0 "t0" 2, .voice (.leave "ann" "den" 3), .accept 0, .insert 0]
  exact (noGhost "den" "ann").1 (by decide +kernel) (by decide +kernel)

end Transport

end Wavvon
