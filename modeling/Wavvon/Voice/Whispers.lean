import Wavvon.Shared.Runs
import Wavvon.Voice.Sockets

set_option autoImplicit false

namespace Wavvon

open Alternation
open Runs

def inVoice (h : Hub) (cs : ConnState) : Bool :=
  cs.voiceChannel.any fun channelId => h.voice.inRoster channelId cs.publicKey

def handleVoiceWhisperStart (h : Hub) (cs : ConnState) (targets : List WhisperTargetDef) : Hub :=
  if inVoice h cs then
    let described := { h with whisper := { h.whisper with
      targetDefs := h.whisper.targetDefs.insert cs.publicKey targets } }
    let targetPks := resolveWhisperTargetPubkeys described targets cs.publicKey
    { described with
      whisper := { described.whisper with
        targetPubkeys := described.whisper.targetPubkeys.insert cs.publicKey targetPks }
      outbox := sendWhisperNotification h.outbox cs.publicKey (cs.voiceChannel.getD "") true targetPks }
  else h

def handleVoiceWhisperStop (h : Hub) (cs : ConnState) : Hub :=
  let prevPks := h.whisper.targetPubkeys[cs.publicKey]?
  let whisper := { h.whisper with
    targetDefs := h.whisper.targetDefs.erase cs.publicKey
    targetPubkeys := h.whisper.targetPubkeys.erase cs.publicKey }
  match prevPks with
  | none => { h with whisper := whisper }
  | some prevPks =>
    { h with
      whisper := whisper
      outbox := sendWhisperNotification h.outbox cs.publicKey (cs.voiceChannel.getD "") false prevPks }

def handleVoiceWhisperOptout (h : Hub) (cs : ConnState) (enabled : Bool) : Hub :=
  let optouts := if enabled then insert cs.publicKey h.whisper.optouts
    else h.whisper.optouts.erase cs.publicKey
  reResolveWhisperSessions { h with whisper := { h.whisper with optouts := optouts } }

inductive WhisperStep where
  | socket (a : SocketStep)
  -- `DELETE /voice/leave`, which no socket takes part in.
  | appLeave (publicKey channelId : String) (now : Int)
  | start (socket : Nat) (targets : List WhisperTargetDef)
  | stop (socket : Nat)
  | optout (socket : Nat) (enabled : Bool)

namespace Server

-- An alliance visitor may send none of the whisper messages.
def onSocket (s : Server) (socket : Nat) (handle : ConnState → Hub) : Server :=
  match s.sockets[socket]? with
  | none => s
  | some cs => if cs.allianceVoiceChannel.isSome then s else { s with hub := handle cs }

def whisperStep (s : Server) : WhisperStep → Server
  | .socket a => s.step a
  | .appLeave publicKey channelId now => { s with hub := leaveVoice s.hub publicKey channelId now }
  | .start socket targets => s.onSocket socket fun cs => handleVoiceWhisperStart s.hub cs targets
  | .stop socket => s.onSocket socket fun cs => handleVoiceWhisperStop s.hub cs
  | .optout socket enabled => s.onSocket socket fun cs => handleVoiceWhisperOptout s.hub cs enabled

end Server

def WhisperState.targets (w : WhisperState) (sender : String) : Finset String :=
  w.targetPubkeys[sender]?.getD ∅

namespace WhisperState

variable (w : WhisperState) (defs : Table (List WhisperTargetDef)) (publicKey sender : String)

theorem targets_insert (pubkeys : Finset String) :
    { w with targetDefs := defs, targetPubkeys := w.targetPubkeys.insert publicKey pubkeys }.targets sender =
      if sender = publicKey then pubkeys else w.targets sender := by
  simp only [targets, Std.ExtTreeMap.getElem?_insert]
  by_cases same : sender = publicKey
  next => simp [same]
  next => simp [same, Ne.symm same]

theorem targets_erase :
    { w with targetDefs := defs, targetPubkeys := w.targetPubkeys.erase publicKey }.targets sender =
      if sender = publicKey then ∅ else w.targets sender := by
  simp only [targets, Std.ExtTreeMap.getElem?_erase]
  by_cases same : sender = publicKey
  next => simp [same]
  next => simp [same, Ne.symm same]

end WhisperState

-- What one broadcast tells the recipient about the whisperer.
def whisperSwitch (sender recipient : String) : ChatEvent × WsServerMessage → Option Bool
  | (.whisperSignal _ toPubkeys, .voiceWhisperStarted about) =>
    if about = sender ∧ recipient ∈ toPubkeys then some true else none
  | (.whisperSignal _ toPubkeys, .voiceWhisperStopped about) =>
    if about = sender ∧ recipient ∈ toPubkeys then some false else none
  | _ => none

def Outbox.whispers (outbox : Outbox) (sender recipient : String) : List Bool :=
  outbox.chatTx.filterMap (whisperSwitch sender recipient)

/-- Each recipient's notifications switch on and off in turn and end where the target set stands. -/
structure WhispersTracked (h : Hub) : Prop where
  alternates : ∀ sender recipient, Alternates (h.outbox.whispers sender recipient)
  current : ∀ sender recipient,
    lastOn (h.outbox.whispers sender recipient) = true ↔ recipient ∈ h.whisper.targets sender
  willing : ∀ sender recipient, recipient ∈ h.whisper.targets sender → recipient ∉ h.whisper.optouts

theorem whispers_send (outbox : Outbox) (about channelId : String) (started : Bool)
    (pubkeys : Finset String) (sender recipient : String) :
    (sendWhisperNotification outbox about channelId started pubkeys).whispers sender recipient =
      outbox.whispers sender recipient ++
        if about = sender ∧ recipient ∈ pubkeys then [started] else [] := by
  unfold sendWhisperNotification
  split
  next none => simp [none]
  next =>
    simp only [Outbox.whispers, List.filterMap_append]
    congr 1
    cases started with
    | false => by_cases told : about = sender ∧ recipient ∈ pubkeys <;> simp [whisperSwitch, told]
    | true => by_cases told : about = sender ∧ recipient ∈ pubkeys <;> simp [whisperSwitch, told]

-- Broadcasts of other kinds tell nobody anything about a whisper.
theorem whispers_append_other (outbox : Outbox) (more : List (ChatEvent × WsServerMessage))
    (sender recipient : String) (other : ∀ entry ∈ more, whisperSwitch sender recipient entry = none) :
    { outbox with chatTx := outbox.chatTx ++ more }.whispers sender recipient =
      outbox.whispers sender recipient := by
  simp only [Outbox.whispers, List.filterMap_append]
  rw [List.filterMap_eq_nil_iff.mpr other, List.append_nil]

theorem resolve_willing {h : Hub} {targets : List WhisperTargetDef} {sender recipient : String}
    (resolved : recipient ∈ resolveWhisperTargetPubkeys h targets sender) :
    recipient ∉ h.whisper.optouts := by
  simp only [resolveWhisperTargetPubkeys, Finset.mem_erase, Finset.mem_filter] at resolved
  exact resolved.2.2

/--
What holds whenever the hub is about to re-resolve: the notifications match the sets as they are,
and every nonempty set has a description by which it will be rebuilt, its whisperer being in voice.
-/
structure WhispersFollow (h : Hub) : Prop where
  follows : ∀ sender recipient,
    Follows (h.outbox.whispers sender recipient) (recipient ∈ h.whisper.targets sender)
  described : ∀ sender recipient, recipient ∈ h.whisper.targets sender → sender ∈ h.whisper.targetDefs
  present : ∀ sender, sender ∈ h.whisper.targetDefs → ∃ c, h.voice.inRoster c sender

/-- A set that names somebody opted out is among those still to be rebuilt. -/
def WillingBut (h : Hub) (pending : List String) : Prop :=
  ∀ sender recipient, recipient ∈ h.whisper.targets sender → recipient ∈ h.whisper.optouts →
    sender ∈ pending

structure Whispering (h : Hub) : Prop extends WhispersFollow h where
  willing : WillingBut h []

theorem Whispering.tracked {h : Hub} (whispering : Whispering h) : WhispersTracked h := by
  refine ⟨fun sender recipient => (whispering.follows sender recipient).1,
    fun sender recipient => (whispering.follows sender recipient).2, ?_⟩
  intro sender recipient target optedOut
  exact List.not_mem_nil (whispering.willing sender recipient target optedOut)

-- The added and the removed recipients are each told once.
theorem follows_difference {switches : List Bool} {recipient : String} {old : Finset String}
    (follows : Follows switches (recipient ∈ old)) (new : Finset String) :
    Follows (switches ++ (if recipient ∈ new \ old then [true] else []) ++
      if recipient ∈ old \ new then [false] else []) (recipient ∈ new) := by
  by_cases before : recipient ∈ old
  next =>
    by_cases after : recipient ∈ new
    next => simpa [before, after] using follows
    next =>
      have told := (follows_append follows false (recipient ∈ new)).mpr (by simp [before, after])
      simpa [before, after] using told
  next =>
    by_cases after : recipient ∈ new
    next =>
      have told := (follows_append follows true (recipient ∈ new)).mpr (by simp [before, after])
      simpa [before, after] using told
    next => simpa [before, after] using follows

section

variable {h : Hub} {session : String × List WhisperTargetDef}

theorem reResolveSession_present (present : ∃ c, h.voice.inRoster c session.1) :
    ∃ channelId, reResolveSession h session =
      let newPks := resolveWhisperTargetPubkeys h session.2 session.1
      let oldPks := h.whisper.targets session.1
      let told := sendWhisperNotification h.outbox session.1 channelId true (newPks \ oldPks)
      { h with
        whisper := { h.whisper with targetPubkeys := h.whisper.targetPubkeys.insert session.1 newPks }
        outbox := sendWhisperNotification told session.1 channelId false (oldPks \ newPks) } := by
  obtain ⟨c, listed⟩ := present
  have held := (h.voice.mem_channelsOf c session.1).mpr listed
  obtain ⟨first, rest, rooms⟩ := List.exists_cons_of_ne_nil (List.ne_nil_of_mem held)
  refine ⟨first, ?_⟩
  simp only [reResolveSession, rooms, List.head?_cons]
  rfl

theorem reResolveSession_follows (follow : WhispersFollow h)
    (listed : session.1 ∈ h.whisper.targetDefs) :
    WhispersFollow (reResolveSession h session) := by
  obtain ⟨channelId, after⟩ := reResolveSession_present (follow.present session.1 listed)
  rw [after]
  refine ⟨?_, ?_, follow.present⟩
  · intro sender recipient
    simp only [whispers_send, WhisperState.targets_insert]
    by_cases same : sender = session.1
    next =>
      subst same
      simpa using follows_difference (follow.follows session.1 recipient)
        (resolveWhisperTargetPubkeys h session.2 session.1)
    next => simpa [same, Ne.symm same] using follow.follows sender recipient
  · intro sender recipient target
    rw [WhisperState.targets_insert] at target
    by_cases same : sender = session.1
    next => exact same ▸ listed
    next =>
      rw [if_neg same] at target
      exact follow.described sender recipient target

theorem reResolveSession_willing {pending : List String} (follow : WhispersFollow h)
    (listed : session.1 ∈ h.whisper.targetDefs) (willing : WillingBut h (session.1 :: pending)) :
    WillingBut (reResolveSession h session) pending := by
  obtain ⟨channelId, after⟩ := reResolveSession_present (follow.present session.1 listed)
  rw [after]
  intro sender recipient target optedOut
  rw [WhisperState.targets_insert] at target
  by_cases same : sender = session.1
  next =>
    rw [if_pos same] at target
    exact absurd optedOut (resolve_willing target)
  next =>
    rw [if_neg same] at target
    have queued := willing sender recipient target optedOut
    simpa [same] using queued

theorem reResolveSession_targetDefs :
    (reResolveSession h session).whisper.targetDefs = h.whisper.targetDefs := by
  unfold reResolveSession
  split <;> rfl

end

theorem reResolve_whispering {h : Hub} (follow : WhispersFollow h) :
    Whispering (reResolveWhisperSessions h) := by
  have rebuilt : ∀ (sessions : List (String × List WhisperTargetDef)) (current : Hub),
      WhispersFollow current → (∀ session ∈ sessions, session.1 ∈ current.whisper.targetDefs) →
      WillingBut current (sessions.map Prod.fst) →
      Whispering (sessions.foldl reResolveSession current) := by
    intro sessions
    induction sessions with
    | nil => exact fun current follow _ willing => ⟨follow, willing⟩
    | cons session rest ih =>
      intro current follow listed willing
      have here := listed session List.mem_cons_self
      refine ih _ (reResolveSession_follows follow here) ?_ (reResolveSession_willing follow here willing)
      intro later member
      rw [reResolveSession_targetDefs]
      exact listed later (List.mem_cons_of_mem session member)
  have listed : ∀ sender, sender ∈ h.whisper.targetDefs.toList.map Prod.fst ↔
      sender ∈ h.whisper.targetDefs := by
    intro sender
    rw [Std.ExtTreeMap.map_fst_toList_eq_keys, Std.ExtTreeMap.mem_keys]
  refine rebuilt _ h follow ?_ ?_
  · intro session member
    exact (listed session.1).mp (List.mem_map_of_mem member)
  · intro sender recipient target _
    exact (listed sender).mpr (follow.described sender recipient target)

-- Taking the whisperer's set away, having told everybody in it.
theorem WhispersFollow.torn {h : Hub} (follow : WhispersFollow h) (publicKey channelId : String)
    {after : Hub}
    (whispers : ∀ sender recipient, after.outbox.whispers sender recipient =
      (sendWhisperNotification h.outbox publicKey channelId false
        (h.whisper.targets publicKey)).whispers sender recipient)
    (whisper : after.whisper = { h.whisper with
      targetDefs := h.whisper.targetDefs.erase publicKey
      targetPubkeys := h.whisper.targetPubkeys.erase publicKey })
    (rosters : ∀ sender, sender ≠ publicKey → (∃ c, h.voice.inRoster c sender) →
      ∃ c, after.voice.inRoster c sender) :
    WhispersFollow after := by
  refine ⟨?_, ?_, ?_⟩
  · intro sender recipient
    rw [whispers, whispers_send, whisper, WhisperState.targets_erase]
    have before := follow.follows sender recipient
    by_cases same : sender = publicKey
    next =>
      subst same
      by_cases target : recipient ∈ h.whisper.targets sender
      next =>
        have told := (follows_append before false False).mpr (by simp [target])
        simpa [target] using told
      next => simpa [target] using before
    next => simpa [same, Ne.symm same] using before
  · intro sender recipient target
    rw [whisper] at target ⊢
    rw [WhisperState.targets_erase] at target
    by_cases same : sender = publicKey
    next => simp [same] at target
    next =>
      rw [if_neg same] at target
      simpa [Ne.symm same] using follow.described sender recipient target
  · intro sender described
    rw [whisper, Std.ExtTreeMap.mem_erase] at described
    obtain ⟨other, held⟩ := described
    have different : sender ≠ publicKey := by
      rintro rfl
      simp at other
    exact rosters sender different (follow.present sender held)

theorem leaveVoice_whispering {h : Hub} (whispering : Whispering h) (publicKey channelId : String)
    (now : Int) : Whispering (leaveVoice h publicKey channelId now) := by
  unfold leaveVoice
  refine reResolve_whispering (whispering.torn publicKey channelId ?_ rfl ?_)
  · intro sender recipient
    rw [whispers_send, whispers_send]
    congr 1
    refine whispers_append_other _ _ sender recipient ?_
    intro entry member
    split at member
    next => simp_all [whisperSwitch]
    next => cases member
  · rintro sender other ⟨c, listed⟩
    refine ⟨c, ?_⟩
    rw [VoiceState.inRoster_leave]
    exact ⟨listed, by simp [other]⟩

theorem leaveAll_whispering {h : Hub} (whispering : Whispering h) (publicKey : String)
    (channels : List String) (now : Int) : Whispering (leaveAll h publicKey channels now) := by
  induction channels generalizing h with
  | nil => exact whispering
  | cons first rest ih => exact ih (leaveVoice_whispering whispering publicKey first now)

-- A step that touches no whisper, tells of none and takes nobody out of voice.
theorem WhispersFollow.congr {h after : Hub} (follow : WhispersFollow h)
    (whispers : ∀ sender recipient,
      after.outbox.whispers sender recipient = h.outbox.whispers sender recipient)
    (whisper : after.whisper = h.whisper)
    (rosters : ∀ c sender, h.voice.inRoster c sender → after.voice.inRoster c sender) :
    WhispersFollow after := by
  refine ⟨?_, ?_, ?_⟩
  · intro sender recipient
    rw [whispers, whisper]
    exact follow.follows sender recipient
  · rw [whisper]
    exact follow.described
  · intro sender described
    obtain ⟨c, listed⟩ := follow.present sender (whisper ▸ described)
    exact ⟨c, rosters c sender listed⟩

theorem Whispering.congr {h after : Hub} (whispering : Whispering h)
    (whispers : ∀ sender recipient,
      after.outbox.whispers sender recipient = h.outbox.whispers sender recipient)
    (whisper : after.whisper = h.whisper)
    (rosters : ∀ c sender, h.voice.inRoster c sender → after.voice.inRoster c sender) :
    Whispering after := by
  refine ⟨whispering.toWhispersFollow.congr whispers whisper rosters, ?_⟩
  intro sender recipient
  rw [whisper]
  exact whispering.willing sender recipient

theorem admitJoin_whispering {h : Hub} (whispering : Whispering h) (cs : ConnState)
    (channelId : String) (env : JoinEnv) : Whispering (admitJoin h cs channelId env).1 := by
  unfold admitJoin
  split
  next => exact whispering
  next =>
    split
    next =>
      split
      next => exact whispering.congr (fun _ _ => rfl) rfl (fun _ _ => id)
      next =>
        refine whispering.congr ?_ rfl (fun _ _ => id)
        intro sender recipient
        refine whispers_append_other h.outbox _ sender recipient ?_
        simp [whisperSwitch]
    next => exact whispering.congr (fun _ _ => rfl) rfl (fun _ _ => id)
    next => exact whispering.congr (fun _ _ => rfl) rfl (fun _ _ => id)

theorem pushEventMove_whispering {h : Hub} (whispering : Whispering h)
    (pubkey eventId target source assignedBy : String) :
    Whispering (pushEventMove h pubkey eventId target source assignedBy) := by
  unfold pushEventMove
  split
  next =>
    split
    next => exact whispering
    next row _ =>
      split
      next => exact whispering
      next =>
        dsimp only [sendVoiceMove]
        refine whispering.congr ?_ rfl ?_
        · intro sender recipient
          refine whispers_append_other h.outbox _ sender recipient ?_
          simp [whisperSwitch]
        · intro c sender listed
          split <;> exact listed
  next => exact whispering

theorem applyPending_whispering {h : Hub} (whispering : Whispering h) (pubkey joined : String)
    (now : Int) : Whispering (applyPendingVoiceMoveAssignment h pubkey joined now) := by
  unfold applyPendingVoiceMoveAssignment
  split
  next => exact whispering
  next row _ => exact pushEventMove_whispering whispering _ _ _ _ _

-- The part of a join that whispers see: evict, register, re-resolve, apply a queued move.
theorem enterRoom_hub (h : Hub) (cs : ConnState) (room : String) (env : JoinEnv) :
    ∃ (evicted : Hub) (speaks : Bool) (events users : List (String × WsServerMessage)),
      evicted = evictStale h cs.publicKey env.now ∧
      let entered := { evicted with
        voice := evicted.voice.enter cs.publicKey room speaks env
        outbox := { evicted.outbox with voiceEventTx := events } }
      let resolved := reResolveWhisperSessions entered
      (enterRoom h cs room env).hub = applyPendingVoiceMoveAssignment
        { resolved with outbox := { resolved.outbox with userTx := users } } cs.publicKey room env.now :=
  ⟨_, _, _, _, rfl, rfl⟩

theorem enterRoom_whispering {h : Hub} (whispering : Whispering h) (cs : ConnState) (room : String)
    (env : JoinEnv) : Whispering (enterRoom h cs room env).hub := by
  obtain ⟨evicted, speaks, events, users, eviction, outcome⟩ := enterRoom_hub h cs room env
  have cleared : Whispering evicted :=
    eviction ▸ leaveAll_whispering whispering cs.publicKey (h.voice.channelsOf cs.publicKey) env.now
  rw [outcome]
  have entered : WhispersFollow { evicted with
      voice := evicted.voice.enter cs.publicKey room speaks env
      outbox := { evicted.outbox with voiceEventTx := events } } := by
    refine cleared.toWhispersFollow.congr (fun _ _ => rfl) rfl ?_
    intro c sender listed
    unfold VoiceState.inRoster at listed ⊢
    rw [VoiceState.slot_enter]
    split
    next => rfl
    next => exact listed
  refine applyPending_whispering ?_ cs.publicKey room env.now
  exact (reResolve_whispering entered).congr (fun _ _ => rfl) rfl (fun _ _ => id)

theorem handleVoiceJoin_whispering {h : Hub} (whispering : Whispering h) (cs : ConnState)
    (channelId : String) (env : JoinEnv) : Whispering (handleVoiceJoin h cs channelId env).hub := by
  have admitted := admitJoin_whispering whispering cs channelId env
  rcases handleVoiceJoin_cases h cs channelId env with ⟨message, _, outcome⟩ | ⟨room, _, outcome⟩
  · rw [outcome]
    exact admitted
  · rw [outcome]
    exact enterRoom_whispering admitted cs room env

theorem stop_whispering {h : Hub} (whispering : Whispering h) (cs : ConnState) :
    Whispering (handleVoiceWhisperStop h cs) := by
  have whisper : (handleVoiceWhisperStop h cs).whisper = { h.whisper with
      targetDefs := h.whisper.targetDefs.erase cs.publicKey
      targetPubkeys := h.whisper.targetPubkeys.erase cs.publicKey } := by
    unfold handleVoiceWhisperStop
    cases h.whisper.targetPubkeys[cs.publicKey]? <;> rfl
  refine ⟨whispering.torn cs.publicKey (cs.voiceChannel.getD "") ?_ whisper ?_, ?_⟩
  · intro sender recipient
    unfold handleVoiceWhisperStop
    cases known : h.whisper.targetPubkeys[cs.publicKey]? with
    | none => simp [WhisperState.targets, known, sendWhisperNotification]
    | some prevPks => simp [WhisperState.targets, known]
  · intro sender _ present
    unfold handleVoiceWhisperStop
    cases h.whisper.targetPubkeys[cs.publicKey]? <;> exact present
  · intro sender recipient target optedOut
    rw [whisper] at target optedOut
    rw [WhisperState.targets_erase] at target
    by_cases same : sender = cs.publicKey
    next => simp [same] at target
    next => exact whispering.willing sender recipient (by simpa [same] using target) optedOut

theorem optout_whispering {h : Hub} (whispering : Whispering h) (cs : ConnState) (enabled : Bool) :
    Whispering (handleVoiceWhisperOptout h cs enabled) :=
  reResolve_whispering ⟨whispering.follows, whispering.described, whispering.present⟩

-- A start replaces the set and tells everybody in the new one, whoever was in the old one.
theorem start_inVoice {h : Hub} {cs : ConnState} (speaking : inVoice h cs = true)
    (targets : List WhisperTargetDef) :
    ∃ targetPks : Finset String, (∀ recipient ∈ targetPks, recipient ∉ h.whisper.optouts) ∧
      handleVoiceWhisperStart h cs targets = { h with
        whisper := { h.whisper with
          targetDefs := h.whisper.targetDefs.insert cs.publicKey targets
          targetPubkeys := h.whisper.targetPubkeys.insert cs.publicKey targetPks }
        outbox := sendWhisperNotification h.outbox cs.publicKey (cs.voiceChannel.getD "") true
          targetPks } := by
  unfold handleVoiceWhisperStart
  rw [if_pos speaking]
  exact ⟨_, fun recipient resolved => resolve_willing resolved, rfl⟩

theorem start_whispering {h : Hub} (whispering : Whispering h) (cs : ConnState)
    (targets : List WhisperTargetDef) (speaking : inVoice h cs = true)
    (idle : h.whisper.targets cs.publicKey = ∅) :
    Whispering (handleVoiceWhisperStart h cs targets) := by
  obtain ⟨targetPks, willing, after⟩ := start_inVoice speaking targets
  rw [after]
  refine ⟨⟨?_, ?_, ?_⟩, ?_⟩
  · intro sender recipient
    dsimp only
    rw [whispers_send, WhisperState.targets_insert]
    have before := whispering.follows sender recipient
    by_cases same : sender = cs.publicKey
    next =>
      subst same
      rw [idle] at before
      by_cases target : recipient ∈ targetPks
      next =>
        have told := (follows_append before true True).mpr (by simp)
        simpa [target] using told
      next => simpa [target] using before
    next => simpa [same, Ne.symm same] using before
  · intro sender recipient target
    dsimp only at target ⊢
    rw [WhisperState.targets_insert] at target
    by_cases same : sender = cs.publicKey
    next => simp [same]
    next =>
      rw [if_neg same] at target
      simpa [Ne.symm same] using whispering.described sender recipient target
  · intro sender described
    dsimp only at described ⊢
    by_cases same : sender = cs.publicKey
    next =>
      obtain ⟨channelId, _, listed⟩ := (Option.any_eq_true _ _).mp speaking
      exact ⟨channelId, by simpa [same] using listed⟩
    next => exact whispering.present sender (by simpa [Ne.symm same] using described)
  · intro sender recipient target optedOut
    dsimp only at target optedOut
    rw [WhisperState.targets_insert] at target
    by_cases same : sender = cs.publicKey
    next => exact absurd optedOut (willing recipient (by simpa [same] using target))
    next => exact whispering.willing sender recipient (by simpa [same] using target) optedOut

-- Somebody is still in the old set: told twice if the new one names them, never told otherwise.
theorem start_breaks {h : Hub} (whispering : Whispering h) (cs : ConnState)
    (targets : List WhisperTargetDef) (speaking : inVoice h cs = true)
    (busy : h.whisper.targets cs.publicKey ≠ ∅) :
    ¬ WhispersTracked (handleVoiceWhisperStart h cs targets) := by
  obtain ⟨targetPks, _, after⟩ := start_inVoice speaking targets
  obtain ⟨recipient, held⟩ := Finset.nonempty_iff_ne_empty.mpr busy
  have before := whispering.follows cs.publicKey recipient
  rw [after]
  intro tracked
  have follows : Follows _ _ :=
    ⟨tracked.alternates cs.publicKey recipient, tracked.current cs.publicKey recipient⟩
  dsimp only at follows
  rw [whispers_send, WhisperState.targets_insert] at follows
  by_cases target : recipient ∈ targetPks
  next =>
    have twice := (follows_append before true True).mp (by simpa [target] using follows)
    simp [held] at twice
  next =>
    have silent : Follows (h.outbox.whispers cs.publicKey recipient) False := by
      simpa [target] using follows
    exact silent.2.mp (before.2.mpr held)

namespace Server

-- A whisper is started only while the whisperer's previous one reaches nobody.
def StartsIdle (s : Server) : WhisperStep → Prop
  | .start socket _ => ∀ cs : ConnState, s.sockets[socket]? = some cs →
      cs.allianceVoiceChannel = none → inVoice s.hub cs = true → s.hub.whisper.targets cs.publicKey = ∅
  | _ => True

theorem step_whispering (s : Server) (a : SocketStep) (whispering : Whispering s.hub) :
    Whispering (s.step a).hub := by
  cases a with
  | connect socket cs =>
    simp only [step]
    split <;> exact whispering
  | join socket channelId env =>
    simp only [step]
    split
    next => exact whispering
    next cs _ => exact handleVoiceJoin_whispering whispering cs channelId env
  | leave socket channelId now =>
    simp only [step]
    split
    next => exact whispering
    next cs _ => exact leaveVoice_whispering whispering cs.publicKey channelId now
  | disconnect socket now =>
    simp only [step, handleDisconnect]
    split
    next => exact whispering
    next cs _ =>
      dsimp only
      split
      next => exact whispering
      next channelId _ => exact leaveVoice_whispering whispering cs.publicKey channelId now
  | rewrite db => exact whispering.congr (fun _ _ => rfl) rfl (fun _ _ => id)

theorem onSocket_whispering {s : Server} (whispering : Whispering s.hub) (socket : Nat)
    (handle : ConnState → Hub)
    (keeps : ∀ cs : ConnState, s.sockets[socket]? = some cs → cs.allianceVoiceChannel = none →
      Whispering (handle cs)) : Whispering (s.onSocket socket handle).hub := by
  unfold onSocket
  split
  next => exact whispering
  next cs isOpen =>
    split
    next => exact whispering
    next member => exact keeps cs isOpen (by simpa using member)

theorem whisperStep_whispering (s : Server) (a : WhisperStep) (whispering : Whispering s.hub)
    (starts : StartsIdle s a) : Whispering (s.whisperStep a).hub := by
  cases a with
  | socket a => exact step_whispering s a whispering
  | appLeave publicKey channelId now => exact leaveVoice_whispering whispering publicKey channelId now
  | start socket targets =>
    refine onSocket_whispering whispering socket _ ?_
    intro cs isOpen member
    by_cases speaking : inVoice s.hub cs = true
    next => exact start_whispering whispering cs targets speaking (starts cs isOpen member speaking)
    next =>
      rw [handleVoiceWhisperStart, if_neg speaking]
      exact whispering
  | stop socket => exact onSocket_whispering whispering socket _ fun cs _ _ => stop_whispering whispering cs
  | optout socket enabled =>
    exact onSocket_whispering whispering socket _ fun cs _ _ => optout_whispering whispering cs enabled

theorem whisperStep_breaks (s : Server) (a : WhisperStep) (whispering : Whispering s.hub)
    (busy : ¬ StartsIdle s a) : ¬ WhispersTracked (s.whisperStep a).hub := by
  cases a with
  | start socket targets =>
    simp only [StartsIdle, not_forall] at busy
    obtain ⟨cs, isOpen, member, speaking, held⟩ := busy
    simp only [whisperStep, onSocket, isOpen, member]
    exact start_breaks whispering cs targets speaking held
  | socket a => simp [StartsIdle] at busy
  | appLeave publicKey channelId now => simp [StartsIdle] at busy
  | stop socket => simp [StartsIdle] at busy
  | optout socket enabled => simp [StartsIdle] at busy

theorem boot_whispering (db : Db) (config : VoiceConfig) : Whispering (boot db config).hub := by
  refine ⟨⟨?_, ?_, ?_⟩, ?_⟩
  · intro sender recipient
    simp [boot, Outbox.whispers, WhisperState.targets, Follows]
  · simp [boot, WhisperState.targets]
  · simp [boot]
  · simp [boot, WillingBut, WhisperState.targets]

theorem whispersTracked_iff (db : Db) (config : VoiceConfig) (acts : List WhisperStep) :
    (∀ front, front <+: acts → WhispersTracked (run whisperStep (boot db config) front).hub) ↔
      Meets whisperStep StartsIdle (boot db config) acts :=
  always_iff_meets (fun s : Server => Whispering s.hub) (fun s => WhispersTracked s.hub)
    (fun _ whispering => whispering.tracked) whisperStep_whispering whisperStep_breaks
    (boot_whispering db config) acts

end Server

-- Ann whispers to Bob and then, without stopping, to Cy: Bob is never told that it has stopped.
theorem whispersTracked_retargeted :
    ¬ ∀ (db : Db) (config : VoiceConfig) (acts : List WhisperStep),
      WhispersTracked (run Server.whisperStep (Server.boot db config) acts).hub := by
  intro always
  have tracked := always callDb {} [.socket (.connect 0 { publicKey := "ann" }),
    .socket (.join 0 "den" (callEnv 1 "t0")), .start 0 [{ targetType := .user, id := "bob" }],
    .start 0 [{ targetType := .user, id := "cy" }]]
  have stale := (tracked.current "ann" "bob").mp (by decide)
  revert stale
  decide

end Wavvon
