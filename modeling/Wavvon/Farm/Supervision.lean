import Mathlib.Algebra.Order.Ring.Int
import Mathlib.Data.List.Nodup
import Mathlib.Data.List.Sort
import Wavvon.Farm.Heartbeats
import Wavvon.Shared.Checks
import Wavvon.Shared.Runs

set_option autoImplicit false

namespace Wavvon.Farm

def OFFLINE_THRESHOLD_SECS : Int := 180

def BASE_BACKOFF_SECS : Int := 10

def MAX_BACKOFF_SECS : Int := 300

def MAX_ATTEMPTS : Int := 5

inductive Decision where
  | healthy
  | backoff
  | restart
  | giveUp
  deriving DecidableEq, Repr

-- Nothing if the i64 product overflows.
def backoffSecs (attempts : Int) : Option Int :=
  let product := BASE_BACKOFF_SECS * 2 ^ attempts.toNat
  if product < 2 ^ 63 then some (min product MAX_BACKOFF_SECS) else none

def monitorDecide (effectiveLastSeen attempts : Int) (lastRestartAt : Option Int) (now : Int) : Option Decision :=
  if now - effectiveLastSeen < OFFLINE_THRESHOLD_SECS then some .healthy
  else if MAX_ATTEMPTS ≤ attempts then some .giveUp
  else
    match lastRestartAt with
    | none => some .restart
    | some lastRestart =>
      (backoffSecs attempts).map fun wait => if now - lastRestart < wait then .backoff else .restart

/-- A hub as a pass has read it. -/
structure Watched where
  hubId : String
  dbUrl : String
  port : Int
  voicePort : Option Int
  attempts : Int
  lastRestartAt : Option Int
  effectiveLastSeen : Int
  serverId : Option String
  ownerPubkey : String

structure RestartCommand where
  hubId : String
  dbUrl : String
  port : UInt16
  voicePort : UInt16
  ownerPubkey : Option String
  farmUrl : String
  deriving DecidableEq, Repr

inductive Issue where
  | nothing
  | own (process : HubProcess)
  | sent (serverId : String) (command : RestartCommand)
  | offline (serverId : String)
  deriving DecidableEq, Repr

structure Visit where
  hubId : String
  decision : Decision
  issue : Issue
  deriving DecidableEq, Repr

def Visit.issued (v : Visit) : Bool :=
  match v.issue with
  | .own _ | .sent _ _ => true
  | .nothing | .offline _ => false

/-- What a pass meets: the order of its rows, the agents that take a command, and the processes. -/
structure Surroundings where
  rank : String → Nat := fun _ => 0
  agentTakes : String → String → Bool := fun _ _ => true
  dies : String → Bool := fun _ => true
  runs : String → Bool := fun _ => true

structure FarmConfig where
  farmUrl : String
  ports : PortRange

def FleetRow.supervised (row : FleetRow) : Bool :=
  decide (row.suspendedAt = none ∧ row.deletedAt = none ∧ row.autoRestartEnabled = true) && row.processPort.isSome

-- COALESCE(hb.last_seen_at, h.created_at)
def effectiveLastSeen (s : Fleet) (row : FleetRow) : Int :=
  ((row.hubPubkey.bind fun pubkey => s.heartbeats[pubkey]?).map (·.lastSeenAt)).getD row.createdAt

-- A row without a db_url cannot be decoded.
def watch (s : Fleet) (entry : String × FleetRow) : Option Watched :=
  entry.2.dbUrl.bind fun dbUrl => entry.2.processPort.map fun port =>
    { hubId := entry.1
      dbUrl := dbUrl
      port := port
      voicePort := entry.2.voicePort
      attempts := entry.2.restartAttempts
      lastRestartAt := entry.2.lastRestartAt
      effectiveLastSeen := effectiveLastSeen s entry.2
      serverId := entry.2.serverId
      ownerPubkey := entry.2.ownerPubkey }

def selected (s : Fleet) (rank : String → Nat) : List (String × FleetRow) :=
  (s.hubs.toList.filter fun entry => entry.2.supervised).mergeSort fun a b => decide (rank a.1 ≤ rank b.1)

def watched (s : Fleet) (rank : String → Nat) : Option (List Watched) := (selected s rank).mapM (watch s)

section

variable (config : FarmConfig) (world : Surroundings) (now : Int)

def restartCommand (w : Watched) (voicePort : UInt16) : RestartCommand where
  hubId := w.hubId
  dbUrl := w.dbUrl
  port := UInt16.ofInt w.port
  voicePort := voicePort
  ownerPubkey := some w.ownerPubkey
  farmUrl := config.farmUrl

-- Hands the restart to whoever runs the hub.
def issueRestart (s : Fleet) (w : Watched) (voicePort : UInt16) : Fleet × Issue :=
  match w.serverId with
  | some serverId =>
    (s, if world.agentTakes serverId w.hubId then .sent serverId (restartCommand config w voicePort) else .offline serverId)
  | none =>
    let process := { port := UInt16.ofInt w.port, voicePort := voicePort }
    ((restartHub s w.hubId process (world.dies w.hubId) (world.runs w.hubId)).1, .own process)

def countAttempt (s : Fleet) (hubId : String) : Fleet :=
  updateHub s hubId fun row => { row with restartAttempts := row.restartAttempts + 1, lastRestartAt := some now }

-- One row of a pass; nothing if an addition or a product overflows.
def visit (s : Fleet) (w : Watched) : Option (Fleet × Visit) :=
  match monitorDecide w.effectiveLastSeen w.attempts w.lastRestartAt now with
  | none => none
  | some .restart =>
    (resolveVoicePort config.ports s w.hubId w.voicePort).map fun resolved =>
      let issued := issueRestart config world resolved.1 w resolved.2
      (countAttempt now issued.1 w.hubId, { hubId := w.hubId, decision := .restart, issue := issued.2 })
  | some .giveUp =>
    some (updateHub s w.hubId fun row => { row with autoRestartEnabled := false },
      { hubId := w.hubId, decision := .giveUp, issue := .nothing })
  | some decision => some (s, { hubId := w.hubId, decision := decision, issue := .nothing })

def visitAll : List Watched → Fleet → Fleet × List Visit
  | [], s => (s, [])
  | w :: rest, s =>
    match visit config world now s w with
    | none => (s, [])
    | some (after, v) =>
      let later := visitAll rest after
      (later.1, v :: later.2)

/-- One supervision pass. -/
def tick (s : Fleet) : Fleet × List Visit :=
  match watched s world.rank with
  | none => (s, [])
  | some rows => visitAll config world now rows s

end

inductive FarmStep where
  | pass (now : Int) (world : Surroundings)
  | heartbeat (now : Int) (payload : HeartbeatPayload)

def FarmStep.now : FarmStep → Int
  | .pass now _ => now
  | .heartbeat now _ => now

def FarmStep.next (config : FarmConfig) (s : Fleet) : FarmStep → Fleet
  | .pass now world => (tick config world now s).1
  | .heartbeat now payload => (receiveHeartbeat config.farmUrl now s payload).1

-- The heartbeat is accepted, and it is from the hub of the row.
def FarmStep.hears (config : FarmConfig) (s : Fleet) (hubId : String) : FarmStep → Bool
  | .pass _ _ => false
  | .heartbeat now payload =>
    let out := receiveHeartbeat config.farmUrl now s payload
    decide (out.2.1 = 200) && out.1.hubs[hubId]?.any fun row => decide (row.hubPubkey = payload.hubPubkey)

def FarmStep.restarts (config : FarmConfig) (s : Fleet) (hubId : String) : FarmStep → Bool
  | .pass now world => (tick config world now s).2.any fun v => decide (v.hubId = hubId) && v.issued
  | .heartbeat _ _ => false

-- When the restarts of a hub were issued.
def restartTimes (config : FarmConfig) (hubId : String) : Fleet → List FarmStep → List Int
  | _, [] => []
  | s, act :: rest =>
    (if act.restarts config s hubId then [act.now] else []) ++ restartTimes config hubId (act.next config s) rest

/-- A run in which supervision does what it is for. -/
structure Supervised (config : FarmConfig) (s : Fleet) (steps : List FarmStep) : Prop where
  fresh : ∀ (hubId : String) before beat mid act, before ++ beat :: mid ++ [act] <+: steps →
    beat.hears config (Runs.run (FarmStep.next config) s before) hubId = true →
    act.restarts config (Runs.run (FarmStep.next config) s (before ++ beat :: mid)) hubId = true →
    beat.now + OFFLINE_THRESHOLD_SECS ≤ act.now
  bounded : ∀ (hubId : String) before stretch, before ++ stretch <+: steps →
    Runs.Meets (FarmStep.next config) (fun s act => act.hears config s hubId = false)
      (Runs.run (FarmStep.next config) s before) stretch →
    (restartTimes config hubId (Runs.run (FarmStep.next config) s before) stretch).length ≤ 5
  spaced : ∀ (hubId : String) before stretch, before ++ stretch <+: steps →
    Runs.Meets (FarmStep.next config) (fun s act => act.hears config s hubId = false)
      (Runs.run (FarmStep.next config) s before) stretch →
    ∀ (k : Nat) (first second : Int),
      (restartTimes config hubId (Runs.run (FarmStep.next config) s before) stretch)[k]? = some first →
      (restartTimes config hubId (Runs.run (FarmStep.next config) s before) stretch)[k + 1]? = some second →
      min (10 * 2 ^ (k + 1)) 300 ≤ second - first
  uncounted : ∀ before now world, before ++ [.pass now world] <+: steps →
    ∀ v ∈ (tick config world now (Runs.run (FarmStep.next config) s before)).2, ∀ serverId,
      v.issue = .offline serverId →
      (tick config world now (Runs.run (FarmStep.next config) s before)).1.hubs[v.hubId]?.map (·.restartAttempts) =
        (Runs.run (FarmStep.next config) s before).hubs[v.hubId]?.map (·.restartAttempts)
  decided : ∀ before now world, before ++ [.pass now world] <+: steps →
    ∀ (hubId : String) (row : FleetRow), (Runs.run (FarmStep.next config) s before).hubs[hubId]? = some row →
      row.supervised = true → hubId ∈ (tick config world now (Runs.run (FarmStep.next config) s before)).2.map (·.hubId)
  finite : ∀ before now world, before ++ [.pass now world] <+: steps →
    ∀ (hubId : String) (row : FleetRow), (Runs.run (FarmStep.next config) s before).hubs[hubId]? = some row →
      (monitorDecide (effectiveLastSeen (Runs.run (FarmStep.next config) s before) row) row.restartAttempts
        row.lastRestartAt now).isSome = true

-- A restart that is due reaches its agent, and finds the voice port it needs.
def Ready (config : FarmConfig) (world : Surroundings) (now : Int) (s : Fleet) (w : Watched) : Prop :=
  monitorDecide w.effectiveLastSeen w.attempts w.lastRestartAt now = some .restart →
    (∀ serverId, w.serverId = some serverId → world.agentTakes serverId w.hubId = true) ∧
      (w.voicePort = none → (allocateVoicePort config.ports s).isSome = true)

def AllReady (config : FarmConfig) (world : Surroundings) (now : Int) : List Watched → Fleet → Prop
  | [], _ => True
  | w :: rest, s => Ready config world now s w ∧
    ∀ after v, visit config world now s w = some (after, v) → AllReady config world now rest after

/-- A pass over rows that all have a database, whose due restarts can all be issued. -/
def Undisturbed (config : FarmConfig) (s : Fleet) : FarmStep → Prop
  | .pass now world =>
    (∀ (hubId : String) (row : FleetRow), s.hubs[hubId]? = some row → row.supervised = true → row.dbUrl.isSome = true) ∧
      ∀ rows, watched s world.rank = some rows → AllReady config world now rows s
  | .heartbeat _ _ => True

section

variable {config : FarmConfig} {world : Surroundings} {now : Int} {s after : Fleet} {w : Watched} {v : Visit}

theorem backoffSecs_below {attempts : Int} (few : attempts < MAX_ATTEMPTS) :
    backoffSecs attempts = some (min (10 * 2 ^ attempts.toNat) 300) := by
  have power : attempts.toNat ≤ 4 := by
    unfold MAX_ATTEMPTS at few
    omega
  have small : (2 : Int) ^ attempts.toNat ≤ 2 ^ 4 := pow_le_pow_right₀ (by decide) power
  unfold backoffSecs BASE_BACKOFF_SECS MAX_BACKOFF_SECS
  dsimp only
  exact if_pos (by omega)

theorem monitorDecide_isSome (seen attempts : Int) (last : Option Int) (now : Int) :
    (monitorDecide seen attempts last now).isSome = true := by
  unfold monitorDecide
  split
  next => rfl
  next =>
    split
    next => rfl
    next few =>
      cases last with
      | none => rfl
      | some last =>
        dsimp only
        rw [backoffSecs_below (Int.not_le.mp few), Option.map_some, Option.isSome_some]

/-- What the decision to restart a hub means. -/
structure Due (seen attempts : Int) (last : Option Int) (now : Int) : Prop where
  stale : seen + OFFLINE_THRESHOLD_SECS ≤ now
  few : attempts < MAX_ATTEMPTS
  waited : ∀ t, last = some t → min (10 * 2 ^ attempts.toNat) 300 ≤ now - t

theorem due_of_restart {seen attempts : Int} {last : Option Int} {now : Int}
    (decided : monitorDecide seen attempts last now = some .restart) : Due seen attempts last now := by
  unfold monitorDecide at decided
  split at decided
  next => cases decided
  next stale =>
    split at decided
    next => cases decided
    next many =>
      have few := Int.not_le.mp many
      refine ⟨by omega, few, ?_⟩
      rintro t rfl
      dsimp only at decided
      rw [backoffSecs_below few, Option.map_some] at decided
      split at decided
      next => cases decided
      next waited => exact Int.not_lt.mp waited

/-- What a visit leaves of a row. -/
structure Settles (now : Int) (v : Visit) (row changed : FleetRow) : Prop where
  key : changed.hubPubkey = row.hubPubkey
  counted : v.decision = .restart → changed.restartAttempts = row.restartAttempts + 1 ∧ changed.lastRestartAt = some now
  left : v.decision ≠ .restart → changed.restartAttempts = row.restartAttempts ∧
    changed.lastRestartAt = row.lastRestartAt

structure Visited (world : Surroundings) (now : Int) (s after : Fleet) (w : Watched) (v : Visit) : Prop where
  hub : v.hubId = w.hubId
  decision : monitorDecide w.effectiveLastSeen w.attempts w.lastRestartAt now = some v.decision
  issue : v.issue ≠ .nothing → v.decision = .restart
  offline : v.decision = .restart → ∀ serverId,
    v.issue = .offline serverId ↔ w.serverId = some serverId ∧ world.agentTakes serverId w.hubId = false
  heartbeats : after.heartbeats = s.heartbeats
  elsewhere : ∀ (other : String), other ≠ w.hubId → after.hubs[other]? = s.hubs[other]?
  here : ∀ (row : FleetRow), s.hubs[w.hubId]? = some row →
    ∃ changed, after.hubs[w.hubId]? = some changed ∧ Settles now v row changed

theorem issueRestart_hubs (config : FarmConfig) (world : Surroundings) (s : Fleet) (w : Watched) (voicePort : UInt16) :
    (issueRestart config world s w voicePort).1.hubs = s.hubs ∧
      (issueRestart config world s w voicePort).1.heartbeats = s.heartbeats := by
  unfold issueRestart
  split
  next => exact ⟨rfl, rfl⟩
  next => exact ⟨restartHub_hubs _ _ _, restartHub_heartbeats _ _ _⟩

theorem issueRestart_offline {voicePort : UInt16} {serverId : String} :
    (issueRestart config world s w voicePort).2 = .offline serverId ↔
      w.serverId = some serverId ∧ world.agentTakes serverId w.hubId = false := by
  unfold issueRestart
  cases owner : w.serverId with
  | none => simp
  | some own =>
    dsimp only
    by_cases takes : world.agentTakes own w.hubId = true
    next =>
      rw [if_pos takes]
      simp only [reduceCtorEq, Option.some.injEq, false_iff, not_and, Bool.not_eq_false]
      rintro rfl
      exact takes
    next =>
      rw [if_neg takes]
      simp only [Issue.offline.injEq, Option.some.injEq]
      constructor
      · rintro rfl
        exact ⟨rfl, Bool.not_eq_true _ ▸ takes⟩
      · exact And.left

/-- The voice port of a restart: the one of the row, or a new one that is written down. -/
theorem resolveVoicePort_row {range : PortRange} {hubId : String} {existing : Option Int} {resolved : Fleet × UInt16}
    (ok : resolveVoicePort range s hubId existing = some resolved) :
    resolved.1.heartbeats = s.heartbeats ∧ (∀ (other : String), other ≠ hubId →
    resolved.1.hubs[other]? = s.hubs[other]?) ∧
      ∀ (row : FleetRow), s.hubs[hubId]? = some row →
        ∃ voicePort, resolved.1.hubs[hubId]? = some { row with voicePort := voicePort } := by
  cases existing with
  | some voicePort =>
    obtain rfl := Option.some.inj ok
    exact ⟨rfl, fun _ _ => rfl, fun row found => ⟨row.voicePort, found⟩⟩
  | none =>
    obtain ⟨fresh, -, rfl⟩ := Option.map_eq_some_iff.mp ok
    refine ⟨rfl, ?_, ?_⟩
    · intro other apart
      rw [updateHub_row, if_neg apart]
    · intro row found
      exact ⟨some (fresh.toNat : Int), by rw [updateHub_row, if_pos rfl, found, Option.map_some]⟩

theorem visited_restart {resolved : Fleet × UInt16}
    (due : monitorDecide w.effectiveLastSeen w.attempts w.lastRestartAt now = some .restart)
    (ok : resolveVoicePort config.ports s w.hubId w.voicePort = some resolved) :
    Visited world now s (countAttempt now (issueRestart config world resolved.1 w resolved.2).1 w.hubId) w
      { hubId := w.hubId, decision := .restart, issue := (issueRestart config world resolved.1 w resolved.2).2 } := by
  obtain ⟨beats, others, own⟩ := resolveVoicePort_row ok
  obtain ⟨hubs, heartbeats⟩ := issueRestart_hubs config world resolved.1 w resolved.2
  refine ⟨rfl, due, fun _ => rfl, fun _ serverId => issueRestart_offline, heartbeats.trans beats, ?_, ?_⟩
  · intro other apart
    rw [countAttempt, updateHub_row, if_neg apart, hubs, others other apart]
  · intro row found
    obtain ⟨voicePort, kept⟩ := own row found
    let counted : FleetRow :=
      { row with voicePort := voicePort, restartAttempts := row.restartAttempts + 1, lastRestartAt := some now }
    refine ⟨counted, ?_, rfl, fun _ => ⟨rfl, rfl⟩, ?_⟩
    · rw [countAttempt, updateHub_row, if_pos rfl, hubs, kept, Option.map_some]
    intro other
    exact absurd rfl other

theorem visit_cases (config : FarmConfig) (world : Surroundings) (now : Int) (s : Fleet) (w : Watched) :
    (visit config world now s w = none ∧
      monitorDecide w.effectiveLastSeen w.attempts w.lastRestartAt now = some .restart ∧
      w.voicePort = none ∧ allocateVoicePort config.ports s = none) ∨
    ∃ after v, visit config world now s w = some (after, v) ∧ Visited world now s after w v ∧
      (v.decision = .restart → w.voicePort = none → (allocateVoicePort config.ports s).isSome = true) := by
  obtain ⟨decision, decided⟩ := Option.isSome_iff_exists.mp
    (monitorDecide_isSome w.effectiveLastSeen w.attempts w.lastRestartAt now)
  unfold visit
  rw [decided]
  -- Nothing but a restart writes more than the switch of the row.
  have quiet : decision ≠ .restart → ∀ (f : FleetRow → FleetRow), (∀ row, Settles now
      { hubId := w.hubId, decision := decision, issue := .nothing } row (f row)) →
      Visited world now s (updateHub s w.hubId f) w { hubId := w.hubId, decision := decision, issue := .nothing } := by
    intro other f settles
    refine ⟨rfl, decided, fun issued => absurd rfl issued, fun restarts => absurd restarts other, rfl, ?_, ?_⟩
    · intro hubId apart
      rw [updateHub_row, if_neg apart]
    · intro row found
      exact ⟨f row, by rw [updateHub_row, if_pos rfl, found, Option.map_some], settles row⟩
  have idle : decision ≠ .restart → Visited world now s s w { hubId := w.hubId, decision := decision, issue := .nothing } := by
    intro other
    refine ⟨rfl, decided, fun issued => absurd rfl issued, fun restarts => absurd restarts other, rfl,
      fun _ _ => rfl, ?_⟩
    intro row found
    exact ⟨row, found, rfl, fun restarts => absurd restarts other, fun _ => ⟨rfl, rfl⟩⟩
  cases decision with
  | healthy => exact .inr ⟨_, _, rfl, idle (by decide), fun restarts => by cases restarts⟩
  | backoff => exact .inr ⟨_, _, rfl, idle (by decide), fun restarts => by cases restarts⟩
  | giveUp =>
    have switched := quiet (by decide) (fun row => { row with autoRestartEnabled := false })
      fun row => ⟨rfl, fun restarts => Decision.noConfusion restarts, fun _ => ⟨rfl, rfl⟩⟩
    exact .inr ⟨_, _, rfl, switched, fun restarts => by cases restarts⟩
  | restart =>
    dsimp only
    cases ok : resolveVoicePort config.ports s w.hubId w.voicePort with
    | some resolved =>
      refine .inr ⟨_, _, rfl, visited_restart decided ok, ?_⟩
      intro _ missing
      rw [missing] at ok
      obtain ⟨fresh, found, -⟩ := Option.map_eq_some_iff.mp ok
      rw [found, Option.isSome_some]
    | none =>
      cases existing : w.voicePort with
      | some voicePort =>
        rw [existing] at ok
        cases ok
      | none =>
        rw [existing] at ok
        exact .inl ⟨rfl, rfl, rfl, Option.map_eq_none_iff.mp ok⟩

theorem ready_iff : Ready config world now s w ↔
    ∃ after v, visit config world now s w = some (after, v) ∧ ∀ serverId, v.issue ≠ .offline serverId := by
  obtain ⟨stuck, due, missing, full⟩ | ⟨after, v, visited, held, roomy⟩ := visit_cases config world now s w
  · refine iff_of_false ?_ ?_
    · intro ready
      have found := (ready due).2 missing
      rw [full] at found
      cases found
    · rintro ⟨after, v, visited, -⟩
      rw [stuck] at visited
      cases visited
  · constructor
    · intro ready
      refine ⟨after, v, visited, ?_⟩
      intro serverId offline
      have restarts := held.issue (by rw [offline]; exact Issue.noConfusion)
      obtain ⟨owner, refuses⟩ := (held.offline restarts serverId).mp offline
      have takes := (ready (restarts ▸ held.decision)).1 serverId owner
      rw [refuses] at takes
      cases takes
    · rintro ⟨after', v', visited', reached⟩ due
      rw [visited] at visited'
      cases visited'
      have restarts : v.decision = .restart := Option.some.inj (held.decision.symm.trans due)
      refine ⟨?_, roomy restarts⟩
      intro serverId owner
      by_contra refuses
      exact reached serverId ((held.offline restarts serverId).mpr ⟨owner, Bool.not_eq_true _ ▸ refuses⟩)

theorem visitAll_none {rest : List Watched} (stuck : visit config world now s w = none) :
    visitAll config world now (w :: rest) s = (s, []) := by
  rw [visitAll, stuck]

theorem visitAll_some {rest : List Watched} (visited : visit config world now s w = some (after, v)) :
    visitAll config world now (w :: rest) s =
      ((visitAll config world now rest after).1, v :: (visitAll config world now rest after).2) := by
  rw [visitAll, visited]

theorem visitAll_hubs (config : FarmConfig) (world : Surroundings) (now : Int) (rows : List Watched) (s : Fleet) :
    (visitAll config world now rows s).2.map (·.hubId) <+: rows.map (·.hubId) := by
  induction rows generalizing s with
  | nil => exact List.prefix_rfl
  | cons w rest ih =>
    obtain ⟨stuck, -⟩ | ⟨after, v, visited, held, -⟩ := visit_cases config world now s w
    next =>
      rw [visitAll_none stuck]
      exact List.nil_prefix
    next =>
      rw [visitAll_some visited, List.map_cons, List.map_cons, held.hub]
      exact List.cons_prefix_cons.mpr ⟨rfl, ih after⟩

-- A pass gets through to its last row, and every command is taken.
theorem allReady_iff (config : FarmConfig) (world : Surroundings) (now : Int) (rows : List Watched) (s : Fleet) :
    AllReady config world now rows s ↔
      (visitAll config world now rows s).2.map (·.hubId) = rows.map (·.hubId) ∧
        ∀ v ∈ (visitAll config world now rows s).2, ∀ serverId, v.issue ≠ .offline serverId := by
  induction rows generalizing s with
  | nil => exact iff_of_true trivial ⟨rfl, by simp [visitAll]⟩
  | cons w rest ih =>
    rw [AllReady, ready_iff]
    cases visited : visit config world now s w with
    | none =>
      rw [visitAll_none visited]
      simp
    | some out =>
      obtain ⟨after, v⟩ := out
      have same : v.hubId = w.hubId := by
        obtain ⟨stuck, -⟩ | ⟨after', v', visited', held, -⟩ := visit_cases config world now s w
        · rw [stuck] at visited
          cases visited
        · rw [visited] at visited'
          cases visited'
          exact held.hub
      rw [visitAll_some visited, List.map_cons, List.map_cons, same, List.forall_mem_cons]
      simp only [List.cons.injEq, true_and, Option.some.injEq, Prod.mk.injEq]
      constructor
      · rintro ⟨⟨after', v', ⟨rfl, rfl⟩, reached⟩, later⟩
        obtain ⟨whole, all⟩ := (ih after).mp (later after v ⟨rfl, rfl⟩)
        exact ⟨whole, reached, all⟩
      · rintro ⟨whole, reached, all⟩
        refine ⟨⟨after, v, ⟨rfl, rfl⟩, reached⟩, ?_⟩
        rintro after' v' ⟨rfl, rfl⟩
        exact (ih after).mpr ⟨whole, all⟩

/-- What the visits of a pass did, and to whom. -/
structure Worked (now : Int) (s after : Fleet) (rows : List Watched) (visits : List Visit) : Prop where
  heartbeats : after.heartbeats = s.heartbeats
  visited : ∀ v ∈ visits, ∃ w ∈ rows, v.hubId = w.hubId ∧
    monitorDecide w.effectiveLastSeen w.attempts w.lastRestartAt now = some v.decision ∧
    (v.issue ≠ .nothing → v.decision = .restart) ∧
    ∀ (row : FleetRow), s.hubs[w.hubId]? = some row →
      ∃ changed, after.hubs[w.hubId]? = some changed ∧ Settles now v row changed
  unvisited : ∀ (hubId : String), hubId ∉ visits.map (·.hubId) → after.hubs[hubId]? = s.hubs[hubId]?

theorem visitAll_worked {rows : List Watched} (distinct : (rows.map (·.hubId)).Nodup) (s : Fleet) :
    Worked now s (visitAll config world now rows s).1 rows (visitAll config world now rows s).2 := by
  induction rows generalizing s with
  | nil => exact ⟨rfl, by simp [visitAll], fun _ _ => rfl⟩
  | cons w rest ih =>
    obtain ⟨apart, distinct⟩ := List.nodup_cons.mp distinct
    obtain ⟨stuck, -⟩ | ⟨after, v, visited, held, -⟩ := visit_cases config world now s w
    next =>
      rw [visitAll_none stuck]
      exact ⟨rfl, by simp, fun _ _ => rfl⟩
    next =>
      have later := ih distinct after
      have missed : w.hubId ∉ (visitAll config world now rest after).2.map (·.hubId) :=
        fun again => apart ((visitAll_hubs config world now rest after).subset again)
      rw [visitAll_some visited]
      refine ⟨later.heartbeats.trans held.heartbeats, ?_, ?_⟩
      · intro u listed
        rcases List.mem_cons.mp listed with rfl | listed
        · refine ⟨w, List.mem_cons_self, held.hub, held.decision, held.issue, ?_⟩
          intro row found
          obtain ⟨changed, stored, settles⟩ := held.here row found
          exact ⟨changed, (later.unvisited w.hubId missed).trans stored, settles⟩
        · obtain ⟨x, inside, same, decided, issue, effect⟩ := later.visited u listed
          refine ⟨x, List.mem_cons_of_mem w inside, same, decided, issue, ?_⟩
          intro row found
          refine effect row ((held.elsewhere x.hubId ?_).trans found)
          intro own
          have again : x.hubId ∈ rest.map (·.hubId) := List.mem_map_of_mem inside
          rw [own] at again
          exact apart again
      · intro hubId absent
        rw [List.map_cons, List.mem_cons, not_or] at absent
        rw [later.unvisited hubId absent.2, held.elsewhere hubId (held.hub ▸ absent.1)]

theorem mem_selected {rank : String → Nat} {hubId : String} {row : FleetRow} :
    (hubId, row) ∈ selected s rank ↔ s.hubs[hubId]? = some row ∧ row.supervised = true := by
  rw [selected, List.mem_mergeSort, List.mem_filter, mem_toList_row]

theorem selected_nodup (s : Fleet) (rank : String → Nat) : ((selected s rank).map (·.1)).Nodup := by
  have keys : (s.hubs.toList.map (·.1)).Nodup := by
    rw [List.Nodup, List.pairwise_map]
    refine Std.ExtTreeMap.distinct_keys_toList.imp ?_
    intro a b apart same
    exact apart (same ▸ Std.ReflCmp.compare_self)
  exact ((List.mergeSort_perm _ _).map _).nodup_iff.mpr (keys.sublist (List.filter_sublist.map _))

theorem watch_some {entry : String × FleetRow} (read : watch s entry = some w) :
    w.hubId = entry.1 ∧ w.attempts = entry.2.restartAttempts ∧ w.lastRestartAt = entry.2.lastRestartAt ∧
      w.effectiveLastSeen = effectiveLastSeen s entry.2 := by
  obtain ⟨dbUrl, -, read⟩ := Option.bind_eq_some_iff.mp read
  obtain ⟨port, -, rfl⟩ := Option.map_eq_some_iff.mp read
  exact ⟨rfl, rfl, rfl, rfl⟩

theorem watch_isSome {entry : String × FleetRow} (supervised : entry.2.supervised = true) :
    (watch s entry).isSome = entry.2.dbUrl.isSome := by
  obtain ⟨-, running⟩ := Bool.and_eq_true_iff.mp supervised
  obtain ⟨port, port_⟩ := Option.isSome_iff_exists.mp running
  rw [watch, port_]
  cases entry.2.dbUrl <;> rfl

theorem watched_isSome (s : Fleet) (rank : String → Nat) : (watched s rank).isSome = true ↔
    ∀ (hubId : String) (row : FleetRow), s.hubs[hubId]? = some row → row.supervised = true →
    row.dbUrl.isSome = true := by
  rw [watched, Decoding.mapM_isSome]
  constructor
  · intro read hubId row found supervised
    have entry : (watch s (hubId, row)).isSome = row.dbUrl.isSome := watch_isSome supervised
    rw [← entry]
    exact read (hubId, row) (mem_selected.mpr ⟨found, supervised⟩)
  · rintro urls ⟨hubId, row⟩ listed
    obtain ⟨found, supervised⟩ := mem_selected.mp listed
    rw [watch_isSome supervised]
    exact urls hubId row found supervised

theorem watched_hubs {rank : String → Nat} {rows : List Watched} (read : watched s rank = some rows) :
    rows.map (·.hubId) = (selected s rank).map (·.1) :=
  Decoding.mapM_map read fun _ _ here => (watch_some here).1

theorem watched_row {rank : String → Nat} {rows : List Watched} (read : watched s rank = some rows)
    (listed : w ∈ rows) :
    ∃ row, s.hubs[w.hubId]? = some row ∧ w.attempts = row.restartAttempts ∧ w.lastRestartAt = row.lastRestartAt ∧
      w.effectiveLastSeen = effectiveLastSeen s row := by
  obtain ⟨⟨hubId, row⟩, chosen, here⟩ := Decoding.mapM_mem read listed
  obtain ⟨rfl, attempts, last, seen⟩ := watch_some here
  exact ⟨row, (mem_selected.mp chosen).1, attempts, last, seen⟩

theorem tick_worked (config : FarmConfig) (world : Surroundings) (now : Int) (s : Fleet) :
    ∃ rows : List Watched, Worked now s (tick config world now s).1 rows (tick config world now s).2 ∧
      ∀ w ∈ rows, ∃ row, s.hubs[w.hubId]? = some row ∧ w.attempts = row.restartAttempts ∧
        w.lastRestartAt = row.lastRestartAt ∧ w.effectiveLastSeen = effectiveLastSeen s row := by
  unfold tick
  cases read : watched s world.rank with
  | none => exact ⟨[], ⟨rfl, by simp, fun _ _ => rfl⟩, by simp⟩
  | some rows =>
    refine ⟨rows, visitAll_worked ?_ s, fun w listed => watched_row read listed⟩
    rw [watched_hubs read]
    exact selected_nodup s world.rank

theorem tick_heartbeats (config : FarmConfig) (world : Surroundings) (now : Int) (s : Fleet) :
    (tick config world now s).1.heartbeats = s.heartbeats := by
  obtain ⟨rows, worked, -⟩ := tick_worked config world now s
  exact worked.heartbeats

theorem tick_unvisited {hubId : String} (missed : hubId ∉ (tick config world now s).2.map (·.hubId)) :
    (tick config world now s).1.hubs[hubId]? = s.hubs[hubId]? := by
  obtain ⟨rows, worked, -⟩ := tick_worked config world now s
  exact worked.unvisited hubId missed

/-- A visit of a pass, as it changed the row it was made for. -/
structure Touched (now : Int) (s after : Fleet) (v : Visit) (row changed : FleetRow) : Prop where
  before : s.hubs[v.hubId]? = some row
  after : after.hubs[v.hubId]? = some changed
  settles : Settles now v row changed
  decision : monitorDecide (effectiveLastSeen s row) row.restartAttempts row.lastRestartAt now = some v.decision
  issue : v.issue ≠ .nothing → v.decision = .restart

theorem tick_visited (listed : v ∈ (tick config world now s).2) :
    ∃ row changed, Touched now s (tick config world now s).1 v row changed := by
  obtain ⟨rows, worked, stored⟩ := tick_worked config world now s
  obtain ⟨w, inside, same, decided, issue, effect⟩ := worked.visited v listed
  obtain ⟨row, found, attempts, last, seen⟩ := stored w inside
  obtain ⟨changed, left, settles⟩ := effect row found
  rw [attempts, last, seen] at decided
  exact ⟨row, changed, same ▸ found, same ▸ left, settles, decided, issue⟩

theorem Visit.issue_of_issued (issued : v.issued = true) : v.issue ≠ .nothing := by
  intro nothing
  rw [Visit.issued, nothing] at issued
  cases issued

theorem backoff_nonneg (n : Nat) : 0 ≤ min (10 * (2 : Int) ^ n) 300 := by
  have power : (0 : Int) ≤ 2 ^ n := Int.pow_nonneg (by decide)
  omega

/-- No step of a run takes back an attempt, or sets the clock of the last restart back. -/
structure Advances (row changed : FleetRow) : Prop where
  attempts : row.restartAttempts ≤ changed.restartAttempts
  last : ∀ t, row.lastRestartAt = some t → ∃ t', changed.lastRestartAt = some t' ∧ t ≤ t'

theorem Advances.rfl {row : FleetRow} : Advances row row := ⟨Int.le_refl _, fun t last => ⟨t, last, Int.le_refl t⟩⟩

theorem Touched.advances {row changed : FleetRow} (touched : Touched now s after v row changed) :
    Advances row changed := by
  by_cases restarts : v.decision = .restart
  next =>
    obtain ⟨attempts, last⟩ := touched.settles.counted restarts
    refine ⟨by omega, ?_⟩
    intro t before
    have waited := (due_of_restart (restarts ▸ touched.decision)).waited t before
    have positive := backoff_nonneg row.restartAttempts.toNat
    exact ⟨now, last, by omega⟩
  next =>
    obtain ⟨attempts, last⟩ := touched.settles.left restarts
    exact ⟨attempts ▸ Int.le_refl _, fun t before => ⟨t, last ▸ before, Int.le_refl t⟩⟩

theorem tick_row (config : FarmConfig) (world : Surroundings) (now : Int) {hubId : String} {row : FleetRow}
    (found : s.hubs[hubId]? = some row) :
    ∃ changed, (tick config world now s).1.hubs[hubId]? = some changed ∧ changed.hubPubkey = row.hubPubkey ∧
      Advances row changed := by
  by_cases visited : hubId ∈ (tick config world now s).2.map (·.hubId)
  next =>
    obtain ⟨v, listed, rfl⟩ := List.mem_map.mp visited
    obtain ⟨row', changed, touched⟩ := tick_visited listed
    obtain rfl := Option.some.inj (touched.before.symm.trans found)
    exact ⟨changed, touched.after, touched.settles.key, touched.advances⟩
  next => exact ⟨row, (tick_unvisited visited).trans found, rfl, .rfl⟩

-- What supervision asks of one pass is that nothing disturbs it.
theorem undisturbed_iff (config : FarmConfig) (s : Fleet) (now : Int) (world : Surroundings) :
    ((∀ v ∈ (tick config world now s).2, ∀ serverId, v.issue = .offline serverId →
        (tick config world now s).1.hubs[v.hubId]?.map (·.restartAttempts) = s.hubs[v.hubId]?.map (·.restartAttempts)) ∧
      ∀ (hubId : String) (row : FleetRow), s.hubs[hubId]? = some row → row.supervised = true →
        hubId ∈ (tick config world now s).2.map (·.hubId)) ↔ Undisturbed config s (.pass now world) := by
  constructor
  · rintro ⟨uncounted, decided⟩
    have reached : ∀ v ∈ (tick config world now s).2, ∀ serverId, v.issue ≠ .offline serverId := by
      intro v listed serverId offline
      obtain ⟨row, changed, touched⟩ := tick_visited listed
      have counted := (touched.settles.counted (touched.issue (by rw [offline]; exact Issue.noConfusion))).1
      have same := uncounted v listed serverId offline
      rw [touched.before, touched.after, Option.map_some, Option.map_some, Option.some.injEq] at same
      omega
    unfold tick at decided reached
    cases read : watched s world.rank with
    | none =>
      rw [read] at decided
      refine absurd ((watched_isSome s world.rank).mpr ?_) (by rw [read]; decide)
      intro hubId row found supervised
      cases decided hubId row found supervised
    | some rows =>
      rw [read] at decided reached
      refine ⟨(watched_isSome s world.rank).mp (by rw [read]; rfl), ?_⟩
      rintro rows' read'
      obtain rfl := Option.some.inj (read.symm.trans read')
      refine (allReady_iff config world now rows s).mpr ⟨?_, reached⟩
      -- A visit is made for every row, and none is made twice.
      have front := visitAll_hubs config world now rows s
      refine front.eq_of_length (Nat.le_antisymm front.length_le ?_)
      refine (List.Nodup.subperm ?_ ?_).length_le
      · rw [watched_hubs read]
        exact selected_nodup s world.rank
      · intro hubId listed
        rw [watched_hubs read] at listed
        obtain ⟨⟨id, row⟩, chosen, rfl⟩ := List.mem_map.mp listed
        obtain ⟨found, supervised⟩ := mem_selected.mp chosen
        exact decided id row found supervised
  · rintro ⟨urls, ready⟩
    obtain ⟨rows, read⟩ := Option.isSome_iff_exists.mp ((watched_isSome s world.rank).mpr urls)
    obtain ⟨whole, reached⟩ := (allReady_iff config world now rows s).mp (ready rows read)
    unfold tick
    rw [read]
    refine ⟨fun v listed serverId offline => absurd offline (reached v listed serverId), ?_⟩
    intro hubId row found supervised
    dsimp only
    rw [whole, watched_hubs read]
    exact List.mem_map.mpr ⟨(hubId, row), mem_selected.mpr ⟨found, supervised⟩, rfl⟩

end

end Wavvon.Farm
