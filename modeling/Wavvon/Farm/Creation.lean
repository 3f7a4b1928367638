import Wavvon.Farm.EndedSessions
import Wavvon.Farm.Placement

set_option autoImplicit false

namespace Wavvon.Farm

open Wire (Bytes)

structure CreateHubRequest where
  name : String
  description : Option String := none
  visibility : Option String := none
  serverId : Option String := none
  deriving DecidableEq, Repr

structure CreateHubResponse where
  id : String
  hubUrl : Option String
  deriving DecidableEq, Repr

structure Refusal where
  status : Nat
  error : String
  details : Option String := none
  deriving DecidableEq, Repr

/-- How the chosen agent is reached once the row is written. -/
inductive AgentLink where
  | connected
  | offline
  | queueFull
  | closed
  deriving DecidableEq, Repr

/--
What a creation meets: the time, the ids that are drawn, the database that the hub is given or why not, the agent,
whether the operating system starts a process, and what Unicode counts as a letter or a number.
-/
structure Creating where
  now : Int
  draws : List Bytes
  provision : Except String String
  link : AgentLink
  runs : Bool
  alphanumeric : Char → Bool

structure SpawnCommand where
  hubId : String
  dbUrl : String
  dbName : String
  dbUrlTemplate : Option String
  port : UInt16
  voicePort : UInt16
  ownerPubkey : String
  farmUrl : String
  deriving DecidableEq, Repr

/-- A process is started, by the farm or by the agent that is told to. -/
inductive Launch where
  | own (process : HubProcess)
  | agent (serverId : String) (command : SpawnCommand)
  deriving DecidableEq, Repr

def Launch.node : Launch → Option String
  | .own _ => none
  | .agent serverId _ => some serverId

/-- There is no answer where the handler panics or draws ids for ever. -/
structure Outcome where
  after : Fleet
  answer : Option (Except Refusal CreateHubResponse)
  launch : Option Launch := none

def databaseName (hubId : String) : String := "wavvon_hub_" ++ hubId

def checkPolicy (s : FarmState) (sub : String) : Except Refusal Unit :=
  let adminOnly : Except Refusal Unit :=
    if s.auth.adminPubkey = some sub then .ok () else .error { status := 403, error := "admin_only" }
  match s.policy with
  | none => .ok ()
  | some policy =>
    if policy.creationPolicy = "disabled" then .error { status := 403, error := "hub_creation_disabled" }
    else if policy.creationPolicy = "open" then
      if 0 < policy.maxHubsPerUser ∧
          policy.maxHubsPerUser ≤ liveHubs s.fleet fun row => decide (row.ownerPubkey = sub) then
        .error { status := 403, error := "user_quota_exceeded" }
      else if 0 < policy.maxHubsTotal ∧ policy.maxHubsTotal ≤ liveHubs s.fleet fun _ => true then
        .error { status := 403, error := "farm_quota_exceeded" }
      else .ok ()
    else adminOnly

def checkName (alphanumeric : Char → Bool) (raw : String) : Except Refusal String :=
  let name := trim raw
  if name = "" ∨ 64 < name.utf8ByteSize then
    .error { status := 400, error := "invalid_name", details := some "must be 1-64 chars" }
  else if !name.toList.all fun c => alphanumeric c || c == ' ' || c == '-' then
    .error { status := 400, error := "invalid_name", details := some "only alphanumeric, spaces, hyphens" }
  else .ok name

def visibilityOf : Option String → String
  | some "public" => "public"
  | _ => "private"

/-- What is settled before the row is written. -/
structure Accepted where
  hubId : String
  row : FleetRow
  chosen : Option String
  deriving DecidableEq, Repr

section

variable (lib : LoginLib) (range : PortRange) (world : Creating)

-- An id is drawn until it is not taken, by a deleted row neither.
def freshHubId (s : Fleet) : Option String := (world.draws.map hexEncode).find? fun id => !(s.hubs.contains id)

def acceptHub (s : FarmState) (bearer : Option String) (req : CreateHubRequest) : Except (Option Refusal) Accepted :=
  match requireAuth lib world.now bearer with
  | .error e => .error (some { status := e.1, error := e.2 })
  | .ok payload =>
    match checkPolicy s payload.sub with
    | .error e => .error (some e)
    | .ok _ =>
      match checkName world.alphanumeric req.name with
      | .error e => .error (some e)
      | .ok name =>
        match freshHubId world s.fleet with
        | none => .error none
        | some hubId =>
          match choose (collectNodes s) req.serverId with
          | .error e => .error (some { status := 409, error := e.code, details := some e.message })
          | .ok node =>
            let row : FleetRow :=
              { ownerPubkey := payload.sub, name := name, description := req.description
                visibility := visibilityOf req.visibility, createdAt := world.now }
            .ok { hubId := hubId, row := row, chosen := node.serverId }

def created (s : Fleet) (hubId : String) (launch : Option Launch) : Outcome where
  after := s
  answer := some (.ok { id := hubId, hubUrl := hubUrl lib.farmUrl s hubId none })
  launch := launch

-- The ports are written down before the process is started; that it is not is only logged.
def allocateAndSpawn (s : Fleet) (hubId : String) : Option (Fleet × Option HubProcess) :=
  (allocatePort range s).bind fun port => (allocateVoicePort range s).map fun voicePort =>
    let process : HubProcess := { port := port, voicePort := voicePort }
    let recorded := updateHub s hubId fun row =>
      { row with processPort := some (port.toNat : Int), voicePort := some (voicePort.toNat : Int) }
    let spawned := spawnHub recorded hubId process world.runs
    (spawned.1, if spawned.2 then some process else none)

def launchHere (s : Fleet) (hubId : String) : Outcome :=
  match allocateAndSpawn range world s hubId with
  | none => { after := s, answer := none }
  | some (spawned, process) => created lib spawned hubId (process.map .own)

def launchAt (servers : Table ServerRow) (s : Fleet) (a : Accepted) (dbUrl server : String) : Outcome :=
  if world.link = .offline then { after := s, answer := some (.error { status := 409, error := "agent_offline" }) }
  else
    match allocatePort range s, allocateVoicePort range s with
    | some port, some voicePort =>
      let placed := updateHub s a.hubId fun row => { row with serverId := some server }
      if world.link = .connected then
        created lib placed a.hubId (some (.agent server
          { hubId := a.hubId, dbUrl := dbUrl, dbName := databaseName a.hubId
            dbUrlTemplate := servers[server]?.bind (·.dbUrlTemplate), port := port, voicePort := voicePort
            ownerPubkey := a.row.ownerPubkey, farmUrl := lib.farmUrl }))
      else launchHere lib range world placed a.hubId
    | _, _ => { after := s, answer := none }

def createHub (s : FarmState) (bearer : Option String) (req : CreateHubRequest) : Outcome :=
  match acceptHub lib world s bearer req with
  | .error e => { after := s.fleet, answer := e.map .error }
  | .ok a =>
    let inserted := { s.fleet with hubs := s.fleet.hubs.insert a.hubId a.row }
    match world.provision with
    | .error details =>
      { after := updateHub inserted a.hubId fun row => { row with deletedAt := some world.now }
        answer := some (.error
          { status := 500, error := "database_provisioning_failed", details := some details }) }
    | .ok dbUrl =>
      let ready := updateHub inserted a.hubId fun row => { row with dbUrl := some dbUrl }
      match a.chosen with
      | none => launchHere lib range world ready a.hubId
      | some server => launchAt lib range world s.servers ready a dbUrl server

end

/-- Nothing that lives was added. -/
structure NothingAdded (s : Fleet) (out : Outcome) : Prop where
  rows : ∀ (id : String) (row : FleetRow), out.after.hubs[id]? = some row → row.deletedAt = none →
    s.hubs[id]? = some row
  slugs : out.after.hubSlugs = s.hubSlugs
  processes : out.after.processes = s.processes
  launch : out.launch = none

/-- A hub was launched, and its row says where. -/
def RunsWhereRecorded (out : Outcome) (hubId : String) : Prop :=
  ∃ (row : FleetRow) (launch : Launch), out.after.hubs[hubId]? = some row ∧ row.deletedAt = none ∧
    out.launch = some launch ∧ row.serverId = launch.node

def AllOrNothing (s : Fleet) (out : Outcome) : Prop :=
  match out.answer with
  | none => True
  | some (.error _) => NothingAdded s out
  | some (.ok response) => RunsWhereRecorded out response.id

def PortsLeft (range : PortRange) (s : Fleet) : Prop :=
  (∃ port, range.basePort ≤ port ∧ port ∉ (occupiedPorts s).1) ∧
    ∃ port, range.voiceBasePort ≤ port ∧ port ∉ (occupiedPorts s).2

/-- Where the farm takes the hub itself a process starts, and where an agent is chosen it takes the command. -/
def Launches (range : PortRange) (world : Creating) (s : Fleet) (chosen : Option String) : Prop :=
  match chosen with
  | none => PortsLeft range s → world.runs = true
  | some _ => world.link ≠ .offline ∧ (PortsLeft range s → world.link = .connected)

section

variable {lib : LoginLib} {range : PortRange} {world : Creating} {s : FarmState} {bearer : Option String}
  {req : CreateHubRequest} {fleet : Fleet} {a : Accepted} {row : FleetRow} {hubId : String}

theorem acceptHub_ok (accepted : acceptHub lib world s bearer req = .ok a) :
    a.hubId ∉ s.fleet.hubs ∧ a.row.deletedAt = none ∧ a.row.serverId = none ∧ a.row.processPort = none ∧
      a.row.voicePort = none := by
  unfold acceptHub at accepted
  split at accepted
  next => cases accepted
  next =>
    split at accepted
    next => cases accepted
    next =>
      split at accepted
      next => cases accepted
      next =>
        split at accepted
        next => cases accepted
        next drawn =>
          split at accepted
          next => cases accepted
          next =>
            cases accepted
            refine ⟨?_, rfl, rfl, rfl, rfl⟩
            have free := List.find?_some drawn
            rw [Bool.not_eq_true', ← Bool.not_eq_true] at free
            exact free

theorem acceptHub_of {payload : FarmTokenPayload} {name : String} {node : Node}
    (auth : requireAuth lib world.now bearer = .ok payload) (policy : checkPolicy s payload.sub = .ok ())
    (named : checkName world.alphanumeric req.name = .ok name) (drawn : freshHubId world s.fleet = some hubId)
    (chosen : choose (collectNodes s) req.serverId = .ok node) :
    acceptHub lib world s bearer req = .ok
      { hubId := hubId, chosen := node.serverId
        row := { ownerPubkey := payload.sub, name := name, description := req.description
                 visibility := visibilityOf req.visibility, createdAt := world.now } } := by
  unfold acceptHub
  simp only [auth, policy, named, drawn, chosen]

/-- The row of the hub, written and given its database, and nothing else. -/
structure Readied (s : Fleet) (hubId : String) (ready : Fleet) : Prop where
  row : ∃ (row : FleetRow), ready.hubs[hubId]? = some row ∧ row.deletedAt = none ∧ row.serverId = none ∧
    row.processPort = none ∧ row.voicePort = none
  rest : ∀ other, other ≠ hubId → ready.hubs[other]? = s.hubs[other]?
  processes : ready.processes = s.processes

theorem readied (accepted : acceptHub lib world s bearer req = .ok a) (dbUrl : String) :
    Readied s.fleet a.hubId (updateHub { s.fleet with hubs := s.fleet.hubs.insert a.hubId a.row } a.hubId fun row =>
      { row with dbUrl := some dbUrl }) := by
  obtain ⟨-, live, unplaced, port, voicePort⟩ := acceptHub_ok accepted
  refine ⟨⟨{ a.row with dbUrl := some dbUrl }, ?_, live, unplaced, port, voicePort⟩, ?_, rfl⟩
  · rw [updateHub_row, if_pos rfl, Std.ExtTreeMap.getElem?_insert_self, Option.map_some]
  · intro other different
    rw [updateHub_row, if_neg different, Std.ExtTreeMap.getElem?_insert,
      if_neg fun same => different (Std.LawfulEqCmp.eq_of_compare same).symm]

-- A row without ports occupies none.
theorem Readied.held {ready : Fleet} (readied : Readied s.fleet hubId ready) (fresh : hubId ∉ s.fleet.hubs)
    (ofProcess : HubProcess → UInt16) (ofRow : FleetRow → Option Int)
    (none_ : ∀ (row : FleetRow), ready.hubs[hubId]? = some row → ofRow row = none) (port : UInt16) :
    port ∈ Farm.held ofProcess ofRow ready ↔ port ∈ Farm.held ofProcess ofRow s.fleet := by
  rw [mem_held, mem_held, readied.processes]
  refine or_congr Iff.rfl (exists_congr fun id => exists_congr fun row => exists_congr fun n => ?_)
  by_cases own : id = hubId
  next =>
    subst own
    constructor
    · rintro ⟨found, -, holds, -⟩
      rw [none_ row found] at holds
      cases holds
    · rintro ⟨found, -⟩
      exact absurd (Std.ExtTreeMap.mem_iff_isSome_getElem?.mpr (by rw [found]; rfl)) fresh
  next => rw [readied.rest id own]

theorem portsLeft_iff : PortsLeft range fleet ↔
    (allocatePort range fleet).isSome = true ∧ (allocateVoicePort range fleet).isSome = true :=
  and_congr firstGap_isSome.symm firstGap_isSome.symm

theorem portsLeft_updateHub (range : PortRange) {f : FleetRow → FleetRow}
    (keeps : ∀ row, (f row).deletedAt = row.deletedAt ∧ (f row).processPort = row.processPort ∧
      (f row).voicePort = row.voicePort) (s : Fleet) (hubId : String) :
    PortsLeft range (updateHub s hubId f) ↔ PortsLeft range s := by
  have http := mem_held_updateHub (·.port) (·.processPort) (fun row => ⟨(keeps row).1, (keeps row).2.1⟩) s hubId
  have voice :=
    mem_held_updateHub (·.voicePort) (·.voicePort) (fun row => ⟨(keeps row).1, (keeps row).2.2⟩) s hubId
  simp only [PortsLeft, occupiedPorts_eq, http, voice]

theorem Readied.portsLeft {ready : Fleet} (readied : Readied s.fleet hubId ready) (fresh : hubId ∉ s.fleet.hubs) :
    PortsLeft range ready ↔ PortsLeft range s.fleet := by
  obtain ⟨row, found, -, -, port, voicePort⟩ := readied.row
  have own {other : FleetRow} (same : ready.hubs[hubId]? = some other) : row = other :=
    Option.some.inj (found.symm.trans same)
  have http := readied.held fresh (·.port) (·.processPort) fun _ same => own same ▸ port
  have voice := readied.held fresh (·.voicePort) (·.voicePort) fun _ same => own same ▸ voicePort
  simp only [PortsLeft, occupiedPorts_eq, http, voice]

theorem launchHere_cases (lib : LoginLib) (range : PortRange) (world : Creating) (hubId : String)
    (found : fleet.hubs[hubId]? = some row) :
    (¬ PortsLeft range fleet ∧ (launchHere lib range world fleet hubId).answer = none) ∨
      PortsLeft range fleet ∧ ∃ (changed : FleetRow) (url : Option String),
        (launchHere lib range world fleet hubId).answer = some (.ok { id := hubId, hubUrl := url }) ∧
        (launchHere lib range world fleet hubId).after.hubs[hubId]? = some changed ∧
        changed.serverId = row.serverId ∧ changed.deletedAt = row.deletedAt ∧
        if world.runs then ∃ process, (launchHere lib range world fleet hubId).launch = some (.own process)
        else (launchHere lib range world fleet hubId).launch = none := by
  unfold launchHere allocateAndSpawn
  rw [portsLeft_iff]
  cases allocatePort range fleet with
  | none => exact .inl ⟨fun both => Bool.false_ne_true both.1, rfl⟩
  | some port =>
    cases allocateVoicePort range fleet with
    | none => exact .inl ⟨fun both => Bool.false_ne_true both.2, rfl⟩
    | some voicePort =>
      let changed := { row with processPort := some (port.toNat : Int), voicePort := some (voicePort.toNat : Int) }
      refine .inr ⟨⟨rfl, rfl⟩, changed, _, rfl, ?_, rfl, rfl, ?_⟩
      · show (spawnHub _ _ _ _).1.hubs[hubId]? = _
        rw [spawnHub_hubs, updateHub_row, if_pos rfl, found, Option.map_some]
      · show if world.runs then _ else _
        unfold spawnHub
        cases world.runs with
        | true => exact ⟨_, rfl⟩
        | false => rfl

theorem launchHere_iff (found : fleet.hubs[hubId]? = some row) (live : row.deletedAt = none) (before : Fleet) :
    AllOrNothing before (launchHere lib range world fleet hubId) ↔
      (PortsLeft range fleet → row.serverId = none ∧ world.runs = true) := by
  obtain ⟨full, silent⟩ | ⟨left, changed, url, answered, after, same, alive, launched⟩ :=
    launchHere_cases lib range world hubId found
  · rw [AllOrNothing, silent]
    exact iff_of_true trivial fun left => absurd left full
  · rw [AllOrNothing, answered]
    refine Iff.trans ?_ (forall_prop_of_true left).symm
    constructor
    · rintro ⟨row', launch, found', -, ran, recorded⟩
      obtain rfl := Option.some.inj (after.symm.trans found')
      cases runs : world.runs with
      | false =>
        rw [runs, if_neg Bool.false_ne_true, ran] at launched
        cases launched
      | true =>
        rw [runs, if_pos rfl] at launched
        obtain ⟨process, own⟩ := launched
        obtain rfl := Option.some.inj (ran.symm.trans own)
        exact ⟨same.symm.trans recorded, rfl⟩
    · rintro ⟨unplaced, runs⟩
      rw [runs, if_pos rfl] at launched
      obtain ⟨process, own⟩ := launched
      exact ⟨changed, .own process, after, alive.trans live, own, same.trans unplaced⟩

theorem launchAt_iff {servers : Table ServerRow} {dbUrl server : String} (readied : Readied s.fleet a.hubId fleet)
    (fresh : a.hubId ∉ s.fleet.hubs) :
    AllOrNothing s.fleet (launchAt lib range world servers fleet a dbUrl server) ↔
      world.link ≠ .offline ∧ (PortsLeft range fleet → world.link = .connected) := by
  obtain ⟨row, found, live, -, port, voicePort⟩ := readied.row
  unfold launchAt
  split
  next offline =>
    refine iff_of_false ?_ fun both => both.1 offline
    intro nothing
    -- The row stays behind.
    have stored := nothing.rows a.hubId row found live
    exact fresh (Std.ExtTreeMap.mem_iff_isSome_getElem?.mpr (by rw [stored]; rfl))
  next online =>
    rw [portsLeft_iff]
    cases ports : allocatePort range fleet with
    | none => exact iff_of_true trivial ⟨online, fun both => absurd both.1 Bool.false_ne_true⟩
    | some port_ =>
      cases voicePorts : allocateVoicePort range fleet with
      | none => exact iff_of_true trivial ⟨online, fun both => absurd both.2 Bool.false_ne_true⟩
      | some voicePort_ =>
        dsimp only
        have placed : (updateHub fleet a.hubId fun row => { row with serverId := some server }).hubs[a.hubId]? =
            some { row with serverId := some server } := by
          rw [updateHub_row, if_pos rfl, found, Option.map_some]
        split
        next connected =>
          refine iff_of_true ⟨_, _, placed, live, rfl, rfl⟩ ⟨online, fun _ => connected⟩
        next refused =>
          rw [launchHere_iff placed live]
          -- The farm takes the hub itself, and the row says that the agent has it.
          have left : PortsLeft range fleet := portsLeft_iff.mpr ⟨by rw [ports]; rfl, by rw [voicePorts]; rfl⟩
          constructor
          · intro never
            have kept := portsLeft_updateHub range (f := fun row => { row with serverId := some server })
              (fun _ => ⟨rfl, rfl, rfl⟩) fleet a.hubId
            cases (never (kept.mpr left)).1
          · rintro ⟨-, connected⟩
            exact absurd (connected ⟨rfl, rfl⟩) refused

-- On an agent.
theorem agent_allOrNothing_iff {server dbUrl : String} (accepted : acceptHub lib world s bearer req = .ok a)
    (chosen : a.chosen = some server) (provisioned : world.provision = .ok dbUrl) :
    AllOrNothing s.fleet (createHub lib range world s bearer req) ↔
      world.link ≠ .offline ∧ (PortsLeft range s.fleet → world.link = .connected) := by
  have fresh := (acceptHub_ok accepted).1
  have ready := readied accepted dbUrl
  simp only [createHub, accepted, provisioned, chosen]
  rw [launchAt_iff ready fresh, ready.portsLeft fresh]

end

/-- A creation leaves all behind or nothing exactly if the node that is chosen launches the hub. -/
theorem createHub_allOrNothing_iff (lib : LoginLib) (range : PortRange) (world : Creating) (s : FarmState)
    (bearer : Option String) (req : CreateHubRequest) :
    AllOrNothing s.fleet (createHub lib range world s bearer req) ↔
      ∀ a dbUrl, acceptHub lib world s bearer req = .ok a → world.provision = .ok dbUrl →
        Launches range world s.fleet a.chosen := by
  unfold createHub
  cases accepted : acceptHub lib world s bearer req with
  | error e =>
    refine iff_of_true ?_ (by rintro a dbUrl ⟨⟩)
    cases e with
    | none => trivial
    | some e => exact ⟨fun _ _ found _ => found, rfl, rfl, rfl⟩
  | ok a =>
    have fresh := (acceptHub_ok accepted).1
    dsimp only
    cases provisioned : world.provision with
    | error details =>
      refine iff_of_true ⟨?_, rfl, rfl, rfl⟩ (by rintro a dbUrl - ⟨⟩)
      intro id row found live
      rw [updateHub_row] at found
      split at found
      next own =>
        subst own
        rw [Std.ExtTreeMap.getElem?_insert_self] at found
        cases found
        cases live
      next other =>
        rw [Std.ExtTreeMap.getElem?_insert] at found
        split at found
        next same => exact absurd (Std.LawfulEqCmp.eq_of_compare same).symm other
        next => exact found
    | ok dbUrl =>
      have ready := readied accepted dbUrl
      obtain ⟨row, found, live, unplaced, -⟩ := ready.row
      have only : (∀ a' dbUrl', (Except.ok a : Except (Option Refusal) Accepted) = .ok a' →
          (Except.ok dbUrl : Except String String) = .ok dbUrl' → Launches range world s.fleet a'.chosen) ↔
            Launches range world s.fleet a.chosen := by
        constructor
        · exact fun always => always a dbUrl rfl rfl
        · rintro launches _ _ ⟨⟩ ⟨⟩
          exact launches
      rw [only]
      dsimp only
      cases chosen : a.chosen with
      | none =>
        dsimp only [Launches]
        rw [launchHere_iff found live, ready.portsLeft fresh]
        exact imp_congr Iff.rfl (and_iff_right unplaced)
      | some server =>
        dsimp only [Launches]
        rw [launchAt_iff ready fresh, ready.portsLeft fresh]

-- A farm with one agent connected and no policy yet.
def agentFarm : FarmState := { agents := ["s1"] }

def creatingAt (link : AgentLink) : Creating where
  now := 300
  draws := [[10, 11, 12, 13]]
  provision := .ok "postgres://farm/wavvon_hub_0a0b0c0d"
  link := link
  runs := true
  alphanumeric := Char.isAlphanum

def farmPorts : PortRange := { basePort := 4000, voiceBasePort := 5000 }

def firstHub : CreateHubRequest := { name := "first" }

def firstAccepted : Accepted where
  hubId := "0a0b0c0d"
  row := { ownerPubkey := adminPayload.sub, name := "first", createdAt := 300 }
  chosen := some "s1"

theorem first_accepted (link : AgentLink) :
    acceptHub openLogin (creatingAt link) agentFarm (some adminToken) firstHub = .ok firstAccepted := by
  have auth : requireAuth openLogin (creatingAt link).now (some adminToken) = .ok adminPayload :=
    adminToken_reads (by decide : (300 : Int) < adminPayload.exp)
  have policy : checkPolicy agentFarm adminPayload.sub = .ok () := rfl
  have named : checkName (creatingAt link).alphanumeric firstHub.name = .ok "first" :=
    (by decide : checkName Char.isAlphanum "first" = .ok "first")
  have drawn : freshHubId (creatingAt link) agentFarm.fleet = some "0a0b0c0d" :=
    (by decide : ([[10, 11, 12, 13]].map hexEncode).find? (fun id => !((∅ : Table FleetRow).contains id)) = _)
  have chosen : choose (collectNodes agentFarm) firstHub.serverId =
      .ok { serverId := some "s1", inUse := 0, capacity := none } := by decide
  exact acceptHub_of auth policy named drawn chosen

-- The agent drops off or its queue is full: a hub is left that nobody runs, or one that runs elsewhere.
theorem creation_half_done :
    ¬ AllOrNothing agentFarm.fleet
        (createHub openLogin farmPorts (creatingAt .offline) agentFarm (some adminToken) firstHub) ∧
      ¬ AllOrNothing agentFarm.fleet
        (createHub openLogin farmPorts (creatingAt .queueFull) agentFarm (some adminToken) firstHub) := by
  have half (link : AgentLink) : AllOrNothing agentFarm.fleet
      (createHub openLogin farmPorts (creatingAt link) agentFarm (some adminToken) firstHub) ↔
        (creatingAt link).link ≠ .offline ∧
          (PortsLeft farmPorts agentFarm.fleet → (creatingAt link).link = .connected) :=
    agent_allOrNothing_iff (first_accepted link) rfl rfl
  have left : PortsLeft farmPorts agentFarm.fleet := by
    refine ⟨⟨4000, UInt16.le_refl _, ?_⟩, 5000, UInt16.le_refl _, ?_⟩ <;>
      · rw [occupiedPorts_eq, mem_held]
        simp [agentFarm]
  rw [half, half]
  refine ⟨fun online => online.1 rfl, fun online => ?_⟩
  have connected : AgentLink.queueFull = .connected := online.2 left
  cases connected

end Wavvon.Farm
