import Wavvon.Farm.AgentSockets
import Wavvon.Farm.Creation
import Wavvon.Shared.Leases

set_option autoImplicit false

namespace Wavvon.Farm

open Std (ExtTreeMap)

inductive PortKind where
  | http
  | voice
  deriving DecidableEq, Repr

namespace PortKind

def ofProcess : PortKind → HubProcess → UInt16
  | .http => (·.port)
  | .voice => (·.voicePort)

def ofRow : PortKind → FleetRow → Option Int
  | .http => (·.processPort)
  | .voice => (·.voicePort)

def base (range : PortRange) : PortKind → UInt16
  | .http => range.basePort
  | .voice => range.voiceBasePort

end PortKind

-- `occupied_ports` reads twice: the processes, and then the rows.
def runningPorts (kind : PortKind) (s : Fleet) : List UInt16 :=
  s.processes.toList.map fun entry => kind.ofProcess entry.2

def storedPorts (kind : PortKind) (s : Fleet) : List UInt16 :=
  (s.hubs.toList.filter fun entry => decide (entry.2.deletedAt = none)).filterMap fun entry =>
    (kind.ofRow entry.2).map UInt16.ofInt

/-- A hub on the node of an agent: told to be run there, running, or said to be. -/
structure Assignment where
  server : String
  hubId : String
  process : HubProcess
  deriving DecidableEq, Repr

structure Command extends Assignment where
  restarts : Bool
  deriving DecidableEq, Repr

-- What is running under the hub's id at the agent is stopped, or killed as it is replaced.
def Assignment.stopped (a : Assignment) (away : List Assignment) : List Assignment :=
  away.filter fun b => !decide (b.server = a.server ∧ b.hubId = a.hubId)

def Assignment.started (a : Assignment) (away : List Assignment) : List Assignment := a.stopped away ++ [a]

/-- `create_hub`; `force_restart_hub`, or the monitor with one of its rows; `delete_hub`. -/
inductive Task where
  | create
  | restart
  | delete
  deriving DecidableEq, Repr

/-- The statement that a handler is at; `pick` has read the processes. -/
inductive Stage where
  | provision
  | sender
  | look (kind : PortKind)
  | pick (kind : PortKind) (seen : List UInt16)
  | record
  | place
  | send
  | stop
  | spawn
  | tombstone
  deriving DecidableEq, Repr

-- A handler at work on a hub, with the node that it is for and the ports that it has.
structure Job where
  task : Task
  hubId : String
  node : Option String := none
  port : Option UInt16 := none
  voicePort : Option UInt16 := none
  stage : Stage
  deriving DecidableEq, Repr

namespace Job

variable (job : Job)

def process : Option HubProcess :=
  job.port.bind fun port => job.voicePort.map fun voicePort => { port := port, voicePort := voicePort }

def provisioned : Stage :=
  match job.task, job.node with
  | .create, none => .look .http
  | .create, some _ => .sender
  | _, none => .stop
  | _, some _ => .send

def picked (kind : PortKind) (port : UInt16) : Job :=
  match kind with
  | .http => { job with port := some port, stage := .look .voice }
  | .voice =>
    { job with
      voicePort := some port
      stage := if job.task = .create ∧ job.node.isSome = true then .place else .record }

def recorded : Stage := if job.task = .create then .spawn else .provision

-- A creation writes both ports, a restart the voice port that it had to find.
def write (row : FleetRow) : FleetRow :=
  if job.task = .create then
    { row with
      processPort := job.port.map fun port => (port.toNat : Int)
      voicePort := job.voicePort.map fun port => (port.toNat : Int) }
  else { row with voicePort := job.voicePort.map fun port => (port.toNat : Int) }

-- A full channel makes the farm take the hub itself, with ports of its own.
def atHome : Job := { job with node := none, port := none, voicePort := none, stage := .look .http }

end Job

/--
A farm at work: its own processes and rows, the handlers that are not done, and the agents, with the commands
on their way to them and the confirmations on their way back.
-/
structure Plant where
  fleet : Fleet := {}
  jobs : ExtTreeMap Nat Job := ∅
  commands : List Command := []
  away : List Assignment := []
  confirmations : List Assignment := []
  overflowed : Bool := false

inductive PlantStep where
  | create (id : Nat) (a : Accepted)
  | restart (id : Nat) (hubId : String)
  | delete (id : Nat) (hubId : String)
  -- The next statement of a handler; what it asks of outside goes well or not.
  | next (id : Nat) (ok : Bool) (now : Int)
  | deliver (index : Nat) (runs : Bool)
  -- A command that does not arrive, or that the agent has no database for.
  | lose (index : Nat)
  | confirm (index : Nat)
  | forget (index : Nat)

-- The columns that the INSERT names.
def insertedRow (row : FleetRow) : FleetRow where
  ownerPubkey := row.ownerPubkey
  name := row.name
  description := row.description
  visibility := row.visibility
  createdAt := row.createdAt

namespace Plant

variable (w : Plant)

def goOn (id : Nat) (job : Job) : Plant := { w with jobs := w.jobs.insert id job }

def leave (id : Nat) : Plant := { w with jobs := w.jobs.erase id }

def update (hubId : String) (f : FleetRow → FleetRow) : Plant := { w with fleet := updateHub w.fleet hubId f }

def create (id : Nat) (a : Accepted) : Plant :=
  if id ∈ w.jobs ∨ a.hubId ∈ w.fleet.hubs then w
  else
    { w.goOn id { task := .create, hubId := a.hubId, node := a.chosen, stage := .provision } with
      fleet := { w.fleet with hubs := w.fleet.hubs.insert a.hubId (insertedRow a.row) } }

def liveRow (hubId : String) : Option FleetRow := w.fleet.hubs[hubId]?.filter fun row => decide (row.deletedAt = none)

-- A row without a process port is none that runs.
def restart (id : Nat) (hubId : String) : Plant :=
  if id ∈ w.jobs then w
  else
    match w.liveRow hubId with
    | none => w
    | some row =>
      if row.processPort = none then w
      else
        w.goOn id
          { task := .restart, hubId := hubId, node := row.serverId, port := row.processPort.map UInt16.ofInt
            voicePort := row.voicePort.map UInt16.ofInt
            stage := if row.voicePort = none then .look .voice else .provision }

def delete (id : Nat) (hubId : String) : Plant :=
  if id ∈ w.jobs ∨ w.liveRow hubId = none then w else w.goOn id { task := .delete, hubId := hubId, stage := .stop }

def next (range : PortRange) (id : Nat) (job : Job) (ok : Bool) (now : Int) : Plant :=
  match job.stage with
  | .provision =>
    if ok then w.goOn id { job with stage := job.provisioned }
    else if job.task = .create then w.goOn id { job with stage := .tombstone }
    else w.leave id
  | .sender => if ok then w.goOn id { job with stage := .look .http } else w.leave id
  | .look kind => w.goOn id { job with stage := .pick kind (runningPorts kind w.fleet) }
  | .pick kind seen =>
    match firstGap (kind.base range) (seen ++ storedPorts kind w.fleet) with
    | none => { w.leave id with overflowed := true }
    | some port => w.goOn id (job.picked kind port)
  | .record => (w.goOn id { job with stage := job.recorded }).update job.hubId job.write
  | .place => (w.goOn id { job with stage := .send }).update job.hubId fun row => { row with serverId := job.node }
  | .send =>
    match job.node, job.process with
    | some server, some process =>
      if ok then
        { w.leave id with commands := w.commands ++
            [{ server := server, hubId := job.hubId, process := process, restarts := decide (job.task = .restart) }] }
      else if job.task = .create then w.goOn id job.atHome
      else w.leave id
    | _, _ => w.leave id
  -- `stop_hub` takes the process out of the map even where it could not be killed.
  | .stop =>
    let stopped := stopHub w.fleet job.hubId ok
    if job.task = .delete then { w.goOn id { job with stage := .tombstone } with fleet := stopped.1 }
    else if stopped.2 then { w.goOn id { job with stage := .spawn } with fleet := stopped.1 }
    else { w.leave id with fleet := stopped.1 }
  | .spawn =>
    match job.node, job.process with
    | none, some process => { w.leave id with fleet := (spawnHub w.fleet job.hubId process ok).1 }
    | _, _ => w.leave id
  | .tombstone => (w.leave id).update job.hubId fun row => { row with deletedAt := some now }

-- The agent answers a spawn with `hub_spawned`, and a restart with what the farm does not read.
def deliver (index : Nat) (runs : Bool) : Plant :=
  match w.commands[index]? with
  | none => w
  | some command =>
    let told := { w with commands := w.commands.eraseIdx index }
    let a := command.toAssignment
    if command.restarts then { told with away := if runs then a.started w.away else a.stopped w.away }
    else if runs then { told with away := a.started w.away, confirmations := w.confirmations ++ [a] }
    else told

def confirm (index : Nat) : Plant :=
  match w.confirmations[index]? with
  | none => w
  | some a =>
    { w with
      confirmations := w.confirmations.eraseIdx index
      fleet := updateHub w.fleet a.hubId
        (spawnedRow a.server a.process.port.toUInt64 (some a.process.voicePort.toUInt64)) }

-- The hub processes that were started and not stopped since, with the node that they are on.
def running : List (Option String × String × HubProcess) :=
  (w.fleet.processes.toList.map fun entry => (none, entry.1, entry.2)) ++
    w.away.map fun a => (some a.server, a.hubId, a.process)

end Plant

def Plant.step (range : PortRange) (w : Plant) : PlantStep → Plant
  | .create id a => w.create id a
  | .restart id hubId => w.restart id hubId
  | .delete id hubId => w.delete id hubId
  | .next id ok now =>
    match w.jobs[id]? with
    | none => w
    | some job => w.next range id job ok now
  | .deliver index runs => w.deliver index runs
  | .lose index => { w with commands := w.commands.eraseIdx index }
  | .confirm index => w.confirm index
  | .forget index => { w with confirmations := w.confirmations.eraseIdx index }

/-- No two processes on a node were told the same process port or the same voice port. -/
def PortsApart (w : Plant) : Prop :=
  w.running.Pairwise fun one other => one.1 = other.1 →
    one.2.2.port ≠ other.2.2.port ∧ one.2.2.voicePort ≠ other.2.2.voicePort

/-- A port of a node. -/
structure Site where
  node : Option String
  kind : PortKind
  port : UInt16
  deriving DecidableEq, Repr

def sitesOf (node : Option String) (port voicePort : Option UInt16) : List Site :=
  (port.map fun port => { node := node, kind := .http, port := port : Site }).toList ++
    (voicePort.map fun port => { node := node, kind := .voice, port := port : Site }).toList

def HubProcess.sites (node : Option String) (process : HubProcess) : List Site :=
  sitesOf node (some process.port) (some process.voicePort)

def Assignment.sites (a : Assignment) : List Site := a.process.sites (some a.server)

def Job.sites (job : Job) : List Site := sitesOf job.node job.port job.voicePort

def FleetRow.sites (row : FleetRow) : List Site :=
  if row.deletedAt = none then
    sitesOf row.serverId (row.processPort.map UInt16.ofInt) (row.voicePort.map UInt16.ofInt)
  else []

namespace Plant

variable (w : Plant)

-- What the rows say, whichever of them an allocation reads.
def onRecord : List (String × Site) := Leases.ofTable (fun hubId _ => hubId) FleetRow.sites w.fleet.hubs

def ownSites : List (String × Site) := Leases.ofTable (fun hubId _ => hubId) (HubProcess.sites none) w.fleet.processes

def jobSites : List (String × Site) := Leases.ofTable (fun _ job => job.hubId) Job.sites w.jobs

def assigned : List Assignment := w.commands.map Command.toAssignment ++ w.away ++ w.confirmations

/--
What has been given to a hub besides: to processes that run, to handlers that have not written it down or have read
it from a row before, and to agents.
-/
def offRecord : List (String × Site) :=
  w.ownSites ++ w.jobSites ++ w.assigned.flatMap fun a => a.sites.map (a.hubId, ·)

def given : List (String × Site) := w.onRecord ++ w.offRecord

end Plant

/--
An allocation has a port left, and finds one that no other hub has off the record; a row that names another node than
the one its ports were found for, or that comes to name one, takes ports that are free there.
-/
def Job.UnsharedAt (range : PortRange) (w : Plant) (job : Job) : Stage → Prop
  | .pick kind seen => ∃ port, FirstFree (seen ++ storedPorts kind w.fleet) (kind.base range) port ∧
      Leases.Free w.offRecord job.hubId [{ node := job.node, kind := kind, port := port }]
  | .record => ∀ row ∈ w.fleet.hubs[job.hubId]?, row.serverId ≠ job.node →
      Leases.Free w.given job.hubId (job.write row).sites
  | .place => ∀ row ∈ w.fleet.hubs[job.hubId]?,
      Leases.Free w.given job.hubId { row with serverId := job.node : FleetRow }.sites
  | _ => True

def Unshared (range : PortRange) (w : Plant) : PlantStep → Prop
  | .next id _ _ => ∀ job ∈ w.jobs[id]?, job.UnsharedAt range w job.stage
  | _ => True

section

variable {occupied : List UInt16} {base port other : UInt16} {row : FleetRow}

-- Read at one instant, the ports are those of `occupied_ports`.
theorem occupiedPorts_reads (s : Fleet) :
    occupiedPorts s = (runningPorts .http s ++ storedPorts .http s, runningPorts .voice s ++ storedPorts .voice s) :=
  rfl

theorem FirstFree.only (first : FirstFree occupied base port) (again : FirstFree occupied base other) :
    port = other := by
  obtain below | same | beyond := Nat.lt_trichotomy port.toNat other.toNat
  · exact absurd (again.first port first.above (UInt16.lt_iff_toNat_lt.mpr below)) first.free
  · exact UInt16.toNat_inj.mp same
  · exact absurd (first.first other again.above (UInt16.lt_iff_toNat_lt.mpr beyond)) again.free

-- An allocation that has no port left is the one that overflows.
theorem firstGap_iff : firstGap base occupied = some port ↔ FirstFree occupied base port := by
  constructor
  · exact firstGap_spec
  · intro first
    obtain ⟨other, found, again⟩ | ⟨-, full⟩ := firstGap_cases base occupied
    · rw [found, again.only first]
    · exact absurd (full port first.above) first.free

instance decidableFirstFree {P : UInt16 → Prop} [DecidablePred P] :
    Decidable (∃ port, FirstFree occupied base port ∧ P port) :=
  decidable_of_iff (∃ port ∈ firstGap base occupied, P port)
    (exists_congr fun _ => and_congr_left' firstGap_iff)

instance decidableUnsharedAt (range : PortRange) (w : Plant) (job : Job) :
    (stage : Stage) → Decidable (job.UnsharedAt range w stage)
  | .pick _ _ => inferInstanceAs (Decidable (∃ port, FirstFree _ _ port ∧ Leases.Free _ _ _))
  | .record => inferInstanceAs (Decidable (∀ row ∈ w.fleet.hubs[job.hubId]?, row.serverId ≠ job.node → _))
  | .place => inferInstanceAs (Decidable (∀ row ∈ w.fleet.hubs[job.hubId]?, _))
  | .provision | .sender | .look _ | .send | .stop | .spawn | .tombstone => inferInstanceAs (Decidable True)

instance (range : PortRange) (w : Plant) : (act : PlantStep) → Decidable (Unshared range w act)
  | .next id _ _ => inferInstanceAs (Decidable (∀ job ∈ w.jobs[id]?, job.UnsharedAt range w job.stage))
  | .create .. | .restart .. | .delete .. | .deliver .. | .lose _ | .confirm _ | .forget _ =>
    inferInstanceAs (Decidable True)

theorem mem_sitesOf {node : Option String} {http voice : Option UInt16} {site : Site} :
    site ∈ sitesOf node http voice ↔ site.node = node ∧
      (match site.kind with | .http => http | .voice => voice) = some site.port := by
  obtain ⟨place, kind, port⟩ := site
  simp only [sitesOf, List.mem_append, Option.mem_toList, Option.map_eq_some_iff, Site.mk.injEq]
  cases kind with
  | http => simp [and_comm, eq_comm]
  | voice => simp [and_comm, eq_comm]

end

end Wavvon.Farm
