import Wavvon.Farm.Heartbeats
import Wavvon.Farm.Login

set_option autoImplicit false

namespace Wavvon.Farm

/-- The first port from `base` on that is not occupied. -/
structure FirstFree (occupied : List UInt16) (base port : UInt16) : Prop where
  above : base ≤ port
  free : port ∉ occupied
  first : ∀ other, base ≤ other → other < port → other ∈ occupied

-- The ports of the processes and of the live rows, by the columns that hold them.
def held (ofProcess : HubProcess → UInt16) (ofRow : FleetRow → Option Int) (s : Fleet) : List UInt16 :=
  s.processes.toList.map (fun entry => ofProcess entry.2) ++
    (s.hubs.toList.filter fun entry => decide (entry.2.deletedAt = none)).filterMap fun entry =>
      (ofRow entry.2).map UInt16.ofInt

section

variable {occupied : List UInt16} {base port : UInt16} {s : Fleet}

-- `left` counts the ports that are left above this one.
theorem gapFrom_cases (occupied : List UInt16) (left : Nat) (base : UInt16) (room : base.toNat + left = 65535) :
    (∃ port, gapFrom occupied left base = some port ∧ FirstFree occupied base port) ∨
      gapFrom occupied left base = none ∧ ∀ port, base ≤ port → port ∈ occupied := by
  induction left generalizing base with
  | zero =>
    unfold gapFrom
    split
    next taken =>
      refine .inr ⟨rfl, fun port above => ?_⟩
      have last : port = base := by
        have low := UInt16.le_iff_toNat_le.mp above
        have high := port.toNat_lt
        exact UInt16.toNat_inj.mp (by omega)
      exact last ▸ taken
    next free =>
      refine .inl ⟨base, rfl, UInt16.le_refl base, free, fun other low high => ?_⟩
      exact absurd (UInt16.lt_iff_toNat_lt.mp high) (Nat.not_lt.mpr (UInt16.le_iff_toNat_le.mp low))
  | succ left ih =>
    unfold gapFrom
    split
    next taken =>
      have succ : (base + 1).toNat = base.toNat + 1 := by
        rw [UInt16.toNat_add]
        exact Nat.mod_eq_of_lt (by
          have : (1 : UInt16).toNat = 1 := rfl
          omega)
      have split {other : UInt16} (low : base ≤ other) : other = base ∨ base + 1 ≤ other := by
        have := UInt16.le_iff_toNat_le.mp low
        by_cases same : other.toNat = base.toNat
        next => exact .inl (UInt16.toNat_inj.mp same)
        next => exact .inr (UInt16.le_iff_toNat_le.mpr (by omega))
      obtain ⟨port, found, first⟩ | ⟨none_, full⟩ := ih (base + 1) (by omega)
      · have above : base ≤ port := by
          have := UInt16.le_iff_toNat_le.mp first.above
          exact UInt16.le_iff_toNat_le.mpr (by omega)
        refine .inl ⟨port, found, above, first.free, fun other low high => ?_⟩
        obtain rfl | later := split low
        · exact taken
        · exact first.first other later high
      · refine .inr ⟨none_, fun port low => ?_⟩
        obtain rfl | later := split low
        · exact taken
        · exact full port later
    next free =>
      refine .inl ⟨base, rfl, UInt16.le_refl base, free, fun other low high => ?_⟩
      exact absurd (UInt16.lt_iff_toNat_lt.mp high) (Nat.not_lt.mpr (UInt16.le_iff_toNat_le.mp low))

theorem firstGap_cases (base : UInt16) (occupied : List UInt16) :
    (∃ port, firstGap base occupied = some port ∧ FirstFree occupied base port) ∨
      firstGap base occupied = none ∧ ∀ port, base ≤ port → port ∈ occupied := by
  have := base.toNat_lt
  exact gapFrom_cases occupied (65535 - base.toNat) base (by omega)

theorem firstGap_spec (found : firstGap base occupied = some port) : FirstFree occupied base port := by
  obtain ⟨other, same, first⟩ | ⟨none_, -⟩ := firstGap_cases base occupied
  · exact Option.some.inj (same.symm.trans found) ▸ first
  · rw [none_] at found
    cases found

theorem firstGap_isSome : (firstGap base occupied).isSome = true ↔ ∃ port, base ≤ port ∧ port ∉ occupied := by
  obtain ⟨port, found, first⟩ | ⟨none_, full⟩ := firstGap_cases base occupied
  · exact iff_of_true (by rw [found]; rfl) ⟨port, first.above, first.free⟩
  · refine iff_of_false (by rw [none_]; exact Bool.false_ne_true) ?_
    rintro ⟨port, above, free⟩
    exact free (full port above)

theorem occupiedPorts_eq (s : Fleet) :
    occupiedPorts s = (held (·.port) (·.processPort) s, held (·.voicePort) (·.voicePort) s) :=
  rfl

theorem mem_held {ofProcess : HubProcess → UInt16} {ofRow : FleetRow → Option Int} :
    port ∈ held ofProcess ofRow s ↔
      (∃ (id : String) (process : HubProcess), s.processes[id]? = some process ∧ ofProcess process = port) ∨
        ∃ (id : String) (row : FleetRow) (n : Int), s.hubs[id]? = some row ∧ row.deletedAt = none ∧
          ofRow row = some n ∧ UInt16.ofInt n = port := by
  rw [held, List.mem_append]
  refine or_congr ?_ ?_
  · simp only [List.mem_map, Prod.exists, Std.ExtTreeMap.mem_toList_iff_getElem?_eq_some]
  · simp only [List.mem_filterMap, List.mem_filter, decide_eq_true_eq, Option.map_eq_some_iff, Prod.exists,
      Std.ExtTreeMap.mem_toList_iff_getElem?_eq_some]
    constructor
    · rintro ⟨id, row, ⟨found, live⟩, n, holds, same⟩
      exact ⟨id, row, n, found, live, holds, same⟩
    · rintro ⟨id, row, n, found, live, holds, same⟩
      exact ⟨id, row, ⟨found, live⟩, n, holds, same⟩

-- A change to a row that is not about the port.
theorem mem_held_updateHub (ofProcess : HubProcess → UInt16) (ofRow : FleetRow → Option Int)
    {f : FleetRow → FleetRow} (keeps : ∀ row, (f row).deletedAt = row.deletedAt ∧ ofRow (f row) = ofRow row)
    (s : Fleet) (hubId : String) (port : UInt16) :
    port ∈ held ofProcess ofRow (updateHub s hubId f) ↔ port ∈ held ofProcess ofRow s := by
  rw [mem_held, mem_held]
  refine or_congr Iff.rfl (exists_congr fun id => ?_)
  rw [updateHub_row]
  by_cases own : id = hubId
  next =>
    rw [if_pos own]
    constructor
    · rintro ⟨row, n, found, live, holds, same⟩
      obtain ⟨before, stored, rfl⟩ := Option.map_eq_some_iff.mp found
      obtain ⟨alive, port⟩ := keeps before
      exact ⟨before, n, stored, alive ▸ live, port ▸ holds, same⟩
    · rintro ⟨row, n, found, live, holds, same⟩
      obtain ⟨alive, port⟩ := keeps row
      exact ⟨f row, n, by rw [found, Option.map_some], alive.trans live, port.trans holds, same⟩
  next => rw [if_neg own]

end

/-- A node that can host hubs: a connected agent, or the farm's own process. -/
structure Node where
  serverId : Option String
  inUse : Int
  capacity : Option Int
  deriving DecidableEq, Repr

namespace Node

def hasRoom (node : Node) : Bool := node.capacity.all fun cap => decide (node.inUse < cap)

-- `i64::MAX` for a node without a cap.
def free (node : Node) : Int := (node.capacity.map fun cap => cap - node.inUse).getD (2 ^ 63 - 1)

-- The keys of `max_by_key`, in order: agents come before the farm itself.
def emptier (node other : Node) : Bool :=
  decide (other.free < node.free) ||
    decide (other.free = node.free ∧ node.serverId.isSome = true ∧ other.serverId.isSome = false)

end Node

inductive PlacementError where
  | unknownServer
  | serverFull
  | noCapacity
  deriving DecidableEq, Repr

def PlacementError.code : PlacementError → String
  | .unknownServer => "unknown_server"
  | .serverFull => "server_full"
  | .noCapacity => "no_capacity"

def PlacementError.message : PlacementError → String
  | .unknownServer => "that server is not registered, or its agent is not connected"
  | .serverFull => "that server is already at its hub limit"
  | .noCapacity => "every server is at its hub limit — raise one, or register another"

-- Of several that are equally empty the last.
def emptiest : List Node → Option Node
  | [] => none
  | node :: rest =>
    match emptiest rest with
    | none => some node
    | some best => if node.emptier best then some node else some best

def choose (nodes : List Node) (requested : Option String) : Except PlacementError Node :=
  match requested with
  | some id =>
    match nodes.find? fun node => decide (node.serverId = some id) with
    | none => .error .unknownServer
    | some node => if node.hasRoom then .ok node else .error .serverFull
  | none =>
    match emptiest (nodes.filter Node.hasRoom) with
    | none => .error .noCapacity
    | some node => .ok node

-- What else the row of `farms` says of hubs.
structure PolicyRow where
  creationPolicy : String := "admin_only"
  maxHubsPerUser : Int := 0
  maxHubsTotal : Int := 0
  maxLocalHubs : Int := 0
  deriving DecidableEq, Repr

/-- What the farm knows when a hub is created; `agents` are the keys of `agent_senders`, as they are iterated. -/
structure FarmState where
  auth : FarmAuth := {}
  policy : Option PolicyRow := none
  fleet : Fleet := {}
  servers : Table ServerRow := ∅
  agents : List String := []

def liveHubs (s : Fleet) (holds : FleetRow → Bool) : Int :=
  ((s.hubs.toList.filter fun entry => decide (entry.2.deletedAt = none) && holds entry.2).length : Int)

def FarmState.cap (s : FarmState) (server : String) : Option Int :=
  (s.servers[server]?.filter fun row => decide (row.deletedAt = none)).bind (·.maxHubs)

def localCap (s : FarmState) : Option Int :=
  let cap := (s.policy.map (·.maxLocalHubs)).getD 0
  if 0 < cap then some cap else none

def inUse (s : Fleet) (server : Option String) : Int := liveHubs s fun row => decide (row.serverId = server)

/-- Every connected agent and the farm itself, with how many hubs they hold and how many they may. -/
def collectNodes (s : FarmState) : List Node :=
  (s.agents.map fun id => { serverId := some id, inUse := inUse s.fleet (some id), capacity := s.cap id }) ++
    [{ serverId := none, inUse := inUse s.fleet none, capacity := localCap s }]

section

variable {nodes : List Node} {node : Node} {requested : Option String}

theorem emptiest_mem (found : emptiest nodes = some node) : node ∈ nodes := by
  induction nodes generalizing node with
  | nil => cases found
  | cons first rest ih =>
    unfold emptiest at found
    cases later : emptiest rest with
    | none =>
      rw [later] at found
      obtain rfl := Option.some.inj found
      exact List.mem_cons_self
    | some best =>
      rw [later] at found
      dsimp only at found
      split at found
      next =>
        obtain rfl := Option.some.inj found
        exact List.mem_cons_self
      next =>
        obtain rfl := Option.some.inj found
        exact List.mem_cons_of_mem first (ih later)

-- Placement is refused, never made to overflow.
theorem choose_mem (chosen : choose nodes requested = .ok node) : node ∈ nodes ∧ node.hasRoom = true := by
  unfold choose at chosen
  split at chosen
  next id =>
    split at chosen
    next => cases chosen
    next found =>
      split at chosen
      next room =>
        cases chosen
        exact ⟨List.mem_of_find?_eq_some found, room⟩
      next => cases chosen
  next =>
    split at chosen
    next => cases chosen
    next found =>
      cases chosen
      exact List.mem_filter.mp (emptiest_mem found)

-- Only a connected agent is chosen.
theorem chosen_connected {s : FarmState} {server : String} (chosen : choose (collectNodes s) requested = .ok node)
    (placed : node.serverId = some server) : server ∈ s.agents := by
  obtain own | farm := List.mem_append.mp (choose_mem chosen).1
  · obtain ⟨id, listed, rfl⟩ := List.mem_map.mp own
    exact Option.some.inj placed ▸ listed
  · rw [List.mem_singleton.mp farm] at placed
    cases placed

end

end Wavvon.Farm
