import Wavvon.Farm.State
import Wavvon.Shared.Runs

set_option autoImplicit false

namespace Wavvon.Farm

open Std (ExtTreeMap)

-- What an agent says of itself when it connects.
structure Hello where
  host : Option String := none
  tlsMode : Option String := none
  certSha256 : Option String := none
  deriving DecidableEq, Repr

-- A message as far as it is read: what has another type counts as absent.
structure AgentMessage where
  type : Option String := none
  hubId : Option String := none
  port : Option UInt64 := none
  voicePort : Option UInt64 := none
  deriving DecidableEq, Repr

/-- A socket whose token was good: not yet in the registry, reading messages, or done with reading. -/
inductive Phase where
  | admitted
  | reading
  | ended
  deriving DecidableEq, Repr

structure AgentSocket where
  server : String
  phase : Phase
  deriving DecidableEq, Repr

/-- `agentSenders` names for a server the socket whose channel it is. -/
structure AgentDesk where
  hubs : Table FleetRow := ∅
  servers : Table ServerRow := ∅
  agentSenders : Table Nat := ∅
  sockets : ExtTreeMap Nat AgentSocket := ∅

def nonEmpty (text : Option String) : Option String := (text.map trim).filter (· ≠ "")

-- A hello without a host clears the column.
def advertise (hello : Hello) (row : ServerRow) : ServerRow :=
  { row with
    host := nonEmpty hello.host
    tlsMode := if hello.tlsMode = some "pin" then "pin" else "ca"
    certSha256 := nonEmpty hello.certSha256 }

-- `n as i32` keeps the low 32 bits.
def asI32 (n : UInt64) : Int := (n.toNat : Int).bmod (2 ^ 32)

def spawnedRow (server : String) (port : UInt64) (voicePort : Option UInt64) (row : FleetRow) : FleetRow :=
  { row with processPort := some (asI32 port), voicePort := voicePort.map asI32, serverId := some server }

def stoppedRow (row : FleetRow) : FleetRow := { row with processPort := none, voicePort := none }

/-- The row that a message is about, and what it makes of it. -/
def AgentMessage.change (server : String) (msg : AgentMessage) : Option (String × (FleetRow → FleetRow)) :=
  if msg.type = some "hub_spawned" then
    msg.hubId.bind fun hubId => msg.port.map fun port => (hubId, spawnedRow server port msg.voicePort)
  else if msg.type = some "hub_stopped" then msg.hubId.map fun hubId => (hubId, stoppedRow)
  else none

def AgentMessage.apply (server : String) (msg : AgentMessage) (hubs : Table FleetRow) : Table FleetRow :=
  match msg.change server with
  | none => hubs
  | some (hubId, f) => hubs.modify hubId f

/-- One statement of the handler of a socket, or of the rest of the farm. -/
inductive AgentStep where
  | welcome (id : Nat) (server : String) (hello : Hello)
  | register (id : Nat)
  | receive (id : Nat) (msg : AgentMessage)
  | finish (id : Nat)
  | clean (id : Nat)
  | rest (hubs : Table FleetRow)

namespace AgentDesk

def reading (w : AgentDesk) (id : Nat) (phase : Phase) : Option String :=
  (w.sockets[id]?.filter fun socket => decide (socket.phase = phase)).map (·.server)

def enter (w : AgentDesk) (id : Nat) (server : String) (phase : Phase) : AgentDesk :=
  { w with sockets := w.sockets.insert id { server := server, phase := phase } }

end AgentDesk

def AgentStep.next (w : AgentDesk) : AgentStep → AgentDesk
  | .welcome id server hello =>
    if id ∈ w.sockets then w
    else { w.enter id server .admitted with servers := w.servers.modify server (advertise hello) }
  | .register id =>
    match w.reading id .admitted with
    | none => w
    | some server => { w.enter id server .reading with agentSenders := w.agentSenders.insert server id }
  | .receive id msg =>
    match w.reading id .reading with
    | none => w
    | some server => { w with hubs := msg.apply server w.hubs }
  | .finish id =>
    match w.reading id .reading with
    | none => w
    | some server => w.enter id server .ended
  -- The entry is removed by the server, whichever socket it belongs to.
  | .clean id =>
    match w.reading id .ended with
    | none => w
    | some server => { w with agentSenders := w.agentSenders.erase server, sockets := w.sockets.erase id }
  | .rest hubs => { w with hubs := hubs }

def ValidPort (port : Option Int) : Prop := ∀ n, port = some n → 1 ≤ n ∧ n ≤ 65535

/-- A message changes rows of its sender's server only, which are not deleted, and only to ports. -/
def SpeaksForOwn (w : AgentDesk) (act : AgentStep) : Prop :=
  match act with
  | .receive id _ => ∀ server, w.reading id .reading = some server → ∀ (hubId : String) (row changed : FleetRow),
      w.hubs[hubId]? = some row → (act.next w).hubs[hubId]? = some changed → changed ≠ row →
      row.serverId = some server ∧ row.deletedAt = none ∧
        ValidPort changed.processPort ∧ ValidPort changed.voicePort
  | _ => True

/-- No socket of the server is between two steps. -/
def Quiescent (w : AgentDesk) (server : String) : Prop :=
  ∀ (id : Nat) (socket : AgentSocket), w.sockets[id]? = some socket → socket.server = server →
    socket.phase = .reading

def OfServer (w : AgentDesk) (server : String) (id : Nat) : Prop :=
  ∃ (socket : AgentSocket), w.sockets[id]? = some socket ∧ socket.server = server

/-- The registry knows the servers that have an open socket, each by one of these. -/
def Registered (w : AgentDesk) : Prop :=
  ∀ server, Quiescent w server →
    ((∃ id, w.agentSenders[server]? = some id) ↔ ∃ id, OfServer w server id) ∧
      ∀ id, w.agentSenders[server]? = some id → OfServer w server id

-- A port that fits once its low 32 bits are taken.
def InRange (n : UInt64) : Prop := 1 ≤ n.toNat % 2 ^ 32 ∧ n.toNat % 2 ^ 32 ≤ 65535

/--
A message that changes a row is from its server, and its ports are such; a socket is cleaned up as the last of
its server, or while another one is between two steps.
-/
def OrderlySocket (w : AgentDesk) (act : AgentStep) : Prop :=
  match act with
  | .receive id msg => ∀ server, w.reading id .reading = some server →
      ∀ hubId f, msg.change server = some (hubId, f) → ∀ (row : FleetRow), w.hubs[hubId]? = some row → f row ≠ row →
        row.serverId = some server ∧ row.deletedAt = none ∧
          (msg.type = some "hub_spawned" →
            (∀ n, msg.port = some n → InRange n) ∧ ∀ n, msg.voicePort = some n → InRange n)
  | .clean id => ∀ server, w.reading id .ended = some server →
      (∀ other (socket : AgentSocket), other ≠ id → w.sockets[other]? = some socket → socket.server = server →
        socket.phase = .reading) → ∀ other, other ≠ id → ¬ OfServer w server other
  | _ => True

section

variable {w : AgentDesk} {id : Nat} {server : String} {phase : Phase}

theorem reading_iff :
    w.reading id phase = some server ↔ w.sockets[id]? = some { server := server, phase := phase } := by
  rw [AgentDesk.reading, Option.map_eq_some_iff]
  simp only [Option.filter_eq_some_iff, decide_eq_true_eq]
  constructor
  · rintro ⟨⟨server, phase⟩, ⟨found, rfl⟩, rfl⟩
    exact found
  · intro found
    exact ⟨_, ⟨found, rfl⟩, rfl⟩

theorem asI32_valid {n : UInt64} : (1 ≤ asI32 n ∧ asI32 n ≤ 65535) ↔ InRange n := by
  unfold asI32 InRange
  rw [Int.bmod_def]
  split <;> omega

theorem apply_none {msg : AgentMessage} (nothing : msg.change server = none) (hubs : Table FleetRow) :
    msg.apply server hubs = hubs := by
  rw [AgentMessage.apply, nothing]

theorem apply_row {msg : AgentMessage} {named : String} {f : FleetRow → FleetRow}
    (change : msg.change server = some (named, f)) (hubs : Table FleetRow) (hubId : String) :
    (msg.apply server hubs)[hubId]? = if hubId = named then hubs[hubId]?.map f else hubs[hubId]? := by
  rw [AgentMessage.apply, change]
  dsimp only
  rw [ExtTreeMap.getElem?_modify]
  by_cases same : hubId = named
  next =>
    subst same
    simp
  next => rw [if_neg same, if_neg fun held => same (Std.LawfulEqCmp.eq_of_compare held).symm]

-- Ports that are valid once they are written.
theorem change_ports {msg : AgentMessage} {hubId : String} {f : FleetRow → FleetRow} {row : FleetRow}
    (change : msg.change server = some (hubId, f)) :
    (ValidPort (f row).processPort ∧ ValidPort (f row).voicePort) ↔
      (msg.type = some "hub_spawned" →
        (∀ n, msg.port = some n → InRange n) ∧ ∀ n, msg.voicePort = some n → InRange n) := by
  unfold AgentMessage.change at change
  split at change
  next spawned =>
    obtain ⟨named, hub, change⟩ := Option.bind_eq_some_iff.mp change
    obtain ⟨port, own, change⟩ := Option.map_eq_some_iff.mp change
    cases change
    rw [forall_prop_of_true spawned, own]
    refine and_congr ?_ ?_
    · simp only [spawnedRow, ValidPort, Option.some.injEq, forall_eq', asI32_valid]
    · simp only [spawnedRow, ValidPort, Option.map_eq_some_iff, forall_exists_index, and_imp,
        forall_apply_eq_imp_iff₂, asI32_valid]
  next other =>
    refine iff_of_true ?_ (fun spawned => absurd spawned other)
    split at change
    next =>
      obtain ⟨named, hub, change⟩ := Option.map_eq_some_iff.mp change
      cases change
      exact ⟨nofun, nofun⟩
    next => cases change

theorem speaksForOwn_iff {msg : AgentMessage} : SpeaksForOwn w (.receive id msg) ↔
    OrderlySocket w (.receive id msg) := by
  refine forall_congr' fun server => imp_congr_right fun open_ => ?_
  have after : (AgentStep.next w (.receive id msg)).hubs = msg.apply server w.hubs := by
    rw [AgentStep.next, open_]
  rw [after]
  cases change : msg.change server with
  | none =>
    refine iff_of_true ?_ nofun
    intro hubId row changed found same differs
    rw [apply_none change] at same
    exact absurd (Option.some.inj (same.symm.trans found)) differs
  | some edit =>
    obtain ⟨named, f⟩ := edit
    constructor
    · rintro own hubId g ⟨⟩ row found differs
      have edited : (msg.apply server w.hubs)[named]? = some (f row) := by
        rw [apply_row change, if_pos rfl, found, Option.map_some]
      obtain ⟨placed, live, ports⟩ := own named row (f row) found edited differs
      exact ⟨placed, live, (change_ports change).mp ports⟩
    · intro orderly hubId row changed found same differs
      rw [apply_row change] at same
      by_cases own : hubId = named
      next =>
        rw [if_pos own, found, Option.map_some] at same
        cases same
        obtain ⟨placed, live, ports⟩ := orderly named f rfl row (own ▸ found) differs
        exact ⟨placed, live, (change_ports change).mpr ports⟩
      next =>
        rw [if_neg own] at same
        exact absurd (Option.some.inj (same.symm.trans found)) differs

/-- A step that is about one server leaves the registry and the sockets of the others alone. -/
structure Aside (w after : AgentDesk) (server : String) : Prop where
  senders : ∀ other, other ≠ server → after.agentSenders[other]? = w.agentSenders[other]?
  sockets : ∀ other, other ≠ server → ∀ (id : Nat) (socket : AgentSocket), socket.server = other →
    (after.sockets[id]? = some socket ↔ w.sockets[id]? = some socket)

theorem Aside.ofServer {after : AgentDesk} (aside : Aside w after server) {other : String}
    (different : other ≠ server) (id : Nat) : OfServer after other id ↔ OfServer w other id := by
  constructor
  · rintro ⟨socket, found, own⟩
    exact ⟨socket, (aside.sockets other different id socket own).mp found, own⟩
  · rintro ⟨socket, found, own⟩
    exact ⟨socket, (aside.sockets other different id socket own).mpr found, own⟩

theorem Aside.quiescent {after : AgentDesk} (aside : Aside w after server) {other : String}
    (different : other ≠ server) (quiescent : Quiescent after other) : Quiescent w other := by
  intro id socket found own
  exact quiescent id socket ((aside.sockets other different id socket own).mpr found) own

-- So it is enough to look at the server itself.
theorem Aside.registered {after : AgentDesk} (aside : Aside w after server) (registered : Registered w)
    (here : Quiescent after server →
      ((∃ id, after.agentSenders[server]? = some id) ↔ ∃ id, OfServer after server id) ∧
        ∀ id, after.agentSenders[server]? = some id → OfServer after server id) : Registered after := by
  intro other quiescent
  by_cases same : other = server
  next =>
    subst same
    exact here quiescent
  next =>
    simp only [aside.senders other same, aside.ofServer same]
    exact registered other (aside.quiescent same quiescent)

-- A socket comes to another phase, or is new.
theorem enter_aside (free : ∀ (socket : AgentSocket), w.sockets[id]? = some socket → socket.server = server)
    (phase : Phase) (senders : Table Nat) (servers : Table ServerRow)
    (others : ∀ other, other ≠ server → senders[other]? = w.agentSenders[other]?) :
    Aside w { w.enter id server phase with agentSenders := senders, servers := servers } server := by
  refine ⟨others, ?_⟩
  intro other different id' socket own
  show (w.sockets.insert id { server := server, phase := phase })[id']? = some socket ↔ _
  rw [ExtTreeMap.getElem?_insert]
  split
  next same =>
    obtain rfl := Std.LawfulEqCmp.eq_of_compare same
    constructor
    · rintro ⟨⟩
      exact absurd own.symm different
    · intro found
      exact absurd (own.symm.trans (free socket found)) different
  next => exact Iff.rfl

theorem enter_ofServer (w : AgentDesk) (id : Nat) (server : String) (phase : Phase) :
    OfServer (w.enter id server phase) server id :=
  ⟨_, ExtTreeMap.getElem?_insert_self, rfl⟩

theorem only_server (found : w.sockets[id]? = some { server := server, phase := phase }) :
    ∀ (socket : AgentSocket), w.sockets[id]? = some socket → socket.server = server := by
  intro socket same
  cases found.symm.trans same
  rfl

-- While a socket of the server is between two steps there is nothing to show.
theorem enter_busy (busy : phase ≠ .reading) : ¬ Quiescent (w.enter id server phase) server := by
  intro quiescent
  exact busy (quiescent id _ ExtTreeMap.getElem?_insert_self rfl)

theorem clean_sockets (found : w.reading id .ended = some server) (other : Nat) :
    (AgentStep.next w (.clean id)).sockets[other]? = if other = id then none else w.sockets[other]? := by
  rw [AgentStep.next, found]
  dsimp only
  rw [ExtTreeMap.getElem?_erase]
  by_cases same : other = id
  next =>
    subst same
    simp
  next => rw [if_neg same, if_neg fun held => same (Std.LawfulEqCmp.eq_of_compare held).symm]

theorem clean_senders (found : w.reading id .ended = some server) (other : String) :
    (AgentStep.next w (.clean id)).agentSenders[other]? = if other = server then none else w.agentSenders[other]? := by
  rw [AgentStep.next, found]
  dsimp only
  rw [ExtTreeMap.getElem?_erase]
  by_cases same : other = server
  next =>
    subst same
    simp
  next => rw [if_neg same, if_neg fun held => same (Std.LawfulEqCmp.eq_of_compare held).symm]

theorem clean_aside (found : w.reading id .ended = some server) : Aside w (AgentStep.next w (.clean id)) server := by
  refine ⟨fun other different => (clean_senders found other).trans (if_neg different), ?_⟩
  intro other different id' socket own
  rw [clean_sockets found]
  by_cases same : id' = id
  next =>
    subst same
    rw [if_pos rfl]
    refine iff_of_false nofun fun stored => ?_
    exact different (own.symm.trans (only_server (reading_iff.mp found) socket stored))
  next => rw [if_neg same]

-- What is left of a server once a socket of it is cleaned up.
theorem clean_ofServer (found : w.reading id .ended = some server) (other : Nat) :
    OfServer (AgentStep.next w (.clean id)) server other ↔ other ≠ id ∧ OfServer w server other := by
  unfold OfServer
  rw [clean_sockets found]
  by_cases same : other = id
  next => simp [same]
  next => simp [same]

theorem next_registered {act : AgentStep} (registered : Registered w) (orderly : OrderlySocket w act) :
    Registered (act.next w) := by
  cases act with
  | welcome id server hello =>
    by_cases free : id ∈ w.sockets
    next =>
      rw [AgentStep.next, if_pos free]
      exact registered
    next =>
      rw [AgentStep.next, if_neg free]
      have absent : ∀ (socket : AgentSocket), w.sockets[id]? = some socket → socket.server = server := by
        intro socket found
        exact absurd (ExtTreeMap.mem_iff_isSome_getElem?.mpr (by rw [found]; rfl)) free
      exact (enter_aside absent .admitted w.agentSenders _ fun _ _ => rfl).registered registered
        fun quiescent => absurd quiescent (enter_busy nofun)
  | register id =>
    cases found : w.reading id .admitted with
    | none =>
      rw [AgentStep.next, found]
      exact registered
    | some server =>
      rw [AgentStep.next, found]
      have others : ∀ other, other ≠ server →
          (w.agentSenders.insert server id)[other]? = w.agentSenders[other]? := by
        intro other different
        rw [ExtTreeMap.getElem?_insert, if_neg fun held => different (Std.LawfulEqCmp.eq_of_compare held).symm]
      refine (enter_aside (only_server (reading_iff.mp found)) .reading _ w.servers others).registered registered ?_
      intro _
      refine ⟨iff_of_true ⟨id, ExtTreeMap.getElem?_insert_self⟩
        ⟨id, enter_ofServer w id server .reading⟩, ?_⟩
      intro entry listed
      obtain rfl := Option.some.inj (ExtTreeMap.getElem?_insert_self.symm.trans listed)
      exact enter_ofServer w id server .reading
  | receive id msg =>
    cases found : w.reading id .reading with
    | none =>
      rw [AgentStep.next, found]
      exact registered
    | some server =>
      rw [AgentStep.next, found]
      exact registered
  | finish id =>
    cases found : w.reading id .reading with
    | none =>
      rw [AgentStep.next, found]
      exact registered
    | some server =>
      rw [AgentStep.next, found]
      have aside := enter_aside (only_server (reading_iff.mp found)) .ended w.agentSenders w.servers fun _ _ => rfl
      exact aside.registered registered fun quiescent => absurd quiescent (enter_busy nofun)
  | clean id =>
    cases found : w.reading id .ended with
    | none =>
      rw [AgentStep.next, found]
      exact registered
    | some server =>
      refine (clean_aside found).registered registered fun quiescent => ?_
      have last : ∀ other, ¬ OfServer (AgentStep.next w (.clean id)) server other := by
        intro other left
        obtain ⟨different, own⟩ := (clean_ofServer found other).mp left
        refine orderly server found ?_ other different own
        intro third socket other_ stored of
        refine quiescent third socket ?_ of
        rw [clean_sockets found, if_neg other_, stored]
      have gone : (AgentStep.next w (.clean id)).agentSenders[server]? = none :=
        (clean_senders found server).trans (if_pos rfl)
      rw [gone]
      exact ⟨iff_of_false nofun fun ⟨other, left⟩ => last other left, nofun⟩
  | rest hubs => exact registered

-- The last of two sockets is left without an entry.
theorem disorderly_socket {act : AgentStep} (disorderly : ¬ OrderlySocket w act) :
    ¬ (Registered (act.next w) ∧ SpeaksForOwn w act) := by
  rintro ⟨registered, speaks⟩
  cases act with
  | receive id msg => exact disorderly (speaksForOwn_iff.mp speaks)
  | clean id =>
    simp only [OrderlySocket, not_forall, not_not] at disorderly
    obtain ⟨server, found, settled, other, different, own⟩ := disorderly
    have quiescent : Quiescent (AgentStep.next w (.clean id)) server := by
      intro third socket stored of
      rw [clean_sockets found] at stored
      split at stored
      next => cases stored
      next other_ => exact settled third socket other_ stored of
    have left := (clean_ofServer found other).mpr ⟨different, own⟩
    obtain ⟨entry, listed⟩ := (registered server quiescent).1.mpr ⟨other, left⟩
    rw [clean_senders found, if_pos rfl] at listed
    cases listed
  | _ => exact disorderly trivial

end

/--
An agent speaks for its own hubs only, and the registry names open sockets, in a run from an empty registry exactly if
its steps are orderly.
-/
theorem agents_iff (hubs : Table FleetRow) (servers : Table ServerRow) (acts : List AgentStep) :
    ((∀ front, front <+: acts →
        Registered (Runs.run AgentStep.next { hubs := hubs, servers := servers } front)) ∧
      Runs.Meets AgentStep.next SpeaksForOwn { hubs := hubs, servers := servers } acts) ↔
      Runs.Meets AgentStep.next OrderlySocket { hubs := hubs, servers := servers } acts := by
  refine Runs.good_fair_iff_meets Registered Registered SpeaksForOwn (fun _ => id) ?_
    (fun _ _ _ disorderly => disorderly_socket disorderly) ?_ acts
  · intro w act registered orderly
    refine ⟨next_registered registered orderly, ?_⟩
    cases act with
    | receive id msg => exact speaksForOwn_iff.mpr orderly
    | _ => trivial
  · intro server _
    refine ⟨iff_of_false ?_ ?_, ?_⟩
    · rintro ⟨id, listed⟩
      simp at listed
    · rintro ⟨id, socket, found, -⟩
      simp at found
    · intro id listed
      simp at listed

def reconnected : List AgentStep :=
  [.welcome 1 "s1" {}, .register 1, .welcome 2 "s1" {}, .register 2, .finish 1, .clean 1]

def foreignRow : FleetRow := { ownerPubkey := "p1", name := "home", processPort := some 4000 }

def foreignHub : Table FleetRow := (∅ : Table FleetRow).insert "h1" foreignRow

-- The end of the old socket removes the sender of the new one; and an agent takes a hub of the farm to port 65536.
theorem agents_disorderly :
    (∀ server, Quiescent (Runs.run AgentStep.next {} reconnected) server) ∧
      ¬ Registered (Runs.run AgentStep.next {} reconnected) ∧
      ¬ SpeaksForOwn (Runs.run AgentStep.next { hubs := foreignHub } [.welcome 1 "s1" {}, .register 1])
        (.receive 1 { type := some "hub_spawned", hubId := some "h1", port := some 65536 }) := by
  have left : (Runs.run AgentStep.next {} reconnected).sockets =
      ((((((∅ : ExtTreeMap Nat AgentSocket).insert 1 ⟨"s1", .admitted⟩).insert 1 ⟨"s1", .reading⟩).insert 2
        ⟨"s1", .admitted⟩).insert 2 ⟨"s1", .reading⟩).insert 1 ⟨"s1", .ended⟩).erase 1 := by rfl
  have open_ : (Runs.run AgentStep.next {} reconnected).sockets[2]? = some ⟨"s1", .reading⟩ := by decide
  have unlisted : (Runs.run AgentStep.next {} reconnected).agentSenders["s1"]? = none := by decide
  have quiescent : ∀ server, Quiescent (Runs.run AgentStep.next {} reconnected) server := by
    intro server id socket found own
    rw [left] at found
    simp only [ExtTreeMap.getElem?_erase, ExtTreeMap.getElem?_insert] at found
    grind
  refine ⟨quiescent, ?_, ?_⟩
  · intro registered
    obtain ⟨id, listed⟩ := (registered "s1" (quiescent "s1")).1.mpr ⟨2, _, open_, rfl⟩
    rw [unlisted] at listed
    cases listed
  · intro speaks
    have change : ({ type := some "hub_spawned", hubId := some "h1", port := some 65536 } : AgentMessage).change "s1" =
        some ("h1", spawnedRow "s1" 65536 none) := rfl
    have moved := (apply_row change foreignHub "h1").trans (if_pos rfl)
    rw [show foreignHub["h1"]? = some foreignRow from rfl] at moved
    obtain ⟨placed, -⟩ := speaks "s1" (by decide) "h1" foreignRow _ rfl moved (by simp [spawnedRow, foreignRow])
    cases placed

end Wavvon.Farm
