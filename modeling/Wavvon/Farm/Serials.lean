import Wavvon.Farm.Creation
import Wavvon.Shared.Runs

set_option autoImplicit false

namespace Wavvon.Farm

-- The row stays as a tombstone; that the process could not be killed is only logged.
def deleteFleetHub (lib : LoginLib) (now : Int) (dies : Bool) (s : FarmState) (bearer : Option String)
    (hubId : String) :
    FarmState × Except HttpError Nat :=
  match requireAuth lib now bearer with
  | .error e => (s, .error e)
  | .ok payload =>
    match s.fleet.hubs[hubId]?.filter fun row => decide (row.deletedAt = none) with
    | none => (s, .error (404, "hub_not_found"))
    | some row =>
      if s.auth.adminPubkey ≠ some payload.sub ∧ payload.sub ≠ row.ownerPubkey then
        (s, .error (403, "farm_admin_only"))
      else
        let stopped := (stopHub s.fleet hubId dies).1
        ({ s with fleet := updateHub stopped hubId fun row => { row with deletedAt := some now } }, .ok 204)

/-- A request to the farm; the sender of a heartbeat is the process that the farm started for a row, or anybody. -/
inductive HubStep where
  | create (world : Creating) (bearer : Option String) (req : CreateHubRequest)
  | delete (now : Int) (dies : Bool) (bearer : Option String) (hubId : String)
  | heartbeat (sender : Option String) (now : Int) (payload : HeartbeatPayload)
  | agents (connected : List String)

namespace HubStep

def next (lib : LoginLib) (range : PortRange) (s : FarmState) : HubStep → FarmState
  | .create world bearer req => { s with fleet := (createHub lib range world s bearer req).after }
  | .delete now dies bearer hubId => (deleteFleetHub lib now dies s bearer hubId).1
  | .heartbeat _ now payload => { s with fleet := (receiveHeartbeat lib.farmUrl now s.fleet payload).1 }
  | .agents connected => { s with agents := connected }

def sender : HubStep → Option String
  | .heartbeat sender _ _ => sender
  | _ => none

-- The key that a heartbeat says it is from, and the row that it says it is for.
def states : HubStep → Option String
  | .heartbeat _ _ payload => payload.hubPubkey
  | _ => none

def names : HubStep → Option String
  | .heartbeat _ _ payload => payload.hubId
  | _ => none

end HubStep

/-- Keys are bound once and as `binds` allows, and liveness is only told by who `speaks` for the row. -/
structure Voiced (binds : String → String → Prop) (speaks : String → FleetRow → Prop) (s after : Fleet) : Prop where
  kept : ∀ (id : String) (row : FleetRow) (key : String), s.hubs[id]? = some row → row.hubPubkey = some key →
    ∃ (changed : FleetRow), after.hubs[id]? = some changed ∧ changed.hubPubkey = some key
  bound : ∀ (id : String) (changed : FleetRow) (key : String), after.hubs[id]? = some changed →
    changed.hubPubkey = some key →
      (∃ (row : FleetRow), s.hubs[id]? = some row ∧ row.hubPubkey = some key) ∨ binds id key
  heard : ∀ (id : String) (changed : FleetRow) (key : String), after.hubs[id]? = some changed →
    changed.hubPubkey = some key → after.heartbeats[key]? ≠ s.heartbeats[key]? → speaks id changed
  cleared : ∀ (id : String) (row changed : FleetRow), s.hubs[id]? = some row → after.hubs[id]? = some changed →
    changed.restartAttempts ≠ row.restartAttempts → speaks id changed

/-- Only the process that the farm started for a row speaks for it. -/
def OwnVoice (lib : LoginLib) (range : PortRange) (keyOf : String → String) (s : FarmState) (act : HubStep) : Prop :=
  Voiced (fun id key => key = keyOf id) (fun id _ => act.sender = some id) s.fleet (act.next lib range s).fleet

def Unclaimed (s : Fleet) (id : String) : Prop :=
  ∃ (row : FleetRow), s.hubs[id]? = some row ∧ row.hubPubkey = none ∧ row.deletedAt = none

/-- Who names an unclaimed row binds it to the key that is stated, and who states the key speaks for the row. -/
def KeyedVoice (lib : LoginLib) (range : PortRange) (s : FarmState) (act : HubStep) : Prop :=
  Voiced (fun id key => Unclaimed s.fleet id ∧ act.names = some id ∧ act.states = some key)
    (fun _ row => act.states = row.hubPubkey ∧ row.hubPubkey ≠ none) s.fleet (act.next lib range s).fleet

-- The siblings that a heartbeat is answered with are hubs that live.
def SiblingsLive (lib : LoginLib) (range : PortRange) (s : FarmState) (act : HubStep) : Prop :=
  match act with
  | .heartbeat _ now payload => ∀ sibling ∈ (receiveHeartbeat lib.farmUrl now s.fleet payload).2.2.siblings,
      ∃ (id : String) (row : FleetRow), (act.next lib range s).fleet.hubs[id]? = some row ∧
        row.hubPubkey = some sibling.hubPubkey ∧ row.deletedAt = none ∧ row.suspendedAt = none
  | _ => True

-- No key, heartbeat or attempt is touched, and what is new has no key.
structure Voiceless (s after : Fleet) : Prop where
  kept : ∀ (id : String) (row : FleetRow), s.hubs[id]? = some row →
    ∃ (changed : FleetRow), after.hubs[id]? = some changed ∧ changed.hubPubkey = row.hubPubkey ∧
      changed.restartAttempts = row.restartAttempts
  fresh : ∀ (id : String) (changed : FleetRow), s.hubs[id]? = none → after.hubs[id]? = some changed →
    changed.hubPubkey = none
  heartbeats : after.heartbeats = s.heartbeats

namespace Voiceless

variable {s mid after : Fleet}

theorem of_same (hubs : after.hubs = s.hubs) (heartbeats : after.heartbeats = s.heartbeats) : Voiceless s after where
  kept id row found := ⟨row, by rw [hubs, found], rfl, rfl⟩
  fresh id changed absent found := by
    rw [hubs, absent] at found
    cases found
  heartbeats := heartbeats

theorem trans (first : Voiceless s mid) (second : Voiceless mid after) : Voiceless s after where
  kept id row found := by
    obtain ⟨half, there, key, attempts⟩ := first.kept id row found
    obtain ⟨changed, stored, key', attempts'⟩ := second.kept id half there
    exact ⟨changed, stored, key'.trans key, attempts'.trans attempts⟩
  fresh id changed absent found := by
    cases there : mid.hubs[id]? with
    | none => exact second.fresh id changed there found
    | some half =>
      obtain ⟨changed', stored, key, -⟩ := second.kept id half there
      obtain rfl := Option.some.inj (stored.symm.trans found)
      exact key.trans (first.fresh id half absent there)
  heartbeats := second.heartbeats.trans first.heartbeats

theorem update (s : Fleet) (hubId : String) {f : FleetRow → FleetRow}
    (keeps : ∀ row, (f row).hubPubkey = row.hubPubkey ∧ (f row).restartAttempts = row.restartAttempts) :
    Voiceless s (updateHub s hubId f) where
  kept id row found := by
    rw [updateHub_row, found]
    split
    next => exact ⟨f row, rfl, keeps row⟩
    next => exact ⟨row, rfl, rfl, rfl⟩
  fresh id changed absent found := by
    rw [updateHub_row, absent] at found
    split at found <;> cases found
  heartbeats := rfl

theorem insert {id : String} {row : FleetRow} (free : id ∉ s.hubs) (keyless : row.hubPubkey = none) :
    Voiceless s { s with hubs := s.hubs.insert id row } where
  kept other stored found := by
    have different : other ≠ id := by
      intro same
      subst same
      exact free (Std.ExtTreeMap.mem_iff_isSome_getElem?.mpr (by rw [found]; rfl))
    refine ⟨stored, ?_, rfl, rfl⟩
    rw [Std.ExtTreeMap.getElem?_insert, if_neg fun same => different (Std.LawfulEqCmp.eq_of_compare same).symm, found]
  fresh other changed absent found := by
    rw [Std.ExtTreeMap.getElem?_insert] at found
    split at found
    next => exact Option.some.inj found ▸ keyless
    next =>
      rw [absent] at found
      cases found
  heartbeats := rfl

theorem voiced {binds : String → String → Prop} {speaks : String → FleetRow → Prop} (voiceless : Voiceless s after) :
    Voiced binds speaks s after where
  kept id row key found own := by
    obtain ⟨changed, stored, same, -⟩ := voiceless.kept id row found
    exact ⟨changed, stored, same.trans own⟩
  bound id changed key found own := by
    cases there : s.hubs[id]? with
    | none =>
      rw [voiceless.fresh id changed there found] at own
      cases own
    | some row =>
      obtain ⟨changed', stored, same, -⟩ := voiceless.kept id row there
      obtain rfl := Option.some.inj (stored.symm.trans found)
      exact .inl ⟨row, rfl, same.symm.trans own⟩
  heard id changed key _ _ differs := absurd (by rw [voiceless.heartbeats]) differs
  cleared id row changed there found differs := by
    obtain ⟨changed', stored, -, same⟩ := voiceless.kept id row there
    obtain rfl := Option.some.inj (stored.symm.trans found)
    exact absurd same differs

end Voiceless

section

variable {lib : LoginLib} {range : PortRange} {world : Creating} {s : FarmState} {fleet : Fleet}

theorem spawnHub_voiceless (fleet : Fleet) (hubId : String) (process : HubProcess) (runs : Bool) :
    Voiceless fleet (spawnHub fleet hubId process runs).1 := by
  refine Voiceless.of_same (spawnHub_hubs process runs) ?_
  unfold spawnHub
  split <;> rfl

theorem launchHere_voiceless (lib : LoginLib) (range : PortRange) (world : Creating) (fleet : Fleet) (hubId : String) :
    Voiceless fleet (launchHere lib range world fleet hubId).after := by
  unfold launchHere allocateAndSpawn
  cases allocatePort range fleet with
  | none => exact .of_same rfl rfl
  | some port =>
    cases allocateVoicePort range fleet with
    | none => exact .of_same rfl rfl
    | some voicePort =>
      have recorded := Voiceless.update fleet hubId (f := fun row =>
        { row with processPort := some (port.toNat : Int), voicePort := some (voicePort.toNat : Int) })
        fun _ => ⟨rfl, rfl⟩
      exact recorded.trans (spawnHub_voiceless _ hubId { port := port, voicePort := voicePort } world.runs)

theorem launchAt_voiceless (lib : LoginLib) (range : PortRange) (world : Creating) (servers : Table ServerRow)
    (fleet : Fleet) (a : Accepted) (dbUrl server : String) :
    Voiceless fleet (launchAt lib range world servers fleet a dbUrl server).after := by
  have placed : Voiceless fleet (updateHub fleet a.hubId fun row => { row with serverId := some server }) :=
    .update fleet a.hubId fun _ => ⟨rfl, rfl⟩
  unfold launchAt
  split
  next => exact .of_same rfl rfl
  next =>
    split
    next =>
      dsimp only
      split
      next => exact placed
      next => exact placed.trans (launchHere_voiceless lib range world _ a.hubId)
    next => exact .of_same rfl rfl

theorem acceptHub_keyless {bearer : Option String} {req : CreateHubRequest} {a : Accepted}
    (accepted : acceptHub lib world s bearer req = .ok a) : a.row.hubPubkey = none := by
  unfold acceptHub at accepted
  iterate 5
    split at accepted
    next => cases accepted
  cases accepted
  rfl

theorem createHub_voiceless (lib : LoginLib) (range : PortRange) (world : Creating) (s : FarmState)
    (bearer : Option String) (req : CreateHubRequest) :
    Voiceless s.fleet (createHub lib range world s bearer req).after := by
  unfold createHub
  cases accepted : acceptHub lib world s bearer req with
  | error e => exact .of_same rfl rfl
  | ok a =>
    have inserted := Voiceless.insert (acceptHub_ok accepted).1 (acceptHub_keyless accepted)
    dsimp only
    cases world.provision with
    | error details => exact inserted.trans (.update _ a.hubId fun _ => ⟨rfl, rfl⟩)
    | ok dbUrl =>
      have ready := inserted.trans
        (.update _ a.hubId (f := fun row => { row with dbUrl := some dbUrl }) fun _ => ⟨rfl, rfl⟩)
      dsimp only
      split
      next => exact ready.trans (launchHere_voiceless lib range world _ a.hubId)
      next server _ => exact ready.trans (launchAt_voiceless lib range world s.servers _ a dbUrl server)

theorem deleteFleetHub_voiceless (lib : LoginLib) (now : Int) (dies : Bool) (s : FarmState) (bearer : Option String)
    (hubId : String) : Voiceless s.fleet (deleteFleetHub lib now dies s bearer hubId).1.fleet := by
  unfold deleteFleetHub
  split
  next => exact .of_same rfl rfl
  next =>
    split
    next => exact .of_same rfl rfl
    next =>
      split
      next => exact .of_same rfl rfl
      next =>
        have stopped : Voiceless s.fleet (stopHub s.fleet hubId dies).1 := by
          refine .of_same (stopHub_hubs dies) ?_
          unfold stopHub
          split <;> rfl
        exact stopped.trans (.update _ hubId fun _ => ⟨rfl, rfl⟩)

-- A row keeps its key through a claim, or is bound to the key that is stated.
theorem HeardFrom.claims {fleet claimed : Fleet} {payload : HeartbeatPayload} {pubkey : String}
    (heard : HeardFrom fleet payload pubkey claimed) (id : String) :
    claimed.hubs[id]? = fleet.hubs[id]? ∨
      payload.hubId = some id ∧ ∃ row, fleet.hubs[id]? = some row ∧ row.hubPubkey = none ∧ row.deletedAt = none ∧
        claimed.hubs[id]? = some { row with hubPubkey := some pubkey } := by
  rw [heard.claim]
  cases named : payload.hubId with
  | none => exact .inl rfl
  | some hubId =>
    rw [Option.map_some, Option.getD_some]
    obtain same | ⟨⟨row, found, free⟩, changed⟩ := claimHub_cases fleet hubId pubkey
    · exact .inl (by rw [same])
    · rw [changed, updateHub_row]
      by_cases own : id = hubId
      next =>
        subst own
        rw [claimable, Bool.and_eq_true, decide_eq_true_eq] at free
        exact .inr ⟨rfl, row, found, free.1.1, free.1.2, by rw [if_pos rfl, found, Option.map_some]⟩
      next => exact .inl (if_neg own)

theorem heartbeat_keyed (s : FarmState) (sender : Option String) (now : Int) (payload : HeartbeatPayload) :
    KeyedVoice lib range s (.heartbeat sender now payload) := by
  show Voiced _ _ s.fleet (receiveHeartbeat lib.farmUrl now s.fleet payload).1
  obtain ⟨same, -⟩ | ⟨pubkey, claimed, heard, -, after⟩ := receiveHeartbeat_cases lib.farmUrl now s.fleet payload
  · rw [same]
    exact (Voiceless.of_same rfl rfl).voiced
  rw [after]
  have rows (id : String) (changed : FleetRow)
      (found : (claimed.hubs.map fun _ row => clearAttempts pubkey row)[id]? = some changed) :
      ∃ half, claimed.hubs[id]? = some half ∧ clearAttempts pubkey half = changed := by
    rw [Std.ExtTreeMap.getElem?_map] at found
    exact Option.map_eq_some_iff.mp found
  constructor
  case kept =>
    intro id row key found own
    obtain ⟨changed, stored, heardRow⟩ := heartbeat_row lib.farmUrl now payload found
    rw [after] at stored
    exact ⟨changed, stored, heardRow.key key own⟩
  case bound =>
    intro id changed key found own
    obtain ⟨half, stored, rfl⟩ := rows id changed found
    rw [clearAttempts_key] at own
    obtain same | ⟨named, row, there, free, live, bound⟩ := heard.claims id
    · exact .inl ⟨half, same ▸ stored, own⟩
    · obtain rfl := Option.some.inj (bound.symm.trans stored)
      exact .inr ⟨⟨row, there, free, live⟩, named, heard.stated.trans own⟩
  case heard =>
    intro id changed key found own differs
    have stated : key = pubkey := by
      by_contra other
      refine differs ?_
      show (claimed.heartbeats.insert pubkey _)[key]? = _
      rw [Std.ExtTreeMap.getElem?_insert, if_neg fun same => other (Std.LawfulEqCmp.eq_of_compare same).symm,
        heard.heartbeats]
    subst stated
    exact ⟨heard.stated.trans own.symm, by rw [own]; nofun⟩
  case cleared =>
    intro id row changed there found differs
    obtain ⟨half, stored, rfl⟩ := rows id changed found
    have kept : half.restartAttempts = row.restartAttempts := by
      obtain same | ⟨-, row', there', -, -, bound⟩ := heard.claims id
      · rw [stored, there] at same
        rw [Option.some.inj same]
      · obtain rfl := Option.some.inj (bound.symm.trans stored)
        rw [Option.some.inj (there'.symm.trans there)]
    have own : half.hubPubkey = some pubkey := by
      by_contra other
      refine differs ?_
      rw [clearAttempts_other other, kept]
    have key := (clearAttempts_key pubkey half).trans own
    exact ⟨heard.stated.trans key.symm, by rw [key]; nofun⟩

theorem next_keyed (lib : LoginLib) (range : PortRange) (s : FarmState) (act : HubStep) :
    KeyedVoice lib range s act := by
  cases act with
  | create world bearer req => exact (createHub_voiceless lib range world s bearer req).voiced
  | delete now dies bearer hubId => exact (deleteFleetHub_voiceless lib now dies s bearer hubId).voiced
  | heartbeat sender now payload => exact heartbeat_keyed s sender now payload
  | agents connected => exact (Voiceless.of_same rfl rfl).voiced

theorem siblings_live {farmUrl pubkey : String} {fleet : Fleet} {sibling : Sibling}
    (listed : sibling ∈ siblings farmUrl fleet pubkey) :
    sibling.hubPubkey ≠ pubkey ∧ ∃ (id : String) (row : FleetRow), fleet.hubs[id]? = some row ∧
      row.hubPubkey = some sibling.hubPubkey ∧ row.deletedAt = none ∧ row.suspendedAt = none := by
  obtain ⟨⟨id, row⟩, kept, made⟩ := List.mem_filterMap.mp listed
  obtain ⟨held, sibling_⟩ := List.mem_filter.mp kept
  obtain ⟨other, own, rfl⟩ := Option.map_eq_some_iff.mp made
  rw [isSibling, decide_eq_true_eq] at sibling_
  obtain ⟨different, live, active⟩ := sibling_
  exact ⟨fun same => different (own.trans (congrArg some same)), id, row, mem_toList_row.mp held, own, live, active⟩

theorem next_siblings (lib : LoginLib) (range : PortRange) (s : FarmState) (act : HubStep) :
    SiblingsLive lib range s act := by
  cases act with
  | heartbeat sender now payload =>
    intro sibling listed
    have answered : (receiveHeartbeat lib.farmUrl now s.fleet payload).2.2.siblings = [] ∨
        ∃ pubkey, (receiveHeartbeat lib.farmUrl now s.fleet payload).2.2.siblings =
          siblings lib.farmUrl (receiveHeartbeat lib.farmUrl now s.fleet payload).1 pubkey := by
      unfold receiveHeartbeat
      cases payload.hubPubkey.filter (· ≠ "") with
      | none => exact .inl rfl
      | some pubkey =>
        dsimp only
        split
        next => exact .inr ⟨pubkey, rfl⟩
        next => exact .inl rfl
    obtain none_ | ⟨pubkey, own⟩ := answered
    · rw [none_] at listed
      cases listed
    · rw [own] at listed
      exact (siblings_live listed).2
  | _ => trivial

/-- What holds of every step of a run. -/
theorem run_keyed (lib : LoginLib) (range : PortRange) (s : FarmState) (acts : List HubStep) :
    Runs.Meets (HubStep.next lib range)
      (fun s act => KeyedVoice lib range s act ∧ SiblingsLive lib range s act) s acts := by
  induction acts generalizing s with
  | nil => trivial
  | cons act rest ih => exact ⟨⟨next_keyed lib range s act, next_siblings lib range s act⟩, ih _⟩

theorem run_kept (lib : LoginLib) (range : PortRange) (s : FarmState) (acts : List HubStep) {id key : String}
    {row : FleetRow} (found : s.fleet.hubs[id]? = some row) (own : row.hubPubkey = some key) :
    ∃ (changed : FleetRow),
      (Runs.run (HubStep.next lib range) s acts).fleet.hubs[id]? = some changed ∧
        changed.hubPubkey = some key := by
  induction acts generalizing s row with
  | nil => exact ⟨row, found, own⟩
  | cons act rest ih =>
    obtain ⟨changed, stored, same⟩ := (next_keyed lib range s act).kept id row key found own
    exact ih _ stored same

-- A key that a row has comes from the heartbeat that found the row unclaimed.
theorem run_bound (lib : LoginLib) (range : PortRange) (s : FarmState) (acts : List HubStep) {id key : String}
    {changed : FleetRow}
    (found : (Runs.run (HubStep.next lib range) s acts).fleet.hubs[id]? = some changed)
    (own : changed.hubPubkey = some key) :
    (∃ (row : FleetRow), s.fleet.hubs[id]? = some row ∧ row.hubPubkey = some key) ∨
      ∃ front act, front ++ [act] <+: acts ∧
        Unclaimed (Runs.run (HubStep.next lib range) s front).fleet id ∧
        act.names = some id ∧ act.states = some key := by
  induction acts using List.reverseRecOn generalizing changed with
  | nil => exact .inl ⟨changed, found, own⟩
  | append_singleton front act ih =>
    rw [Runs.run_append] at found
    obtain ⟨row, stored, same⟩ | ⟨unclaimed, named, stated⟩ :=
      (next_keyed lib range (Runs.run _ s front) act).bound id changed key found own
    · obtain before | ⟨front', act', within, rest⟩ := ih stored same
      · exact .inl before
      · exact .inr ⟨front', act', within.trans (List.prefix_append front [act]), rest⟩
    · exact .inr ⟨front, act, List.prefix_refl _, unclaimed, named, stated⟩

end

/--
Who first names an unclaimed row binds it to the key that is stated, once and for all; and who states that key speaks
for the row.
-/
theorem serials_keyed (lib : LoginLib) (range : PortRange) (s : FarmState) (acts : List HubStep) :
    Runs.Meets (HubStep.next lib range)
      (fun s act => KeyedVoice lib range s act ∧ SiblingsLive lib range s act) s acts ∧
    (∀ front, front <+: acts → ∀ (id key : String) (row : FleetRow),
      (Runs.run (HubStep.next lib range) s front).fleet.hubs[id]? = some row → row.hubPubkey = some key →
        ∃ (changed : FleetRow), (Runs.run (HubStep.next lib range) s acts).fleet.hubs[id]? = some changed ∧
          changed.hubPubkey = some key) ∧
    ∀ (id key : String) (changed : FleetRow),
      (Runs.run (HubStep.next lib range) s acts).fleet.hubs[id]? = some changed →
      changed.hubPubkey = some key →
        (∃ (row : FleetRow), s.fleet.hubs[id]? = some row ∧ row.hubPubkey = some key) ∨
          ∃ front act, front ++ [act] <+: acts ∧
            Unclaimed (Runs.run (HubStep.next lib range) s front).fleet id ∧
            act.names = some id ∧ act.states = some key := by
  refine ⟨run_keyed lib range s acts, ?_, fun id key changed => run_bound lib range s acts⟩
  rintro front ⟨back, rfl⟩ id key row found own
  rw [Runs.run_append]
  exact run_kept lib range _ back found own

section

variable {farmUrl pubkey hubId : String} {now : Int} {s : Fleet} {row : FleetRow} {payload : HeartbeatPayload}

theorem clearAttempts_deleted (pubkey : String) (row : FleetRow) :
    (clearAttempts pubkey row).deletedAt = row.deletedAt := by
  unfold clearAttempts
  split <;> rfl

theorem receiveHeartbeat_known (stated : payload.hubPubkey = some pubkey) (nonEmpty : pubkey ≠ "") {claimed : Fleet}
    (claim : (payload.hubId.map fun hubId => claimHub s hubId pubkey).getD s = claimed)
    (known : knownHub claimed pubkey = true) :
    (receiveHeartbeat farmUrl now s payload).1 =
      { claimed with
        heartbeats := claimed.heartbeats.insert pubkey (heardAt now payload)
        hubs := claimed.hubs.map fun _ row => clearAttempts pubkey row } := by
  have own : payload.hubPubkey.filter (· ≠ "") = some pubkey := by
    rw [stated, Option.filter_some, if_pos (decide_eq_true nonEmpty)]
  unfold receiveHeartbeat
  rw [own]
  dsimp only
  rw [claim, if_pos known]

-- The first heartbeat to name a row of no key takes it.
theorem first_contact (farmUrl : String) (now : Int) (payload : HeartbeatPayload)
    (found : s.hubs[hubId]? = some row) (free : row.hubPubkey = none)
    (live : row.deletedAt = none) (unheld : holdsKey s pubkey = false) (named : payload.hubId = some hubId)
    (stated : payload.hubPubkey = some pubkey) (nonEmpty : pubkey ≠ "") :
    (receiveHeartbeat farmUrl now s payload).1.heartbeats[pubkey]? = some (heardAt now payload) ∧
      ∃ (changed : FleetRow), (receiveHeartbeat farmUrl now s payload).1.hubs[hubId]? = some changed ∧
        changed.hubPubkey = some pubkey ∧ changed.deletedAt = none := by
  have claimed : (claimHub s hubId pubkey).hubs[hubId]? = some { row with hubPubkey := some pubkey } := by
    have takes : s.hubs[hubId]?.any (fun row => claimable s row pubkey) = true := by
      rw [found, Option.any_some, claimable, unheld, decide_eq_true ⟨free, live⟩]
      rfl
    rw [claimHub, if_pos takes, updateHub_row, if_pos rfl, found, Option.map_some]
  have known : knownHub (claimHub s hubId pubkey) pubkey = true :=
    knownHub_iff.mpr ⟨hubId, _, claimed, decide_eq_true ⟨rfl, live⟩⟩
  rw [receiveHeartbeat_known stated nonEmpty (by rw [named]; rfl) known]
  refine ⟨Std.ExtTreeMap.getElem?_insert_self, ?_⟩
  rw [Std.ExtTreeMap.getElem?_map, claimed]
  exact ⟨_, rfl, clearAttempts_key pubkey { row with hubPubkey := some pubkey },
    (clearAttempts_deleted pubkey { row with hubPubkey := some pubkey }).trans live⟩

-- A heartbeat is taken from whoever states the key.
theorem known_heard (farmUrl : String) (now : Int) (payload : HeartbeatPayload)
    (found : s.hubs[hubId]? = some row)
    (own : row.hubPubkey = some pubkey) (live : row.deletedAt = none) (unnamed : payload.hubId = none)
    (stated : payload.hubPubkey = some pubkey) (nonEmpty : pubkey ≠ "") :
    (receiveHeartbeat farmUrl now s payload).1.heartbeats[pubkey]? = some (heardAt now payload) := by
  have known : knownHub s pubkey = true := knownHub_iff.mpr ⟨hubId, row, found, decide_eq_true ⟨own, live⟩⟩
  rw [receiveHeartbeat_known stated nonEmpty (by rw [unnamed]; rfl) known]
  exact Std.ExtTreeMap.getElem?_insert_self

theorem launchAt_connected {lib : LoginLib} {range : PortRange} {world : Creating} {servers : Table ServerRow}
    {a : Accepted} {dbUrl server : String} (connected : world.link = .connected) (left : PortsLeft range s) :
    (launchAt lib range world servers s a dbUrl server).after =
      updateHub s a.hubId fun row => { row with serverId := some server } := by
  obtain ⟨port, voicePort⟩ := portsLeft_iff.mp left
  obtain ⟨port, http⟩ := Option.isSome_iff_exists.mp port
  obtain ⟨voicePort, voice⟩ := Option.isSome_iff_exists.mp voicePort
  unfold launchAt
  rw [if_neg (by rw [connected]; nofun), http, voice]
  dsimp only
  rw [if_pos connected]
  rfl

end

def firstBeat (id key : String) : HeartbeatPayload :=
  { hubPubkey := some key, hubId := some id, uptimeSeconds := some 1 }

section

variable {lib : LoginLib} {range : PortRange} {farm : FarmState} {id : String} {row : FleetRow}

-- Anybody takes the row before its process does.
theorem row_stolen (lib : LoginLib) (range : PortRange) (found : farm.fleet.hubs[id]? = some row)
    (free : row.hubPubkey = none) (live : row.deletedAt = none) (unheld : holdsKey farm.fleet "k2" = false) :
    ¬ OwnVoice lib range (fun _ => "k1") farm (.heartbeat none 400 (firstBeat id "k2")) := by
  intro own
  obtain ⟨-, changed, stored, bound, -⟩ := first_contact lib.farmUrl 400 (firstBeat id "k2") found free live unheld
    rfl rfl (by decide)
  obtain ⟨before, there, held⟩ | genuine := own.bound id changed "k2" stored bound
  · obtain rfl := Option.some.inj (there.symm.trans found)
    rw [free] at held
    cases held
  · exact absurd genuine (by decide : ("k2" : String) ≠ "k1")

-- And anybody keeps it alive after.
theorem row_kept_alive (lib : LoginLib) (range : PortRange) (found : farm.fleet.hubs[id]? = some row)
    (free : row.hubPubkey = none) (live : row.deletedAt = none) (unheld : holdsKey farm.fleet "k1" = false) :
    ¬ OwnVoice lib range (fun _ => "k1") ((HubStep.heartbeat (some id) 400 (firstBeat id "k1")).next lib range farm)
      (.heartbeat none 500 { hubPubkey := some "k1" }) := by
  intro own
  obtain ⟨first, changed, stored, bound, alive⟩ := first_contact lib.farmUrl 400 (firstBeat id "k1") found free live
    unheld rfl rfl (by decide)
  have second := known_heard lib.farmUrl 500 { hubPubkey := some "k1" } stored bound alive rfl rfl (by decide)
  obtain ⟨last, there, same⟩ := heartbeat_row lib.farmUrl 500 { hubPubkey := some "k1" } stored
  have differs : (some (heardAt 500 { hubPubkey := some "k1" }) : Option Heartbeat) ≠
      some (heardAt 400 (firstBeat id "k1")) := by
    intro equal
    cases equal
  rw [← first, ← second] at differs
  cases own.heard id last "k1" there (same.key "k1" bound) differs

end

-- A creation that an agent takes leaves a row that lives and has no key.
theorem createHub_placed {lib : LoginLib} {range : PortRange} {world : Creating} {s : FarmState}
    {bearer : Option String} {req : CreateHubRequest} {a : Accepted} {server dbUrl : String}
    (accepted : acceptHub lib world s bearer req = .ok a) (chosen : a.chosen = some server)
    (provisioned : world.provision = .ok dbUrl) (connected : world.link = .connected) (left : PortsLeft range s.fleet) :
    ∃ (row : FleetRow), (createHub lib range world s bearer req).after.hubs[a.hubId]? = some row ∧
      row.hubPubkey = none ∧ row.deletedAt = none := by
  have fresh := (acceptHub_ok accepted).1
  have ready := readied accepted dbUrl
  obtain ⟨row, found, live, -⟩ := ready.row
  have placed : (createHub lib range world s bearer req).after.hubs[a.hubId]? =
      some { row with serverId := some server } := by
    simp only [createHub, accepted, provisioned, chosen]
    rw [launchAt_connected connected ((ready.portsLeft fresh).mpr left), updateHub_row, if_pos rfl, found,
      Option.map_some]
  have absent : s.fleet.hubs[a.hubId]? = none := Std.ExtTreeMap.getElem?_eq_none fresh
  exact ⟨_, placed, (createHub_voiceless lib range world s bearer req).fresh _ _ absent placed, live⟩

theorem first_left : PortsLeft farmPorts agentFarm.fleet := by
  refine ⟨⟨4000, UInt16.le_refl _, ?_⟩, 5000, UInt16.le_refl _, ?_⟩ <;>
    · rw [occupiedPorts_eq, mem_held]
      simp [agentFarm]

theorem next_create (lib : LoginLib) (range : PortRange) (world : Creating) (s : FarmState) (bearer : Option String)
    (req : CreateHubRequest) :
    ((HubStep.create world bearer req).next lib range s).fleet = (createHub lib range world s bearer req).after := rfl

def firstCreation : HubStep := .create (creatingAt .connected) (some adminToken) firstHub

-- The hub that the farm's first creation leaves with an agent, not yet heard from.
theorem first_made :
    ∃ (row : FleetRow),
      (firstCreation.next openLogin farmPorts agentFarm).fleet.hubs[firstAccepted.hubId]? = some row ∧
        row.hubPubkey = none ∧ row.deletedAt = none := by
  rw [firstCreation, next_create]
  exact createHub_placed (first_accepted .connected) rfl rfl rfl first_left

theorem first_unheld (pubkey : String) :
    holdsKey (firstCreation.next openLogin farmPorts agentFarm).fleet pubkey = false := by
  have voiceless := createHub_voiceless openLogin farmPorts (creatingAt .connected) agentFarm (some adminToken) firstHub
  rw [firstCreation, next_create, holdsKey, List.any_eq_false]
  intro entry held
  have absent : agentFarm.fleet.hubs[entry.1]? = none := rfl
  rw [decide_eq_true_eq, voiceless.fresh entry.1 entry.2 absent (mem_toList_row.mp held)]
  nofun

-- The row goes to who names it first, and its process is not asked whether it is alive.
theorem serials_taken :
    ¬ Runs.Meets (HubStep.next openLogin farmPorts) (OwnVoice openLogin farmPorts fun _ => "k1") agentFarm
        [firstCreation, .heartbeat none 400 (firstBeat firstAccepted.hubId "k2")] ∧
      ¬ Runs.Meets (HubStep.next openLogin farmPorts) (OwnVoice openLogin farmPorts fun _ => "k1") agentFarm
        [firstCreation, .heartbeat (some firstAccepted.hubId) 400 (firstBeat firstAccepted.hubId "k1"),
          .heartbeat none 500 { hubPubkey := some "k1" }] := by
  obtain ⟨row, found, free, live⟩ := first_made
  constructor
  · rintro ⟨-, own, -⟩
    exact row_stolen openLogin farmPorts found free live (first_unheld "k2") own
  · rintro ⟨-, -, own, -⟩
    exact row_kept_alive openLogin farmPorts found free live (first_unheld "k1") own

end Wavvon.Farm
