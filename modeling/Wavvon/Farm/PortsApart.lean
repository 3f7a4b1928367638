import Wavvon.Farm.Jobs
import Wavvon.Shared.Runs

set_option autoImplicit false

namespace Wavvon.Farm

open Std (ExtTreeMap)

section

variable {w after : Plant} {id : Nat} {job changed : Job} {hubId : String} {site : Site} {e : String × Site}
  {row : FleetRow} {a : Assignment} {range : PortRange}

namespace Plant

theorem mem_assignedSites {assigned : List Assignment} :
    e ∈ assigned.flatMap (fun a => a.sites.map (a.hubId, ·)) ↔ ∃ a ∈ assigned, e.1 = a.hubId ∧ e.2 ∈ a.sites := by
  simp only [List.mem_flatMap, List.mem_map]
  refine exists_congr fun a => and_congr_right fun _ => ?_
  constructor
  · rintro ⟨site, holds, rfl⟩
    exact ⟨rfl, holds⟩
  · rintro ⟨same, holds⟩
    exact ⟨e.2, holds, Prod.ext same.symm rfl⟩

theorem mem_assigned : a ∈ w.assigned ↔
    (∃ command ∈ w.commands, command.toAssignment = a) ∨ a ∈ w.away ∨ a ∈ w.confirmations := by
  simp only [assigned, List.mem_append, List.mem_map, or_assoc]

theorem mem_given : e ∈ w.given ↔
    e ∈ w.onRecord ∨ e ∈ w.ownSites ∨ e ∈ w.jobSites ∨ ∃ a ∈ w.assigned, e.1 = a.hubId ∧ e.2 ∈ a.sites := by
  simp only [given, offRecord, List.mem_append, mem_assignedSites, or_assoc]

theorem given_job (found : w.jobs[id]? = some job) (same : e.1 = job.hubId) (holds : e.2 ∈ job.sites) :
    e ∈ w.given :=
  mem_given.mpr (.inr (.inr (.inl (Leases.mem_ofTable.mpr ⟨id, job, found, same.symm, holds⟩))))

theorem given_row (found : w.fleet.hubs[hubId]? = some row) (same : e.1 = hubId) (holds : e.2 ∈ row.sites) :
    e ∈ w.given :=
  mem_given.mpr (.inl (Leases.mem_ofTable.mpr ⟨hubId, row, found, same.symm, holds⟩))

theorem given_assigned (member : a ∈ w.assigned) (same : e.1 = a.hubId) (holds : e.2 ∈ a.sites) : e ∈ w.given :=
  mem_given.mpr (.inr (.inr (.inr ⟨a, member, same, holds⟩)))

end Plant

/-- What is given afterwards was given before, or is one of these sites of the hub. -/
def Gives (w after : Plant) (hubId : String) (sites : List Site) : Prop :=
  ∀ e ∈ after.given, e ∈ w.given ∨ e.1 = hubId ∧ e.2 ∈ sites

theorem gives_goOn (w : Plant) (id : Nat) (job : Job) : Gives w (w.goOn id job) job.hubId job.sites := by
  intro e member
  obtain row | own | inJob | away := Plant.mem_given.mp member
  · exact .inl (Plant.mem_given.mpr (.inl row))
  · exact .inl (Plant.mem_given.mpr (.inr (.inl own)))
  · exact (Leases.mem_ofTable_insert inJob).imp_left fun old => Plant.mem_given.mpr (.inr (.inr (.inl old)))
  · exact .inl (Plant.mem_given.mpr (.inr (.inr (.inr away))))

theorem given_leave (member : e ∈ (w.leave id).given) : e ∈ w.given := by
  obtain row | own | inJob | away := Plant.mem_given.mp member
  · exact Plant.mem_given.mpr (.inl row)
  · exact Plant.mem_given.mpr (.inr (.inl own))
  · exact Plant.mem_given.mpr (.inr (.inr (.inl (Leases.mem_ofTable_erase inJob))))
  · exact Plant.mem_given.mpr (.inr (.inr (.inr away)))

theorem given_update {f : FleetRow → FleetRow} (member : e ∈ (w.update hubId f).given) :
    e ∈ w.given ∨ ∃ row, w.fleet.hubs[hubId]? = some row ∧ e.1 = hubId ∧ e.2 ∈ (f row).sites := by
  obtain row | own | inJob | away := Plant.mem_given.mp member
  · exact (Leases.mem_ofTable_modify row).imp_left fun old => Plant.mem_given.mpr (.inl old)
  · exact .inl (Plant.mem_given.mpr (.inr (.inl own)))
  · exact .inl (Plant.mem_given.mpr (.inr (.inr (.inl inJob))))
  · exact .inl (Plant.mem_given.mpr (.inr (.inr (.inr away))))

-- A job that goes on with sites it had.
theorem given_goOn (found : w.jobs[id]? = some job) (own : changed.hubId = job.hubId)
    (kept : ∀ site ∈ changed.sites, site ∈ job.sites) (member : e ∈ (w.goOn id changed).given) : e ∈ w.given := by
  obtain old | ⟨same, holds⟩ := gives_goOn w id changed e member
  · exact old
  · exact Plant.given_job found (same.trans own) (kept e.2 holds)

theorem mem_row_sites : site ∈ row.sites ↔
    row.deletedAt = none ∧ site.node = row.serverId ∧ (site.kind.ofRow row).map UInt16.ofInt = some site.port := by
  unfold FleetRow.sites
  split
  next live =>
    rw [mem_sitesOf]
    cases site with
    | mk node kind port => cases kind <;> simp [live, PortKind.ofRow]
  next dead => simp [dead]

theorem mem_job_sites : site ∈ job.sites ↔ site.node = job.node ∧
    (match site.kind with | .http => job.port | .voice => job.voicePort) = some site.port :=
  mem_sitesOf

theorem picked_sites {kind : PortKind} {port : UInt16} (holds : site ∈ (job.picked kind port).sites) :
    site ∈ job.sites ∨ site = { node := job.node, kind := kind, port := port } := by
  rw [mem_job_sites] at holds ⊢
  obtain ⟨node, kind', port'⟩ := site
  cases kind <;> cases kind' <;> simp_all [Job.picked]

-- No row that is live has a port that an allocation finds.
theorem free_onRecord {kind : PortKind} {seen : List UInt16} {base port : UInt16} {node : Option String}
    (first : FirstFree (seen ++ storedPorts kind w.fleet) base port)
    (offRecord : Leases.Free w.offRecord hubId [{ node := node, kind := kind, port := port }]) :
    Leases.Free w.given hubId [{ node := node, kind := kind, port := port }] := by
  intro entry member shared
  obtain row | off := List.mem_append.mp member
  · exfalso
    obtain ⟨other, row, found, -, holds⟩ := Leases.mem_ofTable.mp row
    rw [List.mem_singleton.mp shared, mem_row_sites] at holds
    obtain ⟨live, -, stored⟩ := holds
    refine first.free (List.mem_append_right _ ?_)
    refine List.mem_filterMap.mpr ⟨(other, row), List.mem_filter.mpr ⟨?_, decide_eq_true live⟩, stored⟩
    exact ExtTreeMap.mem_toList_iff_getElem?_eq_some.mpr found
  · exact offRecord entry off shared

theorem ofInt_toNat (port : UInt16) : UInt16.ofInt (port.toNat : Int) = port := by
  have bound := port.toNat_lt
  refine UInt16.toNat_inj.mp ?_
  rw [UInt16.ofInt, UInt16.toNat_ofNat']
  omega

-- A port comes back unharmed from a confirmation.
theorem asI32_toUInt64 (port : UInt16) : asI32 port.toUInt64 = (port.toNat : Int) := by
  have bound := port.toNat_lt
  unfold asI32
  apply Int.bmod_eq_of_le
  · simp only [UInt16.toNat_toUInt64]
    omega
  · simp only [UInt16.toNat_toUInt64]
    omega

theorem write_sites (same : row.serverId = job.node) (holds : site ∈ (job.write row).sites) :
    site ∈ job.sites ∨ site ∈ row.sites := by
  rw [mem_row_sites] at holds
  rw [mem_job_sites, mem_row_sites]
  obtain ⟨node, kind, port⟩ := site
  unfold Job.write at holds
  split at holds <;> cases kind <;> simp_all [PortKind.ofRow, ofInt_toNat]

theorem spawned_sites (holds : site ∈ (spawnedRow a.server a.process.port.toUInt64
    (some a.process.voicePort.toUInt64) row).sites) : site ∈ a.sites := by
  rw [mem_row_sites] at holds
  rw [Assignment.sites, HubProcess.sites, mem_sitesOf]
  obtain ⟨node, kind, port⟩ := site
  cases kind <;> simp_all [spawnedRow, PortKind.ofRow, asI32_toUInt64, ofInt_toNat]

theorem process_sites {process : HubProcess} (ports : job.process = some process)
    (holds : site ∈ process.sites job.node) : site ∈ job.sites := by
  obtain ⟨port, http, rest⟩ := Option.bind_eq_some_iff.mp ports
  obtain ⟨voicePort, voice, rfl⟩ := Option.map_eq_some_iff.mp rest
  rw [HubProcess.sites, mem_sitesOf] at holds
  rw [mem_job_sites, http, voice]
  exact holds

theorem given_stop (dies : Bool)
    (member : e ∈ ({ w with fleet := (stopHub w.fleet hubId dies).1 } : Plant).given) : e ∈ w.given := by
  unfold stopHub at member
  split at member
  next =>
    obtain row | own | inJob | away := Plant.mem_given.mp member
    · exact Plant.mem_given.mpr (.inl row)
    · exact Plant.mem_given.mpr (.inr (.inl (Leases.mem_ofTable_erase own)))
    · exact Plant.mem_given.mpr (.inr (.inr (.inl inJob)))
    · exact Plant.mem_given.mpr (.inr (.inr (.inr away)))
  next => exact member

theorem given_spawn {process : HubProcess} (runs : Bool)
    (member : e ∈ ({ w with fleet := (spawnHub w.fleet hubId process runs).1 } : Plant).given) :
    e ∈ w.given ∨ e.1 = hubId ∧ e.2 ∈ process.sites none := by
  unfold spawnHub at member
  split at member
  next =>
    obtain row | own | inJob | away := Plant.mem_given.mp member
    · exact .inl (Plant.mem_given.mpr (.inl row))
    · exact (Leases.mem_ofTable_insert own).imp_left fun old => Plant.mem_given.mpr (.inr (.inl old))
    · exact .inl (Plant.mem_given.mpr (.inr (.inr (.inl inJob))))
    · exact .inl (Plant.mem_given.mpr (.inr (.inr (.inr away))))
  next => exact .inl member

-- Agents have been given no more than the commands to them had.
theorem given_agents {commands : List Command} {away confirmations : List Assignment}
    (told : ∀ command ∈ commands, command ∈ w.commands) (runs : ∀ a ∈ away, a ∈ w.assigned)
    (said : ∀ a ∈ confirmations, a ∈ w.assigned)
    (member : e ∈ ({ w with commands := commands, away := away, confirmations := confirmations } : Plant).given) :
    e ∈ w.given := by
  obtain row | own | inJob | ⟨a, listed, same⟩ := Plant.mem_given.mp member
  · exact Plant.mem_given.mpr (.inl row)
  · exact Plant.mem_given.mpr (.inr (.inl own))
  · exact Plant.mem_given.mpr (.inr (.inr (.inl inJob)))
  · refine Plant.mem_given.mpr (.inr (.inr (.inr ⟨a, ?_, same⟩)))
    obtain ⟨command, kept, rfl⟩ | here | back := Plant.mem_assigned.mp listed
    · exact Plant.mem_assigned.mpr (.inl ⟨command, told command kept, rfl⟩)
    · exact runs a here
    · exact said a back

theorem mem_started {b : Assignment} {away : List Assignment} (member : b ∈ a.started away) : b = a ∨ b ∈ away := by
  obtain kept | new := List.mem_append.mp member
  · exact .inr (List.mem_filter.mp kept).1
  · exact .inl (List.mem_singleton.mp new)

-- The next statement of a handler.
theorem next_exclusive (exclusive : Leases.Exclusive w.given) (found : w.jobs[id]? = some job)
    (unshared : job.UnsharedAt range w job.stage) (ok : Bool) (now : Int) :
    Leases.Exclusive (w.next range id job ok now).given := by
  have old (stage : Stage) : ∀ e ∈ (w.goOn id { job with stage := stage }).given, e ∈ w.given :=
    fun _ => given_goOn found rfl fun _ holds => holds
  have moved (stage : Stage) : Leases.Exclusive (w.goOn id { job with stage := stage }).given :=
    exclusive.of_subset (old stage)
  have left : Leases.Exclusive (w.leave id).given := exclusive.of_subset fun _ => given_leave
  unfold Plant.next
  cases stage : job.stage with
  | provision =>
    dsimp only
    split
    next => exact moved _
    next =>
      split
      next => exact moved _
      next => exact left
  | sender =>
    dsimp only
    split
    next => exact moved _
    next => exact left
  | look kind => exact moved _
  | pick kind seen =>
    rw [stage] at unshared
    obtain ⟨port, first, offRecord⟩ := unshared
    simp only [firstGap_iff.mpr first]
    have own : (job.picked kind port).hubId = job.hubId := by cases kind <;> rfl
    refine exclusive.give (free_onRecord first offRecord) fun e member => ?_
    obtain before | ⟨same, holds⟩ := gives_goOn w id (job.picked kind port) e member
    · exact .inl before
    · rw [own] at same
      obtain earlier | new := picked_sites holds
      · exact .inl (Plant.given_job found same earlier)
      · exact .inr ⟨same, List.mem_singleton.mpr new⟩
  | record =>
    rw [stage] at unshared
    -- The row takes what the handler has, where both are for the same node.
    by_cases elsewhere : ∃ row, w.fleet.hubs[job.hubId]? = some row ∧ row.serverId ≠ job.node
    next =>
      obtain ⟨row, stored, apart⟩ := elsewhere
      refine exclusive.give (unshared row stored apart) fun e member => ?_
      obtain before | ⟨row', stored', same, holds⟩ := given_update member
      · exact .inl (old _ e before)
      · obtain rfl := Option.some.inj (stored.symm.trans stored')
        exact .inr ⟨same, holds⟩
    next =>
      refine exclusive.of_subset fun e member => ?_
      obtain before | ⟨row, stored, same, holds⟩ := given_update member
      · exact old _ e before
      · have alike : row.serverId = job.node :=
          Decidable.not_not.mp fun apart => elsewhere ⟨row, stored, apart⟩
        obtain inJob | inRow := write_sites alike holds
        · exact Plant.given_job found same inJob
        · exact Plant.given_row stored same inRow
  | place =>
    rw [stage] at unshared
    cases stored : w.fleet.hubs[job.hubId]? with
    | none =>
      refine exclusive.of_subset fun e member => ?_
      obtain before | ⟨row, stored', -⟩ := given_update member
      · exact old _ e before
      · cases stored.symm.trans stored'
    | some row =>
      refine exclusive.give (unshared row stored) fun e member => ?_
      obtain before | ⟨row', stored', same, holds⟩ := given_update member
      · exact .inl (old _ e before)
      · obtain rfl := Option.some.inj (stored.symm.trans stored')
        exact .inr ⟨same, holds⟩
  | send =>
    dsimp only
    split
    next server process placed ports =>
      split
      next =>
        refine exclusive.of_subset fun e member => ?_
        obtain row | own | inJob | ⟨a, listed, same, holds⟩ := Plant.mem_given.mp member
        · exact Plant.mem_given.mpr (.inl row)
        · exact Plant.mem_given.mpr (.inr (.inl own))
        · exact Plant.mem_given.mpr (.inr (.inr (.inl (Leases.mem_ofTable_erase inJob))))
        · obtain ⟨command, told, rfl⟩ | away | said := Plant.mem_assigned.mp listed
          · obtain before | new := List.mem_append.mp told
            · exact Plant.given_assigned (Plant.mem_assigned.mpr (.inl ⟨command, before, rfl⟩)) same holds
            · obtain rfl := List.mem_singleton.mp new
              exact Plant.given_job found same (process_sites ports (placed ▸ holds))
          · exact Plant.given_assigned (Plant.mem_assigned.mpr (.inr (.inl away))) same holds
          · exact Plant.given_assigned (Plant.mem_assigned.mpr (.inr (.inr said))) same holds
      next =>
        split
        next =>
          exact exclusive.of_subset fun _ => given_goOn found rfl fun _ holds => absurd holds List.not_mem_nil
        next => exact left
    next => exact left
  | stop =>
    dsimp only
    split
    next => exact exclusive.of_subset fun e member => old _ e (given_stop ok member)
    next =>
      split
      next => exact exclusive.of_subset fun e member => old _ e (given_stop ok member)
      next => exact exclusive.of_subset fun e member => given_leave (given_stop ok member)
  | spawn =>
    dsimp only
    split
    next process here ports =>
      refine exclusive.of_subset fun e member => ?_
      obtain before | ⟨same, holds⟩ := given_spawn (w := w.leave id) ok member
      · exact given_leave before
      · exact Plant.given_job found same (process_sites ports (here ▸ holds))
    next => exact left
  | tombstone =>
    refine exclusive.of_subset fun e member => ?_
    obtain before | ⟨row, -, -, holds⟩ := given_update member
    · exact given_leave before
    · cases (mem_row_sites.mp holds).1

theorem create_exclusive (exclusive : Leases.Exclusive w.given) (id : Nat) (accepted : Accepted) :
    Leases.Exclusive (w.create id accepted).given := by
  unfold Plant.create
  split
  next => exact exclusive
  next =>
    refine exclusive.of_subset fun e member => ?_
    obtain row | own | inJob | away := Plant.mem_given.mp member
    · obtain old | ⟨-, holds⟩ := Leases.mem_ofTable_insert row
      · exact Plant.mem_given.mpr (.inl old)
      · -- A row that is new has no ports.
        obtain ⟨-, -, port⟩ := mem_row_sites.mp holds
        cases kind : e.2.kind <;> rw [kind] at port <;> cases port
    · exact Plant.mem_given.mpr (.inr (.inl own))
    · obtain old | ⟨-, holds⟩ := Leases.mem_ofTable_insert inJob
      · exact Plant.mem_given.mpr (.inr (.inr (.inl old)))
      · cases holds
    · exact Plant.mem_given.mpr (.inr (.inr (.inr away)))

theorem liveRow_iff : w.liveRow hubId = some row ↔ w.fleet.hubs[hubId]? = some row ∧ row.deletedAt = none := by
  rw [Plant.liveRow, Option.filter_eq_some_iff, decide_eq_true_eq]

theorem restart_exclusive (exclusive : Leases.Exclusive w.given) (id : Nat) (hubId : String) :
    Leases.Exclusive (w.restart id hubId).given := by
  unfold Plant.restart
  split
  next => exact exclusive
  next =>
    split
    next => exact exclusive
    next row found =>
      obtain ⟨stored, live⟩ := liveRow_iff.mp found
      split
      next => exact exclusive
      next =>
        refine exclusive.of_subset fun e member => ?_
        obtain old | ⟨same, holds⟩ := gives_goOn w id _ e member
        · exact old
        · refine Plant.given_row stored same ?_
          rwa [FleetRow.sites, if_pos live]

theorem delete_exclusive (exclusive : Leases.Exclusive w.given) (id : Nat) (hubId : String) :
    Leases.Exclusive (w.delete id hubId).given := by
  unfold Plant.delete
  split
  next => exact exclusive
  next =>
    refine exclusive.of_subset fun e member => ?_
    obtain old | ⟨-, holds⟩ := gives_goOn w id _ e member
    · exact old
    · cases holds

theorem deliver_given (index : Nat) (runs : Bool) (member : e ∈ (w.deliver index runs).given) : e ∈ w.given := by
  unfold Plant.deliver at member
  split at member
  next => exact member
  next command found =>
    have mine : command.toAssignment ∈ w.assigned :=
      Plant.mem_assigned.mpr (.inl ⟨command, List.mem_of_getElem? found, rfl⟩)
    have told : ∀ other ∈ w.commands.eraseIdx index, other ∈ w.commands := fun _ => List.mem_of_mem_eraseIdx
    have before : ∀ a ∈ w.away, a ∈ w.assigned := fun a here => Plant.mem_assigned.mpr (.inr (.inl here))
    have said : ∀ a ∈ w.confirmations, a ∈ w.assigned := fun a back => Plant.mem_assigned.mpr (.inr (.inr back))
    have stops : ∀ a ∈ command.toAssignment.stopped w.away, a ∈ w.assigned :=
      fun a kept => before a (List.mem_filter.mp kept).1
    have starts : ∀ a ∈ command.toAssignment.started w.away, a ∈ w.assigned := by
      intro a running
      obtain rfl | here := mem_started running
      · exact mine
      · exact before a here
    dsimp only at member
    split at member
    next =>
      split at member
      next => exact given_agents told starts said member
      next => exact given_agents told stops said member
    next =>
      split at member
      next =>
        refine given_agents told starts (fun a listed => ?_) member
        obtain back | new := List.mem_append.mp listed
        · exact said a back
        · exact List.mem_singleton.mp new ▸ mine
      next => exact given_agents told before said member

theorem confirm_given (index : Nat) (member : e ∈ (w.confirm index).given) : e ∈ w.given := by
  unfold Plant.confirm at member
  split at member
  next => exact member
  next a found =>
    have mine : a ∈ w.assigned := Plant.mem_assigned.mpr (.inr (.inr (List.mem_of_getElem? found)))
    obtain old | ⟨row, stored, same, holds⟩ :=
      given_update (w := { w with confirmations := w.confirmations.eraseIdx index }) member
    · exact given_agents (fun _ told => told) (fun a here => Plant.mem_assigned.mpr (.inr (.inl here)))
        (fun a back => Plant.mem_assigned.mpr (.inr (.inr (List.mem_of_mem_eraseIdx back)))) old
    · exact Plant.given_assigned mine same (spawned_sites holds)

/-- No statement gives away what is given already, as long as allocations find what is not shared. -/
theorem step_exclusive {act : PlantStep} (exclusive : Leases.Exclusive w.given) (unshared : Unshared range w act) :
    Leases.Exclusive (w.step range act).given := by
  cases act with
  | create id accepted => exact create_exclusive exclusive id accepted
  | restart id hubId => exact restart_exclusive exclusive id hubId
  | delete id hubId => exact delete_exclusive exclusive id hubId
  | next id ok now =>
    rw [Plant.step]
    cases found : w.jobs[id]? with
    | none => exact exclusive
    | some job => exact next_exclusive exclusive found (unshared job found) ok now
  | deliver index runs => exact exclusive.of_subset fun _ => deliver_given index runs
  | lose index =>
    exact exclusive.of_subset fun _ => given_agents (fun _ => List.mem_of_mem_eraseIdx)
      (fun a here => Plant.mem_assigned.mpr (.inr (.inl here)))
      fun a back => Plant.mem_assigned.mpr (.inr (.inr back))
  | confirm index => exact exclusive.of_subset fun _ => confirm_given index
  | forget index =>
    exact exclusive.of_subset fun _ => given_agents (fun _ told => told)
      (fun a here => Plant.mem_assigned.mpr (.inr (.inl here)))
      fun a back => Plant.mem_assigned.mpr (.inr (.inr (List.mem_of_mem_eraseIdx back)))

-- An agent has one process for each hub.
def OneEach (away : List Assignment) : Prop := away.Pairwise fun a b => a.server = b.server → a.hubId ≠ b.hubId

theorem OneEach.stopped {away : List Assignment} (one : OneEach away) (a : Assignment) : OneEach (a.stopped away) :=
  one.sublist List.filter_sublist

theorem OneEach.started {away : List Assignment} (one : OneEach away) (a : Assignment) : OneEach (a.started away) := by
  refine List.pairwise_append.mpr ⟨one.stopped a, List.pairwise_singleton _ _, fun b kept c new server hub => ?_⟩
  obtain rfl := List.mem_singleton.mp new
  have other := (List.mem_filter.mp kept).2
  rw [Bool.not_eq_true', decide_eq_false_iff_not] at other
  exact other ⟨server, hub⟩

theorem next_away (w : Plant) (range : PortRange) (id : Nat) (job : Job) (ok : Bool) (now : Int) :
    (w.next range id job ok now).away = w.away := by
  unfold Plant.next
  cases job.stage <;> dsimp only <;> repeat' split
  all_goals rfl

theorem next_overflowed (unshared : job.UnsharedAt range w job.stage) (ok : Bool) (now : Int) :
    (w.next range id job ok now).overflowed = w.overflowed := by
  unfold Plant.next
  cases stage : job.stage with
  | pick kind seen =>
    rw [stage] at unshared
    obtain ⟨port, first, -⟩ := unshared
    simp only [firstGap_iff.mpr first]
    rfl
  | _ =>
    dsimp only
    repeat' split
    all_goals rfl

theorem step_oneEach (one : OneEach w.away) (act : PlantStep) : OneEach (w.step range act).away := by
  cases act with
  | create id accepted =>
    show OneEach (w.create id accepted).away
    unfold Plant.create
    split <;> exact one
  | restart id hubId =>
    show OneEach (w.restart id hubId).away
    unfold Plant.restart
    repeat' split
    all_goals exact one
  | delete id hubId =>
    show OneEach (w.delete id hubId).away
    unfold Plant.delete
    split <;> exact one
  | next id ok now =>
    rw [Plant.step]
    cases w.jobs[id]? with
    | none => exact one
    | some job => exact (next_away ..).symm ▸ one
  | deliver index runs =>
    show OneEach (w.deliver index runs).away
    unfold Plant.deliver
    split
    next => exact one
    next command _ =>
      dsimp only
      split
      next =>
        dsimp only
        split
        next => exact one.started command.toAssignment
        next => exact one.stopped command.toAssignment
      next =>
        split
        next => exact one.started command.toAssignment
        next => exact one
  | lose index => exact one
  | confirm index =>
    show OneEach (w.confirm index).away
    unfold Plant.confirm
    split <;> exact one
  | forget index => exact one

theorem step_overflowed {act : PlantStep} (unshared : Unshared range w act) :
    (w.step range act).overflowed = w.overflowed := by
  cases act with
  | create id accepted =>
    show (w.create id accepted).overflowed = _
    unfold Plant.create
    split <;> rfl
  | restart id hubId =>
    show (w.restart id hubId).overflowed = _
    unfold Plant.restart
    repeat' split
    all_goals rfl
  | delete id hubId =>
    show (w.delete id hubId).overflowed = _
    unfold Plant.delete
    split <;> rfl
  | next id ok now =>
    rw [Plant.step]
    cases found : w.jobs[id]? with
    | none => rfl
    | some job => exact next_overflowed (unshared job found) ok now
  | deliver index runs =>
    show (w.deliver index runs).overflowed = _
    unfold Plant.deliver
    split
    next => rfl
    next =>
      dsimp only
      split
      next => rfl
      next => split <;> rfl
  | lose index => rfl
  | confirm index =>
    show (w.confirm index).overflowed = _
    unfold Plant.confirm
    split <;> rfl
  | forget index => rfl

/-- What every run keeps whose allocations find what is not shared. -/
structure Accounted (w : Plant) : Prop where
  exclusive : Leases.Exclusive w.given
  oneEach : OneEach w.away
  calm : w.overflowed = false

theorem Accounted.step {act : PlantStep} (accounted : Accounted w) (unshared : Unshared range w act) :
    Accounted (w.step range act) where
  exclusive := step_exclusive accounted.exclusive unshared
  oneEach := step_oneEach accounted.oneEach act
  calm := (step_overflowed unshared).trans accounted.calm

theorem port_site (node : Option String) (process : HubProcess) (kind : PortKind) :
    { node := node, kind := kind, port := kind.ofProcess process : Site } ∈ process.sites node := by
  rw [HubProcess.sites, mem_sitesOf]
  cases kind <;> exact ⟨rfl, rfl⟩

-- Two hubs on a node never have a port in common.
theorem hubs_apart {node : Option String} {other : String} {process process' : HubProcess}
    (exclusive : Leases.Exclusive w.given) (mine : ∀ site ∈ process.sites node, (hubId, site) ∈ w.given)
    (theirs : ∀ site ∈ process'.sites node, (other, site) ∈ w.given) (different : hubId ≠ other) :
    process.port ≠ process'.port ∧ process.voicePort ≠ process'.voicePort := by
  have apart (kind : PortKind) : kind.ofProcess process ≠ kind.ofProcess process' := by
    intro same
    have here := mine _ (port_site node process kind)
    rw [same] at here
    exact different (exclusive _ _ _ here (theirs _ (port_site node process' kind)))
  exact ⟨apart .http, apart .voice⟩

theorem Accounted.apart (accounted : Accounted w) : PortsApart w := by
  have here {entry : String × HubProcess} (running : entry ∈ w.fleet.processes.toList) :
      ∀ site ∈ entry.2.sites none, (entry.1, site) ∈ w.given := by
    intro site holds
    refine Plant.mem_given.mpr (.inr (.inl (Leases.mem_ofTable.mpr ⟨entry.1, entry.2, ?_, rfl, holds⟩)))
    exact ExtTreeMap.mem_toList_iff_getElem?_eq_some.mp running
  have there {a : Assignment} (running : a ∈ w.away) : ∀ site ∈ a.process.sites (some a.server),
      (a.hubId, site) ∈ w.given := by
    intro site holds
    exact Plant.given_assigned (Plant.mem_assigned.mpr (.inr (.inl running))) rfl holds
  refine List.pairwise_append.mpr ⟨List.pairwise_map.mpr ?_, List.pairwise_map.mpr ?_, ?_⟩
  · refine ExtTreeMap.distinct_keys_toList.imp_of_mem fun {one other} mine theirs distinct _ => ?_
    exact hubs_apart accounted.exclusive (here mine) (here theirs)
      fun same => distinct (Std.LawfulEqCmp.compare_eq_iff_eq.mpr same)
  · refine accounted.oneEach.imp_of_mem fun {one other} mine theirs distinct node => ?_
    have server : one.server = other.server := Option.some.inj node
    exact hubs_apart accounted.exclusive (there mine) (server ▸ there theirs) (distinct server)
  · rintro one own other away node
    obtain ⟨entry, -, rfl⟩ := List.mem_map.mp own
    obtain ⟨a, -, rfl⟩ := List.mem_map.mp away
    cases node

theorem accounted_empty : Accounted {} where
  exclusive := by
    intro owner other site member
    obtain row | own | inJob | ⟨a, listed, -⟩ := Plant.mem_given.mp member
    · cases row
    · cases own
    · cases inJob
    · cases listed
  oneEach := List.Pairwise.nil
  calm := rfl

end

/--
Where every allocation of a run has a port left and finds one that is not shared, no two processes on a node get the
same port and no search overflows; a search overflows exactly where no port is left.
-/
theorem ports_apart (range : PortRange) (acts : List PlantStep)
    (met : Runs.Meets (Plant.step range) (Unshared range) {} acts) :
    (∀ front, front <+: acts → PortsApart (Runs.run (Plant.step range) {} front) ∧
      (Runs.run (Plant.step range) {} front).overflowed = false) ∧
    ∀ base occupied, (firstGap base occupied).isSome = true ↔ ∃ port, base ≤ port ∧ port ∉ occupied := by
  refine ⟨fun front before => ?_, fun base occupied => firstGap_isSome⟩
  obtain ⟨rest, rfl⟩ := before
  have accounted : Accounted (Runs.run (Plant.step range) {} front) :=
    Runs.Meets.invariant Accounted (fun _ _ accounted unshared => accounted.step unshared) accounted_empty
      (Runs.Meets.append.mp met).1
  exact ⟨accounted.apart, accounted.calm⟩

def newHub (hubId : String) (chosen : Option String) : Accepted where
  hubId := hubId
  row := { ownerPubkey := namedKey 5, name := "hub", createdAt := 300 }
  chosen := chosen

def goingWell (id statements : Nat) : List PlantStep := List.replicate statements (.next id true 300)

-- Two hubs of the farm itself, one created after the other; the first is deleted and a third takes its ports.
def createdHere : List PlantStep :=
  .create 1 (newHub "0a" none) :: goingWell 1 7 ++ .create 2 (newHub "0b" none) :: goingWell 2 7 ++
    .delete 3 "0a" :: goingWell 3 2 ++ .create 4 (newHub "0c" none) :: goingWell 4 7

theorem ports_apart_here : PortsApart (Runs.run (Plant.step farmPorts) {} createdHere) := by
  have met : Runs.Meets (Plant.step farmPorts) (Unshared farmPorts) {} createdHere := by decide +kernel
  exact ((ports_apart farmPorts createdHere met).1 createdHere List.prefix_rfl).1

-- Two hubs for one agent, one created after the other, before the agent has confirmed the first.
def createdAway : List PlantStep :=
  .create 1 (newHub "0a" (some "s1")) :: goingWell 1 8 ++ .create 2 (newHub "0b" (some "s1")) :: goingWell 2 8 ++
    [.deliver 0 true, .deliver 0 true]

-- They are told to listen on one port; and the search for a port overflows where the last one is taken.
theorem ports_shared :
    ¬ PortsApart (Runs.run (Plant.step farmPorts) {} createdAway) ∧ firstGap 65535 [65535] = none := by
  refine ⟨?_, by decide⟩
  have running : (Runs.run (Plant.step farmPorts) {} createdAway).running =
      [(some "s1", "0a", { port := 4000, voicePort := 5000 }),
        (some "s1", "0b", { port := 4000, voicePort := 5000 })] := by decide +kernel
  rw [PortsApart, running]
  decide

end Wavvon.Farm
