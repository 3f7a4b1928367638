import Wavvon.Invites.Handlers
import Wavvon.Roles.Ceiling
import Wavvon.Shared.Runs

set_option autoImplicit false

namespace Wavvon.Invites

open Std (ExtTreeMap)
open Checks
open Roles (CreateRoleRequest UpdateRoleRequest)

inductive Act where
  | createRole (user : String) (req : CreateRoleRequest) (id : String) (now : Int)
  | updateRole (user roleId : String) (req : UpdateRoleRequest)
  | deleteRole (user roleId : String)
  | assignRole (user publicKey roleId : String)
  | removeRole (user publicKey roleId : String)
  | createInvite (user : String) (req : CreateInviteRequest) (code : String) (now : Int)
  | register (publicKey code : String) (candidates : List String) (now : Int)
  | join (publicKey : String) (master : Option String) (code : String) (now : Int)
  deriving DecidableEq, Repr

def withDb (s : AuthState) (db : Db) : AuthState := { s with db := db }

-- Whoever redeems has a row in `users` by then.
def arrive (s : AuthState) (publicKey : String) (now : Int) : AuthState :=
  let row : User := { firstSeenAt := now, lastSeenAt := now }
  withDb s { s.db with users := s.db.users.insertIfNew publicKey row }

def Act.perform (s : AuthState) : Act → AuthState
  | .createRole user req id now => withDb s (Roles.createRole s.db user req id now).1
  | .updateRole user roleId req => withDb s (Roles.updateRole s.db user roleId req).1
  | .deleteRole user roleId => (Roles.deleteRole s user roleId).1
  | .assignRole user publicKey roleId => withDb s (Roles.assignRole s.db user publicKey roleId).1
  | .removeRole user publicKey roleId => withDb s (Roles.removeRole s.db user publicKey roleId).1
  | .createInvite user req code now => (Invites.createInvite s user req code now).1
  | .register publicKey code candidates now =>
    (registerWithInvite (arrive s publicKey now) publicKey code candidates now).1
  | .join publicKey master code now => (joinWithInvite (arrive s publicKey now) publicKey master code now).1

def Act.actor : Act → String
  | .createRole user _ _ _ | .updateRole user _ _ | .deleteRole user _ | .assignRole user _ _
  | .removeRole user _ _ | .createInvite user _ _ _ => user
  | .register publicKey _ _ _ | .join publicKey _ _ _ => publicKey

def Act.redeems : Act → Bool
  | .register _ _ _ _ | .join _ _ _ _ => true
  | _ => false

/-- A hub and the identities that act together on it. -/
structure Collusion where
  state : AuthState
  team : Finset String

-- Who redeems an invite for the team is of the team.
def Collusion.next (c : Collusion) (act : Act) : Collusion :=
  { state := act.perform c.state, team := insert act.actor c.team }

-- Only the team acts, and a redemption may also bring in somebody who has been granted nothing.
def Collusion.Acts (c : Collusion) (act : Act) : Prop :=
  act.actor ∈ c.team ∨ act.redeems = true ∧ ∀ row ∈ c.state.db.userRoles, row.1 ≠ act.actor

instance (c : Collusion) (act : Act) : Decidable (c.Acts act) := inferInstanceAs (Decidable (_ ∨ _))

-- No role but `builtin-owner` is as high as it.
def OwnerOnTop (db : Db) : Prop :=
  ∃ owner, db.roles[BUILTIN_OWNER_ROLE_ID]? = some owner ∧
    ∀ (id : String) (role : Role), db.roles[id]? = some role → id ≠ BUILTIN_OWNER_ROLE_ID →
      role.priority < owner.priority

section

variable {db after : Db} {roleId : String}

theorem OwnerOnTop.ofList {owner : Role} (here : db.roles[BUILTIN_OWNER_ROLE_ID]? = some owner)
    (below : ∀ row ∈ db.roles.toList, row.1 ≠ BUILTIN_OWNER_ROLE_ID → row.2.priority < owner.priority) :
    OwnerOnTop db :=
  ⟨owner, here, fun id role found => below (id, role) (ExtTreeMap.mem_toList_iff_getElem?_eq_some.mpr found)⟩

theorem OwnerOnTop.insert (onTop : OwnerOnTop db) (fresh : roleId ∉ db.roles) {created : Role}
    (below : ∀ owner ∈ db.roles[BUILTIN_OWNER_ROLE_ID]?, created.priority < owner.priority)
    (rows : after.roles = db.roles.insert roleId created) : OwnerOnTop after := by
  obtain ⟨owner, here, under⟩ := onTop
  have stored : ∀ id, id ≠ roleId → after.roles[id]? = db.roles[id]? := by
    intro id other
    rw [rows, ExtTreeMap.getElem?_insert, if_neg (by simpa using Ne.symm other)]
  have other : BUILTIN_OWNER_ROLE_ID ≠ roleId := by
    rintro rfl
    exact fresh (ExtTreeMap.mem_iff_isSome_getElem?.mpr (here ▸ rfl))
  refine ⟨owner, (stored _ other).trans here, ?_⟩
  intro id role found plain
  by_cases same : id = roleId
  next =>
    rw [rows, same, ExtTreeMap.getElem?_insert_self] at found
    cases found
    exact below owner here
  next => exact under id role ((stored id same).symm.trans found) plain

theorem OwnerOnTop.edits (onTop : OwnerOnTop db) {req : UpdateRoleRequest} (edits : Roles.Edits roleId req db after)
    (other : roleId ≠ BUILTIN_OWNER_ROLE_ID) (below : ∀ priority, req.priority = some priority →
      ∀ owner ∈ db.roles[BUILTIN_OWNER_ROLE_ID]?, priority < owner.priority) : OwnerOnTop after := by
  obtain ⟨owner, here, under⟩ := onTop
  refine ⟨owner, (edits.others _ (Ne.symm other)).trans here, ?_⟩
  intro id role found plain
  by_cases edited : id = roleId
  next =>
    subst edited
    rcases edits.priority role found with ⟨old, before, same⟩ | asked
    · rw [same]
      exact under id old before plain
    · exact below _ asked owner here
  next => exact under id role ((edits.others id edited).symm.trans found) plain

theorem OwnerOnTop.erase (onTop : OwnerOnTop db) (other : roleId ≠ BUILTIN_OWNER_ROLE_ID)
    (rows : after.roles = db.roles.erase roleId) : OwnerOnTop after := by
  obtain ⟨owner, here, under⟩ := onTop
  refine ⟨owner, ?_, ?_⟩
  · rw [rows, ExtTreeMap.getElem?_erase, if_neg (by simpa using other)]
    exact here
  · intro id role found plain
    rw [rows, ExtTreeMap.getElem?_erase] at found
    split at found
    next => cases found
    next => exact under id role found plain

end

-- An invite that would hand out ownership is withheld from everybody.
def OwnershipWithheld (db : Db) (invite : Invite) : Prop :=
  invite.grantRoleId = some BUILTIN_OWNER_ROLE_ID → invite.createdBy ≠ "system" ∧
    ∀ owner ∈ db.roles[BUILTIN_OWNER_ROLE_ID]?, 0 ≤ owner.priority

/-- What the team may come to hold: what it holds, and what every door in is set up to give. -/
def WithinReach (c : Collusion) (p : String) : Prop :=
  (∃ key ∈ c.team, (userPermissions c.state.db key).has p = true) ∨
    (BUILTIN_EVERYONE_ROLE_ID, p) ∈ c.state.db.rolePermissions ∨
    (∃ roleId, c.state.setting "default_invite_role_id" = some roleId ∧ (roleId, p) ∈ c.state.db.rolePermissions) ∨
    ∃ (code : String) (invite : Invite) (roleId : String), c.state.tables.invites[code]? = some invite ∧
      invite.grantRoleId = some roleId ∧
      (roleId, p) ∈ c.state.db.rolePermissions

def Carries (ceiling : String → Prop) (db : Db) (roleId : String) : Prop :=
  ∀ p, (roleId, p) ∈ db.rolePermissions → ceiling p

/-- Every role the team holds or can be handed stays under the ceiling. -/
structure Contained (ceiling : String → Prop) (c : Collusion) : Prop where
  onTop : OwnerOnTop c.state.db
  held : ∀ key ∈ c.team, ∀ roleId, (key, roleId) ∈ c.state.db.userRoles →
    roleId ≠ BUILTIN_OWNER_ROLE_ID ∧ Carries ceiling c.state.db roleId
  everyone : Carries ceiling c.state.db BUILTIN_EVERYONE_ROLE_ID
  default : ∀ roleId, roleId ≠ "" → c.state.setting "default_invite_role_id" = some roleId →
    Carries ceiling c.state.db roleId
  invited : ∀ (code : String) (invite : Invite), c.state.tables.invites[code]? = some invite →
    OwnershipWithheld c.state.db invite ∧
      ∀ roleId, invite.grantRoleId = some roleId → Carries ceiling c.state.db roleId

/-- What one call of the team may change. -/
structure Confined (ceiling : String → Prop) (s after : AuthState) : Prop where
  onTop : OwnerOnTop after.db
  owner : after.db.roles[BUILTIN_OWNER_ROLE_ID]? = s.db.roles[BUILTIN_OWNER_ROLE_ID]?
  permissions : ∀ row ∈ after.db.rolePermissions, row ∈ s.db.rolePermissions ∨ ceiling row.2
  granted : ∀ row ∈ after.db.userRoles, row ∈ s.db.userRoles ∨
    row.2 ≠ BUILTIN_OWNER_ROLE_ID ∧ Carries ceiling s.db row.2
  default : ∀ roleId, roleId ≠ "" → after.setting "default_invite_role_id" = some roleId →
    s.setting "default_invite_role_id" = some roleId
  invited : ∀ (code : String) (invite : Invite), after.tables.invites[code]? = some invite → ∀ roleId,
    invite.grantRoleId = some roleId →
    (∃ old : Invite, s.tables.invites[code]? = some old ∧ old.grantRoleId = some roleId ∧
      old.createdBy = invite.createdBy) ∨
      roleId ≠ BUILTIN_OWNER_ROLE_ID ∧ Carries ceiling s.db roleId

section

variable {ceiling : String → Prop} {c : Collusion} {s after : AuthState} {key p : String}

theorem Contained.confined (contained : Contained ceiling c) (confined : Confined ceiling c.state after) :
    Contained ceiling { state := after, team := c.team } := by
  have kept : ∀ roleId, Carries ceiling c.state.db roleId → Carries ceiling after.db roleId := by
    intro roleId under p carried
    rcases confined.permissions (roleId, p) carried with before | reached
    · exact under p before
    · exact reached
  refine ⟨confined.onTop, ?_, kept _ contained.everyone, ?_, ?_⟩
  · intro key member roleId holds
    rcases confined.granted (key, roleId) holds with before | ⟨plain, under⟩
    · obtain ⟨plain, under⟩ := contained.held key member roleId before
      exact ⟨plain, kept roleId under⟩
    · exact ⟨plain, kept roleId under⟩
  · intro roleId named configured
    exact kept roleId (contained.default roleId named (confined.default roleId named configured))
  · intro code invite stored
    refine ⟨?_, ?_⟩
    · intro ownership
      rcases confined.invited code invite stored _ ownership with ⟨old, before, same, creator⟩ | ⟨plain, _⟩
      · rw [confined.owner, ← creator]
        exact (contained.invited code old before).1 same
      · exact absurd rfl plain
    · intro roleId grants
      rcases confined.invited code invite stored roleId grants with ⟨old, before, same, _⟩ | ⟨_, under⟩
      · exact kept roleId ((contained.invited code old before).2 roleId same)
      · exact kept roleId under

-- Somebody who has been granted nothing brings nothing but the floor.
theorem Contained.joined (contained : Contained ceiling c)
    (entitled : key ∈ c.team ∨ ∀ row ∈ c.state.db.userRoles, row.1 ≠ key) :
    Contained ceiling { c with team := insert key c.team } := by
  refine ⟨contained.onTop, ?_, contained.everyone, contained.default, contained.invited⟩
  intro other member roleId holds
  rcases Finset.mem_insert.mp member with rfl | old
  · rcases entitled with old | nothing
    · exact contained.held _ old roleId holds
    · exact absurd rfl (nothing _ holds)
  · exact contained.held other old roleId holds

theorem Contained.memberRole (contained : Contained ceiling c) (member : key ∈ c.team) {roleId : String}
    (holds : memberRole c.state.db key roleId = true) :
    roleId ≠ BUILTIN_OWNER_ROLE_ID ∧ Carries ceiling c.state.db roleId := by
  unfold Wavvon.memberRole at holds
  rcases Bool.or_eq_true_iff.mp holds with explicit | floor
  · exact contained.held key member roleId (of_decide_eq_true explicit)
  · obtain ⟨everyone, _⟩ := Bool.and_eq_true_iff.mp floor
    rw [beq_iff_eq.mp everyone]
    exact ⟨by decide, contained.everyone⟩

theorem Contained.notOwner (contained : Contained ceiling c) (member : key ∈ c.team) :
    (userPermissions c.state.db key).isOwner = false := by
  by_contra owner
  obtain ⟨_, holds⟩ := isOwner_iff.mp (Bool.not_eq_false _ ▸ owner)
  exact (contained.memberRole member holds).1 rfl

theorem Contained.ceiling_of_has (contained : Contained ceiling c) (member : key ∈ c.team)
    (holds : (userPermissions c.state.db key).has p = true) : ceiling p := by
  unfold UserPermissions.has at holds
  rw [contained.notOwner member, Bool.false_or, decide_eq_true_eq] at holds
  obtain ⟨roleId, _, role, carried⟩ := mem_effective.mp holds
  exact (contained.memberRole member role).2 p carried

-- Whoever passes a permission check holds a role, and so ranks below the owner.
theorem Contained.below_owner (contained : Contained ceiling c) (member : key ∈ c.team)
    (holds : (userPermissions c.state.db key).has p = true) :
    ∃ owner, c.state.db.roles[BUILTIN_OWNER_ROLE_ID]? = some owner ∧
      (userPermissions c.state.db key).maxPriority < owner.priority := by
  unfold UserPermissions.has at holds
  rw [contained.notOwner member, Bool.false_or, decide_eq_true_eq] at holds
  obtain ⟨roleId, known, role, _⟩ := mem_effective.mp holds
  have some : (userPermissions c.state.db key).roles ≠ [] := by
    obtain ⟨row, found⟩ := Option.isSome_iff_exists.mp (ExtTreeMap.mem_iff_isSome_getElem?.mp known)
    exact List.ne_nil_of_mem (heldRole found role)
  obtain ⟨id, row, found, held, rank⟩ := maxPriority_held some
  obtain ⟨owner, here, above⟩ := contained.onTop
  refine ⟨owner, here, ?_⟩
  rw [rank]
  exact above id row found (contained.memberRole member held).1

end

section

variable {ceiling : String → Prop} {c : Collusion} {user roleId : String}

theorem Contained.refl (contained : Contained ceiling c) : Confined ceiling c.state c.state where
  onTop := contained.onTop
  owner := rfl
  permissions _ := .inl
  granted _ := .inl
  default _ _ configured := configured
  invited _ invite stored _ grants := .inl ⟨invite, stored, grants, rfl⟩

theorem createRole_confined (contained : Contained ceiling c) (member : user ∈ c.team) (req : CreateRoleRequest)
    (id : String) (now : Int) :
    Confined ceiling c.state (withDb c.state (Roles.createRole c.state.db user req id now).1) := by
  rcases Roles.createRole_cases c.state.db user req id now with same | ⟨checked, fresh, rows, same, known⟩
  · rw [same]
    exact contained.refl
  · obtain ⟨manages, below, grants⟩ := Roles.checkCreate_ok checked
    obtain ⟨owner, here, above⟩ := contained.below_owner member manages
    have other : id ≠ BUILTIN_OWNER_ROLE_ID := by
      rintro rfl
      exact fresh (ExtTreeMap.mem_iff_isSome_getElem?.mpr (here ▸ rfl))
    rw [same]
    refine ⟨contained.onTop.insert fresh ?_ rfl, ?_, ?_, fun _ => .inl, fun _ _ configured => configured,
      fun _ invite found _ same => .inl ⟨invite, found, same, rfl⟩⟩
    · intro top found
      obtain rfl := Option.some.inj (here.symm.trans found)
      exact Int.lt_trans below above
    · exact ExtTreeMap.getElem?_insert.trans (if_neg (by simpa using other))
    · intro row carried
      rcases known row carried with before | asked
      · exact .inl before
      · exact .inr (contained.ceiling_of_has member (grants _ asked))

theorem updateRole_confined (contained : Contained ceiling c) (member : user ∈ c.team) (req : UpdateRoleRequest) :
    Confined ceiling c.state (withDb c.state (Roles.updateRole c.state.db user roleId req).1) := by
  rcases Roles.updateRole_cases c.state.db user roleId req with same | ⟨⟨existing, checked⟩, edits⟩
  · rw [same]
    exact contained.refl
  · obtain ⟨other, manages, grants, below⟩ := Roles.checkUpdate_ok checked
    obtain ⟨owner, here, above⟩ := contained.below_owner member manages
    refine ⟨contained.onTop.edits edits other ?_, edits.others _ (Ne.symm other), ?_, ?_, ?_,
      fun _ invite found _ same => .inl ⟨invite, found, same, rfl⟩⟩
    · intro priority asked top found
      obtain rfl := Option.some.inj (here.symm.trans found)
      exact Int.lt_trans (below priority asked) above
    · intro row carried
      rcases edits.permissions row carried with before | ⟨permissions, asked, listed⟩
      · exact .inl before
      · exact .inr (contained.ceiling_of_has member (grants permissions asked _ listed))
    · intro row holds
      exact .inl (edits.userRoles ▸ holds)
    · intro id _ configured
      exact (congrArg (fun (table : Table String) => table["default_invite_role_id"]?) edits.settings).symm.trans
        configured

theorem dropRole_confined (contained : Contained ceiling c) (plain : roleId ≠ BUILTIN_OWNER_ROLE_ID) :
    Confined ceiling c.state (Roles.dropRole c.state roleId) := by
  have ownerSame : (c.state.db.roles.erase roleId)[BUILTIN_OWNER_ROLE_ID]? =
      c.state.db.roles[BUILTIN_OWNER_ROLE_ID]? := by
    rw [ExtTreeMap.getElem?_erase, if_neg (by simpa using plain)]
  refine ⟨contained.onTop.erase plain rfl, ownerSame,
    fun _ member => .inl (Finset.mem_filter.mp member).1, fun _ member => .inl (Finset.mem_filter.mp member).1, ?_, ?_⟩
  · intro id named configured
    unfold Roles.dropRole AuthState.setting Db.readSetting at configured
    dsimp only at configured
    split at configured
    next =>
      rw [ExtTreeMap.getElem?_insert_self] at configured
      exact absurd (Option.some.inj configured).symm named
    next => exact configured
  · intro code invite stored id grants
    simp only [Roles.dropRole, ExtTreeMap.getElem?_map] at stored
    obtain ⟨old, before, rfl⟩ := Option.map_eq_some_iff.mp stored
    unfold Roles.unlinkInvite at grants ⊢
    split at grants
    next => cases grants
    next other =>
      rw [if_neg other]
      exact .inl ⟨old, before, grants, rfl⟩

theorem deleteRole_confined (contained : Contained ceiling c) :
    Confined ceiling c.state (Roles.deleteRole c.state user roleId).1 := by
  unfold Roles.deleteRole
  split
  next => exact contained.refl
  next checked => exact dropRole_confined contained (Roles.checkDelete_ok checked)

-- One more grant, of a role under the ceiling.
theorem grant_confined (contained : Contained ceiling c) {publicKey : String}
    (plain : roleId ≠ BUILTIN_OWNER_ROLE_ID) (under : Carries ceiling c.state.db roleId) :
    Confined ceiling c.state (withDb c.state (assignRole c.state.db publicKey roleId)) := by
  refine { contained.refl with granted := ?_ }
  intro row holds
  rcases Finset.mem_insert.mp holds with rfl | before
  · exact .inr ⟨plain, under⟩
  · exact .inl before

theorem assignRole_confined (contained : Contained ceiling c) (member : user ∈ c.team) (publicKey : String) :
    Confined ceiling c.state (withDb c.state (Roles.assignRole c.state.db user publicKey roleId).1) := by
  unfold Roles.assignRole
  split
  next => exact contained.refl
  next checked =>
    split
    next =>
      obtain ⟨manages, ⟨role, found, outranked⟩, grants⟩ := Roles.checkAssign_ok checked
      obtain ⟨owner, here, above⟩ := contained.below_owner member manages
      refine grant_confined contained ?_ (fun p carried => contained.ceiling_of_has member (grants p carried))
      rintro rfl
      cases here.symm.trans found
      omega
    next => exact contained.refl

theorem removeRole_confined (contained : Contained ceiling c) (publicKey : String) :
    Confined ceiling c.state (withDb c.state (Roles.removeRole c.state.db user publicKey roleId).1) := by
  unfold Roles.removeRole
  split
  next => exact contained.refl
  next => exact { contained.refl with granted := fun _ holds => .inl (Finset.mem_of_mem_erase holds) }

theorem createInvite_confined (contained : Contained ceiling c) (member : user ∈ c.team)
    (req : CreateInviteRequest) (code : String) (now : Int) :
    Confined ceiling c.state (createInvite c.state user req code now).1 := by
  unfold createInvite
  split
  next => exact contained.refl
  next checked =>
    split
    next => exact contained.refl
    next =>
      obtain ⟨manages, _, grants⟩ := checkInvite_ok.mp checked
      obtain ⟨owner, here, above⟩ := contained.below_owner member manages
      refine { contained.refl with invited := ?_ }
      intro other invite stored roleId asked
      simp only [ExtTreeMap.getElem?_insert] at stored
      split at stored
      next =>
        cases stored
        obtain ⟨⟨role, found, outranked⟩, holds⟩ := requireGrant_ok.mp (grants roleId asked)
        refine .inr ⟨?_, fun p carried => contained.ceiling_of_has member (holds p carried)⟩
        rintro rfl
        cases here.symm.trans found
        omega
      next => exact .inl ⟨invite, stored, asked, rfl⟩

end

section

variable {ceiling : String → Prop} {c : Collusion} {s after : AuthState} {publicKey code : String} {invite : Invite}

/-- Membership and uses may change; no role, no grant and no setting does. -/
structure Quiet (s after : AuthState) : Prop where
  roles : after.db.roles = s.db.roles
  permissions : after.db.rolePermissions = s.db.rolePermissions
  userRoles : after.db.userRoles = s.db.userRoles
  settings : after.db.hubSettings = s.db.hubSettings
  invited : ∀ (code : String) (invite : Invite), after.tables.invites[code]? = some invite →
    ∃ old, s.tables.invites[code]? = some old ∧ old.grantRoleId = invite.grantRoleId ∧ old.createdBy = invite.createdBy

theorem Contained.quiet (contained : Contained ceiling c) (quiet : Quiet c.state after) :
    Contained ceiling { state := after, team := c.team } := by
  refine contained.confined ⟨?_, congrArg (·[BUILTIN_OWNER_ROLE_ID]?) quiet.roles, fun row carried =>
    .inl (quiet.permissions ▸ carried), fun row holds => .inl (quiet.userRoles ▸ holds), ?_, ?_⟩
  · unfold OwnerOnTop
    rw [quiet.roles]
    exact contained.onTop
  · intro roleId _ configured
    exact (congrArg (fun (table : Table String) =>
      table["default_invite_role_id"]?) quiet.settings).symm.trans configured
  · intro code invite stored roleId grants
    obtain ⟨old, before, grant, creator⟩ := quiet.invited code invite stored
    exact .inl ⟨old, before, grant.trans grants, creator⟩

theorem quiet_of_same (roles : after.db.roles = s.db.roles)
    (permissions : after.db.rolePermissions = s.db.rolePermissions)
    (userRoles : after.db.userRoles = s.db.userRoles) (settings : after.db.hubSettings = s.db.hubSettings)
    (invites : after.tables.invites = s.tables.invites) : Quiet s after :=
  ⟨roles, permissions, userRoles, settings, fun _ invite stored => ⟨invite, invites ▸ stored, rfl, rfl⟩⟩

theorem arrive_quiet (s : AuthState) (publicKey : String) (now : Int) : Quiet s (arrive s publicKey now) :=
  quiet_of_same rfl rfl rfl rfl rfl

theorem maxPriority_le {db : Db} {key : String} {top : Int} (nonneg : 0 ≤ top)
    (under : ∀ (id : String) (role : Role), db.roles[id]? = some role → role.priority ≤ top) :
    (userPermissions db key).maxPriority ≤ top := by
  by_cases none : (userPermissions db key).roles = []
  next =>
    have rank : (userPermissions db key).maxPriority = ((userPermissions db key).roles.map (·.priority)).max?.getD 0 := rfl
    rw [rank, none]
    exact nonneg
  next =>
    obtain ⟨id, role, found, _, rank⟩ := maxPriority_held none
    rw [rank]
    exact under id role found

-- What an invite hands out is under the ceiling, and never ownership.
theorem inviteRole_contained (contained : Contained ceiling c) (stored : c.state.tables.invites[code]? = some invite)
    {roleId : String} (granted : inviteRole c.state.db (redemptionOf invite) = some roleId) :
    roleId ≠ BUILTIN_OWNER_ROLE_ID ∧ Carries ceiling c.state.db roleId := by
  obtain ⟨withheld, carries⟩ := contained.invited code invite stored
  obtain ⟨owner, here, under⟩ := contained.onTop
  unfold inviteRole redemptionOf at granted
  dsimp only at granted
  split at granted
  next role grants =>
    have same : role = roleId := by
      split at granted
      next => exact Option.some.inj granted
      next =>
        obtain ⟨row, _, kept⟩ := Option.bind_eq_some_iff.mp granted
        split at kept
        next => cases kept
        next => exact Option.some.inj kept
    subst same
    refine ⟨?_, carries role grants⟩
    rintro rfl
    obtain ⟨person, nonneg⟩ := withheld grants
    rw [if_neg person, here, Option.bind_some, if_pos (maxPriority_le (nonneg owner here) ?_)] at granted
    · cases granted
    · intro id role found
      by_cases top : id = BUILTIN_OWNER_ROLE_ID
      next =>
        subst top
        cases here.symm.trans found
        exact Int.le_refl _
      next => exact Int.le_of_lt (under id role found top)
  next =>
    obtain ⟨configured, safe⟩ := Option.filter_eq_some_iff.mp granted
    obtain ⟨configured, named⟩ := Option.filter_eq_some_iff.mp configured
    refine ⟨?_, contained.default roleId (of_decide_eq_true named) configured⟩
    rintro rfl
    simp [roleIsATakeoverToken] at safe

theorem validateAndUseInvite_ok {candidates : List String} {now : Int} {redemption : InviteRedemption}
    (ok : validateAndUseInvite s code candidates now = .ok (after, redemption)) :
    ∃ invite, s.tables.invites[code]? = some invite ∧ redemption = redemptionOf invite ∧
      after = { s with tables := { s.tables with
        invites := s.tables.invites.insert code { invite with uses := invite.uses + 1 } } } := by
  unfold validateAndUseInvite at ok
  split at ok
  next => cases ok
  next invite stored =>
    obtain ⟨_, ok⟩ := refuse_ok ok
    obtain ⟨_, ok⟩ := refuse_ok ok
    obtain ⟨_, ok⟩ := refuse_ok ok
    cases ok
    exact ⟨invite, stored, rfl, rfl⟩

-- The invite that has just been redeemed, as it is stored after.
theorem redeemed_contained (publicKey : String) (contained : Contained ceiling c) (quiet : Quiet c.state s)
    (stored : s.tables.invites[code]? = some { invite with uses := invite.uses + 1 }) :
    Contained ceiling { state := s, team := c.team } ∧
      ∀ roleId, inviteRole s.db (redemptionOf invite) = some roleId →
        Contained ceiling { state := withDb s (assignRole s.db publicKey roleId), team := c.team } := by
  have settled := contained.quiet quiet
  refine ⟨settled, ?_⟩
  intro roleId granted
  obtain ⟨plain, under⟩ := inviteRole_contained settled stored granted
  exact settled.confined (grant_confined settled plain under)

theorem register_contained (contained : Contained ceiling c) (candidates : List String) (now : Int) :
    Contained ceiling
      { state := (registerWithInvite c.state publicKey code candidates now).1, team := c.team } := by
  unfold registerWithInvite
  split
  next => exact contained
  next spent redemption through =>
    obtain ⟨invite, found, rfl, rfl⟩ := validateAndUseInvite_ok through
    have quiet : Quiet c.state { c.state with
        db := admitMember c.state.db publicKey
        tables := { c.state.tables with
          invites := c.state.tables.invites.insert code { invite with uses := invite.uses + 1 } } } := by
      refine ⟨rfl, rfl, rfl, rfl, ?_⟩
      intro other row stored
      dsimp only at stored
      rw [ExtTreeMap.getElem?_insert] at stored
      split at stored
      next same =>
        cases stored
        exact ⟨invite, Std.compare_eq_iff_eq.mp same ▸ found, rfl, rfl⟩
      next => exact ⟨row, stored, rfl, rfl⟩
    obtain ⟨plain, granting⟩ := redeemed_contained publicKey contained quiet ExtTreeMap.getElem?_insert_self
    unfold admitNewcomer
    simp only [Option.bind_some]
    split
    next => exact plain
    next roleId granted => exact granting roleId granted

theorem joined_quiet (s : AuthState) (publicKey code : String) :
    Quiet s (autoApprove (countUse { s with db := admitMember s.db publicKey } code) publicKey) := by
  have counted : ∀ (other : String) (row : Invite),
      (s.tables.invites.modify code fun invite => { invite with uses := invite.uses + 1 })[other]? = some row →
        ∃ old, s.tables.invites[other]? = some old ∧ old.grantRoleId = row.grantRoleId ∧
          old.createdBy = row.createdBy := by
    intro other row stored
    rw [ExtTreeMap.getElem?_modify] at stored
    split at stored
    next same =>
      obtain ⟨old, before, rfl⟩ := Option.map_eq_some_iff.mp stored
      exact ⟨old, Std.compare_eq_iff_eq.mp same ▸ before, rfl, rfl⟩
    next => exact ⟨row, stored, rfl, rfl⟩
  unfold autoApprove
  split <;> exact ⟨rfl, rfl, rfl, rfl, counted⟩

theorem join_contained (contained : Contained ceiling c) (master : Option String) (now : Int) :
    Contained ceiling { state := (joinWithInvite c.state publicKey master code now).1, team := c.team } := by
  unfold joinWithInvite
  split
  next => exact contained
  next invite found =>
    split
    next => exact contained
    next =>
      have quiet := joined_quiet c.state publicKey code
      have stored : (autoApprove (countUse { c.state with db := admitMember c.state.db publicKey } code)
          publicKey).tables.invites[code]? = some { invite with uses := invite.uses + 1 } := by
        unfold autoApprove
        split <;> exact ExtTreeMap.getElem?_modify_self.trans (congrArg _ found)
      obtain ⟨plain, granting⟩ := redeemed_contained publicKey contained quiet stored
      dsimp only
      unfold applyInviteRoleGrant
      split
      next => exact plain
      next roleId granted =>
        unfold grantRole
        split
        next => exact plain
        next =>
          split
          next => exact plain
          next => exact granting roleId granted

theorem Contained.next (contained : Contained ceiling c) {act : Act} (acts : c.Acts act) :
    Contained ceiling (c.next act) := by
  have joined : Contained ceiling { c with team := insert act.actor c.team } :=
    contained.joined (acts.imp_right And.right)
  have member : act.actor ∈ insert act.actor c.team := Finset.mem_insert_self _ _
  cases act with
  | createRole user req id now => exact joined.confined (createRole_confined joined member req id now)
  | updateRole user roleId req => exact joined.confined (updateRole_confined joined member req)
  | deleteRole user roleId => exact joined.confined (deleteRole_confined joined)
  | assignRole user publicKey roleId => exact joined.confined (assignRole_confined joined member publicKey)
  | removeRole user publicKey roleId => exact joined.confined (removeRole_confined joined publicKey)
  | createInvite user req code now => exact joined.confined (createInvite_confined joined member req code now)
  | register publicKey code candidates now =>
    exact register_contained (joined.quiet (arrive_quiet c.state publicKey now)) candidates now
  | join publicKey master code now =>
    exact join_contained (joined.quiet (arrive_quiet c.state publicKey now)) master now

end

section

variable {c : Collusion}

-- The ceiling is what is within reach when the team sets out.
theorem contained_start (schema : ∀ row ∈ c.state.db.userRoles, row.2 ∈ c.state.db.roles)
    (onTop : OwnerOnTop c.state.db)
    (delegates : ∀ key ∈ c.team, (userPermissions c.state.db key).isOwner = false)
    (withheld : ∀ (code : String) (invite : Invite), c.state.tables.invites[code]? = some invite →
      OwnershipWithheld c.state.db invite) :
    Contained (WithinReach c) c where
  onTop := onTop
  held key member roleId holds := by
    have role : memberRole c.state.db key roleId = true := by simp [memberRole, holds]
    refine ⟨?_, ?_⟩
    · rintro rfl
      have owner := isOwner_iff.mpr ⟨schema _ holds, role⟩
      rw [delegates key member] at owner
      cases owner
    · intro p carried
      refine .inl ⟨key, member, ?_⟩
      have effective := mem_effective.mpr ⟨roleId, schema _ holds, role, carried⟩
      simp [UserPermissions.has, effective]
  everyone p carried := .inr (.inl carried)
  default roleId _ configured p carried := .inr (.inr (.inl ⟨roleId, configured, carried⟩))
  invited code invite stored :=
    ⟨withheld code invite stored, fun roleId grants p carried =>
      .inr (.inr (.inr ⟨code, invite, roleId, stored, grants, carried⟩))⟩

end

-- The built-in roles and one role a delegate holds.
def staffedHub : AuthState :=
  { db := {
      users := (∅ : Table User).insert "delegate" { isMember := true }
      roles := (((∅ : Table Role).insert BUILTIN_EVERYONE_ROLE_ID { name := "everyone" }).insert
        BUILTIN_OWNER_ROLE_ID { name := "Owner", priority := 999999 }).insert "staff" { name := "Staff", priority := 50 }
      userRoles := {("delegate", "staff")}
      rolePermissions := {("staff", ROLES_MANAGE), ("staff", INVITES_MANAGE)} } }

theorem staffedHub_onTop : OwnerOnTop staffedHub.db :=
  @OwnerOnTop.ofList staffedHub.db { name := "Owner", priority := 999999 } (by decide) (by decide)

def staffRun : Collusion :=
  Runs.run Collusion.next { state := staffedHub, team := {"delegate"} }
    [ .createRole "delegate" { name := "Greeter", permissions := [INVITES_MANAGE], priority := 10 } "greeter" 5,
      .createInvite "delegate" { grantRoleId := some "greeter" } "code" 6,
      .register "friend" "code" ["friend"] 7 ]

-- A hub before its first user, with the invite that makes the owner.
def bootHub : AuthState :=
  { db := {
      roles := ((∅ : Table Role).insert BUILTIN_EVERYONE_ROLE_ID { name := "everyone" }).insert
        BUILTIN_OWNER_ROLE_ID { name := "Owner", priority := 999999 } }
    tables := {
      invites := (∅ : Table Invite).insert "boot" {
        createdBy := "system", maxUses := some 1, uses := 0, expiresAt := none
        grantRoleId := some BUILTIN_OWNER_ROLE_ID, boundPubkey := none } } }

theorem bootHub_onTop : OwnerOnTop bootHub.db :=
  @OwnerOnTop.ofList bootHub.db { name := "Owner", priority := 999999 } (by decide) (by decide)

end Wavvon.Invites
