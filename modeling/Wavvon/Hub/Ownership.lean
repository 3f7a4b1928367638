import Wavvon.Invites.Delegates
import Wavvon.Moderation.Sanctions
import Wavvon.Recovery.DecidedOnce

set_option autoImplicit false

namespace Wavvon

open Std (ExtTreeMap)
open Invites (OwnerOnTop)
open Recovery (memberFlag setMember)

-- The row stays as a bare key: only the profile and the membership go.
def departed (user : User) : User :=
  { user with displayName := none, presenceStatus := none, approvalStatus := "left", isMember := false }

def leaveHub (s : AuthState) (publicKey : String) : AuthState × Except HttpError Unit :=
  if (publicKey, BUILTIN_OWNER_ROLE_ID) ∈ s.db.userRoles then
    (s, .error (409, "The owner cannot leave; transfer ownership first"))
  else
    let db := { s.db with
      users := s.db.users.modify publicKey departed
      userRoles := s.db.userRoles.filter (·.1 ≠ publicKey) }
    (Recovery.deleteSessions { s with db := db } publicKey, .ok ())

inductive MembershipCall where
  | createRole (req : Roles.CreateRoleRequest) (id : String) (now : Int)
  | updateRole (roleId : String) (req : Roles.UpdateRoleRequest)
  | deleteRole (roleId : String)
  | assignRole (publicKey roleId : String)
  | removeRole (publicKey roleId : String)
  | kickUser (target : String)
  | banUser (req : BanRequest) (sighting : Option String) (now : Int)
  | leaveHub
  | adminApprove (id : String) (now : Int)

namespace Ownership

def withDb (s : AuthState) (db : Db) : AuthState := { s with db := db }

def call (s : Recovery.State) (act : AuthUser × MembershipCall) : Recovery.State :=
  let user := act.1.publicKey
  match act.2 with
  | .createRole req id now => { s with auth := withDb s.auth (Roles.createRole s.auth.db user req id now).1 }
  | .updateRole roleId req => { s with auth := withDb s.auth (Roles.updateRole s.auth.db user roleId req).1 }
  | .deleteRole roleId => { s with auth := (Roles.deleteRole s.auth user roleId).1 }
  | .assignRole publicKey roleId =>
    { s with auth := withDb s.auth (Roles.assignRole s.auth.db user publicKey roleId).1 }
  | .removeRole publicKey roleId =>
    { s with auth := withDb s.auth (Roles.removeRole s.auth.db user publicKey roleId).1 }
  | .kickUser target => { s with auth := (Moderation.kickUser { auth := s.auth } user target).1.auth }
  | .banUser req sighting now => { s with auth := (banUser s.auth act.1 req sighting now).1 }
  | .leaveHub => { s with auth := (Wavvon.leaveHub s.auth user).1 }
  | .adminApprove id now => ((Recovery.adminApprove id user now).alone s).1

-- Somebody owns the hub: a member, not banned, of a role no other is as high as.
structure Owned (s : AuthState) (now : Int) : Prop where
  onTop : OwnerOnTop s.db
  owner : ∃ key, memberFlag s.db key = true ∧ (key, BUILTIN_OWNER_ROLE_ID) ∈ s.db.userRoles ∧
    s.isBanned key now = false

/-- What no call takes from the owner, whoever makes it. -/
structure Administered (owner : String) (since : Int) (s : AuthState) : Prop where
  onTop : OwnerOnTop s.db
  member : memberFlag s.db owner = true
  holds : (owner, BUILTIN_OWNER_ROLE_ID) ∈ s.db.userRoles
  unbanned : s.isBanned owner since = false

section

variable {db : Db} {key p : String}

theorem le_maxPriority {roleId : String} {role : Role} (found : db.roles[roleId]? = some role)
    (holds : memberRole db key roleId = true) : role.priority ≤ (userPermissions db key).maxPriority := by
  have listed : role.priority ∈ (userPermissions db key).roles.map (·.priority) :=
    List.mem_map.mpr ⟨_, heldRole found holds, rfl⟩
  change role.priority ≤ ((userPermissions db key).roles.map (·.priority)).max?.getD 0
  cases highest : ((userPermissions db key).roles.map (·.priority)).max? with
  | none => simp [List.max?_eq_none_iff.mp highest] at listed
  | some top => exact (List.max?_eq_some_iff.mp highest).2 _ listed

-- Whoever may do anything at all has the rank of a role, and none is above the owner's.
theorem rank_le (onTop : OwnerOnTop db) (has : (userPermissions db key).has p = true) {owner : Role}
    (here : db.roles[BUILTIN_OWNER_ROLE_ID]? = some owner) :
    (userPermissions db key).maxPriority ≤ owner.priority := by
  have held : (userPermissions db key).roles ≠ [] := by
    intro rootless
    have nothing : (userPermissions db key).isOwner = false := by
      change (userPermissions db key).roles.any (·.id == BUILTIN_OWNER_ROLE_ID) = false
      rw [rootless]
      rfl
    simp [UserPermissions.has, nothing, effective_eq, rootless, fetchPermissions] at has
  obtain ⟨roleId, role, found, _, rank⟩ := maxPriority_held held
  obtain ⟨top, owned, under⟩ := onTop
  obtain rfl : owner = top := Option.some.inj (here.symm.trans owned)
  rw [rank]
  by_cases same : roleId = BUILTIN_OWNER_ROLE_ID
  · subst same
    exact le_of_eq (congrArg _ (Option.some.inj (found.symm.trans here)))
  · exact le_of_lt (under roleId role found same)

end

section

variable {owner : String} {since : Int} {s : AuthState} {user target p : String}

theorem Administered.rank (administered : Administered owner since s) {top : Role}
    (here : s.db.roles[BUILTIN_OWNER_ROLE_ID]? = some top) :
    top.priority ≤ (userPermissions s.db owner).maxPriority :=
  le_maxPriority here (by simp [memberRole, administered.holds])

theorem Administered.unmoderated (administered : Administered owner since s)
    (may : requireCanModerate s.db user target p = .ok ()) : target ≠ owner := by
  rintro rfl
  unfold requireCanModerate at may
  dsimp only at may
  split at may
  next => cases may
  next permitted =>
    split at may
    next => cases may
    next outranks =>
      obtain ⟨top, here, _⟩ := administered.onTop
      have low := rank_le administered.onTop (by simpa using permitted) here
      have high := administered.rank here
      omega

theorem memberFlag_congr {db after : Db} {key : String} (same : after.users[key]? = db.users[key]?) :
    memberFlag after key = memberFlag db key := by
  rw [memberFlag, same, memberFlag]

theorem setMember_keeps {db : Db} {key : String} {flag : Bool} (held : memberFlag db owner = true)
    (stays : key = owner → flag = true) : memberFlag (setMember db key flag) owner = true := by
  by_cases same : key = owner
  · subst same
    obtain ⟨row, here, _⟩ := (Option.any_eq_true _ _).mp held
    simp [memberFlag, setMember, here, stays rfl]
  · rw [← held]
    refine memberFlag_congr ?_
    rw [setMember, ExtTreeMap.getElem?_modify, if_neg (by simpa using same)]

theorem Administered.withDb (administered : Administered owner since s) {db : Db} (onTop : OwnerOnTop db)
    (users : db.users = s.db.users) (holds : (owner, BUILTIN_OWNER_ROLE_ID) ∈ db.userRoles) :
    Administered owner since (withDb s db) :=
  ⟨onTop, (memberFlag_congr (congrArg (·[owner]?) users)).trans administered.member, holds, administered.unbanned⟩

theorem Administered.createRole (administered : Administered owner since s) (req : Roles.CreateRoleRequest)
    (id : String) (now : Int) :
    Administered owner since (Ownership.withDb s (Roles.createRole s.db user req id now).1) := by
  rcases Roles.createRole_cases s.db user req id now with same | ⟨checked, fresh, rows, same, _⟩
  · rw [same]
    exact administered
  · rw [same]
    refine administered.withDb ?_ rfl administered.holds
    obtain ⟨manages, below, _⟩ := Roles.checkCreate_ok checked
    obtain ⟨top, here, _⟩ := administered.onTop
    have under : ∀ owner ∈ s.db.roles[BUILTIN_OWNER_ROLE_ID]?, req.priority < owner.priority :=
      fun _ found => lt_of_lt_of_le below (rank_le administered.onTop manages found)
    exact administered.onTop.insert fresh under rfl

theorem Administered.updateRole (administered : Administered owner since s) (roleId : String)
    (req : Roles.UpdateRoleRequest) :
    Administered owner since (Ownership.withDb s (Roles.updateRole s.db user roleId req).1) := by
  rcases Roles.updateRole_cases s.db user roleId req with same | ⟨⟨existing, checked⟩, edits⟩
  · rw [same]
    exact administered
  · obtain ⟨other, manages, _, below⟩ := Roles.checkUpdate_ok checked
    refine administered.withDb ?_ (Roles.updateRole_users s.db user roleId req) (edits.userRoles ▸ administered.holds)
    exact administered.onTop.edits edits other fun priority asked top found =>
      lt_of_lt_of_le (below priority asked) (rank_le administered.onTop manages found)

theorem Administered.deleteRole (administered : Administered owner since s) (roleId : String) :
    Administered owner since (Roles.deleteRole s user roleId).1 := by
  unfold Roles.deleteRole
  split
  next => exact administered
  next checked =>
    have plain := Roles.checkDelete_ok checked
    refine ⟨administered.onTop.erase plain rfl, administered.member, ?_, administered.unbanned⟩
    exact Finset.mem_filter.mpr ⟨administered.holds, by simpa using Ne.symm plain⟩

theorem Administered.assignRole (administered : Administered owner since s) (publicKey roleId : String) :
    Administered owner since (Ownership.withDb s (Roles.assignRole s.db user publicKey roleId).1) := by
  unfold Roles.assignRole
  split
  next => exact administered
  next =>
    split
    next => exact administered.withDb administered.onTop rfl (Finset.mem_insert_of_mem administered.holds)
    next => exact administered

-- Nobody outranks the role of the owner, so nobody gets as far as the count of the owners.
theorem Administered.removeRole (administered : Administered owner since s) (publicKey roleId : String) :
    Administered owner since (Ownership.withDb s (Roles.removeRole s.db user publicKey roleId).1) := by
  unfold Roles.removeRole
  split
  next => exact administered
  next checked =>
    refine administered.withDb administered.onTop rfl (Finset.mem_erase.mpr ⟨?_, administered.holds⟩)
    rintro same
    obtain ⟨_, rfl⟩ := Prod.mk.inj same
    unfold Roles.checkRemove at checked
    obtain ⟨_, checked⟩ := Checks.refuse_ok checked
    obtain ⟨_, manages, checked⟩ := Checks.bind_ok checked
    obtain ⟨role, found, checked⟩ := Checks.bind_ok checked
    obtain ⟨outranks, _⟩ := Checks.refuse_ok checked
    have low := rank_le administered.onTop (UserPermissions.require_ok.mp manages) (Roles.getRole_ok.mp found)
    exact outranks low

theorem Administered.ended (administered : Administered owner since s) (other : target ≠ owner) {after : AuthState}
    (ended : after.db = endMembership s.db target) (unbanned : after.isBanned owner since = false) :
    Administered owner since after := by
  refine ⟨ended ▸ administered.onTop, ?_, ?_, unbanned⟩
  · refine (memberFlag_congr ?_).trans administered.member
    rw [ended, endMembership, ExtTreeMap.getElem?_modify, if_neg (by simpa using other)]
  · rw [ended, endMembership]
    exact Finset.mem_filter.mpr ⟨administered.holds, Ne.symm other⟩

theorem Administered.kickUser (administered : Administered owner since s) :
    Administered owner since (Moderation.kickUser { auth := s } user target).1.auth := by
  unfold Moderation.kickUser
  split
  next => exact administered
  next may => exact administered.ended (administered.unmoderated may) rfl administered.unbanned

theorem Administered.banUser (administered : Administered owner since s) (actor : AuthUser) (req : BanRequest)
    (sighting : Option String) (now : Int) :
    Administered owner since (banUser s actor req sighting now).1 := by
  unfold Wavvon.banUser
  dsimp only
  split
  next => exact administered
  next may =>
    have other := administered.unmoderated may
    split
    next => exact administered
    next =>
      split
      next => exact administered
      next =>
        refine administered.ended other rfl ?_
        have before := List.any_eq_false.mp administered.unbanned
        refine List.any_eq_false.mpr fun ban listed => ?_
        rcases List.mem_append.mp listed with kept | added
        · exact before ban (List.mem_filter.mp kept).1
        · obtain rfl := List.mem_singleton.mp added
          simp [other]

theorem Administered.leaveHub (administered : Administered owner since s) :
    Administered owner since (Wavvon.leaveHub s user).1 := by
  unfold Wavvon.leaveHub
  split
  next => exact administered
  next plain =>
    have other : user ≠ owner := fun same => plain (same ▸ administered.holds)
    refine ⟨administered.onTop, (memberFlag_congr ?_).trans administered.member,
      Finset.mem_filter.mpr ⟨administered.holds, Ne.symm other⟩, administered.unbanned⟩
    exact ExtTreeMap.getElem?_modify.trans (if_neg (by simpa using other))

end

section

variable {owner : String} {since : Int} {s : Recovery.State}

-- A recovery moves every role but this one, and the old key stays a member for as long as it owns the hub.
theorem Administered.transfer (administered : Administered owner since s.auth) (id oldPubkey newPubkey : String) :
    Administered owner since ((Recovery.Statement.transfer oldPubkey newPubkey).effect id s).auth := by
  have copied : (owner, BUILTIN_OWNER_ROLE_ID) ∈ s.auth.db.userRoles ∪
      (Recovery.nonOwnerRoles s.auth.db oldPubkey).image fun role => (newPubkey, role) :=
    Finset.mem_union_left _ administered.holds
  change Administered owner since { s.auth with db := Recovery.transferRoles s.auth.db oldPubkey newPubkey }
  unfold Recovery.transferRoles
  dsimp only
  split
  next =>
    refine ⟨administered.onTop, ?_, Finset.mem_filter.mpr ⟨copied, by simp⟩, administered.unbanned⟩
    refine setMember_keeps administered.member ?_
    rintro rfl
    exact Bool.or_eq_true_iff.mpr (.inl administered.member)
  next rootless =>
    refine ⟨administered.onTop, ?_, Finset.mem_filter.mpr ⟨copied, by simp⟩, administered.unbanned⟩
    refine setMember_keeps (setMember_keeps administered.member ?_) ?_
    · rintro rfl
      exact Bool.or_eq_true_iff.mpr (.inl administered.member)
    · rintro rfl
      exact absurd copied rootless

theorem Administered.statement (administered : Administered owner since s.auth) (id : String)
    (label : Recovery.Statement) : Administered owner since (label.effect id s).auth := by
  cases label with
  | read | fetch | decide _ _ _ | insertAttestation _ | flipReady => exact administered
  | deleteSessions publicKey =>
    exact ⟨administered.onTop, administered.member, administered.holds, administered.unbanned⟩
  | transfer oldPubkey newPubkey => exact administered.transfer id oldPubkey newPubkey
  | insertUser publicKey now =>
    exact ⟨administered.onTop, (Recovery.insertUser_memberFlag s.auth.db publicKey now owner).trans administered.member,
      administered.holds, administered.unbanned⟩

theorem Administered.adminApprove (administered : Administered owner since s.auth) (id admin : String) (now : Int) :
    Administered owner since ((Recovery.adminApprove id admin now).alone s).1.auth := by
  unfold Recovery.adminApprove
  rw [Interleaving.Handler.alone_andThen]
  split
  next => exact administered
  next =>
    rw [Interleaving.Handler.alone_bind]
    split
    next => exact administered
    next row _ =>
      split
      next => exact administered
      next =>
        exact (((administered.statement id (.insertUser row.newPubkey now)).statement id
          (.transfer row.oldPubkey row.newPubkey)).statement id (.deleteSessions row.oldPubkey)).statement id
          (.decide .approved now admin)

theorem Administered.call (administered : Administered owner since s.auth) (act : AuthUser × MembershipCall) :
    Administered owner since (Ownership.call s act).auth := by
  obtain ⟨user, act⟩ := act
  cases act with
  | createRole req id now => exact administered.createRole req id now
  | updateRole roleId req => exact administered.updateRole roleId req
  | deleteRole roleId => exact administered.deleteRole roleId
  | assignRole publicKey roleId => exact administered.assignRole publicKey roleId
  | removeRole publicKey roleId => exact administered.removeRole publicKey roleId
  | kickUser target => exact administered.kickUser
  | banUser req sighting now => exact administered.banUser user req sighting now
  | leaveHub => exact administered.leaveHub
  | adminApprove id now => exact administered.adminApprove id user.publicKey now

theorem Administered.owned (administered : Administered owner since s.auth) {now : Int} (later : since ≤ now) :
    Owned s.auth now := by
  refine ⟨administered.onTop, owner, administered.member, administered.holds, ?_⟩
  have before := List.any_eq_false.mp administered.unbanned
  refine List.any_eq_false.mpr fun ban listed => ?_
  have lifted := before ban listed
  simp only [Bool.decide_and, Bool.and_eq_true, decide_eq_true_eq, not_and] at lifted ⊢
  intro target
  cases ends : ban.2 with
  | none =>
    simp only [ends, Option.all_none, not_true] at lifted
    exact absurd target lifted
  | some expiresAt =>
    have ended := lifted target
    simp only [ends, Option.all_some, decide_eq_true_eq] at ended ⊢
    omega

end

/-- A hub whose owner is on top and a member keeps one, whoever calls what. -/
theorem owned_always (s : Recovery.State) (since : Int) (onTop : OwnerOnTop s.auth.db) (owner : String)
    (row : User) (known : s.auth.db.users[owner]? = some row) (member : row.isMember = true)
    (holds : (owner, BUILTIN_OWNER_ROLE_ID) ∈ s.auth.db.userRoles) (unbanned : s.auth.isBanned owner since = false)
    (calls : List (AuthUser × MembershipCall)) (now : Int) (later : since ≤ now) :
    Owned (Runs.run Ownership.call s calls).auth now := by
  have administered : Administered owner since s.auth := ⟨onTop, by simp [memberFlag, known, member], holds, unbanned⟩
  exact (Runs.run_invariant (fun s => Administered owner since s.auth) (fun _ act held => held.call act) s
    administered calls).owned later

-- A hub whose template came with a role of that rank.
def templateHub (priority : Int) : Recovery.State :=
  { auth := { db := {
      users := ((∅ : Table User).insert "ann" { isMember := true }).insert "bob" { isMember := true }
      roles := (((∅ : Table Role).insert BUILTIN_EVERYONE_ROLE_ID { name := "everyone" }).insert
        BUILTIN_OWNER_ROLE_ID { name := "Owner", priority := 999999 }).insert "admins"
          { name := "Admins", priority := priority }
      userRoles := {("ann", BUILTIN_OWNER_ROLE_ID), ("bob", "admins")}
      rolePermissions := {("admins", Moderation.MODERATION_KICK)} } } }

def bob : AuthUser := { publicKey := "bob", masterPubkey := none, scope := .member }

theorem owned_always_template :
    Owned (Runs.run Ownership.call (templateHub 50) [(bob, .kickUser "ann"), (bob, .leaveHub)]).auth 7 :=
  owned_always (templateHub 50) 5
    (@OwnerOnTop.ofList (templateHub 50).auth.db { name := "Owner", priority := 999999 } (by decide)
      (by decide))
    "ann" { isMember := true } (by decide) (by decide) (by decide) (by decide) _ 7
    (by decide)

-- A role above the owner's is all it takes to leave the hub with none.
theorem owned_outranked :
    ¬ ∀ (s : Recovery.State) (since : Int) (owner : String) (row : User), s.auth.db.users[owner]? = some row →
      row.isMember = true → row.approvalStatus = "approved" →
        (owner, BUILTIN_OWNER_ROLE_ID) ∈ s.auth.db.userRoles → s.auth.isBanned owner since = false →
          ∀ calls, ∃ key, (key, BUILTIN_OWNER_ROLE_ID) ∈ (Runs.run Ownership.call s calls).auth.db.userRoles := by
  intro always
  obtain ⟨key, holds⟩ := always (templateHub 1000000) 5 "ann" { isMember := true } (by decide)
    (by decide) (by decide) (by decide) (by decide) [(bob, .kickUser "ann")]
  have left : (Runs.run Ownership.call (templateHub 1000000) [(bob, .kickUser "ann")]).auth.db.userRoles =
      {("bob", "admins")} := by decide
  rw [left, Finset.mem_singleton] at holds
  have owns : BUILTIN_OWNER_ROLE_ID = "admins" := congrArg Prod.snd holds
  exact absurd owns (by decide)

end Ownership

end Wavvon
