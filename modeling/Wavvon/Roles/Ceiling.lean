import Wavvon.Roles.Handlers
import Wavvon.Shared.Checks

set_option autoImplicit false

namespace Wavvon

open Std (ExtTreeMap)
open Checks

section

variable {db : Db} {publicKey p : String}

theorem mem_rolePermissions {roleId : String} : p ∈ rolePermissions db roleId ↔ (roleId, p) ∈ db.rolePermissions := by
  simp only [rolePermissions, Finset.mem_image, Finset.mem_filter, Prod.exists]
  constructor
  · rintro ⟨id, permission, ⟨carried, rfl⟩, rfl⟩
    exact carried
  · intro carried
    exact ⟨roleId, p, ⟨carried, rfl⟩, rfl⟩

theorem mem_heldRoles {row : RoleRow} : row ∈ (userPermissions db publicKey).roles ↔
    ∃ role, db.roles[row.id]? = some role ∧ memberRole db publicKey row.id = true ∧
      row = { id := row.id, name := role.name, priority := role.priority, createdAt := role.createdAt } := by
  simp only [userPermissions, List.mem_map, List.mem_filter, Prod.exists, ExtTreeMap.mem_toList_iff_getElem?_eq_some]
  constructor
  · rintro ⟨id, role, ⟨found, holds⟩, rfl⟩
    exact ⟨role, found, holds, rfl⟩
  · rintro ⟨role, found, holds, same⟩
    exact ⟨row.id, role, ⟨found, holds⟩, same.symm⟩

theorem heldRole {roleId : String} {role : Role} (found : db.roles[roleId]? = some role)
    (holds : memberRole db publicKey roleId = true) :
    { id := roleId, name := role.name, priority := role.priority, createdAt := role.createdAt } ∈
      (userPermissions db publicKey).roles :=
  mem_heldRoles.mpr ⟨role, found, holds, rfl⟩

theorem effective_eq : (userPermissions db publicKey).effective =
    fetchPermissions db ((userPermissions db publicKey).roles.map (·.id)) := rfl

theorem mem_effective : p ∈ (userPermissions db publicKey).effective ↔
    ∃ roleId, roleId ∈ db.roles ∧ memberRole db publicKey roleId = true ∧ (roleId, p) ∈ db.rolePermissions := by
  have named : ∀ roleId, roleId ∈ (userPermissions db publicKey).roles.map (·.id) ↔
      roleId ∈ db.roles ∧ memberRole db publicKey roleId = true := by
    intro roleId
    rw [List.mem_map]
    constructor
    · rintro ⟨row, held, rfl⟩
      obtain ⟨role, found, holds, _⟩ := mem_heldRoles.mp held
      exact ⟨ExtTreeMap.mem_iff_isSome_getElem?.mpr (found ▸ rfl), holds⟩
    · rintro ⟨known, holds⟩
      obtain ⟨role, found⟩ := Option.isSome_iff_exists.mp (ExtTreeMap.mem_iff_isSome_getElem?.mp known)
      exact ⟨_, heldRole found holds, rfl⟩
  simp only [effective_eq, fetchPermissions, Finset.mem_image, Finset.mem_filter, Prod.exists, named]
  constructor
  · rintro ⟨roleId, permission, ⟨carried, known, holds⟩, rfl⟩
    exact ⟨roleId, known, holds, carried⟩
  · rintro ⟨roleId, known, holds, carried⟩
    exact ⟨roleId, p, ⟨carried, known, holds⟩, rfl⟩

theorem isOwner_iff : (userPermissions db publicKey).isOwner = true ↔
    BUILTIN_OWNER_ROLE_ID ∈ db.roles ∧ memberRole db publicKey BUILTIN_OWNER_ROLE_ID = true := by
  change (userPermissions db publicKey).roles.any (·.id == BUILTIN_OWNER_ROLE_ID) = true ↔ _
  simp only [List.any_eq_true, beq_iff_eq]
  constructor
  · rintro ⟨row, held, owner⟩
    obtain ⟨role, found, holds, _⟩ := mem_heldRoles.mp held
    rw [owner] at found holds
    exact ⟨ExtTreeMap.mem_iff_isSome_getElem?.mpr (found ▸ rfl), holds⟩
  · rintro ⟨known, holds⟩
    obtain ⟨role, found⟩ := Option.isSome_iff_exists.mp (ExtTreeMap.mem_iff_isSome_getElem?.mp known)
    exact ⟨_, heldRole found holds, rfl⟩

-- Rank is that of some role held.
theorem maxPriority_held (held : (userPermissions db publicKey).roles ≠ []) :
    ∃ roleId role, db.roles[roleId]? = some role ∧ memberRole db publicKey roleId = true ∧
      (userPermissions db publicKey).maxPriority = role.priority := by
  cases highest : ((userPermissions db publicKey).roles.map (·.priority)).max? with
  | none => exact absurd (List.map_eq_nil_iff.mp (List.max?_eq_none_iff.mp highest)) held
  | some top =>
    obtain ⟨row, member, rfl⟩ := List.mem_map.mp (List.max?_mem highest)
    obtain ⟨role, found, holds, same⟩ := mem_heldRoles.mp member
    refine ⟨row.id, role, found, holds, ?_⟩
    change ((userPermissions db publicKey).roles.map (·.priority)).max?.getD 0 = role.priority
    rw [highest, same]
    rfl

end

namespace UserPermissions

variable {perms : UserPermissions}

theorem requireCanGrant_ok {requested : List String} :
    perms.requireCanGrant requested = .ok () ↔ ∀ p ∈ requested, perms.has p = true := by
  unfold requireCanGrant firstNotHeld
  split
  next p missing =>
    refine iff_of_false (by simp) ?_
    intro all
    have lacks := List.find?_some missing
    rw [all p (List.mem_of_find?_eq_some missing)] at lacks
    cases lacks
  next none =>
    refine iff_of_true rfl ?_
    intro p member
    simpa using List.find?_eq_none.mp none p member

theorem requireCanGrantStored_ok {carried : Finset String} :
    perms.requireCanGrantStored carried = .ok () ↔ ∀ p ∈ carried, perms.has p = true := by
  unfold requireCanGrantStored
  dsimp only
  split
  next missing =>
    refine iff_of_false (by simp) ?_
    intro all
    obtain ⟨p, member⟩ := missing
    obtain ⟨stored, lacks⟩ := Finset.mem_filter.mp member
    rw [all p stored] at lacks
    cases lacks
  next full =>
    refine iff_of_true rfl ?_
    intro p stored
    by_contra lacks
    exact full ⟨p, Finset.mem_filter.mpr ⟨stored, by simpa using lacks⟩⟩

end UserPermissions

namespace Roles

variable {db : Db} {user roleId : String}

theorem requireNotBuiltin_ok : requireNotBuiltin roleId = .ok () ↔
    roleId ≠ BUILTIN_OWNER_ROLE_ID ∧ roleId ≠ BUILTIN_EVERYONE_ROLE_ID := by
  unfold requireNotBuiltin
  rw [← not_or]
  split
  next builtin => exact iff_of_false (by simp) (not_not.mpr builtin)
  next plain => exact iff_of_true rfl plain

theorem getRole_ok {role : Role} : getRole db roleId = .ok role ↔ db.roles[roleId]? = some role := by
  unfold getRole
  split
  next missing => simp [missing]
  next found stored => simp [stored]

theorem checkCreate_ok {req : CreateRoleRequest} (ok : checkCreate db user req = .ok ()) :
    (userPermissions db user).has ROLES_MANAGE = true ∧ req.priority < (userPermissions db user).maxPriority ∧
      ∀ p ∈ req.permissions, (userPermissions db user).has p = true := by
  obtain ⟨_, manages, ok⟩ := bind_ok ok
  obtain ⟨below, ok⟩ := refuse_ok ok
  obtain ⟨_, _, ok⟩ := bind_ok ok
  obtain ⟨_, grants, _⟩ := bind_ok ok
  exact ⟨UserPermissions.require_ok.mp manages, Int.not_le.mp below, UserPermissions.requireCanGrant_ok.mp grants⟩

theorem checkUpdate_ok {req : UpdateRoleRequest} {existing : Role}
    (ok : checkUpdate db user roleId req = .ok existing) :
    roleId ≠ BUILTIN_OWNER_ROLE_ID ∧ (userPermissions db user).has ROLES_MANAGE = true ∧
      (∀ permissions, req.permissions = some permissions → ∀ p ∈ permissions, (userPermissions db user).has p = true) ∧
      ∀ priority, req.priority = some priority → priority < (userPermissions db user).maxPriority := by
  obtain ⟨_, tunable, ok⟩ := bind_ok ok
  obtain ⟨_, manages, ok⟩ := bind_ok ok
  obtain ⟨role, _, ok⟩ := bind_ok ok
  obtain ⟨_, ok⟩ := refuse_ok ok
  obtain ⟨_, grantable, ok⟩ := bind_ok ok
  obtain ⟨_, _, ok⟩ := bind_ok ok
  obtain ⟨below, _⟩ := refuse_ok ok
  refine ⟨?_, UserPermissions.require_ok.mp manages, ?_, ?_⟩
  · unfold requireTunable at tunable
    split at tunable
    next everyone =>
      rw [everyone]
      decide
    next => exact (requireNotBuiltin_ok.mp tunable).1
  · intro permissions asked
    rw [asked] at grantable
    obtain ⟨_, _, grants⟩ := bind_ok grantable
    exact UserPermissions.requireCanGrant_ok.mp grants
  · intro priority asked
    rw [asked] at below
    simpa using below

theorem checkDelete_ok (ok : checkDelete db user roleId = .ok ()) : roleId ≠ BUILTIN_OWNER_ROLE_ID := by
  obtain ⟨_, plain, _⟩ := bind_ok ok
  exact (requireNotBuiltin_ok.mp plain).1

theorem checkAssign_ok (ok : checkAssign db user roleId = .ok ()) :
    (userPermissions db user).has ROLES_MANAGE = true ∧
      (∃ role, db.roles[roleId]? = some role ∧ role.priority < (userPermissions db user).maxPriority) ∧
      ∀ p, (roleId, p) ∈ db.rolePermissions → (userPermissions db user).has p = true := by
  obtain ⟨_, manages, ok⟩ := bind_ok ok
  obtain ⟨role, found, ok⟩ := bind_ok ok
  obtain ⟨below, grants⟩ := refuse_ok ok
  refine ⟨UserPermissions.require_ok.mp manages, ⟨role, getRole_ok.mp found, Int.not_le.mp below⟩, ?_⟩
  intro p carried
  exact UserPermissions.requireCanGrantStored_ok.mp grants p (mem_rolePermissions.mpr carried)

/-- What a change to one role may leave behind: its own columns, and permissions that were asked for. -/
structure Edits (roleId : String) (req : UpdateRoleRequest) (db after : Db) : Prop where
  userRoles : after.userRoles = db.userRoles
  settings : after.hubSettings = db.hubSettings
  others : ∀ id, id ≠ roleId → after.roles[id]? = db.roles[id]?
  priority : ∀ role, after.roles[roleId]? = some role →
    (∃ old, db.roles[roleId]? = some old ∧ role.priority = old.priority) ∨ req.priority = some role.priority
  permissions : ∀ row ∈ after.rolePermissions, row ∈ db.rolePermissions ∨
    ∃ permissions, req.permissions = some permissions ∧ row.2 ∈ permissions

section

variable {req : UpdateRoleRequest} {first second third : Db}

theorem Edits.refl (roleId : String) (req : UpdateRoleRequest) (db : Db) : Edits roleId req db db where
  userRoles := rfl
  settings := rfl
  others _ _ := rfl
  priority role found := .inl ⟨role, found, rfl⟩
  permissions _ := .inl

theorem Edits.trans (edits : Edits roleId req first second) (more : Edits roleId req second third) :
    Edits roleId req first third where
  userRoles := more.userRoles.trans edits.userRoles
  settings := more.settings.trans edits.settings
  others id other := (more.others id other).trans (edits.others id other)
  priority role found := by
    rcases more.priority role found with ⟨middle, between, same⟩ | asked
    · rw [same]
      exact edits.priority middle between
    · exact .inr asked
  permissions row member := by
    rcases more.permissions row member with before | asked
    · exact edits.permissions row before
    · exact .inr asked

theorem modifyRole_edits (req : UpdateRoleRequest) {change : Role → Role}
    (keeps : ∀ role, (change role).priority = role.priority ∨ req.priority = some (change role).priority) :
    Edits roleId req db (modifyRole db roleId change) where
  userRoles := rfl
  settings := rfl
  others id other := by
    simp only [modifyRole, ExtTreeMap.getElem?_modify]
    exact if_neg (by simpa using Ne.symm other)
  priority role found := by
    simp only [modifyRole, ExtTreeMap.getElem?_modify_self] at found
    obtain ⟨old, here, rfl⟩ := Option.map_eq_some_iff.mp found
    rcases keeps old with same | asked
    · exact .inl ⟨old, here, same⟩
    · exact .inr asked
  permissions _ := .inl

theorem insertPermissions_rows (db : Db) (roleId : String) (permissions : List String) :
    ∃ rows, (insertPermissions db roleId permissions).1 = { db with rolePermissions := rows } ∧
      ∀ row ∈ rows, row ∈ db.rolePermissions ∨ row.1 = roleId ∧ row.2 ∈ permissions := by
  induction permissions generalizing db with
  | nil => exact ⟨db.rolePermissions, rfl, fun _ => .inl⟩
  | cons p rest ih =>
    unfold insertPermissions
    split
    next => exact ⟨db.rolePermissions, rfl, fun _ => .inl⟩
    next =>
      obtain ⟨rows, same, known⟩ := ih { db with rolePermissions := insert (roleId, p) db.rolePermissions }
      refine ⟨rows, same, ?_⟩
      intro row member
      rcases known row member with before | ⟨here, asked⟩
      · rcases Finset.mem_insert.mp before with rfl | before
        · exact .inr ⟨rfl, List.mem_cons_self⟩
        · exact .inl before
      · exact .inr ⟨here, List.mem_cons_of_mem p asked⟩

theorem setPriority_edits (db : Db) (roleId : String) (req : UpdateRoleRequest) :
    Edits roleId req db (setPriority db roleId req.priority) := by
  cases asked : req.priority with
  | none => exact Edits.refl roleId req db
  | some priority => exact modifyRole_edits req fun _ => .inr asked

theorem setName_edits (db : Db) (roleId : String) (req : UpdateRoleRequest) :
    Edits roleId req db (setName db roleId req.name).1 := by
  unfold setName
  split
  next => exact Edits.refl roleId req db
  next =>
    split
    next => exact Edits.refl roleId req db
    next => exact modifyRole_edits req fun _ => .inl rfl

theorem setPermissions_edits (db : Db) (roleId : String) (req : UpdateRoleRequest) :
    Edits roleId req db (setPermissions db roleId req.permissions).1 := by
  cases asked : req.permissions with
  | none => exact Edits.refl roleId req db
  | some permissions =>
    obtain ⟨rows, same, known⟩ := insertPermissions_rows (clearPermissions db roleId) roleId permissions
    have stored : (setPermissions db roleId (some permissions)).1 = { db with rolePermissions := rows } := same
    rw [stored]
    refine ⟨rfl, rfl, fun _ _ => rfl, fun role found => .inl ⟨role, found, rfl⟩, ?_⟩
    intro row member
    rcases known row member with before | ⟨_, listed⟩
    · exact .inl (Finset.mem_filter.mp before).1
    · exact .inr ⟨permissions, asked, listed⟩

theorem setAppearance_edits (db : Db) (roleId : String) (req : UpdateRoleRequest) :
    Edits roleId req db (setAppearance db roleId req) :=
  modifyRole_edits req fun _ => .inl rfl

theorem applyUpdate_edits (db : Db) (roleId : String) (req : UpdateRoleRequest) :
    Edits roleId req db (applyUpdate db roleId req).1 := by
  have named := (setPriority_edits db roleId req).trans (setName_edits _ roleId req)
  unfold applyUpdate
  split
  next stored => exact stored ▸ named
  next after _ stored =>
    rw [stored] at named
    have granted := named.trans (setPermissions_edits after roleId req)
    split
    next kept => exact kept ▸ granted
    next last _ kept =>
      rw [kept] at granted
      exact granted.trans (setAppearance_edits last roleId req)

theorem setName_frame (db : Db) (roleId : String) (name : Option String) :
    ∃ roles, (setName db roleId name).1 = { db with roles := roles } := by
  unfold setName
  split
  next => exact ⟨db.roles, rfl⟩
  next => split <;> exact ⟨_, rfl⟩

theorem setPermissions_frame (db : Db) (roleId : String) (permissions : Option (List String)) :
    ∃ rows, (setPermissions db roleId permissions).1 = { db with rolePermissions := rows } := by
  unfold setPermissions
  split
  next => exact ⟨db.rolePermissions, rfl⟩
  next permissions =>
    obtain ⟨rows, same, _⟩ := insertPermissions_rows (clearPermissions db roleId) roleId permissions
    exact ⟨rows, same⟩

theorem applyUpdate_frame (db : Db) (roleId : String) (req : UpdateRoleRequest) :
    ∃ roles rows, (applyUpdate db roleId req).1 = { db with roles := roles, rolePermissions := rows } := by
  obtain ⟨prior, first⟩ : ∃ roles, setPriority db roleId req.priority = { db with roles := roles } := by
    unfold setPriority
    split <;> exact ⟨_, rfl⟩
  obtain ⟨named, second⟩ := setName_frame (setPriority db roleId req.priority) roleId req.name
  unfold applyUpdate
  split
  next stored =>
    rw [stored, first] at second
    exact ⟨named, db.rolePermissions, second⟩
  next after _ stored =>
    rw [stored, first] at second
    obtain ⟨rows, third⟩ := setPermissions_frame after roleId req.permissions
    split
    next kept =>
      rw [kept, show after = _ from second] at third
      exact ⟨named, rows, third⟩
    next last _ kept =>
      rw [kept, show after = _ from second] at third
      simp only [setAppearance, modifyRole, show last = _ from third]
      exact ⟨_, rows, rfl⟩

theorem updateRole_users (db : Db) (user roleId : String) (req : UpdateRoleRequest) :
    (updateRole db user roleId req).1.users = db.users := by
  obtain ⟨roles, rows, same⟩ := applyUpdate_frame db roleId req
  have kept : (applyUpdate db roleId req).1.users = db.users := by rw [same]
  unfold updateRole
  split
  next => rfl
  next =>
    split
    next stored =>
      rw [stored] at kept
      exact kept
    next stored =>
      rw [stored] at kept
      exact kept

theorem updateRole_cases (db : Db) (user roleId : String) (req : UpdateRoleRequest) :
    (updateRole db user roleId req).1 = db ∨
      (∃ existing, checkUpdate db user roleId req = .ok existing) ∧
        Edits roleId req db (updateRole db user roleId req).1 := by
  unfold updateRole
  split
  next => exact .inl rfl
  next existing checked =>
    refine .inr ⟨⟨existing, checked⟩, ?_⟩
    have edits := applyUpdate_edits db roleId req
    split
    next stored =>
      rw [stored] at edits
      exact edits
    next stored =>
      rw [stored] at edits
      exact edits

theorem createRole_cases (db : Db) (user : String) (req : CreateRoleRequest) (id : String) (now : Int) :
    (createRole db user req id now).1 = db ∨
      checkCreate db user req = .ok () ∧ id ∉ db.roles ∧
        ∃ rows, (createRole db user req id now).1 =
            { db with roles := db.roles.insert id (roleRow req now), rolePermissions := rows } ∧
          ∀ row ∈ rows, row ∈ db.rolePermissions ∨ row.2 ∈ req.permissions := by
  unfold createRole
  split
  next => exact .inl rfl
  next checked =>
    split
    next => exact .inl rfl
    next free =>
      refine .inr ⟨checked, fun taken => free (.inl taken), ?_⟩
      obtain ⟨rows, same, known⟩ :=
        insertPermissions_rows { db with roles := db.roles.insert id (roleRow req now) } id req.permissions
      refine ⟨rows, ?_, fun row carried => (known row carried).imp_right And.right⟩
      dsimp only
      split
      next stored => exact (congrArg Prod.fst stored).symm.trans same
      next stored => exact (congrArg Prod.fst stored).symm.trans same

end

end Roles

end Wavvon
