import Mathlib.Data.Finset.Max
import Mathlib.Data.String.Basic
import Wavvon.Auth.Verify

set_option autoImplicit false

namespace Wavvon

open Std (ExtTreeMap)

def INVITES_MANAGE : String := "invites.manage"

def ALL_PERMISSIONS : List String :=
  ["messages.read", "messages.send", "messages.manage", "messages.masquerade", "forum.posts.create",
   "forum.posts.manage", "channels.manage", "channels.appearance", "channels.permissions", "voice.join",
   "voice.screen_share", "voice.camera", "voice.soundboard.use", "voice.soundboard.manage",
   "voice.move_members", "stickers.packs.manage", "stickers.external", "stickers.moderate",
   "moderation.kick", "moderation.mute", "moderation.timeout", "moderation.ban.temporary",
   "moderation.ban.permanent", "moderation.reports.read", "moderation.reports.review",
   "moderation.settings", "banlist.read", "banlist.sources.manage", "banlist.overrides",
   "banlist.settings", "roles.manage", "members.read", "hub.settings", "hub.appearance",
   "hub.admission", "invites.manage", "events.create", "events.manage", "certs.issue", "certs.revoke",
   "certs.settings", "badges.manage", "alliances.manage", "directory.publish",
   "webhooks.incoming.manage", "webhooks.outgoing.manage", "apps.register", "audit.read",
   "surveys.manage", "surveys.responses.read"]

def validatePermissions (permissions : List String) : Except HttpError Unit :=
  match permissions.find? (· ∉ ALL_PERMISSIONS) with
  | some p => .error (400, "unknown permission: " ++ p)
  | none => .ok ()

namespace UserPermissions

def require (perms : UserPermissions) (permission : String) : Except HttpError Unit :=
  if perms.has permission then .ok () else .error (403, "Missing permission: " ++ permission)

theorem require_ok {perms : UserPermissions} {permission : String} :
    perms.require permission = .ok () ↔ perms.has permission = true := by
  unfold require
  split
  next held => exact iff_of_true rfl held
  next missing => exact iff_of_false (by simp) missing

def firstNotHeld (perms : UserPermissions) (requested : List String) : Option String :=
  requested.find? fun p => !perms.has p

def cannotGrant (permission : String) : HttpError :=
  (403, "Cannot grant permission '" ++ permission ++ "' you do not hold")

def requireCanGrant (perms : UserPermissions) (requested : List String) : Except HttpError Unit :=
  match perms.firstNotHeld requested with
  | some p => .error (cannotGrant p)
  | none => .ok ()

-- Stored rows come in no order of their own: the least name stands for the first.
def requireCanGrantStored (perms : UserPermissions) (carried : Finset String) : Except HttpError Unit :=
  let missing := carried.filter fun p => perms.has p = false
  if h : missing.Nonempty then .error (cannotGrant (missing.min' h)) else .ok ()

end UserPermissions

def rolePermissions (db : Db) (roleId : String) : Finset String :=
  (db.rolePermissions.filter (·.1 = roleId)).image Prod.snd

namespace Roles

structure RoleResponse where
  id : String
  name : String
  permissions : Finset String
  priority : Int
  displaySeparately : Bool
  createdAt : Int
  color : Option String
  icon : Option String
  categoryId : Option String
  deriving DecidableEq

structure CreateRoleRequest where
  name : String
  permissions : List String
  priority : Int
  displaySeparately : Bool := false
  color : Option String := none
  icon : Option String := none
  categoryId : Option String := none
  deriving DecidableEq, Repr

-- `none` leaves a column alone; `some none` of a nullable one clears it.
structure UpdateRoleRequest where
  name : Option String := none
  permissions : Option (List String) := none
  priority : Option Int := none
  displaySeparately : Option Bool := none
  color : Option (Option String) := none
  icon : Option (Option String) := none
  categoryId : Option (Option String) := none
  deriving DecidableEq, Repr

def isValidColor (color : String) : Bool :=
  match color.toList with
  | '#' :: digits => decide (digits.length = 6) && digits.all fun c => (hexDigit c).isSome
  | _ => false

def isControl (c : Char) : Bool := decide (c.toNat ≤ 0x1F ∨ 0x7F ≤ c.toNat ∧ c.toNat ≤ 0x9F)

def isValidIcon (icon : String) : Bool :=
  icon ≠ "" && decide (icon.utf8ByteSize ≤ 16) && !icon.toList.any fun c => isWhitespace c || isControl c

def validateAppearance (db : Db) (color icon categoryId : Option String) : Except HttpError Unit :=
  if color.any fun c => !isValidColor c then .error (400, "color must match ^#[0-9a-fA-F]\x7b6\x7d$")
  else if icon.any fun i => !isValidIcon i then
    .error (400, "icon must be a single emoji grapheme, max 16 bytes, no whitespace/control chars")
  else if categoryId.any (· ∉ db.roleCategories) then
    .error (400, "category_id does not reference an existing category")
  else .ok ()

def requireNotBuiltin (roleId : String) : Except HttpError Unit :=
  if roleId = BUILTIN_OWNER_ROLE_ID ∨ roleId = BUILTIN_EVERYONE_ROLE_ID then
    .error (403, "Cannot modify built-in roles")
  else .ok ()

def getRole (db : Db) (roleId : String) : Except HttpError Role :=
  match db.roles[roleId]? with
  | none => .error (404, "Role not found")
  | some role => .ok role

def response (db : Db) (id : String) (role : Role) : RoleResponse :=
  { id := id, name := role.name, permissions := rolePermissions db id, priority := role.priority
    displaySeparately := role.displaySeparately, createdAt := role.createdAt, color := role.color
    icon := role.icon, categoryId := role.categoryId }

def nameTaken (db : Db) (id name : String) : Bool :=
  db.roles.toList.any fun row => row.1 ≠ id ∧ row.2.name = name

-- One INSERT a permission, in no transaction: a repeated one leaves those before it.
def insertPermissions (db : Db) (roleId : String) : List String → Db × Except HttpError Unit
  | [] => (db, .ok ())
  | p :: rest =>
    if (roleId, p) ∈ db.rolePermissions then (db, .error (500, "DB error: " ++ duplicateKey "role_permissions_pkey"))
    else insertPermissions { db with rolePermissions := insert (roleId, p) db.rolePermissions } roleId rest

def checkCreate (db : Db) (user : String) (req : CreateRoleRequest) : Except HttpError Unit := do
  let perms := userPermissions db user
  perms.require ROLES_MANAGE
  if perms.maxPriority ≤ req.priority then .error (403, "Cannot create role with priority >= your own")
  validatePermissions req.permissions
  perms.requireCanGrant req.permissions
  validateAppearance db req.color req.icon req.categoryId

def roleRow (req : CreateRoleRequest) (now : Int) : Role :=
  { name := req.name, priority := req.priority, createdAt := now, displaySeparately := req.displaySeparately
    color := req.color, icon := req.icon, categoryId := req.categoryId }

-- The id is drawn; one that is taken and a name that is taken violate the same kind of constraint.
def createRole (db : Db) (user : String) (req : CreateRoleRequest) (id : String) (now : Int) :
    Db × Except HttpError RoleResponse :=
  match checkCreate db user req with
  | .error e => (db, .error e)
  | .ok _ =>
    if id ∈ db.roles ∨ nameTaken db id req.name then
      (db, .error (409, "Role '" ++ req.name ++ "' already exists"))
    else
      let created := { db with roles := db.roles.insert id (roleRow req now) }
      match insertPermissions created id req.permissions with
      | (after, .error e) => (after, .error e)
      | (after, .ok _) => (after, .ok (response after id (roleRow req now)))

-- @everyone's permissions can be tuned, its identity cannot; ownership can be neither.
def requireTunable (roleId : String) (req : UpdateRoleRequest) : Except HttpError Unit :=
  if roleId = BUILTIN_EVERYONE_ROLE_ID then
    if req.name = none ∧ req.priority = none ∧ req.displaySeparately = none ∧ req.color = none ∧
        req.icon = none ∧ req.categoryId = none then .ok ()
    else .error (403, "Only the permissions of the everyone role can be changed")
  else requireNotBuiltin roleId

def requireGrantable (perms : UserPermissions) : Option (List String) → Except HttpError Unit
  | none => .ok ()
  | some permissions => do
    validatePermissions permissions
    perms.requireCanGrant permissions

def checkUpdate (db : Db) (user roleId : String) (req : UpdateRoleRequest) : Except HttpError Role := do
  requireTunable roleId req
  let perms := userPermissions db user
  perms.require ROLES_MANAGE
  let existing ← getRole db roleId
  if perms.maxPriority ≤ existing.priority then .error (403, "Cannot modify role with priority >= your own")
  requireGrantable perms req.permissions
  validateAppearance db req.color.join req.icon.join req.categoryId.join
  if req.priority.any (perms.maxPriority ≤ ·) then .error (403, "Cannot set priority >= your own")
  return existing

def modifyRole (db : Db) (roleId : String) (change : Role → Role) : Db :=
  { db with roles := db.roles.modify roleId change }

def setPriority (db : Db) (roleId : String) : Option Int → Db
  | none => db
  | some priority => modifyRole db roleId fun role => { role with priority := priority }

def setName (db : Db) (roleId : String) : Option String → Db × Except HttpError Unit
  | none => (db, .ok ())
  | some name =>
    if nameTaken db roleId name then (db, .error (500, "DB error: " ++ duplicateKey "roles_name_key"))
    else (modifyRole db roleId fun role => { role with name := name }, .ok ())

def clearPermissions (db : Db) (roleId : String) : Db :=
  { db with rolePermissions := db.rolePermissions.filter (·.1 ≠ roleId) }

def setPermissions (db : Db) (roleId : String) : Option (List String) → Db × Except HttpError Unit
  | none => (db, .ok ())
  | some permissions => insertPermissions (clearPermissions db roleId) roleId permissions

def setAppearance (db : Db) (roleId : String) (req : UpdateRoleRequest) : Db :=
  modifyRole db roleId fun role =>
    { role with
      displaySeparately := req.displaySeparately.getD role.displaySeparately
      color := req.color.getD role.color
      icon := req.icon.getD role.icon
      categoryId := req.categoryId.getD role.categoryId }

-- Every column is its own UPDATE: what was written before a failing one stays.
def applyUpdate (db : Db) (roleId : String) (req : UpdateRoleRequest) : Db × Except HttpError Unit :=
  match setName (setPriority db roleId req.priority) roleId req.name with
  | (named, .error e) => (named, .error e)
  | (named, .ok _) =>
    match setPermissions named roleId req.permissions with
    | (granted, .error e) => (granted, .error e)
    | (granted, .ok _) => (setAppearance granted roleId req, .ok ())

def updateRole (db : Db) (user roleId : String) (req : UpdateRoleRequest) : Db × Except HttpError RoleResponse :=
  match checkUpdate db user roleId req with
  | .error e => (db, .error e)
  | .ok _ =>
    match applyUpdate db roleId req with
    | (after, .error e) => (after, .error e)
    | (after, .ok _) => (after, (getRole after roleId).map (response after roleId))

def checkDelete (db : Db) (user roleId : String) : Except HttpError Unit := do
  requireNotBuiltin roleId
  let perms := userPermissions db user
  perms.require ROLES_MANAGE
  let existing ← getRole db roleId
  if perms.maxPriority ≤ existing.priority then .error (403, "Cannot delete role with priority >= your own")

def unlinkInvite (roleId : String) (invite : Invite) : Invite :=
  if invite.grantRoleId = some roleId then { invite with grantRoleId := none } else invite

-- One transaction, the references first; the overwrites go with the role by their foreign key.
def dropRole (s : AuthState) (roleId : String) : AuthState :=
  let settings := if s.db.readSetting "default_invite_role_id" = some roleId then
    s.db.hubSettings.insert "default_invite_role_id" "" else s.db.hubSettings
  { s with
    tables := { s.tables with invites := s.tables.invites.map fun _ invite => unlinkInvite roleId invite }
    db := { s.db with
      hubSettings := settings
      userRoles := s.db.userRoles.filter (·.2 ≠ roleId)
      rolePermissions := s.db.rolePermissions.filter (·.1 ≠ roleId)
      overwrites := s.db.overwrites.filter (·.roleId ≠ roleId)
      roles := s.db.roles.erase roleId } }

def deleteRole (s : AuthState) (user roleId : String) : AuthState × Except HttpError Unit :=
  match checkDelete s.db user roleId with
  | .error e => (s, .error e)
  | .ok _ => (dropRole s roleId, .ok ())

def checkAssign (db : Db) (user roleId : String) : Except HttpError Unit := do
  let perms := userPermissions db user
  perms.require ROLES_MANAGE
  let role ← getRole db roleId
  if perms.maxPriority ≤ role.priority then .error (403, "Cannot assign role with priority >= your own")
  perms.requireCanGrantStored (rolePermissions db roleId)

def assignRole (db : Db) (user publicKey roleId : String) : Db × Except HttpError Unit :=
  match checkAssign db user roleId with
  | .error e => (db, .error e)
  | .ok _ =>
    if publicKey ∈ db.users then (Wavvon.assignRole db publicKey roleId, .ok ())
    else (db, .error (500, "DB error: " ++ foreignKeyViolation "user_roles" "user_roles_user_public_key_fkey"))

def checkRemove (db : Db) (user roleId : String) : Except HttpError Unit := do
  if roleId = BUILTIN_EVERYONE_ROLE_ID then .error (403, "Cannot remove the everyone role")
  let perms := userPermissions db user
  perms.require ROLES_MANAGE
  let role ← getRole db roleId
  if perms.maxPriority ≤ role.priority then .error (403, "Cannot remove role with priority >= your own")
  if roleId = BUILTIN_OWNER_ROLE_ID ∧ (db.userRoles.filter (·.2 = BUILTIN_OWNER_ROLE_ID)).card ≤ 1 then
    .error (403, "Cannot remove the last owner")

def removeRole (db : Db) (user publicKey roleId : String) : Db × Except HttpError Unit :=
  match checkRemove db user roleId with
  | .error e => (db, .error e)
  | .ok _ => ({ db with userRoles := db.userRoles.erase (publicKey, roleId) }, .ok ())

end Roles

end Wavvon
