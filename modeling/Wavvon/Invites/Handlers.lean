import Wavvon.Roles.Ceiling

set_option autoImplicit false

namespace Wavvon.Invites

open Std (ExtTreeMap)
open Checks

structure CreateInviteRequest where
  maxUses : Option Int := none
  expiresInSeconds : Option Int := none
  grantRoleId : Option String := none
  boundPubkey : Option String := none
  deriving DecidableEq, Repr

structure InviteResponse where
  code : String
  invite : Invite
  status : String
  deriving DecidableEq, Repr

def inviteStatus (uses : Int) (maxUses expiresAt : Option Int) (now : Int) : String :=
  if maxUses.any (· ≤ uses) then "used_up"
  else if expiresAt.any (· ≤ now) then "expired"
  else "live"

def TAKEOVER_GRANT_DEFAULT_EXPIRY_SECS : Int := 24 * 3600

-- The sum wraps as the column's type does.
def inviteExpiry (now : Int) (expiresInSeconds : Option Int) : Option Int :=
  expiresInSeconds.map fun seconds => (now + seconds).bmod 18446744073709551616

-- A bound invite names its recipient, who had better have a key.
def requireBoundKey (bound : Option String) : Except HttpError Unit :=
  if bound.any fun key => key.utf8ByteSize ≠ 64 ∨ hexDecode key = none then
    .error (400, "bound_pubkey must be 64 hex characters")
  else .ok ()

def requireGrant (db : Db) (perms : UserPermissions) (roleId : String) : Except HttpError Unit :=
  match db.roles[roleId]? with
  | none => .error (400, "grant_role_id does not reference an existing role")
  | some role =>
    if perms.maxPriority ≤ role.priority then
      .error (403, "Cannot create an invite that grants a role at or above your own priority")
    else perms.requireCanGrantStored (rolePermissions db roleId)

def checkInvite (db : Db) (user : String) (req : CreateInviteRequest) : Except HttpError Unit := do
  let perms := userPermissions db user
  perms.require INVITES_MANAGE
  requireBoundKey req.boundPubkey
  match req.grantRoleId with
  | none => return ()
  | some roleId => requireGrant db perms roleId

def grantsTakeover (db : Db) (req : CreateInviteRequest) : Bool := req.grantRoleId.any (roleIsATakeoverToken db)

-- A takeover token is good for one use and for a day, unless less was asked for.
def inviteRow (db : Db) (user : String) (req : CreateInviteRequest) (now : Int) : Invite :=
  let maxUses := if req.boundPubkey.isSome then some 1 else req.maxUses
  let expiresAt := inviteExpiry now req.expiresInSeconds
  let takeover := grantsTakeover db req
  let forced := now + TAKEOVER_GRANT_DEFAULT_EXPIRY_SECS
  { createdBy := user, uses := 0, createdAt := now, grantRoleId := req.grantRoleId, boundPubkey := req.boundPubkey
    maxUses := if takeover then some ((maxUses.map (min · 1)).getD 1) else maxUses
    expiresAt := if takeover then some ((expiresAt.filter (· < forced)).getD forced) else expiresAt }

-- The code is drawn.
def createInvite (s : AuthState) (user : String) (req : CreateInviteRequest) (code : String) (now : Int) :
    AuthState × Except HttpError InviteResponse :=
  match checkInvite s.db user req with
  | .error e => (s, .error e)
  | .ok _ =>
    if code ∈ s.tables.invites then (s, .error (500, "DB error: " ++ duplicateKey "invites_pkey"))
    else
      let row := inviteRow s.db user req now
      ({ s with tables := { s.tables with invites := s.tables.invites.insert code row } },
        .ok { code := code, invite := row, status := inviteStatus 0 row.maxUses row.expiresAt now })

-- The last statement of `apply_invite_role_grant`, for a role its guards let through.
def grantRole (db : Db) (publicKey roleId : String) : Db × Except HttpError Unit :=
  if publicKey ∉ db.users then
    (db, .error (500, "DB error: " ++ foreignKeyViolation "user_roles" "user_roles_user_public_key_fkey"))
  else if roleId ∉ db.roles then
    (db, .error (500, "DB error: " ++ foreignKeyViolation "user_roles" "user_roles_role_id_fkey"))
  else (assignRole db publicKey roleId, .ok ())

def applyInviteRoleGrant (db : Db) (redemption : InviteRedemption) (publicKey : String) : Db × Except HttpError Unit :=
  match inviteRole db redemption with
  | none => (db, .ok ())
  | some roleId => grantRole db publicKey roleId

def redemptionOf (invite : Invite) : InviteRedemption :=
  { createdBy := invite.createdBy, grantRoleId := invite.grantRoleId }

def notFound : HttpError := (404, "Invite not found")

def checkJoin (invite : Invite) (candidates : List String) (now : Int) : Except HttpError Unit :=
  if invite.expiresAt.any (· < now) then .error (410, "Invite has expired")
  else if invite.maxUses.any (· ≤ invite.uses) then .error (410, "Invite has been fully used")
  else if !redeemableBy invite.boundPubkey candidates then
    .error (403, "This invite was issued to a different key")
  else .ok ()

def countUse (s : AuthState) (code : String) : AuthState :=
  { s with tables := { s.tables with
      invites := s.tables.invites.modify code fun invite => { invite with uses := invite.uses + 1 } } }

-- An invite vouches for its holder, unless a moderator is still to read an application or a flag.
def autoApprove (s : AuthState) (publicKey : String) : AuthState :=
  if publicKey ∈ s.tables.admissionFlags ∨ s.tables.applicationEnabled = true then s
  else
    { s with db := { s.db with
        users := s.db.users.modify publicKey fun user => { user with approvalStatus := "approved" } } }

def joinWithInvite (s : AuthState) (publicKey : String) (master : Option String) (code : String) (now : Int) :
    AuthState × Except HttpError Unit :=
  match s.tables.invites[code]? with
  | none => (s, .error notFound)
  | some invite =>
    match checkJoin invite (publicKey :: master.toList) now with
    | .error e => (s, .error e)
    | .ok _ =>
      let admitted := { s with db := admitMember s.db publicKey }
      let approved := autoApprove (countUse admitted code) publicKey
      let (granted, answer) := applyInviteRoleGrant approved.db (redemptionOf invite) publicKey
      ({ approved with db := granted }, answer)

-- What `/auth/verify` does with a code, for an identity it has seated.
def registerWithInvite (s : AuthState) (canonical code : String) (candidates : List String) (now : Int) :
    AuthState × Except HttpError Unit :=
  match validateAndUseInvite s code candidates now with
  | .error e => (s, .error e)
  | .ok (spent, redemption) => (admitNewcomer spent canonical false (some redemption), .ok ())

section

variable {db : Db} {user roleId : String} {perms : UserPermissions} {req : CreateInviteRequest}

def Outranks (db : Db) (perms : UserPermissions) (roleId : String) : Prop :=
  ∃ role, db.roles[roleId]? = some role ∧ role.priority < perms.maxPriority

theorem requireGrant_ok : requireGrant db perms roleId = .ok () ↔
    Outranks db perms roleId ∧ ∀ p, (roleId, p) ∈ db.rolePermissions → perms.has p = true := by
  unfold requireGrant Outranks
  cases found : db.roles[roleId]? with
  | none => simp
  | some role =>
    dsimp only
    constructor
    · intro ok
      obtain ⟨below, grants⟩ := refuse_ok ok
      refine ⟨⟨role, rfl, Int.not_le.mp below⟩, ?_⟩
      intro p carried
      exact UserPermissions.requireCanGrantStored_ok.mp grants p (mem_rolePermissions.mpr carried)
    · rintro ⟨⟨same, here, below⟩, holds⟩
      cases here
      rw [if_neg (Int.not_le.mpr below)]
      exact UserPermissions.requireCanGrantStored_ok.mpr fun p carried => holds p (mem_rolePermissions.mp carried)

theorem checkInvite_ok : checkInvite db user req = .ok () ↔
    (userPermissions db user).has INVITES_MANAGE = true ∧ requireBoundKey req.boundPubkey = .ok () ∧
      ∀ roleId, req.grantRoleId = some roleId → requireGrant db (userPermissions db user) roleId = .ok () := by
  constructor
  · intro ok
    obtain ⟨_, manages, ok⟩ := bind_ok ok
    obtain ⟨_, bound, ok⟩ := bind_ok ok
    refine ⟨UserPermissions.require_ok.mp manages, bound, ?_⟩
    intro roleId asked
    rw [asked] at ok
    exact ok
  · rintro ⟨manages, bound, grants⟩
    unfold checkInvite
    dsimp only
    rw [UserPermissions.require_ok.mpr manages, bound]
    cases asked : req.grantRoleId with
    | none => rfl
    | some roleId => exact grants roleId asked

end

end Wavvon.Invites
