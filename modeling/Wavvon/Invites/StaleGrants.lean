import Wavvon.Invites.Handlers

set_option autoImplicit false

namespace Wavvon.Invites

open Std (ExtTreeMap)

-- Some drawn code is free, and minting the same grant under it succeeds.
def MintableToday (later : AuthState) (user roleId : String) : Prop :=
  ∃ code now, (createInvite later user { grantRoleId := some roleId } code now).2.isOk = true

def SingleUse (invite : Invite) : Prop := ∃ uses ∈ invite.maxUses, uses ≤ 1

def ShortLived (invite : Invite) : Prop :=
  ∃ expiry ∈ invite.expiresAt, expiry ≤ invite.createdAt + TAKEOVER_GRANT_DEFAULT_EXPIRY_SECS

/-- If the invite hands out the role in the later state, its creator could mint it there, and a takeover is bounded. -/
def StandsToday (later : AuthState) (invite : Invite) (roleId : String) : Prop :=
  inviteRole later.db (redemptionOf invite) = some roleId →
    MintableToday later invite.createdBy roleId ∧
      ((roleId, ROLES_MANAGE) ∈ later.db.rolePermissions → SingleUse invite ∧ ShortLived invite)

-- What the creator asked for is no wider than what a takeover is cut down to.
def AskedNarrow (req : CreateInviteRequest) (now : Int) : Prop :=
  (req.boundPubkey.isSome = true ∨ ∃ uses ∈ req.maxUses, uses ≤ 1) ∧
    ∃ expiry ∈ inviteExpiry now req.expiresInSeconds, expiry ≤ now + TAKEOVER_GRANT_DEFAULT_EXPIRY_SECS

-- The creator may still invite, and holds all that the role carries by now.
def StillHolds (db : Db) (user roleId : String) : Prop :=
  (userPermissions db user).has INVITES_MANAGE = true ∧
    ∀ p, (roleId, p) ∈ db.rolePermissions → (userPermissions db user).has p = true

section

variable {s : AuthState} {db : Db} {user code roleId : String} {req : CreateInviteRequest} {now : Int}
  {response : InviteResponse}

theorem createInvite_ok (minted : (createInvite s user req code now).2 = .ok response) :
    checkInvite s.db user req = .ok () ∧ response.invite = inviteRow s.db user req now := by
  unfold createInvite at minted
  split at minted
  next => cases minted
  next checked =>
    split at minted
    next => cases minted
    next =>
      cases minted
      exact ⟨checked, rfl⟩

theorem mintableToday_iff : MintableToday s user roleId ↔
    Outranks s.db (userPermissions s.db user) roleId ∧ StillHolds s.db user roleId := by
  have guards : checkInvite s.db user { grantRoleId := some roleId } = .ok () ↔
      Outranks s.db (userPermissions s.db user) roleId ∧ StillHolds s.db user roleId := by
    rw [checkInvite_ok]
    constructor
    · rintro ⟨manages, _, grants⟩
      obtain ⟨outranks, holds⟩ := requireGrant_ok.mp (grants roleId rfl)
      exact ⟨outranks, manages, holds⟩
    · rintro ⟨outranks, manages, holds⟩
      refine ⟨manages, rfl, ?_⟩
      rintro _ same
      cases same
      exact requireGrant_ok.mpr ⟨outranks, holds⟩
  rw [← guards]
  constructor
  · rintro ⟨code, now, accepted⟩
    cases answer : (createInvite s user { grantRoleId := some roleId } code now).2 with
    | error e => simp [answer, Except.isOk, Except.toBool] at accepted
    | ok response => exact (createInvite_ok answer).1
  · intro checked
    obtain ⟨code, free⟩ := Tables.exists_fresh s.tables.invites
    refine ⟨code, 0, ?_⟩
    unfold createInvite
    rw [checked]
    dsimp only
    rw [if_neg free]
    rfl

-- An invite of a person hands out its role while the person outranks it.
theorem inviteRole_iff (person : user ≠ "system") :
    inviteRole db { createdBy := user, grantRoleId := some roleId } = some roleId ↔
      Outranks db (userPermissions db user) roleId := by
  unfold inviteRole Outranks
  dsimp only
  rw [if_neg person]
  cases found : db.roles[roleId]? with
  | none => simp
  | some role =>
    simp only [Option.bind_some]
    split
    next outranked => simpa using outranked
    next outranks => simpa using outranks

theorem singleUse_iff : SingleUse (inviteRow db user req now) ↔
    grantsTakeover db req = true ∨ req.boundPubkey.isSome = true ∨ ∃ uses ∈ req.maxUses, uses ≤ 1 := by
  unfold SingleUse inviteRow
  dsimp only
  cases takeover : grantsTakeover db req with
  | true =>
    refine iff_of_true ⟨_, rfl, ?_⟩ (.inl rfl)
    cases (if req.boundPubkey.isSome = true then some 1 else req.maxUses) with
    | none => exact Int.le_refl 1
    | some uses => exact Int.min_le_right uses 1
  | false => cases req.boundPubkey <;> simp

theorem shortLived_iff : ShortLived (inviteRow db user req now) ↔
    grantsTakeover db req = true ∨
      ∃ expiry ∈ inviteExpiry now req.expiresInSeconds, expiry ≤ now + TAKEOVER_GRANT_DEFAULT_EXPIRY_SECS := by
  unfold ShortLived inviteRow
  dsimp only
  cases takeover : grantsTakeover db req with
  | true =>
    refine iff_of_true ⟨_, rfl, ?_⟩ (.inl rfl)
    cases kept : (inviteExpiry now req.expiresInSeconds).filter
        (· < now + TAKEOVER_GRANT_DEFAULT_EXPIRY_SECS) with
    | none => exact Int.le_refl _
    | some expiry => exact Int.le_of_lt (of_decide_eq_true (Option.filter_eq_some_iff.mp kept).2)
  | false => simp

theorem bounded_iff : SingleUse (inviteRow db user req now) ∧ ShortLived (inviteRow db user req now) ↔
    grantsTakeover db req = true ∨ AskedNarrow req now := by
  rw [singleUse_iff, shortLived_iff, AskedNarrow, or_and_left]

/--
An invite minted by a person stands in a later state exactly if it hands out nothing there, or its
creator still holds what it takes and a takeover was bounded when it was minted.
-/
theorem standsToday_iff (s later : AuthState) (user : String) (req : CreateInviteRequest) (code roleId : String)
    (now : Int) (response : InviteResponse) (person : user ≠ "system") (asked : req.grantRoleId = some roleId)
    (minted : (createInvite s user req code now).2 = .ok response) :
    StandsToday later response.invite roleId ↔
      ¬ Outranks later.db (userPermissions later.db user) roleId ∨
        StillHolds later.db user roleId ∧
          ((roleId, ROLES_MANAGE) ∈ later.db.rolePermissions →
            roleIsATakeoverToken s.db roleId = true ∨ AskedNarrow req now) := by
  obtain ⟨_, same⟩ := createInvite_ok minted
  have redemption : redemptionOf (inviteRow s.db user req now) = { createdBy := user, grantRoleId := some roleId } := by
    rw [← asked]
    rfl
  have takeover : grantsTakeover s.db req = roleIsATakeoverToken s.db roleId := by
    rw [grantsTakeover, asked, Option.any_some]
  unfold StandsToday
  rw [same, redemption, inviteRole_iff person, mintableToday_iff, bounded_iff, takeover]
  change _ → (Outranks later.db (userPermissions later.db user) roleId ∧ _) ∧ _ ↔ _
  tauto

end

-- An inviter, a helper role, and an owner who can change it.
def invitingHub : AuthState :=
  { db := {
      users := ((∅ : Table User).insert "inviter" { isMember := true }).insert "owner" { isMember := true }
      roles := ((((∅ : Table Role).insert BUILTIN_EVERYONE_ROLE_ID { name := "everyone" }).insert
        BUILTIN_OWNER_ROLE_ID { name := "Owner", priority := 999999 }).insert
          "greeter" { name := "Greeter", priority := 50 }).insert "helper" { name := "Helper", priority := 10 }
      userRoles := {("inviter", "greeter"), ("owner", BUILTIN_OWNER_ROLE_ID)}
      rolePermissions := {("greeter", INVITES_MANAGE)} } }

-- The owner gives the helper a permission the inviter does not hold.
def promotedHub (minted : AuthState) : AuthState :=
  { minted with db := (Roles.updateRole minted.db "owner" "helper" { permissions := some ["hub.settings"] }).1 }

def helperInvite : AuthState × Except HttpError InviteResponse :=
  createInvite invitingHub "inviter" { grantRoleId := some "helper" } "code" 7

def helperResponse : InviteResponse :=
  { code := "code", status := "live"
    invite := { createdBy := "inviter", maxUses := none, uses := 0, expiresAt := none, grantRoleId := some "helper",
                boundPubkey := none, createdAt := 7 } }

theorem standsToday_iff_unchanged : StandsToday invitingHub helperResponse.invite "helper" := by
  refine (standsToday_iff invitingHub invitingHub "inviter" { grantRoleId := some "helper" } "code" "helper" 7
    helperResponse (by decide) rfl (by decide)).mpr (.inr ⟨⟨by decide, ?_⟩, ?_⟩)
  · intro p carried
    simp [invitingHub] at carried
  · intro carried
    simp [invitingHub] at carried

-- The invite still hands the role out, though its creator could no longer mint it.
theorem standsToday_promoted :
    helperInvite.2 = .ok helperResponse ∧ ¬ StandsToday (promotedHub helperInvite.1) helperResponse.invite "helper" := by
  refine ⟨by decide, ?_⟩
  intro stands
  have mintable := (stands (by decide)).1
  have holds := (mintableToday_iff.mp mintable).2.2 "hub.settings" (by decide)
  revert holds
  decide

end Wavvon.Invites
