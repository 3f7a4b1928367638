import Wavvon.Auth.Extractor
import Wavvon.Auth.Floor

set_option autoImplicit false

namespace Wavvon

open Std (ExtTreeMap)

/-- Neither one of the pages a pending account may see nor the redemption of an invite. -/
def OrdinaryPath (request : HttpRequest) : Prop :=
  request.path ∉ PENDING_ALLOWED_PATHS ∧ redeeming request = false

/--
A token that stands for an identity with full-member scope. The hub's own tokens are hex, so a token
with a dot in it is never a session or a visit.
-/
inductive ResolvesAsMember (farm : FarmOutside) (s : AuthState) (cache : FarmCache) (token : String)
    (now : Int) : String → Prop where
  | session (row : Session) (user : User) (opaqueToken : '.' ∉ token.toList)
      (found : s.sessionRow token = some (row, user)) (member : row.scope = .member) :
      ResolvesAsMember farm s cache token now row.publicKey
  | farmIssued (publicKey : String) (dotted : '.' ∈ token.toList)
      (noSession : s.tables.sessions.find? (fun session => session.token = token) = none)
      (noVisit : resolveVisitorToken s token now = none)
      (resolved : (resolveFarmToken farm cache token now).2 = .ok publicKey) :
      ResolvesAsMember farm s cache token now publicKey

def approvalStatus (db : Db) (publicKey : String) : String :=
  (db.users[publicKey]?.map User.approvalStatus).getD "approved"

/-- The gates that only one of the two doors has make no difference here. -/
def DoorsMatch (s : AuthState) (token publicKey : String) (now : Int) : Prop :=
  approvalStatus s.db publicKey ≠ "pending" →
    if '.' ∈ token.toList then
      s.isBanned publicKey now = false →
        (s.isRevoked publicKey = false ↔ s.isFederatedBanned publicKey = false ∧
          (isMember s.db publicKey = true ∨ s.setting "invite_only" ≠ some "true"))
    else
      ∀ row user, s.sessionRow token = some (row, user) → sessionExpired row now = false →
        s.sessionIsRevoked token publicKey = false → s.isBanned publicKey now = false

section

variable {farm : FarmOutside} {s : AuthState} {cache : FarmCache} {token publicKey : String}
  {request : HttpRequest} {now : Int}

theorem pendingAllows_ok (ordinary : OrdinaryPath request) (status : String) :
    (pendingAllows status request).isOk = true ↔ status ≠ "pending" := by
  unfold pendingAllows
  by_cases pending : status = "pending"
  · simp [pending, ordinary.1, Except.isOk, Except.toBool]
  · simp [pending, Except.isOk, Except.toBool]

theorem upsertFarmUser_users (db : Db) (publicKey : String) (now : Int) :
    ∃ user, (upsertFarmUser db publicKey now).users[publicKey]? = some user ∧
      user.isMember = isMember db publicKey ∧ user.approvalStatus = approvalStatus db publicKey ∧
      user.masterPubkey = db.masterOf publicKey := by
  unfold upsertFarmUser isMember approvalStatus Db.masterOf
  cases db.users[publicKey]? with
  | none => exact ⟨{ firstSeenAt := now, lastSeenAt := now }, by simp, rfl, rfl, rfl⟩
  | some user => exact ⟨{ user with lastSeenAt := now }, by simp, rfl, rfl, rfl⟩

-- What a request with a farm token has to pass on an ordinary path.
theorem extractFarm_ok (ordinary : OrdinaryPath request) :
    (extractFarm s publicKey request now).2.isOk = true ↔
      s.isBanned publicKey now = false ∧ s.isFederatedBanned publicKey = false ∧
        (isMember s.db publicKey = true ∨ s.setting "invite_only" ≠ some "true") ∧
        approvalStatus s.db publicKey ≠ "pending" := by
  obtain ⟨user, found, member, status, master⟩ := upsertFarmUser_users s.db publicKey now
  have banned : AuthState.isBanned { s with db := upsertFarmUser s.db publicKey now } publicKey now =
      s.isBanned publicKey now := rfl
  have federated : AuthState.isFederatedBanned { s with db := upsertFarmUser s.db publicKey now }
      publicKey = s.isFederatedBanned publicKey := by
    simp only [AuthState.isFederatedBanned, Db.masterOf, found, Option.bind_some, master]
    rfl
  have closed : AuthState.setting { s with db := upsertFarmUser s.db publicKey now } "invite_only" =
      s.setting "invite_only" := rfl
  have belongs : isMember (upsertFarmUser s.db publicKey now) publicKey = isMember s.db publicKey := by
    rw [isMember, found, Option.any_some, member]
  simp only [extractFarm, banned, federated, closed, belongs, ordinary.2, found, Option.map_some,
    Option.getD_some, status]
  split
  next denied => simp [denied, Except.isOk, Except.toBool]
  next admitted =>
    split
    next denied => simp [denied, Except.isOk, Except.toBool]
    next undenied =>
      split
      next inside =>
        rw [pendingAllows_ok ordinary]
        simp_all
      next outside =>
        split
        next shut => simp_all [Except.isOk, Except.toBool]
        next unlocked =>
          rw [pendingAllows_ok ordinary]
          simp_all

theorem session_status {row : Session} {user : User} (found : s.sessionRow token = some (row, user)) :
    approvalStatus s.db row.publicKey = user.approvalStatus := by
  obtain ⟨session, _, joined⟩ := Option.bind_eq_some_iff.mp found
  obtain ⟨owner, seated, same⟩ := Option.map_eq_some_iff.mp joined
  cases same
  simp [approvalStatus, seated]

-- The two doors for a session row of member scope: only the socket asks about bans.
theorem fromRequestParts_session (ordinary : OrdinaryPath request) {row : Session} {user : User}
    (opaqueToken : '.' ∉ token.toList) (found : s.sessionRow token = some (row, user))
    (member : row.scope = .member) :
    (fromRequestParts farm s cache token request now).2.2.isOk = true ↔
      sessionExpired row now = false ∧ s.sessionIsRevoked token row.publicKey = false ∧
        approvalStatus s.db row.publicKey ≠ "pending" := by
  rw [session_status found]
  have extracted : (extractSession s token request now).isOk = true ↔
      sessionExpired row now = false ∧ s.sessionIsRevoked token row.publicKey = false ∧
        user.approvalStatus ≠ "pending" := by
    rw [← pendingAllows_ok ordinary]
    simp only [extractSession, found, bind, Except.bind, pure, Except.pure]
    cases sessionExpired row now <;> cases s.sessionIsRevoked token row.publicKey <;>
      cases pendingAllows user.approvalStatus request <;> simp [Except.isOk, Except.toBool]
  have named : ∀ answer, extractSession s token request now = .ok answer →
      answer = (row.publicKey, SessionScope.member) := by
    intro answer extracted
    simp only [extractSession, found, bind, Except.bind, pure, Except.pure] at extracted
    grind
  rw [← extracted, fromRequestParts, if_neg opaqueToken]
  cases answer : extractSession s token request now with
  | error e => rfl
  | ok identity => simp [named identity answer, scopeAllows, Except.isOk, Except.toBool]

-- The gates of the handshake, once the token stands for somebody.
theorem validateWsToken_ok {after : FarmCache} {status : String} {scope : SessionScope}
    {channel : Option String}
    (resolved : resolveWsToken farm s cache token now = (after, .ok (publicKey, status, scope, channel))) :
    (validateWsToken farm s cache token now).2.isOk = true ↔
      s.sessionIsRevoked token publicKey = false ∧ status ≠ "pending" ∧
        s.isBanned publicKey now = false := by
  simp only [validateWsToken, resolved]
  split
  next revoked => simp [revoked, Except.isOk, Except.toBool]
  next valid =>
    split
    next pending => simp [pending, Except.isOk, Except.toBool]
    next approved =>
      split
      next banned => simp [banned, Except.isOk, Except.toBool]
      next free => simp_all [Except.isOk, Except.toBool]

theorem validateWsToken_session {row : Session} {user : User}
    (found : s.sessionRow token = some (row, user)) (member : row.scope = .member) :
    (validateWsToken farm s cache token now).2.isOk = true ↔
      sessionExpired row now = false ∧ s.sessionIsRevoked token row.publicKey = false ∧
        approvalStatus s.db row.publicKey ≠ "pending" ∧ s.isBanned row.publicKey now = false := by
  rw [session_status found]
  by_cases expired : sessionExpired row now = true
  next =>
    have refused : resolveWsToken farm s cache token now = (cache, .error tokenExpired) := by
      simp [resolveWsToken, found, expired]
    simp [validateWsToken, refused, expired, Except.isOk, Except.toBool]
  next =>
    have resolved : resolveWsToken farm s cache token now =
        (cache, .ok (row.publicKey, user.approvalStatus, .member, row.miniAppChannelId)) := by
      simp [resolveWsToken, found, expired, member]
    rw [validateWsToken_ok resolved]
    simp [expired]

theorem fromRequestParts_farm (ordinary : OrdinaryPath request) (dotted : '.' ∈ token.toList)
    (resolved : (resolveFarmToken farm cache token now).2 = .ok publicKey) :
    (fromRequestParts farm s cache token request now).2.2.isOk = true ↔
      s.isBanned publicKey now = false ∧ s.isFederatedBanned publicKey = false ∧
        (isMember s.db publicKey = true ∨ s.setting "invite_only" ≠ some "true") ∧
        approvalStatus s.db publicKey ≠ "pending" := by
  rw [← extractFarm_ok ordinary, fromRequestParts, if_pos dotted]
  cases answer : resolveFarmToken farm cache token now with
  | mk after result =>
    rw [answer] at resolved
    dsimp only at resolved
    rw [resolved]
    cases extracted : extractFarm s publicKey request now with
    | mk seen outcome => cases outcome <;> simp [Except.isOk, Except.toBool, extracted]

theorem validateWsToken_farm (dotted : '.' ∈ token.toList)
    (noSession : s.tables.sessions.find? (fun session => session.token = token) = none)
    (noVisit : resolveVisitorToken s token now = none)
    (resolved : (resolveFarmToken farm cache token now).2 = .ok publicKey) :
    (validateWsToken farm s cache token now).2.isOk = true ↔
      s.isRevoked publicKey = false ∧ approvalStatus s.db publicKey ≠ "pending" ∧
        s.isBanned publicKey now = false := by
  have noRow : s.sessionRow token = none := by simp [AuthState.sessionRow, noSession]
  have revoked : s.sessionIsRevoked token publicKey = s.isRevoked publicKey := by
    simp [AuthState.sessionIsRevoked, noSession]
  cases answer : resolveFarmToken farm cache token now with
  | mk after result =>
    rw [answer] at resolved
    dsimp only at resolved
    have standsFor : resolveWsToken farm s cache token now =
        (after, .ok (publicKey, approvalStatus s.db publicKey, .member, none)) := by
      simp only [resolveWsToken, noRow, noVisit, if_pos dotted, answer, resolved]
      rfl
    rw [validateWsToken_ok standsFor, revoked]

end

/-- The two doors agree on a token exactly when the gates that only one of them has do not matter. -/
theorem doors_agree_iff (farm : FarmOutside) (s : AuthState) (cache : FarmCache) (token publicKey : String)
    (request : HttpRequest) (now : Int) (ordinary : OrdinaryPath request)
    (resolves : ResolvesAsMember farm s cache token now publicKey) :
    ((validateWsToken farm s cache token now).2.isOk = true ↔
        (fromRequestParts farm s cache token request now).2.2.isOk = true) ↔
      DoorsMatch s token publicKey now := by
  cases resolves with
  | session row user opaqueToken found member =>
    rw [validateWsToken_session found member, fromRequestParts_session ordinary opaqueToken found member,
      DoorsMatch, if_neg opaqueToken]
    constructor
    · intro agree approved held owner same live unrevoked
      rw [found] at same
      cases same
      exact (agree.mpr ⟨live, unrevoked, approved⟩).2.2.2
    · intro unbanned
      constructor
      · rintro ⟨live, unrevoked, approved, _⟩
        exact ⟨live, unrevoked, approved⟩
      · rintro ⟨live, unrevoked, approved⟩
        exact ⟨live, unrevoked, approved, unbanned approved row user found live unrevoked⟩
  | farmIssued _ dotted noSession noVisit resolved =>
    rw [validateWsToken_farm dotted noSession noVisit resolved,
      fromRequestParts_farm ordinary dotted resolved, DoorsMatch, if_pos dotted]
    grind

def farmKey : String := "8a88e3dd7409f195fd52db2d3cba5d72ca6709bf1d94121bf3748801b40f6f5c"

def farmUserKey : String := "8139770ea87d175f56a35466c34c7ecccb8d8a91b4ee37a25df60f5b8fc9b394"

-- A farm that has issued one token, whose decoded parts are the texts "payload" and "signature".
def oneTokenFarm : FarmOutside where
  decodeBase64 text :=
    if text = "cGF5bG9hZA" then some (Wire.strBytes "payload")
    else if text = "c2lnbmF0dXJl" then some (Wire.strBytes "signature") else none
  verifySignature key payload signature :=
    decide (key = farmKey ∧ payload = Wire.strBytes "payload" ∧ signature = Wire.strBytes "signature")
  parsePayload payload :=
    if payload = Wire.strBytes "payload" then some { exp := 100, issPk := farmKey, sub := farmUserKey }
    else none
  farmInfo _ := none

def farmToken : String := "cGF5bG9hZA.c2lnbmF0dXJl"

def farmManaged : FarmCache := { cachedFarmPubkey := some farmKey }

theorem farmToken_resolves : (resolveFarmToken oneTokenFarm farmManaged farmToken 2).2 = .ok farmUserKey := by
  decide

def ownerSignedIn : AuthState :=
  { ownedHub with tables :=
      { sessions := [{ token := "5e551001", publicKey := ownerKey, createdAt := 1
                       devicePubkey := some ownerKey }] } }

theorem doors_agree_iff_owner :
    (validateWsToken oneTokenFarm ownerSignedIn farmManaged "5e551001" 2).2.isOk = true ↔
      (fromRequestParts oneTokenFarm ownerSignedIn farmManaged "5e551001" { path := "/channels" }
        2).2.2.isOk = true := by
  have resolves : ResolvesAsMember oneTokenFarm ownerSignedIn farmManaged "5e551001" 2 ownerKey :=
    .session { token := "5e551001", publicKey := ownerKey, createdAt := 1, devicePubkey := some ownerKey }
      { isMember := true } (by decide) (by decide) rfl
  refine (doors_agree_iff _ _ _ _ ownerKey { path := "/channels" } 2 ⟨by decide, rfl⟩ resolves).mpr ?_
  intro _
  rw [if_neg (by decide)]
  exact fun _ _ _ _ _ => by decide

-- A farm user without an invite: the socket opens on a closed hub, the request is refused.
theorem doors_agree_uninvited :
    OrdinaryPath { path := "/channels" } ∧
      ResolvesAsMember oneTokenFarm { db := { hubSettings := (∅ : Table String).insert "invite_only" "true" } }
        farmManaged farmToken 2 farmUserKey ∧
      ¬ ((validateWsToken oneTokenFarm
            { db := { hubSettings := (∅ : Table String).insert "invite_only" "true" } } farmManaged farmToken
            2).2.isOk = true ↔
          (fromRequestParts oneTokenFarm
            { db := { hubSettings := (∅ : Table String).insert "invite_only" "true" } } farmManaged farmToken
            { path := "/channels" } 2).2.2.isOk = true) := by
  have ordinary : OrdinaryPath { path := "/channels" } := ⟨by decide, rfl⟩
  have dotted : '.' ∈ farmToken.toList := by decide
  refine ⟨ordinary, .farmIssued farmUserKey dotted rfl (by decide) farmToken_resolves, ?_⟩
  rw [validateWsToken_farm dotted rfl (by decide) farmToken_resolves,
    fromRequestParts_farm ordinary dotted farmToken_resolves]
  decide

end Wavvon
