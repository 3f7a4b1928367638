import Wavvon.Auth.Verify
import Wavvon.Shared.Interleaving

set_option autoImplicit false

namespace Wavvon

open Std (ExtTreeMap)
open Interleaving (Handler)

-- What a statement of the sign-in handler is, as far as the first-user rule is concerned.
inductive Statement where
  | read
  | write
  | countUsers
  | upsertUser (canonical : String)
  | grantOwner (canonical : String)
  | registerPeer (canonical : String)
  deriving DecidableEq, Repr

abbrev SignIn (A : Type) := Handler AuthState Statement A

def query {A : Type} (read : AuthState → A) : SignIn A := .exec .read id read

def update (change : AuthState → AuthState) : SignIn Unit := .exec .write change fun _ => ()

-- The checks of the gates on the values their statements have read.
def securityCheck (outside : Outside) (req : VerifyRequest) (exempt : Bool) (minLevel : Nat) (lobby : Bool) :
    Except HttpError Nat :=
  if 0 < minLevel ∧ !exempt then
    let claimed := (req.securityLevel.map (·.toNat)).getD 0
    if !verifySecurityLevel outside req.publicKey (req.securityNonce.getD 0) claimed then
      .error (403, "Invalid security level proof")
    else if claimed < minLevel ∧ !lobby then
      .error (403, "Security level " ++ toString claimed ++ " is below minimum " ++ toString minLevel)
    else .ok claimed
  else .ok 0

def powCheck (outside : Outside) (req : VerifyRequest) (minPow : Nat) : Except HttpError Unit :=
  if 0 < minPow then
    match req.powProof with
    | none => .error (403, "pow_required")
    | some proof =>
      if proof.level.toNat < minPow then .error (403, "pow_required")
      else
        match parseUnsigned (2 ^ 64) proof.nonce with
        | none => .error (400, "Invalid pow_proof nonce")
        | some nonce =>
          if verifySecurityLevel outside req.publicKey (UInt64.ofNat nonce) proof.level.toNat then .ok ()
          else .error (403, "pow_required")
  else .ok ()

def certCheck (outside : Outside) (req : VerifyRequest) (mode : String) : Except HttpError Unit :=
  if mode = "none" then .ok ()
  else
    let master := (req.subkeyCert.map (·.masterPubkey)).getD req.publicKey
    if outside.certSatisfied req master then .ok () else .error (403, "cert_required")

def Invite.hasUses (invite : Invite) : Bool := !invite.maxUses.any (· ≤ invite.uses)

def Invite.spend (invite : Invite) : Invite :=
  if invite.hasUses then { invite with uses := invite.uses + 1 } else invite

-- The locals of the handler once every gate before the seat has let it through.
structure Passed where
  canonical : String
  master : Option String
  existing : Nat
  exempt : Bool
  minLevel : Nat
  lobby : Bool
  claimed : Nat
  deriving DecidableEq, Repr

section

variable (outside : Outside) (req : VerifyRequest) (env : VerifyEnv)

def takePending : SignIn (Except HttpError Unit) := do
  let pending ← Handler.exec .write
    (fun s => if req.challenge ∈ s.pendingChallenges then takeChallenge s req.challenge else s)
    (fun s => s.pendingChallenges[req.challenge]?)
  match pending with
  | none => return .error (401, "No pending challenge for this key")
  | some pending => return checkChallenge outside pending req env.instant

def identify : SignIn (Except HttpError (String × Option String)) := do
  let revoked ← query (·.isRevoked req.publicKey)
  if revoked then return .error (401, "Key has been revoked")
  else
    match req.subkeyCert with
    | none => return .ok (req.publicKey, none)
    | some cert =>
      if !outside.certVerifies cert then
        return .error (401, "Invalid cert: signature verification failed")
      else if cert.subkeyPubkey ≠ req.publicKey then
        return .error (401, "Cert subkey_pubkey doesn't match auth pubkey")
      else if certExpired cert env.now then return .error (401, "Cert expired")
      else
        let master := cert.masterPubkey
        let linked ← query fun s => s.db.users.toList.find? fun row => row.2.masterPubkey = some master
        match linked with
        | some row => return .ok (row.1, some master)
        | none =>
          let legacy ← query fun s => s.db.users[req.publicKey]?.any (·.masterPubkey.isNone)
          if legacy then return .ok (req.publicKey, some master) else return .ok (master, some master)

-- The answer to a visitor from an allied hub, if this is one.
def visit (canonical : String) : SignIn (Except HttpError (Option VerifyResponse)) := do
  match req.allianceVoiceGrant with
  | none => return .ok none
  | some grant =>
    let known ← query fun s => decide (canonical ∈ s.db.users)
    if known then return .ok none
    else
      match outside.verifyGrant grant canonical with
      | .error e => return .error e
      | .ok visitor =>
        update fun s => recordVisit s canonical visitor env
        return .ok (some { token := env.token, scope := .allianceVoice, canonicalPubkey := canonical })

def passGates (canonical : String) (master : Option String) : SignIn (Except HttpError Passed) := do
  let banned ← query (·.isBanned canonical env.now)
  if banned then return .error (403, "User is banned")
  else
    let denied ← query (·.isDeniedByFederatedPolicy (master.getD canonical))
    if denied then return .error (403, "Access denied")
    else
      let existing ← Handler.exec .countUsers id existingUsers
      let owner ← query fun s => decide ((canonical, BUILTIN_OWNER_ROLE_ID) ∈ s.db.userRoles)
      let minLevel ← query minSecurityLevel
      let lobby ← query lobbyEnabled
      let exempt := decide (existing = 0) || owner || req.isHub = some true
      match securityCheck outside req exempt minLevel lobby with
      | .error e => return .error e
      | .ok claimed =>
        let minPow ← query fun s => ((s.setting "min_pow_level").bind (parseUnsigned (2 ^ 8))).getD 0
        match powCheck outside req minPow with
        | .error e => return .error e
        | .ok _ =>
          let mode ← query fun s => (s.setting "cert_mode").getD "none"
          match certCheck outside req mode with
          | .error e => return .error e
          | .ok _ =>
            return .ok
              { canonical := canonical, master := master, existing := existing, exempt := exempt
                minLevel := minLevel, lobby := lobby, claimed := claimed }

def matchBan (passed : Passed) : SignIn (Option String) := do
  match env.ipHash with
  | none => return none
  | some hash =>
    if 0 < passed.existing ∧ req.isHub ≠ some true then
      let seated ← query fun s => decide (passed.canonical ∈ s.db.users)
      if seated then return none
      else
        query fun s =>
          ((s.tables.banIpFlags.filter fun flag =>
              flag.ipHash = hash ∧ flag.bannedPubkey ≠ passed.canonical ∧ env.now < flag.expiresAt).mergeSort
            fun a b => b.expiresAt ≤ a.expiresAt).head?.map (·.bannedPubkey)
    else return none

def recordDevice : SignIn Unit :=
  match req.subkeyCert with
  | none => pure ()
  | some cert => update fun s => { s with tables := upsertSubkeyCert s.tables cert }

def raiseFlag (canonical : String) (matched : Option String) : SignIn Unit :=
  match matched with
  | none => pure ()
  | some banned =>
    update fun s => { s with tables := { s.tables with
      admissionFlags := s.tables.admissionFlags.insertIfNew canonical (banned, env.now) } }

def raiseLevel (canonical : String) (claimed : Nat) : SignIn Nat := do
  let stored ← query fun s => storedPowLevel s.db canonical
  if stored < claimed then
    update fun s => { s with db := { s.db with
      users := s.db.users.modify canonical fun user => { user with powLevel := claimed } } }
    return claimed
  else return stored

-- The device, the row, the flag and the level, each in a statement of its own; the answer is the level.
def seat (passed : Passed) : SignIn Nat := do
  let approval ← query fun s => s.setting "require_approval" == some "true"
  let matched ← matchBan req env passed
  let application ← query (·.tables.applicationEnabled)
  let status := if matched.isSome ∨
      ((approval || application) ∧ 0 < passed.existing ∧ req.isHub ≠ some true) then "pending" else "approved"
  recordDevice req
  Handler.exec (.upsertUser passed.canonical)
    (fun s => { s with db := upsertUser s.db passed.canonical passed.master status env.now }) fun _ => ()
  raiseFlag env passed.canonical matched
  raiseLevel passed.canonical passed.claimed

-- Whether the presented invite names the caller, read without spending it.
def namedInvite (passed : Passed) : SignIn Bool :=
  match req.inviteCode with
  | none => pure false
  | some code => do
    let bound ← query fun s => s.tables.invites[code]?.bind (·.boundPubkey)
    return bound.any (· ∈ inviteCandidates req passed.canonical passed.master)

def answerChallenge : SignIn (Except HttpError Unit) :=
  match req.challengeToken with
  | none => return .error (403, "Challenge token required")
  | some text => do
    let row ← query fun s => s.tables.challengeTokens[text]?
    match row with
    | none => return .error (403, "Invalid challenge token")
    | some row =>
      if row.consumedAt.isSome then return .error (403, "Challenge token already used")
      else if row.expiresAt < env.now then return .error (403, "Challenge token expired")
      else if row.pubkey ≠ req.publicKey then return .error (403, "Challenge token pubkey mismatch")
      else
        update fun s => { s with tables := { s.tables with
          challengeTokens := s.tables.challengeTokens.modify text fun row =>
            { row with consumedAt := some env.now } } }
        return .ok ()

-- The increment is conditional; whether it found a use left decides the redemption.
def spendInvite (passed : Passed) (code : String) : SignIn (Except HttpError InviteRedemption) := do
  let invite ← query fun s => s.tables.invites[code]?
  match invite with
  | none => return .error (403, "Invalid invite code")
  | some invite =>
    if invite.expiresAt.any (· < env.now) then return .error (403, "Invite code has expired")
    else if !redeemableBy invite.boundPubkey (inviteCandidates req passed.canonical passed.master) then
      return .error (403, "This invite was issued to a different key")
    else
      let spent ← Handler.exec .write
        (fun s => { s with tables := { s.tables with invites := s.tables.invites.modify code Invite.spend } })
        (fun s => s.tables.invites[code]?.any Invite.hasUses)
      if spent then return .ok { createdBy := invite.createdBy, grantRoleId := invite.grantRoleId }
      else return .error (403, "Invite code has been used up")

def redeem (passed : Passed) : SignIn (Except HttpError (Option InviteRedemption)) :=
  match req.inviteCode with
  | some code => do
    let answer ← spendInvite req env passed code
    return answer.map some
  | none => do
    let closed ← query fun s => decide (s.setting "invite_only" = some "true")
    if closed then return .error (403, "This hub requires an invite code") else return .ok none

def grantFirst (passed : Passed) (minted : Bool) : SignIn Unit :=
  if passed.existing = 0 ∧ !minted then
    Handler.exec (.grantOwner passed.canonical)
      (fun s => { s with db := assignRole s.db passed.canonical BUILTIN_OWNER_ROLE_ID }) fun _ => ()
  else pure ()

def grantInvited (passed : Passed) (redemption : Option InviteRedemption) : SignIn Unit :=
  match redemption with
  | none => pure ()
  | some redemption => do
    let role ← query fun s => inviteRole s.db redemption
    match role with
    | none => pure ()
    | some roleId => update fun s => { s with db := assignRole s.db passed.canonical roleId }

def grantMembership (passed : Passed) (redemption : Option InviteRedemption) : SignIn Unit := do
  update fun s => { s with db := admitMember s.db passed.canonical }
  let minted ← query fun s => (s.setting "first_boot_owner_invite_code").any (· ≠ "")
  grantFirst passed minted
  grantInvited passed redemption

-- From the session row to the token.
def settle (passed : Passed) (peer belongs : Bool) (scope : SessionScope) :
    SignIn (Except HttpError VerifyResponse) := do
  update fun s => insertSession s
    { token := env.token, publicKey := passed.canonical, createdAt := env.now, scope := scope
      devicePubkey := some req.publicKey }
  let response := { token := env.token, scope := scope, canonicalPubkey := passed.canonical }
  if peer then
    Handler.exec (.registerPeer passed.canonical) (registerPeer · passed.canonical) fun _ => .ok response
  else if belongs then return .ok response
  else
    (redeem req env passed).andThen fun redemption => do
      grantMembership passed redemption
      return .ok response

def openStatements (passed : Passed) (level : Nat) : SignIn (Except HttpError VerifyResponse) := do
  let belongs ← query fun s => s.db.users[passed.canonical]?.any (·.isMember)
  let named ← namedInvite req passed
  let mode ← query fun s => (s.setting "challenge_mode").getD "off"
  let peer := decide (req.isHub = some true) && !belongs
  let scope : SessionScope := if peer then .peer else if passed.exempt then .member
    else if passed.lobby ∧ level < passed.minLevel then .lobby else .member
  if mode ≠ "off" ∧ !belongs ∧ !peer ∧ !named then
    (answerChallenge req env).andThen fun _ => settle req env passed peer belongs scope
  else settle req env passed peer belongs scope

/-- The sign-in handler, statement by statement. -/
def verifyStatements : SignIn (Except HttpError VerifyResponse) :=
  (takePending outside req env).andThen fun _ =>
  (identify outside req env).andThen fun identity =>
  (visit outside req env identity.1).andThen fun visited =>
    match visited with
    | some response => return .ok response
    | none =>
      (passGates outside req env identity.1 identity.2).andThen fun passed => do
        let level ← seat req env passed
        openStatements req env passed level

end

end Wavvon
