import Wavvon.Auth.State

set_option autoImplicit false

namespace Wavvon

open Wire (Bytes)

structure VerifyEnv where
  now : Int
  instant : Int
  token : String
  ipHash : Option String := none
  deriving DecidableEq, Repr

def challengeTtl : Int := 60

def challenge (s : AuthState) (publicKey : String) (bytes : Bytes) (instant : Int) : AuthState :=
  let live := s.pendingChallenges.filter fun _ pending => instant ≤ pending.expiresAt
  let pending : PendingChallenge :=
    { publicKey := publicKey, challengeBytes := bytes, expiresAt := instant + challengeTtl }
  { s with pendingChallenges := live.insert (hexEncode bytes) pending }

def checkChallenge (outside : Outside) (pending : PendingChallenge) (req : VerifyRequest)
    (instant : Int) : Except HttpError Unit :=
  if pending.publicKey ≠ req.publicKey then .error (401, "Challenge was issued to a different key")
  else if pending.expiresAt < instant then .error (401, "Challenge expired")
  else
    match hexDecode req.challenge with
    | none => .error (400, "Invalid challenge hex")
    | some bytes =>
      if bytes ≠ pending.challengeBytes then .error (401, "Challenge mismatch")
      else
        match hexDecode req.signature with
        | none => .error (400, "Invalid signature hex")
        | some signature =>
          if outside.verifyAuthChallenge req.publicKey bytes signature then .ok ()
          else .error (401, "Invalid signature")

def certExpired (cert : SubkeyCert) (now : Int) : Bool :=
  cert.notAfter.any fun expiry => expiry.toNat ≤ now.toNat

def resolveCanonicalIdentity (outside : Outside) (s : AuthState) (authPubkey : String)
    (cert : Option SubkeyCert) (now : Int) : Except HttpError (String × Option String) :=
  if s.isRevoked authPubkey then .error (401, "Key has been revoked")
  else
    match cert with
    | none => .ok (authPubkey, none)
    | some cert =>
      if !outside.certVerifies cert then .error (401, "Invalid cert: signature verification failed")
      else if cert.subkeyPubkey ≠ authPubkey then
        .error (401, "Cert subkey_pubkey doesn't match auth pubkey")
      else if certExpired cert now then .error (401, "Cert expired")
      else
        let master := cert.masterPubkey
        match s.db.users.toList.find? fun row => row.2.masterPubkey = some master with
        | some row => .ok (row.1, some master)
        | none =>
          if s.db.users[authPubkey]?.any (·.masterPubkey.isNone) then .ok (authPubkey, some master)
          else .ok (master, some master)

def existingUsers (s : AuthState) : Nat :=
  (s.db.users.toList.filter fun row => row.1 ≠ "system" ∧ row.1 ∉ s.tables.peers).length

def ownerExempt (s : AuthState) (req : VerifyRequest) (canonical : String) : Bool :=
  existingUsers s = 0 || decide ((canonical, BUILTIN_OWNER_ROLE_ID) ∈ s.db.userRoles) ||
    req.isHub = some true

def minSecurityLevel (s : AuthState) : Nat :=
  ((s.setting "min_security_level").bind (parseUnsigned (2 ^ 32))).getD 0

def lobbyEnabled (s : AuthState) : Bool :=
  ((s.setting "lobby_enabled").map (· == "1")).getD true

-- The level a proof presented with the request has earned.
def securityGate (outside : Outside) (s : AuthState) (req : VerifyRequest) (canonical : String) :
    Except HttpError Nat :=
  let minLevel := minSecurityLevel s
  if 0 < minLevel ∧ !ownerExempt s req canonical then
    let claimed := (req.securityLevel.map (·.toNat)).getD 0
    if !verifySecurityLevel outside req.publicKey (req.securityNonce.getD 0) claimed then
      .error (403, "Invalid security level proof")
    else if claimed < minLevel ∧ !lobbyEnabled s then
      .error (403, "Security level " ++ toString claimed ++ " is below minimum " ++ toString minLevel)
    else .ok claimed
  else .ok 0

def powGate (outside : Outside) (s : AuthState) (req : VerifyRequest) : Except HttpError Unit :=
  let minPow := ((s.setting "min_pow_level").bind (parseUnsigned (2 ^ 8))).getD 0
  if 0 < minPow then
    match req.powProof with
    | none => .error (403, "pow_required")
    | some proof =>
      if proof.level.toNat < minPow then .error (403, "pow_required")
      else
        match parseUnsigned (2 ^ 64) proof.nonce with
        | none => .error (400, "Invalid pow_proof nonce")
        | some nonce =>
          if verifySecurityLevel outside req.publicKey (UInt64.ofNat nonce) proof.level.toNat then .ok ()
          else .error (403, "pow_required")
  else .ok ()

def certGate (outside : Outside) (s : AuthState) (req : VerifyRequest) : Except HttpError Unit :=
  if (s.setting "cert_mode").getD "none" = "none" then .ok ()
  else
    let master := (req.subkeyCert.map (·.masterPubkey)).getD req.publicKey
    if outside.certSatisfied req master then .ok () else .error (403, "cert_required")

-- Every gate that refuses before anything has been written.
def admissionGates (outside : Outside) (s : AuthState) (req : VerifyRequest) (canonical : String)
    (master : Option String) (now : Int) : Except HttpError Nat :=
  if s.isBanned canonical now then .error (403, "User is banned")
  else if s.isDeniedByFederatedPolicy (master.getD canonical) then .error (403, "Access denied")
  else
    match securityGate outside s req canonical with
    | .error e => .error e
    | .ok claimed =>
      match powGate outside s req, certGate outside s req with
      | .error e, _ => .error e
      | .ok _, .error e => .error e
      | .ok _, .ok _ => .ok claimed

-- A newcomer from an address a banned key last used waits for a moderator.
def banMatch (s : AuthState) (req : VerifyRequest) (canonical : String) (env : VerifyEnv) :
    Option String :=
  match env.ipHash with
  | none => none
  | some hash =>
    if 0 < existingUsers s ∧ req.isHub ≠ some true ∧ canonical ∉ s.db.users then
      ((s.tables.banIpFlags.filter fun flag =>
          flag.ipHash = hash ∧ flag.bannedPubkey ≠ canonical ∧ env.now < flag.expiresAt).mergeSort
        fun a b => b.expiresAt ≤ a.expiresAt).head?.map (·.bannedPubkey)
    else none

def initialStatus (s : AuthState) (req : VerifyRequest) (matched : Option String) : String :=
  let required := (s.setting "require_approval") == some "true" || s.tables.applicationEnabled
  if matched.isSome ∨ (required ∧ 0 < existingUsers s ∧ req.isHub ≠ some true) then "pending"
  else "approved"

def upsertSubkeyCert (tables : AuthTables) (cert : SubkeyCert) : AuthTables :=
  let row : DeviceRow := { cert := cert, homeHubUrl := cert.fallbackHubs.head?.getD "" }
  { tables with subkeyCerts := tables.subkeyCerts.put cert.masterPubkey cert.subkeyPubkey row }

-- A row that already has a master keeps it.
def upsertUser (db : Db) (canonical : String) (master : Option String) (status : String) (now : Int) :
    Db :=
  let row := match db.users[canonical]? with
    | some user => { user with lastSeenAt := now, masterPubkey := user.masterPubkey.or master }
    | none => { firstSeenAt := now, lastSeenAt := now, approvalStatus := status, masterPubkey := master }
  { db with users := db.users.insert canonical row }

-- The column is read back as an unsigned 32-bit number.
def storedPowLevel (db : Db) (canonical : String) : Nat :=
  ((db.users[canonical]?.map User.powLevel).getD 0 % 2 ^ 32).toNat

def raisePowLevel (db : Db) (canonical : String) (level : Nat) : Db :=
  if storedPowLevel db canonical < level then
    { db with users := db.users.modify canonical fun user => { user with powLevel := level } }
  else db

def seatUser (s : AuthState) (req : VerifyRequest) (canonical : String) (master : Option String)
    (claimed : Nat) (env : VerifyEnv) : AuthState :=
  let matched := banMatch s req canonical env
  let status := initialStatus s req matched
  let tables := match req.subkeyCert with
    | none => s.tables
    | some cert => upsertSubkeyCert s.tables cert
  let flags := match matched with
    | none => tables.admissionFlags
    | some banned => tables.admissionFlags.insertIfNew canonical (banned, env.now)
  let db := raisePowLevel (upsertUser s.db canonical master status env.now) canonical claimed
  { s with db := db, tables := { tables with admissionFlags := flags } }

def redeemableBy (bound : Option String) (candidates : List String) : Bool :=
  bound.all (· ∈ candidates)

def inviteCandidates (req : VerifyRequest) (canonical : String) (master : Option String) : List String :=
  req.publicKey :: canonical :: master.toList

def presentsNamedInvite (s : AuthState) (req : VerifyRequest) (canonical : String)
    (master : Option String) : Bool :=
  ((req.inviteCode.bind fun code => s.tables.invites[code]?).bind (·.boundPubkey)).any
    (· ∈ inviteCandidates req canonical master)

def challengeGate (s : AuthState) (req : VerifyRequest) (now : Int) : Except HttpError AuthState :=
  match req.challengeToken with
  | none => .error (403, "Challenge token required")
  | some text =>
    match s.tables.challengeTokens[text]? with
    | none => .error (403, "Invalid challenge token")
    | some row =>
      if row.consumedAt.isSome then .error (403, "Challenge token already used")
      else if row.expiresAt < now then .error (403, "Challenge token expired")
      else if row.pubkey ≠ req.publicKey then .error (403, "Challenge token pubkey mismatch")
      else .ok { s with tables := { s.tables with
        challengeTokens := s.tables.challengeTokens.insert text { row with consumedAt := some now } } }

structure InviteRedemption where
  createdBy : String
  grantRoleId : Option String
  deriving DecidableEq, Repr

def validateAndUseInvite (s : AuthState) (code : String) (candidates : List String) (now : Int) :
    Except HttpError (AuthState × InviteRedemption) :=
  match s.tables.invites[code]? with
  | none => .error (403, "Invalid invite code")
  | some invite =>
    if invite.expiresAt.any (· < now) then .error (403, "Invite code has expired")
    else if !redeemableBy invite.boundPubkey candidates then
      .error (403, "This invite was issued to a different key")
    else if invite.maxUses.any (· ≤ invite.uses) then .error (403, "Invite code has been used up")
    else
      .ok ({ s with tables := { s.tables with
            invites := s.tables.invites.insert code { invite with uses := invite.uses + 1 } } },
        { createdBy := invite.createdBy, grantRoleId := invite.grantRoleId })

def ROLES_MANAGE : String := "roles.manage"

def roleIsATakeoverToken (db : Db) (roleId : String) : Bool :=
  roleId == BUILTIN_OWNER_ROLE_ID || decide ((roleId, ROLES_MANAGE) ∈ db.rolePermissions)

-- The role an invite hands out, when its guard still holds.
def inviteRole (db : Db) (redemption : InviteRedemption) : Option String :=
  match redemption.grantRoleId with
  | some roleId =>
    if redemption.createdBy = "system" then some roleId
    else
      (db.roles[roleId]?).bind fun role =>
        if (userPermissions db redemption.createdBy).maxPriority ≤ role.priority then none else some roleId
  | none =>
    ((db.readSetting "default_invite_role_id").filter (· ≠ "")).filter fun roleId =>
      roleId ∈ db.roles ∧ !roleIsATakeoverToken db roleId

def assignRole (db : Db) (publicKey roleId : String) : Db :=
  { db with userRoles := insert (publicKey, roleId) db.userRoles }

def admitMember (db : Db) (publicKey : String) : Db :=
  { db with users := db.users.modify publicKey fun user =>
      { user with
        isMember := true
        approvalStatus := if user.approvalStatus ≠ "left" then user.approvalStatus
          else if db.readSetting "require_approval" = some "true" then "pending" else "approved" } }

-- Spending the invite and admission come after the session row; a refusal here leaves that row.
def redeemInvite (s : AuthState) (req : VerifyRequest) (canonical : String) (master : Option String)
    (now : Int) : Except HttpError (AuthState × Option InviteRedemption) :=
  match req.inviteCode with
  | some code =>
    match validateAndUseInvite s code (inviteCandidates req canonical master) now with
    | .error e => .error e
    | .ok (spent, redemption) => .ok (spent, some redemption)
  | none =>
    if s.setting "invite_only" = some "true" then .error (403, "This hub requires an invite code")
    else .ok (s, none)

def admitNewcomer (s : AuthState) (canonical : String) (firstUser : Bool)
    (redemption : Option InviteRedemption) : AuthState :=
  let admitted := admitMember s.db canonical
  let minted := (s.setting "first_boot_owner_invite_code").any (· ≠ "")
  let owned := if firstUser ∧ !minted then assignRole admitted canonical BUILTIN_OWNER_ROLE_ID else admitted
  let granted := match redemption.bind (inviteRole owned) with
    | none => owned
    | some roleId => assignRole owned canonical roleId
  { s with db := granted }

def registerPeer (s : AuthState) (canonical : String) : AuthState :=
  { s with tables := { s.tables with peers := insert canonical s.tables.peers } }

def insertSession (s : AuthState) (session : Session) : AuthState :=
  { s with tables := { s.tables with sessions := s.tables.sessions ++ [session] } }

def sessionScope (s : AuthState) (peer exempt : Bool) (canonical : String) : SessionScope :=
  if peer then .peer
  else if exempt then .member
  else if lobbyEnabled s ∧ storedPowLevel s.db canonical < minSecurityLevel s then .lobby
  else .member

-- From the seat to the token, for an identity every earlier gate let through.
def openSession (s : AuthState) (req : VerifyRequest) (canonical : String) (master : Option String)
    (exempt firstUser : Bool) (env : VerifyEnv) : AuthState × Except HttpError VerifyResponse :=
  let isMember := s.db.users[canonical]?.any (·.isMember)
  let peer := decide (req.isHub = some true) && !isMember
  let challenged := (s.setting "challenge_mode").getD "off" ≠ "off" ∧ !isMember ∧ !peer ∧
    !presentsNamedInvite s req canonical master
  match (if challenged then challengeGate s req env.now else .ok s) with
  | .error e => (s, .error e)
  | .ok passed =>
    let scope := sessionScope passed peer exempt canonical
    let opened := insertSession passed
      { token := env.token, publicKey := canonical, createdAt := env.now, scope := scope
        devicePubkey := some req.publicKey }
    let response := { token := env.token, scope := scope, canonicalPubkey := canonical }
    if peer then (registerPeer opened canonical, .ok response)
    else if isMember then (opened, .ok response)
    else
      match redeemInvite opened req canonical master env.now with
      | .error e => (opened, .error e)
      | .ok (spent, redemption) => (admitNewcomer spent canonical firstUser redemption, .ok response)

def VISIT_TTL_SECS : Int := 60 * 60 * 4

-- The visit row is the session: it carries the token and its expiry.
def recordVisit (s : AuthState) (subject : String) (visitor : VoiceVisitor) (env : VerifyEnv) :
    AuthState :=
  let row := { visitor with token := env.token, expiresAt := env.now + VISIT_TTL_SECS }
  { s with db := { s.db with voiceVisitors := s.db.voiceVisitors.insert subject row } }

def takeChallenge (s : AuthState) (challenge : String) : AuthState :=
  { s with pendingChallenges := s.pendingChallenges.erase challenge }

def verify (outside : Outside) (s : AuthState) (req : VerifyRequest) (env : VerifyEnv) :
    AuthState × Except HttpError VerifyResponse :=
  match s.pendingChallenges[req.challenge]? with
  | none => (s, .error (401, "No pending challenge for this key"))
  | some pending =>
    let taken := takeChallenge s req.challenge
    match checkChallenge outside pending req env.instant with
    | .error e => (taken, .error e)
    | .ok _ =>
      match resolveCanonicalIdentity outside taken req.publicKey req.subkeyCert env.now with
      | .error e => (taken, .error e)
      | .ok (canonical, master) =>
        match req.allianceVoiceGrant.filter (fun _ => canonical ∉ taken.db.users) with
        | some grant =>
          match outside.verifyGrant grant canonical with
          | .error e => (taken, .error e)
          | .ok visitor =>
            (recordVisit taken canonical visitor env,
              .ok { token := env.token, scope := .allianceVoice, canonicalPubkey := canonical })
        | none =>
          match admissionGates outside taken req canonical master env.now with
          | .error e => (taken, .error e)
          | .ok claimed =>
            openSession (seatUser taken req canonical master claimed env) req canonical master
              (ownerExempt taken req canonical) (decide (existingUsers taken = 0)) env

end Wavvon
