import Wavvon.Auth.Outcomes

set_option autoImplicit false

namespace Wavvon

open Wire (Bytes)

inductive Method where
  | get
  | post
  | put
  | patch
  | delete
  | other
  deriving DecidableEq, Repr

structure HttpRequest where
  method : Method := .get
  path : String
  deriving DecidableEq, Repr

structure FarmTokenPayload where
  exp : Int
  issPk : String
  sub : String
  deriving DecidableEq, Repr

/-- Decoders and the signature check, and what the farm answers at `/farm/info` just now. -/
structure FarmOutside where
  decodeBase64 : String → Option Bytes
  verifySignature : String → Bytes → Bytes → Bool
  parsePayload : Bytes → Option FarmTokenPayload
  farmInfo : String → Option String

structure FarmCache where
  cachedFarmPubkey : Option String := none
  lastFarmPubkeyFetch : Int := 0
  farmUrl : Option String := none
  deriving DecidableEq, Repr

structure AuthUser where
  publicKey : String
  masterPubkey : Option String
  scope : SessionScope
  deriving DecidableEq, Repr

structure WsAuth where
  publicKey : String
  scope : SessionScope
  miniAppChannelId : Option String
  deriving DecidableEq, Repr

def PENDING_ALLOWED_PATHS : List String := ["/me", "/application", "/application/status"]

def LOBBY_ALLOWED_PATHS : List String :=
  ["/me", "/lobby/status", "/lobby/submit-pow", "/lobby/welcome", "/survey/current", "/survey/submit"]

def MINI_APP_ALLOWED_PATHS : List String := []

def ALLIANCE_VOICE_ALLOWED_PATHS : List String := ["/info", "/identity/me/dh-key"]

def allianceVoicePrefixAllowed (path : String) : Bool :=
  "/identity/".toList.isPrefixOf path.toList && "/dh-key".toList.isSuffixOf path.toList

def pathSegments (path : String) : List String :=
  let trimmed := ((path.toList.dropWhile (· = '/')).reverse.dropWhile (· = '/')).reverse
  (trimmed.splitOn '/').map String.ofList

def peerPathAllowed (request : HttpRequest) : Bool :=
  match request.method, pathSegments request.path with
  | .get, ["alliances"] => true
  | .get, ["alliances", id] => id ≠ "pending-invites"
  | .post, ["alliances", _, "join"] => true
  | .get, ["alliances", _, "channels"] => true
  | .get, ["alliances", _, "people"] => true
  | .get, ["alliances", _, "channels", _, "messages"] => true
  | .post, ["alliances", _, "channels", _, "messages"] => true
  | .get, ["alliances", _, "channels", _, "posts"] => true
  | .get, ["alliances", _, "channels", _, "posts", _] => true
  | .post, ["federation", "dm"] => true
  | .post, ["federation", "dm-member-change"] => true
  | .post, ["federation", "alliance-member"] => true
  | .delete, ["federation", "alliance-member"] => true
  | _, "federation" :: "forum" :: _ => true
  | _, _ => false

def FARM_REFETCH_COOLDOWN : Int := 60

def tryVerifyFarmToken (farm : FarmOutside) (farmPubkeyHex token : String) (now : Int) :
    Except HttpError String :=
  match token.toList.span (· ≠ '.') with
  | (_, []) => .error (401, "Malformed farm token")
  | (payload, _ :: signature) =>
    match farm.decodeBase64 (String.ofList payload) with
    | none => .error (401, "Invalid farm token encoding")
    | some payloadBytes =>
      match farm.decodeBase64 (String.ofList signature) with
      | none => .error (401, "Invalid farm token signature encoding")
      | some signatureBytes =>
        if !farm.verifySignature farmPubkeyHex payloadBytes signatureBytes then
          .error (401, "Invalid farm token signature")
        else
          match farm.parsePayload payloadBytes with
          | none => .error (401, "Malformed farm token payload")
          | some payload =>
            if payload.exp ≤ now then .error (401, "Farm token has expired")
            else if payload.issPk ≠ farmPubkeyHex then
              .error (401, "Farm token iss_pk does not match cached farm pubkey")
            else .ok payload.sub

-- A failure asks the farm for its key again, at most once a minute.
def resolveFarmToken (farm : FarmOutside) (cache : FarmCache) (token : String) (now : Int) :
    FarmCache × Except HttpError String :=
  match cache.cachedFarmPubkey with
  | none => (cache, .error (401, "no_farm_configured"))
  | some farmPubkey =>
    match tryVerifyFarmToken farm farmPubkey token now with
    | .ok sub => (cache, .ok sub)
    | .error e =>
      if FARM_REFETCH_COOLDOWN < now - cache.lastFarmPubkeyFetch then
        match cache.farmUrl with
        | none => (cache, .error e)
        | some url =>
          let fetched := { cache with lastFarmPubkeyFetch := now }
          match farm.farmInfo url with
          | none => (fetched, .error e)
          | some fresh =>
            let renewed := { fetched with cachedFarmPubkey := some fresh }
            match tryVerifyFarmToken farm fresh token now with
            | .ok sub => (renewed, .ok sub)
            | .error _ => (renewed, .error e)
      else (cache, .error e)

def AuthState.sessionRow (s : AuthState) (token : String) : Option (Session × User) :=
  (s.tables.sessions.find? fun session => session.token = token).bind fun session =>
    s.db.users[session.publicKey]?.map fun user => (session, user)

def AuthState.sessionIsRevoked (s : AuthState) (token pubkey : String) : Bool :=
  s.isRevoked pubkey ||
    (s.tables.sessions.find? fun session => session.token = token).any fun session =>
      session.devicePubkey.any s.isRevoked

def AuthState.isFederatedBanned (s : AuthState) (publicKey : String) : Bool :=
  s.isDeniedByFederatedPolicy ((s.db.masterOf publicKey).getD publicKey)

def resolveVisitorToken (s : AuthState) (token : String) (now : Int) : Option (String × String) :=
  (s.db.voiceVisitors.toList.find? fun visit => visit.2.token = token ∧ now < visit.2.expiresAt).map
    fun visit => (visit.1, visit.2.channelId)

def sessionExpired (session : Session) (now : Int) : Bool := session.expiresAt.any (· < now)

def tokenExpired : HttpError := (401, "\x7b\"error\":\"token_expired\"\x7d")

def scopeAllows (scope : SessionScope) (request : HttpRequest) : Except HttpError Unit :=
  match scope with
  | .member => .ok ()
  | .lobby =>
    if request.path ∈ LOBBY_ALLOWED_PATHS then .ok () else .error (403, "lobby_scope_confined")
  | .miniApp =>
    if request.path ∈ MINI_APP_ALLOWED_PATHS then .ok () else .error (403, "mini_app_scope_confined")
  | .peer => if peerPathAllowed request then .ok () else .error (403, "peer_scope_confined")
  | .allianceVoice =>
    if request.path ∈ ALLIANCE_VOICE_ALLOWED_PATHS ∨ allianceVoicePrefixAllowed request.path then .ok ()
    else .error (403, "alliance_voice_scope")

def pendingAllows (status : String) (request : HttpRequest) : Except HttpError Unit :=
  if status = "pending" ∧ request.path ∉ PENDING_ALLOWED_PATHS then
    .error (403, "Account is pending admin approval")
  else .ok ()

-- The hub's own tokens: a session row, or the visit of an allied hub's member.
def extractSession (s : AuthState) (token : String) (request : HttpRequest) (now : Int) :
    Except HttpError (String × SessionScope) := do
  let (publicKey, status, scope) ←
    match s.sessionRow token with
    | some (session, user) =>
      if sessionExpired session now then .error tokenExpired
      else .ok (session.publicKey, user.approvalStatus, session.scope)
    | none =>
      match resolveVisitorToken s token now with
      | some (visitor, _) => .ok (visitor, "approved", .allianceVoice)
      | none => .error (401, "Invalid or expired token")
  if s.sessionIsRevoked token publicKey then .error (401, "Key has been revoked") else .ok ()
  pendingAllows status request
  return (publicKey, scope)

def upsertFarmUser (db : Db) (publicKey : String) (now : Int) : Db :=
  let row : User := match db.users[publicKey]? with
    | some user => { user with lastSeenAt := now }
    | none => { firstSeenAt := now, lastSeenAt := now }
  { db with users := db.users.insert publicKey row }

def redeeming (request : HttpRequest) : Bool :=
  request.method = .post && "/join/".toList.isPrefixOf request.path.toList

-- A farm token is worth an identity; the hub's own gates are passed here, on every request.
def extractFarm (s : AuthState) (publicKey : String) (request : HttpRequest) (now : Int) :
    AuthState × Except HttpError Unit :=
  let seen := { s with db := upsertFarmUser s.db publicKey now }
  let status := (seen.db.users[publicKey]?.map User.approvalStatus).getD "approved"
  if seen.isBanned publicKey now then (seen, .error (403, "User is banned"))
  else if seen.isFederatedBanned publicKey then (seen, .error (403, "Access denied"))
  else if isMember seen.db publicKey ∨ redeeming request then (seen, pendingAllows status request)
  else if seen.setting "invite_only" = some "true" then
    (seen, .error (403, "This hub requires an invite code"))
  else
    ({ seen with db := admitMember seen.db publicKey }, pendingAllows status request)

def fromRequestParts (farm : FarmOutside) (s : AuthState) (cache : FarmCache) (token : String)
    (request : HttpRequest) (now : Int) : AuthState × FarmCache × Except HttpError AuthUser :=
  if '.' ∈ token.toList then
    match resolveFarmToken farm cache token now with
    | (cache, .error e) => (s, cache, .error e)
    | (cache, .ok publicKey) =>
      match extractFarm s publicKey request now with
      | (s, .error e) => (s, cache, .error e)
      | (s, .ok _) =>
        (s, cache, .ok { publicKey := publicKey, masterPubkey := s.db.masterOf publicKey, scope := .member })
  else
    match extractSession s token request now with
    | .error e => (s, cache, .error e)
    | .ok (publicKey, scope) =>
      match scopeAllows scope request with
      | .error e => (s, cache, .error e)
      | .ok _ =>
        (s, cache, .ok { publicKey := publicKey, masterPubkey := s.db.masterOf publicKey, scope := scope })

-- The identity, approval status, scope and bound channel a socket's token stands for.
def resolveWsToken (farm : FarmOutside) (s : AuthState) (cache : FarmCache) (token : String) (now : Int) :
    FarmCache × Except HttpError (String × String × SessionScope × Option String) :=
  match s.sessionRow token with
  | some (session, user) =>
    if sessionExpired session now then (cache, .error tokenExpired)
    else if session.scope = .lobby then (cache, .error (403, "lobby_scope_confined"))
    else if session.scope = .peer then (cache, .error (403, "peer_scope_confined"))
    else
      (cache, .ok (session.publicKey, user.approvalStatus, session.scope, session.miniAppChannelId))
  | none =>
    match resolveVisitorToken s token now with
    | some (visitor, _) => (cache, .ok (visitor, "approved", .allianceVoice, none))
    | none =>
      if '.' ∈ token.toList then
        match resolveFarmToken farm cache token now with
        | (cache, .error e) => (cache, .error e)
        | (cache, .ok publicKey) =>
          let status := (s.db.users[publicKey]?.map User.approvalStatus).getD "approved"
          (cache, .ok (publicKey, status, .member, none))
      else (cache, .error (401, "Invalid or expired token"))

def validateWsToken (farm : FarmOutside) (s : AuthState) (cache : FarmCache) (token : String) (now : Int) :
    FarmCache × Except HttpError WsAuth :=
  match resolveWsToken farm s cache token now with
  | (cache, .error e) => (cache, .error e)
  | (cache, .ok (publicKey, status, scope, channel)) =>
    if s.sessionIsRevoked token publicKey then (cache, .error (401, "Key has been revoked"))
    else if status = "pending" then (cache, .error (403, "Account is pending admin approval"))
    else if s.isBanned publicKey now then (cache, .error (403, "User is banned"))
    else (cache, .ok { publicKey := publicKey, scope := scope, miniAppChannelId := channel })

end Wavvon
