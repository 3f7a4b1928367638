import Wavvon.Identity.Registry
import Wavvon.Roles.Handlers

set_option autoImplicit false

namespace Wavvon

open Std (ExtTreeMap)
open Wire (Bytes)

def MODERATION_BAN_TEMPORARY : String := "moderation.ban.temporary"
def MODERATION_BAN_PERMANENT : String := "moderation.ban.permanent"

structure BanRequest where
  targetPublicKey : String
  reason : Option String := none
  durationSeconds : Option UInt64 := none
  deriving DecidableEq, Repr

def requireCanModerate (db : Db) (actorKey targetKey permission : String) : Except HttpError Unit :=
  let actor := userPermissions db actorKey
  if !actor.has permission then .error (403, "Missing permission: " ++ permission)
  else if actor.maxPriority ≤ (userPermissions db targetKey).maxPriority then
    .error (403, "Cannot moderate a user with equal or higher priority")
  else .ok ()

-- The duration is cast to a signed column, and the sum wraps as that type does.
def banExpiry (now : Int) (durationSeconds : Option UInt64) : Option Int :=
  durationSeconds.map fun seconds => (now + seconds.toInt64.toInt).bmod (2 ^ 64)

def FLAG_TTL_SECS : Int := 30 * 24 * 3600

-- The address is the one `ip_sightings` has for the key, if it was seen there recently.
def flagBanned (flags : List BanIpFlag) (banned : String) (sighting : Option String)
    (banExpiresAt : Option Int) (now : Int) : List BanIpFlag :=
  match sighting with
  | none => flags
  | some hash =>
    let expires := (banExpiresAt.map (min · (now + FLAG_TTL_SECS))).getD (now + FLAG_TTL_SECS)
    (flags.filter fun flag => ¬ (flag.ipHash = hash ∧ flag.bannedPubkey = banned)) ++
      [{ ipHash := hash, bannedPubkey := banned, expiresAt := expires }]

def endMembership (db : Db) (target : String) : Db :=
  { db with
    users := db.users.modify target fun user => { user with isMember := false }
    userRoles := db.userRoles.filter fun row => row.1 ≠ target }

def storeBan (s : AuthState) (target : String) (expiresAt : Option Int) (sighting : Option String)
    (now : Int) : AuthState :=
  { s with
    db := endMembership s.db target
    tables := { s.tables with
      bans := (s.tables.bans.filter fun ban => ban.1 ≠ target) ++ [(target, expiresAt)]
      banIpFlags := flagBanned s.tables.banIpFlags target sighting expiresAt now
      sessions := s.tables.sessions.filter fun session => session.publicKey ≠ target } }

def banUser (s : AuthState) (user : AuthUser) (req : BanRequest) (sighting : Option String)
    (now : Int) : AuthState × Except HttpError Unit :=
  let needed := if req.durationSeconds.isSome then MODERATION_BAN_TEMPORARY else MODERATION_BAN_PERMANENT
  match requireCanModerate s.db user.publicKey req.targetPublicKey needed with
  | .error e => (s, .error e)
  | .ok _ =>
    if req.durationSeconds = some 0 then
      (s, .error (400, "duration_seconds must be greater than zero"))
    else if req.targetPublicKey ∉ s.db.users then
      (s, .error (500, "DB error: " ++ foreignKeyViolation "bans" "bans_target_public_key_fkey"))
    else
      (storeBan s req.targetPublicKey (banExpiry now req.durationSeconds) sighting now, .ok ())

-- What a source's `/federation/banlist` answers: the signed text is the payload written out again.
structure BanlistAnswer where
  issuerPubkey : String
  signedText : Bytes
  signature : Option String
  entries : Option (List String)

-- The old rows of the issuer go first, so that lifted bans disappear.
def replaceBans (bans : List (String × String)) (issuer : String) (entries : List String) :
    List (String × String) :=
  ((entries.filter (· ≠ "")).map fun target => (target, issuer)).foldl
    (fun bans row => if row ∈ bans then bans else bans ++ [row])
    (bans.filter fun ban => ban.2 ≠ issuer)

def syncOneSource (keys : Keys) (tables : AuthTables) (url : String) (answer : Option BanlistAnswer) :
    AuthTables :=
  match answer with
  | none => tables
  | some list =>
    let pinned := (tables.federatedBanSources[url]?.bind (·.issuerPubkey)).filter (· ≠ "")
    let signature := (list.signature.bind hexDecode).getD []
    if list.issuerPubkey = "" ∨ pinned.any (· ≠ list.issuerPubkey) ∨
        !(verifySignature keys list.issuerPubkey list.signedText signature).isOk then tables
    else
      { tables with
        federatedBanSources := tables.federatedBanSources.modify url fun source =>
          { source with issuerPubkey := some list.issuerPubkey }
        federatedBans := match list.entries with
          | none => tables.federatedBans
          | some entries => replaceBans tables.federatedBans list.issuerPubkey entries }

inductive ModerationCall where
  | registry (call : RegistryCall)
  | banUser (token : String) (req : BanRequest) (sighting : Option String) (now : Int)
  | syncOneSource (url : String) (answer : Option BanlistAnswer)

def bansRequest : HttpRequest := { method := .post, path := "/moderation/bans" }

section

variable (outside : Outside) (farm : FarmOutside) (keys : Keys) (s : Registry)

def Registry.banUser (token : String) (req : BanRequest) (sighting : Option String) (now : Int) :
    Registry × Except HttpError Unit :=
  match fromRequestParts farm s.auth s.farm token bansRequest now with
  | (seen, cache, .error e) => ({ s with auth := seen, farm := cache }, .error e)
  | (seen, cache, .ok user) =>
    let answer := Wavvon.banUser seen user req sighting now
    ({ s with auth := answer.1, farm := cache }, answer.2)

def ModerationCall.next : ModerationCall → Registry
  | .registry call => s.next outside farm keys call
  | .banUser token req sighting now => (s.banUser farm token req sighting now).1
  | .syncOneSource url answer =>
    { s with auth := { s.auth with tables := Wavvon.syncOneSource keys s.auth.tables url answer } }

end

theorem banUser_cases (s : AuthState) (user : AuthUser) (req : BanRequest) (sighting : Option String)
    (now : Int) :
    (∃ e, banUser s user req sighting now = (s, .error e)) ∨
      req.targetPublicKey ∈ s.db.users ∧
        banUser s user req sighting now =
          (storeBan s req.targetPublicKey (banExpiry now req.durationSeconds) sighting now, .ok ()) := by
  unfold banUser
  dsimp only
  split
  next => exact .inl ⟨_, rfl⟩
  next =>
    split
    next => exact .inl ⟨_, rfl⟩
    next =>
      split
      next => exact .inl ⟨_, rfl⟩
      next known => exact .inr ⟨not_not.mp known, rfl⟩

end Wavvon

namespace Wavvon.Moderation

open Std (ExtTreeMap)

def MODERATION_KICK : String := "moderation.kick"
def MODERATION_MUTE : String := "moderation.mute"
def MODERATION_TIMEOUT : String := "moderation.timeout"

-- The hub-wide sanctions: the bans are with the sign-in's tables, a mute is its expiry.
structure State where
  auth : AuthState := {}
  mutes : Table (Option Int) := ∅

def State.isMuted (s : State) (publicKey : String) (now : Int) : Bool :=
  s.mutes[publicKey]?.any fun expiresAt => expiresAt.all (now < ·)

def isChannelBanned (db : Db) (channelId publicKey : String) : Bool :=
  decide ((channelId, publicKey) ∈ db.channelBans)

def unbanUser (s : State) (user target : String) : State × Except HttpError Unit :=
  match (userPermissions s.auth.db user).require MODERATION_BAN_PERMANENT with
  | .error e => (s, .error e)
  | .ok _ =>
    let tables := { s.auth.tables with
      bans := s.auth.tables.bans.filter (·.1 ≠ target)
      banIpFlags := s.auth.tables.banIpFlags.filter (·.bannedPubkey ≠ target) }
    ({ s with auth := { s.auth with tables := tables } }, .ok ())

-- The upsert of `mutes`: the last sanction is the one that is left.
def storeMute (s : State) (target : String) (expiresAt : Option Int) : State × Except HttpError Unit :=
  if target ∈ s.auth.db.users then ({ s with mutes := s.mutes.insert target expiresAt }, .ok ())
  else (s, .error (500, "DB error: " ++ foreignKeyViolation "mutes" "mutes_target_public_key_fkey"))

def muteUser (s : State) (user target : String) : State × Except HttpError Unit :=
  match requireCanModerate s.auth.db user target MODERATION_MUTE with
  | .error e => (s, .error e)
  | .ok _ => storeMute s target none

def unmuteUser (s : State) (user target : String) : State × Except HttpError Unit :=
  match (userPermissions s.auth.db user).require MODERATION_MUTE with
  | .error e => (s, .error e)
  | .ok _ => ({ s with mutes := s.mutes.erase target }, .ok ())

-- As for a ban, but a timeout always has a duration and may be of no length.
def timeoutUser (s : State) (user target : String) (durationSeconds : UInt64) (now : Int) :
    State × Except HttpError Unit :=
  match requireCanModerate s.auth.db user target MODERATION_TIMEOUT with
  | .error e => (s, .error e)
  | .ok _ => storeMute s target (banExpiry now (some durationSeconds))

def banUser (s : State) (user : AuthUser) (req : BanRequest) (sighting : Option String) (now : Int) :
    State × Except HttpError Unit :=
  let answer := Wavvon.banUser s.auth user req sighting now
  ({ s with auth := answer.1 }, answer.2)

def kickUser (s : State) (user target : String) : State × Except HttpError Unit :=
  match requireCanModerate s.auth.db user target MODERATION_KICK with
  | .error e => (s, .error e)
  | .ok _ =>
    let tables := { s.auth.tables with
      sessions := s.auth.tables.sessions.filter fun session => session.publicKey ≠ target }
    ({ s with auth := { s.auth with db := endMembership s.auth.db target, tables := tables } }, .ok ())

def channelBan (db : Db) (user channelId target : String) : Db × Except HttpError Unit :=
  match requireCanModerate db user target MODERATION_BAN_PERMANENT with
  | .error e => (db, .error e)
  | .ok _ =>
    if channelId ∉ db.channels then
      (db, .error (500, "DB error: " ++ foreignKeyViolation "channel_bans" "channel_bans_channel_id_fkey"))
    else if target ∉ db.users then
      (db, .error (500, "DB error: " ++ foreignKeyViolation "channel_bans" "channel_bans_target_public_key_fkey"))
    else ({ db with channelBans := insert (channelId, target) db.channelBans }, .ok ())

def channelUnban (db : Db) (user channelId target : String) : Db × Except HttpError Unit :=
  match (userPermissions db user).require MODERATION_BAN_PERMANENT with
  | .error e => (db, .error e)
  | .ok _ => ({ db with channelBans := db.channelBans.erase (channelId, target) }, .ok ())

end Wavvon.Moderation
