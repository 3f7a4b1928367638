import Wavvon.Identity.Wire
import Wavvon.Hub.Permissions
import Wavvon.Shared.Tables

set_option autoImplicit false

namespace Wavvon

open Wire (Bytes)
open Tables (Nested)

abbrev HttpError := Nat × String

structure SubkeyCert where
  masterPubkey : String
  subkeyPubkey : String
  deviceLabel : String
  issuedAt : UInt64
  notAfter : Option UInt64
  fallbackHubs : List String
  signature : String
  deriving DecidableEq, Repr

-- A row of `subkey_certs`, with the hub the revocation worker polls for it.
structure DeviceRow where
  cert : SubkeyCert
  homeHubUrl : String := ""
  deriving DecidableEq, Repr

structure RevocationEntry where
  masterPubkey : String
  subkeyPubkey : String
  revokedAt : UInt64
  signature : String
  deriving DecidableEq, Repr

inductive SessionScope where
  | member
  | lobby
  | peer
  | miniApp
  | allianceVoice
  deriving DecidableEq, Repr

structure Session where
  token : String
  publicKey : String
  createdAt : Int
  expiresAt : Option Int := none
  scope : SessionScope := .member
  devicePubkey : Option String := none
  miniAppChannelId : Option String := none
  deriving DecidableEq, Repr

structure Invite where
  createdBy : String
  maxUses : Option Int
  uses : Int
  expiresAt : Option Int
  grantRoleId : Option String
  boundPubkey : Option String
  createdAt : Int := 0
  deriving DecidableEq, Repr

structure ChallengeToken where
  pubkey : String
  expiresAt : Int
  consumedAt : Option Int
  deriving DecidableEq, Repr

structure BanIpFlag where
  ipHash : String
  bannedPubkey : String
  expiresAt : Int
  deriving DecidableEq, Repr

structure Passkey where
  credId : String
  data : String
  deriving DecidableEq, Repr

structure PasskeyRow where
  userPubkey : String
  passkey : Passkey
  friendlyName : Option String
  createdAt : Int
  lastUsedAt : Option Int := none
  deriving DecidableEq, Repr

structure BanSource where
  policy : String := "hard-reject"
  issuerPubkey : Option String := none
  deriving DecidableEq, Repr

structure AuthTables where
  sessions : List Session := []
  bans : List (String × Option Int) := []
  banOverrides : Table String := ∅
  federatedBans : List (String × String) := []
  -- By url; a ban names the issuer it came from.
  federatedBanSources : Table BanSource := ∅
  peers : Finset String := ∅
  -- By master and device, the primary key of both tables.
  subkeyCerts : Nested String String DeviceRow := ∅
  subkeyRevocations : Nested String String RevocationEntry := ∅
  invites : Table Invite := ∅
  challengeTokens : Table ChallengeToken := ∅
  credentials : Table PasskeyRow := ∅
  admissionFlags : Table (String × Int) := ∅
  banIpFlags : List BanIpFlag := []
  applicationEnabled : Bool := false

structure PendingChallenge where
  publicKey : String
  challengeBytes : Bytes
  expiresAt : Int
  deriving DecidableEq, Repr

structure RegChallenge where
  userPubkey : String
  state : String
  deriving DecidableEq, Repr

structure AuthChallenge where
  userPubkey : String
  state : String
  passkeys : List Passkey
  deriving DecidableEq, Repr

structure AuthState where
  db : Db := {}
  tables : AuthTables := {}
  pendingChallenges : Table PendingChallenge := ∅
  regChallenges : Table RegChallenge := ∅
  authChallenges : Table AuthChallenge := ∅

structure PowProof where
  level : UInt8
  nonce : String
  deriving DecidableEq, Repr

structure VerifyRequest where
  publicKey : String
  challenge : String
  signature : String
  inviteCode : Option String := none
  securityNonce : Option UInt64 := none
  securityLevel : Option UInt32 := none
  powProof : Option PowProof := none
  subkeyCert : Option SubkeyCert := none
  challengeToken : Option String := none
  isHub : Option Bool := none
  certifications : List String := []
  allianceVoiceGrant : Option String := none
  deriving DecidableEq, Repr

structure VerifyResponse where
  token : String
  scope : SessionScope
  canonicalPubkey : String
  deriving DecidableEq, Repr

structure AuthResult where
  credId : String
  data : String
  deriving DecidableEq, Repr

/-- Cryptography, the WebAuthn library, and answers fetched from other hubs. -/
structure Outside where
  verifyAuthChallenge : String → Bytes → Bytes → Bool
  certVerifies : SubkeyCert → Bool
  sha256 : Bytes → Vector UInt8 32
  certSatisfied : VerifyRequest → String → Bool
  verifyGrant : String → String → Except HttpError VoiceVisitor
  startRegistration : String → String → List Bytes → String → Except String String
  finishRegistration : String → String → Except String Passkey
  startAuthentication : List Passkey → String → Except String String
  finishAuthentication : String → String → Except String AuthResult
  updateCredential : String → AuthResult → String

def hexDigit (c : Char) : Option Nat :=
  if '0' ≤ c ∧ c ≤ '9' then some (c.toNat - '0'.toNat)
  else if 'a' ≤ c ∧ c ≤ 'f' then some (c.toNat - 'a'.toNat + 10)
  else if 'A' ≤ c ∧ c ≤ 'F' then some (c.toNat - 'A'.toNat + 10)
  else none

def hexDecodeChars : List Char → Option Bytes
  | [] => some []
  | high :: low :: rest =>
    match hexDigit high, hexDigit low, hexDecodeChars rest with
    | some h, some l, some bytes => some (UInt8.ofNat (h * 16 + l) :: bytes)
    | _, _, _ => none
  | _ => none

def hexDecode (text : String) : Option Bytes := hexDecodeChars text.toList

def hexEncode (bytes : Bytes) : String :=
  let digit (n : Nat) : Char :=
    if n < 10 then Char.ofNat ('0'.toNat + n) else Char.ofNat ('a'.toNat + n - 10)
  String.ofList (bytes.flatMap fun byte => [digit (byte.toNat / 16), digit (byte.toNat % 16)])

def leadingZeroBits : Bytes → Nat
  | [] => 0
  | byte :: rest => if byte = 0 then 8 + leadingZeroBits rest else 7 - byte.toNat.log2

-- The nonce is hashed as eight little-endian bytes after the hex text of the key.
def verifySecurityLevel (outside : Outside) (publicKey : String) (nonce : UInt64)
    (claimedLevel : Nat) : Bool :=
  claimedLevel = 0 || decide (claimedLevel ≤ leadingZeroBits
    (outside.sha256 (Wire.strBytes publicKey ++ Wire.writeU64Le nonce)).toList)

def AuthState.setting (s : AuthState) (key : String) : Option String := s.db.readSetting key

def AuthState.isRevoked (s : AuthState) (key : String) : Bool :=
  s.tables.subkeyRevocations.toList.any fun entry => decide (key ∈ entry.2)

def AuthState.isBanned (s : AuthState) (publicKey : String) (now : Int) : Bool :=
  s.tables.bans.any fun ban => ban.1 = publicKey ∧ ban.2.all (now < ·)

def AuthState.isDeniedByFederatedPolicy (s : AuthState) (checkKey : String) : Bool :=
  match s.tables.banOverrides[checkKey]? with
  | some "whitelist" => false
  | some "blacklist" => true
  | _ =>
    let bans := s.tables.federatedBans.filter fun ban => ban.1 = checkKey
    let sourcesOf := fun issuer =>
      s.tables.federatedBanSources.toList.filter fun source => source.2.issuerPubkey = some issuer
    bans.any (fun ban => (sourcesOf ban.2).any fun source => source.2.policy = "hard-reject") ||
      bans.any fun ban => sourcesOf ban.2 = []

end Wavvon
