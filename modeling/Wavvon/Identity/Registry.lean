import Wavvon.Auth.Ceremonies
import Wavvon.Auth.Extractor
import Wavvon.Identity.Signatures

set_option autoImplicit false

namespace Wavvon

open Std (ExtTreeMap)

-- A member carries the master, or one of the master's registered devices is a member.
def AuthState.masterIsKnownHere (s : AuthState) (master : String) : Bool :=
  s.db.users.toList.any (fun row => row.2.masterPubkey = some master) ||
    (s.tables.subkeyCerts[master]?.getD ∅).toList.any fun row => decide (row.1 ∈ s.db.users)

def masterMismatch : HttpError := (400, "master_pubkey mismatch between URL and body")

def badSignature (e : String) : HttpError := (400, "Bad signature: " ++ e)

def masterUnknown : HttpError := (403, "This hub has no member linked to that master key")

def AuthState.otherMaster (s : AuthState) (subkey master : String) : Bool :=
  s.tables.subkeyCerts.toList.any fun row => row.1 ≠ master ∧ subkey ∈ row.2

def postDevice (keys : Keys) (s : AuthState) (user : AuthUser) (master : String) (cert : SubkeyCert) :
    AuthState × Except HttpError Unit :=
  if cert.masterPubkey ≠ master then (s, .error masterMismatch)
  else if cert.subkeyPubkey ≠ user.publicKey then
    (s, .error (403, "Can only register a device cert for your own key"))
  else
    match cert.verify keys with
    | .error e => (s, .error (badSignature e))
    | .ok _ =>
      if s.otherMaster cert.subkeyPubkey cert.masterPubkey then
        (s, .error (409, "That key is already registered as a device of another identity"))
      else ({ s with tables := upsertSubkeyCert s.tables cert }, .ok ())

-- ON CONFLICT DO NOTHING: the first revocation of a device stays.
def insertRevocation (tables : AuthTables) (entry : RevocationEntry) : AuthTables :=
  match tables.subkeyRevocations.get entry.masterPubkey entry.subkeyPubkey with
  | some _ => tables
  | none => { tables with
      subkeyRevocations :=
        tables.subkeyRevocations.put entry.masterPubkey entry.subkeyPubkey entry }

def postRevocation (keys : Keys) (s : AuthState) (master : String) (entry : RevocationEntry) :
    AuthState × Except HttpError Unit :=
  if entry.masterPubkey ≠ master then (s, .error masterMismatch)
  else
    match entry.verify keys with
    | .error e => (s, .error (badSignature e))
    | .ok _ =>
      if !s.masterIsKnownHere master then (s, .error masterUnknown)
      else ({ s with tables := insertRevocation s.tables entry }, .ok ())

def trimEndSlashes (url : String) : String :=
  String.ofList (url.toList.reverse.dropWhile (· = '/')).reverse

def revocationsUrl (homeHubUrl master : String) : String :=
  trimEndSlashes homeHubUrl ++ "/identity/" ++ master ++ "/revocations"

-- An answer that cannot be fetched or parsed is no answer.
def syncOne (keys : Keys) (answers : String → Option (List RevocationEntry)) (tables : AuthTables)
    (target : String × String) : AuthTables :=
  match answers (revocationsUrl target.2 target.1) with
  | none => tables
  | some entries =>
    entries.foldl (fun tables entry =>
      if (entry.verify keys).isOk then insertRevocation tables entry else tables) tables

def revocationTargets (tables : AuthTables) : List (String × String) :=
  (tables.subkeyCerts.toList.flatMap fun row =>
    (row.2.toList.filter fun device => device.2.homeHubUrl ≠ "").map fun device =>
      (row.1, device.2.homeHubUrl)).dedup

def subkeyRevocationTick (keys : Keys) (answers : String → Option (List RevocationEntry))
    (s : AuthState) : AuthState :=
  { s with tables := (revocationTargets s.tables).foldl (syncOne keys answers) s.tables }

inductive OfferState where
  | pending
  | claimed
  | complete
  deriving DecidableEq, Repr

def OfferState.text : OfferState → String
  | .pending => "pending"
  | .claimed => "claimed"
  | .complete => "complete"

structure OfferRow where
  masterPubkey : String
  homeHubs : List String
  issuedAt : Int64
  expiresAt : Int64
  offerSignature : String
  state : OfferState := .pending
  subkeyPubkey : Option String := none
  deviceLabel : Option String := none
  claimProof : Option String := none
  cert : Option SubkeyCert := none
  wrappedKeyHex : Option String := none
  wrappedDhSeedHex : Option String := none
  createdAt : Int
  updatedAt : Int
  deriving DecidableEq

structure PairingComplete where
  pairingToken : String
  cert : SubkeyCert
  wrappedBlobKeyHex : String
  wrappedDhSeedHex : Option String := none
  deriving DecidableEq, Repr

def MAX_OFFER_LIFETIME_SECS : Nat := 300

def pruneExpired (offers : Table OfferRow) (now : Int) : Table OfferRow :=
  offers.filter fun _ row => now ≤ row.expiresAt.toInt

def checkOffer (keys : Keys) (offer : PairingOffer) (now : Int) : Except HttpError Unit :=
  match offer.verify keys with
  | .error e => .error (badSignature e)
  | .ok _ =>
    if offer.expiresAt ≤ offer.issuedAt then .error (400, "expires_at must exceed issued_at")
    else if MAX_OFFER_LIFETIME_SECS < offer.expiresAt.toNat - offer.issuedAt.toNat then
      .error (400, "offer lifetime exceeds 5 minutes")
    else if offer.expiresAt.toNat ≤ now.toNat then .error (400, "offer is already expired")
    else if (Wire.strBytes offer.pairingToken).length < 32 then .error (400, "pairing_token too short")
    else .ok ()

def postOffer (keys : Keys) (offers : Table OfferRow) (offer : PairingOffer) (now : Int) :
    Table OfferRow × Except HttpError Unit :=
  match checkOffer keys offer now with
  | .error e => (offers, .error e)
  | .ok _ =>
    let row : OfferRow :=
      { masterPubkey := offer.masterPubkey, homeHubs := offer.homeHubs
        issuedAt := offer.issuedAt.toInt64, expiresAt := offer.expiresAt.toInt64
        offerSignature := offer.signature, createdAt := now, updatedAt := now }
    ((pruneExpired offers now).insertIfNew offer.pairingToken row, .ok ())

def unknownToken : HttpError := (404, "Unknown or expired token")

def postClaim (keys : Keys) (offers : Table OfferRow) (claim : PairingClaim) (now : Int) :
    Table OfferRow × Except HttpError Unit :=
  match claim.verify keys with
  | .error e => (offers, .error (400, "Bad proof: " ++ e))
  | .ok _ =>
    let live := pruneExpired offers now
    match live[claim.pairingToken]? with
    | none => (live, .error unknownToken)
    | some row =>
      if row.expiresAt.toInt < now then (live, .error (410, "Token expired"))
      else if row.state ≠ .pending then
        (live, .error (409, "Offer already in state '" ++ row.state.text ++ "'"))
      else
        (live.insert claim.pairingToken
          { row with
            state := .claimed
            subkeyPubkey := some claim.subkeyPubkey
            deviceLabel := some claim.deviceLabel
            claimProof := some claim.proof
            updatedAt := now }, .ok ())

-- This writer names every column but `home_hub_url`: a new row gets the default, an old one keeps its own.
def pairDevice (tables : AuthTables) (cert : SubkeyCert) : AuthTables :=
  let url := ((tables.subkeyCerts.get cert.masterPubkey cert.subkeyPubkey).map (·.homeHubUrl)).getD ""
  { tables with
    subkeyCerts := tables.subkeyCerts.put cert.masterPubkey cert.subkeyPubkey
      { cert := cert, homeHubUrl := url } }

def checkComplete (row : OfferRow) (cert : SubkeyCert) (now : Int) : Except HttpError Unit :=
  if row.expiresAt.toInt < now then .error (410, "Token expired")
  else if row.state ≠ .claimed then
    .error (409, "Offer not in 'claimed' state (current: '" ++ row.state.text ++ "')")
  else if cert.masterPubkey ≠ row.masterPubkey then
    .error (400, "cert master_pubkey doesn't match offer")
  else if some cert.subkeyPubkey ≠ row.subkeyPubkey then
    .error (400, "cert subkey_pubkey doesn't match claim")
  else .ok ()

def postComplete (keys : Keys) (tables : AuthTables) (offers : Table OfferRow)
    (complete : PairingComplete) (now : Int) :
    AuthTables × Table OfferRow × Except HttpError Unit :=
  match complete.cert.verify keys with
  | .error e => (tables, offers, .error (400, "Bad cert signature: " ++ e))
  | .ok _ =>
    let live := pruneExpired offers now
    match live[complete.pairingToken]? with
    | none => (tables, live, .error unknownToken)
    | some row =>
      match checkComplete row complete.cert now with
      | .error e => (tables, live, .error e)
      | .ok _ =>
        (pairDevice tables complete.cert,
          live.insert complete.pairingToken
            { row with
              state := .complete
              cert := some complete.cert
              wrappedKeyHex := some complete.wrappedBlobKeyHex
              wrappedDhSeedHex := complete.wrappedDhSeedHex
              updatedAt := now },
          .ok ())

/-- The sign-in state, the cached farm key and the pairing offers of one hub. -/
structure Registry where
  auth : AuthState := {}
  farm : FarmCache := {}
  pairingOffers : Table OfferRow := ∅

inductive RegistryCall where
  | auth (call : AuthCall)
  | postDevice (token master : String) (cert : SubkeyCert) (now : Int)
  | postRevocation (master : String) (entry : RevocationEntry)
  | revocationTick (answers : String → Option (List RevocationEntry))
  | postOffer (offer : PairingOffer) (now : Int)
  | postClaim (claim : PairingClaim) (now : Int)
  | postComplete (complete : PairingComplete) (now : Int)

def devicesRequest (master : String) : HttpRequest :=
  { method := .post, path := "/identity/" ++ master ++ "/devices" }

section

variable (outside : Outside) (farm : FarmOutside) (keys : Keys)

-- The extractor runs first, and may itself write the row of a farm user.
def Registry.postDevice (s : Registry) (token master : String) (cert : SubkeyCert) (now : Int) :
    Registry × Except HttpError Unit :=
  match fromRequestParts farm s.auth s.farm token (devicesRequest master) now with
  | (seen, cache, .error e) => ({ s with auth := seen, farm := cache }, .error e)
  | (seen, cache, .ok user) =>
    let answer := Wavvon.postDevice keys seen user master cert
    ({ s with auth := answer.1, farm := cache }, answer.2)

def Registry.postComplete (s : Registry) (complete : PairingComplete) (now : Int) :
    Registry × Except HttpError Unit :=
  match Wavvon.postComplete keys s.auth.tables s.pairingOffers complete now with
  | (tables, offers, answer) =>
    ({ s with auth := { s.auth with tables := tables }, pairingOffers := offers }, answer)

def Registry.next (s : Registry) : RegistryCall → Registry
  | .auth call => { s with auth := AuthCall.next (outside.withKeys keys) s.auth call }
  | .postDevice token master cert now => (s.postDevice farm keys token master cert now).1
  | .postRevocation master entry =>
    { s with auth := (Wavvon.postRevocation keys s.auth master entry).1 }
  | .revocationTick answers => { s with auth := subkeyRevocationTick keys answers s.auth }
  | .postOffer offer now =>
    { s with pairingOffers := (Wavvon.postOffer keys s.pairingOffers offer now).1 }
  | .postClaim claim now =>
    { s with pairingOffers := (Wavvon.postClaim keys s.pairingOffers claim now).1 }
  | .postComplete complete now => (s.postComplete keys complete now).1

end

end Wavvon
