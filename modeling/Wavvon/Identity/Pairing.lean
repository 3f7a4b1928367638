import Wavvon.Identity.Registry
import Wavvon.Shared.Interleaving

set_option autoImplicit false

namespace Wavvon.Pairing

open Std (ExtTreeMap)
open Interleaving (Handler)

/-- What the pairing handlers share: the device registry and the offers. -/
structure Store where
  tables : AuthTables := {}
  offers : Table OfferRow := ∅

-- A handler reads the clock again for each of its statements.
structure Clock where
  arrival : Int
  prune : Int
  read : Int
  write : Int
  deriving DecidableEq, Repr

def Clock.still (now : Int) : Clock := { arrival := now, prune := now, read := now, write := now }

def offerRow (offer : PairingOffer) (now : Int) : OfferRow :=
  { masterPubkey := offer.masterPubkey, homeHubs := offer.homeHubs
    issuedAt := offer.issuedAt.toInt64, expiresAt := offer.expiresAt.toInt64
    offerSignature := offer.signature, createdAt := now, updatedAt := now }

-- `UPDATE … WHERE state = 'pending'`: another state keeps its row.
def markClaimed (claim : PairingClaim) (now : Int) (row : OfferRow) : OfferRow :=
  if row.state = .pending then
    { row with
      state := .claimed
      subkeyPubkey := some claim.subkeyPubkey
      deviceLabel := some claim.deviceLabel
      claimProof := some claim.proof
      updatedAt := now }
  else row

def markComplete (complete : PairingComplete) (now : Int) (row : OfferRow) : OfferRow :=
  if row.state = .claimed then
    { row with
      state := .complete
      cert := some complete.cert
      wrappedKeyHex := some complete.wrappedBlobKeyHex
      wrappedDhSeedHex := complete.wrappedDhSeedHex
      updatedAt := now }
  else row

inductive Statement where
  | prune (now : Int)
  | read
  | insertOffer (offer : PairingOffer) (now : Int)
  | setClaimed (claim : PairingClaim) (now : Int)
  | setComplete (complete : PairingComplete) (now : Int)
  deriving DecidableEq, Repr

-- The transaction of a completion takes effect as one statement.
def Statement.effect : Statement → Store → Store
  | .prune now, s => { s with offers := pruneExpired s.offers now }
  | .read, s => s
  | .insertOffer offer now, s =>
    { s with offers := s.offers.insertIfNew offer.pairingToken (offerRow offer now) }
  | .setClaimed claim now, s => { s with offers := s.offers.modify claim.pairingToken (markClaimed claim now) }
  | .setComplete complete now, s =>
    { tables := pairDevice s.tables complete.cert
      offers := s.offers.modify complete.pairingToken (markComplete complete now) }

abbrev Pair (A : Type) := Handler Store Statement A

def exec {A : Type} (statement : Statement) (read : Store → A) : Pair A :=
  .exec statement statement.effect read

section

def openOffer (offer : PairingOffer) (clock : Clock) : Pair (Except HttpError Unit) := do
  exec (.prune clock.prune) fun _ => ()
  exec (.insertOffer offer clock.write) fun _ => .ok ()

-- The answer does not ask how many rows the update has changed.
def claimOffer (claim : PairingClaim) (clock : Clock) : Pair (Except HttpError Unit) := do
  exec (.prune clock.prune) fun _ => ()
  let found ← exec .read fun s => s.offers[claim.pairingToken]?
  match found with
  | none => return .error unknownToken
  | some row =>
    if row.expiresAt.toInt < clock.read then return .error (410, "Token expired")
    else if row.state ≠ .pending then
      return .error (409, "Offer already in state '" ++ row.state.text ++ "'")
    else exec (.setClaimed claim clock.write) fun _ => .ok ()

def completeOffer (complete : PairingComplete) (clock : Clock) : Pair (Except HttpError Unit) := do
  exec (.prune clock.prune) fun _ => ()
  let found ← exec .read fun s => s.offers[complete.pairingToken]?
  match found with
  | none => return .error unknownToken
  | some row =>
    match checkComplete row complete.cert clock.read with
    | .error e => return .error e
    | .ok _ => exec (.setComplete complete clock.write) fun _ => .ok ()

variable (keys : Keys)

def postOffer (offer : PairingOffer) (clock : Clock) : Pair (Except HttpError Unit) :=
  match checkOffer keys offer clock.arrival with
  | .error e => .done (.error e)
  | .ok _ => openOffer offer clock

def postClaim (claim : PairingClaim) (clock : Clock) : Pair (Except HttpError Unit) :=
  match claim.verify keys with
  | .error e => .done (.error (400, "Bad proof: " ++ e))
  | .ok _ => claimOffer claim clock

def postComplete (complete : PairingComplete) (clock : Clock) : Pair (Except HttpError Unit) :=
  match complete.cert.verify keys with
  | .error e => .done (.error (400, "Bad cert signature: " ++ e))
  | .ok _ => completeOffer complete clock

end

inductive PairingStatus where
  | expired
  | pending
  | claimed (subkeyPubkey deviceLabel : String)
  | complete (cert : SubkeyCert) (wrappedBlobKeyHex : String) (wrappedDhSeedHex : Option String)
  deriving DecidableEq, Repr

def PairingStatus.subkey : PairingStatus → Option String
  | .claimed subkeyPubkey _ => some subkeyPubkey
  | .complete cert _ _ => some cert.subkeyPubkey
  | _ => none

-- Reading a column that is NULL into a `String` fails the request.
def nullColumn : HttpError := (500, "unexpected null")

def rowStatus (row : OfferRow) : Except HttpError PairingStatus :=
  match row.state with
  | .pending => .ok .pending
  | .claimed =>
    match row.subkeyPubkey, row.deviceLabel with
    | some subkey, some label => .ok (.claimed subkey label)
    | _, _ => .error nullColumn
  | .complete =>
    match row.cert, row.wrappedKeyHex with
    | some cert, some key => .ok (.complete cert key row.wrappedDhSeedHex)
    | _, _ => .error nullColumn

def getStatus (offers : Table OfferRow) (token : String) (now : Int) : Except HttpError PairingStatus :=
  match offers[token]? with
  | none => .error (404, "Unknown token")
  | some row => if row.expiresAt.toInt < now then .ok .expired else rowStatus row

section

variable (keys : Keys) (s : Store) (now : Int)

-- With nobody in between, the statements are the handlers that run to completion.
theorem postOffer_alone (offer : PairingOffer) :
    (postOffer keys offer (.still now)).alone s =
      ({ s with offers := (Wavvon.postOffer keys s.offers offer now).1 },
        (Wavvon.postOffer keys s.offers offer now).2) := by
  simp only [postOffer, openOffer, Wavvon.postOffer, Clock.still]
  cases checkOffer keys offer now <;> rfl

theorem postClaim_alone (claim : PairingClaim) :
    (postClaim keys claim (.still now)).alone s =
      ({ s with offers := (Wavvon.postClaim keys s.offers claim now).1 },
        (Wavvon.postClaim keys s.offers claim now).2) := by
  simp only [postClaim, claimOffer, Wavvon.postClaim, Clock.still, exec]
  cases claim.verify keys with
  | error e => rfl
  | ok _ =>
    simp only [Handler.alone_bind, Handler.alone_exec, Statement.effect]
    cases found : (pruneExpired s.offers now)[claim.pairingToken]? with
    | none => rfl
    | some row =>
      by_cases expired : row.expiresAt.toInt < now
      next => simp [expired]
      next =>
        by_cases pending : row.state = .pending
        next => simp [expired, pending, Statement.effect, Tables.modify_found found, markClaimed]
        next => simp [expired, pending]

theorem postComplete_alone (complete : PairingComplete) :
    (postComplete keys complete (.still now)).alone s =
      ({ tables := (Wavvon.postComplete keys s.tables s.offers complete now).1
         offers := (Wavvon.postComplete keys s.tables s.offers complete now).2.1 },
        (Wavvon.postComplete keys s.tables s.offers complete now).2.2) := by
  simp only [postComplete, completeOffer, Wavvon.postComplete, Clock.still, exec]
  cases complete.cert.verify keys with
  | error e => rfl
  | ok _ =>
    simp only [Handler.alone_bind, Handler.alone_exec, Statement.effect]
    cases found : (pruneExpired s.offers now)[complete.pairingToken]? with
    | none => rfl
    | some row =>
      dsimp only
      cases checked : checkComplete row complete.cert now with
      | error e => rfl
      | ok _ =>
        have claimed : row.state = .claimed := by
          by_contra other
          unfold checkComplete at checked
          split at checked
          next => cases checked
          next => cases checked
        simp [Statement.effect, Tables.modify_found found, markComplete, claimed]

end

end Wavvon.Pairing
