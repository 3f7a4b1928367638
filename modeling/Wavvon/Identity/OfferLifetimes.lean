import Wavvon.Identity.Pairing

set_option autoImplicit false

namespace Wavvon.Pairing

open Std (ExtTreeMap)

/-- The rows an offer has, from its insertion on: no statement touches its expiry or its master. -/
inductive RowOf (offer : PairingOffer) : OfferRow → Prop where
  | posted (now : Int) : RowOf offer (offerRow offer now)
  | claimed (claim : PairingClaim) (now : Int) {row : OfferRow} (before : RowOf offer row) :
    RowOf offer (markClaimed claim now row)
  | completed (complete : PairingComplete) (now : Int) {row : OfferRow} (before : RowOf offer row) :
    RowOf offer (markComplete complete now row)

/-- A time at which a request with the offer's token is accepted where the offer may be, or is. -/
inductive TokenTaken (keys : Keys) (offer : PairingOffer) (now : Int) : Prop where
  | offered (offers : Table OfferRow) (accepted : (Wavvon.postOffer keys offers offer now).2 = .ok ())
  | claimed (offers : Table OfferRow) (row : OfferRow) (stored : RowOf offer row)
    (found : offers[offer.pairingToken]? = some row) (claim : PairingClaim)
    (its : claim.pairingToken = offer.pairingToken) (accepted : (Wavvon.postClaim keys offers claim now).2 = .ok ())
  | completed (tables : AuthTables) (offers : Table OfferRow) (row : OfferRow) (stored : RowOf offer row)
    (found : offers[offer.pairingToken]? = some row) (complete : PairingComplete)
    (its : complete.pairingToken = offer.pairingToken)
    (accepted : (Wavvon.postComplete keys tables offers complete now).2.2 = .ok ())

/-- An offer that a hub accepts at a time is not taken after five more minutes, whoever can sign what. -/
def OfferShortLived (offer : PairingOffer) (created : Int) : Prop :=
  ∀ keys, checkOffer keys offer created = .ok () → ∀ now, created ≤ now → TokenTaken keys offer now →
    now ≤ created + MAX_OFFER_LIFETIME_SECS

-- The last second at which the token is taken: the expiry, and one less where its column cannot hold it.
def deadline (offer : PairingOffer) : Int := max (offer.expiresAt.toNat - 1) offer.expiresAt.toInt64.toInt

-- Verifies whatever is well formed.
def anyKeys : Keys where
  keyFromBytes _ := true
  ed25519 _ _ _ := true
  sha256 _ := Vector.replicate 32 0

def OfferDated (offer : PairingOffer) (created : Int) : Prop :=
  checkOffer anyKeys offer created = .ok () → deadline offer ≤ created + MAX_OFFER_LIFETIME_SECS

section

variable {keys : Keys} {offer : PairingOffer} {row : OfferRow} {now created : Int}

theorem RowOf.expiresAt (stored : RowOf offer row) : row.expiresAt = offer.expiresAt.toInt64 := by
  induction stored with
  | posted now => rfl
  | claimed claim now _ ih =>
    rw [markClaimed]
    split
    · exact ih
    · exact ih
  | completed complete now _ ih =>
    rw [markComplete]
    split
    · exact ih
    · exact ih

theorem verifySignature_ok {key : String} {message signature : Wire.Bytes} :
    verifySignature keys key message signature = .ok () ↔
      ∃ bytes, hexDecode key = some bytes ∧ bytes.length = 32 ∧ keys.keyFromBytes bytes = true ∧
        signature.length = 64 ∧ keys.ed25519 bytes message signature = true := by
  unfold verifySignature
  cases hexDecode key with
  | none => simp
  | some bytes =>
    simp only [Option.some.injEq, exists_eq_left', Bool.not_eq_true']
    split
    next short => simp [short]
    next fits =>
      split
      next unknown => simp [unknown]
      next known =>
        split
        next short => simp [short]
        next whole => split <;> simp_all

theorem anyKeys_verifies {key : String} {message other signature : Wire.Bytes}
    (verified : verifySignature keys key message signature = .ok ()) :
    verifySignature anyKeys key other signature = .ok () := by
  obtain ⟨bytes, decoded, fits, _, whole, _⟩ := verifySignature_ok.mp verified
  exact verifySignature_ok.mpr ⟨bytes, decoded, fits, rfl, whole, rfl⟩

theorem anyKeys_offer (verified : offer.verify keys = .ok ()) : offer.verify anyKeys = .ok () := by
  rw [PairingOffer.verify, checkSig_iff] at verified ⊢
  obtain ⟨signature, decoded, verified⟩ := verified
  exact ⟨signature, decoded, anyKeys_verifies verified⟩

theorem checkOffer_ok : checkOffer keys offer now = .ok () ↔
    offer.verify keys = .ok () ∧ offer.issuedAt < offer.expiresAt ∧
      offer.expiresAt.toNat - offer.issuedAt.toNat ≤ MAX_OFFER_LIFETIME_SECS ∧
      now.toNat < offer.expiresAt.toNat ∧ 32 ≤ (Wire.strBytes offer.pairingToken).length := by
  unfold checkOffer
  cases offer.verify keys with
  | error e => simp
  | ok _ =>
    dsimp only
    split
    next early => simp [UInt64.not_lt.mpr early]
    next later =>
      split
      next long => simp; omega
      next =>
        split
        next => simp; omega
        next =>
          split
          next => simp; omega
          next => simp [UInt64.not_le.mp later]; omega

theorem postOffer_ok {offers : Table OfferRow} :
    (Wavvon.postOffer keys offers offer now).2 = .ok () ↔ checkOffer keys offer now = .ok () := by
  unfold Wavvon.postOffer
  cases checkOffer keys offer now <;> simp

theorem pruned_found {offers : Table OfferRow} {token : String} (live : (pruneExpired offers now)[token]? = some row) :
    offers[token]? = some row ∧ now ≤ row.expiresAt.toInt := by
  rw [pruneExpired, ExtTreeMap.getElem?_filter'] at live
  obtain ⟨found, within⟩ := Option.filter_eq_some_iff.mp live
  exact ⟨found, of_decide_eq_true within⟩

theorem claim_live {offers : Table OfferRow} {claim : PairingClaim}
    (accepted : (Wavvon.postClaim keys offers claim now).2 = .ok ()) :
    ∃ row, (pruneExpired offers now)[claim.pairingToken]? = some row := by
  unfold Wavvon.postClaim at accepted
  cases signed : claim.verify keys with
  | error e => simp [signed] at accepted
  | ok _ =>
    cases live : (pruneExpired offers now)[claim.pairingToken]? with
    | none => simp [signed, live] at accepted
    | some row => exact ⟨row, rfl⟩

theorem complete_live {tables : AuthTables} {offers : Table OfferRow} {complete : PairingComplete}
    (accepted : (Wavvon.postComplete keys tables offers complete now).2.2 = .ok ()) :
    ∃ row, (pruneExpired offers now)[complete.pairingToken]? = some row := by
  unfold Wavvon.postComplete at accepted
  cases signed : complete.cert.verify keys with
  | error e => simp [signed] at accepted
  | ok _ =>
    cases live : (pruneExpired offers now)[complete.pairingToken]? with
    | none => simp [signed, live] at accepted
    | some row => exact ⟨row, rfl⟩

-- Whatever takes the token does so before it expires.
theorem TokenTaken.before (taken : TokenTaken keys offer now) : now ≤ deadline offer := by
  unfold deadline
  cases taken with
  | offered offers accepted =>
    have early := (checkOffer_ok.mp (postOffer_ok.mp accepted)).2.2.2.1
    omega
  | claimed offers row stored found claim its accepted =>
    obtain ⟨live, there⟩ := claim_live accepted
    obtain ⟨same, within⟩ := pruned_found there
    rw [its, found] at same
    cases same
    rw [stored.expiresAt] at within
    omega
  | completed tables offers row stored found complete its accepted =>
    obtain ⟨live, there⟩ := complete_live accepted
    obtain ⟨same, within⟩ := pruned_found there
    rw [its, found] at same
    cases same
    rw [stored.expiresAt] at within
    omega

-- A device whose keys are all zeroes.
def someClaim (token : String) : PairingClaim where
  pairingToken := token
  subkeyPubkey := hexEncode (List.replicate 32 0)
  deviceLabel := ""
  proof := hexEncode (List.replicate 64 0)

theorem someClaim_verifies (token : String) : (someClaim token).verify anyKeys = .ok () := by
  rw [PairingClaim.verify, checkSig_iff]
  exact ⟨List.replicate 64 0, hexDecode_hexEncode _,
    verifySignature_ok.mpr ⟨List.replicate 32 0, hexDecode_hexEncode _, rfl, rfl, rfl, rfl⟩⟩

theorem claimed_until {offers : Table OfferRow} {claim : PairingClaim} (signed : claim.verify keys = .ok ())
    (found : offers[claim.pairingToken]? = some row) (pending : row.state = .pending)
    (within : now ≤ row.expiresAt.toInt) : (Wavvon.postClaim keys offers claim now).2 = .ok () := by
  have live : (pruneExpired offers now)[claim.pairingToken]? = some row := by
    rw [pruneExpired, ExtTreeMap.getElem?_filter', found, Option.filter_some, if_pos (decide_eq_true within)]
  simp [Wavvon.postClaim, signed, live, Int.not_lt.mpr within, pending]

-- An offer that was accepted is taken up to its last second.
theorem taken_until (acceptable : checkOffer anyKeys offer created = .ok ()) :
    TokenTaken anyKeys offer (deadline offer) := by
  obtain ⟨signed, later, short, _, long⟩ := checkOffer_ok.mp acceptable
  have column := Wire.toInt_toInt64 offer.expiresAt
  have bound := offer.expiresAt.toNat_lt
  by_cases fits : offer.expiresAt.toNat < 2 ^ 63
  · rw [if_pos fits] at column
    have last : deadline offer = offer.expiresAt.toInt64.toInt := by
      rw [deadline, column]
      omega
    rw [last]
    refine .claimed ((∅ : Table OfferRow).insert offer.pairingToken (offerRow offer created)) _ (.posted created)
      ExtTreeMap.getElem?_insert_self (someClaim offer.pairingToken) rfl ?_
    exact claimed_until (someClaim_verifies _) ExtTreeMap.getElem?_insert_self rfl (Int.le_refl _)
  · rw [if_neg fits] at column
    have last : deadline offer = offer.expiresAt.toNat - 1 := by
      rw [deadline]
      omega
    rw [last]
    exact .offered ∅ (postOffer_ok.mpr (checkOffer_ok.mpr ⟨signed, later, short, by omega, long⟩))

/-- An offer is short lived exactly when it is not dated ahead of the clock that takes it in. -/
theorem offerShortLived_iff : OfferShortLived offer created ↔ OfferDated offer created := by
  constructor
  · intro short acceptable
    by_cases future : created ≤ deadline offer
    · exact short anyKeys acceptable _ future (taken_until acceptable)
    · omega
  · intro dated keys acceptable now _ taken
    obtain ⟨signed, rest⟩ := checkOffer_ok.mp acceptable
    exact taken.before.trans (dated (checkOffer_ok.mpr ⟨anyKeys_offer signed, rest⟩))

end

end Wavvon.Pairing
