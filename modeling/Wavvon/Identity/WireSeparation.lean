import Wavvon.Identity.Wire

set_option autoImplicit false

namespace Wavvon.Wire

open Codes

theorem strBytes_ofList (chars : List Char) :
    strBytes (String.ofList chars) = chars.flatMap String.utf8EncodeChar := by
  simp [strBytes, List.utf8Encode]

theorem strBytes_ofList_length (chars : List Char) :
    (strBytes (String.ofList chars)).length ≤ 4 * chars.length := by
  rw [strBytes_ofList]
  induction chars with
  | nil => simp
  | cons c rest ih =>
    have width := c.utf8Size_le_four
    simp only [List.flatMap_cons, List.length_append, String.length_utf8EncodeChar, List.length_cons]
    omega

theorem decimal_short (v : UInt32) : Short (toString v.toNat) := by
  have digits : (Nat.toDigits 10 v.toNat).length ≤ 10 :=
    (Nat.length_toDigits_le_iff (by omega) (by omega)).mpr (by have := v.toNat_lt; omega)
  have bytes := strBytes_ofList_length (Nat.toDigits 10 v.toNat)
  rw [← Nat.repr_eq_ofList_toDigits] at bytes
  change (strBytes (Nat.repr v.toNat)).length < 2 ^ 32
  omega

theorem writeDecimal_cancels : Cancels writeDecimal (fun _ => True) := by
  intro a b rest tail _ _ same
  obtain ⟨text, rests⟩ := writeStr_cancels _ _ rest tail (decimal_short a) (decimal_short b) same
  have digits : Nat.toDigits 10 a.toNat = Nat.toDigits 10 b.toNat := by
    rw [← Nat.toList_repr, ← Nat.toList_repr]
    exact congrArg String.toList text
  have value : a.toNat = b.toNat := by
    rw [← Nat.ofDigitChars_ten_toDigits (n := a.toNat), digits, Nat.ofDigitChars_ten_toDigits]
  exact ⟨UInt32.toNat_inj.mp value, rests⟩

theorem writeRecipient_cancels :
    Cancels writeRecipient (fun recipient => Short recipient.1 ∧ Short recipient.2) :=
  writeStr_cancels.seq writeStr_cancels

theorem writeRecipient_ne_nil (recipient : String × String) : writeRecipient recipient ≠ [] := by
  simp [writeRecipient, writeStr_ne_nil]

def ShortEntry (entry : PublicHubEntry) : Prop := Short entry.hubUrl ∧ Short entry.hubName

theorem writeHubEntry_cancels : Cancels writeHubEntry ShortEntry := by
  rintro ⟨url, name, joined⟩ ⟨url', name', joined'⟩ rest tail short short' same
  simp only [writeHubEntry, List.append_assoc] at same
  obtain ⟨rfl, later⟩ := writeStr_cancels _ _ _ _ short.1 short'.1 same
  obtain ⟨rfl, stamps⟩ := writeStr_cancels _ _ _ _ short.2 short'.2 later
  obtain ⟨rfl, rests⟩ := writeU64Le_cancels _ _ _ _ trivial trivial stamps
  exact ⟨rfl, rests⟩

inductive Format where
  | homeHubList
  | subkeyCert
  | revocationEntry
  | signedPrefsBlob
  | pairingOffer
  | pairingClaim
  | dhKeyRecord
  | dmEnvelope
  | drEnvelope
  | groupDmEnvelope
  | authChallenge
  | webhookDelivery
  | voiceGrant
  | federatedPlaintextDm
  | dmMemberChange
  | senderKeyDist
  | recoveryRequest
  | recoveryAttestation
  | publicHubProfile
  deriving DecidableEq, Repr

def Format.all : List Format :=
  [.homeHubList, .subkeyCert, .revocationEntry, .signedPrefsBlob, .pairingOffer, .pairingClaim,
    .dhKeyRecord, .dmEnvelope, .drEnvelope, .groupDmEnvelope, .authChallenge, .webhookDelivery,
    .voiceGrant, .federatedPlaintextDm, .dmMemberChange, .senderKeyDist, .recoveryRequest,
    .recoveryAttestation, .publicHubProfile]

def Format.tagName : Format → String
  | .homeHubList => "wavvon/home-hub-list/v1"
  | .subkeyCert => "wavvon/subkey-cert/v1"
  | .revocationEntry => "wavvon/revocation/v1"
  | .signedPrefsBlob => "wavvon/prefs-blob/v1"
  | .pairingOffer => "wavvon/pairing-offer/v1"
  | .pairingClaim => "wavvon/pairing-claim/v1"
  | .dhKeyRecord => "wavvon/dh-key/v1"
  | .dmEnvelope => "wavvon/dm-ciphertext/v1"
  | .drEnvelope => "wavvon/dm-ciphertext/v2"
  | .groupDmEnvelope => "wavvon/group-dm-ciphertext/v1"
  | .authChallenge => "wavvon/auth-challenge/v1"
  | .webhookDelivery => "wavvon/webhook-delivery/v1"
  | .voiceGrant => "wavvon/alliance-voice-grant/v1"
  | .federatedPlaintextDm => "wavvon/federated-dm/v1"
  | .dmMemberChange => "wavvon/dm-member-change/v1"
  | .senderKeyDist => "wavvon/group-key-dist/v1"
  | .recoveryRequest => "wavvon/recovery-request/v1"
  | .recoveryAttestation => "wavvon/recovery-attestation/v1"
  | .publicHubProfile => "wavvon/public-hub-profile/v1"

/-- What a caller passes to the format's signing-bytes function, as a tuple. -/
@[reducible] def Args : Format → Type
  | .homeHubList => String × List String × UInt64 × UInt64
  | .subkeyCert => String × String × String × UInt64 × Option UInt64 × List String
  | .revocationEntry => String × String × UInt64
  | .signedPrefsBlob => String × UInt64 × Bytes
  | .pairingOffer => String × List String × String × UInt64 × UInt64
  | .pairingClaim => String × String × String
  | .dhKeyRecord => String × String
  | .dmEnvelope => String × String × String × String
  | .drEnvelope => String × UInt32 × UInt32 × String × String
  | .groupDmEnvelope => String × UInt32 × UInt32 × String × String
  | .authChallenge => Bytes
  | .webhookDelivery => UInt64 × Bytes
  | .voiceGrant => Bytes
  | .federatedPlaintextDm => String × String × String
  | .dmMemberChange => String × String × List String × List String × UInt64
  | .senderKeyDist => String × UInt32 × List (String × String)
  | .recoveryRequest => String × String × String
  | .recoveryAttestation => String × String × String × String
  | .publicHubProfile => String × List PublicHubEntry × UInt64

def signingBytes (sha256 : Bytes → Vector UInt8 32) : (f : Format) → Args f → Except String Bytes
  | .homeHubList, (master, hubs, issuedAt, sequence) =>
    .ok (HomeHubList.signingBytes master hubs issuedAt sequence)
  | .subkeyCert, (master, subkey, label, issuedAt, notAfter, fallback) =>
    .ok (SubkeyCert.signingBytes master subkey label issuedAt notAfter fallback)
  | .revocationEntry, (master, subkey, revokedAt) =>
    .ok (RevocationEntry.signingBytes master subkey revokedAt)
  | .signedPrefsBlob, (master, version, ciphertext) =>
    .ok (SignedPrefsBlob.signingBytes sha256 master version ciphertext)
  | .pairingOffer, (master, hubs, token, issuedAt, expiresAt) =>
    .ok (PairingOffer.signingBytes master hubs token issuedAt expiresAt)
  | .pairingClaim, (token, subkey, label) => .ok (PairingClaim.signingBytes token subkey label)
  | .dhKeyRecord, (pubkey, dh) => .ok (DhKeyRecord.signingBytes pubkey dh)
  | .dmEnvelope, (conv, ciphertext, nonce, dh) =>
    .ok (dmEnvelopeSigningBytes conv ciphertext nonce dh)
  | .drEnvelope, (conv, index, prev, ciphertext, dh) =>
    .ok (drEnvelopeSigningBytes conv index prev ciphertext dh)
  | .groupDmEnvelope, (conv, version, iteration, ciphertext, nonce) =>
    .ok (groupDmEnvelopeSigningBytes conv version iteration ciphertext nonce)
  | .authChallenge, challenge => authChallengeSigningBytes challenge
  | .webhookDelivery, (timestamp, body) => .ok (webhookDeliverySigningBytes timestamp body)
  | .voiceGrant, payload => .ok (voiceGrantSigningBytes payload)
  | .federatedPlaintextDm, (conv, convType, content) =>
    .ok (federatedPlaintextDmSigningBytes conv convType content)
  | .dmMemberChange, (conv, actor, added, removed, issuedAt) =>
    .ok (dmMemberChangeSigningBytes conv actor added removed issuedAt)
  | .senderKeyDist, (conv, version, recipients) =>
    .ok (senderKeyDistSigningBytes conv version recipients)
  | .recoveryRequest, (hub, old, new) => .ok (recoveryRequestSigningBytes hub old new)
  | .recoveryAttestation, (hub, old, new, nonce) =>
    .ok (recoveryAttestationSigningBytes hub old new nonce)
  | .publicHubProfile, (pubkey, hubs, issuedAt) =>
    .ok (PublicHubProfile.signingBytes pubkey hubs issuedAt)

/-- Every string and every list of the arguments is below the width of its length prefix. -/
def Bounded : (f : Format) → Args f → Prop
  | .homeHubList, (master, hubs, _, _) => Short master ∧ ShortVec hubs
  | .subkeyCert, (master, subkey, label, _, _, fallback) =>
    Short master ∧ Short subkey ∧ Short label ∧ ShortVec fallback
  | .revocationEntry, (master, subkey, _) => Short master ∧ Short subkey
  | .signedPrefsBlob, (master, _, _) => Short master
  | .pairingOffer, (master, hubs, token, _, _) => Short master ∧ ShortVec hubs ∧ Short token
  | .pairingClaim, (token, subkey, label) => Short token ∧ Short subkey ∧ Short label
  | .dhKeyRecord, (pubkey, dh) => Short pubkey ∧ Short dh
  | .dmEnvelope, (conv, ciphertext, nonce, dh) =>
    Short conv ∧ Short ciphertext ∧ Short nonce ∧ Short dh
  | .drEnvelope, (conv, _, _, ciphertext, dh) => Short conv ∧ Short ciphertext ∧ Short dh
  | .groupDmEnvelope, (conv, _, _, ciphertext, nonce) =>
    Short conv ∧ Short ciphertext ∧ Short nonce
  | .authChallenge, _ => True
  | .webhookDelivery, _ => True
  | .voiceGrant, _ => True
  | .federatedPlaintextDm, (conv, convType, content) =>
    Short conv ∧ Short convType ∧ Short content
  | .dmMemberChange, (conv, actor, added, removed, _) =>
    Short conv ∧ Short actor ∧ ShortVec added ∧ ShortVec removed
  | .senderKeyDist, (conv, _, recipients) =>
    Short conv ∧ recipients.length < 2 ^ 32 ∧
      ∀ recipient ∈ recipients, Short recipient.1 ∧ Short recipient.2
  | .recoveryRequest, (hub, old, new) => Short hub ∧ Short old ∧ Short new
  | .recoveryAttestation, (hub, old, new, nonce) =>
    Short hub ∧ Short old ∧ Short new ∧ Short nonce
  | .publicHubProfile, (pubkey, hubs, _) =>
    Short pubkey ∧ hubs.length < 2 ^ 32 ∧ ∀ entry ∈ hubs, ShortEntry entry

def Agrees (sha256 : Bytes → Vector UInt8 32) : (f : Format) → Args f → Args f → Prop
  | .signedPrefsBlob, (master, version, ciphertext), (master', version', ciphertext') =>
    master = master' ∧ version = version' ∧ sha256 ciphertext = sha256 ciphertext'
  | .senderKeyDist, (conv, version, recipients), (conv', version', recipients') =>
    conv = conv' ∧ version = version' ∧ recipients.Perm recipients'
  | _, a, b => a = b

-- The part of a message after its tag, grouped the way it is read back: field by field.
def body (sha256 : Bytes → Vector UInt8 32) : (f : Format) → Args f → Bytes
  | .homeHubList, (master, hubs, issuedAt, sequence) =>
    writeStr master ++ (writeStrVec hubs ++ (writeU64Le issuedAt ++ writeU64Le sequence))
  | .subkeyCert, (master, subkey, label, issuedAt, notAfter, fallback) =>
    writeStr master ++ (writeStr subkey ++ (writeStr label ++
      (writeU64Le issuedAt ++ (writeNotAfter notAfter ++ writeStrVec fallback))))
  | .revocationEntry, (master, subkey, revokedAt) =>
    writeStr master ++ (writeStr subkey ++ writeU64Le revokedAt)
  | .signedPrefsBlob, (master, version, ciphertext) =>
    writeStr master ++ (writeU64Le version ++ (sha256 ciphertext).toList)
  | .pairingOffer, (master, hubs, token, issuedAt, expiresAt) =>
    writeStr master ++ (writeStrVec hubs ++ (writeStr token ++
      (writeU64Le issuedAt ++ writeU64Le expiresAt)))
  | .pairingClaim, (token, subkey, label) =>
    writeStr token ++ (writeStr subkey ++ writeStr label)
  | .dhKeyRecord, (pubkey, dh) => writeStr pubkey ++ writeStr dh
  | .dmEnvelope, (conv, ciphertext, nonce, dh) =>
    writeStr conv ++ (writeStr ciphertext ++ (writeStr nonce ++ writeStr dh))
  | .drEnvelope, (conv, index, prev, ciphertext, dh) =>
    writeStr conv ++ (writeU32Le index ++ (writeU32Le prev ++ (writeStr ciphertext ++ writeStr dh)))
  | .groupDmEnvelope, (conv, version, iteration, ciphertext, nonce) =>
    writeStr conv ++ (writeDecimal version ++ (writeDecimal iteration ++
      (writeStr ciphertext ++ writeStr nonce)))
  | .authChallenge, challenge => challenge
  | .webhookDelivery, (timestamp, payload) => writeU64Le timestamp ++ payload
  | .voiceGrant, payload => payload
  | .federatedPlaintextDm, (conv, convType, content) =>
    writeStr conv ++ (writeStr convType ++ writeStr content)
  | .dmMemberChange, (conv, actor, added, removed, issuedAt) =>
    writeStr conv ++ (writeStr actor ++ (writeStrVec added ++
      (writeStrVec removed ++ writeU64Le issuedAt)))
  | .senderKeyDist, (conv, version, recipients) =>
    writeStr conv ++ (writeDecimal version ++ (sortRecipients recipients).flatMap writeRecipient)
  | .recoveryRequest, (hub, old, new) => writeStr hub ++ (writeStr old ++ writeStr new)
  | .recoveryAttestation, (hub, old, new, nonce) =>
    writeStr hub ++ (writeStr old ++ (writeStr new ++ writeStr nonce))
  | .publicHubProfile, (pubkey, hubs, issuedAt) =>
    writeStr pubkey ++ (writeU64Le issuedAt ++ (writeLen hubs.length ++ hubs.flatMap writeHubEntry))

theorem signingBytes_eq (sha256 : Bytes → Vector UInt8 32) (f : Format) (a : Args f) (bytes : Bytes)
    (signed : signingBytes sha256 f a = .ok bytes) : bytes = tag f.tagName ++ body sha256 f a := by
  cases f with
  | authChallenge =>
    simp only [signingBytes, authChallengeSigningBytes] at signed
    split at signed
    · cases signed
    · cases signed; rfl
  | _ =>
    cases signed
    simp [body, Format.tagName, HomeHubList.signingBytes, SubkeyCert.signingBytes,
      RevocationEntry.signingBytes, SignedPrefsBlob.signingBytes, PairingOffer.signingBytes,
      PairingClaim.signingBytes, DhKeyRecord.signingBytes, dmEnvelopeSigningBytes,
      drEnvelopeSigningBytes, groupDmEnvelopeSigningBytes, webhookDeliverySigningBytes,
      voiceGrantSigningBytes, federatedPlaintextDmSigningBytes, dmMemberChangeSigningBytes,
      senderKeyDistSigningBytes, recoveryBundleBytes, recoveryRequestSigningBytes,
      recoveryAttestationSigningBytes, PublicHubProfile.signingBytes]

-- No tag contains the byte that ends it, so none is the beginning of another.
theorem tagName_clean (f : Format) : (0 : UInt8) ∉ strBytes f.tagName := by
  cases f <;> decide

theorem tagName_injective : Function.Injective Format.tagName := by
  have found (f : Format) : Format.all.find? (fun g => g.tagName = f.tagName) = some f := by
    cases f <;> decide
  intro f g same
  have atF := found f
  rw [same, found g] at atF
  exact (Option.some.inj atF).symm

theorem tag_cancels (f g : Format) (rest tail : Bytes)
    (same : tag f.tagName ++ rest = tag g.tagName ++ tail) : f = g ∧ rest = tail := by
  obtain ⟨names, rests⟩ := cancels_terminated 0 _ _ rest tail (tagName_clean f) (tagName_clean g) same
  exact ⟨tagName_injective (strBytes_injective names), rests⟩

theorem recipients_perm (as bs : List (String × String))
    (shortA : ∀ recipient ∈ as, Short recipient.1 ∧ Short recipient.2)
    (shortB : ∀ recipient ∈ bs, Short recipient.1 ∧ Short recipient.2)
    (same : (sortRecipients as).flatMap writeRecipient = (sortRecipients bs).flatMap writeRecipient) :
    as.Perm bs := by
  have sorted : sortRecipients as = sortRecipients bs := by
    apply writeRecipient_cancels.uncounted writeRecipient_ne_nil _ _ _ _ same
    · intro recipient member
      exact shortA recipient ((List.perm_insertionSort _ as).mem_iff.mp member)
    · intro recipient member
      exact shortB recipient ((List.perm_insertionSort _ bs).mem_iff.mp member)
  calc as.Perm (sortRecipients as) := (List.perm_insertionSort _ as).symm
    _ = sortRecipients bs := sorted
    List.Perm _ bs := List.perm_insertionSort _ bs

theorem body_agrees (sha256 : Bytes → Vector UInt8 32) (f : Format) (a b : Args f)
    (shortA : Bounded f a) (shortB : Bounded f b) (same : body sha256 f a = body sha256 f b) :
    Agrees sha256 f a b := by
  cases f with
  | homeHubList =>
    have fields := writeStr_cancels.last (writeStrVec_cancels.last
      (writeU64Le_cancels.last writeU64Le_cancels.distinct))
    exact fields a b ⟨shortA.1, shortA.2, trivial, trivial⟩ ⟨shortB.1, shortB.2, trivial, trivial⟩ same
  | subkeyCert =>
    have fields := writeStr_cancels.last (writeStr_cancels.last (writeStr_cancels.last
      (writeU64Le_cancels.last (writeNotAfter_cancels.last writeStrVec_cancels.distinct))))
    exact fields a b ⟨shortA.1, shortA.2.1, shortA.2.2.1, trivial, trivial, shortA.2.2.2⟩
      ⟨shortB.1, shortB.2.1, shortB.2.2.1, trivial, trivial, shortB.2.2.2⟩ same
  | revocationEntry =>
    have fields := writeStr_cancels.last (writeStr_cancels.last writeU64Le_cancels.distinct)
    exact fields a b ⟨shortA.1, shortA.2, trivial⟩ ⟨shortB.1, shortB.2, trivial⟩ same
  | signedPrefsBlob =>
    obtain ⟨master, later⟩ := writeStr_cancels _ _ _ _ shortA shortB same
    obtain ⟨version, digest⟩ := writeU64Le_cancels _ _ _ _ trivial trivial later
    exact ⟨master, version, Vector.toList_inj.mp digest⟩
  | pairingOffer =>
    have fields := writeStr_cancels.last (writeStrVec_cancels.last (writeStr_cancels.last
      (writeU64Le_cancels.last writeU64Le_cancels.distinct)))
    exact fields a b ⟨shortA.1, shortA.2.1, shortA.2.2, trivial, trivial⟩
      ⟨shortB.1, shortB.2.1, shortB.2.2, trivial, trivial⟩ same
  | pairingClaim =>
    have fields := writeStr_cancels.last (writeStr_cancels.last writeStr_cancels.distinct)
    exact fields a b shortA shortB same
  | dhKeyRecord =>
    have fields := writeStr_cancels.last writeStr_cancels.distinct
    exact fields a b shortA shortB same
  | dmEnvelope =>
    have fields := writeStr_cancels.last (writeStr_cancels.last
      (writeStr_cancels.last writeStr_cancels.distinct))
    exact fields a b shortA shortB same
  | drEnvelope =>
    have fields := writeStr_cancels.last (writeU32Le_cancels.last (writeU32Le_cancels.last
      (writeStr_cancels.last writeStr_cancels.distinct)))
    exact fields a b ⟨shortA.1, trivial, trivial, shortA.2⟩ ⟨shortB.1, trivial, trivial, shortB.2⟩ same
  | groupDmEnvelope =>
    have fields := writeStr_cancels.last (writeDecimal_cancels.last (writeDecimal_cancels.last
      (writeStr_cancels.last writeStr_cancels.distinct)))
    exact fields a b ⟨shortA.1, trivial, trivial, shortA.2⟩ ⟨shortB.1, trivial, trivial, shortB.2⟩ same
  | authChallenge => exact same
  | webhookDelivery =>
    have fields := writeU64Le_cancels.last (raw_distinct (B := UInt8))
    exact fields a b ⟨trivial, trivial⟩ ⟨trivial, trivial⟩ same
  | voiceGrant => exact same
  | federatedPlaintextDm =>
    have fields := writeStr_cancels.last (writeStr_cancels.last writeStr_cancels.distinct)
    exact fields a b shortA shortB same
  | dmMemberChange =>
    have fields := writeStr_cancels.last (writeStr_cancels.last (writeStrVec_cancels.last
      (writeStrVec_cancels.last writeU64Le_cancels.distinct)))
    exact fields a b ⟨shortA.1, shortA.2.1, shortA.2.2.1, shortA.2.2.2, trivial⟩
      ⟨shortB.1, shortB.2.1, shortB.2.2.1, shortB.2.2.2, trivial⟩ same
  | senderKeyDist =>
    obtain ⟨conv, later⟩ := writeStr_cancels _ _ _ _ shortA.1 shortB.1 same
    obtain ⟨version, recipients⟩ := writeDecimal_cancels _ _ _ _ trivial trivial later
    exact ⟨conv, version, recipients_perm _ _ shortA.2.2 shortB.2.2 recipients⟩
  | recoveryRequest =>
    have fields := writeStr_cancels.last (writeStr_cancels.last writeStr_cancels.distinct)
    exact fields a b shortA shortB same
  | recoveryAttestation =>
    have fields := writeStr_cancels.last (writeStr_cancels.last
      (writeStr_cancels.last writeStr_cancels.distinct))
    exact fields a b shortA shortB same
  | publicHubProfile =>
    -- The one format whose bytes are not in argument order: the list comes last.
    obtain ⟨pubkey, hubs, issuedAt⟩ := a
    obtain ⟨pubkey', hubs', issuedAt'⟩ := b
    obtain ⟨rfl, later⟩ := writeStr_cancels _ _ _ _ shortA.1 shortB.1 same
    obtain ⟨rfl, entries⟩ := writeU64Le_cancels _ _ _ _ trivial trivial later
    have sameHubs := (writeHubEntry_cancels.counted writeLen_cancels).distinct hubs hubs'
      shortA.2 shortB.2 entries
    rw [sameHubs]
    rfl

theorem signingBytes_separated (sha256 : Bytes → Vector UInt8 32) (f g : Format) (a : Args f)
    (b : Args g) (bytes : Bytes) (shortA : Bounded f a) (shortB : Bounded g b)
    (signedA : signingBytes sha256 f a = .ok bytes) (signedB : signingBytes sha256 g b = .ok bytes) :
    ∃ same : f = g, Agrees sha256 g (same ▸ a) b := by
  have written : tag f.tagName ++ body sha256 f a = tag g.tagName ++ body sha256 g b :=
    (signingBytes_eq sha256 f a bytes signedA).symm.trans (signingBytes_eq sha256 g b bytes signedB)
  obtain ⟨rfl, bodies⟩ := tag_cancels f g _ _ written
  exact ⟨rfl, body_agrees sha256 f a b shortA shortB bodies⟩

theorem signingBytes_separated_recipients :
    ∃ same : Format.senderKeyDist = Format.senderKeyDist,
      Agrees (fun _ => Vector.replicate 32 0) .senderKeyDist
        (same ▸ ("dm", 1, [("bob", "b1"), ("ann", "a1")])) ("dm", 1, [("ann", "a1"), ("bob", "b1")]) :=
  signingBytes_separated (fun _ => Vector.replicate 32 0) .senderKeyDist .senderKeyDist
    ("dm", 1, [("bob", "b1"), ("ann", "a1")]) ("dm", 1, [("ann", "a1"), ("bob", "b1")])
    (senderKeyDistSigningBytes "dm" 1 [("ann", "a1"), ("bob", "b1")])
    ⟨by unfold Short; decide, by decide, by unfold Short; decide⟩
    ⟨by unfold Short; decide, by decide, by unfold Short; decide⟩
    (by decide) (by decide)

end Wavvon.Wire
