import Wavvon.Auth.State

set_option autoImplicit false

namespace Wavvon

open Wire (Bytes)

-- What the ed25519 and SHA-2 libraries answer; keys and signatures are raw bytes here.
structure Keys where
  keyFromBytes : Bytes → Bool
  ed25519 : Bytes → Bytes → Bytes → Bool
  sha256 : Bytes → Vector UInt8 32

-- The key is decoded, so every spelling of it verifies the same signatures.
def verifySignature (keys : Keys) (publicKeyHex : String) (message signatureBytes : Bytes) :
    Except String Unit :=
  match hexDecode publicKeyHex with
  | none => .error "Invalid public key hex"
  | some key =>
    if key.length ≠ 32 then .error "Public key must be 32 bytes"
    else if !keys.keyFromBytes key then .error "Invalid public key bytes"
    else if signatureBytes.length ≠ 64 then .error "Signature must be 64 bytes"
    else if keys.ed25519 key message signatureBytes then .ok ()
    else .error "Signature verification failed"

def checkSig (keys : Keys) (pubkeyHex : String) (signingBytes : Bytes) (signatureHex : String) :
    Except String Unit :=
  match hexDecode signatureHex with
  | none => .error "Invalid signature hex"
  | some signature => verifySignature keys pubkeyHex signingBytes signature

def verifyAuthChallenge (keys : Keys) (publicKeyHex : String) (challenge signature : Bytes) :
    Except String Unit :=
  match Wire.authChallengeSigningBytes challenge with
  | .error e => .error e
  | .ok message => verifySignature keys publicKeyHex message signature

def SubkeyCert.toSigningBytes (cert : SubkeyCert) : Bytes :=
  Wire.SubkeyCert.signingBytes cert.masterPubkey cert.subkeyPubkey cert.deviceLabel cert.issuedAt
    cert.notAfter cert.fallbackHubs

def SubkeyCert.verify (keys : Keys) (cert : SubkeyCert) : Except String Unit :=
  checkSig keys cert.masterPubkey cert.toSigningBytes cert.signature

def RevocationEntry.toSigningBytes (entry : RevocationEntry) : Bytes :=
  Wire.RevocationEntry.signingBytes entry.masterPubkey entry.subkeyPubkey entry.revokedAt

def RevocationEntry.verify (keys : Keys) (entry : RevocationEntry) : Except String Unit :=
  checkSig keys entry.masterPubkey entry.toSigningBytes entry.signature

structure HomeHubList where
  masterPubkey : String
  hubs : List String
  issuedAt : UInt64
  sequence : UInt64
  signature : String
  deriving DecidableEq, Repr

def HomeHubList.toSigningBytes (list : HomeHubList) : Bytes :=
  Wire.HomeHubList.signingBytes list.masterPubkey list.hubs list.issuedAt list.sequence

def HomeHubList.verify (keys : Keys) (list : HomeHubList) : Except String Unit :=
  checkSig keys list.masterPubkey list.toSigningBytes list.signature

structure SignedPrefsBlob where
  masterPubkey : String
  blobVersion : UInt64
  ciphertextHex : String
  signature : String
  deriving DecidableEq, Repr

def SignedPrefsBlob.toSigningBytes (keys : Keys) (blob : SignedPrefsBlob) : Except String Bytes :=
  match hexDecode blob.ciphertextHex with
  | none => .error "Invalid ciphertext hex"
  | some ciphertext =>
    .ok (Wire.SignedPrefsBlob.signingBytes keys.sha256 blob.masterPubkey blob.blobVersion ciphertext)

def SignedPrefsBlob.verify (keys : Keys) (blob : SignedPrefsBlob) : Except String Unit :=
  match blob.toSigningBytes keys with
  | .error e => .error e
  | .ok bytes => checkSig keys blob.masterPubkey bytes blob.signature

structure PairingOffer where
  masterPubkey : String
  homeHubs : List String
  pairingToken : String
  issuedAt : UInt64
  expiresAt : UInt64
  signature : String
  deriving DecidableEq, Repr

def PairingOffer.toSigningBytes (offer : PairingOffer) : Bytes :=
  Wire.PairingOffer.signingBytes offer.masterPubkey offer.homeHubs offer.pairingToken offer.issuedAt
    offer.expiresAt

def PairingOffer.verify (keys : Keys) (offer : PairingOffer) : Except String Unit :=
  checkSig keys offer.masterPubkey offer.toSigningBytes offer.signature

structure PairingClaim where
  pairingToken : String
  subkeyPubkey : String
  deviceLabel : String
  proof : String
  deriving DecidableEq, Repr

def PairingClaim.toSigningBytes (claim : PairingClaim) : Bytes :=
  Wire.PairingClaim.signingBytes claim.pairingToken claim.subkeyPubkey claim.deviceLabel

-- A claim is signed by the device's own key.
def PairingClaim.verify (keys : Keys) (claim : PairingClaim) : Except String Unit :=
  checkSig keys claim.subkeyPubkey claim.toSigningBytes claim.proof

-- Sign-in with the signatures checked by these libraries.
def Outside.withKeys (outside : Outside) (keys : Keys) : Outside :=
  { outside with
    verifyAuthChallenge := fun publicKey challenge signature =>
      (Wavvon.verifyAuthChallenge keys publicKey challenge signature).isOk
    certVerifies := fun cert => (cert.verify keys).isOk
    sha256 := keys.sha256 }

def hexChar (n : Nat) : Char :=
  if n < 10 then Char.ofNat ('0'.toNat + n) else Char.ofNat ('a'.toNat + n - 10)

theorem hexDigit_hexChar : ∀ n < 16, hexDigit (hexChar n) = some n := by
  decide

def hexChars (bytes : Bytes) : List Char :=
  bytes.flatMap fun byte => [hexChar (byte.toNat / 16), hexChar (byte.toNat % 16)]

theorem hexEncode_toList (bytes : Bytes) : (hexEncode bytes).toList = hexChars bytes :=
  String.toList_ofList

theorem hexDecodeChars_hexChars (bytes : Bytes) : hexDecodeChars (hexChars bytes) = some bytes := by
  induction bytes with
  | nil => rfl
  | cons byte rest ih =>
    have small := byte.toNat_lt
    have high := hexDigit_hexChar (byte.toNat / 16) (by omega)
    have low := hexDigit_hexChar (byte.toNat % 16) (by omega)
    have whole : byte.toNat / 16 * 16 + byte.toNat % 16 = byte.toNat := by omega
    simp only [hexChars, List.flatMap_cons, List.cons_append, List.nil_append] at ih ⊢
    rw [hexDecodeChars, high, low, ih]
    simp [whole]

@[simp] theorem hexDecode_hexEncode (bytes : Bytes) : hexDecode (hexEncode bytes) = some bytes := by
  rw [hexDecode, hexEncode_toList, hexDecodeChars_hexChars]

theorem checkSig_iff {keys : Keys} {key signatureHex : String} {bytes : Bytes} :
    checkSig keys key bytes signatureHex = .ok () ↔
      ∃ signature, hexDecode signatureHex = some signature ∧ verifySignature keys key bytes signature = .ok () := by
  unfold checkSig
  cases hexDecode signatureHex <;> simp

-- Stands for holders who have signed whatever a concrete run presents: a signature is the key twice.
def openKeys : Keys where
  keyFromBytes _ := true
  ed25519 key _ signature := decide (signature = key ++ key)
  sha256 _ := Vector.replicate 32 0

def namedKey (n : UInt8) : String := hexEncode (List.replicate 32 n)

def signedBy (n : UInt8) : String := hexEncode (List.replicate 64 n)

theorem checkSig_signedBy (n : UInt8) (bytes : Bytes) :
    checkSig openKeys (namedKey n) bytes (signedBy n) = .ok () := by
  have twice : List.replicate 64 n = List.replicate 32 n ++ List.replicate 32 n := by
    rw [List.replicate_append_replicate]
  simp [checkSig, verifySignature, namedKey, signedBy, openKeys, twice]

end Wavvon
