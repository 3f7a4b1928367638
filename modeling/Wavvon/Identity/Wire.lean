import Mathlib.Algebra.Group.Int.Defs
import Mathlib.Data.List.Sort
import Wavvon.Shared.Codes

set_option autoImplicit false

namespace Wavvon.Wire

open Codes

abbrev Bytes := List UInt8

def writeU32Le (v : UInt32) : Bytes := littleEndian 4 v.toNat
def writeU64Le (v : UInt64) : Bytes := littleEndian 8 v.toNat

def strBytes (s : String) : Bytes := s.toUTF8.data.toList

-- `len() as u32` keeps the low 32 bits of a length.
def writeLen (n : Nat) : Bytes := writeU32Le (UInt32.ofNat n)

def writeStr (s : String) : Bytes := writeLen (strBytes s).length ++ strBytes s

def writeStrVec (v : List String) : Bytes := writeLen v.length ++ v.flatMap writeStr

def tag (name : String) : Bytes := strBytes name ++ [0]

def HomeHubList.signingBytes (masterPubkey : String) (hubs : List String)
    (issuedAt sequence : UInt64) : Bytes :=
  tag "wavvon/home-hub-list/v1" ++ writeStr masterPubkey ++ writeStrVec hubs ++
    writeU64Le issuedAt ++ writeU64Le sequence

def writeNotAfter : Option UInt64 → Bytes
  | some t => 1 :: writeU64Le t
  | none => [0]

def SubkeyCert.signingBytes (masterPubkey subkeyPubkey deviceLabel : String) (issuedAt : UInt64)
    (notAfter : Option UInt64) (fallbackHubs : List String) : Bytes :=
  tag "wavvon/subkey-cert/v1" ++ writeStr masterPubkey ++ writeStr subkeyPubkey ++
    writeStr deviceLabel ++ writeU64Le issuedAt ++ writeNotAfter notAfter ++ writeStrVec fallbackHubs

def RevocationEntry.signingBytes (masterPubkey subkeyPubkey : String) (revokedAt : UInt64) : Bytes :=
  tag "wavvon/revocation/v1" ++ writeStr masterPubkey ++ writeStr subkeyPubkey ++ writeU64Le revokedAt

def SignedPrefsBlob.signingBytes (sha256 : Bytes → Vector UInt8 32) (masterPubkey : String)
    (blobVersion : UInt64) (ciphertext : Bytes) : Bytes :=
  tag "wavvon/prefs-blob/v1" ++ writeStr masterPubkey ++ writeU64Le blobVersion ++
    (sha256 ciphertext).toList

def PairingOffer.signingBytes (masterPubkey : String) (homeHubs : List String)
    (pairingToken : String) (issuedAt expiresAt : UInt64) : Bytes :=
  tag "wavvon/pairing-offer/v1" ++ writeStr masterPubkey ++ writeStrVec homeHubs ++
    writeStr pairingToken ++ writeU64Le issuedAt ++ writeU64Le expiresAt

def PairingClaim.signingBytes (pairingToken subkeyPubkey deviceLabel : String) : Bytes :=
  tag "wavvon/pairing-claim/v1" ++ writeStr pairingToken ++ writeStr subkeyPubkey ++
    writeStr deviceLabel

def DhKeyRecord.signingBytes (pubkey dhPubkeyHex : String) : Bytes :=
  tag "wavvon/dh-key/v1" ++ writeStr pubkey ++ writeStr dhPubkeyHex

def dmEnvelopeSigningBytes (convId ciphertextHex nonceHex dhPubkeyHex : String) : Bytes :=
  tag "wavvon/dm-ciphertext/v1" ++ writeStr convId ++ writeStr ciphertextHex ++
    writeStr nonceHex ++ writeStr dhPubkeyHex

def drEnvelopeSigningBytes (convId : String) (messageIndex prevCount : UInt32)
    (ciphertextHex dhPubkeyHex : String) : Bytes :=
  tag "wavvon/dm-ciphertext/v2" ++ writeStr convId ++ writeU32Le messageIndex ++
    writeU32Le prevCount ++ writeStr ciphertextHex ++ writeStr dhPubkeyHex

-- The u32 fields are length-prefixed decimal strings, not raw integers.
def writeDecimal (v : UInt32) : Bytes := writeStr (toString v.toNat)

def groupDmEnvelopeSigningBytes (convId : String) (senderKeyVersion iteration : UInt32)
    (ciphertextHex nonceHex : String) : Bytes :=
  tag "wavvon/group-dm-ciphertext/v1" ++ writeStr convId ++ writeDecimal senderKeyVersion ++
    writeDecimal iteration ++ writeStr ciphertextHex ++ writeStr nonceHex

def AUTH_CHALLENGE_LEN : Nat := 32

def authChallengeSigningBytes (challenge : Bytes) : Except String Bytes :=
  if challenge.length ≠ AUTH_CHALLENGE_LEN then
    .error s!"auth challenge is {challenge.length} bytes, expected {AUTH_CHALLENGE_LEN}"
  else .ok (tag "wavvon/auth-challenge/v1" ++ challenge)

def webhookDeliverySigningBytes (timestamp : UInt64) (body : Bytes) : Bytes :=
  tag "wavvon/webhook-delivery/v1" ++ writeU64Le timestamp ++ body

def voiceGrantSigningBytes (payloadJson : Bytes) : Bytes :=
  tag "wavvon/alliance-voice-grant/v1" ++ payloadJson

def federatedPlaintextDmSigningBytes (conversationId convType content : String) : Bytes :=
  tag "wavvon/federated-dm/v1" ++ writeStr conversationId ++ writeStr convType ++ writeStr content

def dmMemberChangeSigningBytes (conversationId actor : String) (added removed : List String)
    (issuedAt : UInt64) : Bytes :=
  tag "wavvon/dm-member-change/v1" ++ writeStr conversationId ++ writeStr actor ++
    writeStrVec added ++ writeStrVec removed ++ writeU64Le issuedAt

def writeRecipient (recipient : String × String) : Bytes :=
  writeStr recipient.1 ++ writeStr recipient.2

-- Rust's `str` order is the lexicographic order of the UTF-8 bytes; `sort_by` is stable, as is
-- insertion of each element before its equals.
def sortRecipients (recipients : List (String × String)) : List (String × String) :=
  recipients.insertionSort fun a b => strBytes a.1 ≤ strBytes b.1

def senderKeyDistSigningBytes (convId : String) (senderKeyVersion : UInt32)
    (recipients : List (String × String)) : Bytes :=
  tag "wavvon/group-key-dist/v1" ++ writeStr convId ++ writeDecimal senderKeyVersion ++
    (sortRecipients recipients).flatMap writeRecipient

def recoveryBundleBytes (name hubPubkey oldPubkey newPubkey : String) : Bytes :=
  tag name ++ writeStr hubPubkey ++ writeStr oldPubkey ++ writeStr newPubkey

def recoveryRequestSigningBytes (hubPubkey oldPubkey newPubkey : String) : Bytes :=
  recoveryBundleBytes "wavvon/recovery-request/v1" hubPubkey oldPubkey newPubkey

def recoveryAttestationSigningBytes (hubPubkey oldPubkey newPubkey requestNonce : String) : Bytes :=
  recoveryBundleBytes "wavvon/recovery-attestation/v1" hubPubkey oldPubkey newPubkey ++
    writeStr requestNonce

structure PublicHubEntry where
  hubUrl : String
  hubName : String
  joinedAt : UInt64
  deriving DecidableEq, Repr

def writeHubEntry (entry : PublicHubEntry) : Bytes :=
  writeStr entry.hubUrl ++ writeStr entry.hubName ++ writeU64Le entry.joinedAt

def PublicHubProfile.signingBytes (pubkey : String) (publicHubs : List PublicHubEntry)
    (issuedAt : UInt64) : Bytes :=
  tag "wavvon/public-hub-profile/v1" ++ writeStr pubkey ++ writeU64Le issuedAt ++
    writeLen publicHubs.length ++ publicHubs.flatMap writeHubEntry

def Short (s : String) : Prop := (strBytes s).length < 2 ^ 32
def ShortVec (v : List String) : Prop := v.length < 2 ^ 32 ∧ ∀ s ∈ v, Short s

theorem strBytes_injective : Function.Injective strBytes := by
  intro s t same
  apply String.toByteArray_inj.mp
  apply ByteArray.ext
  exact Array.toList_inj.mp same

theorem writeU32Le_cancels : Cancels writeU32Le (fun _ => True) := by
  intro a b rest tail _ _ same
  obtain ⟨value, rests⟩ := littleEndian_cancels 4 a.toNat b.toNat rest tail
    a.toNat_lt b.toNat_lt same
  exact ⟨UInt32.toNat_inj.mp value, rests⟩

theorem writeU64Le_cancels : Cancels writeU64Le (fun _ => True) := by
  intro a b rest tail _ _ same
  obtain ⟨value, rests⟩ := littleEndian_cancels 8 a.toNat b.toNat rest tail
    a.toNat_lt b.toNat_lt same
  exact ⟨UInt64.toNat_inj.mp value, rests⟩

theorem writeLen_cancels : Cancels writeLen (fun n => n < 2 ^ 32) := by
  intro a b rest tail inA inB same
  obtain ⟨word, rests⟩ := writeU32Le_cancels _ _ rest tail trivial trivial same
  have value := congrArg UInt32.toNat word
  simp only [UInt32.toNat_ofNat'] at value
  exact ⟨by omega, rests⟩

theorem writeStr_cancels : Cancels writeStr Short := by
  intro s t rest tail inS inT same
  simp only [writeStr, List.append_assoc] at same
  obtain ⟨lengths, later⟩ := writeLen_cancels _ _ _ _ inS inT same
  obtain ⟨bytes, rests⟩ := List.append_inj later lengths
  exact ⟨strBytes_injective bytes, rests⟩

theorem writeStrVec_cancels : Cancels writeStrVec ShortVec :=
  writeStr_cancels.counted writeLen_cancels

theorem writeStr_ne_nil (s : String) : writeStr s ≠ [] := by
  simp [writeStr, writeLen, writeU32Le, littleEndian]

theorem writeNotAfter_cancels : Cancels writeNotAfter (fun _ => True) := by
  intro a b rest tail _ _ same
  cases a with
  | none =>
    cases b with
    | none => simpa [writeNotAfter] using same
    | some t => simp [writeNotAfter] at same
  | some s =>
    cases b with
    | none => simp [writeNotAfter] at same
    | some t =>
      simp only [writeNotAfter, List.cons_append, List.cons.injEq, true_and] at same
      obtain ⟨rfl, rests⟩ := writeU64Le_cancels s t rest tail trivial trivial same
      exact ⟨rfl, rests⟩

-- `as i64`.
theorem toInt_toInt64 (v : UInt64) :
    v.toInt64.toInt = if v.toNat < 2 ^ 63 then (v.toNat : Int) else (v.toNat : Int) - 2 ^ 64 := by
  have cast : v.toInt64.toInt = v.toBitVec.toInt := rfl
  rw [cast, BitVec.toInt_eq_toNat_cond]
  have same : v.toBitVec.toNat = v.toNat := rfl
  rw [same]
  split <;> split <;> omega

end Wavvon.Wire
