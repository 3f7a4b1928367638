import Wavvon.Identity.Wire
import Wavvon.Shared.Checks
import Wavvon.Voice.State

set_option autoImplicit false

namespace Wavvon.Sealing

open Codes (bigEndian bigEndian_bigValue bigEndian_length bigValue bigValue_bigEndian bigValue_lt)
open Wire (Bytes)

/-- X25519, HKDF-SHA256 and AES-256-GCM. A text that is too long is not encrypted; a tag that is not its own opens nothing. -/
structure Ciphers where
  x25519Secret : Vector UInt8 32 → Vector UInt8 32
  x25519Public : Vector UInt8 32 → Vector UInt8 32
  diffieHellman : Vector UInt8 32 → Vector UInt8 32 → Bytes
  hkdf : (salt shared info : Bytes) → Vector UInt8 32
  encrypt : (key : Vector UInt8 32) → (nonce aad msg : Bytes) → Option Bytes
  decrypt : (key : Vector UInt8 32) → (nonce aad ciphertext : Bytes) → Option Bytes
  agree : ∀ a b, diffieHellman a (x25519Public b) = diffieHellman b (x25519Public a)
  decrypts : ∀ key nonce aad ciphertext msg,
    decrypt key nonce aad ciphertext = some msg ↔ encrypt key nonce aad msg = some ciphertext
  tagged : ∀ key nonce aad msg ciphertext, encrypt key nonce aad msg = some ciphertext → ciphertext.length = msg.length + 16

def VOICE_KEY_INFO : Bytes := Wire.strBytes "wavvon/voice-key/v1"

def WRAP_PLAINTEXT_LEN : Nat := 40

def PACKET_HEADER_LEN : Nat := 16

structure SenderKey where
  senderKey : Vector UInt8 32
  nonceSalt : Vector UInt8 4
  keyId : UInt32
  deriving DecidableEq

-- An Opus frame with the header of the packet it goes into.
structure Frame where
  keyId : UInt32
  ctr : UInt64
  ts : UInt32
  opus : Bytes
  deriving DecidableEq, Repr

section

variable (c : Ciphers)

def voiceWrapKey (shared : Bytes) (channelId : String) : Vector UInt8 32 :=
  c.hkdf (Wire.strBytes channelId) shared VOICE_KEY_INFO

def wrapPlaintext (key : SenderKey) : Bytes :=
  key.senderKey.toList ++ key.nonceSalt.toList ++ bigEndian 4 key.keyId.toNat

-- The nonce is drawn; only the fixed vectors choose it.
def voiceKeyWrapWithNonce (senderSeed recipientPub : Vector UInt8 32) (channelId : String) (key : SenderKey)
    (nonce : Bytes) : Except String Bytes :=
  let shared := c.diffieHellman (c.x25519Secret senderSeed) recipientPub
  match c.encrypt (voiceWrapKey c shared channelId) nonce [] (wrapPlaintext key) with
  | none => .error "AES-GCM encrypt: aead::Error"
  | some ciphertext => .ok ciphertext

def voiceKeyUnwrap (recipientSeed senderPub : Vector UInt8 32) (channelId : String) (ciphertext nonce : Bytes) :
    Except String SenderKey :=
  let shared := c.diffieHellman (c.x25519Secret recipientSeed) senderPub
  match c.decrypt (voiceWrapKey c shared channelId) nonce [] ciphertext with
  | none => .error "AES-GCM decrypt: aead::Error"
  | some plaintext =>
    if sized : plaintext.length = WRAP_PLAINTEXT_LEN then
      .ok
        { senderKey := ⟨(plaintext.take 32).toArray, by simp [sized, WRAP_PLAINTEXT_LEN]⟩
          nonceSalt := ⟨((plaintext.drop 32).take 4).toArray, by simp [sized, WRAP_PLAINTEXT_LEN]⟩
          keyId := UInt32.ofNat (bigValue (plaintext.drop 36)) }
    else
      .error ("wrapped voice key plaintext must be " ++ toString WRAP_PLAINTEXT_LEN ++ " bytes, got " ++
        toString plaintext.length)

def packetHeader (f : Frame) : Bytes :=
  bigEndian 4 f.keyId.toNat ++ bigEndian 8 f.ctr.toNat ++ bigEndian 4 f.ts.toNat

def packetNonce (nonceSalt : Vector UInt8 4) (ctr : UInt64) : Bytes := nonceSalt.toList ++ bigEndian 8 ctr.toNat

-- `none` is the `expect` on a frame too long to be encrypted.
def voicePacketSeal (senderKey : Vector UInt8 32) (nonceSalt : Vector UInt8 4) (f : Frame) : Option Bytes :=
  (c.encrypt senderKey (packetNonce nonceSalt f.ctr) (packetHeader f) f.opus).map (packetHeader f ++ ·)

def voicePacketOpen (senderKey : Vector UInt8 32) (nonceSalt : Vector UInt8 4) (packet : Bytes) :
    Except String Frame :=
  if packet.length < PACKET_HEADER_LEN + 16 then
    .error ("voice packet too short: " ++ toString packet.length ++ " bytes, minimum " ++
      toString (PACKET_HEADER_LEN + 16))
  else
    let header := packet.take PACKET_HEADER_LEN
    let ctr := UInt64.ofNat (bigValue ((header.drop 4).take 8))
    match c.decrypt senderKey (packetNonce nonceSalt ctr) header (packet.drop PACKET_HEADER_LEN) with
    | none => .error "AES-GCM decrypt: aead::Error"
    | some opus =>
      .ok
        { keyId := UInt32.ofNat (bigValue (header.take 4)), ctr := ctr
          ts := UInt32.ofNat (bigValue (header.drop 12)), opus := opus }

-- The datagrams of one sender, one after the other, and what the hub sends on of them.
def relayAll (channelId senderPk : String) : Hub → List Bytes → Hub × List Relayed
  | h, [] => (h, [])
  | h, payload :: rest =>
    let first := relayDatagram h channelId senderPk payload
    let later := relayAll channelId senderPk first.1 rest
    (later.1, first.2.toList ++ later.2)

end

-- The hub with one more counter of the sender's.
def counted (h : Hub) (senderPk : String) (ctr : UInt64) : Hub :=
  { h with voice := { h.voice with
      voiceOutboundLoss := h.voice.voiceOutboundLoss.insert senderPk (track h.voice.voiceOutboundLoss[senderPk]? ctr) } }

-- The sender's packets go out: it is there, it is not muted, and it is in a room.
structure Speaks (h : Hub) (channelId senderPk : String) : Prop where
  active : senderPk ∈ h.voice.voiceRelayActive
  unblocked : senderPk ∉ h.voice.voiceTalkBlocked
  room : channelId ∈ h.voice.voiceChannels

section

variable {c : Ciphers} {senderKey : Vector UInt8 32} {nonceSalt : Vector UInt8 4} {f : Frame} {packet : Bytes}

theorem u32_ofNat (v : UInt32) : UInt32.ofNat (bigValue (bigEndian 4 v.toNat)) = v := by
  have bound := v.toNat_lt
  apply UInt32.toNat_inj.mp
  rw [bigValue_bigEndian, UInt32.toNat_ofNat']
  omega

theorem u64_ofNat (v : UInt64) : UInt64.ofNat (bigValue (bigEndian 8 v.toNat)) = v := by
  have bound := v.toNat_lt
  apply UInt64.toNat_inj.mp
  rw [bigValue_bigEndian, UInt64.toNat_ofNat']
  omega

theorem bigEndian_u32 {bytes : Bytes} (sized : bytes.length = 4) :
    bigEndian 4 (UInt32.ofNat (bigValue bytes)).toNat = bytes := by
  have bound : bigValue bytes < 2 ^ 32 := (bigValue_lt sized).trans_eq (by decide)
  rw [UInt32.toNat_ofNat', Nat.mod_eq_of_lt bound, bigEndian_bigValue sized]

theorem bigEndian_u64 {bytes : Bytes} (sized : bytes.length = 8) :
    bigEndian 8 (UInt64.ofNat (bigValue bytes)).toNat = bytes := by
  have bound : bigValue bytes < 2 ^ 64 := (bigValue_lt sized).trans_eq (by decide)
  rw [UInt64.toNat_ofNat', Nat.mod_eq_of_lt bound, bigEndian_bigValue sized]

theorem packetHeader_length (f : Frame) : (packetHeader f).length = PACKET_HEADER_LEN := by
  simp [packetHeader, bigEndian_length, PACKET_HEADER_LEN]

-- The header's three numbers, where they stand.
theorem header_fields (f : Frame) :
    (packetHeader f).take 4 = bigEndian 4 f.keyId.toNat ∧
      ((packetHeader f).drop 4).take 8 = bigEndian 8 f.ctr.toNat ∧
      (packetHeader f).drop 12 = bigEndian 4 f.ts.toNat := by
  have first := bigEndian_length 4 f.keyId.toNat
  have second := bigEndian_length 8 f.ctr.toNat
  refine ⟨?_, ?_, ?_⟩
  · rw [packetHeader, List.append_assoc, List.take_left' first]
  · rw [packetHeader, List.append_assoc, List.drop_left' first, List.take_left' second]
  · rw [packetHeader, List.drop_left' (by rw [List.length_append, first, second])]

theorem header_parsed {header opus : Bytes} (sized : header.length = PACKET_HEADER_LEN) :
    packetHeader
      { keyId := UInt32.ofNat (bigValue (header.take 4)), ctr := UInt64.ofNat (bigValue ((header.drop 4).take 8))
        ts := UInt32.ofNat (bigValue (header.drop 12)), opus := opus } = header := by
  rw [PACKET_HEADER_LEN] at sized
  have rest : (header.drop 4).drop 8 = header.drop 12 := List.drop_drop
  rw [packetHeader, bigEndian_u32 (by simp [sized]), bigEndian_u64 (by simp [sized]), bigEndian_u32 (by simp [sized]),
    List.append_assoc, ← rest, List.take_append_drop, List.take_append_drop]

/-- A packet opens to a frame exactly if it is what sealing the frame under the same key gives. -/
theorem opens_iff (c : Ciphers) (senderKey : Vector UInt8 32) (nonceSalt : Vector UInt8 4) (packet : Bytes)
    (f : Frame) :
    voicePacketOpen c senderKey nonceSalt packet = .ok f ↔
      voicePacketSeal c senderKey nonceSalt f = some packet := by
  rw [voicePacketSeal, Option.map_eq_some_iff]
  constructor
  · intro opened
    unfold voicePacketOpen at opened
    split at opened
    next => cases opened
    next long =>
      have sized : (packet.take PACKET_HEADER_LEN).length = PACKET_HEADER_LEN := by
        rw [List.length_take]
        omega
      dsimp only at opened
      split at opened
      next => cases opened
      next opus decrypted =>
        cases opened
        refine ⟨packet.drop PACKET_HEADER_LEN, ?_, ?_⟩
        · rw [header_parsed sized]
          exact (c.decrypts _ _ _ _ _).mp decrypted
        · rw [header_parsed sized, List.take_append_drop]
  · rintro ⟨ciphertext, encrypted, rfl⟩
    obtain ⟨keyId, ctr, ts⟩ := header_fields f
    have tagged := c.tagged _ _ _ _ _ encrypted
    have sized := packetHeader_length f
    rw [voicePacketOpen, if_neg (by rw [List.length_append, sized, tagged]; omega), List.take_left' sized,
      List.drop_left' sized]
    dsimp only
    rw [keyId, ctr, ts, u32_ofNat, u64_ofNat, u32_ofNat, (c.decrypts _ _ _ _ _).mpr encrypted]

theorem plaintext_fields (key : SenderKey) :
    (wrapPlaintext key).take 32 = key.senderKey.toList ∧
      ((wrapPlaintext key).drop 32).take 4 = key.nonceSalt.toList ∧
      (wrapPlaintext key).drop 36 = bigEndian 4 key.keyId.toNat := by
  have first : key.senderKey.toList.length = 32 := by simp
  have second : key.nonceSalt.toList.length = 4 := by simp
  refine ⟨?_, ?_, ?_⟩
  · rw [wrapPlaintext, List.append_assoc, List.take_left' first]
  · rw [wrapPlaintext, List.append_assoc, List.drop_left' first, List.take_left' second]
  · rw [wrapPlaintext, List.drop_left' (by rw [List.length_append, first, second])]

theorem plaintext_parsed {plaintext : Bytes} (sized : plaintext.length = 40)
    {key : (plaintext.take 32).toArray.size = 32} {salt : ((plaintext.drop 32).take 4).toArray.size = 4} :
    wrapPlaintext
      { senderKey := ⟨(plaintext.take 32).toArray, key⟩
        nonceSalt := ⟨((plaintext.drop 32).take 4).toArray, salt⟩
        keyId := UInt32.ofNat (bigValue (plaintext.drop 36)) } = plaintext := by
  have rest : (plaintext.drop 32).drop 4 = plaintext.drop 36 := List.drop_drop
  rw [wrapPlaintext, bigEndian_u32 (by simp [sized])]
  change plaintext.take 32 ++ (plaintext.drop 32).take 4 ++ plaintext.drop 36 = plaintext
  rw [List.append_assoc, ← rest, List.take_append_drop, List.take_append_drop]

/--
A recipient unwraps a sender's key exactly from what the sender wraps of it for that recipient, for the same channel
and under the same nonce.
-/
theorem key_unwraps_iff (c : Ciphers) (senderSeed recipientSeed : Vector UInt8 32) (channelId : String)
    (ciphertext nonce : Bytes) (key : SenderKey) :
    voiceKeyUnwrap c recipientSeed (c.x25519Public (c.x25519Secret senderSeed)) channelId ciphertext nonce = .ok key ↔
      voiceKeyWrapWithNonce c senderSeed (c.x25519Public (c.x25519Secret recipientSeed)) channelId key nonce =
        .ok ciphertext := by
  unfold voiceKeyUnwrap voiceKeyWrapWithNonce
  dsimp only
  rw [c.agree (c.x25519Secret recipientSeed) (c.x25519Secret senderSeed)]
  generalize voiceWrapKey c _ channelId = wrapKey
  constructor
  · intro unwrapped
    split at unwrapped
    next => cases unwrapped
    next plaintext decrypted =>
      split at unwrapped
      next sized =>
        cases unwrapped
        rw [plaintext_parsed sized, (c.decrypts _ _ _ _ _).mp decrypted]
      next => cases unwrapped
  · intro wrapped
    split at wrapped
    next => cases wrapped
    next encrypted =>
      cases wrapped
      rw [(c.decrypts _ _ _ _ _).mpr encrypted]
      obtain ⟨senderKey, nonceSalt, keyId⟩ := plaintext_fields key
      have sized : (wrapPlaintext key).length = WRAP_PLAINTEXT_LEN := by
        simp [wrapPlaintext, bigEndian_length, WRAP_PLAINTEXT_LEN]
      dsimp only
      rw [dif_pos sized]
      simp only [senderKey, nonceSalt, keyId, u32_ofNat]
      rfl

-- The hub reads the counter of a sealed packet where sealing put it.
theorem readCtr_sealed (sealed : voicePacketSeal c senderKey nonceSalt f = some packet) : readCtr packet = some f.ctr := by
  obtain ⟨ciphertext, _, rfl⟩ := Option.map_eq_some_iff.mp sealed
  have sized := packetHeader_length f
  rw [PACKET_HEADER_LEN] at sized
  have field : ((packetHeader f ++ ciphertext).drop CTR_OFFSET).take CTR_LEN = bigEndian 8 f.ctr.toNat := by
    rw [CTR_OFFSET, CTR_LEN, List.drop_append_of_le_length (by omega), List.take_append_of_le_length (by simp [sized])]
    exact (header_fields f).2.1
  rw [readCtr, field]
  exact (if_pos (bigEndian_length 8 _)).trans (congrArg some (u64_ofNat f.ctr))

variable {h : Hub} {channelId senderPk : String} {payload : Bytes} {ctr : UInt64}

theorem Speaks.counted (speaks : Speaks h channelId senderPk) : Speaks (counted h senderPk ctr) channelId senderPk :=
  ⟨speaks.active, speaks.unblocked, speaks.room⟩

-- A datagram that is sent on has three bytes more, and the hub has counted its counter.
theorem relayDatagram_speaks (speaks : Speaks h channelId senderPk) (read : readCtr payload = some ctr) :
    ∃ datagram, datagram.bytes.drop 3 = payload ∧
      relayDatagram h channelId senderPk payload = (counted h senderPk ctr, some datagram) := by
  obtain ⟨participants, room⟩ := Option.isSome_iff_exists.mp (Std.ExtTreeMap.mem_iff_isSome_getElem?.mp speaks.room)
  unfold relayDatagram
  rw [if_neg (not_not.mpr speaks.active), if_neg speaks.unblocked, read, room]
  exact ⟨_, rfl, rfl⟩

theorem relayAll_sealed {key : SenderKey} {frames : List Frame} {packets : List Bytes}
    (sealed : frames.mapM (voicePacketSeal c key.senderKey key.nonceSalt) = some packets)
    (speaks : Speaks h channelId senderPk) :
    (relayAll channelId senderPk h packets).2.map
        (fun datagram => voicePacketOpen c key.senderKey key.nonceSalt (datagram.bytes.drop 3)) = frames.map .ok ∧
      (relayAll channelId senderPk h packets).1.voice.voiceOutboundLoss[senderPk]? =
        frames.foldl (fun prev f => some (track prev f.ctr)) h.voice.voiceOutboundLoss[senderPk]? := by
  induction frames generalizing h packets with
  | nil =>
    cases sealed
    exact ⟨rfl, rfl⟩
  | cons f rest ih =>
    obtain ⟨first, later, here, there, rfl⟩ := Decoding.mapM_cons_some.mp sealed
    obtain ⟨datagram, carried, relayed⟩ := relayDatagram_speaks speaks (readCtr_sealed here)
    have still : Speaks (counted h senderPk f.ctr) channelId senderPk := speaks.counted
    obtain ⟨opened, losses⟩ := ih there still
    rw [relayAll, relayed]
    constructor
    · change (datagram :: (relayAll channelId senderPk (counted h senderPk f.ctr) later).2).map _ = _
      rw [List.map_cons, opened, carried, (opens_iff c key.senderKey key.nonceSalt first f).mpr here, List.map_cons]
    · refine losses.trans ?_
      rw [List.foldl_cons, counted, Std.ExtTreeMap.getElem?_insert_self]

/--
What a sender seals and the hub relays opens, in order, to what it sealed, while the hub counts the counters it
sealed; and nothing opens with that key but what the key sealed.
-/
theorem frames_arrive (c : Ciphers) (key : SenderKey) (h : Hub) (channelId senderPk : String) (frames : List Frame)
    (packets : List Bytes) (sealed : frames.mapM (voicePacketSeal c key.senderKey key.nonceSalt) = some packets)
    (speaks : Speaks h channelId senderPk) :
    (relayAll channelId senderPk h packets).2.map
        (fun datagram => voicePacketOpen c key.senderKey key.nonceSalt (datagram.bytes.drop 3)) = frames.map .ok ∧
      (relayAll channelId senderPk h packets).1.voice.voiceOutboundLoss[senderPk]? =
        frames.foldl (fun prev f => some (track prev f.ctr)) h.voice.voiceOutboundLoss[senderPk]? ∧
      ∀ packet f, voicePacketOpen c key.senderKey key.nonceSalt packet = .ok f →
        voicePacketSeal c key.senderKey key.nonceSalt f = some packet := by
  obtain ⟨opened, losses⟩ := relayAll_sealed sealed speaks
  exact ⟨opened, losses, fun packet f => (opens_iff c key.senderKey key.nonceSalt packet f).mp⟩

end

-- A cipher whose tag is sixteen zeros.
def zeroTag : Bytes := List.replicate 16 0

def plain : Ciphers where
  x25519Secret seed := seed
  x25519Public secret := secret
  diffieHellman _ _ := []
  hkdf _ _ _ := Vector.replicate 32 0
  encrypt _ _ _ msg := some (msg ++ zeroTag)
  decrypt _ _ _ ciphertext := if ciphertext.drop (ciphertext.length - 16) = zeroTag then
    some (ciphertext.take (ciphertext.length - 16)) else none
  agree _ _ := rfl
  decrypts _ _ _ ciphertext msg := by
    constructor
    · intro decrypted
      split at decrypted
      next tag =>
        cases decrypted
        rw [← tag, List.take_append_drop]
      next => cases decrypted
    · intro encrypted
      cases encrypted
      have front : (msg ++ zeroTag).length - 16 = msg.length := by simp [zeroTag]
      rw [front, List.drop_left, List.take_left, if_pos rfl]
  tagged _ _ _ msg ciphertext encrypted := by
    cases encrypted
    simp [zeroTag]

def spoken : Frame := { keyId := 7, ctr := 42, ts := 9000, opus := [1, 2, 3] }

def ownKey : SenderKey := { senderKey := Vector.replicate 32 9, nonceSalt := Vector.replicate 4 1, keyId := 7 }

-- One in a room with somebody else.
def room : Hub :=
  { voice :=
      { voiceChannels := Tables.Nested.put (Tables.Nested.put ∅ "room" "ann" (some 1)) "room" "bea" (some 2)
        voiceRelayActive := {"ann"} } }

theorem frames_arrive_room :
    (relayAll "room" "ann" room [packetHeader spoken ++ spoken.opus ++ zeroTag]).2.map
        (fun datagram => voicePacketOpen plain ownKey.senderKey ownKey.nonceSalt (datagram.bytes.drop 3)) =
      [.ok spoken] :=
  (frames_arrive plain ownKey room "room" "ann" [spoken] [packetHeader spoken ++ spoken.opus ++ zeroTag] (by decide)
    ⟨by decide, by decide, by decide⟩).1

end Wavvon.Sealing
