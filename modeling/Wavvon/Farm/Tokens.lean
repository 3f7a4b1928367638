import Wavvon.Identity.Signatures

set_option autoImplicit false

namespace Wavvon.Farm

open Wire (Bytes)

structure FarmTokenPayload where
  v : UInt8 := 1
  iss : String
  issPk : String
  sub : String
  master : Option String
  jti : String
  iat : Int
  exp : Int
  scope : String
  deriving DecidableEq, Repr

/-- The farm's keypair, and the libraries that a token goes through: base64url, JSON and ed25519. -/
structure TokenLib where
  farmUrl : String
  publicKey : Bytes
  keys : Keys
  sign : Bytes → Bytes
  encode : Bytes → String
  decode : String → Option Bytes
  toVec : FarmTokenPayload → Bytes
  fromSlice : Bytes → Option FarmTokenPayload

namespace TokenLib

variable (lib : TokenLib)

def publicKeyHex : String := hexEncode lib.publicKey

def signToken (payload : FarmTokenPayload) : String :=
  lib.encode (lib.toVec payload) ++ "." ++ lib.encode (lib.sign (lib.toVec payload))

-- The farm's key is the one from the settings or, at a hub, the one it has cached.
def checkSignature (farmPubkeyHex : String) (payloadBytes signature : Bytes) : Except String Unit :=
  match hexDecode farmPubkeyHex with
  | none => .error "Invalid farm pubkey hex"
  | some key =>
    if key.length ≠ 32 then .error "Farm pubkey must be 32 bytes"
    else if !lib.keys.keyFromBytes key then .error "Invalid farm pubkey"
    else if signature.length ≠ 64 then .error "Signature must be 64 bytes"
    else if lib.keys.ed25519 key payloadBytes signature then .ok ()
    else .error "Token signature verification failed"

-- Nothing unsigned is read: the payload is parsed after its signature has been checked.
def verifyToken (farmPubkeyHex token : String) (now : Int) : Except String FarmTokenPayload :=
  match token.toList.span (· ≠ '.') with
  | (_, []) => .error "Token missing '.' separator"
  | (payload, _ :: signature) =>
    match lib.decode (String.ofList payload), lib.decode (String.ofList signature) with
    | none, _ => .error "Invalid base64url in token payload"
    | _, none => .error "Invalid base64url in token signature"
    | some payloadBytes, some signatureBytes =>
      match lib.checkSignature farmPubkeyHex payloadBytes signatureBytes with
      | .error e => .error e
      | .ok _ =>
        match lib.fromSlice payloadBytes with
        | none => .error "Failed to deserialise token payload"
        | some payload =>
          if payload.exp ≤ now then .error "Token has expired"
          else if payload.issPk ≠ farmPubkeyHex then .error "Token iss_pk does not match cached farm pubkey"
          else .ok payload

/-- What the libraries promise: what was written is read back, and the farm's own signatures are valid. -/
structure Documented : Prop where
  decoded : ∀ bytes, lib.decode (lib.encode bytes) = some bytes
  alphabet : ∀ bytes, '.' ∉ (lib.encode bytes).toList
  parsed : ∀ payload, lib.fromSlice (lib.toVec payload) = some payload
  signed : ∀ bytes, lib.checkSignature lib.publicKeyHex bytes (lib.sign bytes) = .ok ()

end TokenLib

section

variable {lib : TokenLib} {payload : FarmTokenPayload} {now : Int}

theorem span_dot {front : List Char} (clean : '.' ∉ front) (back : List Char) :
    (front ++ '.' :: back).span (· ≠ '.') = (front, '.' :: back) := by
  rw [List.span_eq_takeWhile_dropWhile]
  have passes : ∀ c ∈ front, decide (c ≠ '.') = true := by
    intro c member
    exact decide_eq_true fun dot => clean (dot ▸ member)
  rw [List.takeWhile_append_of_pos passes, List.dropWhile_append_of_pos passes]
  simp

-- The farm reads its own tokens, until they expire.
theorem verifyToken_signToken (documented : lib.Documented) (own : payload.issPk = lib.publicKeyHex) :
    lib.verifyToken lib.publicKeyHex (lib.signToken payload) now =
      if payload.exp ≤ now then .error "Token has expired" else .ok payload := by
  have chars : (lib.signToken payload).toList =
      (lib.encode (lib.toVec payload)).toList ++ '.' :: (lib.encode (lib.sign (lib.toVec payload))).toList := by
    simp [TokenLib.signToken]
  rw [TokenLib.verifyToken, chars, span_dot (documented.alphabet _)]
  simp only [String.ofList_toList, documented.decoded, documented.signed, documented.parsed, own, ne_eq,
    not_true_eq_false, ite_false]

theorem verifyToken_live {token : String} (opened : lib.verifyToken lib.publicKeyHex token now = .ok payload) :
    now < payload.exp ∧ payload.issPk = lib.publicKeyHex := by
  unfold TokenLib.verifyToken at opened
  split at opened
  next => cases opened
  next =>
    split at opened
    next => cases opened
    next => cases opened
    next =>
      split at opened
      next => cases opened
      next =>
        split at opened
        next => cases opened
        next =>
          split at opened
          next => cases opened
          next live =>
            split at opened
            next => cases opened
            next own =>
              cases opened
              exact ⟨Int.not_le.mp live, Decidable.not_not.mp own⟩

end

-- Codecs for concrete runs: each character of a text is marked and written as three bytes.
def putText : List Char → Bytes
  | [] => [0]
  | c :: rest =>
    1 :: UInt8.ofNat (c.toNat / 65536) :: UInt8.ofNat (c.toNat / 256) :: UInt8.ofNat c.toNat :: putText rest

def takeText : Bytes → Option (List Char × Bytes)
  | 1 :: high :: middle :: low :: rest =>
    (takeText rest).map fun read => (Char.ofNat (high.toNat * 65536 + middle.toNat * 256 + low.toNat) :: read.1, read.2)
  | 0 :: rest => some ([], rest)
  | _ => none

def putInt (n : Int) : List Char := (if n < 0 then '-' else '+') :: Nat.toDigits 10 n.natAbs

def takeInt : List Char → Option Int
  | '-' :: digits => some (-(Nat.ofDigitChars 10 digits 0 : Int))
  | '+' :: digits => some (Nat.ofDigitChars 10 digits 0 : Int)
  | _ => none

def putOption : Option String → List Char
  | none => []
  | some text => '+' :: text.toList

def takeOption : List Char → Option String
  | [] => none
  | _ :: chars => some (String.ofList chars)

def fieldsOf (payload : FarmTokenPayload) : List (List Char) :=
  [putInt payload.v.toNat, payload.iss.toList, payload.issPk.toList, payload.sub.toList, putOption payload.master,
    payload.jti.toList, putInt payload.iat, putInt payload.exp, payload.scope.toList]

def ofFields : List (List Char) → Option FarmTokenPayload
  | [v, iss, issPk, sub, master, jti, iat, exp, scope] => do
    let v ← takeInt v
    let iat ← takeInt iat
    let exp ← takeInt exp
    return { v := UInt8.ofNat v.toNat, iss := String.ofList iss, issPk := String.ofList issPk
             sub := String.ofList sub, master := takeOption master, jti := String.ofList jti
             iat := iat, exp := exp, scope := String.ofList scope }
  | _ => none

def takeTexts : Nat → Bytes → Option (List (List Char))
  | 0, _ => some []
  | count + 1, bytes => (takeText bytes).bind fun read => (takeTexts count read.2).map (read.1 :: ·)

/-- A farm whose signatures are its key twice over, at the address `https://farm.example`. -/
def openTokens : TokenLib where
  farmUrl := "https://farm.example"
  publicKey := List.replicate 32 9
  keys := openKeys
  sign _ := List.replicate 64 9
  encode := hexEncode
  decode := hexDecode
  toVec payload := (fieldsOf payload).flatMap putText
  fromSlice bytes := (takeTexts 9 bytes).bind ofFields

theorem takeText_putText (chars : List Char) (rest : Bytes) :
    takeText (putText chars ++ rest) = some (chars, rest) := by
  induction chars with
  | nil => rfl
  | cons c chars ih =>
    have bound : c.toNat < 0x110000 := by
      have := c.valid
      simp only [UInt32.isValidChar, Nat.isValidChar] at this
      show c.val.toNat < 0x110000
      omega
    have joined : UInt8.toNat (UInt8.ofNat (c.toNat / 65536)) * 65536 +
        UInt8.toNat (UInt8.ofNat (c.toNat / 256)) * 256 + UInt8.toNat (UInt8.ofNat c.toNat) = c.toNat := by
      simp only [UInt8.toNat_ofNat']
      omega
    rw [putText, List.cons_append, List.cons_append, List.cons_append, List.cons_append, takeText, ih, Option.map_some]
    simp only [joined, Char.ofNat_toNat]

theorem takeTexts_flatMap (fields : List (List Char)) :
    takeTexts fields.length (fields.flatMap putText) = some fields := by
  induction fields with
  | nil => rfl
  | cons field fields ih =>
    rw [List.length_cons, List.flatMap_cons, takeTexts, takeText_putText, Option.bind_some]
    simp only [ih, Option.map_some]

theorem takeInt_putInt (n : Int) : takeInt (putInt n) = some n := by
  unfold putInt
  split
  next negative =>
    simp only [takeInt, Nat.ofDigitChars_ten_toDigits]
    congr 1
    omega
  next =>
    simp only [takeInt, Nat.ofDigitChars_ten_toDigits]
    congr 1
    omega

theorem takeOption_putOption (text : Option String) : takeOption (putOption text) = text := by
  cases text with
  | none => rfl
  | some text => exact congrArg some String.ofList_toList

theorem ofFields_fieldsOf (payload : FarmTokenPayload) : ofFields (fieldsOf payload) = some payload := by
  simp [ofFields, fieldsOf, takeInt_putInt, takeOption_putOption]

theorem openTokens_documented : openTokens.Documented where
  decoded := hexDecode_hexEncode
  alphabet bytes := by
    show '.' ∉ (hexEncode bytes).toList
    rw [hexEncode_toList, hexChars, List.mem_flatMap]
    rintro ⟨byte, -, digit⟩
    have plain : ∀ n < 16, hexChar n ≠ '.' := by decide
    have small := byte.toNat_lt
    obtain high | low := List.mem_pair.mp digit
    · exact plain _ (by omega) high.symm
    · exact plain _ (by omega) low.symm
  parsed payload := by
    show (takeTexts (fieldsOf payload).length ((fieldsOf payload).flatMap putText)).bind ofFields = some payload
    rw [takeTexts_flatMap, Option.bind_some, ofFields_fieldsOf]
  signed bytes := by
    have twice : List.replicate 64 (9 : UInt8) = List.replicate 32 9 ++ List.replicate 32 9 := by
      rw [List.replicate_append_replicate]
    simp [TokenLib.checkSignature, TokenLib.publicKeyHex, openTokens, openKeys, twice]

end Wavvon.Farm
