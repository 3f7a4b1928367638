import Mathlib.Data.Finset.Card
import Mathlib.Tactic.Tauto
import Wavvon.Identity.Signatures

set_option autoImplicit false

namespace Wavvon.Recovery

open Std (ExtTreeMap)

structure SettingsRow where
  threshold : Int
  createdAt : Int
  deriving DecidableEq, Repr

inductive RotationStatus where
  | pending
  | readyForReview
  | approved
  | rejected
  | expired
  deriving DecidableEq, Repr

def RotationStatus.text : RotationStatus → String
  | .pending => "pending"
  | .readyForReview => "ready_for_review"
  | .approved => "approved"
  | .rejected => "rejected"
  | .expired => "expired"

structure RotationRow where
  oldPubkey : String
  newPubkey : String
  reason : Option String := none
  status : RotationStatus := .pending
  createdAt : Int
  decidedAt : Option Int := none
  decidedBy : Option String := none
  nonce : Option String := none
  deriving DecidableEq, Repr

-- Contacts by owner and attestations by request, each with the key named.
structure State where
  auth : AuthState := {}
  settings : Table SettingsRow := ∅
  contacts : Finset (String × String) := ∅
  requests : Table RotationRow := ∅
  attestations : Finset (String × String) := ∅

structure SetContactsRequest where
  contacts : List String
  threshold : UInt32
  deriving DecidableEq, Repr

structure RotateKeyRequest where
  oldPubkey : String
  newPubkey : String
  reason : Option String := none
  newKeySignature : String
  attestations : List (String × String) := []
  deriving DecidableEq, Repr

structure AttestRequest where
  attester : String
  signature : String
  deriving DecidableEq, Repr

def MAX_CONTACTS : Nat := 5

def checkContacts (user : String) (req : SetContactsRequest) : Except HttpError Unit :=
  if MAX_CONTACTS < req.contacts.length then .error (400, "Maximum 5 recovery contacts")
  else if req.threshold = 0 ∨ req.contacts.length < req.threshold.toNat then
    .error (400, "threshold must be between 1 and the number of contacts")
  else if user ∈ req.contacts then .error (400, "You cannot be your own recovery contact")
  else .ok ()

-- ON CONFLICT keeps the row and its creation time.
def upsertSettings (settings : Table SettingsRow) (owner : String) (threshold now : Int) : Table SettingsRow :=
  settings.insert owner
    { threshold := threshold, createdAt := (settings[owner]?.map (·.createdAt)).getD now }

def putContacts (s : State) (user : String) (req : SetContactsRequest) (now : Int) :
    State × Except HttpError Unit :=
  match checkContacts user req with
  | .error e => (s, .error e)
  | .ok _ =>
    let cleared := s.contacts.filter (·.1 ≠ user)
    ({ s with
        settings := upsertSettings s.settings user req.threshold.toNat now
        contacts := req.contacts.foldl (fun contacts contact => insert (user, contact) contacts) cleared },
      .ok ())

def deleteContact (s : State) (user pubkey : String) : State × Except HttpError Unit :=
  ({ s with contacts := s.contacts.erase (user, pubkey) }, .ok ())

def State.threshold (s : State) (owner : String) : Option Int := s.settings[owner]?.map (·.threshold)

def dbError : HttpError := (500, "DB error")

def verifyHex (keys : Keys) (publicKey : String) (message : Wire.Bytes) (signature : String)
    (badHex refused : HttpError) : Except HttpError Unit :=
  match hexDecode signature with
  | none => .error badHex
  | some bytes =>
    match verifySignature keys publicKey message bytes with
    | .error _ => .error refused
    | .ok _ => .ok ()

def checkRotation (keys : Keys) (hubPubkey : String) (s : State) (req : RotateKeyRequest) :
    Except HttpError Unit :=
  if req.attestations ≠ [] then
    .error (400, "Inline attestations are no longer accepted; open the request with zero " ++
      "attestations, then have each contact call POST /recovery/rotation-request/:id/attest")
  else
    match s.threshold req.oldPubkey with
    | none => .error (400, "The old pubkey has no recovery contacts configured on this hub")
    | some _ =>
      if req.newPubkey = req.oldPubkey then .error (400, "new_pubkey must differ from old_pubkey")
      else
        verifyHex keys req.newPubkey
          (Wire.recoveryRequestSigningBytes hubPubkey req.oldPubkey req.newPubkey) req.newKeySignature
          (400, "Invalid new_key_signature hex") (400, "new_key_signature does not verify against new_pubkey")

def rotationRow (req : RotateKeyRequest) (nonce : String) (now : Int) : RotationRow :=
  { oldPubkey := req.oldPubkey, newPubkey := req.newPubkey, reason := req.reason
    createdAt := now, nonce := some nonce }

-- The id and the nonce are drawn; an id that is taken is refused by the primary key.
def postRotateKey (keys : Keys) (hubPubkey : String) (s : State) (req : RotateKeyRequest)
    (id nonce : String) (now : Int) : State × Except HttpError Unit :=
  match checkRotation keys hubPubkey s req with
  | .error e => (s, .error e)
  | .ok _ =>
    if id ∈ s.requests then (s, .error dbError)
    else ({ s with requests := s.requests.insert id (rotationRow req nonce now) }, .ok ())

def requestNotFound : HttpError := (404, "Rotation request not found")

def checkAttester (row : RotationRow) (attester : String) : Except HttpError Unit :=
  if row.status ≠ .pending then
    .error (409, "Request is '" ++ row.status.text ++ "', no longer accepting attestations")
  else if attester = row.oldPubkey ∨ attester = row.newPubkey then
    .error (400, "attester must not be the old or new key")
  else .ok ()

def notAContact : HttpError := (403, "attester is not a designated recovery contact for this owner")

def checkAttestation (keys : Keys) (hubPubkey : String) (row : RotationRow) (req : AttestRequest) :
    Except HttpError Unit :=
  verifyHex keys req.attester
    (Wire.recoveryAttestationSigningBytes hubPubkey row.oldPubkey row.newPubkey (row.nonce.getD ""))
    req.signature (400, "Invalid signature hex")
    (400, "signature does not verify against attester's bundle")

def namedUnder (rows : Finset (String × String)) (key : String) : Finset String :=
  (rows.filter (·.1 = key)).image Prod.snd

def State.attestersOf (s : State) (id : String) : Finset String := namedUnder s.attestations id

def State.contactsOf (s : State) (owner : String) : Finset String := namedUnder s.contacts owner

-- `UPDATE … SET status = 'ready_for_review' WHERE status = 'pending'`.
def flipReady (row : RotationRow) : RotationRow :=
  if row.status = .pending then { row with status := .readyForReview } else row

def postAttest (keys : Keys) (hubPubkey : String) (s : State) (id : String) (req : AttestRequest) :
    State × Except HttpError Unit :=
  match s.requests[id]? with
  | none => (s, .error requestNotFound)
  | some row =>
    match checkAttester row req.attester with
    | .error e => (s, .error e)
    | .ok _ =>
      if (row.oldPubkey, req.attester) ∉ s.contacts then (s, .error notAContact)
      else
        match checkAttestation keys hubPubkey row req with
        | .error e => (s, .error e)
        | .ok _ =>
          let attested := { s with attestations := insert (id, req.attester) s.attestations }
          let count : Int := (attested.attestersOf id).card
          if (attested.threshold row.oldPubkey).getD 0 ≤ count then
            ({ attested with requests := attested.requests.modify id flipReady }, .ok ())
          else (attested, .ok ())

@[simp] theorem mem_namedUnder {rows : Finset (String × String)} {key name : String} :
    name ∈ namedUnder rows key ↔ (key, name) ∈ rows := by
  simp only [namedUnder, Finset.mem_image, Finset.mem_filter, Prod.exists]
  constructor
  · rintro ⟨owner, other, ⟨member, rfl⟩, rfl⟩
    exact member
  · intro member
    exact ⟨key, name, ⟨member, rfl⟩, rfl⟩

theorem namedUnder_insert (rows : Finset (String × String)) (key name : String) :
    namedUnder (insert (key, name) rows) key = insert name (namedUnder rows key) := by
  ext other
  simp

theorem namedUnder_erase (rows : Finset (String × String)) (key name : String) :
    namedUnder (rows.erase (key, name)) key = (namedUnder rows key).erase name := by
  ext other
  simp

theorem namedUnder_erase_other (rows : Finset (String × String)) {key other : String} (name : String)
    (apart : other ≠ key) : namedUnder (rows.erase (key, name)) other = namedUnder rows other := by
  ext label
  simp [apart]

theorem mem_replaced {user : String} {contacts : List String} {rows : Finset (String × String)}
    {entry : String × String} :
    entry ∈ contacts.foldl (fun rows contact => insert (user, contact) rows) rows ↔
      entry ∈ rows ∨ entry.1 = user ∧ entry.2 ∈ contacts := by
  induction contacts generalizing rows with
  | nil => simp
  | cons contact rest ih =>
    rw [List.foldl_cons, ih, Finset.mem_insert, Prod.ext_iff, List.mem_cons]
    tauto

inductive Call where
  | putContacts (user : String) (req : SetContactsRequest) (now : Int)
  | deleteContact (user pubkey : String)
  | postRotateKey (req : RotateKeyRequest) (id nonce : String) (now : Int)
  | postAttest (id : String) (req : AttestRequest)
  deriving DecidableEq, Repr

def State.next (keys : Keys) (hubPubkey : String) (s : State) : Call → State
  | .putContacts user req now => (putContacts s user req now).1
  | .deleteContact user pubkey => (deleteContact s user pubkey).1
  | .postRotateKey req id nonce now => (postRotateKey keys hubPubkey s req id nonce now).1
  | .postAttest id req => (postAttest keys hubPubkey s id req).1

end Wavvon.Recovery
