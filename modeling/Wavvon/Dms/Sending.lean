import Wavvon.Auth.Extractor
import Wavvon.Dms.Messages
import Wavvon.Shared.Checks

set_option autoImplicit false

namespace Wavvon.Dms

open Wire (Bytes)
open Tables (Nested)

-- The attachments are their base64 texts.
structure SendDmRequest where
  content : Option String := none
  attachments : List String := []
  encryptedEnvelope : Option EncryptedDmEnvelope := none
  groupEncryptedEnvelope : Option GroupEncryptedEnvelope := none
  plaintextSignature : Option String := none
  plaintextSignerCert : Option SubkeyCert := none
  deriving DecidableEq, Repr

def DEFAULT_MAX_ATTACHMENT_BYTES : Nat := 3145728
def MIN_MAX_ATTACHMENT_BYTES : Nat := 65536
def MAX_MAX_ATTACHMENT_BYTES : Nat := 8388608

def readAttachmentCap (db : Db) : Nat :=
  (((db.readSetting "max_attachment_bytes").bind (parseUnsigned 18446744073709551616)).filter fun bytes =>
    MIN_MAX_ATTACHMENT_BYTES ≤ bytes ∧ bytes ≤ MAX_MAX_ATTACHMENT_BYTES).getD DEFAULT_MAX_ATTACHMENT_BYTES

def bindCertMaster (certMaster : Option String) (user : AuthUser) : Except HttpError Unit :=
  match certMaster with
  | none => .ok ()
  | some master =>
    if user.masterPubkey = some master then .ok ()
    else .error (400, "signer_cert master does not match the authenticated session")

def groupEnvelopeSigningBytes (env : GroupEncryptedEnvelope) : Bytes :=
  Wire.groupDmEnvelopeSigningBytes env.convId env.senderKeyVersion env.iteration env.ciphertextHex env.nonceHex

section

variable (keys : Keys)

def checkEncrypted (user : AuthUser) (env : EncryptedDmEnvelope) : Except HttpError Unit := do
  let certMaster ← verifyEnvelopeSender keys env user.publicKey
  bindCertMaster certMaster user
  if env.senderPubkey = user.publicKey then .ok ()
  else .error (400, "encrypted_envelope.sender_pubkey must match the authenticated identity")

def checkGroupEncrypted (user : AuthUser) (env : GroupEncryptedEnvelope) : Except HttpError Unit := do
  let certMaster ← verifyTieredSignature keys (groupEnvelopeSigningBytes env) env.signatureHex env.signerCert
    user.publicKey "group envelope"
  bindCertMaster certMaster user
  if env.senderPubkey = user.publicKey then .ok ()
  else .error (400, "group_encrypted_envelope.sender_pubkey must match the authenticated identity")

-- A plaintext message may come without a signature.
def checkPlaintext (user : AuthUser) (conversationId convType : String) (req : SendDmRequest) :
    Except HttpError Unit :=
  match req.plaintextSignature with
  | none => .ok ()
  | some signature => do
    let certMaster ← verifyTieredSignature keys
      (Wire.federatedPlaintextDmSigningBytes conversationId convType (req.content.getD "")) signature
      req.plaintextSignerCert user.publicKey "plaintext_signature"
    bindCertMaster certMaster user

def checkSignature (user : AuthUser) (conversationId convType : String) (req : SendDmRequest) : Except HttpError Unit :=
  match req.encryptedEnvelope, req.groupEncryptedEnvelope with
  | some env, _ => checkEncrypted keys user env
  | none, some env => checkGroupEncrypted keys user env
  | none, none => checkPlaintext keys user conversationId convType req

def bodies (req : SendDmRequest) : Nat :=
  [req.content.isSome, req.encryptedEnvelope.isSome, req.groupEncryptedEnvelope.isSome].countP id

def checkShape (db : Db) (convType : String) (req : SendDmRequest) : Except HttpError Unit :=
  if bodies req = 0 then
    .error (400, "One of content, encrypted_envelope, or group_encrypted_envelope is required")
  else if 1 < bodies req then
    .error (400, "Provide exactly one of content, encrypted_envelope, or group_encrypted_envelope")
  else if req.encryptedEnvelope.isSome ∧ convType ≠ "dm" then
    .error (400, "E2E encryption is only supported for 1:1 DMs")
  else if req.groupEncryptedEnvelope.isSome ∧ convType ≠ "group" then
    .error (400, "Group E2E encryption is only supported for group conversations")
  else if (req.encryptedEnvelope.isSome ∨ req.groupEncryptedEnvelope.isSome) ∧ req.attachments ≠ [] then
    .error (400, "attachments_must_be_encrypted")
  else if readAttachmentCap db < (req.attachments.map (·.utf8ByteSize)).sum then
    .error (413, "Attachments exceed " ++ toString (readAttachmentCap db / 1048576) ++ "MB cap")
  else .ok ()

-- `mayPost` is what the rate limiter answers.
def checkMember (s : AuthState) (convs : Conversations) (user : AuthUser) (conversationId : String)
    (mayPost : Except HttpError Unit) : Except HttpError Unit :=
  if user.publicKey ∉ membersOf convs conversationId then .error (403, "Not a member of this conversation")
  else if s.isFederatedBanned user.publicKey then .error (403, "Access denied")
  else mayPost

def blockedBy (convs : Conversations) (sender : String) (members : List String) : Bool :=
  members.any fun member => member ≠ sender ∧ (member, sender) ∈ convs.blocks

def checkMessage (db : Db) (convs : Conversations) (user : AuthUser) (conversationId : String) (req : SendDmRequest) :
    Except HttpError String :=
  match convs.conversations[conversationId]? with
  | none => .error (404, "Conversation not found")
  | some conv => do
    checkShape db conv.convType req
    checkSignature keys user conversationId conv.convType req
    .ok conv.convType

end

def sentRow (user : AuthUser) (conversationId : String) (req : SendDmRequest) (now : Int) : DmMessageRow :=
  let isSealed := req.encryptedEnvelope.isSome || req.groupEncryptedEnvelope.isSome
  { conversationId := conversationId
    sender := user.publicKey
    content := if isSealed then none else some (req.content.getD "")
    attachments := req.attachments
    signature := if isSealed then none else req.plaintextSignature
    createdAt := now
    envelope := req.encryptedEnvelope
    groupEnvelope := if req.encryptedEnvelope.isSome then none else req.groupEncryptedEnvelope }

-- What goes to the hubs of the remote members.
def federatedRequest (user : AuthUser) (conversationId convType : String) (members : List String) (req : SendDmRequest)
    (id : String) (now : Int) : FederatedDmRequest :=
  { messageId := id
    conversationId := conversationId
    convType := convType
    sender := user.publicKey
    members := members
    content := req.content
    attachments := req.attachments
    signature := req.plaintextSignature
    createdAt := now
    encryptedEnvelope := req.encryptedEnvelope
    groupEncryptedEnvelope := req.groupEncryptedEnvelope
    senderHubUrl := none
    signerCert := (req.encryptedEnvelope.bind (·.signerCert)).or req.plaintextSignerCert }

-- A certificate registered without a sign-in still names the master; of several, the least is taken.
def masterOfMember (s : AuthState) (member : String) : Option String :=
  match s.db.masterOf member with
  | some master => some master
  | none => (s.tables.subkeyCerts.toList.find? fun row => row.2.contains member).map (·.1)

/-- What finds the hubs of a member: the hubs masters designated here, and what another hub answers with. -/
structure Directory where
  designations : Table (List String) := ∅
  remote : String → String → Option HomeHubList := fun _ _ => none

def Directory.fetchRemoteDesignation (directory : Directory) (keys : Keys) (hubUrl master : String) :
    Option (List String) :=
  ((directory.remote hubUrl master).filter fun list =>
    list.masterPubkey = master && (list.verify keys).isOk).map (·.hubs)

def deliveryUrls (keys : Keys) (directory : Directory) (s : AuthState) (member : String) (row : MemberRow) :
    List String :=
  let stored := (masterOfMember s member).bind fun master => directory.designations[master]?
  let designated := match stored, masterOfMember s member, row.hubUrl with
    | none, some master, some url => directory.fetchRemoteDesignation keys url master
    | known, _, _ => known
  match designated.filter (· ≠ []) with
  | some urls => urls
  | none => row.hubUrl.toList

structure Sent where
  convs : Conversations
  queue : List (String × FederatedDmRequest) := []
  answer : Except HttpError String

def queued (keys : Keys) (directory : Directory) (s : AuthState) (convs : Conversations) (user : AuthUser)
    (conversationId : String) (envelope : FederatedDmRequest) : List (String × FederatedDmRequest) :=
  ((convs.members[conversationId]?.getD ∅).toList.filter (·.1 ≠ user.publicKey)).flatMap fun member =>
    (deliveryUrls keys directory s member.1 member.2).map (·, envelope)

-- The answer is the message's id; to somebody who is blocked it is one that names nothing.
def sendDm (keys : Keys) (directory : Directory) (s : AuthState) (convs : Conversations) (user : AuthUser)
    (conversationId : String) (req : SendDmRequest) (mayPost : Except HttpError Unit) (id : String) (now : Int) :
    Sent :=
  match checkMember s convs user conversationId mayPost with
  | .error e => { convs := convs, answer := .error e }
  | .ok _ =>
    if blockedBy convs user.publicKey (membersOf convs conversationId) then { convs := convs, answer := .ok id }
    else
      match checkMessage keys s.db convs user conversationId req with
      | .error e => { convs := convs, answer := .error e }
      | .ok convType =>
        if id ∈ convs.messages then { convs := convs, answer := .error dbError }
        else
          let envelope :=
            federatedRequest user conversationId convType (membersOf convs conversationId) req id now
          { convs := { convs with messages := convs.messages.insert id (sentRow user conversationId req now) }
            queue := queued keys directory s convs user conversationId envelope
            answer := .ok id }

section

variable {keys : Keys}

-- What a tiered check passes: the sender's own signature, or one of a key whose certificate verifies.
theorem tiered_iff {msg : Bytes} {signatureHex sender what : String} {cert : Option SubkeyCert}
    {certMaster : Option String} :
    verifyTieredSignature keys msg signatureHex cert sender what = .ok certMaster ↔
      ∃ signature, hexDecode signatureHex = some signature ∧
        (cert = none ∧ certMaster = none ∧ verifySignature keys sender msg signature = .ok () ∨
          ∃ shown, cert = some shown ∧ certMaster = some shown.masterPubkey ∧ shown.verify keys = .ok () ∧
            verifySignature keys shown.subkeyPubkey msg signature = .ok ()) := by
  unfold verifyTieredSignature
  cases decoded : hexDecode signatureHex with
  | none => simp
  | some signature =>
    cases cert with
    | none => cases own : verifySignature keys sender msg signature <;> simp [own, eq_comm]
    | some shown =>
      cases certified : shown.verify keys with
      | error e => simp [certified]
      | ok _ =>
        cases device : verifySignature keys shown.subkeyPubkey msg signature <;>
          simp [certified, device, eq_comm]

end

section

variable {keys : Keys} {directory : Directory} {s : AuthState} {convs : Conversations} {user : AuthUser}
  {conversationId : String} {req : SendDmRequest} {mayPost : Except HttpError Unit} {id : String} {now : Int}

theorem checkMessage_ok {db : Db} {conv : ConvRow} {convType : String}
    (known : convs.conversations[conversationId]? = some conv)
    (checked : checkMessage keys db convs user conversationId req = .ok convType) :
    checkShape db conv.convType req = .ok () ∧ checkSignature keys user conversationId conv.convType req = .ok () := by
  simp only [checkMessage, known] at checked
  obtain ⟨_, shaped, checked⟩ := Checks.bind_ok checked
  obtain ⟨_, signed, _⟩ := Checks.bind_ok checked
  exact ⟨shaped, signed⟩

-- What goes to another hub is the request of a message that passed every check and is stored here.
theorem queued_checked {url : String} {envelope : FederatedDmRequest}
    (queuedOne : (url, envelope) ∈ (sendDm keys directory s convs user conversationId req mayPost id now).queue) :
    ∃ conv, convs.conversations[conversationId]? = some conv ∧
      checkMessage keys s.db convs user conversationId req = .ok conv.convType ∧
      envelope = federatedRequest user conversationId conv.convType (membersOf convs conversationId) req id now := by
  unfold sendDm at queuedOne
  split at queuedOne
  next => cases queuedOne
  next =>
    split at queuedOne
    next => cases queuedOne
    next =>
      split at queuedOne
      next => cases queuedOne
      next convType checked =>
        split at queuedOne
        next => cases queuedOne
        next =>
          obtain ⟨member, _, sent⟩ := List.mem_flatMap.mp queuedOne
          obtain ⟨_, _, same⟩ := List.mem_map.mp sent
          cases known : convs.conversations[conversationId]? with
          | none => simp [checkMessage, known] at checked
          | some conv =>
            have typed := checked
            simp only [checkMessage, known] at typed
            obtain ⟨_, _, typed⟩ := Checks.bind_ok typed
            obtain ⟨_, _, typed⟩ := Checks.bind_ok typed
            cases typed
            exact ⟨conv, rfl, checked, (Prod.mk.inj same).2.symm⟩

end

section

variable {keys : Keys} {registries : Registries} {isUuid : String → Bool} {db : Db} {convs : Conversations}
  {req : FederatedDmRequest}

@[simp] theorem messages_openFederated (db : Db) (convs : Conversations) (req : FederatedDmRequest) :
    (openFederated db convs req).2.messages = convs.messages :=
  openFederated_keeps (fun seated => seated.2.messages = convs.messages) rfl rfl fun seated member same =>
    (seatFederated_messages req seated member).trans same

/-- What a delivery passes before its message is stored. -/
structure Accepts (keys : Keys) (registries : Registries) (isUuid : String → Bool) (db : Db) (convs : Conversations)
    (req : FederatedDmRequest) : Prop where
  uuid : isUuid req.messageId = true
  fresh : req.messageId ∉ convs.messages
  roster : ∃ members, recipients convs req = .ok members ∧ blockedBy convs req.sender members = false
  signed : ∃ master, claimedMaster keys req = .ok master ∧
    (bindSender keys registries (ensureUserStub (openFederated db convs req).1 req.sender req.createdAt) req
      master).2 = .ok ()

theorem receive_accepts (accepts : Accepts keys registries isUuid db convs req) :
    (receiveFederatedDm keys registries isUuid db convs req).2.1 =
        { (openFederated db convs req).2 with
          messages := (openFederated db convs req).2.messages.insert req.messageId (messageRow req) } ∧
      (receiveFederatedDm keys registries isUuid db convs req).2.2 = .ok () := by
  obtain ⟨uuid, fresh, ⟨members, roster, open_⟩, master, claimed, bound⟩ := accepts
  unfold blockedBy at open_
  unfold receiveFederatedDm
  simp only [uuid, fresh, roster, open_, claimed, Bool.not_true, Bool.false_eq_true, if_false]
  generalize bindSender keys registries _ req master = binding at bound ⊢
  obtain ⟨after, answer⟩ := binding
  subst bound
  exact ⟨rfl, rfl⟩

theorem receive_stores (accepts : Accepts keys registries isUuid db convs req) :
    (receiveFederatedDm keys registries isUuid db convs req).2.1.messages =
        convs.messages.insert req.messageId (messageRow req) ∧
      (receiveFederatedDm keys registries isUuid db convs req).2.2 = .ok () := by
  obtain ⟨written, answered⟩ := receive_accepts accepts
  rw [written]
  exact ⟨by simp, answered⟩

theorem receive_refuses (refuses : ¬ Accepts keys registries isUuid db convs req) :
    (receiveFederatedDm keys registries isUuid db convs req).2.1.messages = convs.messages := by
  unfold receiveFederatedDm
  split
  next => rfl
  next uuid =>
    split
    next => rfl
    next fresh =>
      cases roster : recipients convs req with
      | error e => rfl
      | ok members =>
        dsimp only
        split
        next => rfl
        next open_ =>
          cases claimed : claimedMaster keys req with
          | error e => simp
          | ok master =>
            dsimp only
            split
            next => simp
            next after bound =>
              refine absurd ⟨by simpa using uuid, fresh, ⟨members, roster, ?_⟩, master, claimed, ?_⟩ refuses
              · exact Bool.eq_false_iff.mpr open_
              · rw [bound]

end

end Wavvon.Dms
