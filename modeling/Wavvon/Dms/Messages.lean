import Wavvon.Identity.Registry

set_option autoImplicit false

namespace Wavvon.Dms

open Wire (Bytes)
open Tables (Nested)

structure EncryptedDmEnvelope where
  senderPubkey : String
  convId : String
  ciphertextHex : String
  nonceHex : String
  dhPubkeyHex : String
  signatureHex : String
  v : UInt8 := 1
  messageIndex : Option UInt32 := none
  prevCount : Option UInt32 := none
  signerCert : Option SubkeyCert := none
  deriving DecidableEq, Repr

structure GroupEncryptedEnvelope where
  senderPubkey : String
  convId : String
  senderKeyVersion : UInt32
  iteration : UInt32
  ciphertextHex : String
  nonceHex : String
  signatureHex : String
  signerCert : Option SubkeyCert := none
  deriving DecidableEq, Repr

structure FederatedDmRequest where
  messageId : String
  conversationId : String
  convType : String
  sender : String
  members : List String
  content : Option String := none
  attachments : List String := []
  signature : Option String := none
  createdAt : Int
  encryptedEnvelope : Option EncryptedDmEnvelope := none
  groupEncryptedEnvelope : Option GroupEncryptedEnvelope := none
  senderHubUrl : Option String := none
  signerCert : Option SubkeyCert := none
  -- A copy on its way between a recipient's home hubs, not to be copied again.
  mirror : Bool := false
  deriving DecidableEq, Repr

structure CreateConversationRequest where
  members : List String
  memberHubs : List (String × String) := []
  memberMasters : List (String × String) := []
  deriving DecidableEq, Repr

structure ConvRow where
  convType : String
  createdAt : Int
  deriving DecidableEq, Repr

structure MemberRow where
  joinedAt : Int
  hubUrl : Option String := none
  deriving DecidableEq, Repr

structure DmMessageRow where
  conversationId : String
  sender : String
  content : Option String := none
  attachments : List String := []
  signature : Option String := none
  createdAt : Int
  envelope : Option EncryptedDmEnvelope := none
  groupEnvelope : Option GroupEncryptedEnvelope := none
  deriving DecidableEq, Repr

structure Conversations where
  conversations : Table ConvRow := ∅
  members : Nested String String MemberRow := ∅
  messages : Table DmMessageRow := ∅
  blocks : Finset (String × String) := ∅
  memberChanges : Nested String String Int := ∅

-- The device registry another hub serves, by url; none when it cannot be reached or read.
abbrev Registries := String → Option (List SubkeyCert)

def ensureUserStub (db : Db) (publicKey : String) (now : Int) : Db :=
  let stub : User := { firstSeenAt := now, lastSeenAt := now }
  { db with users := db.users.insertIfNew publicKey stub }

def bindMaster (db : Db) (canonical master : String) : Db :=
  { db with users := db.users.modify canonical fun user =>
      { user with masterPubkey := user.masterPubkey.or (some master) } }

def devicesUrl (hubUrl master : String) : String := hubUrl ++ "/identity/" ++ master ++ "/devices"

-- The certificate proves that the master named the key, not that the key knows the master.
def provesBinding (keys : Keys) (canonical master : String) (certs : List SubkeyCert) : Bool :=
  certs.any fun cert =>
    cert.subkeyPubkey = canonical && cert.masterPubkey = master && (cert.verify keys).isOk

def resolveMasterBinding (keys : Keys) (registries : Registries) (db : Db) (canonical master : String)
    (senderHubUrl : Option String) : Db × Bool :=
  match db.masterOf canonical with
  | some known => (db, known == master)
  | none =>
    match senderHubUrl.bind fun url => registries (devicesUrl url master) with
    | none => (db, false)
    | some certs =>
      if provesBinding keys canonical master certs then (bindMaster db canonical master, true)
      else (db, false)

def dbError : HttpError := (500, "DB error")

section

variable (keys : Keys) (registries : Registries)

def joinConversation (req : CreateConversationRequest) (id member : String) (now : Int)
    (db : Db) (convs : Conversations) : Db × Except HttpError Conversations :=
  let hubUrl := req.memberHubs.lookup member
  let stubbed := ensureUserStub db member now
  let bound := match req.memberMasters.lookup member, hubUrl with
    | some master, some url =>
      (resolveMasterBinding keys registries stubbed member master (some url)).1
    | _, _ => stubbed
  -- The membership table's primary key: a member named twice is a database error.
  match convs.members.get id member with
  | some _ => (bound, .error dbError)
  | none => (bound, .ok { convs with members := convs.members.put id member { joinedAt := now, hubUrl := hubUrl } })

def joinAll (req : CreateConversationRequest) (id : String) (now : Int) :
    List String → Db → Conversations → Db × Conversations × Except HttpError Unit
  | [], db, convs => (db, convs, .ok ())
  | member :: rest, db, convs =>
    match joinConversation keys registries req id member now db convs with
    | (db, .error e) => (db, convs, .error e)
    | (db, .ok convs) => joinAll req id now rest db convs

def membersOf (convs : Conversations) (id : String) : List String :=
  ((convs.members[id]?.getD ∅).toList).map (·.1)

def findExistingDm (convs : Conversations) (userA userB : String) : Option String :=
  (convs.conversations.toList.find? fun row =>
    row.2.convType = "dm" && (convs.members.get row.1 userA).isSome &&
      (convs.members.get row.1 userB).isSome && (membersOf convs row.1).length = 2).map (·.1)

-- The id of the conversation, new or found.
def createConversation (db : Db) (convs : Conversations) (user : AuthUser)
    (req : CreateConversationRequest) (id : String) (now : Int) :
    Db × Conversations × Except HttpError String :=
  match req.members with
  | [] => (db, convs, .error (400, "Need at least one other member"))
  | first :: others =>
    let convType := if others = [] then "dm" else "group"
    match (if convType = "dm" then findExistingDm convs user.publicKey first else none) with
    | some existing => (db, convs, .ok existing)
    | none =>
      let opened := { convs with
        conversations := convs.conversations.insert id { convType := convType, createdAt := now }
        members := convs.members.put id user.publicKey { joinedAt := now } }
      match joinAll keys registries req id now req.members db opened with
      | (db, convs, .error e) => (db, convs, .error e)
      | (db, convs, .ok _) => (db, convs, .ok id)

def envelopeSigningBytes (env : EncryptedDmEnvelope) : Bytes :=
  if env.v = 2 then
    Wire.drEnvelopeSigningBytes env.convId (env.messageIndex.getD 0) (env.prevCount.getD 0)
      env.ciphertextHex env.dhPubkeyHex
  else Wire.dmEnvelopeSigningBytes env.convId env.ciphertextHex env.nonceHex env.dhPubkeyHex

def verifyTieredSignature (msg : Bytes) (signatureHex : String) (signerCert : Option SubkeyCert)
    (authoritativeSender what : String) : Except HttpError (Option String) :=
  match hexDecode signatureHex with
  | none => .error (400, "Bad signature hex")
  | some signature =>
    match signerCert with
    | none =>
      match verifySignature keys authoritativeSender msg signature with
      | .error e => .error (400, "Invalid " ++ what ++ " signature: " ++ e)
      | .ok _ => .ok none
    | some cert =>
      match cert.verify keys with
      | .error e => .error (400, "Invalid signer cert: " ++ e)
      | .ok _ =>
        match verifySignature keys cert.subkeyPubkey msg signature with
        | .error e => .error (400, "Invalid " ++ what ++ " signature: " ++ e)
        | .ok _ => .ok (some cert.masterPubkey)

def verifyEnvelopeSender (env : EncryptedDmEnvelope) (authoritativeSender : String) :
    Except HttpError (Option String) :=
  verifyTieredSignature keys (envelopeSigningBytes env) env.signatureHex env.signerCert
    authoritativeSender "envelope"

def verifyGroupEnvelope (env : GroupEncryptedEnvelope) (sender : String) : Except HttpError Unit :=
  match hexDecode env.signatureHex with
  | none => .error (400, "Bad group envelope signature hex")
  | some signature =>
    let msg := Wire.groupDmEnvelopeSigningBytes env.convId env.senderKeyVersion env.iteration
      env.ciphertextHex env.nonceHex
    match verifySignature keys sender msg signature with
    | .error e => .error (400, "Invalid group envelope signature: " ++ e)
    | .ok _ => .ok ()

def bindSender (db : Db) (req : FederatedDmRequest) (master : Option String) :
    Db × Except HttpError Unit :=
  match master with
  | none => (db, .ok ())
  | some master =>
    match resolveMasterBinding keys registries db req.sender master req.senderHubUrl with
    | (db, false) => (db, .error (401, "signer_cert master is not bound to sender"))
    | (db, true) => (db, .ok ())

-- The master an accepted payload asks to be bound to its sender.
def claimedMaster (req : FederatedDmRequest) : Except HttpError (Option String) :=
  match req.encryptedEnvelope, req.groupEncryptedEnvelope with
  | some env, _ =>
    match verifyEnvelopeSender keys env req.sender with
    | .error e => .error e
    -- The forwarded certificate is taken at its word.
    | .ok certMaster => .ok (certMaster.or (req.signerCert.map (·.masterPubkey)))
  | none, some env =>
    match verifyGroupEnvelope keys env req.sender with
    | .error e => .error e
    | .ok _ => .ok none
  | none, none =>
    match req.signature with
    | none => .error (400, "plaintext federated DM requires a sender signature")
    | some signature =>
      let msg := Wire.federatedPlaintextDmSigningBytes req.conversationId req.convType (req.content.getD "")
      match verifyTieredSignature keys msg signature req.signerCert req.sender "sender" with
      | .error e => .error (401, e.2)
      | .ok certMaster => .ok certMaster

def messageRow (req : FederatedDmRequest) : DmMessageRow :=
  let sealed := req.encryptedEnvelope.isSome || req.groupEncryptedEnvelope.isSome
  { conversationId := req.conversationId
    sender := req.sender
    content := if sealed then none else some (req.content.getD "")
    attachments := if sealed then [] else req.attachments
    signature := req.signature
    createdAt := req.createdAt
    envelope := req.encryptedEnvelope
    groupEnvelope := if req.encryptedEnvelope.isSome then none else req.groupEncryptedEnvelope }

def openFederated (db : Db) (convs : Conversations) (req : FederatedDmRequest) : Db × Conversations :=
  if req.conversationId ∈ convs.conversations then (db, convs)
  else
    let row : ConvRow := { convType := req.convType, createdAt := req.createdAt }
    let opened := { convs with conversations := convs.conversations.insert req.conversationId row }
    req.members.foldl (fun (db, convs) member =>
      (ensureUserStub db member req.createdAt,
        match convs.members.get req.conversationId member with
        | some _ => convs
        | none => { convs with
            members := convs.members.put req.conversationId member { joinedAt := req.createdAt } }))
      (db, opened)

def withConversation (convs : Conversations) (req : FederatedDmRequest) : Conversations :=
  let row : ConvRow := { convType := req.convType, createdAt := req.createdAt }
  { convs with conversations := convs.conversations.insert req.conversationId row }

-- One turn of the loop over the members.
def seatFederated (req : FederatedDmRequest) (seated : Db × Conversations) (member : String) : Db × Conversations :=
  (ensureUserStub seated.1 member req.createdAt,
    match seated.2.members.get req.conversationId member with
    | some _ => seated.2
    | none => { seated.2 with
        members := seated.2.members.put req.conversationId member { joinedAt := req.createdAt } })

theorem openFederated_known {db : Db} {convs : Conversations} {req : FederatedDmRequest}
    (known : req.conversationId ∈ convs.conversations) : openFederated db convs req = (db, convs) := by
  simp [openFederated, known]

theorem openFederated_fresh {convs : Conversations} {req : FederatedDmRequest} (db : Db)
    (fresh : req.conversationId ∉ convs.conversations) :
    openFederated db convs req = req.members.foldl (seatFederated req) (db, withConversation convs req) := by
  unfold openFederated
  rw [if_neg fresh]
  rfl

-- What the row of the conversation and every seat keep is kept.
theorem openFederated_keeps {db : Db} {convs : Conversations} {req : FederatedDmRequest}
    (kept : Db × Conversations → Prop) (before : kept (db, convs))
    (opened : kept (db, withConversation convs req))
    (seats : ∀ seated member, kept seated → kept (seatFederated req seated member)) :
    kept (openFederated db convs req) := by
  by_cases known : req.conversationId ∈ convs.conversations
  · rw [openFederated_known known]
    exact before
  · rw [openFederated_fresh db known]
    exact List.foldlRecOn req.members _ opened fun seated held member _ => seats seated member held

theorem seatFederated_conversations (req : FederatedDmRequest) (seated : Db × Conversations) (member : String) :
    (seatFederated req seated member).2.conversations = seated.2.conversations := by
  unfold seatFederated
  dsimp only
  split <;> rfl

theorem seatFederated_messages (req : FederatedDmRequest) (seated : Db × Conversations) (member : String) :
    (seatFederated req seated member).2.messages = seated.2.messages := by
  unfold seatFederated
  dsimp only
  split <;> rfl

-- Once the hub holds a roster, it is the roster.
def recipients (convs : Conversations) (req : FederatedDmRequest) : Except HttpError (List String) :=
  if req.conversationId ∈ convs.conversations then
    if (convs.members.get req.conversationId req.sender).isSome then .ok (membersOf convs req.conversationId)
    else .error (403, "Sender is not a member of this conversation")
  else if req.sender ∈ req.members then .ok req.members
  else .error (400, "A new conversation's members must include its sender")

def receiveFederatedDm (isUuid : String → Bool) (db : Db) (convs : Conversations)
    (req : FederatedDmRequest) : Db × Conversations × Except HttpError Unit :=
  if !isUuid req.messageId then (db, convs, .error (400, "message_id must be a UUID"))
  else if req.messageId ∈ convs.messages then (db, convs, .ok ())
  else
    match recipients convs req with
    | .error e => (db, convs, .error e)
    | .ok recipients =>
      -- A block looks like success to the sending hub.
      if recipients.any fun member => member ≠ req.sender ∧ (member, req.sender) ∈ convs.blocks then
        (db, convs, .ok ())
      else
        let opened := openFederated db convs req
        let stubbed := ensureUserStub opened.1 req.sender req.createdAt
        match claimedMaster keys req with
        | .error e => (stubbed, opened.2, .error e)
        | .ok master =>
          match bindSender keys registries stubbed req master with
          | (db, .error e) => (db, opened.2, .error e)
          | (db, .ok _) =>
            (db, { opened.2 with messages := opened.2.messages.insert req.messageId (messageRow req) }, .ok ())

end

end Wavvon.Dms
