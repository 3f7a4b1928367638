import Wavvon.Dms.Arrival
import Wavvon.Dms.Takeover

set_option autoImplicit false

namespace Wavvon.Dms

variable {Text : Type}

/-- A JSON encoding and the decoding that gives back what was written. -/
structure Json (Text α : Type) where
  encode : α → Text
  decode : Text → Except String α
  decode_encode : ∀ value, decode (encode value) = .ok value

/-- How the text columns of `dm_messages` hold what they hold; a list is never an empty text. -/
structure Columns (Text : Type) where
  isEmpty : Text → Bool
  attachments : Json Text (List String)
  attachments_nonempty : ∀ list, isEmpty (attachments.encode list) = false
  envelope : Json Text EncryptedDmEnvelope
  groupEnvelope : Json Text GroupEncryptedEnvelope

-- A row of `dm_messages` as it is stored.
structure StoredMessage (Text : Type) where
  conversationId : String
  sender : String
  content : Option String
  attachments : Option Text
  signature : Option String
  createdAt : Int
  isEncrypted : Bool
  ciphertextJson : Option Text
  isGroupEncrypted : Bool
  deriving DecidableEq, Repr

section

variable (columns : Columns Text)

def encodeAttachments (attachments : List String) : Option Text :=
  if attachments = [] then none else some (columns.attachments.encode attachments)

-- The three inserts of `send_dm`.
def insertSent (user : AuthUser) (conversationId : String) (req : SendDmRequest) (now : Int) :
    StoredMessage Text :=
  match req.encryptedEnvelope, req.groupEncryptedEnvelope with
  | some env, _ =>
    { conversationId := conversationId
      sender := user.publicKey
      content := none
      attachments := encodeAttachments columns req.attachments
      signature := none
      createdAt := now
      isEncrypted := true
      ciphertextJson := some (columns.envelope.encode env)
      isGroupEncrypted := false }
  | none, some env =>
    { conversationId := conversationId
      sender := user.publicKey
      content := none
      attachments := encodeAttachments columns req.attachments
      signature := none
      createdAt := now
      isEncrypted := false
      ciphertextJson := some (columns.groupEnvelope.encode env)
      isGroupEncrypted := true }
  | none, none =>
    { conversationId := conversationId
      sender := user.publicKey
      content := some (req.content.getD "")
      attachments := encodeAttachments columns req.attachments
      signature := req.plaintextSignature
      createdAt := now
      isEncrypted := false
      ciphertextJson := none
      isGroupEncrypted := false }

inductive LoadEnvelopeError where
  | db
  | unreadable (why : String)
  deriving DecidableEq, Repr

def decodeAttachments (text : Option Text) : List String :=
  ((text.filter fun text => !columns.isEmpty text).bind fun text =>
    (columns.attachments.decode text).toOption).getD []

-- What a flag says is there has to be there, and to parse.
def envelopeJson {α : Type} (json : Json Text α) (flag : Bool) (kind unparsable : String)
    (text : Option Text) : Except LoadEnvelopeError (Option α) :=
  if flag then
    match text with
    | none => .error (.unreadable (kind ++ " is set but ciphertext_json is NULL"))
    | some text =>
      match json.decode text with
      | .error e => .error (.unreadable (unparsable ++ ": " ++ e))
      | .ok env => .ok (some env)
  else .ok none

def storedEnvelope (convs : Conversations) (messageId : String) (msg : StoredMessage Text) :
    Except LoadEnvelopeError FederatedDmRequest :=
  match convs.conversations[msg.conversationId]? with
  | none => .error .db
  | some conv => do
    let encryptedEnvelope ← envelopeJson columns.envelope msg.isEncrypted "is_encrypted"
      "unparsable EncryptedDmEnvelope" msg.ciphertextJson
    let groupEncryptedEnvelope ← envelopeJson columns.groupEnvelope msg.isGroupEncrypted "is_group_encrypted"
      "unparsable GroupEncryptedEnvelope" msg.ciphertextJson
    .ok
      { messageId := messageId
        conversationId := msg.conversationId
        convType := conv.convType
        sender := msg.sender
        members := membersOf convs msg.conversationId
        content := msg.content
        attachments := decodeAttachments columns msg.attachments
        signature := msg.signature
        createdAt := msg.createdAt
        encryptedEnvelope := encryptedEnvelope
        groupEncryptedEnvelope := groupEncryptedEnvelope
        senderHubUrl := none
        signerCert := encryptedEnvelope.bind (·.signerCert) }

-- The worker's view of a queued message; none when the message is gone.
def loadEnvelope (rows : Table (StoredMessage Text)) (convs : Conversations) (messageId : String) :
    Except LoadEnvelopeError (Option FederatedDmRequest) :=
  match rows[messageId]? with
  | none => .ok none
  | some msg => (storedEnvelope columns convs messageId msg).map some

end

/-- The message as the rest of the model sees it, once its columns are decoded. -/
def StoredMessage.row (columns : Columns Text) (msg : StoredMessage Text) : DmMessageRow :=
  { conversationId := msg.conversationId
    sender := msg.sender
    content := msg.content
    attachments := decodeAttachments columns msg.attachments
    signature := msg.signature
    createdAt := msg.createdAt
    envelope := if msg.isEncrypted then
      msg.ciphertextJson.bind fun text => (columns.envelope.decode text).toOption
      else none
    groupEnvelope := if msg.isGroupEncrypted then
      msg.ciphertextJson.bind fun text => (columns.groupEnvelope.decode text).toOption
      else none }

section

variable (columns : Columns Text)

@[simp] theorem decode_encodeAttachments (attachments : List String) :
    decodeAttachments columns (encodeAttachments columns attachments) = attachments := by
  unfold decodeAttachments encodeAttachments
  split
  next empty => simp [empty]
  next => simp [Option.filter, columns.attachments_nonempty, columns.attachments.decode_encode, Except.toOption]

@[simp] theorem envelopeJson_unset {α : Type} (json : Json Text α) (kind unparsable : String)
    (text : Option Text) :
    envelopeJson json false kind unparsable text = .ok none := rfl

@[simp] theorem envelopeJson_encode {α : Type} (json : Json Text α) (kind unparsable : String) (env : α) :
    envelopeJson json true kind unparsable (some (json.encode env)) = .ok (some env) := by
  simp [envelopeJson, json.decode_encode]

end

/-- The same request, were it not for the order of the members. -/
def SameRequest (first second : FederatedDmRequest) : Prop :=
  first.members.Perm second.members ∧ { first with members := [] } = { second with members := [] }

instance (first second : FederatedDmRequest) : Decidable (SameRequest first second) :=
  inferInstanceAs (Decidable (_ ∧ _))

/-- What a retry of the message sends is what `first` was. -/
def Resends (columns : Columns Text) (rows : Table (StoredMessage Text)) (convs : Conversations)
    (first : FederatedDmRequest) :
    Prop :=
  ∃ retry, loadEnvelope columns rows convs first.messageId = .ok (some retry) ∧ SameRequest retry first

/-- The columns have room for it: a certificate only inside an envelope, a signature only of a plaintext. -/
def Columned (req : SendDmRequest) : Prop :=
  (req.plaintextSignerCert.isSome → (req.encryptedEnvelope.bind (·.signerCert)).isSome) ∧
    (req.encryptedEnvelope.isSome ∨ req.groupEncryptedEnvelope.isSome → req.plaintextSignature = none)

section

variable {columns : Columns Text}

theorem checkShape_ok {db : Db} {convType : String} {req : SendDmRequest}
    (shaped : checkShape db convType req = .ok ()) : bodies req = 1 := by
  unfold checkShape at shaped
  obtain ⟨some, shaped⟩ := Checks.refuse_ok shaped
  obtain ⟨one, _⟩ := Checks.refuse_ok shaped
  omega

-- Exactly one of the three bodies is there.
theorem bodies_one {req : SendDmRequest} (one : bodies req = 1) :
    req.content.isSome = !(req.encryptedEnvelope.isSome || req.groupEncryptedEnvelope.isSome) ∧
      (req.encryptedEnvelope.isSome = true → req.groupEncryptedEnvelope = none) := by
  unfold bodies at one
  cases content : req.content <;> cases encrypted : req.encryptedEnvelope <;>
    cases group : req.groupEncryptedEnvelope <;> simp_all

theorem loadEnvelope_sent {user : AuthUser} {conversationId id : String} {req : SendDmRequest} {now : Int}
    {rows : Table (StoredMessage Text)} {convs : Conversations} {conv : ConvRow}
    (stored : rows[id]? = some (insertSent columns user conversationId req now))
    (known : convs.conversations[conversationId]? = some conv) (one : bodies req = 1) :
    loadEnvelope columns rows convs id = .ok (some
      { federatedRequest user conversationId conv.convType (membersOf convs conversationId) req id now with
        signature := if req.encryptedEnvelope.isSome ∨ req.groupEncryptedEnvelope.isSome then none
          else req.plaintextSignature
        signerCert := req.encryptedEnvelope.bind (·.signerCert) }) := by
  obtain ⟨plain, single⟩ := bodies_one one
  unfold loadEnvelope storedEnvelope
  simp only [stored]
  unfold insertSent federatedRequest
  cases encrypted : req.encryptedEnvelope with
  | some env =>
    have group := single (by simp [encrypted])
    have noContent : req.content = none := by simpa [encrypted] using plain
    simp [known, group, noContent]
    rfl
  | none =>
    cases group : req.groupEncryptedEnvelope with
    | some env =>
      have noContent : req.content = none := by simpa [encrypted, group] using plain
      simp [known, noContent]
      rfl
    | none =>
      have content : req.content.isSome = true := by simpa [encrypted, group] using plain
      obtain ⟨text, content⟩ := Option.isSome_iff_exists.mp content
      simp [known, content]
      rfl

/--
A retry sends what the first attempt sent exactly if the columns have room for it: later on, while the
conversation is of the same type and has the members it had.
-/
theorem resends_iff_columned (keys : Keys) (directory : Directory) (s : AuthState) (convs : Conversations)
    (user : AuthUser)
    (conversationId : String) (req : SendDmRequest) (mayPost : Except HttpError Unit) (id : String) (now : Int)
    (url : String) (first : FederatedDmRequest)
    (queuedOne : (url, first) ∈ (sendDm keys directory s convs user conversationId req mayPost id now).queue)
    (rows : Table (StoredMessage Text)) (later : Conversations)
    (stored : rows[id]? = some (insertSent columns user conversationId req now))
    (sameType : (later.conversations[conversationId]?).map (·.convType) =
      (convs.conversations[conversationId]?).map (·.convType))
    (sameRoster : (membersOf later conversationId).Perm (membersOf convs conversationId)) :
    Resends columns rows later first ↔ Columned req := by
  obtain ⟨conv, known, checked, rfl⟩ := queued_checked queuedOne
  have one := checkShape_ok (checkMessage_ok known checked).1
  obtain ⟨conv', known', typed⟩ : ∃ conv', later.conversations[conversationId]? = some conv' ∧
      conv'.convType = conv.convType := by
    simpa [known] using sameType
  have loaded := loadEnvelope_sent stored known' one
  rw [typed] at loaded
  have messageId : (federatedRequest user conversationId conv.convType (membersOf convs conversationId) req id
      now).messageId = id := rfl
  unfold Resends SameRequest
  rw [messageId, loaded]
  simp only [Except.ok.injEq, Option.some.injEq, exists_eq_left']
  unfold federatedRequest Columned
  simp only [sameRoster, true_and, FederatedDmRequest.mk.injEq, and_true]
  cases req.encryptedEnvelope.bind (·.signerCert) <;> cases req.plaintextSignerCert <;>
    cases req.plaintextSignature <;> simp

end

inductive Written where
  | attachments (list : List String)
  | envelope (env : EncryptedDmEnvelope)
  | groupEnvelope (env : GroupEncryptedEnvelope)
  deriving DecidableEq

def written : Columns Written where
  isEmpty _ := false
  attachments :=
    { encode := .attachments
      decode := fun | .attachments list => .ok list | _ => .error "invalid type"
      decode_encode := fun _ => rfl }
  attachments_nonempty _ := rfl
  envelope :=
    { encode := .envelope
      decode := fun | .envelope env => .ok env | _ => .error "invalid type"
      decode_encode := fun _ => rfl }
  groupEnvelope :=
    { encode := .groupEnvelope
      decode := fun | .groupEnvelope env => .ok env | _ => .error "invalid type"
      decode_encode := fun _ => rfl }

def kept (user : AuthUser) (req : SendDmRequest) : Table (StoredMessage Written) :=
  (∅ : Table (StoredMessage Written)).insert "m1" (insertSent written user "c" req 5)

theorem resends_iff_columned_hello : Resends written (kept ann hello) annsSide (sentTo hello) := by
  refine (resends_iff_columned openKeys {} {} annsSide ann "c" hello (.ok ()) "m1" 5 "https://bob"
    (sentTo hello) ?_ (kept ann hello) annsSide ?_ rfl (List.Perm.refl _)).mpr ?_
  · decide +kernel
  · exact Std.ExtTreeMap.getElem?_insert_self
  · simp [Columned, hello]

-- Ann's paired device: it signs with its own key, and master 3's certificate says whose device it is.
def paired : AuthUser := { ann with masterPubkey := some (namedKey 3) }

def fromDevice : SendDmRequest :=
  { content := some "hello", plaintextSignature := some (signedBy 2), plaintextSignerCert := some (certOf 3 2) }

theorem resends_paired :
    ("https://bob", federatedRequest paired "c" "dm" [namedKey 1, "bob"] fromDevice "m1" 5) ∈
        (sendDm openKeys {} {} annsSide paired "c" fromDevice (.ok ()) "m1" 5).queue ∧
      ¬ Resends written (kept paired fromDevice) annsSide
        (federatedRequest paired "c" "dm" [namedKey 1, "bob"] fromDevice "m1" 5) := by
  constructor
  · decide +kernel
  · rintro ⟨retry, loaded, _, same⟩
    have known : annsSide.conversations["c"]? = some { convType := "dm", createdAt := 1 } := by decide +kernel
    have stored : (kept paired fromDevice)["m1"]? = some (insertSent written paired "c" fromDevice 5) :=
      Std.ExtTreeMap.getElem?_insert_self
    have id : (federatedRequest paired "c" "dm" [namedKey 1, "bob"] fromDevice "m1" 5).messageId = "m1" := rfl
    rw [id, loadEnvelope_sent stored known rfl] at loaded
    cases loaded
    have cert := congrArg FederatedDmRequest.signerCert same
    simp [fromDevice, federatedRequest] at cert

end Wavvon.Dms
