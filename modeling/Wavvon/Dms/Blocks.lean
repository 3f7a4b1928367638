import Wavvon.Dms.Arrival

set_option autoImplicit false

namespace Wavvon.Dms

open Std (ExtTreeMap)

structure DmMessageResponse where
  id : String
  conversationId : String
  sender : String
  senderName : Option String
  content : Option String
  createdAt : Int
  attachments : List String
  deliveryFailed : Bool
  isEncrypted : Bool
  encryptedEnvelope : Option EncryptedDmEnvelope
  groupEncryptedEnvelope : Option GroupEncryptedEnvelope
  deriving DecidableEq, Repr

-- What somebody who is blocked gets: shaped like a success, with nothing stored.
def placeholder (user : AuthUser) (conversationId : String) (req : SendDmRequest) (id : String) (now : Int) :
    DmMessageResponse :=
  { id := id
    conversationId := conversationId
    sender := user.publicKey
    senderName := none
    content := req.content
    createdAt := now
    attachments := req.attachments
    deliveryFailed := false
    isEncrypted := false
    encryptedEnvelope := none
    groupEncryptedEnvelope := none }

def displayNameOf (db : Db) (publicKey : String) : Option String := db.users[publicKey]?.bind (·.displayName)

def sentResponse (db : Db) (user : AuthUser) (conversationId : String) (req : SendDmRequest) (id : String) (now : Int) :
    DmMessageResponse :=
  { id := id
    conversationId := conversationId
    sender := user.publicKey
    senderName := displayNameOf db user.publicKey
    content := req.content
    createdAt := now
    attachments := req.attachments
    deliveryFailed := false
    isEncrypted := req.encryptedEnvelope.isSome
    encryptedEnvelope := req.encryptedEnvelope
    groupEncryptedEnvelope := req.groupEncryptedEnvelope }

section

variable (keys : Keys) (directory : Directory) (s : AuthState) (convs : Conversations) (user : AuthUser)
  (conversationId : String) (req : SendDmRequest) (mayPost : Except HttpError Unit)

-- The whole answer of `send_dm`, its id included; with it goes 201.
def sendDmResponse (id : String) (now : Int) : Except HttpError DmMessageResponse :=
  (sendDm keys directory s convs user conversationId req mayPost id now).answer.map fun id =>
    if blockedBy convs user.publicKey (membersOf convs conversationId) then placeholder user conversationId req id now
    else sentResponse s.db user conversationId req id now

end

/-- The same hub, with one more block. -/
def Conversations.withBlock (convs : Conversations) (owner blocked : String) : Conversations :=
  { convs with blocks := insert (owner, blocked) convs.blocks }

-- The answer but for the fresh id and the time.
def DmMessageResponse.masked (response : DmMessageResponse) : DmMessageResponse :=
  { response with id := "", createdAt := 0 }

-- The status a delivery is answered with.
def statusOf : Except HttpError Unit → Nat
  | .ok _ => 200
  | .error e => e.1

section

variable (keys : Keys) (registries : Registries) (isUuid : String → Bool)

/-- The sender is answered alike whether or not the recipient has blocked it, each time with an id and a time
of its own. -/
def SendsAlike (directory : Directory) (s : AuthState) (convs : Conversations) (user : AuthUser)
    (conversationId recipient : String) (req : SendDmRequest) (mayPost : Except HttpError Unit)
    (first second : String × Int) : Prop :=
  (sendDmResponse keys directory s convs user conversationId req mayPost first.1 first.2).map DmMessageResponse.masked =
    (sendDmResponse keys directory s (convs.withBlock recipient user.publicKey) user conversationId req mayPost second.1
      second.2).map DmMessageResponse.masked

def ReceivesAlike (db : Db) (convs : Conversations) (recipient : String) (req : FederatedDmRequest) : Prop :=
  statusOf (receiveFederatedDm keys registries isUuid db convs req).2.2 =
    statusOf (receiveFederatedDm keys registries isUuid db (convs.withBlock recipient req.sender) req).2.2

instance (directory : Directory) (s : AuthState) (convs : Conversations) (user : AuthUser)
    (conversationId recipient : String) (req : SendDmRequest) (mayPost : Except HttpError Unit)
    (first second : String × Int) :
    Decidable (SendsAlike keys directory s convs user conversationId recipient req mayPost first second) :=
  inferInstanceAs (Decidable (_ = _))

instance (db : Db) (convs : Conversations) (recipient : String) (req : FederatedDmRequest) :
    Decidable (ReceivesAlike keys registries isUuid db convs recipient req) :=
  inferInstanceAs (Decidable (_ = _))

/-- A message that no check refuses, in the clear, of somebody without a display name. -/
structure Unremarkable (s : AuthState) (convs : Conversations) (user : AuthUser) (conversationId : String)
    (req : SendDmRequest) : Prop where
  checked : ∃ convType, checkMessage keys s.db convs user conversationId req = .ok convType
  plain : req.encryptedEnvelope = none ∧ req.groupEncryptedEnvelope = none
  nameless : displayNameOf s.db user.publicKey = none

end

section

variable {keys : Keys} {registries : Registries} {isUuid : String → Bool} {directory : Directory} {s : AuthState}
  {convs : Conversations} {user : AuthUser} {conversationId recipient : String} {req : SendDmRequest}
  {mayPost : Except HttpError Unit} {id : String} {now : Int}

theorem blockedBy_withBlock {sender : String} {members : List String} (inside : recipient ∈ members)
    (other : recipient ≠ sender) : blockedBy (convs.withBlock recipient sender) sender members = true := by
  refine List.any_eq_true.mpr ⟨recipient, inside, ?_⟩
  simp [Conversations.withBlock, other]

theorem sendDmResponse_open (allowed : checkMember s convs user conversationId mayPost = .ok ())
    (open_ : blockedBy convs user.publicKey (membersOf convs conversationId) = false) (fresh : id ∉ convs.messages) :
    sendDmResponse keys directory s convs user conversationId req mayPost id now =
      (checkMessage keys s.db convs user conversationId req).map fun _ =>
        sentResponse s.db user conversationId req id now := by
  unfold sendDmResponse sendDm
  simp only [allowed, open_, Bool.false_eq_true, if_false]
  cases checkMessage keys s.db convs user conversationId req with
  | error e => rfl
  | ok convType =>
    simp only [fresh, if_false]
    rfl

theorem sendDmResponse_blocked (allowed : checkMember s convs user conversationId mayPost = .ok ())
    (blocked : blockedBy convs user.publicKey (membersOf convs conversationId) = true) :
    sendDmResponse keys directory s convs user conversationId req mayPost id now =
      .ok (placeholder user conversationId req id now) := by
  unfold sendDmResponse sendDm
  simp only [allowed, blocked, if_true]
  rfl

theorem sendDmResponse_refused {e : HttpError} (refused : checkMember s convs user conversationId mayPost = .error e) :
    sendDmResponse keys directory s convs user conversationId req mayPost id now = .error e := by
  unfold sendDmResponse sendDm
  rw [refused]
  rfl

theorem masked_eq_iff {first second : String × Int} :
    (sentResponse s.db user conversationId req first.1 first.2).masked =
        (placeholder user conversationId req second.1 second.2).masked ↔
      (req.encryptedEnvelope = none ∧ req.groupEncryptedEnvelope = none) ∧
      displayNameOf s.db user.publicKey = none := by
  simp only [sentResponse, placeholder, DmMessageResponse.masked, DmMessageResponse.mk.injEq]
  cases req.encryptedEnvelope <;> simp [and_comm]

theorem sendsAlike_iff (member : recipient ∈ membersOf convs conversationId) (other : recipient ≠ user.publicKey)
    {first second : String × Int} (fresh : first.1 ∉ convs.messages) :
    SendsAlike keys directory s convs user conversationId recipient req mayPost first second ↔
      (checkMember s convs user conversationId mayPost = .ok () →
        blockedBy convs user.publicKey (membersOf convs conversationId) = false →
          Unremarkable keys s convs user conversationId req) := by
  have sameMember : checkMember s (convs.withBlock recipient user.publicKey) user conversationId mayPost =
      checkMember s convs user conversationId mayPost := rfl
  have sameMembers : membersOf (convs.withBlock recipient user.publicKey) conversationId = membersOf convs conversationId :=
    rfl
  unfold SendsAlike
  cases allowed : checkMember s convs user conversationId mayPost with
  | error e =>
    rw [sendDmResponse_refused allowed, sendDmResponse_refused (sameMember.trans allowed)]
    simp
  | ok _ =>
    rw [sendDmResponse_blocked (sameMember.trans allowed)
      (by rw [sameMembers]; exact blockedBy_withBlock member other)]
    cases blocked : blockedBy convs user.publicKey (membersOf convs conversationId) with
    | true =>
      rw [sendDmResponse_blocked allowed blocked]
      simp [Except.map, placeholder, DmMessageResponse.masked]
    | false =>
      rw [sendDmResponse_open allowed blocked fresh]
      cases checked : checkMessage keys s.db convs user conversationId req with
      | error e =>
        refine iff_of_false ?_ ?_
        · intro same
          cases same
        · intro unremarkable
          obtain ⟨convType, passes⟩ := (unremarkable rfl rfl).checked
          rw [checked] at passes
          cases passes
      | ok convType =>
        simp only [Except.map, Except.ok.injEq, masked_eq_iff]
        constructor
        · rintro ⟨plain, nameless⟩ _ _
          exact ⟨⟨convType, checked⟩, plain, nameless⟩
        · intro unremarkable
          obtain ⟨_, plain, nameless⟩ := unremarkable trivial trivial
          exact ⟨plain, nameless⟩

end

section

variable {keys : Keys} {registries : Registries} {isUuid : String → Bool} {db : Db} {convs : Conversations}
  {recipient : String} {req : FederatedDmRequest} {e : HttpError}

-- What is answered to a delivery nobody blocks, once its signature is looked at.
def judged (keys : Keys) (registries : Registries) (db : Db) (convs : Conversations) (req : FederatedDmRequest) :
    Except HttpError Unit :=
  match claimedMaster keys req with
  | .error e => .error e
  | .ok master =>
    (bindSender keys registries (ensureUserStub (openFederated db convs req).1 req.sender req.createdAt) req master).2

theorem receive_answer :
    (receiveFederatedDm keys registries isUuid db convs req).2.2 =
      if isUuid req.messageId = false then .error (400, "message_id must be a UUID")
      else if req.messageId ∈ convs.messages then .ok ()
      else
        match recipients convs req with
        | .error e => .error e
        | .ok members => if blockedBy convs req.sender members then .ok () else judged keys registries db convs req := by
  unfold receiveFederatedDm blockedBy judged
  cases isUuid req.messageId with
  | false => rfl
  | true =>
    by_cases stored : req.messageId ∈ convs.messages
    · simp [stored]
    · simp only [stored, Bool.not_true, Bool.false_eq_true, Bool.true_eq_false, if_false]
      cases recipients convs req with
      | error e => rfl
      | ok members =>
        dsimp only
        split
        next => rfl
        next =>
          cases claimedMaster keys req with
          | error e => rfl
          | ok master =>
            dsimp only
            split
            next bound => rw [bound]
            next bound => rw [bound]

theorem openFederated_withBlock (owner blocked : String) :
    (openFederated db (convs.withBlock owner blocked) req).1 = (openFederated db convs req).1 := by
  have stubs : ∀ (members : List String) (seated : Db × Conversations),
      (members.foldl (seatFederated req) seated).1 =
        members.foldl (fun db member => ensureUserStub db member req.createdAt) seated.1 := by
    intro members
    induction members with
    | nil =>
      intro seated
      rfl
    | cons member rest ih =>
      intro seated
      rw [List.foldl_cons, ih, List.foldl_cons]
      rfl
  by_cases known : req.conversationId ∈ convs.conversations
  · rw [openFederated_known known, @openFederated_known db (convs.withBlock owner blocked) req known]
  · rw [openFederated_fresh db known, @openFederated_fresh (convs.withBlock owner blocked) req db known]
    rw [stubs, stubs]

theorem judged_withBlock (owner blocked : String) :
    judged keys registries db (convs.withBlock owner blocked) req = judged keys registries db convs req := by
  unfold judged
  rw [openFederated_withBlock]

-- No refusal is answered with 200.
theorem tiered_status {bytes : Wire.Bytes} {signatureHex sender what : String} {cert : Option SubkeyCert}
    (refused : verifyTieredSignature keys bytes signatureHex cert sender what = .error e) : e.1 = 400 := by
  unfold verifyTieredSignature at refused
  split at refused
  next =>
    cases refused
    rfl
  next =>
    split at refused
    next =>
      split at refused <;> cases refused
      rfl
    next =>
      split at refused
      next =>
        cases refused
        rfl
      next =>
        split at refused <;> cases refused
        rfl

theorem claimedMaster_status (refused : claimedMaster keys req = .error e) : e.1 ≠ 200 := by
  unfold claimedMaster at refused
  split at refused
  next env _ =>
    split at refused
    next verified =>
      cases refused
      simp [tiered_status verified]
    next => cases refused
  next env _ =>
    split at refused
    next verified =>
      cases refused
      unfold verifyGroupEnvelope at verified
      split at verified
      next =>
        cases verified
        simp
      next =>
        dsimp only at verified
        split at verified <;> cases verified
        simp
    next => cases refused
  next =>
    split at refused
    next =>
      cases refused
      simp
    next =>
      dsimp only at refused
      split at refused <;> cases refused
      simp

theorem judged_status (refused : judged keys registries db convs req = .error e) : e.1 ≠ 200 := by
  unfold judged at refused
  split at refused
  next claimed =>
    cases refused
    exact claimedMaster_status claimed
  next master claimed =>
    unfold bindSender at refused
    split at refused
    next => cases refused
    next =>
      split at refused <;> cases refused
      simp

/-- Whether the block is what decides about the delivery. -/
def Reaches (isUuid : String → Bool) (convs : Conversations) (recipient : String) (req : FederatedDmRequest) : Prop :=
  isUuid req.messageId = true ∧ req.messageId ∉ convs.messages ∧ ∃ members, recipients convs req = .ok members ∧
    recipient ∈ members ∧ recipient ≠ req.sender ∧ blockedBy convs req.sender members = false

theorem blockedBy_outside {sender : String} {members : List String}
    (outside : ¬ (recipient ∈ members ∧ recipient ≠ sender)) :
    blockedBy (convs.withBlock recipient sender) sender members = blockedBy convs sender members := by
  refine Bool.eq_iff_iff.mpr ?_
  simp only [blockedBy, List.any_eq_true, decide_eq_true_eq, Conversations.withBlock, Finset.mem_insert, Prod.mk.injEq]
  constructor
  · rintro ⟨member, listed, notSender, ⟨rfl, _⟩ | known⟩
    · exact absurd ⟨listed, notSender⟩ outside
    · exact ⟨member, listed, notSender, known⟩
  · rintro ⟨member, listed, notSender, known⟩
    exact ⟨member, listed, notSender, .inr known⟩

theorem receivesAlike_iff :
    ReceivesAlike keys registries isUuid db convs recipient req ↔
      (Reaches isUuid convs recipient req → judged keys registries db convs req = .ok ()) := by
  have sameRecipients : recipients (convs.withBlock recipient req.sender) req = recipients convs req := rfl
  have sameMessages : (convs.withBlock recipient req.sender).messages = convs.messages := rfl
  unfold ReceivesAlike Reaches
  rw [receive_answer, receive_answer, sameRecipients, sameMessages, judged_withBlock]
  cases uuid : isUuid req.messageId with
  | false => simp
  | true =>
    by_cases stored : req.messageId ∈ convs.messages
    · simp [stored]
    · cases roster : recipients convs req with
      | error e => simp [stored]
      | ok members =>
        simp only [stored, Bool.true_eq_false, if_false, not_false_eq_true, true_and, Except.ok.injEq, exists_eq_left']
        by_cases inside : recipient ∈ members ∧ recipient ≠ req.sender
        · rw [blockedBy_withBlock inside.1 inside.2]
          cases blocked : blockedBy convs req.sender members with
          | true => simp
          | false =>
            simp only [Bool.false_eq_true, if_false, if_true, inside.1, ne_eq, inside.2, not_false_eq_true, and_true,
              forall_const]
            cases answer : judged keys registries db convs req with
            | ok _ => simp
            | error e => simpa [statusOf] using judged_status answer
        · rw [blockedBy_outside inside]
          refine iff_of_true rfl ?_
          rintro ⟨listed, other, _⟩
          exact absurd ⟨listed, other⟩ inside

end

end Wavvon.Dms
