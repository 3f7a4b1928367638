import Wavvon.Dms.Links
import Wavvon.Dms.Sending
import Wavvon.Shared.Checks

set_option autoImplicit false

namespace Wavvon.Dms

open Std (ExtTreeMap)
open Wire (Bytes)
open Checks

section

variable {keys : Keys}

theorem bindCertMaster_ok {certMaster : Option String} {user : AuthUser} :
    bindCertMaster certMaster user = .ok () ↔ ∀ master ∈ certMaster, user.masterPubkey = some master := by
  unfold bindCertMaster
  cases certMaster with
  | none => simp
  | some master =>
    dsimp only
    split <;> simp [*]

-- With no hub named to ask, only a master recorded here is bound.
theorem bindSender_local {registries : Registries} {db : Db} {req : FederatedDmRequest} {master : Option String}
    (unnamed : req.senderHubUrl = none) :
    (bindSender keys registries db req master).2 = .ok () ↔ ∀ m ∈ master, db.masterOf req.sender = some m := by
  unfold bindSender
  cases master with
  | none => simp
  | some master =>
    unfold resolveMasterBinding
    rw [unnamed]
    cases known : db.masterOf req.sender with
    | none => simp
    | some recorded =>
      by_cases same : recorded = master
      · subst same
        simp
      · simp [beq_eq_false_iff_ne.mpr same, same]

end

/--
A sealed message with no certificate of its own goes without a stranger's beside it, a group message
is signed by the sender's own key, and a plaintext one is signed at all.
-/
def Deliverable (keys : Keys) (user : AuthUser) (req : SendDmRequest) : Prop :=
  match req.encryptedEnvelope, req.groupEncryptedEnvelope with
  | some env, _ =>
    env.signerCert = none → ∀ cert ∈ req.plaintextSignerCert, user.masterPubkey = some cert.masterPubkey
  | none, some env => env.signerCert.isSome = true → verifyGroupEnvelope keys env user.publicKey = .ok ()
  | none, none => req.plaintextSignature.isSome = true

/-- The next hub answers 200 and has the message. -/
def Arrives (keys : Keys) (registries : Registries) (isUuid : String → Bool) (db : Db) (convs : Conversations)
    (envelope : FederatedDmRequest) : Prop :=
  (receiveFederatedDm keys registries isUuid db convs envelope).2.2 = .ok () ∧
    (receiveFederatedDm keys registries isUuid db convs envelope).2.1.messages[envelope.messageId]? =
      some (messageRow envelope)

instance (keys : Keys) (registries : Registries) (isUuid : String → Bool) (db : Db) (convs : Conversations)
    (envelope : FederatedDmRequest) : Decidable (Arrives keys registries isUuid db convs envelope) :=
  inferInstanceAs (Decidable (_ ∧ _))

/-- A hub with the sender on its roster and no block against it, and the same master on record. -/
structure Expects (isUuid : String → Bool) (db : Db) (convs : Conversations) (user : AuthUser)
    (conversationId id : String) : Prop where
  uuid : isUuid id = true
  fresh : id ∉ convs.messages
  known : conversationId ∈ convs.conversations
  member : (convs.members.get conversationId user.publicKey).isSome = true
  unblocked : ∀ other, (other, user.publicKey) ∉ convs.blocks
  sameMaster : db.masterOf user.publicKey = user.masterPubkey

section

variable {keys : Keys} {registries : Registries} {isUuid : String → Bool}

theorem arrives_iff {db : Db} {convs : Conversations} {envelope : FederatedDmRequest}
    (fresh : envelope.messageId ∉ convs.messages) :
    Arrives keys registries isUuid db convs envelope ↔ Accepts keys registries isUuid db convs envelope := by
  constructor
  · rintro ⟨_, stored⟩
    by_contra refuses
    rw [receive_refuses refuses, ExtTreeMap.getElem?_eq_none fresh] at stored
    cases stored
  · intro accepts
    obtain ⟨stored, answered⟩ := receive_stores accepts
    refine ⟨answered, ?_⟩
    rw [stored, ExtTreeMap.getElem?_insert_self]

-- A known sender of a known conversation whom nobody blocks is judged by its signature alone.
theorem accepts_known {db : Db} {convs : Conversations} {user : AuthUser} {envelope : FederatedDmRequest}
    (expects : Expects isUuid db convs user envelope.conversationId envelope.messageId)
    (own : envelope.sender = user.publicKey) (unnamed : envelope.senderHubUrl = none) :
    Accepts keys registries isUuid db convs envelope ↔
      ∃ master, claimedMaster keys envelope = .ok master ∧ ∀ m ∈ master, user.masterPubkey = some m := by
  obtain ⟨uuid, fresh, known, member, unblocked, sameMaster⟩ := expects
  rw [← own] at member unblocked sameMaster
  rw [← sameMaster]
  have same : (ensureUserStub (openFederated db convs envelope).1 envelope.sender envelope.createdAt).masterOf
      envelope.sender = db.masterOf envelope.sender := by
    rw [ensureUserStub_masterOf, openFederated_masterOf]
  have roster : recipients convs envelope = .ok (membersOf convs envelope.conversationId) := by
    simp [recipients, known, member]
  have open_ : blockedBy convs envelope.sender (membersOf convs envelope.conversationId) = false := by
    simp [blockedBy, unblocked]
  constructor
  · rintro ⟨_, _, _, master, claimed, bound⟩
    refine ⟨master, claimed, ?_⟩
    rw [← same]
    exact (bindSender_local unnamed).mp bound
  · rintro ⟨master, claimed, bound⟩
    refine ⟨uuid, fresh, ⟨_, roster, open_⟩, master, claimed, (bindSender_local unnamed).mpr ?_⟩
    rw [same]
    exact bound

theorem verifyGroupEnvelope_iff {env : GroupEncryptedEnvelope} {sender : String} :
    verifyGroupEnvelope keys env sender = .ok () ↔ ∃ signature, hexDecode env.signatureHex = some signature ∧
      verifySignature keys sender (groupEnvelopeSigningBytes env) signature = .ok () := by
  unfold verifyGroupEnvelope groupEnvelopeSigningBytes
  cases decoded : hexDecode env.signatureHex with
  | none => simp
  | some signature =>
    dsimp only
    split <;> simp [*]

-- What the sending hub passed, the next one passes again, except for what `Deliverable` names.
theorem claimed_iff {user : AuthUser} {conversationId convType : String} {members : List String}
    {req : SendDmRequest} {id : String} {now : Int}
    (checked : checkSignature keys user conversationId convType req = .ok ()) :
    (∃ master, claimedMaster keys (federatedRequest user conversationId convType members req id now) = .ok master ∧
        ∀ m ∈ master, user.masterPubkey = some m) ↔
      Deliverable keys user req := by
  unfold claimedMaster Deliverable federatedRequest
  unfold checkSignature at checked
  cases encrypted : req.encryptedEnvelope with
  | some env =>
    simp only [encrypted] at checked ⊢
    obtain ⟨certMaster, verified, bound⟩ := bind_ok checked
    obtain ⟨_, bound, _⟩ := bind_ok bound
    rw [verified]
    obtain ⟨_, _, ⟨none, rfl, _⟩ | ⟨shown, some, rfl, _, _⟩⟩ := tiered_iff.mp verified
    · simp [none]
    · have master := bindCertMaster_ok.mp bound
      simpa [some] using master
  | none =>
    cases group : req.groupEncryptedEnvelope with
    | some env =>
      simp only [encrypted, group] at checked ⊢
      obtain ⟨certMaster, verified, _⟩ := bind_ok checked
      cases direct : verifyGroupEnvelope keys env user.publicKey with
      | ok _ => simp
      | error e =>
        obtain ⟨signature, decoded, ⟨none, _, own⟩ | ⟨shown, some, _⟩⟩ := tiered_iff.mp verified
        · rw [verifyGroupEnvelope_iff.mpr ⟨signature, decoded, own⟩] at direct
          cases direct
        · simp [some]
    | none =>
      simp only [encrypted, group] at checked ⊢
      unfold checkPlaintext at checked
      cases signed : req.plaintextSignature with
      | none => simp
      | some signature =>
        simp only [signed] at checked ⊢
        obtain ⟨certMaster, verified, bound⟩ := bind_ok checked
        have again : verifyTieredSignature keys
            (Wire.federatedPlaintextDmSigningBytes conversationId convType (req.content.getD "")) signature
            req.plaintextSignerCert user.publicKey "sender" = .ok certMaster :=
          tiered_iff.mpr (tiered_iff.mp verified)
        have master := bindCertMaster_ok.mp bound
        simpa [again] using master

theorem queued_from {directory : Directory} {s : AuthState} {convs : Conversations} {user : AuthUser}
    {conversationId : String} {req : SendDmRequest} {mayPost : Except HttpError Unit} {id : String} {now : Int}
    {url : String} {envelope : FederatedDmRequest}
    (queuedOne : (url, envelope) ∈ (sendDm keys directory s convs user conversationId req mayPost id now).queue) :
    ∃ convType, checkSignature keys user conversationId convType req = .ok () ∧
      envelope = federatedRequest user conversationId convType (membersOf convs conversationId) req id now := by
  obtain ⟨conv, known, checked, same⟩ := queued_checked queuedOne
  exact ⟨conv.convType, (checkMessage_ok known checked).2, same⟩

/--
A message queued for another hub is stored there exactly if it is deliverable: by a hub that has the
sender on its roster and no block against it, and knows the same master for it.
-/
theorem arrives_iff_deliverable (directory : Directory) (s : AuthState) (convs : Conversations) (user : AuthUser)
    (conversationId : String) (req : SendDmRequest) (mayPost : Except HttpError Unit) (id : String) (now : Int)
    (url : String) (envelope : FederatedDmRequest)
    (queuedOne : (url, envelope) ∈ (sendDm keys directory s convs user conversationId req mayPost id now).queue)
    (remote : Db) (remoteConvs : Conversations)
    (expects : Expects isUuid remote remoteConvs user conversationId id) :
    Arrives keys registries isUuid remote remoteConvs envelope ↔ Deliverable keys user req := by
  obtain ⟨convType, checked, rfl⟩ := queued_from queuedOne
  rw [arrives_iff expects.fresh, accepts_known expects rfl rfl]
  exact claimed_iff checked

end

def ann : AuthUser := { publicKey := namedKey 1, masterPubkey := none, scope := .member }

-- A conversation of two, of whom the other lives elsewhere.
def annsSide : Conversations :=
  { conversations := (∅ : Table ConvRow).insert "c" { convType := "dm", createdAt := 1 }
    members := (Tables.Nested.put (∅ : Tables.Nested String String MemberRow) "c" ann.publicKey { joinedAt := 1 }).put
      "c" "bob" { joinedAt := 1, hubUrl := some "https://bob" } }

def bobsSide : Conversations :=
  { annsSide with members := annsSide.members.put "c" "bob" { joinedAt := 1 } }

theorem bobsSide_expects : Expects (fun _ => true) {} bobsSide ann "c" "m1" where
  uuid := rfl
  fresh := by simp [bobsSide, annsSide]
  known := by simp [bobsSide, annsSide]
  member := by decide
  unblocked _ := by simp [bobsSide, annsSide]
  sameMaster := by simp [Db.masterOf, ann]

def hello : SendDmRequest := { content := some "hello", plaintextSignature := some (signedBy 1) }

def sentTo (req : SendDmRequest) : FederatedDmRequest :=
  federatedRequest ann "c" "dm" [namedKey 1, "bob"] req "m1" 5

-- The same with whatever members the sending hub lists; who they are is not signed.
def helloTo (members : List String) : FederatedDmRequest := { sentTo hello with members := members }

theorem helloTo_claims (members : List String) : claimedMaster openKeys (helloTo members) = .ok none := by
  obtain ⟨signature, decoded, verified⟩ :=
    checkSig_iff.mp (checkSig_signedBy 1 (Wire.federatedPlaintextDmSigningBytes "c" "dm" "hello"))
  have passed : verifyTieredSignature openKeys (Wire.federatedPlaintextDmSigningBytes "c" "dm" "hello") (signedBy 1)
      none ann.publicKey "sender" = .ok none :=
    tiered_iff.mpr ⟨signature, decoded, .inl ⟨rfl, rfl, verified⟩⟩
  simp [claimedMaster, helloTo, sentTo, federatedRequest, hello, passed]

theorem arrives_iff_deliverable_signed :
    Arrives openKeys (fun _ => none) (fun _ => true) {} bobsSide (sentTo hello) := by
  refine (arrives_iff_deliverable {} {} annsSide ann "c" hello (.ok ()) "m1" 5 "https://bob" (sentTo hello) ?_ {}
    bobsSide bobsSide_expects).mpr rfl
  decide

-- Taken here without a signature, refused everywhere else.
theorem arrives_unsigned :
    ("https://bob", sentTo { content := some "hello" }) ∈
        (sendDm openKeys {} {} annsSide ann "c" { content := some "hello" } (.ok ()) "m1" 5).queue ∧
      Expects (fun _ => true) {} bobsSide ann "c" "m1" ∧
      ¬ Arrives openKeys (fun _ => none) (fun _ => true) {} bobsSide (sentTo { content := some "hello" }) := by
  refine ⟨by decide, bobsSide_expects, by decide⟩

end Wavvon.Dms
