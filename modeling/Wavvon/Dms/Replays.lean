import Wavvon.Dms.Sending
import Wavvon.Dms.Takeover

set_option autoImplicit false

namespace Wavvon.Dms

open Std (ExtTreeMap)
open Wire (Bytes)

/-- The calls of members and other hubs; a send is heard by the hub the sender has a session on. -/
inductive MailCall where
  | other (call : Call)
  | sendDm (token conversationId : String) (req : SendDmRequest) (mayPost : Except HttpError Unit) (id : String)
      (now : Int) (directory : Directory)

def messagesPath (conversationId : String) : String := "/conversations/" ++ conversationId ++ "/messages"

def Hub.mail (world : World) (s : Hub) : MailCall → Hub
  | .other call => s.next world call
  | .sendDm token conversationId req mayPost id now directory =>
    match s.extract world token (messagesPath conversationId) now with
    | (seen, .error _) => seen
    | (seen, .ok user) =>
      { seen with
        convs := (Dms.sendDm world.keys directory seen.auth seen.convs user conversationId req mayPost id now).convs }

/-- What a send passes before its message is stored. -/
structure Passes (keys : Keys) (s : AuthState) (convs : Conversations) (user : AuthUser) (conversationId : String)
    (req : SendDmRequest) (mayPost : Except HttpError Unit) (id : String) : Prop where
  member : checkMember s convs user conversationId mayPost = .ok ()
  unblocked : blockedBy convs user.publicKey (membersOf convs conversationId) = false
  checked : ∃ convType, checkMessage keys s.db convs user conversationId req = .ok convType
  fresh : id ∉ convs.messages

-- The message a call brings, under its id, when it passes every check.
def MailCall.Brings (world : World) (s : Hub) (id : String) (row : DmMessageRow) : MailCall → Prop
  | .other (.receiveFederatedDm token req now registries) =>
    (∃ peer, (s.extractPeer world token "/federation/dm" now).2 = .ok peer) ∧
      Accepts world.keys registries world.isUuid (s.extractPeer world token "/federation/dm" now).1.auth.db s.convs req ∧
        id = req.messageId ∧ row = messageRow req
  | .other _ => False
  | .sendDm token conversationId req mayPost drawn now _ =>
    ∃ user, (s.extract world token (messagesPath conversationId) now).2 = .ok user ∧
      Passes world.keys (s.extract world token (messagesPath conversationId) now).1.auth s.convs user conversationId req
        mayPost drawn ∧ id = drawn ∧ row = sentRow user conversationId req now

-- The signature a message is authenticated by.
def carried (row : DmMessageRow) : Option Bytes :=
  match row.envelope, row.groupEnvelope with
  | some env, _ => hexDecode env.signatureHex
  | none, some env => hexDecode env.signatureHex
  | none, none => row.signature.bind hexDecode

/-- Its envelope names the conversation it lies in and the sender it is shown under. -/
structure Placed (row : DmMessageRow) : Prop where
  envelope : ∀ env ∈ row.envelope, env.convId = row.conversationId ∧ env.senderPubkey = row.sender
  group : ∀ env ∈ row.groupEnvelope, env.convId = row.conversationId ∧ env.senderPubkey = row.sender

def SameMessage (row other : DmMessageRow) : Prop :=
  row.sender = other.sender ∧ row.conversationId = other.conversationId ∧ ∃ signature ∈ carried row,
    carried other = some signature

structure StoredOnce (messages : Table DmMessageRow) (sender : String) : Prop where
  placed : ∀ (id : String) (row : DmMessageRow), messages[id]? = some row → row.sender = sender → Placed row
  once : ∀ (id other : String) (row again : DmMessageRow), messages[id]? = some row → messages[other]? = some again →
    row.sender = sender → SameMessage row again → id = other

-- The message is where its signer put it, and is not there yet.
structure Original (messages : Table DmMessageRow) (row : DmMessageRow) : Prop where
  placed : Placed row
  unseen : ∀ (other : String) (again : DmMessageRow), messages[other]? = some again → ¬ SameMessage row again

theorem SameMessage.symm {row other : DmMessageRow} (same : SameMessage row other) : SameMessage other row := by
  obtain ⟨sender, conversation, signature, first, second⟩ := same
  exact ⟨sender.symm, conversation.symm, signature, second, first⟩

section

variable {messages : Table DmMessageRow} {sender id : String} {row : DmMessageRow}

theorem storedOnce_insert (stored : StoredOnce messages sender)
    (original : row.sender = sender → Original messages row) : StoredOnce (messages.insert id row) sender := by
  constructor
  · intro other found
    rw [ExtTreeMap.getElem?_insert]
    split
    next =>
      rintro ⟨rfl⟩ own
      exact (original own).placed
    next => exact stored.placed other found
  · intro first second one two
    simp only [ExtTreeMap.getElem?_insert, Std.compare_eq_iff_eq]
    split
    next here =>
      split
      next there =>
        intro _ _ _ _
        exact here.symm.trans there
      next =>
        rintro ⟨rfl⟩ found own same
        exact absurd same ((original own).unseen second two found)
    next =>
      split
      next =>
        rintro found ⟨rfl⟩ own same
        exact absurd same.symm ((original (same.1.symm.trans own)).unseen first one found)
      next => exact stored.once first second one two

theorem original_of_stored (fresh : id ∉ messages) (own : row.sender = sender)
    (stored : StoredOnce (messages.insert id row) sender) : Original messages row := by
  constructor
  · exact stored.placed id row ExtTreeMap.getElem?_insert_self own
  · intro other again found same
    have differ : id ≠ other := by
      rintro rfl
      rw [ExtTreeMap.getElem?_eq_none fresh] at found
      cases found
    have kept : (messages.insert id row)[other]? = some again := by
      simp [ExtTreeMap.getElem?_insert, differ, found]
    exact differ (stored.once id other row again ExtTreeMap.getElem?_insert_self kept own same)

end

section

variable (world : World) (s : Hub)

@[simp] theorem extract_convs (token path : String) (now : Int) :
    (s.extract world token path now).1.convs = s.convs := by
  unfold Hub.extract
  dsimp only

@[simp] theorem extractPeer_convs (token path : String) (now : Int) :
    (s.extractPeer world token path now).1.convs = s.convs := by
  have same := extract_convs world s token path now
  unfold Hub.extractPeer
  generalize s.extract world token path now = extracted at same ⊢
  obtain ⟨seen, answer⟩ := extracted
  cases answer with
  | error e => exact same
  | ok user =>
    dsimp only
    split <;> exact same

theorem joinAll_messages (keys : Keys) (registries : Registries) (req : CreateConversationRequest) (id : String)
    (now : Int) (members : List String) (db : Db) (convs : Conversations) :
    (joinAll keys registries req id now members db convs).2.1.messages = convs.messages := by
  induction members generalizing db convs with
  | nil => rfl
  | cons member rest ih =>
    unfold joinAll joinConversation
    dsimp only
    cases convs.members.get id member with
    | some _ => rfl
    | none =>
      dsimp only
      rw [ih]

theorem createConversation_messages (keys : Keys) (registries : Registries) (db : Db) (convs : Conversations)
    (user : AuthUser) (req : CreateConversationRequest) (id : String) (now : Int) :
    (createConversation keys registries db convs user req id now).2.1.messages = convs.messages := by
  unfold createConversation
  cases named : req.members with
  | nil => rfl
  | cons first others =>
    dsimp only
    generalize (if (if others = [] then "dm" else "group") = "dm" then _ else _) = existing
    cases existing with
    | some existing => rfl
    | none =>
      dsimp only
      rw [← named]
      generalize opening : ({ convs with conversations := _, members := _ } : Conversations) = opened
      have joins := joinAll_messages keys registries req id now req.members db opened
      generalize joinAll keys registries req id now req.members db opened = joined at joins ⊢
      obtain ⟨after, convs, result⟩ := joined
      subst opening
      cases result <;> exact joins

-- A call stores the message it brings, and no other.
theorem mail_brings {s : Hub} {call : MailCall} {id : String} {row : DmMessageRow}
    (brings : call.Brings world s id row) :
    id ∉ s.convs.messages ∧ (s.mail world call).convs.messages = s.convs.messages.insert id row := by
  cases call with
  | other call =>
    cases call with
    | receiveFederatedDm token req now registries =>
      obtain ⟨⟨peer, heard⟩, accepts, rfl, rfl⟩ := brings
      refine ⟨accepts.fresh, ?_⟩
      have convs := extractPeer_convs world s token "/federation/dm" now
      simp only [Hub.mail, Hub.next]
      generalize s.extractPeer world token "/federation/dm" now = extracted at convs heard accepts ⊢
      obtain ⟨seen, answer⟩ := extracted
      cases heard
      rw [← convs] at accepts ⊢
      exact (receive_stores accepts).1
    | auth call => exact brings.elim
    | createConversation token req id now registries => exact brings.elim
  | sendDm token conversationId req mayPost drawn now directory =>
    obtain ⟨user, heard, passes, rfl, rfl⟩ := brings
    refine ⟨passes.fresh, ?_⟩
    have convs := extract_convs world s token (messagesPath conversationId) now
    simp only [Hub.mail]
    generalize s.extract world token (messagesPath conversationId) now = extracted at convs heard passes ⊢
    obtain ⟨seen, answer⟩ := extracted
    cases heard
    dsimp only at convs passes ⊢
    rw [← convs] at passes ⊢
    obtain ⟨convType, checked⟩ := passes.checked
    simp [Dms.sendDm, passes.member, passes.unblocked, checked, passes.fresh]

theorem mail_brings_nothing {s : Hub} {call : MailCall} (nothing : ∀ id row, ¬ call.Brings world s id row) :
    (s.mail world call).convs.messages = s.convs.messages := by
  cases call with
  | other call =>
    cases call with
    | auth call => rfl
    | createConversation token req id now registries =>
      have convs := extract_convs world s token "/conversations" now
      simp only [Hub.mail, Hub.next]
      generalize s.extract world token "/conversations" now = extracted at convs ⊢
      obtain ⟨seen, answer⟩ := extracted
      cases answer with
      | error e => exact congrArg Conversations.messages convs
      | ok user => exact (createConversation_messages _ _ _ _ _ _ _ _).trans (congrArg Conversations.messages convs)
    | receiveFederatedDm token req now registries =>
      have convs := extractPeer_convs world s token "/federation/dm" now
      have refuses : ∀ peer, (s.extractPeer world token "/federation/dm" now).2 = .ok peer →
          ¬ Accepts world.keys registries world.isUuid (s.extractPeer world token "/federation/dm" now).1.auth.db s.convs
            req :=
        fun peer heard accepts => nothing req.messageId _ ⟨⟨peer, heard⟩, accepts, rfl, rfl⟩
      simp only [Hub.mail, Hub.next]
      generalize s.extractPeer world token "/federation/dm" now = extracted at convs refuses ⊢
      obtain ⟨seen, answer⟩ := extracted
      cases answer with
      | error e => exact congrArg Conversations.messages convs
      | ok peer =>
        have refused := refuses peer rfl
        dsimp only at convs refused ⊢
        rw [← convs] at refused ⊢
        exact receive_refuses refused
  | sendDm token conversationId req mayPost drawn now directory =>
    have convs := extract_convs world s token (messagesPath conversationId) now
    have refuses : ∀ user, (s.extract world token (messagesPath conversationId) now).2 = .ok user →
        ¬ Passes world.keys (s.extract world token (messagesPath conversationId) now).1.auth s.convs user conversationId
          req mayPost drawn :=
      fun user heard passes => nothing drawn _ ⟨user, heard, passes, rfl, rfl⟩
    simp only [Hub.mail]
    generalize s.extract world token (messagesPath conversationId) now = extracted at convs refuses ⊢
    obtain ⟨seen, answer⟩ := extracted
    cases answer with
    | error e => exact congrArg Conversations.messages convs
    | ok user =>
      have refused := refuses user rfl
      dsimp only at convs refused ⊢
      rw [← convs] at refused ⊢
      unfold Dms.sendDm
      cases member : checkMember seen.auth seen.convs user conversationId mayPost with
      | error e => rfl
      | ok _ =>
        dsimp only
        split
        next => rfl
        next unblocked =>
          cases checked : checkMessage world.keys seen.auth.db seen.convs user conversationId req with
          | error e => rfl
          | ok convType =>
            dsimp only
            split
            next => rfl
            next fresh =>
              exact absurd ⟨member, by simpa using unblocked, ⟨convType, checked⟩, fresh⟩ refused

/-- A message of this sender that a call brings is where it was signed for, and is not there yet. -/
def BringsOriginal (sender : String) (s : Hub) (call : MailCall) : Prop :=
  ∀ id row, call.Brings world s id row → row.sender = sender → Original s.convs.messages row

theorem mail_stored {sender : String} {s : Hub} {call : MailCall} (stored : StoredOnce s.convs.messages sender)
    (original : BringsOriginal world sender s call) :
    StoredOnce (s.mail world call).convs.messages sender := by
  by_cases something : ∃ id row, call.Brings world s id row
  · obtain ⟨id, row, brings⟩ := something
    rw [(mail_brings world brings).2]
    exact storedOnce_insert stored (original id row brings)
  · push Not at something
    rw [mail_brings_nothing world something]
    exact stored

theorem mail_repeats {sender : String} {s : Hub} {call : MailCall} (repeated : ¬ BringsOriginal world sender s call) :
    ¬ StoredOnce (s.mail world call).convs.messages sender := by
  intro stored
  apply repeated
  intro id row brings own
  obtain ⟨fresh, inserted⟩ := mail_brings world brings
  rw [inserted] at stored
  exact original_of_stored fresh own stored

/--
A sender's messages stay in their conversations, each stored once, exactly in the runs in which every
message of its that passes the checks names its conversation and sender and is not there yet.
-/
theorem storedOnce_iff (sender : String) (s : Hub) (initial : StoredOnce s.convs.messages sender)
    (calls : List MailCall) :
    (∀ front, front <+: calls → StoredOnce (Runs.run (Hub.mail world) s front).convs.messages sender) ↔
      Runs.Meets (Hub.mail world) (BringsOriginal world sender) s calls :=
  Runs.always_iff_meets (fun t : Hub => StoredOnce t.convs.messages sender)
    (fun t : Hub => StoredOnce t.convs.messages sender)
    (fun _ stored => stored) (fun _ _ => mail_stored world) (fun _ _ _ => mail_repeats world) initial calls

end

-- A hub with one peer.
def relayHub : Hub :=
  { auth := {
      db := { users := (∅ : Table User).insert "hub" {} }
      tables := { sessions := [{ token := "peer", publicKey := "hub", createdAt := 0, scope := .peer }], peers := {"hub"} } } }

def signedHello : FederatedDmRequest :=
  { messageId := "id-1", conversationId := "c", convType := "dm", sender := namedKey 1, members := [namedKey 1, "bob"]
    content := some "hello", signature := some (signedBy 1), createdAt := 5 }

def delivery (id : String) : MailCall :=
  .other (.receiveFederatedDm "peer" { signedHello with messageId := id } 2 fun _ => none)

theorem relayHub_empty (sender : String) : StoredOnce relayHub.convs.messages sender where
  placed _ _ found := by simp [relayHub] at found
  once _ _ _ _ found := by simp [relayHub] at found

theorem storedOnce_iff_delivered :
    StoredOnce (Runs.run (Hub.mail openWorld) relayHub [delivery "id-1"]).convs.messages (namedKey 1) := by
  refine (storedOnce_iff openWorld (namedKey 1) relayHub (relayHub_empty _) [delivery "id-1"]).mpr ⟨?_, trivial⟩ _
    List.prefix_rfl
  rintro id row ⟨_, _, rfl, rfl⟩ _
  constructor
  · constructor <;> simp [messageRow, signedHello]
  · intro other again found
    simp [relayHub] at found

-- The same signature under a second id is a second message.
set_option maxRecDepth 4096 in
theorem storedOnce_replayed : ¬ ∀ front, front <+: [delivery "id-1", delivery "id-2"] →
    StoredOnce (Runs.run (Hub.mail openWorld) relayHub front).convs.messages (namedKey 1) := by
  intro stored
  have last := stored [delivery "id-1", delivery "id-2"] List.prefix_rfl
  have both : (Runs.run (Hub.mail openWorld) relayHub [delivery "id-1", delivery "id-2"]).convs.messages["id-1"]? =
        some (messageRow signedHello) ∧
      (Runs.run (Hub.mail openWorld) relayHub [delivery "id-1", delivery "id-2"]).convs.messages["id-2"]? =
        some (messageRow signedHello) := by
    decide
  have signed : carried (messageRow signedHello) = some (List.replicate 64 1) :=
    hexDecode_hexEncode (List.replicate 64 1)
  have same := last.once "id-1" "id-2" _ _ both.1 both.2 rfl ⟨rfl, rfl, _, signed, signed⟩
  exact absurd same (by decide)

end Wavvon.Dms
