import Mathlib.Data.Prod.Lex
import Mathlib.Data.String.Basic
import Wavvon.Dms.Blocks
import Wavvon.Forum.State
import Wavvon.Shared.Keyset

set_option autoImplicit false

namespace Wavvon.Paging

open Std (ExtTreeMap)
open Forum (ReplyRow requireForumChannel requirePost)

-- Where a row stands in a list: by time, then by id.
abbrev Place := Int ×ₗ String

def oldest (createdAt : Int) (id : String) : Place := toLex (createdAt, id)

def newest (createdAt : Int) (id : String) : Placeᵒᵈ := OrderDual.toDual (oldest createdAt id)

structure ReplyView where
  id : String
  postId : String
  authorPubkey : Option String
  body : Option String
  createdAt : Int
  editedAt : Option Int
  replyToId : Option String
  isDeleted : Bool
  authorHub : Option String
  deriving DecidableEq, Repr

def replyToView (id : String) (row : ReplyRow) (viewerCanModerate : Bool) : ReplyView :=
  let isDeleted := row.deletedAt.isSome
  { id := id
    postId := row.postId
    authorPubkey := if isDeleted && !viewerCanModerate then none else some row.authorPubkey
    body := if isDeleted then none else some row.body
    createdAt := row.createdAt
    editedAt := row.editedAt
    replyToId := row.replyToId
    isDeleted := isDeleted
    authorHub := if isDeleted && !viewerCanModerate then none else row.authorHub }

-- A cursor that names no row compares with nothing.
def replyRows (s : Forum.State) (postId : String) (after : Option String) (limit : Nat) : List (String × ReplyRow) :=
  let page := fun cursor => Keyset.page (fun row : String × ReplyRow => oldest row.2.createdAt row.1) s.replies.toList
    (fun row => decide (row.2.postId = postId)) cursor limit
  match after with
  | none => page none
  | some id =>
    match s.replies[id]? with
    | none => []
    | some mark => page (some (oldest mark.createdAt id))

structure PostPage where
  replies : List ReplyView
  replyCursor : Option String
  deriving DecidableEq, Repr

-- One row more than the limit says whether there is more; as a `usize`, -1 is larger than any page.
def postPage (s : Forum.State) (postId : String) (after : Option String) (limit : Int) (canModerate : Bool) :
    Except HttpError PostPage :=
  if limit + 1 < 0 then .error Chat.limitError
  else
    let rows := replyRows s postId after (limit + 1).toNat
    let shown := if limit < 0 then rows else rows.take limit.toNat
    .ok
      { replies := shown.map fun row => replyToView row.1 row.2 canModerate
        replyCursor := if limit < rows.length then shown.getLast?.map (·.1) else none }

def getPost (s : Forum.State) (user channelId postId : String) (after : Option String) (limit : Option Int) :
    Except HttpError PostPage := do
  let perms := channelPermissions s.chat.db user channelId
  requireForumChannel s.chat.db channelId
  perms.require MESSAGES_READ
  let _ ← requirePost s channelId postId
  postPage s postId after (min (limit.getD 50) 100) (perms.has Forum.FORUM_POSTS_MANAGE)

def dmRows (convs : Dms.Conversations) (conversationId : String) (cursor : Option String) (limit : Nat) :
    List (String × Dms.DmMessageRow) :=
  let page := fun cursor =>
    Keyset.page (fun row : String × Dms.DmMessageRow => newest row.2.createdAt row.1) convs.messages.toList
      (fun row => decide (row.2.conversationId = conversationId)) cursor limit
  match cursor with
  | none => page none
  | some id =>
    match convs.messages[id]? with
    | none => []
    | some mark => page (some (newest mark.createdAt id))

def dmResponse (db : Db) (bounced : String → Bool) (id : String) (row : Dms.DmMessageRow) : Dms.DmMessageResponse :=
  { id := id
    conversationId := row.conversationId
    sender := row.sender
    senderName := Dms.displayNameOf db row.sender
    content := row.content
    createdAt := row.createdAt
    attachments := row.attachments
    deliveryFailed := bounced id
    isEncrypted := row.envelope.isSome
    encryptedEnvelope := row.envelope
    groupEncryptedEnvelope := row.groupEnvelope }

-- The newest rows, turned round for the reader; `bounced` is what the outbox says of a message.
def listDmMessages (db : Db) (convs : Dms.Conversations) (bounced : String → Bool) (user conversationId : String)
    (cursor : Option String) (limit : Option Int) : Except HttpError (List Dms.DmMessageResponse) :=
  if (convs.members.get conversationId user).isNone then .error (403, "Not a member of this conversation")
  else
    .ok (((dmRows convs conversationId cursor (max 1 (min (limit.getD 50) 100)).toNat).map fun row =>
      dmResponse db bounced row.1 row.2).reverse)

end Wavvon.Paging
