import Wavvon.Forum.State

set_option autoImplicit false

namespace Wavvon.Forum

open Chat (MESSAGES_SEND)

abbrev Answered := Handle (Except HttpError Unit)

-- What a post says and carries; an attachment is checked in tables of its own.
def createPost (user channelId : String) (req : CreatePostRequest) (attachments : Except HttpError Unit)
    (id : String) (clock : Clock) : Answered :=
  (read fun s => requireForumChannel s.chat.db channelId).andThen fun _ =>
  (read fun s => (channelPermissions s.chat.db user channelId).require FORUM_POSTS_CREATE).andThen fun _ =>
  (gate user channelId clock).andThen fun _ =>
  (check (required (trim req.title) (400, "title_required"))).andThen fun _ =>
  (check (required (trim req.body) (400, "body_required"))).andThen fun _ =>
  (read fun s => validatePostTags s channelId (req.tagIds.getD []) (decide (channelId ∈ s.requireTag))).andThen
    fun tagIds =>
  (check attachments).andThen fun _ =>
  let row : PostRow :=
    { channelId := channelId, authorPubkey := user, title := trim req.title, body := trim req.body
      createdAt := clock.now, lastActivityAt := clock.now }
  (stmt (.insertPost id row tagIds) fun s => checkInsertPost s id row).andThen fun _ =>
  (read fun s => requirePost s channelId id).andThen fun _ =>
  check (.ok ())

def live (deletedAt : Option Int) (gone : HttpError) : Except HttpError Unit :=
  if deletedAt.isSome then .error gone else .ok ()

-- The author, or somebody who manages the posts of the channel.
def mayChange (perms : UserPermissions) (author user : String) : Except HttpError Unit :=
  if author ≠ user ∧ !perms.has FORUM_POSTS_MANAGE then .error (403, "forbidden") else .ok ()

-- Tags that the request leaves out stay as they are.
def newTags (s : State) (channelId : String) (tagIds : Option (List String)) :
    Except HttpError (Option (Finset String)) :=
  match tagIds with
  | none => .ok none
  | some requested => do
    let tags ← validatePostTags s channelId requested (decide (channelId ∈ s.requireTag))
    return some tags

def editPost (user channelId postId : String) (req : EditPostRequest) (now : Int) : Answered :=
  (read fun s => requireForumChannel s.chat.db channelId).andThen fun _ =>
  (read fun s => requirePost s channelId postId).andThen fun row =>
  (check (live row.deletedAt (410, "post_deleted"))).andThen fun _ =>
  (read fun s => mayChange (channelPermissions s.chat.db user channelId) row.authorPubkey user).andThen fun _ =>
  let title := trim (req.title.getD row.title)
  let body := trim (req.body.getD row.body)
  (check (required title (400, "title_required"))).andThen fun _ =>
  (read fun s => newTags s channelId req.tagIds).andThen fun tagIds =>
  (stmt (.revisePost postId title body tagIds now) fun s => checkTagsOf s postId tagIds).andThen fun _ =>
  (read fun s => requirePost s channelId postId).andThen fun _ =>
  check (.ok ())

def checkReplyTo (s : State) (postId : String) (replyToId : Option String) : Except HttpError Unit :=
  match replyToId with
  | none => .ok ()
  | some target =>
    if s.replies[target]?.any (·.postId = postId) then .ok () else .error (404, "reply_to_not_found")

def unlocked (row : PostRow) (managed : Bool) : Except HttpError Unit :=
  if row.isLocked && !managed then .error (403, "post_locked") else .ok ()

-- The reply first, the count of its post after it.
def storeReply (id : String) (row : ReplyRow) (now : Int) : Answered :=
  (stmt (.insertReply id row) fun s => checkInsertReply s id row).andThen fun _ =>
  (stmt (.adjust (.bump (.post row.postId)) now) fun _ => .ok ()).andThen fun _ =>
  (read fun s => requireReply s row.postId id).andThen fun _ =>
  check (.ok ())

def createReply (user channelId postId : String) (req : CreateReplyRequest) (attachments : Except HttpError Unit)
    (id : String) (clock : Clock) : Answered :=
  (read fun s => requireForumChannel s.chat.db channelId).andThen fun _ =>
  (read fun s => .ok (channelPermissions s.chat.db user channelId)).andThen fun perms =>
  (check (perms.require MESSAGES_SEND)).andThen fun _ =>
  (gate user channelId clock).andThen fun _ =>
  (read fun s => requirePost s channelId postId).andThen fun post =>
  (check (live post.deletedAt (410, "post_deleted"))).andThen fun _ =>
  (check (unlocked post (perms.has FORUM_POSTS_MANAGE))).andThen fun _ =>
  (check (required (trim req.body) (400, "body_required"))).andThen fun _ =>
  (read fun s => checkReplyTo s postId req.replyToId).andThen fun _ =>
  (check attachments).andThen fun _ =>
  storeReply id
    { postId := postId, authorPubkey := user, body := trim req.body, createdAt := clock.now
      replyToId := req.replyToId } clock.now

def editReply (user channelId postId replyId : String) (req : EditReplyRequest) (now : Int) : Answered :=
  (read fun s => requireForumChannel s.chat.db channelId).andThen fun _ =>
  (read fun s => requirePost s channelId postId).andThen fun _ =>
  (read fun s => requireReply s postId replyId).andThen fun reply =>
  (check (live reply.deletedAt (410, "reply_deleted"))).andThen fun _ =>
  (read fun s => mayChange (channelPermissions s.chat.db user channelId) reply.authorPubkey user).andThen fun _ =>
  (check (required (trim req.body) (400, "body_required"))).andThen fun _ =>
  (stmt (.reviseReply replyId (trim req.body) now) fun _ => .ok ()).andThen fun _ =>
  (read fun s => requireReply s postId replyId).andThen fun _ =>
  check (.ok ())

-- The tombstone first, the count of its post after it.
def retractReply (replyId postId : String) (now : Int) : Answered :=
  (stmt (.tombstone replyId postId now) fun _ => .ok ()).andThen fun _ =>
  stmt (.adjust (.unbump (.post postId)) now) fun _ => .ok ()

def deleteReply (user channelId postId replyId : String) (now : Int) : Answered :=
  (read fun s => requireForumChannel s.chat.db channelId).andThen fun _ =>
  (read fun s => requirePost s channelId postId).andThen fun _ =>
  (read fun s => requireReply s postId replyId).andThen fun reply =>
  if reply.deletedAt.isSome then check (.ok ())
  else
    (read fun s => mayChange (channelPermissions s.chat.db user channelId) reply.authorPubkey user).andThen fun _ =>
    retractReply replyId postId now

def federatedCreatePost (peer channelId : String) (req : FederatedCreatePostRequest) (id : String) (clock : Clock) :
    Answered :=
  (read fun s => requireForumChannel s.chat.db channelId).andThen fun _ =>
  (read fun s => requireWritePolicy (forumWritePolicy s channelId peer) true).andThen fun _ =>
  (federatedGate peer clock).andThen fun _ =>
  (check (required (trim req.authorPubkey) (400, "author_pubkey_required"))).andThen fun _ =>
  (check (required (trim req.title) (400, "title_required"))).andThen fun _ =>
  (check (required (trim req.body) (400, "body_required"))).andThen fun _ =>
  let row : PostRow :=
    { channelId := channelId, authorPubkey := trim req.authorPubkey, title := trim req.title, body := trim req.body
      createdAt := clock.now, lastActivityAt := clock.now, authorHub := some peer }
  (stmt (.insertPost id row ∅) fun s => checkInsertPost s id row).andThen fun _ =>
  (read fun s => requirePost s channelId id).andThen fun _ =>
  check (.ok ())

def federatedCreateReply (peer channelId postId : String) (req : FederatedCreateReplyRequest) (id : String)
    (clock : Clock) : Answered :=
  (read fun s => requireForumChannel s.chat.db channelId).andThen fun _ =>
  (read fun s => requireWritePolicy (forumWritePolicy s channelId peer) false).andThen fun _ =>
  (federatedGate peer clock).andThen fun _ =>
  (read fun s => requirePost s channelId postId).andThen fun post =>
  (check (live post.deletedAt (410, "post_deleted"))).andThen fun _ =>
  (check (unlocked post false)).andThen fun _ =>
  (check (required (trim req.authorPubkey) (400, "author_pubkey_required"))).andThen fun _ =>
  (check (required (trim req.body) (400, "body_required"))).andThen fun _ =>
  (read fun s => checkReplyTo s postId req.replyToId).andThen fun _ =>
  storeReply id
    { postId := postId, authorPubkey := trim req.authorPubkey, body := trim req.body, createdAt := clock.now
      replyToId := req.replyToId, authorHub := some peer } clock.now

-- A hub takes back what its own users wrote.
def ownContent (reply : ReplyRow) (peer author : String) : Except HttpError Unit :=
  if reply.authorHub ≠ some peer ∨ reply.authorPubkey ≠ author then .error (403, "not_your_content") else .ok ()

def federatedDeleteReply (peer channelId postId replyId : String) (req : FederatedRetractRequest) (clock : Clock) :
    Answered :=
  (read fun s => requireForumChannel s.chat.db channelId).andThen fun _ =>
  (federatedGate peer clock).andThen fun _ =>
  (read fun s => requirePost s channelId postId).andThen fun _ =>
  (read fun s => requireReply s postId replyId).andThen fun reply =>
  if reply.deletedAt.isSome then check (.ok ())
  else
    (check (ownContent reply peer req.authorPubkey)).andThen fun _ =>
    retractReply replyId postId clock.now

end Wavvon.Forum
