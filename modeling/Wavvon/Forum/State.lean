import Wavvon.Chat.Handlers
import Wavvon.Moderation.Sanctions
import Wavvon.Shared.Interleaving

set_option autoImplicit false

namespace Wavvon.Forum

open Std (ExtTreeMap)
open Chat (MESSAGES_SEND)

def FORUM_POSTS_CREATE : String := "forum.posts.create"
def FORUM_POSTS_MANAGE : String := "forum.posts.manage"

structure PostRow where
  channelId : String
  authorPubkey : String
  title : String
  body : String
  createdAt : Int
  editedAt : Option Int := none
  isPinned : Bool := false
  isLocked : Bool := false
  replyCount : Int := 0
  lastActivityAt : Int
  deletedAt : Option Int := none
  authorHub : Option String := none
  deriving DecidableEq, Repr

structure ReplyRow where
  postId : String
  authorPubkey : String
  body : String
  createdAt : Int
  editedAt : Option Int := none
  replyToId : Option String := none
  deletedAt : Option Int := none
  authorHub : Option String := none
  deriving DecidableEq, Repr

-- What a share lets other hubs write into a forum.
structure RemoteWrite where
  allianceId : String
  channelId : String
  policy : String
  deriving DecidableEq, Repr

-- A window's count, and when it began.
abbrev Rates := Table (Nat × Int)

/-- What members read of a hub, in channels and forums, and what keeps some of them silent. -/
structure State where
  chat : Chat.State := {}
  tables : AuthTables := {}
  mutes : Table (Option Int) := ∅
  messageRates : Rates := ∅
  forumFederatedWrite : Rates := ∅
  posts : Table PostRow := ∅
  replies : Table ReplyRow := ∅
  tags : Finset (String × String) := ∅
  postTags : Finset (String × String) := ∅
  requireTag : Finset String := ∅
  remoteWrites : List RemoteWrite := []
  retentionDays : Table Int := ∅

def State.moderation (s : State) : Moderation.State :=
  { auth := { db := s.chat.db, tables := s.tables }, mutes := s.mutes }

-- Seconds since the epoch, and milliseconds of the monotonic clock.
structure Clock where
  now : Int
  instant : Int
  deriving DecidableEq, Repr

def RATE_LIMIT : Nat := 30
def RATE_WINDOW : Int := 60000

def overLimit : HttpError := (429, "rate_limited")

-- A fixed window for each key; a map that grew large first loses the windows that are over.
def countHit (rates : Rates) (evictionThreshold : Nat) (key : String) (instant : Int) :
    Rates × Except HttpError Unit :=
  let kept := if evictionThreshold ≤ rates.size then rates.filter fun _ entry => decide (instant - entry.2 ≤ RATE_WINDOW)
    else rates
  let stored := kept[key]?.getD (0, instant)
  let entry := if RATE_WINDOW < instant - stored.2 then (0, instant) else stored
  if RATE_LIMIT ≤ entry.1 then (kept.insert key entry, .error overLimit)
  else (kept.insert key (entry.1 + 1, entry.2), .ok ())

-- The four things between the permission and the post, in this order.
def requireMayPost (s : State) (publicKey channelId : String) (clock : Clock) : State × Except HttpError Unit :=
  match countHit s.messageRates 5000 publicKey clock.instant with
  | (rates, .error e) => ({ s with messageRates := rates }, .error e)
  | (rates, .ok _) =>
    let counted := { s with messageRates := rates }
    if s.moderation.isMuted publicKey clock.now then (counted, .error (403, "You are muted"))
    else if Moderation.isChannelBanned s.chat.db channelId publicKey then
      (counted, .error (403, "You are banned from this channel"))
    else if s.moderation.auth.isFederatedBanned publicKey then (counted, .error (403, "Access denied"))
    else (counted, .ok ())

-- Apart from the window of the poster's rate, nothing changes.
theorem requireMayPost_state (s : State) (publicKey channelId : String) (clock : Clock) :
    (requireMayPost s publicKey channelId clock).1 =
      { s with messageRates := (countHit s.messageRates 5000 publicKey clock.instant).1 } := by
  unfold requireMayPost
  split
  next rates e counted => rw [counted]
  next rates counted =>
    rw [counted]
    dsimp only
    split
    next => rfl
    next =>
      split
      next => rfl
      next => split <;> rfl

theorem requireMayPost_chat (s : State) (publicKey channelId : String) (clock : Clock) :
    (requireMayPost s publicKey channelId clock).1.chat = s.chat := by
  rw [requireMayPost_state]

def requireForumChannel (db : Db) (channelId : String) : Except HttpError Unit :=
  match db.channels[channelId]? with
  | none => .error (404, "channel_not_found")
  | some channel =>
    if channel.isCategory then .error (404, "not_a_forum")
    else if channel.channelType ≠ .forum then .error (409, "not_a_forum")
    else .ok ()

def requirePost (s : State) (channelId postId : String) : Except HttpError PostRow :=
  match s.posts[postId]? with
  | none => .error (404, "post_not_found")
  | some row => if row.channelId ≠ channelId then .error (404, "post_not_found") else .ok row

def requireReply (s : State) (postId replyId : String) : Except HttpError ReplyRow :=
  match s.replies[replyId]? with
  | none => .error (404, "reply_not_found")
  | some row => if row.postId ≠ postId then .error (404, "reply_not_found") else .ok row

def validatePostTags (s : State) (channelId : String) (tagIds : List String) (requireTag : Bool) :
    Except HttpError (Finset String) :=
  let deduped := tagIds.toFinset
  if 5 < deduped.card then .error (400, "a post may carry at most 5 tags")
  else if requireTag ∧ deduped = ∅ then .error (400, "forum_require_tag")
  else if ∃ tag ∈ deduped, (channelId, tag) ∉ s.tags then .error (400, "tag_id_not_in_channel")
  else .ok deduped

structure CreatePostRequest where
  title : String
  body : String
  tagIds : Option (List String) := none
  deriving DecidableEq, Repr

structure EditPostRequest where
  title : Option String := none
  body : Option String := none
  tagIds : Option (List String) := none
  deriving DecidableEq, Repr

structure CreateReplyRequest where
  body : String
  replyToId : Option String := none
  deriving DecidableEq, Repr

structure FederatedCreatePostRequest where
  authorPubkey : String
  title : String
  body : String
  deriving DecidableEq, Repr

structure FederatedCreateReplyRequest where
  authorPubkey : String
  body : String
  replyToId : Option String := none
  deriving DecidableEq, Repr

structure EditReplyRequest where
  body : String
  deriving DecidableEq, Repr

structure FederatedRetractRequest where
  authorPubkey : String
  deriving DecidableEq, Repr

def required (text : String) (e : HttpError) : Except HttpError Unit := if text = "" then .error e else .ok ()

def rank (policy : String) : Nat :=
  if policy = "posts_and_replies" then 3 else if policy = "replies_only" then 2 else 1

-- The widest of what the shares with this hub's alliances allow it.
def forumWritePolicy (s : State) (channelId peer : String) : Option String :=
  let shares := s.remoteWrites.filter fun share =>
    share.channelId = channelId && decide ((share.allianceId, peer) ∈ s.chat.allianceMembers)
  shares.foldl (fun best share => if best.any (rank share.policy ≤ rank ·) then best else some share.policy) none

def requireWritePolicy (policy : Option String) (allowPosts : Bool) : Except HttpError Unit :=
  match policy with
  | none => .error (403, "channel_not_shared_with_caller")
  | some policy =>
    if policy = "none" then .error (403, "forum_remote_write_disabled")
    else if policy = "posts_and_replies" then .ok ()
    else if policy = "replies_only" then
      if allowPosts then .error (403, "forum_remote_write_posts_disabled") else .ok ()
    else .error (403, "forum_remote_write_disabled")

def checkForumFederatedRateLimit (s : State) (peer : String) (clock : Clock) : State × Except HttpError Unit :=
  let (rates, answer) := countHit s.forumFederatedWrite 2000 peer clock.instant
  ({ s with forumFederatedWrite := rates }, answer)

def checkInsertPost (s : State) (id : String) (row : PostRow) : Except HttpError Unit :=
  if id ∈ s.posts then .error (500, "DB error: " ++ duplicateKey "posts_pkey")
  else if row.channelId ∉ s.chat.db.channels then
    .error (500, "DB error: " ++ foreignKeyViolation "posts" "posts_channel_id_fkey")
  else .ok ()

def checkInsertReply (s : State) (id : String) (row : ReplyRow) : Except HttpError Unit :=
  if id ∈ s.replies then .error (500, "DB error: " ++ duplicateKey "post_replies_pkey")
  else if row.postId ∉ s.posts then
    .error (500, "DB error: " ++ foreignKeyViolation "post_replies" "post_replies_post_id_fkey")
  else if row.replyToId.any (· ∉ s.replies) then
    .error (500, "DB error: " ++ foreignKeyViolation "post_replies" "post_replies_reply_to_id_fkey")
  else .ok ()

def checkTagsOf (s : State) (postId : String) (tagIds : Option (Finset String)) : Except HttpError Unit :=
  if tagIds.any (· ≠ ∅) ∧ postId ∉ s.posts then
    .error (500, "DB error: " ++ foreignKeyViolation "post_tags" "post_tags_post_id_fkey")
  else .ok ()

def modifyPost (s : State) (id : String) (f : PostRow → PostRow) : State := { s with posts := s.posts.modify id f }

def modifyReply (s : State) (id : String) (f : ReplyRow → ReplyRow) : State :=
  { s with replies := s.replies.modify id f }

-- A stored count of replies: a message's or a post's.
inductive Counter where
  | message (id : String)
  | post (id : String)
  deriving DecidableEq, Repr

-- An adjustment of a count, which follows the statement that changed the replies.
inductive Due where
  | bump (counter : Counter)
  | unbump (counter : Counter)
  deriving DecidableEq, Repr

def adjust (s : State) (due : Due) (now : Int) : State :=
  match due with
  | .bump (.message id) => { s with chat := Chat.recount s.chat (some id) (· + 1) }
  | .bump (.post id) => modifyPost s id fun row => { row with replyCount := row.replyCount + 1, lastActivityAt := now }
  | .unbump (.message id) => { s with chat := Chat.recount s.chat (some id) fun count => max 0 (count - 1) }
  | .unbump (.post id) => modifyPost s id fun row => { row with replyCount := max 0 (row.replyCount - 1) }

-- `BIGINT` arithmetic that leaves its range fails the statement.
def i64 (value : Int) : Option Int := if -2 ^ 63 ≤ value ∧ value < 2 ^ 63 then some value else none

-- A channel that keeps everything has no cutoff; `some none` is one that cannot be computed.
def postCutoff (s : State) (channelId : String) (now : Int) : Option (Option Int) :=
  s.retentionDays[channelId]?.map fun days => (i64 (days * 86400)).bind fun span => i64 (now - span)

def messageCutoff (s : State) (channelId : String) (now : Int) : Option (Option Int) :=
  (postCutoff s channelId now).map fun cutoff => cutoff.bind fun seconds => i64 (seconds * 1000)

def expired (cutoff : Option (Option Int)) (createdAt : Int) : Bool := cutoff.join.any (createdAt < ·)

def doomedMessage (s : State) (now : Int) (row : Chat.MessageRow) : Bool :=
  expired (messageCutoff s row.channelId now) row.createdAt

def sweepMessages (s : State) (now : Int) : State :=
  if s.chat.messages.toList.any fun row => messageCutoff s row.2.channelId now = some none then s
  else { s with chat := { s.chat with messages := s.chat.messages.filter fun _ row => !doomedMessage s now row } }

-- Replies go with their post.
def sweepPosts (s : State) (now : Int) : State :=
  if s.posts.toList.any fun row => postCutoff s row.2.channelId now = some none then s
  else
    let kept := s.posts.filter fun _ row => !expired (postCutoff s row.channelId now) row.createdAt
    let left := s.replies.filter fun _ row => decide (row.postId ∈ kept)
    { s with
      posts := kept
      replies := left.map fun _ row => { row with replyToId := row.replyToId.filter (· ∈ left) }
      postTags := s.postTags.filter (·.1 ∈ kept) }

/-- What the statements of these requests are. -/
inductive Label where
  | read
  | readMessage (id : String)
  | gate (publicKey channelId : String) (clock : Clock)
  | federatedGate (peer : String) (clock : Clock)
  | insertMessage (id : String) (row : Chat.MessageRow)
  | insertAppReply (id : String) (row : Chat.MessageRow)
  | eraseMessage (id : String) (parent : Option String)
  | sweepMessages (now : Int)
  | sweepPosts (now : Int)
  | insertPost (id : String) (row : PostRow) (tagIds : Finset String)
  | revisePost (id title body : String) (tagIds : Option (Finset String)) (now : Int)
  | insertReply (id : String) (row : ReplyRow)
  | reviseReply (id body : String) (now : Int)
  | tombstone (replyId postId : String) (now : Int)
  | adjust (due : Due) (now : Int)

def tagged (s : State) (postId : String) (tagIds : Finset String) : Finset (String × String) :=
  s.postTags ∪ tagIds.image fun tag => (postId, tag)

-- A refused statement changes nothing.
def Label.effect (label : Label) (s : State) : State :=
  match label with
  | .read => s
  | .readMessage _ => s
  | .gate publicKey channelId clock => (requireMayPost s publicKey channelId clock).1
  | .federatedGate peer clock => (checkForumFederatedRateLimit s peer clock).1
  | .insertMessage id row => { s with chat := Chat.insertMessage s.chat id row }
  | .insertAppReply id row => { s with chat := Chat.insertMessage s.chat id row }
  | .eraseMessage id _ => { s with chat := { s.chat with messages := s.chat.messages.erase id } }
  | .sweepMessages now => Forum.sweepMessages s now
  | .sweepPosts now => Forum.sweepPosts s now
  | .insertPost id row tagIds =>
    if (checkInsertPost s id row).isOk then
      { s with posts := s.posts.insert id row, postTags := tagged s id tagIds }
    else s
  | .revisePost id title body tagIds now =>
    if (checkTagsOf s id tagIds).isOk then
      let revised := modifyPost s id fun row => { row with title := title, body := body, editedAt := some now }
      match tagIds with
      | none => revised
      | some tagIds => { revised with postTags := tagged { s with postTags := s.postTags.filter (·.1 ≠ id) } id tagIds }
    else s
  | .insertReply id row =>
    if (checkInsertReply s id row).isOk then { s with replies := s.replies.insert id row } else s
  | .reviseReply id body now => modifyReply s id fun row => { row with body := body, editedAt := some now }
  | .tombstone replyId _ now => modifyReply s replyId fun row => { row with deletedAt := some now }
  | .adjust due now => Forum.adjust s due now

abbrev Handle (A : Type) := Interleaving.Handler State Label A

-- A statement, with what the handler reads off the state that the statement saw.
def stmt {A : Type} (label : Label) (read : State → A) : Handle A := .exec label label.effect read

def read {A : Type} (f : State → A) : Handle A := stmt .read f

-- A check that reads no table.
def check {A : Type} (answer : Except HttpError A) : Handle (Except HttpError A) := .done answer

def gate (publicKey channelId : String) (clock : Clock) : Handle (Except HttpError Unit) :=
  stmt (.gate publicKey channelId clock) fun s => (requireMayPost s publicKey channelId clock).2

def federatedGate (peer : String) (clock : Clock) : Handle (Except HttpError Unit) :=
  stmt (.federatedGate peer clock) fun s => (checkForumFederatedRateLimit s peer clock).2

end Wavvon.Forum
