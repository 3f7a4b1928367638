import Wavvon.Events.State
import Wavvon.Shared.Counters

set_option autoImplicit false

namespace Wavvon.Events

open Interleaving (Handler)
open Forum (Answered Clock Handle)

-- Muted on the hub, or banned from the channel.
def Silenced (s : Forum.State) (user channelId : String) (now : Int) : Prop :=
  s.moderation.isMuted user now = true ∨ Moderation.isChannelBanned s.chat.db channelId user = true

/-- What members read in a channel. -/
structure Content where
  messages : Table Chat.MessageRow
  posts : Table Forum.PostRow
  replies : Table Forum.ReplyRow

def content (s : Forum.State) (channelId : String) : Content :=
  { messages := s.chat.messages.filter fun _ row => decide (row.channelId = channelId)
    posts := s.posts.filter fun _ row => decide (row.channelId = channelId)
    replies := s.replies.filter fun _ row => s.posts[row.postId]?.any fun post => decide (post.channelId = channelId) }

-- The request was refused, and the channel reads as before.
def Withheld (s : State) (channelId : String) (left : State × Except HttpError Unit) : Prop :=
  left.2.isOk = false ∧ content left.1.forum channelId = content s.forum channelId

/-- The requests that write into a channel under somebody's name. -/
inductive Request where
  | sendMessage (channelId : String) (req : Chat.SendMessageRequest) (checks : Chat.SendChecks)
      (d : Forum.Dispatch) (id errId : String) (now : Int)
  | editMessage (channelId id : String) (req : Chat.EditMessageRequest)
  | createPoll (channelId : String) (req : CreatePollRequest) (id : String) (card : Card)
  | createEvent (req : CreateEventRequest) (id : String) (slotIds : Nat → String) (cards : Nat → Card)
  | createPost (channelId : String) (req : Forum.CreatePostRequest) (attachments : Except HttpError Unit) (id : String)
  | createReply (channelId postId : String) (req : Forum.CreateReplyRequest) (attachments : Except HttpError Unit)
      (id : String)
  | editPost (channelId postId : String) (req : Forum.EditPostRequest)
  | editReply (channelId postId replyId : String) (req : Forum.EditReplyRequest)
  | federatedCreatePost (peer channelId : String) (req : Forum.FederatedCreatePostRequest) (id : String)
  | federatedCreateReply (peer channelId postId : String) (req : Forum.FederatedCreateReplyRequest) (id : String)

-- The channels whose readers the request addresses.
def Request.Aims (r : Request) (s : State) (target : String) : Prop :=
  match r with
  | .createEvent req _ _ _ => target ∈ propagationTargets s.forum.chat.db req.channelId req.propagateToChildren
  | .sendMessage channelId .. | .editMessage channelId .. | .createPoll channelId .. | .createPost channelId .. |
    .createReply channelId .. | .editPost channelId .. | .editReply channelId .. |
    .federatedCreatePost _ channelId .. | .federatedCreateReply _ channelId .. => channelId = target

-- A peer names the author; a member's own request is the session's.
def Request.author (r : Request) (user : String) : String :=
  match r with
  | .federatedCreatePost _ _ req _ => trim req.authorPubkey
  | .federatedCreateReply _ _ _ req _ => trim req.authorPubkey
  | _ => user

def onForum (s : State) (left : Forum.State × Except HttpError Unit) : State × Except HttpError Unit :=
  ({ s with forum := left.1 }, left.2)

def onChat (s : State) (left : Chat.Outcome) : State × Except HttpError Unit :=
  ({ s with forum := { s.forum with chat := left.state } }, left.answer.map fun _ => ())

def Request.serve (r : Request) (s : State) (user : String) (clock : Clock) : State × Except HttpError Unit :=
  match r with
  | .sendMessage channelId req checks d id errId now =>
    onForum s ((Forum.sendMessage user channelId req checks d id errId clock now).alone s.forum)
  | .editMessage channelId id req => onChat s (Chat.editMessage s.forum.chat user channelId id req clock.now)
  | .createPoll channelId req id card => Events.createPoll s user channelId req id card clock.now
  | .createEvent req id slotIds cards => Events.createEvent s user req id slotIds cards clock.now
  | .createPost channelId req attachments id =>
    onForum s ((Forum.createPost user channelId req attachments id clock).alone s.forum)
  | .createReply channelId postId req attachments id =>
    onForum s ((Forum.createReply user channelId postId req attachments id clock).alone s.forum)
  | .editPost channelId postId req => onForum s ((Forum.editPost user channelId postId req clock.now).alone s.forum)
  | .editReply channelId postId replyId req =>
    onForum s ((Forum.editReply user channelId postId replyId req clock.now).alone s.forum)
  | .federatedCreatePost peer channelId req id =>
    onForum s ((Forum.federatedCreatePost peer channelId req id clock).alone s.forum)
  | .federatedCreateReply peer channelId postId req id =>
    onForum s ((Forum.federatedCreateReply peer channelId postId req id clock).alone s.forum)

-- The routes that ask `require_may_post`.
def Request.Guarded (r : Request) : Prop :=
  match r with
  | .sendMessage .. | .createPost .. | .createReply .. => True
  | _ => False

def editPostChecks (s : Forum.State) (user channelId postId : String) (req : Forum.EditPostRequest) :
    Except HttpError Unit := do
  Forum.requireForumChannel s.chat.db channelId
  let row ← Forum.requirePost s channelId postId
  Forum.live row.deletedAt (410, "post_deleted")
  Forum.mayChange (channelPermissions s.chat.db user channelId) row.authorPubkey user
  Forum.required (trim (req.title.getD row.title)) (400, "title_required")
  let tagIds ← Forum.newTags s channelId req.tagIds
  Forum.checkTagsOf s postId tagIds

def editReplyChecks (s : Forum.State) (user channelId postId replyId : String) (req : Forum.EditReplyRequest) :
    Except HttpError Unit := do
  Forum.requireForumChannel s.chat.db channelId
  let _ ← Forum.requirePost s channelId postId
  let reply ← Forum.requireReply s postId replyId
  Forum.live reply.deletedAt (410, "reply_deleted")
  Forum.mayChange (channelPermissions s.chat.db user channelId) reply.authorPubkey user
  Forum.required (trim req.body) (400, "body_required")

def federatedPostRow (peer channelId : String) (req : Forum.FederatedCreatePostRequest) (now : Int) : Forum.PostRow :=
  { channelId := channelId, authorPubkey := trim req.authorPubkey, title := trim req.title, body := trim req.body
    createdAt := now, lastActivityAt := now, authorHub := some peer }

def federatedPostChecks (s : Forum.State) (peer channelId : String) (req : Forum.FederatedCreatePostRequest)
    (id : String) (clock : Clock) : Except HttpError Unit := do
  Forum.requireForumChannel s.chat.db channelId
  Forum.requireWritePolicy (Forum.forumWritePolicy s channelId peer) true
  (Forum.checkForumFederatedRateLimit s peer clock).2
  Forum.required (trim req.authorPubkey) (400, "author_pubkey_required")
  Forum.required (trim req.title) (400, "title_required")
  Forum.required (trim req.body) (400, "body_required")
  Forum.checkInsertPost s id (federatedPostRow peer channelId req clock.now)

def federatedReplyRow (peer postId : String) (req : Forum.FederatedCreateReplyRequest) (now : Int) :
    Forum.ReplyRow :=
  { postId := postId, authorPubkey := trim req.authorPubkey, body := trim req.body, createdAt := now
    replyToId := req.replyToId, authorHub := some peer }

def federatedReplyChecks (s : Forum.State) (peer channelId postId : String) (req : Forum.FederatedCreateReplyRequest)
    (id : String) (clock : Clock) : Except HttpError Unit := do
  Forum.requireForumChannel s.chat.db channelId
  Forum.requireWritePolicy (Forum.forumWritePolicy s channelId peer) false
  (Forum.checkForumFederatedRateLimit s peer clock).2
  let post ← Forum.requirePost s channelId postId
  Forum.live post.deletedAt (410, "post_deleted")
  Forum.unlocked post false
  Forum.required (trim req.authorPubkey) (400, "author_pubkey_required")
  Forum.required (trim req.body) (400, "body_required")
  Forum.checkReplyTo s postId req.replyToId
  Forum.checkInsertReply s id (federatedReplyRow peer postId req clock.now)

def pollAdmission (s : State) (user channelId : String) (req : CreatePollRequest) (id : String) (card : Card) :
    Except HttpError Unit := do
  pollChecks s user channelId req
  checkInsertPoll s id channelId
  Chat.checkInsert s.forum.chat card.id (cardRow channelId user ("**Poll:** " ++ req.question) card)

-- The cards up to the channel's own are stored.
def reaches (sender content channelId : String) : List (String × Card) → Chat.State → Bool
  | [], _ => false
  | (target, card) :: rest, chat =>
    let row := cardRow target sender content card
    (Chat.checkInsert chat card.id row).isOk &&
      (decide (target = channelId) || reaches sender content channelId rest (Chat.insertMessage chat card.id row))

def freshSlots (s : State) (rows : List (String × SlotRow)) : Prop :=
  (rows.map Prod.fst).Nodup ∧ ∀ row ∈ rows, row.1 ∉ s.slots

def eventAdmission (s : State) (user : String) (req : CreateEventRequest) (id : String) (now : Int) :
    Except HttpError Unit := do
  eventChecks s user req
  checkInsertEvent s id (eventRow user req now)

def eventReaches (s : State) (user target : String) (req : CreateEventRequest) (cards : Nat → Card) (now : Int) :
    Bool :=
  let event := eventRow user req now
  reaches user (announcement event) target
    (addressed (propagationTargets s.forum.chat.db req.channelId req.propagateToChildren) cards) s.forum.chat

-- What the route checks by itself lets the request through to the channel.
def Request.Passes (r : Request) (s : State) (user target : String) (clock : Clock) : Prop :=
  match r with
  | .editMessage channelId id req => (Chat.checkEdit s.forum.chat user channelId id req).isOk = true
  | .createPoll channelId req id card => (pollAdmission s user channelId req id card).isOk = true
  | .createEvent req id slotIds cards =>
    (eventAdmission s user req id clock.now).isOk = true ∧
      freshSlots s (slotRows id req.slots slotIds clock.now) ∧
        eventReaches s user target req cards clock.now = true
  | .editPost channelId postId req => (editPostChecks s.forum user channelId postId req).isOk = true
  | .editReply channelId postId replyId req => (editReplyChecks s.forum user channelId postId replyId req).isOk = true
  | .federatedCreatePost peer channelId req id => (federatedPostChecks s.forum peer channelId req id clock).isOk = true
  | .federatedCreateReply peer channelId postId req id =>
    (federatedReplyChecks s.forum peer channelId postId req id clock).isOk = true
  | .sendMessage .. | .createPost .. | .createReply .. => True

-- `Withheld`, of a handler's own part of the state.
def Unread (s : Forum.State) (channelId : String) (left : Forum.State × Except HttpError Unit) : Prop :=
  left.2.isOk = false ∧ content left.1 channelId = content s channelId

theorem withheld_onForum {s : State} {channelId : String} {left : Forum.State × Except HttpError Unit} :
    Withheld s channelId (onForum s left) ↔ Unread s.forum channelId left := Iff.rfl

section

variable {A B : Type} {s : Forum.State} {channelId user : String} {clock : Clock}

theorem unread_refused (e : HttpError) : Unread s channelId (s, .error e) := ⟨rfl, rfl⟩

theorem unread_read {f : Forum.State → Except HttpError A} {rest : A → Answered}
    (goesOn : ∀ value, f s = .ok value → Unread s channelId ((rest value).alone s)) :
    Unread s channelId (((Forum.read f).andThen rest).alone s) := by
  rw [Handler.alone_andThen, Forum.read, Forum.stmt, Handler.alone_exec]
  dsimp only [Forum.Label.effect]
  cases found : f s with
  | error e => exact unread_refused e
  | ok value => exact goesOn value found

theorem unread_check {answer : Except HttpError A} {rest : A → Answered}
    (goesOn : ∀ value, answer = .ok value → Unread s channelId ((rest value).alone s)) :
    Unread s channelId (((Forum.check answer).andThen rest).alone s) := by
  rw [Handler.alone_andThen, Forum.check, Handler.alone_done]
  cases found : answer with
  | error e => exact unread_refused e
  | ok value => exact goesOn value found

theorem requireMayPost_silenced
    (silenced : Silenced s user channelId clock.now) :
    (Forum.requireMayPost s user channelId clock).2.isOk = false := by
  unfold Forum.requireMayPost
  split
  next => rfl
  next rates _ counted =>
    dsimp only
    by_cases muted : s.moderation.isMuted user clock.now = true
    next =>
      rw [if_pos muted]
      rfl
    next =>
      rw [if_neg muted, if_pos (silenced.resolve_left muted)]
      rfl

-- Nothing after the gate is reached.
theorem unread_gate {rest : Unit → Answered}
    (silenced : Silenced s user channelId clock.now) :
    Unread s channelId (((Forum.gate user channelId clock).andThen rest).alone s) := by
  rw [Handler.alone_andThen, Forum.gate, Forum.stmt, Handler.alone_exec]
  dsimp only [Forum.Label.effect]
  have refused := requireMayPost_silenced silenced
  have kept : content (Forum.requireMayPost s user channelId clock).1 channelId = content s channelId := by
    rw [Forum.requireMayPost_state]
    rfl
  cases answered : (Forum.requireMayPost s user channelId clock).2 with
  | error e => exact ⟨rfl, kept⟩
  | ok value =>
    rw [answered] at refused
    cases refused

theorem createPost_silenced {req : Forum.CreatePostRequest} {attachments : Except HttpError Unit} {id : String}
    (silenced : Silenced s user channelId clock.now) :
    Unread s channelId ((Forum.createPost user channelId req attachments id clock).alone s) := by
  unfold Forum.createPost
  apply unread_read
  intro _ _
  apply unread_read
  intro _ _
  exact unread_gate silenced

theorem createReply_silenced {postId : String} {req : Forum.CreateReplyRequest} {attachments : Except HttpError Unit}
    {id : String}
    (silenced : Silenced s user channelId clock.now) :
    Unread s channelId ((Forum.createReply user channelId postId req attachments id clock).alone s) := by
  unfold Forum.createReply
  apply unread_read
  intro _ _
  apply unread_read
  intro _ _
  apply unread_check
  intro _ _
  exact unread_gate silenced

-- A slash command is looked at after the gate.
theorem sendMessage_silenced {req : Chat.SendMessageRequest} {checks : Chat.SendChecks} {d : Forum.Dispatch}
    {id errId : String} {now : Int}
    (silenced : Silenced s user channelId clock.now) :
    Unread s channelId ((Forum.sendMessage user channelId req checks d id errId clock now).alone s) := by
  unfold Forum.sendMessage
  rw [Forum.read, Forum.stmt_bind_alone]
  unfold Forum.sendMessageWith
  apply unread_check
  intro _ _
  exact unread_gate silenced

-- A read refuses, or leaves the decision to what comes after it.
theorem unread_read_iff {f : Forum.State → Except HttpError A} {rest : A → Answered} {next : A → Except HttpError B}
    (goesOn : ∀ value, f s = .ok value →
      (Unread s channelId ((rest value).alone s) ↔ (next value).isOk = false)) :
    Unread s channelId (((Forum.read f).andThen rest).alone s) ↔ (f s >>= next).isOk = false := by
  rw [Handler.alone_andThen, Forum.read, Forum.stmt, Handler.alone_exec]
  dsimp only [Forum.Label.effect]
  cases found : f s with
  | error e => exact iff_of_true (unread_refused e) rfl
  | ok value => exact goesOn value found

theorem unread_check_iff {answer : Except HttpError A} {rest : A → Answered} {next : A → Except HttpError B}
    (goesOn : ∀ value, Unread s channelId ((rest value).alone s) ↔ (next value).isOk = false) :
    Unread s channelId (((Forum.check answer).andThen rest).alone s) ↔ (answer >>= next).isOk = false := by
  rw [Handler.alone_andThen, Forum.check, Handler.alone_done]
  cases answer with
  | error e => exact iff_of_true (unread_refused e) rfl
  | ok value => exact goesOn value

-- The last check; what comes after it succeeds.
theorem unread_last_iff {answer : Except HttpError Unit} {rest : Unit → Answered}
    (served : ((rest ()).alone s).2 = .ok ()) :
    Unread s channelId (((Forum.check answer).andThen rest).alone s) ↔ answer.isOk = false := by
  rw [Handler.alone_andThen, Forum.check, Handler.alone_done]
  cases answer with
  | error e => exact iff_of_true (unread_refused e) rfl
  | ok value =>
    refine iff_of_false ?_ (by intro refused; cases refused)
    intro unread
    have refused := unread.1
    rw [served] at refused
    cases refused

-- The statement that writes refuses for its own reasons, and what comes after it succeeds.
theorem unread_store_iff {label : Forum.Label} {f : Forum.State → Except HttpError Unit} {rest : Unit → Answered}
    (kept : (f s).isOk = false → label.effect s = s)
    (served : (f s).isOk = true → ((rest ()).alone (label.effect s)).2 = .ok ()) :
    Unread s channelId (((Forum.stmt label f).andThen rest).alone s) ↔ (f s).isOk = false := by
  rw [Handler.alone_andThen, Forum.stmt, Handler.alone_exec]
  dsimp only
  cases found : f s with
  | error e =>
    rw [kept (by rw [found]; rfl)]
    exact iff_of_true (unread_refused e) rfl
  | ok value =>
    refine iff_of_false ?_ (by intro refused; cases refused)
    intro unread
    have refused := unread.1
    rw [served (by rw [found]; rfl)] at refused
    cases refused

-- The count of a peer's requests is nothing a member reads.
theorem unread_federatedGate_iff {peer : String} {rest : Unit → Answered} {next : Unit → Except HttpError B}
    (goesOn : Unread (Forum.checkForumFederatedRateLimit s peer clock).1 channelId
        ((rest ()).alone (Forum.checkForumFederatedRateLimit s peer clock).1) ↔ (next ()).isOk = false) :
    Unread s channelId (((Forum.federatedGate peer clock).andThen rest).alone s) ↔
      ((Forum.checkForumFederatedRateLimit s peer clock).2 >>= next).isOk = false := by
  rw [Handler.alone_andThen, Forum.federatedGate, Forum.stmt, Handler.alone_exec]
  dsimp only [Forum.Label.effect]
  have kept : content (Forum.checkForumFederatedRateLimit s peer clock).1 channelId = content s channelId := rfl
  cases (Forum.checkForumFederatedRateLimit s peer clock).2 with
  | error e => exact iff_of_true ⟨rfl, kept⟩ rfl
  | ok value =>
    unfold Unread at goesOn ⊢
    rw [← kept]
    exact goesOn

-- The row that was written is read back.
theorem reads_back {f : Forum.State → Except HttpError A} (found : (f s).isOk = true) :
    (((Forum.read f).andThen fun _ => Forum.check (.ok ())).alone s).2 = .ok () := by
  rw [Handler.alone_andThen, Forum.read, Forum.stmt, Handler.alone_exec]
  dsimp only [Forum.Label.effect]
  cases answered : f s with
  | error e =>
    rw [answered] at found
    cases found
  | ok value => rfl

theorem requirePost_found {postId : String} :
    (Forum.requirePost s channelId postId).isOk = s.posts[postId]?.any fun row => decide (row.channelId = channelId) := by
  unfold Forum.requirePost
  cases s.posts[postId]? with
  | none => rfl
  | some row => by_cases here : row.channelId = channelId <;> simp [here, Except.isOk, Except.toBool]

theorem requireReply_found {postId replyId : String} :
    (Forum.requireReply s postId replyId).isOk = s.replies[replyId]?.any fun row => decide (row.postId = postId) := by
  unfold Forum.requireReply
  cases s.replies[replyId]? with
  | none => rfl
  | some row => by_cases here : row.postId = postId <;> simp [here, Except.isOk, Except.toBool]

theorem editPost_unread {postId : String} {req : Forum.EditPostRequest} :
    Unread s channelId ((Forum.editPost user channelId postId req clock.now).alone s) ↔
      (editPostChecks s user channelId postId req).isOk = false := by
  unfold Forum.editPost editPostChecks
  apply unread_read_iff
  intro _ _
  apply unread_read_iff
  intro row found
  apply unread_check_iff
  intro _
  apply unread_read_iff
  intro _ _
  apply unread_check_iff
  intro _
  apply unread_read_iff
  intro tagIds _
  apply unread_store_iff
  next =>
    intro refused
    rw [Forum.Label.effect, if_neg (by rw [refused]; decide)]
  next =>
    intro allowed
    apply reads_back
    have stays : (Forum.requirePost s channelId postId).isOk = true := by rw [found]; rfl
    rw [requirePost_found] at stays ⊢
    rw [Forum.Label.effect, if_pos allowed]
    cases tagIds <;>
      simpa [Forum.modifyPost, Std.ExtTreeMap.getElem?_modify, Option.any_map, Function.comp_def] using stays

theorem editReply_unread {postId replyId : String} {req : Forum.EditReplyRequest} :
    Unread s channelId ((Forum.editReply user channelId postId replyId req clock.now).alone s) ↔
      (editReplyChecks s user channelId postId replyId req).isOk = false := by
  unfold Forum.editReply editReplyChecks
  apply unread_read_iff
  intro _ _
  apply unread_read_iff
  intro _ _
  apply unread_read_iff
  intro reply found
  apply unread_check_iff
  intro _
  apply unread_read_iff
  intro _ _
  apply unread_last_iff
  rw [Handler.alone_andThen, Forum.stmt, Handler.alone_exec]
  apply reads_back
  have stays : (Forum.requireReply s postId replyId).isOk = true := by rw [found]; rfl
  rw [requireReply_found] at stays ⊢
  simpa [Forum.Label.effect, Forum.modifyReply, Std.ExtTreeMap.getElem?_modify, Option.any_map,
    Function.comp_def] using stays

theorem federatedCreatePost_unread {peer id : String} {req : Forum.FederatedCreatePostRequest} :
    Unread s channelId ((Forum.federatedCreatePost peer channelId req id clock).alone s) ↔
      (federatedPostChecks s peer channelId req id clock).isOk = false := by
  unfold Forum.federatedCreatePost federatedPostChecks
  apply unread_read_iff
  intro _ _
  apply unread_read_iff
  intro _ _
  apply unread_federatedGate_iff
  apply unread_check_iff
  intro _
  apply unread_check_iff
  intro _
  apply unread_check_iff
  intro _
  apply unread_store_iff
  next =>
    intro refused
    rw [Forum.Label.effect, if_neg (by rw [refused]; decide)]
  next =>
    intro allowed
    apply reads_back
    rw [requirePost_found, Forum.Label.effect, if_pos allowed]
    simp

theorem federatedCreateReply_unread {peer postId id : String} {req : Forum.FederatedCreateReplyRequest} :
    Unread s channelId ((Forum.federatedCreateReply peer channelId postId req id clock).alone s) ↔
      (federatedReplyChecks s peer channelId postId req id clock).isOk = false := by
  unfold Forum.federatedCreateReply federatedReplyChecks
  apply unread_read_iff
  intro _ _
  apply unread_read_iff
  intro _ _
  apply unread_federatedGate_iff
  apply unread_read_iff
  intro _ _
  apply unread_check_iff
  intro _
  apply unread_check_iff
  intro _
  apply unread_check_iff
  intro _
  apply unread_check_iff
  intro _
  apply unread_read_iff
  intro _ _
  unfold Forum.storeReply
  apply unread_store_iff
  next =>
    intro refused
    rw [Forum.Label.effect, if_neg (by rw [refused]; decide)]
  next =>
    intro allowed
    rw [Handler.alone_andThen, Forum.stmt, Handler.alone_exec]
    apply reads_back
    rw [requireReply_found, Forum.Label.effect, Forum.Label.effect, if_pos allowed]
    simp [Forum.adjust, Forum.modifyPost]

end

section

variable {s : State} {sender text target user : String}

theorem content_withMessage_other {id : String} {row : Chat.MessageRow} (fresh : id ∉ s.forum.chat.messages)
    (elsewhere : row.channelId ≠ target) :
    content (withMessage s id row).forum target = content s.forum target := by
  have absent : id ∉ s.forum.chat.messages.filter fun _ row => decide (row.channelId = target) := by
    intro member
    exact fresh (Std.ExtTreeMap.mem_of_mem_filter member)
  simp only [content, withMessage, Counters.filter_insert, decide_eq_true_eq, if_neg elsewhere,
    Tables.erase_absent (Std.ExtTreeMap.getElem?_eq_none absent)]

-- A card in the channel can be read there, whatever becomes of the cards after it.
theorem postCards_posted {card : Card} {rest : List (String × Card)}
    (accepted : (Chat.checkInsert s.forum.chat card.id (cardRow target sender text card)).isOk = true) :
    content (postCards sender text rest (withMessage s card.id (cardRow target sender text card))).1.forum target ≠
      content s.forum target := by
  intro same
  have here : card.id ∈ (withMessage s card.id (cardRow target sender text card)).forum.chat.messages := by
    simp [withMessage]
  have shown : (content s.forum target).messages[card.id]? = some (cardRow target sender text card) := by
    rw [← same, content, Std.ExtTreeMap.getElem?_filter', postCards_keeps here]
    simp [withMessage, cardRow, Option.filter_some]
  rw [content, Std.ExtTreeMap.getElem?_filter', Std.ExtTreeMap.getElem?_eq_none (checkInsert_fresh accepted)] at shown
  cases shown

theorem postCards_withheld {targets : List (String × Card)} (aimed : target ∈ targets.map Prod.fst) :
    Withheld s target (postCards sender text targets s) ↔
      reaches sender text target targets s.forum.chat = false := by
  induction targets generalizing s with
  | nil => cases aimed
  | cons first rest ih =>
    obtain ⟨channelId, card⟩ := first
    unfold postCards reaches
    dsimp only
    cases accepted : (Chat.checkInsert s.forum.chat card.id (cardRow channelId sender text card)).isOk with
    | false =>
      obtain ⟨e, left⟩ := postCardMessage_refused accepted
      rw [left]
      exact iff_of_true ⟨rfl, rfl⟩ rfl
    | true =>
      rw [postCardMessage_stored accepted, ← withMessage_chat accepted, Bool.true_and]
      dsimp only
      by_cases here : channelId = target
      next =>
        subst here
        rw [decide_eq_true rfl, Bool.true_or]
        refine iff_of_false ?_ (by decide)
        intro withheld
        exact postCards_posted accepted withheld.2
      next =>
        have later : target ∈ rest.map Prod.fst := by simpa [Ne.symm here] using aimed
        rw [decide_eq_false here, Bool.false_or, ← ih later, Withheld, Withheld,
          content_withMessage_other (checkInsert_fresh accepted) here]

theorem insertSlots_forum (s : State) (rows : List (String × SlotRow)) : (insertSlots s rows).1.forum = s.forum := by
  induction rows generalizing s with
  | nil => rfl
  | cons first rest ih =>
    unfold insertSlots
    cases checkInsertSlot s first.1 first.2 with
    | error e => rfl
    | ok value => exact ih _

theorem checkInsertSlot_iff {id : String} {row : SlotRow} (stored : row.eventId ∈ s.events) :
    (checkInsertSlot s id row).isOk = true ↔ id ∉ s.slots := by
  by_cases taken : id ∈ s.slots <;> simp [checkInsertSlot, taken, stored, Except.isOk, Except.toBool]

theorem freshSlots_cons {first : String × SlotRow} {rest : List (String × SlotRow)} :
    freshSlots s (first :: rest) ↔
      first.1 ∉ s.slots ∧ freshSlots { s with slots := s.slots.insert first.1 first.2 } rest := by
  simp only [freshSlots, List.map_cons, List.nodup_cons, List.forall_mem_cons, Std.ExtTreeMap.mem_insert,
    Std.LawfulEqOrd.compare_eq_iff_eq, List.mem_map, not_or, not_exists, not_and]
  constructor
  · intro ⟨⟨apart, distinct⟩, free, others⟩
    exact ⟨free, distinct, fun row member => ⟨fun same => apart row member same.symm, others row member⟩⟩
  · intro ⟨free, distinct, others⟩
    exact ⟨⟨fun row member same => (others row member).1 same.symm, distinct⟩, free,
      fun row member => (others row member).2⟩

theorem insertSlots_ok_iff {rows : List (String × SlotRow)} (stored : ∀ row ∈ rows, row.2.eventId ∈ s.events) :
    (insertSlots s rows).2.isOk = true ↔ freshSlots s rows := by
  induction rows generalizing s with
  | nil => exact iff_of_true rfl ⟨List.nodup_nil, by simp⟩
  | cons first rest ih =>
    obtain ⟨here, others⟩ := List.forall_mem_cons.mp stored
    have free : (checkInsertSlot s first.1 first.2).isOk = true ↔ first.1 ∉ s.slots := checkInsertSlot_iff here
    rw [freshSlots_cons]
    unfold insertSlots
    cases answered : checkInsertSlot s first.1 first.2 with
    | error e =>
      rw [answered] at free
      have taken : ¬ first.1 ∉ s.slots := fun fresh => by cases free.mpr fresh
      exact iff_of_false (by intro served; cases served) (fun fresh => taken fresh.1)
    | ok value =>
      rw [answered] at free
      rw [and_iff_right (free.mp rfl)]
      exact ih others

theorem addressed_targets (targets : List String) (cards : Nat → Card) :
    (addressed targets cards).map Prod.fst = targets := by
  simp [addressed, List.map_map, Function.comp_def]

theorem slotRows_event {id : String} {slots : List CreateSlotRequest} {slotIds : Nat → String} {now : Int}
    {row : String × SlotRow} (member : row ∈ slotRows id slots slotIds now) : row.2.eventId = id := by
  obtain ⟨slot, _, rfl⟩ := List.mem_map.mp member
  rfl

theorem createEvent_withheld {req : CreateEventRequest} {id : String} {slotIds : Nat → String} {cards : Nat → Card}
    {now : Int} (aimed : target ∈ propagationTargets s.forum.chat.db req.channelId req.propagateToChildren) :
    Withheld s target (createEvent s user req id slotIds cards now) ↔
      ¬ ((eventAdmission s user req id now).isOk = true ∧ freshSlots s (slotRows id req.slots slotIds now) ∧
        eventReaches s user target req cards now = true) := by
  unfold createEvent eventAdmission
  cases eventChecks s user req with
  | error e => exact iff_of_true ⟨rfl, rfl⟩ (by rintro ⟨served, _⟩; cases served)
  | ok value =>
    cases checkInsertEvent s id (eventRow user req now) with
    | error e => exact iff_of_true ⟨rfl, rfl⟩ (by rintro ⟨served, _⟩; cases served)
    | ok value =>
      dsimp only
      generalize announced : State.mk s.forum (s.events.insert id (eventRow user req now)) s.slots s.polls = stored
      have within : ∀ row ∈ slotRows id req.slots slotIds now, row.2.eventId ∈ stored.events := by
        intro row member
        rw [slotRows_event member, ← announced]
        exact Std.ExtTreeMap.mem_insert_self
      have fresh := insertSlots_ok_iff within
      have same := insertSlots_forum stored (slotRows id req.slots slotIds now)
      rw [and_iff_right (show (Except.ok value >>= fun _ =>
        Except.ok value : Except HttpError Unit).isOk = true from rfl)]
      have sameSlots : freshSlots stored (slotRows id req.slots slotIds now) ↔
          freshSlots s (slotRows id req.slots slotIds now) := by
        rw [← announced]
        rfl
      have sameForum : stored.forum = s.forum := by rw [← announced]
      cases slotted : insertSlots stored (slotRows id req.slots slotIds now) with
      | mk left answer =>
        rw [slotted] at fresh same
        cases answer with
        | error e =>
          refine iff_of_true ⟨rfl, congrArg (content · target) (same.trans sameForum)⟩ ?_
          rintro ⟨free, _⟩
          cases fresh.mpr (sameSlots.mpr free)
        | ok value =>
          rw [and_iff_right (sameSlots.mp (fresh.mp rfl)), Bool.not_eq_true]
          have forum : left.forum = s.forum := same.trans sameForum
          let targets := addressed (propagationTargets s.forum.chat.db req.channelId req.propagateToChildren) cards
          have posted : Withheld left target (postCards user (announcement (eventRow user req now)) targets left) ↔ _ :=
            postCards_withheld (by rw [addressed_targets]; exact aimed)
          rw [Withheld, forum] at posted
          show Withheld s target (postEventCard left (eventRow user req now) cards) ↔ _
          unfold postEventCard
          rw [Withheld, forum]
          exact posted

theorem createPoll_withheld {channelId : String} {req : CreatePollRequest} {id : String} {card : Card} {now : Int} :
    Withheld s channelId (createPoll s user channelId req id card now) ↔
      (pollAdmission s user channelId req id card).isOk = false := by
  unfold createPoll pollAdmission
  cases pollChecks s user channelId req with
  | error e => exact iff_of_true ⟨rfl, rfl⟩ rfl
  | ok value =>
    cases checkInsertPoll s id channelId with
    | error e => exact iff_of_true ⟨rfl, rfl⟩ rfl
    | ok value =>
      dsimp only [postCardMessage]
      cases Chat.checkInsert s.forum.chat card.id (cardRow channelId user ("**Poll:** " ++ req.question) card) with
      | error e => exact iff_of_true ⟨rfl, rfl⟩ rfl
      | ok value => exact iff_of_false (by rintro ⟨refused, _⟩; cases refused) (by intro refused; cases refused)

theorem editMessage_withheld {channelId id : String} {req : Chat.EditMessageRequest} {now : Int} :
    Withheld s channelId (onChat s (Chat.editMessage s.forum.chat user channelId id req now)) ↔
      (Chat.checkEdit s.forum.chat user channelId id req).isOk = false := by
  unfold Chat.editMessage
  cases Chat.checkEdit s.forum.chat user channelId id req with
  | error e => exact iff_of_true ⟨rfl, rfl⟩ rfl
  | ok row => exact iff_of_false (by rintro ⟨refused, _⟩; cases refused) (by intro refused; cases refused)

end

/--
A silenced member is kept out by the routes that ask `require_may_post`, and only by them. The
other routes let the member through wherever anybody with the same permissions would pass.
-/
theorem withheld_iff_guarded (s : State) (r : Request) (user channelId : String) (clock : Clock)
    (silenced : Silenced s.forum (r.author user) channelId clock.now) (aimed : r.Aims s channelId) :
    Withheld s channelId (r.serve s user clock) ↔ r.Guarded ∨ ¬ r.Passes s user channelId clock := by
  cases r with
  | sendMessage target req checks d id errId now =>
    obtain rfl : target = channelId := aimed
    exact iff_of_true (withheld_onForum.mpr (sendMessage_silenced silenced)) (.inl trivial)
  | createPost target req attachments id =>
    obtain rfl : target = channelId := aimed
    exact iff_of_true (withheld_onForum.mpr (createPost_silenced silenced)) (.inl trivial)
  | createReply target postId req attachments id =>
    obtain rfl : target = channelId := aimed
    exact iff_of_true (withheld_onForum.mpr (createReply_silenced silenced)) (.inl trivial)
  | editMessage target id req =>
    obtain rfl : target = channelId := aimed
    simpa [Request.Guarded, Request.Passes, Request.serve] using editMessage_withheld
  | createPoll target req id card =>
    obtain rfl : target = channelId := aimed
    simpa [Request.Guarded, Request.Passes, Request.serve] using createPoll_withheld
  | createEvent req id slotIds cards =>
    exact (createEvent_withheld aimed).trans (by rw [Request.Guarded.eq_def, false_or]; rfl)
  | editPost target postId req =>
    obtain rfl : target = channelId := aimed
    simpa [Request.Guarded, Request.Passes, Request.serve, withheld_onForum] using editPost_unread
  | editReply target postId replyId req =>
    obtain rfl : target = channelId := aimed
    simpa [Request.Guarded, Request.Passes, Request.serve, withheld_onForum] using editReply_unread
  | federatedCreatePost peer target req id =>
    obtain rfl : target = channelId := aimed
    simpa [Request.Guarded, Request.Passes, Request.serve, withheld_onForum] using federatedCreatePost_unread
  | federatedCreateReply peer target postId req id =>
    obtain rfl : target = channelId := aimed
    simpa [Request.Guarded, Request.Passes, Request.serve, withheld_onForum] using federatedCreateReply_unread

-- A muted member, with a message from before the mute.
def loudHub : State where
  forum :=
    { chat :=
        { db :=
            { users := (∅ : Table User).insert "loud" { isMember := true }
              channels := (∅ : Table Channel).insert "general" { name := "general", createdBy := "loud" } }
          messages := (∅ : Table Chat.MessageRow).insert "m"
            { channelId := "general", sender := "loud", content := "hello", createdAt := 0 } }
      mutes := (∅ : Table (Option Int)).insert "loud" none }

def loudEdit : Request := .editMessage "general" "m" { content := "read this instead" }

theorem loudHub_silenced : Silenced loudHub.forum "loud" "general" 1000 := .inl (by decide)

theorem withheld_iff_guarded_loud :
    Withheld loudHub "general" (loudEdit.serve loudHub "loud" { now := 1000, instant := 0 }) ↔
      loudEdit.Guarded ∨ ¬ loudEdit.Passes loudHub "loud" "general" { now := 1000, instant := 0 } :=
  withheld_iff_guarded loudHub loudEdit "loud" "general" { now := 1000, instant := 0 } loudHub_silenced rfl

-- The edit goes through, and the channel reads the new text.
theorem withheld_not_edited :
    ¬ ∀ (s : State) (r : Request) (user channelId : String) (clock : Clock),
      Silenced s.forum (r.author user) channelId clock.now → r.Aims s channelId →
        Withheld s channelId (r.serve s user clock) := by
  intro withheld
  have refused := (withheld loudHub loudEdit "loud" "general" { now := 1000, instant := 0 } loudHub_silenced rfl).1
  have served : (loudEdit.serve loudHub "loud" { now := 1000, instant := 0 }).2.isOk = true := by
    decide
  rw [refused] at served
  cases served

end Wavvon.Events
