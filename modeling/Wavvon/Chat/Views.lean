import Mathlib.Data.Prod.Lex
import Wavvon.Attachments.Ingest
import Wavvon.Chat.Messages
import Wavvon.Shared.Keyset

set_option autoImplicit false

namespace Wavvon.Chat

open Std (ExtTreeMap)
open Attachments (Attachment AttachmentRef RefRow)
open Grouping (group)

structure Reaction where
  messageId : String
  emoji : String
  userKey : String
  createdAt : Int
  deriving DecidableEq, Repr

structure ReactionSummary where
  emoji : String
  count : Nat
  me : Bool
  deriving DecidableEq, Repr

structure StickerRow where
  sha256 : String
  name : String
  width : Int
  height : Int
  originHubUrl : Option String := none
  originHubName : Option String := none
  removedAt : Option Int := none
  evictedAt : Option Int := none
  deriving DecidableEq, Repr

namespace StickerRow

inductive State where
  | removed
  | evicted
  | ok
  deriving DecidableEq, Repr

def state (r : StickerRow) : State :=
  if r.removedAt.isSome then .removed else if r.evictedAt.isSome then .evicted else .ok

end StickerRow

structure StickerRef where
  id : String
  name : String
  url : String
  sha256 : String
  width : Int
  height : Int
  originHubUrl : Option String
  originHubName : Option String
  state : StickerRow.State
  deriving DecidableEq, Repr

def stickerRef (id : String) (r : StickerRow) : StickerRef :=
  { id := id, name := r.name, url := "/stickers/" ++ r.sha256, sha256 := r.sha256, width := r.width, height := r.height
    originHubUrl := r.originHubUrl, originHubName := r.originHubName, state := r.state }

/-- The messages of a hub with what hangs on them; `stickerIds` is a column of theirs. -/
structure Board where
  chat : State := {}
  reactions : List Reaction := []
  attachments : Attachments.Store := {}
  stickers : Table StickerRow := ∅
  stickerIds : Table String := ∅

structure MessageView where
  message : MessageResponse
  reactions : List ReactionSummary
  attachments : List AttachmentRef
  sticker : Option StickerRef
  deriving DecidableEq, Repr

-- What the database makes of emoji that were first used at one time.
abbrev Ties := String × String → Nat

namespace Board

section

variable (s : Board)

def reactionsWith (messageId emoji : String) : List Reaction :=
  s.reactions.filter fun r => r.messageId = messageId ∧ r.emoji = emoji

def firstUse (messageId emoji : String) : Int :=
  ((s.reactionsWith messageId emoji).map (·.createdAt)).min?.getD 0

def summary (viewer messageId emoji : String) : ReactionSummary where
  emoji := emoji
  count := (s.reactionsWith messageId emoji).length
  me := (s.reactionsWith messageId emoji).any fun r => r.userKey = viewer

-- One row for each emoji of each of the messages.
def reactionGroups (ids : List String) : List (String × String) :=
  ((s.reactions.filter fun r => r.messageId ∈ ids).map fun r => (r.messageId, r.emoji)).dedup

def reactionKey (ties : Ties) (row : String × String) : String ×ₗ Int ×ₗ Nat :=
  toLex (row.1, toLex (s.firstUse row.1 row.2, ties row))

def batchLoadReactions (ties : Ties) (ids : List String) (viewer : String) : Table (List ReactionSummary) :=
  group Prod.fst (fun row => s.summary viewer row.1 row.2)
    ((s.reactionGroups ids).insertionSort fun a b => s.reactionKey ties a ≤ s.reactionKey ties b)

def loadReactions (ties : Ties) (id viewer : String) : List ReactionSummary :=
  let emoji := ((s.reactions.filter fun r => r.messageId = id).map (·.emoji)).dedup
  (emoji.insertionSort fun a b =>
    toLex (s.firstUse id a, ties (id, a)) ≤ toLex (s.firstUse id b, ties (id, b))).map (s.summary viewer id)

def refRow (a : Attachment) : RefRow :=
  let blob := a.sha256.bind fun sha => s.attachments.blobs.find? fun b => b.sha256 = sha
  { id := a.id, name := a.name, asFile := a.asFile, removedAt := a.removedAt, expiredAt := a.expiredAt
    sha256 := a.sha256, kind := blob.map (·.kind), mime := blob.map (·.mime), sizeBytes := blob.map (·.sizeBytes)
    width := blob.bind (·.width), height := blob.bind (·.height) }

def attachmentKey (a : Attachment) : Nat ×ₗ Int ×ₗ String := toLex (a.position, toLex (a.createdAt, a.id))

-- The attachments of each of the messages, in the order in which they were sent.
def loadAttachments (ids : List String) : Table (List AttachmentRef) :=
  group (fun a => a.messageId.getD "") (fun a => (s.refRow a).intoRef)
    ((s.attachments.attachments.filter fun a => a.messageId.any (· ∈ ids)).insertionSort fun a b =>
      attachmentKey a ≤ attachmentKey b)

def loadOne (id : String) : List AttachmentRef := (s.loadAttachments [id])[id]?.getD []

def loadStickers (ids : List String) : Table StickerRef :=
  (s.stickers.filter fun id _ => decide (id ∈ ids)).map stickerRef

def batchLoadReplyContexts (parentIds : List String) : Table ReplyContext :=
  (s.chat.messages.filter fun id _ => decide (id ∈ parentIds)).map fun id row =>
    { messageId := id, sender := row.sender, senderName := s.chat.db.displayName row.sender
      contentPreview := String.ofList (row.content.toList.take PREVIEW_CHARS) }

-- One message by itself, with the reactions as its viewer sees them.
def loadMessage (ties : Ties) (id viewer : String) : Option MessageView :=
  s.chat.messages[id]?.map fun row =>
    { message := response s.chat id row (row.replyTo.bind (loadReplyContext s.chat)) none
      reactions := s.loadReactions ties id viewer
      attachments := s.loadOne id
      sticker := s.stickerIds[id]?.bind fun sid => (s.loadStickers [sid])[sid]? }

end

end Board

/-- What was loaded for a page and not handed out yet. -/
structure PageMaps where
  reactions : Table (List ReactionSummary)
  attachments : Table (List AttachmentRef)
  replies : Table ReplyContext
  stickers : Table StickerRef

namespace Board

def pageMaps (s : Board) (ties : Ties) (viewer : String) (rows : List (String × MessageRow)) : PageMaps where
  reactions := s.batchLoadReactions ties (rows.map Prod.fst) viewer
  attachments := s.loadAttachments (rows.map Prod.fst)
  replies := s.batchLoadReplyContexts (rows.filterMap (·.2.replyTo)).dedup
  stickers := s.loadStickers (rows.filterMap (s.stickerIds[·.1]?))

def viewOf (s : Board) (maps : PageMaps) (id : String) (row : MessageRow) : MessageView where
  message := response s.chat id row (row.replyTo.bind fun parent => maps.replies[parent]?) none
  reactions := maps.reactions[id]?.getD []
  attachments := maps.attachments[id]?.getD []
  sticker := s.stickerIds[id]?.bind fun sid => maps.stickers[sid]?

end Board

-- `remove` for each map but the stickers', which are copied.
def PageMaps.handOut (maps : PageMaps) (id : String) (row : MessageRow) : PageMaps where
  reactions := maps.reactions.erase id
  attachments := maps.attachments.erase id
  replies := row.replyTo.elim maps.replies maps.replies.erase
  stickers := maps.stickers

namespace Board

def assemble (s : Board) : PageMaps → List (String × MessageRow) → List MessageView
  | _, [] => []
  | maps, (id, row) :: rest => s.viewOf maps id row :: s.assemble (maps.handOut id row) rest

def getMessages (s : Board) (ties : Ties) (viewer channelId : String) (params : PaginationParams)
    (hits : List String) : Except HttpError (List MessageView) :=
  match (channelPermissions s.chat.db viewer channelId).require MESSAGES_READ with
  | .error e => .error e
  | .ok _ =>
    if !limitOk params then .error limitError
    else
      let rows := selectRows s.chat channelId params hits
      .ok (s.assemble (s.pageMaps ties viewer rows) rows)

section

variable {s : Board} {ids : List String} {id : String}

-- The emoji of a message, each of them once and by their first use.
def Ranked (s : Board) (id : String) (emoji : List String) : Prop :=
  emoji.Perm ((s.reactions.filter fun r => r.messageId = id).map (·.emoji)).dedup ∧
    (emoji.map (s.firstUse id)).Pairwise (· ≤ ·)

theorem batch_reactions (ties : Ties) (viewer : String) (asked : id ∈ ids) :
    ∃ emoji, Ranked s id emoji ∧
      ((s.batchLoadReactions ties ids viewer)[id]?).getD [] = emoji.map (s.summary viewer id) := by
  let order := fun a b => s.reactionKey ties a ≤ s.reactionKey ties b
  let rows := ((s.reactionGroups ids).insertionSort order).filter fun row => row.1 = id
  have own : ∀ row ∈ rows, row.1 = id := by
    intro row member
    simpa using (List.mem_filter.mp member).2
  have nodup : ((s.reactionGroups ids).insertionSort order).Nodup :=
    (List.perm_insertionSort order _).nodup_iff.mpr (List.nodup_dedup _)
  refine ⟨rows.map Prod.snd, ⟨?_, ?_⟩, ?_⟩
  · refine (List.perm_ext_iff_of_nodup ?_ (List.nodup_dedup _)).mpr ?_
    · refine (nodup.filter _).map_on ?_
      intro a inA b inB same
      exact Prod.ext ((own a inA).trans (own b inB).symm) same
    · intro emoji
      have listed : emoji ∈ rows.map Prod.snd ↔ (id, emoji) ∈ s.reactionGroups ids := by
        constructor
        · intro member
          obtain ⟨row, inside, rfl⟩ := List.mem_map.mp member
          rw [← own row inside]
          exact (List.mem_insertionSort order).mp (List.mem_filter.mp inside).1
        · intro member
          exact List.mem_map.mpr ⟨(id, emoji), List.mem_filter.mpr
            ⟨(List.mem_insertionSort order).mpr member, by simp⟩, rfl⟩
      rw [listed, reactionGroups, List.mem_dedup, List.mem_dedup, List.mem_map, List.mem_map]
      constructor
      · rintro ⟨r, inside, same⟩
        obtain ⟨rfl, rfl⟩ := Prod.mk.inj same
        exact ⟨r, List.mem_filter.mpr ⟨(List.mem_filter.mp inside).1, by simp⟩, rfl⟩
      · rintro ⟨r, inside, rfl⟩
        obtain ⟨stored, here⟩ := List.mem_filter.mp inside
        rw [decide_eq_true_eq] at here
        exact ⟨r, List.mem_filter.mpr ⟨stored, by simp [here, asked]⟩, by rw [here]⟩
  · have sorted : rows.Pairwise order := (List.pairwise_insertionSort order _).filter _
    rw [List.map_map, List.pairwise_map]
    refine sorted.imp_of_mem ?_
    intro a b inA inB before
    have keys : toLex (s.firstUse id a.2, ties a) ≤ toLex (s.firstUse id b.2, ties b) := by
      have := Prod.Lex.toLex_le_toLex.mp before
      rw [own a inA, own b inB] at this
      exact (this.resolve_left (lt_irrefl id)).2
    exact Prod.Lex.monotone_fst _ _ keys
  · rw [batchLoadReactions, Grouping.group_getD, List.map_map]
    refine List.map_congr_left ?_
    intro row member
    rw [own row member]
    rfl

theorem one_reactions (ties : Ties) (viewer id : String) :
    ∃ emoji, Ranked s id emoji ∧ s.loadReactions ties id viewer = emoji.map (s.summary viewer id) := by
  refine ⟨_, ⟨List.perm_insertionSort _ _, ?_⟩, rfl⟩
  rw [List.pairwise_map]
  refine (List.pairwise_insertionSort _ _).imp ?_
  intro a b order
  exact Prod.Lex.monotone_fst _ _ order

theorem loadAttachments_getD (asked : id ∈ ids) : ((s.loadAttachments ids)[id]?).getD [] = s.loadOne id := by
  have own (among : List String) (inside : id ∈ among) :
      (s.attachments.attachments.filter fun a => a.messageId.any (· ∈ among)).filter
        (fun a => a.messageId.getD "" = id) = s.attachments.attachments.filter fun a => a.messageId = some id := by
    rw [List.filter_filter]
    refine List.filter_congr ?_
    intro a _
    cases a.messageId with
    | none => simp
    | some mid =>
      by_cases same : mid = id
      · simp [same, inside]
      · simp [same]
  rw [loadOne, loadAttachments, loadAttachments, Grouping.group_getD, Grouping.group_getD,
    Grouping.filter_insertionSort, Grouping.filter_insertionSort, own ids asked,
    own [id] List.mem_cons_self]

theorem batchLoadReplyContexts_get (parentIds : List String) (parent : String) :
    (s.batchLoadReplyContexts parentIds)[parent]? =
      if parent ∈ parentIds then loadReplyContext s.chat parent else none := by
  rw [batchLoadReplyContexts, ExtTreeMap.getElem?_map, ExtTreeMap.getElem?_filter', loadReplyContext]
  split
  next asked =>
    simp only [asked, decide_true]
    cases s.chat.messages[parent]? <;> rfl
  next other => simp [other]

theorem loadStickers_get (sids : List String) (sid : String) :
    (s.loadStickers sids)[sid]? = if sid ∈ sids then s.stickers[sid]?.map (stickerRef sid) else none := by
  rw [loadStickers, ExtTreeMap.getElem?_map, ExtTreeMap.getElem?_filter']
  split
  next asked =>
    simp only [asked, decide_true]
    cases s.stickers[sid]? <;> rfl
  next other => simp [other]

-- The single message's sticker and reply context, by name.
theorem loadStickers_one (sid : String) : (s.loadStickers [sid])[sid]? = s.stickers[sid]?.map (stickerRef sid) := by
  rw [loadStickers_get, if_pos List.mem_cons_self]

end

/-- What the maps still hold for the rows to come, when some parents have been handed out. -/
structure Holds (s : Board) (all : PageMaps) (maps : PageMaps) (given : List String)
    (rows : List (String × MessageRow)) :
    Prop where
  reactions : ∀ row ∈ rows, maps.reactions[row.1]? = all.reactions[row.1]?
  attachments : ∀ row ∈ rows, maps.attachments[row.1]? = all.attachments[row.1]?
  replies : ∀ row ∈ rows, ∀ parent ∈ row.2.replyTo,
    maps.replies[parent]? = if parent ∈ given then none else loadReplyContext s.chat parent
  stickers : maps.stickers = all.stickers

theorem Holds.handOut {s : Board} {all maps : PageMaps} {given : List String} {id : String} {row : MessageRow}
    {rest : List (String × MessageRow)} (holds : Holds s all maps given ((id, row) :: rest))
    (fresh : ∀ other ∈ rest, other.1 ≠ id) :
    Holds s all (maps.handOut id row) (row.replyTo.toList ++ given) rest where
  reactions other member := by
    rw [PageMaps.handOut, ExtTreeMap.getElem?_erase, if_neg (by simpa using (fresh other member).symm)]
    exact holds.reactions other (List.mem_cons_of_mem _ member)
  attachments other member := by
    rw [PageMaps.handOut, ExtTreeMap.getElem?_erase, if_neg (by simpa using (fresh other member).symm)]
    exact holds.attachments other (List.mem_cons_of_mem _ member)
  replies other member parent names := by
    have before := holds.replies other (List.mem_cons_of_mem _ member) parent names
    rw [PageMaps.handOut]
    cases row.replyTo with
    | none => exact before
    | some taken =>
      simp only [Option.elim_some, ExtTreeMap.getElem?_erase, before, Option.toList_some, List.singleton_append,
        List.mem_cons]
      by_cases same : taken = parent
      · simp [same]
      · simp [same, Ne.symm same]
  stickers := holds.stickers

section

variable (s : Board) (maps : PageMaps) (id : String) (row : MessageRow)

theorem viewOf_id : (s.viewOf maps id row).message.id = id := rfl

theorem viewOf_reactions : (s.viewOf maps id row).reactions = (maps.reactions[id]?).getD [] := rfl

theorem viewOf_attachments : (s.viewOf maps id row).attachments = (maps.attachments[id]?).getD [] := rfl

theorem viewOf_sticker :
    (s.viewOf maps id row).sticker = s.stickerIds[id]?.bind fun sid => maps.stickers[sid]? := rfl

end

-- The messages of a page as they are without what hangs on them.
theorem assemble_messages {s : Board} {all maps : PageMaps} {given : List String} {rows : List (String × MessageRow)}
    (distinct : rows.Pairwise fun a b => b.1 ≠ a.1) (holds : Holds s all maps given rows) :
    (s.assemble maps rows).map (·.message) = attachContexts s.chat given rows ∧
      ∀ v ∈ s.assemble maps rows, v.reactions = (all.reactions[v.message.id]?).getD [] ∧
        v.attachments = (all.attachments[v.message.id]?).getD [] ∧
        v.sticker = s.stickerIds[v.message.id]?.bind fun sid => all.stickers[sid]? := by
  induction rows generalizing maps given with
  | nil =>
    rw [assemble]
    exact ⟨rfl, fun v member => absurd member List.not_mem_nil⟩
  | cons first rest ih =>
    obtain ⟨id, row⟩ := first
    obtain ⟨fresh, later⟩ := List.pairwise_cons.mp distinct
    have next : Holds s all (maps.handOut id row) (row.replyTo.toList ++ given) rest := holds.handOut fresh
    obtain ⟨messages, parts⟩ := ih later next
    rw [assemble]
    constructor
    · rw [List.map_cons, messages, attachContexts, viewOf]
      cases names : row.replyTo with
      | none => simp
      | some parent =>
        have := holds.replies _ List.mem_cons_self parent names
        simp [this]
    · intro v member
      cases List.mem_cons.mp member with
      | inl here =>
        subst here
        have reactions := holds.reactions _ List.mem_cons_self
        have attachments := holds.attachments _ List.mem_cons_self
        rw [viewOf_id, viewOf_reactions, viewOf_attachments, viewOf_sticker, reactions, attachments, holds.stickers]
        exact ⟨rfl, rfl, rfl⟩
      | inr there => exact parts v there

-- The reply context that a message has by itself.
def contextOf (s : Board) (id : String) : Option ReplyContext :=
  (s.chat.messages[id]?.bind (·.replyTo)).bind (loadReplyContext s.chat)

theorem contextOf_found {s : Board} {id : String} {row : MessageRow} (found : s.chat.messages[id]? = some row) :
    s.contextOf id = row.replyTo.bind (loadReplyContext s.chat) := by
  rw [contextOf, found, Option.bind_some]

-- No two messages of the page reply to one message that is there.
def ParentsOnce (s : Board) (rows : List (String × MessageRow)) : Prop :=
  rows.Pairwise fun a b => ∀ parent ∈ s.chat.messages, ¬ (a.2.replyTo = some parent ∧ b.2.replyTo = some parent)

def Stored (s : Board) (rows : List (String × MessageRow)) : Prop :=
  ∀ row ∈ rows, s.chat.messages[row.1]? = some row.2

theorem loadReplyContext_isSome {s : Board} {parent : String} :
    (loadReplyContext s.chat parent).isSome ↔ parent ∈ s.chat.messages := by
  rw [loadReplyContext, Option.isSome_map, ExtTreeMap.mem_iff_isSome_getElem?]

theorem context_given {s : Board} {given : List String} {parent : String} :
    ((if parent ∈ given then none else loadReplyContext s.chat parent) = loadReplyContext s.chat parent) ↔
      (parent ∈ s.chat.messages → parent ∉ given) := by
  rw [← loadReplyContext_isSome]
  split
  next taken =>
    rw [eq_comm, ← Option.not_isSome_iff_eq_none]
    exact ⟨fun gone there => absurd there gone, fun fresh there => fresh there taken⟩
  next fresh => exact iff_of_true rfl fun _ => fresh

/-- Handing every parent out once is enough if and only if no parent is asked for twice. -/
theorem contexts_iff {s : Board} {given : List String} {rows : List (String × MessageRow)} (stored : Stored s rows) :
    (∀ m ∈ attachContexts s.chat given rows, m.replyTo = s.contextOf m.id) ↔
      (∀ row ∈ rows, ∀ parent ∈ row.2.replyTo, parent ∈ s.chat.messages → parent ∉ given) ∧ ParentsOnce s rows := by
  induction rows generalizing given with
  | nil => exact iff_of_true (fun _ => nofun) ⟨fun _ => nofun, List.Pairwise.nil⟩
  | cons first rest ih =>
    obtain ⟨id, row⟩ := first
    have here : s.chat.messages[id]? = some row := stored _ List.mem_cons_self
    have rests : Stored s rest := fun other member => stored other (List.mem_cons_of_mem _ member)
    have own := contextOf_found here
    rw [attachContexts, ParentsOnce, List.pairwise_cons, List.forall_mem_cons]
    cases names : row.replyTo with
    | none =>
      rw [names] at own
      simp only [List.forall_mem_cons, ih rests, response, own, Option.bind_none, true_and, Option.mem_def,
        reduceCtorEq,
        false_and, not_false_eq_true, implies_true, false_imp_iff]
      rfl
    | some parent =>
      rw [names] at own
      rw [List.forall_mem_cons, ih rests]
      simp only [response, own, Option.bind_some, context_given, Option.mem_def, Option.some.injEq, forall_eq',
        List.mem_cons, not_or]
      constructor
      · rintro ⟨head, others, once⟩
        refine ⟨⟨head, fun other member p asks there => (others other member p asks there).2⟩, ?_, once⟩
        rintro other member p there ⟨rfl, asks⟩
        exact (others other member parent asks there).1 rfl
      · rintro ⟨⟨head, others⟩, apart, once⟩
        refine ⟨head, ?_, once⟩
        intro other member p asks there
        exact ⟨fun same => apart other member p there ⟨same.symm, asks⟩, others other member p asks there⟩

/-- The page's view of a message and its own, up to the order of emoji that were first used at one time. -/
structure Same (s : Board) (v w : MessageView) : Prop where
  message : v.message = w.message
  reactions : v.reactions.Perm w.reactions ∧
    v.reactions.map (fun r => s.firstUse v.message.id r.emoji) = w.reactions.map fun r => s.firstUse v.message.id r.emoji
  attachments : v.attachments = w.attachments
  sticker : v.sticker = w.sticker

/-- Each message of a page is as its own loader gives it, whatever order the database gives to ties. -/
def Agree (s : Board) (viewer channelId : String) (params : PaginationParams) (hits : List String) : Prop :=
  ∀ (batched one : Ties) (views : List MessageView), s.getMessages batched viewer channelId params hits = .ok views →
    ∀ v ∈ views, ∃ w, s.loadMessage one v.message.id viewer = some w ∧ Same s v w

def Answers (s : Board) (viewer channelId : String) (params : PaginationParams) : Prop :=
  (channelPermissions s.chat.db viewer channelId).has MESSAGES_READ = true ∧ limitOk params = true

-- A page is a choice of the messages, in some order.
theorem selectRows_subperm (s : State) (channelId : String) (params : PaginationParams) (hits : List String) :
    List.Subperm (selectRows s channelId params hits) s.messages.toList := by
  have sorted (r : String × MessageRow → String × MessageRow → Bool) (p : String × MessageRow → Bool) :
      List.Subperm ((s.messages.toList.filter p).insertionSort fun a b => r a b = true) s.messages.toList :=
    (List.perm_insertionSort _ _).subperm.trans List.filter_sublist.subperm
  rw [selectRows]
  cases params.threadRoot with
  | some rootId => exact (List.take_sublist _ _).subperm.trans (sorted _ _)
  | none =>
    cases searchText params with
    | some text => exact sorted _ _
    | none => exact (List.take_sublist _ _).subperm.trans (sorted _ _)

theorem selectRows_stored (s : Board) (channelId : String) (params : PaginationParams) (hits : List String) :
    Stored s (selectRows s.chat channelId params hits) ∧
      (selectRows s.chat channelId params hits).Pairwise fun a b => b.1 ≠ a.1 := by
  have chosen := selectRows_subperm s.chat channelId params hits
  constructor
  · intro row member
    exact ExtTreeMap.mem_toList_iff_getElem?_eq_some.mp (chosen.subset member)
  · have keys : s.chat.messages.toList.Pairwise fun a b => b.1 ≠ a.1 :=
      ExtTreeMap.distinct_keys_toList.imp fun apart same => apart (by rw [same]; exact Std.ReflCmp.compare_self)
    obtain ⟨rows, perm, within⟩ := chosen
    exact (perm.pairwise_iff fun apart => apart.symm).mp (keys.sublist within)

theorem pageMaps_holds (s : Board) (ties : Ties) (viewer : String) (rows : List (String × MessageRow)) :
    Holds s (s.pageMaps ties viewer rows) (s.pageMaps ties viewer rows) [] rows where
  reactions _ _ := rfl
  attachments _ _ := rfl
  replies row member parent names := by
    have asked : parent ∈ (rows.filterMap (·.2.replyTo)).dedup :=
      List.mem_dedup.mpr (List.mem_filterMap.mpr ⟨row, member, names⟩)
    rw [pageMaps, batchLoadReplyContexts_get, if_pos asked, if_neg List.not_mem_nil]
  stickers := rfl

theorem getMessages_ok {s : Board} {ties : Ties} {viewer channelId : String} {params : PaginationParams}
    {hits : List String} {views : List MessageView} :
    s.getMessages ties viewer channelId params hits = .ok views ↔ Answers s viewer channelId params ∧
      views = s.assemble (s.pageMaps ties viewer (selectRows s.chat channelId params hits))
        (selectRows s.chat channelId params hits) := by
  rw [getMessages, Answers, ← UserPermissions.require_ok]
  cases (channelPermissions s.chat.db viewer channelId).require MESSAGES_READ with
  | error e => simp
  | ok _ =>
    cases limitOk params with
    | false => simp
    | true => simp [eq_comm]

theorem attachContexts_response {s : State} {given : List String} {rows : List (String × MessageRow)}
    {m : MessageResponse} (member : m ∈ attachContexts s given rows) :
    ∃ row ∈ rows, m = response s row.1 row.2 m.replyTo none := by
  induction rows generalizing given with
  | nil => cases member
  | cons first rest ih =>
    rw [attachContexts] at member
    split at member
    all_goals
      cases List.mem_cons.mp member with
      | inl here => exact ⟨first, List.mem_cons_self, by rw [here]; rfl⟩
      | inr later =>
        obtain ⟨row, inside, shown⟩ := ih later
        exact ⟨row, List.mem_cons_of_mem _ inside, shown⟩

theorem Ranked.alike {s : Board} {id viewer : String} {emoji others : List String} (ranked : Ranked s id emoji)
    (other : Ranked s id others) :
    (emoji.map (s.summary viewer id)).Perm (others.map (s.summary viewer id)) ∧
      (emoji.map (s.summary viewer id)).map (fun r => s.firstUse id r.emoji) =
        (others.map (s.summary viewer id)).map fun r => s.firstUse id r.emoji := by
  have perm : emoji.Perm others := ranked.1.trans other.1.symm
  refine ⟨perm.map _, ?_⟩
  rw [List.map_map, List.map_map]
  exact List.Perm.eq_of_pairwise (fun _ _ _ _ => le_antisymm) ranked.2 other.2 (perm.map _)

-- What a page says of its messages, whether or not some parent is asked for twice.
theorem assembled {s : Board} {rows : List (String × MessageRow)} (distinct : rows.Pairwise fun a b => b.1 ≠ a.1)
    (ties : Ties) (viewer : String) :
    (s.assemble (s.pageMaps ties viewer rows) rows).map (·.message) = attachContexts s.chat [] rows :=
  (assemble_messages distinct (pageMaps_holds s ties viewer rows)).1

/-- The messages of a page are those of the history by itself, in its order. -/
theorem getMessages_answer (s : Board) (ties : Ties) (viewer channelId : String) (params : PaginationParams)
    (hits : List String) :
    (s.getMessages ties viewer channelId params hits).map (fun views => views.map (·.message)) =
      (Chat.getMessages s.chat viewer channelId params hits).answer := by
  have page := assembled (s := s) (selectRows_stored s channelId params hits).2 ties viewer
  rw [getMessages, Chat.getMessages]
  cases (channelPermissions s.chat.db viewer channelId).require MESSAGES_READ with
  | error e => rfl
  | ok _ =>
    cases limitOk params with
    | false => rfl
    | true => exact congrArg Except.ok page

theorem contexts_once {s : Board} {rows : List (String × MessageRow)} (stored : Stored s rows) :
    (∀ m ∈ attachContexts s.chat [] rows, m.replyTo = s.contextOf m.id) ↔ ParentsOnce s rows := by
  rw [contexts_iff stored]
  exact and_iff_right fun _ _ _ _ _ => List.not_mem_nil

theorem Agree.once {s : Board} {viewer channelId : String} {params : PaginationParams} {hits : List String}
    (agree : Agree s viewer channelId params hits) (answers : Answers s viewer channelId params) :
    ParentsOnce s (selectRows s.chat channelId params hits) := by
  obtain ⟨stored, distinct⟩ := selectRows_stored s channelId params hits
  refine (contexts_once stored).mp fun m member => ?_
  rw [← assembled distinct (fun _ => 0) viewer, List.mem_map] at member
  obtain ⟨v, shown, rfl⟩ := member
  obtain ⟨w, loaded, same⟩ := agree (fun _ => 0) (fun _ => 0) _ (getMessages_ok.mpr ⟨answers, rfl⟩) v shown
  obtain ⟨row, found, rfl⟩ := Option.map_eq_some_iff.mp loaded
  have own : v.message.replyTo = row.replyTo.bind (loadReplyContext s.chat) := congrArg (·.replyTo) same.message
  rw [own, contextOf_found found]

/-- A page agrees with the single messages if and only if no two of its messages reply to one that is there. -/
theorem views_agree_iff (s : Board) (viewer channelId : String) (params : PaginationParams) (hits : List String) :
    Agree s viewer channelId params hits ↔
      (Answers s viewer channelId params → ParentsOnce s (selectRows s.chat channelId params hits)) := by
  refine ⟨fun agree => agree.once, fun once batched one views served v shown => ?_⟩
  obtain ⟨stored, distinct⟩ := selectRows_stored s channelId params hits
  obtain ⟨answers, rfl⟩ := getMessages_ok.mp served
  have met := once answers
  generalize selectRows s.chat channelId params hits = rows at stored distinct shown met
  have member : v.message ∈ attachContexts s.chat [] rows := by
    rw [← assembled distinct batched viewer]
    exact List.mem_map_of_mem shown
  have context := (contexts_once stored).mpr met _ member
  obtain ⟨reactions, attachments, sticker⟩ :=
    (assemble_messages distinct (pageMaps_holds s batched viewer rows)).2 v shown
  obtain ⟨row, inside, shape⟩ := attachContexts_response member
  have id_eq : v.message.id = row.1 := by rw [shape]; rfl
  have found := stored row inside
  have asked : row.1 ∈ rows.map Prod.fst := List.mem_map_of_mem inside
  rw [id_eq] at context reactions attachments sticker
  rw [contextOf_found found] at context
  rw [id_eq, loadMessage, found, Option.map_some]
  refine ⟨_, rfl, ?_, ?_, ?_, ?_⟩
  · rw [shape, context]
  · rw [id_eq, reactions]
    obtain ⟨emoji, ranked, batch⟩ := batch_reactions (s := s) batched viewer asked
    obtain ⟨others, other, single⟩ := one_reactions (s := s) one viewer row.1
    rw [pageMaps, batch]
    dsimp only
    rw [single]
    exact ranked.alike other
  · rw [attachments, pageMaps, loadAttachments_getD asked]
  · rw [sticker, pageMaps]
    cases held : s.stickerIds[row.1]? with
    | none => rfl
    | some sid =>
      have listed : sid ∈ rows.filterMap (s.stickerIds[·.1]?) := List.mem_filterMap.mpr ⟨row, inside, held⟩
      rw [Option.bind_some, Option.bind_some, loadStickers_one, loadStickers_get, if_pos listed]

-- A message and two replies to it, in a channel that everyone may read.
def answeredTwice : Board where
  chat :=
    { db :=
        { users := (∅ : Table User).insert "ann" { isMember := true }
          channels := (∅ : Table Channel).insert "general" { name := "general", createdBy := "ann" }
          roles := (∅ : Table Role).insert BUILTIN_EVERYONE_ROLE_ID { name := "everyone" }
          rolePermissions := {(BUILTIN_EVERYONE_ROLE_ID, MESSAGES_READ)} }
      messages :=
        (((∅ : Table MessageRow).insert "m1"
            { channelId := "general", sender := "ann", content := "who is in?", createdAt := 1 }).insert "m2"
            { channelId := "general", sender := "bob", content := "me", createdAt := 2, replyTo := some "m1" }).insert
          "m3" { channelId := "general", sender := "eve", content := "me too", createdAt := 3, replyTo := some "m1" } }

theorem views_disagree : ¬ ∀ s viewer channelId params hits, Agree s viewer channelId params hits := by
  intro always
  have once := (always answeredTwice "ann" "general" {} []).once ⟨by decide, by decide⟩
  have rows : (selectRows answeredTwice.chat "general" {} []).map (fun row => (row.1, row.2.replyTo)) =
      [("m3", some "m1"), ("m2", some "m1"), ("m1", none)] := by decide
  have twice : ((selectRows answeredTwice.chat "general" {} []).map fun row => (row.1, row.2.replyTo)).Pairwise
      fun a b => ∀ parent ∈ answeredTwice.chat.messages, ¬ (a.2 = some parent ∧ b.2 = some parent) :=
    List.pairwise_map.mpr once
  rw [rows] at twice
  exact (List.pairwise_cons.mp twice).1 ("m2", some "m1") List.mem_cons_self "m1" (by decide) ⟨rfl, rfl⟩

end Board

end Wavvon.Chat
