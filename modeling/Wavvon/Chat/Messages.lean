import Mathlib.Data.List.Sort
import Wavvon.Roles.Handlers
import Wavvon.Socket.Connection

set_option autoImplicit false

namespace Wavvon.Chat

open Std (ExtTreeMap)

def MESSAGES_SEND : String := "messages.send"
def APPS_REGISTER : String := "apps.register"

-- The optional JSON columns are their texts.
structure MessageRow where
  channelId : String
  sender : String
  content : String
  createdAt : Int
  editedAt : Option Int := none
  replyTo : Option String := none
  visibleToPubkey : Option String := none
  replyCount : Int := 0
  embeds : Option String := none
  game : Option String := none
  components : Option String := none
  masquerade : Option String := none
  deriving DecidableEq, Repr

structure ReplyContext where
  messageId : String
  sender : String
  senderName : Option String
  contentPreview : String
  deriving DecidableEq, Repr

structure MessageResponse where
  id : String
  channelId : String
  sender : String
  senderName : Option String
  content : String
  createdAt : Int
  editedAt : Option Int
  replyTo : Option ReplyContext
  visibleToPubkey : Option String
  replyCount : Int
  embeds : Option String
  game : Option String
  components : Option String
  masquerade : Option String
  deriving DecidableEq, Repr

structure Share where
  allianceId : String
  channelId : String
  includeDescendants : Bool
  deriving DecidableEq, Repr

/-- A hub's messages, with the sockets that are open on it. -/
structure State where
  db : Db := {}
  messages : Table MessageRow := ∅
  appWebhooks : Table (Option String) := ∅
  peers : Finset String := ∅
  allianceMembers : Finset (String × String) := ∅
  shares : List Share := []
  sockets : List Socket.Conn := []

/-- What a handler leaves: the state, what it broadcasts, and what it answers its caller. -/
structure Outcome where
  state : State
  broadcasts : List (ChatEvent × MessageResponse) := []
  answer : Except HttpError (List MessageResponse) := .ok []

def refuse (s : State) (e : HttpError) : Outcome := { state := s, answer := .error e }

def parseJson (text : Option String) : Option String := text.filter (· ≠ "")

def PREVIEW_CHARS : Nat := 140

def loadReplyContext (s : State) (parentId : String) : Option ReplyContext :=
  s.messages[parentId]?.map fun row =>
    { messageId := parentId, sender := row.sender, senderName := s.db.displayName row.sender
      contentPreview := String.ofList (row.content.toList.take PREVIEW_CHARS) }

-- Most readers leave the visibility out; an app's own messages are announced with it.
def response (s : State) (id : String) (row : MessageRow) (replyTo : Option ReplyContext)
    (visibleToPubkey : Option String) : MessageResponse :=
  { id := id, channelId := row.channelId, sender := row.sender, senderName := s.db.displayName row.sender
    content := row.content, createdAt := row.createdAt, editedAt := row.editedAt, replyTo := replyTo
    visibleToPubkey := visibleToPubkey, replyCount := row.replyCount, embeds := parseJson row.embeds
    game := parseJson row.game, components := parseJson row.components, masquerade := parseJson row.masquerade }

structure PaginationParams where
  cursor : Option String := none
  limit : Option Int := none
  q : Option String := none
  threadRoot : Option String := none
  deriving DecidableEq, Repr

-- The keyset: by time, then by id.
def before (a b : String × MessageRow) : Bool :=
  decide (a.2.createdAt < b.2.createdAt) || (decide (a.2.createdAt = b.2.createdAt) && decide (a.1 < b.1))

-- A cursor that names no message compares with nothing.
def pastCursor (s : State) (cursor : Option String) (past : String × MessageRow → String × MessageRow → Bool)
    (row : String × MessageRow) : Bool :=
  match cursor with
  | none => true
  | some id => s.messages[id]?.any fun mark => past row (id, mark)

def newestFirst (rows : List (String × MessageRow)) : List (String × MessageRow) :=
  rows.insertionSort fun a b => !before a b

def oldestFirst (rows : List (String × MessageRow)) : List (String × MessageRow) :=
  rows.insertionSort fun a b => !before b a

def threadRows (s : State) (channelId rootId : String) (cursor : Option String) (limit : Int) :
    List (String × MessageRow) :=
  (oldestFirst (s.messages.toList.filter fun row =>
    row.2.channelId = channelId && row.2.replyTo = some rootId &&
      pastCursor s cursor (fun a b => before b a) row)).take limit.toNat

def hitRows (s : State) (hits : List String) : List (String × MessageRow) :=
  newestFirst (s.messages.toList.filter fun row => row.1 ∈ hits)

def historyRows (s : State) (channelId : String) (cursor : Option String) (limit : Int) :
    List (String × MessageRow) :=
  (newestFirst (s.messages.toList.filter fun row =>
    row.2.channelId = channelId && pastCursor s cursor before row)).take limit.toNat

def searchText (params : PaginationParams) : Option String :=
  params.q.filter fun text => text.toList.any fun c => !isWhitespace c

def pageLimit (params : PaginationParams) : Int := min (params.limit.getD 50) 100

-- `hits` is what the search index answers for the query text.
def selectRows (s : State) (channelId : String) (params : PaginationParams) (hits : List String) :
    List (String × MessageRow) :=
  match params.threadRoot, searchText params with
  | some rootId, _ => threadRows s channelId rootId params.cursor (pageLimit params)
  | none, some _ => hitRows s hits
  | none, none => historyRows s channelId params.cursor (pageLimit params)

-- A parent's preview goes to the first of its replies on the page.
def attachContexts (s : State) : List String → List (String × MessageRow) → List MessageResponse
  | _, [] => []
  | given, (id, row) :: rest =>
    match row.replyTo with
    | none => response s id row none none :: attachContexts s given rest
    | some parentId =>
      let context := if parentId ∈ given then none else loadReplyContext s parentId
      response s id row context none :: attachContexts s (parentId :: given) rest

theorem attachContexts_shown (s : State) (given : List String) (rows : List (String × MessageRow)) :
    (attachContexts s given rows).map (fun message => (message.id, message.content)) =
      rows.map fun row => (row.1, row.2.content) := by
  induction rows generalizing given with
  | nil => rfl
  | cons first rest ih =>
    unfold attachContexts
    cases first.2.replyTo with
    | none => exact congrArg (_ :: ·) (ih given)
    | some parentId => exact congrArg (_ :: ·) (ih (parentId :: given))

def limitError : HttpError := (500, "DB error: error returned from database: LIMIT must not be negative")

-- Only the search mode takes no LIMIT.
def limitOk (params : PaginationParams) : Bool :=
  (params.threadRoot.isNone && (searchText params).isSome) || decide (0 ≤ pageLimit params)

def getMessages (s : State) (reader channelId : String) (params : PaginationParams) (hits : List String) : Outcome :=
  match (channelPermissions s.db reader channelId).require MESSAGES_READ with
  | .error e => refuse s e
  | .ok _ =>
    if !limitOk params then refuse s limitError
    else { state := s, answer := .ok (attachContexts s [] (selectRows s channelId params hits)) }

def everyoneChannelPermissions (db : Db) (channelId : String) : UserPermissions :=
  let chain := ancestorChain db channelId
  let rows := fetchOverwrites db chain [BUILTIN_EVERYONE_ROLE_ID]
  { roles := [], maxPriority := 0, isOwner := false
    effective := foldOverwrites (fetchPermissions db [BUILTIN_EVERYONE_ROLE_ID]) chain rows }

def sharedChannelPermissions (s : State) (caller channelId : String) : UserPermissions :=
  if caller ∈ s.peers then everyoneChannelPermissions s.db channelId
  else channelPermissions s.db caller channelId

def shareDepth : Nat := 32

-- Shared by name, or below a category shared with its descendants.
def effectiveSharedChannel (s : State) (allianceId channelId : String) : Option Channel :=
  (s.db.channels[channelId]?).filter fun _ => s.shares.any fun share =>
    share.allianceId = allianceId && (share.channelId = channelId ||
      (share.includeDescendants && decide (share.channelId ∈ climb s.db.parentOf shareDepth channelId)))

def requireAllianceVisibility (s : State) (caller allianceId : String) : Except HttpError Unit :=
  if caller ∈ s.peers ∧ (allianceId, caller) ∉ s.allianceMembers then .error (404, "Alliance not found")
  else .ok ()

def holdsMessages (channel : Channel) : Bool :=
  !channel.isCategory && decide (channel.channelType = .text ∨ channel.channelType = .voice ∨
    channel.channelType = .forum)

def alliancePage (s : State) (channelId : String) (cursor : Option String) (limit : Option Int) :
    List (String × MessageRow) :=
  historyRows s channelId cursor (max 1 (min (limit.getD 50) 100))

-- Of a channel another hub of the alliance owns nothing is read here.
def getAllianceChannelMessages (s : State) (reader allianceId channelId : String) (cursor : Option String)
    (limit : Option Int) : Outcome :=
  match requireAllianceVisibility s reader allianceId with
  | .error e => refuse s e
  | .ok _ =>
    match effectiveSharedChannel s allianceId channelId with
    | none => refuse s (404, "Alliance channel not found")
    | some channel =>
      if !holdsMessages channel then { state := s }
      else
        match (sharedChannelPermissions s reader channelId).require MESSAGES_READ with
        | .error e => refuse s e
        | .ok _ =>
          { state := s
            answer := .ok ((alliancePage s channelId cursor limit).map fun row =>
              { response s row.1 row.2 none none with components := none, replyCount := 0 }) }

end Wavvon.Chat
