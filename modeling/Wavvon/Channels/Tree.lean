import Wavvon.Shared.Parents
import Wavvon.Shared.Runs
import Wavvon.Voice.Join

set_option autoImplicit false

namespace Wavvon.Channels

open Std (ExtTreeMap)

def CHANNELS_MANAGE : String := "channels.manage"
def CHANNELS_APPEARANCE : String := "channels.appearance"
def FORUM_POSTS_MANAGE : String := "forum.posts.manage"

abbrev Refusal := Nat × String

structure CreateChannelRequest where
  name : String
  parentId : Option String := none
  isCategory : Bool := false
  description : Option String := none
  channelType : Option String := none
  bannerUrl : Option String := none
  bannerFileId : Option String := none
  spawnerNameTemplate : Option String := none
  nsfw : Bool := false
  deriving DecidableEq, Repr

-- `none` leaves a column alone; `some none` of a nullable one clears it.
structure UpdateChannelRequest where
  name : Option String := none
  description : Option String := none
  parentId : Option (Option String) := none
  icon : Option (Option String) := none
  color : Option (Option String) := none
  customIconSvg : Option (Option String) := none
  minTalkPower : Option Int := none
  retentionDays : Option (Option Int) := none
  bannerUrl : Option String := none
  bannerFileId : Option String := none
  forumRequireTag : Option Bool := none
  nsfw : Option Bool := none
  channelType : Option String := none
  deriving DecidableEq, Repr

-- A handler's checks in their order; the first that objects answers the request.
def firstRefusal (checks : List (Option Refusal)) : Option Refusal :=
  checks.findSome? id

def require (perms : UserPermissions) (permission : String) : Option Refusal :=
  if perms.has permission then none else some (403, "Missing permission: " ++ permission)

def refuseIf (broken : Bool) (text : String) : Option Refusal :=
  if broken then some (400, text) else none

def readMaxDepth (db : Db) : Nat :=
  ((db.readSetting "max_channel_depth").bind (parseUnsigned (2 ^ 32))).getD 0

def SAFETY_LIMIT : Nat := 50

-- The loop of `node_depth`; the fuel is what is left below the safety limit.
def depthLoop (db : Db) : Nat → Nat → String → Except Refusal Nat
  | 0, _, _ => .error (400, "Channel nesting depth exceeds safety limit")
  | fuel + 1, depth, current =>
    match db.parentOf current with
    | none => .ok depth
    | some p =>
      if SAFETY_LIMIT < depth + 1 then .error (400, "Channel nesting depth exceeds safety limit")
      else depthLoop db fuel (depth + 1) p

def nodeDepth (db : Db) : Option String → Except Refusal Nat
  | none => .ok 0
  | some parentId => depthLoop db SAFETY_LIMIT 1 parentId

def ancestorLoop (db : Db) (candidate : String) : Nat → String → Bool
  | 0, _ => false
  | hops + 1, current =>
    match db.parentOf current with
    | none => false
    | some p => if p = candidate then true else ancestorLoop db candidate hops p

def isAncestor (db : Db) (candidate start : String) : Bool :=
  ancestorLoop db candidate 50 start

def parentRefusal (db : Db) (parentId : String) : Option Refusal :=
  match db.channels[parentId]?.map (·.isCategory) with
  | none => some (404, "Parent channel not found")
  | some false => some (400, "Parent must be a category")
  | some true => none

def depthRefusal (maxDepth : Nat) (isCategory : Bool) (depth : Nat) : Option Refusal :=
  if maxDepth - 1 < depth then some (400, "depth_exceeded")
  else if isCategory && decide (maxDepth - 1 ≤ depth) then some (400, "category_at_max_depth")
  else none

def createDepthRefusal (db : Db) (parentId : Option String) (isCategory : Bool) : Option Refusal :=
  if 0 < readMaxDepth db then
    match nodeDepth db parentId with
    | .error refusal => some refusal
    | .ok newDepth => depthRefusal (readMaxDepth db) isCategory newDepth
  else none

-- The depth a move is checked at is one more than `node_depth` of the new parent, which already
-- is the depth of a child.
def moveDepthRefusal (db : Db) (channelId parentId : String) : Option Refusal :=
  if 0 < readMaxDepth db then
    match nodeDepth db (some parentId) with
    | .error refusal => some refusal
    | .ok parentDepth =>
      depthRefusal (readMaxDepth db) (db.channels[channelId]?.any (·.isCategory)) (parentDepth + 1)
  else none

def moveRefusal (db : Db) (channelId parentId : String) : Option Refusal :=
  firstRefusal
    [refuseIf (parentId = channelId) "A channel can't be its own parent",
      parentRefusal db parentId,
      refuseIf (isAncestor db channelId parentId) "Cannot move a channel into its own descendant",
      moveDepthRefusal db channelId parentId]

def parseChannelType (isCategory : Bool) (channelType : Option String) : Except Refusal ChannelType :=
  if isCategory then .ok .text
  else
    match channelType with
    | none => .ok .text
    | some text =>
      if text = "text" then .ok .text
      else if text = "voice" then .ok .voice
      else if text = "forum" then .ok .forum
      else if text = "banner" then .ok .banner
      else if text = "spawner" then .ok .spawner
      else .error (400, "unknown channel_type: " ++ text)

def isHttps (url : String) : Bool :=
  "https://".toList.isPrefixOf url.toList

def bannerRefusal (req : CreateChannelRequest) (channelType : ChannelType) : Option Refusal :=
  if channelType = .banner then
    firstRefusal
      [refuseIf (req.bannerUrl.isSome && req.bannerFileId.isSome)
        "banner_url and banner_file_id are mutually exclusive",
        refuseIf (req.bannerUrl.any (!isHttps ·)) "banner_url must be an https:// URL"]
  else refuseIf (req.bannerUrl.isSome || req.bannerFileId.isSome)
    "banner_url and banner_file_id are only valid for banner channels"

def createRefusal (db : Db) (user : String) (req : CreateChannelRequest) : Option Refusal :=
  let perms := match req.parentId with
    | some parentId => channelPermissions db user parentId
    | none => userPermissions db user
  firstRefusal
    [require perms CHANNELS_MANAGE,
      req.parentId.bind (parentRefusal db),
      createDepthRefusal db req.parentId req.isCategory,
      match parseChannelType req.isCategory req.channelType with
      | .error refusal => some refusal
      | .ok channelType =>
        firstRefusal
          [refuseIf (req.spawnerNameTemplate.isSome && channelType ≠ .spawner)
            "spawner_name_template is only valid for spawner channels",
            bannerRefusal req channelType]]

def nextOrder (db : Db) : Int :=
  (db.channels.toList.map (·.2.displayOrder)).max?.getD (-1) + 1

def createChannel (db : Db) (user : String) (req : CreateChannelRequest) (id : String) (now : Int) :
    Db × Except Refusal String :=
  match createRefusal db user req with
  | some refusal => (db, .error refusal)
  | none =>
    let row : Channel :=
      { name := req.name, createdBy := user, parentId := req.parentId, isCategory := req.isCategory
        displayOrder := nextOrder db, createdAt := now
        channelType := (parseChannelType req.isCategory req.channelType).toOption.getD .text
        spawnerNameTemplate := req.spawnerNameTemplate }
    match insertChannel db id row with
    | .ok inserted => (inserted, .ok id)
    | .error .uniqueViolation => (db, .error (409, "Channel '" ++ req.name ++ "' already exists"))
    | .error (.other text) => (db, .error (500, "DB error: " ++ text))

-- Text and voice both carry a chat, so a channel may switch between them.
def switchable : ChannelType → Bool
  | .text | .voice => true
  | .forum | .banner | .spawner => false

def updateRefusal (db : Db) (user channelId : String) (req : UpdateChannelRequest)
    (images : Finset (String × String)) : Option Refusal :=
  let perms := channelPermissions db user channelId
  match db.channels[channelId]? with
  | none => some (404, "Channel not found")
  | some existing =>
    let changingStructure := req.name.isSome || req.description.isSome || req.parentId.isSome ||
      req.bannerUrl.isSome || req.bannerFileId.isSome || req.nsfw.isSome
    let changingAppearance := req.icon.isSome || req.color.isSome || req.customIconSvg.isSome
    let ownerRenameOnly := existing.isTemporary && existing.ownerPubkey == some user &&
      req.name.isSome && req.description.isNone && req.parentId.isNone && req.bannerUrl.isNone &&
      req.bannerFileId.isNone && req.nsfw.isNone
    firstRefusal
      [req.channelType.bind fun wanted =>
          firstRefusal
            [refuseIf (!(wanted == "text" || wanted == "voice") || !switchable existing.channelType)
              "channel_type can only switch between text and voice",
              require perms CHANNELS_MANAGE],
        if changingStructure && !ownerRenameOnly then require perms CHANNELS_MANAGE else none,
        if changingAppearance then require perms CHANNELS_APPEARANCE else none,
        if req.minTalkPower.isSome || req.retentionDays.isSome then require perms CHANNELS_MANAGE
        else none,
        if req.forumRequireTag.isSome then
          firstRefusal
            [refuseIf (existing.channelType ≠ .forum) "forum_require_tag is only valid for forum channels",
              require perms FORUM_POSTS_MANAGE]
        else none,
        req.parentId.join.bind (moveRefusal db channelId),
        if req.bannerUrl.isSome || req.bannerFileId.isSome then
          firstRefusal
            [refuseIf (existing.channelType ≠ .banner)
              "banner_url and banner_file_id are only valid for banner channels",
              refuseIf (req.bannerUrl.any (!isHttps ·)) "banner_url must be an https:// URL",
              refuseIf (req.bannerFileId.any fun file => decide ((file, channelId) ∉ images))
                "banner_file_id must reference an image uploaded to this channel",
              refuseIf (req.bannerUrl.isSome && req.bannerFileId.isSome)
                "banner_url and banner_file_id are mutually exclusive"]
        else none]

-- The columns of the row other code reads; the rest of the request is only stored.
def UpdateChannelRequest.apply (req : UpdateChannelRequest) (row : Channel) : Channel :=
  { row with
    parentId := req.parentId.getD row.parentId
    minTalkPower := req.minTalkPower.getD row.minTalkPower
    channelType := match req.channelType with
      | none => row.channelType
      | some wanted => if wanted = "voice" then .voice else .text }

def renameChannel (db : Db) (channelId : String) : Option String → Db × Except Refusal Unit
  | none => (db, .ok ())
  | some name =>
    let trimmed := trim name
    if trimmed = "" then (db, .error (400, "Channel name cannot be empty"))
    else if db.channels.toList.any fun entry => entry.1 ≠ channelId ∧ entry.2.name = trimmed then
      (db, .error (409, "A channel with that name already exists"))
    else (db.updateChannel channelId fun row => { row with name := trimmed }, .ok ())

-- The rename comes after the update is committed, so a bad name leaves a moved channel moved.
def updateChannel (db : Db) (user channelId : String) (req : UpdateChannelRequest)
    (images : Finset (String × String)) : Db × Except Refusal Unit :=
  match updateRefusal db user channelId req images with
  | some refusal => (db, .error refusal)
  | none => renameChannel (db.updateChannel channelId req.apply) channelId req.name

def childrenOf (db : Db) (frontier : List String) : List String :=
  (db.channels.toList.filter fun entry => entry.2.parentId.any (· ∈ frontier)).map Prod.fst

-- `seen.insert` is false for what the walk has come by already.
def subtreeLoop (db : Db) : Nat → List String → List String → List String
  | 0, seen, _ => seen
  | fuel + 1, seen, frontier =>
    if frontier.isEmpty then seen
    else
      let fresh := (childrenOf db frontier).filter (· ∉ seen)
      subtreeLoop db fuel (seen ++ fresh) fresh

-- Every round but the last comes by a channel it has not seen.
def channelSubtreeIds (db : Db) (root : String) : List String :=
  subtreeLoop db (db.channels.size + 2) [root] [root]

-- One transaction: it fails as a whole while a channel that stays names a deleted one as its parent.
def deleteChannels (db : Db) (ids : List String) : Option Db :=
  let gone := (db.hubEvents.toList.filter fun entry => entry.2.channelId ∈ ids).map Prod.fst
  let channels := db.channels.filter fun id _ => id ∉ ids
  if channels.toList.any fun entry => entry.2.parentId.any (· ∈ ids) then none
  else some { db with
    channels := channels
    hubEvents := db.hubEvents.filter fun _ event => event.channelId ∉ ids
    eventRsvps := db.eventRsvps.filter fun row => row.1 ∉ gone
    eventMoveAssignments := db.eventMoveAssignments.filter fun row =>
      row.eventId ∉ gone ∧ row.targetChannelId ∉ ids
    channelBans := db.channelBans.filter fun ban => ban.1 ∉ ids
    channelSettings := db.channelSettings.filter fun id _ => id ∉ ids
    overwrites := db.overwrites.filter fun row => row.channelId ∉ ids }

def deleteChannel (db : Db) (user channelId : String) : Db × Except Refusal Unit :=
  match require (channelPermissions db user channelId) CHANNELS_MANAGE with
  | some refusal => (db, .error refusal)
  | none =>
    if channelId ∈ db.channels then
      match deleteChannels db (channelSubtreeIds db channelId) with
      | some deleted => (deleted, .ok ())
      | none =>
        (db, .error (500, "DB error: " ++ foreignKeyViolation "channels" "channels_parent_id_fkey"))
    else (db, .error (404, "Channel not found"))

/--
What changes the channels table: the three handlers and the spawning of a temporary room. Other
parts of the hub rewrite the other tables, settings and roles among them.
-/
inductive ChannelCall where
  | create (user : String) (req : CreateChannelRequest) (id : String) (now : Int)
  | update (user channelId : String) (req : UpdateChannelRequest) (images : Finset (String × String))
  | delete (user channelId : String)
  | spawn (spawnerId joinerPubkey : String) (displayName : Option String) (env : JoinEnv)
  | others (db : Db)

def serve (db : Db) : ChannelCall → Db
  | .create user req id now => (createChannel db user req id now).1
  | .update user channelId req images => (updateChannel db user channelId req images).1
  | .delete user channelId => (deleteChannel db user channelId).1
  | .spawn spawnerId joinerPubkey displayName env =>
    (spawnTempChannel db spawnerId joinerPubkey displayName env).1
  | .others other => { other with channels := db.channels }

end Wavvon.Channels
