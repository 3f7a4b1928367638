import Mathlib.Algebra.Group.Int.Defs
import Mathlib.Algebra.Group.Nat.Defs
import Mathlib.Algebra.GroupWithZero.Nat
import Mathlib.Data.Finset.Basic

set_option autoImplicit false

namespace Wavvon

open Std (ExtTreeMap)

abbrev Table (V : Type) := ExtTreeMap String V

inductive ChannelType where
  | text
  | voice
  | forum
  | banner
  | spawner
  deriving DecidableEq, Repr

structure Channel where
  name : String
  createdBy : String
  parentId : Option String := none
  isCategory : Bool := false
  displayOrder : Int := 0
  createdAt : Int := 0
  minTalkPower : Int := 0
  channelType : ChannelType := .text
  isTemporary : Bool := false
  ownerPubkey : Option String := none
  spawnerNameTemplate : Option String := none
  emptySince : Option Int := none
  eventId : Option String := none
  deriving DecidableEq, Repr

structure User where
  displayName : Option String := none
  firstSeenAt : Int := 0
  lastSeenAt : Int := 0
  approvalStatus : String := "approved"
  masterPubkey : Option String := none
  powLevel : Int := 0
  presenceStatus : Option String := none
  isMember : Bool := false
  deriving DecidableEq, Repr

structure Role where
  name : String
  priority : Int := 0
  createdAt : Int := 0
  talkPower : Int := 0
  displaySeparately : Bool := false
  color : Option String := none
  icon : Option String := none
  categoryId : Option String := none
  deriving DecidableEq, Repr

structure OverwriteRow where
  channelId : String
  roleId : String
  permission : String
  allow : Bool
  deriving DecidableEq, Repr

structure HubEvent where
  channelId : String := ""
  endsAt : Option Int := none
  deriving DecidableEq, Repr

structure MoveAssignment where
  eventId : String
  userPubkey : String
  targetChannelId : String
  assignedBy : String
  createdAt : Int
  deriving DecidableEq, Repr

structure VoiceVisitor where
  originHubPubkey : String
  displayName : Option String
  channelId : String := ""
  token : String := ""
  expiresAt : Int := 0
  deriving DecidableEq, Repr

-- Tables with a primary key are maps on it; pure relations are sets of their columns.
structure Db where
  users : Table User := ∅
  channels : Table Channel := ∅
  roles : Table Role := ∅
  roleCategories : Finset String := ∅
  userRoles : Finset (String × String) := ∅
  rolePermissions : Finset (String × String) := ∅
  overwrites : List OverwriteRow := []
  channelBans : Finset (String × String) := ∅
  voiceMutes : Finset String := ∅
  channelVoiceMutes : Finset (String × String) := ∅
  channelSettings : Table Int := ∅
  hubSettings : Table String := ∅
  hubEvents : Table HubEvent := ∅
  eventRsvps : List (String × String × String) := []
  eventMoveAssignments : List MoveAssignment := []
  voiceVisitors : Table VoiceVisitor := ∅
  allianceHubNames : List (String × String) := []

def foreignKeyViolation (table constraint : String) : String :=
  "error returned from database: insert or update on table \"" ++ table ++
    "\" violates foreign key constraint \"" ++ constraint ++ "\""

def duplicateKey (constraint : String) : String :=
  "error returned from database: duplicate key value violates unique constraint \"" ++ constraint ++ "\""

-- `char::is_whitespace`.
def isWhitespace (c : Char) : Bool :=
  let n := c.toNat
  decide ((9 ≤ n ∧ n ≤ 13) ∨ n = 0x20 ∨ n = 0x85 ∨ n = 0xA0 ∨ n = 0x1680 ∨
    (0x2000 ≤ n ∧ n ≤ 0x200A) ∨ n = 0x2028 ∨ n = 0x2029 ∨ n = 0x202F ∨ n = 0x205F ∨ n = 0x3000)

def trim (text : String) : String :=
  String.ofList (((text.toList.dropWhile isWhitespace).reverse.dropWhile isWhitespace).reverse)

def parseDigits (digits : List Char) : Option Nat :=
  if digits.isEmpty then none
  else digits.foldlM (fun value digit =>
    if digit.isDigit then some (value * 10 + (digit.toNat - '0'.toNat)) else none) 0

-- `str::parse::<i64>`: one optional sign, decimal digits, and the range of the type.
def parseI64 (text : String) : Option Int :=
  match text.toList with
  | '-' :: digits => (parseDigits digits).bind fun n => if n ≤ 2 ^ 63 then some (-(n : Int)) else none
  | '+' :: digits => (parseDigits digits).bind fun n => if n < 2 ^ 63 then some (n : Int) else none
  | digits => (parseDigits digits).bind fun n => if n < 2 ^ 63 then some (n : Int) else none

-- `parse` for an unsigned type: one optional plus sign, decimal digits, below the type's bound.
def parseUnsigned (bound : Nat) (text : String) : Option Nat :=
  let digits := match text.toList with
    | '+' :: rest => rest
    | plain => plain
  (parseDigits digits).filter (· < bound)

namespace Db

def channelType (db : Db) (channelId : String) : Option ChannelType :=
  db.channels[channelId]?.map (·.channelType)

def parentOf (db : Db) (channelId : String) : Option String :=
  db.channels[channelId]?.bind (·.parentId)

def readSetting (db : Db) (key : String) : Option String :=
  db.hubSettings[key]?

def isVoiceMuted (db : Db) (publicKey : String) : Bool :=
  decide (publicKey ∈ db.voiceMutes)

def isChannelVoiceMuted (db : Db) (channelId publicKey : String) : Bool :=
  decide ((channelId, publicKey) ∈ db.channelVoiceMutes)

def isInvisible (db : Db) (publicKey : String) : Bool :=
  (db.users[publicKey]?.bind (·.presenceStatus)) == some "invisible"

def displayName (db : Db) (publicKey : String) : Option String :=
  db.users[publicKey]?.bind (·.displayName)

-- The first row a lookup on the single channel id can return; no row means no event.
def squadRoomEventEnded (db : Db) (channelId : String) (now : Int) : Bool :=
  match (db.channels[channelId]?.bind (·.eventId)).bind (fun eventId => db.hubEvents[eventId]?) with
  | none => false
  | some event => event.endsAt.any (· ≤ now)

-- A member is named by its own row; an alliance visitor only with the hub that vouched for it.
def voiceIdentity (db : Db) (publicKey : String) : Option String × Option String :=
  match db.users[publicKey]? with
  | some user => (user.displayName, none)
  | none =>
    match db.voiceVisitors[publicKey]? with
    | none => (none, none)
    | some visitor =>
      (visitor.displayName,
        (db.allianceHubNames.find? (·.1 == visitor.originHubPubkey)).map (·.2))

def isGoing (db : Db) (eventId publicKey : String) : Bool :=
  db.eventRsvps.any (· == (eventId, publicKey, "going"))

def updateChannel (db : Db) (channelId : String) (f : Channel → Channel) : Db :=
  { db with channels := db.channels.modify channelId f }

-- `UPDATE channels SET empty_since = $1 WHERE id = $2 AND is_temporary = TRUE`.
def setEmptySince (db : Db) (channelId : String) (stamp : Option Int) : Db :=
  db.updateChannel channelId fun row =>
    if row.isTemporary then { row with emptySince := stamp } else row

theorem channels_updateChannel (db : Db) (channelId other : String) (f : Channel → Channel) :
    (db.updateChannel channelId f).channels[other]? =
      if other = channelId then db.channels[other]?.map f else db.channels[other]? := by
  simp only [updateChannel, ExtTreeMap.getElem?_modify, Std.compare_eq_iff_eq]
  by_cases same : channelId = other
  · simp [same]
  · simp [same, Ne.symm same]

-- The `WHERE` clause makes the stamp a no-op for an ordinary channel.
theorem setEmptySince_ordinary (db : Db) (channelId : String) (stamp : Option Int) (row : Channel)
    (found : db.channels[channelId]? = some row) (ordinary : row.isTemporary = false) :
    db.setEmptySince channelId stamp = db := by
  have same : (db.setEmptySince channelId stamp).channels = db.channels := by
    apply ExtTreeMap.ext_getElem?
    intro other
    rw [setEmptySince, channels_updateChannel]
    by_cases here : other = channelId
    · simp [here, found, ordinary]
    · simp [here]
  calc db.setEmptySince channelId stamp
      = { db with channels := (db.setEmptySince channelId stamp).channels } := rfl
    _ = db := by rw [same]

-- What the voice code and its collector ask of a channel row.
structure Room where
  channelType : ChannelType
  isTemporary : Bool
  emptySince : Option Int
  deriving DecidableEq, Repr

def room (db : Db) (channelId : String) : Option Room :=
  db.channels[channelId]?.map fun row =>
    { channelType := row.channelType, isTemporary := row.isTemporary, emptySince := row.emptySince }

def Room.stamped (stamp : Option Int) (room : Room) : Room :=
  if room.isTemporary then { room with emptySince := stamp } else room

@[simp] theorem Room.stamped_isTemporary (stamp : Option Int) (room : Room) :
    (room.stamped stamp).isTemporary = room.isTemporary := by
  unfold Room.stamped
  split <;> rfl

theorem Room.stamped_emptySince (stamp : Option Int) (room : Room) (temporary : room.isTemporary) :
    (room.stamped stamp).emptySince = stamp := by
  simp [Room.stamped, temporary]

theorem room_setEmptySince (db : Db) (channelId other : String) (stamp : Option Int) :
    (db.setEmptySince channelId stamp).room other =
      if other = channelId then (db.room other).map (Room.stamped stamp) else db.room other := by
  simp only [room, setEmptySince, channels_updateChannel]
  split
  next =>
    cases db.channels[other]? with
    | none => rfl
    | some row => cases temporary : row.isTemporary <;> simp [Room.stamped, temporary]
  next => rfl

theorem room_channelType (db : Db) (channelId : String) (info : Room)
    (found : db.room channelId = some info) : db.channelType channelId = some info.channelType := by
  obtain ⟨row, listed, rfl⟩ := Option.map_eq_some_iff.mp found
  simp [channelType, listed]

theorem room_isSome (db : Db) (channelId : String) (kind : ChannelType)
    (typed : db.channelType channelId = some kind) : (db.room channelId).isSome := by
  unfold channelType at typed
  unfold room
  cases found : db.channels[channelId]? with
  | none => simp [found] at typed
  | some row => simp

end Db

end Wavvon
