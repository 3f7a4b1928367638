import Wavvon.Channels.Tree
import Wavvon.Forum.Messages

set_option autoImplicit false

namespace Wavvon.Events

open Chat (MESSAGES_SEND MessageRow)

def EVENTS_CREATE : String := "events.create"
def EVENTS_MANAGE : String := "events.manage"

structure PollOption where
  id : String
  text : String
  deriving DecidableEq, Repr

structure CreatePollRequest where
  question : String
  options : List PollOption
  endsAt : Option Int64 := none
  maxChoices : Option Int64 := none
  deriving DecidableEq

structure PollRow where
  channelId : String
  creatorPubkey : String
  question : String
  options : List PollOption
  endsAt : Option Int64
  maxChoices : Int64
  createdAt : Int
  deriving DecidableEq

structure CreateSlotRequest where
  name : String
  capacity : Option Int64 := none
  deriving DecidableEq

structure CreateEventRequest where
  channelId : String
  title : String
  description : Option String := none
  startsAt : Int64
  endsAt : Option Int64 := none
  location : Option String := none
  reminderMinutes : Option Int64 := none
  slots : List CreateSlotRequest := []
  hubWide : Bool := false
  propagateToChildren : Bool := false
  deriving DecidableEq

-- `none` leaves a column alone; `some none` clears it.
structure UpdateEventRequest where
  title : Option String := none
  description : Option String := none
  startsAt : Option Int64 := none
  endsAt : Option Int64 := none
  location : Option String := none
  reminderMinutes : Option (Option Int64) := none
  hubWide : Option Bool := none
  deriving DecidableEq

structure EventRow where
  channelId : String
  creatorPubkey : String
  title : String
  description : String := ""
  startsAt : Int64
  endsAt : Option Int64 := none
  location : Option String := none
  createdAt : Int
  reminderMinutes : Option Int64 := none
  reminderSentAt : Option Int := none
  hubWide : Bool := false
  propagateToChildren : Bool := false
  movesAppliedAt : Option Int := none
  deriving DecidableEq

structure SlotRow where
  eventId : String
  name : String
  capacity : Option Int64
  position : Int
  createdAt : Int
  deriving DecidableEq

/-- A hub with its calendar. -/
structure State where
  forum : Forum.State := {}
  events : Table EventRow := ∅
  slots : Table SlotRow := ∅
  polls : Table PollRow := ∅

-- What a card gets when it is posted: a fresh id, and the time in milliseconds.
structure Card where
  id : String
  now : Int
  deriving DecidableEq, Repr

def checkInsertPoll (s : State) (id channelId : String) : Except HttpError Unit :=
  if id ∈ s.polls then .error (500, "DB error: " ++ duplicateKey "polls_pkey")
  else if channelId ∉ s.forum.chat.db.channels then
    .error (500, "DB error: " ++ foreignKeyViolation "polls" "polls_channel_id_fkey")
  else .ok ()

def checkInsertEvent (s : State) (id : String) (row : EventRow) : Except HttpError Unit :=
  if id ∈ s.events then .error (500, "DB error: " ++ duplicateKey "hub_events_pkey")
  else if row.channelId ∉ s.forum.chat.db.channels then
    .error (500, "DB error: " ++ foreignKeyViolation "hub_events" "hub_events_channel_id_fkey")
  else if row.creatorPubkey ∉ s.forum.chat.db.users then
    .error (500, "DB error: " ++ foreignKeyViolation "hub_events" "hub_events_creator_pubkey_fkey")
  else .ok ()

def checkInsertSlot (s : State) (id : String) (row : SlotRow) : Except HttpError Unit :=
  if id ∈ s.slots then .error (500, "DB error: " ++ duplicateKey "event_slots_pkey")
  else if row.eventId ∉ s.events then
    .error (500, "DB error: " ++ foreignKeyViolation "event_slots" "event_slots_event_id_fkey")
  else .ok ()

def cardRow (channelId sender content : String) (card : Card) : MessageRow :=
  { channelId := channelId, sender := sender, content := content, createdAt := card.now }

def withMessage (s : State) (id : String) (row : MessageRow) : State :=
  { s with forum := { s.forum with chat := { s.forum.chat with messages := s.forum.chat.messages.insert id row } } }

-- A card is a message of whoever made the poll or the event.
def postCardMessage (s : State) (channelId sender content : String) (card : Card) : State × Except HttpError Unit :=
  match Chat.checkInsert s.forum.chat card.id (cardRow channelId sender content card) with
  | .error e => (s, .error e)
  | .ok _ => (withMessage s card.id (cardRow channelId sender content card), .ok ())

-- One card after another; the first that fails ends it.
def postCards (sender content : String) : List (String × Card) → State → State × Except HttpError Unit
  | [], s => (s, .ok ())
  | (channelId, card) :: rest, s =>
    match postCardMessage s channelId sender content card with
    | (stopped, .error e) => (stopped, .error e)
    | (posted, .ok _) => postCards sender content rest posted

section

variable {s : State} {sender text : String}

theorem checkInsert_fresh {chat : Chat.State} {id : String} {row : Chat.MessageRow}
    (accepted : (Chat.checkInsert chat id row).isOk = true) : id ∉ chat.messages := by
  intro stored
  simp [Chat.checkInsert, stored, Except.isOk, Except.toBool] at accepted

theorem postCardMessage_refused {channelId : String} {card : Card}
    (refused : (Chat.checkInsert s.forum.chat card.id (cardRow channelId sender text card)).isOk = false) :
    ∃ e, postCardMessage s channelId sender text card = (s, .error e) := by
  unfold postCardMessage
  cases answered : Chat.checkInsert s.forum.chat card.id (cardRow channelId sender text card) with
  | error e => exact ⟨e, rfl⟩
  | ok value =>
    rw [answered] at refused
    cases refused

theorem postCardMessage_stored {channelId : String} {card : Card}
    (accepted : (Chat.checkInsert s.forum.chat card.id (cardRow channelId sender text card)).isOk = true) :
    postCardMessage s channelId sender text card =
      (withMessage s card.id (cardRow channelId sender text card), .ok ()) := by
  unfold postCardMessage
  cases answered : Chat.checkInsert s.forum.chat card.id (cardRow channelId sender text card) with
  | error e =>
    rw [answered] at accepted
    cases accepted
  | ok value => rfl

-- Cards are only added.
theorem postCards_keeps {id : String} {targets : List (String × Card)} (stored : id ∈ s.forum.chat.messages) :
    (postCards sender text targets s).1.forum.chat.messages[id]? = s.forum.chat.messages[id]? := by
  induction targets generalizing s with
  | nil => rfl
  | cons first rest ih =>
    unfold postCards
    cases accepted : (Chat.checkInsert s.forum.chat first.2.id (cardRow first.1 sender text first.2)).isOk with
    | false =>
      obtain ⟨e, left⟩ := postCardMessage_refused accepted
      rw [left]
    | true =>
      rw [postCardMessage_stored accepted]
      have other : first.2.id ≠ id := by
        rintro rfl
        exact checkInsert_fresh accepted stored
      dsimp only
      rw [ih (by simp [withMessage, stored])]
      simp [withMessage, Std.ExtTreeMap.getElem?_insert, other]

theorem withMessage_chat {id : String} {row : Chat.MessageRow}
    (accepted : (Chat.checkInsert s.forum.chat id row).isOk = true) :
    (withMessage s id row).forum.chat = Chat.insertMessage s.forum.chat id row := by
  unfold Chat.insertMessage
  cases answered : Chat.checkInsert s.forum.chat id row with
  | error e =>
    rw [answered] at accepted
    cases accepted
  | ok value => rfl

end

def propagationTargets (db : Db) (channelId : String) (propagate : Bool) : List String :=
  if propagate then Channels.channelSubtreeIds db channelId else [channelId]

def addressed (targets : List String) (cards : Nat → Card) : List (String × Card) :=
  targets.zipIdx.map fun target => (target.1, cards target.2)

-- Julian day arithmetic, from 1970 onward.
def civilFromUnix (secs : Nat) : Nat × Nat × Nat × Nat × Nat × Nat :=
  let days := secs / 86400
  let timeOfDay := secs % 86400
  let l := days + 2440588 + 68569
  let n := 4 * l / 146097
  let l := l - (146097 * n + 3) / 4
  let yearI := 4000 * (l + 1) / 1461001
  let l := l - 1461 * yearI / 4 + 31
  let monthI := 80 * l / 2447
  let day := l - 2447 * monthI / 80
  let l := monthI / 11
  (100 * (n - 49) + yearI + l, monthI + 2 - 12 * l, day, timeOfDay / 3600, timeOfDay % 3600 / 60, timeOfDay % 60)

def padded (width n : Nat) : String :=
  String.ofList (List.replicate (width - (toString n).length) '0') ++ toString n

def formatUnixUtc (ts : Int) : String :=
  match civilFromUnix ts.toNat with
  | (y, mo, d, h, mi, _) =>
    padded 4 y ++ "-" ++ padded 2 mo ++ "-" ++ padded 2 d ++ " " ++ padded 2 h ++ ":" ++ padded 2 mi ++ " UTC"

def announcement (event : EventRow) : String :=
  "**" ++ event.title ++ "** — " ++ formatUnixUtc event.startsAt.toInt

def postEventCard (s : State) (event : EventRow) (cards : Nat → Card) : State × Except HttpError Unit :=
  let targets := propagationTargets s.forum.chat.db event.channelId event.propagateToChildren
  postCards event.creatorPubkey (announcement event) (addressed targets cards) s

def pollChecks (s : State) (user channelId : String) (req : CreatePollRequest) : Except HttpError Unit := do
  (channelPermissions s.forum.chat.db user channelId).require MESSAGES_SEND
  Forum.channelExists s.forum.chat.db channelId
  Forum.required (trim req.question) (400, "question is required")
  if req.options.length < 2 then .error (400, "at least 2 options required")

def pollRow (user channelId : String) (req : CreatePollRequest) (now : Int) : PollRow :=
  { channelId := channelId, creatorPubkey := user, question := req.question, options := req.options
    endsAt := req.endsAt, maxChoices := max (req.maxChoices.getD 1) 1, createdAt := now }

-- The poll is stored before its card is posted.
def createPoll (s : State) (user channelId : String) (req : CreatePollRequest) (id : String) (card : Card)
    (now : Int) : State × Except HttpError Unit :=
  match pollChecks s user channelId req with
  | .error e => (s, .error e)
  | .ok _ =>
    match checkInsertPoll s id channelId with
    | .error e => (s, .error e)
    | .ok _ =>
      postCardMessage { s with polls := s.polls.insert id (pollRow user channelId req now) } channelId user
        ("**Poll:** " ++ req.question) card

def eventChecks (s : State) (user : String) (req : CreateEventRequest) : Except HttpError Unit := do
  Forum.channelExists s.forum.chat.db req.channelId
  (channelPermissions s.forum.chat.db user req.channelId).require EVENTS_CREATE
  if req.hubWide then (userPermissions s.forum.chat.db user).require EVENTS_CREATE
  Forum.required (trim req.title) (400, "title is required")
  if ∃ slot ∈ req.slots, trim slot.name = "" then .error (400, "slot name is required")

def eventRow (user : String) (req : CreateEventRequest) (now : Int) : EventRow :=
  { channelId := req.channelId, creatorPubkey := user, title := req.title
    description := req.description.getD "", startsAt := req.startsAt, endsAt := req.endsAt
    location := req.location, createdAt := now, reminderMinutes := req.reminderMinutes
    hubWide := req.hubWide, propagateToChildren := req.propagateToChildren }

def slotRow (eventId : String) (slot : CreateSlotRequest) (position : Nat) (now : Int) : SlotRow :=
  { eventId := eventId, name := slot.name, capacity := slot.capacity, position := position, createdAt := now }

def insertSlots (s : State) : List (String × SlotRow) → State × Except HttpError Unit
  | [] => (s, .ok ())
  | (id, row) :: rest =>
    match checkInsertSlot s id row with
    | .error e => (s, .error e)
    | .ok _ => insertSlots { s with slots := s.slots.insert id row } rest

def slotRows (eventId : String) (slots : List CreateSlotRequest) (slotIds : Nat → String) (now : Int) :
    List (String × SlotRow) :=
  slots.zipIdx.map fun slot => (slotIds slot.2, slotRow eventId slot.1 slot.2 now)

-- Neither the times nor the offset of the reminder are looked at before they are stored.
def createEvent (s : State) (user : String) (req : CreateEventRequest) (id : String) (slotIds : Nat → String)
    (cards : Nat → Card) (now : Int) : State × Except HttpError Unit :=
  match eventChecks s user req with
  | .error e => (s, .error e)
  | .ok _ =>
    match checkInsertEvent s id (eventRow user req now) with
    | .error e => (s, .error e)
    | .ok _ =>
      let stored := { s with events := s.events.insert id (eventRow user req now) }
      match insertSlots stored (slotRows id req.slots slotIds now) with
      | (stopped, .error e) => (stopped, .error e)
      | (slotted, .ok _) => postEventCard slotted (eventRow user req now) cards

def flips (event : EventRow) (hubWide : Option Bool) : Except HttpError Unit :=
  if hubWide.any (· ≠ event.hubWide) then .error (400, "hub_wide cannot be changed after creation") else .ok ()

def updateChecks (s : State) (user eventId : String) (req : UpdateEventRequest) : Except HttpError EventRow :=
  match s.events[eventId]? with
  | none => .error (404, "Event not found")
  | some event => do
    if event.creatorPubkey ≠ user then (userPermissions s.forum.chat.db user).require EVENTS_MANAGE
    flips event req.hubWide
    return event

-- An offset that is given, or cleared, lets the reminder fire again.
def UpdateEventRequest.apply (req : UpdateEventRequest) (row : EventRow) : EventRow :=
  { row with
    title := req.title.getD row.title
    description := req.description.getD row.description
    startsAt := req.startsAt.getD row.startsAt
    endsAt := req.endsAt <|> row.endsAt
    location := req.location <|> row.location
    reminderMinutes := req.reminderMinutes.getD row.reminderMinutes
    reminderSentAt := if req.reminderMinutes.isSome then none else row.reminderSentAt }

def updateEvent (s : State) (user eventId : String) (req : UpdateEventRequest) : State × Except HttpError EventRow :=
  match updateChecks s user eventId req with
  | .error e => (s, .error e)
  | .ok event => ({ s with events := s.events.modify eventId req.apply }, .ok (req.apply event))

end Wavvon.Events
