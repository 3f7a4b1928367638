import Wavvon.Events.State
import Wavvon.Shared.Interleaving

set_option autoImplicit false

namespace Wavvon.Events

open Interleaving (Handler)

inductive RsvpStatus where
  | going
  | maybe
  | notGoing
  deriving DecidableEq, Repr

def RsvpStatus.parse : String → Option RsvpStatus
  | "going" => some .going
  | "maybe" => some .maybe
  | "not_going" => some .notGoing
  | _ => none

structure RsvpRequest where
  status : String
  slotId : Option String := none

-- `none` leaves the capacity alone; `some none` takes the limit away.
structure UpdateSlotRequest where
  name : Option String := none
  capacity : Option (Option Int64) := none

structure RsvpRow where
  eventId : String
  userPubkey : String
  status : RsvpStatus
  slotId : Option String
  deriving DecidableEq, Repr

def RsvpRow.key (row : RsvpRow) : String × String := (row.eventId, row.userPubkey)

def RsvpRow.claims (row : RsvpRow) (slotId : String) : Bool :=
  decide (row.slotId = some slotId) && decide (row.status = .going)

structure SlotResponse where
  id : String
  name : String
  capacity : Option Int64
  position : Int
  claimed : Int
  claimants : List String

/-- The committed rows, and the row locks of the transactions in flight. -/
structure Signups where
  hub : State := {}
  rsvps : List RsvpRow := []
  slotLocks : Table Nat := ∅
  rsvpLocks : List ((String × String) × Nat) := []

def countSlotClaims (s : Signups) (slotId : String) : Nat := s.rsvps.countP (·.claims slotId)

-- Without the caller's own claim.
def countOtherClaims (s : Signups) (slotId user : String) : Nat :=
  s.rsvps.countP fun row => row.claims slotId && decide (row.userPubkey ≠ user)

def slotClaimants (s : Signups) (slotId : String) : List String :=
  (s.rsvps.filter (·.claims slotId)).map (·.userPubkey)

def slotOfEvent (s : Signups) (eventId slotId : String) : Option SlotRow :=
  s.hub.slots[slotId]?.filter fun row => decide (row.eventId = eventId)

inductive Statement where
  | read
  | lockSlot (eventId slotId : String)
  | countOthers (slotId user : String)
  | upsert (row : RsvpRow)
  | commit (row : RsvpRow)
  | rollback
  | insertSlot (id : String) (row : SlotRow)
  | updateName (slotId name : String)
  | updateCapacity (slotId : String) (capacity : Option Int64)
  | deleteSlot (slotId : String)
  deriving DecidableEq

def unlock (s : Signups) (tx : Nat) : Signups :=
  { s with
    slotLocks := s.slotLocks.filter fun _ holder => decide (holder ≠ tx)
    rsvpLocks := s.rsvpLocks.filter fun lock => decide (lock.2 ≠ tx) }

def withSlots (s : Signups) (slots : Table SlotRow) : Signups := { s with hub := { s.hub with slots := slots } }

-- The foreign keys of `event_rsvps`.
def checkUpsert (s : Signups) (row : RsvpRow) : Except HttpError Unit :=
  if row.eventId ∉ s.hub.events then
    .error (500, "DB error: " ++ foreignKeyViolation "event_rsvps" "event_rsvps_event_id_fkey")
  else if row.userPubkey ∉ s.hub.forum.chat.db.users then
    .error (500, "DB error: " ++ foreignKeyViolation "event_rsvps" "event_rsvps_user_pubkey_fkey")
  else if row.slotId.any fun slot => decide (slot ∉ s.hub.slots) then
    .error (500, "DB error: " ++ foreignKeyViolation "event_rsvps" "event_rsvps_slot_id_fkey")
  else .ok ()

-- A slot that is deleted leaves its claimants without one.
def withoutSlot (slotId : String) (row : RsvpRow) : RsvpRow :=
  if row.slotId = some slotId then { row with slotId := none } else row

-- What a statement of the transaction does; an upserted row is seen once it is committed.
def Statement.effect (tx : Nat) : Statement → Signups → Signups
  | .read, s => s
  | .countOthers _ _, s => s
  | .lockSlot eventId slotId, s =>
    if (slotOfEvent s eventId slotId).isSome then { s with slotLocks := s.slotLocks.insert slotId tx } else s
  | .upsert row, s =>
    match checkUpsert s row with
    | .error _ => s
    | .ok _ => { s with rsvpLocks := (row.key, tx) :: s.rsvpLocks }
  | .commit row, s => unlock { s with rsvps := row :: s.rsvps.filter fun other => decide (other.key ≠ row.key) } tx
  | .rollback, s => unlock s tx
  | .insertSlot id row, s =>
    match checkInsertSlot s.hub id row with
    | .error _ => s
    | .ok _ => withSlots s (s.hub.slots.insert id row)
  | .updateName slotId name, s => withSlots s (s.hub.slots.modify slotId fun row => { row with name := name })
  | .updateCapacity slotId capacity, s =>
    withSlots s (s.hub.slots.modify slotId fun row => { row with capacity := capacity })
  | .deleteSlot slotId, s =>
    { withSlots s (s.hub.slots.erase slotId) with rsvps := s.rsvps.map (withoutSlot slotId) }

def slotFree (s : Signups) (tx : Nat) (slotId : String) : Bool := s.slotLocks[slotId]?.all (· = tx)

def rsvpFree (s : Signups) (tx : Nat) (key : String × String) : Bool :=
  s.rsvpLocks.all fun lock => decide (lock.1 = key → lock.2 = tx)

-- Whether a statement gets the row locks that it needs.
def Statement.ready (tx : Nat) : Statement → Signups → Bool
  | .lockSlot eventId slotId, s => (slotOfEvent s eventId slotId).isNone || slotFree s tx slotId
  | .upsert row, s => rsvpFree s tx row.key
  | .updateName slotId _, s => slotFree s tx slotId
  | .updateCapacity slotId _, s => slotFree s tx slotId
  | .deleteSlot slotId, s =>
    slotFree s tx slotId && s.rsvps.all fun row => !decide (row.slotId = some slotId) || rsvpFree s tx row.key
  | _, _ => true

abbrev Handle (A : Type) := Handler Signups Statement A

section

variable (tx : Nat)

def exec {A : Type} (statement : Statement) (read : Signups → A) : Handle A :=
  .exec statement (statement.effect tx) read

def visibleEvent (hub : State) (user eventId : String) : Except HttpError EventRow :=
  match hub.events[eventId]? with
  | none => .error (404, "Event not found")
  | some event =>
    if event.hubWide || (channelPermissions hub.forum.chat.db user event.channelId).has MESSAGES_READ then .ok event
    else .error (404, "Event not found")

def slotManagementAccess (hub : State) (user eventId : String) : Except HttpError String :=
  match hub.events[eventId]? with
  | none => .error (404, "Event not found")
  | some event => do
    if event.creatorPubkey ≠ user then
      (channelPermissions hub.forum.chat.db user event.channelId).require EVENTS_CREATE
    return event.channelId

def requireVisibleEvent (user eventId : String) : Handle (Except HttpError EventRow) :=
  exec tx .read fun s => visibleEvent s.hub user eventId

def requireSlotManagementAccess (user eventId : String) : Handle (Except HttpError String) :=
  exec tx .read fun s => slotManagementAccess s.hub user eventId

def fetchSlotRow (eventId slotId : String) : Handle (Except HttpError SlotRow) :=
  exec tx .read fun s =>
    match slotOfEvent s eventId slotId with
    | none => .error (404, "Slot not found")
    | some row => .ok row

def slotIsFull (claimed : Nat) (cap : Int64) : HttpError :=
  (409, "slot is full (" ++ toString claimed ++ "/" ++ toString cap.toInt ++ ")")

-- Write the row and commit.
def upsertRsvp (row : RsvpRow) : Handle (Except HttpError Unit) := do
  let written ← exec tx (.upsert row) fun s => checkUpsert s row
  match written with
  | .error e =>
    exec tx .rollback fun _ => ()
    return .error e
  | .ok _ => exec tx (.commit row) fun _ => .ok ()

-- The slot row stays locked to the end of the transaction.
def claimSlot (row : RsvpRow) (slotId : String) : Handle (Except HttpError Unit) := do
  let capacity ← exec tx (.lockSlot row.eventId slotId) fun s => (slotOfEvent s row.eventId slotId).map (·.capacity)
  match capacity with
  | none =>
    exec tx .rollback fun _ => ()
    return .error (404, "Slot not found")
  | some none => upsertRsvp tx row
  | some (some cap) =>
    let claimed ← exec tx (.countOthers slotId row.userPubkey) fun s => countOtherClaims s slotId row.userPubkey
    if cap.toInt ≤ (claimed : Int) then
      exec tx .rollback fun _ => ()
      return .error (slotIsFull claimed cap)
    else upsertRsvp tx row

-- Only those who are going take a slot.
def rsvpRow (user eventId : String) (status : RsvpStatus) (req : RsvpRequest) : RsvpRow :=
  { eventId := eventId, userPubkey := user, status := status
    slotId := if status = .going then req.slotId else none }

def rsvpEvent (user eventId : String) (req : RsvpRequest) : Handle (Except HttpError Unit) :=
  match RsvpStatus.parse req.status with
  | none => .done (.error (400, "status must be going, maybe, or not_going"))
  | some status =>
    (requireVisibleEvent tx user eventId).andThen fun _ =>
      match (rsvpRow user eventId status req).slotId with
      | none => upsertRsvp tx (rsvpRow user eventId status req)
      | some slotId => claimSlot tx (rsvpRow user eventId status req) slotId

def nextPosition (s : Signups) (eventId : String) : Int :=
  let positions := (s.hub.slots.toList.filter fun entry => decide (entry.2.eventId = eventId)).map fun entry =>
    entry.2.position
  (positions.max?.map (· + 1)).getD 0

def createSlot (user eventId : String) (req : CreateSlotRequest) (id : String) (now : Int) :
    Handle (Except HttpError SlotResponse) :=
  (requireSlotManagementAccess tx user eventId).andThen fun _ =>
    if trim req.name = "" then return .error (400, "slot name is required")
    else do
      let position ← exec tx .read fun s => nextPosition s eventId
      let row : SlotRow :=
        { eventId := eventId, name := req.name, capacity := req.capacity, position := position, createdAt := now }
      let inserted ← exec tx (.insertSlot id row) fun s => checkInsertSlot s.hub id row
      match inserted with
      | .error e => return .error e
      | .ok _ =>
        return .ok { id := id, name := req.name, capacity := req.capacity, position := position, claimed := 0
                     claimants := [] }

def capacityBelow (capacity : Int64) (claimed : Nat) : HttpError :=
  (400, "capacity " ++ toString capacity.toInt ++ " is below current claim count " ++ toString claimed)

-- Counts, in a statement of its own.
def checkCapacity (slotId : String) (capacity : Option (Option Int64)) : Handle (Except HttpError Unit) :=
  match capacity with
  | some (some newCapacity) => do
    let claimed ← exec tx .read fun s => countSlotClaims s slotId
    if newCapacity.toInt < claimed then return .error (capacityBelow newCapacity claimed) else return .ok ()
  | _ => return .ok ()

def slotResponse (eventId slotId : String) : Handle (Except HttpError SlotResponse) :=
  (fetchSlotRow tx eventId slotId).andThen fun row => do
    let claimants ← exec tx .read fun s => slotClaimants s slotId
    return .ok { id := slotId, name := row.name, capacity := row.capacity, position := row.position
                 claimed := claimants.length, claimants := claimants }

def storeName (slotId : String) (name : Option String) : Handle Unit :=
  match name with
  | none => return ()
  | some name => exec tx (.updateName slotId name) fun _ => ()

def storeCapacity (slotId : String) (capacity : Option (Option Int64)) : Handle Unit :=
  match capacity with
  | none => return ()
  | some capacity => exec tx (.updateCapacity slotId capacity) fun _ => ()

def updateSlot (user eventId slotId : String) (req : UpdateSlotRequest) : Handle (Except HttpError SlotResponse) :=
  (requireSlotManagementAccess tx user eventId).andThen fun _ =>
    (fetchSlotRow tx eventId slotId).andThen fun _ =>
      if req.name.any fun name => decide (trim name = "") then return .error (400, "slot name cannot be empty")
      else
        (checkCapacity tx slotId req.capacity).andThen fun _ => do
          storeName tx slotId req.name
          storeCapacity tx slotId req.capacity
          slotResponse tx eventId slotId

def hasClaimants (claimed : Nat) : HttpError :=
  (409, "slot has " ++ toString claimed ++ " claimant(s); move them off the slot before deleting")

def deleteSlot (user eventId slotId : String) : Handle (Except HttpError Unit) :=
  (requireSlotManagementAccess tx user eventId).andThen fun _ =>
    (fetchSlotRow tx eventId slotId).andThen fun _ => do
      let claimed ← exec tx .read fun s => countSlotClaims s slotId
      if 0 < claimed then return .error (hasClaimants claimed)
      else exec tx (.deleteSlot slotId) fun _ => .ok ()

inductive SlotRequest where
  | rsvp (user eventId : String) (req : RsvpRequest)
  | create (user eventId : String) (req : CreateSlotRequest) (id : String) (now : Int)
  | update (user eventId slotId : String) (req : UpdateSlotRequest)
  | delete (user eventId slotId : String)

def SlotRequest.handle : SlotRequest → Handle Unit
  | .rsvp user eventId req => do
    let _ ← rsvpEvent tx user eventId req
  | .create user eventId req id now => do
    let _ ← createSlot tx user eventId req id now
  | .update user eventId slotId req => do
    let _ ← updateSlot tx user eventId slotId req
  | .delete user eventId slotId => do
    let _ ← deleteSlot tx user eventId slotId

end

end Wavvon.Events
