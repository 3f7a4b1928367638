import Mathlib.Data.Prod.Lex
import Wavvon.Events.Slots
import Wavvon.Shared.Records

set_option autoImplicit false

namespace Wavvon.Events

open Std (ExtTreeMap)

structure ListEventsParams where
  upcoming : Option Bool := none
  limit : Option Int := none
  channelId : Option String := none
  deriving DecidableEq, Repr

structure RsvpCounts where
  going : Nat
  maybe : Nat
  notGoing : Nat
  deriving DecidableEq, Repr

structure EventWithRsvps where
  id : String
  event : EventRow
  rsvpCounts : RsvpCounts
  slots : List SlotResponse
  myRsvp : Option RsvpStatus

-- What the database makes of rows that its order does not tell apart.
abbrev Ties := String → Nat

section

variable (ties : Ties) (s : Signups)

def loadRsvpCounts (eventId : String) : RsvpCounts :=
  let count := fun status => s.rsvps.countP fun row => decide (row.eventId = eventId ∧ row.status = status)
  { going := count .going, maybe := count .maybe, notGoing := count .notGoing }

def loadMyRsvp (eventId user : String) : Option RsvpStatus :=
  (s.rsvps.find? fun row => row.key = (eventId, user)).map (·.status)

def loadSlots (eventId : String) : List SlotResponse :=
  let slots := (s.hub.slots.toList.filter fun slot => slot.2.eventId = eventId).insertionSort fun a b =>
    toLex (a.2.position, toLex (a.2.createdAt, ties a.1)) ≤ toLex (b.2.position, toLex (b.2.createdAt, ties b.1))
  let claims := s.rsvps.filter fun row => row.eventId = eventId ∧ row.status = .going
  slots.map fun slot =>
    let claimants := (claims.filter fun row => row.slotId = some slot.1).map (·.userPubkey)
    { id := slot.1, name := slot.2.name, capacity := slot.2.capacity, position := slot.2.position
      claimed := claimants.length, claimants := claimants }

def withRsvps (user eventId : String) (event : EventRow) : EventWithRsvps where
  id := eventId
  event := event
  rsvpCounts := loadRsvpCounts s eventId
  slots := loadSlots ties s eventId
  myRsvp := loadMyRsvp s eventId user

def canRead (user channelId : String) : Bool :=
  (channelPermissions s.hub.forum.chat.db user channelId).has MESSAGES_READ

-- A channel's own events, the hub's, and those that reach it from above.
def inTab (channelId : String) (event : EventRow) : Bool :=
  event.hubWide || decide (event.channelId = channelId) ||
    (event.propagateToChildren && decide (event.channelId ∈ (ancestorChain s.hub.forum.chat.db channelId).dropLast))

def matchesQuery (params : ListEventsParams) (now : Int) (event : EventRow) : Bool :=
  (!params.upcoming.getD false || decide (now ≤ event.startsAt.toInt)) && params.channelId.all fun cid => inTab s cid event

/-- The events that the query is about, by their start. -/
def eventRows (params : ListEventsParams) (now : Int) : List (String × EventRow) :=
  (s.hub.events.toList.filter fun row => matchesQuery s params now row.2).insertionSort fun a b =>
    toLex (a.2.startsAt.toInt, ties a.1) ≤ toLex (b.2.startsAt.toInt, ties b.1)

def listLimit (params : ListEventsParams) : Int := min (params.limit.getD 20) 100

-- With a channel, reading it is the whole gate.
def shownTo (user : String) (params : ListEventsParams) (event : EventRow) : Bool :=
  params.channelId.isSome || event.hubWide ||
    decide (event.channelId ∈ channelsWithPermission s.hub.forum.chat.db user MESSAGES_READ)

def requireTab (user : String) (params : ListEventsParams) : Except HttpError Unit :=
  match params.channelId with
  | none => .ok ()
  | some cid => (channelPermissions s.hub.forum.chat.db user cid).require MESSAGES_READ

def listEvents (user : String) (params : ListEventsParams) (now : Int) : Except HttpError (List EventWithRsvps) :=
  match requireTab s user params with
  | .error e => .error e
  | .ok _ =>
    if listLimit params < 0 then .error Chat.limitError
    else
      let rows := (eventRows ties s params now).take (listLimit params).toNat
      .ok ((rows.filter fun row => shownTo s user params row.2).map fun row => withRsvps ties s user row.1 row.2)

def getEvent (user eventId : String) : Except HttpError EventWithRsvps :=
  (visibleEvent s.hub user eventId).map (withRsvps ties s user eventId)

def isVisible (user : String) (event : EventRow) : Bool := event.hubWide || canRead s user event.channelId

/-- Both routes by the event's id accept it: its details, and any answer to it without a slot. -/
structure Opens (user eventId : String) : Prop where
  shown : (getEvent ties s user eventId).isOk = true
  answered : user ∈ s.hub.forum.chat.db.users → ∀ (tx : Nat) (req : RsvpRequest),
    (RsvpStatus.parse req.status).isSome = true → req.slotId = none →
    ((rsvpEvent tx user eventId req).alone s).2 = .ok ()

/-- The earliest of the visible events, and only such as can be opened. -/
structure ListsVisible (user : String) (params : ListEventsParams) (now : Int) : Prop where
  earliest : params.channelId = none → ∀ listed, listEvents ties s user params now = .ok listed →
    listed.map (fun e => (e.id, e.event)) =
      ((eventRows ties s params now).filter fun row => isVisible s user row.2).take (listLimit params).toNat
  opens : ∀ listed, listEvents ties s user params now = .ok listed → ∀ e ∈ listed, Opens ties s user e.id

/-- Without a channel, nothing hidden takes the place of something visible; with one, every event that reaches it from
above is anchored where the caller can read. -/
structure NoneHidden (user : String) (params : ListEventsParams) (now : Int) : Prop where
  placed : params.channelId = none → 0 ≤ listLimit params →
    (∀ row ∈ (eventRows ties s params now).take (listLimit params).toNat, isVisible s user row.2 = true) ∨
      ∀ row ∈ (eventRows ties s params now).drop (listLimit params).toNat, isVisible s user row.2 = false
  anchored : ∀ cid ∈ params.channelId, canRead s user cid = true → 0 ≤ listLimit params →
    ∀ row ∈ (eventRows ties s params now).take (listLimit params).toNat,
      row.2.hubWide = false → row.2.channelId ≠ cid → canRead s user row.2.channelId = true

/-- What the foreign keys to channels promise. -/
structure Anchored : Prop where
  overwrites : ∀ row ∈ s.hub.forum.chat.db.overwrites, row.channelId ∈ s.hub.forum.chat.db.channels
  events : ∀ (id : String) (row : EventRow), s.hub.events[id]? = some row → row.channelId ∈ s.hub.forum.chat.db.channels

variable {ties s} {user eventId : String} {params : ListEventsParams} {now : Int} {row : String × EventRow}

theorem eventRows_mem (member : row ∈ eventRows ties s params now) :
    s.hub.events[row.1]? = some row.2 ∧ matchesQuery s params now row.2 = true := by
  rw [eventRows, List.mem_insertionSort, List.mem_filter, ExtTreeMap.mem_toList_iff_getElem?_eq_some] at member
  exact member

theorem listEvents_ok {listed : List EventWithRsvps} :
    listEvents ties s user params now = .ok listed ↔ requireTab s user params = .ok () ∧ 0 ≤ listLimit params ∧
      listed = (((eventRows ties s params now).take (listLimit params).toNat).filter fun row =>
        shownTo s user params row.2).map fun row => withRsvps ties s user row.1 row.2 := by
  rw [listEvents]
  cases requireTab s user params with
  | error e => simp
  | ok _ =>
    by_cases negative : listLimit params < 0
    · simp [negative]
    · simp [negative, Int.not_lt.mp negative, eq_comm]

-- The batch of readable channels decides as the gate of a single event does.
theorem shownTo_all (anchored : Anchored s) (all : params.channelId = none) {event : EventRow} {id : String}
    (stored : s.hub.events[id]? = some event) : shownTo s user params event = isVisible s user event := by
  have held := anchored.events id event stored
  rw [shownTo, isVisible, all, Option.isSome_none, Bool.false_or]
  congr 1
  rw [canRead, Bool.eq_iff_iff, decide_eq_true_eq, mem_channelsWithPermission anchored.overwrites,
    ExtTreeMap.mem_keys]
  exact and_iff_right held

theorem visibleEvent_ok {event : EventRow} (stored : s.hub.events[eventId]? = some event) :
    (visibleEvent s.hub user eventId).isOk = isVisible s user event := by
  rw [visibleEvent, stored, isVisible, canRead]
  dsimp only
  split
  next seen => rw [seen]; rfl
  next hidden => rw [Bool.eq_false_iff.mpr hidden]; rfl

theorem getEvent_isOk {event : EventRow} (stored : s.hub.events[eventId]? = some event) :
    (getEvent ties s user eventId).isOk = isVisible s user event := by
  rw [← visibleEvent_ok stored, getEvent]
  cases visibleEvent s.hub user eventId <;> rfl

theorem opens_visible {event : EventRow} (stored : s.hub.events[eventId]? = some event)
    (seen : isVisible s user event = true) : Opens ties s user eventId where
  shown := (getEvent_isOk stored).trans seen
  answered known tx req valid free := by
    obtain ⟨status, parsed⟩ := Option.isSome_iff_exists.mp valid
    have allowed : visibleEvent s.hub user eventId = .ok event := by
      rw [visibleEvent, stored]
      exact if_pos seen
    have unclaimed : (rsvpRow user eventId status req).slotId = none := by
      rw [rsvpRow, free]
      exact ite_self none
    have there : (rsvpRow user eventId status req).eventId ∈ s.hub.events :=
      ExtTreeMap.mem_iff_isSome_getElem?.mpr (by rw [rsvpRow, stored]; rfl)
    have caller : (rsvpRow user eventId status req).userPubkey ∈ s.hub.forum.chat.db.users := known
    have passes : checkUpsert s (rsvpRow user eventId status req) = .ok () := by
      rw [checkUpsert, if_neg (not_not.mpr there), if_neg (not_not.mpr caller), unclaimed]
      rfl
    rw [rsvpEvent, parsed]
    dsimp only
    rw [Interleaving.Handler.alone_andThen, requireVisibleEvent, exec, Interleaving.Handler.alone_exec]
    simp only [Statement.effect, allowed, unclaimed, upsertRsvp, exec, Interleaving.Handler.alone_bind,
      Interleaving.Handler.alone_exec, passes]

theorem rows_withRsvps (rows : List (String × EventRow)) :
    (rows.map fun row => withRsvps ties s user row.1 row.2).map (fun e => (e.id, e.event)) = rows := by
  rw [List.map_map]
  exact List.map_id _

-- Without a channel the listing filters what the limit has left.
theorem listed_all (anchored : Anchored s) (all : params.channelId = none) :
    ((eventRows ties s params now).take (listLimit params).toNat).filter (fun row => shownTo s user params row.2) =
      ((eventRows ties s params now).take (listLimit params).toNat).filter fun row => isVisible s user row.2 := by
  refine List.filter_congr fun row member => ?_
  exact shownTo_all anchored all (eventRows_mem (List.mem_of_mem_take member)).1

theorem requireTab_none (all : params.channelId = none) : requireTab s user params = .ok () := by
  rw [requireTab, all]

theorem requireTab_some {cid : String} (tab : params.channelId = some cid) :
    requireTab s user params = .ok () ↔ canRead s user cid = true := by
  rw [requireTab, tab]
  exact UserPermissions.require_ok

/-- What is listed can be seen by its id, if every event from above is anchored where the caller can read. -/
theorem listed_visible (anchored : Anchored s) (hidden : NoneHidden ties s user params now)
    (tab : requireTab s user params = .ok ()) (limit : 0 ≤ listLimit params)
    (member : row ∈ (eventRows ties s params now).take (listLimit params).toNat)
    (shown : shownTo s user params row.2 = true) : isVisible s user row.2 = true := by
  obtain ⟨stored, asked⟩ := eventRows_mem (List.mem_of_mem_take member)
  cases named : params.channelId with
  | none => rwa [← shownTo_all anchored named stored]
  | some cid =>
    have reads := (requireTab_some named).mp tab
    rw [isVisible]
    cases wide : row.2.hubWide with
    | true => rfl
    | false =>
      rw [Bool.false_or]
      by_cases own : row.2.channelId = cid
      · rw [own, reads]
      · exact hidden.anchored cid named reads limit row member wide own

/-- The listing is exact if and only if the limit falls behind nothing hidden and no tab reaches past what its reader
can open. -/
theorem listing_iff (ties : Ties) (s : Signups) (anchored : Anchored s) (user : String) (params : ListEventsParams)
    (now : Int) : ListsVisible ties s user params now ↔ NoneHidden ties s user params now := by
  constructor
  · intro lists
    constructor
    · intro all limit
      have listed := lists.earliest all _ (listEvents_ok.mpr ⟨requireTab_none all, limit, rfl⟩)
      rw [rows_withRsvps, listed_all anchored all] at listed
      exact (Slices.filter_take_iff _ _).mp listed
    · intro cid named reads limit row member wide _
      have tab := (requireTab_some named).mpr reads
      have shown : shownTo s user params row.2 = true := by
        rw [shownTo, named]
        rfl
      have listed : withRsvps ties s user row.1 row.2 ∈
          (((eventRows ties s params now).take (listLimit params).toNat).filter fun row =>
            shownTo s user params row.2).map fun row => withRsvps ties s user row.1 row.2 :=
        List.mem_map_of_mem (List.mem_filter.mpr ⟨member, shown⟩)
      have opened := (lists.opens _ (listEvents_ok.mpr ⟨tab, limit, rfl⟩) _ listed).shown
      have stored := (eventRows_mem (List.mem_of_mem_take member)).1
      have seen : isVisible s user row.2 = true := (getEvent_isOk stored).symm.trans opened
      rwa [isVisible, wide, Bool.false_or] at seen
  · intro hidden
    constructor
    · intro all listed answered
      obtain ⟨-, limit, rfl⟩ := listEvents_ok.mp answered
      rw [rows_withRsvps, listed_all anchored all]
      exact (Slices.filter_take_iff _ _).mpr (hidden.placed all limit)
    · intro listed answered e member
      obtain ⟨tab, limit, rfl⟩ := listEvents_ok.mp answered
      obtain ⟨row, chosen, rfl⟩ := List.mem_map.mp member
      obtain ⟨inside, shown⟩ := List.mem_filter.mp chosen
      have stored := (eventRows_mem (List.mem_of_mem_take inside)).1
      exact opens_visible stored (listed_visible anchored hidden tab limit inside shown)

-- A staff room with an event that reaches the hall below it, which everyone may read.
def calendar : Signups where
  hub :=
    { forum :=
        { chat :=
            { db :=
                { users := ((∅ : Table User).insert "ann" { isMember := true }).insert "bob" { isMember := true }
                  roles := (∅ : Table Role).insert BUILTIN_EVERYONE_ROLE_ID { name := "everyone" }
                  channels := ((∅ : Table Channel).insert "staff" { name := "staff", createdBy := "ann" }).insert "hall"
                    { name := "hall", createdBy := "ann", parentId := some "staff" }
                  overwrites := [{ channelId := "hall", roleId := BUILTIN_EVERYONE_ROLE_ID, permission := MESSAGES_READ
                                   allow := true }] } } }
      events := ((∅ : Table EventRow).insert "briefing"
        { channelId := "staff", creatorPubkey := "ann", title := "briefing", startsAt := 10, createdAt := 0
          propagateToChildren := true }).insert "raid"
        { channelId := "hall", creatorPubkey := "ann", title := "raid", startsAt := 20, createdAt := 0 } }

theorem calendar_anchored : Anchored calendar where
  overwrites := by decide
  events id row stored := by
    have all : ∀ row ∈ calendar.hub.events.toList, row.2.channelId ∈ calendar.hub.forum.chat.db.channels := by decide
    exact all (id, row) (ExtTreeMap.mem_toList_iff_getElem?_eq_some.mpr stored)

theorem listing_iff_hall : ListsVisible (fun _ => 0) calendar "bob" { limit := some 2 } 0 := by
  refine (listing_iff _ calendar calendar_anchored "bob" { limit := some 2 } 0).mpr ⟨?_, nofun⟩
  intro _ _
  exact .inr (by decide)

-- The one place goes to an event that bob cannot see, and the hall lists one that he cannot open.
theorem listing_hides :
    Anchored calendar ∧ ¬ ListsVisible (fun _ => 0) calendar "bob" { limit := some 1 } 0 ∧
      ¬ ListsVisible (fun _ => 0) calendar "bob" { channelId := some "hall" } 0 := by
  refine ⟨calendar_anchored, fun lists => ?_, fun lists => ?_⟩
  · have listed := lists.earliest rfl _ (listEvents_ok.mpr ⟨rfl, by decide, rfl⟩)
    rw [rows_withRsvps] at listed
    exact absurd (congrArg (List.map Prod.fst) listed) (by decide)
  · have tab : requireTab calendar "bob" { channelId := some "hall" } = .ok () :=
      (requireTab_some rfl).mpr (by decide)
    have briefing : ∃ row ∈ ((eventRows (fun _ => 0) calendar { channelId := some "hall" } 0).take 20).filter
        (fun row => shownTo calendar "bob" { channelId := some "hall" } row.2), row.1 = "briefing" := by decide
    obtain ⟨row, chosen, same⟩ := briefing
    have opened := (lists.opens _ (listEvents_ok.mpr ⟨tab, by decide, rfl⟩) _ (List.mem_map_of_mem chosen)).shown
    have closed : (visibleEvent calendar.hub "bob" "briefing").isOk = false := by decide
    rw [getEvent, withRsvps, same] at opened
    cases seen : visibleEvent calendar.hub "bob" "briefing" with
    | ok event =>
      rw [seen] at closed
      cases closed
    | error e =>
      rw [seen] at opened
      cases opened

end

end Wavvon.Events
