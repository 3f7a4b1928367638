import Wavvon.Channels.TreeEffect
import Wavvon.Events.State
import Wavvon.Voice.Grants

set_option autoImplicit false

namespace Wavvon.Events

open Std (ExtTreeMap)
open Chat (MessageRow)

-- The columns of `hub_events` that other parts of the hub read.
def State.db (s : State) : Db :=
  { s.forum.chat.db with
    hubEvents := s.events.map fun _ row => { channelId := row.channelId, endsAt := row.endsAt.map (·.toInt) } }

/-- What the worker works on: the calendar, and who is in voice. -/
structure Worker where
  calendar : State := {}
  voice : VoiceState := {}
  outbox : Outbox := {}

def Worker.hub (w : Worker) : Hub := { db := w.calendar.db, voice := w.voice, outbox := w.outbox }

-- Which rows the database computes the instant of the reminder for, apart from those it has to.
abbrev Plan := String → EventRow → Bool

-- The conditions of the query that need no arithmetic.
def waits (row : EventRow) (now : Int64) : Bool :=
  row.reminderMinutes.isSome && row.reminderSentAt.isNone && decide (now.toInt < row.startsAt.toInt)

-- `starts_at - (reminder_minutes * 60)`, in `BIGINT`s.
def reminderAt (row : EventRow) (minutes : Int64) : Option Int :=
  (Forum.i64 (minutes.toInt * 60)).bind fun span => Forum.i64 (row.startsAt.toInt - span)

def overflows (plan : Plan) (now : Int64) (id : String) (row : EventRow) : Bool :=
  (waits row now || plan id row) && row.reminderMinutes.any fun minutes => (reminderAt row minutes).isNone

def isDue (row : EventRow) (now : Int64) : Bool :=
  waits row now && row.reminderMinutes.any fun minutes => (reminderAt row minutes).any fun at_ => decide (at_ ≤ now.toInt)

def dueEvents (s : State) (now : Int64) : List (String × EventRow) :=
  s.events.toList.filter fun entry => isDue entry.2 now

-- One row that overflows fails the whole query.
def selectDue (plan : Plan) (s : State) (now : Int64) : Option (List (String × EventRow)) :=
  if s.events.toList.any fun entry => overflows plan now entry.1 entry.2 then none else some (dueEvents s now)

def reminderText (row : EventRow) : String :=
  "**" ++ row.title ++ "** — starts in " ++ toString ((row.reminderMinutes.getD 0).toInt) ++ " minutes"

def reminderCards (db : Db) (row : EventRow) (cards : Nat → Card) : List (String × Card) :=
  addressed (propagationTargets db row.channelId row.propagateToChildren) cards

def postEventReminderCard (s : State) (row : EventRow) (cards : Nat → Card) : State × Except HttpError Unit :=
  postCards row.creatorPubkey (reminderText row) (reminderCards s.forum.chat.db row cards) s

def modifyEvent (s : State) (id : String) (f : EventRow → EventRow) : State := { s with events := s.events.modify id f }

-- An event whose card fails is passed over, and stays due.
def remind (cards : String → Nat → Card) (now : Int64) : List (String × EventRow) → State → State × List String
  | [], s => (s, [])
  | (id, row) :: rest, s =>
    match postEventReminderCard s row (cards id) with
    | (left, .error _) => remind cards now rest left
    | (posted, .ok _) =>
      let (left, reminded) :=
        remind cards now rest (modifyEvent posted id fun row => { row with reminderSentAt := some now.toInt })
      (left, id :: reminded)

def ended (now : Int64) (row : EventRow) : Bool := row.endsAt.any fun ends => decide (ends.toInt < now.toInt)

-- Assignments die with their event.
def pruneAssignments (s : State) (now : Int64) : State :=
  let db := s.forum.chat.db
  { s with forum := { s.forum with chat := { s.forum.chat with
      db := { db with
        eventMoveAssignments := db.eventMoveAssignments.filter fun row => !s.events[row.eventId]?.any (ended now) } } } }

def START_GRACE_SECS : Int := 3600

def hasStarted (now : Int64) (row : EventRow) : Bool :=
  row.movesAppliedAt.isNone && decide (row.startsAt.toInt ≤ now.toInt) &&
    row.endsAt.all fun ends => decide (now.toInt < ends.toInt)

def startedEvents (s : State) (now : Int64) : List (String × EventRow) :=
  s.events.toList.filter fun entry => hasStarted now entry.2

-- `now - starts_at`, which wraps.
def inGrace (now : Int64) (row : EventRow) : Bool := decide ((now - row.startsAt).toInt ≤ START_GRACE_SECS)

def applyAssignments (w : Worker) (eventId : String) : Worker :=
  let rows := w.calendar.forum.chat.db.eventMoveAssignments.filter fun row => decide (row.eventId = eventId)
  let hub := rows.foldl applyDueEventMove w.hub
  { w with voice := hub.voice, outbox := hub.outbox }

def markApplied (w : Worker) (id : String) (now : Int64) : Worker :=
  { w with calendar := modifyEvent w.calendar id fun row => { row with movesAppliedAt := some now.toInt } }

def applyStarted (now : Int64) : List (String × EventRow) → Worker → Worker × List String
  | [], w => (w, [])
  | (id, row) :: rest, w =>
    if inGrace now row then
      let (left, moved) := applyStarted now rest (markApplied (applyAssignments w id) id now)
      (left, id :: moved)
    else applyStarted now rest (markApplied w id now)

def applyDueEventMoves (w : Worker) (now : Int64) : Worker × List String :=
  applyStarted now (startedEvents w.calendar now) w

def occupied (voice : VoiceState) (channelId : String) : Bool :=
  voice.voiceChannels[channelId]?.any fun members => !members.isEmpty

def isEndedRoom (s : State) (now : Int64) (channel : Channel) : Bool :=
  channel.eventId.any fun event => s.events[event]?.any (ended now)

-- The squad rooms of ended events that nobody is in.
def emptyRooms (w : Worker) (now : Int64) : List String :=
  (w.calendar.forum.chat.db.channels.toList.filter fun entry =>
    isEndedRoom w.calendar now entry.2 && !occupied w.voice entry.1).map Prod.fst

-- What hangs on the channels goes with them.
def withoutChannels (s : State) (db : Db) (ids : List String) : State :=
  let events := s.events.filter fun _ row => decide (row.channelId ∉ ids)
  { s with
    forum := { s.forum with chat := { s.forum.chat with
      db := db
      messages := s.forum.chat.messages.filter fun _ row => decide (row.channelId ∉ ids) } }
    events := events
    slots := s.slots.filter fun _ row => decide (row.eventId ∈ events)
    polls := s.polls.filter fun _ row => decide (row.channelId ∉ ids) }

def pruneEndedEventSquadRooms (w : Worker) (now : Int64) : Worker × Except String Unit :=
  let ids := emptyRooms w now
  if ids.isEmpty then (w, .ok ())
  else
    match Channels.deleteChannels w.calendar.db ids with
    | none => (w, .error (foreignKeyViolation "channels" "channels_parent_id_fkey"))
    | some db => ({ w with calendar := withoutChannels w.calendar db ids }, .ok ())

/-- What a pass leaves, with the events it reminded of and those whose moves it applied. -/
structure Pass where
  worker : Worker
  reminded : List String := []
  moved : List String := []
  answer : Except String Unit := .ok ()

def outOfRange : String := "error returned from database: bigint out of range"

def tick (plan : Plan) (w : Worker) (cards : String → Nat → Card) (now : Int64) : Pass :=
  match selectDue plan w.calendar now with
  | none => { worker := w, answer := .error outOfRange }
  | some due =>
    let (calendar, reminded) := remind cards now due w.calendar
    let (applied, moved) := applyDueEventMoves { w with calendar := pruneAssignments calendar now } now
    let (pruned, answer) := pruneEndedEventSquadRooms applied now
    { worker := pruned, reminded := reminded, moved := moved, answer := answer }

-- Over the integers.
def DueReminder (now : Int64) (row : EventRow) : Prop :=
  row.reminderSentAt = none ∧ ∃ minutes ∈ row.reminderMinutes,
    row.startsAt.toInt - 60 * minutes.toInt ≤ now.toInt ∧ now.toInt < row.startsAt.toInt

def Started (now : Int64) (row : EventRow) : Prop :=
  row.movesAppliedAt = none ∧ row.startsAt.toInt ≤ now.toInt ∧ ∀ ends ∈ row.endsAt, now.toInt < ends.toInt

def DueMoves (now : Int64) (row : EventRow) : Prop :=
  Started now row ∧ now.toInt - row.startsAt.toInt ≤ START_GRACE_SECS

-- Foreign keys of the events.
def Referenced (s : State) : Prop :=
  ∀ entry ∈ s.events.toList, entry.2.channelId ∈ s.forum.chat.db.channels ∧
    entry.2.creatorPubkey ∈ s.forum.chat.db.users

instance (s : State) : Decidable (Referenced s) :=
  inferInstanceAs (Decidable (∀ entry ∈ s.events.toList, entry.2.channelId ∈ s.forum.chat.db.channels ∧
    entry.2.creatorPubkey ∈ s.forum.chat.db.users))

def cardIds (db : Db) (cards : String → Nat → Card) (due : List (String × EventRow)) : List String :=
  due.flatMap fun entry => (reminderCards db entry.2 (cards entry.1)).map fun target => target.2.id

-- `Uuid::new_v4` draws no id twice, and none that is taken.
def DrawsNew (s : State) (cards : String → Nat → Card) (now : Int64) : Prop :=
  (cardIds s.forum.chat.db cards (dueEvents s now)).Nodup ∧
    ∀ id ∈ cardIds s.forum.chat.db cards (dueEvents s now), id ∉ s.forum.chat.messages

instance (s : State) (cards : String → Nat → Card) (now : Int64) : Decidable (DrawsNew s cards now) :=
  inferInstanceAs (Decidable (_ ∧ _))

/-- A pass that overlooks no event on account of another. -/
structure Punctual (plan : Plan) (w : Worker) (cards : String → Nat → Card) (now : Int64) : Prop where
  inRange : (∀ (id : String) (row : EventRow), w.calendar.events[id]? = some row → overflows plan now id row = false) ∧
    ∀ (id : String) (row : EventRow), w.calendar.events[id]? = some row → Started now row →
      (Forum.i64 (now.toInt - row.startsAt.toInt)).isSome = true
  answered : (tick plan w cards now).answer = .ok ()
  reminded : ∀ id, id ∈ (tick plan w cards now).reminded ↔
    ∃ row, w.calendar.events[id]? = some row ∧ DueReminder now row
  posted : ∀ id row, w.calendar.events[id]? = some row → DueReminder now row →
    ∀ target ∈ reminderCards w.calendar.forum.chat.db row (cards id), target.1 ∉ emptyRooms w now →
      (tick plan w cards now).worker.calendar.forum.chat.messages[target.2.id]? =
        some (cardRow target.1 row.creatorPubkey (reminderText row) target.2)
  moved : ∀ id, id ∈ (tick plan w cards now).moved ↔ ∃ row, w.calendar.events[id]? = some row ∧ DueMoves now row
  cleaned : ∀ id channel, w.calendar.forum.chat.db.channels[id]? = some channel →
    isEndedRoom w.calendar now channel = true → occupied w.voice id = false →
      id ∉ (tick plan w cards now).worker.calendar.forum.chat.db.channels

section

variable {sender text : String} {s : State}

def withMessages (s : State) (messages : Table MessageRow) : State :=
  { s with forum := { s.forum with chat := { s.forum.chat with messages := messages } } }

/-- What a row of cards adds to the messages. -/
structure Carded (sender text : String) (targets : List (String × Card)) (before after : Table MessageRow) :
    Prop where
  kept : ∀ id ∈ before, after[id]? = before[id]?
  drawn : ∀ id ∈ after, id ∈ before ∨ id ∈ targets.map fun target => target.2.id
  stored : ∀ target ∈ targets, after[target.2.id]? = some (cardRow target.1 sender text target.2)

-- Nothing but a taken id or a missing row stops a card.
theorem postCards_all {targets : List (String × Card)} (member : sender ∈ s.forum.chat.db.users)
    (listed : ∀ target ∈ targets, target.1 ∈ s.forum.chat.db.channels)
    (distinct : (targets.map fun target => target.2.id).Nodup)
    (fresh : ∀ target ∈ targets, target.2.id ∉ s.forum.chat.messages) :
    ∃ messages, postCards sender text targets s = (withMessages s messages, .ok ()) ∧
      Carded sender text targets s.forum.chat.messages messages := by
  induction targets generalizing s with
  | nil => exact ⟨s.forum.chat.messages, rfl, fun _ _ => rfl, fun _ stored => .inl stored, by simp⟩
  | cons first rest ih =>
    obtain ⟨listedFirst, listedRest⟩ := List.forall_mem_cons.mp listed
    obtain ⟨freshFirst, freshRest⟩ := List.forall_mem_cons.mp fresh
    obtain ⟨apart, distinctRest⟩ := List.nodup_cons.mp distinct
    have accepted : (Chat.checkInsert s.forum.chat first.2.id (cardRow first.1 sender text first.2)).isOk = true := by
      simp [Chat.checkInsert, freshFirst, cardRow, listedFirst, member, Except.isOk, Except.toBool]
    obtain ⟨messages, posted, carded⟩ := ih (s := withMessage s first.2.id (cardRow first.1 sender text first.2))
      member listedRest distinctRest (by
        intro target later stored
        obtain same | before := ExtTreeMap.mem_insert.mp stored
        · exact apart (List.mem_map.mpr ⟨target, later, (Std.LawfulEqCmp.eq_of_compare same).symm⟩)
        · exact freshRest target later before)
    refine ⟨messages, ?_, ?_, ?_, ?_⟩
    next =>
      unfold postCards
      rw [postCardMessage_stored accepted]
      exact posted
    next =>
      intro id stored
      have other : first.2.id ≠ id := by
        rintro rfl
        exact freshFirst stored
      rw [carded.kept id (by simp [withMessage, stored])]
      simp [withMessage, ExtTreeMap.getElem?_insert, other]
    next =>
      intro id stored
      obtain before | later := carded.drawn id stored
      · obtain same | before := ExtTreeMap.mem_insert.mp before
        · exact .inr (Std.LawfulEqCmp.eq_of_compare same ▸ List.mem_cons_self)
        · exact .inl before
      · exact .inr (List.mem_cons_of_mem _ later)
    next =>
      intro target listed
      obtain rfl | later := List.mem_cons.mp listed
      · rw [carded.kept _ (by simp [withMessage])]
        simp [withMessage]
      · exact carded.stored target later

def unsent (row : EventRow) : EventRow := { row with reminderSentAt := none }

/-- What the reminders of a list of events leave. -/
structure Reminded (cards : String → Nat → Card) (due : List (String × EventRow)) (before after : State) : Prop where
  db : after.forum.chat.db = before.forum.chat.db
  schedule : ∀ id : String, after.events[id]?.map unsent = before.events[id]?.map unsent
  kept : ∀ id ∈ before.forum.chat.messages, after.forum.chat.messages[id]? = before.forum.chat.messages[id]?
  posted : ∀ entry ∈ due, ∀ target ∈ reminderCards before.forum.chat.db entry.2 (cards entry.1),
    after.forum.chat.messages[target.2.id]? =
      some (cardRow target.1 entry.2.creatorPubkey (reminderText entry.2) target.2)

theorem modify_schedule {events : Table EventRow} {id : String} {f g : EventRow → EventRow}
    (same : ∀ row, g (f row) = g row) (other : String) :
    (events.modify id f)[other]?.map g = events[other]?.map g := by
  rw [ExtTreeMap.getElem?_modify]
  split
  next here =>
    rw [Option.map_map, Std.LawfulEqCmp.eq_of_compare here]
    exact congrArg (Option.map · _) (funext same)
  next => rfl

theorem propagationTargets_listed {db : Db} {channelId target : String} {propagate : Bool}
    (listed : channelId ∈ db.channels) (reached : target ∈ propagationTargets db channelId propagate) :
    target ∈ db.channels := by
  unfold propagationTargets at reached
  split at reached
  next => exact Channels.subtreeLoop_listed db _ [channelId] [channelId] (by simpa using listed) target reached
  next =>
    obtain rfl := List.mem_singleton.mp reached
    exact listed

theorem reminderCards_listed {db : Db} {row : EventRow} {cards : Nat → Card} (listed : row.channelId ∈ db.channels)
    {target : String × Card} (reached : target ∈ reminderCards db row cards) : target.1 ∈ db.channels := by
  obtain ⟨channel, numbered, rfl⟩ := List.mem_map.mp reached
  exact propagationTargets_listed listed (List.fst_mem_of_mem_zipIdx numbered)

theorem remind_all {cards : String → Nat → Card} {now : Int64} {due : List (String × EventRow)}
    (referenced : ∀ entry ∈ due, entry.2.channelId ∈ s.forum.chat.db.channels ∧
      entry.2.creatorPubkey ∈ s.forum.chat.db.users)
    (distinct : (cardIds s.forum.chat.db cards due).Nodup)
    (fresh : ∀ id ∈ cardIds s.forum.chat.db cards due, id ∉ s.forum.chat.messages) :
    (remind cards now due s).2 = due.map Prod.fst ∧ Reminded cards due s (remind cards now due s).1 := by
  induction due generalizing s with
  | nil => exact ⟨rfl, rfl, fun _ => rfl, fun _ _ => rfl, by simp⟩
  | cons first rest ih =>
    obtain ⟨id, row⟩ := first
    obtain ⟨⟨listed, member⟩, referencedRest⟩ := List.forall_mem_cons.mp referenced
    rw [cardIds, List.flatMap_cons] at distinct fresh
    obtain ⟨distinctFirst, distinctRest, apart⟩ := List.nodup_append.mp distinct
    obtain ⟨freshFirst, freshRest⟩ := List.forall_mem_append.mp fresh
    have all_ : ∃ messages, postEventReminderCard s row (cards id) = (withMessages s messages, .ok ()) ∧
        Carded row.creatorPubkey (reminderText row) (reminderCards s.forum.chat.db row (cards id))
          s.forum.chat.messages messages :=
      postCards_all member (fun _ reached => reminderCards_listed listed reached) distinctFirst
        (fun target reached => freshFirst _ (List.mem_map_of_mem reached))
    obtain ⟨messages, posted, carded⟩ := all_
    let sent (row : EventRow) : EventRow := { row with reminderSentAt := some now.toInt }
    let marked := modifyEvent (withMessages s messages) id sent
    obtain ⟨names, done⟩ := ih (s := marked) referencedRest distinctRest (by
      intro drawn listed stored
      obtain before | now_ := carded.drawn drawn stored
      · exact freshRest drawn listed before
      · exact apart drawn now_ drawn listed rfl)
    have unfolded : remind cards now ((id, row) :: rest) s =
        ((remind cards now rest marked).1, id :: (remind cards now rest marked).2) := by
      rw [remind, posted]
    rw [unfolded]
    refine ⟨congrArg (id :: ·) names, done.db, ?_, ?_, ?_⟩
    next =>
      intro other
      rw [done.schedule other]
      exact modify_schedule (f := sent) (g := unsent) (fun _ => rfl) other
    next =>
      intro old stored
      have there : old ∈ messages := by
        rw [ExtTreeMap.mem_iff_isSome_getElem?, carded.kept old stored]
        exact ExtTreeMap.mem_iff_isSome_getElem?.mp stored
      rw [done.kept old there]
      exact carded.kept old stored
    next =>
      intro entry listed target reached
      obtain rfl | later := List.mem_cons.mp listed
      · have here := carded.stored target reached
        have there : target.2.id ∈ messages := ExtTreeMap.mem_iff_isSome_getElem?.mpr (by rw [here]; rfl)
        rw [done.kept _ there]
        exact here
      · exact done.posted entry later target reached

end

section

variable {now : Int64} {row : EventRow}

theorem i64_isSome {value : Int} : (Forum.i64 value).isSome = true ↔ -2 ^ 63 ≤ value ∧ value < 2 ^ 63 := by
  unfold Forum.i64
  split
  next fits => exact iff_of_true rfl fits
  next leaves => exact iff_of_false (by decide) leaves

theorem i64_eq {value stored : Int} (held : Forum.i64 value = some stored) : stored = value := by
  unfold Forum.i64 at held
  split at held
  next => exact (Option.some.inj held).symm
  next => cases held

theorem reminderAt_eq {minutes : Int64} {instant : Int} (computed : reminderAt row minutes = some instant) :
    instant = row.startsAt.toInt - 60 * minutes.toInt := by
  obtain ⟨span, spanned, rest⟩ := Option.bind_eq_some_iff.mp computed
  have multiplied := i64_eq spanned
  have subtracted := i64_eq rest
  omega

theorem reminderAt_isSome {minutes : Int64} : (reminderAt row minutes).isSome = true ↔
    (-2 ^ 63 ≤ 60 * minutes.toInt ∧ 60 * minutes.toInt < 2 ^ 63) ∧
      -2 ^ 63 ≤ row.startsAt.toInt - 60 * minutes.toInt ∧ row.startsAt.toInt - 60 * minutes.toInt < 2 ^ 63 := by
  unfold reminderAt
  rw [mul_comm 60 minutes.toInt, ← i64_isSome, ← i64_isSome]
  cases spanned : Forum.i64 (minutes.toInt * 60) with
  | none => simp
  | some span =>
    obtain rfl := i64_eq spanned
    simp

theorem waits_iff : waits row now = true ↔
    (row.reminderMinutes.isSome = true ∧ row.reminderSentAt = none) ∧ now.toInt < row.startsAt.toInt := by
  rw [waits, Bool.and_eq_true, Bool.and_eq_true, decide_eq_true_eq, Option.isNone_iff_eq_none]

-- What the query selects, where it computes.
theorem isDue_iff (computed : waits row now = true → ∀ minutes ∈ row.reminderMinutes,
    (reminderAt row minutes).isSome = true) : isDue row now = true ↔ DueReminder now row := by
  unfold isDue
  rw [Bool.and_eq_true, Option.any_eq_true]
  constructor
  · rintro ⟨waiting, minutes, chosen, reached⟩
    obtain ⟨⟨_, unsent⟩, ahead⟩ := waits_iff.mp waiting
    obtain ⟨instant, held, past⟩ := (Option.any_eq_true _ _).mp reached
    rw [decide_eq_true_eq, reminderAt_eq held] at past
    exact ⟨unsent, minutes, chosen, past, ahead⟩
  · rintro ⟨unsent, minutes, chosen, past, ahead⟩
    have waiting := waits_iff.mpr ⟨⟨Option.isSome_iff_exists.mpr ⟨minutes, chosen⟩, unsent⟩, ahead⟩
    obtain ⟨instant, held⟩ := Option.isSome_iff_exists.mp (computed waiting minutes chosen)
    refine ⟨waiting, minutes, chosen, ?_⟩
    rw [held, Option.any_some, decide_eq_true_eq, reminderAt_eq held]
    exact past

theorem hasStarted_iff : hasStarted now row = true ↔ Started now row := by
  rw [hasStarted, Started, Bool.and_eq_true, Bool.and_eq_true, decide_eq_true_eq, Option.isNone_iff_eq_none,
    Option.all_eq_true, and_assoc]
  simp only [decide_eq_true_eq]
  rfl

-- The subtraction wraps only for an event that began ages ago.
theorem inGrace_iff (computed : (Forum.i64 (now.toInt - row.startsAt.toInt)).isSome = true) :
    inGrace now row = true ↔ now.toInt - row.startsAt.toInt ≤ START_GRACE_SECS := by
  obtain ⟨low, high⟩ := i64_isSome.mp computed
  rw [inGrace, decide_eq_true_eq, Int64.toInt_sub, Int.bmod_eq_of_le (by omega) (by omega)]

end

section

variable {now : Int64}

def unapplied (row : EventRow) : EventRow := { row with movesAppliedAt := none }

theorem applyDueEventMove_rooms (h : Hub) (row : MoveAssignment) :
    (applyDueEventMove h row).voice.voiceChannels = h.voice.voiceChannels := by
  unfold applyDueEventMove
  split
  next => rfl
  next source _ =>
    split
    next => rfl
    next =>
      by_cases mints : PushMints h row.userPubkey row.targetChannelId row.assignedBy
      next =>
        rw [pushEventMove_minted mints]
        rfl
      next => rw [pushEventMove_spared mints]

theorem applyAssignments_rooms (w : Worker) (id : String) :
    (applyAssignments w id).voice.voiceChannels = w.voice.voiceChannels := by
  unfold applyAssignments
  generalize w.calendar.forum.chat.db.eventMoveAssignments.filter _ = rows
  show (rows.foldl applyDueEventMove w.hub).voice.voiceChannels = w.hub.voice.voiceChannels
  generalize w.hub = h
  induction rows generalizing h with
  | nil => rfl
  | cons row rest ih => exact (ih (applyDueEventMove h row)).trans (applyDueEventMove_rooms h row)

/-- What the moves leave alone. -/
structure Applied (before after : Worker) : Prop where
  forum : after.calendar.forum = before.calendar.forum
  schedule : ∀ id : String, after.calendar.events[id]?.map unapplied = before.calendar.events[id]?.map unapplied
  rooms : after.voice.voiceChannels = before.voice.voiceChannels

theorem applyStarted_all (list : List (String × EventRow)) (w : Worker) :
    (applyStarted now list w).2 = (list.filter fun entry => inGrace now entry.2).map Prod.fst ∧
      Applied w (applyStarted now list w).1 := by
  induction list generalizing w with
  | nil => exact ⟨rfl, rfl, fun _ => rfl, rfl⟩
  | cons first rest ih =>
    obtain ⟨id, row⟩ := first
    have schedule (v : Worker) (same : v.calendar = w.calendar) (other : String) :
        (markApplied v id now).calendar.events[other]?.map unapplied = w.calendar.events[other]?.map unapplied := by
      rw [markApplied, same]
      exact modify_schedule (f := fun row => { row with movesAppliedAt := some now.toInt }) (fun _ => rfl) other
    cases graced : inGrace now row with
    | true =>
      obtain ⟨names, applied⟩ := ih (markApplied (applyAssignments w id) id now)
      have unfolded : applyStarted now ((id, row) :: rest) w =
          ((applyStarted now rest (markApplied (applyAssignments w id) id now)).1,
            id :: (applyStarted now rest (markApplied (applyAssignments w id) id now)).2) := by
        rw [applyStarted, if_pos graced]
      rw [unfolded]
      simp only [List.filter_cons, graced, if_true, List.map_cons]
      refine ⟨congrArg (id :: ·) names, applied.forum, ?_, applied.rooms.trans (applyAssignments_rooms w id)⟩
      intro other
      exact (applied.schedule other).trans (schedule (applyAssignments w id) rfl other)
    | false =>
      obtain ⟨names, applied⟩ := ih (markApplied w id now)
      have unfolded : applyStarted now ((id, row) :: rest) w = applyStarted now rest (markApplied w id now) := by
        rw [applyStarted, if_neg (by simp [graced])]
      rw [unfolded]
      simp only [List.filter_cons, graced, Bool.false_eq_true, if_false]
      refine ⟨names, applied.forum, ?_, applied.rooms⟩
      intro other
      exact (applied.schedule other).trans (schedule w rfl other)

end

section

variable {plan : Plan} {w v : Worker} {cards : String → Nat → Card} {now : Int64}

-- What a fact blind to a column says of two tables that differ in that column.
theorem blind_exists {g : EventRow → EventRow} {P : EventRow → Prop} (blind : ∀ row, P (g row) ↔ P row)
    {a b : Option EventRow} (same : a.map g = b.map g) : (∃ row, a = some row ∧ P row) ↔ ∃ row, b = some row ∧
    P row := by
  cases a <;> cases b <;> simp_all
  next first second => rw [← blind first, ← blind second, same]

theorem selectDue_dueEvents (fits : ∀ (id : String) (row : EventRow), w.calendar.events[id]? = some row →
    overflows plan now id row = false) : selectDue plan w.calendar now = some (dueEvents w.calendar now) := by
  unfold selectDue
  rw [if_neg]
  simp only [List.any_eq_true, not_exists, not_and]
  rintro ⟨id, row⟩ listed
  rw [fits id row (ExtTreeMap.mem_toList_iff_getElem?_eq_some.mp listed)]
  decide

theorem overflows_iff {id : String} {row : EventRow} : overflows plan now id row = false ↔
    (waits row now = true ∨ plan id row = true → ∀ minutes ∈ row.reminderMinutes, (reminderAt row minutes).isSome) := by
  rw [overflows, Bool.and_eq_false_iff, ← Bool.not_eq_true, Bool.or_eq_true, Option.any_eq_false]
  by_cases asked : waits row now = true ∨ plan id row = true <;> simp [asked]

theorem emptyRooms_kept {g : EventRow → EventRow} (blind : ∀ row, ended now (g row) = ended now row)
    (channels : v.calendar.forum.chat.db.channels = w.calendar.forum.chat.db.channels)
    (schedule : ∀ id : String, v.calendar.events[id]?.map g = w.calendar.events[id]?.map g)
    (voice : v.voice.voiceChannels = w.voice.voiceChannels) : emptyRooms v now = emptyRooms w now := by
  have judged (event : String) : v.calendar.events[event]?.any (ended now) = w.calendar.events[event]?.any (ended now) := by
    have unseen (row : Option EventRow) : (row.map g).any (ended now) = row.any (ended now) := by
      cases row with
      | none => rfl
      | some row => exact blind row
    rw [← unseen, schedule event, unseen]
  unfold emptyRooms isEndedRoom occupied
  simp only [channels, voice, judged]

-- A pass once the query is through.
def reminding (w : Worker) (cards : String → Nat → Card) (now : Int64) : State × List String :=
  remind cards now (dueEvents w.calendar now) w.calendar

def moving (w : Worker) (cards : String → Nat → Card) (now : Int64) : Worker × List String :=
  applyDueEventMoves { w with calendar := pruneAssignments (reminding w cards now).1 now } now

theorem tick_selected (found : selectDue plan w.calendar now = some (dueEvents w.calendar now)) :
    tick plan w cards now =
      { worker := (pruneEndedEventSquadRooms (moving w cards now).1 now).1, reminded := (reminding w cards now).2
        moved := (moving w cards now).2, answer := (pruneEndedEventSquadRooms (moving w cards now).1 now).2 } := by
  rw [tick, found]
  rfl

theorem reminding_done (referenced : Referenced w.calendar) (draws : DrawsNew w.calendar cards now) :
    (reminding w cards now).2 = (dueEvents w.calendar now).map Prod.fst ∧
      Reminded cards (dueEvents w.calendar now) w.calendar (reminding w cards now).1 :=
  remind_all (fun entry listed => referenced entry (List.mem_of_mem_filter listed)) draws.1 draws.2

theorem moving_done (w : Worker) (cards : String → Nat → Card) (now : Int64) :
    (moving w cards now).2 = ((startedEvents (reminding w cards now).1 now).filter fun entry =>
        inGrace now entry.2).map Prod.fst ∧
      Applied { w with calendar := pruneAssignments (reminding w cards now).1 now } (moving w cards now).1 :=
  applyStarted_all _ _

theorem moving_rooms (reminded : Reminded cards (dueEvents w.calendar now) w.calendar (reminding w cards now).1) :
    emptyRooms (moving w cards now).1 now = emptyRooms w now := by
  have applied := (moving_done w cards now).2
  have channels : (moving w cards now).1.calendar.forum.chat.db.channels =
      (reminding w cards now).1.forum.chat.db.channels :=
    congrArg (fun forum => forum.chat.db.channels) applied.forum
  calc
    emptyRooms (moving w cards now).1 now =
        emptyRooms { w with calendar := pruneAssignments (reminding w cards now).1 now } now :=
      emptyRooms_kept (g := unapplied) (fun _ => rfl) channels applied.schedule applied.rooms
    _ = emptyRooms w now :=
      emptyRooms_kept (g := unsent) (fun _ => rfl) (congrArg (·.channels) reminded.db) reminded.schedule rfl

theorem mem_chosen {events : Table EventRow} {chosen : EventRow → Bool} {id : String} :
    id ∈ (events.toList.filter fun entry => chosen entry.2).map Prod.fst ↔
      ∃ row, events[id]? = some row ∧ chosen row = true := by
  simp only [List.mem_map, List.mem_filter, Prod.exists, ExtTreeMap.mem_toList_iff_getElem?_eq_some,
    exists_and_right, exists_eq_right]

-- The reminders write no column that the moves go by.
theorem moving_moved (reminded : Reminded cards (dueEvents w.calendar now) w.calendar (reminding w cards now).1)
    {id : String} : id ∈ (moving w cards now).2 ↔
      ∃ row, w.calendar.events[id]? = some row ∧ (inGrace now row && hasStarted now row) = true := by
  rw [(moving_done w cards now).1, startedEvents, List.filter_filter,
    @mem_chosen _ fun row => inGrace now row && hasStarted now row]
  exact blind_exists (g := unsent) (P := fun row => (inGrace now row && hasStarted now row) = true)
    (fun _ => Iff.rfl) (reminded.schedule id)

end

section

variable {w : Worker} {now : Int64}

-- A channel that stays, with a parent that does not.
def Hanging (w : Worker) (now : Int64) : Prop :=
  ∃ (id : String) (channel : Channel), w.calendar.forum.chat.db.channels[id]? = some channel ∧
    id ∉ emptyRooms w now ∧ ∃ parent ∈ channel.parentId, parent ∈ emptyRooms w now

/-- What the clean-up leaves, when nothing hangs on the rooms. -/
structure CleanedUp (before after : Worker) (now : Int64) : Prop where
  gone : ∀ id ∈ emptyRooms before now, id ∉ after.calendar.forum.chat.db.channels
  kept : ∀ (id : String) (row : MessageRow), before.calendar.forum.chat.messages[id]? = some row →
    row.channelId ∉ emptyRooms before now → after.calendar.forum.chat.messages[id]? = some row

theorem prune_answers : (pruneEndedEventSquadRooms w now).2 = .ok () ↔ ¬ Hanging w now := by
  have refused : Channels.deleteChannels w.calendar.db (emptyRooms w now) = none ↔ Hanging w now :=
    Channels.deleteChannels_none
  unfold pruneEndedEventSquadRooms
  rw [← refused]
  by_cases none_ : emptyRooms w now = []
  · rw [if_pos (by rw [none_]; rfl), none_]
    simp [Channels.deleteChannels_none]
  · rw [if_neg (by simpa using none_)]
    cases Channels.deleteChannels w.calendar.db (emptyRooms w now) <;> simp

theorem prune_cleans (answered : (pruneEndedEventSquadRooms w now).2 = .ok ()) :
    CleanedUp w (pruneEndedEventSquadRooms w now).1 now := by
  unfold pruneEndedEventSquadRooms at answered ⊢
  by_cases none_ : emptyRooms w now = []
  · rw [if_pos (by rw [none_]; rfl)]
    exact ⟨by simp [none_], fun _ _ stored _ => stored⟩
  · rw [if_neg (by simpa using none_)] at answered ⊢
    cases deleted : Channels.deleteChannels w.calendar.db (emptyRooms w now) with
    | none =>
      rw [deleted] at answered
      cases answered
    | some db =>
      refine ⟨?_, ?_⟩
      next =>
        have left := Channels.deleteChannels_some deleted
        intro id listed
        show id ∉ db.channels
        rw [left, ExtTreeMap.mem_iff_isSome_getElem?, Channels.channels_outside, if_pos listed]
        decide
      next =>
        intro id row stored outside
        show (w.calendar.forum.chat.messages.filter fun _ row =>
          decide (row.channelId ∉ emptyRooms w now))[id]? = some row
        rw [ExtTreeMap.getElem?_filter, stored]
        simp [outside]

end

section

variable {plan : Plan} {w : Worker} {cards : String → Nat → Card} {now : Int64}

/-- The numbers of the rows that a pass computes with. -/
structure InBounds (plan : Plan) (w : Worker) (now : Int64) : Prop where
  offsets : ∀ (id : String) (row : EventRow), w.calendar.events[id]? = some row →
    waits row now = true ∨ plan id row = true → ∀ minutes ∈ row.reminderMinutes,
      (-2 ^ 63 ≤ 60 * minutes.toInt ∧ 60 * minutes.toInt < 2 ^ 63) ∧
        -2 ^ 63 ≤ row.startsAt.toInt - 60 * minutes.toInt ∧ row.startsAt.toInt - 60 * minutes.toInt < 2 ^ 63
  starts : ∀ (id : String) (row : EventRow), w.calendar.events[id]? = some row → Started now row →
    now.toInt - row.startsAt.toInt < 2 ^ 63

theorem inBounds_iff : InBounds plan w now ↔
    (∀ (id : String) (row : EventRow), w.calendar.events[id]? = some row → overflows plan now id row = false) ∧
      ∀ (id : String) (row : EventRow), w.calendar.events[id]? = some row → Started now row →
        (Forum.i64 (now.toInt - row.startsAt.toInt)).isSome = true := by
  constructor
  · rintro ⟨offsets, starts⟩
    refine ⟨?_, ?_⟩
    next =>
      intro id row stored
      exact overflows_iff.mpr fun asked minutes chosen => reminderAt_isSome.mpr (offsets id row stored asked minutes chosen)
    next =>
      intro id row stored started
      have below := starts id row stored started
      have begun := started.2.1
      exact i64_isSome.mpr ⟨by omega, below⟩
  · rintro ⟨offsets, starts⟩
    refine ⟨?_, ?_⟩
    next =>
      intro id row stored asked minutes chosen
      exact reminderAt_isSome.mp (overflows_iff.mp (offsets id row stored) asked minutes chosen)
    next =>
      intro id row stored started
      exact (i64_isSome.mp (starts id row stored started)).2

theorem mem_emptyRooms {id : String} : id ∈ emptyRooms w now ↔
    ∃ channel, w.calendar.forum.chat.db.channels[id]? = some channel ∧
      isEndedRoom w.calendar now channel = true ∧ occupied w.voice id = false := by
  simp only [emptyRooms, List.mem_map, List.mem_filter, Prod.exists, ExtTreeMap.mem_toList_iff_getElem?_eq_some,
    exists_and_right, exists_eq_right, Bool.and_eq_true, Bool.not_eq_true']

theorem hanging_moving (reminded : Reminded cards (dueEvents w.calendar now) w.calendar (reminding w cards now).1) :
    Hanging (moving w cards now).1 now ↔ Hanging w now := by
  have channels : (moving w cards now).1.calendar.forum.chat.db.channels = w.calendar.forum.chat.db.channels :=
    (congrArg (fun forum => forum.chat.db.channels) (moving_done w cards now).2.forum).trans
      (congrArg (·.channels) reminded.db)
  unfold Hanging
  rw [channels, moving_rooms reminded]

theorem tick_punctual (referenced : Referenced w.calendar) (draws : DrawsNew w.calendar cards now) :
    Punctual plan w cards now ↔ InBounds plan w now ∧ ¬ Hanging w now := by
  obtain ⟨names, reminded⟩ := reminding_done referenced draws
  constructor
  · intro punctual
    refine ⟨inBounds_iff.mpr punctual.inRange, ?_⟩
    have answered := punctual.answered
    rw [tick_selected (selectDue_dueEvents punctual.inRange.1)] at answered
    rw [← hanging_moving reminded]
    exact prune_answers.mp answered
  · rintro ⟨bounds, free⟩
    obtain ⟨fits, begun⟩ := inBounds_iff.mp bounds
    have run : tick plan w cards now = _ := tick_selected (selectDue_dueEvents fits)
    have answered : (pruneEndedEventSquadRooms (moving w cards now).1 now).2 = .ok () :=
      prune_answers.mpr ((hanging_moving reminded).not.mpr free)
    have cleaned := prune_cleans answered
    have due {id : String} {row : EventRow} (stored : w.calendar.events[id]? = some row) :
        isDue row now = true ↔ DueReminder now row :=
      isDue_iff fun waiting minutes chosen => overflows_iff.mp (fits id row stored) (.inl waiting) minutes chosen
    refine ⟨⟨fits, begun⟩, ?_, ?_, ?_, ?_, ?_⟩
    next =>
      rw [run]
      exact answered
    next =>
      intro id
      rw [run]
      show id ∈ (reminding w cards now).2 ↔ _
      rw [names, dueEvents, @mem_chosen _ fun row => isDue row now]
      exact exists_congr fun row => and_congr_right due
    next =>
      intro id row stored isDue_ target listed outside
      rw [run]
      have chosen : (id, row) ∈ dueEvents w.calendar now :=
        List.mem_filter.mpr ⟨ExtTreeMap.mem_toList_iff_getElem?_eq_some.mpr stored, (due stored).mpr isDue_⟩
      have carded := reminded.posted (id, row) chosen target listed
      rw [← moving_rooms reminded] at outside
      refine cleaned.kept _ _ ?_ outside
      rw [(moving_done w cards now).2.forum]
      exact carded
    next =>
      intro id
      rw [run]
      show id ∈ (moving w cards now).2 ↔ _
      rw [moving_moved reminded]
      refine exists_congr fun row => and_congr_right fun stored => ?_
      rw [Bool.and_eq_true, hasStarted_iff, and_comm]
      exact and_congr_right fun started => inGrace_iff (begun id row stored started)
    next =>
      intro id channel stored over_ vacant
      rw [run]
      refine cleaned.gone id ?_
      rw [moving_rooms reminded]
      exact mem_emptyRooms.mpr ⟨channel, stored, over_, vacant⟩

end

-- Two members who may create events.
def raidHub : State where
  forum :=
    { chat :=
        { db :=
            { users := ((∅ : Table User).insert "ann" { isMember := true }).insert "bob" { isMember := true }
              channels := (∅ : Table Channel).insert "hall" { name := "hall", createdBy := "ann" }
              roles := (∅ : Table Role).insert "planner" { name := "planner" }
              userRoles := {("ann", "planner"), ("bob", "planner")}
              rolePermissions := {("planner", EVENTS_CREATE)} } } }

def raid : CreateEventRequest := { channelId := "hall", title := "raid", startsAt := 1000, reminderMinutes := some 10 }

def planned : State :=
  (createEvent raidHub "ann" raid "raid" (fun _ => "slot") (fun _ => { id := "announced", now := 0 }) 0).1

def reminderIds (event : String) (_ : Nat) : Card := { id := "reminder of " ++ event, now := 600000 }

theorem tick_punctual_planned : Punctual (fun _ _ => false) { calendar := planned } reminderIds 600 ↔
    InBounds (fun _ _ => false) { calendar := planned } 600 ∧ ¬ Hanging { calendar := planned } 600 :=
  tick_punctual (by decide) (by decide)

-- Bob's event, with the largest offset there is.
def spoiled : State :=
  (createEvent planned "bob" { raid with title := "party", startsAt := 2000, reminderMinutes := some Int64.maxValue }
    "party" (fun _ => "slot") (fun _ => { id := "invited", now := 0 }) 1).1

-- Ann's reminder is due, and is not posted.
theorem tick_stopped :
    (Referenced spoiled ∧ DrawsNew spoiled reminderIds 600 ∧ ∃ row, spoiled.events["raid"]? = some row ∧
      DueReminder 600 row) ∧ ¬ Punctual (fun _ _ => false) { calendar := spoiled } reminderIds 600 := by
  refine ⟨⟨by decide, by decide, eventRow "ann" raid 0, by decide, rfl, 10, rfl, by decide,
    by decide⟩, ?_⟩
  intro punctual
  have failed : (tick (fun _ _ => false) { calendar := spoiled } reminderIds 600).answer = .error outOfRange := by
    decide
  rw [punctual.answered] at failed
  cases failed

end Wavvon.Events
