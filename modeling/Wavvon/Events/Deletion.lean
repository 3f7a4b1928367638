import Wavvon.Events.State
import Wavvon.Roles.Handlers
import Wavvon.Shared.Relational

set_option autoImplicit false

namespace Wavvon.Events

open Relational (Action Schema Row Satisfied Remnant Lasting Sheltered autocommit transaction)

/-- The tables that lose rows with a channel or an event, and those that their rows refer to. -/
inductive TableName where
  | users | roles | stickers | alliances | attachmentBlobs
  | channels | channelSettings | messages | messageReactions | messageReports | channelPins
  | channelPermissionOverwrites | channelBans | allianceSharedChannels | webhooks | attachments
  | posts | postReplies | forumTags | postTags | postReactions | replyReactions
  | hubEvents | eventSlots | eventRsvps | eventMoveAssignments | polls | pollVotes
  deriving DecidableEq, Repr

def TableName.name : TableName → String
  | .users => "users"
  | .roles => "roles"
  | .stickers => "stickers"
  | .alliances => "alliances"
  | .attachmentBlobs => "attachment_blobs"
  | .channels => "channels"
  | .channelSettings => "channel_settings"
  | .messages => "messages"
  | .messageReactions => "message_reactions"
  | .messageReports => "message_reports"
  | .channelPins => "channel_pins"
  | .channelPermissionOverwrites => "channel_permission_overwrites"
  | .channelBans => "channel_bans"
  | .allianceSharedChannels => "alliance_shared_channels"
  | .webhooks => "webhooks"
  | .attachments => "attachments"
  | .posts => "posts"
  | .postReplies => "post_replies"
  | .forumTags => "forum_tags"
  | .postTags => "post_tags"
  | .postReactions => "post_reactions"
  | .replyReactions => "reply_reactions"
  | .hubEvents => "hub_events"
  | .eventSlots => "event_slots"
  | .eventRsvps => "event_rsvps"
  | .eventMoveAssignments => "event_move_assignments"
  | .polls => "polls"
  | .pollVotes => "poll_votes"

inductive ForeignKey where
  | channelsCreatedBy | channelsParentId
  | channelSettingsChannelId
  | messagesChannelId | messagesSender | messagesStickerId
  | messageReactionsMessageId | messageReactionsUserKey
  | messageReportsMessageId | messageReportsReporterPubkey
  | channelPinsChannelId | channelPinsMessageId
  | channelPermissionOverwritesChannelId | channelPermissionOverwritesRoleId
  | channelBansChannelId | channelBansTargetPublicKey
  | allianceSharedChannelsAllianceId | allianceSharedChannelsChannelId
  | webhooksChannelId
  | attachmentsSha256 | attachmentsChannelId | attachmentsMessageId | attachmentsPostId | attachmentsReplyId
  | postsChannelId
  | postRepliesPostId | postRepliesReplyToId
  | forumTagsChannelId
  | postTagsPostId | postTagsTagId
  | postReactionsPostId | postReactionsUserKey
  | replyReactionsReplyId | replyReactionsUserKey
  | hubEventsChannelId | hubEventsCreatorPubkey
  | eventSlotsEventId
  | eventRsvpsEventId | eventRsvpsUserPubkey | eventRsvpsSlotId
  | eventMoveAssignmentsEventId | eventMoveAssignmentsTargetChannelId
  | pollsChannelId
  | pollVotesPollId | pollVotesUserPubkey
  deriving DecidableEq, Repr

-- Table and column, the table that is referred to, and ON DELETE.
def ForeignKey.reference : ForeignKey → TableName × String × TableName × Action
  | .channelsCreatedBy => (.channels, "created_by", .users, .restrict)
  | .channelsParentId => (.channels, "parent_id", .channels, .restrict)
  | .channelSettingsChannelId => (.channelSettings, "channel_id", .channels, .restrict)
  | .messagesChannelId => (.messages, "channel_id", .channels, .restrict)
  | .messagesSender => (.messages, "sender", .users, .restrict)
  | .messagesStickerId => (.messages, "sticker_id", .stickers, .restrict)
  | .messageReactionsMessageId => (.messageReactions, "message_id", .messages, .cascade)
  | .messageReactionsUserKey => (.messageReactions, "user_key", .users, .restrict)
  | .messageReportsMessageId => (.messageReports, "message_id", .messages, .cascade)
  | .messageReportsReporterPubkey => (.messageReports, "reporter_pubkey", .users, .restrict)
  | .channelPinsChannelId => (.channelPins, "channel_id", .channels, .cascade)
  | .channelPinsMessageId => (.channelPins, "message_id", .messages, .cascade)
  | .channelPermissionOverwritesChannelId => (.channelPermissionOverwrites, "channel_id", .channels, .cascade)
  | .channelPermissionOverwritesRoleId => (.channelPermissionOverwrites, "role_id", .roles, .cascade)
  | .channelBansChannelId => (.channelBans, "channel_id", .channels, .restrict)
  | .channelBansTargetPublicKey => (.channelBans, "target_public_key", .users, .restrict)
  | .allianceSharedChannelsAllianceId => (.allianceSharedChannels, "alliance_id", .alliances, .restrict)
  | .allianceSharedChannelsChannelId => (.allianceSharedChannels, "channel_id", .channels, .restrict)
  | .webhooksChannelId => (.webhooks, "channel_id", .channels, .restrict)
  | .attachmentsSha256 => (.attachments, "sha256", .attachmentBlobs, .setNull)
  | .attachmentsChannelId => (.attachments, "channel_id", .channels, .cascade)
  | .attachmentsMessageId => (.attachments, "message_id", .messages, .cascade)
  | .attachmentsPostId => (.attachments, "post_id", .posts, .cascade)
  | .attachmentsReplyId => (.attachments, "reply_id", .postReplies, .cascade)
  | .postsChannelId => (.posts, "channel_id", .channels, .cascade)
  | .postRepliesPostId => (.postReplies, "post_id", .posts, .cascade)
  | .postRepliesReplyToId => (.postReplies, "reply_to_id", .postReplies, .setNull)
  | .forumTagsChannelId => (.forumTags, "channel_id", .channels, .cascade)
  | .postTagsPostId => (.postTags, "post_id", .posts, .cascade)
  | .postTagsTagId => (.postTags, "tag_id", .forumTags, .cascade)
  | .postReactionsPostId => (.postReactions, "post_id", .posts, .cascade)
  | .postReactionsUserKey => (.postReactions, "user_key", .users, .restrict)
  | .replyReactionsReplyId => (.replyReactions, "reply_id", .postReplies, .cascade)
  | .replyReactionsUserKey => (.replyReactions, "user_key", .users, .restrict)
  | .hubEventsChannelId => (.hubEvents, "channel_id", .channels, .restrict)
  | .hubEventsCreatorPubkey => (.hubEvents, "creator_pubkey", .users, .restrict)
  | .eventSlotsEventId => (.eventSlots, "event_id", .hubEvents, .cascade)
  | .eventRsvpsEventId => (.eventRsvps, "event_id", .hubEvents, .cascade)
  | .eventRsvpsUserPubkey => (.eventRsvps, "user_pubkey", .users, .restrict)
  | .eventRsvpsSlotId => (.eventRsvps, "slot_id", .eventSlots, .setNull)
  | .eventMoveAssignmentsEventId => (.eventMoveAssignments, "event_id", .hubEvents, .cascade)
  | .eventMoveAssignmentsTargetChannelId => (.eventMoveAssignments, "target_channel_id", .channels, .cascade)
  | .pollsChannelId => (.polls, "channel_id", .channels, .restrict)
  | .pollVotesPollId => (.pollVotes, "poll_id", .polls, .cascade)
  | .pollVotesUserPubkey => (.pollVotes, "user_pubkey", .users, .restrict)

def schema : Schema TableName ForeignKey where
  table f := f.reference.1
  target f := f.reference.2.2.1
  onDelete f := f.reference.2.2.2

/-- A row; its plain column is `channels.event_id`, the only one read here that is no foreign key. -/
abbrev Record := Row schema String (Option String)

-- DELETE FROM table WHERE channel_id = ANY($1)
def inChannels (ids : List String) (f : ForeignKey) (r : Record) : Bool :=
  r.refs.any fun ref => decide (ref.1 = f ∧ ref.2 ∈ ids)

-- DELETE FROM table WHERE id = ANY($1)
def withIds (table : TableName) (ids : List String) (r : Record) : Bool := decide (r.table = table ∧ r.key ∈ ids)

/-- Deletes channels and every row that references them, in one transaction. -/
def deleteChannels (db : List Record) (ids : List String) : Except ForeignKey (List Record) :=
  transaction
    ([.messagesChannelId, .pollsChannelId, .hubEventsChannelId, .webhooksChannelId, .channelBansChannelId,
      .channelSettingsChannelId, .allianceSharedChannelsChannelId].map (inChannels ids) ++ [withIds .channels ids]) db

def violation (f : ForeignKey) : HttpError :=
  (500, "DB error: error returned from database: update or delete on table \"" ++ (schema.target f).name ++
    "\" violates foreign key constraint \"" ++ (schema.table f).name ++ "_" ++ f.reference.2.1 ++
    "_fkey\" on table \"" ++ (schema.table f).name ++ "\"")

/-- What a request leaves, whether it broadcast `channels_updated`, and its answer. -/
structure Deletion where
  rows : List Record
  channelsUpdated : Bool := false
  answer : Except HttpError Unit

def squadRooms (db : List Record) (eventId : String) : List String :=
  (db.filter fun r => decide (r.table = .channels ∧ r.data = some eventId)).map fun r => r.key

def squadTables : List ForeignKey :=
  [.messagesChannelId, .channelBansChannelId, .channelSettingsChannelId, .allianceSharedChannelsChannelId]

def deleteEventSquadRooms (db : List Record) (eventId : String) : Deletion :=
  let roomIds := squadRooms db eventId
  if roomIds = [] then { rows := db, answer := .ok () } else
    match autocommit (squadTables.map (inChannels roomIds) ++ [withIds .channels roomIds]) db with
    | (left, .error f) => { rows := left, answer := .error (violation f) }
    | (left, .ok _) => { rows := left, channelsUpdated := true, answer := .ok () }

-- The creator is NOT NULL.
def creatorOf (event : Record) : String :=
  ((event.refs.find? fun ref => decide (ref.1 = .hubEventsCreatorPubkey)).map Prod.snd).getD ""

def mayDeleteEvent (perms : UserPermissions) (user eventId : String) (db : List Record) : Except HttpError Unit :=
  match db.find? (withIds .hubEvents [eventId]) with
  | none => .error (404, "Event not found")
  | some event => if creatorOf event ≠ user then perms.require EVENTS_MANAGE else .ok ()

def deleteEvent (perms : UserPermissions) (user eventId : String) (db : List Record) : Deletion :=
  match mayDeleteEvent perms user eventId db with
  | .error e => { rows := db, answer := .error e }
  | .ok _ =>
    match deleteEventSquadRooms db eventId with
    | ⟨left, updated, .error e⟩ => ⟨left, updated, .error e⟩
    | ⟨left, updated, .ok _⟩ =>
      match autocommit [withIds .hubEvents [eventId]] left with
      | (after, .error f) => ⟨after, updated, .error (violation f)⟩
      | (after, .ok _) => ⟨after, updated, .ok ()⟩

-- The event or one of its squad rooms.
def Departs (db : List Record) (eventId : String) (r : Record) : Prop :=
  withIds .hubEvents [eventId] r = true ∨ withIds .channels (squadRooms db eventId) r = true

/-- What is left when the rooms go as `deleteChannels` lets them go, and then the event. -/
structure Removed (db : List Record) (eventId : String) (left : List Record) : Prop where
  asChannels : ∃ rest, deleteChannels db (squadRooms db eventId) = .ok rest ∧
    Relational.delete rest (withIds .hubEvents [eventId]) = .ok left
  satisfied : Satisfied left
  absent : ∀ r ∈ left, ¬ Departs db eventId r
  unreferenced : ∀ r ∈ left, ∀ ref ∈ r.refs, ∀ x ∈ db, Departs db eventId x → r.refersTo x ref = false

structure AllOrNothing (db : List Record) (eventId : String) (d : Deletion) : Prop where
  all : d.answer = .ok () → Removed db eventId d.rows
  nothing : ∀ e, d.answer = .error e → d.rows = db

/-- A row that the clean-up does not know of keeps a room: a poll, an event, a webhook, or another channel below it. -/
def Blocked (db : List Record) (rooms : List String) : Prop :=
  ∃ r ∈ db, (∃ f ∈ [ForeignKey.pollsChannelId, .hubEventsChannelId, .webhooksChannelId], inChannels rooms f r = true) ∨
    (inChannels rooms .channelsParentId r = true ∧ withIds .channels rooms r = false)

def Emptied (db : List Record) (rooms : List String) : Prop :=
  ∃ r ∈ db, ∃ f ∈ squadTables, inChannels rooms f r = true

section

variable {db left : List Record} {rooms : List String} {r x : Record} {f : ForeignKey}

-- Tables that lose rows without their being asked for, or whose rows nothing holds back.
def Passing (t : TableName) : Prop :=
  t ∉ [TableName.channels, .polls, .hubEvents, .webhooks, .users, .stickers, .alliances]

instance (t : TableName) : Decidable (Passing t) := inferInstanceAs (Decidable (_ ∉ _))

theorem passing_cascades (f : ForeignKey) : schema.onDelete f = .cascade → Passing (schema.table f) := by
  cases f <;> decide

theorem restrict_target (f : ForeignKey) : schema.onDelete f = .restrict →
    schema.target f ∈ [TableName.channels, .users, .stickers, .alliances] := by
  cases f <;> decide

theorem Passing.sheltered {t : TableName} (passing : Passing t) : Sheltered schema t := by
  intro f action same
  have target := restrict_target f action
  rw [same] at target
  exact passing (by simp only [List.mem_cons] at target ⊢; tauto)

theorem hubEvents_sheltered : Sheltered schema .hubEvents := by
  intro f action same
  have target := restrict_target f action
  rw [same] at target
  exact absurd target (by decide)

theorem squadTables_passing : ∀ f ∈ squadTables, Passing (schema.table f) := by decide

theorem inChannels_iff : inChannels rooms f r = true ↔ ∃ ref ∈ r.refs, ref.1 = f ∧ ref.2 ∈ rooms := by
  simp only [inChannels, List.any_eq_true, decide_eq_true_eq]

theorem inChannels_table (inside : inChannels rooms f r = true) : schema.table f = r.table := by
  obtain ⟨ref, named, rfl, _⟩ := inChannels_iff.mp inside
  exact r.typed ref named

theorem withIds_iff {t : TableName} {ids : List String} : withIds t ids r = true ↔ r.table = t ∧ r.key ∈ ids :=
  decide_eq_true_iff

theorem inChannels_lasting (rooms : List String) (f : ForeignKey) : Lasting (inChannels rooms f) := by
  intro after before remnant inside
  obtain ⟨ref, named, same, room⟩ := inChannels_iff.mp inside
  exact inChannels_iff.mpr ⟨ref, remnant.fewer ref named, same, room⟩

theorem withIds_lasting (t : TableName) (ids : List String) : Lasting (withIds t ids) := by
  intro after before remnant inside
  rw [withIds_iff, remnant.table, remnant.key] at inside
  exact withIds_iff.mpr inside

theorem emptying_passing (hit : Record → Bool) (among : hit ∈ squadTables.map (inChannels rooms)) (r : Record)
    (asked : hit r = true) : Passing r.table := by
  obtain ⟨f, known, rfl⟩ := List.mem_map.mp among
  rw [← inChannels_table asked]
  exact squadTables_passing f known

theorem emptying_lasting (hit : Record → Bool) (among : hit ∈ squadTables.map (inChannels rooms)) : Lasting hit := by
  obtain ⟨f, _, rfl⟩ := List.mem_map.mp among
  exact inChannels_lasting rooms f

/-- The four statements before the rooms themselves never fail. -/
theorem emptying_done (db : List Record) (rooms : List String) :
    ∃ left, autocommit (squadTables.map (inChannels rooms)) db = (left, .ok ()) :=
  Relational.autocommit_sheltered (fun f action => (passing_cascades f action).sheltered)
    fun hit among r asked => (emptying_passing hit among r asked).sheltered

-- Rooms go with what passes; no channel goes that is not one of them.
theorem room_gone (goes : Relational.gone db (withIds .channels rooms) r = true) :
    withIds .channels rooms r = true ∨ Passing r.table := by
  cases Relational.gone_cases goes with
  | inl asked => exact .inl asked
  | inr by_ =>
    obtain ⟨x, _, _, refers⟩ := by_
    obtain ⟨ref, named, action, _⟩ := Relational.refersBy_iff.mp refers
    rw [← r.typed ref named]
    exact .inr (passing_cascades ref.1 action)

-- Whatever holds back a room that is to go refers to it as its channel, or as its parent.
theorem restrict_channels (f : ForeignKey) : schema.onDelete f = .restrict → schema.target f = .channels →
    f ∈ squadTables ∨ f ∈ [ForeignKey.pollsChannelId, .hubEventsChannelId, .webhooksChannelId] ∨
      f = .channelsParentId := by
  cases f <;> decide

theorem blockers_stay : ∀ f ∈ [ForeignKey.pollsChannelId, .hubEventsChannelId, .webhooksChannelId],
    ¬ Passing (schema.table f) ∧ schema.table f ≠ .channels ∧ schema.onDelete f = .restrict := by
  decide

theorem rooms_deleted (satisfied : Satisfied left)
    (clean : ∀ r ∈ left, ∀ f ∈ squadTables, inChannels rooms f r = false) :
    (∃ after, Relational.delete left (withIds .channels rooms) = .ok after) ↔ ¬ Blocked left rooms := by
  constructor
  · intro done blocked
    obtain ⟨after, done⟩ := done
    obtain ⟨r, member, blocks⟩ := blocked
    have free := (Relational.delete_ok.mp done).1
    have target (f : ForeignKey) (restricts : schema.onDelete f = .restrict) (points : schema.target f = .channels)
        (inside : inChannels rooms f r = true) : ∃ x ∈ left,
          Relational.gone left (withIds .channels rooms) x = true ∧ r.refersBy .restrict x = true := by
      obtain ⟨ref, named, rfl, room⟩ := inChannels_iff.mp inside
      obtain ⟨x, there, refers⟩ := satisfied r member ref named
      obtain ⟨_, table, key⟩ := of_decide_eq_true refers
      have goes : Relational.gone left (withIds .channels rooms) x = true :=
        Relational.gone_hit (withIds_iff.mpr ⟨table.symm.trans points, by rw [← key]; exact room⟩)
      exact ⟨x, there, goes, Relational.refersBy_iff.mpr ⟨ref, named, restricts, refers⟩⟩
    have stays (outside : withIds .channels rooms r = false) (other : ¬ Passing r.table) :
        Relational.gone left (withIds .channels rooms) r = false := by
      rw [Bool.eq_false_iff]
      intro goes
      cases room_gone goes with
      | inl asked => rw [outside] at asked; cases asked
      | inr passing => exact other passing
    cases blocks with
    | inl named =>
      obtain ⟨f, among, inside⟩ := named
      obtain ⟨holds, notRoom, restricts⟩ := blockers_stay f among
      rw [inChannels_table inside] at holds notRoom
      have points : schema.target f = .channels := by
        revert among
        cases f <;> decide
      have outside : withIds .channels rooms r = false := decide_eq_false fun both => notRoom both.1
      obtain ⟨x, there, goes, refers⟩ := target f restricts points inside
      rw [free r member (stays outside holds) x there goes] at refers
      cases refers
    | inr below =>
      obtain ⟨inside, outside⟩ := below
      have table : r.table = .channels := (inChannels_table inside).symm
      obtain ⟨x, there, goes, refers⟩ := target .channelsParentId rfl rfl inside
      rw [free r member (stays outside (by rw [table]; decide)) x there goes] at refers
      cases refers
  · intro free
    refine ⟨_, Relational.delete_ok.mpr ⟨fun r member stays x there goes => ?_, rfl⟩⟩
    rw [Bool.eq_false_iff]
    intro refers
    obtain ⟨ref, named, restricts, points⟩ := Relational.refersBy_iff.mp refers
    obtain ⟨_, table, key⟩ := of_decide_eq_true points
    cases room_gone goes with
    | inr passing => exact passing.sheltered ref.1 restricts table
    | inl room =>
      obtain ⟨channel, within⟩ := withIds_iff.mp room
      have inside : inChannels rooms ref.1 r = true := inChannels_iff.mpr ⟨ref, named, rfl, by rw [key]; exact within⟩
      cases restrict_channels ref.1 restricts (table.trans channel) with
      | inl emptied =>
        rw [clean r member ref.1 emptied] at inside
        cases inside
      | inr blocks =>
        refine free ⟨r, member, ?_⟩
        cases blocks with
        | inl among => exact .inl ⟨ref.1, among, inside⟩
        | inr parent =>
          rw [parent] at inside
          refine .inr ⟨inside, ?_⟩
          rw [Bool.eq_false_iff]
          intro asked
          rw [Relational.gone_hit asked] at stays
          cases stays

theorem withIds_remnant {t : TableName} {ids : List String} (remnant : Remnant x r) :
    withIds t ids x = withIds t ids r := by
  simp only [withIds, remnant.table, remnant.key]

theorem inChannels_remnant (remnant : Remnant x r) (kept : schema.onDelete f ≠ .setNull)
    (inside : inChannels rooms f r = true) : inChannels rooms f x = true := by
  obtain ⟨ref, named, rfl, room⟩ := inChannels_iff.mp inside
  exact inChannels_iff.mpr ⟨ref, remnant.held ref named kept, rfl, room⟩

-- Emptying the rooms takes away nothing that holds them.
theorem blocked_left (emptied : autocommit (squadTables.map (inChannels rooms)) db = (left, .ok ())) :
    Blocked left rooms ↔ Blocked db rooms := by
  constructor
  · intro blocked
    obtain ⟨x, member, blocks⟩ := blocked
    obtain ⟨r, there, remnant⟩ := Relational.autocommit_remnant emptied member
    refine ⟨r, there, ?_⟩
    cases blocks with
    | inl named =>
      obtain ⟨f, among, inside⟩ := named
      exact .inl ⟨f, among, inChannels_lasting rooms f x r remnant inside⟩
    | inr below =>
      exact .inr ⟨inChannels_lasting rooms _ x r remnant below.1, (withIds_remnant remnant).symm.trans below.2⟩
  · intro blocked
    obtain ⟨r, member, blocks⟩ := blocked
    have kept (other : ¬ Passing r.table) : ∃ x ∈ left, Remnant x r :=
      Relational.autocommit_keeps passing_cascades emptying_passing emptied member other
    cases blocks with
    | inl named =>
      obtain ⟨f, among, inside⟩ := named
      obtain ⟨holds, _, restricts⟩ := blockers_stay f among
      rw [inChannels_table inside] at holds
      obtain ⟨x, there, remnant⟩ := kept holds
      exact ⟨x, there, .inl ⟨f, among, inChannels_remnant remnant (by rw [restricts]; decide) inside⟩⟩
    | inr below =>
      have table : r.table = .channels := (inChannels_table below.1).symm
      obtain ⟨x, there, remnant⟩ := kept (by rw [table]; decide)
      exact ⟨x, there, .inr ⟨inChannels_remnant remnant (by decide) below.1, (withIds_remnant remnant).trans below.2⟩⟩

theorem emptying_clean (emptied : autocommit (squadTables.map (inChannels rooms)) db = (left, .ok ()))
    (member : r ∈ left)
    (among : f ∈ squadTables) : inChannels rooms f r = false :=
  Relational.autocommit_clean emptying_lasting emptied (List.mem_map_of_mem among) member

-- With nothing to hold the rooms back, the three tables that only the other copy knows are not concerned.
theorem deleteChannels_squad (free : ¬ Blocked db rooms) :
    deleteChannels db rooms = transaction (squadTables.map (inChannels rooms) ++ [withIds .channels rooms]) db := by
  have emptied : ∃ mid, autocommit [inChannels rooms .messagesChannelId] db = (mid, .ok ()) :=
    Relational.autocommit_sheltered (fun f action => (passing_cascades f action).sheltered) fun hit among r asked =>
      (emptying_passing hit (List.mem_map.mpr ⟨_, by decide, (List.mem_singleton.mp among).symm⟩) r asked).sheltered
  obtain ⟨mid, first⟩ := emptied
  let unshared := [ForeignKey.pollsChannelId, .hubEventsChannelId, .webhooksChannelId].map (inChannels rooms)
  have lasting : ∀ hit ∈ unshared, Relational.Lasting hit := by
    intro hit among
    obtain ⟨f, _, rfl⟩ := List.mem_map.mp among
    exact inChannels_lasting rooms f
  have idle : ∀ hit ∈ unshared, ∀ r ∈ db, hit r = false := by
    intro hit among r member
    obtain ⟨f, known, rfl⟩ := List.mem_map.mp among
    rw [Bool.eq_false_iff]
    exact fun inside => free ⟨r, member, .inl ⟨f, known, inside⟩⟩
  let later := [ForeignKey.channelBansChannelId, .channelSettingsChannelId, .allianceSharedChannelsChannelId].map
    (inChannels rooms) ++ [withIds .channels rooms]
  have skipped : autocommit ([inChannels rooms .messagesChannelId] ++ (unshared ++ later)) db =
      autocommit ([inChannels rooms .messagesChannelId] ++ later) db :=
    Relational.autocommit_skip lasting idle first
  have same : autocommit ([ForeignKey.messagesChannelId, .pollsChannelId, .hubEventsChannelId, .webhooksChannelId,
      .channelBansChannelId, .channelSettingsChannelId, .allianceSharedChannelsChannelId].map (inChannels rooms) ++
        [withIds .channels rooms]) db =
      autocommit (squadTables.map (inChannels rooms) ++ [withIds .channels rooms]) db := skipped
  rw [deleteChannels, transaction, same, transaction]

theorem rooms_free (satisfied : Satisfied db) (free : ¬ Blocked db rooms) : ∃ left,
    autocommit (squadTables.map (inChannels rooms) ++ [withIds .channels rooms]) db = (left, .ok ()) := by
  obtain ⟨mid, emptied⟩ := emptying_done db rooms
  obtain ⟨left, done⟩ := (rooms_deleted (Relational.autocommit_satisfied satisfied emptied)
    fun r member f among => emptying_clean emptied member among).mpr (mt (blocked_left emptied).mp free)
  refine ⟨left, ?_⟩
  rw [Relational.autocommit_append emptied, autocommit, done]
  rfl

theorem rooms_blocked (satisfied : Satisfied db) (blocked : Blocked db rooms) : ∃ f left,
    autocommit (squadTables.map (inChannels rooms)) db = (left, .ok ()) ∧
      autocommit (squadTables.map (inChannels rooms) ++ [withIds .channels rooms]) db = (left, .error f) := by
  obtain ⟨left, emptied⟩ := emptying_done db rooms
  have kept := mt (rooms_deleted (Relational.autocommit_satisfied satisfied emptied)
    fun r member f among => emptying_clean emptied member among).mp (not_not.mpr ((blocked_left emptied).mpr blocked))
  cases done : Relational.delete left (withIds .channels rooms) with
  | ok after => exact absurd ⟨after, done⟩ kept
  | error f =>
    refine ⟨f, left, emptied, ?_⟩
    rw [Relational.autocommit_append emptied, autocommit, done]

theorem not_blocked_nil : ¬ Blocked db [] := by
  intro blocked
  obtain ⟨r, _, blocks⟩ := blocked
  have none (f : ForeignKey) : inChannels [] f r = false := by
    rw [Bool.eq_false_iff]
    intro inside
    obtain ⟨ref, _, _, room⟩ := inChannels_iff.mp inside
    cases room
  cases blocks with
  | inl named =>
    obtain ⟨f, _, inside⟩ := named
    rw [none f] at inside
    cases inside
  | inr below =>
    rw [none _] at below
    cases below.1

variable {eventId : String}

theorem squadRooms_deleted (satisfied : Satisfied db) (free : ¬ Blocked db (squadRooms db eventId)) :
    (deleteEventSquadRooms db eventId).answer = .ok () ∧
      deleteChannels db (squadRooms db eventId) = .ok (deleteEventSquadRooms db eventId).rows := by
  rw [deleteChannels_squad free, transaction, deleteEventSquadRooms]
  obtain ⟨left, done⟩ := rooms_free satisfied free
  split
  next empty =>
    have idle : autocommit (squadTables.map (inChannels (squadRooms db eventId)) ++
        [withIds .channels (squadRooms db eventId)]) db = (db, .ok ()) := by
      refine Relational.autocommit_idle fun hit among r _ => ?_
      rw [empty, List.mem_append, List.mem_singleton] at among
      cases among with
      | inl inside =>
        obtain ⟨f, _, rfl⟩ := List.mem_map.mp inside
        rw [Bool.eq_false_iff]
        intro asked
        obtain ⟨ref, _, _, room⟩ := inChannels_iff.mp asked
        cases room
      | inr same =>
        rw [same]
        exact decide_eq_false fun both => absurd both.2 List.not_mem_nil
    rw [idle]
    exact ⟨rfl, rfl⟩
  next =>
    rw [done]
    exact ⟨rfl, rfl⟩

theorem squadRooms_kept (satisfied : Satisfied db) (blocked : Blocked db (squadRooms db eventId)) :
    ∃ e, (deleteEventSquadRooms db eventId).answer = .error e ∧
      autocommit (squadTables.map (inChannels (squadRooms db eventId))) db =
        ((deleteEventSquadRooms db eventId).rows, .ok ()) := by
  obtain ⟨f, left, emptied, failed⟩ := rooms_blocked satisfied blocked
  rw [deleteEventSquadRooms]
  split
  next empty =>
    rw [empty] at blocked
    exact absurd blocked not_blocked_nil
  next =>
    rw [failed]
    exact ⟨violation f, rfl, emptied⟩

theorem unchanged_iff {hits : List (Record → Bool)} (lasting : ∀ hit ∈ hits, Lasting hit)
    (done : autocommit hits db = (left, .ok ())) : left = db ↔ ∀ hit ∈ hits, ∀ r ∈ db, hit r = false := by
  constructor
  · rintro rfl hit among r member
    exact Relational.autocommit_clean lasting done among member
  · intro idle
    rw [Relational.autocommit_idle idle] at done
    cases done
    rfl

-- The event's own row goes without objection.
theorem event_deleted (db : List Record) (eventId : String) :
    ∃ left, Relational.delete db (withIds .hubEvents [eventId]) = .ok left :=
  Relational.delete_sheltered (fun f action => (passing_cascades f action).sheltered) fun r _ asked => by
    rw [(withIds_iff.mp asked).1]
    exact hubEvents_sheltered

theorem deleteChannels_clean {ids : List String} (done : deleteChannels db ids = .ok left) (member : r ∈ left) :
    withIds .channels ids r = false := by
  rw [deleteChannels, transaction] at done
  split at done
  · cases done
  next after same =>
    cases done
    refine Relational.autocommit_clean (fun hit among => ?_) same
      (List.mem_append_right _ (List.mem_singleton.mpr rfl)) member
    rw [List.mem_append, List.mem_singleton] at among
    cases among with
    | inl inside =>
      obtain ⟨f, _, rfl⟩ := List.mem_map.mp inside
      exact inChannels_lasting ids f
    | inr same =>
      rw [same]
      exact withIds_lasting .channels ids

theorem deleteChannels_satisfied {ids : List String} (satisfied : Satisfied db)
    (done : deleteChannels db ids = .ok left) :
    Satisfied left := by
  rw [deleteChannels, transaction] at done
  split at done
  · cases done
  next after same =>
    cases done
    exact Relational.autocommit_satisfied satisfied same

theorem removed (satisfied : Satisfied db) {rest : List Record}
    (rooms : deleteChannels db (squadRooms db eventId) = .ok rest)
    (event : Relational.delete rest (withIds .hubEvents [eventId]) = .ok left) : Removed db eventId left := by
  have sound : Satisfied left := (deleteChannels_satisfied satisfied rooms).delete event
  have absent : ∀ r ∈ left, ¬ Departs db eventId r := by
    intro r member departs
    cases departs with
    | inl asked =>
      rw [Relational.delete_clean (withIds_lasting _ _) event member] at asked
      cases asked
    | inr room =>
      obtain ⟨x, there, remnant⟩ := Relational.delete_remnant event member
      rw [withIds_remnant remnant, deleteChannels_clean rooms there] at room
      cases room
  refine { asChannels := ⟨rest, rooms, event⟩, satisfied := sound, absent := absent, unreferenced := ?_ }
  intro r member ref named x _ departs
  rw [Bool.eq_false_iff]
  intro refers
  obtain ⟨y, there, found⟩ := sound r member ref named
  obtain ⟨_, table, key⟩ := of_decide_eq_true refers
  obtain ⟨_, sameTable, sameKey⟩ := of_decide_eq_true found
  have alike (t : TableName) (ids : List String) : withIds t ids y = withIds t ids x := by
    simp only [withIds, ← sameTable, ← sameKey, table, key]
  refine absent y there ?_
  rw [Departs, alike, alike]
  exact departs

-- A held room fails the deletion after what it holds is gone.
theorem blocked_iff {perms : UserPermissions} {user : String} (satisfied : Satisfied db)
    (allowed : mayDeleteEvent perms user eventId db = .ok ()) (blocked : Blocked db (squadRooms db eventId)) :
    AllOrNothing db eventId (deleteEvent perms user eventId db) ↔ ¬ Emptied db (squadRooms db eventId) := by
  rw [deleteEvent, allowed]
  obtain ⟨e, failed, emptied⟩ := squadRooms_kept satisfied blocked
  have kept : AllOrNothing db eventId { deleteEventSquadRooms db eventId with answer := .error e } ↔
      (deleteEventSquadRooms db eventId).rows = db :=
    ⟨fun both => both.nothing e rfl, fun same => ⟨fun done => absurd done nofun, fun _ _ => same⟩⟩
  rw [unchanged_iff emptying_lasting emptied] at kept
  generalize deleteEventSquadRooms db eventId = d at failed kept
  obtain ⟨left, updated, answer⟩ := d
  cases failed
  refine kept.trans ⟨fun idle inside => ?_, fun free hit among r member => ?_⟩
  · obtain ⟨r, member, f, among, inside⟩ := inside
    rw [idle _ (List.mem_map_of_mem among) r member] at inside
    cases inside
  · obtain ⟨f, known, rfl⟩ := List.mem_map.mp among
    rw [Bool.eq_false_iff]
    exact fun inside => free ⟨r, member, f, known, inside⟩

theorem free_removed {perms : UserPermissions} {user : String} (satisfied : Satisfied db)
    (allowed : mayDeleteEvent perms user eventId db = .ok ()) (free : ¬ Blocked db (squadRooms db eventId)) :
    AllOrNothing db eventId (deleteEvent perms user eventId db) := by
  rw [deleteEvent, allowed]
  obtain ⟨done, rooms⟩ := squadRooms_deleted satisfied free
  generalize deleteEventSquadRooms db eventId = d at done rooms
  obtain ⟨rest, updated, answer⟩ := d
  cases done
  obtain ⟨left, event⟩ := event_deleted rest eventId
  have whole : autocommit [withIds .hubEvents [eventId]] rest = (left, .ok ()) := by
    rw [autocommit, event]
    rfl
  simp only [whole]
  constructor
  · exact fun _ => removed satisfied rooms event
  · intro e failed
    cases failed

/-- A deletion is all or nothing unless it empties rooms that something else holds. -/
theorem deletion_iff (perms : UserPermissions) (user eventId : String) (db : List Record) (satisfied : Satisfied db) :
    AllOrNothing db eventId (deleteEvent perms user eventId db) ↔
      ¬ (mayDeleteEvent perms user eventId db = .ok () ∧ Blocked db (squadRooms db eventId) ∧
        Emptied db (squadRooms db eventId)) := by
  cases allowed : mayDeleteEvent perms user eventId db with
  | error e =>
    rw [deleteEvent, allowed]
    exact iff_of_true ⟨fun done => absurd done nofun, fun _ _ => rfl⟩ fun all => absurd all.1 nofun
  | ok _ =>
    by_cases blocked : Blocked db (squadRooms db eventId)
    · rw [blocked_iff satisfied allowed blocked]
      exact ⟨fun free all => free all.2.2, fun free inside => free ⟨rfl, blocked, inside⟩⟩
    · exact iff_of_true (free_removed satisfied allowed blocked) fun all => blocked all.2.1

end

-- A record of a table; its references are those of the table.
def entry (table : TableName) (key : String) (refs : List (ForeignKey × String)) (data : Option String := none) :
    Record where
  table := table
  key := key
  refs := refs.filter fun ref => decide (schema.table ref.1 = table)
  data := data
  typed _ named := of_decide_eq_true (List.mem_filter.mp named).2

/-- An event with one room, in which there are a message and a poll. -/
def party : List Record :=
  [entry .users "alice" [],
    entry .channels "general" [(.channelsCreatedBy, "alice")],
    entry .hubEvents "party" [(.hubEventsChannelId, "general"), (.hubEventsCreatorPubkey, "alice")],
    entry .channels "room" [(.channelsCreatedBy, "alice")] (some "party"),
    entry .messages "hello" [(.messagesChannelId, "room"), (.messagesSender, "alice")],
    entry .polls "when" [(.pollsChannelId, "room")]]

def attendee : UserPermissions := { roles := [], effective := ∅, maxPriority := 0, isOwner := false }

instance (db : List Record) : Decidable (Satisfied db) :=
  inferInstanceAs (Decidable (∀ r ∈ db, ∀ ref ∈ r.refs, ∃ x ∈ db, r.refersTo x ref = true))

instance (db : List Record) (rooms : List String) : Decidable (Blocked db rooms) :=
  inferInstanceAs (Decidable (∃ r ∈ db, (∃ f ∈ [ForeignKey.pollsChannelId, .hubEventsChannelId, .webhooksChannelId],
    inChannels rooms f r = true) ∨ (inChannels rooms .channelsParentId r = true ∧ withIds .channels rooms r = false)))

instance (db : List Record) (rooms : List String) : Decidable (Emptied db rooms) :=
  inferInstanceAs (Decidable (∃ r ∈ db, ∃ f ∈ squadTables, inChannels rooms f r = true))

theorem party_satisfied : Satisfied party := by decide

-- The poll stops the deletion, and the message is lost.
theorem deletion_loses : Satisfied party ∧
    ¬ AllOrNothing party "party" (deleteEvent attendee "alice" "party" party) := by
  refine ⟨party_satisfied, fun whole => ?_⟩
  exact (blocked_iff party_satisfied (by decide) (by decide)).mp whole (by decide)

theorem deletion_iff_party : Satisfied party ∧
    (AllOrNothing party "party" (deleteEvent attendee "alice" "party" party) ↔
      ¬ (mayDeleteEvent attendee "alice" "party" party = .ok () ∧ Blocked party (squadRooms party "party") ∧
        Emptied party (squadRooms party "party"))) :=
  ⟨party_satisfied, deletion_iff attendee "alice" "party" party party_satisfied⟩

end Wavvon.Events
