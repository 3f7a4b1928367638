import Mathlib.Data.List.Dedup
import Mathlib.Data.List.Sort
import Wavvon.Apps.AuditLog
import Wavvon.Hub.Permissions

set_option autoImplicit false

namespace Wavvon.Apps

open Std (ExtTreeMap)

def REPLAY_WINDOW_SECS : Int := 72 * 3600

-- A channel of "" is a hub-wide subscription.
structure Subscription where
  appPubkey : String
  eventType : String
  channelId : String := ""
  deriving DecidableEq, Repr

-- What the envelopes need of the JSON library.
structure JsonText (Json : Type) where
  null : Json
  fromStr : String → Option Json

structure HubEvent (Json : Type) where
  kind : String := "hub_event"
  seq : Int
  event : String
  hubUrl : String
  stamp : Int
  actorPubkey : Option String := none
  targetPubkey : Option String := none
  channelId : Option String := none
  payload : Json
  replayed : Bool := false

-- A plain live envelope; the replay sets the optional fields it has.
def HubEvent.new {Json : Type} (seq : Int) (event hubUrl : String) (stamp : Int) (payload : Json) :
    HubEvent Json :=
  { seq := seq, event := event, hubUrl := hubUrl, stamp := stamp, payload := payload }

structure AppsDb where
  hub : Db := {}
  subscriptions : List Subscription := []
  auditLog : List AuditRow := []

inductive ReplayResult where
  | complete (replayed : Nat)
  | unavailable (earliestSeq earliestAt : Int)
  deriving DecidableEq, Repr

def hubUrlPublic (db : Db) : String :=
  (db.readSetting "hub_url").getD "https://unknown-hub"

-- The read check of both paths: an event outside any channel needs none.
def canRead (db : Db) (appPubkey : String) : Option String → Bool
  | none => true
  | some channelId => (channelPermissions db appPubkey channelId).has MESSAGES_READ

section

variable {Json : Type}

/--
The fan-out at the end of `publish_hub_event`: one envelope for every session of every app whose
subscription covers the event's type and channel and which may read the channel.
-/
def fanOut (db : AppsDb) (appSessions : Table (List String)) (seq now : Int) (eventType : String)
    (channelId : Option String) (payload : Json) : List (String × String × HubEvent Json) :=
  let subs := ((db.subscriptions.filter fun sub =>
    sub.eventType = eventType ∧ (sub.channelId = "" ∨ sub.channelId = channelId.getD "")).map
      (·.appPubkey)).dedup
  let envelope := HubEvent.new seq eventType (hubUrlPublic db.hub) now payload
  subs.flatMap fun appPubkey =>
    match appSessions[appPubkey]? with
    | none => []
    | some perApp =>
      if canRead db.hub appPubkey channelId then
        perApp.map fun sessionId => (appPubkey, sessionId, envelope)
      else []

-- `ORDER BY seq ASC`.
def orderBySeq (rows : List AuditRow) : List AuditRow :=
  rows.insertionSort fun first second => first.seq ≤ second.seq

variable (json : JsonText Json)

def replayEnvelope (db : AppsDb) (row : AuditRow) : HubEvent Json :=
  let payload := (json.fromStr row.payloadJson).getD json.null
  { HubEvent.new row.seq row.eventType (hubUrlPublic db.hub) row.stamp payload with
    actorPubkey := row.actorPubkey, targetPubkey := row.targetPubkey, channelId := row.channelId
    replayed := true }

def collectRows (db : AppsDb) (appPubkey : String) (subEvents : List String) (limit : Nat) :
    List AuditRow → List (HubEvent Json) → List (HubEvent Json)
  | [], events => events
  | row :: rest, events =>
    if limit ≤ events.length then events
    else if row.eventType ∉ subEvents then collectRows db appPubkey subEvents limit rest events
    else if !canRead db.hub appPubkey row.channelId then
      collectRows db appPubkey subEvents limit rest events
    else collectRows db appPubkey subEvents limit rest (events ++ [replayEnvelope json db row])

def earliestInWindow (log : List AuditRow) (windowStart : Int) : Option AuditRow :=
  (orderBySeq (log.filter fun row => windowStart ≤ row.stamp)).head?

def subscribedEvents (db : AppsDb) (appPubkey : String) : List String :=
  ((db.subscriptions.filter (·.appPubkey = appPubkey)).map (·.eventType)).dedup

def eventsForApp (db : AppsDb) (appPubkey : String) (sinceSeq : Option Int) (limit : Nat)
    (now : Int) : Except ReplayResult (List (HubEvent Json)) :=
  let windowStart := now - REPLAY_WINDOW_SECS
  match earliestInWindow db.auditLog windowStart with
  | none => .ok []
  | some earliest =>
    let since := sinceSeq.getD (earliest.seq - 1)
    if since < earliest.seq - 1 then .error (.unavailable earliest.seq earliest.stamp)
    else
      let subEvents := subscribedEvents db appPubkey
      if subEvents.isEmpty then .ok []
      else
        let rows := orderBySeq
          (db.auditLog.filter fun row => since < row.seq ∧ windowStart ≤ row.stamp)
        .ok (collectRows json db appPubkey subEvents limit rows [])

end

def Subscription.Covers (sub : Subscription) (appPubkey : String) (row : AuditRow) : Prop :=
  sub.appPubkey = appPubkey ∧ sub.eventType = row.eventType ∧
    (sub.channelId = "" ∨ sub.channelId = row.channelId.getD "")

-- Publishing the row's event would push an envelope to this session of the app.
def Pushes (db : AppsDb) (appSessions : Table (List String)) (appPubkey sessionId : String)
    (row : AuditRow) : Prop :=
  ∃ envelope, (appPubkey, sessionId, envelope) ∈
    fanOut db appSessions row.seq row.stamp row.eventType row.channelId row.payloadJson

def Deliverable (db : AppsDb) (appPubkey : String) (row : AuditRow) : Prop :=
  (∃ sub ∈ db.subscriptions, sub.Covers appPubkey row) ∧ canRead db.hub appPubkey row.channelId

def SinceInWindow (db : AppsDb) (now since : Int) : Prop :=
  ∀ earliest, earliestInWindow db.auditLog (now - REPLAY_WINDOW_SECS) = some earliest →
    earliest.seq - 1 ≤ since

structure ReplaysLive {Json : Type} (json : JsonText Json) (db : AppsDb)
    (appSessions : Table (List String)) (appPubkey sessionId : String) (since : Int)
    (events : List (HubEvent Json)) : Prop where
  ordered : events.Pairwise (·.seq < ·.seq)
  rows : ∀ envelope, envelope ∈ events ↔
    ∃ row ∈ db.auditLog, since < row.seq ∧ Pushes db appSessions appPubkey sessionId row ∧
      envelope = replayEnvelope json db row

/--
Where the two filters agree: a readable row of a subscribed type is in a channel the subscription
covers, a deliverable row is still in the window, and deliverable rows have seqs of their own.
-/
structure FiltersAgree (db : AppsDb) (appPubkey : String) (since windowStart : Int) : Prop where
  channels : ∀ row ∈ db.auditLog, since < row.seq → windowStart ≤ row.stamp →
    canRead db.hub appPubkey row.channelId → row.eventType ∈ subscribedEvents db appPubkey →
    ∃ sub ∈ db.subscriptions, sub.Covers appPubkey row
  window : ∀ row ∈ db.auditLog, since < row.seq → Deliverable db appPubkey row →
    windowStart ≤ row.stamp
  distinct : db.auditLog.Pairwise fun first second =>
    since < first.seq → since < second.seq →
      Deliverable db appPubkey first → Deliverable db appPubkey second → first.seq ≠ second.seq

theorem pushes_iff {db : AppsDb} {appSessions : Table (List String)} {appPubkey sessionId : String}
    (connected : sessionId ∈ (appSessions[appPubkey]?).getD []) (row : AuditRow) :
    Pushes db appSessions appPubkey sessionId row ↔ Deliverable db appPubkey row := by
  cases found : appSessions[appPubkey]? with
  | none => simp [found] at connected
  | some perApp =>
    have listed : sessionId ∈ perApp := by simpa [found] using connected
    constructor
    · rintro ⟨envelope, member⟩
      obtain ⟨app, inSubs, pushed⟩ := List.mem_flatMap.mp member
      cases sessionsOf : appSessions[app]? with
      | none => simp [sessionsOf] at pushed
      | some others =>
        by_cases readable : canRead db.hub app row.channelId
        · simp only [sessionsOf, readable, if_true, List.mem_map, Prod.mk.injEq] at pushed
          obtain ⟨_, _, rfl, _⟩ := pushed
          obtain ⟨sub, matching, owner⟩ := List.mem_map.mp (List.mem_dedup.mp inSubs)
          obtain ⟨stored, filtered⟩ := List.mem_filter.mp matching
          have covers := of_decide_eq_true filtered
          exact ⟨⟨sub, stored, owner, covers⟩, readable⟩
        · simp [sessionsOf, readable] at pushed
    · rintro ⟨⟨sub, stored, owner, covers⟩, readable⟩
      refine ⟨HubEvent.new row.seq row.eventType (hubUrlPublic db.hub) row.stamp row.payloadJson,
        List.mem_flatMap.mpr ⟨appPubkey, ?_, ?_⟩⟩
      · refine List.mem_dedup.mpr (List.mem_map.mpr ⟨sub, ?_, owner⟩)
        exact List.mem_filter.mpr ⟨stored, decide_eq_true covers⟩
      · simp only [found, readable, if_true]
        exact List.mem_map.mpr ⟨sessionId, listed, rfl⟩

theorem deliverable_subscribed {db : AppsDb} {appPubkey : String} {row : AuditRow}
    (deliverable : Deliverable db appPubkey row) : row.eventType ∈ subscribedEvents db appPubkey := by
  obtain ⟨⟨sub, stored, owner, sameType, _⟩, _⟩ := deliverable
  refine List.mem_dedup.mpr (List.mem_map.mpr ⟨sub, ?_, sameType⟩)
  exact List.mem_filter.mpr ⟨stored, decide_eq_true owner⟩

theorem mem_orderBySeq {rows : List AuditRow} {row : AuditRow} :
    row ∈ orderBySeq rows ↔ row ∈ rows :=
  List.mem_insertionSort _

theorem orderBySeq_pairwise (rows : List AuditRow) :
    (orderBySeq rows).Pairwise fun first second => first.seq ≤ second.seq := by
  have total : Std.Total fun first second : AuditRow => first.seq ≤ second.seq :=
    ⟨fun first second => Int.le_total first.seq second.seq⟩
  have trans : IsTrans AuditRow fun first second => first.seq ≤ second.seq :=
    ⟨fun _ _ _ below above => Int.le_trans below above⟩
  exact List.pairwise_insertionSort _ rows

section

variable {Json : Type} (json : JsonText Json)

def Admits (db : AppsDb) (appPubkey : String) (row : AuditRow) : Bool :=
  decide (row.eventType ∈ subscribedEvents db appPubkey) && canRead db.hub appPubkey row.channelId

theorem collectRows_eq (db : AppsDb) (appPubkey : String) (limit : Nat) (rows : List AuditRow)
    (events : List (HubEvent Json)) :
    collectRows json db appPubkey (subscribedEvents db appPubkey) limit rows events =
      events ++ ((rows.filter (Admits db appPubkey)).take (limit - events.length)).map (replayEnvelope json db) := by
  induction rows generalizing events with
  | nil => simp [collectRows]
  | cons row rest ih =>
    by_cases full : limit ≤ events.length
    · rw [collectRows, if_pos full, Nat.sub_eq_zero_of_le full, List.take_zero, List.map_nil, List.append_nil]
    · rw [collectRows, if_neg full]
      cases typed : decide (row.eventType ∈ subscribedEvents db appPubkey) with
      | false =>
        have refused : ¬ Admits db appPubkey row = true := by simp [Admits, typed]
        rw [if_pos (of_decide_eq_false typed), ih, List.filter_cons_of_neg refused]
      | true =>
        rw [if_neg (not_not.mpr (of_decide_eq_true typed))]
        cases readable : canRead db.hub appPubkey row.channelId with
        | false =>
          have refused : ¬ Admits db appPubkey row = true := by simp [Admits, readable]
          rw [Bool.not_false, if_pos rfl, ih, List.filter_cons_of_neg refused]
        | true =>
          have admitted : Admits db appPubkey row = true := by simp [Admits, typed, readable]
          obtain ⟨left, counted⟩ : ∃ left, limit - events.length = left + 1 := ⟨limit - events.length - 1, by omega⟩
          have less : limit - (events ++ [replayEnvelope json db row]).length = left := by
            rw [List.length_append, List.length_singleton]
            omega
          rw [Bool.not_true, if_neg Bool.false_ne_true, ih, List.filter_cons_of_pos admitted, counted, less,
            List.take_succ_cons, List.map_cons, List.append_assoc, List.singleton_append]

-- A limit the whole log fits under never cuts the walk short.
theorem collectRows_unlimited (db : AppsDb) (appPubkey : String) (limit : Nat)
    (rows : List AuditRow) (events : List (HubEvent Json))
    (unlimited : events.length + rows.length ≤ limit) :
    collectRows json db appPubkey (subscribedEvents db appPubkey) limit rows events =
      events ++ (rows.filter (Admits db appPubkey)).map (replayEnvelope json db) := by
  have fewer := List.length_filter_le (Admits db appPubkey) rows
  rw [collectRows_eq, List.take_of_length_le (by omega)]

def replayedRows (db : AppsDb) (appPubkey : String) (since windowStart : Int) : List AuditRow :=
  (orderBySeq (db.auditLog.filter fun row => since < row.seq ∧ windowStart ≤ row.stamp)).filter
    (Admits db appPubkey)

theorem mem_replayedRows {db : AppsDb} {appPubkey : String} {since windowStart : Int}
    {row : AuditRow} :
    row ∈ replayedRows db appPubkey since windowStart ↔
      row ∈ db.auditLog ∧ since < row.seq ∧ windowStart ≤ row.stamp ∧
        row.eventType ∈ subscribedEvents db appPubkey ∧ canRead db.hub appPubkey row.channelId := by
  simp [replayedRows, mem_orderBySeq, Admits, and_assoc]

-- The early returns answer with no row because no row is in the window or of a subscribed type.
theorem eventsForApp_eq (db : AppsDb) (appPubkey : String) (since : Int) (limit : Nat) (now : Int)
    (inside : SinceInWindow db now since) (unlimited : db.auditLog.length ≤ limit) :
    eventsForApp json db appPubkey (some since) limit now =
      .ok ((replayedRows db appPubkey since (now - REPLAY_WINDOW_SECS)).map
        (replayEnvelope json db)) := by
  unfold eventsForApp
  simp only [Option.getD_some]
  cases found : earliestInWindow db.auditLog (now - REPLAY_WINDOW_SECS) with
  | none =>
    have nothing : replayedRows db appPubkey since (now - REPLAY_WINDOW_SECS) = [] := by
      rw [List.eq_nil_iff_forall_not_mem]
      intro row member
      obtain ⟨stored, _, recent, _⟩ := mem_replayedRows.mp member
      have empty := List.head?_eq_none_iff.mp found
      have listed : row ∈ orderBySeq
          (db.auditLog.filter fun row => now - REPLAY_WINDOW_SECS ≤ row.stamp) :=
        mem_orderBySeq.mpr (List.mem_filter.mpr ⟨stored, decide_eq_true recent⟩)
      rw [empty] at listed
      cases listed
    simp [nothing]
  | some earliest =>
    have after := inside earliest found
    have within : ¬ since < earliest.seq - 1 := by omega
    simp only [within, if_false]
    by_cases unsubscribed : (subscribedEvents db appPubkey).isEmpty
    · have nothing : replayedRows db appPubkey since (now - REPLAY_WINDOW_SECS) = [] := by
        rw [List.eq_nil_iff_forall_not_mem]
        intro row member
        obtain ⟨_, _, _, typed, _⟩ := mem_replayedRows.mp member
        rw [List.isEmpty_iff.mp unsubscribed] at typed
        cases typed
      simp [unsubscribed, nothing]
    · simp only [unsubscribed, Bool.false_eq_true, if_false, replayedRows]
      congr 1
      rw [collectRows_unlimited]
      · simp
      · have shorter := List.length_filter_le
          (fun row : AuditRow => since < row.seq ∧ now - REPLAY_WINDOW_SECS ≤ row.stamp) db.auditLog
        rw [orderBySeq, List.length_insertionSort, List.length_nil, Nat.zero_add]
        exact shorter.trans unlimited

@[simp] theorem replayEnvelope_seq (db : AppsDb) (row : AuditRow) :
    (replayEnvelope json db row).seq = row.seq := rfl

theorem replayEnvelope_row {db : AppsDb} {first second : AuditRow}
    (same : replayEnvelope json db first = replayEnvelope json db second) :
    first.seq = second.seq ∧ first.stamp = second.stamp ∧ first.eventType = second.eventType ∧
      first.channelId = second.channelId := by
  simp only [replayEnvelope, HubEvent.new, HubEvent.mk.injEq] at same
  exact ⟨same.2.1, same.2.2.2.2.1, same.2.2.1, same.2.2.2.2.2.2.2.1⟩

theorem deliverable_congr {db : AppsDb} {appPubkey : String} {first second : AuditRow}
    (sameType : first.eventType = second.eventType)
    (sameChannel : first.channelId = second.channelId)
    (deliverable : Deliverable db appPubkey first) : Deliverable db appPubkey second := by
  simpa only [Deliverable, Subscription.Covers, sameType, sameChannel] using deliverable

variable {json} {db : AppsDb} {appPubkey : String} {since windowStart : Int}

def Replayed (db : AppsDb) (appPubkey : String) (since windowStart : Int) (row : AuditRow) : Prop :=
  since < row.seq ∧ windowStart ≤ row.stamp ∧
    row.eventType ∈ subscribedEvents db appPubkey ∧ canRead db.hub appPubkey row.channelId

theorem replayedRows_perm :
    (replayedRows db appPubkey since windowStart).Perm
      (db.auditLog.filter fun row =>
        Admits db appPubkey row && decide (since < row.seq ∧ windowStart ≤ row.stamp)) := by
  rw [← List.filter_filter]
  exact (List.perm_insertionSort _ _).filter _

-- Sorting only leaves equal seqs to tell apart, and those the answer takes over from the log.
theorem replayedRows_strict_iff :
    (replayedRows db appPubkey since windowStart).Pairwise (·.seq < ·.seq) ↔
      db.auditLog.Pairwise fun first second =>
        Replayed db appPubkey since windowStart first →
          Replayed db appPubkey since windowStart second → first.seq ≠ second.seq := by
  have ordered : (replayedRows db appPubkey since windowStart).Pairwise (·.seq ≤ ·.seq) :=
    (orderBySeq_pairwise _).filter _
  have apart : (replayedRows db appPubkey since windowStart).Pairwise (·.seq < ·.seq) ↔
      (replayedRows db appPubkey since windowStart).Pairwise (·.seq ≠ ·.seq) := by
    constructor
    · exact List.Pairwise.imp fun below => Int.ne_of_lt below
    · exact ordered.imp₂ fun _ _ below differ => lt_of_le_of_ne below differ
  have admitted : ∀ row, (Admits db appPubkey row &&
      decide (since < row.seq ∧ windowStart ≤ row.stamp)) = true ↔
        Replayed db appPubkey since windowStart row := by
    intro row
    simp only [Admits, Replayed, Bool.and_eq_true, decide_eq_true_eq]
    tauto
  rw [apart, replayedRows_perm.pairwise_iff Ne.symm, List.pairwise_filter]
  simp only [admitted]

theorem FiltersAgree.replayed_iff (agree : FiltersAgree db appPubkey since windowStart)
    {row : AuditRow} (stored : row ∈ db.auditLog) :
    Replayed db appPubkey since windowStart row ↔ since < row.seq ∧ Deliverable db appPubkey row := by
  constructor
  · rintro ⟨after, recent, typed, readable⟩
    exact ⟨after, agree.channels row stored after recent readable typed, readable⟩
  · rintro ⟨after, deliverable⟩
    exact ⟨after, agree.window row stored after deliverable, deliverable_subscribed deliverable,
      deliverable.2⟩

variable {appSessions : Table (List String)} {sessionId : String}
  (connected : sessionId ∈ (appSessions[appPubkey]?).getD [])

include connected in
theorem FiltersAgree.replaysLive (agree : FiltersAgree db appPubkey since windowStart) :
    ReplaysLive json db appSessions appPubkey sessionId since
      ((replayedRows db appPubkey since windowStart).map (replayEnvelope json db)) := by
  constructor
  · refine List.pairwise_map.mpr (replayedRows_strict_iff.mpr ?_)
    refine agree.distinct.imp_of_mem ?_
    intro first second left right differ replayedFirst replayedSecond
    obtain ⟨early, deliverableFirst⟩ := (agree.replayed_iff left).mp replayedFirst
    obtain ⟨late, deliverableSecond⟩ := (agree.replayed_iff right).mp replayedSecond
    exact differ early late deliverableFirst deliverableSecond
  · intro envelope
    simp only [List.mem_map, mem_replayedRows, pushes_iff connected]
    constructor
    · rintro ⟨row, ⟨stored, replayed⟩, rfl⟩
      obtain ⟨after, deliverable⟩ := (agree.replayed_iff stored).mp replayed
      exact ⟨row, stored, after, deliverable, rfl⟩
    · rintro ⟨row, stored, after, deliverable, rfl⟩
      exact ⟨row, ⟨stored, (agree.replayed_iff stored).mpr ⟨after, deliverable⟩⟩, rfl⟩

include connected in
theorem ReplaysLive.filtersAgree
    (live : ReplaysLive json db appSessions appPubkey sessionId since
      ((replayedRows db appPubkey since windowStart).map (replayEnvelope json db))) :
    FiltersAgree db appPubkey since windowStart := by
  -- An envelope shows its row's type, channel and stamp, which is all the two filters look at.
  have window : ∀ row ∈ db.auditLog, since < row.seq → Deliverable db appPubkey row →
      windowStart ≤ row.stamp := by
    intro row stored after deliverable
    have returned := (live.rows (replayEnvelope json db row)).mpr
      ⟨row, stored, after, (pushes_iff connected row).mpr deliverable, rfl⟩
    obtain ⟨other, member, same⟩ := List.mem_map.mp returned
    obtain ⟨_, _, recent, _⟩ := mem_replayedRows.mp member
    exact (replayEnvelope_row json same).2.1 ▸ recent
  refine ⟨?_, window, ?_⟩
  · intro row stored after recent readable typed
    have member := mem_replayedRows.mpr ⟨stored, after, recent, typed, readable⟩
    obtain ⟨other, _, _, pushed, same⟩ :=
      (live.rows (replayEnvelope json db row)).mp (List.mem_map.mpr ⟨row, member, rfl⟩)
    obtain ⟨_, _, sameType, sameChannel⟩ := replayEnvelope_row json same
    exact (deliverable_congr sameType.symm sameChannel.symm ((pushes_iff connected other).mp pushed)).1
  · have strict : (replayedRows db appPubkey since windowStart).Pairwise (·.seq < ·.seq) := by
      simpa only [List.pairwise_map, replayEnvelope_seq] using live.ordered
    refine (replayedRows_strict_iff.mp strict).imp_of_mem ?_
    intro first second left right differ early late deliverableFirst deliverableSecond
    exact differ
      ⟨early, window first left early deliverableFirst, deliverable_subscribed deliverableFirst,
        deliverableFirst.2⟩
      ⟨late, window second right late deliverableSecond, deliverable_subscribed deliverableSecond,
        deliverableSecond.2⟩

/--
A replay from inside the window is what the live stream would have pushed to a connected session
exactly when the two paths' filters agree on the rows after `since`.
-/
theorem eventsForApp_live_iff (json : JsonText Json) (db : AppsDb)
    (appSessions : Table (List String)) (appPubkey sessionId : String)
    (connected : sessionId ∈ (appSessions[appPubkey]?).getD []) (since now : Int) (limit : Nat)
    (inside : SinceInWindow db now since) (unlimited : db.auditLog.length ≤ limit) :
    (∃ events, eventsForApp json db appPubkey (some since) limit now = .ok events ∧
        ReplaysLive json db appSessions appPubkey sessionId since events) ↔
      FiltersAgree db appPubkey since (now - REPLAY_WINDOW_SECS) := by
  rw [eventsForApp_eq json db appPubkey since limit now inside unlimited]
  constructor
  · rintro ⟨events, answered, live⟩
    cases answered
    exact live.filtersAgree connected
  · intro agree
    exact ⟨_, rfl, agree.replaysLive connected⟩

end

-- Payloads kept as the text they are stored as.
def rawJson : JsonText String where
  null := "null"
  fromStr := some

-- An app that may read both channels and asked for the messages of one of them.
def twoChannels (rows : List AuditRow) : AppsDb :=
  let lobby : Channel := { name := "lobby", createdBy := "ann" }
  let den : Channel := { name := "den", createdBy := "ann" }
  { hub :=
      { users := (∅ : Table User).insert "bot" { isMember := true }
        roles := (∅ : Table Role).insert "builtin-everyone" { name := "everyone" }
        rolePermissions := {("builtin-everyone", "messages.read")}
        channels := ((∅ : Table Channel).insert "lobby" lobby).insert "den" den }
    subscriptions := [{ appPubkey := "bot", eventType := "message.created", channelId := "lobby" }]
    auditLog := rows }

def lobbyMessage : AuditRow :=
  { id := "a", seq := 1, eventType := "message.created", stamp := 300000, channelId := some "lobby" }

def denMessage : AuditRow :=
  { id := "b", seq := 2, eventType := "message.created", stamp := 300000, channelId := some "den" }

def botSession : Table (List String) := (∅ : Table (List String)).insert "bot" ["s1"]

theorem eventsForApp_live_iff_lobby :
    ∃ events, eventsForApp rawJson (twoChannels [lobbyMessage]) "bot" (some 0) 100 300000 = .ok events ∧
      ReplaysLive rawJson (twoChannels [lobbyMessage]) botSession "bot" "s1" 0 events := by
  have inside : SinceInWindow (twoChannels [lobbyMessage]) 300000 0 := by
    intro earliest found
    cases found
    decide
  refine (eventsForApp_live_iff rawJson (twoChannels [lobbyMessage]) botSession "bot" "s1"
    (by decide) 0 300000 100 inside (by decide)).mpr ⟨?_, ?_, ?_⟩
  · intro row stored _ _ _ _
    rw [List.mem_singleton.mp stored]
    exact ⟨_, List.mem_singleton_self _, rfl, rfl, .inr rfl⟩
  · intro row stored _ _
    rw [List.mem_singleton.mp stored]
    decide
  · exact List.pairwise_singleton _ _

-- The replay hands back the message of the channel the app never subscribed to.
theorem eventsForApp_live_den :
    SinceInWindow (twoChannels [lobbyMessage, denMessage]) 300000 0 ∧
      eventsForApp rawJson (twoChannels [lobbyMessage, denMessage]) "bot" (some 0) 100 300000 =
        .ok [replayEnvelope rawJson (twoChannels []) lobbyMessage,
          replayEnvelope rawJson (twoChannels []) denMessage] ∧
      ¬ Pushes (twoChannels [lobbyMessage, denMessage]) botSession "bot" "s1" denMessage ∧
      ¬ ∃ events, eventsForApp rawJson (twoChannels [lobbyMessage, denMessage]) "bot" (some 0) 100
          300000 = .ok events ∧
        ReplaysLive rawJson (twoChannels [lobbyMessage, denMessage]) botSession "bot" "s1" 0 events := by
  have answer : eventsForApp rawJson (twoChannels [lobbyMessage, denMessage]) "bot" (some 0) 100
      300000 = .ok [replayEnvelope rawJson (twoChannels []) lobbyMessage,
        replayEnvelope rawJson (twoChannels []) denMessage] := by
    rfl
  have withheld : ∀ row : AuditRow, row.seq = 2 → row ∈ [lobbyMessage, denMessage] →
      ¬ Pushes (twoChannels [lobbyMessage, denMessage]) botSession "bot" "s1" row := by
    intro row second stored
    rw [pushes_iff (by decide)]
    rintro ⟨⟨sub, listed, _, _, covered⟩, _⟩
    rcases List.mem_pair.mp stored with rfl | rfl
    · cases second
    · rw [List.mem_singleton.mp listed] at covered
      exact absurd covered (by decide)
  refine ⟨?_, answer, withheld denMessage rfl (by simp), ?_⟩
  · intro earliest found
    cases found
    decide
  · rintro ⟨events, returned, live⟩
    rw [answer] at returned
    cases returned
    obtain ⟨row, stored, _, pushed, same⟩ :=
      (live.rows (replayEnvelope rawJson (twoChannels []) denMessage)).mp (by simp)
    have second : (2 : Int) = row.seq := congrArg HubEvent.seq same
    exact withheld row second.symm stored pushed

end Wavvon.Apps
