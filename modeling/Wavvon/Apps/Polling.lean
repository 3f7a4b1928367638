import Wavvon.Apps.Replay
import Wavvon.Shared.Keyset

set_option autoImplicit false

namespace Wavvon.Apps

open Keyset (between between_page after)

def MAX_EVENTS_PER_POLL : Nat := 100

structure PollQuery where
  cursor : Option Int := none
  limit : Option Nat := none
  deriving DecidableEq, Repr

-- A page of events, or the 410 of a cursor that has fallen out of the window.
inductive PollAnswer (Json : Type) where
  | events (page : List (HubEvent Json))
  | gone (earliestSeq earliestAt : Int)

-- `clamp`
def pollLimit (limit : Option Nat) : Nat := min (max (limit.getD MAX_EVENTS_PER_POLL) 1) MAX_EVENTS_PER_POLL

-- The subscriptions and rights of one app, which stay as they are while it polls.
structure PollingApp (Json : Type) where
  json : JsonText Json
  publicKey : String
  hub : Db := {}
  subscriptions : List Subscription := []

namespace PollingApp

variable {Json : Type} (app : PollingApp Json)

def db (log : List AuditRow) : AppsDb := { hub := app.hub, subscriptions := app.subscriptions, auditLog := log }

def pollEvents (log : List AuditRow) (params : PollQuery) (now : Int) : PollAnswer Json :=
  match eventsForApp app.json (app.db log) app.publicKey params.cursor (pollLimit params.limit) now with
  | .ok events => .events events
  | .error (.unavailable earliestSeq earliestAt) => .gone earliestSeq earliestAt
  | .error (.complete _) => .events []

-- What the app may be handed of a row, which the rest of the log has no part in.
def Receives (row : AuditRow) : Bool := Admits (app.db []) app.publicKey row

def envelope (row : AuditRow) : HubEvent Json := replayEnvelope app.json (app.db []) row

end PollingApp

/-- The audit log beside a caller that passes back the last `seq` it saw, and what it has been handed. -/
structure Poller (Json : Type) where
  log : List AuditRow := []
  cursor : Option Int := none
  received : List (HubEvent Json) := []
  gone : Bool := false

inductive PollStep where
  | publish (row : AuditRow)
  | poll (limit : Option Nat) (now : Int)
  deriving DecidableEq, Repr

namespace Poller

variable {Json : Type}

def accept (p : Poller Json) : PollAnswer Json → Poller Json
  | .events page =>
    { p with cursor := (page.getLast?.map (·.seq)).or p.cursor, received := p.received ++ page }
  | .gone _ _ => { p with gone := true }

def poll (app : PollingApp Json) (p : Poller Json) (limit : Option Nat) (now : Int) : Poller Json :=
  p.accept (app.pollEvents p.log { cursor := p.cursor, limit := limit } now)

def step (app : PollingApp Json) (p : Poller Json) : PollStep → Poller Json
  | .publish row => { p with log := p.log ++ [row] }
  | .poll limit now => p.poll app limit now

-- The events of a stretch of the log, in its order.
def stretch (app : PollingApp Json) (log : List AuditRow) (start stop : Int) : List (HubEvent Json) :=
  (between (·.seq) (log.filter app.Receives) start stop).map app.envelope

def rest (app : PollingApp Json) (log : List AuditRow) (start : Int) : List (HubEvent Json) :=
  (after (·.seq) (log.filter app.Receives) start).map app.envelope

-- Nothing was left out and nothing handed out twice between where it began and its cursor.
def Delivered (app : PollingApp Json) (began : Option Int) (p : Poller Json) : Prop :=
  ∃ start, (∀ c ∈ began, start = c) ∧ p.received = stretch app p.log start (p.cursor.getD start)

-- Everything is there that was published since it began.
def Complete (app : PollingApp Json) (began : Option Int) (p : Poller Json) : Prop :=
  ∃ start, (∀ c ∈ began, start = c) ∧ p.received = rest app p.log start

/-- A poll that leaves room in its page, of a log whose window is not empty. -/
structure Drains (app : PollingApp Json) (p : Poller Json) (limit : Option Nat) (now : Int) : Prop where
  answered : (p.poll app limit now).gone = false
  room : (p.poll app limit now).received.length < p.received.length + pollLimit limit
  recent : ∃ row ∈ p.log, now - REPLAY_WINDOW_SECS ≤ row.stamp

end Poller

-- Seqs grow along the log, and the clock does not go back.
def Earlier (first second : AuditRow) : Prop := first.seq < second.seq ∧ first.stamp ≤ second.stamp

def PublishesInOrder {Json : Type} (p : Poller Json) : PollStep → Prop
  | .publish row => ∀ earlier ∈ p.log, Earlier earlier row
  | .poll _ _ => True

section

variable {Json : Type} {app : PollingApp Json}

variable {log : List AuditRow} {row earliest : AuditRow}

theorem mem_earliest {windowStart : Int} (found : earliestInWindow log windowStart = some earliest) :
    earliest ∈ log ∧ windowStart ≤ earliest.stamp := by
  have listed := mem_orderBySeq.mp (List.mem_of_mem_head? found)
  obtain ⟨stored, recent⟩ := List.mem_filter.mp listed
  exact ⟨stored, of_decide_eq_true recent⟩

theorem window_empty {windowStart : Int} (none_found : earliestInWindow log windowStart = none) :
    ∀ row ∈ log, row.stamp < windowStart := by
  intro row stored
  by_contra recent
  have listed : row ∈ orderBySeq (log.filter fun row => windowStart ≤ row.stamp) :=
    mem_orderBySeq.mpr (List.mem_filter.mpr ⟨stored, decide_eq_true (not_lt.mp recent)⟩)
  rw [List.head?_eq_none_iff.mp none_found] at listed
  cases listed

-- In a log in order what comes no earlier than a row is no older.
theorem stamp_le (ordered : log.Pairwise Earlier) (stored : earliest ∈ log) (listed : row ∈ log)
    (later : earliest.seq ≤ row.seq) : earliest.stamp ≤ row.stamp := by
  by_cases same : earliest = row
  · rw [same]
  · have symm : Std.Symm fun a b => Earlier a b ∨ Earlier b a := ⟨fun _ _ => Or.symm⟩
    have either : log.Pairwise fun a b => Earlier a b ∨ Earlier b a := ordered.imp .inl
    rcases either.forall stored listed same with before | behind
    · exact before.2
    · exact absurd behind.1 (not_lt.mpr later)

theorem receives_ascending (ordered : log.Pairwise Earlier) :
    (log.filter app.Receives).Pairwise fun a b => a.seq < b.seq :=
  (ordered.sublist List.filter_sublist).imp And.left

/-- Of a log in order, a page is what follows the cursor; only where the window is empty it says nothing. -/
theorem pollEvents_page (ordered : log.Pairwise Earlier) {params : PollQuery} {now : Int}
    {page : List (HubEvent Json)} (answered : app.pollEvents log params now = .events page) :
    (page = [] ∧ ∀ row ∈ log, row.stamp < now - REPLAY_WINDOW_SECS) ∨
      ∃ since, (∀ c ∈ params.cursor, since = c) ∧
        page = ((after (·.seq) (log.filter app.Receives) since).take (pollLimit params.limit)).map app.envelope := by
  unfold PollingApp.pollEvents eventsForApp at answered
  dsimp only at answered
  cases found : earliestInWindow (app.db log).auditLog (now - REPLAY_WINDOW_SECS) with
  | none =>
    rw [found] at answered
    cases answered
    exact .inl ⟨rfl, window_empty found⟩
  | some earliest =>
    obtain ⟨stored, recent⟩ := mem_earliest found
    rw [found] at answered
    dsimp only at answered
    refine .inr ⟨params.cursor.getD (earliest.seq - 1), ?_, ?_⟩
    · intro c named
      rw [Option.mem_def.mp named, Option.getD_some]
    · generalize params.cursor.getD (earliest.seq - 1) = since at answered ⊢
      split at answered
      next events told =>
        injection answered with same
        subst same
        split at told
        next => cases told
        next reaches =>
          split at told
          next nothing =>
            cases told
            have unsubscribed : log.filter app.Receives = [] := by
              rw [List.filter_eq_nil_iff]
              intro row _ admitted
              have typed := of_decide_eq_true (Bool.and_eq_true_iff.mp admitted).1
              rw [show subscribedEvents (app.db []) app.publicKey = [] from List.isEmpty_iff.mp nothing] at typed
              cases typed
            rw [unsubscribed, after, List.filter_nil, List.take_nil, List.map_nil]
          next =>
            injection told with told
            have inside : (log.filter fun row => since < row.seq ∧ now - REPLAY_WINDOW_SECS ≤ row.stamp) =
                log.filter fun row => since < row.seq := by
              refine List.filter_congr fun row listed => decide_eq_decide.mpr ⟨And.left, fun past => ⟨past, ?_⟩⟩
              exact recent.trans (stamp_le ordered stored listed (by omega))
            have rows : orderBySeq (log.filter fun row => since < row.seq ∧ now - REPLAY_WINDOW_SECS ≤ row.stamp) =
                log.filter fun row => since < row.seq := by
              rw [inside, orderBySeq]
              exact ((ordered.sublist List.filter_sublist).imp fun before => before.1.le).insertionSort_eq
            rw [← told, collectRows_eq]
            change (((orderBySeq (log.filter fun row =>
              since < row.seq ∧ now - REPLAY_WINDOW_SECS ≤ row.stamp)).filter app.Receives).take _).map app.envelope = _
            rw [rows, List.length_nil, Nat.sub_zero, after, List.filter_comm]
      next => cases answered
      next told =>
        split at told
        next => cases told
        next => split at told <;> cases told

namespace Poller

variable {p : Poller Json} {began : Option Int} {start since : Int}

/-- Where a poller began, and that its cursor stands there or at a row. -/
structure Reached (app : PollingApp Json) (began : Option Int) (p : Poller Json) (start : Int) : Prop where
  begins : ∀ c ∈ began, start = c
  kept : p.cursor = none → began = none
  forward : start ≤ p.cursor.getD start
  placed : p.cursor.getD start = start ∨ ∃ row ∈ p.log, row.seq = p.cursor.getD start
  received : p.received = stretch app p.log start (p.cursor.getD start)

theorem Reached.publish (reached : Reached app began p start) {row : AuditRow}
    (inOrder : ∀ earlier ∈ p.log, Earlier earlier row) :
    Reached app began { p with log := p.log ++ [row] } start where
  begins := reached.begins
  kept := reached.kept
  forward := reached.forward
  placed := reached.placed.imp_right fun ⟨at_, listed, same⟩ => ⟨at_, List.mem_append_left _ listed, same⟩
  received := by
    rw [stretch, List.filter_append, Keyset.between_append]
    · exact reached.received
    · intro new inside past
      obtain rfl := List.mem_singleton.mp (List.mem_filter.mp inside).1
      rcases reached.placed with same | ⟨at_, listed, same⟩
      · rw [same]
        exact past
      · rw [← same]
        exact (inOrder at_ listed).1

-- A poll goes on from the cursor; without one it begins where it is told to.
theorem Reached.goes_on (reached : Reached app began p start) (from_cursor : ∀ c ∈ p.cursor, since = c) :
    ∃ start', (∀ c ∈ began, start' = c) ∧ start' ≤ since ∧ p.received = stretch app p.log start' since := by
  cases found : p.cursor with
  | none =>
    refine ⟨since, ?_, le_refl _, ?_⟩
    · rw [reached.kept found]
      intro c named
      cases named
    · rw [reached.received, found, Option.getD_none, stretch, stretch, Keyset.between_self, Keyset.between_self]
  | some c =>
    have received := reached.received
    have forward := reached.forward
    obtain rfl := from_cursor c found
    rw [found, Option.getD_some] at received forward
    exact ⟨start, reached.begins, forward, received⟩

theorem Reached.poll (ordered : p.log.Pairwise Earlier) (reached : Reached app began p start) (limit : Option Nat)
    (now : Int) (answered : (p.poll app limit now).gone = false) :
    ∃ start', Reached app began (p.poll app limit now) start' := by
  unfold Poller.poll at answered ⊢
  cases told : app.pollEvents p.log { cursor := p.cursor, limit := limit } now with
  | gone earliestSeq earliestAt =>
    rw [told] at answered
    cases answered
  | events page =>
    obtain ⟨rfl, -⟩ | ⟨since, from_cursor, rfl⟩ := pollEvents_page ordered told
    · refine ⟨start, ?_⟩
      rw [accept, List.getLast?_nil, Option.map_none, Option.none_or, List.append_nil]
      exact reached
    · rw [accept, List.getLast?_map]
      cases last : ((after (·.seq) (p.log.filter app.Receives) since).take (pollLimit limit)).getLast? with
      | none =>
        rw [List.getLast?_eq_none_iff.mp last, Option.map_none, Option.map_none, Option.none_or, List.map_nil,
          List.append_nil]
        exact ⟨start, reached⟩
      | some row =>
        obtain ⟨start', began, forward, received⟩ := reached.goes_on from_cursor
        obtain ⟨listed, past⟩ := Keyset.mem_after.mp (List.mem_of_mem_take (List.mem_of_getLast? last))
        rw [Option.map_some, Option.map_some, Option.some_or]
        refine ⟨start', began, fun cleared => absurd cleared (Option.some_ne_none _), forward.trans past.le,
          .inr ⟨row, (List.mem_filter.mp listed).1, rfl⟩, ?_⟩
        rw [received, stretch, ← List.map_append, between_page (receives_ascending ordered) forward last]
        rfl

theorem accept_gone {answer : PollAnswer Json} (answered : (p.accept answer).gone = false) : p.gone = false := by
  cases answer with
  | events page => exact answered
  | gone _ _ => cases answered

/-- What a run in order keeps. -/
structure Follows (app : PollingApp Json) (began : Option Int) (p : Poller Json) : Prop where
  ordered : p.log.Pairwise Earlier
  reached : p.gone = false → ∃ start, Reached app began p start

theorem Follows.step (follows : Follows app began p) (act : PollStep) (inOrder : PublishesInOrder p act) :
    Follows app began (p.step app act) := by
  cases act with
  | publish row =>
    refine ⟨List.pairwise_append.mpr ⟨follows.ordered, List.pairwise_singleton _ _, ?_⟩, fun answered => ?_⟩
    · intro earlier listed new inside
      rw [List.mem_singleton.mp inside]
      exact inOrder earlier listed
    · exact (follows.reached answered).imp fun _ reached => reached.publish inOrder
  | poll limit now =>
    refine ⟨?_, fun answered => ?_⟩
    · change (p.accept _).log.Pairwise Earlier
      unfold accept
      split <;> exact follows.ordered
    · obtain ⟨start, reached⟩ := follows.reached (accept_gone answered)
      exact reached.poll follows.ordered limit now answered

theorem Follows.drains (follows : Follows app began p) {limit : Option Nat} {now : Int}
    (drains : Drains app p limit now) : Complete app began (p.poll app limit now) := by
  obtain ⟨start, reached⟩ := follows.reached (accept_gone drains.answered)
  have answered := drains.answered
  have room := drains.room
  unfold Poller.poll at answered room ⊢
  cases told : app.pollEvents p.log { cursor := p.cursor, limit := limit } now with
  | gone earliestSeq earliestAt =>
    rw [told] at answered
    cases answered
  | events page =>
    obtain ⟨-, old⟩ | ⟨since, from_cursor, rfl⟩ := pollEvents_page follows.ordered told
    · obtain ⟨row, listed, recent⟩ := drains.recent
      exact absurd recent (not_le.mpr (old row listed))
    · obtain ⟨start', began, forward, received⟩ := reached.goes_on from_cursor
      rw [told, accept] at room
      simp only [List.length_append, List.length_map, List.length_take] at room
      refine ⟨start', began, ?_⟩
      rw [accept]
      dsimp only
      rw [List.take_of_length_le (by omega), received, stretch, ← List.map_append,
        Keyset.between_after (receives_ascending follows.ordered) forward, rest]

end Poller

end

/--
A caller that passes its last `seq` back is handed each event that its app may have once and in order,
whatever is published between its polls; a page with room in it leaves nothing behind.
-/
theorem polls_deliver {Json : Type} (app : PollingApp Json) (log : List AuditRow) (began : Option Int)
    (acts : List PollStep) (ordered : log.Pairwise Earlier)
    (inOrder : Runs.Meets (Poller.step app) PublishesInOrder { log := log, cursor := began } acts)
    (answered : (Runs.run (Poller.step app) { log := log, cursor := began } acts).gone = false) :
    Poller.Delivered app began (Runs.run (Poller.step app) { log := log, cursor := began } acts) ∧
      ∀ limit now, Poller.Drains app (Runs.run (Poller.step app) { log := log, cursor := began } acts) limit now →
        Poller.Complete app began
          ((Runs.run (Poller.step app) { log := log, cursor := began } acts).poll app limit now) := by
  have follows : Poller.Follows app began (Runs.run (Poller.step app) { log := log, cursor := began } acts) := by
    refine Runs.Meets.invariant (Poller.Follows app began) (fun _ act follows met => follows.step act met)
      ⟨ordered, fun _ => ?_⟩ inOrder
    cases began with
    | none =>
      refine ⟨0, fun _ named => absurd named (Option.not_mem_none _), fun _ => rfl, le_refl _, .inl rfl, ?_⟩
      rw [Option.getD_none, Poller.stretch, Keyset.between_self, List.map_nil]
    | some c =>
      refine ⟨c, fun _ named => Option.some.inj named, fun cleared => absurd cleared (Option.some_ne_none _), le_refl _, .inl rfl, ?_⟩
      rw [Option.getD_some, Poller.stretch, Keyset.between_self, List.map_nil]
  refine ⟨?_, fun limit now drains => follows.drains drains⟩
  obtain ⟨start, reached⟩ := follows.reached answered
  exact ⟨start, reached.begins, reached.received⟩

-- An app that reads both channels, and a message that comes between its polls.
def lobbyApp : PollingApp String :=
  { json := rawJson, publicKey := "bot", hub := (twoChannels []).hub, subscriptions := (twoChannels []).subscriptions }

theorem polls_deliver_lobby :
    Poller.Delivered lobbyApp (some 0) (Runs.run (Poller.step lobbyApp) { log := [lobbyMessage], cursor := some 0 }
      [.poll (some 1) 300000, .publish denMessage, .poll none 300000]) := by
  refine (polls_deliver lobbyApp [lobbyMessage] (some 0)
    [.poll (some 1) 300000, .publish denMessage, .poll none 300000] (List.pairwise_singleton _ _)
    ⟨trivial, ?_, trivial, trivial⟩ rfl).1
  intro earlier listed
  rw [List.mem_singleton.mp listed]
  exact ⟨by decide, by decide⟩

end Wavvon.Apps
