import Mathlib.Algebra.Ring.Int.Defs
import Wavvon.Events.State
import Wavvon.Paging.Routes
import Wavvon.Shared.Checks
import Wavvon.Shared.Runs

set_option autoImplicit false

namespace Wavvon.Events

open Std (ExtTreeMap)

structure VoteRow where
  pollId : String
  userPubkey : String
  optionIds : List String
  deriving DecidableEq, Repr

def VoteRow.key (row : VoteRow) : String × String := (row.pollId, row.userPubkey)

/-- The polls of a hub with their votes. -/
structure Ballots where
  calendar : State := {}
  votes : List VoteRow := []

structure VoteRequest where
  optionIds : List String
  deriving DecidableEq, Repr

structure PollWithTotals where
  id : String
  poll : PollRow
  totals : Table Int
  yourVote : Option (List String)

structure PollOptionOut where
  id : String
  text : String
  voteCount : Int
  voted : Bool
  deriving DecidableEq, Repr

structure PollListItem where
  id : String
  channelId : String
  question : String
  options : List PollOptionOut
  totalVotes : Int
  createdBy : String
  createdAt : Int
  endsAt : Option Int64
  isDeleted : Bool
  deriving DecidableEq

structure PollVoteUpdated where
  channelId : String
  pollId : String
  totals : Table Int

structure PageQuery where
  limit : Option Int := none
  cursor : Option String := none

def DEFAULT_LIMIT : Int := 100
def MAX_LIMIT : Int := 500

def PageQuery.clamped (page : PageQuery) : Int := max 1 (min MAX_LIMIT (page.limit.getD DEFAULT_LIMIT))

def tallyIds (totals : Table Int) (ids : List String) : Table Int :=
  ids.foldl (fun totals id => totals.insert id (totals[id]?.getD 0 + 1)) totals

def loadPollTotals (s : Ballots) (pollId : String) : Table Int :=
  (s.votes.filter fun row => decide (row.pollId = pollId)).foldl (fun totals row => tallyIds totals row.optionIds) ∅

def storedVote (s : Ballots) (pollId user : String) : Option (List String) :=
  (s.votes.find? fun row => decide (row.key = (pollId, user))).map (·.optionIds)

-- A poll that the caller cannot read answers like one that does not exist.
def requirePollReadable (db : Db) (user channelId : String) : Except HttpError Unit :=
  if (channelPermissions db user channelId).has MESSAGES_READ then .ok () else .error (404, "Poll not found")

def getPoll (s : Ballots) (user pollId : String) : Except HttpError PollWithTotals :=
  match s.calendar.polls[pollId]? with
  | none => .error (404, "Poll not found")
  | some poll => do
    requirePollReadable s.calendar.forum.chat.db user poll.channelId
    return { id := pollId, poll := poll, totals := loadPollTotals s pollId, yourVote := storedVote s pollId user }

def pollRows (s : State) (channelId : String) (cursor : Option String) (limit : Nat) : List (String × PollRow) :=
  let page := fun cursor => Keyset.page (fun row : String × PollRow => Paging.newest row.2.createdAt row.1)
    s.polls.toList (fun row => decide (row.2.channelId = channelId)) cursor limit
  match cursor with
  | none => page none
  | some id =>
    match s.polls[id]? with
    | none => []
    | some mark => page (some (Paging.newest mark.createdAt id))

def pollListItem (s : Ballots) (user id : String) (poll : PollRow) : PollListItem :=
  let totals := loadPollTotals s id
  let yourVote := (storedVote s id user).getD []
  { id := id, channelId := poll.channelId, question := poll.question
    options := poll.options.map fun option =>
      { id := option.id, text := option.text, voteCount := totals[option.id]?.getD 0
        voted := yourVote.contains option.id }
    totalVotes := totals.values.sum, createdBy := poll.creatorPubkey, createdAt := poll.createdAt
    endsAt := poll.endsAt, isDeleted := false }

def listPolls (s : Ballots) (user channelId : String) (page : PageQuery) : Except HttpError (List PollListItem) := do
  Forum.channelExists s.calendar.forum.chat.db channelId
  (channelPermissions s.calendar.forum.chat.db user channelId).require MESSAGES_READ
  return (pollRows s.calendar channelId page.cursor page.clamped.toNat).map fun row => pollListItem s user row.1 row.2

-- Only the number of the ids is looked at.
def voteChecks (s : Ballots) (user pollId : String) (req : VoteRequest) (now : Int) : Except HttpError PollRow :=
  match s.calendar.polls[pollId]? with
  | none => .error (404, "Poll not found")
  | some poll => do
    requirePollReadable s.calendar.forum.chat.db user poll.channelId
    if poll.endsAt.any fun ends => decide (ends.toInt < now) then .error (410, "Poll has ended")
    if req.optionIds = [] then .error (400, "option_ids must not be empty")
    if poll.maxChoices.toInt < req.optionIds.length then
      .error (400, "too many choices; max is " ++ toString poll.maxChoices.toInt)
    if user ∉ s.calendar.forum.chat.db.users then
      .error (500, "DB error: " ++ foreignKeyViolation "poll_votes" "poll_votes_user_pubkey_fkey")
    return poll

def upsertVote (s : Ballots) (row : VoteRow) : Ballots :=
  { s with votes := row :: s.votes.filter fun other => decide (other.key ≠ row.key) }

-- An accepted vote is answered with what the channel is told.
def votePoll (s : Ballots) (user pollId : String) (req : VoteRequest) (now : Int) :
    Ballots × Except HttpError PollVoteUpdated :=
  match voteChecks s user pollId req now with
  | .error e => (s, .error e)
  | .ok poll =>
    let voted := upsertVote s { pollId := pollId, userPubkey := user, optionIds := req.optionIds }
    (voted, .ok { channelId := poll.channelId, pollId := pollId, totals := loadPollTotals voted pollId })

structure VoteCall where
  user : String
  pollId : String
  req : VoteRequest
  now : Int
  deriving DecidableEq, Repr

def VoteCall.row (call : VoteCall) : VoteRow :=
  { pollId := call.pollId, userPubkey := call.user, optionIds := call.req.optionIds }

/-- Votes one after another, with those that were accepted so far, the newest first. -/
structure Polling where
  ballots : Ballots
  accepted : List VoteRow := []

namespace Polling

def answer (s : Polling) (call : VoteCall) : Except HttpError PollVoteUpdated :=
  (votePoll s.ballots call.user call.pollId call.req call.now).2

def next (s : Polling) (call : VoteCall) : Polling where
  ballots := (votePoll s.ballots call.user call.pollId call.req call.now).1
  accepted := if (s.answer call).isOk then call.row :: s.accepted else s.accepted

def latestVote (s : Polling) (pollId user : String) : Option (List String) :=
  (s.accepted.find? fun row => decide (row.key = (pollId, user))).map (·.optionIds)

-- The users whose latest accepted vote contains the option.
def voters (s : Polling) (pollId optionId : String) : Finset String :=
  (s.accepted.map (·.userPubkey)).toFinset.filter fun user =>
    (s.latestVote pollId user).any (·.contains optionId)

end Polling

def selected (poll : PollRow) (ids : List String) : List PollOption :=
  poll.options.filter fun option => decide (option.id ∈ ids)

-- Totals that count every voter once, and nothing but options.
def Counts (s : Polling) (pollId : String) (poll : PollRow) (totals : Table Int) : Prop :=
  (∀ option ∈ poll.options, totals[option.id]?.getD 0 = (s.voters pollId option.id).card) ∧
    ∀ id ∈ totals, ∃ option ∈ poll.options, option.id = id

/-- What every reader is shown of a poll. -/
structure OneVoteEach (s : Polling) (pollId : String) (poll : PollRow) : Prop where
  shown : ∀ user response, getPoll s.ballots user pollId = .ok response → Counts s pollId poll response.totals
  listed : ∀ user channelId page items, listPolls s.ballots user channelId page = .ok items → ∀ item ∈ items,
    item.id = pollId → (item.options.map fun option => (option.id, option.voteCount)) =
      poll.options.map fun option => (option.id, ((s.voters pollId option.id).card : Int))
  few : ∀ user ids, s.latestVote pollId user = some ids → (selected poll ids).length ≤ poll.maxChoices.toInt

/-- Readers see one vote each after any of the calls, and so does who listens to the channel. -/
structure FairPoll (s : Polling) (pollId : String) (poll : PollRow) (calls : List VoteCall) : Prop where
  views : ∀ front, front <+: calls → OneVoteEach (Runs.run Polling.next s front) pollId poll
  told : ∀ front call, front ++ [call] <+: calls → call.pollId = pollId →
    ∀ update, (Runs.run Polling.next s front).answer call = .ok update →
      Counts (Runs.run Polling.next s (front ++ [call])) pollId poll update.totals

-- Options of the poll, each named once, and no more of them than may be chosen.
def CleanVote (poll : PollRow) (ids : List String) : Prop :=
  ids.Nodup ∧ (∀ id ∈ ids, ∃ option ∈ poll.options, option.id = id) ∧
    ((selected poll ids).length : Int) ≤ poll.maxChoices.toInt

instance (poll : PollRow) (ids : List String) : Decidable (CleanVote poll ids) := inferInstanceAs (Decidable (_ ∧ _ ∧
    _))

def Polling.Clean (pollId : String) (poll : PollRow) (s : Polling) (call : VoteCall) : Prop :=
  call.pollId = pollId → (voteChecks s.ballots call.user call.pollId call.req call.now).isOk = true →
    CleanVote poll call.req.optionIds

instance (pollId : String) (poll : PollRow) (s : Polling) (call : VoteCall) :
    Decidable (Polling.Clean pollId poll s call) :=
  inferInstanceAs (Decidable (_ → _ → _))

section

variable {rows : List VoteRow} {totals : Table Int} {id : String}

theorem tallyIds_getD (totals : Table Int) (ids : List String) (id : String) :
    (tallyIds totals ids)[id]?.getD 0 = totals[id]?.getD 0 + ids.count id := by
  induction ids generalizing totals with
  | nil => simp [tallyIds]
  | cons first rest ih =>
    refine (ih (totals.insert first (totals[first]?.getD 0 + 1))).trans ?_
    by_cases here : first = id
    next =>
      subst here
      simp
      omega
    next => simp [ExtTreeMap.getElem?_insert, here]

theorem mem_tallyIds {ids : List String} : id ∈ tallyIds totals ids ↔ id ∈ totals ∨ id ∈ ids := by
  induction ids generalizing totals with
  | nil => simp [tallyIds]
  | cons first rest ih =>
    refine (@ih (totals.insert first (totals[first]?.getD 0 + 1))).trans ?_
    rw [ExtTreeMap.mem_insert, Std.compare_eq_iff_eq, List.mem_cons, eq_comm (a := first)]
    tauto

def pollVotes (s : Ballots) (pollId : String) : List VoteRow := s.votes.filter fun row => decide (row.pollId = pollId)

theorem totals_getD (s : Ballots) (pollId id : String) :
    (loadPollTotals s pollId)[id]?.getD 0 = ((pollVotes s pollId).flatMap (·.optionIds)).count id := by
  have folded (totals : Table Int) (rows : List VoteRow) :
      (rows.foldl (fun totals row => tallyIds totals row.optionIds) totals)[id]?.getD 0 =
        totals[id]?.getD 0 + ((rows.flatMap (·.optionIds)).count id : Nat) := by
    induction rows generalizing totals with
    | nil => simp
    | cons first rest ih =>
      refine (ih (tallyIds totals first.optionIds)).trans ?_
      rw [tallyIds_getD, List.flatMap_cons, List.count_append]
      push_cast
      omega
  exact (folded ∅ _).trans (by simp [pollVotes])

theorem mem_totals {s : Ballots} {pollId : String} :
    id ∈ loadPollTotals s pollId ↔ ∃ row ∈ pollVotes s pollId, id ∈ row.optionIds := by
  have folded (totals : Table Int) (rows : List VoteRow) :
      id ∈ rows.foldl (fun totals row => tallyIds totals row.optionIds) totals ↔
        id ∈ totals ∨ ∃ row ∈ rows, id ∈ row.optionIds := by
    induction rows generalizing totals with
    | nil => simp
    | cons first rest ih =>
      refine (ih (tallyIds totals first.optionIds)).trans ?_
      simp [mem_tallyIds, or_assoc]
  exact (folded ∅ _).trans (by simp [pollVotes])

-- One list more than the voters counts for each id that a voter repeats.
theorem count_ge (rows : List VoteRow) (id : String) :
    rows.countP (fun row => row.optionIds.contains id) ≤ (rows.flatMap (·.optionIds)).count id := by
  induction rows with
  | nil => simp
  | cons first rest ih =>
    rw [List.countP_cons, List.flatMap_cons, List.count_append]
    split
    next named =>
      have counted : 0 < first.optionIds.count id := List.count_pos_iff.mpr (by simpa using named)
      omega
    next => omega

theorem count_eq_iff (rows : List VoteRow) (id : String) :
    (rows.flatMap (·.optionIds)).count id = rows.countP (fun row => row.optionIds.contains id) ↔
      ∀ row ∈ rows, row.optionIds.count id ≤ 1 := by
  induction rows with
  | nil => simp
  | cons first rest ih =>
    have more := count_ge rest id
    rw [List.countP_cons, List.flatMap_cons, List.count_append, List.forall_mem_cons, ← ih]
    split
    next named =>
      have counted : 0 < first.optionIds.count id := List.count_pos_iff.mpr (by simpa using named)
      omega
    next unnamed =>
      have none : first.optionIds.count id = 0 := List.count_eq_zero.mpr (by simpa using unnamed)
      omega

end

/-- The stored votes of a poll are the latest that were accepted. -/
structure Recorded (s : Polling) (pollId : String) (poll : PollRow) : Prop where
  polled : s.ballots.calendar.polls[pollId]? = some poll
  keyed : (s.ballots.votes.map VoteRow.key).Nodup
  latest : ∀ user ids, ({ pollId := pollId, userPubkey := user, optionIds := ids } : VoteRow) ∈ s.ballots.votes ↔
    s.latestVote pollId user = some ids

section

variable {s : Polling} {pollId : String} {poll : PollRow} {call : VoteCall}

theorem votePoll_refused (refused : (voteChecks s.ballots call.user call.pollId call.req call.now).isOk = false) :
    s.next call = s ∧ ∃ e, s.answer call = .error e := by
  unfold Polling.next Polling.answer votePoll
  cases checked : voteChecks s.ballots call.user call.pollId call.req call.now with
  | error e => exact ⟨rfl, e, rfl⟩
  | ok row =>
    rw [checked] at refused
    cases refused

theorem votePoll_accepted (accepted : (voteChecks s.ballots call.user call.pollId call.req call.now).isOk = true) :
    s.next call = { ballots := upsertVote s.ballots call.row, accepted := call.row :: s.accepted } ∧
      ∃ channelId, s.answer call = .ok
        { channelId := channelId, pollId := call.pollId
          totals := loadPollTotals (upsertVote s.ballots call.row) call.pollId } := by
  unfold Polling.next Polling.answer votePoll
  cases checked : voteChecks s.ballots call.user call.pollId call.req call.now with
  | error e =>
    rw [checked] at accepted
    cases accepted
  | ok row => exact ⟨rfl, row.channelId, rfl⟩

theorem latestVote_cons {ballots : Ballots} {row : VoteRow} {user : String} :
    ({ ballots := ballots, accepted := row :: s.accepted } : Polling).latestVote pollId user =
      if row.key = (pollId, user) then some row.optionIds else s.latestVote pollId user := by
  unfold Polling.latestVote
  rw [List.find?_cons]
  by_cases here : row.key = (pollId, user) <;> simp [here]

theorem Recorded.next (recorded : Recorded s pollId poll) (call : VoteCall) : Recorded (s.next call) pollId poll := by
  cases accepted : (voteChecks s.ballots call.user call.pollId call.req call.now).isOk with
  | false =>
    rw [(votePoll_refused accepted).1]
    exact recorded
  | true =>
    rw [(votePoll_accepted accepted).1]
    refine ⟨recorded.polled, ?_, ?_⟩
    next =>
      refine List.nodup_cons.mpr ⟨?_, (List.Sublist.map _ List.filter_sublist).nodup recorded.keyed⟩
      intro listed
      obtain ⟨other, member, same⟩ := List.mem_map.mp listed
      exact of_decide_eq_true (List.mem_filter.mp member).2 same
    next =>
      intro user ids
      rw [latestVote_cons, upsertVote, List.mem_cons, List.mem_filter, recorded.latest, decide_eq_true_eq]
      split
      next here =>
        have same : ({ pollId := pollId, userPubkey := user, optionIds := ids } : VoteRow).key = call.row.key := here.symm
        obtain ⟨samePoll, sameUser⟩ := Prod.mk.inj here
        constructor
        · rintro (equal | ⟨_, apart⟩)
          · rw [← equal]
          · exact absurd same apart
        · intro stored
          refine .inl ?_
          rw [← samePoll, ← sameUser, ← Option.some.inj stored]
      next apart =>
        have other : ({ pollId := pollId, userPubkey := user, optionIds := ids } : VoteRow).key ≠ call.row.key :=
          Ne.symm apart
        have unlike : ({ pollId := pollId, userPubkey := user, optionIds := ids } : VoteRow) ≠ call.row := by
          intro equal
          exact other (congrArg VoteRow.key equal)
        rw [eq_false unlike, false_or, and_iff_left other]

theorem mem_voters {id user : String} :
    user ∈ s.voters pollId id ↔ ∃ ids, s.latestVote pollId user = some ids ∧ id ∈ ids := by
  rw [Polling.voters, Finset.mem_filter, Option.any_eq_true]
  simp only [List.contains_iff_mem, and_iff_right_iff_imp]
  rintro ⟨ids, latest, _⟩
  obtain ⟨row, found, _⟩ := Option.map_eq_some_iff.mp latest
  have own := List.find?_some found
  rw [decide_eq_true_eq] at own
  exact List.mem_toFinset.mpr (List.mem_map.mpr ⟨row, List.mem_of_find?_eq_some found, congrArg Prod.snd own⟩)

theorem mem_pollVotes {row : VoteRow} : row ∈ pollVotes s.ballots pollId ↔ row ∈ s.ballots.votes ∧
    row.pollId = pollId := by
  rw [pollVotes, List.mem_filter, decide_eq_true_eq]

theorem Recorded.users_nodup (recorded : Recorded s pollId poll) :
    ((pollVotes s.ballots pollId).map (·.userPubkey)).Nodup := by
  have keys : ((pollVotes s.ballots pollId).map VoteRow.key).Nodup :=
    (List.Sublist.map _ List.filter_sublist).nodup recorded.keyed
  have paired : (pollVotes s.ballots pollId).map VoteRow.key =
      ((pollVotes s.ballots pollId).map (·.userPubkey)).map (Prod.mk pollId) := by
    rw [List.map_map]
    exact List.map_congr_left fun row listed => congrArg (·, row.userPubkey) (mem_pollVotes.mp listed).2
  rw [paired] at keys
  exact keys.of_map

-- A stored row for each voter.
theorem Recorded.voters_card (recorded : Recorded s pollId poll) (id : String) :
    (s.voters pollId id).card = (pollVotes s.ballots pollId).countP fun row => row.optionIds.contains id := by
  let named := (pollVotes s.ballots pollId).filter fun row => row.optionIds.contains id
  have distinct : (named.map (·.userPubkey)).Nodup :=
    (List.Sublist.map _ List.filter_sublist).nodup recorded.users_nodup
  have same : s.voters pollId id = (named.map (·.userPubkey)).toFinset := by
    ext user
    rw [mem_voters, List.mem_toFinset, List.mem_map]
    constructor
    · rintro ⟨ids, latest, member⟩
      refine ⟨{ pollId := pollId, userPubkey := user, optionIds := ids }, List.mem_filter.mpr ⟨?_, ?_⟩, rfl⟩
      · exact mem_pollVotes.mpr ⟨(recorded.latest user ids).mpr latest, rfl⟩
      · exact List.contains_iff_mem.mpr member
    · rintro ⟨⟨own, user, ids⟩, listed, rfl⟩
      obtain ⟨polled, member⟩ := List.mem_filter.mp listed
      obtain ⟨stored, here⟩ := mem_pollVotes.mp polled
      obtain rfl : own = pollId := here
      exact ⟨ids, (recorded.latest user ids).mp stored, List.contains_iff_mem.mp member⟩
  rw [same, List.toFinset_card_of_nodup distinct, List.length_map, List.countP_eq_length_filter]

-- The totals are right exactly if every stored vote names options, each once.
theorem Recorded.counts_iff (recorded : Recorded s pollId poll) :
    Counts s pollId poll (loadPollTotals s.ballots pollId) ↔ ∀ row ∈ pollVotes s.ballots pollId,
      row.optionIds.Nodup ∧ ∀ id ∈ row.optionIds, ∃ option ∈ poll.options, option.id = id := by
  have exact_ (id : String) : (loadPollTotals s.ballots pollId)[id]?.getD 0 = ((s.voters pollId id).card : Int) ↔
      ∀ row ∈ pollVotes s.ballots pollId, row.optionIds.count id ≤ 1 := by
    rw [totals_getD, recorded.voters_card, Int.natCast_inj, count_eq_iff]
  constructor
  · rintro ⟨counted, known⟩ row listed
    have named : ∀ id ∈ row.optionIds, ∃ option ∈ poll.options, option.id = id :=
      fun id member => known id (mem_totals.mpr ⟨row, listed, member⟩)
    refine ⟨List.nodup_iff_count_le_one.mpr fun id => ?_, named⟩
    by_cases member : id ∈ row.optionIds
    · obtain ⟨option, offered, rfl⟩ := named id member
      exact (exact_ option.id).mp (counted option offered) row listed
    · rw [List.count_eq_zero.mpr member]
      exact Nat.zero_le 1
  · intro clean
    refine ⟨fun option _ => ?_, ?_⟩
    · exact (exact_ option.id).mpr fun row listed => List.nodup_iff_count_le_one.mp (clean row listed).1 option.id
    · intro id total
      obtain ⟨row, listed, member⟩ := mem_totals.mp total
      exact (clean row listed).2 id member

theorem pollRows_poll {calendar : State} {channelId : String} {cursor : Option String} {limit : Nat}
    {row : String × PollRow} (listed : row ∈ pollRows calendar channelId cursor limit) :
    calendar.polls[row.1]? = some row.2 := by
  refine ExtTreeMap.mem_toList_iff_getElem?_eq_some.mp ?_
  unfold pollRows at listed
  dsimp only at listed
  split at listed
  next => exact (Keyset.mem_of_mem_page listed).1
  next =>
    split at listed
    next => cases listed
    next => exact (Keyset.mem_of_mem_page listed).1

-- Clean votes are shown as they are.
theorem Recorded.oneVoteEach (recorded : Recorded s pollId poll)
    (clean : ∀ row ∈ pollVotes s.ballots pollId, CleanVote poll row.optionIds) : OneVoteEach s pollId poll := by
  have counts := recorded.counts_iff.mpr fun row listed => ⟨(clean row listed).1, (clean row listed).2.1⟩
  refine ⟨?_, ?_, ?_⟩
  next =>
    intro user response answered
    unfold getPoll at answered
    rw [recorded.polled] at answered
    dsimp only at answered
    cases readable : requirePollReadable s.ballots.calendar.forum.chat.db user poll.channelId with
    | error e =>
      rw [readable] at answered
      cases answered
    | ok _ =>
      rw [readable] at answered
      cases answered
      exact counts
  next =>
    intro user channelId page items answered item listed own
    obtain ⟨_, _, rest⟩ := Checks.bind_ok answered
    obtain ⟨_, _, rest⟩ := Checks.bind_ok rest
    cases rest
    obtain ⟨row, inPage, rfl⟩ := List.mem_map.mp listed
    obtain rfl : row.1 = pollId := own
    obtain same := Option.some.inj (recorded.polled.symm.trans (pollRows_poll inPage))
    rw [pollListItem, List.map_map, ← same]
    exact List.map_congr_left fun option offered => congrArg (Prod.mk option.id) (counts.1 option offered)
  next =>
    intro user ids latest
    exact (clean _ (mem_pollVotes.mpr ⟨(recorded.latest user ids).mpr latest, rfl⟩)).2.2

end

section

variable {pollId : String} {poll : PollRow}

theorem pollVotes_upsert {s : Ballots} {row : VoteRow} {other : VoteRow}
    (listed : other ∈ pollVotes (upsertVote s row) pollId) :
    other = row ∧ row.pollId = pollId ∨ other ∈ pollVotes s pollId := by
  obtain ⟨stored, own⟩ := List.mem_filter.mp listed
  obtain rfl | before := List.mem_cons.mp stored
  · exact .inl ⟨rfl, of_decide_eq_true own⟩
  · exact .inr (List.mem_filter.mpr ⟨List.mem_of_mem_filter before, own⟩)

theorem clean_next {s : Polling} {call : VoteCall} (held : ∀ row ∈ pollVotes s.ballots pollId,
    CleanVote poll row.optionIds)
    (clean : s.Clean pollId poll call) :
    ∀ row ∈ pollVotes (s.next call).ballots pollId, CleanVote poll row.optionIds := by
  cases accepted : (voteChecks s.ballots call.user call.pollId call.req call.now).isOk with
  | false =>
    rw [(votePoll_refused accepted).1]
    exact held
  | true =>
    rw [(votePoll_accepted accepted).1]
    intro row listed
    obtain ⟨rfl, own⟩ | before := pollVotes_upsert listed
    · exact clean own accepted
    · exact held row before

-- The last vote is clean when everybody is shown it rightly.
theorem clean_of_fair {s : Polling} {call : VoteCall} (recorded : Recorded s pollId poll)
    (told : call.pollId = pollId → ∀ update, s.answer call = .ok update →
    Counts (s.next call) pollId poll update.totals)
    (views : OneVoteEach (s.next call) pollId poll) : s.Clean pollId poll call := by
  intro own accepted
  have after := recorded.next call
  obtain ⟨moved, channelId, answered⟩ := votePoll_accepted accepted
  have counts := told own _ answered
  have listed : call.row ∈ pollVotes (s.next call).ballots pollId := by
    rw [moved]
    exact List.mem_filter.mpr ⟨List.mem_cons_self, decide_eq_true own⟩
  have totals : loadPollTotals (upsertVote s.ballots call.row) call.pollId =
      loadPollTotals (s.next call).ballots pollId := by
    rw [moved, own]
  rw [totals] at counts
  obtain ⟨distinct, known⟩ := after.counts_iff.mp counts call.row listed
  refine ⟨distinct, known, views.few call.user call.req.optionIds ?_⟩
  refine (after.latest _ _).mp ?_
  rw [← own]
  exact (mem_pollVotes.mp listed).1

/--
A poll shows one vote for each voter, whatever is sent, exactly if each accepted vote names options
of the poll, each once, and no more of them than may be chosen.
-/
theorem fairPoll_iff_clean (s : Ballots) (polled : s.calendar.polls[pollId]? = some poll)
    (opened : ∀ row ∈ s.votes, row.pollId ≠ pollId) (keyed : (s.votes.map VoteRow.key).Nodup) (calls : List VoteCall) :
    FairPoll { ballots := s } pollId poll calls ↔
      Runs.Meets Polling.next (Polling.Clean pollId poll) { ballots := s } calls := by
  have start : Recorded { ballots := s } pollId poll := by
    refine ⟨polled, keyed, ?_⟩
    intro user ids
    refine iff_of_false ?_ (by simp [Polling.latestVote])
    intro stored
    exact opened _ stored rfl
  have recorded (front : List VoteCall) : Recorded (Runs.run Polling.next { ballots := s } front) pollId poll :=
    Runs.run_invariant (Recorded · pollId poll) (fun _ call held => held.next call) _ start front
  constructor
  · intro fair
    rw [Runs.meets_iff]
    intro front call before
    have views := fair.views (front ++ [call]) before
    have told := fair.told front call before
    rw [Runs.run_append] at views told
    exact clean_of_fair (recorded front) told views
  · intro met
    have clean : ∀ front, front <+: calls →
        ∀ row ∈ pollVotes (Runs.run Polling.next { ballots := s } front).ballots pollId,
          CleanVote poll row.optionIds := by
      rintro front ⟨back, rfl⟩
      refine Runs.Meets.invariant (fun s : Polling => ∀ row ∈ pollVotes s.ballots pollId, CleanVote poll row.optionIds)
        (fun s call held clean => clean_next held clean) ?_ (Runs.Meets.append.mp met).1
      intro row listed
      exact absurd (mem_pollVotes.mp listed).2 (opened row (mem_pollVotes.mp listed).1)
    refine ⟨fun front before => (recorded front).oneVoteEach (clean front before), ?_⟩
    intro front call before own update answered
    have counts := (recorded (front ++ [call])).counts_iff.mpr fun row listed =>
      ⟨(clean _ before row listed).1, (clean _ before row listed).2.1⟩
    have after : Runs.run Polling.next { ballots := s } (front ++ [call]) =
        (Runs.run Polling.next { ballots := s } front).next call := Runs.run_append _ _ _
    rw [after] at counts ⊢
    cases accepted : (voteChecks (Runs.run Polling.next { ballots := s } front).ballots call.user call.pollId call.req
        call.now).isOk with
    | false =>
      obtain ⟨e, refused⟩ := (votePoll_refused accepted).2
      cases answered.symm.trans refused
    | true =>
      obtain ⟨moved, channelId, sent⟩ := votePoll_accepted accepted
      cases answered.symm.trans sent
      rw [moved, ← own] at counts
      rw [moved, ← own]
      exact counts

end

-- Where the options have ids of their own, the number of ids bounds what they select.
theorem selected_length_le {poll : PollRow} (distinct : (poll.options.map (·.id)).Nodup) (ids : List String) :
    (selected poll ids).length ≤ ids.length := by
  have named : ((selected poll ids).map (·.id)).Nodup := (List.Sublist.map _ List.filter_sublist).nodup distinct
  have inside : ∀ id ∈ (selected poll ids).map (·.id), id ∈ ids := by
    intro id member
    obtain ⟨option, chosen, rfl⟩ := List.mem_map.mp member
    exact of_decide_eq_true (List.mem_filter.mp chosen).2
  have fits := (List.subperm_of_subset named inside).length_le
  rwa [List.length_map] at fits

def snacks : PollRow :=
  { channelId := "hall", creatorPubkey := "ann", question := "snacks?"
    options := [{ id := "a", text := "apples" }, { id := "b", text := "bread" }], endsAt := none, maxChoices := 2
    createdAt := 0 }

def pollingPlace : Ballots where
  calendar :=
    { forum :=
        { chat :=
            { db :=
                { users := (∅ : Table User).insert "ann" { isMember := true }
                  channels := (∅ : Table Channel).insert "hall" { name := "hall", createdBy := "ann" }
                  roles := (∅ : Table Role).insert "voter" { name := "voter" }
                  userRoles := {("ann", "voter")}
                  rolePermissions := {("voter", MESSAGES_READ)} } } }
      polls := (∅ : Table PollRow).insert "snacks" snacks }

def vote (ids : List String) : VoteCall := { user := "ann", pollId := "snacks", req := { optionIds := ids }, now := 1 }

theorem fairPoll_iff_clean_snacks : FairPoll { ballots := pollingPlace } "snacks" snacks [vote ["a"], vote ["b", "a"]] ↔
    Runs.Meets Polling.next (Polling.Clean "snacks" snacks) { ballots := pollingPlace } [vote ["a"], vote ["b", "a"]] :=
  fairPoll_iff_clean pollingPlace (by decide) (by decide) (by decide) _

-- One voter, counted twice.
theorem vote_repeated : ¬ FairPoll { ballots := pollingPlace } "snacks" snacks [vote ["a", "a"]] := by
  intro fair
  let after := Runs.run Polling.next { ballots := pollingPlace } [vote ["a", "a"]]
  have shown := (fair.views [vote ["a", "a"]] (List.prefix_refl _)).shown "ann"
  have totals : ((getPoll after.ballots "ann" "snacks").toOption.map fun response => response.totals["a"]?) =
      some (some 2) := by
    decide
  have voters : (after.voters "snacks" "a").card = 1 := by decide
  cases answered : getPoll after.ballots "ann" "snacks" with
  | error e =>
    rw [answered] at totals
    cases totals
  | ok response =>
    rw [answered] at totals
    have doubled : response.totals["a"]? = some 2 := Option.some.inj totals
    have counts : response.totals["a"]?.getD 0 = ((after.voters "snacks" "a").card : Int) :=
      (shown response answered).1 { id := "a", text := "apples" } (by decide)
    rw [doubled, voters] at counts
    exact absurd counts (by decide)

end Wavvon.Events
