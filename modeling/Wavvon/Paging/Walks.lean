import Wavvon.Paging.Routes
import Wavvon.Shared.Checks

set_option autoImplicit false

namespace Wavvon.Paging

open Std (ExtTreeMap)
open Chat (MessageRow PaginationParams)

/-- What the routes read their pages from. -/
structure Hub where
  forum : Forum.State := {}
  conversations : Dms.Conversations := {}
  bounced : String → Bool := fun _ => false

/-- A list that is read page by page: a channel or a thread of it, a conversation, the replies of a post. -/
inductive Query where
  | messages (reader channelId : String) (threadRoot : Option String) (limit : Option Int)
  | dms (user conversationId : String) (limit : Option Int)
  | replies (user channelId postId : String) (limit : Option Int)
  deriving DecidableEq, Repr

-- The ids of a page in the order of the list, and the cursor that its reader goes on with.
structure Page where
  ids : List String
  next : Option String
  deriving DecidableEq, Repr

def Query.fetch (q : Query) (hub : Hub) (cursor : Option String) : Except HttpError Page :=
  match q with
  | .messages reader channelId threadRoot limit =>
    let params : PaginationParams := { cursor := cursor, limit := limit, threadRoot := threadRoot }
    (Chat.getMessages hub.forum.chat reader channelId params []).answer.map fun answers =>
      { ids := answers.map (·.id), next := (answers.map (·.id)).getLast? }
  | .dms user conversationId limit =>
    (listDmMessages hub.forum.chat.db hub.conversations hub.bounced user conversationId cursor limit).map
      fun answers => { ids := (answers.map (·.id)).reverse, next := (answers.map (·.id)).head? }
  | .replies user channelId postId limit =>
    (getPost hub.forum user channelId postId cursor limit).map fun page =>
      { ids := page.replies.map (·.id), next := page.replyCursor }

-- The time of a stored row.
def Query.stored (q : Query) (hub : Hub) (id : String) : Option Int :=
  match q with
  | .messages _ _ _ _ => hub.forum.chat.messages[id]?.map (·.createdAt)
  | .dms _ _ _ => hub.conversations.messages[id]?.map (·.createdAt)
  | .replies _ _ _ _ => hub.forum.replies[id]?.map (·.createdAt)

-- The time of a row that the query is about.
def Query.matched (q : Query) (hub : Hub) (id : String) : Option Int :=
  match q with
  | .messages _ channelId threadRoot _ =>
    (hub.forum.chat.messages[id]?.filter fun row =>
      row.channelId = channelId && threadRoot.all (row.replyTo = some ·)).map (·.createdAt)
  | .dms _ conversationId _ =>
    (hub.conversations.messages[id]?.filter (·.conversationId = conversationId)).map (·.createdAt)
  | .replies _ _ postId _ => (hub.forum.replies[id]?.filter (·.postId = postId)).map (·.createdAt)

/-- A request as it finds the hub. -/
abbrev Request := Hub × Option String

/-- Following the cursor of each page until a page has none. -/
inductive Walked (q : Query) : List Request → List String → Prop where
  | last {hub : Hub} {cursor : Option String} {page : Page} (fetched : q.fetch hub cursor = .ok page)
      (ends : page.next = none) : Walked q [(hub, cursor)] page.ids
  | next {hub later : Hub} {cursor : Option String} {page : Page} {mark : String} {rest : List Request}
      {visited : List String} (fetched : q.fetch hub cursor = .ok page) (more : page.next = some mark)
      (walked : Walked q ((later, some mark) :: rest) visited) :
      Walked q ((hub, cursor) :: (later, some mark) :: rest) (page.ids ++ visited)

-- Rows come and go between two requests; one that stays keeps its time.
def Query.Evolves (q : Query) (first second : Request) : Prop :=
  ∀ id before after, q.stored first.1 id = some before → q.stored second.1 id = some after → before = after

def Query.Asks : Query → Prop
  | .messages _ _ _ limit | .replies _ _ _ limit => 0 < limit.getD 50
  | .dms _ _ _ => True

instance : (q : Query) → Decidable q.Asks
  | .messages _ _ _ limit | .replies _ _ _ limit => inferInstanceAs (Decidable (0 < limit.getD 50))
  | .dms _ _ _ => inferInstanceAs (Decidable True)

-- The request asks for rows at all, and its cursor names a stored row.
structure Query.Answerable (q : Query) (request : Request) : Prop where
  rows : q.Asks
  stands : ∀ mark ∈ request.2, (q.stored request.1 mark).isSome

instance (q : Query) (request : Request) : Decidable (q.Answerable request) :=
  decidable_of_iff (q.Asks ∧ ∀ mark ∈ request.2, (q.stored request.1 mark).isSome)
    ⟨fun both => ⟨both.1, both.2⟩, fun answerable => ⟨answerable.rows, answerable.stands⟩⟩

/-- Every row that the query matches at each of the requests is visited once. -/
def Query.Complete (q : Query) (requests : List Request) (visited : List String) : Prop :=
  ∀ id, (∀ request ∈ requests, (q.matched request.1 id).isSome) → visited.count id = 1

section

variable {K : Type} [LinearOrder K] (key : Int → String → K)

def Query.rows (q : Query) (hub : Hub) (k : K) : Prop := ∃ id t, q.matched hub id = some t ∧ key t id = k

def Query.after (q : Query) (hub : Hub) (cursor : Option String) : Option K :=
  cursor.bind fun id => (q.stored hub id).map (key · id)

/-- What a page has to do with the order of its list. -/
structure Listed (q : Query) (hub : Hub) (cursor : Option String) (page : Page) (marks : List (Int × String)) :
    Prop where
  ids : page.ids = marks.map (·.2)
  drawn : Keyset.Page (q.rows key hub) (q.after key hub cursor) (marks.map fun mark => key mark.1 mark.2)
  ends : page.next = none →
    Keyset.Exhausts (q.rows key hub) (q.after key hub cursor) (marks.map fun mark => key mark.1 mark.2)
  goesOn : ∀ mark ∈ page.next, ∃ t, marks.getLast? = some (t, mark)

/-- A list whose pages follow one order of its rows. -/
structure Ordered (q : Query) : Prop where
  injective : ∀ t id u other, key t id = key u other → t = u ∧ id = other
  listed : ∀ hub cursor page, q.fetch hub cursor = .ok page → q.Answerable (hub, cursor) →
    ∃ marks, Listed key q hub cursor page marks

end

section

variable {V K : Type} [LinearOrder K] {key : Int → String → K} {table : Table V} {time : V → Int}

omit [LinearOrder K] in
theorem toList_distinct (injective : ∀ t id u other, key t id = key u other → t = u ∧ id = other) :
    (table.toList.map fun row : String × V => key (time row.2) row.1).Nodup := by
  refine List.pairwise_map.mpr ?_
  refine ExtTreeMap.distinct_keys_toList.imp ?_
  intro a b apart same
  have sameId := (injective _ _ _ _ same).2
  exact apart (by simp [sameId])

omit [LinearOrder K] in
theorem rows_toList (holds : V → Bool) (k : K) :
    Keyset.Rows (fun row : String × V => key (time row.2) row.1) table.toList (fun row => holds row.2) k ↔
      ∃ id t, (table[id]?.filter holds).map time = some t ∧ key t id = k := by
  constructor
  · rintro ⟨⟨id, row⟩, stored, held, rfl⟩
    refine ⟨id, time row, ?_, rfl⟩
    rw [ExtTreeMap.mem_toList_iff_getElem?_eq_some.mp stored]
    simp [Option.filter_some, held]
  · rintro ⟨id, t, matched, rfl⟩
    obtain ⟨row, found, rfl⟩ := Option.map_eq_some_iff.mp matched
    obtain ⟨stored, held⟩ := Option.filter_eq_some_iff.mp found
    exact ⟨(id, row), ExtTreeMap.mem_toList_iff_getElem?_eq_some.mpr stored, held, rfl⟩

end

theorem before_iff (a b : String × MessageRow) :
    Chat.before a b = true ↔ oldest a.2.createdAt a.1 < oldest b.2.createdAt b.1 := by
  simp [Chat.before, oldest, Prod.Lex.toLex_lt_toLex]

-- A cursor that names a stored message compares with it.
theorem pastCursor_eq (s : Chat.State) (cursor : Option String)
    (stands : ∀ mark ∈ cursor, (s.messages[mark]?.map (·.createdAt)).isSome)
    {K : Type} [LinearOrder K] (key : Int → String → K) (past : String × MessageRow → String × MessageRow → Bool)
    (agree : ∀ a b, past a b = true ↔ key b.2.createdAt b.1 < key a.2.createdAt a.1) (row : String × MessageRow) :
    Chat.pastCursor s cursor past row =
      decide (Keyset.Past (cursor.bind fun id => (s.messages[id]?.map (·.createdAt)).map (key · id))
        (key row.2.createdAt row.1)) := by
  cases cursor with
  | none => simp [Chat.pastCursor, Keyset.Past]
  | some id =>
    have stored := stands id rfl
    cases found : s.messages[id]? with
    | none => simp [found] at stored
    | some mark =>
      rw [Bool.eq_iff_iff]
      simp [Chat.pastCursor, Keyset.Past, found, agree]

theorem historyRows_eq (s : Chat.State) (channelId : String) (cursor : Option String) (limit : Int)
    (stands : ∀ mark ∈ cursor, (s.messages[mark]?.map (·.createdAt)).isSome) :
    Chat.historyRows s channelId cursor limit =
      Keyset.page (fun row : String × MessageRow => newest row.2.createdAt row.1) s.messages.toList
        (fun row => decide (row.2.channelId = channelId))
        (cursor.bind fun id => (s.messages[id]?.map (·.createdAt)).map (newest · id)) limit.toNat := by
  have past := pastCursor_eq s cursor stands newest Chat.before before_iff
  simp only [Chat.historyRows, Chat.newestFirst, Keyset.page, Keyset.sorted, past]
  refine congrArg (List.take limit.toNat) (Keyset.insertionSort_congr ?_ _)
  intro a b
  rw [Bool.not_eq_true', ← Bool.not_eq_true, before_iff, not_lt]
  rfl

theorem threadRows_eq (s : Chat.State) (channelId rootId : String) (cursor : Option String) (limit : Int)
    (stands : ∀ mark ∈ cursor, (s.messages[mark]?.map (·.createdAt)).isSome) :
    Chat.threadRows s channelId rootId cursor limit =
      Keyset.page (fun row : String × MessageRow => oldest row.2.createdAt row.1) s.messages.toList
        (fun row => decide (row.2.channelId = channelId) && decide (row.2.replyTo = some rootId))
        (cursor.bind fun id => (s.messages[id]?.map (·.createdAt)).map (oldest · id)) limit.toNat := by
  have past := pastCursor_eq s cursor stands oldest (fun a b => Chat.before b a) fun a b => before_iff b a
  simp only [Chat.threadRows, Chat.oldestFirst, Keyset.page, Keyset.sorted, past]
  refine congrArg (List.take limit.toNat) (Keyset.insertionSort_congr ?_ _)
  intro a b
  rw [Bool.not_eq_true', ← Bool.not_eq_true, before_iff, not_lt]

section

variable {K V : Type} [LinearOrder K] {key : Int → String → K} {q : Query} {hub : Hub} {cursor : Option String}
  {table : Table V} {time : V → Int} {holds : V → Bool} {limit : Nat}

omit [LinearOrder K] in
theorem rows_iff (matched : ∀ id, q.matched hub id = (table[id]?.filter holds).map time) :
    q.rows key hub = Keyset.Rows (fun row : String × V =>
    key (time row.2) row.1) table.toList fun row => holds row.2 := by
  funext k
  rw [eq_iff_iff, rows_toList]
  simp only [Query.rows, matched]

-- A page of the keyset, as marks.
def marksOf (time : V → Int) (rows : List (String × V)) : List (Int × String) := rows.map fun row => (time row.2, row.1)

theorem page_listed (matched : ∀ id, q.matched hub id = (table[id]?.filter holds).map time)
    (injective : ∀ t id u other, key t id = key u other → t = u ∧ id = other) {rows : List (String × V)}
    (read : rows = Keyset.page (fun row : String × V => key (time row.2) row.1) table.toList (fun row => holds row.2)
      (q.after key hub cursor) limit)
    {page : Page} (ids : page.ids = rows.map (·.1)) (ends : page.next = none → rows.length < limit)
    (goesOn : ∀ mark ∈ page.next, (rows.map (·.1)).getLast? = some mark) :
    Listed key q hub cursor page (marksOf time rows) := by
  have keys : (marksOf time rows).map (fun mark => key mark.1 mark.2) =
      rows.map fun row => key (time row.2) row.1 := by
    simp [marksOf]
  refine ⟨?_, ?_, ?_, ?_⟩
  · simp [ids, marksOf]
  · rw [keys, rows_iff matched, read]
    exact Keyset.page_drawn (toList_distinct injective)
  · intro last
    rw [keys, rows_iff matched, read]
    exact Keyset.page_exhausts (read ▸ ends last)
  · intro mark more
    have last := goesOn mark more
    rw [List.getLast?_map] at last
    obtain ⟨row, here, rfl⟩ := Option.map_eq_some_iff.mp last
    exact ⟨time row.2, by rw [marksOf, List.getLast?_map, here]; rfl⟩

end

theorem oldest_injective (t : Int) (id : String) (u : Int) (other : String) (same : oldest t id = oldest u other) :
    t = u ∧ id = other := by
  simpa [oldest] using same

theorem newest_injective (t : Int) (id : String) (u : Int) (other : String) (same : newest t id = newest u other) :
    t = u ∧ id = other := by
  simpa [newest, oldest] using same

theorem attachContexts_ids (s : Chat.State) (given : List String) (rows : List (String × MessageRow)) :
    (Chat.attachContexts s given rows).map (·.id) = rows.map (·.1) := by
  have shown := congrArg (List.map Prod.fst) (Chat.attachContexts_shown s given rows)
  simpa only [List.map_map, Function.comp_def] using shown

-- What a page of messages is when it is answered.
theorem fetch_messages {reader channelId : String} {threadRoot : Option String} {limit : Option Int} {hub : Hub}
    {cursor : Option String} {page : Page}
    (fetched : (Query.messages reader channelId threadRoot limit).fetch hub cursor = .ok page) :
    ∃ rows, rows = Chat.selectRows hub.forum.chat channelId
        { cursor := cursor, limit := limit, threadRoot := threadRoot } [] ∧
      page.ids = rows.map (·.1) ∧ page.next = (rows.map (·.1)).getLast? := by
  refine ⟨_, rfl, ?_⟩
  simp only [Query.fetch, Chat.getMessages] at fetched
  split at fetched
  next => cases fetched
  next =>
    split at fetched
    next => cases fetched
    next =>
      obtain rfl := Except.ok.inj fetched
      simp only [attachContexts_ids, and_self]

theorem last_none {α : Type} {rows : List (String × α)} (none : (rows.map (·.1)).getLast? = none) :
    rows.length = 0 := by
  rw [List.getLast?_eq_none_iff, List.map_eq_nil_iff] at none
  rw [none, List.length_nil]

theorem thread_ordered (reader channelId rootId : String) (limit : Option Int) :
    Ordered oldest (.messages reader channelId (some rootId) limit) := by
  refine ⟨oldest_injective, ?_⟩
  intro hub cursor page fetched answerable
  obtain ⟨rows, read, ids, next⟩ := fetch_messages fetched
  have positive : 0 < (min (limit.getD 50) 100).toNat := by
    have asked : 0 < limit.getD 50 := answerable.rows
    omega
  have matched : ∀ id, (Query.messages reader channelId (some rootId) limit).matched hub id =
      (hub.forum.chat.messages[id]?.filter fun row =>
        decide (row.channelId = channelId) && decide (row.replyTo = some rootId)).map (·.createdAt) := by
    intro id
    simp [Query.matched]
  refine ⟨_, page_listed matched oldest_injective
    (read.trans (threadRows_eq hub.forum.chat channelId rootId cursor _ answerable.stands)) ids ?_ ?_⟩
  · intro ends
    rw [last_none (next.symm.trans ends)]
    exact positive
  · intro mark more
    exact next.symm.trans more

theorem history_ordered (reader channelId : String) (limit : Option Int) :
    Ordered newest (.messages reader channelId none limit) := by
  refine ⟨newest_injective, ?_⟩
  intro hub cursor page fetched answerable
  obtain ⟨rows, read, ids, next⟩ := fetch_messages fetched
  have positive : 0 < (min (limit.getD 50) 100).toNat := by
    have asked : 0 < limit.getD 50 := answerable.rows
    omega
  have matched : ∀ id, (Query.messages reader channelId none limit).matched hub id =
      (hub.forum.chat.messages[id]?.filter fun row => decide (row.channelId = channelId)).map (·.createdAt) := by
    intro id
    simp [Query.matched]
  refine ⟨_, page_listed matched newest_injective
    (read.trans (historyRows_eq hub.forum.chat channelId cursor _ answerable.stands)) ids ?_ ?_⟩
  · intro ends
    rw [last_none (next.symm.trans ends)]
    exact positive
  · intro mark more
    exact next.symm.trans more

theorem dmRows_eq (convs : Dms.Conversations) (conversationId : String) (cursor : Option String) (limit : Nat)
    (stands : ∀ mark ∈ cursor, (convs.messages[mark]?.map (·.createdAt)).isSome) :
    dmRows convs conversationId cursor limit =
      Keyset.page (fun row : String × Dms.DmMessageRow => newest row.2.createdAt row.1) convs.messages.toList
        (fun row => decide (row.2.conversationId = conversationId))
        (cursor.bind fun id => (convs.messages[id]?.map (·.createdAt)).map (newest · id)) limit := by
  cases cursor with
  | none => rfl
  | some id =>
    have stored := stands id rfl
    cases found : convs.messages[id]? with
    | none => simp [found] at stored
    | some mark => simp [dmRows, found]

theorem replyRows_eq (s : Forum.State) (postId : String) (after : Option String) (limit : Nat)
    (stands : ∀ mark ∈ after, (s.replies[mark]?.map (·.createdAt)).isSome) :
    replyRows s postId after limit =
      Keyset.page (fun row : String × Forum.ReplyRow => oldest row.2.createdAt row.1) s.replies.toList
        (fun row => decide (row.2.postId = postId))
        (after.bind fun id => (s.replies[id]?.map (·.createdAt)).map (oldest · id)) limit := by
  cases after with
  | none => rfl
  | some id =>
    have stored := stands id rfl
    cases found : s.replies[id]? with
    | none => simp [found] at stored
    | some mark => simp [replyRows, found]

theorem dms_ordered (user conversationId : String) (limit : Option Int) :
    Ordered newest (.dms user conversationId limit) := by
  refine ⟨newest_injective, ?_⟩
  intro hub cursor page fetched answerable
  simp only [Query.fetch, listDmMessages] at fetched
  split at fetched
  next => cases fetched
  next =>
    have read := dmRows_eq hub.conversations conversationId cursor (max 1 (min (limit.getD 50) 100)).toNat
      answerable.stands
    generalize dmRows hub.conversations conversationId cursor (max 1 (min (limit.getD 50) 100)).toNat = rows at *
    have matched : ∀ id, (Query.dms user conversationId limit).matched hub id =
        (hub.conversations.messages[id]?.filter fun row => decide (row.conversationId = conversationId)).map
          (·.createdAt) := fun id => rfl
    have next : page.next = (rows.map (·.1)).getLast? := by
      rw [← Except.ok.inj fetched]
      simp [dmResponse, Function.comp_def]
    refine ⟨_, page_listed matched newest_injective read ?_ ?_ ?_⟩
    · rw [← Except.ok.inj fetched]
      simp [dmResponse, Function.comp_def]
    · intro ends
      rw [last_none (next.symm.trans ends)]
      omega
    · intro mark more
      exact next.symm.trans more

-- The page of a post that is shown, and whether there is more.
theorem fetch_replies {user channelId postId : String} {limit : Option Int} {hub : Hub} {cursor : Option String}
    {page : Page} (fetched : (Query.replies user channelId postId limit).fetch hub cursor = .ok page) :
    ∃ answer canModerate, postPage hub.forum postId cursor (min (limit.getD 50) 100) canModerate = .ok answer ∧
      page = { ids := answer.replies.map (·.id), next := answer.replyCursor } := by
  simp only [Query.fetch] at fetched
  cases found : getPost hub.forum user channelId postId cursor limit with
  | error e =>
    rw [found] at fetched
    cases fetched
  | ok answer =>
    rw [found] at fetched
    obtain ⟨_, _, readable⟩ := Checks.bind_ok found
    obtain ⟨_, _, here⟩ := Checks.bind_ok readable
    obtain ⟨_, _, shown⟩ := Checks.bind_ok here
    exact ⟨answer, _, shown, (Except.ok.inj fetched).symm⟩

theorem take_page {R K : Type} [LinearOrder K] (key : R → K) (table : List R) (holds : R → Bool) (after : Option K)
    (limit : Nat) : (Keyset.page key table holds after (limit + 1)).take limit = Keyset.page key table holds after limit := by
  simp [Keyset.page, List.take_take]

theorem replies_ordered (user channelId postId : String) (limit : Option Int) :
    Ordered oldest (.replies user channelId postId limit) := by
  refine ⟨oldest_injective, ?_⟩
  intro hub cursor page fetched answerable
  obtain ⟨answer, canModerate, shown, rfl⟩ := fetch_replies fetched
  have asked : 0 < limit.getD 50 := answerable.rows
  have positive : 0 < min (limit.getD 50) 100 := by omega
  have matched : ∀ id, (Query.replies user channelId postId limit).matched hub id =
      (hub.forum.replies[id]?.filter fun row => decide (row.postId = postId)).map (·.createdAt) := fun id => rfl
  obtain ⟨size, sized⟩ := Int.eq_ofNat_of_zero_le positive.le
  rw [sized] at shown positive
  unfold postPage at shown
  split at shown
  next => cases shown
  next =>
    have read := replyRows_eq hub.forum postId cursor (size + 1) answerable.stands
    have whole : ((size : Int) + 1).toNat = size + 1 := by omega
    have nonnegative : ¬(size : Int) < 0 := by omega
    simp only [whole, Int.toNat_natCast, if_neg nonnegative] at shown
    obtain rfl := Except.ok.inj shown
    have front : (replyRows hub.forum postId cursor (size + 1)).take size = _ :=
      (congrArg (List.take size) read).trans (take_page _ _ _ _ size)
    generalize replyRows hub.forum postId cursor (size + 1) = rows at *
    have views : ∀ rows : List (String × Forum.ReplyRow),
        (rows.map fun row => replyToView row.1 row.2 canModerate).map (·.id) = rows.map (·.1) := by
      intro rows
      simp [replyToView, Function.comp_def]
    by_cases more : (size : Int) < rows.length
    next =>
      refine ⟨_, page_listed matched oldest_injective front (views _) ?_ ?_⟩
      · intro ends
        rw [if_pos more, ← List.getLast?_map] at ends
        rw [last_none ends]
        omega
      · intro mark goesOn
        rw [if_pos more, ← List.getLast?_map] at goesOn
        exact goesOn
    next =>
      have all : rows.take size = rows := List.take_of_length_le (by omega)
      refine ⟨_, page_listed matched oldest_injective read ((views _).trans (by rw [all])) ?_ ?_⟩
      · intro _
        omega
      · intro mark goesOn
        rw [if_neg more] at goesOn
        cases goesOn

section

variable {K : Type} [LinearOrder K] {key : Int → String → K} {q : Query}

theorem matched_stored {hub : Hub} {id : String} {t : Int} (matched : q.matched hub id = some t) :
    q.stored hub id = some t := by
  have kept : ∀ {V : Type} (row : Option V) (holds : V → Bool) (time : V → Int),
      (row.filter holds).map time = some t → row.map time = some t := by
    intro V row holds time found
    obtain ⟨value, here, rfl⟩ := Option.map_eq_some_iff.mp found
    rw [(Option.filter_eq_some_iff.mp here).1]
    rfl
  cases q with
  | messages reader channelId threadRoot limit => exact kept _ _ _ matched
  | dms user conversationId limit => exact kept _ _ _ matched
  | replies user channelId postId limit => exact kept _ _ _ matched

theorem Listed.matched {hub : Hub} {cursor : Option String} {page : Page} {marks : List (Int × String)}
    (listed : Listed key q hub cursor page marks) (ordered : Ordered key q) {t : Int} {id : String}
    (member : (t, id) ∈ marks) : q.matched hub id = some t := by
  obtain ⟨⟨other, u, matched, same⟩, _⟩ :=
    listed.drawn.drawn (key t id) (List.mem_map.mpr ⟨(t, id), member, rfl⟩)
  obtain ⟨rfl, rfl⟩ := ordered.injective _ _ _ _ same
  exact matched

-- The pages of a walk are those of a walk through the keys.
theorem walked_keys (ordered : Ordered key q) {requests : List Request} {visited : List String}
    (walked : Walked q requests visited) (evolves : requests.IsChain q.Evolves)
    (answerable : ∀ request ∈ requests, q.Answerable request) {hub : Hub} {cursor : Option String}
    (first : requests.head? = some (hub, cursor)) :
    ∃ marks : List (Int × String), visited = marks.map (·.2) ∧
      Keyset.Walk (q.after key hub cursor) (requests.map fun request => q.rows key request.1)
        (marks.map fun mark => key mark.1 mark.2) := by
  induction walked generalizing hub cursor with
  | last fetched ends =>
    obtain ⟨rfl, rfl⟩ := Prod.mk.inj (Option.some.inj first)
    obtain ⟨marks, listed⟩ := ordered.listed _ _ _ fetched (answerable _ (List.mem_singleton_self _))
    exact ⟨marks, listed.ids, .last listed.drawn (listed.ends ends)⟩
  | @next here later cursor page mark rest visited fetched more walked ih =>
    obtain ⟨rfl, rfl⟩ := Prod.mk.inj (Option.some.inj first)
    obtain ⟨marks, listed⟩ := ordered.listed _ _ _ fetched (answerable _ List.mem_cons_self)
    obtain ⟨after, rfl, walk⟩ := ih (List.isChain_cons_cons.mp evolves).2
      (fun request member => answerable request (List.mem_cons_of_mem _ member)) rfl
    obtain ⟨t, last⟩ := listed.goesOn mark more
    -- The row the cursor names has kept its time.
    have reached : q.after key later (some mark) = some (key t mark) := by
      have stands := (answerable (later, some mark) (by simp)).stands mark rfl
      obtain ⟨u, stored⟩ := Option.isSome_iff_exists.mp stands
      have before := matched_stored (listed.matched ordered (List.mem_of_getLast? last))
      obtain rfl := (List.isChain_cons_cons.mp evolves).1 mark t u before stored
      simp [Query.after, stored]
    refine ⟨marks ++ after, by rw [listed.ids, List.map_append], ?_⟩
    rw [List.map_append, List.map_cons]
    rw [reached] at walk
    refine .next listed.drawn ?_ walk
    rw [List.getLast?_map, last]
    rfl

-- A row that is matched throughout keeps its time throughout.
theorem matched_throughout {requests : List Request} (evolves : requests.IsChain q.Evolves) {id : String}
    (throughout : ∀ request ∈ requests, (q.matched request.1 id).isSome) :
    ∃ t, ∀ request ∈ requests, q.matched request.1 id = some t := by
  induction requests with
  | nil => exact ⟨0, fun _ member => by cases member⟩
  | cons request rest ih =>
    obtain ⟨t, here⟩ := Option.isSome_iff_exists.mp (throughout request List.mem_cons_self)
    refine ⟨t, ?_⟩
    cases rest with
    | nil =>
      intro other member
      rw [List.mem_singleton.mp member]
      exact here
    | cons next rest =>
      obtain ⟨steps, evolves⟩ := List.isChain_cons_cons.mp evolves
      obtain ⟨u, later⟩ := ih evolves fun other member => throughout other (List.mem_cons_of_mem _ member)
      obtain rfl := steps id t u (matched_stored here) (matched_stored (later next List.mem_cons_self))
      intro other member
      rcases List.mem_cons.mp member with rfl | inRest
      · exact here
      · exact later other inRest

theorem complete_of_ordered (ordered : Ordered key q) {hub : Hub} {rest : List Request} {visited : List String}
    (walked : Walked q ((hub, none) :: rest) visited) (evolves : ((hub, none) :: rest).IsChain q.Evolves)
    (answerable : ∀ request ∈ (hub, none) :: rest, q.Answerable request) :
    q.Complete ((hub, none) :: rest) visited := by
  intro id throughout
  obtain ⟨marks, rfl, walk⟩ := walked_keys ordered walked evolves answerable rfl
  obtain ⟨t, matched⟩ := matched_throughout evolves throughout
  have once : (marks.map fun mark => key mark.1 mark.2).count (key t id) = 1 := by
    refine Keyset.Walk.visits_once walk ?_
    intro rows member
    obtain ⟨request, inside, rfl⟩ := List.mem_map.mp member
    exact ⟨id, t, matched request inside, rfl⟩
  -- No other visit is of this id: its time is the same at every request.
  have only : ∀ mark ∈ marks, mark.2 = id → mark.1 = t := by
    intro mark member same
    obtain ⟨rows, inTables, held⟩ := walk.drawn (List.mem_map.mpr ⟨mark, member, rfl⟩)
    obtain ⟨request, inside, rfl⟩ := List.mem_map.mp inTables
    obtain ⟨other, u, found, sameKey⟩ := held
    obtain ⟨rfl, rfl⟩ := ordered.injective _ _ _ _ sameKey
    exact Option.some.inj (found.symm.trans (same ▸ matched request inside))
  rw [List.count, List.countP_map] at once ⊢
  rw [← once]
  refine List.countP_congr ?_
  intro mark member
  simp only [Function.comp_apply, beq_iff_eq]
  constructor
  · intro same
    rw [only mark member same, same]
  · intro same
    exact (ordered.injective _ _ _ _ same).2

end

/-- A walk whose requests all ask for rows and find their cursor stored visits everything once. -/
theorem paging_complete (q : Query) (hub : Hub) (rest : List Request) (visited : List String)
    (walked : Walked q ((hub, none) :: rest) visited) (evolves : ((hub, none) :: rest).IsChain q.Evolves)
    (answerable : ∀ request ∈ (hub, none) :: rest, q.Answerable request) :
    q.Complete ((hub, none) :: rest) visited := by
  cases q with
  | messages reader channelId threadRoot limit =>
    cases threadRoot with
    | none => exact complete_of_ordered (history_ordered reader channelId limit) walked evolves answerable
    | some rootId => exact complete_of_ordered (thread_ordered reader channelId rootId limit) walked evolves answerable
  | dms user conversationId limit =>
    exact complete_of_ordered (dms_ordered user conversationId limit) walked evolves answerable
  | replies user channelId postId limit =>
    exact complete_of_ordered (replies_ordered user channelId postId limit) walked evolves answerable

section

variable {hub : Hub} {cursor : Option String} {page : Page}

theorem pastCursor_dead {s : Chat.State} {mark : String} (past : String × MessageRow → String × MessageRow → Bool)
    (dead : s.messages[mark]? = none) (row : String × MessageRow) :
    Chat.pastCursor s (some mark) past row = false := by
  simp [Chat.pastCursor, dead]

theorem selectRows_ends {s : Chat.State} {channelId : String} {threadRoot : Option String} {limit : Option Int}
    (ends : limit.getD 50 ≤ 0 ∨ ∃ mark ∈ cursor, s.messages[mark]? = none) :
    Chat.selectRows s channelId { cursor := cursor, limit := limit, threadRoot := threadRoot } [] = [] := by
  rcases ends with empty | ⟨mark, rfl, dead⟩
  · have none : (Chat.pageLimit { cursor := cursor, limit := limit, threadRoot := threadRoot }).toNat = 0 := by
      simp only [Chat.pageLimit]
      omega
    cases threadRoot <;> simp [Chat.selectRows, Chat.searchText, Chat.threadRows, Chat.historyRows, none]
  · cases threadRoot <;>
      simp [Chat.selectRows, Chat.searchText, Chat.threadRows, Chat.historyRows, Chat.oldestFirst, Chat.newestFirst,
        pastCursor_dead _ dead]

theorem postPage_ends {s : Forum.State} {postId : String} {limit : Int} {canModerate : Bool} {answer : PostPage}
    (shown : postPage s postId cursor limit canModerate = .ok answer)
    (ends : limit ≤ 0 ∨ ∃ mark ∈ cursor, s.replies[mark]? = none) :
    answer = { replies := [], replyCursor := none } := by
  unfold postPage at shown
  obtain ⟨accepted, shown⟩ := Checks.refuse_ok shown
  obtain rfl := Except.ok.inj shown
  rcases ends with empty | ⟨mark, rfl, dead⟩
  · rcases Int.lt_or_eq_of_le empty with negative | rfl
    · have nothing : (limit + 1).toNat = 0 := by omega
      have rows : replyRows s postId cursor 0 = [] := by
        unfold replyRows Keyset.page
        cases cursor with
        | none => rfl
        | some mark =>
          dsimp only
          split <;> rfl
      simp [nothing, rows]
    · simp
  · simp [replyRows, dead]

theorem unanswerable_cases {q : Query} (unanswerable : ¬q.Answerable (hub, cursor)) :
    ¬q.Asks ∨ ∃ mark ∈ cursor, q.stored hub mark = none := by
  by_contra answerable
  rw [not_or, not_not] at answerable
  refine unanswerable ⟨answerable.1, ?_⟩
  intro mark named
  by_contra absent
  exact answerable.2 ⟨mark, named, Option.not_isSome_iff_eq_none.mp absent⟩

-- A request that asks for no rows, or whose cursor is gone, is answered with the end of the list.
theorem unanswerable_ends (q : Query) (fetched : q.fetch hub cursor = .ok page)
    (unanswerable : ¬q.Answerable (hub, cursor)) : page = { ids := [], next := none } := by
  have cases := unanswerable_cases unanswerable
  cases q with
  | messages reader channelId threadRoot limit =>
    obtain ⟨rows, read, ids, next⟩ := fetch_messages fetched
    have ends : limit.getD 50 ≤ 0 ∨ ∃ mark ∈ cursor, hub.forum.chat.messages[mark]? = none := by
      refine cases.imp not_lt.mp (Exists.imp ?_)
      intro mark gone
      exact ⟨gone.1, Option.map_eq_none_iff.mp gone.2⟩
    obtain ⟨ids', next'⟩ := page
    rw [selectRows_ends ends] at read
    subst read
    simpa using ⟨ids, next⟩
  | dms user conversationId limit =>
    obtain ⟨mark, rfl, gone⟩ := cases.resolve_left (not_not.mpr trivial)
    simp only [Query.fetch, listDmMessages] at fetched
    split at fetched
    next => cases fetched
    next =>
      rw [← Except.ok.inj fetched]
      simp [dmRows, Option.map_eq_none_iff.mp gone]
  | replies user channelId postId limit =>
    obtain ⟨answer, canModerate, shown, rfl⟩ := fetch_replies fetched
    have ends : min (limit.getD 50) 100 ≤ 0 ∨ ∃ mark ∈ cursor, hub.forum.replies[mark]? = none := by
      refine cases.imp ?_ (Exists.imp ?_)
      next =>
        intro empty
        have none : limit.getD 50 ≤ 0 := not_lt.mp empty
        omega
      next =>
        intro mark gone
        exact ⟨gone.1, Option.map_eq_none_iff.mp gone.2⟩
    rw [postPage_ends shown ends]
    rfl

end

-- A hub where everybody named reads the square.
def squareDb : Db where
  channels := (∅ : Table Channel).insert "square" { name := "square", createdBy := "ann" }
  users := (∅ : Table User).insert "bob" { isMember := true }
  roles := (∅ : Table Role).insert "reader" { name := "reader" }
  userRoles := {("bob", "reader")}
  rolePermissions := {("reader", MESSAGES_READ)}

def spoken (createdAt : Int) : MessageRow :=
  { channelId := "square", sender := "ann", content := "hello", createdAt := createdAt }

def squareHub (messages : Table MessageRow) : Hub := { forum := { chat := { db := squareDb, messages := messages } } }

def threeWords : Table MessageRow := (((∅ : Table MessageRow).insert "a" (spoken 5)).insert "b" (spoken 6)).insert "c" (spoken 6)

def byTwo : Query := .messages "bob" "square" none (some 2)

theorem evolves_still (q : Query) (hub : Hub) (cursor mark : Option String) : q.Evolves (hub, cursor) (hub, mark) :=
  fun _ _ _ before after => Option.some.inj (before.symm.trans after)

-- What stays keeps its time when a message goes.
theorem evolves_erase (messages : Table MessageRow) (id : String) (cursor mark : Option String) :
    byTwo.Evolves (squareHub messages, cursor) (squareHub (messages.erase id), mark) := by
  intro other before after first second
  have kept : (messages.erase id)[other]? = none ∨ (messages.erase id)[other]? = messages[other]? := by
    rw [ExtTreeMap.getElem?_erase]
    split
    next => exact .inl rfl
    next => exact .inr rfl
  simp only [byTwo, Query.stored, squareHub] at first second
  rcases kept with gone | same
  · rw [gone] at second
    cases second
  · rw [same, first] at second
    exact Option.some.inj second

-- The newest message goes between the pages of a walk.
theorem paging_complete_square :
    byTwo.Complete [(squareHub threeWords, none), (squareHub (threeWords.erase "c"), some "b"),
      (squareHub (threeWords.erase "c"), some "a")] (["c", "b"] ++ (["a"] ++ [])) :=
  paging_complete byTwo _ _ _
    (.next (by decide : _ = Except.ok { ids := ["c", "b"], next := some "b" }) rfl
      (.next (by decide : _ = Except.ok { ids := ["a"], next := some "a" }) rfl
        (.last (by decide : _ = Except.ok { ids := [], next := none }) rfl)))
    (List.isChain_cons_cons.mpr ⟨evolves_erase threeWords "c" none (some "b"),
      List.isChain_cons_cons.mpr ⟨evolves_still byTwo _ _ _, List.isChain_singleton _⟩⟩)
    (by decide)

-- The cursor of the second page is gone, and so is the rest of the list.
theorem paging_complete_cut :
    ¬ ∀ (q : Query) (hub : Hub) (rest : List Request) (visited : List String), Walked q ((hub, none) :: rest) visited →
      ((hub, none) :: rest).IsChain q.Evolves → q.Complete ((hub, none) :: rest) visited := by
  intro complete
  have walked : Walked byTwo [(squareHub threeWords, none), (squareHub (threeWords.erase "b"), some "b")]
      (["c", "b"] ++ []) :=
    .next (by decide : _ = Except.ok { ids := ["c", "b"], next := some "b" }) rfl
      (.last (by decide : _ = Except.ok { ids := [], next := none }) rfl)
  have visited := complete byTwo _ _ _ walked
    (List.isChain_cons_cons.mpr ⟨evolves_erase threeWords "b" none (some "b"), List.isChain_singleton _⟩) "a"
    (by decide)
  revert visited
  decide

end Wavvon.Paging
