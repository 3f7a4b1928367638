import Wavvon.Channels.Tree
import Wavvon.Forum.State
import Wavvon.Shared.Registers

set_option autoImplicit false

namespace Wavvon.Search

open Chat (MessageRow SendMessageRequest EditMessageRequest SendChecks MatchedCommand AppResponse PaginationParams)

structure IndexedMessage where
  id : String
  channelId : String
  authorPubkey : String
  content : String
  timestamp : Int
  deriving DecidableEq, Repr

/--
The full-text engine: which texts a query finds, and which of the documents found it collects. A
query that does not parse finds nothing.
-/
structure Engine where
  finds : String → String → Bool
  top : String → Nat → List IndexedMessage → List IndexedMessage
  top_within : ∀ q limit docs, top q limit docs ⊆ docs
  top_all : ∀ q limit docs, docs.length ≤ limit → limit ≤ 100 → docs ⊆ top q limit docs

-- The documents of the named channels, or of all when none is named.
def Engine.found (engine : Engine) (docs : List IndexedMessage) (q : String) (channelIds : List String) :
    List IndexedMessage :=
  docs.filter fun doc => engine.finds q doc.content && (channelIds.isEmpty || decide (doc.channelId ∈ channelIds))

def Engine.query (engine : Engine) (docs : List IndexedMessage) (q : String) (channelIds : List String)
    (limit : Nat) : List IndexedMessage :=
  engine.top q limit (engine.found docs q channelIds)

/-- The messages of a hub, and the index that is kept of them beside the database. -/
structure State where
  chat : Chat.State := {}
  retentionDays : Table Int := ∅
  docs : List IndexedMessage := []

def index (s : State) (doc : IndexedMessage) : State := { s with docs := doc :: s.docs }

def delete (s : State) (msgId : String) : State := { s with docs := s.docs.filter (·.id ≠ msgId) }

def indexed (sender channelId : String) (req : SendMessageRequest) (id : String) (now : Int) : IndexedMessage :=
  { id := id, channelId := channelId, authorPubkey := sender, content := req.content, timestamp := now }

-- The request comes as far as the message's own insert, and the insert is taken.
def stores (s : Chat.State) (sender channelId : String) (req : SendMessageRequest) (checks : SendChecks)
    (slash : Option String) (id : String) (now : Int) : Bool :=
  (Chat.checkSend s sender channelId req checks).isOk && (Chat.slashError req slash).isNone &&
    checks.moderation.isOk && (Chat.checkInsert s id (Chat.messageRow sender channelId req now)).isOk

-- What a command's app or its failure posts is not indexed.
def sendMessage (s : State) (sender channelId : String) (req : SendMessageRequest) (checks : SendChecks)
    (slash : Option String) (id errId : String) (now : Int) : State :=
  let sent := { s with chat := (Chat.sendMessage s.chat sender channelId req checks slash id errId now).state }
  if stores s.chat sender channelId req checks slash id now then index sent (indexed sender channelId req id now)
  else sent

def dispatchSlash (s : State) (channelId invoker : String) (matched : Option MatchedCommand) (cooldown : Option Nat)
    (hook : Option AppResponse) (id : String) (now : Int) : State :=
  { s with chat := (Chat.dispatchSlash s.chat channelId invoker matched cooldown hook id now).1.state }

def editMessage (s : State) (user channelId id : String) (req : EditMessageRequest) (now : Int) : State :=
  { s with chat := (Chat.editMessage s.chat user channelId id req now).state }

def deleteMessage (s : State) (user channelId id : String) : State :=
  let deleted := { s with chat := (Chat.deleteMessage s.chat user channelId id).state }
  if (Chat.checkDelete s.chat user channelId id).isOk then delete deleted id else deleted

-- What hangs on the channels goes with them.
def deleteChannel (s : State) (user channelId : String) : State :=
  match Channels.deleteChannel s.chat.db user channelId with
  | (_, .error _) => s
  | (db, .ok _) =>
    let ids := Channels.channelSubtreeIds s.chat.db channelId
    { s with
      chat := { s.chat with
        db := db
        messages := s.chat.messages.filter fun _ row => decide (row.channelId ∉ ids)
        shares := s.chat.shares.filter fun share => decide (share.channelId ∉ ids) }
      retentionDays := s.retentionDays.filter fun id _ => decide (id ∉ ids) }

def runSweep (s : State) (now : Int) : State :=
  { s with chat := (Forum.sweepMessages { chat := s.chat, retentionDays := s.retentionDays } now).chat }

structure SearchQuery where
  q : String
  limit : Int := 20
  deriving DecidableEq, Repr

structure SearchResult where
  messageId : String
  channelId : String
  channelName : String
  sender : String
  senderName : Option String
  contentPreview : String
  createdAt : Int
  deriving DecidableEq, Repr

-- Text channels the caller can read and is not banned from.
def visibleChannels (db : Db) (user : String) : List String :=
  (db.channels.toList.filter fun row =>
    !row.2.isCategory && decide (row.2.channelType = .text) && decide ((row.1, user) ∉ db.channelBans) &&
      decide (row.1 ∈ channelsWithPermission db user MESSAGES_READ)).map Prod.fst

-- `as usize`.
def asUsize (limit : Int) : Nat := (limit % 2 ^ 64).toNat

-- The longest prefix that fits into so many bytes.
def prefixBytes : Nat → List Char → List Char
  | _, [] => []
  | room, c :: rest => if c.utf8Size ≤ room then c :: prefixBytes (room - c.utf8Size) rest else []

def preview (content : String) : String :=
  if 200 < content.utf8ByteSize then String.ofList (prefixBytes 197 content.toList) ++ "…" else content

-- The name of the message's channel and of its sender, while the message is stored.
def namesOf (s : Chat.State) (id : String) : Option (String × Option String) :=
  s.messages[id]?.bind fun row =>
    s.db.channels[row.channelId]?.map fun channel => (channel.name, s.db.displayName row.sender)

-- The documents behind the results.
def hits (engine : Engine) (s : State) (user : String) (query : SearchQuery) : List IndexedMessage :=
  if (trim query.q).utf8ByteSize < 2 then []
  else
    let visible := visibleChannels s.chat.db user
    if visible.isEmpty then []
    else
      (engine.query s.docs (trim query.q) visible (asUsize (min query.limit 100))).filter fun hit =>
        (namesOf s.chat hit.id).isSome

def searchMessages (engine : Engine) (s : State) (user : String) (query : SearchQuery) : List SearchResult :=
  (hits engine s user query).filterMap fun hit =>
    (namesOf s.chat hit.id).map fun names =>
      { messageId := hit.id, channelId := hit.channelId, channelName := names.1, sender := hit.authorPubkey
        senderName := names.2, contentPreview := preview hit.content, createdAt := hit.timestamp }

-- The search of one channel's history; the rows are read anew by their ids.
def channelHits (engine : Engine) (s : State) (channelId : String) (params : PaginationParams) : List String :=
  match Chat.searchText params with
  | none => []
  | some text => (engine.query s.docs (trim text) [channelId] (asUsize (Chat.pageLimit params))).map (·.id)

def searchChannel (engine : Engine) (s : State) (reader channelId : String) (params : PaginationParams) :
    Chat.Outcome :=
  Chat.getMessages s.chat reader channelId params (channelHits engine s channelId params)

/-- The requests and the sweep that change messages. -/
inductive Call where
  | sendMessage (sender channelId : String) (req : SendMessageRequest) (checks : SendChecks) (slash : Option String)
      (id errId : String) (now : Int)
  | dispatchSlash (channelId invoker : String) (matched : Option MatchedCommand) (cooldown : Option Nat)
      (hook : Option AppResponse) (id : String) (now : Int)
  | editMessage (user channelId id : String) (req : EditMessageRequest) (now : Int)
  | deleteMessage (user channelId id : String)
  | deleteChannel (user channelId : String)
  | runSweep (now : Int)

def Call.next (s : State) : Call → State
  | .sendMessage sender channelId req checks slash id errId now =>
    Search.sendMessage s sender channelId req checks slash id errId now
  | .dispatchSlash channelId invoker matched cooldown hook id now =>
    Search.dispatchSlash s channelId invoker matched cooldown hook id now
  | .editMessage user channelId id req now => Search.editMessage s user channelId id req now
  | .deleteMessage user channelId id => Search.deleteMessage s user channelId id
  | .deleteChannel user channelId => Search.deleteChannel s user channelId
  | .runSweep now => Search.runSweep s now

-- What a document has from its message, which everybody in the channel may see.
def Says (doc : IndexedMessage) (row : MessageRow) : Prop :=
  doc.content = row.content ∧ doc.channelId = row.channelId ∧ row.visibleToPubkey = none

abbrev Agrees (messages : Table MessageRow) (docs : List IndexedMessage) : Prop :=
  Copies.Faithful IndexedMessage.id Says messages docs

-- A foreign key of the overwrites.
def Referenced (db : Db) : Prop := ∀ row ∈ db.overwrites, row.channelId ∈ db.channels

instance (db : Db) : Decidable (Referenced db) :=
  inferInstanceAs (Decidable (∀ row ∈ db.overwrites, row.channelId ∈ db.channels))

/-- A hub with the ids drawn so far, and those under which `send_message` stored a message. -/
structure Watch where
  hub : State
  drawn : Finset String
  sent : Finset String

def Call.draws : Call → Finset String
  | .sendMessage _ _ _ _ _ id errId _ => {id, errId}
  | .dispatchSlash _ _ _ _ _ id _ => {id}
  | _ => ∅

def Call.sends (s : State) : Call → Finset String
  | .sendMessage sender channelId req checks slash id _ now =>
    if stores s.chat sender channelId req checks slash id now then {id} else ∅
  | _ => ∅

def Watch.next (w : Watch) (call : Call) : Watch :=
  { hub := call.next w.hub, drawn := w.drawn ∪ call.draws, sent := w.sent ∪ call.sends w.hub }

-- What is indexed at the start counts as sent.
def Watch.start (s : State) : Watch :=
  { hub := s
    drawn := s.chat.messages.keys.toFinset ∪ (s.docs.map (·.id)).toFinset
    sent := (s.docs.map (·.id)).toFinset }

-- `Uuid::new_v4` draws no id a second time.
def DrawsNew (w : Watch) (call : Call) : Prop := ∀ id ∈ call.draws, id ∉ w.drawn

instance (w : Watch) (call : Call) : Decidable (DrawsNew w call) :=
  inferInstanceAs (Decidable (∀ id ∈ call.draws, id ∉ w.drawn))

-- An edit that is accepted leaves the text as it was.
def KeepsText (w : Watch) : Call → Prop
  | .editMessage user channelId id req _ =>
    ∀ row ∈ (Chat.checkEdit w.hub.chat user channelId id req).toOption, req.content = row.content
  | _ => True

instance (w : Watch) : (call : Call) → Decidable (KeepsText w call)
  | .editMessage user channelId id req _ =>
    inferInstanceAs (Decidable (∀ row ∈ (Chat.checkEdit w.hub.chat user channelId id req).toOption,
      req.content = row.content))
  | .sendMessage .. | .dispatchSlash .. | .deleteMessage .. | .deleteChannel .. | .runSweep .. => isTrue trivial

def Readable (s : Chat.State) (user : String) (row : MessageRow) : Prop :=
  (channelPermissions s.db user row.channelId).has MESSAGES_READ = true ∧ row.visibleToPubkey.all (· = user) = true

/-- What a search may show: messages as they stand, and each message that was sent by its own words. -/
structure Watch.Current (engine : Engine) (w : Watch) : Prop where
  hits : ∀ user query, ∀ hit ∈ hits engine w.hub user query, ∃ row, w.hub.chat.messages[hit.id]? = some row ∧
    Readable w.hub.chat user row ∧ hit.content = row.content ∧ engine.finds (trim query.q) row.content = true
  inChannel : ∀ user channelId params text, params.threadRoot = none → Chat.searchText params = some text →
    ∀ messages, (searchChannel engine w.hub user channelId params).answer = .ok messages →
      ∀ message ∈ messages, ∃ row, w.hub.chat.messages[message.id]? = some row ∧ Readable w.hub.chat user row ∧
        message.content = row.content ∧ engine.finds (trim text) row.content = true
  found : ∀ id ∈ w.sent, ∀ row, w.hub.chat.messages[id]? = some row → ∀ user query,
    row.channelId ∈ visibleChannels w.hub.chat.db user → 2 ≤ (trim query.q).utf8ByteSize →
      engine.finds (trim query.q) row.content = true →
        ((engine.found w.hub.docs (trim query.q) (visibleChannels w.hub.chat.db user)).length : Int) ≤ min query.limit 100 →
          ∃ hit ∈ Search.hits engine w.hub user query, hit.id = id

/-- The index of a run: faithful, complete for what was sent, and under ids drawn before. -/
structure Kept (messages : Table MessageRow) (docs : List IndexedMessage) (drawn sent : Finset String) : Prop where
  agrees : Agrees messages docs
  covers : Copies.Covers IndexedMessage.id (· ∈ sent) messages docs
  docsDrawn : ∀ doc ∈ docs, doc.id ∈ drawn
  rowsDrawn : ∀ id ∈ messages, id ∈ drawn
  sentDrawn : sent ⊆ drawn

theorem erase_within {messages : Table MessageRow} {id : String} (other : String) (row : MessageRow)
    (found : (messages.erase id)[other]? = some row) : messages[other]? = some row := by
  rw [Std.ExtTreeMap.getElem?_erase] at found
  split at found
  next => cases found
  next => exact found

namespace Kept

variable {messages less : Table MessageRow} {docs : List IndexedMessage} {drawn sent : Finset String} {id : String}

theorem start {s : State} (agrees : Agrees s.chat.messages s.docs) :
    Kept s.chat.messages s.docs (Watch.start s).drawn (Watch.start s).sent where
  agrees := agrees
  covers := by
    intro id listed row _
    obtain ⟨doc, member, rfl⟩ := List.mem_map.mp (List.mem_toFinset.mp listed)
    exact ⟨doc, member, rfl⟩
  docsDrawn := by
    intro doc member
    exact Finset.mem_union_right _ (List.mem_toFinset.mpr (List.mem_map_of_mem member))
  rowsDrawn := by
    intro id stored
    exact Finset.mem_union_left _ (List.mem_toFinset.mpr (Std.ExtTreeMap.mem_keys.mpr stored))
  sentDrawn := Finset.subset_union_right

theorem widen (kept : Kept messages docs drawn sent) (more : Finset String) :
    Kept messages docs (drawn ∪ more) sent where
  agrees := kept.agrees
  covers := kept.covers
  docsDrawn := fun doc member => Finset.mem_union_left more (kept.docsDrawn doc member)
  rowsDrawn := fun id stored => Finset.mem_union_left more (kept.rowsDrawn id stored)
  sentDrawn := kept.sentDrawn.trans Finset.subset_union_left

theorem shrink (kept : Kept messages docs drawn sent)
    (within : ∀ (id : String) (row : MessageRow), less[id]? = some row → messages[id]? = some row) :
    Kept less docs drawn sent where
  agrees := kept.agrees.shrink within
  covers := kept.covers.shrink within
  docsDrawn := kept.docsDrawn
  rowsDrawn := by
    intro id stored
    obtain ⟨row, found⟩ := Option.isSome_iff_exists.mp (Std.ExtTreeMap.mem_iff_isSome_getElem?.mp stored)
    exact kept.rowsDrawn id (Std.ExtTreeMap.mem_iff_isSome_getElem?.mpr (by rw [within id row found]; rfl))
  sentDrawn := kept.sentDrawn

-- A message under a new id, which is not indexed.
theorem insert (kept : Kept messages docs drawn sent) (fresh : id ∉ drawn) {more : Finset String} (draws : id ∈ more)
    (row : MessageRow) : Kept (messages.insert id row) docs (drawn ∪ more) sent where
  agrees := kept.agrees.insert (by
    rintro doc member rfl
    exact fresh (kept.docsDrawn doc member)) row
  covers := kept.covers.insert (fun listed => fresh (kept.sentDrawn listed)) row
  docsDrawn := fun doc member => Finset.mem_union_left more (kept.docsDrawn doc member)
  rowsDrawn := by
    intro other stored
    obtain same | before := Std.ExtTreeMap.mem_insert.mp stored
    · exact Finset.mem_union_right drawn (Std.LawfulEqCmp.eq_of_compare same ▸ draws)
    · exact Finset.mem_union_left more (kept.rowsDrawn other before)
  sentDrawn := kept.sentDrawn.trans Finset.subset_union_left

-- A message under an id that is drawn already is given its document.
theorem index (kept : Kept messages docs drawn sent) {doc : IndexedMessage} (drawnNow : doc.id ∈ drawn)
    (right : ∀ row, messages[doc.id]? = some row → Says doc row) :
    Kept messages (doc :: docs) drawn (sent ∪ {doc.id}) where
  agrees := kept.agrees.copy right
  covers := by
    intro id listed row found
    refine kept.covers.copy doc id ?_ row found
    obtain before | now := Finset.mem_union.mp listed
    · exact .inl before
    · exact .inr (Finset.mem_singleton.mp now)
  docsDrawn := by
    intro other member
    obtain rfl | before := List.mem_cons.mp member
    · exact drawnNow
    · exact kept.docsDrawn other before
  rowsDrawn := kept.rowsDrawn
  sentDrawn := Finset.union_subset kept.sentDrawn (Finset.singleton_subset_iff.mpr drawnNow)

theorem modify (kept : Kept messages docs drawn sent) (id : String) {f : MessageRow → MessageRow}
    (same : ∀ row, messages[id]? = some row → (f row).content = row.content ∧ (f row).channelId = row.channelId ∧
      (f row).visibleToPubkey = row.visibleToPubkey) : Kept (messages.modify id f) docs drawn sent where
  agrees := by
    refine kept.agrees.modify ?_
    intro doc row stored right
    obtain ⟨content, channel, visible⟩ := same row stored
    exact ⟨right.1.trans content.symm, right.2.1.trans channel.symm, visible.trans right.2.2⟩
  covers := kept.covers.modify id f
  docsDrawn := kept.docsDrawn
  rowsDrawn := fun other stored => kept.rowsDrawn other (Std.ExtTreeMap.mem_modify.mp stored)
  sentDrawn := kept.sentDrawn

theorem drop (kept : Kept messages docs drawn sent) (id : String) :
    Kept (messages.erase id) (docs.filter (·.id ≠ id)) drawn sent where
  agrees := (kept.agrees.shrink erase_within).forget (List.filter_subset_self _)
  covers := kept.covers.drop id
  docsDrawn := fun doc member => kept.docsDrawn doc (List.mem_filter.mp member).1
  rowsDrawn := fun other stored => kept.rowsDrawn other (Std.ExtTreeMap.mem_of_mem_erase stored)
  sentDrawn := kept.sentDrawn

theorem recount {s : Chat.State} (kept : Kept s.messages docs drawn sent) (parent : Option String)
    (count : Int → Int) : Kept (Chat.recount s parent count).messages docs drawn sent := by
  cases parent with
  | none => exact kept
  | some id => exact kept.modify id fun _ _ => ⟨rfl, rfl, rfl⟩

theorem insertMessage {s : Chat.State} (kept : Kept s.messages docs drawn sent) (fresh : id ∉ drawn)
    {more : Finset String} (draws : id ∈ more) (row : MessageRow) :
    Kept (Chat.insertMessage s id row).messages docs (drawn ∪ more) sent := by
  unfold Chat.insertMessage
  cases Chat.checkInsert s id row with
  | error e => exact kept.widen more
  | ok _ => exact kept.insert fresh draws row

end Kept

section

variable {s : Chat.State} {sender channelId id : String} {req : Chat.SendMessageRequest}
  {checks : Chat.SendChecks} {slash : Option String} {now : Int} (errId : String)

theorem sendMessage_stored (stored : stores s sender channelId req checks slash id now = true) :
    (Chat.sendMessage s sender channelId req checks slash id errId now).state =
      Chat.recount { s with messages := s.messages.insert id (Chat.messageRow sender channelId req now) }
        req.replyTo (· + 1) := by
  revert stored
  unfold stores Chat.sendMessage Chat.storeMessage
  cases Chat.checkSend s sender channelId req checks with
  | error e => exact fun stored => by cases stored
  | ok _ =>
    cases Chat.slashError req slash with
    | some text => exact fun stored => by cases stored
    | none =>
      cases checks.moderation with
      | error e => exact fun stored => by cases stored
      | ok _ =>
        dsimp only
        cases Chat.checkInsert s id (Chat.messageRow sender channelId req now) with
        | error e => exact fun stored => by cases stored
        | ok _ => exact fun _ => rfl

-- A refused message leaves everything, and a failed command leaves a notice for its invoker.
theorem sendMessage_unstored (unstored : stores s sender channelId req checks slash id now = false) :
    (Chat.sendMessage s sender channelId req checks slash id errId now).state = s ∨
      ∃ row, (Chat.sendMessage s sender channelId req checks slash id errId now).state =
        { s with messages := s.messages.insert errId row } := by
  revert unstored
  unfold stores Chat.sendMessage
  cases Chat.checkSend s sender channelId req checks with
  | error e => exact fun _ => .inl rfl
  | ok _ =>
    cases Chat.slashError req slash with
    | some text =>
      dsimp only [Chat.insertEphemeralError]
      cases Chat.checkInsert s errId (Chat.ephemeralRow sender channelId text sender now) with
      | error e => exact fun _ => .inl rfl
      | ok _ => exact fun _ => .inr ⟨_, rfl⟩
    | none =>
      cases checks.moderation with
      | error e => exact fun _ => .inl rfl
      | ok _ =>
        dsimp only [Chat.storeMessage]
        cases Chat.checkInsert s id (Chat.messageRow sender channelId req now) with
        | error e => exact fun _ => .inl rfl
        | ok _ => exact fun unstored => by cases unstored

end

@[simp] theorem recount_db (s : Chat.State) (parent : Option String) (count : Int → Int) :
    (Chat.recount s parent count).db = s.db := by
  cases parent <;> rfl

@[simp] theorem insertMessage_db (s : Chat.State) (id : String) (row : MessageRow) :
    (Chat.insertMessage s id row).db = s.db := by
  unfold Chat.insertMessage
  cases Chat.checkInsert s id row <;> rfl

/-- What holds of the hub while it runs. -/
structure Held (w : Watch) : Prop where
  referenced : Referenced w.hub.chat.db
  kept : Kept w.hub.chat.messages w.hub.docs w.drawn w.sent

section

variable {w : Watch}

theorem Held.sendMessage (held : Held w) {sender channelId id errId : String} {req : Chat.SendMessageRequest}
    {checks : Chat.SendChecks} {slash : Option String} {now : Int}
    (new : DrawsNew w (.sendMessage sender channelId req checks slash id errId now)) :
    Held (w.next (.sendMessage sender channelId req checks slash id errId now)) := by
  have freshId : id ∉ w.drawn := new id (Finset.mem_insert_self id {errId})
  have freshErr : errId ∉ w.drawn := new errId (Finset.mem_insert_of_mem (Finset.mem_singleton_self errId))
  unfold Watch.next
  cases stored : stores w.hub.chat sender channelId req checks slash id now with
  | true =>
    simp only [Call.next, Search.sendMessage, Call.draws, Call.sends, stored, if_true, Search.index,
      sendMessage_stored errId stored]
    have inserted := held.kept.insert freshId (Finset.mem_insert_self id {errId})
      (Chat.messageRow sender channelId req now)
    refine ⟨by rw [recount_db]; exact held.referenced, ?_⟩
    apply Kept.recount
    apply inserted.index (Finset.mem_union_right _ (Finset.mem_insert_self id {errId}))
    intro row found
    rw [indexed, Std.ExtTreeMap.getElem?_insert_self] at found
    obtain rfl := Option.some.inj found
    exact ⟨rfl, rfl, rfl⟩
  | false =>
    simp only [Call.next, Search.sendMessage, Call.draws, Call.sends, stored, Bool.false_eq_true, if_false,
      Finset.union_empty]
    obtain after | ⟨row, after⟩ := sendMessage_unstored errId stored
    · rw [after]
      exact ⟨held.referenced, held.kept.widen {id, errId}⟩
    · rw [after]
      exact ⟨held.referenced, held.kept.insert freshErr (by simp) row⟩

theorem Held.dispatchSlash (held : Held w) {channelId invoker id : String} {matched : Option Chat.MatchedCommand}
    {cooldown : Option Nat} {hook : Option Chat.AppResponse} {now : Int}
    (new : DrawsNew w (.dispatchSlash channelId invoker matched cooldown hook id now)) :
    Held (w.next (.dispatchSlash channelId invoker matched cooldown hook id now)) := by
  have fresh : id ∉ w.drawn := new id (Finset.mem_singleton_self id)
  simp only [Watch.next, Call.next, Search.dispatchSlash, Call.draws, Call.sends, Finset.union_empty,
    Chat.dispatchSlash]
  cases Chat.checkSlash w.hub.chat invoker matched cooldown hook with
  | error text => exact ⟨held.referenced, held.kept.widen {id}⟩
  | ok command =>
    obtain ⟨command, answered⟩ := command
    dsimp only
    cases answered.reply with
    | none => exact ⟨held.referenced, held.kept.widen {id}⟩
    | some reply =>
      refine ⟨?_, ?_⟩
      next =>
        show Referenced (Chat.recount (Chat.insertMessage _ _ _) _ _).db
        rw [recount_db, insertMessage_db]
        exact held.referenced
      next => exact (held.kept.insertMessage fresh (Finset.mem_singleton_self id) _).recount _ _

-- An edit that leaves the text may still change the embeds.
theorem Held.editMessage (held : Held w) {user channelId id : String} {req : Chat.EditMessageRequest} {now : Int}
    (keeps : KeepsText w (.editMessage user channelId id req now)) :
    Held (w.next (.editMessage user channelId id req now)) := by
  simp only [Watch.next, Call.next, Search.editMessage, Call.draws, Call.sends, Finset.union_empty, Chat.editMessage]
  cases accepted : Chat.checkEdit w.hub.chat user channelId id req with
  | error e => exact held
  | ok edited =>
    refine ⟨held.referenced, held.kept.modify id ?_⟩
    intro row stored
    have same := (Chat.checkEdit_ok accepted).1
    rw [stored] at same
    obtain rfl := Option.some.inj same
    exact ⟨keeps row (by rw [accepted]; rfl), rfl, rfl⟩

theorem Held.deleteMessage (held : Held w) {user channelId id : String} :
    Held (w.next (.deleteMessage user channelId id)) := by
  simp only [Watch.next, Call.next, Search.deleteMessage, Call.draws, Call.sends, Finset.union_empty,
    Chat.deleteMessage]
  cases Chat.checkDelete w.hub.chat user channelId id with
  | error e => exact held
  | ok row =>
    rw [if_pos (show (Except.ok row : Except HttpError MessageRow).isOk = true from rfl)]
    dsimp only [Search.delete]
    refine ⟨by rw [recount_db]; exact held.referenced, ?_⟩
    apply Kept.recount
    exact held.kept.drop id

theorem filter_within {messages : Table MessageRow} {kept : String → MessageRow → Bool} (id : String)
    (row : MessageRow) (found : (messages.filter kept)[id]? = some row) : messages[id]? = some row := by
  rw [Std.ExtTreeMap.getElem?_filter'] at found
  exact (Option.filter_eq_some_iff.mp found).1

theorem deleteChannels_referenced {db after : Db} {ids : List String} (referenced : Referenced db)
    (deleted : Channels.deleteChannels db ids = some after) : Referenced after := by
  unfold Channels.deleteChannels at deleted
  dsimp only at deleted
  split at deleted
  next => cases deleted
  next =>
    obtain rfl := Option.some.inj deleted
    intro row member
    obtain ⟨listed, spared⟩ := List.mem_filter.mp member
    exact Std.ExtTreeMap.mem_filter.mpr ⟨referenced row listed, by simpa using spared⟩

theorem deleteChannel_referenced {db : Db} (referenced : Referenced db) (user channelId : String) :
    Referenced (Channels.deleteChannel db user channelId).1 := by
  unfold Channels.deleteChannel
  split
  next => exact referenced
  next =>
    split
    next =>
      split
      next deleted => exact deleteChannels_referenced referenced deleted
      next => exact referenced
    next => exact referenced

theorem Held.deleteChannel (held : Held w) {user channelId : String} :
    Held (w.next (.deleteChannel user channelId)) := by
  simp only [Watch.next, Call.next, Search.deleteChannel, Call.draws, Call.sends, Finset.union_empty]
  have referenced := deleteChannel_referenced held.referenced user channelId
  cases deleted : Channels.deleteChannel w.hub.chat.db user channelId with
  | mk db answer =>
    rw [deleted] at referenced
    cases answer with
    | error e => exact held
    | ok _ => exact ⟨referenced, held.kept.shrink filter_within⟩

theorem Held.runSweep (held : Held w) {now : Int} : Held (w.next (.runSweep now)) := by
  simp only [Watch.next, Call.next, Search.runSweep, Call.draws, Call.sends, Finset.union_empty, Forum.sweepMessages]
  split
  next => exact held
  next => exact ⟨held.referenced, held.kept.shrink filter_within⟩

theorem Held.next (held : Held w) {call : Call} (new : DrawsNew w call) (keeps : KeepsText w call) :
    Held (w.next call) := by
  cases call with
  | sendMessage sender channelId req checks slash id errId now => exact held.sendMessage new
  | dispatchSlash channelId invoker matched cooldown hook id now => exact held.dispatchSlash new
  | editMessage user channelId id req now => exact held.editMessage keeps
  | deleteMessage user channelId id => exact held.deleteMessage
  | deleteChannel user channelId => exact held.deleteChannel
  | runSweep now => exact held.runSweep

end

section

variable {engine : Engine} {w : Watch} {user : String} {query : SearchQuery}

theorem visibleChannels_reads {db : Db} (referenced : Referenced db) {channelId : String}
    (visible : channelId ∈ visibleChannels db user) :
    (channelPermissions db user channelId).has MESSAGES_READ = true := by
  obtain ⟨row, listed, rfl⟩ := List.mem_map.mp visible
  have shown := (List.mem_filter.mp listed).2
  rw [Bool.and_eq_true, decide_eq_true_eq] at shown
  exact ((mem_channelsWithPermission referenced).mp shown.2).2

theorem found_spec {docs : List IndexedMessage} {q : String} {channelIds : List String} {doc : IndexedMessage} :
    doc ∈ engine.found docs q channelIds ↔
      doc ∈ docs ∧ engine.finds q doc.content = true ∧ (channelIds = [] ∨ doc.channelId ∈ channelIds) := by
  rw [Engine.found, List.mem_filter, Bool.and_eq_true, Bool.or_eq_true, List.isEmpty_iff, decide_eq_true_eq]

-- Whatever comes out of the index and is still stored reads as it was found.
theorem Held.matched (held : Held w) {q : String} {channelIds : List String} {limit : Nat} {doc : IndexedMessage}
    (collected : doc ∈ engine.query w.hub.docs q channelIds limit) (named : channelIds ≠ []) {row : MessageRow}
    (stored : w.hub.chat.messages[doc.id]? = some row) :
    doc.content = row.content ∧ row.channelId ∈ channelIds ∧ row.visibleToPubkey = none ∧
      engine.finds q row.content = true := by
  obtain ⟨listed, finds, within⟩ := found_spec.mp (engine.top_within q limit _ collected)
  obtain ⟨content, channel, visible⟩ := held.kept.agrees doc listed row stored
  exact ⟨content, channel ▸ within.resolve_left named, visible, content ▸ finds⟩

theorem namesOf_stored {s : Chat.State} {id : String} (named : (namesOf s id).isSome = true) :
    ∃ row, s.messages[id]? = some row := by
  unfold namesOf at named
  cases found : s.messages[id]? with
  | none =>
    rw [found] at named
    cases named
  | some row => exact ⟨row, rfl⟩

theorem Held.hits_current (held : Held w) {hit : IndexedMessage} (shown : hit ∈ hits engine w.hub user query) :
    ∃ row, w.hub.chat.messages[hit.id]? = some row ∧ Readable w.hub.chat user row ∧
      hit.content = row.content ∧ engine.finds (trim query.q) row.content = true := by
  unfold hits at shown
  split at shown
  next => cases shown
  next =>
    dsimp only at shown
    split at shown
    next => cases shown
    next some_ =>
      obtain ⟨collected, named⟩ := List.mem_filter.mp shown
      obtain ⟨row, stored⟩ := namesOf_stored named
      have somewhere : visibleChannels w.hub.chat.db user ≠ [] := fun none_ => some_ (List.isEmpty_iff.mpr none_)
      obtain ⟨content, visible, public_, finds⟩ := held.matched collected somewhere stored
      refine ⟨row, stored, ⟨visibleChannels_reads held.referenced visible, ?_⟩, content, finds⟩
      rw [public_]
      rfl

theorem mem_hitRows {s : Chat.State} {ids : List String} {row : String × MessageRow} :
    row ∈ Chat.hitRows s ids ↔ s.messages[row.1]? = some row.2 ∧ row.1 ∈ ids := by
  rw [Chat.hitRows, Chat.newestFirst, List.mem_insertionSort, List.mem_filter, decide_eq_true_eq,
    Std.ExtTreeMap.mem_toList_iff_getElem?_eq_some]

theorem Held.channel_current (held : Held w) {channelId text : String} {params : Chat.PaginationParams}
    (rootless : params.threadRoot = none) (asked : Chat.searchText params = some text)
    {messages : List Chat.MessageResponse}
    (answered : (searchChannel engine w.hub user channelId params).answer = .ok messages)
    {message : Chat.MessageResponse} (shown : message ∈ messages) :
    ∃ row, w.hub.chat.messages[message.id]? = some row ∧ Readable w.hub.chat user row ∧
      message.content = row.content ∧ engine.finds (trim text) row.content = true := by
  unfold searchChannel Chat.getMessages at answered
  cases allowed : (channelPermissions w.hub.chat.db user channelId).require MESSAGES_READ with
  | error e =>
    rw [allowed] at answered
    cases answered
  | ok _ =>
    rw [allowed] at answered
    dsimp only at answered
    split at answered
    next => cases answered
    next =>
      obtain rfl := Except.ok.inj answered
      have listed := List.mem_map_of_mem (f := fun message => (message.id, message.content)) shown
      rw [Chat.attachContexts_shown, Chat.selectRows, rootless, asked] at listed
      obtain ⟨⟨id, row⟩, hit, same⟩ := List.mem_map.mp listed
      obtain ⟨named, content⟩ := Prod.mk.inj same
      obtain ⟨stored, indexed⟩ := mem_hitRows.mp hit
      rw [channelHits, asked] at indexed
      obtain ⟨doc, collected, rfl⟩ := List.mem_map.mp indexed
      obtain ⟨_, here, public_, finds⟩ := held.matched collected (List.cons_ne_nil _ _) stored
      obtain rfl := List.mem_singleton.mp here
      refine ⟨row, named ▸ stored, ⟨UserPermissions.require_ok.mp allowed, ?_⟩, content.symm, finds⟩
      rw [public_]
      rfl

theorem asUsize_page {limit : Int} (low : 0 ≤ limit) (high : limit ≤ 100) : asUsize limit = limit.toNat := by
  rw [asUsize, Int.emod_eq_of_lt low (by omega)]

theorem Held.found_current (held : Held w) {id : String} (sent : id ∈ w.sent) {row : MessageRow}
    (stored : w.hub.chat.messages[id]? = some row) (visible : row.channelId ∈ visibleChannels w.hub.chat.db user)
    (long : 2 ≤ (trim query.q).utf8ByteSize) (finds : engine.finds (trim query.q) row.content = true)
    (fits : ((engine.found w.hub.docs (trim query.q) (visibleChannels w.hub.chat.db user)).length : Int) ≤
      min query.limit 100) :
    ∃ hit ∈ hits engine w.hub user query, hit.id = id := by
  obtain ⟨doc, listed, rfl⟩ := held.kept.covers id sent row stored
  obtain ⟨content, channel, _⟩ := held.kept.agrees doc listed row stored
  have somewhere : ¬ (visibleChannels w.hub.chat.db user).isEmpty = true := by
    intro none_
    rw [List.isEmpty_iff.mp none_] at visible
    cases visible
  have matching : doc ∈ engine.found w.hub.docs (trim query.q) (visibleChannels w.hub.chat.db user) :=
    found_spec.mpr ⟨listed, content ▸ finds, .inr (channel ▸ visible)⟩
  obtain ⟨channelRow, inTable, sameChannel⟩ := List.mem_map.mp visible
  have named : (namesOf w.hub.chat doc.id).isSome = true := by
    have here : w.hub.chat.db.channels[row.channelId]? = some channelRow.2 := by
      rw [← sameChannel]
      exact Std.ExtTreeMap.mem_toList_iff_getElem?_eq_some.mp (List.mem_filter.mp inTable).1
    rw [namesOf, stored, Option.bind_some, here]
    rfl
  refine ⟨doc, ?_, rfl⟩
  rw [hits, if_neg (by omega)]
  dsimp only
  rw [if_neg somewhere]
  refine List.mem_filter.mpr ⟨engine.top_all _ _ _ ?_ ?_ matching, named⟩
  next =>
    rw [asUsize_page (Int.le_trans (Int.natCast_nonneg _) fits) (min_le_right _ _)]
    omega
  next =>
    rw [asUsize_page (Int.le_trans (Int.natCast_nonneg _) fits) (min_le_right _ _)]
    omega

theorem Held.current (held : Held w) : w.Current engine where
  hits := fun _ _ _ shown => held.hits_current shown
  inChannel := fun _ _ _ _ rootless asked _ answered _ shown => held.channel_current rootless asked answered shown
  found := fun _ sent _ stored _ _ visible long finds fits => held.found_current sent stored visible long finds fits

end

/--
While no accepted edit changes a text, the index and the messages agree after every call: a hit is a
stored message, readable by whoever searches, found by what it says now; and every message that was
sent is found by what it says.
-/
theorem search_current (engine : Engine) (s : State) (referenced : Referenced s.chat.db)
    (agrees : Agrees s.chat.messages s.docs) (calls : List Call)
    (new : Runs.Meets Watch.next DrawsNew (Watch.start s) calls)
    (keeps : Runs.Meets Watch.next KeepsText (Watch.start s) calls) (front : List Call) (before : front <+: calls) :
    (Runs.run Watch.next (Watch.start s) front).Current engine := by
  obtain ⟨back, rfl⟩ := before
  have both := Runs.meets_and.mp ⟨(Runs.Meets.append.mp new).1, (Runs.Meets.append.mp keeps).1⟩
  have held : Held (Runs.run Watch.next (Watch.start s) front) :=
    both.invariant Held (fun _ _ held met => held.next met.1 met.2) ⟨referenced, Kept.start agrees⟩
  exact held.current

-- Finds what is exactly the query, and collects the first documents.
def literal : Engine where
  finds q content := decide (q = content)
  top _ limit docs := docs.take limit
  top_within _ limit docs := List.take_subset limit docs
  top_all _ limit docs fits _ := by
    rw [List.take_of_length_le fits]
    exact List.Subset.refl docs

def parlour : State where
  chat :=
    { db :=
        { users := (∅ : Table User).insert "ann" { isMember := true }
          channels := (∅ : Table Channel).insert "hall" { name := "hall", createdBy := "ann" }
          roles := (∅ : Table Role).insert "talker" { name := "talker" }
          userRoles := {("ann", "talker")}
          rolePermissions := {("talker", MESSAGES_READ), ("talker", Chat.MESSAGES_SEND)} } }

def said : Call := .sendMessage "ann" "hall" { content := "hello" } {} none "m" "e" 7

theorem search_current_said :
    (Runs.run Watch.next (Watch.start parlour) [said, .editMessage "ann" "hall" "m" { content := "hello" } 8]).Current
      literal :=
  search_current literal parlour (by decide) (by intro doc member; cases member)
    [said, .editMessage "ann" "hall" "m" { content := "hello" } 8] (by decide) (by decide) _
    (List.prefix_refl _)

-- The edited message is found by its old words.
theorem search_stale :
    ¬ ∀ (engine : Engine) (s : State) (calls : List Call), Referenced s.chat.db → Agrees s.chat.messages s.docs →
      Runs.Meets Watch.next DrawsNew (Watch.start s) calls →
      (Runs.run Watch.next (Watch.start s) calls).Current engine := by
  intro current
  have now := current literal parlour [said, .editMessage "ann" "hall" "m" { content := "goodbye" } 8]
    (by decide) (by intro doc member; cases member) (by decide)
  obtain ⟨row, stored, _, same, _⟩ := now.hits "ann" { q := "hello" }
    { id := "m", channelId := "hall", authorPubkey := "ann", content := "hello", timestamp := 7 } (by decide)
  have edited : (Runs.run Watch.next (Watch.start parlour)
      [said, .editMessage "ann" "hall" "m" { content := "goodbye" } 8]).hub.chat.messages["m"]?.all
        (·.content = "goodbye") = true := by decide
  rw [stored, Option.all_some, decide_eq_true_eq] at edited
  rw [edited] at same
  cases (of_decide_eq_false (by decide) : ¬ "hello" = "goodbye") same

end Wavvon.Search
