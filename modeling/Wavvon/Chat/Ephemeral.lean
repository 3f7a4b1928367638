import Wavvon.Chat.Handlers
import Wavvon.Shared.Runs

set_option autoImplicit false

namespace Wavvon.Chat

open Std (ExtTreeMap)

/-- The requests of the members and the answers of their apps; `elsewhere` is any change beside the messages. -/
inductive Act where
  | getMessages (reader channelId : String) (params : PaginationParams) (hits : List String)
  | getAllianceChannelMessages (reader allianceId channelId : String) (cursor : Option String) (limit : Option Int)
  | sendMessage (sender channelId : String) (req : SendMessageRequest) (checks : SendChecks) (slash : Option String)
      (id errId : String) (now : Int)
  | dispatchSlash (channelId invoker : String) (matched : Option MatchedCommand) (cooldown : Option Nat)
      (hook : Option AppResponse) (id : String) (now : Int)
  | dispatchComponent (messageId user : String) (hook : Option ComponentResponse) (id : String) (now nowMs : Int)
  | editMessage (user channelId id : String) (req : EditMessageRequest) (now : Int)
  | deleteMessage (user channelId id : String)
  | elsewhere (next : State)

def perform (s : State) : Act → Outcome
  | .getMessages reader channelId params hits => getMessages s reader channelId params hits
  | .getAllianceChannelMessages reader allianceId channelId cursor limit =>
    getAllianceChannelMessages s reader allianceId channelId cursor limit
  | .sendMessage sender channelId req checks slash id errId now =>
    sendMessage s sender channelId req checks slash id errId now
  | .dispatchSlash channelId invoker matched cooldown hook id now =>
    (dispatchSlash s channelId invoker matched cooldown hook id now).1
  | .dispatchComponent messageId user hook id now nowMs => dispatchComponent s messageId user hook id now nowMs
  | .editMessage user channelId id req now => editMessage s user channelId id req now
  | .deleteMessage user channelId id => deleteMessage s user channelId id
  | .elsewhere next => { state := { next with messages := s.messages } }

def step (s : State) (a : Act) : State := (perform s a).state

def Act.caller : Act → String
  | .getMessages reader _ _ _ | .getAllianceChannelMessages reader _ _ _ _ => reader
  | .sendMessage sender _ _ _ _ _ _ _ => sender
  | .dispatchSlash _ invoker _ _ _ _ _ => invoker
  | .dispatchComponent _ user _ _ _ _ | .editMessage user _ _ _ _ | .deleteMessage user _ _ => user
  | .elsewhere _ => ""

def Outcome.answered (o : Outcome) : List MessageResponse := o.answer.toOption.getD []

def receives (cs : Socket.Conn) (event : ChatEvent) : Bool := !(Socket.receiveChat cs event none).2.isEmpty

-- Every message the step hands out, with the key it is handed to.
def handedOut (s : State) (a : Act) : List (String × MessageResponse) :=
  (perform s a).answered.map (a.caller, ·) ++
    (perform s a).broadcasts.flatMap fun sent =>
      (s.sockets.filter (receives · sent.1)).map fun cs => (cs.publicKey, sent.2)

-- The messages whose content a response carries: its own, and the parent in its preview.
def shown (message : MessageResponse) : List String :=
  message.id :: (message.replyTo.map (·.messageId)).toList

def veil (s : State) (id : String) : Option (Option String × String) :=
  s.messages[id]?.map fun row => (row.visibleToPubkey, row.sender)

-- An ephemeral message of another addressee and another author.
def hiddenFrom (s : State) (reader id : String) : Bool :=
  (veil s id).any fun row => row.1.any (· ≠ reader) && decide (row.2 ≠ reader)

def Clear (s : State) (reader : String) (message : MessageResponse) : Prop :=
  ∀ id ∈ shown message, hiddenFrom s reader id = false

instance (s : State) (reader : String) (message : MessageResponse) : Decidable (Clear s reader message) :=
  inferInstanceAs (Decidable (∀ id ∈ shown message, hiddenFrom s reader id = false))

/-- The step hands nobody the content of a message that is hidden from them. -/
def Private (s : State) (a : Act) : Prop :=
  ∀ handed ∈ handedOut s a, Clear (step s a) handed.1 handed.2

instance (s : State) (a : Act) : Decidable (Private s a) :=
  inferInstanceAs (Decidable (∀ handed ∈ handedOut s a, Clear (step s a) handed.1 handed.2))

-- `Uuid::new_v4` draws no id that is taken.
def FreshIds (s : State) : Act → Prop
  | .sendMessage _ _ _ _ _ id errId _ => id ∉ s.messages ∧ errId ∉ s.messages ∧ id ≠ errId
  | .dispatchSlash _ _ _ _ _ id _ | .dispatchComponent _ _ _ id _ _ => id ∉ s.messages
  | _ => True

instance (s : State) : (a : Act) → Decidable (FreshIds s a)
  | .sendMessage _ _ _ _ _ id errId _ =>
    inferInstanceAs (Decidable (id ∉ s.messages ∧ errId ∉ s.messages ∧ id ≠ errId))
  | .dispatchSlash _ _ _ _ _ id _ | .dispatchComponent _ _ _ id _ _ => inferInstanceAs (Decidable (id ∉ s.messages))
  | .getMessages _ _ _ _ | .getAllianceChannelMessages _ _ _ _ _ | .editMessage _ _ _ _ _ | .deleteMessage _ _ _
  | .elsewhere _ => inferInstanceAs (Decidable True)

-- Nobody listens to the channel from whom the message is hidden; `addressee` narrows who is sent it.
def OpenTo (s : State) (channelId : String) (addressee : Option String) (id : String) : Prop :=
  ∀ cs ∈ s.sockets, channelId ∈ cs.subscribed → (∀ pk ∈ addressee, pk = cs.publicKey) →
    hiddenFrom s cs.publicKey id = false

/--
No page has a message hidden from its reader, or a reply to one; and nobody posts below, edits or has
an app update a message that is hidden from somebody who listens to its channel.
-/
def Unexposed (s : State) : Act → Prop
  | .getMessages reader channelId params hits =>
    (channelPermissions s.db reader channelId).require MESSAGES_READ = .ok () → limitOk params = true →
      ∀ row ∈ selectRows s channelId params hits, hiddenFrom s reader row.1 = false ∧
        ∀ parent ∈ row.2.replyTo, hiddenFrom s reader parent = false
  | .getAllianceChannelMessages reader allianceId channelId cursor limit =>
    requireAllianceVisibility s reader allianceId = .ok () →
      ∀ channel ∈ effectiveSharedChannel s allianceId channelId, holdsMessages channel = true →
        (sharedChannelPermissions s reader channelId).require MESSAGES_READ = .ok () →
          ∀ row ∈ alliancePage s channelId cursor limit, hiddenFrom s reader row.1 = false
  | .sendMessage sender channelId req checks slash id _ now =>
    checkSend s sender channelId req checks = .ok () → slashError req slash = none → checks.moderation = .ok () →
      checkInsert s id (messageRow sender channelId req now) = .ok () →
        ∀ parent ∈ req.replyTo, OpenTo s channelId none parent ∧ hiddenFrom s sender parent = false
  | .dispatchSlash channelId invoker matched cooldown hook _ _ =>
    ∀ command answered, checkSlash s invoker matched cooldown hook = .ok (command, answered) →
      ∀ reply ∈ answered.reply, ∀ parent ∈ replyParent s channelId reply,
        OpenTo s channelId (if answered.isEphemeral then some invoker else none) parent
  | .dispatchComponent messageId user hook _ _ _ =>
    ∀ row ∈ componentTarget s messageId user, ∀ resp ∈ hook, resp.defers = false → resp.update.isSome = true →
      OpenTo s row.channelId none messageId
  | .editMessage user channelId id req _ =>
    ∀ row, checkEdit s user channelId id req = .ok row → OpenTo s channelId none id ∧
      ∀ parent ∈ row.replyTo, OpenTo s channelId none parent ∧ hiddenFrom s user parent = false
  | .deleteMessage _ _ _ | .elsewhere _ => True

section

variable {s : State}

theorem receives_new (cs : Socket.Conn) (channelId : String) (addressee : Option String) :
    receives cs (.new channelId addressee) = true ↔
      channelId ∈ cs.subscribed ∧ ∀ pk ∈ addressee, pk = cs.publicKey := by
  unfold receives Socket.receiveChat
  cases addressee with
  | none => by_cases listens : channelId ∈ cs.subscribed <;>
      simp [Socket.isHubWide, Socket.eventChannel, Socket.addressedTo, listens]
  | some pk =>
    by_cases listens : channelId ∈ cs.subscribed <;> by_cases named : pk = cs.publicKey <;>
      simp [Socket.isHubWide, Socket.eventChannel, Socket.addressedTo, listens, named]

theorem receives_edited (cs : Socket.Conn) (channelId : String) :
    receives cs (.edited channelId) = true ↔ channelId ∈ cs.subscribed := by
  unfold receives Socket.receiveChat
  by_cases listens : channelId ∈ cs.subscribed <;>
    simp [Socket.isHubWide, Socket.eventChannel, Socket.addressedTo, listens]

theorem private_iff (a : Act) : Private s a ↔
    (∀ message ∈ (perform s a).answered, Clear (step s a) a.caller message) ∧
      ∀ sent ∈ (perform s a).broadcasts, ∀ cs ∈ s.sockets, receives cs sent.1 = true →
        Clear (step s a) cs.publicKey sent.2 := by
  unfold Private handedOut
  constructor
  · intro kept
    constructor
    · intro message answered
      exact kept (a.caller, message) (List.mem_append_left _ (List.mem_map_of_mem answered))
    · intro sent broadcast cs listening received
      refine kept (cs.publicKey, sent.2) (List.mem_append_right _ (List.mem_flatMap.mpr ⟨sent, broadcast, ?_⟩))
      exact List.mem_map.mpr ⟨cs, List.mem_filter.mpr ⟨listening, received⟩, rfl⟩
  · rintro ⟨answers, broadcasts⟩ handed given
    rcases List.mem_append.mp given with answered | broadcast
    · obtain ⟨message, inside, rfl⟩ := List.mem_map.mp answered
      exact answers message inside
    · obtain ⟨sent, inside, reached⟩ := List.mem_flatMap.mp broadcast
      obtain ⟨cs, listening, rfl⟩ := List.mem_map.mp reached
      exact broadcasts sent inside cs (List.mem_of_mem_filter listening) (List.mem_filter.mp listening).2

theorem absent_iff (s : State) (id : String) : id ∉ s.messages ↔ veil s id = none := by
  rw [veil, Option.map_eq_none_iff, ← ExtTreeMap.isSome_getElem?_iff_mem, Option.not_isSome_iff_eq_none]

theorem hiddenFrom_congr {t : State} {reader id : String} (same : veil t id = veil s id) :
    hiddenFrom t reader id = hiddenFrom s reader id := by
  rw [hiddenFrom, hiddenFrom, same]

theorem hiddenFrom_absent {reader id : String} (absent : id ∉ s.messages) : hiddenFrom s reader id = false := by
  rw [hiddenFrom, veil, ExtTreeMap.getElem?_eq_none absent]
  rfl

theorem veil_modify (f : MessageRow → MessageRow)
    (keeps : ∀ row, (f row).visibleToPubkey = row.visibleToPubkey ∧ (f row).sender = row.sender) (id other : String) :
    veil (modifyMessage s id f) other = veil s other := by
  unfold veil modifyMessage
  simp only [ExtTreeMap.getElem?_modify, Std.compare_eq_iff_eq]
  split
  next same =>
    subst same
    simp [Option.map_map, Function.comp_def, keeps]
  next => rfl

theorem veil_recount (parent : Option String) (count : Int → Int) (id : String) :
    veil (recount s parent count) id = veil s id := by
  cases parent with
  | none => rfl
  | some parentId =>
    exact veil_modify (fun row => { row with replyCount := count row.replyCount }) (fun _ => ⟨rfl, rfl⟩) parentId id

theorem veil_insert_other {id other : String} (row : MessageRow) (differ : id ≠ other) :
    veil (insertMessage s id row) other = veil s other := by
  unfold insertMessage
  split
  · rfl
  · simp [veil, ExtTreeMap.getElem?_insert, differ]

theorem insertMessage_ok {id : String} {row : MessageRow} (checked : checkInsert s id row = .ok ()) :
    insertMessage s id row = { s with messages := s.messages.insert id row } := by
  rw [insertMessage, checked]

-- A new message hides nothing from those it is sent to.
theorem hiddenFrom_insert {id reader : String} {row : MessageRow} (fresh : id ∉ s.messages)
    (addressed : ∀ pk ∈ row.visibleToPubkey, pk = reader) (other : String) :
    hiddenFrom (insertMessage s id row) reader other = hiddenFrom s reader other := by
  by_cases same : id = other
  · subst same
    rw [hiddenFrom_absent fresh]
    unfold insertMessage
    split
    · exact hiddenFrom_absent fresh
    · rw [hiddenFrom, veil, ExtTreeMap.getElem?_insert_self, Option.map_some, Option.any_some]
      cases visible : row.visibleToPubkey with
      | none => rfl
      | some pk => simp [addressed pk visible]
  · exact hiddenFrom_congr (veil_insert_other row same)

theorem context_id {parent : String} {context : ReplyContext} (loaded : loadReplyContext s parent = some context) :
    context.messageId = parent ∧ parent ∈ s.messages := by
  obtain ⟨row, found, rfl⟩ := Option.map_eq_some_iff.mp loaded
  refine ⟨rfl, ?_⟩
  simp [← ExtTreeMap.isSome_getElem?_iff_mem, found]

-- A parent that is not stored has no preview, and is hidden from nobody.
theorem clear_iff {reader : String} {message : MessageResponse} (id : String) (parent : Option String)
    (own : message.id = id)
    (replies : message.replyTo = parent.bind (loadReplyContext s)) :
    Clear s reader message ↔
      hiddenFrom s reader id = false ∧ ∀ p ∈ parent, hiddenFrom s reader p = false := by
  unfold Clear shown
  rw [own, replies, List.forall_mem_cons]
  refine and_congr_right ?_
  intro _
  cases parent with
  | none => simp
  | some p =>
    cases loaded : loadReplyContext s p with
    | none =>
      have absent : p ∉ s.messages := by
        intro stored
        simp [loadReplyContext, ExtTreeMap.getElem?_eq_some_getElem stored] at loaded
      simp [loaded, hiddenFrom_absent absent]
    | some context => simp [loaded, (context_id loaded).1]

@[simp] theorem answered_refuse (e : HttpError) : (refuse s e).answered = [] := rfl

@[simp] theorem broadcasts_refuse (e : HttpError) : (refuse s e).broadcasts = [] := rfl

theorem private_of_silent {a : Act} (unanswered : (perform s a).answered = [])
    (unsent : (perform s a).broadcasts = []) : Private s a := by
  rw [private_iff, unanswered, unsent]
  simp

theorem clear_attach {reader : String} (given : List String) (rows : List (String × MessageRow)) :
    (∀ message ∈ attachContexts s given rows, Clear s reader message) ↔
      ∀ row ∈ rows, hiddenFrom s reader row.1 = false ∧
        ∀ parent ∈ row.2.replyTo, parent ∉ given → hiddenFrom s reader parent = false := by
  induction rows generalizing given with
  | nil => simp [attachContexts]
  | cons first rest ih =>
    obtain ⟨id, row⟩ := first
    rw [List.forall_mem_cons]
    cases replies : row.replyTo with
    | none =>
      simp only [attachContexts, replies]
      rw [List.forall_mem_cons, ih]
      refine and_congr_left ?_
      intro _
      rw [clear_iff id none rfl rfl]
      simp
    | some parent =>
      simp only [attachContexts, replies]
      rw [List.forall_mem_cons, ih]
      by_cases old : parent ∈ given
      · rw [if_pos old, clear_iff id none rfl rfl]
        have same (p : String) : p ∉ parent :: given ↔ p ∉ given := by
          rw [List.mem_cons, not_or]
          exact and_iff_right_of_imp fun outside alike => outside (alike ▸ old)
        simp only [same, Option.mem_def, Option.some.injEq, reduceCtorEq, false_implies, implies_true, and_true,
          forall_eq', old, not_true_eq_false]
      · rw [if_neg old, clear_iff id (some parent) rfl rfl]
        simp only [List.mem_cons, not_or, Option.mem_def, Option.some.injEq, forall_eq', old, not_false_eq_true,
          true_implies]
        refine and_congr_right ?_
        rintro ⟨_, open_⟩
        refine forall₂_congr fun next _ => and_congr_right fun _ => forall₂_congr fun p _ => ?_
        constructor
        · intro kept outside
          by_cases alike : p = parent
          · exact alike ▸ open_
          · exact kept ⟨alike, outside⟩
        · intro kept outside
          exact kept outside.2

end

end Wavvon.Chat
