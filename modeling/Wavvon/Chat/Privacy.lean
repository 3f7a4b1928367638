import Wavvon.Chat.Ephemeral

set_option autoImplicit false

namespace Wavvon.Chat

open Std (ExtTreeMap)

section

variable {s : State}

theorem private_getMessages (reader channelId : String) (params : PaginationParams) (hits : List String) :
    Private s (.getMessages reader channelId params hits) ↔
      Unexposed s (.getMessages reader channelId params hits) := by
  dsimp only [Unexposed]
  cases readable : (channelPermissions s.db reader channelId).require MESSAGES_READ with
  | error e =>
    have refused : perform s (.getMessages reader channelId params hits) = refuse s e := by
      simp only [perform, getMessages, readable]
    refine iff_of_true (private_of_silent (by rw [refused]; rfl) (by rw [refused]; rfl)) ?_
    intro permitted
    cases permitted
  | ok _ =>
    by_cases limited : limitOk params = true
    · have page : perform s (.getMessages reader channelId params hits) =
          { state := s, answer := .ok (attachContexts s [] (selectRows s channelId params hits)) } := by
        simp only [perform, getMessages, readable, limited, Bool.not_true, Bool.false_eq_true, if_false]
      rw [private_iff, step, page]
      have attached := @clear_attach s reader [] (selectRows s channelId params hits)
      simpa [Outcome.answered, Act.caller, limited, Except.toOption] using attached
    · have refused : perform s (.getMessages reader channelId params hits) = refuse s limitError := by
        simp only [perform, getMessages, readable, limited, Bool.not_false, if_true]
      refine iff_of_true (private_of_silent (by rw [refused]; rfl) (by rw [refused]; rfl)) ?_
      intro _ within
      exact absurd within limited

theorem private_alliance (reader allianceId channelId : String) (cursor : Option String) (limit : Option Int) :
    Private s (.getAllianceChannelMessages reader allianceId channelId cursor limit) ↔
      Unexposed s (.getAllianceChannelMessages reader allianceId channelId cursor limit) := by
  dsimp only [Unexposed]
  cases visible : requireAllianceVisibility s reader allianceId with
  | error e =>
    refine iff_of_true (private_of_silent ?_ ?_) (by simp) <;>
      simp [perform, getAllianceChannelMessages, visible]
  | ok _ =>
    cases shared : effectiveSharedChannel s allianceId channelId with
    | none =>
      refine iff_of_true (private_of_silent ?_ ?_) (by simp) <;>
        simp [perform, getAllianceChannelMessages, visible, shared]
    | some channel =>
      cases holds : holdsMessages channel with
      | false =>
        refine iff_of_true (private_of_silent ?_ ?_) (by simp [holds]) <;>
          simp [perform, getAllianceChannelMessages, visible, shared, holds, Outcome.answered, Except.toOption]
      | true =>
        cases readable : (sharedChannelPermissions s reader channelId).require MESSAGES_READ with
        | error e =>
          refine iff_of_true (private_of_silent ?_ ?_) (by simp) <;>
            simp [perform, getAllianceChannelMessages, visible, shared, holds, readable]
        | ok _ =>
          rw [private_iff]
          simp only [step, perform, getAllianceChannelMessages, visible, shared, holds, readable, Outcome.answered,
            Act.caller, Except.toOption, Bool.not_true, Bool.false_eq_true, if_false, Option.getD_some,
            List.not_mem_nil, false_implies, implies_true, and_true, List.forall_mem_map, Option.mem_def,
            Option.some.injEq, forall_eq', true_implies]
          refine forall₂_congr fun row _ => ?_
          rw [clear_iff row.1 none rfl rfl]
          simp

-- A message sent to those of a channel it is addressed to, by a step that hides nothing new from them.
theorem sent_iff {t : State} {event : ChatEvent} {message : MessageResponse} {channelId id : String}
    {addressee : Option String} (parent : Option String)
    (audience : ∀ cs, receives cs event = true ↔ channelId ∈ cs.subscribed ∧ ∀ pk ∈ addressee, pk = cs.publicKey)
    (own : message.id = id) (replies : message.replyTo = parent.bind (loadReplyContext t))
    (same : ∀ reader, (∀ pk ∈ addressee, pk = reader) → ∀ other, other = id ∨ other ∈ parent →
      hiddenFrom t reader other = hiddenFrom s reader other) :
    (∀ cs ∈ s.sockets, receives cs event = true → Clear t cs.publicKey message) ↔
      OpenTo s channelId addressee id ∧ ∀ p ∈ parent, OpenTo s channelId addressee p := by
  unfold OpenTo
  constructor
  · intro clear
    have heard (cs : Socket.Conn) (open_ : cs ∈ s.sockets) (listens : channelId ∈ cs.subscribed)
        (addressed : ∀ pk ∈ addressee, pk = cs.publicKey) :=
      (clear_iff id parent own replies).mp (clear cs open_ ((audience cs).mpr ⟨listens, addressed⟩))
    constructor
    · intro cs open_ listens addressed
      rw [← same cs.publicKey addressed id (.inl rfl)]
      exact (heard cs open_ listens addressed).1
    · intro p isParent cs open_ listens addressed
      rw [← same cs.publicKey addressed p (.inr isParent)]
      exact (heard cs open_ listens addressed).2 p isParent
  · rintro ⟨ownOpen, parentOpen⟩ cs open_ received
    obtain ⟨listens, addressed⟩ := (audience cs).mp received
    refine (clear_iff id parent own replies).mpr ⟨?_, ?_⟩
    · rw [same cs.publicKey addressed id (.inl rfl)]
      exact ownOpen cs open_ listens addressed
    · intro p isParent
      rw [same cs.publicKey addressed p (.inr isParent)]
      exact parentOpen p isParent cs open_ listens addressed

theorem private_sent {a : Act} {t : State} {answers : List MessageResponse} {event : ChatEvent}
    {message : MessageResponse} {channelId id : String} {addressee : Option String} (parent : Option String)
    (leaves : step s a = t) (answered : (perform s a).answered = answers)
    (sent : (perform s a).broadcasts = [(event, message)])
    (audience : ∀ cs, receives cs event = true ↔ channelId ∈ cs.subscribed ∧ ∀ pk ∈ addressee, pk = cs.publicKey)
    (own : message.id = id) (replies : message.replyTo = parent.bind (loadReplyContext t))
    (same : ∀ reader, (∀ pk ∈ addressee, pk = reader) → ∀ other,
      hiddenFrom t reader other = hiddenFrom s reader other) :
    Private s a ↔ (∀ answer ∈ answers, Clear t a.caller answer) ∧ OpenTo s channelId addressee id ∧
      ∀ p ∈ parent, OpenTo s channelId addressee p := by
  rw [private_iff, leaves, answered, sent, List.forall_mem_singleton,
    sent_iff parent audience own replies fun reader addressed other _ => same reader addressed other]

theorem audience_edited (channelId : String) (cs : Socket.Conn) : receives cs (.edited channelId) = true ↔
    channelId ∈ cs.subscribed ∧ ∀ pk ∈ (none : Option String), pk = cs.publicKey := by
  rw [receives_edited]
  simp

theorem private_deleteMessage (user channelId id : String) : Private s (.deleteMessage user channelId id) := by
  apply private_of_silent
  all_goals
    simp only [perform, deleteMessage]
    cases checkDelete s user channelId id <;> rfl

theorem private_elsewhere (next : State) : Private s (.elsewhere next) :=
  private_of_silent rfl rfl

theorem private_editMessage (user channelId id : String) (req : EditMessageRequest) (now : Int) :
    Private s (.editMessage user channelId id req now) ↔ Unexposed s (.editMessage user channelId id req now) := by
  dsimp only [Unexposed]
  cases checked : checkEdit s user channelId id req with
  | error e =>
    refine iff_of_true (private_of_silent ?_ ?_) (by simp) <;> simp [perform, editMessage, checked]
  | ok row =>
    have same (reader other : String) :
        hiddenFrom (modifyMessage s id (editedRow req now)) reader other = hiddenFrom s reader other :=
      hiddenFrom_congr (veil_modify (editedRow req now) (fun _ => ⟨rfl, rfl⟩) id other)
    have edited : perform s (.editMessage user channelId id req now) =
        let stored := modifyMessage s id (editedRow req now)
        let message := response stored id (editedRow req now row) (row.replyTo.bind (loadReplyContext stored)) none
        { state := stored, broadcasts := [(.edited channelId, message)], answer := .ok [message] } := by
      simp only [perform, editMessage, checked]
    have own : hiddenFrom s user id = false := by
      obtain ⟨found, mine⟩ := checkEdit_ok checked
      simp [hiddenFrom, veil, found, mine]
    rw [private_sent row.replyTo (by rw [step, edited]) (by rw [edited]) (by rw [edited])
      (audience_edited channelId) rfl rfl
      fun reader _ => same reader]
    simp only [Outcome.answered, Except.toOption, Option.getD_some, List.forall_mem_singleton, Act.caller]
    rw [clear_iff id row.replyTo rfl rfl]
    simp only [same, response, own, true_and, Except.ok.injEq, forall_eq']
    constructor
    · rintro ⟨mine, listeners, parents⟩
      exact ⟨listeners, fun parent isParent => ⟨parents parent isParent, mine parent isParent⟩⟩
    · rintro ⟨listeners, parents⟩
      exact ⟨fun parent isParent => (parents parent isParent).2, listeners,
        fun parent isParent => (parents parent isParent).1⟩

theorem openTo_absent {channelId id : String} {addressee : Option String} (absent : id ∉ s.messages) :
    OpenTo s channelId addressee id := by
  intro cs _ _ _
  exact hiddenFrom_absent absent

theorem private_insertEphemeralError {a : Act} {channelId invoker text id errId : String} {now : Int}
    (performs : perform s a = insertEphemeralError s channelId invoker text id errId now) (fresh : id ∉ s.messages)
    (freshErr : errId ∉ s.messages) (differ : id ≠ errId) : Private s a := by
  unfold insertEphemeralError at performs
  cases checked : checkInsert s errId (ephemeralRow invoker channelId text invoker now) with
  | error e =>
    simp only [checked] at performs
    exact private_of_silent (by rw [performs]; rfl) (by rw [performs]; rfl)
  | ok _ =>
    simp only [checked] at performs
    rw [← insertMessage_ok checked] at performs
    rw [private_sent none (by rw [step, performs]) (by rw [performs]) (by rw [performs])
      (fun cs => receives_new cs channelId (some invoker)) rfl rfl
      fun reader addressed => hiddenFrom_insert freshErr addressed]
    refine ⟨?_, openTo_absent freshErr, by simp⟩
    simp only [Outcome.answered, Except.toOption, Option.getD_some, List.forall_mem_singleton]
    refine (clear_iff id none rfl rfl).mpr ⟨?_, by simp⟩
    rw [hiddenFrom_congr (veil_insert_other _ differ.symm)]
    exact hiddenFrom_absent fresh

theorem private_sendMessage {sender channelId id errId : String} {req : SendMessageRequest} {checks : SendChecks}
    {slash : Option String} {now : Int}
    (fresh : FreshIds s (.sendMessage sender channelId req checks slash id errId now)) :
    Private s (.sendMessage sender channelId req checks slash id errId now) ↔
      Unexposed s (.sendMessage sender channelId req checks slash id errId now) := by
  dsimp only [Unexposed]
  cases checked : checkSend s sender channelId req checks with
  | error e =>
    refine iff_of_true (private_of_silent ?_ ?_) (by simp) <;> simp [perform, sendMessage, checked]
  | ok _ =>
    cases dispatched : slashError req slash with
    | some text =>
      have performs : perform s (.sendMessage sender channelId req checks slash id errId now) =
          insertEphemeralError s channelId sender text id errId now := by
        simp only [perform, sendMessage, checked, dispatched]
      exact iff_of_true (private_insertEphemeralError performs fresh.1 fresh.2.1 fresh.2.2) (by simp)
    | none =>
      cases moderated : checks.moderation with
      | error e =>
        refine iff_of_true (private_of_silent ?_ ?_) (by simp) <;>
          simp [perform, sendMessage, checked, dispatched, moderated]
      | ok _ =>
        cases inserted : checkInsert s id (messageRow sender channelId req now) with
        | error e =>
          refine iff_of_true (private_of_silent ?_ ?_) (by simp) <;>
            simp [perform, sendMessage, checked, dispatched, moderated, storeMessage, inserted]
        | ok _ =>
          have hides (reader other : String) :
              hiddenFrom (recount (insertMessage s id (messageRow sender channelId req now)) req.replyTo (· + 1))
                reader other = hiddenFrom s reader other := by
            rw [hiddenFrom_congr (veil_recount _ _ _)]
            exact hiddenFrom_insert fresh.1 (by simp [messageRow]) other
          have performs : perform s (.sendMessage sender channelId req checks slash id errId now) =
              let stored := recount (insertMessage s id (messageRow sender channelId req now)) req.replyTo (· + 1)
              let message := response stored id (messageRow sender channelId req now)
                (req.replyTo.bind (loadReplyContext stored)) none
              { state := stored, broadcasts := [(.new channelId none, message)], answer := .ok [message] } := by
            simp only [perform, sendMessage, checked, dispatched, moderated, storeMessage, inserted,
              insertMessage_ok inserted]
          rw [private_sent req.replyTo (by rw [step, performs]) (by rw [performs]) (by rw [performs])
            (fun cs => receives_new cs channelId none) rfl rfl fun reader _ => hides reader]
          simp only [Outcome.answered, Except.toOption, Option.getD_some, List.forall_mem_singleton, Act.caller]
          rw [clear_iff id req.replyTo rfl rfl]
          simp only [hides, response, hiddenFrom_absent fresh.1, openTo_absent fresh.1, true_and, true_implies]
          constructor
          · rintro ⟨mine, listeners⟩ parent isParent
            exact ⟨listeners parent isParent, mine parent isParent⟩
          · intro parents
            exact ⟨fun parent isParent => (parents parent isParent).2, fun parent isParent =>
              (parents parent isParent).1⟩

theorem private_dispatchSlash {channelId invoker id : String} {matched : Option MatchedCommand}
    {cooldown : Option Nat} {hook : Option AppResponse} {now : Int}
    (fresh : FreshIds s (.dispatchSlash channelId invoker matched cooldown hook id now)) :
    Private s (.dispatchSlash channelId invoker matched cooldown hook id now) ↔
      Unexposed s (.dispatchSlash channelId invoker matched cooldown hook id now) := by
  dsimp only [Unexposed]
  cases checked : checkSlash s invoker matched cooldown hook with
  | error text =>
    refine iff_of_true (private_of_silent ?_ ?_) (by simp) <;>
      simp [perform, dispatchSlash, checked, Outcome.answered, Except.toOption]
  | ok found =>
    obtain ⟨command, answered⟩ := found
    cases said : answered.reply with
    | none =>
      refine iff_of_true (private_of_silent ?_ ?_) ?_
      · simp [perform, dispatchSlash, checked, said, Outcome.answered, Except.toOption]
      · simp [perform, dispatchSlash, checked, said]
      · rintro _ _ ⟨rfl, rfl⟩ reply replied
        simp [said] at replied
    | some reply =>
      have performs : perform s (.dispatchSlash channelId invoker matched cooldown hook id now) =
          storeReply s channelId invoker command answered reply id now := by
        simp only [perform, dispatchSlash, checked, said]
      rw [private_sent (replyParent s channelId reply) (by rw [step, performs]) (by rw [performs])
        (by rw [performs, storeReply]) (fun cs => receives_new cs channelId _) rfl rfl ?_]
      · simp only [storeReply, Outcome.answered, Except.toOption, Option.getD_some, List.not_mem_nil, false_implies,
          implies_true, true_and, response, openTo_absent fresh, replyRow]
        constructor
        · rintro parents _ _ ⟨rfl, rfl⟩ other replied parent isParent
          cases said.symm.trans replied
          exact parents parent isParent
        · intro parents parent isParent
          exact parents command answered rfl reply said parent isParent
      · intro reader addressed other
        simp only [storeReply]
        rw [hiddenFrom_congr (veil_recount _ _ _)]
        exact hiddenFrom_insert fresh addressed other

theorem componentTarget_some {messageId user : String} {row : MessageRow}
    (target : componentTarget s messageId user = some row) : s.messages[messageId]? = some row :=
  (Option.filter_eq_some_iff.mp target).1

theorem veil_applyUpdate (messageId channelId : String) (update : Option ComponentUpdate) (now : Int) (id : String) :
    veil (applyUpdate s messageId channelId update now).state id = veil s id := by
  cases update with
  | none => rfl
  | some update => exact veil_modify _ (by simp) messageId id

theorem answered_applyUpdate (messageId channelId : String) (update : Option ComponentUpdate) (now : Int) :
    (applyUpdate s messageId channelId update now).answered = [] := by
  cases update <;> rfl

-- The message an update is announced with has no preview.
theorem loadUpdatedMessage_some {messageId : String} {row : MessageRow} (update : ComponentUpdate) (now : Int)
    (stored : s.messages[messageId]? = some row) :
    ∃ message, loadUpdatedMessage (updateMessage s messageId update now) messageId = some message ∧
      message.id = messageId ∧ message.replyTo = none := by
  unfold loadUpdatedMessage updateMessage modifyMessage
  rw [ExtTreeMap.getElem?_modify_self, stored]
  exact ⟨_, rfl, rfl, rfl⟩

theorem updates_iff {t : State} {messageId channelId : String} {row : MessageRow} (update : Option ComponentUpdate)
    (now : Int) (stored : s.messages[messageId]? = some row)
    (same : ∀ reader, hiddenFrom t reader messageId = hiddenFrom s reader messageId) :
    (∀ sent ∈ (applyUpdate s messageId channelId update now).broadcasts, ∀ cs ∈ s.sockets,
        receives cs sent.1 = true → Clear t cs.publicKey sent.2) ↔
      (update.isSome = true → OpenTo s channelId none messageId) := by
  cases update with
  | none => simp [applyUpdate]
  | some update =>
    obtain ⟨message, loaded, own, replies⟩ := loadUpdatedMessage_some update now stored
    simp only [applyUpdate, loaded, Option.map_some, Option.toList_some, List.forall_mem_singleton]
    rw [sent_iff none (audience_edited channelId) own replies]
    · simp
    · rintro reader _ other (rfl | none)
      · exact same reader
      · cases none

-- An update keeps who may see a message; a reply to the clicking user is new.
theorem private_dispatchComponent {messageId user id : String} {hook : Option ComponentResponse} {now nowMs : Int}
    (fresh : FreshIds s (.dispatchComponent messageId user hook id now nowMs)) :
    Private s (.dispatchComponent messageId user hook id now nowMs) ↔
      Unexposed s (.dispatchComponent messageId user hook id now nowMs) := by
  dsimp only [Unexposed]
  cases target : componentTarget s messageId user with
  | none =>
    refine iff_of_true (private_of_silent ?_ ?_) (by simp) <;>
      simp [perform, dispatchComponent, target, Outcome.answered, Except.toOption]
  | some row =>
    cases hook with
    | none =>
      refine iff_of_true (private_of_silent ?_ ?_) (by simp) <;>
        simp [perform, dispatchComponent, target, Outcome.answered, Except.toOption]
    | some resp =>
      have stored := componentTarget_some target
      have performs : perform s (.dispatchComponent messageId user (some resp) id now nowMs) =
          applyComponentResponse s resp messageId row.channelId row.sender user id now nowMs := by
        simp only [perform, dispatchComponent, target]
      cases defers : resp.defers with
      | true =>
        refine iff_of_true (private_of_silent ?_ ?_) (by simp [defers]) <;>
          simp [performs, applyComponentResponse, defers, Outcome.answered, Except.toOption]
      | false =>
        let updated := applyUpdate s messageId row.channelId resp.update now
        have freshStill : id ∉ updated.state.messages := by
          rw [absent_iff, veil_applyUpdate, ← absent_iff]
          exact fresh
        have differ : id ≠ messageId := by
          rintro rfl
          simp [ExtTreeMap.getElem?_eq_none fresh] at stored
        cases said : resp.ephemeralReply with
        | none =>
          have applied : perform s (.dispatchComponent messageId user (some resp) id now nowMs) = updated := by
            simp only [performs, applyComponentResponse, defers, said, Bool.false_eq_true, if_false, updated]
          rw [private_iff, step, applied, answered_applyUpdate,
            updates_iff resp.update now stored fun reader => hiddenFrom_congr (veil_applyUpdate _ _ _ _ _)]
          simp [defers]
        | some body =>
          let row' := ephemeralRow row.sender row.channelId body user nowMs
          let message := response updated.state id row' none (some user)
          have applied : perform s (.dispatchComponent messageId user (some resp) id now nowMs) =
              { state := insertMessage updated.state id row'
                broadcasts := updated.broadcasts ++ [(.new row.channelId (some user), message)] } := by
            simp only [performs, applyComponentResponse, defers, said, Bool.false_eq_true, if_false, updated, message,
              row']
          have unheard : ∀ cs ∈ s.sockets, receives cs (.new row.channelId (some user)) = true →
              Clear (insertMessage updated.state id row') cs.publicKey message := by
            refine (sent_iff none (fun cs => receives_new cs row.channelId (some user)) rfl rfl ?_).mpr
              ⟨openTo_absent fresh, by simp⟩
            intro reader addressed other _
            rw [hiddenFrom_insert freshStill addressed]
            exact hiddenFrom_congr (veil_applyUpdate _ _ _ _ _)
          rw [private_iff, step, applied, List.forall_mem_append, List.forall_mem_singleton,
            updates_iff resp.update now stored ?_, and_iff_left unheard]
          · simp [defers, Outcome.answered, Except.toOption]
          · intro reader
            rw [hiddenFrom_congr (veil_insert_other row' differ)]
            exact hiddenFrom_congr (veil_applyUpdate _ _ _ _ _)

theorem private_iff_unexposed (a : Act) (fresh : FreshIds s a) : Private s a ↔ Unexposed s a := by
  cases a with
  | getMessages reader channelId params hits => exact private_getMessages reader channelId params hits
  | getAllianceChannelMessages reader allianceId channelId cursor limit =>
    exact private_alliance reader allianceId channelId cursor limit
  | sendMessage => exact private_sendMessage fresh
  | dispatchSlash => exact private_dispatchSlash fresh
  | dispatchComponent => exact private_dispatchComponent fresh
  | editMessage user channelId id req now => exact private_editMessage user channelId id req now
  | deleteMessage user channelId id => exact iff_of_true (private_deleteMessage user channelId id) trivial
  | elsewhere next => exact iff_of_true (private_elsewhere next) trivial

/--
A run hands an ephemeral message to its addressee and its author alone exactly if no step of it exposes
one: a page that has it or a reply to it, a post below it, or an edit of it before other listeners.
-/
theorem ephemeral_iff (s : State) (acts : List Act) (fresh : Runs.Meets step FreshIds s acts) :
    Runs.Meets step Private s acts ↔ Runs.Meets step Unexposed s acts :=
  Runs.meets_congr_within (fun _ a drawn => private_iff_unexposed a drawn) fresh

end

-- Two members who listen to one channel, and an app with a webhook.
def chatHub : State :=
  { db := {
      users := (((∅ : Table User).insert "ann" { isMember := true }).insert "bob" { isMember := true }).insert "app" {}
      channels := (∅ : Table Channel).insert "general" { name := "general", createdBy := "ann" }
      roles := (∅ : Table Role).insert BUILTIN_EVERYONE_ROLE_ID { name := "everyone" }
      rolePermissions := {(BUILTIN_EVERYONE_ROLE_ID, MESSAGES_READ)} }
    sockets := [{ publicKey := "ann", sessionId := "s1", subscribed := {"general"} },
      { publicKey := "bob", sessionId := "s2", subscribed := {"general"} }] }

def rollCommand : MatchedCommand :=
  { appPubkey := "app", appName := "dice", name := "roll", webhookUrl := some "https://app" }

-- For the invoker's eyes only.
def rollAnswer : AppResponse := { reply := some { body := "your hand" }, isEphemeral := true }

def whisperToAnn : Act := .dispatchSlash "general" "ann" (some rollCommand) none (some rollAnswer) "m1" 7

theorem ephemeral_iff_addressee :
    Runs.Meets step Private chatHub [whisperToAnn, .getMessages "ann" "general" {} []] := by
  refine (ephemeral_iff chatHub _ (by decide)).mpr ⟨?_, ?_, trivial⟩
  · intro command answered checked reply replied parent isParent
    have rolled : checkSlash chatHub "ann" (some rollCommand) none (some rollAnswer) = .ok (rollCommand,
      rollAnswer) := rfl
    cases rolled.symm.trans checked
    cases replied
    cases isParent
  · intro _ _
    decide

theorem ephemeral_history :
    Runs.Meets step FreshIds chatHub [whisperToAnn, .getMessages "bob" "general" {} []] ∧
      ¬ Runs.Meets step Private chatHub [whisperToAnn, .getMessages "bob" "general" {} []] := by
  decide

end Wavvon.Chat
