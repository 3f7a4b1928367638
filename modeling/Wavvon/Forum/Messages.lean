import Wavvon.Forum.Posts

set_option autoImplicit false

namespace Wavvon.Forum

open Interleaving (Handler)
open Chat (MessageRow SendMessageRequest SendChecks MatchedCommand AppResponse MESSAGES_SEND MESSAGES_MANAGE)

/-- What a slash command meets: the app that registered it, its cooldown, and what the webhook answers. -/
structure Dispatch where
  matched : Option MatchedCommand
  cooldown : Option Nat
  hook : Option AppResponse
  id : String
  now : Int

-- A parent that is named is looked up.
def readParent {A : Type} (parent : Option String) (f : State → A) : Handle A :=
  match parent with
  | none => read f
  | some id => stmt (.readMessage id) f

def bumpParent (parent : Option String) (now : Int) : Handle Unit :=
  match parent with
  | none => .done ()
  | some id => stmt (.adjust (.bump (.message id)) now) fun _ => ()

def unbumpParent (parent : Option String) (now : Int) : Handle Unit :=
  match parent with
  | none => .done ()
  | some id => stmt (.adjust (.unbump (.message id)) now) fun _ => ()

-- The count goes up whether or not the reply was stored.
def storeAppReply (channelId invoker : String) (command : MatchedCommand) (answered : AppResponse)
    (reply : Chat.AppReply) (id : String) (now : Int) : Handle Unit := do
  let row ← readParent reply.replyTo fun s => Chat.replyRow s.chat channelId invoker command answered reply now
  stmt (.insertAppReply id row) fun _ => ()
  bumpParent row.replyTo now

def dispatchSlash (channelId invoker : String) (d : Dispatch) : Handle (Option String) := do
  let checked ← read fun s => Chat.checkSlash s.chat invoker d.matched d.cooldown d.hook
  match checked with
  | .error text => return text
  | .ok (command, answered) =>
    match answered.reply with
    | none => return none
    | some reply =>
      storeAppReply channelId invoker command answered reply d.id d.now
      return none

def runSlash (channelId invoker content : String) (d : Dispatch) : Handle (Option String) :=
  if content.toList.head? = some '/' then dispatchSlash channelId invoker d else .done none

def insertEphemeralError (channelId invoker text errId : String) (now : Int) : Answered :=
  let row := Chat.ephemeralRow invoker channelId text invoker now
  stmt (.insertMessage errId row) fun s => Chat.checkInsert s.chat errId row

def storeMessage (sender channelId : String) (req : SendMessageRequest) (id : String) (now : Int) : Answered :=
  let row := Chat.messageRow sender channelId req now
  (stmt (.insertMessage id row) fun s => Chat.checkInsert s.chat id row).andThen fun _ => do
    bumpParent req.replyTo now
    check (.ok ())

def channelExists (db : Db) (channelId : String) : Except HttpError Unit :=
  if channelId ∉ db.channels then .error (404, "Channel not found") else .ok ()

def sendMessageWith (sender channelId : String) (req : SendMessageRequest) (perms : UserPermissions)
    (checks : SendChecks) (d : Dispatch) (id errId : String) (clock : Clock) (now : Int) : Answered :=
  (check (perms.require MESSAGES_SEND)).andThen fun _ =>
  (gate sender channelId clock).andThen fun _ =>
  (read fun s => channelExists s.chat.db channelId).andThen fun _ =>
  (check checks.attachments).andThen fun _ =>
  (read fun s => Chat.checkGame s.chat.db sender req.game).andThen fun _ =>
  (check (Chat.checkMasquerade perms req.masquerade checks.masquerade)).andThen fun _ =>
  (readParent req.replyTo fun s => Chat.checkParent s.chat channelId req.replyTo).andThen fun _ =>
  (check checks.sticker).andThen fun _ => do
    let slash ← runSlash channelId sender req.content d
    match slash with
    | some text => insertEphemeralError channelId sender text errId now
    | none => (check checks.moderation).andThen fun _ => storeMessage sender channelId req id now

def sendMessage (sender channelId : String) (req : SendMessageRequest) (checks : SendChecks) (d : Dispatch)
    (id errId : String) (clock : Clock) (now : Int) : Answered := do
  let perms ← read fun s => channelPermissions s.chat.db sender channelId
  sendMessageWith sender channelId req perms checks d id errId clock now

def findMessage (s : Chat.State) (channelId id : String) : Except HttpError MessageRow :=
  match s.messages[id]? with
  | none => .error (404, "Message not found")
  | some row => if row.channelId ≠ channelId then .error (404, "Message not in this channel") else .ok row

theorem findMessage_ok {s : Chat.State} {channelId id : String} {row : MessageRow}
    (found : findMessage s channelId id = .ok row) : s.messages[id]? = some row := by
  unfold findMessage at found
  split at found
  next => cases found
  next stored here =>
    split at found
    next => cases found
    next =>
      obtain rfl := Except.ok.inj found
      exact here

def mayDelete (sender user : String) : Answered :=
  if sender ≠ user then read fun s => (userPermissions s.chat.db user).require MESSAGES_MANAGE else check (.ok ())

-- What the row said when it was read decides whose count goes down.
def deleteMessage (user channelId id : String) (now : Int) : Answered :=
  (stmt (.readMessage id) fun s => findMessage s.chat channelId id).andThen fun row =>
  (mayDelete row.sender user).andThen fun _ => do
    stmt (.eraseMessage id row.replyTo) fun _ => ()
    unbumpParent row.replyTo now
    check (.ok ())

def runSweep (now : Int) : Answered := do
  stmt (.sweepMessages now) fun _ => ()
  stmt (.sweepPosts now) fun _ => ()
  check (.ok ())

section

variable {A B : Type}

theorem stmt_bind_alone (label : Label) (f : State → A) (rest : A → Handle B) (s : State) :
    (stmt label f >>= rest).alone s = (rest (f s)).alone (label.effect s) := rfl

theorem bumpParent_alone (parent : Option String) (now : Int) (s : State) :
    (bumpParent parent now).alone s = ({ s with chat := Chat.recount s.chat parent (· + 1) }, ()) := by
  cases parent <;> rfl

theorem unbumpParent_alone (parent : Option String) (now : Int) (s : State) :
    (unbumpParent parent now).alone s =
      ({ s with chat := Chat.recount s.chat parent fun count => max 0 (count - 1) }, ()) := by
  cases parent <;> rfl

theorem readParent_bind_alone (parent : Option String) (f : State → A) (rest : A → Handle B) (s : State) :
    (readParent parent f >>= rest).alone s = (rest (f s)).alone s := by
  cases parent <;> rfl

-- With nobody in between, the statements are the handlers that run to completion.
theorem deleteMessage_alone (user channelId id : String) (now : Int) (s : State) :
    (deleteMessage user channelId id now).alone s =
      ({ s with chat := (Chat.deleteMessage s.chat user channelId id).state },
        (Chat.deleteMessage s.chat user channelId id).answer.map fun _ => ()) := by
  unfold deleteMessage Chat.deleteMessage Chat.checkDelete
  rw [stmt, Handler.alone_andThen, Handler.alone_exec, findMessage]
  cases s.chat.messages[id]? with
  | none => rfl
  | some row =>
    dsimp only
    by_cases elsewhere : row.channelId ≠ channelId
    next => simp only [if_pos elsewhere]; rfl
    next =>
      simp only [if_neg elsewhere]
      rw [Handler.alone_andThen, mayDelete]
      by_cases others : row.sender ≠ user
      next =>
        simp only [if_pos others]
        rw [read, stmt, Handler.alone_exec]
        dsimp only [Label.effect]
        cases (userPermissions s.chat.db user).require MESSAGES_MANAGE with
        | error e => rfl
        | ok _ =>
          dsimp only
          rw [stmt_bind_alone, Handler.alone_bind, unbumpParent_alone]
          rfl
      next =>
        simp only [if_neg others]
        dsimp only [check, Handler.alone_done]
        rw [stmt_bind_alone, Handler.alone_bind, unbumpParent_alone]
        rfl

theorem dispatchSlash_alone (channelId invoker : String) (d : Dispatch) (s : State) :
    (dispatchSlash channelId invoker d).alone s =
      ({ s with chat :=
          (Chat.dispatchSlash s.chat channelId invoker d.matched d.cooldown d.hook d.id d.now).1.state },
        (Chat.dispatchSlash s.chat channelId invoker d.matched d.cooldown d.hook d.id d.now).2) := by
  unfold dispatchSlash Chat.dispatchSlash
  rw [read, stmt_bind_alone]
  cases Chat.checkSlash s.chat invoker d.matched d.cooldown d.hook with
  | error text => rfl
  | ok found =>
    obtain ⟨command, answered⟩ := found
    dsimp only
    cases answered.reply with
    | none => rfl
    | some reply =>
      dsimp only
      unfold storeAppReply
      rw [Handler.alone_bind, readParent_bind_alone, stmt_bind_alone, bumpParent_alone]
      rfl

end

end Wavvon.Forum
