import Wavvon.Chat.Messages

set_option autoImplicit false

namespace Wavvon.Chat

open Std (ExtTreeMap)

def MESSAGES_MANAGE : String := "messages.manage"
def MESSAGES_MASQUERADE : String := "messages.masquerade"

structure SendMessageRequest where
  content : String
  replyTo : Option String := none
  game : Option String := none
  masquerade : Option String := none
  deriving DecidableEq, Repr

structure EditMessageRequest where
  content : String
  embeds : Option (List String) := none
  deriving DecidableEq, Repr

structure AppReply where
  body : String
  embeds : List String := []
  components : List String := []
  replyTo : Option String := none
  deriving DecidableEq, Repr

structure AppResponse where
  reply : Option AppReply := none
  isEphemeral : Bool := false
  game : Option String := none
  deriving DecidableEq, Repr

structure ComponentUpdate where
  body : Option String := none
  components : Option (List String) := none
  deriving DecidableEq, Repr

structure ComponentResponse where
  update : Option ComponentUpdate := none
  ephemeralReply : Option String := none
  defers : Bool := false
  deriving DecidableEq, Repr

structure MatchedCommand where
  appPubkey : String
  appName : String
  name : String
  webhookUrl : Option String
  privileged : Bool := false
  deriving DecidableEq, Repr

def jsonList (values : List String) : String := "[" ++ String.intercalate "," values ++ "]"

-- An empty list is stored as an absent one.
def jsonRows (values : List String) : Option String :=
  if values.isEmpty then none else some (jsonList values)

def checkInsert (s : State) (id : String) (row : MessageRow) : Except HttpError Unit :=
  if id ∈ s.messages then .error (500, "DB error: " ++ duplicateKey "messages_pkey")
  else if row.channelId ∉ s.db.channels then
    .error (500, "DB error: " ++ foreignKeyViolation "messages" "messages_channel_id_fkey")
  else if row.sender ∉ s.db.users then
    .error (500, "DB error: " ++ foreignKeyViolation "messages" "messages_sender_fkey")
  else .ok ()

-- The app paths go on after a refused insert.
def insertMessage (s : State) (id : String) (row : MessageRow) : State :=
  match checkInsert s id row with
  | .error _ => s
  | .ok _ => { s with messages := s.messages.insert id row }

def modifyMessage (s : State) (id : String) (f : MessageRow → MessageRow) : State :=
  { s with messages := s.messages.modify id f }

def recount (s : State) (parent : Option String) (count : Int → Int) : State :=
  match parent with
  | none => s
  | some id => modifyMessage s id fun row => { row with replyCount := count row.replyCount }

/-- What the checks of the tables this model leaves out answer a poster. -/
structure SendChecks where
  mayPost : Except HttpError Unit := .ok ()
  attachments : Except HttpError Unit := .ok ()
  masquerade : Except HttpError Unit := .ok ()
  sticker : Except HttpError Unit := .ok ()
  moderation : Except HttpError Unit := .ok ()

def checkGame (db : Db) (sender : String) (game : Option String) : Except HttpError Unit :=
  if game.isSome && !(userPermissions db sender).has APPS_REGISTER then
    .error (403, "game launch cards require apps.register")
  else .ok ()

def checkMasquerade (perms : UserPermissions) (masquerade : Option String) (validated : Except HttpError Unit) :
    Except HttpError Unit :=
  match masquerade with
  | none => .ok ()
  | some _ => do
    perms.require MESSAGES_MASQUERADE
    validated

def checkParent (s : State) (channelId : String) (replyTo : Option String) : Except HttpError Unit :=
  match replyTo with
  | none => .ok ()
  | some parentId =>
    match s.messages[parentId]? with
    | none => .error (404, "Parent message not found")
    | some row =>
      if row.channelId ≠ channelId then .error (400, "Parent message is in a different channel") else .ok ()

def checkSend (s : State) (sender channelId : String) (req : SendMessageRequest) (checks : SendChecks) :
    Except HttpError Unit := do
  let perms := channelPermissions s.db sender channelId
  perms.require MESSAGES_SEND
  checks.mayPost
  if channelId ∉ s.db.channels then .error (404, "Channel not found") else .ok ()
  checks.attachments
  checkGame s.db sender req.game
  checkMasquerade perms req.masquerade checks.masquerade
  checkParent s channelId req.replyTo
  checks.sticker

def messageRow (sender channelId : String) (req : SendMessageRequest) (now : Int) : MessageRow :=
  { channelId := channelId, sender := sender, content := req.content, createdAt := now, replyTo := req.replyTo
    game := req.game, masquerade := req.masquerade }

def ephemeralRow (sender channelId content visibleTo : String) (now : Int) : MessageRow :=
  { channelId := channelId, sender := sender, content := content, createdAt := now, visibleToPubkey := some visibleTo }

-- The answer carries the id of the message that was not stored.
def insertEphemeralError (s : State) (channelId invoker text id errId : String) (now : Int) : Outcome :=
  let row := ephemeralRow invoker channelId text invoker now
  match checkInsert s errId row with
  | .error e => refuse s e
  | .ok _ =>
    { state := { s with messages := s.messages.insert errId row }
      broadcasts := [(.new channelId (some invoker),
        { response s errId row none (some invoker) with senderName := none })]
      answer := .ok [{ response s id row none (some invoker) with senderName := none }] }

def storeMessage (s : State) (sender channelId : String) (req : SendMessageRequest) (id : String) (now : Int) :
    Outcome :=
  let row := messageRow sender channelId req now
  match checkInsert s id row with
  | .error e => refuse s e
  | .ok _ =>
    let stored := recount { s with messages := s.messages.insert id row } req.replyTo (· + 1)
    let message := response stored id row (req.replyTo.bind (loadReplyContext stored)) none
    { state := stored, broadcasts := [(.new channelId none, message)], answer := .ok [message] }

-- Only a text that starts with a slash is dispatched.
def slashError (req : SendMessageRequest) (slash : Option String) : Option String :=
  slash.filter fun _ => req.content.toList.head? = some '/'

-- `slash` is what `dispatch_slash` came back with; its own work is a step of its own.
def sendMessage (s : State) (sender channelId : String) (req : SendMessageRequest) (checks : SendChecks)
    (slash : Option String) (id errId : String) (now : Int) : Outcome :=
  match checkSend s sender channelId req checks with
  | .error e => refuse s e
  | .ok _ =>
    match slashError req slash with
    | some text => insertEphemeralError s channelId sender text id errId now
    | none =>
      match checks.moderation with
      | .error e => refuse s e
      | .ok _ => storeMessage s sender channelId req id now

-- What the dispatch of a command stops with: the error for its invoker, or nothing to say.
def checkSlash (s : State) (invoker : String) (matched : Option MatchedCommand) (cooldown : Option Nat)
    (hook : Option AppResponse) : Except (Option String) (MatchedCommand × AppResponse) :=
  match matched with
  | none => .error none
  | some command =>
    if command.privileged && !(userPermissions s.db invoker).has MESSAGES_MANAGE then
      .error (some "You don't have permission to use this command.")
    else if command.webhookUrl.all (· = "") then .error none
    else
      match cooldown with
      | some left => .error (some ("/" ++ command.name ++ " is on cooldown. Try again in " ++ toString left ++ "s."))
      | none =>
        match hook with
        | none => .error (some ("App @" ++ command.appName ++ " failed to respond."))
        | some answered => .ok (command, answered)

-- A parent id from elsewhere is dropped.
def replyParent (s : State) (channelId : String) (reply : AppReply) : Option String :=
  reply.replyTo.filter fun parent => s.messages[parent]?.any (·.channelId = channelId)

def replyRow (s : State) (channelId invoker : String) (command : MatchedCommand) (answered : AppResponse)
    (reply : AppReply) (now : Int) : MessageRow :=
  { channelId := channelId, sender := command.appPubkey, content := reply.body, createdAt := now
    replyTo := replyParent s channelId reply
    visibleToPubkey := if answered.isEphemeral then some invoker else none
    embeds := jsonRows reply.embeds, game := answered.game, components := jsonRows reply.components }

def storeReply (s : State) (channelId invoker : String) (command : MatchedCommand) (answered : AppResponse)
    (reply : AppReply) (id : String) (now : Int) : Outcome :=
  let row := replyRow s channelId invoker command answered reply now
  let stored := recount (insertMessage s id row) row.replyTo (· + 1)
  let message := response stored id row (row.replyTo.bind (loadReplyContext stored)) row.visibleToPubkey
  { state := stored
    broadcasts := [(.new channelId row.visibleToPubkey,
      { message with senderName := message.senderName <|> some command.appName })] }

def dispatchSlash (s : State) (channelId invoker : String) (matched : Option MatchedCommand)
    (cooldown : Option Nat) (hook : Option AppResponse) (id : String) (now : Int) : Outcome × Option String :=
  match checkSlash s invoker matched cooldown hook with
  | .error text => ({ state := s }, text)
  | .ok (command, answered) =>
    match answered.reply with
    | none => ({ state := s }, none)
    | some reply => (storeReply s channelId invoker command answered reply id now, none)

def loadUpdatedMessage (s : State) (id : String) : Option MessageResponse :=
  s.messages[id]?.map fun row => { response s id row none none with replyCount := 0 }

def updateMessage (s : State) (id : String) (update : ComponentUpdate) (now : Int) : State :=
  modifyMessage s id fun row =>
    { row with
      content := update.body.getD row.content
      editedAt := if update.body.isSome then some now else row.editedAt
      components := match update.components with
        | none => row.components
        | some rows => jsonRows rows }

def applyUpdate (s : State) (messageId channelId : String) (update : Option ComponentUpdate) (now : Int) : Outcome :=
  match update with
  | none => { state := s }
  | some update =>
    let updated := updateMessage s messageId update now
    { state := updated
      broadcasts := ((loadUpdatedMessage updated messageId).map (ChatEvent.edited channelId, ·)).toList }

def applyComponentResponse (s : State) (resp : ComponentResponse) (messageId channelId app user id : String)
    (now nowMs : Int) : Outcome :=
  if resp.defers then { state := s }
  else
    let updated := applyUpdate s messageId channelId resp.update now
    match resp.ephemeralReply with
    | none => updated
    | some body =>
      let row := ephemeralRow app channelId body user nowMs
      { state := insertMessage updated.state id row
        broadcasts := updated.broadcasts ++
          [(.new channelId (some user), response updated.state id row none (some user))] }

-- The message a click reaches an app with: the app has a webhook, and both may read the channel.
def componentTarget (s : State) (messageId user : String) : Option MessageRow :=
  s.messages[messageId]?.filter fun row =>
    s.appWebhooks[row.sender]?.join.any (· ≠ "") &&
      (channelPermissions s.db row.sender row.channelId).has MESSAGES_READ &&
      (channelPermissions s.db user row.channelId).has MESSAGES_READ

def dispatchComponent (s : State) (messageId user : String) (hook : Option ComponentResponse) (id : String)
    (now nowMs : Int) : Outcome :=
  match componentTarget s messageId user, hook with
  | some row, some resp => applyComponentResponse s resp messageId row.channelId row.sender user id now nowMs
  | _, _ => { state := s }

def checkEdit (s : State) (user channelId id : String) (req : EditMessageRequest) : Except HttpError MessageRow :=
  match s.messages[id]? with
  | none => .error (404, "Message not found")
  | some row =>
    if row.channelId ≠ channelId then .error (404, "Message not in this channel")
    else if row.sender ≠ user then .error (403, "You can only edit your own messages")
    else if req.embeds.isSome && !(userPermissions s.db user).has APPS_REGISTER then
      .error (403, "embeds require apps.register")
    else .ok row

theorem checkEdit_ok {s : State} {user channelId id : String} {req : EditMessageRequest} {row : MessageRow}
    (checked : checkEdit s user channelId id req = .ok row) : s.messages[id]? = some row ∧ row.sender = user := by
  unfold checkEdit at checked
  split at checked
  next => cases checked
  next stored found =>
    split_ifs at checked with elsewhere foreign refused
    cases checked
    exact ⟨found, not_not.mp foreign⟩

def editedRow (req : EditMessageRequest) (now : Int) (row : MessageRow) : MessageRow :=
  { row with content := req.content, editedAt := some now, embeds := req.embeds.map jsonList <|> row.embeds }

def editMessage (s : State) (user channelId id : String) (req : EditMessageRequest) (now : Int) : Outcome :=
  match checkEdit s user channelId id req with
  | .error e => refuse s e
  | .ok row =>
    let stored := modifyMessage s id (editedRow req now)
    let message := response stored id (editedRow req now row) (row.replyTo.bind (loadReplyContext stored)) none
    { state := stored, broadcasts := [(.edited channelId, message)], answer := .ok [message] }

def checkDelete (s : State) (user channelId id : String) : Except HttpError MessageRow :=
  match s.messages[id]? with
  | none => .error (404, "Message not found")
  | some row =>
    if row.channelId ≠ channelId then .error (404, "Message not in this channel")
    else if row.sender ≠ user then do
      (userPermissions s.db user).require MESSAGES_MANAGE
      .ok row
    else .ok row

-- The event names the message and carries nothing of it.
def deleteMessage (s : State) (user channelId id : String) : Outcome :=
  match checkDelete s user channelId id with
  | .error e => refuse s e
  | .ok row => { state := recount { s with messages := s.messages.erase id } row.replyTo fun count => max 0 (count - 1) }

end Wavvon.Chat
