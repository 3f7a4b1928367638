import Wavvon.Apps.Replay
import Wavvon.Roles.Handlers

set_option autoImplicit false

namespace Wavvon.Apps

open Std (ExtTreeMap)

def APPS_REGISTER : String := "apps.register"

def WEBHOOKS_OUTGOING_MANAGE : String := "webhooks.outgoing.manage"

def MAX_PAYLOAD_BYTES : Nat := 64 * 1024

structure OutgoingWebhook where
  url : String
  active : Bool := true
  deriving DecidableEq, Repr

structure WebhookSubscriptionRow where
  webhookId : String
  eventType : String
  channelId : String := ""
  deriving DecidableEq, Repr

/-- Who is told of the events of a hub: apps over their sockets, webhooks over HTTP. -/
structure Subscribers where
  apps : AppsDb := {}
  webhooks : Table OutgoingWebhook := ∅
  webhookSubscriptions : List WebhookSubscriptionRow := []

-- The body of both routes has this shape.
structure AppSubscription where
  event : String
  channels : Option (List String) := none
  deriving DecidableEq, Repr

def isMessageEvent (event : String) : Bool :=
  "message.".toList.isPrefixOf event.toList && decide (event ≠ "message.mention")

def missingChannels (sub : AppSubscription) : Bool :=
  isMessageEvent sub.event && sub.channels.all (·.isEmpty)

def requireChannels (subscriptions : List AppSubscription) : Except HttpError Unit :=
  match subscriptions.find? missingChannels with
  | some sub => .error (400, "Subscription '" ++ sub.event ++ "' requires an explicit channels list")
  | none => .ok ()

-- Without channels a subscription is for the whole hub, which is the channel "".
def storedChannels (sub : AppSubscription) : List String :=
  match sub.channels with
  | some channels => if channels.isEmpty then [""] else channels
  | none => [""]

def storedPairs (subscriptions : List AppSubscription) : List (String × String) :=
  subscriptions.flatMap fun sub => (storedChannels sub).map fun channelId => (sub.event, channelId)

-- ON CONFLICT DO NOTHING
def insertNew {R : Type} [DecidableEq R] (rows : List R) (row : R) :
    List R :=
  if row ∈ rows then rows else rows ++ [row]

def putMyAppSubscriptions (s : Subscribers) (user : String) (req : List AppSubscription) :
    Subscribers × Except HttpError Nat :=
  match (userPermissions s.apps.hub user).require APPS_REGISTER with
  | .error e => (s, .error e)
  | .ok () =>
    match requireChannels req with
    | .error e => (s, .error e)
    | .ok () =>
      let kept := s.apps.subscriptions.filter fun row => decide (row.appPubkey ≠ user)
      let rows := (storedPairs req).map fun pair => { appPubkey := user, eventType := pair.1, channelId := pair.2 }
      ({ s with apps := { s.apps with subscriptions := rows.foldl insertNew kept } }, .ok rows.length)

def replaceSubscriptions (s : Subscribers) (user id : String) (req : List AppSubscription) :
    Subscribers × Except HttpError Nat :=
  match (userPermissions s.apps.hub user).require WEBHOOKS_OUTGOING_MANAGE with
  | .error e => (s, .error e)
  | .ok () =>
    if id ∉ s.webhooks then (s, .error (404, "Webhook not found"))
    else
      match requireChannels req with
      | .error e => (s, .error e)
      | .ok () =>
        let kept := s.webhookSubscriptions.filter fun row => decide (row.webhookId ≠ id)
        let rows := (storedPairs req).map fun pair => { webhookId := id, eventType := pair.1, channelId := pair.2 }
        ({ s with webhookSubscriptions := rows.foldl insertNew kept }, .ok rows.length)

inductive SubscriptionRequest where
  | app (user : String) (req : List AppSubscription)
  | webhook (user id : String) (req : List AppSubscription)

def SubscriptionRequest.body : SubscriptionRequest → List AppSubscription
  | .app _ req => req
  | .webhook _ _ req => req

def SubscriptionRequest.handle (s : Subscribers) : SubscriptionRequest → Subscribers × Except HttpError Nat
  | .app user req => putMyAppSubscriptions s user req
  | .webhook user id req => replaceSubscriptions s user id req

def subscribe (s : Subscribers) (request : SubscriptionRequest) : Subscribers := (request.handle s).1

section

variable {Json : Type}

structure WebhookEnvelope (Json : Type) where
  webhookId : String
  url : String
  truncated : Bool
  envelope : HubEvent Json

/--
The webhooks that an event goes to. `takes` says for whom the shared token bucket has a token left,
`textLength` how long a payload is as text.
-/
def dispatchEvent (s : Subscribers) (null : Json) (textLength : Json → Nat) (takes : String → Bool) (seq now : Int)
    (eventType : String) (channelId : Option String) (payload : Json) : List (WebhookEnvelope Json) :=
  let subs := ((s.webhookSubscriptions.filter fun row =>
    row.eventType = eventType ∧ (row.channelId = "" ∨ row.channelId = channelId.getD "") ∧
      s.webhooks[row.webhookId]?.any (·.active) = true).map (·.webhookId)).dedup
  subs.filterMap fun id =>
    (s.webhooks[id]?.filter fun webhook => webhook.active && takes id).map fun webhook =>
      let truncated := decide (MAX_PAYLOAD_BYTES < textLength payload)
      { webhookId := id, url := webhook.url, truncated := truncated
        envelope := HubEvent.new seq eventType (hubUrlPublic s.apps.hub) now (if truncated then null else payload) }

end

/-- Nobody is subscribed to the messages of the whole hub. -/
structure NoFirehose (s : Subscribers) : Prop where
  apps : ∀ row ∈ s.apps.subscriptions, isMessageEvent row.eventType = true → row.channelId ≠ ""
  webhooks : ∀ row ∈ s.webhookSubscriptions, isMessageEvent row.eventType = true → row.channelId ≠ ""

/-- An event about messages goes only to those whose subscription names its channel. -/
structure PerChannel (s : Subscribers) : Prop where
  stored : NoFirehose s
  apps : ∀ (Json : Type) (appSessions : Table (List String)) (seq now : Int) (eventType channelId : String)
    (payload : Json),
    isMessageEvent eventType = true → ∀ push ∈ fanOut s.apps appSessions seq now eventType (some channelId) payload,
      { appPubkey := push.1, eventType := eventType, channelId := channelId } ∈ s.apps.subscriptions
  webhooks : ∀ (Json : Type) (null : Json) (textLength : Json → Nat) (takes : String → Bool) (seq now : Int)
    (eventType channelId : String) (payload : Json), isMessageEvent eventType = true →
      ∀ sent ∈ dispatchEvent s null textLength takes seq now eventType (some channelId) payload,
        { webhookId := sent.webhookId, eventType := eventType, channelId := channelId } ∈ s.webhookSubscriptions

-- The body is refused, or none of its lists for an event about messages has an empty channel in it.
def NamesChannels (s : Subscribers) (request : SubscriptionRequest) : Prop :=
  (∃ e, (request.handle s).2 = .error e) ∨
    ∀ sub ∈ request.body, isMessageEvent sub.event = true → ∀ channels ∈ sub.channels, "" ∉ channels

section

variable {s : Subscribers}

theorem mem_foldl_insertNew {R : Type} [DecidableEq R] {rows more : List R} {row : R} :
    row ∈ more.foldl insertNew rows ↔ row ∈ rows ∨ row ∈ more := by
  induction more generalizing rows with
  | nil => simp
  | cons first rest ih =>
    have one : row ∈ insertNew rows first ↔ row ∈ rows ∨ row = first := by
      unfold insertNew
      split
      next listed =>
        refine ⟨.inl, fun either => either.elim id ?_⟩
        rintro rfl
        exact listed
      next => rw [List.mem_append, List.mem_singleton]
    rw [List.foldl_cons, ih, one, List.mem_cons, or_assoc]

-- Past the check, a subscription to messages stores the channels that it lists.
theorem storedPairs_message {req : List AppSubscription} (accepted : requireChannels req = .ok ())
    {event channelId : String}
    (message : isMessageEvent event = true) : (event, channelId) ∈ storedPairs req ↔
      ∃ sub ∈ req, sub.event = event ∧ ∃ channels ∈ sub.channels, channelId ∈ channels := by
  have listed : ∀ sub ∈ req, missingChannels sub = false := by
    unfold requireChannels at accepted
    split at accepted
    next => cases accepted
    next none => exact fun sub inside => Bool.eq_false_iff.mpr (List.find?_eq_none.mp none sub inside)
  simp only [storedPairs, List.mem_flatMap, List.mem_map, Prod.mk.injEq]
  constructor
  · rintro ⟨sub, inside, stored, held, rfl, rfl⟩
    have some' := listed sub inside
    rw [missingChannels, message, Bool.true_and] at some'
    unfold storedChannels at held
    cases given : sub.channels with
    | none => simp [given] at some'
    | some channels =>
      rw [given, Option.all_some] at some'
      simp only [given, some'] at held
      exact ⟨sub, inside, rfl, channels, given, held⟩
  · rintro ⟨sub, inside, rfl, channels, given, held⟩
    refine ⟨sub, inside, channelId, ?_, rfl, rfl⟩
    have given : sub.channels = some channels := given
    unfold storedChannels
    rw [given]
    dsimp only
    rw [if_neg]
    · exact held
    · simp [List.ne_nil_of_mem held]

-- Without rows for the whole hub, both queries find only rows that name the channel.
theorem perChannel_of_noFirehose (none : NoFirehose s) : PerChannel s where
  stored := none
  apps := by
    intro Json appSessions seq now eventType channelId payload message push pushed
    obtain ⟨app, inSubs, pushed⟩ := List.mem_flatMap.mp pushed
    obtain ⟨row, matching, rfl⟩ := List.mem_map.mp (List.mem_dedup.mp inSubs)
    obtain ⟨stored, filtered⟩ := List.mem_filter.mp matching
    obtain ⟨rfl, covers⟩ := of_decide_eq_true filtered
    have named : row.channelId = channelId := covers.resolve_left (none.apps row stored message)
    have owner : push.1 = row.appPubkey := by
      split at pushed
      next => cases pushed
      next =>
        split at pushed
        next =>
          obtain ⟨session, -, rfl⟩ := List.mem_map.mp pushed
          rfl
        next => cases pushed
    rw [owner, ← named]
    exact stored
  webhooks := by
    intro Json null textLength takes seq now eventType channelId payload message sent listed
    obtain ⟨id, inSubs, made⟩ := List.mem_filterMap.mp listed
    obtain ⟨row, matching, rfl⟩ := List.mem_map.mp (List.mem_dedup.mp inSubs)
    obtain ⟨stored, filtered⟩ := List.mem_filter.mp matching
    obtain ⟨rfl, covers, -⟩ := of_decide_eq_true filtered
    have named : row.channelId = channelId := covers.resolve_left (none.webhooks row stored message)
    obtain ⟨webhook, -, rfl⟩ := Option.map_eq_some_iff.mp made
    rw [← named]
    exact stored

-- A refused body changes nothing.
theorem putMyAppSubscriptions_cases (s : Subscribers) (user : String) (req : List AppSubscription) :
    (∃ e, putMyAppSubscriptions s user req = (s, .error e)) ∨
      ∃ n, requireChannels req = .ok () ∧ (putMyAppSubscriptions s user req).2 = .ok n ∧
        (putMyAppSubscriptions s user req).1.webhookSubscriptions = s.webhookSubscriptions ∧
        ∀ row, row ∈ (putMyAppSubscriptions s user req).1.apps.subscriptions ↔
          (row ∈ s.apps.subscriptions ∧ row.appPubkey ≠ user) ∨
            (row.appPubkey = user ∧ (row.eventType, row.channelId) ∈ storedPairs req) := by
  unfold putMyAppSubscriptions
  split
  next e _ => exact .inl ⟨e, rfl⟩
  next =>
    split
    next e _ => exact .inl ⟨e, rfl⟩
    next accepted =>
      refine .inr ⟨_, accepted, rfl, rfl, fun row => ?_⟩
      rw [mem_foldl_insertNew, List.mem_filter, decide_eq_true_iff, List.mem_map]
      refine or_congr_right ⟨?_, ?_⟩
      · rintro ⟨pair, listed, rfl⟩
        exact ⟨rfl, listed⟩
      · rintro ⟨rfl, listed⟩
        exact ⟨_, listed, rfl⟩

theorem replaceSubscriptions_cases (s : Subscribers) (user id : String) (req : List AppSubscription) :
    (∃ e, replaceSubscriptions s user id req = (s, .error e)) ∨
      ∃ n, requireChannels req = .ok () ∧ (replaceSubscriptions s user id req).2 = .ok n ∧
        (replaceSubscriptions s user id req).1.apps = s.apps ∧
        ∀ row, row ∈ (replaceSubscriptions s user id req).1.webhookSubscriptions ↔
          (row ∈ s.webhookSubscriptions ∧ row.webhookId ≠ id) ∨
            (row.webhookId = id ∧ (row.eventType, row.channelId) ∈ storedPairs req) := by
  unfold replaceSubscriptions
  split
  next e _ => exact .inl ⟨e, rfl⟩
  next =>
    split
    next => exact .inl ⟨_, rfl⟩
    next =>
      split
      next e _ => exact .inl ⟨e, rfl⟩
      next accepted =>
        refine .inr ⟨_, accepted, rfl, rfl, fun row => ?_⟩
        rw [mem_foldl_insertNew, List.mem_filter, decide_eq_true_iff, List.mem_map]
        refine or_congr_right ⟨?_, ?_⟩
        · rintro ⟨pair, listed, rfl⟩
          exact ⟨rfl, listed⟩
        · rintro ⟨rfl, listed⟩
          exact ⟨_, listed, rfl⟩

-- An accepted body stores no row for the whole hub under an event about messages exactly if it names its channels.
theorem storedPairs_named {req : List AppSubscription} (accepted : requireChannels req = .ok ()) :
    (∀ event, isMessageEvent event = true → (event, "") ∉ storedPairs req) ↔
      ∀ sub ∈ req, isMessageEvent sub.event = true → ∀ channels ∈ sub.channels, "" ∉ channels := by
  constructor
  · intro unstored sub inside message channels given empty
    exact unstored sub.event message ((storedPairs_message accepted message).mpr ⟨sub, inside, rfl, channels, given,
      empty⟩)
  · intro named event message stored
    obtain ⟨sub, inside, rfl, channels, given, empty⟩ := (storedPairs_message accepted message).mp stored
    exact named sub inside message channels given empty

theorem noFirehose_subscribe (none : NoFirehose s) {request : SubscriptionRequest} (named : NamesChannels s request) :
    NoFirehose (subscribe s request) := by
  cases request with
  | app user req =>
    rcases putMyAppSubscriptions_cases s user req with ⟨e, refused⟩ | ⟨n, accepted, outcome, untouched, rows⟩
    · rw [subscribe, SubscriptionRequest.handle, refused]
      exact none
    · have named := named.resolve_left fun ⟨e, refused⟩ => nomatch outcome.symm.trans refused
      constructor
      · intro row listed message empty
        rcases (rows row).mp listed with ⟨old, -⟩ | ⟨-, stored⟩
        · exact none.apps row old message empty
        · rw [empty] at stored
          exact (storedPairs_named accepted).mpr named row.eventType message stored
      · intro row listed
        exact none.webhooks row (untouched ▸ listed)
  | webhook user id req =>
    rcases replaceSubscriptions_cases s user id req with ⟨e, refused⟩ | ⟨n, accepted, outcome, untouched, rows⟩
    · rw [subscribe, SubscriptionRequest.handle, refused]
      exact none
    · have named := named.resolve_left fun ⟨e, refused⟩ => nomatch outcome.symm.trans refused
      constructor
      · intro row listed
        change row ∈ (replaceSubscriptions s user id req).1.apps.subscriptions at listed
        rw [untouched] at listed
        exact none.apps row listed
      · intro row listed message empty
        rcases (rows row).mp listed with ⟨old, -⟩ | ⟨-, stored⟩
        · exact none.webhooks row old message empty
        · rw [empty] at stored
          exact (storedPairs_named accepted).mpr named row.eventType message stored

-- An accepted body with an empty channel id subscribes to the messages of every channel.
theorem firehose_of_unnamed {request : SubscriptionRequest} (unnamed : ¬ NamesChannels s request) :
    ¬ NoFirehose (subscribe s request) := by
  intro none
  cases request with
  | app user req =>
    rcases putMyAppSubscriptions_cases s user req with ⟨e, refused⟩ | ⟨n, accepted, outcome, untouched, rows⟩
    · exact unnamed (.inl ⟨e, congrArg Prod.snd refused⟩)
    · refine unnamed (.inr ((storedPairs_named accepted).mp fun event message stored => ?_))
      exact none.apps { appPubkey := user, eventType := event } ((rows _).mpr (.inr ⟨rfl, stored⟩)) message rfl
  | webhook user id req =>
    rcases replaceSubscriptions_cases s user id req with ⟨e, refused⟩ | ⟨n, accepted, outcome, untouched, rows⟩
    · exact unnamed (.inl ⟨e, congrArg Prod.snd refused⟩)
    · refine unnamed (.inr ((storedPairs_named accepted).mp fun event message stored => ?_))
      exact none.webhooks { webhookId := id, eventType := event } ((rows _).mpr (.inr ⟨rfl, stored⟩)) message rfl

end

/-- However often subscriptions are replaced, messages stay per channel exactly if no accepted list has an
empty id in it. -/
theorem perChannel_iff (s : Subscribers) (none : NoFirehose s) (requests : List SubscriptionRequest) :
    (∀ front, front <+: requests → PerChannel (Runs.run subscribe s front)) ↔
    Runs.Meets subscribe NamesChannels s requests :=
  Runs.always_iff_meets NoFirehose PerChannel (fun _ => perChannel_of_noFirehose)
    (fun _ _ held named => noFirehose_subscribe held named)
    (fun _ _ _ unnamed kept => firehose_of_unnamed unnamed kept.stored) none requests

-- A hub with an app that its owner runs.
def appHub : Subscribers where
  apps :=
    { hub :=
        { users := (∅ : Table User).insert "ann" { isMember := true }
          roles := (∅ : Table Role).insert BUILTIN_OWNER_ROLE_ID { name := "Owner" }
          userRoles := {("ann", BUILTIN_OWNER_ROLE_ID)} } }

theorem appHub_noFirehose : NoFirehose appHub := ⟨nofun, nofun⟩

theorem perChannel_iff_general :
    (∀ front, front <+: [.app "ann" [{ event := "message.created", channels := some ["general"] }]] →
        PerChannel (Runs.run subscribe appHub front)) ↔
      Runs.Meets subscribe NamesChannels appHub [.app "ann" [{ event := "message.created", channels := some ["general"] }]] :=
  perChannel_iff appHub appHub_noFirehose _

theorem firehose_accepted : ¬ ∀ (s : Subscribers) (requests : List SubscriptionRequest), NoFirehose s →
    PerChannel (Runs.run subscribe s requests) := by
  intro always
  have kept := always appHub [.app "ann" [{ event := "message.created", channels := some [""] }]] appHub_noFirehose
  refine kept.stored.apps { appPubkey := "ann", eventType := "message.created" } ?_ ?_ rfl
  · decide
  · decide

end Wavvon.Apps
