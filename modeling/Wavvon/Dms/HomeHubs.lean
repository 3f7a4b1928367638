import Wavvon.Dms.Mirrors
import Mathlib.Data.Finset.Card

set_option autoImplicit false

namespace Wavvon.Dms

open Std (ExtTreeMap)
open Tables (Nested)

/-- The hubs by their urls, and how many deliveries each made of each message that were answered well. -/
structure Network where
  hubs : String → HomeHub
  acknowledged : String → String → Nat := fun _ _ => 0

/-- A delivery from an outbox, whose answer may be lost; or what else may change on a hub, its messages staying. -/
inductive NetworkCall where
  | deliver (origin target : String) (req : FederatedDmRequest) (registries : Registries) (now : Int) (heard : Bool)
  | changes (hub : String) (auth : AuthState) (convs : Conversations) (designations : Table (List String))
      (canonicalUrl : Option String)

namespace Network

-- The hub at the url has moved on.
def served (net : Network) (url : String) (s : HomeHub) : Network :=
  { net with hubs := Function.update net.hubs url s }

-- The sender of a delivery that was answered well drops its row.
def acknowledge (net : Network) (origin messageId target : String) : Network :=
  let done : HomeHub := { net.hubs origin with outbox := (net.hubs origin).outbox.drop messageId target }
  { hubs := Function.update net.hubs origin done
    acknowledged := Function.update net.acknowledged origin
      (Function.update (net.acknowledged origin) messageId (net.acknowledged origin messageId + 1)) }

section

variable (keys : Keys) (isUuid : String → Bool)

-- Whatever the worker makes of the stored message, a copy goes out as a copy.
def step (net : Network) : NetworkCall → Network
  | .deliver origin target req registries now heard =>
    match (net.hubs origin).outbox.get req.messageId target with
    | none => net
    | some row =>
      let answer := (net.hubs target).receive keys registries isUuid { req with mirror := row.mirror } now
      if heard = true ∧ answer.2 = .ok () then (net.served target answer.1).acknowledge origin req.messageId target
      else net.served target answer.1
  | .changes hub auth convs designations canonicalUrl =>
    net.served hub
      { net.hubs hub with
        auth := auth
        convs := { convs with messages := (net.hubs hub).convs.messages }
        designations := designations
        canonicalUrl := canonicalUrl }

end

end Network

-- The urls a hub is to deliver the message to and was not before.
def Queued (before after : HomeHub) (messageId url : String) : Prop :=
  before.outbox.get messageId url = none ∧ after.outbox.get messageId url ≠ none

-- Over the members of the conversation's roster, the sender left out, how many hubs they designate.
def HomeHub.designated (s : HomeHub) (conversationId sender : String) : Nat :=
  (((membersOf s.convs conversationId).filter (· ≠ sender)).map fun member => (s.hubsOf member).length).sum

/-- The copies of an accepted delivery go to the home hubs of the roster, once each, and no further. -/
structure MirrorsRoster (keys : Keys) (isUuid : String → Bool) (net : Network) (url : String)
    (req : FederatedDmRequest) (after : HomeHub) : Prop where
  roster : ∀ target, Queued (net.hubs url) after req.messageId target →
    ∃ member ∈ membersOf after.convs req.conversationId, member ≠ req.sender ∧
      ∃ hub ∈ after.hubsOf member, trimEndSlashes hub = target
  once : ∀ first second, Queued (net.hubs url) after req.messageId first →
    Queued (net.hubs url) after req.messageId second →
    trimEndSlashes first = trimEndSlashes second → first = second
  foreign : ∀ target, Queued (net.hubs url) after req.messageId target → some target ≠ (net.hubs url).ownUrl
  copies : ∀ (s : HomeHub) (copy : FederatedDmRequest) (registries : Registries) (now : Int), copy.mirror = true →
    (s.receive keys registries isUuid copy now).1.outbox = s.outbox
  bounded : ∀ calls, (Runs.run (Network.step keys isUuid) (net.served url after) calls).acknowledged url req.messageId ≤
    net.acknowledged url req.messageId + after.designated req.conversationId req.sender
  -- Where no other hub has the message queued, none ever delivers it.
  stops : (∀ hub, hub ≠ url → ∀ target, (net.hubs hub).outbox.get req.messageId target = none) →
    ∀ calls hub, hub ≠ url →
      (Runs.run (Network.step keys isUuid) (net.served url after) calls).acknowledged hub req.messageId =
        net.acknowledged hub req.messageId

/--
A key that the delivery lists without its being on the stored roster designates no hub but this one and
those that somebody on the roster designates.
-/
def RosterDesignates (s : HomeHub) (req : FederatedDmRequest) : Prop :=
  req.conversationId ∈ s.convs.conversations → ∀ member ∈ req.members, member ≠ req.sender →
    member ∉ membersOf s.convs req.conversationId → ∀ hub ∈ s.hubsOf member,
      trimEndSlashes hub = "" ∨ some (trimEndSlashes hub) = s.ownUrl ∨
        ∃ other ∈ membersOf s.convs req.conversationId, other ≠ req.sender ∧ ∃ known ∈ s.hubsOf other,
          trimEndSlashes known = trimEndSlashes hub

section

variable {keys : Keys} {registries : Registries} {isUuid : String → Bool} {s : HomeHub} {req : FederatedDmRequest}
  {now : Int}

theorem receive_members (accepts : Accepts keys registries isUuid s.auth.db s.convs req) :
    (s.receive keys registries isUuid req now).1.convs.members =
      (openFederated s.auth.db s.convs req).2.members := by
  have written := (receive_accepts accepts).1
  unfold HomeHub.receive
  dsimp only
  split
  · simp [HomeHub.stores, written]
  · simp [HomeHub.stores, HomeHub.queueHomeHubMirrors, written]

theorem openFederated_roster (fresh : req.conversationId ∉ s.convs.conversations) {member : String}
    (listed : member ∈ req.members) (db : Db) :
    ((openFederated db s.convs req).2.members.get req.conversationId member).isSome = true := by
  have seats : ∀ (seated : Db × Conversations) (first : String),
      first = member ∨ (seated.2.members.get req.conversationId member).isSome = true →
        ((seatFederated req seated first).2.members.get req.conversationId member).isSome = true := by
    rintro seated first here
    unfold seatFederated
    dsimp only
    split
    next row found =>
      rcases here with rfl | here
      · simp [found]
      · exact here
    next =>
      rw [Nested.get_put]
      split
      next => rfl
      next other =>
        rcases here with rfl | here
        · exact absurd ⟨rfl, rfl⟩ other
        · exact here
  have kept : ∀ (members : List String) (seated : Db × Conversations),
      member ∈ members ∨ (seated.2.members.get req.conversationId member).isSome = true →
        ((members.foldl (seatFederated req) seated).2.members.get req.conversationId member).isSome = true := by
    intro members
    induction members with
    | nil =>
      rintro seated (nothing | here)
      · cases nothing
      · exact here
    | cons first rest ih =>
      intro seated inside
      rw [List.foldl_cons]
      refine ih _ ?_
      rcases inside with inside | here
      · rcases List.mem_cons.mp inside with rfl | later
        · exact .inr (seats seated _ (.inl rfl))
        · exact .inl later
      · exact .inr (seats seated first (.inr here))
  rw [openFederated_fresh db fresh]
  exact kept req.members _ (.inl listed)

theorem receive_hubsOf {member : String} (other : member ≠ req.sender) :
    (s.receive keys registries isUuid req now).1.hubsOf member = s.hubsOf member := by
  rw [← @hubsOf_stored keys registries isUuid s req member other]
  unfold HomeHub.receive
  dsimp only
  split <;> rfl

theorem queued_iff (accepts : Accepts keys registries isUuid s.auth.db s.convs req) (original : req.mirror = false)
    (none : ∀ target, s.outbox.get req.messageId target = none) {target : String} :
    Queued s (s.receive keys registries isUuid req now).1 req.messageId target ↔ target ∈ s.mirrorTargets req := by
  unfold Queued
  rw [(receive_accepted accepts original).2, get_queueMirrors, none]
  simp

/-- A hub that has the message, and nothing but copies of it to deliver. -/
structure Copying (messageId : String) (targets : List String) (s : HomeHub) : Prop where
  stored : messageId ∈ s.convs.messages
  rows : ∀ (url : String) (row : OutboxRow), s.outbox.get messageId url = some row → row.mirror = true ∧ url ∈ targets

def pending (messageId : String) (targets : List String) (s : HomeHub) : Nat :=
  (targets.toFinset.filter fun url => (s.outbox.get messageId url).isSome).card

theorem receive_messages : (s.receive keys registries isUuid req now).1.convs.messages =
    (receiveFederatedDm keys registries isUuid s.auth.db s.convs req).2.1.messages := by
  unfold HomeHub.receive
  dsimp only
  split <;> rfl

-- A message that is stored is not queued again.
theorem receive_settled {messageId : String} (stored : messageId ∈ s.convs.messages) (url : String) :
    messageId ∈ (s.receive keys registries isUuid req now).1.convs.messages ∧
      (s.receive keys registries isUuid req now).1.outbox.get messageId url = s.outbox.get messageId url := by
  constructor
  · rw [receive_messages]
    by_cases accepts : Accepts keys registries isUuid s.auth.db s.convs req
    · rw [(receive_stores accepts).1]
      exact ExtTreeMap.mem_insert.mpr (.inr stored)
    · rw [receive_refuses accepts]
      exact stored
  · by_cases same : messageId = req.messageId
    · subst same
      simp [HomeHub.receive, stored, HomeHub.stores]
    · exact receive_elsewhere s now same url

-- No delivery takes a row from the hub it reaches.
theorem receive_keeps {message url : String} (found : s.outbox.get message url ≠ none) :
    (s.receive keys registries isUuid req now).1.outbox.get message url ≠ none := by
  unfold HomeHub.receive
  dsimp only
  split
  next => exact found
  next =>
    simp only [HomeHub.queueHomeHubMirrors, get_queueMirrors]
    simp [HomeHub.stores, found]

theorem pending_congr {messageId : String} {targets : List String} {after : HomeHub}
    (same : ∀ url, after.outbox.get messageId url = s.outbox.get messageId url) :
    pending messageId targets after = pending messageId targets s := by
  unfold pending
  simp only [same]

theorem copying_congr {messageId : String} {targets : List String} {after : HomeHub}
    (copying : Copying messageId targets s) (stored : messageId ∈ after.convs.messages)
    (same : ∀ url, after.outbox.get messageId url = s.outbox.get messageId url) : Copying messageId targets after where
  stored := stored
  rows url row found := copying.rows url row ((same url).symm.trans found)

-- A copy that was answered well is one row less.
theorem pending_drop {messageId target : String} {targets : List String} {row : OutboxRow}
    (copying : Copying messageId targets s) (found : s.outbox.get messageId target = some row) {after : HomeHub}
    (dropped : after.outbox = s.outbox.drop messageId target) :
    pending messageId targets after + 1 = pending messageId targets s := by
  have inside : target ∈ targets.toFinset.filter fun url => (s.outbox.get messageId url).isSome := by
    simp [found, (copying.rows target row found).2]
  have fewer : (targets.toFinset.filter fun url => (after.outbox.get messageId url).isSome) =
      (targets.toFinset.filter fun url => (s.outbox.get messageId url).isSome).erase target := by
    ext url
    simp only [dropped, Nested.get_drop, Finset.mem_filter, Finset.mem_erase]
    by_cases here : url = target <;> simp [here]
  unfold pending
  rw [fewer, Finset.card_erase_add_one inside]

end

/-- What a hub still has to copy, and what it has copied, in any surroundings. -/
structure Spreading (messageId url : String) (targets : List String) (limit : Nat) (net : Network) : Prop where
  copying : Copying messageId targets (net.hubs url)
  counted : net.acknowledged url messageId + pending messageId targets (net.hubs url) ≤ limit

section

variable {keys : Keys} {isUuid : String → Bool} {messageId url : String} {targets : List String} {limit : Nat}
  {net : Network}

theorem spreading_same (spreading : Spreading messageId url targets limit net) {after : Network}
    (stored : messageId ∈ (after.hubs url).convs.messages)
    (same : ∀ target, (after.hubs url).outbox.get messageId target = (net.hubs url).outbox.get messageId target)
    (counts : after.acknowledged url messageId = net.acknowledged url messageId) :
    Spreading messageId url targets limit after where
  copying := copying_congr spreading.copying stored same
  counted := by
    rw [counts, pending_congr same]
    exact spreading.counted

-- A delivery as it reaches its target, before the answer is back.
theorem spreading_receive (spreading : Spreading messageId url targets limit net) (target : String)
    (req : FederatedDmRequest) (registries : Registries) (now : Int) :
    Spreading messageId url targets limit
      (net.served target ((net.hubs target).receive keys registries isUuid req now).1) := by
  by_cases here : url = target
  · subst here
    have settled := @receive_settled keys registries isUuid (net.hubs url) req now messageId
      spreading.copying.stored
    refine spreading_same spreading ?_ ?_ rfl
    · simpa [Network.served] using (settled "").1
    · intro other
      simpa [Network.served] using (settled other).2
  · refine spreading_same spreading ?_ ?_ rfl
    · simpa [Network.served, Function.update_of_ne here] using spreading.copying.stored
    · intro other
      simp [Network.served, Function.update_of_ne here]

theorem spreading_acknowledge (spreading : Spreading messageId url targets limit net) {origin message target : String}
    (found : (net.hubs origin).outbox.get message target ≠ none) :
    Spreading messageId url targets limit (net.acknowledge origin message target) := by
  by_cases here : url = origin
  · subst here
    by_cases same : messageId = message
    · subst same
      obtain ⟨row, found⟩ := Option.ne_none_iff_exists'.mp found
      have fewer : pending messageId targets ((net.acknowledge url messageId target).hubs url) + 1 =
          pending messageId targets (net.hubs url) := by
        refine pending_drop spreading.copying found ?_
        simp [Network.acknowledge]
      have counted := spreading.counted
      refine ⟨⟨?_, ?_⟩, ?_⟩
      · simpa [Network.acknowledge] using spreading.copying.stored
      · intro other row kept
        simp only [Network.acknowledge, Function.update_self, Nested.get_drop] at kept
        split at kept
        · cases kept
        · exact spreading.copying.rows other row kept
      · have more : (net.acknowledge url messageId target).acknowledged url messageId =
            net.acknowledged url messageId + 1 := by
          simp [Network.acknowledge]
        omega
    · refine spreading_same spreading ?_ ?_ ?_
      · simpa [Network.acknowledge] using spreading.copying.stored
      · intro other
        simp [Network.acknowledge, Nested.get_drop, same]
      · simp [Network.acknowledge, Function.update_of_ne same]
  · refine spreading_same spreading ?_ ?_ ?_
    · simpa [Network.acknowledge, Function.update_of_ne here] using spreading.copying.stored
    · intro other
      simp [Network.acknowledge, Function.update_of_ne here]
    · simp [Network.acknowledge, Function.update_of_ne here]

theorem served_keeps {origin target message : String} {req : FederatedDmRequest} {registries : Registries} {now : Int}
    {url : String} (found : (net.hubs origin).outbox.get message url ≠ none) :
    ((net.served target ((net.hubs target).receive keys registries isUuid req now).1).hubs origin).outbox.get message url ≠
      none := by
  by_cases here : origin = target
  · subst here
    simp only [Network.served, Function.update_self]
    exact receive_keeps found
  · simpa [Network.served, Function.update_of_ne here] using found

theorem spreading_step (spreading : Spreading messageId url targets limit net) (call : NetworkCall) :
    Spreading messageId url targets limit (net.step keys isUuid call) := by
  cases call with
  | changes hub auth convs designations canonicalUrl =>
    refine spreading_same spreading ?_ ?_ rfl
    · by_cases here : url = hub
      · subst here
        simpa [Network.step, Network.served] using spreading.copying.stored
      · simpa [Network.step, Network.served, Function.update_of_ne here] using spreading.copying.stored
    · intro target
      by_cases here : url = hub
      · subst here
        simp [Network.step, Network.served]
      · simp [Network.step, Network.served, Function.update_of_ne here]
  | deliver origin target req registries now heard =>
    unfold Network.step
    dsimp only
    cases found : (net.hubs origin).outbox.get req.messageId target with
    | none => exact spreading
    | some row =>
      have received := @spreading_receive keys isUuid _ _ _ _ _ spreading target
        { req with mirror := row.mirror } registries now
      dsimp only
      split
      · exact spreading_acknowledge received (served_keeps (by simp [found]))
      · exact received

theorem spreading_run (spreading : Spreading messageId url targets limit net) (calls : List NetworkCall) :
    Spreading messageId url targets limit (Runs.run (Network.step keys isUuid) net calls) :=
  Runs.run_invariant (Spreading messageId url targets limit) (fun _ call held => spreading_step held call) net
    spreading calls

/-- Everywhere else the message is not queued, and nothing of it has been delivered. -/
structure Alone (messageId url : String) (acknowledged : String → Nat) (net : Network) : Prop where
  none : ∀ hub, hub ≠ url → ∀ target, (net.hubs hub).outbox.get messageId target = none
  counts : ∀ hub, hub ≠ url → net.acknowledged hub messageId = acknowledged hub

theorem alone_step {acknowledged : String → Nat} (spreading : Spreading messageId url targets limit net)
    (alone : Alone messageId url acknowledged net) (call : NetworkCall) :
    Alone messageId url acknowledged (net.step keys isUuid call) := by
  cases call with
  | changes changed auth convs designations canonicalUrl =>
    refine ⟨?_, alone.counts⟩
    intro hub other target
    by_cases here : hub = changed
    · subst here
      simpa [Network.step, Network.served] using alone.none hub other target
    · simpa [Network.step, Network.served, Function.update_of_ne here] using alone.none hub other target
  | deliver origin target req registries now heard =>
    unfold Network.step
    dsimp only
    cases found : (net.hubs origin).outbox.get req.messageId target with
    | none => exact alone
    | some row =>
      dsimp only
      -- The message itself is queued on the one hub alone, as a copy.
      have copy : messageId = req.messageId → origin = url ∧ row.mirror = true := by
        rintro rfl
        have here : origin = url := by
          by_contra other
          rw [alone.none origin other] at found
          cases found
        subst here
        exact ⟨rfl, (spreading.copying.rows target row found).1⟩
      have received : Alone messageId url acknowledged
          (net.served target ((net.hubs target).receive keys registries isUuid { req with mirror := row.mirror } now).1) := by
        refine ⟨?_, alone.counts⟩
        intro hub other wanted
        by_cases here : hub = target
        · subst here
          simp only [Network.served, Function.update_self]
          by_cases same : messageId = req.messageId
          · rw [receive_mirror (copy same).2]
            exact alone.none hub other wanted
          · have apart : messageId ≠ ({ req with mirror := row.mirror } : FederatedDmRequest).messageId := same
            exact (receive_elsewhere (net.hubs hub) now apart wanted).trans (alone.none hub other wanted)
        · simpa [Network.served, Function.update_of_ne here] using alone.none hub other wanted
      split
      · refine ⟨?_, ?_⟩
        · intro hub other wanted
          by_cases here : hub = origin
          · subst here
            have apart : messageId ≠ req.messageId := fun same => other (copy same).1
            have still := received.none hub other wanted
            simpa [Network.acknowledge, Nested.get_drop, apart] using still
          · have still := received.none hub other wanted
            simpa [Network.acknowledge, Function.update_of_ne here] using still
        · intro hub other
          by_cases here : hub = origin
          · subst here
            have apart : messageId ≠ req.messageId := fun same => other (copy same).1
            have still := received.counts hub other
            simpa [Network.acknowledge, Function.update_of_ne apart] using still
          · have still := received.counts hub other
            simpa [Network.acknowledge, Function.update_of_ne here] using still
      · exact received

theorem alone_run {acknowledged : String → Nat} (spreading : Spreading messageId url targets limit net)
    (alone : Alone messageId url acknowledged net) (calls : List NetworkCall) :
    Alone messageId url acknowledged (Runs.run (Network.step keys isUuid) net calls) :=
  (Runs.run_invariant (fun net => Spreading messageId url targets limit net ∧ Alone messageId url acknowledged net)
    (fun _ call held => ⟨spreading_step held.1 call, alone_step held.1 held.2 call⟩) net ⟨spreading, alone⟩ calls).2

end

section

variable {keys : Keys} {registries : Registries} {isUuid : String → Bool} {net : Network} {url : String}
  {req : FederatedDmRequest} {now : Int}

theorem served_spreading (accepts : Accepts keys registries isUuid (net.hubs url).auth.db (net.hubs url).convs req)
    (original : req.mirror = false) (unqueued : ∀ target, (net.hubs url).outbox.get req.messageId target = none) :
    Spreading req.messageId url ((net.hubs url).mirrorTargets req)
      (net.acknowledged url req.messageId + ((net.hubs url).mirrorTargets req).length)
      (net.served url ((net.hubs url).receive keys registries isUuid req now).1) := by
  have here : (net.served url ((net.hubs url).receive keys registries isUuid req now).1).hubs url =
      ((net.hubs url).receive keys registries isUuid req now).1 := by
    simp [Network.served]
  refine ⟨⟨?_, ?_⟩, ?_⟩
  · rw [here, receive_messages, (receive_stores accepts).1]
    exact ExtTreeMap.mem_insert_self
  · intro target row found
    rw [here, (receive_accepted accepts original).2, get_queueMirrors, unqueued, Option.none_or] at found
    split at found
    next inside =>
      cases found
      exact ⟨rfl, inside.2⟩
    next => cases found
  · rw [here]
    refine Nat.add_le_add_left ?_ _
    exact (Finset.card_filter_le _ _).trans (List.toFinset_card_le _)

-- Distinct targets that somebody on the roster designates are no more than the roster designates.
theorem length_le_designated {after : HomeHub} {conversationId sender : String} {targets : List String}
    (nodup : targets.Nodup) (confined : ∀ target ∈ targets, ∃ member ∈ membersOf after.convs conversationId,
      member ≠ sender ∧ ∃ hub ∈ after.hubsOf member, trimEndSlashes hub = target) :
    targets.length ≤ after.designated conversationId sender := by
  have inside : targets ⊆ ((((membersOf after.convs conversationId).filter (· ≠ sender)).flatMap after.hubsOf).map
      trimEndSlashes) := by
    intro target listed
    obtain ⟨member, onRoster, other, hub, designated, trimmed⟩ := confined target listed
    refine List.mem_map.mpr ⟨hub, List.mem_flatMap.mpr ⟨member, ?_, designated⟩, trimmed⟩
    exact List.mem_filter.mpr ⟨onRoster, by simpa using other⟩
  have short := nodup.length_le_of_subset inside
  rwa [List.length_map, List.length_flatMap] at short

/--
An accepted delivery that is no copy is copied to the home hubs of the stored roster, once each and no
further, exactly if no key listed beside the roster designates a hub that the roster does not.
-/
theorem mirrorsRoster_iff (keys : Keys) (registries : Registries) (isUuid : String → Bool) (net : Network)
    (url : String)
    (req : FederatedDmRequest) (now : Int) (original : req.mirror = false)
    (accepts : Accepts keys registries isUuid (net.hubs url).auth.db (net.hubs url).convs req)
    (unqueued : ∀ target, (net.hubs url).outbox.get req.messageId target = none) :
    MirrorsRoster keys isUuid net url req ((net.hubs url).receive keys registries isUuid req now).1 ↔
      RosterDesignates (net.hubs url) req := by
  have queued : ∀ {target}, Queued (net.hubs url) ((net.hubs url).receive keys registries isUuid req now).1
      req.messageId target ↔ target ∈ (net.hubs url).mirrorTargets req := queued_iff accepts original unqueued
  have hubs : ∀ {member}, member ≠ req.sender → ((net.hubs url).receive keys registries isUuid req now).1.hubsOf member =
      (net.hubs url).hubsOf member := receive_hubsOf
  constructor
  · intro mirrors known member listed other _ hub designated
    by_contra unshared
    simp only [not_or] at unshared
    have target : trimEndSlashes hub ∈ (net.hubs url).mirrorTargets req :=
      mem_mirrorTargets.mpr ⟨⟨member, listed, other, hub, designated, rfl⟩, unshared.1, unshared.2.1⟩
    obtain ⟨sharer, onRoster, notSender, shared, designates, trimmed⟩ := mirrors.roster _ (queued.mpr target)
    rw [mem_membersOf, receive_members accepts, openFederated_known known, ← mem_membersOf] at onRoster
    rw [hubs notSender] at designates
    exact unshared.2.2 ⟨sharer, onRoster, notSender, shared, designates, trimmed⟩
  · intro designates
    have confined : ∀ target ∈ (net.hubs url).mirrorTargets req,
        ∃ member ∈ membersOf ((net.hubs url).receive keys registries isUuid req now).1.convs req.conversationId,
          member ≠ req.sender ∧ ∃ hub ∈ ((net.hubs url).receive keys registries isUuid req now).1.hubsOf member,
            trimEndSlashes hub = target := by
      intro target inside
      obtain ⟨⟨member, listed, other, hub, designated, rfl⟩, nonempty, foreign⟩ := mem_mirrorTargets.mp inside
      simp only [mem_membersOf, receive_members accepts]
      by_cases known : req.conversationId ∈ (net.hubs url).convs.conversations
      · simp only [openFederated_known known, ← mem_membersOf]
        by_cases onRoster : member ∈ membersOf (net.hubs url).convs req.conversationId
        · exact ⟨member, onRoster, other, hub, (hubs other) ▸ designated, rfl⟩
        · obtain empty | own | ⟨sharer, shares, notSender, shared, sharedHub, trimmed⟩ :=
            designates known member listed other onRoster hub designated
          · exact absurd empty nonempty
          · exact absurd own foreign
          · exact ⟨sharer, shares, notSender, shared, (hubs notSender) ▸ sharedHub, trimmed⟩
      · exact ⟨member, openFederated_roster known listed _, other, hub, (hubs other) ▸ designated, rfl⟩
    have spreading := @served_spreading keys registries isUuid net url req now accepts original unqueued
    refine ⟨?_, ?_, ?_, ?_, ?_, ?_⟩
    · intro target isQueued
      exact confined target (queued.mp isQueued)
    · intro first second isFirst isSecond same
      obtain ⟨⟨_, _, _, hub, _, rfl⟩, _⟩ := mem_mirrorTargets.mp (queued.mp isFirst)
      obtain ⟨⟨_, _, _, other, _, rfl⟩, _⟩ := mem_mirrorTargets.mp (queued.mp isSecond)
      simpa only [trimEndSlashes_trimmed] using same
    · intro target isQueued
      exact (mem_mirrorTargets.mp (queued.mp isQueued)).2.2
    · intro s copy registries now mirror
      exact receive_mirror mirror s now
    · intro calls
      have counted := (@spreading_run keys isUuid _ _ _ _ _ spreading calls).counted
      have short := length_le_designated nodup_mirrorTargets confined
      omega
    · intro none calls hub other
      refine (alone_run spreading ⟨?_, fun _ _ => rfl⟩ calls).counts hub other
      intro elsewhere apart target
      simpa [Network.served, Function.update_of_ne apart] using none elsewhere apart target

end

theorem helloTo_accepted {db : Db} (members : List String) (unlinked : db.masterOf ann.publicKey = none) :
    Accepts openKeys (fun _ => none) (fun _ => true) db bobsSide (helloTo members) := by
  have expects : Expects (fun _ => true) db bobsSide ann "c" "m1" :=
    { bobsSide_expects with sameMaster := unlinked }
  exact (accepts_known expects rfl rfl).mpr ⟨none, helloTo_claims members, by simp⟩

-- Bob's home hub, and somebody it knows who is in no conversation with him.
def bobsUsers : Table User :=
  ((∅ : Table User).insert "bob" { masterPubkey := some "bobs" }).insert "eve" { masterPubkey := some "eves" }

def bobsDesignations : Table (List String) :=
  ((∅ : Table (List String)).insert "bobs" ["https://here/", "https://second/"]).insert "eves" ["https://evil"]

def bobsHub : HomeHub where
  auth := { db := { users := bobsUsers } }
  convs := bobsSide
  designations := bobsDesignations
  canonicalUrl := some "https://here"

def bobsNetwork : Network where
  hubs url := if url = "https://here" then bobsHub else {}

theorem bobsHub_accepts (members : List String) :
    Accepts openKeys (fun _ => none) (fun _ => true) bobsHub.auth.db bobsHub.convs (helloTo members) :=
  helloTo_accepted members (by decide)

theorem mirrorsRoster_iff_bob :
    MirrorsRoster openKeys (fun _ => true) bobsNetwork "https://here" (helloTo [namedKey 1, "bob"])
      (bobsHub.receive openKeys (fun _ => none) (fun _ => true) (helloTo [namedKey 1, "bob"]) 9).1 := by
  refine (mirrorsRoster_iff openKeys (fun _ => none) (fun _ => true) bobsNetwork "https://here"
    (helloTo [namedKey 1, "bob"]) 9 rfl (bobsHub_accepts _) ?_).mpr ?_
  · intro target
    exact Nested.get_empty _ _
  · intro _ member listed other stranger
    refine absurd ?_ stranger
    obtain rfl | rfl : member = namedKey 1 ∨ member = "bob" := by simpa [helloTo] using listed
    · exact absurd rfl other
    · decide

-- The sending hub lists a stranger, and the message is copied to the stranger's hub.
theorem mirrorsRoster_stranger :
    ¬ MirrorsRoster openKeys (fun _ => true) bobsNetwork "https://here" (helloTo [namedKey 1, "bob", "eve"])
      (bobsHub.receive openKeys (fun _ => none) (fun _ => true) (helloTo [namedKey 1, "bob", "eve"]) 9).1 := by
  intro mirrors
  have accepts := bobsHub_accepts [namedKey 1, "bob", "eve"]
  have queued : Queued bobsHub
      (bobsHub.receive openKeys (fun _ => none) (fun _ => true) (helloTo [namedKey 1, "bob", "eve"]) 9).1 "m1"
      "https://evil" :=
    (queued_iff accepts rfl fun target => Nested.get_empty _ _).mpr (by decide)
  obtain ⟨member, onRoster, other, hub, designated, trimmed⟩ := mirrors.roster "https://evil" queued
  rw [receive_hubsOf other] at designated
  rw [mem_membersOf, receive_members accepts, openFederated_known (by decide), ← mem_membersOf] at onRoster
  have roster : membersOf bobsHub.convs "c" = [namedKey 1, "bob"] := by decide
  rw [show (helloTo [namedKey 1, "bob", "eve"]).conversationId = "c" from rfl, roster] at onRoster
  obtain rfl | rfl : member = namedKey 1 ∨ member = "bob" := by simpa using onRoster
  · exact other rfl
  · have hubs : bobsHub.hubsOf "bob" = ["https://here/", "https://second/"] := by decide
    rw [hubs] at designated
    obtain rfl | rfl : hub = "https://here/" ∨ hub = "https://second/" := by simpa using designated
    · exact absurd trimmed (by decide)
    · exact absurd trimmed (by decide)

end Wavvon.Dms
