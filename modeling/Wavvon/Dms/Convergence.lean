import Wavvon.Dms.Rosters

set_option autoImplicit false

namespace Wavvon.Dms

open Tables (Nested)
open Registers (Write Store Reflects Agree)

/-- A hub, and the changes it has accepted so far. -/
structure Replica where
  db : Db := {}
  convs : Conversations
  accepted : List FederatedMemberChange := []

-- A change as it reaches a hub, by that hub's clock.
structure Delivery where
  change : FederatedMemberChange
  now : Int

namespace FederatedMemberChange

def Names (change : FederatedMemberChange) (member : String) : Prop :=
  member ∈ change.added ∨ member ∈ change.removed

-- What this conversation's roster can take.
def Concerns (change : FederatedMemberChange) (id : String) : Prop :=
  change.conversationId = id ∧ change.WellFormed

end FederatedMemberChange

section

variable (keys : Keys) (registries : Registries)

def Replica.Refuses (s : Replica) (delivery : Delivery) : Prop :=
  (receiveMemberChange keys registries s.db s.convs delivery.change delivery.now).2.2 ≠ .ok ()

def Replica.receive (s : Replica) (delivery : Delivery) : Replica :=
  match receiveMemberChange keys registries s.db s.convs delivery.change delivery.now with
  | (db, convs, .error _) => { s with db := db, convs := convs }
  | (db, convs, .ok _) => { db := db, convs := convs, accepted := delivery.change :: s.accepted }

-- Accepted by the end, or refused once and for all.
def Settled (s : Replica) (order : List Delivery) (change : FederatedMemberChange) : Prop :=
  change ∈ (Runs.run (Replica.receive keys registries) s order).accepted ∨
    ∃ front delivery rest, order = front ++ delivery :: rest ∧ delivery.change = change ∧
      ∀ mid, mid <+: delivery :: rest →
        (Runs.run (Replica.receive keys registries) s (front ++ mid)).Refuses keys registries delivery

/-- The date of a delivered change is within the skew bound, as an integer. -/
structure Given (changes : List FederatedMemberChange) (delivery : Delivery) : Prop where
  given : delivery.change ∈ changes
  dated : (delivery.change.issuedAt.toNat : Int) ≤ delivery.now + MAX_CLOCK_SKEW_SECS
  clock : delivery.now + MAX_CLOCK_SKEW_SECS < 9223372036854775808

/-- An order in which a hub is given the changes, again and again until each has its answer. -/
structure Exchanged (changes : List FederatedMemberChange) (s : Replica) (order : List Delivery) : Prop where
  given : ∀ delivery ∈ order, Given changes delivery
  settled : ∀ change ∈ changes, Settled keys registries s order change

/-- A hub that has the group with this roster, and nothing in its ledger yet. -/
structure Holds (changes : List FederatedMemberChange) (id : String) (roster : String → Bool) (s : Replica) : Prop where
  group : ∃ conv, s.convs.conversations[id]? = some conv ∧ conv.convType = "group"
  seats : ∀ member, (s.convs.members.get id member).isSome = roster member
  ledger : ∀ member, s.convs.memberChanges.get id member = none
  signed : ∀ change ∈ changes, checkActor keys registries s.db change = .ok ()
  fresh : s.accepted = []

end

section

variable (id : String) (roster : String → Bool)

-- Who has been on the roster at some time.
def Been (s : Replica) (member : String) : Prop :=
  roster member = true ∨ ∃ change ∈ s.accepted, change.Concerns id ∧ member ∈ change.added

-- A change that is still to be accepted does not find its actor gone.
def Timely (s : Replica) (delivery : Delivery) : Prop :=
  delivery.change.Concerns id → Been id roster s delivery.change.actor → delivery.change ∉ s.accepted →
    (s.convs.members.get id delivery.change.actor).isSome

variable (changes : List FederatedMemberChange)

inductive Heeded : String → Prop
  | seated {member : String} : roster member = true → Heeded member
  | added {change : FederatedMemberChange} {member : String} : change ∈ changes → change.Concerns id →
      Heeded change.actor → member ∈ change.added → Heeded member

/-- A change by somebody who is on the roster at some time. -/
structure Heard (change : FederatedMemberChange) : Prop where
  given : change ∈ changes
  concerns : change.Concerns id
  reached : Heeded id roster changes change.actor

-- No two changes add and remove a member at the same time, unless a later one decides.
def Untied : Prop :=
  ∀ first second member, Heard id roster changes first → Heard id roster changes second →
    member ∈ first.added → member ∈ second.removed → first.issuedAt = second.issuedAt →
      member ∈ second.added ∨
        ∃ later, Heard id roster changes later ∧ later.Names member ∧ first.issuedAt < later.issuedAt

/-- Two hubs with one roster and one ledger, where each member's newest change stands. -/
structure Converged (first second : Replica) : Prop where
  sameRoster : ∀ member,
    (first.convs.members.get id member).isSome = (second.convs.members.get id member).isSome
  sameLedger : ∀ member, first.convs.memberChanges.get id member = second.convs.memberChanges.get id member
  newest : ∀ member change, Heard id roster changes change → change.Names member →
    (∀ other, Heard id roster changes other → other.Names member → other.issuedAt ≤ change.issuedAt) →
      (first.convs.members.get id member).isSome = decide (member ∈ change.added) ∧
        first.convs.memberChanges.get id member = some (change.issuedAt.toNat : Int)

end

def writesOf (taken : FederatedMemberChange → Prop) : Set (Write String Int Bool) :=
  {w | ∃ change, taken change ∧ w ∈ change.writes ∧ change.Counts w}

/-- What the history of a hub says about its roster. -/
structure Tracks (keys : Keys) (registries : Registries) (changes : List FederatedMemberChange) (id : String)
    (roster : String → Bool) (s : Replica) : Prop where
  group : ∃ conv, s.convs.conversations[id]? = some conv ∧ conv.convType = "group"
  signed : ∀ change ∈ changes, checkActor keys registries s.db change = .ok ()
  reflects : Reflects roster (writesOf fun change => change ∈ s.accepted ∧ change.Concerns id) (rosterOf s.convs id)
  heard : ∀ change ∈ s.accepted, change.Concerns id → Heard id roster changes change
  been : ∀ change ∈ s.accepted, change.Concerns id → Been id roster s change.actor
  stamped : ∀ change ∈ s.accepted, change.stamp = change.issuedAt.toNat

section

variable {keys : Keys} {registries : Registries} {changes : List FederatedMemberChange} {id : String}
  {roster : String → Bool} {s : Replica} {delivery : Delivery}

theorem writesOf_congr (taken same : FederatedMemberChange → Prop) (equal : ∀ change, taken change ↔ same change) :
    writesOf taken = writesOf same := by
  obtain rfl : taken = same := funext fun change => propext (equal change)
  rfl

theorem mem_writes {change : FederatedMemberChange} {w : Write String Int Bool} :
    w ∈ change.writes ↔ w.stamp = change.stamp ∧
      (w.value = true ∧ w.key ∈ change.added ∨ w.value = false ∧ w.key ∈ change.removed) := by
  obtain ⟨key, stamp, value⟩ := w
  simp only [FederatedMemberChange.writes, List.mem_append, List.mem_map, Write.mk.injEq]
  cases value <;> grind

theorem tracks_initial (holds : Holds keys registries changes id roster s) :
    Tracks keys registries changes id roster s where
  group := holds.group
  signed := holds.signed
  reflects := by
    have value : (rosterOf s.convs id).value = roster := funext holds.seats
    have started := Registers.reflects_initial (s := rosterOf s.convs id) holds.ledger
    rw [value] at started
    refine Registers.reflects_congr started ?_
    intro w
    simp [writesOf, holds.fresh]
  heard change inside := by
    rw [holds.fresh] at inside
    cases inside
  been change inside := by
    rw [holds.fresh] at inside
    cases inside
  stamped change inside := by
    rw [holds.fresh] at inside
    cases inside

/-- What one delivery does: nothing, or a change of another conversation, or a change of this one. -/
theorem receive_cases (keys : Keys) (registries : Registries) (delivery : Delivery)
    (group : ∃ conv, s.convs.conversations[id]? = some conv ∧ conv.convType = "group") :
    (s.Refuses keys registries delivery ∧ s.receive keys registries delivery = s) ∨
      (delivery.change.conversationId ≠ id ∧
        ∃ db convs, s.receive keys registries delivery = ⟨db, convs, delivery.change :: s.accepted⟩ ∧
          rosterOf convs id = rosterOf s.convs id ∧ convs.conversations = s.convs.conversations ∧
          ∀ key, db.masterOf key = s.db.masterOf key) ∨
      (delivery.change.Concerns id ∧ (rosterOf s.convs id).value delivery.change.actor = true ∧
        s.receive keys registries delivery =
          ⟨(applyMemberChange s.db s.convs delivery.change).1, (applyMemberChange s.db s.convs delivery.change).2,
            delivery.change :: s.accepted⟩) := by
  rcases receiveMemberChange_cases keys registries s.db s.convs delivery.change delivery.now with
    ⟨e, refused⟩ | ⟨unknown, same⟩ | ⟨conv, known, passed, applied⟩
  · left
    constructor
    · unfold Replica.Refuses
      rw [refused]
      simp
    · unfold Replica.receive
      rw [refused]
  · right; left
    obtain ⟨conv, known, _⟩ := group
    have other : delivery.change.conversationId ≠ id := by
      rintro rfl
      rw [known] at unknown
      cases unknown
    refine ⟨other, s.db, s.convs, ?_, rfl, rfl, fun _ => rfl⟩
    unfold Replica.receive
    rw [same]
  · right
    have received : s.receive keys registries delivery =
        ⟨(applyMemberChange s.db s.convs delivery.change).1, (applyMemberChange s.db s.convs delivery.change).2,
          delivery.change :: s.accepted⟩ := by
      unfold Replica.receive
      rw [applied]
    by_cases here : delivery.change.conversationId = id
    · right
      obtain ⟨row, found, isGroup⟩ := group
      rw [here, found] at known
      cases known
      rw [isGroup] at passed
      obtain ⟨wellFormed, _, _, onRoster⟩ := checkMemberChange_iff.mp passed
      rw [here] at onRoster
      exact ⟨⟨here, wellFormed⟩, onRoster, received⟩
    · left
      exact ⟨here, _, _, received, rosterOf_apply_other _ _ _ (Ne.symm here), applyMemberChange_conversations _ _ _,
        (applyMemberChange_kept s.db s.convs delivery.change).2⟩

theorem been_onRoster (tracks : Tracks keys registries changes id roster s) {member : String}
    (onRoster : (rosterOf s.convs id).value member = true) : Been id roster s member := by
  cases taken : (rosterOf s.convs id).newest member with
  | none =>
    left
    rw [← tracks.reflects.untouched member taken]
    exact onRoster
  | some stamp =>
    obtain ⟨w, ⟨change, ⟨accepted, concerns⟩, wrote, _⟩, rfl, _, value⟩ := tracks.reflects.written member stamp taken
    rw [onRoster] at value
    rcases (mem_writes.mp wrote).2 with ⟨_, added⟩ | ⟨removes, _⟩
    · exact .inr ⟨change, accepted, concerns, added⟩
    · rw [value] at removes
      cases removes

theorem reaches_been (tracks : Tracks keys registries changes id roster s) {member : String}
    (been : Been id roster s member) : Heeded id roster changes member := by
  rcases been with seated | ⟨change, accepted, concerns, added⟩
  · exact .seated seated
  · have heard := tracks.heard change accepted concerns
    exact .added heard.given concerns heard.reached added

theorem been_mono {later : Replica} (kept : s.accepted ⊆ later.accepted) {member : String}
    (been : Been id roster s member) : Been id roster later member := by
  rcases been with seated | ⟨change, accepted, found⟩
  · exact .inl seated
  · exact .inr ⟨change, kept accepted, found⟩

-- A change this hub accepts, whichever conversation it is about.
theorem tracks_accept (given : Given changes delivery) (tracks : Tracks keys registries changes id roster s)
    {db : Db} {convs : Conversations} (masters : ∀ key, db.masterOf key = s.db.masterOf key)
    (conversations : convs.conversations = s.convs.conversations)
    (onRoster : delivery.change.Concerns id → (rosterOf s.convs id).value delivery.change.actor = true)
    (reflects : Reflects roster
      (writesOf fun change => change ∈ delivery.change :: s.accepted ∧ change.Concerns id) (rosterOf convs id)) :
    Tracks keys registries changes id roster ⟨db, convs, delivery.change :: s.accepted⟩ where
  group := by
    rw [conversations]
    exact tracks.group
  signed change inside := (checkActor_congr masters).trans (tracks.signed change inside)
  reflects := reflects
  heard change inside concerns := by
    rcases List.mem_cons.mp inside with rfl | earlier
    · exact ⟨given.given, concerns, reaches_been tracks (been_onRoster tracks (onRoster concerns))⟩
    · exact tracks.heard change earlier concerns
  been change inside concerns := by
    refine been_mono (s := s) (List.subset_cons_self _ _) ?_
    rcases List.mem_cons.mp inside with rfl | earlier
    · exact been_onRoster tracks (onRoster concerns)
    · exact tracks.been change earlier concerns
  stamped change inside := by
    rcases List.mem_cons.mp inside with rfl | earlier
    · exact FederatedMemberChange.stamp_dated given.dated given.clock
    · exact tracks.stamped change earlier

theorem tracks_receive (given : Given changes delivery) (tracks : Tracks keys registries changes id roster s) :
    Tracks keys registries changes id roster (s.receive keys registries delivery) := by
  rcases receive_cases keys registries delivery tracks.group with
    ⟨_, same⟩ | ⟨other, db, convs, received, sameRoster, conversations, masters⟩ | ⟨concerns, onRoster, received⟩
  · rw [same]
    exact tracks
  · have unconcerned : ¬ delivery.change.Concerns id := fun concerns => other concerns.1
    rw [received]
    refine tracks_accept given tracks masters conversations (fun concerns => absurd concerns unconcerned) ?_
    rw [sameRoster]
    refine Registers.reflects_congr tracks.reflects ?_
    have same : writesOf (fun change => change ∈ delivery.change :: s.accepted ∧ change.Concerns id) =
        writesOf fun change => change ∈ s.accepted ∧ change.Concerns id := by
      apply writesOf_congr
      grind
    intro w
    rw [same]
  · obtain rfl := concerns.1
    rw [received]
    refine tracks_accept given tracks (applyMemberChange_kept s.db s.convs delivery.change).2
      (applyMemberChange_conversations _ _ _) (fun _ => onRoster) ?_
    refine Registers.reflects_congr (reflects_apply s.db tracks.reflects) ?_
    intro w
    simp only [writesOf, Set.mem_ofPred_eq, Set.mem_union, List.mem_cons]
    constructor
    · rintro ⟨change, ⟨rfl | earlier, about⟩, wrote⟩
      · exact .inr wrote
      · exact .inl ⟨change, ⟨earlier, about⟩, wrote⟩
    · rintro (⟨change, ⟨earlier, about⟩, wrote⟩ | wrote)
      · exact ⟨change, ⟨.inr earlier, about⟩, wrote⟩
      · exact ⟨delivery.change, ⟨.inl rfl, concerns⟩, wrote⟩

theorem tracks_run (tracks : Tracks keys registries changes id roster s) {order : List Delivery}
    (given : ∀ delivery ∈ order, Given changes delivery) :
    Tracks keys registries changes id roster (Runs.run (Replica.receive keys registries) s order) := by
  have met : Runs.Meets (Replica.receive keys registries) (fun _ delivery => Given changes delivery) s order :=
    Runs.meets_of_forall (fun _ => given) s
  exact met.invariant (Tracks keys registries changes id roster)
    (fun _ _ tracks given => tracks_receive given tracks) tracks

theorem accepted_grows (s : Replica) (delivery : Delivery) :
    s.accepted ⊆ (s.receive keys registries delivery).accepted := by
  unfold Replica.receive
  split <;> simp

theorem receive_new {change : FederatedMemberChange}
    (accepted : change ∈ (s.receive keys registries delivery).accepted) :
    change = delivery.change ∨ change ∈ s.accepted := by
  unfold Replica.receive at accepted
  split at accepted
  next => exact .inr accepted
  next => exact List.mem_cons.mp accepted

theorem run_accepted (s : Replica) (order : List Delivery) :
    s.accepted ⊆ (Runs.run (Replica.receive keys registries) s order).accepted :=
  Runs.run_invariant (fun later => s.accepted ⊆ later.accepted)
    (fun later delivery held => List.Subset.trans held (accepted_grows later delivery)) s (List.Subset.refl _) order

-- Whoever a delivery puts on the list of those who have been on the roster, it puts on the roster.
theorem been_receive (given : Given changes delivery) (tracks : Tracks keys registries changes id roster s)
    {member : String} (new : ¬ Been id roster s member)
    (been : Been id roster (s.receive keys registries delivery) member) :
    (rosterOf (s.receive keys registries delivery).convs id).value member = true := by
  have after := tracks_receive given tracks
  rcases been with seated | ⟨change, accepted, concerns, added⟩
  · exact absurd (.inl seated) new
  · have wrote : (⟨member, change.stamp, true⟩ : Write String Int Bool) ∈
        writesOf fun change => change ∈ (s.receive keys registries delivery).accepted ∧ change.Concerns id :=
      ⟨change, ⟨accepted, concerns⟩, mem_writes.mpr ⟨rfl, .inl ⟨rfl, added⟩⟩, .inl rfl⟩
    obtain ⟨stamp, taken, _⟩ := after.reflects.newest _ wrote
    obtain ⟨w, ⟨other, ⟨otherAccepted, about⟩, otherWrote, counts⟩, rfl, _, value⟩ :=
      after.reflects.written member stamp taken
    rw [← value]
    -- Nobody who has not been on the roster has removed themselves from it.
    by_contra removes
    obtain ⟨_, removed⟩ := ((mem_writes.mp otherWrote).2).resolve_left fun adds => removes adds.1
    have actor := about.2.leaves w.key removed
    have unbeen : other ∉ s.accepted := by
      intro earlier
      rw [actor] at new
      exact new (tracks.been other earlier about)
    have unadded : change ∉ s.accepted := fun earlier => new (.inr ⟨change, earlier, concerns, added⟩)
    have first := (receive_new accepted).resolve_right unadded
    have second := (receive_new otherAccepted).resolve_right unbeen
    have same : other = change := second.trans first.symm
    subst same
    exact (counts.resolve_left removes) added

theorem seated_between (tracks : Tracks keys registries changes id roster s) {rest : List Delivery}
    (given : ∀ delivery ∈ rest, Given changes delivery) {member : String} (new : ¬ Been id roster s member)
    (been : Been id roster (Runs.run (Replica.receive keys registries) s rest) member) :
    ∃ mid, mid <+: rest ∧
      (rosterOf (Runs.run (Replica.receive keys registries) s mid).convs id).value member = true := by
  induction rest generalizing s with
  | nil => exact absurd been new
  | cons delivery rest ih =>
    have here := given delivery List.mem_cons_self
    by_cases now : Been id roster (s.receive keys registries delivery) member
    · exact ⟨[delivery], ⟨rest, rfl⟩, been_receive here tracks new now⟩
    · obtain ⟨mid, inside, onRoster⟩ := ih (tracks_receive here tracks)
        (fun later member => given later (List.mem_cons_of_mem delivery member)) now been
      exact ⟨delivery :: mid, List.cons_prefix_cons.mpr ⟨rfl, inside⟩, onRoster⟩

-- A hub refuses nothing from those on its roster.
theorem accepts_onRoster (given : Given changes delivery) (tracks : Tracks keys registries changes id roster s)
    (concerns : delivery.change.Concerns id) (onRoster : (rosterOf s.convs id).value delivery.change.actor = true) :
    ¬ s.Refuses keys registries delivery := by
  obtain ⟨conv, known, isGroup⟩ := tracks.group
  obtain rfl := concerns.1
  have stamped := FederatedMemberChange.stamp_dated given.dated given.clock
  have passed : checkMemberChange keys registries s.db s.convs delivery.change conv.convType delivery.now = .ok () := by
    rw [isGroup]
    refine checkMemberChange_iff.mpr ⟨concerns.2, ?_, tracks.signed _ given.given, onRoster⟩
    rw [stamped]
    exact given.dated
  intro refused
  exact refused (by rw [receiveMemberChange_applies known passed])

theorem receive_seated (given : Given changes delivery) (tracks : Tracks keys registries changes id roster s)
    (concerns : delivery.change.Concerns id) (onRoster : (rosterOf s.convs id).value delivery.change.actor = true) :
    s.receive keys registries delivery =
      ⟨(applyMemberChange s.db s.convs delivery.change).1, (applyMemberChange s.db s.convs delivery.change).2,
        delivery.change :: s.accepted⟩ := by
  rcases receive_cases keys registries delivery tracks.group with
    ⟨refused, _⟩ | ⟨other, _⟩ | ⟨_, _, received⟩
  · exact absurd refused (accepts_onRoster given tracks concerns onRoster)
  · exact absurd concerns.1 other
  · exact received

theorem receive_unseated (tracks : Tracks keys registries changes id roster s)
    (here : delivery.change.conversationId = id)
    (unseated : (rosterOf s.convs id).value delivery.change.actor = false) :
    s.Refuses keys registries delivery ∧ s.receive keys registries delivery = s := by
  rcases receive_cases keys registries delivery tracks.group with
    refused | ⟨other, _⟩ | ⟨_, onRoster, _⟩
  · exact refused
  · exact absurd here other
  · rw [unseated] at onRoster
    cases onRoster

section

variable {other : Delivery} (tracks : Tracks keys registries changes id roster s) (given : Given changes delivery)
  (concerns : delivery.change.Concerns id) (seated : (rosterOf s.convs id).value delivery.change.actor = true)
include tracks given concerns seated

-- Two deliveries, each of which finds its actor on the roster.
theorem pair_seated (givenOther : Given changes other) (concernsOther : other.change.Concerns id)
    (seatedOther : (rosterOf (applyMemberChange s.db s.convs delivery.change).2 id).value other.change.actor = true) :
    rosterOf (Runs.run (Replica.receive keys registries) s [delivery, other]).convs id =
        (delivery.change.writes ++ other.change.writes).foldl Store.settle (rosterOf s.convs id) ∧
      (∀ change, change = delivery.change ∨ change = other.change →
        Settled keys registries s [delivery, other] change) ∧
      Runs.Meets (Replica.receive keys registries) (Timely id roster) s [delivery, other] := by
  have received := receive_seated given tracks concerns seated
  have after := tracks_receive given tracks
  have there : (rosterOf (s.receive keys registries delivery).convs id).value other.change.actor = true := by
    rw [received]
    exact seatedOther
  have receivedOther := receive_seated givenOther after concernsOther there
  refine ⟨?_, ?_, fun _ _ _ => seated, fun _ _ _ => there, trivial⟩
  · obtain rfl := concerns.1
    rw [Runs.run_cons, Runs.run_cons, Runs.run_nil, receivedOther, List.foldl_append, ← rosterOf_apply s.db, received]
    rw [← concernsOther.1, rosterOf_apply]
  · intro change which
    left
    rw [Runs.run_cons, Runs.run_cons, Runs.run_nil, receivedOther, received]
    rcases which with rfl | rfl <;> simp

-- Two deliveries, of which the second finds its actor gone.
theorem pair_unseated (here : other.change.conversationId = id)
    (unseated : (rosterOf (applyMemberChange s.db s.convs delivery.change).2 id).value other.change.actor = false) :
    rosterOf (Runs.run (Replica.receive keys registries) s [delivery, other]).convs id =
        delivery.change.writes.foldl Store.settle (rosterOf s.convs id) ∧
      ∀ change, change = delivery.change ∨ change = other.change →
        Settled keys registries s [delivery, other] change := by
  have received := receive_seated given tracks concerns seated
  have there : (rosterOf (s.receive keys registries delivery).convs id).value other.change.actor = false := by
    rw [received]
    exact unseated
  obtain ⟨refused, stays⟩ := receive_unseated (tracks_receive given tracks) here there
  constructor
  · obtain rfl := concerns.1
    rw [Runs.run_cons, Runs.run_cons, Runs.run_nil, stays, received, rosterOf_apply]
  · rintro change (rfl | rfl)
    · left
      rw [Runs.run_cons, Runs.run_cons, Runs.run_nil, stays, received]
      exact List.mem_cons_self
    · refine .inr ⟨[delivery], other, [], rfl, rfl, ?_⟩
      intro mid within
      rcases List.prefix_cons_iff.mp within with rfl | ⟨rest, rfl, nothing⟩
      · exact refused
      · rw [List.prefix_nil.mp nothing, List.singleton_append, Runs.run_cons, Runs.run_cons, Runs.run_nil, stays]
        exact refused

end

section

variable {order : List Delivery}

-- Whoever has been on the roster by the end has been heard.
theorem settled_accepted (tracks : Tracks keys registries changes id roster s)
    (exchanged : Exchanged keys registries changes s order)
    (timely : Runs.Meets (Replica.receive keys registries) (Timely id roster) s order)
    {change : FederatedMemberChange} (given : change ∈ changes) (concerns : change.Concerns id)
    (been : Been id roster (Runs.run (Replica.receive keys registries) s order) change.actor) :
    change ∈ (Runs.run (Replica.receive keys registries) s order).accepted := by
  rcases exchanged.settled change given with accepted | ⟨front, delivery, rest, rfl, rfl, refused⟩
  · exact accepted
  · have earlier : ∀ later ∈ front, Given changes later := fun later inside =>
      exchanged.given later (List.mem_append_left _ inside)
    have later : ∀ later ∈ delivery :: rest, Given changes later := fun later inside =>
      exchanged.given later (List.mem_append_right _ inside)
    have reached := tracks_run tracks earlier
    have here := (Runs.Meets.append.mp timely).2.1
    rw [Runs.run_append] at been ⊢
    by_cases accepted : delivery.change ∈ (Runs.run (Replica.receive keys registries) s front).accepted
    · exact run_accepted _ _ accepted
    · exfalso
      have unseated : ∀ mid, mid <+: delivery :: rest →
          (rosterOf (Runs.run (Replica.receive keys registries) s (front ++ mid)).convs id).value
            delivery.change.actor ≠ true := by
        intro mid inside onRoster
        have there : ∀ later ∈ front ++ mid, Given changes later := by
          intro other member
          rcases List.mem_append.mp member with before | after
          · exact earlier other before
          · exact later other (inside.subset after)
        exact accepts_onRoster (later delivery List.mem_cons_self) (tracks_run tracks there) concerns onRoster
          (refused mid inside)
      by_cases before : Been id roster (Runs.run (Replica.receive keys registries) s front) delivery.change.actor
      · have onRoster := here concerns before accepted
        exact unseated [] List.nil_prefix (by rw [List.append_nil]; exact onRoster)
      · obtain ⟨mid, inside, onRoster⟩ := seated_between reached later before been
        refine unseated mid inside ?_
        rw [Runs.run_append]
        exact onRoster

theorem heard_accepted (tracks : Tracks keys registries changes id roster s)
    (exchanged : Exchanged keys registries changes s order)
    (timely : Runs.Meets (Replica.receive keys registries) (Timely id roster) s order)
    {change : FederatedMemberChange} (heard : Heard id roster changes change) :
    change ∈ (Runs.run (Replica.receive keys registries) s order).accepted := by
  have been : ∀ member, Heeded id roster changes member →
      Been id roster (Runs.run (Replica.receive keys registries) s order) member := by
    intro member reaches
    induction reaches with
    | seated onRoster => exact .inl onRoster
    | added given concerns _ added ih =>
      exact .inr ⟨_, settled_accepted tracks exchanged timely given concerns ih, concerns, added⟩
  exact settled_accepted tracks exchanged timely heard.given heard.concerns (been _ heard.reached)

/-- By the end a roster reflects the changes of those who have been on it, and no others. -/
theorem reflects_heard (tracks : Tracks keys registries changes id roster s)
    (exchanged : Exchanged keys registries changes s order)
    (timely : Runs.Meets (Replica.receive keys registries) (Timely id roster) s order) :
    Reflects roster (writesOf (Heard id roster changes))
        (rosterOf (Runs.run (Replica.receive keys registries) s order).convs id) ∧
      ∀ change, Heard id roster changes change → change.stamp = change.issuedAt.toNat := by
  have after := tracks_run tracks exchanged.given
  constructor
  · have same := writesOf_congr (Heard id roster changes)
      (fun change =>
        change ∈ (Runs.run (Replica.receive keys registries) s order).accepted ∧ change.Concerns id)
      (fun change => ⟨fun heard => ⟨heard_accepted tracks exchanged timely heard, heard.concerns⟩,
        fun found => after.heard change found.1 found.2⟩)
    rw [same]
    exact after.reflects
  · intro change heard
    exact after.stamped change (heard_accepted tracks exchanged timely heard)

end

-- What a change says about a member it names.
theorem names_writes {taken : FederatedMemberChange → Prop} {change : FederatedMemberChange} {member : String}
    (inside : taken change) (names : change.Names member) :
    (⟨member, change.stamp, decide (member ∈ change.added)⟩ : Write String Int Bool) ∈ writesOf taken := by
  refine ⟨change, inside, mem_writes.mpr ⟨rfl, ?_⟩, ?_⟩
  · by_cases added : member ∈ change.added
    · exact .inl ⟨decide_eq_true added, added⟩
    · exact .inr ⟨decide_eq_false added, names.resolve_left added⟩
  · by_cases added : member ∈ change.added
    · exact .inl (decide_eq_true added)
    · exact .inr added

theorem writes_names {change : FederatedMemberChange} {w : Write String Int Bool} (wrote : w ∈ change.writes) :
    change.Names w.key :=
  (mem_writes.mp wrote).2.imp And.right And.right

section

variable (stamped : ∀ change, Heard id roster changes change → change.stamp = change.issuedAt.toNat)
include stamped

theorem stamp_le {first second : FederatedMemberChange} (heard : Heard id roster changes first)
    (again : Heard id roster changes second) : first.stamp ≤ second.stamp ↔ first.issuedAt ≤ second.issuedAt := by
  rw [stamped first heard, stamped second again, UInt64.le_iff_toNat_le]
  omega

theorem agree_untied (untied : Untied id roster changes) : Agree (writesOf (Heard id roster changes)) := by
  have decided : ∀ v ∈ writesOf (Heard id roster changes), ∀ w ∈ writesOf (Heard id roster changes),
      v.key = w.key → v.stamp = w.stamp → v.value = true → w.value = false →
        ∃ u ∈ writesOf (Heard id roster changes), u.key = w.key ∧ w.stamp < u.stamp := by
    rintro v ⟨first, heard, wrote, _⟩ w ⟨second, again, removes, counts⟩ sameKey sameStamp adds removed
    have added := ((mem_writes.mp wrote).2.resolve_right (by simp [adds])).2
    have left := ((mem_writes.mp removes).2.resolve_left (by simp [removed])).2
    have firstStamp := (mem_writes.mp wrote).1
    have secondStamp := (mem_writes.mp removes).1
    rw [sameKey] at added
    have together : first.issuedAt = second.issuedAt := by
      refine UInt64.le_antisymm ((stamp_le stamped heard again).mp ?_) ((stamp_le stamped again heard).mp ?_) <;> omega
    rcases untied first second w.key heard again added left together with both | ⟨later, heardLater, names, newer⟩
    · exact absurd both (counts.resolve_left (by simp [removed]))
    · refine ⟨_, names_writes heardLater names, rfl, ?_⟩
      have above : ¬ later.stamp ≤ first.stamp := by
        rw [stamp_le stamped heardLater heard]
        exact UInt64.not_le.mpr newer
      dsimp only
      omega
  intro v inside w member sameKey sameStamp
  cases adds : v.value with
  | true =>
    cases adds' : w.value with
    | true => exact .inl rfl
    | false => exact .inr (decided v inside w member sameKey sameStamp adds adds')
  | false =>
    cases adds' : w.value with
    | true =>
      obtain ⟨u, newer, same, later⟩ := decided w member v inside sameKey.symm sameStamp.symm adds' adds
      exact .inr ⟨u, newer, same.trans sameKey, sameStamp ▸ later⟩
    | false => exact .inl rfl

end

end

/--
Two hubs with one roster, given the same changes in any two orders, end with one roster and one ledger:
provided no change finds its actor gone, and no two changes add and remove a member at the same time.
-/
theorem rosters_converge (keys : Keys) (registries otherRegistries : Registries) (changes : List FederatedMemberChange)
    (id : String) (roster : String → Bool) (first second : Replica) (order otherOrder : List Delivery)
    (firstHolds : Holds keys registries changes id roster first)
    (secondHolds : Holds keys otherRegistries changes id roster second)
    (firstExchanged : Exchanged keys registries changes first order)
    (secondExchanged : Exchanged keys otherRegistries changes second otherOrder)
    (firstTimely : Runs.Meets (Replica.receive keys registries) (Timely id roster) first order)
    (secondTimely : Runs.Meets (Replica.receive keys otherRegistries) (Timely id roster) second otherOrder)
    (untied : Untied id roster changes) :
    Converged id roster changes (Runs.run (Replica.receive keys registries) first order)
      (Runs.run (Replica.receive keys otherRegistries) second otherOrder) := by
  obtain ⟨reflects, stamped⟩ := reflects_heard (tracks_initial firstHolds) firstExchanged firstTimely
  obtain ⟨again, _⟩ := reflects_heard (tracks_initial secondHolds) secondExchanged secondTimely
  have agree := agree_untied stamped untied
  have same := reflects.unique again agree
  refine ⟨fun member => (same member).1, fun member => (same member).2, ?_⟩
  intro member change heard names greatest
  rw [← stamped change heard]
  refine reflects.decided agree (names_writes heard names) ?_
  rintro v ⟨other, otherHeard, wrote, _⟩ sameKey
  have named := writes_names wrote
  rw [sameKey] at named
  rw [(mem_writes.mp wrote).1]
  exact (stamp_le stamped otherHeard heard).mpr (greatest other otherHeard named)

theorem Converged.value {id : String} {roster : String → Bool} {changes : List FederatedMemberChange}
    {first second : Replica} (converged : Converged id roster changes first second) (member : String) :
    (rosterOf first.convs id).value member = (rosterOf second.convs id).value member :=
  converged.sameRoster member

-- A change to conversation "c", signed by the actor's own key.
def signedChange (n : UInt8) (added removed : List String) (issuedAt : UInt64) : FederatedMemberChange :=
  { conversationId := "c", actor := namedKey n, added := added, removed := removed, issuedAt := issuedAt
    signature := signedBy n }

theorem checkActor_signedChange (registries : Registries) (db : Db) (n : UInt8) (added removed : List String)
    (issuedAt : UInt64) : checkActor openKeys registries db (signedChange n added removed issuedAt) = .ok () := by
  have own := tiered_signedBy n (signedChange n added removed issuedAt).signingBytes "member change"
  unfold checkActor
  dsimp only [signedChange] at own ⊢
  rw [own]

def annsHub : Replica where
  convs := annsGroup

-- Ann lets eve in, and one of the two leaves.
def eveJoins : Delivery := ⟨signedChange 1 ["eve"] [] 7, 100⟩

def leaves (n : UInt8) : Delivery := ⟨signedChange n [] [namedKey n] 10, 100⟩

def changesWith (n : UInt8) : List FederatedMemberChange := [eveJoins.change, (leaves n).change]

theorem annsHub_roster : rosterOf annsHub.convs "c" = ⟨annAndBob, fun _ => none⟩ := annsGroup_roster

theorem annsHub_holds (registries : Registries) (n : UInt8) :
    Holds openKeys registries (changesWith n) "c" annAndBob annsHub where
  group := annsGroup_group
  seats member := congrFun (congrArg Store.value annsHub_roster) member
  ledger member := congrFun (congrArg Store.newest annsHub_roster) member
  signed change inside := by
    rcases List.mem_pair.mp inside with rfl | rfl <;> exact checkActor_signedChange registries _ _ _ _ _
  fresh := rfl

theorem changesWith_given (n : UInt8) : Given (changesWith n) eveJoins ∧ Given (changesWith n) (leaves n) :=
  ⟨⟨by simp [changesWith], by decide, by decide⟩,
    ⟨by simp [changesWith], by simp [leaves, signedChange, MAX_CLOCK_SKEW_SECS], by simp [leaves, MAX_CLOCK_SKEW_SECS]⟩⟩

theorem changesWith_concern (n : UInt8) : eveJoins.change.Concerns "c" ∧ (leaves n).change.Concerns "c" :=
  ⟨⟨rfl, .inl (by decide), by decide⟩, ⟨rfl, .inr (by simp [leaves, signedChange]), by simp [leaves, signedChange]⟩⟩

theorem names_apart : namedKey 1 ≠ "eve" ∧ namedKey 2 ≠ "eve" ∧ namedKey 1 ≠ namedKey 2 := by
  decide

section

variable (n : UInt8)

theorem tracks_annsHub : Tracks openKeys (fun _ => none) (changesWith n) "c" annAndBob annsHub :=
  tracks_initial (annsHub_holds (fun _ => none) n)

theorem given_of_mem {order : List Delivery} (inside : ∀ delivery ∈ order, delivery = eveJoins ∨ delivery = leaves n) :
    ∀ delivery ∈ order, Given (changesWith n) delivery := by
  intro delivery member
  rcases inside delivery member with rfl | rfl
  · exact (changesWith_given n).1
  · exact (changesWith_given n).2

theorem eveJoins_writes : eveJoins.change.writes = [⟨"eve", eveJoins.change.stamp, true⟩] := rfl

theorem leaves_writes : (leaves n).change.writes = [⟨namedKey n, (leaves n).change.stamp, false⟩] := rfl

theorem settle_fresh (value : String → Bool) (w : Write String Int Bool) (member : String) :
    (Store.settle ⟨value, fun _ => none⟩ w).value member = if member = w.key then w.value else value member := by
  simp [Store.settle, Function.update_apply]

-- The roster once eve is in, and the one once somebody has left.
theorem afterEve_value (member : String) :
    (rosterOf (applyMemberChange annsHub.db annsHub.convs eveJoins.change).2 "c").value member =
      if member = "eve" then true else annAndBob member := by
  have after := rosterOf_apply annsHub.db annsHub.convs eveJoins.change
  rw [show eveJoins.change.conversationId = "c" from rfl, annsHub_roster, eveJoins_writes] at after
  rw [after]
  exact settle_fresh annAndBob _ member

theorem afterLeave_value (member : String) :
    (rosterOf (applyMemberChange annsHub.db annsHub.convs (leaves n).change).2 "c").value member =
      if member = namedKey n then false else annAndBob member := by
  have after := rosterOf_apply annsHub.db annsHub.convs (leaves n).change
  rw [show (leaves n).change.conversationId = "c" from rfl, annsHub_roster, leaves_writes] at after
  rw [after]
  exact settle_fresh annAndBob _ member

theorem ann_seated : (rosterOf annsHub.convs "c").value eveJoins.change.actor = true := by
  rw [annsHub_roster]
  exact both_seated.1

variable {n}

theorem eveFirst (stays : annAndBob (namedKey n) = true) (other : namedKey n ≠ "eve") :
    (rosterOf (Runs.run (Replica.receive openKeys fun _ => none) annsHub [eveJoins, leaves n]).convs "c").value
        "eve" = true ∧
      Exchanged openKeys (fun _ => none) (changesWith n) annsHub [eveJoins, leaves n] ∧
      Runs.Meets (Replica.receive openKeys fun _ => none) (Timely "c" annAndBob) annsHub [eveJoins, leaves n] := by
  have here : (rosterOf (applyMemberChange annsHub.db annsHub.convs eveJoins.change).2 "c").value (namedKey n) =
      true := by
    rw [afterEve_value, if_neg other]
    exact stays
  obtain ⟨after, settled, timely⟩ := pair_seated (tracks_annsHub n) (changesWith_given n).1 (changesWith_concern n).1
    ann_seated (changesWith_given n).2 (changesWith_concern n).2 here
  refine ⟨?_, ⟨given_of_mem n (by simp), fun change inside => settled change (List.mem_pair.mp inside)⟩, timely⟩
  rw [after, List.foldl_append, annsHub_roster, eveJoins_writes, leaves_writes]
  refine (Store.settle_other _ (w := ⟨namedKey n, (leaves n).change.stamp, false⟩) other.symm).1.trans ?_
  exact (settle_fresh annAndBob _ "eve").trans (if_pos rfl)

-- No change adds whom another removes: eve joins, and she is neither ann nor bob.
theorem changesWith_untied (other : namedKey n ≠ "eve") : Untied "c" annAndBob (changesWith n) := by
  intro first second member heard again added removed _
  exfalso
  have eve : member = "eve" := by
    rcases List.mem_pair.mp heard.given with rfl | rfl
    · simpa [eveJoins, signedChange] using added
    · simp [leaves, signedChange] at added
  have gone : member = namedKey n := by
    rcases List.mem_pair.mp again.given with rfl | rfl
    · simp [eveJoins, signedChange] at removed
    · simpa [leaves, signedChange] using removed
  exact other (gone.symm.trans eve)

end

theorem bobFirst :
    Exchanged openKeys (fun _ => none) (changesWith 2) annsHub [leaves 2, eveJoins] ∧
      Runs.Meets (Replica.receive openKeys fun _ => none) (Timely "c" annAndBob) annsHub [leaves 2, eveJoins] := by
  have bobSeated : (rosterOf annsHub.convs "c").value (leaves 2).change.actor = true := by
    rw [annsHub_roster]
    exact both_seated.2
  have annStays : (rosterOf (applyMemberChange annsHub.db annsHub.convs (leaves 2).change).2 "c").value
      eveJoins.change.actor = true := by
    rw [afterLeave_value]
    exact (if_neg names_apart.2.2).trans both_seated.1
  obtain ⟨_, settled, timely⟩ := pair_seated (tracks_annsHub 2) (changesWith_given 2).2 (changesWith_concern 2).2
    bobSeated (changesWith_given 2).1 (changesWith_concern 2).1 annStays
  exact ⟨⟨given_of_mem 2 (by simp), fun change inside => settled change (List.mem_pair.mp inside).symm⟩, timely⟩

theorem rosters_converge_bob :
    Converged "c" annAndBob (changesWith 2)
      (Runs.run (Replica.receive openKeys fun _ => none) annsHub [eveJoins, leaves 2])
      (Runs.run (Replica.receive openKeys fun _ => none) annsHub [leaves 2, eveJoins]) := by
  obtain ⟨_, exchanged, timely⟩ := eveFirst both_seated.2 names_apart.2.1
  exact rosters_converge openKeys (fun _ => none) (fun _ => none) (changesWith 2) "c" annAndBob annsHub annsHub _ _
    (annsHub_holds _ 2) (annsHub_holds _ 2) exchanged bobFirst.1 timely bobFirst.2
    (changesWith_untied names_apart.2.1)

-- Where ann's leaving arrives first, the change she made before it is refused for good.
theorem rosters_diverge :
    Holds openKeys (fun _ => none) (changesWith 1) "c" annAndBob annsHub ∧
      Exchanged openKeys (fun _ => none) (changesWith 1) annsHub [eveJoins, leaves 1] ∧
      Exchanged openKeys (fun _ => none) (changesWith 1) annsHub [leaves 1, eveJoins] ∧
      ¬ Converged "c" annAndBob (changesWith 1)
        (Runs.run (Replica.receive openKeys fun _ => none) annsHub [eveJoins, leaves 1])
        (Runs.run (Replica.receive openKeys fun _ => none) annsHub [leaves 1, eveJoins]) := by
  obtain ⟨eveIn, exchanged, _⟩ := eveFirst both_seated.1 names_apart.1
  have gone : (rosterOf (applyMemberChange annsHub.db annsHub.convs (leaves 1).change).2 "c").value
      eveJoins.change.actor = false := by
    rw [afterLeave_value]
    exact if_pos rfl
  obtain ⟨after, settled⟩ := pair_unseated (tracks_annsHub 1) (changesWith_given 1).2 (changesWith_concern 1).2
    ann_seated (changesWith_concern 1).1.1 gone
  refine ⟨annsHub_holds _ 1, exchanged,
    ⟨given_of_mem 1 (by simp), fun change inside => settled change (List.mem_pair.mp inside).symm⟩, ?_⟩
  intro converged
  have eveOut : (rosterOf (Runs.run (Replica.receive openKeys fun _ => none) annsHub [leaves 1, eveJoins]).convs
      "c").value "eve" = false := by
    rw [after, annsHub_roster, leaves_writes]
    refine (settle_fresh annAndBob _ "eve").trans ?_
    rw [if_neg names_apart.1.symm]
    simp [annAndBob, names_apart.1.symm, names_apart.2.1.symm]
  have same := converged.value "eve"
  rw [eveIn, eveOut] at same
  cases same

end Wavvon.Dms
