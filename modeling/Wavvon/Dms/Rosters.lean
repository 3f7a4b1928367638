import Wavvon.Dms.Members
import Wavvon.Dms.Sending
import Wavvon.Shared.Registers
import Wavvon.Shared.Runs

set_option autoImplicit false

namespace Wavvon.Dms

open Tables (Nested)
open Registers (Write Store Reflects)

/-- Who is on a conversation's roster, beside the ledger of its members' changes. -/
abbrev Roster := Store String Int Bool

def rosterOf (convs : Conversations) (id : String) : Roster where
  value member := (convs.members.get id member).isSome
  newest member := convs.memberChanges.get id member

namespace FederatedMemberChange

def writes (change : FederatedMemberChange) : List (Write String Int Bool) :=
  change.added.map (fun member => ⟨member, change.stamp, true⟩) ++
    change.removed.map fun member => ⟨member, change.stamp, false⟩

-- A change that adds and removes one member adds them: the removal is no newer than the addition.
def Counts (change : FederatedMemberChange) (w : Write String Int Bool) : Prop :=
  w.value = true ∨ w.key ∉ change.added

/-- What no hub that holds the group would refuse outright. -/
structure WellFormed (change : FederatedMemberChange) : Prop where
  nonempty : change.added ≠ [] ∨ change.removed ≠ []
  leaves : ∀ member ∈ change.removed, member = change.actor

theorem wellFormed_iff (change : FederatedMemberChange) :
    change.WellFormed ↔
      (change.added ≠ [] ∨ change.removed ≠ []) ∧ ∀ member ∈ change.removed, member = change.actor :=
  ⟨fun held => ⟨held.nonempty, held.leaves⟩, fun held => ⟨held.1, held.2⟩⟩

instance (change : FederatedMemberChange) : Decidable change.WellFormed :=
  decidable_of_iff _ (wellFormed_iff change).symm

-- The cast changes no date that a clock can be near.
theorem stamp_dated {change : FederatedMemberChange} {bound : Int}
    (dated : (change.issuedAt.toNat : Int) ≤ bound) (small : bound < 9223372036854775808) :
    change.stamp = change.issuedAt.toNat := by
  rw [stamp, Wire.toInt_toInt64, if_pos]
  omega

end FederatedMemberChange

section

variable {conversationId id : String} {issuedAt : Int}

theorem rosterOf_advanced {convs advanced : Conversations} {member : String}
    (advances : advanceLedger convs conversationId member issuedAt = some advanced) :
    ((rosterOf convs conversationId).newest member).all (· < issuedAt) ∧
      advanced = { convs with memberChanges := convs.memberChanges.put conversationId member issuedAt } := by
  unfold advanceLedger at advances
  split at advances
  next newer => exact ⟨newer, (Option.some.inj advances).symm⟩
  next => cases advances

theorem rosterOf_unadvanced {convs : Conversations} {member : String}
    (stays : advanceLedger convs conversationId member issuedAt = none) :
    ¬ ((rosterOf convs conversationId).newest member).all (· < issuedAt) := by
  unfold advanceLedger at stays
  split at stays
  next => cases stays
  next old => exact old

theorem rosterOf_addMember (written : Db × Conversations) (member : String) :
    rosterOf (addMember conversationId issuedAt written member).2 conversationId =
      (rosterOf written.2 conversationId).settle ⟨member, issuedAt, true⟩ := by
  unfold addMember
  split
  next stays => rw [Store.settle, if_neg (rosterOf_unadvanced stays)]
  next advanced advances =>
    obtain ⟨newer, rfl⟩ := rosterOf_advanced advances
    rw [Store.settle, if_pos newer]
    ext1
    · funext other
      dsimp only [rosterOf]
      split
      next row onRoster =>
        by_cases same : other = member
        · subst same
          simpa using congrArg Option.isSome onRoster
        · simp [Function.update_of_ne same]
      next => by_cases same : other = member <;> simp [Nested.get_put, same]
    · funext other
      dsimp only [rosterOf]
      split <;> by_cases same : other = member <;> simp [Nested.get_put, same]

theorem rosterOf_removeMember (convs : Conversations) (member : String) :
    rosterOf (removeMember conversationId issuedAt convs member) conversationId =
      (rosterOf convs conversationId).settle ⟨member, issuedAt, false⟩ := by
  unfold removeMember
  split
  next stays => rw [Store.settle, if_neg (rosterOf_unadvanced stays)]
  next advanced advances =>
    obtain ⟨newer, rfl⟩ := rosterOf_advanced advances
    rw [Store.settle, if_pos newer]
    ext1
    · funext other
      by_cases same : other = member <;> simp [rosterOf, Nested.get_drop, Function.update_apply, same]
    · funext other
      by_cases same : other = member <;> simp [rosterOf, Nested.get_put, Function.update_apply, same]

theorem rosterOf_addMember_other (written : Db × Conversations) (member : String) (other : id ≠ conversationId) :
    rosterOf (addMember conversationId issuedAt written member).2 id = rosterOf written.2 id := by
  unfold addMember
  split
  next => rfl
  next advanced advances =>
    obtain ⟨_, rfl⟩ := rosterOf_advanced advances
    dsimp only
    split <;> simp [rosterOf, Nested.get_put, other]

theorem rosterOf_removeMember_other (convs : Conversations) (member : String) (other : id ≠ conversationId) :
    rosterOf (removeMember conversationId issuedAt convs member) id = rosterOf convs id := by
  unfold removeMember
  split
  next => rfl
  next advanced advances =>
    obtain ⟨_, rfl⟩ := rosterOf_advanced advances
    simp [rosterOf, Nested.get_put, Nested.get_drop, other]

theorem rosterOf_adds (members : List String) (written : Db × Conversations) :
    rosterOf (members.foldl (addMember conversationId issuedAt) written).2 conversationId =
      (members.map fun member => (⟨member, issuedAt, true⟩ : Write String Int Bool)).foldl Store.settle
        (rosterOf written.2 conversationId) := by
  induction members generalizing written with
  | nil => rfl
  | cons member rest ih =>
    rw [List.foldl_cons, ih, rosterOf_addMember]
    rfl

theorem rosterOf_removes (members : List String) (convs : Conversations) :
    rosterOf (members.foldl (removeMember conversationId issuedAt) convs) conversationId =
      (members.map fun member => (⟨member, issuedAt, false⟩ : Write String Int Bool)).foldl Store.settle
        (rosterOf convs conversationId) := by
  induction members generalizing convs with
  | nil => rfl
  | cons member rest ih =>
    rw [List.foldl_cons, ih, rosterOf_removeMember]
    rfl

/-- On its own conversation a change is the writes it stands for, one after the other. -/
theorem rosterOf_apply (db : Db) (convs : Conversations) (change : FederatedMemberChange) :
    rosterOf (applyMemberChange db convs change).2 change.conversationId =
      change.writes.foldl Store.settle (rosterOf convs change.conversationId) := by
  unfold applyMemberChange FederatedMemberChange.writes
  rw [List.foldl_append, rosterOf_removes, rosterOf_adds]

theorem applyMemberChange_keeps {X : Type} (read : Conversations → X) (db : Db) (convs : Conversations)
    (change : FederatedMemberChange)
    (adds : ∀ written member,
      read (addMember change.conversationId change.stamp written member).2 = read written.2)
    (removes : ∀ convs member, read (removeMember change.conversationId change.stamp convs member) = read convs) :
    read (applyMemberChange db convs change).2 = read convs := by
  have added := Runs.run_invariant (fun written => read written.2 = read convs)
    (fun written member held => (adds written member).trans held) (db, convs) rfl change.added
  exact Runs.run_invariant (fun left => read left = read convs)
    (fun left member held => (removes left member).trans held) _ added change.removed

theorem rosterOf_apply_other (db : Db) (convs : Conversations) (change : FederatedMemberChange)
    (other : id ≠ change.conversationId) : rosterOf (applyMemberChange db convs change).2 id = rosterOf convs id :=
  applyMemberChange_keeps (rosterOf · id) db convs change
    (fun written member => rosterOf_addMember_other written member other)
    (fun convs member => rosterOf_removeMember_other convs member other)

theorem addMember_conversations (written : Db × Conversations) (member : String) :
    (addMember conversationId issuedAt written member).2.conversations = written.2.conversations := by
  unfold addMember
  split
  next => rfl
  next advanced advances =>
    obtain ⟨_, rfl⟩ := rosterOf_advanced advances
    dsimp only
    split <;> rfl

theorem removeMember_conversations (convs : Conversations) (member : String) :
    (removeMember conversationId issuedAt convs member).conversations = convs.conversations := by
  unfold removeMember
  split
  next => rfl
  next advanced advances =>
    obtain ⟨_, rfl⟩ := rosterOf_advanced advances
    rfl

theorem applyMemberChange_conversations (db : Db) (convs : Conversations) (change : FederatedMemberChange) :
    (applyMemberChange db convs change).2.conversations = convs.conversations :=
  applyMemberChange_keeps (·.conversations) db convs change addMember_conversations removeMember_conversations

/-- What a change adds to the writes a roster reflects. -/
theorem reflects_apply {initial : String → Bool} {writes : Set (Write String Int Bool)} (db : Db)
    {convs : Conversations} {change : FederatedMemberChange}
    (reflects : Reflects initial writes (rosterOf convs change.conversationId)) :
    Reflects initial (writes ∪ {w | w ∈ change.writes ∧ change.Counts w})
      (rosterOf (applyMemberChange db convs change).2 change.conversationId) := by
  rw [rosterOf_apply, FederatedMemberChange.writes, List.foldl_append]
  have added := Registers.reflects_foldl reflects (fun _ => True)
    (change.added.map fun member => ⟨member, change.stamp, true⟩) (by simp)
  have removed := Registers.reflects_foldl added (fun w => w.key ∉ change.added)
    (change.removed.map fun member => ⟨member, change.stamp, false⟩) (by
      intro w inside again
      obtain ⟨member, _, rfl⟩ := List.mem_map.mp inside
      refine ⟨⟨member, change.stamp, true⟩, .inr ⟨?_, trivial⟩, rfl, le_refl _⟩
      exact List.mem_map_of_mem (not_not.mp again))
  refine Registers.reflects_congr removed ?_
  intro w
  simp only [Set.mem_union, Set.mem_ofPred_eq, List.mem_append, List.mem_map, FederatedMemberChange.Counts]
  grind

end

section

variable {keys : Keys} {registries : Registries} {db : Db} {convs : Conversations} {change : FederatedMemberChange}
  {now : Int}

theorem checkMemberChange_iff :
    checkMemberChange keys registries db convs change "group" now = .ok () ↔
      change.WellFormed ∧ change.stamp ≤ now + MAX_CLOCK_SKEW_SECS ∧
        checkActor keys registries db change = .ok () ∧
          (rosterOf convs change.conversationId).value change.actor = true := by
  unfold checkMemberChange
  rw [if_neg (by simp), FederatedMemberChange.wellFormed_iff]
  constructor
  · intro passed
    obtain ⟨nonempty, passed⟩ := Checks.refuse_ok passed
    obtain ⟨leaves, passed⟩ := Checks.refuse_ok passed
    obtain ⟨dated, passed⟩ := Checks.refuse_ok passed
    obtain ⟨_, signed, passed⟩ := Checks.bind_ok passed
    obtain ⟨onRoster, _⟩ := Checks.permit_ok passed
    refine ⟨⟨by tauto, ?_⟩, by omega, signed, onRoster⟩
    simpa using leaves
  · rintro ⟨⟨nonempty, leaves⟩, dated, signed, onRoster⟩
    rw [if_neg (by tauto), if_neg (by simpa using leaves), if_neg (by omega), signed]
    exact if_pos onRoster

theorem receiveMemberChange_applies {conv : ConvRow} (known : convs.conversations[change.conversationId]? = some conv)
    (passed : checkMemberChange keys registries db convs change conv.convType now = .ok ()) :
    receiveMemberChange keys registries db convs change now =
      ((applyMemberChange db convs change).1, (applyMemberChange db convs change).2, .ok ()) := by
  unfold receiveMemberChange
  rw [known]
  dsimp only
  rw [passed]

-- A change is refused, or is about a conversation this hub does not have, or is applied.
theorem receiveMemberChange_cases (keys : Keys) (registries : Registries) (db : Db) (convs : Conversations)
    (change : FederatedMemberChange) (now : Int) :
    (∃ e, receiveMemberChange keys registries db convs change now = (db, convs, .error e)) ∨
      (convs.conversations[change.conversationId]? = none ∧
        receiveMemberChange keys registries db convs change now = (db, convs, .ok ())) ∨
      ∃ conv, convs.conversations[change.conversationId]? = some conv ∧
        checkMemberChange keys registries db convs change conv.convType now = .ok () ∧
        receiveMemberChange keys registries db convs change now =
          ((applyMemberChange db convs change).1, (applyMemberChange db convs change).2, .ok ()) := by
  unfold receiveMemberChange
  cases known : convs.conversations[change.conversationId]? with
  | none => exact .inr (.inl ⟨rfl, rfl⟩)
  | some conv =>
    dsimp only
    cases checked : checkMemberChange keys registries db convs change conv.convType now with
    | error e => exact .inl ⟨e, rfl⟩
    | ok => exact .inr (.inr ⟨conv, rfl, checked, rfl⟩)

theorem checkActor_congr {after : Db} (same : ∀ key, after.masterOf key = db.masterOf key) :
    checkActor keys registries after change = checkActor keys registries db change := by
  unfold checkActor resolveMasterBinding
  simp only [same]
  split
  next => rfl
  next => rfl
  next master _ => cases db.masterOf change.actor <;> rfl

end

theorem tiered_signedBy (n : UInt8) (bytes : Wire.Bytes) (what : String) :
    verifyTieredSignature openKeys bytes (signedBy n) none (namedKey n) what = .ok none := by
  obtain ⟨signature, decoded, verified⟩ := checkSig_iff.mp (checkSig_signedBy n bytes)
  exact tiered_iff.mpr ⟨signature, decoded, .inl ⟨rfl, rfl, verified⟩⟩

-- A group of ann and bob.
def annsGroup : Conversations where
  conversations := (∅ : Table ConvRow).insert "c" { convType := "group", createdAt := 1 }
  members := Nested.put (Nested.put ∅ "c" (namedKey 1) { joinedAt := 1 }) "c" (namedKey 2) { joinedAt := 1 }

def annAndBob (member : String) : Bool := member = namedKey 2 || member = namedKey 1

theorem both_seated : annAndBob (namedKey 1) = true ∧ annAndBob (namedKey 2) = true := by
  simp only [annAndBob, decide_true, Bool.or_true, Bool.true_or, and_self]

theorem annsGroup_roster : rosterOf annsGroup "c" = ⟨annAndBob, fun _ => none⟩ := by
  ext1
  · funext member
    simp only [rosterOf, annsGroup, Nested.get_put, Nested.get_empty, annAndBob]
    by_cases bob : member = namedKey 2 <;> by_cases ann : member = namedKey 1 <;> simp [bob, ann]
  · funext member
    exact Nested.get_empty "c" member

theorem annsGroup_group : ∃ conv, annsGroup.conversations["c"]? = some conv ∧ conv.convType = "group" :=
  ⟨{ convType := "group", createdAt := 1 }, by simp [annsGroup], rfl⟩

end Wavvon.Dms
