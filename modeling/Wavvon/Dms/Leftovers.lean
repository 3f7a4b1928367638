import Wavvon.Dms.Mirrors

set_option autoImplicit false

namespace Wavvon.Dms

open Std (ExtTreeMap)
open Tables (Nested)

/-- The tables a delivery writes are as they were. -/
structure LeavesNothing (before after : HomeHub) : Prop where
  conversations : after.convs.conversations = before.convs.conversations
  members : after.convs.members = before.convs.members
  users : after.auth.db.users = before.auth.db.users
  messages : after.convs.messages = before.convs.messages
  outbox : after.outbox = before.outbox

-- The schema's foreign key: whoever is on a roster has a row among the users.
def MembersAreUsers (s : HomeHub) : Prop :=
  ∀ id member, (s.convs.members.get id member).isSome = true → member ∈ s.auth.db.users

section

variable {keys : Keys} {registries : Registries} {isUuid : String → Bool} {s : HomeHub} {req : FederatedDmRequest}
  {now : Int} {e : HttpError}

theorem ensureUserStub_known {db : Db} {publicKey : String} (known : publicKey ∈ db.users) (now : Int) :
    (ensureUserStub db publicKey now).users = db.users := by
  refine ExtTreeMap.ext_getElem? fun key => ?_
  simp only [ensureUserStub, ExtTreeMap.getElem?_insertIfNew]
  split
  next fresh =>
    obtain ⟨same, absent⟩ := fresh
    exact absurd known absent
  next => rfl

-- A conversation not seen before is there from then on, whatever comes of the delivery.
theorem openFederated_plants (unknown : req.conversationId ∉ s.convs.conversations) (db : Db) :
    req.conversationId ∈ (openFederated db s.convs req).2.conversations := by
  rw [openFederated_fresh db unknown]
  refine @List.foldlRecOn (Db × Conversations) String (fun seated => req.conversationId ∈ seated.2.conversations)
    req.members _ _ ?_ ?_
  · exact ExtTreeMap.mem_insert_self
  · intro seated planted member _
    rw [seatFederated_conversations]
    exact planted

theorem bindSender_refused {db after : Db} {master : Option String}
    (refused : bindSender keys registries db req master = (after, .error e)) : after = db := by
  unfold bindSender at refused
  cases master with
  | none => cases refused
  | some master =>
    dsimp only at refused
    cases resolved : resolveMasterBinding keys registries db req.sender master req.senderHubUrl with
    | mk bound answer =>
      rw [resolved] at refused
      cases answer with
      | true => cases refused
      | false =>
        cases refused
        unfold resolveMasterBinding at resolved
        split at resolved
        next => exact (Prod.mk.inj resolved).1.symm
        next =>
          split at resolved
          next => exact (Prod.mk.inj resolved).1.symm
          next =>
            split at resolved
            next => cases (Prod.mk.inj resolved).2
            next => exact (Prod.mk.inj resolved).1.symm

/-- What a refused delivery has written: nothing, or all that comes before its signature is looked at. -/
theorem refused_writes {db : Db} {convs : Conversations}
    (refused : (receiveFederatedDm keys registries isUuid db convs req).2.2 = .error e) :
    (isUuid req.messageId = false ∨ ∃ e, recipients convs req = .error e) ∧
        receiveFederatedDm keys registries isUuid db convs req = (db, convs, .error e) ∨
      isUuid req.messageId = true ∧ (∃ members, recipients convs req = .ok members) ∧
        receiveFederatedDm keys registries isUuid db convs req =
          (ensureUserStub (openFederated db convs req).1 req.sender req.createdAt, (openFederated db convs req).2,
          .error e) := by
  unfold receiveFederatedDm at refused ⊢
  cases uuid : isUuid req.messageId with
  | false =>
    simp only [uuid, Bool.not_false, if_true] at refused ⊢
    cases refused
    exact .inl ⟨.inl trivial, rfl⟩
  | true =>
    simp only [uuid, Bool.not_true, Bool.false_eq_true, if_false] at refused ⊢
    by_cases stored : req.messageId ∈ convs.messages
    · rw [if_pos stored] at refused
      cases refused
    · rw [if_neg stored] at refused ⊢
      cases roster : recipients convs req with
      | error other =>
        simp only [roster] at refused ⊢
        cases refused
        exact .inl ⟨.inr ⟨_, rfl⟩, rfl⟩
      | ok members =>
        simp only [roster] at refused ⊢
        refine .inr ⟨trivial, ⟨_, rfl⟩, ?_⟩
        split at refused
        next => cases refused
        next open_ =>
          rw [if_neg open_]
          cases claimed : claimedMaster keys req with
          | error other =>
            simp only [claimed] at refused ⊢
            cases refused
            rfl
          | ok master =>
            simp only [claimed] at refused ⊢
            split at refused
            next after other bound =>
              cases refused
              rw [bindSender_refused bound]
            next => cases refused

theorem receive_refused (refused : (s.receive keys registries isUuid req now).2 = .error e) :
    (receiveFederatedDm keys registries isUuid s.auth.db s.convs req).2.2 = .error e ∧
      (s.receive keys registries isUuid req now).1 =
        s.stores (receiveFederatedDm keys registries isUuid s.auth.db s.convs req).1
          (receiveFederatedDm keys registries isUuid s.auth.db s.convs req).2.1 := by
  have answered : (receiveFederatedDm keys registries isUuid s.auth.db s.convs req).2.2 = .error e := by
    unfold HomeHub.receive at refused
    dsimp only at refused
    split at refused <;> exact refused
  have unstored : (receiveFederatedDm keys registries isUuid s.auth.db s.convs req).2.1.messages = s.convs.messages := by
    rcases refused_writes answered with ⟨_, same⟩ | ⟨_, _, same⟩ <;> simp [same]
  refine ⟨answered, ?_⟩
  unfold HomeHub.receive
  dsimp only
  rw [unstored, if_pos]
  tauto

/--
A refused delivery leaves nothing behind exactly if it is refused before its signature is looked at, or is
about a conversation this hub already has.
-/
theorem leavesNothing_iff (keys : Keys) (registries : Registries) (isUuid : String → Bool) (s : HomeHub)
    (req : FederatedDmRequest) (now : Int) (e : HttpError) (users : MembersAreUsers s)
    (refused : (s.receive keys registries isUuid req now).2 = .error e) :
    LeavesNothing s (s.receive keys registries isUuid req now).1 ↔
      isUuid req.messageId = false ∨ req.sender ∉ req.members ∨ req.conversationId ∈ s.convs.conversations := by
  obtain ⟨answered, after⟩ := receive_refused refused
  rw [after]
  rcases refused_writes answered with ⟨early, same⟩ | ⟨uuid, ⟨members, roster⟩, same⟩
  · rw [same]
    refine iff_of_true ⟨rfl, rfl, rfl, rfl, rfl⟩ ?_
    refine early.imp_right ?_
    rintro ⟨other, roster⟩
    unfold recipients at roster
    by_cases known : req.conversationId ∈ s.convs.conversations
    · exact .inr known
    · rw [if_neg known] at roster
      split at roster
      next => cases roster
      next stranger => exact .inl stranger
  · rw [same]
    unfold recipients at roster
    by_cases known : req.conversationId ∈ s.convs.conversations
    · rw [if_pos known] at roster
      have opened : openFederated s.auth.db s.convs req = (s.auth.db, s.convs) := openFederated_known known
      refine iff_of_true ?_ (.inr (.inr known))
      rw [opened]
      refine ⟨rfl, rfl, ?_, rfl, rfl⟩
      refine ensureUserStub_known (users req.conversationId req.sender ?_) _
      split at roster
      next onRoster => exact onRoster
      next => cases roster
    · rw [if_neg known] at roster
      have listed : req.sender ∈ req.members := by
        split at roster
        next listed => exact listed
        next => cases roster
      refine iff_of_false ?_ ?_
      · intro nothing
        have planted := openFederated_plants known s.auth.db
        rw [show (openFederated s.auth.db s.convs req).2.conversations = s.convs.conversations from
          nothing.conversations] at planted
        exact known planted
      · simp [uuid, listed, known]

end

-- A request to a conversation nobody here has seen, and signed by nobody.
def unsignedHello : FederatedDmRequest :=
  { messageId := "m1", conversationId := "c", convType := "group", sender := "mallory"
    members := ["mallory", "ann", "bob"], content := some "hi", createdAt := 5 }

def unsignedTo (s : HomeHub) : HomeHub × Except HttpError Unit :=
  s.receive openKeys (fun _ => none) (fun _ => true) unsignedHello 5

-- A hub where the conversation is known, with mallory in it.
def knowingHub : HomeHub where
  auth := { db := { users := (∅ : Table User).insert "mallory" {} } }
  convs :=
    { conversations := (∅ : Table ConvRow).insert "c" { convType := "group", createdAt := 1 }
      members := Nested.put ∅ "c" "mallory" { joinedAt := 1 } }

theorem leavesNothing_iff_known : LeavesNothing knowingHub (unsignedTo knowingHub).1 := by
  refine (leavesNothing_iff openKeys (fun _ => none) (fun _ => true) knowingHub unsignedHello 5
    (400, "plaintext federated DM requires a sender signature") ?_ ?_).mpr ?_
  · intro id member onRoster
    simp only [knowingHub, Nested.get_put, Nested.get_empty] at onRoster ⊢
    split at onRoster
    next here => simp [here.2]
    next => cases onRoster
  · decide
  · exact .inr (.inr (by decide))

-- The request is refused, and its conversation and roster are there.
theorem leavesNothing_planted :
    (unsignedTo {}).2 = .error (400, "plaintext federated DM requires a sender signature") ∧
      ¬ LeavesNothing {} (unsignedTo {}).1 := by
  refine ⟨by decide, ?_⟩
  intro nothing
  have planted : "c" ∈ (unsignedTo {}).1.convs.conversations := by decide
  rw [nothing.conversations] at planted
  exact absurd planted (by decide)

end Wavvon.Dms
