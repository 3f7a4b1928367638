import Wavvon.Dms.Links
import Wavvon.Shared.Checks

set_option autoImplicit false

namespace Wavvon.Dms

open Wire (Bytes)
open Tables (Nested)

def MAX_CLOCK_SKEW_SECS : Int := 300

structure FederatedMemberChange where
  conversationId : String
  actor : String
  added : List String := []
  removed : List String := []
  issuedAt : UInt64
  signature : String
  signerCert : Option SubkeyCert := none
  deriving DecidableEq, Repr

namespace FederatedMemberChange

def signingBytes (change : FederatedMemberChange) : Bytes :=
  Wire.dmMemberChangeSigningBytes change.conversationId change.actor change.added change.removed change.issuedAt

-- `issued_at as i64`.
def stamp (change : FederatedMemberChange) : Int := change.issuedAt.toInt64.toInt

end FederatedMemberChange

-- Only a change newer than the recorded one moves the ledger.
def advanceLedger (convs : Conversations) (conversationId member : String) (issuedAt : Int) : Option Conversations :=
  if (convs.memberChanges.get conversationId member).all (· < issuedAt) then
    some { convs with memberChanges := convs.memberChanges.put conversationId member issuedAt }
  else none

def addMember (conversationId : String) (issuedAt : Int) (written : Db × Conversations) (member : String) :
    Db × Conversations :=
  match advanceLedger written.2 conversationId member issuedAt with
  | none => written
  | some convs =>
    (ensureUserStub written.1 member issuedAt,
      match convs.members.get conversationId member with
      | some _ => convs
      | none => { convs with members := convs.members.put conversationId member { joinedAt := issuedAt } })

def removeMember (conversationId : String) (issuedAt : Int) (convs : Conversations) (member : String) :
    Conversations :=
  match advanceLedger convs conversationId member issuedAt with
  | none => convs
  | some convs => { convs with members := convs.members.drop conversationId member }

section

variable (keys : Keys) (registries : Registries)

-- The database is threaded through for the binding, which is asked for with no hub to fetch it from.
def checkActor (db : Db) (change : FederatedMemberChange) : Except HttpError Unit :=
  match verifyTieredSignature keys change.signingBytes change.signature change.signerCert change.actor
    "member change" with
  | .error e => .error (401, e.2)
  | .ok none => .ok ()
  | .ok (some master) =>
    if master = change.actor ∨ (resolveMasterBinding keys registries db change.actor master none).2 then .ok ()
    else .error (401, "signer_cert master is not bound to the actor")

def checkMemberChange (db : Db) (convs : Conversations) (change : FederatedMemberChange) (convType : String)
    (now : Int) : Except HttpError Unit :=
  if convType ≠ "group" then .error (400, "Only a group has members to change")
  else if change.added = [] ∧ change.removed = [] then .error (400, "Empty member change")
  else if change.removed.any (· ≠ change.actor) then .error (403, "A member can only remove themselves")
  else if now + MAX_CLOCK_SKEW_SECS < change.stamp then .error (400, "member change issued_at is in the future")
  else do
    checkActor keys registries db change
    if (convs.members.get change.conversationId change.actor).isSome then .ok ()
    else .error (403, "The actor is not a member of this conversation")

def applyMemberChange (db : Db) (convs : Conversations) (change : FederatedMemberChange) : Db × Conversations :=
  let added := change.added.foldl (addMember change.conversationId change.stamp) (db, convs)
  (added.1, change.removed.foldl (removeMember change.conversationId change.stamp) added.2)

-- Of a conversation it has never seen, a hub has no roster to correct.
def receiveMemberChange (db : Db) (convs : Conversations) (change : FederatedMemberChange) (now : Int) :
    Db × Conversations × Except HttpError Unit :=
  match convs.conversations[change.conversationId]? with
  | none => (db, convs, .ok ())
  | some conv =>
    match checkMemberChange keys registries db convs change conv.convType now with
    | .error e => (db, convs, .error e)
    | .ok _ =>
      let written := applyMemberChange db convs change
      (written.1, written.2, .ok ())

end

section

variable {keys : Keys} {registries : Registries}

theorem advanceLedger_kept {convs advanced : Conversations} {conversationId member : String} {issuedAt : Int}
    (advances : advanceLedger convs conversationId member issuedAt = some advanced) :
    advanced.messages = convs.messages := by
  unfold advanceLedger at advances
  split at advances
  next =>
    cases advances
    rfl
  next => cases advances

theorem addMember_kept (conversationId : String) (issuedAt : Int) (written : Db × Conversations) (member : String) :
    (addMember conversationId issuedAt written member).2.messages = written.2.messages ∧
      ∀ key, (addMember conversationId issuedAt written member).1.masterOf key = written.1.masterOf key := by
  unfold addMember
  split
  next => exact ⟨rfl, fun _ => rfl⟩
  next convs advances =>
    have kept := advanceLedger_kept advances
    refine ⟨?_, ensureUserStub_masterOf written.1 member issuedAt⟩
    dsimp only
    split <;> exact kept

theorem removeMember_kept (conversationId : String) (issuedAt : Int) (convs : Conversations) (member : String) :
    (removeMember conversationId issuedAt convs member).messages = convs.messages := by
  unfold removeMember
  split
  next => rfl
  next advanced advances =>
    have kept := advanceLedger_kept advances
    exact kept

theorem applyMemberChange_kept (db : Db) (convs : Conversations) (change : FederatedMemberChange) :
    (applyMemberChange db convs change).2.messages = convs.messages ∧
      ∀ key, (applyMemberChange db convs change).1.masterOf key = db.masterOf key := by
  have adds : ∀ (members : List String) (written : Db × Conversations),
      (members.foldl (addMember change.conversationId change.stamp) written).2.messages = written.2.messages ∧
        ∀ key, (members.foldl (addMember change.conversationId change.stamp) written).1.masterOf key =
          written.1.masterOf key := by
    intro members
    induction members with
    | nil =>
      intro written
      exact ⟨rfl, fun _ => rfl⟩
    | cons member rest ih =>
      intro written
      have first := addMember_kept change.conversationId change.stamp written member
      have others := ih (addMember change.conversationId change.stamp written member)
      exact ⟨others.1.trans first.1, fun key => (others.2 key).trans (first.2 key)⟩
  have removes : ∀ (members : List String) (convs : Conversations),
      (members.foldl (removeMember change.conversationId change.stamp) convs).messages = convs.messages := by
    intro members
    induction members with
    | nil =>
      intro convs
      rfl
    | cons member rest ih =>
      intro convs
      exact (ih _).trans (removeMember_kept _ _ convs member)
  have added := adds change.added (db, convs)
  exact ⟨(removes change.removed _).trans added.1, added.2⟩

theorem receiveMemberChange_kept (db : Db) (convs : Conversations) (change : FederatedMemberChange) (now : Int) :
    (receiveMemberChange keys registries db convs change now).2.1.messages = convs.messages ∧
      ∀ key, (receiveMemberChange keys registries db convs change now).1.masterOf key = db.masterOf key := by
  unfold receiveMemberChange
  split
  next => exact ⟨rfl, fun _ => rfl⟩
  next =>
    split
    next => exact ⟨rfl, fun _ => rfl⟩
    next => exact applyMemberChange_kept db convs change

-- A roster moves only when every check of the change has passed.
theorem roster_moved {db : Db} {convs : Conversations} {change : FederatedMemberChange} {now : Int}
    (moved : (receiveMemberChange keys registries db convs change now).2.1.members ≠ convs.members) :
    checkActor keys registries db change = .ok () := by
  unfold receiveMemberChange at moved
  split at moved
  next => exact absurd rfl moved
  next conv found =>
    split at moved
    next => exact absurd rfl moved
    next passed checked =>
      unfold checkMemberChange at checked
      obtain ⟨_, checked⟩ := Checks.refuse_ok checked
      obtain ⟨_, checked⟩ := Checks.refuse_ok checked
      obtain ⟨_, checked⟩ := Checks.refuse_ok checked
      obtain ⟨_, checked⟩ := Checks.refuse_ok checked
      obtain ⟨_, actor, _⟩ := Checks.bind_ok checked
      exact actor

end

end Wavvon.Dms
