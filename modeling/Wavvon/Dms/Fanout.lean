import Wavvon.Dms.Arrival
import Wavvon.Dms.Rosters

set_option autoImplicit false

namespace Wavvon.Dms

open Tables (Nested)
open Registers (Write Store)

/-- The actor's signature over a change, as a client sends it with an add or a leave. -/
structure SignedMemberChange where
  issuedAt : UInt64
  signature : String
  signerCert : Option SubkeyCert := none
  deriving DecidableEq, Repr

def SignedMemberChange.change (signed : SignedMemberChange) (conversationId : String) (user : AuthUser)
    (added removed : List String) : FederatedMemberChange :=
  { conversationId := conversationId, actor := user.publicKey, added := added, removed := removed
    issuedAt := signed.issuedAt, signature := signed.signature, signerCert := signed.signerCert }

/-- The hub a call is made on, what the call answers, and the change it tells other hubs of. -/
structure Told where
  auth : AuthState
  convs : Conversations
  announced : Option FederatedMemberChange := none
  queue : List (String × FederatedMemberChange) := []
  answer : Except HttpError Unit

def recordLocal (convs : Conversations) (conversationId : String) (members : List String) (issuedAt : Int) :
    Conversations :=
  members.foldl (fun convs member => (advanceLedger convs conversationId member issuedAt).getD convs) convs

section

variable (keys : Keys)

def verifyLocal (user : AuthUser) (change : FederatedMemberChange) (now : Int) : Except HttpError Unit :=
  if now + MAX_CLOCK_SKEW_SECS < change.stamp then .error (400, "member change issued_at is in the future")
  else do
    let certMaster ← verifyTieredSignature keys change.signingBytes change.signature change.signerCert user.publicKey
      "member change"
    bindCertMaster certMaster user

def federatedChange (conversationId : String) (user : AuthUser) (added removed : List String)
    (signed : SignedMemberChange) (now : Int) : Except HttpError FederatedMemberChange := do
  verifyLocal keys user (signed.change conversationId user added removed) now
  return signed.change conversationId user added removed

-- One row for each hub of a member other than the actor.
def fanOut (directory : Directory) (s : AuthState) (convs : Conversations) (change : FederatedMemberChange) :
    List (String × FederatedMemberChange) :=
  let members := (convs.members[change.conversationId]?.getD ∅).toList.filter (·.1 ≠ change.actor)
  let urls := members.flatMap fun member => deliveryUrls keys directory s member.1 member.2
  (urls.dedup.mergeSort (· ≤ ·)).map (·, change)

def settle (directory : Directory) (s : AuthState) (convs : Conversations) (conversationId member : String)
    (change : Option FederatedMemberChange) (now : Int) : Told :=
  let recorded := recordLocal convs conversationId [member] ((change.map (·.stamp)).getD now)
  { auth := s, convs := recorded, announced := change
    queue := (change.map (fanOut keys directory s recorded)).getD []
    answer := .ok () }

def addConversationMember (directory : Directory) (s : AuthState) (convs : Conversations) (user : AuthUser)
    (conversationId publicKey : String) (signed : Option SignedMemberChange) (now : Int) : Told :=
  let refused (e : HttpError) : Told := { auth := s, convs := convs, answer := .error e }
  if ¬ (convs.members.get conversationId user.publicKey).isSome then
    refused (403, "Not a member of this conversation")
  else
    match convs.conversations[conversationId]? with
    | none => refused (404, "Conversation not found")
    | some conv =>
      if conv.convType ≠ "group" then refused (400, "Cannot add members to a 1-on-1 DM")
      else if (convs.members.get conversationId publicKey).isSome then
        { auth := s, convs := convs, answer := .ok () }
      else
        match signed.mapM fun signed => federatedChange keys conversationId user [publicKey] [] signed now with
        | .error e => refused e
        | .ok change =>
          let stubbed := { s with db := ensureUserStub s.db publicKey now }
          let added := { convs with members := convs.members.put conversationId publicKey { joinedAt := now } }
          settle keys directory stubbed added conversationId publicKey change now

def removeConversationMember (directory : Directory) (s : AuthState) (convs : Conversations) (user : AuthUser)
    (conversationId pubkey : String) (signed : Option SignedMemberChange) (now : Int) : Told :=
  let refused (e : HttpError) : Told := { auth := s, convs := convs, answer := .error e }
  if pubkey ≠ user.publicKey then refused (403, "You can only remove yourself from a conversation")
  else if ¬ (convs.members.get conversationId user.publicKey).isSome then
    refused (404, "Not a member of this conversation")
  else
    match convs.conversations[conversationId]? with
    | none => refused (404, "Conversation not found")
    | some conv =>
      if conv.convType ≠ "group" then refused (400, "Cannot leave a 1-on-1 DM")
      else
        match signed.mapM fun signed => federatedChange keys conversationId user [] [pubkey] signed now with
        | .error e => refused e
        | .ok change =>
          let left := { convs with members := convs.members.drop conversationId pubkey }
          settle keys directory s left conversationId pubkey change now

end

inductive MemberMove where
  | add
  | leave
  deriving DecidableEq, Repr

/-- A call with a signed change, by the clock here, and by that of the other hub when the change gets there. -/
structure MemberCall where
  move : MemberMove
  user : AuthUser
  member : String
  signed : SignedMemberChange
  now : Int
  arrives : Int

namespace MemberCall

def change (call : MemberCall) (id : String) : FederatedMemberChange :=
  match call.move with
  | .add => call.signed.change id call.user [call.member] []
  | .leave => call.signed.change id call.user [] [call.member]

def told (call : MemberCall) (keys : Keys) (directory : Directory) (s : AuthState) (convs : Conversations)
    (id : String) : Told :=
  match call.move with
  | .add => addConversationMember keys directory s convs call.user id call.member (some call.signed) call.now
  | .leave => removeConversationMember keys directory s convs call.user id call.member (some call.signed) call.now

def write (call : MemberCall) (id : String) : Write String Int Bool :=
  ⟨call.member, (call.change id).stamp, call.move = .add⟩

/-- The caller is a member, the call would move somebody, and the change is one this hub accepts. -/
structure Moves (call : MemberCall) (keys : Keys) (id : String) (convs : Conversations) : Prop where
  onRoster : (rosterOf convs id).value call.user.publicKey = true
  moves : match call.move with
    | .add => (rosterOf convs id).value call.member = false
    | .leave => call.member = call.user.publicKey
  verified : verifyLocal keys call.user (call.change id) call.now = .ok ()

end MemberCall

/-- The hub the calls are made on, and a hub that is told. -/
structure Hubs where
  auth : AuthState
  convs : Conversations
  remoteDb : Db
  remoteConvs : Conversations

section

variable (keys : Keys) (registries : Registries) (directory : Directory) (id : String)

-- Each change is delivered before the next call.
def Hubs.call (s : Hubs) (call : MemberCall) : Hubs :=
  let told := call.told keys directory s.auth s.convs id
  match told.announced with
  | none => { s with auth := told.auth, convs := told.convs }
  | some change =>
    let landed := receiveMemberChange keys registries s.remoteDb s.remoteConvs change call.arrives
    { auth := told.auth, convs := told.convs, remoteDb := landed.1, remoteConvs := landed.2.1 }

/-- A change that is announced is the newest about its member, and one the other hub accepts. -/
structure Lands (s : Hubs) (call : MemberCall) : Prop where
  newest : ((rosterOf s.convs id).newest call.member).all (· < (call.change id).stamp) = true
  dated : (call.change id).stamp ≤ call.arrives + MAX_CLOCK_SKEW_SECS
  bound : ∀ cert ∈ call.signed.signerCert,
    cert.masterPubkey = call.user.publicKey ∨ s.remoteDb.masterOf call.user.publicKey = some cert.masterPubkey

def LandsIfMoving (s : Hubs) (call : MemberCall) : Prop :=
  call.Moves keys id s.convs → Lands id s call

/-- Both hubs have the group, with one roster and one ledger. -/
structure InStep (s : Hubs) : Prop where
  group : ∃ conv, s.convs.conversations[id]? = some conv ∧ conv.convType = "group"
  remoteGroup : ∃ conv, s.remoteConvs.conversations[id]? = some conv ∧ conv.convType = "group"
  same : rosterOf s.convs id = rosterOf s.remoteConvs id

end

section

variable {keys : Keys} {registries : Registries} {directory : Directory} {id : String} {s : Hubs} {call : MemberCall}
  {auth : AuthState} {convs : Conversations}

theorem rosterOf_recordLocal (convs : Conversations) (id member : String) (issuedAt : Int) :
    (rosterOf (recordLocal convs id [member] issuedAt) id).value = (rosterOf convs id).value ∧
      ∀ value, (rosterOf (recordLocal convs id [member] issuedAt) id).newest =
        ((rosterOf convs id).settle ⟨member, issuedAt, value⟩).newest := by
  unfold recordLocal
  rw [List.foldl_cons, List.foldl_nil]
  cases advances : advanceLedger convs id member issuedAt with
  | none =>
    refine ⟨rfl, fun value => ?_⟩
    rw [Store.settle, if_neg (rosterOf_unadvanced advances)]
    rfl
  | some advanced =>
    obtain ⟨newer, rfl⟩ := rosterOf_advanced advances
    refine ⟨rfl, fun value => ?_⟩
    rw [Store.settle, if_pos newer]
    funext other
    by_cases same : other = member <;> simp [rosterOf, Nested.get_put, Function.update_apply, same]

-- The roster is written first, and the ledger only records the date.
theorem recordLocal_force {written : Conversations} (w : Write String Int Bool)
    (value : (rosterOf written id).value = Function.update (rosterOf convs id).value w.key w.value)
    (newest : (rosterOf written id).newest = (rosterOf convs id).newest) :
    rosterOf (recordLocal written id [w.key] w.stamp) id = (rosterOf convs id).force w := by
  obtain ⟨kept, dated⟩ := rosterOf_recordLocal written id w.key w.stamp
  ext1
  · exact kept.trans value
  · exact (dated w.value).trans (Store.settle_newest_congr newest rfl rfl)

theorem recordLocal_conversations (member : String) (issuedAt : Int) :
    (recordLocal convs id [member] issuedAt).conversations = convs.conversations := by
  unfold recordLocal
  rw [List.foldl_cons, List.foldl_nil]
  cases advances : advanceLedger convs id member issuedAt with
  | none => rfl
  | some advanced =>
    obtain ⟨_, rfl⟩ := rosterOf_advanced advances
    rfl

section

variable {user : AuthUser} (added removed : List String) {signed : SignedMemberChange} {now : Int}

theorem federatedChange_ok
    (verified : verifyLocal keys user (signed.change id user added removed) now = .ok ()) :
    ((some signed).mapM fun signed => federatedChange keys id user added removed signed now) =
      .ok (some (signed.change id user added removed)) := by
  simp only [Option.mapM_some, federatedChange, verified]
  rfl

theorem federatedChange_refused
    (refused : verifyLocal keys user (signed.change id user added removed) now ≠ .ok ()) :
    ∃ e, ((some signed).mapM fun signed => federatedChange keys id user added removed signed now) = .error e := by
  cases answer : verifyLocal keys user (signed.change id user added removed) now with
  | ok => exact absurd answer refused
  | error e =>
    refine ⟨e, ?_⟩
    simp only [Option.mapM_some, federatedChange, answer]
    rfl

end

-- A call that moves nobody leaves the hub as it is, and nobody hears of it.
theorem told_stays (directory : Directory) (auth : AuthState)
    (group : ∃ conv, convs.conversations[id]? = some conv ∧ conv.convType = "group")
    (stays : ¬ call.Moves keys id convs) :
    (call.told keys directory auth convs id).announced = none ∧
    (call.told keys directory auth convs id).convs = convs := by
  obtain ⟨conv, known, isGroup⟩ := group
  obtain ⟨move, user, member, signed, now, arrives⟩ := call
  by_cases onRoster : (convs.members.get id user.publicKey).isSome = true
  · cases move with
    | add =>
      by_cases member' : (convs.members.get id member).isSome = true
      · simp [MemberCall.told, addConversationMember, onRoster, known, isGroup, member']
      · have refused : verifyLocal keys user (signed.change id user [member] []) now ≠ .ok () := by
          intro verified
          exact stays ⟨onRoster, by simpa [rosterOf] using member', verified⟩
        obtain ⟨e, refused⟩ := federatedChange_refused [member] [] refused
        simp [MemberCall.told, addConversationMember, onRoster, known, isGroup, member', refused]
    | leave =>
      by_cases own : member = user.publicKey
      · subst own
        have refused : verifyLocal keys user (signed.change id user [] [user.publicKey]) now ≠ .ok () := by
          intro verified
          exact stays ⟨onRoster, rfl, verified⟩
        obtain ⟨e, refused⟩ := federatedChange_refused [] [user.publicKey] refused
        simp [MemberCall.told, removeConversationMember, onRoster, known, isGroup, refused]
      · simp [MemberCall.told, removeConversationMember, own]
  · cases move with
    | add => simp [MemberCall.told, addConversationMember, onRoster]
    | leave =>
      by_cases own : member = user.publicKey <;> simp [MemberCall.told, removeConversationMember, own, onRoster]

theorem told_moves (directory : Directory) (auth : AuthState)
    (group : ∃ conv, convs.conversations[id]? = some conv ∧ conv.convType = "group")
    (moves : call.Moves keys id convs) :
    (call.told keys directory auth convs id).announced = some (call.change id) ∧
      rosterOf (call.told keys directory auth convs id).convs id = (rosterOf convs id).force (call.write id) ∧
      (call.told keys directory auth convs id).convs.conversations = convs.conversations := by
  obtain ⟨conv, known, isGroup⟩ := group
  obtain ⟨onRoster, moves, verified⟩ := moves
  obtain ⟨move, user, member, signed, now, arrives⟩ := call
  have there : (convs.members.get id user.publicKey).isSome = true := onRoster
  cases move with
  | add =>
    have accepted := federatedChange_ok [member] [] verified
    have apart : (convs.members.get id member).isSome = false := moves
    have told : (MemberCall.mk .add user member signed now arrives).told keys directory auth convs id =
        settle keys directory { auth with db := ensureUserStub auth.db member now }
          { convs with members := convs.members.put id member { joinedAt := now } } id member
          (some (signed.change id user [member] [])) now := by
      simp [MemberCall.told, addConversationMember, there, known, isGroup, apart, accepted]
    rw [told]
    refine ⟨rfl, recordLocal_force ⟨member, _, true⟩ ?_ rfl, recordLocal_conversations member _⟩
    funext other
    by_cases same : other = member <;> simp [rosterOf, Nested.get_put, same]
  | leave =>
    have accepted := federatedChange_ok [] [member] verified
    obtain rfl : member = user.publicKey := moves
    have told : (MemberCall.mk .leave user user.publicKey signed now arrives).told keys directory auth convs id =
        settle keys directory auth { convs with members := convs.members.drop id user.publicKey } id user.publicKey
          (some (signed.change id user [] [user.publicKey])) now := by
      simp [MemberCall.told, removeConversationMember, there, known, isGroup, accepted]
    rw [told]
    refine ⟨rfl, recordLocal_force ⟨user.publicKey, _, false⟩ ?_ rfl, recordLocal_conversations user.publicKey _⟩
    funext other
    by_cases same : other = user.publicKey <;> simp [rosterOf, Nested.get_drop, same]

theorem change_conversationId (call : MemberCall) (id : String) : (call.change id).conversationId = id := by
  cases call with
  | mk move => cases move <;> rfl

theorem change_actor (call : MemberCall) (id : String) : (call.change id).actor = call.user.publicKey := by
  cases call with
  | mk move => cases move <;> rfl

theorem change_cert (call : MemberCall) (id : String) : (call.change id).signerCert = call.signed.signerCert := by
  cases call with
  | mk move => cases move <;> rfl

theorem change_writes (call : MemberCall) (id : String) : (call.change id).writes = [call.write id] := by
  cases call with
  | mk move => cases move <;> rfl

theorem change_wellFormed (moves : call.Moves keys id convs) : (call.change id).WellFormed := by
  obtain ⟨_, moves, _⟩ := moves
  obtain ⟨move, user, member, signed, now, arrives⟩ := call
  cases move with
  | add => exact ⟨.inl (by simp [MemberCall.change, SignedMemberChange.change]), by
      simp [MemberCall.change, SignedMemberChange.change]⟩
  | leave =>
    obtain rfl : member = user.publicKey := moves
    exact ⟨.inr (by simp [MemberCall.change, SignedMemberChange.change]), by
      simp [MemberCall.change, SignedMemberChange.change]⟩

-- A call that moves somebody finds them where it moves them from.
theorem moves_away (moves : call.Moves keys id convs) :
    (rosterOf convs id).value call.member = !(call.write id).value := by
  obtain ⟨onRoster, moves, _⟩ := moves
  obtain ⟨move, user, member, signed, now, arrives⟩ := call
  cases move with
  | add => exact moves
  | leave =>
    obtain rfl : member = user.publicKey := moves
    exact onRoster

-- A signature that was good here is good there, unless its certificate's master is not known there.
theorem checkActor_verified (registries : Registries) {user : AuthUser} {change : FederatedMemberChange} {now : Int}
    (verified : verifyLocal keys user change now = .ok ()) (own : change.actor = user.publicKey) (db : Db) :
    checkActor keys registries db change = .ok () ↔
      ∀ cert ∈ change.signerCert, cert.masterPubkey = user.publicKey ∨
        db.masterOf user.publicKey = some cert.masterPubkey := by
  unfold verifyLocal at verified
  obtain ⟨_, verified⟩ := Checks.refuse_ok verified
  obtain ⟨certMaster, tiered, _⟩ := Checks.bind_ok verified
  rw [← own] at tiered
  unfold checkActor
  rw [tiered, own]
  obtain ⟨signature, _, ⟨bare, rfl, _⟩ | ⟨shown, presented, rfl, _⟩⟩ := tiered_iff.mp tiered
  · simp [bare]
  · rw [presented]
    have bound : (resolveMasterBinding keys registries db user.publicKey shown.masterPubkey none).2 = true ↔
        db.masterOf user.publicKey = some shown.masterPubkey := by
      unfold resolveMasterBinding
      cases db.masterOf user.publicKey <;> simp
    simp [bound, or_iff_not_imp_left]

theorem landed_roster (keys : Keys) (registries : Registries) (db : Db)
    (group : ∃ conv, convs.conversations[id]? = some conv ∧ conv.convType = "group")
    {change : FederatedMemberChange} (now : Int) (here : change.conversationId = id) :
    rosterOf (receiveMemberChange keys registries db convs change now).2.1 id =
        (if change.WellFormed ∧ change.stamp ≤ now + MAX_CLOCK_SKEW_SECS ∧
        checkActor keys registries db change = .ok () ∧
            (rosterOf convs id).value change.actor = true then
          change.writes.foldl Store.settle (rosterOf convs id)
        else rosterOf convs id) ∧
      (receiveMemberChange keys registries db convs change now).2.1.conversations = convs.conversations := by
  subst here
  obtain ⟨conv, known, isGroup⟩ := group
  rcases receiveMemberChange_cases keys registries db convs change now with
    ⟨e, refused⟩ | ⟨unknown, _⟩ | ⟨row, found, passed, applied⟩
  · rw [refused, if_neg]
    · exact ⟨rfl, rfl⟩
    · rintro passes
      have passed := checkMemberChange_iff.mpr passes
      rw [← isGroup] at passed
      rw [receiveMemberChange_applies known passed] at refused
      simp at refused
  · rw [known] at unknown
    cases unknown
  · rw [known] at found
    cases found
    rw [isGroup] at passed
    rw [applied, if_pos (checkMemberChange_iff.mp passed)]
    exact ⟨rosterOf_apply db convs change, applyMemberChange_conversations db convs change⟩

theorem call_stays (registries : Registries) (directory : Directory) (inStep : InStep id s)
    (stays : ¬ call.Moves keys id s.convs) :
    (s.call keys registries directory id call).convs = s.convs ∧
      (s.call keys registries directory id call).remoteConvs = s.remoteConvs := by
  obtain ⟨silent, same⟩ := told_stays directory s.auth inStep.group stays
  unfold Hubs.call
  dsimp only
  rw [silent]
  exact ⟨same, rfl⟩

-- The roster here takes the change whatever its date; the other hub's only if it is the newest.
theorem call_moves (registries : Registries) (directory : Directory) (inStep : InStep id s)
    (moves : call.Moves keys id s.convs) :
    rosterOf (s.call keys registries directory id call).convs id = (rosterOf s.convs id).force (call.write id) ∧
      rosterOf (s.call keys registries directory id call).remoteConvs id =
        (if (call.change id).stamp ≤ call.arrives + MAX_CLOCK_SKEW_SECS ∧
            ∀ cert ∈ call.signed.signerCert, cert.masterPubkey = call.user.publicKey ∨
              s.remoteDb.masterOf call.user.publicKey = some cert.masterPubkey then
          (rosterOf s.convs id).settle (call.write id)
        else rosterOf s.convs id) ∧
      (s.call keys registries directory id call).convs.conversations = s.convs.conversations ∧
      (s.call keys registries directory id call).remoteConvs.conversations = s.remoteConvs.conversations := by
  obtain ⟨announced, roster, conversations⟩ := told_moves directory s.auth inStep.group moves
  obtain ⟨landed, remoteConversations⟩ := landed_roster keys registries s.remoteDb inStep.remoteGroup call.arrives
    (change_conversationId call id)
  have actor := change_actor call id
  have signed := checkActor_verified registries moves.verified actor s.remoteDb
  have there : (rosterOf s.convs id).value (call.change id).actor = true := by
    rw [actor]
    exact moves.onRoster
  rw [← inStep.same] at landed
  simp only [change_wellFormed moves, there, signed, change_cert, change_writes, true_and, and_true,
    List.foldl_cons, List.foldl_nil] at landed
  unfold Hubs.call
  dsimp only
  rw [announced]
  exact ⟨roster, landed, conversations, remoteConversations⟩

theorem inStep_call (inStep : InStep id s) (lands : LandsIfMoving keys id s call) :
    InStep id (s.call keys registries directory id call) := by
  by_cases moves : call.Moves keys id s.convs
  · obtain ⟨newest, dated, bound⟩ := lands moves
    obtain ⟨roster, remote, conversations, remoteConversations⟩ :=
      call_moves registries directory inStep moves
    rw [if_pos ⟨dated, bound⟩] at remote
    refine ⟨?_, ?_, ?_⟩
    · rw [conversations]
      exact inStep.group
    · rw [remoteConversations]
      exact inStep.remoteGroup
    · rw [roster, remote, Store.force_newer newest]
  · obtain ⟨same, remoteSame⟩ := call_stays registries directory inStep moves
    refine ⟨?_, ?_, ?_⟩
    · rw [same]
      exact inStep.group
    · rw [remoteSame]
      exact inStep.remoteGroup
    · rw [same, remoteSame]
      exact inStep.same

theorem call_parts (registries : Registries) (directory : Directory) (inStep : InStep id s)
    (misses : ¬ LandsIfMoving keys id s call) :
    (rosterOf (s.call keys registries directory id call).convs id).value ≠
      (rosterOf (s.call keys registries directory id call).remoteConvs id).value := by
  have moves : call.Moves keys id s.convs := by
    by_contra stays
    exact misses fun moves => absurd moves stays
  have changes : (rosterOf s.convs id).value (call.write id).key ≠ (call.write id).value := by
    rw [show (call.write id).key = call.member from rfl, moves_away moves]
    cases (call.write id).value <;> simp
  obtain ⟨roster, remote, _⟩ := call_moves registries directory inStep moves
  rw [roster, remote]
  intro same
  split at same
  next arrives =>
    have newest := (Store.force_value_iff changes).mp same
    exact misses fun _ => ⟨newest, arrives.1, arrives.2⟩
  next =>
    have kept := congrFun same (call.write id).key
    simp only [Store.force, Function.update_self] at kept
    exact changes kept.symm

end

-- Somebody signed in with their own key, and no certificate.
def holderOf (n : UInt8) : AuthUser := { publicKey := namedKey n, masterPubkey := none, scope := .member }

def signedAt (n : UInt8) (issuedAt : UInt64) : SignedMemberChange := { issuedAt := issuedAt, signature := signedBy n }

-- One member adds another, who leaves again.
def added (n m : UInt8) (issuedAt : UInt64) : MemberCall :=
  { move := .add, user := holderOf n, member := namedKey m, signed := signedAt n issuedAt, now := 100, arrives := 100 }

def leaving (m : UInt8) (issuedAt : UInt64) : MemberCall :=
  { move := .leave, user := holderOf m, member := namedKey m, signed := signedAt m issuedAt, now := 100, arrives := 100 }

def annsHubs : Hubs where
  auth := {}
  convs := annsGroup
  remoteDb := {}
  remoteConvs := annsGroup

def toldHub (s : Hubs) (call : MemberCall) : Hubs := s.call openKeys (fun _ => none) {} "c" call

theorem annsHubs_inStep : InStep "c" annsHubs := ⟨annsGroup_group, annsGroup_group, rfl⟩

section

variable {n m : UInt8} {issuedAt : UInt64}

theorem verifyLocal_signedAt (dated : issuedAt.toInt64.toInt ≤ 400) (joining parting : List String) :
    verifyLocal openKeys (holderOf n) ((signedAt n issuedAt).change "c" (holderOf n) joining parting) 100 = .ok () := by
  have tiered := tiered_signedBy n ((signedAt n issuedAt).change "c" (holderOf n) joining parting).signingBytes
    "member change"
  have inTime : ¬ 100 + MAX_CLOCK_SKEW_SECS < ((signedAt n issuedAt).change "c" (holderOf n) joining parting).stamp :=
    not_lt.mpr dated
  unfold verifyLocal
  rw [if_neg inTime]
  exact congrArg (· >>= fun certMaster => bindCertMaster certMaster (holderOf n)) tiered

theorem added_moves (seated : annAndBob (namedKey n) = true) (apart : annAndBob (namedKey m) = false)
    (dated : issuedAt.toInt64.toInt ≤ 400) : (added n m issuedAt).Moves openKeys "c" annsGroup where
  onRoster := (congrFun (congrArg Store.value annsGroup_roster) _).trans seated
  moves := (congrFun (congrArg Store.value annsGroup_roster) _).trans apart
  verified := verifyLocal_signedAt dated _ _

theorem added_lands (n m : UInt8) (dated : issuedAt.toInt64.toInt ≤ 400) : Lands "c" annsHubs (added n m issuedAt) where
  newest := by
    rw [show rosterOf annsHubs.convs "c" = _ from annsGroup_roster]
    rfl
  dated := dated
  bound cert presented := by cases presented

-- Once they are in, their entry in the ledger has the date of that change.
theorem added_after (seated : annAndBob (namedKey n) = true) (apart : annAndBob (namedKey m) = false)
    (dated : issuedAt.toInt64.toInt ≤ 400) :
    InStep "c" (toldHub annsHubs (added n m issuedAt)) ∧
      (rosterOf (toldHub annsHubs (added n m issuedAt)).convs "c").value (namedKey m) = true ∧
      (rosterOf (toldHub annsHubs (added n m issuedAt)).convs "c").newest (namedKey m) = some issuedAt.toInt64.toInt := by
  have lands := added_lands n m dated
  obtain ⟨roster, _⟩ := call_moves (fun _ => none) {} annsHubs_inStep (added_moves seated apart dated)
  refine ⟨inStep_call annsHubs_inStep fun _ => lands, ?_⟩
  rw [toldHub, roster, Store.force_newer lands.newest]
  exact Store.settle_newer lands.newest

theorem leaving_moves (issuedAt left : UInt64) (seated : annAndBob (namedKey n) = true)
    (apart : annAndBob (namedKey m) = false)
    (dated : issuedAt.toInt64.toInt ≤ 400) (leftDated : left.toInt64.toInt ≤ 400) :
    (leaving m left).Moves openKeys "c" (toldHub annsHubs (added n m issuedAt)).convs where
  onRoster := (added_after seated apart dated).2.1
  moves := rfl
  verified := verifyLocal_signedAt leftDated _ _

theorem leaving_lands_iff (issuedAt left : UInt64) (seated : annAndBob (namedKey n) = true)
    (apart : annAndBob (namedKey m) = false) (dated : issuedAt.toInt64.toInt ≤ 400)
    (leftDated : left.toInt64.toInt ≤ 400) :
    Lands "c" (toldHub annsHubs (added n m issuedAt)) (leaving m left) ↔
      issuedAt.toInt64.toInt < left.toInt64.toInt := by
  have recorded := (added_after seated apart dated).2.2
  constructor
  · intro lands
    have newest := lands.newest
    rw [show (leaving m left).member = namedKey m from rfl, recorded] at newest
    exact of_decide_eq_true newest
  · intro newer
    refine ⟨?_, leftDated, fun cert presented => by cases presented⟩
    rw [show (leaving m left).member = namedKey m from rfl, recorded]
    exact decide_eq_true newer

end

theorem third_apart : annAndBob (namedKey 3) = false := by
  decide

end Wavvon.Dms
