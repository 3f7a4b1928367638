import Wavvon.Auth.Outcomes
import Wavvon.Dms.Messages
import Wavvon.Identity.RegistryEffect

set_option autoImplicit false

namespace Wavvon

open Std (ExtTreeMap)

/-- Masters are only filled in, each for a key that had none. -/
structure Links (new : String → String → Prop) (before after : Db) : Prop where
  kept : MastersKept before after
  gained : ∀ key master, after.masterOf key = some master →
    before.masterOf key = some master ∨ before.masterOf key = none ∧ new key master

section

variable {new : String → String → Prop}

theorem links_of_same {before after : Db} (same : ∀ key, after.masterOf key = before.masterOf key) :
    Links new before after where
  kept key _ linked := (same key).trans linked
  gained key _ linked := .inl ((same key).symm.trans linked)

theorem Links.trans {first second third : Db} (left : Links new first second)
    (right : Links new second third) : Links new first third where
  kept := left.kept.trans right.kept
  gained key master linked := by
    rcases right.gained key master linked with earlier | ⟨unlinked, gained⟩
    · exact left.gained key master earlier
    · cases before : first.masterOf key with
      | none => exact .inr ⟨rfl, gained⟩
      | some other =>
        have still := left.kept key other before
        rw [unlinked] at still
        cases still

theorem Links.weaken {before after : Db} (links : Links new before after)
    {wider : String → String → Prop} (wide : ∀ key master, new key master → wider key master) :
    Links wider before after where
  kept := links.kept
  gained key master linked := (links.gained key master linked).imp_right fun gained =>
    ⟨gained.1, wide key master gained.2⟩

end

theorem modify_masterOf (db : Db) (key : String) (change : User → User)
    (same : ∀ user, (change user).masterPubkey = user.masterPubkey) (other : String) :
    ({ db with users := db.users.modify key change } : Db).masterOf other = db.masterOf other := by
  simp only [Db.masterOf, ExtTreeMap.getElem?_modify]
  split
  next hit =>
    obtain rfl : key = other := by simpa using hit
    cases db.users[key]? with
    | none => rfl
    | some user => simp [same]
  next => rfl

theorem admitMember_masterOf (db : Db) (publicKey key : String) :
    (admitMember db publicKey).masterOf key = db.masterOf key := by
  unfold admitMember
  apply modify_masterOf
  intro user
  rfl

theorem insertIfNew_masterOf (db : Db) (key : String) (user : User) (unlinked : user.masterPubkey = none)
    (other : String) :
    ({ db with users := db.users.insertIfNew key user } : Db).masterOf other = db.masterOf other := by
  simp only [Db.masterOf, ExtTreeMap.getElem?_insertIfNew]
  split
  next absent =>
    obtain ⟨rfl, absent⟩ : key = other ∧ key ∉ db.users := by simpa using absent
    simp [absent, unlinked]
  next => rfl

theorem upsertFarmUser_masterOf (db : Db) (publicKey : String) (now : Int) (key : String) :
    (upsertFarmUser db publicKey now).masterOf key = db.masterOf key := by
  simp only [upsertFarmUser, Db.masterOf, ExtTreeMap.getElem?_insert]
  split
  next same =>
    obtain rfl : publicKey = key := by simpa using same
    cases db.users[publicKey]? <;> rfl
  next => rfl

theorem extractFarm_masterOf (s : AuthState) (publicKey : String) (request : HttpRequest) (now : Int)
    (key : String) : (extractFarm s publicKey request now).1.db.masterOf key = s.db.masterOf key := by
  have seen := upsertFarmUser_masterOf s.db publicKey now key
  unfold extractFarm
  dsimp only
  repeat' split
  all_goals first
    | exact seen
    | exact (admitMember_masterOf _ publicKey key).trans seen

theorem fromRequestParts_masterOf (farm : FarmOutside) (s : AuthState) (cache : FarmCache) (token : String)
    (request : HttpRequest) (now : Int) (key : String) :
    (fromRequestParts farm s cache token request now).1.db.masterOf key = s.db.masterOf key := by
  rcases fromRequestParts_seen farm s cache token request now with same | ⟨publicKey, same⟩
  · rw [same]
  · rw [same, extractFarm_masterOf]

section

variable {outside : Outside} {s : AuthState} {req : VerifyRequest} {env : VerifyEnv}
  {canonical : String} {master : Option String} {claimed : Nat}

theorem seatRow_master :
    (seatRow s req canonical master claimed env).masterPubkey = (s.db.masterOf canonical).or master := by
  unfold seatRow raisedRow upsertRow Db.masterOf
  cases s.db.users[canonical]? <;> dsimp only <;> split <;> rfl

theorem seatUser_masterOf (key : String) :
    (seatUser s req canonical master claimed env).db.masterOf key =
      if key = canonical then (s.db.masterOf key).or master else s.db.masterOf key := by
  have row := seatUser_users s req canonical master claimed env key
  unfold Db.masterOf at *
  rw [row]
  split
  next same =>
    subst same
    exact seatRow_master
  next => rfl

theorem admitNewcomer_masterOf (t : AuthState) (canonical : String) (firstUser : Bool)
    (redemption : Option InviteRedemption) (key : String) :
    (admitNewcomer t canonical firstUser redemption).db.masterOf key = t.db.masterOf key := by
  rw [← admitMember_masterOf t.db canonical, Db.masterOf, Db.masterOf, admitNewcomer_users]

theorem sessionOutcome_masterOf {exempt firstUser : Bool}
    {outcome : AuthState × Except HttpError VerifyResponse}
    (ended : SessionOutcome s req canonical master exempt env firstUser outcome) (key : String) :
    outcome.1.db.masterOf key = s.db.masterOf key := by
  have opened : ∀ passed, Answers s req canonical master env passed →
      (withSession s req canonical exempt env passed).db.masterOf key = s.db.masterOf key := by
    intro passed answers
    obtain ⟨tokens, rfl⟩ := answers_frame answers
    rfl
  cases ended with
  | unanswered e faces refused => rfl
  | peer passed answers arrives => exact opened passed answers
  | member belongs => rfl
  | uninvited passed e answers stranger person refused => exact opened passed answers
  | admitted passed spent redemption answers stranger person redeemed =>
    obtain ⟨invites, rfl⟩ := redeemInvite_frame redeemed
    exact (admitNewcomer_masterOf _ canonical firstUser redemption key).trans (opened passed answers)

-- A sign-in records the master of a certificate for an identity that had none.
theorem verify_links (outside : Outside) (s : AuthState) (req : VerifyRequest) (env : VerifyEnv) :
    Links (fun key master => ∃ claimed, Seats outside s req env key (some master) claimed) s.db
      (verify outside s req env).1.db := by
  rcases verify_cases outside s req env with ⟨e, same | same⟩ | ⟨canonical, visitor, _, same⟩ |
    ⟨canonical, master, claimed, seats⟩
  · exact links_of_same fun key => by rw [same]
  · exact links_of_same fun key => by rw [same]; rfl
  · exact links_of_same fun key => by rw [same]; rfl
  · have after : ∀ key, (verify outside s req env).1.db.masterOf key =
        if key = canonical then (s.db.masterOf key).or master else s.db.masterOf key := by
      intro key
      rw [verify_seats seats,
        sessionOutcome_masterOf (afterSeat_outcome s req env canonical master claimed), seatUser_masterOf]
      rfl
    constructor
    · intro key other linked
      rw [after]
      split
      · rw [linked, Option.some_or]
      · exact linked
    · intro key other linked
      rw [after] at linked
      split at linked
      next same =>
        subst same
        cases before : s.db.masterOf key with
        | some known =>
          rw [before, Option.some_or] at linked
          exact .inl linked
        | none =>
          rw [before, Option.none_or] at linked
          exact .inr ⟨rfl, claimed, linked ▸ seats⟩
      next => exact .inl linked

end

-- No other call of the sign-in routes touches a master.
theorem quiet_masterOf (outside : Outside) (s : AuthState) {call : AuthCall}
    (unsigned : ∀ req env, call ≠ .verify req env) (key : String) :
    (call.next outside s).db.masterOf key = s.db.masterOf key := by
  cases call with
  | verify req env => exact absurd rfl (unsigned req env)
  | challenge publicKey bytes instant => rfl
  | registerBegin body env =>
    simp only [AuthCall.next, AuthCall.serve, registerBegin]
    split
    · rfl
    · split <;> rfl
  | registerFinish body env =>
    simp only [AuthCall.next, AuthCall.serve, registerFinish]
    split
    · rfl
    · split
      · rfl
      · rw [issueSessionToken_masterOf]
        rfl
  | assertBegin userPubkey env =>
    simp only [AuthCall.next, AuthCall.serve, assertBegin]
    split
    · rfl
    · split <;> rfl
  | assertFinish body env =>
    simp only [AuthCall.next, AuthCall.serve, assertFinish]
    split
    · rfl
    · split
      · rfl
      · rw [issueSessionToken_masterOf, (AuthCall.recordUse_frame _ _ _).2.1]
  | deleteCredential user id =>
    simp only [AuthCall.next, AuthCall.serve, deleteCredential]
    split <;> rfl

namespace Dms

section

variable (keys : Keys) (registries : Registries)

theorem ensureUserStub_masterOf (db : Db) (publicKey : String) (now : Int) (key : String) :
    (ensureUserStub db publicKey now).masterOf key = db.masterOf key :=
  insertIfNew_masterOf db publicKey _ rfl key

-- Another hub's registry holds a certificate of the master that names the key.
def Proves (url key master : String) : Prop :=
  ∃ certs, registries (devicesUrl url master) = some certs ∧ provesBinding keys key master certs = true

theorem bindMaster_links {new : String → String → Prop} (db : Db) (canonical master : String)
    (bound : new canonical master) : Links new db (bindMaster db canonical master) := by
  have after : ∀ key, (bindMaster db canonical master).masterOf key =
      if key = canonical then db.users[key]?.bind (fun user => user.masterPubkey.or (some master))
      else db.masterOf key := by
    intro key
    simp only [bindMaster, Db.masterOf, ExtTreeMap.getElem?_modify, Std.compare_eq_iff_eq]
    by_cases same : canonical = key
    next =>
      subst same
      cases db.users[canonical]? <;> simp
    next => simp [same, Ne.symm same]
  constructor
  · intro key linkedTo linked
    rw [after]
    split
    · cases found : db.users[key]? with
      | none => simp [Db.masterOf, found] at linked
      | some user =>
        simp only [Db.masterOf, found, Option.bind_some] at linked
        simp [linked]
    · exact linked
  · intro key linkedTo linked
    rw [after] at linked
    split at linked
    next same =>
      subst same
      cases found : db.users[key]? with
      | none => simp [found] at linked
      | some user =>
        simp only [found, Option.bind_some] at linked
        cases own : user.masterPubkey with
        | some known => exact .inl (by simpa [Db.masterOf, found, own] using linked)
        | none =>
          simp only [own, Option.none_or, Option.some.injEq] at linked
          subst linked
          exact .inr ⟨by simp [Db.masterOf, found, own], bound⟩
    next => exact .inl linked

theorem resolveMasterBinding_links {new : String → String → Prop} (db : Db) (canonical master : String)
    (senderHubUrl : Option String)
    (proven : ∀ url, senderHubUrl = some url → Proves keys registries url canonical master → new canonical master) :
    Links new db (resolveMasterBinding keys registries db canonical master senderHubUrl).1 := by
  unfold resolveMasterBinding
  split
  next => exact links_of_same fun _ => rfl
  next =>
    cases fetched : senderHubUrl.bind fun url => registries (devicesUrl url master) with
    | none => exact links_of_same fun _ => rfl
    | some certs =>
      obtain ⟨url, named, answered⟩ := Option.bind_eq_some_iff.mp fetched
      dsimp only
      split
      next shown => exact bindMaster_links db canonical master (proven url named ⟨certs, answered, shown⟩)
      next => exact links_of_same fun _ => rfl

-- The binding a request to open a conversation asks for and another hub vouches for.
def AsksToBind (req : CreateConversationRequest) (key master : String) : Prop :=
  key ∈ req.members ∧ req.memberMasters.lookup key = some master ∧
    ∃ url, req.memberHubs.lookup key = some url ∧ Proves keys registries url key master

theorem bindMember_links (req : CreateConversationRequest) (member : String) (db : Db)
    (listed : member ∈ req.members) :
    Links (AsksToBind keys registries req) db
      (match req.memberMasters.lookup member, req.memberHubs.lookup member with
        | some master, some url => (resolveMasterBinding keys registries db member master (some url)).1
        | _, _ => db) := by
  split
  next master url claimed named =>
    refine resolveMasterBinding_links keys registries db member master (some url) ?_
    intro other same proven
    cases same
    exact ⟨listed, claimed, url, named, proven⟩
  next => exact links_of_same fun _ => rfl

theorem joinConversation_links (req : CreateConversationRequest) (id member : String) (now : Int)
    (db : Db) (convs : Conversations) (listed : member ∈ req.members) :
    Links (AsksToBind keys registries req) db
      (joinConversation keys registries req id member now db convs).1 := by
  have stubbed : Links (AsksToBind keys registries req) db (ensureUserStub db member now) :=
    links_of_same (ensureUserStub_masterOf db member now)
  have bound := stubbed.trans (bindMember_links keys registries req member _ listed)
  unfold joinConversation
  dsimp only
  cases convs.members.get id member <;> exact bound

theorem joinAll_links (req : CreateConversationRequest) (id : String) (now : Int) (members : List String)
    (listed : ∀ member ∈ members, member ∈ req.members) (db : Db) (convs : Conversations) :
    Links (AsksToBind keys registries req) db
      (joinAll keys registries req id now members db convs).1 := by
  induction members generalizing db convs with
  | nil => exact links_of_same fun _ => rfl
  | cons member rest ih =>
    have first := joinConversation_links keys registries req id member now db convs
      (listed member List.mem_cons_self)
    unfold joinAll
    generalize joinConversation keys registries req id member now db convs = joined at *
    obtain ⟨after, result⟩ := joined
    cases result with
    | error e => exact first
    | ok convs => exact first.trans (ih (fun m member => listed m (List.mem_cons_of_mem _ member)) after convs)

theorem createConversation_links (db : Db) (convs : Conversations) (user : AuthUser)
    (req : CreateConversationRequest) (id : String) (now : Int) :
    Links (AsksToBind keys registries req) db
      (createConversation keys registries db convs user req id now).1 := by
  unfold createConversation
  cases named : req.members with
  | nil => exact links_of_same fun _ => rfl
  | cons first others =>
    dsimp only
    generalize (if (if others = [] then "dm" else "group") = "dm" then _ else _) = existing
    cases existing with
    | some existing => exact links_of_same fun _ => rfl
    | none =>
      dsimp only
      rw [← named]
      generalize ({ convs with conversations := _, members := _ } : Conversations) = opened
      have joins := joinAll_links keys registries req id now req.members (fun _ listed => listed) db opened
      generalize joinAll keys registries req id now req.members db opened = joined at joins ⊢
      obtain ⟨after, convs, result⟩ := joined
      cases result <;> exact joins

-- The binding a delivery asks for and the sending hub vouches for.
def DeliversBinding (req : FederatedDmRequest) (key master : String) : Prop :=
  key = req.sender ∧ claimedMaster keys req = .ok (some master) ∧
    ∃ url, req.senderHubUrl = some url ∧ Proves keys registries url key master

theorem openFederated_masterOf (db : Db) (convs : Conversations) (req : FederatedDmRequest) (key : String) :
    (openFederated db convs req).1.masterOf key = db.masterOf key :=
  openFederated_keeps (fun seated => seated.1.masterOf key = db.masterOf key) rfl rfl fun seated member same =>
    (ensureUserStub_masterOf seated.1 member req.createdAt key).trans same

theorem bindSender_links (db : Db) (req : FederatedDmRequest) (master : Option String)
    (claimed : claimedMaster keys req = .ok master) :
    Links (DeliversBinding keys registries req) db (bindSender keys registries db req master).1 := by
  unfold bindSender
  cases master with
  | none => exact links_of_same fun _ => rfl
  | some master =>
    have resolved : Links (DeliversBinding keys registries req) db
        (resolveMasterBinding keys registries db req.sender master req.senderHubUrl).1 :=
      resolveMasterBinding_links keys registries db req.sender master req.senderHubUrl
        (fun url named proven => ⟨rfl, claimed, url, named, proven⟩)
    dsimp only
    split <;>
      next answer =>
        rw [answer] at resolved
        exact resolved

theorem receiveFederatedDm_links (isUuid : String → Bool) (db : Db) (convs : Conversations)
    (req : FederatedDmRequest) :
    Links (DeliversBinding keys registries req) db
      (receiveFederatedDm keys registries isUuid db convs req).1 := by
  have stubbed : Links (DeliversBinding keys registries req) db
      (ensureUserStub (openFederated db convs req).1 req.sender req.createdAt) := by
    refine links_of_same fun key => ?_
    rw [ensureUserStub_masterOf, openFederated_masterOf]
  have nothing : Links (DeliversBinding keys registries req) db db := links_of_same fun _ => rfl
  unfold receiveFederatedDm
  split
  next => exact nothing
  next =>
    split
    next => exact nothing
    next =>
      cases recipients convs req with
      | error e => exact nothing
      | ok recipients =>
        dsimp only
        split
        next => exact nothing
        next =>
          cases claimed : claimedMaster keys req with
          | error e => exact stubbed
          | ok master =>
            have bound := stubbed.trans (bindSender_links keys registries _ req master claimed)
            dsimp only
            split <;>
              next answer =>
                rw [answer] at bound
                exact bound

end

end Dms

end Wavvon
