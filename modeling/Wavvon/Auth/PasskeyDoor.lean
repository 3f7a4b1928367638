import Wavvon.Auth.Doors
import Wavvon.Auth.Refusals
import Wavvon.Identity.Signatures

set_option autoImplicit false

namespace Wavvon

open Std (ExtTreeMap)
open Wire (Bytes)

/-- A passkey ceremony that ends well, the key it opens a session for and the state it leaves. -/
inductive Issues (outside : Outside) (s : AuthState) (env : CeremonyEnv) : String → AuthState → Prop where
  | registered (body : RegFinishRequest) (challenge : RegChallenge) (passkey : Passkey)
      (found : s.regChallenges[body.sessionId]? = some challenge)
      (finished : outside.finishRegistration body.credential challenge.state = .ok passkey) :
      Issues outside s env challenge.userPubkey (registerFinish outside s body env).1
  | asserted (body : AssertFinishRequest) (challenge : AuthChallenge) (result : AuthResult)
      (found : s.authChallenges[body.sessionId]? = some challenge)
      (finished : outside.finishAuthentication body.credential challenge.state = .ok result) :
      Issues outside s env challenge.userPubkey (assertFinish outside s body env).1

/-- A person's answer to the challenge the hub drew for the key. -/
structure AnswersAs (key : String) (bytes : Bytes) (req : VerifyRequest) : Prop where
  own : req.publicKey = key
  drawn : req.challenge = hexEncode bytes
  person : req.isHub ≠ some true

/-- With some proofs, the key sign-in opens a full session for the key, past the approval queue. -/
def VerifyAdmits (outside : Outside) (s : AuthState) (key : String) (env : VerifyEnv) : Prop :=
  ∃ bytes req, AnswersAs key bytes req ∧ ∃ response,
    (verify outside (challenge s key bytes env.instant) req env).2 = .ok response ∧
      response.scope = .member ∧ response.canonicalPubkey = key ∧
      approvalStatus (verify outside (challenge s key bytes env.instant) req env).1.db key ≠ "pending"

section

variable (outside : Outside) (s : AuthState) (key : String) (req : VerifyRequest) (env : VerifyEnv)

-- The status of the row a sign-in leaves; one who has left queues again when admitted.
def statusAfter : String :=
  let status := match s.db.users[key]? with
    | some user => user.approvalStatus
    | none => initialStatus s req (banMatch s req key env)
  if isMember s.db key = true ∨ status ≠ "left" then status
  else if s.setting "require_approval" = some "true" then "pending" else "approved"

def ReachesFloor (claimed : Nat) : Prop :=
  ownerExempt s req key = true ∨ lobbyEnabled s = false ∨
    minSecurityLevel s ≤ max (storedPowLevel s.db key) claimed

/-- The gates of the key sign-in, from the certificate to the approval queue, are all open. -/
def PassesGates : Prop :=
  ∃ master claimed,
    resolveCanonicalIdentity outside s key req.subkeyCert env.now = .ok (key, master) ∧
      (req.allianceVoiceGrant.isSome → key ∈ s.db.users) ∧
      admissionGates outside s req key master env.now = .ok claimed ∧
      ReachesFloor s key req claimed ∧
      ¬ FailsChallenge s req key master env ∧ ¬ FailsInvite s req key master env ∧
      statusAfter s key req env ≠ "pending"

/--
What the extractor asks of a passkey session already shuts the key out, or none of the gates the
ceremony skips would have.
-/
def NothingSkipped : Prop :=
  s.isRevoked key = true ∨ approvalStatus s.db key = "pending" ∨
    ∃ bytes req, AnswersAs key bytes req ∧
      (∃ signature, hexDecode req.signature = some signature ∧
        outside.verifyAuthChallenge key bytes signature = true) ∧
      PassesGates outside s key req env

end

section

variable {s t : AuthState} {req : VerifyRequest} {key : String} {master : Option String}
  {claimed : Nat} {env : VerifyEnv}

theorem raisedRow_approvalStatus (user : User) (level : Nat) :
    (raisedRow user level).approvalStatus = user.approvalStatus := by
  unfold raisedRow
  split <;> rfl

theorem approvalStatus_seat :
    approvalStatus (seatUser s req key master claimed env).db key =
      match s.db.users[key]? with
      | some user => user.approvalStatus
      | none => initialStatus s req (banMatch s req key env) := by
  have row := seatUser_users s req key master claimed env key
  rw [if_pos rfl] at row
  rw [approvalStatus, row, Option.map_some, Option.getD_some, seatRow, raisedRow_approvalStatus]
  cases s.db.users[key]? <;> rfl

theorem approvalStatus_admitNewcomer (firstUser : Bool) (redemption : Option InviteRedemption)
    (seated : key ∈ s.db.users) :
    approvalStatus (admitNewcomer s key firstUser redemption).db key =
      if approvalStatus s.db key ≠ "left" then approvalStatus s.db key
      else if s.setting "require_approval" = some "true" then "pending" else "approved" := by
  obtain ⟨user, found⟩ := Option.isSome_iff_exists.mp (ExtTreeMap.mem_iff_isSome_getElem?.mp seated)
  simp only [approvalStatus, admitNewcomer_users, admitMember, ExtTreeMap.getElem?_modify_self, found, Option.map_some,
    Option.getD_some]
  rfl

theorem scope_member_iff (exempt : Bool) :
    sessionScope s false exempt key = .member ↔
      exempt = true ∨ lobbyEnabled s = false ∨ minSecurityLevel s ≤ storedPowLevel s.db key := by
  unfold sessionScope
  cases exempt <;> cases lobbyEnabled s <;> simp

theorem statusAfter_member (belongs : isMember s.db key = true) :
    approvalStatus (seatUser s req key master claimed env).db key = statusAfter s key req env := by
  rw [approvalStatus_seat, statusAfter]
  simp only [belongs, true_or, if_true]

theorem statusAfter_newcomer {spent : AuthState} (firstUser : Bool) (redemption : Option InviteRedemption)
    (stranger : isMember s.db key = false)
    (same : spent.db = (seatUser s req key master claimed env).db) :
    approvalStatus (admitNewcomer spent key firstUser redemption).db key = statusAfter s key req env := by
  have row := seatUser_users s req key master claimed env key
  rw [if_pos rfl] at row
  have seated : key ∈ spent.db.users := by
    rw [same, ExtTreeMap.mem_iff_isSome_getElem?, row]
    rfl
  have settings : spent.setting "require_approval" = s.setting "require_approval" := by
    unfold AuthState.setting
    rw [same]
    exact seatUser_setting s req key master claimed env "require_approval"
  rw [approvalStatus_admitNewcomer firstUser redemption seated, settings, same, approvalStatus_seat, statusAfter]
  simp only [stranger, Bool.false_eq_true, false_or]

-- The scope a person past the seat gets is full membership exactly at the floor.
theorem openedScope_member_iff {passed : AuthState} (exempt : Bool) (small : claimed < 2 ^ 32)
    (person : req.isHub ≠ some true)
    (answers : Answers (seatUser s req key master claimed env) req key master env passed) :
    openedScope (seatUser s req key master claimed env) req key exempt passed = .member ↔
      exempt = true ∨ lobbyEnabled s = false ∨
        minSecurityLevel s ≤ max (storedPowLevel s.db key) claimed := by
  obtain ⟨tokens, rfl⟩ := answers_frame answers
  have notPeer : arrivesAsPeer (seatUser s req key master claimed env) req key = false := by
    simp [arrivesAsPeer, person]
  rw [openedScope, notPeer, scope_member_iff, ← lobbyEnabled_seat s req key master claimed env,
    ← minSecurityLevel_seat s req key master claimed env, ← storedPowLevel_seat s req key master env small]
  rfl

theorem answers_passes {passed : AuthState} (answers : Answers s req key master env passed) :
    ¬ FailsChallenge s req key master env := by
  rintro ⟨faces, e, refused⟩
  simp [Answers, faces, refused] at answers

/-- Past the seat, a full session comes down to the floor, the challenge, the invite and the queue. -/
theorem afterSeat_admits_iff (person : req.isHub ≠ some true) (small : claimed < 2 ^ 32) :
    (∃ response, (afterSeat s req env key master claimed).2 = .ok response ∧ response.scope = .member ∧
        approvalStatus (afterSeat s req env key master claimed).1.db key ≠ "pending") ↔
      ReachesFloor s key req claimed ∧ ¬ FailsChallenge s req key master env ∧
        ¬ FailsInvite s req key master env ∧ statusAfter s key req env ≠ "pending" := by
  have ended := afterSeat_outcome s req env key master claimed
  generalize afterSeat s req env key master claimed = outcome at ended ⊢
  cases ended with
  | unanswered e faces refused =>
    refine iff_of_false (by rintro ⟨_, answered, _⟩; cases answered) ?_
    rintro ⟨_, passes, _⟩
    exact passes (failsChallenge_seat.mp ⟨faces, e, refused⟩)
  | peer passed answers arrives => simp [arrivesAsPeer, person] at arrives
  | uninvited passed e answers stranger _ refused =>
    rw [seatUser_isMember] at stranger
    refine iff_of_false (by rintro ⟨_, answered, _⟩; cases answered) ?_
    rintro ⟨_, passes, invited, _⟩
    exact invited ⟨stranger, person, passes, e, (redeemInvite_seat answers).mp refused⟩
  | member belongs =>
    have answers : Answers (seatUser (takeChallenge s req.challenge) req key master claimed env) req key
        master env (seatUser (takeChallenge s req.challenge) req key master claimed env) := by
      simp [Answers, FacesChallenge, belongs]
    have scope := openedScope_member_iff (ownerExempt s req key) small person answers
    have passes := failsChallenge_seat.not.mp (answers_passes answers)
    rw [seatUser_isMember] at belongs
    have belongs : isMember s.db key = true := belongs
    have status : approvalStatus (seatUser (takeChallenge s req.challenge) req key master claimed env).db
        key = statusAfter s key req env := statusAfter_member belongs
    have invited : ¬ FailsInvite s req key master env := by
      rintro ⟨stranger, _⟩
      simp [belongs] at stranger
    constructor
    · rintro ⟨response, answered, member, approved⟩
      cases answered
      exact ⟨scope.mp member, passes, invited, status ▸ approved⟩
    · rintro ⟨floor, _, _, approved⟩
      exact ⟨_, rfl, scope.mpr floor, status ▸ approved⟩
  | admitted passed spent redemption answers stranger _ redeemed =>
    have scope := openedScope_member_iff (ownerExempt s req key) small person answers
    have passes := failsChallenge_seat.not.mp (answers_passes answers)
    rw [seatUser_isMember] at stranger
    have invited : ¬ FailsInvite s req key master env := by
      rintro ⟨_, _, _, e, refused⟩
      rw [← redeemInvite_seat answers, redeemed] at refused
      cases refused
    have same : spent.db = (seatUser (takeChallenge s req.challenge) req key master claimed env).db := by
      obtain ⟨invites, rfl⟩ := redeemInvite_frame redeemed
      obtain ⟨tokens, rfl⟩ := answers_frame answers
      rfl
    have status : approvalStatus (admitNewcomer spent key (decide (existingUsers s = 0)) redemption).db key =
        statusAfter s key req env := statusAfter_newcomer _ redemption stranger same
    constructor
    · rintro ⟨response, answered, member, approved⟩
      cases answered
      exact ⟨scope.mp member, passes, invited, status ▸ approved⟩
    · rintro ⟨floor, _, _, approved⟩
      exact ⟨_, rfl, scope.mpr floor, status ▸ approved⟩

variable {outside : Outside} {bytes : Bytes}

theorem challenge_drawn (instant : Int) :
    (challenge s key bytes instant).pendingChallenges[hexEncode bytes]? =
      some { publicKey := key, challengeBytes := bytes, expiresAt := instant + challengeTtl } :=
  ExtTreeMap.getElem?_insert_self

theorem checkChallenge_drawn (answers : AnswersAs key bytes req) (instant : Int) :
    checkChallenge outside
        { publicKey := key, challengeBytes := bytes, expiresAt := instant + challengeTtl } req instant =
          .ok () ↔
      ∃ signature, hexDecode req.signature = some signature ∧
        outside.verifyAuthChallenge key bytes signature = true := by
  have live : ¬ instant + challengeTtl < instant := by
    unfold challengeTtl
    omega
  rw [checkChallenge, if_neg (not_not.mpr answers.own.symm), if_neg live, answers.drawn, hexDecode_hexEncode]
  dsimp only
  rw [if_neg (not_not.mpr rfl), answers.own]
  cases hexDecode req.signature with
  | none => simp
  | some signature => cases verified : outside.verifyAuthChallenge key bytes signature <;> simp [verified]

-- The gates read neither the drawn challenge nor any other.
theorem passesLate_drawn (bytes : Bytes) (instant : Int) :
    (FailsChallenge (challenge s key bytes instant) req key master env ↔
        FailsChallenge s req key master env) ∧
      (FailsInvite (challenge s key bytes instant) req key master env ↔
        FailsInvite s req key master env) := by
  have tokens : (challenge s key bytes instant).tables.challengeTokens = s.tables.challengeTokens := rfl
  have invites : (challenge s key bytes instant).tables.invites = s.tables.invites := rfl
  have settings : ∀ name, (challenge s key bytes instant).setting name = s.setting name := fun _ => rfl
  have failsChallenge : FailsChallenge (challenge s key bytes instant) req key master env ↔
      FailsChallenge s req key master env :=
    and_congr Iff.rfl (exists_congr fun e => challengeGate_congr tokens env.now e)
  refine ⟨failsChallenge, ?_⟩
  unfold FailsInvite
  rw [failsChallenge]
  exact and_congr Iff.rfl (and_congr Iff.rfl (and_congr Iff.rfl
    (exists_congr fun e => redeemInvite_congr invites settings env.now e)))

theorem verifyAdmits_iff :
    VerifyAdmits outside s key env ↔
      ∃ bytes req, AnswersAs key bytes req ∧
        (∃ signature, hexDecode req.signature = some signature ∧
          outside.verifyAuthChallenge key bytes signature = true) ∧
        PassesGates outside s key req env := by
  refine exists_congr fun bytes => exists_congr fun req => and_congr_right fun answers => ?_
  constructor
  · rintro ⟨response, answered, member, canonical, approved⟩
    rcases verify_cases outside (challenge s key bytes env.instant) req env with ⟨e, same | same⟩ |
      ⟨visitor, visit, _, same⟩ | ⟨identity, master, claimed, seats⟩
    · rw [same] at answered
      cases answered
    · rw [same] at answered
      cases answered
    · rw [same] at answered
      cases answered
      cases member
    · have named := (answered_seat (afterSeat_outcome (challenge s key bytes env.instant) req env identity master
        claimed) (verify_seats seats ▸ answered)).1
      obtain rfl : key = identity := canonical.symm.trans named
      obtain ⟨pending, found, passed⟩ := seats.proved
      rw [answers.drawn, challenge_drawn] at found
      cases found
      rw [verify_seats seats] at answered approved
      have late := (afterSeat_admits_iff answers.person
        (securityGate_proved (admissionGates_security seats.gates)).2).mp ⟨response, answered, member, approved⟩
      obtain ⟨floor, passes, invited, status⟩ := late
      refine ⟨(checkChallenge_drawn answers env.instant).mp passed, master, claimed, ?_, seats.notVisiting,
        seats.gates, floor, (passesLate_drawn bytes env.instant).1.not.mp passes,
        (passesLate_drawn bytes env.instant).2.not.mp invited, status⟩
      exact answers.own ▸ seats.resolved
  · rintro ⟨signed, master, claimed, resolved, notVisiting, gates, floor, passes, invited, status⟩
    have seats : Seats outside (challenge s key bytes env.instant) req env key master claimed := by
      refine ⟨⟨_, answers.drawn ▸ challenge_drawn env.instant,
        (checkChallenge_drawn answers env.instant).mpr signed⟩, ?_, notVisiting, gates⟩
      exact answers.own.symm ▸ resolved
    rw [verify_seats seats]
    have floor : ReachesFloor (challenge s key bytes env.instant) key req claimed := floor
    have passes := (passesLate_drawn bytes env.instant).1.not.mpr passes
    have invited := (passesLate_drawn bytes env.instant).2.not.mpr invited
    have small := (securityGate_proved (admissionGates_security seats.gates)).2
    obtain ⟨response, answered, member, approved⟩ :=
      (afterSeat_admits_iff answers.person small).mpr ⟨floor, passes, invited, status⟩
    have named := (answered_seat (afterSeat_outcome (challenge s key bytes env.instant) req env key master
      claimed) answered).1
    exact ⟨response, answered, member, named, approved⟩

/-- The row a ceremony leaves: a session of full scope that names no device and never expires. -/
structure Issued (s after : AuthState) (key token : String) : Prop where
  session : ∃ row user, after.sessionRow token = some (row, user) ∧ row.publicKey = key ∧
    row.scope = .member ∧ row.expiresAt = none
  revoked : after.sessionIsRevoked token key = s.isRevoked key
  status : approvalStatus after.db key = approvalStatus s.db key

theorem issueSessionToken_issued {used : AuthState} {ceremony : CeremonyEnv} (db : used.db = s.db)
    (sessions : used.tables.sessions = s.tables.sessions)
    (revocations : used.tables.subkeyRevocations = s.tables.subkeyRevocations)
    (fresh : ∀ session ∈ s.tables.sessions, session.token ≠ ceremony.fresh) :
    Issued s (issueSessionToken used key ceremony).1 key ceremony.fresh := by
  have unused : used.tables.sessions.find? (fun session => session.token = ceremony.fresh) = none := by
    rw [sessions, List.find?_eq_none]
    simpa using fresh
  have opened : (issueSessionToken used key ceremony).1.tables.sessions.find?
      (fun session => session.token = ceremony.fresh) =
        some { token := ceremony.fresh, publicKey := key, createdAt := ceremony.now } := by
    simp [issueSessionToken, insertSession, unused]
  have row : (issueSessionToken used key ceremony).1.db.users[key]? =
      some (s.db.users[key]?.getD { firstSeenAt := ceremony.now }) := by
    simp only [issueSessionToken, insertSession, db, ExtTreeMap.getElem?_insertIfNew, Std.compare_self,
      true_and]
    cases found : s.db.users[key]? with
    | none =>
      have unknown : key ∉ s.db.users := by simp [ExtTreeMap.mem_iff_isSome_getElem?, found]
      rw [if_pos unknown, Option.getD_none]
    | some user =>
      have known : key ∈ s.db.users := ExtTreeMap.mem_iff_isSome_getElem?.mpr (by simp [found])
      rw [if_neg (not_not.mpr known), Option.getD_some]
  refine ⟨?_, ?_, ?_⟩
  · exact ⟨_, _, by rw [AuthState.sessionRow, opened, Option.bind_some, row, Option.map_some], rfl, rfl, rfl⟩
  · have same : (issueSessionToken used key ceremony).1.isRevoked key = s.isRevoked key := by
      simp [AuthState.isRevoked, issueSessionToken, insertSession, revocations]
    simp [AuthState.sessionIsRevoked, opened, same]
  · rw [approvalStatus, row, approvalStatus]
    cases s.db.users[key]? <;> rfl

theorem issues_issued {ceremony : CeremonyEnv} {after : AuthState}
    (issues : Issues outside s ceremony key after)
    (fresh : ∀ session ∈ s.tables.sessions, session.token ≠ ceremony.fresh) :
    Issued s after key ceremony.fresh := by
  cases issues with
  | registered body challenge passkey found finished =>
    rw [registerFinish, found]
    dsimp only
    rw [finished]
    exact issueSessionToken_issued rfl rfl rfl fresh
  | asserted body challenge result found finished =>
    rw [assertFinish, found]
    dsimp only
    rw [finished]
    refine issueSessionToken_issued ?_ ?_ ?_ fresh
    all_goals
      unfold recordUse
      split <;> rfl

theorem issues_accepted {farm : FarmOutside} {cache : FarmCache} {request : HttpRequest} {later : Int}
    {ceremony : CeremonyEnv} {after : AuthState} (ordinary : OrdinaryPath request)
    (plain : '.' ∉ ceremony.fresh.toList) (issues : Issues outside s ceremony key after)
    (fresh : ∀ session ∈ s.tables.sessions, session.token ≠ ceremony.fresh) :
    (fromRequestParts farm after cache ceremony.fresh request later).2.2.isOk = true ↔
      s.isRevoked key = false ∧ approvalStatus s.db key ≠ "pending" := by
  obtain ⟨⟨row, user, found, rfl, member, forever⟩, revoked, status⟩ := issues_issued issues fresh
  rw [fromRequestParts_session ordinary plain found member, revoked, status]
  simp [sessionExpired, forever]

end

theorem passkey_admits_iff (outside : Outside) (farm : FarmOutside) (s after : AuthState) (cache : FarmCache)
    (key : String) (ceremony : CeremonyEnv) (door : VerifyEnv) (request : HttpRequest) (later : Int)
    (issues : Issues outside s ceremony key after) (ordinary : OrdinaryPath request)
    (plain : '.' ∉ ceremony.fresh.toList)
    (fresh : ∀ session ∈ s.tables.sessions, session.token ≠ ceremony.fresh) :
    ((fromRequestParts farm after cache ceremony.fresh request later).2.2.isOk = true →
        VerifyAdmits outside s key door) ↔
      NothingSkipped outside s key door := by
  rw [issues_accepted ordinary plain issues fresh, verifyAdmits_iff, NothingSkipped]
  by_cases revoked : s.isRevoked key = true
  next => simp [revoked]
  next =>
    by_cases pending : approvalStatus s.db key = "pending"
    next => simp [pending]
    next => simp [revoked, pending]

-- A member in the middle of signing in with its passkey.
def passkeyHub (bans : List (String × Option Int)) : AuthState :=
  { db := { users := (∅ : Table User).insert (namedKey 1) { isMember := true } }
    tables := { bans := bans }
    authChallenges := (∅ : Table AuthChallenge).insert "ceremony"
      { userPubkey := namedKey 1, state := "seed", passkeys := [{ credId := "c0", data := "" }] } }

def passkeyLibraries : Outside := softAuthenticator.withKeys openKeys

def assertion : AssertFinishRequest := { sessionId := "ceremony", credential := "c0seed" }

def drawn : CeremonyEnv := { now := 5, fresh := "5eed" }

def passkeyDoor : VerifyEnv := { now := 5, instant := 5, token := "70ken" }

theorem passkeyHub_issues (bans : List (String × Option Int)) :
    Issues passkeyLibraries (passkeyHub bans) drawn (namedKey 1)
      (assertFinish passkeyLibraries (passkeyHub bans) assertion drawn).1 := by
  have found : (passkeyHub bans).authChallenges[assertion.sessionId]? =
      some { userPubkey := namedKey 1, state := "seed", passkeys := [{ credId := "c0", data := "" }] } := by
    simp [passkeyHub, assertion]
  exact .asserted assertion _ { credId := "c0", data := "" } found rfl

theorem passkeyHub_accepts (bans : List (String × Option Int)) :
    (fromRequestParts oneTokenFarm (assertFinish passkeyLibraries (passkeyHub bans) assertion drawn).1 {}
      drawn.fresh { path := "/channels" } 6).2.2.isOk = true := by
  refine (issues_accepted ⟨by decide, by decide⟩ (by decide) (passkeyHub_issues bans) ?_).mpr ⟨?_, ?_⟩
  · intro session listed
    cases listed
  · simp [AuthState.isRevoked, passkeyHub]
  · simp [approvalStatus, passkeyHub]

theorem passkey_admits_iff_member :
    VerifyAdmits passkeyLibraries (passkeyHub []) (namedKey 1) passkeyDoor := by
  refine (passkey_admits_iff passkeyLibraries oneTokenFarm (passkeyHub []) _ {} (namedKey 1) drawn passkeyDoor
    { path := "/channels" } 6 (passkeyHub_issues []) ⟨by decide, by decide⟩ (by decide) ?_).mpr ?_
    (passkeyHub_accepts [])
  · intro session listed
    cases listed
  · refine .inr (.inr ⟨List.replicate 32 7,
      { publicKey := namedKey 1, challenge := hexEncode (List.replicate 32 7), signature := signedBy 1 },
      ⟨rfl, rfl, by simp⟩, ⟨List.replicate 64 1, by simp [signedBy], by decide⟩, none, 0, ?_⟩)
    refine ⟨by decide, by simp, by decide, .inr (.inr (by decide)), ?_, ?_, by decide⟩
    · rintro ⟨⟨challenged, _⟩, _⟩
      exact challenged rfl
    · rintro ⟨stranger, _⟩
      simp [isMember, passkeyHub] at stranger

-- The passkey of a banned member opens a session; its key does not.
theorem passkey_admits_banned :
    ¬ ((fromRequestParts oneTokenFarm
          (assertFinish passkeyLibraries (passkeyHub [(namedKey 1, none)]) assertion drawn).1 {} drawn.fresh
          { path := "/channels" } 6).2.2.isOk = true →
        VerifyAdmits passkeyLibraries (passkeyHub [(namedKey 1, none)]) (namedKey 1) passkeyDoor) := by
  intro keeps
  have banned : (passkeyHub [(namedKey 1, none)]).isBanned (namedKey 1) passkeyDoor.now = true := by
    simp [AuthState.isBanned, passkeyHub]
  obtain ⟨bytes, req, _, _, master, claimed, _, _, gates, _⟩ :=
    verifyAdmits_iff.mp (keeps (passkeyHub_accepts _))
  simp [admissionGates, banned] at gates

end Wavvon
