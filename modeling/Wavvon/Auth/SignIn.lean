import Wavvon.Auth.Verify

set_option autoImplicit false

namespace Wavvon

open Std (ExtTreeMap)

structure RegBeginRequest where
  userPubkey : String
  displayName : Option String := none
  deriving DecidableEq, Repr

structure RegFinishRequest where
  sessionId : String
  credential : String
  friendlyName : Option String := none
  deriving DecidableEq, Repr

structure AssertFinishRequest where
  sessionId : String
  credential : String
  deriving DecidableEq, Repr

-- The clock and the random values one request draws.
structure CeremonyEnv where
  now : Int
  fresh : String
  seed : String := ""
  deriving DecidableEq, Repr

-- A slice that ends inside a character panics.
def sliceTo : List Char → Nat → Option (List Char)
  | [], _ => some []
  | c :: rest, count =>
    if count = 0 then some []
    else if c.utf8Size ≤ count then (sliceTo rest (count - c.utf8Size)).map (c :: ·)
    else none

def firstBytes (text : String) (count : Nat) : Option String :=
  (sliceTo text.toList count).map String.ofList

def AuthState.credentialsOf (s : AuthState) (userPubkey : String) : List (String × PasskeyRow) :=
  s.tables.credentials.toList.filter fun entry => entry.2.userPubkey = userPubkey

def registerBegin (outside : Outside) (s : AuthState) (body : RegBeginRequest) (env : CeremonyEnv) :
    AuthState × Except HttpError String :=
  match body.displayName.or (firstBytes body.userPubkey 8) with
  -- The connection drops without an answer.
  | none => (s, .error (500, ""))
  | some display =>
    let exclude := (s.credentialsOf body.userPubkey).filterMap fun entry => hexDecode entry.1
    match outside.startRegistration body.userPubkey display exclude env.seed with
    | .error e => (s, .error (500, "WebAuthn error: " ++ e))
    | .ok state =>
      let challenge : RegChallenge := { userPubkey := body.userPubkey, state := state }
      ({ s with regChallenges := s.regChallenges.insert env.fresh challenge }, .ok env.fresh)

def issueSessionToken (s : AuthState) (publicKey : String) (env : CeremonyEnv) : AuthState × String :=
  let user : User := { firstSeenAt := env.now }
  let seated := { s with db := { s.db with users := s.db.users.insertIfNew publicKey user } }
  (insertSession seated { token := env.fresh, publicKey := publicKey, createdAt := env.now }, env.fresh)

def storeCredential (s : AuthState) (row : PasskeyRow) : AuthState :=
  { s with tables := { s.tables with
      credentials := s.tables.credentials.insertIfNew row.passkey.credId row } }

def registerFinish (outside : Outside) (s : AuthState) (body : RegFinishRequest) (env : CeremonyEnv) :
    AuthState × Except HttpError String :=
  match s.regChallenges[body.sessionId]? with
  | none => (s, .error (400, "Unknown or expired session"))
  | some challenge =>
    let taken := { s with regChallenges := s.regChallenges.erase body.sessionId }
    match outside.finishRegistration body.credential challenge.state with
    | .error e => (taken, .error (400, "Registration failed: " ++ e))
    | .ok passkey =>
      let stored := storeCredential taken
        { userPubkey := challenge.userPubkey, passkey := passkey
          friendlyName := body.friendlyName, createdAt := env.now }
      let issued := issueSessionToken stored challenge.userPubkey env
      (issued.1, .ok issued.2)

def assertBegin (outside : Outside) (s : AuthState) (userPubkey : String) (env : CeremonyEnv) :
    AuthState × Except HttpError String :=
  let passkeys := (s.credentialsOf userPubkey).map (·.2.passkey)
  if passkeys = [] then (s, .error (404, "No passkeys for this user"))
  else
    match outside.startAuthentication passkeys env.seed with
    | .error e => (s, .error (500, "WebAuthn error: " ++ e))
    | .ok state =>
      let challenge : AuthChallenge := { userPubkey := userPubkey, state := state, passkeys := passkeys }
      ({ s with authChallenges := s.authChallenges.insert env.fresh challenge }, .ok env.fresh)

-- The row is found by its credential id alone, whoever it belongs to by now.
def recordUse (outside : Outside) (s : AuthState) (passkeys : List Passkey) (result : AuthResult)
    (now : Int) : AuthState :=
  match passkeys.find? fun passkey => passkey.credId = result.credId with
  | none => s
  | some passkey =>
    let updated := { passkey with data := outside.updateCredential passkey.data result }
    { s with tables := { s.tables with
        credentials := s.tables.credentials.modify passkey.credId fun row =>
          { row with passkey := updated, lastUsedAt := some now } } }

def assertFinish (outside : Outside) (s : AuthState) (body : AssertFinishRequest) (env : CeremonyEnv) :
    AuthState × Except HttpError String :=
  match s.authChallenges[body.sessionId]? with
  | none => (s, .error (400, "Unknown or expired session"))
  | some challenge =>
    let taken := { s with authChallenges := s.authChallenges.erase body.sessionId }
    match outside.finishAuthentication body.credential challenge.state with
    | .error e => (taken, .error (401, "Authentication failed: " ++ e))
    | .ok result =>
      let used := recordUse outside taken challenge.passkeys result env.now
      let issued := issueSessionToken used challenge.userPubkey env
      (issued.1, .ok issued.2)

-- The user is the key the session extractor resolved the caller's token to.
def deleteCredential (s : AuthState) (user id : String) : AuthState :=
  if s.tables.credentials[id]?.any (·.userPubkey = user) then
    { s with tables := { s.tables with credentials := s.tables.credentials.erase id } }
  else s

def Db.masterOf (db : Db) (key : String) : Option String :=
  db.users[key]?.bind (·.masterPubkey)

/-- A link to a master, once recorded, is never changed. -/
def MastersKept (before after : Db) : Prop :=
  ∀ key master, before.masterOf key = some master → after.masterOf key = some master

theorem MastersKept.refl (db : Db) : MastersKept db db := fun _ _ linked => linked

theorem MastersKept.trans {first second third : Db} (left : MastersKept first second)
    (right : MastersKept second third) : MastersKept first third :=
  fun key master linked => right key master (left key master linked)

theorem mastersKept_of_users {before after : Db} (same : after.users = before.users) :
    MastersKept before after := by
  intro key master linked
  simpa [Db.masterOf, same] using linked

theorem upsertUser_masters (db : Db) (canonical : String) (master : Option String) (status : String)
    (now : Int) : MastersKept db (upsertUser db canonical master status now) := by
  intro key linkedTo linked
  simp only [upsertUser, Db.masterOf, ExtTreeMap.getElem?_insert] at linked ⊢
  split
  next same =>
    obtain rfl : canonical = key := by simpa using same
    cases found : db.users[canonical]? with
    | none => simp [found] at linked
    | some user =>
      simp only [found, Option.bind_some] at linked
      simp [linked]
  next => exact linked

theorem modify_masters (db : Db) (key : String) (change : User → User)
    (same : ∀ user, (change user).masterPubkey = user.masterPubkey) :
    MastersKept db { db with users := db.users.modify key change } := by
  intro other master linked
  simp only [Db.masterOf, ExtTreeMap.getElem?_modify] at linked ⊢
  split
  next hit =>
    obtain rfl : key = other := by simpa using hit
    cases found : db.users[key]? with
    | none => simp [found] at linked
    | some user =>
      simp only [found, Option.bind_some] at linked
      simp [same, linked]
  next => exact linked

/--
What a call may do to the state besides the ceremonies it is about: append session rows and
fill in a missing master.
-/
structure Adds (rows : List Session) (before after : AuthState) : Prop where
  sessions : after.tables.sessions = before.tables.sessions ++ rows
  credentials : after.tables.credentials = before.tables.credentials
  authChallenges : after.authChallenges = before.authChallenges
  masters : MastersKept before.db after.db

theorem Adds.refl (s : AuthState) : Adds [] s s :=
  ⟨by simp, rfl, rfl, MastersKept.refl s.db⟩

theorem Adds.trans {left right : List Session} {first second third : AuthState}
    (front : Adds left first second) (back : Adds right second third) :
    Adds (left ++ right) first third where
  sessions := by rw [back.sessions, front.sessions, List.append_assoc]
  credentials := by rw [back.credentials, front.credentials]
  authChallenges := by rw [back.authChallenges, front.authChallenges]
  masters := front.masters.trans back.masters

theorem insertSession_adds (s : AuthState) (session : Session) :
    Adds [session] s (insertSession s session) :=
  ⟨rfl, rfl, rfl, MastersKept.refl s.db⟩

theorem issueSessionToken_masterOf (state : AuthState) (publicKey : String) (env : CeremonyEnv)
    (key : String) :
    (issueSessionToken state publicKey env).1.db.masterOf key = state.db.masterOf key := by
  simp only [issueSessionToken, insertSession, Db.masterOf, ExtTreeMap.getElem?_insertIfNew]
  split
  next absent =>
    obtain ⟨rfl, absent⟩ : publicKey = key ∧ publicKey ∉ state.db.users := by simpa using absent
    simp [absent]
  next => rfl

theorem issueSessionToken_masters (state : AuthState) (publicKey : String) (env : CeremonyEnv) :
    MastersKept state.db (issueSessionToken state publicKey env).1.db := by
  intro key master linked
  rw [issueSessionToken_masterOf]
  exact linked

theorem raisePowLevel_masters (db : Db) (canonical : String) (level : Nat) :
    MastersKept db (raisePowLevel db canonical level) := by
  unfold raisePowLevel
  split
  · exact modify_masters db canonical _ fun _ => rfl
  · exact MastersKept.refl db

theorem seatUser_adds (s : AuthState) (req : VerifyRequest) (canonical : String)
    (master : Option String) (claimed : Nat) (env : VerifyEnv) :
    Adds [] s (seatUser s req canonical master claimed env) := by
  refine ⟨?_, ?_, rfl, ?_⟩
  · cases presented : req.subkeyCert <;> simp [seatUser, presented, upsertSubkeyCert]
  · cases presented : req.subkeyCert <;> simp [seatUser, presented, upsertSubkeyCert]
  · exact (upsertUser_masters s.db canonical master _ env.now).trans
      (raisePowLevel_masters _ canonical claimed)

theorem challengeGate_adds {s passed : AuthState} {req : VerifyRequest} {now : Int}
    (through : challengeGate s req now = .ok passed) : Adds [] s passed := by
  unfold challengeGate at through
  split at through
  · cases through
  · split at through
    · cases through
    · repeat' split at through
      all_goals cases through
      exact ⟨by simp, rfl, rfl, MastersKept.refl s.db⟩

theorem redeemInvite_adds {s spent : AuthState} {req : VerifyRequest} {canonical : String}
    {master : Option String} {now : Int} {redemption : Option InviteRedemption}
    (through : redeemInvite s req canonical master now = .ok (spent, redemption)) : Adds [] s spent := by
  unfold redeemInvite validateAndUseInvite at through
  repeat' split at through
  all_goals grind [Adds, MastersKept]

theorem admitNewcomer_users (s : AuthState) (canonical : String) (firstUser : Bool)
    (redemption : Option InviteRedemption) :
    (admitNewcomer s canonical firstUser redemption).db.users = (admitMember s.db canonical).users := by
  unfold admitNewcomer assignRole
  dsimp only
  repeat' split
  all_goals rfl

theorem admitNewcomer_adds (s : AuthState) (canonical : String) (firstUser : Bool)
    (redemption : Option InviteRedemption) : Adds [] s (admitNewcomer s canonical firstUser redemption) := by
  have admitted : MastersKept s.db (admitMember s.db canonical) :=
    modify_masters s.db canonical _ fun _ => rfl
  exact ⟨by simp [admitNewcomer], rfl, rfl,
    admitted.trans (mastersKept_of_users (admitNewcomer_users s canonical firstUser redemption))⟩

theorem registerPeer_adds (s : AuthState) (canonical : String) : Adds [] s (registerPeer s canonical) :=
  ⟨by simp [registerPeer], rfl, rfl, MastersKept.refl s.db⟩

theorem takeChallenge_adds (s : AuthState) (challenge : String) : Adds [] s (takeChallenge s challenge) :=
  ⟨by simp [takeChallenge], rfl, rfl, MastersKept.refl s.db⟩

theorem recordVisit_adds (s : AuthState) (subject : String) (visitor : VoiceVisitor) (env : VerifyEnv) :
    Adds [] s (recordVisit s subject visitor env) :=
  ⟨by simp [recordVisit], rfl, rfl, mastersKept_of_users rfl⟩

theorem openSession_adds (s : AuthState) (req : VerifyRequest) (canonical : String)
    (master : Option String) (exempt firstUser : Bool) (env : VerifyEnv) :
    ∃ rows, Adds rows s (openSession s req canonical master exempt firstUser env).1 ∧
      ∀ row ∈ rows, row.publicKey = canonical := by
  unfold openSession
  dsimp only
  split
  next => exact ⟨[], Adds.refl s, by simp⟩
  next passed through =>
    have gated : Adds [] s passed := by
      split at through
      · exact challengeGate_adds through
      · cases through
        exact Adds.refl s
    have opened (session : Session) := gated.trans (insertSession_adds passed session)
    split
    · exact ⟨_, (opened _).trans (registerPeer_adds _ canonical), by simp⟩
    · split
      · exact ⟨_, opened _, by simp⟩
      · split
        next => exact ⟨_, opened _, by simp⟩
        next spent redemption redeemed =>
          exact ⟨_, ((opened _).trans (redeemInvite_adds redeemed)).trans (admitNewcomer_adds ..), by simp⟩

-- The identity a sign-in is for: the signing key itself, or one its certificate's master stands for.
theorem resolveCanonicalIdentity_cases {outside : Outside} {s : AuthState} {authPubkey canonical : String}
    {cert : Option SubkeyCert} {now : Int} {master : Option String}
    (resolved : resolveCanonicalIdentity outside s authPubkey cert now = .ok (canonical, master)) :
    canonical = authPubkey ∨
      ∃ shown, outside.certVerifies shown = true ∧ shown.subkeyPubkey = authPubkey ∧
        (canonical = shown.masterPubkey ∨ s.db.masterOf canonical = some shown.masterPubkey) := by
  unfold resolveCanonicalIdentity at resolved
  split at resolved
  · cases resolved
  · split at resolved
    next =>
      cases resolved
      exact .inl rfl
    next shown =>
      split at resolved
      · cases resolved
      split at resolved
      · cases resolved
      split at resolved
      · cases resolved
      next verified own _ =>
        have verified : outside.certVerifies shown = true := by simpa using verified
        have own : shown.subkeyPubkey = authPubkey := by simpa using own
        dsimp only at resolved
        split at resolved
        next row found =>
          cases resolved
          refine .inr ⟨shown, verified, own, .inr ?_⟩
          have linked := List.find?_some found
          have present := List.mem_of_find?_eq_some found
          rw [ExtTreeMap.mem_toList_iff_getElem?_eq_some] at present
          simpa [Db.masterOf, present] using linked
        next =>
          split at resolved <;> cases resolved
          · exact .inl rfl
          · exact .inr ⟨shown, verified, own, .inl rfl⟩

-- The signature on the pending challenge verified under the request's own key.
def Signed (outside : Outside) (s : AuthState) (req : VerifyRequest) : Prop :=
  ∃ pending signature, s.pendingChallenges[req.challenge]? = some pending ∧
    pending.publicKey = req.publicKey ∧ hexDecode req.signature = some signature ∧
    outside.verifyAuthChallenge req.publicKey pending.challengeBytes signature = true

theorem checkChallenge_signed {outside : Outside} {s : AuthState} {req : VerifyRequest}
    {pending : PendingChallenge} {instant : Int} (found : s.pendingChallenges[req.challenge]? = some pending)
    (passed : checkChallenge outside pending req instant = .ok ()) : Signed outside s req := by
  unfold checkChallenge at passed
  repeat' split at passed
  all_goals grind [Signed]

theorem verify_adds (outside : Outside) (s : AuthState) (req : VerifyRequest) (env : VerifyEnv) :
    ∃ rows, Adds rows s (verify outside s req env).1 ∧
      ∀ row ∈ rows, Signed outside s req ∧
        ∃ master, resolveCanonicalIdentity outside s req.publicKey req.subkeyCert env.now =
          .ok (row.publicKey, master) := by
  unfold verify
  split
  next => exact ⟨[], Adds.refl s, by simp⟩
  next pending found =>
    dsimp only
    have taken := takeChallenge_adds s req.challenge
    split
    next => exact ⟨[], taken, by simp⟩
    next passed =>
      have signed := checkChallenge_signed found passed
      split
      next => exact ⟨[], taken, by simp⟩
      next canonical master resolved =>
        split
        next =>
          split
          next => exact ⟨[], taken, by simp⟩
          next visitor _ => exact ⟨[], taken.trans (recordVisit_adds _ canonical visitor env), by simp⟩
        next =>
          split
          next => exact ⟨[], taken, by simp⟩
          next claimed _ =>
            have seated := taken.trans (seatUser_adds _ req canonical master claimed env)
            obtain ⟨rows, added, own⟩ := openSession_adds
              (seatUser (takeChallenge s req.challenge) req canonical master claimed env)
              req canonical master (ownerExempt (takeChallenge s req.challenge) req canonical)
              (decide (existingUsers (takeChallenge s req.challenge) = 0)) env
            refine ⟨rows, seated.trans added, ?_⟩
            intro row member
            rw [own row member]
            exact ⟨signed, master, resolved⟩

end Wavvon
