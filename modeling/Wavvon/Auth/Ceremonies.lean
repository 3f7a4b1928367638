import Wavvon.Auth.SignIn

set_option autoImplicit false

namespace Wavvon

open Std (ExtTreeMap)
open Wire (Bytes)

inductive AuthCall where
  | challenge (publicKey : String) (bytes : Bytes) (instant : Int)
  | verify (req : VerifyRequest) (env : VerifyEnv)
  | registerBegin (body : RegBeginRequest) (env : CeremonyEnv)
  | registerFinish (body : RegFinishRequest) (env : CeremonyEnv)
  | assertBegin (userPubkey : String) (env : CeremonyEnv)
  | assertFinish (body : AssertFinishRequest) (env : CeremonyEnv)
  | deleteCredential (user id : String)
  deriving DecidableEq, Repr

namespace AuthCall

-- The state after the call, and the session token its answer carries.
def serve (outside : Outside) (s : AuthState) : AuthCall → AuthState × Option String
  | .challenge publicKey bytes instant => (Wavvon.challenge s publicKey bytes instant, none)
  | .verify req env =>
    let answer := Wavvon.verify outside s req env
    (answer.1, answer.2.toOption.map (·.token))
  | .registerBegin body env => ((Wavvon.registerBegin outside s body env).1, none)
  | .registerFinish body env =>
    let answer := Wavvon.registerFinish outside s body env
    (answer.1, answer.2.toOption)
  | .assertBegin userPubkey env => ((Wavvon.assertBegin outside s userPubkey env).1, none)
  | .assertFinish body env =>
    let answer := Wavvon.assertFinish outside s body env
    (answer.1, answer.2.toOption)
  | .deleteCredential user id => (Wavvon.deleteCredential s user id, none)

def next (outside : Outside) (s : AuthState) (call : AuthCall) : AuthState := (call.serve outside s).1

-- The key a registration was begun for and the passkey the library accepted for it.
def accepted (outside : Outside) (s : AuthState) : AuthCall → Option (String × Passkey)
  | .registerFinish body _ =>
    (s.regChallenges[body.sessionId]?).bind fun challenge =>
      (outside.finishRegistration body.credential challenge.state).toOption.map fun passkey =>
        (challenge.userPubkey, passkey)
  | _ => none

-- The key an assertion was begun for and the credential the library accepted.
def asserted (outside : Outside) (s : AuthState) : AuthCall → Option (AuthChallenge × AuthResult)
  | .assertFinish body _ =>
    (s.authChallenges[body.sessionId]?).bind fun challenge =>
      (outside.finishAuthentication body.credential challenge.state).toOption.map fun result =>
        (challenge, result)
  | _ => none

-- Where a session row the call inserts comes from.
def Opens (outside : Outside) (s : AuthState) (call : AuthCall) (row : Session) : Prop :=
  (∃ req env master, call = .verify req env ∧ Signed outside s req ∧
      resolveCanonicalIdentity outside s req.publicKey req.subkeyCert env.now =
        .ok (row.publicKey, master)) ∨
    (∃ passkey, call.accepted outside s = some (row.publicKey, passkey)) ∨
    ∃ challenge result, call.asserted outside s = some (challenge, result) ∧
      challenge.userPubkey = row.publicKey

-- A credential row after a call: untouched, touched by its own use, or just registered.
def Stores (outside : Outside) (s : AuthState) (call : AuthCall) (id : String) (row : PasskeyRow) : Prop :=
  s.tables.credentials[id]? = some row ∨
    row.passkey.credId = id ∧
      ((∃ old, s.tables.credentials[id]? = some old ∧ old.userPubkey = row.userPubkey) ∨
        s.tables.credentials[id]? = none ∧ ∃ passkey, passkey.credId = id ∧
          call.accepted outside s = some (row.userPubkey, passkey))

-- A pending assertion after a call: already there, or begun over the key's stored passkeys.
def Pends (outside : Outside) (s : AuthState) (sessionId : String) (challenge : AuthChallenge) : Prop :=
  s.authChallenges[sessionId]? = some challenge ∨
    (∃ seed, outside.startAuthentication challenge.passkeys seed = .ok challenge.state) ∧
      ∀ passkey ∈ challenge.passkeys, ∃ (id : String) (row : PasskeyRow),
        s.tables.credentials[id]? = some row ∧ row.passkey = passkey ∧
          row.userPubkey = challenge.userPubkey

/-- All a call may do to session rows, links to masters, passkeys and pending assertions. -/
structure Effect (outside : Outside) (s : AuthState) (call : AuthCall) (after : AuthState) : Prop where
  sessions : ∃ rows, after.tables.sessions = s.tables.sessions ++ rows ∧
    ∀ row ∈ rows, call.Opens outside s row
  masters : MastersKept s.db after.db
  credentials : ∀ id row, after.tables.credentials[id]? = some row → call.Stores outside s id row
  pending : ∀ sessionId challenge, after.authChallenges[sessionId]? = some challenge →
    Pends outside s sessionId challenge

variable {outside : Outside} {s : AuthState}

theorem toOption_eq_some {E V : Type} {answer : Except E V} {value : V} :
    answer.toOption = some value ↔ answer = .ok value := by
  cases answer <;> simp [Except.toOption]

theorem accepted_iff {call : AuthCall} {key : String} {passkey : Passkey} :
    call.accepted outside s = some (key, passkey) ↔
      ∃ body env challenge, call = .registerFinish body env ∧
        s.regChallenges[body.sessionId]? = some challenge ∧
        outside.finishRegistration body.credential challenge.state = .ok passkey ∧
        challenge.userPubkey = key := by
  cases call <;> simp [accepted, Option.bind_eq_some_iff, toOption_eq_some]

theorem asserted_iff {call : AuthCall} {challenge : AuthChallenge} {result : AuthResult} :
    call.asserted outside s = some (challenge, result) ↔
      ∃ body env, call = .assertFinish body env ∧
        s.authChallenges[body.sessionId]? = some challenge ∧
        outside.finishAuthentication body.credential challenge.state = .ok result := by
  cases call <;> simp [asserted, Option.bind_eq_some_iff, toOption_eq_some]

theorem effect_of_adds {call : AuthCall} {after : AuthState} {rows : List Session}
    (added : Adds rows s after) (opened : ∀ row ∈ rows, call.Opens outside s row) :
    Effect outside s call after where
  sessions := ⟨rows, added.sessions, opened⟩
  masters := added.masters
  credentials _ _ found := .inl (added.credentials ▸ found)
  pending _ _ found := .inl (added.authChallenges ▸ found)

theorem effect_of_quiet {call : AuthCall} {after : AuthState} (added : Adds [] s after) :
    Effect outside s call after :=
  effect_of_adds added (by simp)

theorem challenge_effect (publicKey : String) (bytes : Bytes) (instant : Int) :
    Effect outside s (.challenge publicKey bytes instant) (Wavvon.challenge s publicKey bytes instant) :=
  effect_of_quiet ⟨by simp [Wavvon.challenge], rfl, rfl, MastersKept.refl s.db⟩

theorem verify_effect (req : VerifyRequest) (env : VerifyEnv) :
    Effect outside s (.verify req env) (Wavvon.verify outside s req env).1 := by
  obtain ⟨rows, added, opened⟩ := verify_adds outside s req env
  refine effect_of_adds added fun row member => .inl ?_
  obtain ⟨signed, master, resolved⟩ := opened row member
  exact ⟨req, env, master, rfl, signed, resolved⟩

theorem registerBegin_effect (body : RegBeginRequest) (env : CeremonyEnv) :
    Effect outside s (.registerBegin body env) (Wavvon.registerBegin outside s body env).1 := by
  apply effect_of_quiet
  unfold Wavvon.registerBegin
  split
  · exact Adds.refl s
  · dsimp only
    split
    · exact Adds.refl s
    · exact ⟨by simp, rfl, rfl, MastersKept.refl s.db⟩

theorem registerFinish_effect (body : RegFinishRequest) (env : CeremonyEnv) :
    Effect outside s (.registerFinish body env) (Wavvon.registerFinish outside s body env).1 := by
  unfold Wavvon.registerFinish
  split
  next => exact effect_of_quiet (Adds.refl s)
  next challenge found =>
    dsimp only
    split
    next => exact effect_of_quiet ⟨by simp, rfl, rfl, MastersKept.refl s.db⟩
    next passkey finished =>
      have took : (AuthCall.registerFinish body env).accepted outside s =
          some (challenge.userPubkey, passkey) :=
        accepted_iff.mpr ⟨body, env, challenge, rfl, found, finished, rfl⟩
      refine ⟨⟨[_], rfl, ?_⟩, issueSessionToken_masters _ _ env, ?_, fun _ _ pending => .inl pending⟩
      · intro row member
        obtain rfl := List.mem_singleton.mp member
        exact .inr (.inl ⟨passkey, took⟩)
      · intro id row stored
        simp only [issueSessionToken, insertSession, storeCredential,
          ExtTreeMap.getElem?_insertIfNew] at stored
        split at stored
        next absent =>
          cases stored
          obtain ⟨own, absent⟩ : passkey.credId = id ∧ passkey.credId ∉ s.tables.credentials := by
            simpa using absent
          refine .inr ⟨own, .inr ⟨?_, passkey, own, took⟩⟩
          rw [← own]
          exact ExtTreeMap.getElem?_eq_none absent
        next => exact .inl stored

theorem credentialsOf_row {userPubkey id : String} {row : PasskeyRow}
    (member : (id, row) ∈ s.credentialsOf userPubkey) :
    s.tables.credentials[id]? = some row ∧ row.userPubkey = userPubkey := by
  simpa [AuthState.credentialsOf, ExtTreeMap.mem_toList_iff_getElem?_eq_some] using member

theorem assertBegin_effect (userPubkey : String) (env : CeremonyEnv) :
    Effect outside s (.assertBegin userPubkey env) (Wavvon.assertBegin outside s userPubkey env).1 := by
  unfold Wavvon.assertBegin
  dsimp only
  split
  next => exact effect_of_quiet (Adds.refl s)
  next =>
    split
    next => exact effect_of_quiet (Adds.refl s)
    next state started =>
      refine ⟨⟨[], by simp, by simp⟩, MastersKept.refl s.db, fun _ _ stored => .inl stored, ?_⟩
      intro sessionId challenge pending
      simp only [ExtTreeMap.getElem?_insert] at pending
      split at pending
      next =>
        cases pending
        refine .inr ⟨⟨env.seed, started⟩, fun passkey member => ?_⟩
        obtain ⟨⟨id, row⟩, listed, rfl⟩ := List.mem_map.mp member
        obtain ⟨stored, own⟩ := credentialsOf_row listed
        exact ⟨id, row, stored, rfl, own⟩
      next => exact .inl pending

theorem recordUse_credentials {passkeys : List Passkey} {result : AuthResult} {now : Int}
    {id : String} {row : PasskeyRow}
    (stored : (recordUse outside s passkeys result now).tables.credentials[id]? = some row) :
    s.tables.credentials[id]? = some row ∨
      row.passkey.credId = id ∧ ∃ old, s.tables.credentials[id]? = some old ∧
        old.userPubkey = row.userPubkey := by
  unfold recordUse at stored
  split at stored
  next => exact .inl stored
  next passkey _ =>
    simp only [ExtTreeMap.getElem?_modify] at stored
    split at stored
    next hit =>
      obtain rfl : passkey.credId = id := by simpa using hit
      obtain ⟨old, found, rfl⟩ := Option.map_eq_some_iff.mp stored
      exact .inr ⟨rfl, old, found, rfl⟩
    next => exact .inl stored

theorem recordUse_frame (passkeys : List Passkey) (result : AuthResult) (now : Int) :
    (recordUse outside s passkeys result now).tables.sessions = s.tables.sessions ∧
      (recordUse outside s passkeys result now).db = s.db ∧
      (recordUse outside s passkeys result now).authChallenges = s.authChallenges := by
  unfold recordUse
  split <;> exact ⟨rfl, rfl, rfl⟩

theorem erased_pending {sessionId other : String} {challenge : AuthChallenge}
    (pending : (s.authChallenges.erase sessionId)[other]? = some challenge) :
    s.authChallenges[other]? = some challenge := by
  rw [ExtTreeMap.getElem?_erase] at pending
  split at pending
  · cases pending
  · exact pending

theorem assertFinish_effect (body : AssertFinishRequest) (env : CeremonyEnv) :
    Effect outside s (.assertFinish body env) (Wavvon.assertFinish outside s body env).1 := by
  unfold Wavvon.assertFinish
  split
  next => exact effect_of_quiet (Adds.refl s)
  next challenge found =>
    dsimp only
    split
    next =>
      exact ⟨⟨[], by simp, by simp⟩, MastersKept.refl s.db, fun _ _ stored => .inl stored,
        fun _ _ pending => .inl (erased_pending pending)⟩
    next result finished =>
      have took : (AuthCall.assertFinish body env).asserted outside s = some (challenge, result) :=
        asserted_iff.mpr ⟨body, env, rfl, found, finished⟩
      let taken := { s with authChallenges := s.authChallenges.erase body.sessionId }
      obtain ⟨sameSessions, sameDb, samePending⟩ :=
        @recordUse_frame outside taken challenge.passkeys result env.now
      refine ⟨⟨[_], congrArg (· ++ [_]) sameSessions, ?_⟩, ?_, ?_, ?_⟩
      · intro row member
        obtain rfl := List.mem_singleton.mp member
        exact .inr (.inr ⟨challenge, result, took, rfl⟩)
      · exact (mastersKept_of_users (congrArg Db.users sameDb)).trans (issueSessionToken_masters _ _ env)
      · intro id row stored
        rcases recordUse_credentials (s := taken) stored with stored | ⟨own, old⟩
        · exact .inl stored
        · exact .inr ⟨own, .inl old⟩
      · intro sessionId other pending
        exact .inl (erased_pending (samePending ▸ pending))

theorem deleteCredential_effect (user id : String) :
    Effect outside s (.deleteCredential user id) (Wavvon.deleteCredential s user id) := by
  unfold Wavvon.deleteCredential
  split
  · refine ⟨⟨[], by simp, by simp⟩, MastersKept.refl s.db, ?_, fun _ _ pending => .inl pending⟩
    intro other row stored
    rw [ExtTreeMap.getElem?_erase] at stored
    split at stored
    · cases stored
    · exact .inl stored
  · exact effect_of_quiet (Adds.refl s)

theorem serve_effect (call : AuthCall) : Effect outside s call (call.serve outside s).1 := by
  cases call with
  | challenge publicKey bytes instant => exact challenge_effect publicKey bytes instant
  | verify req env => exact verify_effect req env
  | registerBegin body env => exact registerBegin_effect body env
  | registerFinish body env => exact registerFinish_effect body env
  | assertBegin userPubkey env => exact assertBegin_effect userPubkey env
  | assertFinish body env => exact assertFinish_effect body env
  | deleteCredential user id => exact deleteCredential_effect user id

end AuthCall

end Wavvon
