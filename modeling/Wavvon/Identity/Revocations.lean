import Wavvon.Auth.Doors
import Wavvon.Auth.Sessions
import Wavvon.Identity.RegistryEffect
import Wavvon.Shared.Runs

set_option autoImplicit false

namespace Wavvon

open Std (ExtTreeMap)
open Tables (Nested)

def AuthState.SignedIn (s : AuthState) (key : String) : Prop :=
  ∃ row ∈ s.tables.sessions, row.publicKey = key ∨ row.devicePubkey = some key

-- A key is its own master's, the one its row carries, or the one a certificate for it names.
def AuthState.Linked (keys : Keys) (s : AuthState) (master key : String) : Prop :=
  key = master ∨ s.db.masterOf key = some master ∨
    ∃ row, s.tables.subkeyCerts.get master key = some row ∧ row.cert.masterPubkey = master ∧
      row.cert.subkeyPubkey = key ∧ row.cert.verify keys = .ok ()

structure Revokes (keys : Keys) (s : AuthState) (master key : String) (entry : RevocationEntry) :
    Prop where
  stored : s.tables.subkeyRevocations.get master key = some entry
  byMaster : entry.masterPubkey = master
  names : entry.subkeyPubkey = key
  signed : entry.verify keys = .ok ()

def RevokedByOwn (keys : Keys) (s : AuthState) (key : String) : Prop :=
  ∃ master entry, Revokes keys s master key entry ∧ s.Linked keys master key

/-- No key that has signed in is locked out except by a master of its own. -/
structure OwnMasterRevokes (keys : Keys) (s : AuthState) : Prop where
  revoked : ∀ key, s.SignedIn key → s.isRevoked key = true → RevokedByOwn keys s key
  sessionRevoked : ∀ token key, s.SignedIn key → s.sessionIsRevoked token key = true →
    RevokedByOwn keys s key ∨ ∃ session device,
      s.tables.sessions.find? (fun session => session.token = token) = some session ∧
        session.devicePubkey = some device ∧ RevokedByOwn keys s device

section

variable {keys : Keys} {s : AuthState}

theorem isRevoked_iff {key : String} :
    s.isRevoked key = true ↔ ∃ master entry, s.tables.subkeyRevocations.get master key = some entry := by
  simp only [AuthState.isRevoked, List.any_eq_true, Prod.exists, decide_eq_true_eq, Nested.get]
  constructor
  · rintro ⟨master, inner, listed, present⟩
    refine ⟨master, inner[key], ?_⟩
    rw [ExtTreeMap.mem_toList_iff_getElem?_eq_some.mp listed, Option.bind_some]
    exact ExtTreeMap.getElem?_eq_some_getElem present
  · rintro ⟨master, entry, found⟩
    obtain ⟨inner, outer, stored⟩ := Option.bind_eq_some_iff.mp found
    refine ⟨master, inner, ExtTreeMap.mem_toList_iff_getElem?_eq_some.mpr outer, ?_⟩
    exact ExtTreeMap.mem_iff_isSome_getElem?.mpr (by simp [stored])

theorem ownMasterRevokes_of (own : ∀ key, s.SignedIn key → s.isRevoked key = true → RevokedByOwn keys s key) :
    OwnMasterRevokes keys s where
  revoked := own
  sessionRevoked token key signedIn revoked := by
    rcases Bool.or_eq_true_iff.mp revoked with direct | throughDevice
    · exact .inl (own key signedIn direct)
    · refine .inr ?_
      cases found : s.tables.sessions.find? fun session => session.token = token with
      | none => simp [found] at throughDevice
      | some session =>
        rw [found, Option.any_some] at throughDevice
        cases named : session.devicePubkey with
        | none => simp [named] at throughDevice
        | some device =>
          have lost : s.isRevoked device = true := by simpa [named] using throughDevice
          have holder : s.SignedIn device := ⟨session, List.mem_of_find?_eq_some found, .inr named⟩
          exact ⟨session, device, rfl, named, own device holder lost⟩

theorem writes_signed {outside : Outside} {farm : FarmOutside} {registry : Registry} {row : DeviceRow}
    {call : RegistryCall} (writes : Writes outside farm keys registry row call) :
    row.cert.verify keys = .ok () := by
  cases call with
  | auth call =>
    obtain ⟨cert, presents, rfl⟩ := writes
    cases call with
    | verify req env =>
      obtain ⟨presented, canonical, master, claimed, seats⟩ := presents
      have resolved := seats.resolved
      rw [presented] at resolved
      unfold resolveCanonicalIdentity at resolved
      split at resolved
      · cases resolved
      · dsimp only at resolved
        split at resolved
        · cases resolved
        next verified =>
          have passed : (cert.verify keys).isOk = true := by simpa [Outside.withKeys] using verified
          show cert.verify keys = .ok ()
          cases checked : cert.verify keys with
          | ok => rfl
          | error e => simp [checked, Except.isOk, Except.toBool] at passed
    | _ => exact presents.elim
  | postDevice token master cert now =>
    obtain ⟨⟨user, _, _, _, signed, _⟩, rfl⟩ := writes
    exact signed
  | postComplete complete now =>
    obtain ⟨accepted, rfl⟩ := writes
    exact accepted.signed
  | _ => exact writes.elim

end

-- The identity a call opens a session for; a device that signs in is not revoked.
def AuthCall.SignsIn (outside : Outside) (s : AuthState) (key : String) : AuthCall → Prop
  | .verify req env => ∃ master claimed, Seats outside s req env key master claimed
  | call => (∃ passkey, call.accepted outside s = some (key, passkey)) ∨
      ∃ challenge result, call.asserted outside s = some (challenge, result) ∧ challenge.userPubkey = key

def NewSession (outside : Outside) (s : AuthState) (call : AuthCall) (row : Session) : Prop :=
  call.SignsIn outside s row.publicKey ∧ ∀ device, row.devicePubkey = some device → s.isRevoked device = false

section

variable {outside : Outside} {s : AuthState}

theorem seats_unrevoked {req : VerifyRequest} {env : VerifyEnv} {canonical : String}
    {master : Option String} {claimed : Nat} (seats : Seats outside s req env canonical master claimed) :
    s.isRevoked req.publicKey = false := by
  have resolved := seats.resolved
  unfold resolveCanonicalIdentity at resolved
  split at resolved
  · cases resolved
  next fresh => simpa using fresh

theorem sessionOutcome_sessions {req : VerifyRequest} {env : VerifyEnv} {canonical : String}
    {master : Option String} {exempt firstUser : Bool}
    {outcome : AuthState × Except HttpError VerifyResponse}
    (ended : SessionOutcome s req canonical master exempt env firstUser outcome) :
    ∀ row ∈ outcome.1.tables.sessions, row ∈ s.tables.sessions ∨
      row.publicKey = canonical ∧ row.devicePubkey = some req.publicKey := by
  have opened : ∀ passed, Answers s req canonical master env passed →
      ∀ row ∈ (withSession s req canonical exempt env passed).tables.sessions,
        row ∈ s.tables.sessions ∨ row.publicKey = canonical ∧ row.devicePubkey = some req.publicKey := by
    intro passed answers row member
    obtain ⟨tokens, rfl⟩ := answers_frame answers
    rcases List.mem_append.mp member with old | new
    · exact .inl old
    · obtain rfl := List.mem_singleton.mp new
      exact .inr ⟨rfl, rfl⟩
  cases ended with
  | unanswered e faces refused => exact fun row member => .inl member
  | peer passed answers arrives => exact opened passed answers
  | member belongs =>
    refine opened s ?_
    have skips : ¬ FacesChallenge s req canonical master := by simp [FacesChallenge, belongs]
    rw [Answers, if_neg skips]
  | uninvited passed e answers stranger person refused => exact opened passed answers
  | admitted passed spent redemption answers stranger person redeemed =>
    obtain ⟨invites, rfl⟩ := redeemInvite_frame redeemed
    exact opened passed answers

theorem verify_newSession (req : VerifyRequest) (env : VerifyEnv) :
    ∀ row ∈ (verify outside s req env).1.tables.sessions,
      row ∈ s.tables.sessions ∨ NewSession outside s (.verify req env) row := by
  intro row member
  rcases verify_cases outside s req env with ⟨e, same | same⟩ | ⟨canonical, visitor, _, same⟩ |
    ⟨canonical, master, claimed, seats⟩
  · rw [same] at member
    exact .inl member
  · rw [same] at member
    exact .inl member
  · rw [same] at member
    exact .inl member
  · rw [verify_seats seats] at member
    rcases sessionOutcome_sessions (afterSeat_outcome s req env canonical master claimed) row member with
      old | ⟨identity, device⟩
    · rw [seatUser_tables] at old
      exact .inl old
    · refine .inr ⟨identity ▸ ⟨master, claimed, seats⟩, ?_⟩
      intro key named
      rw [device] at named
      cases named
      exact seats_unrevoked seats

-- A passkey session names no device.
theorem issued_newSession {call : AuthCall} {before : AuthState} {key : String} {env : CeremonyEnv}
    (sessions : before.tables.sessions = s.tables.sessions) (signsIn : call.SignsIn outside s key) :
    ∀ row ∈ (issueSessionToken before key env).1.tables.sessions,
      row ∈ s.tables.sessions ∨ NewSession outside s call row := by
  intro row member
  rcases List.mem_append.mp member with old | new
  · exact .inl (sessions ▸ old)
  · obtain rfl := List.mem_singleton.mp new
    exact .inr ⟨signsIn, fun device named => by cases named⟩

theorem registerFinish_newSession (body : RegFinishRequest) (env : CeremonyEnv) :
    ∀ row ∈ (registerFinish outside s body env).1.tables.sessions,
      row ∈ s.tables.sessions ∨ NewSession outside s (.registerFinish body env) row := by
  unfold registerFinish
  split
  next => exact fun row member => .inl member
  next challenge found =>
    dsimp only
    split
    next => exact fun row member => .inl member
    next passkey finished =>
      have took := AuthCall.accepted_iff.mpr ⟨body, env, challenge, rfl, found, finished, rfl⟩
      exact issued_newSession rfl (.inl ⟨passkey, took⟩)

theorem assertFinish_newSession (body : AssertFinishRequest) (env : CeremonyEnv) :
    ∀ row ∈ (assertFinish outside s body env).1.tables.sessions,
      row ∈ s.tables.sessions ∨ NewSession outside s (.assertFinish body env) row := by
  unfold assertFinish
  split
  next => exact fun row member => .inl member
  next challenge found =>
    dsimp only
    split
    next => exact fun row member => .inl member
    next result finished =>
      have took := AuthCall.asserted_iff.mpr ⟨body, env, rfl, found, finished⟩
      let taken := { s with authChallenges := s.authChallenges.erase body.sessionId }
      have used := @AuthCall.recordUse_frame outside taken challenge.passkeys result env.now
      exact issued_newSession used.1 (.inr ⟨challenge, result, took, rfl⟩)

theorem quiet_sessions {call : AuthCall} (unsigned : ∀ req env, call ≠ .verify req env)
    (unregistered : call.accepted outside s = none) (unasserted : call.asserted outside s = none) :
    ∀ row ∈ (call.next outside s).tables.sessions, row ∈ s.tables.sessions := by
  intro row member
  obtain ⟨rows, same, opened⟩ := (AuthCall.serve_effect call : AuthCall.Effect outside s call _).sessions
  have listed : row ∈ s.tables.sessions ++ rows := same ▸ member
  rcases List.mem_append.mp listed with old | new
  · exact old
  · rcases opened row new with ⟨req, env, _, named, _⟩ | ⟨passkey, took⟩ | ⟨challenge, result, took, _⟩
    · exact absurd named (unsigned req env)
    · simp [unregistered] at took
    · simp [unasserted] at took

theorem next_newSession (call : AuthCall) :
    ∀ row ∈ (call.next outside s).tables.sessions,
      row ∈ s.tables.sessions ∨ NewSession outside s call row := by
  cases call with
  | verify req env => exact verify_newSession req env
  | registerFinish body env => exact registerFinish_newSession body env
  | assertFinish body env => exact assertFinish_newSession body env
  | challenge | registerBegin | assertBegin | deleteCredential =>
    exact fun row member => .inl (quiet_sessions (by simp) rfl rfl row member)

end

section

variable {keys : Keys}

/-- Links, revocations and sessions as one step of the registry leaves them. -/
structure LinksGrow (keys : Keys) (before after : AuthState) : Prop where
  linked : ∀ master key, before.Linked keys master key → after.Linked keys master key
  stored : ∀ master key entry, before.tables.subkeyRevocations.get master key = some entry →
    after.tables.subkeyRevocations.get master key = some entry

theorem LinksGrow.revokedByOwn {before after : AuthState} (grow : LinksGrow keys before after) {key : String}
    (own : RevokedByOwn keys before key) : RevokedByOwn keys after key := by
  obtain ⟨master, entry, revokes, linked⟩ := own
  exact ⟨master, entry, ⟨grow.stored _ _ _ revokes.stored, revokes.byMaster, revokes.names, revokes.signed⟩,
    grow.linked master key linked⟩

-- A step that opens sessions but stores no revocation.
theorem ownMasterRevokes_sessions {before after : AuthState} (grow : LinksGrow keys before after)
    (same : after.tables.subkeyRevocations = before.tables.subkeyRevocations)
    (own : OwnMasterRevokes keys before)
    (signsIn : ∀ key, after.SignedIn key → before.isRevoked key = true →
      before.SignedIn key ∨ RevokedByOwn keys before key) :
    OwnMasterRevokes keys after := by
  apply ownMasterRevokes_of
  intro key signedIn revoked
  have earlier : before.isRevoked key = true := by
    simpa only [AuthState.isRevoked, same] using revoked
  apply grow.revokedByOwn
  rcases signsIn key signedIn earlier with already | byOwn
  · exact own.revoked key already earlier
  · exact byOwn

-- A step that stores revocations but opens no session.
theorem ownMasterRevokes_revocations {before after : AuthState} (grow : LinksGrow keys before after)
    (same : after.tables.sessions = before.tables.sessions) (own : OwnMasterRevokes keys before)
    (due : ∀ master key entry, after.tables.subkeyRevocations.get master key = some entry →
      before.tables.subkeyRevocations.get master key = none → Revokes keys after master key entry ∧
        (before.SignedIn key → before.isRevoked key = false → before.Linked keys master key)) :
    OwnMasterRevokes keys after := by
  apply ownMasterRevokes_of
  intro key signedIn revoked
  have already : before.SignedIn key := by
    simpa only [AuthState.SignedIn, same] using signedIn
  cases earlier : before.isRevoked key with
  | true => exact grow.revokedByOwn (own.revoked key already earlier)
  | false =>
    obtain ⟨master, entry, found⟩ := isRevoked_iff.mp revoked
    have fresh : before.tables.subkeyRevocations.get master key = none := by
      by_contra held
      obtain ⟨old, stored⟩ := Option.ne_none_iff_exists'.mp held
      have := isRevoked_iff.mpr ⟨master, old, stored⟩
      simp [earlier] at this
    obtain ⟨revokes, linked⟩ := due master key entry found fresh
    exact ⟨master, entry, revokes, grow.linked master key (linked already earlier)⟩

end

section

variable (outside : Outside) (farm : FarmOutside) (keys : Keys) (s : Registry)

theorem postDevice_db (token master : String) (cert : SubkeyCert) (now : Int) :
    (s.postDevice farm keys token master cert now).1.auth.db =
        (fromRequestParts farm s.auth s.farm token (devicesRequest master) now).1.db ∧
      (s.postDevice farm keys token master cert now).1.auth.tables.sessions =
        (fromRequestParts farm s.auth s.farm token (devicesRequest master) now).1.tables.sessions ∧
      (s.postDevice farm keys token master cert now).1.auth.tables.subkeyRevocations =
        (fromRequestParts farm s.auth s.farm token (devicesRequest master) now).1.tables.subkeyRevocations := by
  unfold Registry.postDevice
  generalize fromRequestParts farm s.auth s.farm token (devicesRequest master) now = extracted
  obtain ⟨seen, cache, result⟩ := extracted
  cases result with
  | error e => exact ⟨rfl, rfl, rfl⟩
  | ok user =>
    rcases postDevice_cases keys seen user master cert with ⟨_, same⟩ | ⟨_, e, same⟩ <;>
      simp [same, upsertSubkeyCert]

theorem next_masters (call : RegistryCall) :
    MastersKept s.auth.db (s.next outside farm keys call).auth.db := by
  cases call with
  | auth call => exact (AuthCall.serve_effect call : AuthCall.Effect (outside.withKeys keys) s.auth call _).masters
  | postDevice token master cert now =>
    rw [Registry.next, (postDevice_db farm keys s token master cert now).1]
    exact fromRequestParts_masters farm s.auth s.farm token (devicesRequest master) now
  | postRevocation master entry =>
    simp only [Registry.next, postRevocation]
    repeat' split
    all_goals exact MastersKept.refl s.auth.db
  | postComplete complete now =>
    simp only [Registry.next, Registry.postComplete]
    exact MastersKept.refl s.auth.db
  | _ => exact MastersKept.refl s.auth.db

theorem next_linked (call : RegistryCall) (master key : String) (linked : s.auth.Linked keys master key) :
    (s.next outside farm keys call).auth.Linked keys master key := by
  rcases linked with self | carried | ⟨row, found, byMaster, names, signed⟩
  · exact .inl self
  · exact .inr (.inl (next_masters outside farm keys s call key master carried))
  · refine .inr (.inr ?_)
    rcases Registry.next_certs outside farm keys s call with ⟨new, writes, written⟩ | ⟨_, same⟩
    · rw [written]
      by_cases replaced : master = new.cert.masterPubkey ∧ key = new.cert.subkeyPubkey
      next =>
        refine ⟨new, ?_, replaced.1.symm, replaced.2.symm, writes_signed writes⟩
        rw [Nested.get_put, if_pos replaced]
      next =>
        refine ⟨row, ?_, byMaster, names, signed⟩
        rw [Nested.get_put, if_neg replaced, found]
    · exact ⟨row, by rw [same, found], byMaster, names, signed⟩

-- Revoking a key that has signed in and is not revoked yet takes a master of its own.
def Due (entry : RevocationEntry) : Prop :=
  s.auth.SignedIn entry.subkeyPubkey → s.auth.isRevoked entry.subkeyPubkey = false →
    s.auth.Linked keys entry.masterPubkey entry.subkeyPubkey

/--
Every revocation that is posted or fetched for a signed-in key comes from a master linked to that key,
and no session is opened for an identity that only strangers have revoked.
-/
def RevokesOwn : RegistryCall → Prop
  | .auth call => ∀ key, call.SignsIn (outside.withKeys keys) s.auth key →
      s.auth.isRevoked key = true → RevokedByOwn keys s.auth key
  | .postRevocation master entry => Posted keys s.auth master entry entry → Due keys s entry
  | .revocationTick answers => ∀ entry, Fetched keys s.auth.tables answers entry → Due keys s entry
  | _ => True

variable {s}

theorem auth_ownMasterRevokes {call : AuthCall} (own : OwnMasterRevokes keys s.auth)
    (met : RevokesOwn outside keys s (.auth call)) :
    OwnMasterRevokes keys (s.next outside farm keys (.auth call)).auth := by
  have rows := AuthCall.next_revocations (outside.withKeys keys) s.auth call
  refine ownMasterRevokes_sessions ⟨next_linked outside farm keys s (.auth call), ?_⟩ rows own ?_
  · intro master key entry found
    exact (congrArg (Nested.get · master key) rows).trans found
  · rintro key ⟨row, member, named⟩ revoked
    rcases next_newSession call row member with old | ⟨signsIn, unrevoked⟩
    · exact .inl ⟨row, old, named⟩
    · rcases named with identity | device
      · exact .inr (met key (identity ▸ signsIn) revoked)
      · rw [unrevoked key device] at revoked
        cases revoked

theorem stored_ownMasterRevokes {call : RegistryCall} {presented : RevocationEntry → Prop}
    (stores : Stores presented s.auth.tables (s.next outside farm keys call).auth.tables)
    (own : OwnMasterRevokes keys s.auth)
    (due : ∀ entry, presented entry → entry.verify keys = .ok () ∧ Due keys s entry) :
    OwnMasterRevokes keys (s.next outside farm keys call).auth := by
  refine ownMasterRevokes_revocations ⟨next_linked outside farm keys s call, stores.kept⟩ stores.sessions own ?_
  intro master key entry found fresh
  rcases stores.gained master key entry found with earlier | ⟨shown, byMaster, names⟩
  · rw [fresh] at earlier
    cases earlier
  · obtain ⟨signed, linked⟩ := due entry shown
    subst byMaster names
    exact ⟨⟨found, rfl, rfl, signed⟩, linked⟩

theorem quiet_ownMasterRevokes {call : RegistryCall}
    (rows : (s.next outside farm keys call).auth.tables.subkeyRevocations = s.auth.tables.subkeyRevocations)
    (sessions : (s.next outside farm keys call).auth.tables.sessions = s.auth.tables.sessions)
    (own : OwnMasterRevokes keys s.auth) : OwnMasterRevokes keys (s.next outside farm keys call).auth := by
  refine ownMasterRevokes_sessions ⟨next_linked outside farm keys s call, ?_⟩ rows own ?_
  · intro master key entry found
    rw [rows]
    exact found
  · rintro key ⟨row, member, named⟩ _
    exact .inl ⟨row, sessions ▸ member, named⟩

theorem next_ownMasterRevokes (call : RegistryCall) (own : OwnMasterRevokes keys s.auth)
    (met : RevokesOwn outside keys s call) :
    OwnMasterRevokes keys (s.next outside farm keys call).auth := by
  cases call with
  | auth call => exact auth_ownMasterRevokes outside farm keys own met
  | postRevocation master entry =>
    refine stored_ownMasterRevokes outside farm keys (postRevocation_stores keys s.auth master entry) own ?_
    rintro posted ⟨rfl, byMaster, signed, known⟩
    exact ⟨signed, met ⟨rfl, byMaster, signed, known⟩⟩
  | revocationTick answers =>
    refine stored_ownMasterRevokes outside farm keys (revocationTick_stores keys answers s.auth) own ?_
    intro entry fetched
    exact ⟨fetched.2, met entry fetched⟩
  | postDevice token master cert now =>
    have parts := postDevice_db farm keys s token master cert now
    have seen := fromRequestParts_tables farm s.auth s.farm token (devicesRequest master) now
    rw [seen] at parts
    exact quiet_ownMasterRevokes outside farm keys parts.2.2 parts.2.1 own
  | postOffer offer now => exact own
  | postClaim claim now => exact own
  | postComplete complete now =>
    rcases postComplete_cases keys s complete now with ⟨_, same⟩ | ⟨_, same⟩
    · refine quiet_ownMasterRevokes outside farm keys ?_ ?_ own <;> simp [Registry.next, same, pairDevice]
    · refine quiet_ownMasterRevokes outside farm keys ?_ ?_ own <;> simp [Registry.next, same]

end

/--
In every run whose revocations of signed-in keys come from masters linked to them, nobody is locked
out by a stranger.
-/
theorem ownMasterRevokes_run (outside : Outside) (farm : FarmOutside) (keys : Keys) (s : Registry)
    (fresh : s.auth.tables.subkeyRevocations = ∅) (calls : List RegistryCall)
    (met : Runs.Meets (Registry.next outside farm keys) (RevokesOwn outside keys) s calls) :
    ∀ front, front <+: calls →
      OwnMasterRevokes keys (Runs.run (Registry.next outside farm keys) s front).auth := by
  intro front before
  obtain ⟨rest, rfl⟩ := before
  have metFront := (Runs.Meets.append.mp met).1
  refine metFront.invariant (fun s : Registry => OwnMasterRevokes keys s.auth) ?_ ?_
  · intro s call own met
    exact next_ownMasterRevokes outside farm keys call own met
  · apply ownMasterRevokes_of
    intro key _ revoked
    obtain ⟨master, entry, found⟩ := isRevoked_iff.mp revoked
    simp [fresh] at found

def strangerCert : SubkeyCert :=
  { masterPubkey := namedKey 3, subkeyPubkey := namedKey 2, deviceLabel := "laptop", issuedAt := 1
    notAfter := none, fallbackHubs := [], signature := signedBy 3 }

-- The victim signs in, the stranger signs in as a device of a master it has just made up.
def bothSignIn : List AuthCall :=
  [ .challenge (namedKey 1) (List.replicate 32 7) 0,
    .verify
      { publicKey := namedKey 1, challenge := namedKey 7, signature := signedBy 1 }
      { now := 1, instant := 1, token := "victim" },
    .challenge (namedKey 2) (List.replicate 32 8) 2,
    .verify
      { publicKey := namedKey 2, challenge := namedKey 8, signature := signedBy 2
        subkeyCert := some strangerCert }
      { now := 3, instant := 3, token := "stranger" } ]

theorem meets_signIns (outside : Outside) (farm : FarmOutside) (keys : Keys) (calls : List AuthCall)
    (s : Registry) (fresh : s.auth.tables.subkeyRevocations = ∅) :
    Runs.Meets (Registry.next outside farm keys) (RevokesOwn outside keys) s (calls.map .auth) := by
  induction calls generalizing s with
  | nil => trivial
  | cons call rest ih =>
    refine ⟨?_, ih _ ((AuthCall.next_revocations (outside.withKeys keys) s.auth call).trans fresh)⟩
    intro key _ revoked
    obtain ⟨master, entry, found⟩ := isRevoked_iff.mp revoked
    simp [fresh] at found

def ownRevocation : RevocationEntry :=
  { masterPubkey := namedKey 3, subkeyPubkey := namedKey 3, revokedAt := 4, signature := signedBy 3 }

theorem ownMasterRevokes_run_itself :
    OwnMasterRevokes openKeys
      (Runs.run (Registry.next softAuthenticator oneTokenFarm openKeys) {}
        (bothSignIn.map .auth ++ [.postRevocation (namedKey 3) ownRevocation])).auth := by
  refine ownMasterRevokes_run softAuthenticator oneTokenFarm openKeys {} rfl
    (bothSignIn.map .auth ++ [.postRevocation (namedKey 3) ownRevocation]) ?_ _ List.prefix_rfl
  refine Runs.Meets.append.mpr ⟨meets_signIns _ _ _ bothSignIn {} rfl, ?_, trivial⟩
  exact fun _ _ _ => .inl rfl

def lockOut : RevocationEntry :=
  { masterPubkey := namedKey 3, subkeyPubkey := namedKey 1, revokedAt := 4, signature := signedBy 3 }

theorem stored_master {s : AuthState} {master key : String} {entry : RevocationEntry}
    (stored : s.tables.subkeyRevocations.get master key = some entry) :
    master ∈ s.tables.subkeyRevocations.toList.map (·.1) := by
  obtain ⟨inner, outer, _⟩ := Option.bind_eq_some_iff.mp stored
  exact List.mem_map.mpr ⟨_, ExtTreeMap.mem_toList_iff_getElem?_eq_some.mpr outer, rfl⟩

theorem ownMasterRevokes_lockout :
    ¬ ∀ front, front <+: bothSignIn.map .auth ++ [.postRevocation (namedKey 3) lockOut] →
      OwnMasterRevokes openKeys
        (Runs.run (Registry.next softAuthenticator oneTokenFarm openKeys) {} front).auth := by
  intro always
  have own := (always _ List.prefix_rfl).revoked (namedKey 1)
  revert own
  generalize ended : (Runs.run (Registry.next softAuthenticator oneTokenFarm openKeys) {}
    (bothSignIn.map .auth ++ [.postRevocation (namedKey 3) lockOut])).auth = s
  have facts : s.tables.sessions.head?.map (·.publicKey) = some (namedKey 1) ∧
      s.isRevoked (namedKey 1) = true ∧ s.tables.subkeyRevocations.toList.map (·.1) = [namedKey 3] ∧
      s.db.masterOf (namedKey 1) = none ∧
      s.tables.subkeyCerts.get (namedKey 3) (namedKey 1) = none := by
    subst ended
    decide +kernel
  obtain ⟨holder, revoked, signer, unlinked, uncertified⟩ := facts
  intro own
  obtain ⟨session, first, named⟩ := Option.map_eq_some_iff.mp holder
  obtain ⟨master, entry, revokes, linked⟩ :=
    own ⟨session, List.mem_of_head? first, .inl named⟩ revoked
  have known : master ∈ [namedKey 3] := signer ▸ stored_master revokes.stored
  obtain rfl := List.mem_singleton.mp known
  rcases linked with self | carried | ⟨row, found, _⟩
  · exact absurd self (by decide)
  · simp [unlinked] at carried
  · simp [uncertified] at found

end Wavvon
