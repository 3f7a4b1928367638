import Wavvon.Auth.SignIn

set_option autoImplicit false

namespace Wavvon

open Std (ExtTreeMap)

/-- What a request has shown by the time its identity is written to the users table. -/
structure Seats (outside : Outside) (s : AuthState) (req : VerifyRequest) (env : VerifyEnv)
    (canonical : String) (master : Option String) (claimed : Nat) : Prop where
  proved : ∃ pending, s.pendingChallenges[req.challenge]? = some pending ∧
    checkChallenge outside pending req env.instant = .ok ()
  resolved : resolveCanonicalIdentity outside s req.publicKey req.subkeyCert env.now =
    .ok (canonical, master)
  notVisiting : req.allianceVoiceGrant.isSome → canonical ∈ s.db.users
  gates : admissionGates outside s req canonical master env.now = .ok claimed

/-- What a member of an allied hub has shown when it is let into a voice room. -/
structure Visits (outside : Outside) (s : AuthState) (req : VerifyRequest) (env : VerifyEnv)
    (canonical : String) (visitor : VoiceVisitor) : Prop where
  proved : ∃ pending, s.pendingChallenges[req.challenge]? = some pending ∧
    checkChallenge outside pending req env.instant = .ok ()
  resolved : ∃ master, resolveCanonicalIdentity outside s req.publicKey req.subkeyCert env.now =
    .ok (canonical, master)
  granted : ∃ grant, req.allianceVoiceGrant = some grant ∧ canonical ∉ s.db.users ∧
    outside.verifyGrant grant canonical = .ok visitor

section

variable {outside : Outside} {s : AuthState} {req : VerifyRequest} {env : VerifyEnv}

theorem grant_taken {users : Table User} {canonical grant : String}
    (granted : req.allianceVoiceGrant = some grant) (unknown : canonical ∉ users) :
    req.allianceVoiceGrant.filter (fun _ => decide (canonical ∉ users)) = some grant := by
  rw [granted, Option.filter_some, if_pos (by simp [unknown])]

theorem grant_ignored {users : Table User} {canonical : String}
    (notVisiting : req.allianceVoiceGrant.isSome → canonical ∈ users) :
    req.allianceVoiceGrant.filter (fun _ => decide (canonical ∉ users)) = none := by
  cases granted : req.allianceVoiceGrant with
  | none => rfl
  | some grant =>
    have known := notVisiting (by simp [granted])
    rw [Option.filter_some, if_neg (by simp [known])]

-- The call from the seat on.
def afterSeat (s : AuthState) (req : VerifyRequest) (env : VerifyEnv) (canonical : String)
    (master : Option String) (claimed : Nat) : AuthState × Except HttpError VerifyResponse :=
  openSession (seatUser (takeChallenge s req.challenge) req canonical master claimed env) req canonical
    master (ownerExempt s req canonical) (decide (existingUsers s = 0)) env

theorem verify_seats {canonical : String} {master : Option String} {claimed : Nat}
    (seats : Seats outside s req env canonical master claimed) :
    verify outside s req env = afterSeat s req env canonical master claimed := by
  obtain ⟨⟨pending, found, passed⟩, resolved, notVisiting, gates⟩ := seats
  have resolved : resolveCanonicalIdentity outside (takeChallenge s req.challenge) req.publicKey
      req.subkeyCert env.now = .ok (canonical, master) := resolved
  have gates : admissionGates outside (takeChallenge s req.challenge) req canonical master env.now =
      .ok claimed := gates
  have noVisit : req.allianceVoiceGrant.filter
      (fun _ => decide (canonical ∉ (takeChallenge s req.challenge).db.users)) = none :=
    grant_ignored notVisiting
  simp only [verify, found, passed, resolved, gates, noVisit]
  rfl

/-- The three ways a sign-in ends: refused with nothing written, as a visit, or past the seat. -/
theorem verify_cases (outside : Outside) (s : AuthState) (req : VerifyRequest) (env : VerifyEnv) :
    (∃ e, verify outside s req env = (s, .error e) ∨
        verify outside s req env = (takeChallenge s req.challenge, .error e)) ∨
      (∃ canonical visitor, Visits outside s req env canonical visitor ∧
        verify outside s req env =
          (recordVisit (takeChallenge s req.challenge) canonical visitor env,
            .ok { token := env.token, scope := .allianceVoice, canonicalPubkey := canonical })) ∨
      ∃ canonical master claimed, Seats outside s req env canonical master claimed := by
  cases found : s.pendingChallenges[req.challenge]? with
  | none => exact .inl ⟨(401, "No pending challenge for this key"), .inl (by simp only [verify, found])⟩
  | some pending =>
    cases passed : checkChallenge outside pending req env.instant with
    | error e => exact .inl ⟨e, .inr (by simp [verify, found, passed])⟩
    | ok _ =>
      cases resolved : resolveCanonicalIdentity outside s req.publicKey req.subkeyCert env.now with
      | error e =>
        have taken : resolveCanonicalIdentity outside (takeChallenge s req.challenge) req.publicKey
            req.subkeyCert env.now = .error e := resolved
        exact .inl ⟨e, .inr (by simp [verify, found, passed, taken])⟩
      | ok identity =>
        obtain ⟨canonical, master⟩ := identity
        have taken : resolveCanonicalIdentity outside (takeChallenge s req.challenge) req.publicKey
            req.subkeyCert env.now = .ok (canonical, master) := resolved
        by_cases visiting : req.allianceVoiceGrant.isSome ∧ canonical ∉ s.db.users
        next =>
          obtain ⟨grant, granted⟩ := Option.isSome_iff_exists.mp visiting.1
          have taking : req.allianceVoiceGrant.filter
              (fun _ => decide (canonical ∉ (takeChallenge s req.challenge).db.users)) = some grant :=
            grant_taken granted visiting.2
          cases vouched : outside.verifyGrant grant canonical with
          | error e =>
            exact .inl ⟨e, .inr (by simp only [verify, found, passed, taken, taking, vouched])⟩
          | ok visitor =>
            exact .inr (.inl ⟨canonical, visitor,
              ⟨⟨pending, found, passed⟩, ⟨master, resolved⟩, grant, granted, visiting.2, vouched⟩,
              by simp only [verify, found, passed, taken, taking, vouched]⟩)
        next =>
          have notVisiting : req.allianceVoiceGrant.isSome → canonical ∈ s.db.users := by
            intro granted
            by_contra unknown
            exact visiting ⟨granted, unknown⟩
          cases gates : admissionGates outside s req canonical master env.now with
          | ok claimed =>
            exact .inr (.inr ⟨canonical, master, claimed,
              ⟨pending, found, passed⟩, resolved, notVisiting, gates⟩)
          | error e =>
            have refused : admissionGates outside (takeChallenge s req.challenge) req canonical master
                env.now = .error e := gates
            have noVisit : req.allianceVoiceGrant.filter
                (fun _ => decide (canonical ∉ (takeChallenge s req.challenge).db.users)) = none :=
              grant_ignored notVisiting
            exact .inl ⟨e, .inr (by simp only [verify, found, passed, taken, noVisit, refused])⟩

end

section

variable (s : AuthState) (req : VerifyRequest) (canonical : String) (master : Option String)
  (exempt : Bool) (env : VerifyEnv)

def isMember (db : Db) (canonical : String) : Bool := db.users[canonical]?.any (·.isMember)

-- A key that is already a member is a person, whatever it claims.
def arrivesAsPeer : Bool := decide (req.isHub = some true) && !isMember s.db canonical

def FacesChallenge : Prop :=
  (s.setting "challenge_mode").getD "off" ≠ "off" ∧ isMember s.db canonical = false ∧
    arrivesAsPeer s req canonical = false ∧ presentsNamedInvite s req canonical master = false

instance : Decidable (FacesChallenge s req canonical master) :=
  inferInstanceAs (Decidable (_ ∧ _))

/-- The state once the challenge, if there is one, has been answered. -/
def Answers (passed : AuthState) : Prop :=
  if FacesChallenge s req canonical master then challengeGate s req env.now = .ok passed else passed = s

def openedScope (passed : AuthState) : SessionScope :=
  sessionScope passed (arrivesAsPeer s req canonical) exempt canonical

def withSession (passed : AuthState) : AuthState :=
  insertSession passed
    { token := env.token, publicKey := canonical, createdAt := env.now
      scope := openedScope s req canonical exempt passed, devicePubkey := some req.publicKey }

def sessionResponse (passed : AuthState) : VerifyResponse :=
  { token := env.token, scope := openedScope s req canonical exempt passed, canonicalPubkey := canonical }

/-- Every way a sign-in can end once its identity has a seat. -/
inductive SessionOutcome (firstUser : Bool) : AuthState × Except HttpError VerifyResponse → Prop where
  | unanswered (e : HttpError) (faces : FacesChallenge s req canonical master)
      (refused : challengeGate s req env.now = .error e) : SessionOutcome firstUser (s, .error e)
  | peer (passed : AuthState) (answers : Answers s req canonical master env passed)
      (arrives : arrivesAsPeer s req canonical = true) :
      SessionOutcome firstUser
        (registerPeer (withSession s req canonical exempt env passed) canonical,
          .ok (sessionResponse s req canonical exempt env passed))
  | member (belongs : isMember s.db canonical = true) :
      SessionOutcome firstUser
        (withSession s req canonical exempt env s, .ok (sessionResponse s req canonical exempt env s))
  | uninvited (passed : AuthState) (e : HttpError) (answers : Answers s req canonical master env passed)
      (stranger : isMember s.db canonical = false) (person : req.isHub ≠ some true)
      (refused : redeemInvite (withSession s req canonical exempt env passed) req canonical master
        env.now = .error e) :
      SessionOutcome firstUser (withSession s req canonical exempt env passed, .error e)
  | admitted (passed spent : AuthState) (redemption : Option InviteRedemption)
      (answers : Answers s req canonical master env passed)
      (stranger : isMember s.db canonical = false) (person : req.isHub ≠ some true)
      (redeemed : redeemInvite (withSession s req canonical exempt env passed) req canonical master
        env.now = .ok (spent, redemption)) :
      SessionOutcome firstUser
        (admitNewcomer spent canonical firstUser redemption,
          .ok (sessionResponse s req canonical exempt env passed))

-- What follows the challenge, whoever has answered it.
theorem answered_outcome (firstUser : Bool) {passed : AuthState}
    (answers : Answers s req canonical master env passed) :
    SessionOutcome s req canonical master exempt env firstUser
      (if arrivesAsPeer s req canonical then
        (registerPeer (withSession s req canonical exempt env passed) canonical,
          .ok (sessionResponse s req canonical exempt env passed))
      else if isMember s.db canonical then
        (withSession s req canonical exempt env passed,
          .ok (sessionResponse s req canonical exempt env passed))
      else
        match redeemInvite (withSession s req canonical exempt env passed) req canonical master
          env.now with
        | .error e => (withSession s req canonical exempt env passed, .error e)
        | .ok (spent, redemption) =>
          (admitNewcomer spent canonical firstUser redemption,
            .ok (sessionResponse s req canonical exempt env passed))) := by
  by_cases arrives : arrivesAsPeer s req canonical = true
  next =>
    rw [if_pos arrives]
    exact .peer passed answers arrives
  next =>
    rw [if_neg arrives]
    by_cases belongs : isMember s.db canonical = true
    next =>
      have same : passed = s := by
        simpa [Answers, FacesChallenge, belongs] using answers
      rw [if_pos belongs, same]
      exact .member belongs
    next =>
      rw [if_neg belongs]
      have person : req.isHub ≠ some true := by
        intro hub
        simp [arrivesAsPeer, hub, belongs] at arrives
      split
      next e refused => exact .uninvited passed e answers (by simpa using belongs) person refused
      next spent redemption redeemed =>
        exact .admitted passed spent redemption answers (by simpa using belongs) person redeemed

theorem openSession_outcome (firstUser : Bool) :
    SessionOutcome s req canonical master exempt env firstUser
      (openSession s req canonical master exempt firstUser env) := by
  have challenged : (FacesChallenge s req canonical master) =
      ((s.setting "challenge_mode").getD "off" ≠ "off" ∧
        (!isMember s.db canonical) = true ∧ (!arrivesAsPeer s req canonical) = true ∧
        (!presentsNamedInvite s req canonical master) = true) := by
    simp [FacesChallenge]
  by_cases faces : FacesChallenge s req canonical master
  next =>
    have faced := challenged ▸ faces
    cases gate : challengeGate s req env.now with
    | error e =>
      have ended : openSession s req canonical master exempt firstUser env = (s, .error e) := by
        unfold openSession
        simp only [isMember, arrivesAsPeer] at faced
        simp only [if_pos faced, gate]
      rw [ended]
      exact .unanswered e faces gate
    | ok passed =>
      have answers : Answers s req canonical master env passed := by simp [Answers, faces, gate]
      have opened := answered_outcome s req canonical master exempt env firstUser answers
      unfold openSession
      simp only [isMember, arrivesAsPeer] at faced
      simp only [if_pos faced, gate]
      exact opened
  next =>
    have faced := challenged ▸ faces
    have answers : Answers s req canonical master env s := by simp [Answers, faces]
    have opened := answered_outcome s req canonical master exempt env firstUser answers
    unfold openSession
    simp only [isMember, arrivesAsPeer] at faced
    simp only [if_neg faced]
    exact opened

end

theorem afterSeat_outcome (s : AuthState) (req : VerifyRequest) (env : VerifyEnv) (canonical : String)
    (master : Option String) (claimed : Nat) :
    SessionOutcome (seatUser (takeChallenge s req.challenge) req canonical master claimed env) req
      canonical master (ownerExempt s req canonical) env (decide (existingUsers s = 0))
      (afterSeat s req env canonical master claimed) :=
  openSession_outcome _ _ _ _ _ _ _

theorem challengeGate_frame {s passed : AuthState} {req : VerifyRequest} {now : Int}
    (through : challengeGate s req now = .ok passed) :
    ∃ tokens, passed = { s with tables := { s.tables with challengeTokens := tokens } } := by
  unfold challengeGate at through
  split at through
  · cases through
  · split at through
    · cases through
    · repeat' split at through
      all_goals cases through
      exact ⟨_, rfl⟩

theorem answers_frame {s passed : AuthState} {req : VerifyRequest} {canonical : String}
    {master : Option String} {env : VerifyEnv} (answers : Answers s req canonical master env passed) :
    ∃ tokens, passed = { s with tables := { s.tables with challengeTokens := tokens } } := by
  unfold Answers at answers
  split at answers
  · exact challengeGate_frame answers
  · exact ⟨_, answers⟩

theorem redeemInvite_frame {s spent : AuthState} {req : VerifyRequest} {canonical : String}
    {master : Option String} {now : Int} {redemption : Option InviteRedemption}
    (redeemed : redeemInvite s req canonical master now = .ok (spent, redemption)) :
    ∃ invites, spent = { s with tables := { s.tables with invites := invites } } := by
  unfold redeemInvite at redeemed
  split at redeemed
  next code _ =>
    unfold validateAndUseInvite at redeemed
    cases found : s.tables.invites[code]? with
    | none => simp [found] at redeemed
    | some invite =>
      simp only [found] at redeemed
      repeat' split at redeemed
      all_goals grind
  next =>
    split at redeemed
    · cases redeemed
    · cases redeemed
      exact ⟨_, rfl⟩

def upsertRow (old : Option User) (master : Option String) (status : String) (now : Int) : User :=
  match old with
  | some user => { user with lastSeenAt := now, masterPubkey := user.masterPubkey.or master }
  | none => { firstSeenAt := now, lastSeenAt := now, approvalStatus := status, masterPubkey := master }

theorem upsertUser_users (db : Db) (canonical : String) (master : Option String) (status : String)
    (now : Int) (key : String) :
    (upsertUser db canonical master status now).users[key]? =
      if key = canonical then some (upsertRow db.users[canonical]? master status now)
      else db.users[key]? := by
  simp only [upsertUser, ExtTreeMap.getElem?_insert, Std.compare_eq_iff_eq]
  by_cases same : key = canonical
  next =>
    subst same
    cases db.users[key]? <;> simp [upsertRow]
  next => simp [same, Ne.symm same]

def raisedRow (user : User) (level : Nat) : User :=
  if (user.powLevel % 2 ^ 32).toNat < level then { user with powLevel := level } else user

theorem raisePowLevel_users (db : Db) (canonical : String) (level : Nat) (key : String) (user : User)
    (seated : db.users[canonical]? = some user) :
    (raisePowLevel db canonical level).users[key]? =
      if key = canonical then some (raisedRow user level) else db.users[key]? := by
  simp only [raisePowLevel, storedPowLevel, seated, Option.map_some, Option.getD_some, raisedRow]
  by_cases same : key = canonical
  next =>
    subst same
    split <;> simp [seated]
  next =>
    rw [if_neg same]
    split
    · simp [ExtTreeMap.getElem?_modify, Ne.symm same]
    · rfl

section

variable (s : AuthState) (req : VerifyRequest) (canonical : String) (master : Option String)
  (claimed : Nat) (env : VerifyEnv)

-- The row a sign-in leaves for its identity.
def seatRow : User :=
  let status := initialStatus s req (banMatch s req canonical env)
  raisedRow (upsertRow s.db.users[canonical]? master status env.now) claimed

theorem seatUser_users (key : String) :
    (seatUser s req canonical master claimed env).db.users[key]? =
      if key = canonical then some (seatRow s req canonical master claimed env)
      else s.db.users[key]? := by
  have upserted := upsertUser_users s.db canonical master
    (initialStatus s req (banMatch s req canonical env)) env.now
  have seated := upserted canonical
  rw [if_pos rfl] at seated
  calc (seatUser s req canonical master claimed env).db.users[key]?
      = _ := raisePowLevel_users _ canonical claimed key _ seated
    _ = _ := by
      split
      · rfl
      · rename_i different
        rw [upserted, if_neg different]

theorem seatUser_db :
    (seatUser s req canonical master claimed env).db =
      { s.db with users := (seatUser s req canonical master claimed env).db.users } := by
  simp only [seatUser, raisePowLevel]
  split <;> rfl

theorem seatUser_tables :
    (seatUser s req canonical master claimed env).tables =
      { s.tables with
        subkeyCerts := (seatUser s req canonical master claimed env).tables.subkeyCerts
        admissionFlags := (seatUser s req canonical master claimed env).tables.admissionFlags } := by
  cases presented : req.subkeyCert <;> simp [seatUser, presented, upsertSubkeyCert]

theorem seatUser_setting (key : String) :
    (seatUser s req canonical master claimed env).setting key = s.setting key := by
  unfold AuthState.setting
  rw [seatUser_db]
  rfl

theorem seatRow_isMember :
    (seatRow s req canonical master claimed env).isMember = isMember s.db canonical := by
  unfold seatRow raisedRow upsertRow isMember
  cases s.db.users[canonical]? <;> dsimp only <;> split <;> rfl

theorem seatUser_isMember (key : String) :
    isMember (seatUser s req canonical master claimed env).db key = isMember s.db key := by
  by_cases same : key = canonical
  next =>
    have row := seatUser_users s req canonical master claimed env key
    rw [if_pos same] at row
    have kept := seatRow_isMember s req canonical master claimed env
    simp only [isMember, row, Option.any_some] at kept ⊢
    rw [kept, same]
  next =>
    unfold isMember
    rw [seatUser_users, if_neg same]

end

end Wavvon
