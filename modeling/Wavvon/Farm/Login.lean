import Wavvon.Auth.Verify
import Wavvon.Farm.Tokens

set_option autoImplicit false

namespace Wavvon.Farm

open Std (ExtTreeMap)
open Wire (Bytes)

-- The one row of `farms`.
structure FarmsRow where
  adminPubkey : Option String := none
  totpSecret : Option String := none
  totpEnabled : Bool := false
  deriving DecidableEq, Repr

structure FarmUser where
  masterPubkey : Option String := none
  firstSeenAt : Int
  lastSeenAt : Int
  deriving DecidableEq, Repr

-- A row of `pending_challenges_v2`, by its nonce.
structure ChallengeRow where
  publicKey : String
  expiresAt : Int
  deriving DecidableEq, Repr

-- A row of `farm_sessions`, by its jti; the key references `farm_users`.
structure SessionRow where
  publicKey : String
  issuedAt : Int
  expiresAt : Int
  revokedAt : Option Int := none
  scope : String := "member"
  revokedManually : Bool := false
  deriving DecidableEq, Repr

structure FarmAuth where
  farms : Option FarmsRow := none
  users : Table FarmUser := ∅
  challenges : Table ChallengeRow := ∅
  sessions : Table SessionRow := ∅

def FarmAuth.adminPubkey (s : FarmAuth) : Option String := s.farms.bind (·.adminPubkey)

/-- `totp` checks a code against a base32 secret; `setup` is a fresh secret with its address for a QR code. -/
structure LoginLib extends TokenLib where
  totp : String → String → Int → Bool
  setup : Bytes → String → Except String (String × String)

structure VerifyRequest where
  publicKey : String
  signature : String
  challenge : Option String := none
  scope : Option String := none
  totpCode : Option String := none
  subkeyCert : Option SubkeyCert := none
  deriving DecidableEq, Repr

structure ChallengeResponse where
  challenge : String
  scheme : String
  deriving DecidableEq, Repr

def AUTH_CHALLENGE_SCHEME : String := "tagged-v1"

def SESSION_TTL : Int := 30 * 24 * 60 * 60

def uniqueViolation : HttpError :=
  (500, "DB error: error returned from database: duplicate key value violates unique constraint")

def foreignKeyViolation : HttpError :=
  (500, "DB error: error returned from database: insert or update on table violates foreign key constraint")

def challenge (now : Int) (s : FarmAuth) (publicKey : String) (nonce : Bytes) :
    FarmAuth × Except HttpError ChallengeResponse :=
  let live := s.challenges.filter fun _ row => decide (now ≤ row.expiresAt)
  let hex := hexEncode nonce
  if hex ∈ live then ({ s with challenges := live }, .error uniqueViolation)
  else
    ({ s with challenges := live.insert hex { publicKey := publicKey, expiresAt := now + 60 } },
      .ok { challenge := hex, scheme := AUTH_CHALLENGE_SCHEME })

-- ORDER BY expires_at DESC LIMIT 1
def newest : List (String × ChallengeRow) → Option (String × ChallengeRow)
  | [] => none
  | first :: rest =>
    match newest rest with
    | none => some first
    | some best => if first.2.expiresAt < best.2.expiresAt then some best else some first

def pendingChallenge (s : FarmAuth) (req : VerifyRequest) : Option (String × ChallengeRow) :=
  match req.challenge with
  | some nonce => (s.challenges[nonce]?.filter fun row => decide (row.publicKey = req.publicKey)).map (nonce, ·)
  | none => newest (s.challenges.toList.filter fun entry => decide (entry.2.publicKey = req.publicKey))

def normaliseScope : Option String → String
  | some "lobby" => "lobby"
  | _ => "member"

-- ON CONFLICT keeps a master that is known, unless the request brings one.
def upsertFarmUsers (now : Int) (s : FarmAuth) (publicKey : String) (master : Option String) : FarmAuth :=
  let row : FarmUser := match s.users[publicKey]? with
    | some user => { user with lastSeenAt := now, masterPubkey := master.or user.masterPubkey }
    | none => { masterPubkey := master, firstSeenAt := now, lastSeenAt := now }
  { s with users := s.users.insert publicKey row }

def storeSession (s : FarmAuth) (jti : String) (row : SessionRow) : Except HttpError FarmAuth :=
  if jti ∈ s.sessions then .error uniqueViolation
  else if row.publicKey ∉ s.users then .error foreignKeyViolation
  else .ok { s with sessions := s.sessions.insert jti row }

section

variable (lib : LoginLib) (now : Int)

def checkSigned (nonce : String) (req : VerifyRequest) : Except HttpError Unit :=
  match hexDecode nonce with
  | none => .error (500, "Bad challenge hex in DB")
  | some challenge =>
    match hexDecode req.signature with
    | none => .error (400, "Invalid signature hex")
    | some signature =>
      match verifyAuthChallenge lib.keys req.publicKey challenge signature with
      | .error _ => .error (401, "Invalid signature")
      | .ok _ => .ok ()

-- A device that shows its master's certificate speaks for the master.
def certifiedMaster (req : VerifyRequest) : Except HttpError (Option String) :=
  match req.subkeyCert with
  | none => .ok none
  | some cert =>
    if cert.subkeyPubkey ≠ req.publicKey then .error (401, "subkey_cert is for a different key")
    else
      match cert.verify lib.keys with
      | .error _ => .error (401, "Invalid subkey_cert signature")
      | .ok _ => if certExpired cert now then .error (401, "subkey_cert expired") else .ok (some cert.masterPubkey)

-- Asked of the admin only.
def secondFactor (farms : Option FarmsRow) (canonical : String) (totpCode : Option String) : Except HttpError Unit :=
  match farms.filter fun row => decide (row.adminPubkey = some canonical) && row.totpEnabled with
  | none => .ok ()
  | some row =>
    match row.totpSecret with
    | none => .error (500, "totp_secret_missing")
    | some secret =>
      match totpCode with
      | none => .error (401, "totp_required")
      | some code => if lib.totp secret code now then .ok () else .error (401, "invalid_totp")

def mint (jti sub : String) (master : Option String) (scope : String) : FarmTokenPayload where
  iss := lib.farmUrl
  issPk := lib.publicKeyHex
  sub := sub
  master := master
  jti := jti
  iat := now
  exp := now + SESSION_TTL
  scope := scope

-- The row kept of a token.
def sessionRow (publicKey : String) (payload : FarmTokenPayload) : SessionRow where
  publicKey := publicKey
  issuedAt := payload.iat
  expiresAt := payload.exp
  scope := payload.scope

-- Pulls the challenge, and deletes it once it has expired or has been answered.
def answerChallenge (s : FarmAuth) (req : VerifyRequest) : FarmAuth × Except HttpError Unit :=
  match pendingChallenge s req with
  | none => (s, .error (401, "No pending challenge for this key"))
  | some (nonce, row) =>
    let used := { s with challenges := s.challenges.erase nonce }
    if row.expiresAt ≤ now then (used, .error (401, "Challenge expired"))
    else
      match checkSigned lib nonce req with
      | .error e => (s, .error e)
      | .ok _ => (used, .ok ())

def identify (farms : Option FarmsRow) (req : VerifyRequest) : Except HttpError (Option String) :=
  match certifiedMaster lib now req with
  | .error e => .error e
  | .ok master =>
    match secondFactor lib now farms (master.getD req.publicKey) req.totpCode with
    | .error e => .error e
    | .ok _ => .ok master

-- The session row is stored under the device's own key.
def openSession (jti : String) (s : FarmAuth) (req : VerifyRequest) (master : Option String) :
    FarmAuth × Except HttpError FarmTokenPayload :=
  let seen := upsertFarmUsers now s req.publicKey master
  let payload := mint lib now jti (master.getD req.publicKey) master (normaliseScope req.scope)
  match storeSession seen jti (sessionRow req.publicKey payload) with
  | .error e => (seen, .error e)
  | .ok stored => (stored, .ok payload)

-- The answer is the token that is signed over this payload.
def verify (jti : String) (s : FarmAuth) (req : VerifyRequest) : FarmAuth × Except HttpError FarmTokenPayload :=
  match answerChallenge lib now s req with
  | (answered, .error e) => (answered, .error e)
  | (answered, .ok _) =>
    match identify lib now s.farms req with
    | .error e => (answered, .error e)
    | .ok master => openSession lib now jti answered req master

-- The session row is stored under the subject of the old token.
def renew (jti : String) (s : FarmAuth) (bearer : Option String) : FarmAuth × Except HttpError FarmTokenPayload :=
  match bearer with
  | none => (s, .error (401, "Missing or invalid Authorization header"))
  | some token =>
    match lib.verifyToken lib.publicKeyHex token now with
    | .error e => (s, .error (401, "Invalid farm token: " ++ e))
    | .ok old =>
      let payload := mint lib now jti old.sub old.master old.scope
      match storeSession s jti (sessionRow old.sub payload) with
      | .error e => (s, .error e)
      | .ok stored => (stored, .ok payload)

def requireAuth (bearer : Option String) : Except HttpError FarmTokenPayload :=
  match bearer with
  | none => .error (401, "missing_token")
  | some token =>
    match lib.verifyToken lib.publicKeyHex token now with
    | .error _ => .error (401, "invalid_token")
    | .ok payload => .ok payload

def requireAdmin (s : FarmAuth) (bearer : Option String) : Except HttpError String :=
  match requireAuth lib now bearer with
  | .error e => .error e
  | .ok payload => if s.adminPubkey = some payload.sub then .ok payload.sub else .error (403, "farm_admin_only")

def revocable (pubkey : String) (row : SessionRow) : Bool :=
  decide (row.publicKey = pubkey ∧ row.revokedAt = none ∧ now < row.expiresAt)

def revokeUserSessions (s : FarmAuth) (bearer : Option String) (pubkey : String) : FarmAuth × Except HttpError Nat :=
  match requireAdmin lib now s bearer with
  | .error e => (s, .error e)
  | .ok _ =>
    if pubkey ∉ s.users then (s, .error (404, "user_not_found"))
    else
      ({ s with sessions := s.sessions.map fun _ row =>
          if revocable now pubkey row then { row with revokedAt := some now, revokedManually := true } else row },
        .ok (s.sessions.toList.filter fun entry => revocable now pubkey entry.2).length)

/-- What a hub is told about a token that it asks for. -/
def revokeCheck (s : FarmAuth) (jti : String) : Bool :=
  match s.sessions[jti]? with
  | none => true
  | some row => row.revokedAt.isSome || decide (row.expiresAt ≤ now)

def totpSetup (s : FarmAuth) (bearer : Option String) (secret : Bytes) : Except HttpError (String × String) :=
  match requireAdmin lib now s bearer with
  | .error e => .error e
  | .ok admin =>
    match lib.setup secret admin with
    | .error e => .error (500, "totp init failed: " ++ e)
    | .ok answer => .ok answer

def updateFarms (s : FarmAuth) (f : FarmsRow → FarmsRow) : FarmAuth := { s with farms := s.farms.map f }

-- The secret is the caller's own.
def totpConfirm (s : FarmAuth) (bearer : Option String) (secret code : String) : FarmAuth × Except HttpError Unit :=
  match requireAdmin lib now s bearer with
  | .error e => (s, .error e)
  | .ok _ =>
    if lib.totp secret code now then
      (updateFarms s fun row => { row with totpSecret := some secret, totpEnabled := true }, .ok ())
    else (s, .error (401, "invalid_totp"))

def totpDisable (s : FarmAuth) (bearer : Option String) (code : String) : FarmAuth × Except HttpError Unit :=
  match requireAdmin lib now s bearer with
  | .error e => (s, .error e)
  | .ok _ =>
    let cleared := updateFarms s fun row => { row with totpSecret := none, totpEnabled := false }
    match s.farms.filter (·.totpEnabled) with
    | none => (cleared, .ok ())
    | some row =>
      match row.totpSecret with
      | none => (s, .error (500, "totp_secret_missing"))
      | some secret => if lib.totp secret code now then (cleared, .ok ()) else (s, .error (401, "invalid_totp"))

end

inductive LoginCall where
  | challenge (publicKey : String) (nonce : Bytes)
  | verify (jti : String) (req : VerifyRequest)
  | renew (jti : String) (bearer : Option String)
  | revokeUserSessions (bearer : Option String) (pubkey : String)
  | totpSetup (bearer : Option String) (secret : Bytes)
  | totpConfirm (bearer : Option String) (secret code : String)
  | totpDisable (bearer : Option String) (code : String)
  deriving DecidableEq, Repr

section

variable (lib : LoginLib) (now : Int) (s : FarmAuth)

-- What a call leaves behind, and what it mints.
def LoginCall.serve : LoginCall → FarmAuth × Option FarmTokenPayload
  | .challenge publicKey nonce => ((Farm.challenge now s publicKey nonce).1, none)
  | .verify jti req => ((Farm.verify lib now jti s req).1, (Farm.verify lib now jti s req).2.toOption)
  | .renew jti bearer => ((Farm.renew lib now jti s bearer).1, (Farm.renew lib now jti s bearer).2.toOption)
  | .revokeUserSessions bearer pubkey => ((Farm.revokeUserSessions lib now s bearer pubkey).1, none)
  | .totpSetup _ _ => (s, none)
  | .totpConfirm bearer secret code => ((Farm.totpConfirm lib now s bearer secret code).1, none)
  | .totpDisable bearer code => ((Farm.totpDisable lib now s bearer code).1, none)

end

/-- A sign-in that passes every check, with the master that its certificate names. -/
structure SignsIn (lib : LoginLib) (now : Int) (s : FarmAuth) (jti : String) (req : VerifyRequest)
    (master : Option String) : Prop where
  answers : ∃ entry, pendingChallenge s req = some entry ∧ now < entry.2.expiresAt ∧
    checkSigned lib entry.1 req = .ok ()
  certified : certifiedMaster lib now req = .ok master
  factor : secondFactor lib now s.farms (master.getD req.publicKey) req.totpCode = .ok ()
  fresh : jti ∉ s.sessions

/-- A token that can be renewed under this jti. -/
structure Renews (lib : LoginLib) (now : Int) (s : FarmAuth) (jti : String) (bearer : Option String)
    (old : FarmTokenPayload) : Prop where
  opened : ∃ token, bearer = some token ∧ lib.verifyToken lib.publicKeyHex token now = .ok old
  known : old.sub ∈ s.users
  fresh : jti ∉ s.sessions

section

variable {lib : LoginLib} {now : Int} {s after : FarmAuth} {jti : String} {req : VerifyRequest}
  {bearer : Option String} {payload : FarmTokenPayload} {row : SessionRow}

theorem storeSession_iff : storeSession s jti row = .ok after ↔
    jti ∉ s.sessions ∧ row.publicKey ∈ s.users ∧ after = { s with sessions := s.sessions.insert jti row } := by
  unfold storeSession
  split
  next taken => simp [taken]
  next free =>
    split
    next unknown => simp [unknown]
    next known => simp [free, Decidable.not_not.mp known, eq_comm]

theorem storeSession_taken (taken : jti ∈ s.sessions) : storeSession s jti row = .error uniqueViolation :=
  if_pos taken

theorem mem_upsertFarmUsers {publicKey other : String} {master : Option String} :
    other ∈ (upsertFarmUsers now s publicKey master).users ↔ other = publicKey ∨ other ∈ s.users := by
  rw [upsertFarmUsers, ExtTreeMap.mem_insert, Std.LawfulEqCmp.compare_eq_iff_eq, eq_comm]

-- Only a challenge is touched.
theorem answerChallenge_kept (lib : LoginLib) (now : Int) (s : FarmAuth) (req : VerifyRequest) :
    ∃ challenges, (answerChallenge lib now s req).1 = { s with challenges := challenges } := by
  unfold answerChallenge
  split
  next => exact ⟨_, rfl⟩
  next =>
    dsimp only
    split
    next => exact ⟨_, rfl⟩
    next => split <;> exact ⟨_, rfl⟩

theorem answerChallenge_iff : (answerChallenge lib now s req).2 = .ok () ↔
    ∃ entry, pendingChallenge s req = some entry ∧ now < entry.2.expiresAt ∧
      checkSigned lib entry.1 req = .ok () := by
  unfold answerChallenge
  cases pending : pendingChallenge s req with
  | none => simp
  | some entry =>
    obtain ⟨nonce, row⟩ := entry
    simp only [Option.some.injEq, exists_eq_left']
    by_cases expired : row.expiresAt ≤ now
    next => simp [expired, Int.not_lt.mpr expired]
    next =>
      rw [if_neg expired]
      cases checkSigned lib nonce req <;> simp [Int.not_le.mp expired]

theorem identify_iff {farms : Option FarmsRow} {master : Option String} : identify lib now farms req = .ok master ↔
    certifiedMaster lib now req = .ok master ∧
      secondFactor lib now farms (master.getD req.publicKey) req.totpCode = .ok () := by
  unfold identify
  cases certifiedMaster lib now req with
  | error e => simp
  | ok found =>
    dsimp only
    constructor
    · intro passed
      split at passed
      next => cases passed
      next factor =>
        cases passed
        exact ⟨rfl, factor⟩
    · rintro ⟨same, factor⟩
      cases same
      rw [factor]

/-- What a sign-in changes besides the row of its session. -/
structure Seen (s after : FarmAuth) (publicKey : String) : Prop where
  farms : after.farms = s.farms
  users : ∀ other, other ∈ after.users ↔ other = publicKey ∨ other ∈ s.users

theorem openSession_cases (lib : LoginLib) (now : Int) (jti : String) (s : FarmAuth) (req : VerifyRequest)
    (master : Option String) :
    Seen s (openSession lib now jti s req master).1 req.publicKey ∧
      (openSession lib now jti s req master).2 =
        if jti ∈ s.sessions then .error uniqueViolation
        else .ok (mint lib now jti (master.getD req.publicKey) master (normaliseScope req.scope)) := by
  unfold openSession
  dsimp only
  generalize mint lib now jti (master.getD req.publicKey) master (normaliseScope req.scope) = payload
  have users : ∀ other, other ∈ (upsertFarmUsers now s req.publicKey master).users ↔
      other = req.publicKey ∨ other ∈ s.users := fun other => mem_upsertFarmUsers
  by_cases taken : jti ∈ s.sessions
  next =>
    rw [storeSession_taken (s := upsertFarmUsers now s req.publicKey master) taken]
    exact ⟨⟨rfl, users⟩, (if_pos taken).symm⟩
  next =>
    have known : (sessionRow req.publicKey payload).publicKey ∈ (upsertFarmUsers now s req.publicKey master).users :=
      (users req.publicKey).mpr (.inl rfl)
    rw [(storeSession_iff (s := upsertFarmUsers now s req.publicKey master)).mpr ⟨taken, known, rfl⟩]
    exact ⟨⟨rfl, users⟩, (if_neg taken).symm⟩

/-- A call that mints nothing: the row of the farm is as it was, and no user is forgotten. -/
structure Unminted (s after : FarmAuth) : Prop where
  farms : after.farms = s.farms
  users : ∀ other, other ∈ s.users → other ∈ after.users

theorem verify_cases (lib : LoginLib) (now : Int) (jti : String) (s : FarmAuth) (req : VerifyRequest) :
    (∃ master, SignsIn lib now s jti req master ∧ Seen s (verify lib now jti s req).1 req.publicKey ∧
      (verify lib now jti s req).2.toOption =
        some (mint lib now jti (master.getD req.publicKey) master (normaliseScope req.scope))) ∨
    ((∀ master, ¬ SignsIn lib now s jti req master) ∧ Unminted s (verify lib now jti s req).1 ∧
      (verify lib now jti s req).2.toOption = none) := by
  obtain ⟨challenges, kept⟩ := answerChallenge_kept lib now s req
  have unsigned : ∀ {first : FarmAuth × Except HttpError Unit}, first = answerChallenge lib now s req →
      first.1 = { s with challenges := challenges } := fun same => same ▸ kept
  unfold verify
  rcases answered : answerChallenge lib now s req with ⟨used, e | done⟩
  · obtain rfl := unsigned answered.symm
    refine .inr ⟨fun master signs => ?_, ⟨rfl, fun _ known => known⟩, rfl⟩
    have passed := answerChallenge_iff.mpr signs.answers
    rw [answered] at passed
    cases passed
  · obtain rfl := unsigned answered.symm
    have answers := answerChallenge_iff.mp (congrArg Prod.snd answered)
    dsimp only
    cases identified : identify lib now s.farms req with
    | error e =>
      refine .inr ⟨fun master signs => ?_, ⟨rfl, fun _ known => known⟩, rfl⟩
      have passed := identify_iff.mpr ⟨signs.certified, signs.factor⟩
      rw [identified] at passed
      cases passed
    | ok master =>
      obtain ⟨certified, factor⟩ := identify_iff.mp identified
      obtain ⟨seen, minted⟩ := openSession_cases lib now jti { s with challenges := challenges } req master
      dsimp only at minted ⊢
      rw [minted]
      by_cases taken : jti ∈ s.sessions
      next =>
        rw [if_pos taken]
        have kept : Unminted s (openSession lib now jti { s with challenges := challenges } req master).1 :=
          ⟨seen.farms, fun other known => (seen.users other).mpr (.inr known)⟩
        exact .inr ⟨fun _ signs => signs.fresh taken, kept, rfl⟩
      next =>
        rw [if_neg taken]
        exact .inl ⟨master, ⟨answers, certified, factor, taken⟩, ⟨seen.farms, seen.users⟩, rfl⟩

theorem renew_cases (lib : LoginLib) (now : Int) (jti : String) (s : FarmAuth) (bearer : Option String) :
    Unminted s (renew lib now jti s bearer).1 ∧
      ((∃ old, Renews lib now s jti bearer old ∧
          (renew lib now jti s bearer).2.toOption = some (mint lib now jti old.sub old.master old.scope)) ∨
        ((∀ old, ¬ Renews lib now s jti bearer old) ∧ (renew lib now jti s bearer).2.toOption = none)) := by
  unfold renew
  cases bearer with
  | none => exact ⟨⟨rfl, fun _ known => known⟩, .inr ⟨by rintro old ⟨⟨_, ⟨⟩, _⟩, _, _⟩, rfl⟩⟩
  | some token =>
    dsimp only
    cases opened : lib.verifyToken lib.publicKeyHex token now with
    | error e =>
      refine ⟨⟨rfl, fun _ known => known⟩, .inr ⟨?_, rfl⟩⟩
      rintro old ⟨⟨_, same, reads⟩, -, -⟩
      cases same
      rw [opened] at reads
      cases reads
    | ok old =>
      dsimp only
      cases stored : storeSession s jti (sessionRow old.sub (mint lib now jti old.sub old.master old.scope)) with
      | error e =>
        refine ⟨⟨rfl, fun _ known => known⟩, .inr ⟨?_, rfl⟩⟩
        rintro other ⟨⟨_, same, reads⟩, known, fresh⟩
        cases same
        rw [opened] at reads
        cases reads
        have stores : (sessionRow old.sub (mint lib now jti old.sub old.master old.scope)).publicKey ∈ s.users := known
        rw [storeSession_iff.mpr ⟨fresh, stores, rfl⟩] at stored
        cases stored
      | ok final =>
        obtain ⟨fresh, known, rfl⟩ := storeSession_iff.mp stored
        exact ⟨⟨rfl, fun _ known => known⟩, .inl ⟨old, ⟨⟨token, rfl, opened⟩, known, fresh⟩, rfl⟩⟩

theorem challenge_unminted (publicKey : String) (nonce : Bytes) : Unminted s (challenge now s publicKey nonce).1 := by
  unfold challenge
  dsimp only
  split <;> exact ⟨rfl, fun _ known => known⟩

theorem revokeUserSessions_unminted (pubkey : String) : Unminted s (revokeUserSessions lib now s bearer pubkey).1 := by
  unfold revokeUserSessions
  split
  next => exact ⟨rfl, fun _ known => known⟩
  next => split <;> exact ⟨rfl, fun _ known => known⟩

theorem totpConfirm_users (secret code : String) : (totpConfirm lib now s bearer secret code).1.users = s.users := by
  unfold totpConfirm
  split
  next => rfl
  next => split <;> rfl

theorem totpDisable_users (code : String) : (totpDisable lib now s bearer code).1.users = s.users := by
  unfold totpDisable
  split
  next => rfl
  next =>
    dsimp only
    split
    next => rfl
    next =>
      split
      next => rfl
      next => split <;> rfl

-- No call forgets a user.
theorem serve_users (lib : LoginLib) (now : Int) (s : FarmAuth) (call : LoginCall) {other : String}
    (known : other ∈ s.users) : other ∈ (call.serve lib now s).1.users := by
  cases call with
  | challenge publicKey nonce => exact (challenge_unminted publicKey nonce).users other known
  | verify jti req =>
    obtain ⟨master, -, seen, -⟩ | ⟨-, kept, -⟩ := verify_cases lib now jti s req
    · exact (seen.users other).mpr (.inr known)
    · exact kept.users other known
  | renew jti bearer => exact (renew_cases lib now jti s bearer).1.users other known
  | revokeUserSessions bearer pubkey => exact (revokeUserSessions_unminted pubkey).users other known
  | totpSetup bearer secret => exact known
  | totpConfirm bearer secret code => exact (totpConfirm_users secret code).symm ▸ known
  | totpDisable bearer code => exact (totpDisable_users code).symm ▸ known

theorem requireAuth_signToken (documented : lib.Documented) (own : payload.issPk = lib.publicKeyHex) :
    requireAuth lib now (some (lib.signToken payload)) =
      if payload.exp ≤ now then .error (401, "invalid_token") else .ok payload := by
  rw [requireAuth, verifyToken_signToken documented own]
  by_cases expired : payload.exp ≤ now
  next => simp only [if_pos expired]
  next => simp only [if_neg expired]

end

end Wavvon.Farm
