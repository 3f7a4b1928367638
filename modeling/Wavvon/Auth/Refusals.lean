import Wavvon.Auth.Floor

set_option autoImplicit false

namespace Wavvon

open Std (ExtTreeMap)
open Tables (Nested)

/-- Nothing about identities is different, and the same later identity counts as the first. -/
structure LeavesNothing (before after : AuthState) : Prop where
  users : after.db.users = before.db.users
  sessions : after.tables.sessions = before.tables.sessions
  userRoles : after.db.userRoles = before.db.userRoles
  subkeyCerts : after.tables.subkeyCerts = before.tables.subkeyCerts
  admissionFlags : after.tables.admissionFlags = before.tables.admissionFlags
  firstUser : existingUsers after = existingUsers before

section

variable (s : AuthState) (req : VerifyRequest) (canonical : String) (master : Option String)
  (claimed : Nat) (env : VerifyEnv)

/-- All that seating the identity writes is already in the tables. -/
structure AlreadySeated : Prop where
  row : ∃ user, s.db.users[canonical]? = some user ∧ user.lastSeenAt = env.now ∧
    (user.masterPubkey = none → master = none) ∧ claimed ≤ storedPowLevel s.db canonical
  device : ∀ cert, req.subkeyCert = some cert →
    s.tables.subkeyCerts.get cert.masterPubkey cert.subkeyPubkey =
      some { cert := cert, homeHubUrl := cert.fallbackHubs.head?.getD "" }

/-- A person who is not a member yet fails the admission challenge. -/
def FailsChallenge : Prop :=
  FacesChallenge s req canonical master ∧ ∃ e, challengeGate s req env.now = .error e

/-- A person who is not a member yet gets past the challenge and is turned away at the invite. -/
def FailsInvite : Prop :=
  isMember s.db canonical = false ∧ req.isHub ≠ some true ∧ ¬ FailsChallenge s req canonical master env ∧
    ∃ e, redeemInvite s req canonical master env.now = .error e

end

/--
No request that reaches the seat is turned away at the invite; one that fails the challenge finds
everything the seat writes already there.
-/
def NotRefusedLate (outside : Outside) (s : AuthState) (req : VerifyRequest) (env : VerifyEnv) : Prop :=
  ∀ canonical master claimed, Seats outside s req env canonical master claimed →
    ¬ FailsInvite s req canonical master env ∧
      (FailsChallenge s req canonical master env → AlreadySeated s req canonical master claimed env)

section

variable {s t : AuthState} {req : VerifyRequest} {canonical : String} {master : Option String}
  {claimed : Nat} {env : VerifyEnv}

-- A refusal at the challenge reads only the tokens.
theorem challengeGate_congr (tokens : t.tables.challengeTokens = s.tables.challengeTokens) (now : Int)
    (e : HttpError) : challengeGate t req now = .error e ↔ challengeGate s req now = .error e := by
  unfold challengeGate
  rw [tokens]
  split
  · rfl
  · split
    · rfl
    · repeat' split
      all_goals simp

-- A refusal at the invite reads only the invites and one setting.
theorem redeemInvite_congr (invites : t.tables.invites = s.tables.invites)
    (settings : ∀ key, t.setting key = s.setting key) (now : Int) (e : HttpError) :
    redeemInvite t req canonical master now = .error e ↔
      redeemInvite s req canonical master now = .error e := by
  unfold redeemInvite validateAndUseInvite
  rw [invites, settings]
  split
  next code _ =>
    cases s.tables.invites[code]? with
    | none => rfl
    | some invite =>
      dsimp only
      by_cases expired : invite.expiresAt.any (· < now) = true
      next => simp [expired]
      next =>
        by_cases bound : redeemableBy invite.boundPubkey (inviteCandidates req canonical master) = true
        next => by_cases spent : invite.maxUses.any (· ≤ invite.uses) = true <;> simp [expired, bound, spent]
        next => simp [expired, bound]
  next =>
    split <;> simp

-- Neither taking the challenge nor the seat touches what the later gates read.
theorem failsChallenge_seat :
    FailsChallenge (seatUser (takeChallenge s req.challenge) req canonical master claimed env) req
        canonical master env ↔
      FailsChallenge s req canonical master env := by
  have tokens : (seatUser (takeChallenge s req.challenge) req canonical master claimed
      env).tables.challengeTokens = s.tables.challengeTokens := by
    rw [seatUser_tables]
    rfl
  have named : presentsNamedInvite (seatUser (takeChallenge s req.challenge) req canonical master claimed
      env) req canonical master = presentsNamedInvite s req canonical master := by
    unfold presentsNamedInvite
    rw [seatUser_tables]
    rfl
  have faces : FacesChallenge (seatUser (takeChallenge s req.challenge) req canonical master claimed env)
      req canonical master ↔ FacesChallenge s req canonical master := by
    simp only [FacesChallenge, arrivesAsPeer, seatUser_setting, seatUser_isMember, named]
    rfl
  simp only [FailsChallenge, faces, challengeGate_congr tokens]

theorem redeemInvite_seat {passed : AuthState} {exempt : Bool} {e : HttpError}
    (answers : Answers (seatUser (takeChallenge s req.challenge) req canonical master claimed env) req
      canonical master env passed) :
    redeemInvite (withSession (seatUser (takeChallenge s req.challenge) req canonical master claimed env)
        req canonical exempt env passed) req canonical master env.now = .error e ↔
      redeemInvite s req canonical master env.now = .error e := by
  obtain ⟨tokens, rfl⟩ := answers_frame answers
  refine redeemInvite_congr ?_ ?_ env.now e
  · dsimp only [withSession, insertSession]
    rw [seatUser_tables]
    rfl
  · intro key
    exact seatUser_setting _ req canonical master claimed env key

theorem existingUsers_congr (users : t.db.users = s.db.users) (peers : t.tables.peers = s.tables.peers) :
    existingUsers t = existingUsers s := by
  simp only [existingUsers, users, peers]

theorem seatUser_users_iff :
    (seatUser s req canonical master claimed env).db.users = s.db.users ↔
      s.db.users[canonical]? = some (seatRow s req canonical master claimed env) := by
  constructor
  · intro same
    rw [← same, seatUser_users, if_pos rfl]
  · intro held
    apply ExtTreeMap.ext_getElem?
    intro key
    rw [seatUser_users]
    split
    next here => rw [here, held]
    next => rfl

theorem seatRow_same_iff (small : claimed < 2 ^ 32) :
    s.db.users[canonical]? = some (seatRow s req canonical master claimed env) ↔
      ∃ user, s.db.users[canonical]? = some user ∧ user.lastSeenAt = env.now ∧
        (user.masterPubkey = none → master = none) ∧ claimed ≤ storedPowLevel s.db canonical := by
  cases found : s.db.users[canonical]? with
  | none => simp
  | some user =>
    have level : storedPowLevel s.db canonical = (user.powLevel % 2 ^ 32).toNat := by
      simp [storedPowLevel, found]
    simp only [seatRow, found, upsertRow, raisedRow, level, Option.some.injEq, exists_eq_left']
    constructor
    · intro same
      by_cases higher : (user.powLevel % 2 ^ 32).toNat < claimed
      next =>
        rw [if_pos higher] at same
        have stored := congrArg User.powLevel same
        dsimp only at stored
        omega
      next =>
        rw [if_neg higher] at same
        refine ⟨congrArg User.lastSeenAt same, ?_, Nat.le_of_not_lt higher⟩
        intro unlinked
        have linked := congrArg User.masterPubkey same
        simpa [unlinked] using linked.symm
    · rintro ⟨seen, linked, reached⟩
      rw [if_neg (Nat.not_lt.mpr reached)]
      cases user with
      | mk _ _ _ _ masterPubkey =>
        dsimp only at seen linked ⊢
        subst seen
        cases masterPubkey with
        | none => simp [linked rfl]
        | some _ => rfl

-- An identity that has a row is not flagged again.
theorem seatUser_flags (known : canonical ∈ s.db.users) :
    (seatUser s req canonical master claimed env).tables.admissionFlags = s.tables.admissionFlags := by
  have unmatched : banMatch s req canonical env = none := by
    unfold banMatch
    split
    · rfl
    · rw [if_neg (by simp [known])]
  cases presented : req.subkeyCert <;> simp [seatUser, unmatched, presented, upsertSubkeyCert]

theorem put_eq_iff {V : Type} (table : Nested String String V) (k l : String) (v : V) :
    table.put k l v = table ↔ table.get k l = some v := by
  constructor
  · intro same
    have put := Nested.get_put table k k l l v
    rwa [same, if_pos ⟨rfl, rfl⟩] at put
  · intro held
    obtain ⟨inner, outer, stored⟩ := Option.bind_eq_some_iff.mp held
    apply ExtTreeMap.ext_getElem?
    intro other
    rw [Nested.put, ExtTreeMap.getElem?_insert]
    split
    next here =>
      obtain rfl : k = other := by simpa using here
      rw [outer, Option.getD_some, Option.some.injEq]
      apply ExtTreeMap.ext_getElem?
      intro label
      rw [ExtTreeMap.getElem?_insert]
      split
      next there =>
        obtain rfl : l = label := by simpa using there
        exact stored.symm
      next => rfl
    next => rfl

/-- Seating the identity changes no table exactly when everything is already there. -/
theorem seat_leaves_iff (small : claimed < 2 ^ 32) :
    LeavesNothing s (seatUser s req canonical master claimed env) ↔
      AlreadySeated s req canonical master claimed env := by
  have certs : ∀ cert, req.subkeyCert = some cert →
      (seatUser s req canonical master claimed env).tables.subkeyCerts =
        s.tables.subkeyCerts.put cert.masterPubkey cert.subkeyPubkey
          { cert := cert, homeHubUrl := cert.fallbackHubs.head?.getD "" } := by
    intro cert presented
    simp [seatUser, presented, upsertSubkeyCert]
  constructor
  · intro leaves
    refine ⟨(seatRow_same_iff small).mp (seatUser_users_iff.mp leaves.users), ?_⟩
    intro cert presented
    rw [← put_eq_iff, ← certs cert presented]
    exact leaves.subkeyCerts
  · rintro ⟨row, device⟩
    have users : (seatUser s req canonical master claimed env).db.users = s.db.users :=
      seatUser_users_iff.mpr ((seatRow_same_iff small).mpr row)
    obtain ⟨user, found, _⟩ := row
    refine ⟨users, by rw [seatUser_tables], by rw [seatUser_db], ?_, ?_, ?_⟩
    · cases presented : req.subkeyCert with
      | none => simp [seatUser, presented]
      | some cert =>
        rw [certs cert presented]
        exact (put_eq_iff _ _ _ _).mpr (device cert presented)
    · exact seatUser_flags (by simp [ExtTreeMap.mem_iff_isSome_getElem?, found])
    · exact existingUsers_congr users (by rw [seatUser_tables])

theorem LeavesNothing.taken {after : AuthState} {challenge : String} :
    LeavesNothing (takeChallenge s challenge) after ↔ LeavesNothing s after :=
  ⟨fun ⟨a, b, c, d, e, f⟩ => ⟨a, b, c, d, e, f⟩, fun ⟨a, b, c, d, e, f⟩ => ⟨a, b, c, d, e, f⟩⟩

theorem Seats.small {outside : Outside} (seats : Seats outside s req env canonical master claimed) :
    claimed < 2 ^ 32 :=
  (securityGate_proved (admissionGates_security seats.gates)).2

/-- Past the seat, an invite refusal is the only one that comes with a session row. -/
theorem afterSeat_refused {e : HttpError}
    (refused : (afterSeat s req env canonical master claimed).2 = .error e) :
    (FailsChallenge s req canonical master env ∧
        (afterSeat s req env canonical master claimed).1 =
          seatUser (takeChallenge s req.challenge) req canonical master claimed env) ∨
      FailsInvite s req canonical master env := by
  have ended := afterSeat_outcome s req env canonical master claimed
  generalize afterSeat s req env canonical master claimed = outcome at ended refused ⊢
  cases ended with
  | unanswered e faces gate =>
    refine .inl ⟨?_, rfl⟩
    exact failsChallenge_seat.mp ⟨faces, e, gate⟩
  | peer => cases refused
  | member => cases refused
  | admitted => cases refused
  | uninvited passed e answers stranger person turnedAway =>
    refine .inr ⟨?_, person, ?_, e, ?_⟩
    · rw [seatUser_isMember] at stranger
      exact stranger
    · intro fails
      have seated : FailsChallenge
          (seatUser (takeChallenge s req.challenge) req canonical master claimed env) req canonical master
          env := failsChallenge_seat.mpr fails
      obtain ⟨faces, e, gate⟩ := seated
      simp [Answers, faces, gate] at answers
    · exact (redeemInvite_seat answers).mp turnedAway

theorem afterSeat_failsInvite (claimed : Nat) (fails : FailsInvite s req canonical master env) :
    ∃ e session, (afterSeat s req env canonical master claimed).2 = .error e ∧
      (afterSeat s req env canonical master claimed).1.tables.sessions =
        s.tables.sessions ++ [session] := by
  obtain ⟨stranger, person, answered, e, turnedAway⟩ := fails
  have seatedStranger : isMember (seatUser (takeChallenge s req.challenge) req canonical master claimed
      env).db canonical = false := by
    rw [seatUser_isMember]
    exact stranger
  have ended := afterSeat_outcome s req env canonical master claimed
  generalize afterSeat s req env canonical master claimed = outcome at ended ⊢
  cases ended with
  | unanswered e faces gate => exact absurd (failsChallenge_seat.mp ⟨faces, e, gate⟩) answered
  | peer passed answers arrives => simp [arrivesAsPeer, person] at arrives
  | member belongs => simp [seatedStranger] at belongs
  | uninvited passed e answers =>
    obtain ⟨tokens, rfl⟩ := answers_frame answers
    refine ⟨e, _, rfl, congrArg (· ++ [_]) ?_⟩
    rw [seatUser_tables]
    rfl
  | admitted passed spent redemption answers _ _ redeemed =>
    rw [(redeemInvite_seat answers).mpr turnedAway] at redeemed
    cases redeemed

theorem afterSeat_failsChallenge (claimed : Nat) (fails : FailsChallenge s req canonical master env) :
    ∃ e, afterSeat s req env canonical master claimed =
      (seatUser (takeChallenge s req.challenge) req canonical master claimed env, .error e) := by
  have seated : FailsChallenge
      (seatUser (takeChallenge s req.challenge) req canonical master claimed env) req canonical master
      env := failsChallenge_seat.mpr fails
  obtain ⟨faces, e, gate⟩ := seated
  have ended := afterSeat_outcome s req env canonical master claimed
  generalize afterSeat s req env canonical master claimed = outcome at ended ⊢
  cases ended with
  | unanswered e => exact ⟨e, rfl⟩
  | peer passed answers => simp [Answers, faces, gate] at answers
  | member belongs => simp [faces.2.1] at belongs
  | uninvited passed e answers => simp [Answers, faces, gate] at answers
  | admitted passed spent redemption answers => simp [Answers, faces, gate] at answers

-- Past the seat only the challenge and the invite can refuse.
theorem afterSeat_answered (claimed : Nat) (passes : ¬ FailsChallenge s req canonical master env)
    (invited : ¬ FailsInvite s req canonical master env) :
    ∃ response, (afterSeat s req env canonical master claimed).2 = .ok response ∧
      response.canonicalPubkey = canonical := by
  have ended := afterSeat_outcome s req env canonical master claimed
  generalize afterSeat s req env canonical master claimed = outcome at ended ⊢
  cases ended with
  | unanswered e faces refused => exact absurd (failsChallenge_seat.mp ⟨faces, e, refused⟩) passes
  | peer passed answers arrives => exact ⟨_, rfl, rfl⟩
  | member belongs => exact ⟨_, rfl, rfl⟩
  | uninvited passed e answers stranger person refused =>
    rw [seatUser_isMember] at stranger
    exact absurd ⟨stranger, person, passes, e, (redeemInvite_seat answers).mp refused⟩ invited
  | admitted passed spent redemption answers stranger person redeemed => exact ⟨_, rfl, rfl⟩

end

/-- A refused sign-in leaves nothing behind exactly when it is not refused after the seat was written. -/
theorem refusal_leaves_nothing_iff (outside : Outside) (s : AuthState) (req : VerifyRequest)
    (env : VerifyEnv) :
    (∀ e, (verify outside s req env).2 = .error e → LeavesNothing s (verify outside s req env).1) ↔
      NotRefusedLate outside s req env := by
  constructor
  · intro leaves canonical master claimed seats
    rw [verify_seats seats] at leaves
    constructor
    · intro fails
      obtain ⟨e, session, refused, sessions⟩ := afterSeat_failsInvite claimed fails
      have same := (leaves e refused).sessions
      simp [sessions] at same
    · intro fails
      obtain ⟨e, ended⟩ := afterSeat_failsChallenge claimed fails
      rw [ended] at leaves
      have there := (seat_leaves_iff seats.small).mp (LeavesNothing.taken.mpr (leaves e rfl))
      exact ⟨there.row, there.device⟩
  · intro met e refused
    rcases verify_cases outside s req env with ⟨e, same | same⟩ | ⟨canonical, visitor, _, same⟩ |
      ⟨canonical, master, claimed, seats⟩
    · rw [same]
      exact ⟨rfl, rfl, rfl, rfl, rfl, rfl⟩
    · rw [same]
      exact ⟨rfl, rfl, rfl, rfl, rfl, rfl⟩
    · rw [same] at refused
      cases refused
    · obtain ⟨invited, seated⟩ := met canonical master claimed seats
      rw [verify_seats seats] at refused ⊢
      rcases afterSeat_refused refused with ⟨fails, after⟩ | fails
      · rw [after]
        have there := seated fails
        exact LeavesNothing.taken.mp ((seat_leaves_iff seats.small).mpr ⟨there.row, there.device⟩)
      · exact absurd fails invited

def closedHub : AuthState :=
  { db := { hubSettings := (∅ : Table String).insert "invite_only" "true" } }

def uninvitedSignIn : VerifyRequest :=
  { publicKey := guestKey, challenge := "07", signature := "076131" }

-- A stranger turned away from a closed, empty hub has a row, a session and the first user's place.
theorem refusal_leaves_nothing_uninvited :
    ¬ ∀ e, (verify softAuthenticator (challenge closedHub guestKey [7] 0) uninvitedSignIn
        { now := 1, instant := 1, token := "first" }).2 = .error e →
      LeavesNothing (challenge closedHub guestKey [7] 0)
        (verify softAuthenticator (challenge closedHub guestKey [7] 0) uninvitedSignIn
          { now := 1, instant := 1, token := "first" }).1 := by
  intro leaves
  have first := (leaves (403, "This hub requires an invite code") (by decide)).firstUser
  revert first
  decide

end Wavvon
