import Wavvon.Auth.Ceremonies
import Wavvon.Auth.Outcomes
import Wavvon.Auth.Sessions

set_option autoImplicit false

namespace Wavvon

open Std (ExtTreeMap)

-- The level a request's own proof of work shows.
def VerifyRequest.provedLevel (req : VerifyRequest) (outside : Outside) : Nat :=
  let claimed := (req.securityLevel.map (·.toNat)).getD 0
  if verifySecurityLevel outside req.publicKey (req.securityNonce.getD 0) claimed then claimed else 0

def isOwner (db : Db) (canonical : String) : Prop :=
  (canonical, BUILTIN_OWNER_ROLE_ID) ∈ db.userRoles

section

variable (outside : Outside) (s : AuthState)

/-- The owner, the hub's first user, or somebody at the floor of proof of work. -/
def AboveFloor (req : VerifyRequest) (canonical : String) : Prop :=
  isOwner s.db canonical ∨ existingUsers s = 0 ∨
    minSecurityLevel s ≤ max (storedPowLevel s.db canonical) (req.provedLevel outside)

/-- On a hub with a floor and a lobby, a full-member session goes only to somebody above the floor. -/
def FloorHeld : AuthCall → Prop
  | .verify req env =>
    0 < minSecurityLevel s → lobbyEnabled s = true → ∀ response,
      (verify outside s req env).2 = .ok response → response.scope = .member →
        AboveFloor outside s req response.canonicalPubkey
  | _ => True

/-- A member that calls itself a hub is above the floor. -/
def HubClaimsAbove : AuthCall → Prop
  | .verify req env =>
    0 < minSecurityLevel s → lobbyEnabled s = true → req.isHub = some true →
      ∀ canonical master claimed, Seats outside s req env canonical master claimed →
        isMember s.db canonical = true → AboveFloor outside s req canonical
  | _ => True

end

section

variable {outside : Outside} {s : AuthState} {req : VerifyRequest} {env : VerifyEnv}
  {canonical : String} {master : Option String} {claimed : Nat}

theorem exempt_iff :
    ownerExempt s req canonical = true ↔
      existingUsers s = 0 ∨ isOwner s.db canonical ∨ req.isHub = some true := by
  simp [ownerExempt, isOwner, or_assoc]

theorem admissionGates_security
    (through : admissionGates outside s req canonical master env.now = .ok claimed) :
    securityGate outside s req canonical = .ok claimed := by
  unfold admissionGates at through
  split at through
  · cases through
  split at through
  · cases through
  split at through
  · cases through
  next level gate =>
    split at through
    · cases through
    · cases through
    · cases through
      exact gate

-- Only a verified claim gets past the gate, and it fits 32 bits.
theorem securityGate_proved (through : securityGate outside s req canonical = .ok claimed) :
    claimed ≤ req.provedLevel outside ∧ claimed < 2 ^ 32 := by
  unfold securityGate at through
  dsimp only at through
  split at through
  next =>
    split at through
    · cases through
    next verified =>
      split at through
      · cases through
      · cases through
        simp only [Bool.not_eq_true, Bool.not_eq_false'] at verified
        constructor
        · simp [VerifyRequest.provedLevel, verified]
        · cases req.securityLevel with
          | none => simp
          | some level => simpa using level.toNat_lt
  next =>
    cases through
    simp

theorem minSecurityLevel_seat (s : AuthState) (req : VerifyRequest) (canonical : String)
    (master : Option String) (claimed : Nat) (env : VerifyEnv) :
    minSecurityLevel (seatUser s req canonical master claimed env) = minSecurityLevel s := by
  simp only [minSecurityLevel, seatUser_setting]

theorem lobbyEnabled_seat (s : AuthState) (req : VerifyRequest) (canonical : String)
    (master : Option String) (claimed : Nat) (env : VerifyEnv) :
    lobbyEnabled (seatUser s req canonical master claimed env) = lobbyEnabled s := by
  simp only [lobbyEnabled, seatUser_setting]

theorem storedPowLevel_seat (s : AuthState) (req : VerifyRequest) (canonical : String)
    (master : Option String) (env : VerifyEnv) (small : claimed < 2 ^ 32) :
    storedPowLevel (seatUser s req canonical master claimed env).db canonical =
      max (storedPowLevel s.db canonical) claimed := by
  have row := seatUser_users s req canonical master claimed env canonical
  rw [if_pos rfl] at row
  have kept : (upsertRow s.db.users[canonical]? master
      (initialStatus s req (banMatch s req canonical env)) env.now).powLevel =
        (s.db.users[canonical]?.map User.powLevel).getD 0 := by
    cases s.db.users[canonical]? <;> rfl
  simp only [storedPowLevel, row, Option.map_some, Option.getD_some, seatRow, raisedRow, kept]
  split
  next higher =>
    rw [max_eq_right higher.le]
    dsimp only
    omega
  next reached => rw [kept, max_eq_left (Nat.le_of_not_lt reached)]

theorem scope_member {state : AuthState} {peer exempt : Bool}
    (member : sessionScope state peer exempt canonical = .member) :
    peer = false ∧ (exempt = false → lobbyEnabled state = true →
      minSecurityLevel state ≤ storedPowLevel state.db canonical) := by
  unfold sessionScope at member
  repeat' split at member
  all_goals simp_all

/-- What a member scope says of the identity, on a hub with a lobby. -/
theorem openedScope_member {passed : AuthState} (lobby : lobbyEnabled s = true)
    (seats : Seats outside s req env canonical master claimed)
    (answers : Answers (seatUser (takeChallenge s req.challenge) req canonical master claimed env) req
      canonical master env passed)
    (member : openedScope (seatUser (takeChallenge s req.challenge) req canonical master claimed env) req
      canonical (ownerExempt s req canonical) passed = .member) :
    AboveFloor outside s req canonical ∨ req.isHub = some true ∧ isMember s.db canonical = true := by
  obtain ⟨notPeer, floor⟩ := scope_member member
  by_cases exempt : ownerExempt s req canonical = true
  next =>
    rcases exempt_iff.mp exempt with first | owner | hub
    · exact .inl (.inr (.inl first))
    · exact .inl (.inl owner)
    · refine .inr ⟨hub, ?_⟩
      rw [arrivesAsPeer, seatUser_isMember] at notPeer
      have belongs : isMember (takeChallenge s req.challenge).db canonical = true := by
        simpa [hub] using notPeer
      exact belongs
  next =>
    obtain ⟨tokens, rfl⟩ := answers_frame answers
    obtain ⟨proved, small⟩ := securityGate_proved (admissionGates_security seats.gates)
    have enabled := lobbyEnabled_seat (takeChallenge s req.challenge) req canonical master claimed env
    have reached := floor (by simpa using exempt) (enabled.trans lobby)
    have level := minSecurityLevel_seat (takeChallenge s req.challenge) req canonical master claimed
      env
    have stored := storedPowLevel_seat (takeChallenge s req.challenge) req canonical master env small
    refine .inl (.inr (.inr ?_))
    calc minSecurityLevel s
        = minSecurityLevel (takeChallenge s req.challenge) := rfl
      _ = minSecurityLevel (seatUser (takeChallenge s req.challenge) req canonical master claimed env) :=
        level.symm
      _ ≤ storedPowLevel (seatUser (takeChallenge s req.challenge) req canonical master claimed env).db
          canonical := reached
      _ = max (storedPowLevel s.db canonical) claimed := stored
      _ ≤ max (storedPowLevel s.db canonical) (req.provedLevel outside) := by omega

theorem answered_seat {exempt first : Bool}
    {outcome : AuthState × Except HttpError VerifyResponse} {response : VerifyResponse}
    (ended : SessionOutcome s req canonical master exempt env first outcome)
    (answered : outcome.2 = .ok response) :
    response.canonicalPubkey = canonical ∧ ∃ passed, Answers s req canonical master env passed ∧
      response.scope = openedScope s req canonical exempt passed := by
  cases ended with
  | unanswered => cases answered
  | uninvited => cases answered
  | peer passed answers =>
    cases answered
    exact ⟨rfl, passed, answers, rfl⟩
  | member belongs =>
    cases answered
    exact ⟨rfl, s, by simp [Answers, FacesChallenge, belongs], rfl⟩
  | admitted passed _ _ answers =>
    cases answered
    exact ⟨rfl, passed, answers, rfl⟩

-- A member that passes the gates gets its session, and calling itself a hub makes it a full one.
theorem hub_member_session (seats : Seats outside s req env canonical master claimed)
    (hub : req.isHub = some true) (belongs : isMember s.db canonical = true) :
    ∃ response, (verify outside s req env).2 = .ok response ∧ response.scope = .member ∧
      response.canonicalPubkey = canonical := by
  have seated : isMember (seatUser (takeChallenge s req.challenge) req canonical master claimed env).db
      canonical = true := by
    rw [seatUser_isMember]
    exact belongs
  rw [verify_seats seats]
  have exempt : ownerExempt s req canonical = true := exempt_iff.mpr (.inr (.inr hub))
  have notPeer : arrivesAsPeer (seatUser (takeChallenge s req.challenge) req canonical master claimed env)
      req canonical = false := by
    simp [arrivesAsPeer, seated]
  have ended := afterSeat_outcome s req env canonical master claimed
  generalize afterSeat s req env canonical master claimed = outcome at ended ⊢
  cases ended with
  | unanswered e faces => simp [FacesChallenge, seated] at faces
  | peer passed answers arrives => simp [notPeer] at arrives
  | member => exact ⟨_, rfl, by simp [sessionResponse, openedScope, sessionScope, notPeer, exempt], rfl⟩
  | uninvited passed e answers stranger => simp [seated] at stranger
  | admitted passed spent redemption answers stranger => simp [seated] at stranger

/-- One call keeps the floor exactly when it is not a member below it that calls itself a hub. -/
theorem call_floor (call : AuthCall) : FloorHeld outside s call ↔ HubClaimsAbove outside s call := by
  cases call with
  | verify req env =>
    constructor
    · intro held floored lobby hub canonical master claimed seats belongs
      obtain ⟨response, answered, member, named⟩ := hub_member_session seats hub belongs
      exact named ▸ held floored lobby response answered member
    · intro above floored lobby response answered member
      rcases verify_cases outside s req env with ⟨e, same | same⟩ | ⟨canonical, visitor, _, same⟩ |
        ⟨canonical, master, claimed, seats⟩
      · simp [same] at answered
      · simp [same] at answered
      · rw [same] at answered
        cases answered
        cases member
      · rw [verify_seats seats] at answered
        obtain ⟨named, passed, answers, scope⟩ := answered_seat
          (afterSeat_outcome s req env canonical master claimed) answered
        rw [named]
        rcases openedScope_member lobby seats answers (scope ▸ member) with reached | ⟨hub, belongs⟩
        · exact reached
        · exact above floored lobby hub canonical master claimed seats belongs
  | _ => exact Iff.rfl

end

/--
Every sign-in of every run keeps the floor exactly when no member below it ever signs in as a hub.
-/
theorem floorHeld_iff (outside : Outside) (s : AuthState) (calls : List AuthCall) :
    (∀ front call, front ++ [call] <+: calls →
        FloorHeld outside (Runs.run (AuthCall.next outside) s front) call) ↔
      Runs.Meets (AuthCall.next outside) (HubClaimsAbove outside) s calls := by
  rw [Runs.meets_iff]
  constructor
  · intro held front call before
    exact (call_floor call).mp (held front call before)
  · intro above front call before
    exact (call_floor call).mpr (above front call before)

def guestKey : String := "a10b2c3d4e5f60718293a4b5c6d7e8f90a1b2c3d4e5f60718293a4b5c6d7e8f9"

def guardedHub : AuthState :=
  { ownedHub with db := { ownedHub.db with
      hubSettings := (∅ : Table String).insert "min_security_level" "8" } }

-- The guest signs in, lands in the lobby, and comes back calling itself a hub.
def lobbyEscape : List AuthCall :=
  [ .challenge guestKey [7] 0,
    .verify { publicKey := guestKey, challenge := "07", signature := "076131" }
      { now := 1, instant := 1, token := "first" },
    .challenge guestKey [8] 2,
    .verify { publicKey := guestKey, challenge := "08", signature := "086131", isHub := some true }
      { now := 3, instant := 3, token := "second" } ]

theorem floorHeld_hub_guest :
    ¬ ∀ front call, front ++ [call] <+: lobbyEscape →
      FloorHeld softAuthenticator (Runs.run (AuthCall.next softAuthenticator) guardedHub front) call := by
  intro held
  have last := held (lobbyEscape.take 3) (.verify
    { publicKey := guestKey, challenge := "08", signature := "086131", isHub := some true }
    { now := 3, instant := 3, token := "second" }) (by simp [lobbyEscape])
  have above := last (by decide) (by decide)
    { token := "second", scope := .member, canonicalPubkey := guestKey } (by decide) rfl
  revert above
  unfold AboveFloor isOwner
  decide

end Wavvon
