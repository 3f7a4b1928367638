import Wavvon.Auth.Floor
import Wavvon.Auth.Statements

set_option autoImplicit false

namespace Wavvon

open Std (ExtTreeMap)
open Interleaving (Handler)

section

variable (outside : Outside) (req : VerifyRequest) (env : VerifyEnv)

@[simp] theorem alone_query {A : Type} (read : AuthState → A) (s : AuthState) :
    (query read).alone s = (s, read s) := rfl

@[simp] theorem alone_update (change : AuthState → AuthState) (s : AuthState) :
    (update change).alone s = (change s, ()) := rfl

theorem alone_query_bind {A B : Type} (read : AuthState → A) (rest : A → SignIn B) (s : AuthState) :
    (query read >>= rest).alone s = (rest (read s)).alone s := rfl

theorem alone_count_bind {B : Type} (rest : Nat → SignIn B) (s : AuthState) :
    (Handler.exec .countUsers id existingUsers >>= rest).alone s = (rest (existingUsers s)).alone s := rfl

theorem takePending_alone (s : AuthState) :
    (takePending outside req env).alone s =
      match s.pendingChallenges[req.challenge]? with
      | none => (s, .error (401, "No pending challenge for this key"))
      | some pending =>
        (takeChallenge s req.challenge, checkChallenge outside pending req env.instant) := by
  simp only [takePending, Handler.alone_bind, Handler.alone_exec]
  cases found : s.pendingChallenges[req.challenge]? with
  | none =>
    have absent : req.challenge ∉ s.pendingChallenges := by
      simp [ExtTreeMap.mem_iff_isSome_getElem?, found]
    simp [absent]
  | some pending =>
    have present : req.challenge ∈ s.pendingChallenges := by
      simp [ExtTreeMap.mem_iff_isSome_getElem?, found]
    simp [present]

theorem identify_alone (s : AuthState) :
    (identify outside req env).alone s =
      (s, resolveCanonicalIdentity outside s req.publicKey req.subkeyCert env.now) := by
  unfold identify resolveCanonicalIdentity
  rw [alone_query_bind]
  cases s.isRevoked req.publicKey with
  | true => rfl
  | false =>
    simp only [Bool.false_eq_true, if_false]
    cases req.subkeyCert with
    | none => rfl
    | some cert =>
      dsimp only
      by_cases unverified : (!outside.certVerifies cert) = true
      next => simp only [if_pos unverified, Handler.alone_pure]
      next =>
        by_cases foreign : cert.subkeyPubkey ≠ req.publicKey
        next => simp only [if_neg unverified, if_pos foreign, Handler.alone_pure]
        next =>
          by_cases expired : certExpired cert env.now = true
          next => simp only [if_neg unverified, if_neg foreign, if_pos expired, Handler.alone_pure]
          next =>
            rw [if_neg unverified, if_neg foreign, if_neg expired, if_neg unverified, if_neg foreign,
              if_neg expired, alone_query_bind]
            cases s.db.users.toList.find? fun row => row.2.masterPubkey = some cert.masterPubkey with
            | some row => rfl
            | none =>
              dsimp only
              rw [alone_query_bind]
              cases s.db.users[req.publicKey]?.any (·.masterPubkey.isNone) <;> rfl

theorem visit_alone (canonical : String) (s : AuthState) :
    (visit outside req env canonical).alone s =
      match req.allianceVoiceGrant.filter (fun _ => canonical ∉ s.db.users) with
      | none => (s, .ok none)
      | some grant =>
        match outside.verifyGrant grant canonical with
        | .error e => (s, .error e)
        | .ok visitor => (recordVisit s canonical visitor env,
            .ok (some { token := env.token, scope := .allianceVoice, canonicalPubkey := canonical })) := by
  unfold visit
  cases req.allianceVoiceGrant with
  | none => rfl
  | some grant =>
    dsimp only
    rw [alone_query_bind]
    by_cases known : canonical ∈ s.db.users
    next => simp [known]
    next =>
      rw [if_neg (by simpa using known), Option.filter_some, if_pos (by simpa using known)]
      dsimp only
      cases outside.verifyGrant grant canonical <;> rfl

theorem passGates_alone (canonical : String) (master : Option String) (s : AuthState) :
    (passGates outside req env canonical master).alone s =
      (s, (admissionGates outside s req canonical master env.now).map fun claimed =>
        { canonical := canonical, master := master, existing := existingUsers s
          exempt := ownerExempt s req canonical, minLevel := minSecurityLevel s
          lobby := lobbyEnabled s, claimed := claimed }) := by
  have security : securityGate outside s req canonical =
      securityCheck outside req (ownerExempt s req canonical) (minSecurityLevel s) (lobbyEnabled s) := rfl
  have pow : powGate outside s req =
      powCheck outside req (((s.setting "min_pow_level").bind (parseUnsigned (2 ^ 8))).getD 0) := rfl
  have cert : certGate outside s req = certCheck outside req ((s.setting "cert_mode").getD "none") := rfl
  have exempt : ownerExempt s req canonical = (decide (existingUsers s = 0) ||
      decide ((canonical, BUILTIN_OWNER_ROLE_ID) ∈ s.db.userRoles) || req.isHub = some true) := rfl
  unfold passGates admissionGates
  rw [security, pow, cert, alone_query_bind]
  cases s.isBanned canonical env.now with
  | true => rfl
  | false =>
    simp only [Bool.false_eq_true, if_false]
    rw [alone_query_bind]
    cases s.isDeniedByFederatedPolicy (master.getD canonical) with
    | true => rfl
    | false =>
      simp only [Bool.false_eq_true, if_false]
      rw [alone_count_bind, alone_query_bind, alone_query_bind, alone_query_bind, ← exempt]
      cases securityCheck outside req (ownerExempt s req canonical) (minSecurityLevel s) (lobbyEnabled s) with
      | error e => rfl
      | ok claimed =>
        simp only [Handler.alone_bind, alone_query]
        cases powCheck outside req (((s.setting "min_pow_level").bind (parseUnsigned (2 ^ 8))).getD 0) with
        | error e => rfl
        | ok _ =>
          simp only [Handler.alone_bind, alone_query]
          cases certCheck outside req ((s.setting "cert_mode").getD "none") <;> rfl

theorem matchBan_alone (passed : Passed) (s : AuthState) (counted : passed.existing = existingUsers s) :
    (matchBan req env passed).alone s = (s, banMatch s req passed.canonical env) := by
  unfold matchBan banMatch
  cases env.ipHash with
  | none => rfl
  | some hash =>
    dsimp only
    rw [counted]
    by_cases asked : 0 < existingUsers s ∧ req.isHub ≠ some true
    next =>
      rw [if_pos asked, alone_query_bind]
      by_cases seated : passed.canonical ∈ s.db.users
      next => simp [seated]
      next => simp [seated, asked]
    next =>
      have unasked : ¬ (0 < existingUsers s ∧ req.isHub ≠ some true ∧ passed.canonical ∉ s.db.users) := by
        tauto
      rw [if_neg asked, if_neg unasked]
      rfl

theorem storedPowLevel_upsert (db : Db) (canonical : String) (master : Option String) (status : String)
    (now : Int) :
    storedPowLevel (upsertUser db canonical master status now) canonical = storedPowLevel db canonical := by
  rw [storedPowLevel, upsertUser_users, if_pos rfl, storedPowLevel]
  cases db.users[canonical]? <;> rfl

theorem recordDevice_alone (s : AuthState) :
    (recordDevice req).alone s =
      ({ s with tables := match req.subkeyCert with
          | none => s.tables
          | some cert => upsertSubkeyCert s.tables cert }, ()) := by
  unfold recordDevice
  cases req.subkeyCert <;> rfl

theorem raiseFlag_alone (canonical : String) (matched : Option String) (s : AuthState) :
    (raiseFlag env canonical matched).alone s =
      ({ s with tables := { s.tables with admissionFlags := match matched with
          | none => s.tables.admissionFlags
          | some banned => s.tables.admissionFlags.insertIfNew canonical (banned, env.now) } }, ()) := by
  unfold raiseFlag
  cases matched <;> rfl

theorem raiseLevel_alone (canonical : String) (claimed : Nat) (s : AuthState) :
    (raiseLevel canonical claimed).alone s =
      ({ s with db := raisePowLevel s.db canonical claimed }, max (storedPowLevel s.db canonical) claimed) := by
  unfold raiseLevel raisePowLevel
  rw [alone_query_bind]
  by_cases higher : storedPowLevel s.db canonical < claimed
  next =>
    rw [if_pos higher, if_pos higher, max_eq_right higher.le]
    rfl
  next =>
    rw [if_neg higher, if_neg higher, max_eq_left (Nat.le_of_not_lt higher)]
    rfl

theorem seat_alone (passed : Passed) (s : AuthState) (counted : passed.existing = existingUsers s) :
    (seat req env passed).alone s =
      (seatUser s req passed.canonical passed.master passed.claimed env,
        max (storedPowLevel s.db passed.canonical) passed.claimed) := by
  simp only [seat, Handler.alone_bind, Handler.alone_exec, alone_query, matchBan_alone req env passed s counted,
    recordDevice_alone, raiseFlag_alone, raiseLevel_alone, counted, storedPowLevel_upsert]
  rfl

theorem namedInvite_alone (passed : Passed) (s : AuthState) :
    (namedInvite req passed).alone s =
      (s, presentsNamedInvite s req passed.canonical passed.master) := by
  unfold namedInvite presentsNamedInvite
  cases req.inviteCode <;> rfl

theorem answerChallenge_alone (s : AuthState) :
    (answerChallenge req env).alone s =
      match challengeGate s req env.now with
      | .error e => (s, .error e)
      | .ok answered => (answered, .ok ()) := by
  unfold answerChallenge challengeGate
  cases req.challengeToken with
  | none => rfl
  | some text =>
    dsimp only
    rw [alone_query_bind]
    cases found : s.tables.challengeTokens[text]? with
    | none => rfl
    | some row =>
      dsimp only
      by_cases used : row.consumedAt.isSome = true
      next => simp only [if_pos used, Handler.alone_pure]
      next =>
        by_cases expired : row.expiresAt < env.now
        next => simp only [if_neg used, if_pos expired, Handler.alone_pure]
        next =>
          by_cases foreign : row.pubkey ≠ req.publicKey
          next => simp only [if_neg used, if_neg expired, if_pos foreign, Handler.alone_pure]
          next =>
            simp only [if_neg used, if_neg expired, if_neg foreign, Handler.alone_bind, alone_update,
              Handler.alone_pure, Tables.modify_found found]

theorem spendInvite_alone (passed : Passed) (code : String) (s : AuthState) :
    (spendInvite req env passed code).alone s =
      match validateAndUseInvite s code (inviteCandidates req passed.canonical passed.master) env.now with
      | .error e => (s, .error e)
      | .ok (spent, redemption) => (spent, .ok redemption) := by
  unfold spendInvite validateAndUseInvite
  rw [alone_query_bind]
  cases found : s.tables.invites[code]? with
  | none => rfl
  | some invite =>
    dsimp only
    by_cases expired : invite.expiresAt.any (· < env.now) = true
    next => simp only [if_pos expired, Handler.alone_pure]
    next =>
      by_cases foreign :
          (!redeemableBy invite.boundPubkey (inviteCandidates req passed.canonical passed.master)) = true
      next => simp only [if_neg expired, if_pos foreign, Handler.alone_pure]
      next =>
        simp only [if_neg expired, if_neg foreign, Handler.alone_bind, Handler.alone_exec]
        by_cases spent : invite.maxUses.any (· ≤ invite.uses) = true
        next =>
          have unchanged : invite.spend = invite := by simp [Invite.spend, Invite.hasUses, spent]
          rw [Tables.modify_found found, unchanged, Tables.insert_self found]
          simp [found, Invite.hasUses, spent]
        next =>
          rw [Tables.modify_found found]
          simp [found, Invite.spend, Invite.hasUses, spent]

theorem redeem_alone (passed : Passed) (s : AuthState) :
    (redeem req env passed).alone s =
      match redeemInvite s req passed.canonical passed.master env.now with
      | .error e => (s, .error e)
      | .ok (spent, redemption) => (spent, .ok redemption) := by
  unfold redeem redeemInvite
  cases req.inviteCode with
  | none =>
    dsimp only
    rw [alone_query_bind]
    by_cases closed : s.setting "invite_only" = some "true" <;> simp [closed]
  | some code =>
    dsimp only
    rw [Handler.alone_bind, spendInvite_alone]
    cases validateAndUseInvite s code (inviteCandidates req passed.canonical passed.master) env.now <;> rfl

theorem grantFirst_alone (passed : Passed) (minted : Bool) (s : AuthState) :
    (grantFirst passed minted).alone s =
      ({ s with db := if decide (passed.existing = 0) = true ∧ !minted then
          assignRole s.db passed.canonical BUILTIN_OWNER_ROLE_ID else s.db }, ()) := by
  unfold grantFirst
  by_cases first : passed.existing = 0 ∧ !minted
  next =>
    rw [if_pos first, if_pos (by simpa using first)]
    rfl
  next =>
    rw [if_neg first, if_neg (by simpa using first)]
    rfl

theorem grantInvited_alone (passed : Passed) (redemption : Option InviteRedemption) (s : AuthState) :
    (grantInvited passed redemption).alone s =
      ({ s with db := match redemption.bind (inviteRole s.db) with
          | none => s.db
          | some roleId => assignRole s.db passed.canonical roleId }, ()) := by
  unfold grantInvited
  cases redemption with
  | none => rfl
  | some redemption =>
    dsimp only
    rw [alone_query_bind, Option.bind_some]
    cases inviteRole s.db redemption <;> rfl

theorem grantMembership_alone (passed : Passed) (redemption : Option InviteRedemption) (s : AuthState) :
    (grantMembership passed redemption).alone s =
      (admitNewcomer s passed.canonical (decide (passed.existing = 0)) redemption, ()) := by
  simp only [grantMembership, Handler.alone_bind, alone_update, alone_query, grantFirst_alone, grantInvited_alone]
  rfl

theorem settle_alone (passed : Passed) (peer belongs : Bool) (scope : SessionScope) (s : AuthState) :
    (settle req env passed peer belongs scope).alone s =
      (let opened := insertSession s
        { token := env.token, publicKey := passed.canonical, createdAt := env.now, scope := scope
          devicePubkey := some req.publicKey }
      let response := { token := env.token, scope := scope, canonicalPubkey := passed.canonical }
      if peer then (registerPeer opened passed.canonical, .ok response)
      else if belongs then (opened, .ok response)
      else
        match redeemInvite opened req passed.canonical passed.master env.now with
        | .error e => (opened, .error e)
        | .ok (spent, redemption) =>
          (admitNewcomer spent passed.canonical (decide (passed.existing = 0)) redemption, .ok response)) := by
  unfold settle
  rw [Handler.alone_bind, alone_update]
  cases peer with
  | true => rfl
  | false =>
    cases belongs with
    | true => rfl
    | false =>
      simp only [Bool.false_eq_true, if_false, Handler.alone_andThen, redeem_alone]
      split
      next e refused => split at refused <;> simp_all
      next redemption redeemed =>
        split at redeemed
        · simp at redeemed
        · simp_all [grantMembership_alone]

theorem openStatements_alone (passed : Passed) (s : AuthState) (lobby : passed.lobby = lobbyEnabled s)
    (minLevel : passed.minLevel = minSecurityLevel s) :
    (openStatements req env passed (storedPowLevel s.db passed.canonical)).alone s =
      openSession s req passed.canonical passed.master passed.exempt (decide (passed.existing = 0)) env := by
  unfold openStatements
  rw [alone_query_bind, Handler.alone_bind, namedInvite_alone, alone_query_bind, lobby, minLevel]
  unfold openSession
  dsimp only
  generalize s.db.users[passed.canonical]?.any (·.isMember) = belongs
  by_cases challenged : (s.setting "challenge_mode").getD "off" ≠ "off" ∧ (!belongs) = true ∧
      (!(decide (req.isHub = some true) && !belongs)) = true ∧
      (!presentsNamedInvite s req passed.canonical passed.master) = true
  next =>
    rw [if_pos challenged, if_pos challenged, Handler.alone_andThen, answerChallenge_alone]
    cases gate : challengeGate s req env.now with
    | error e => rfl
    | ok answered =>
      obtain ⟨tokens, rfl⟩ := challengeGate_frame gate
      dsimp only
      rw [settle_alone]
      rfl
  next =>
    rw [if_neg challenged, if_neg challenged, settle_alone]
    rfl

theorem passed_small {canonical : String} {master : Option String} {s : AuthState} {claimed : Nat}
    (gates : admissionGates outside s req canonical master env.now = .ok claimed) : claimed < 2 ^ 32 :=
  (securityGate_proved (admissionGates_security gates)).2

/-- With nobody else in between, the statements are the handler. -/
theorem verifyStatements_alone (s : AuthState) :
    (verifyStatements outside req env).alone s = verify outside s req env := by
  unfold verifyStatements verify
  rw [Handler.alone_andThen, takePending_alone]
  cases s.pendingChallenges[req.challenge]? with
  | none => rfl
  | some pending =>
    dsimp only
    cases checkChallenge outside pending req env.instant with
    | error e => rfl
    | ok _ =>
      dsimp only
      rw [Handler.alone_andThen, identify_alone]
      dsimp only
      cases resolveCanonicalIdentity outside (takeChallenge s req.challenge) req.publicKey req.subkeyCert
          env.now with
      | error e => rfl
      | ok identity =>
        obtain ⟨canonical, master⟩ := identity
        dsimp only
        rw [Handler.alone_andThen, visit_alone]
        cases req.allianceVoiceGrant.filter fun _ => canonical ∉ (takeChallenge s req.challenge).db.users with
        | some grant =>
          dsimp only
          cases outside.verifyGrant grant canonical <;> rfl
        | none =>
          dsimp only
          rw [Handler.alone_andThen, passGates_alone]
          dsimp only
          cases gates : admissionGates outside (takeChallenge s req.challenge) req canonical master env.now with
          | error e => rfl
          | ok claimed =>
            have level := storedPowLevel_seat (takeChallenge s req.challenge) req canonical master env
              (passed_small outside req env gates)
            simp only [Except.map, Handler.alone_bind]
            rw [seat_alone _ _ _ _ rfl]
            dsimp only
            rw [← level]
            exact openStatements_alone req env _ _ (lobbyEnabled_seat _ _ _ _ _ _).symm
              (minSecurityLevel_seat _ _ _ _ _ _).symm

end

end Wavvon
