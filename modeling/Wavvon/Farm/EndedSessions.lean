import Wavvon.Farm.Login
import Wavvon.Shared.Runs

set_option autoImplicit false

namespace Wavvon.Farm

open Std (ExtTreeMap)

/-- A token that was issued: the key whose sign-in its chain of renewals goes back to, and whether it is revoked. -/
structure Issued where
  payload : FarmTokenPayload
  key : String
  ended : Bool := false
  deriving DecidableEq, Repr

/-- The farm with the time and a record of the tokens it has issued. -/
structure Issuer where
  clock : Int
  auth : FarmAuth
  issued : List Issued := []

section

variable (lib : LoginLib)

-- Whom a call has revoked the sessions of.
def LoginCall.ends (now : Int) (s : FarmAuth) : LoginCall → Option String
  | .revokeUserSessions bearer pubkey =>
    if (Farm.revokeUserSessions lib now s bearer pubkey).2.isOk then some pubkey else none
  | _ => none

def Issued.belongs (e : Issued) (pubkey : String) : Bool := decide (e.key = pubkey ∨ e.payload.sub = pubkey)

def Issued.endedBy (pubkey : Option String) (e : Issued) : Issued :=
  if pubkey.any e.belongs then { e with ended := true } else e

-- A renewed token continues the chain of the one it was renewed from, and is over if that one is.
def Issuer.entry (w : Issuer) (now : Int) (payload : FarmTokenPayload) : LoginCall → Issued
  | .verify _ req => { payload := payload, key := req.publicKey }
  | .renew _ bearer =>
    match requireAuth lib now bearer with
    | .error _ => { payload := payload, key := payload.sub }
    | .ok old =>
      { payload := payload
        key := ((w.issued.find? fun e => e.payload = old).map (·.key)).getD old.sub
        ended := w.issued.any fun e => e.payload = old && e.ended }
  | _ => { payload := payload, key := payload.sub }

-- A call, some time after the last one.
def Issuer.step (w : Issuer) (act : Nat × LoginCall) : Issuer :=
  let now := w.clock + act.1
  let served := act.2.serve lib now w.auth
  { clock := now
    auth := served.1
    issued := w.issued.map (Issued.endedBy (act.2.ends lib now w.auth)) ++
      (served.2.map fun payload => w.entry lib now payload act.2).toList }

structure Refused (now : Int) (s : FarmAuth) (token : String) : Prop where
  auth : (requireAuth lib now (some token)).isOk = false
  admin : (requireAdmin lib now s (some token)).isOk = false
  renewal : ∀ jti, (renew lib now jti s (some token)).2.isOk = false

/-- A revoked token is over from now on, and another can be renewed for as long as it lasts. -/
structure SessionsHold (w : Issuer) : Prop where
  finished : ∀ e ∈ w.issued, e.ended = true → ∀ now, w.clock ≤ now →
    Refused lib now w.auth (lib.signToken e.payload)
  renewable : ∀ e ∈ w.issued, e.ended = false → ∀ now, w.clock ≤ now → now < e.payload.exp →
    ∀ jti, jti ∉ w.auth.sessions → (renew lib now jti w.auth (some (lib.signToken e.payload))).2.isOk = true

/--
A sign-in with a certificate names a master that the farm has seen, or the device itself; and by the time that the
sessions of a user are revoked, the tokens issued to the key or with it as their subject have expired.
-/
def Timely (w : Issuer) (act : Nat × LoginCall) : Prop :=
  match act.2 with
  | .verify jti req => ∀ master, SignsIn lib (w.clock + act.1) w.auth jti req (some master) →
      master = req.publicKey ∨ master ∈ w.auth.users
  | .revokeUserSessions bearer pubkey => (requireAdmin lib (w.clock + act.1) w.auth bearer).isOk = true →
      pubkey ∈ w.auth.users → ∀ e ∈ w.issued, e.belongs pubkey = true → e.payload.exp ≤ w.clock + act.1
  | _ => True

structure Kept (w : Issuer) : Prop where
  own : ∀ e ∈ w.issued, e.payload.issPk = lib.publicKeyHex
  known : ∀ e ∈ w.issued, e.payload.sub ∈ w.auth.users
  expired : ∀ e ∈ w.issued, e.ended = true → e.payload.exp ≤ w.clock

end

section

variable {lib : LoginLib} {now : Int} {s : FarmAuth} {w : Issuer} {payload : FarmTokenPayload} {jti pubkey : String}
  {bearer : Option String} {elapsed : Nat} {act : Nat × LoginCall}

@[simp] theorem endedBy_payload (ends : Option String) (e : Issued) : (e.endedBy ends).payload = e.payload := by
  unfold Issued.endedBy
  split <;> rfl

theorem isOk_eq_toOption {E V : Type} (r : Except E V) : r.isOk = r.toOption.isSome := by
  cases r <;> rfl

theorem renews_signToken (documented : lib.Documented) (own : payload.issPk = lib.publicKeyHex)
    {old : FarmTokenPayload} : Renews lib now s jti (some (lib.signToken payload)) old ↔
      old = payload ∧ now < payload.exp ∧ payload.sub ∈ s.users ∧ jti ∉ s.sessions := by
  have reads : lib.verifyToken lib.publicKeyHex (lib.signToken payload) now = _ := verifyToken_signToken documented own
  constructor
  · rintro ⟨⟨token, same, opened⟩, known, fresh⟩
    cases same
    rw [reads] at opened
    split at opened
    next => cases opened
    next live =>
      cases opened
      exact ⟨rfl, Int.not_le.mp live, known, fresh⟩
  · rintro ⟨rfl, live, known, fresh⟩
    exact ⟨⟨_, rfl, reads.trans (if_neg (Int.not_le.mpr live))⟩, known, fresh⟩

theorem renew_isOk_iff : (renew lib now jti s bearer).2.isOk = true ↔ ∃ old, Renews lib now s jti bearer old := by
  rw [isOk_eq_toOption]
  obtain ⟨-, ⟨old, renews, minted⟩ | ⟨never, minted⟩⟩ := renew_cases lib now jti s bearer
  · simp only [minted, Option.isSome_some, true_iff]
    exact ⟨old, renews⟩
  · simp [minted, never]

theorem renews_requireAuth {old : FarmTokenPayload} (renews : Renews lib now s jti bearer old) :
    requireAuth lib now bearer = .ok old := by
  obtain ⟨token, rfl, opened⟩ := renews.opened
  rw [requireAuth, opened]

theorem refused_of_expired (documented : lib.Documented) (own : payload.issPk = lib.publicKeyHex)
    (expired : payload.exp ≤ now) : Refused lib now s (lib.signToken payload) := by
  have auth : requireAuth lib now (some (lib.signToken payload)) = .error (401, "invalid_token") := by
    rw [requireAuth_signToken documented own, if_pos expired]
  refine ⟨by rw [auth]; rfl, by rw [requireAdmin, auth]; rfl, fun jti => ?_⟩
  rw [Bool.eq_false_iff, ne_eq, renew_isOk_iff]
  rintro ⟨old, renews⟩
  rw [renews_signToken documented own] at renews
  exact Int.not_lt.mpr expired renews.2.1

theorem Kept.holds (documented : lib.Documented) (kept : Kept lib w) : SessionsHold lib w where
  finished e listed ended _ later :=
    refused_of_expired documented (kept.own e listed) (Int.le_trans (kept.expired e listed ended) later)
  renewable e listed _ _ _ live _ fresh :=
    renew_isOk_iff.mpr ⟨e.payload, (renews_signToken documented (kept.own e listed)).mpr
      ⟨rfl, live, kept.known e listed, fresh⟩⟩

theorem revoke_isOk_iff : (revokeUserSessions lib now s bearer pubkey).2.isOk = true ↔
    (requireAdmin lib now s bearer).isOk = true ∧ pubkey ∈ s.users := by
  unfold revokeUserSessions
  cases requireAdmin lib now s bearer with
  | error e => simp [Except.isOk, Except.toBool]
  | ok admin => by_cases known : pubkey ∈ s.users <;> simp [known, Except.isOk, Except.toBool]

-- What a call mints, and whom it is for.
theorem minted_cases {call : LoginCall} (minted : (call.serve lib now s).2 = some payload) :
    (∃ jti req master, call = .verify jti req ∧ SignsIn lib now s jti req master ∧
      payload = mint lib now jti (master.getD req.publicKey) master (normaliseScope req.scope) ∧
      (∀ other, other ∈ (call.serve lib now s).1.users ↔ other = req.publicKey ∨ other ∈ s.users)) ∨
    ∃ jti bearer old, call = .renew jti bearer ∧ Renews lib now s jti bearer old ∧
      payload = mint lib now jti old.sub old.master old.scope := by
  cases call with
  | verify jti req =>
    obtain ⟨master, signs, seen, answer⟩ | ⟨-, -, answer⟩ := verify_cases lib now jti s req
    · exact .inl ⟨jti, req, master, rfl, signs, Option.some.inj (minted.symm.trans answer), seen.users⟩
    · exact absurd (minted.symm.trans answer) (Option.some_ne_none payload)
  | renew jti bearer =>
    obtain ⟨-, ⟨old, renews, answer⟩ | ⟨-, answer⟩⟩ := renew_cases lib now jti s bearer
    · exact .inr ⟨jti, bearer, old, rfl, renews, Option.some.inj (minted.symm.trans answer)⟩
    · exact absurd (minted.symm.trans answer) (Option.some_ne_none payload)
  | _ => cases minted

theorem entry_payload (call : LoginCall) : (w.entry lib now payload call).payload = payload := by
  unfold Issuer.entry
  split
  next => rfl
  next => split <;> rfl
  next => rfl

theorem mem_step {e : Issued} (listed : e ∈ (w.step lib act).issued) :
    (∃ before ∈ w.issued, e = before.endedBy (act.2.ends lib (w.clock + act.1) w.auth)) ∨
      ∃ payload, (act.2.serve lib (w.clock + act.1) w.auth).2 = some payload ∧
        e = w.entry lib (w.clock + act.1) payload act.2 := by
  obtain old | new := List.mem_append.mp listed
  · obtain ⟨before, member, rfl⟩ := List.mem_map.mp old
    exact .inl ⟨before, member, rfl⟩
  · rw [Option.mem_toList, Option.map_eq_some_iff] at new
    obtain ⟨payload, minted, rfl⟩ := new
    exact .inr ⟨payload, minted, rfl⟩

theorem mint_known (timely : Timely lib w act) (minted : (act.2.serve lib (w.clock + act.1) w.auth).2 = some payload) :
    payload.issPk = lib.publicKeyHex ∧ payload.sub ∈ (w.step lib act).auth.users := by
  obtain ⟨elapsed, call⟩ := act
  obtain ⟨jti, req, master, rfl, signs, rfl, users⟩ | ⟨jti, bearer, old, rfl, renews, rfl⟩ :=
    minted_cases minted
  · refine ⟨rfl, (users _).mpr ?_⟩
    cases master with
    | none => exact .inl rfl
    | some master => exact timely master signs
  · exact ⟨rfl, serve_users lib (w.clock + elapsed) w.auth (.renew jti bearer) renews.known⟩

theorem Kept.step (kept : Kept lib w) (timely : Timely lib w act) : Kept lib (w.step lib act) := by
  refine ⟨?_, ?_, ?_⟩
  · intro e listed
    obtain ⟨before, member, rfl⟩ | ⟨payload, minted, rfl⟩ := mem_step listed
    · rw [endedBy_payload]
      exact kept.own before member
    · rw [entry_payload]
      exact (mint_known timely minted).1
  · intro e listed
    obtain ⟨before, member, rfl⟩ | ⟨payload, minted, rfl⟩ := mem_step listed
    · rw [endedBy_payload]
      exact serve_users lib _ w.auth act.2 (kept.known before member)
    · rw [entry_payload]
      exact (mint_known timely minted).2
  · intro e listed ended
    have later : w.clock ≤ (w.step lib act).clock := Int.le_add_of_nonneg_right (Int.natCast_nonneg act.1)
    obtain ⟨elapsed, call⟩ := act
    obtain ⟨before, member, rfl⟩ | ⟨payload, minted, rfl⟩ := mem_step listed
    · rw [endedBy_payload]
      cases already : before.ended with
      | true => exact Int.le_trans (kept.expired before member already) later
      | false =>
        -- It is the call that has ended it.
        unfold Issued.endedBy at ended
        split at ended
        next hit =>
          obtain ⟨pubkey, ends, belongs⟩ := (Option.any_eq_true _ _).mp hit
          cases call with
          | revokeUserSessions bearer named =>
            simp only [LoginCall.ends] at ends
            split at ends
            next done =>
              obtain rfl := Option.some.inj ends
              obtain ⟨admin, known⟩ := revoke_isOk_iff.mp done
              exact timely admin known before member belongs
            next => cases ends
          | _ => cases ends
        next => exact absurd (already.symm.trans ended) Bool.false_ne_true
    · obtain ⟨jti, req, master, rfl, -⟩ | ⟨jti, bearer, old, rfl, renews, -⟩ := minted_cases minted
      · cases ended
      · -- Whatever it is renewed from had not expired yet.
        simp only [Issuer.entry, renews_requireAuth renews, List.any_eq_true, Bool.and_eq_true,
          decide_eq_true_eq] at ended
        obtain ⟨parent, member, rfl, already⟩ := ended
        obtain ⟨token, rfl, opened⟩ := renews.opened
        have live := (verifyToken_live opened).1
        have past := kept.expired parent member already
        have : w.clock ≤ w.clock + elapsed := later
        omega

theorem SignsIn.only {req : VerifyRequest} {master master' : Option String} (signs : SignsIn lib now s jti req master)
    (signs' : SignsIn lib now s jti req master') : master' = master :=
  Except.ok.inj (signs'.certified.symm.trans signs.certified)

-- A sign-in that passes starts a chain.
theorem step_signed {req : VerifyRequest} {master : Option String}
    (signs : SignsIn lib (w.clock + elapsed) w.auth jti req master) :
    Seen w.auth (w.step lib (elapsed, .verify jti req)).auth req.publicKey ∧
      (w.step lib (elapsed, .verify jti req)).issued =
        w.issued ++ [{ payload := mint lib (w.clock + elapsed) jti (master.getD req.publicKey) master
                        (normaliseScope req.scope), key := req.publicKey }] := by
  obtain ⟨master', signs', seen, minted⟩ | ⟨never, -⟩ := verify_cases lib (w.clock + elapsed) jti w.auth req
  · obtain rfl := signs.only signs'
    refine ⟨seen, congrArg₂ (· ++ ·) ?_ ?_⟩
    · exact List.map_id'' (fun _ => rfl) w.issued
    · show (Option.map _ (verify lib (w.clock + elapsed) jti w.auth req).2.toOption).toList = _
      rw [minted]
      rfl
  · exact absurd signs (never master)

theorem untimely_breaks (documented : lib.Documented) (kept : Kept lib w) (untimely : ¬ Timely lib w act) :
    ¬ SessionsHold lib (w.step lib act) := by
  intro holds
  obtain ⟨elapsed, call⟩ := act
  cases call with
  | verify jti req =>
    simp only [Timely, not_forall, not_or] at untimely
    obtain ⟨master, signs, other, unknown⟩ := untimely
    obtain ⟨seen, issued⟩ := step_signed signs
    -- The token is minted, and no row of a session can be stored for its subject.
    generalize token : mint lib (w.clock + elapsed) jti ((some master).getD req.publicKey) (some master)
      (normaliseScope req.scope) = payload at issued
    have listed : { payload := payload, key := req.publicKey : Issued } ∈
        (w.step lib (elapsed, .verify jti req)).issued := by
      rw [issued]
      exact List.mem_append_right _ (List.mem_singleton.mpr rfl)
    obtain ⟨free, fresh⟩ := Tables.exists_fresh (w.step lib (elapsed, .verify jti req)).auth.sessions
    have live : (w.step lib (elapsed, .verify jti req)).clock < payload.exp := by
      rw [← token]
      show w.clock + elapsed < w.clock + elapsed + SESSION_TTL
      unfold SESSION_TTL
      omega
    have own : payload.issPk = lib.publicKeyHex := by
      rw [← token]
      rfl
    obtain ⟨old, renews⟩ := renew_isOk_iff.mp (holds.renewable _ listed rfl _ (Int.le_refl _) live free fresh)
    obtain ⟨-, -, known, -⟩ := (renews_signToken documented own).mp renews
    rw [← token] at known
    obtain same | before := (seen.users master).mp known
    · exact other same
    · exact unknown before
  | revokeUserSessions bearer pubkey =>
    simp only [Timely, not_forall] at untimely
    obtain ⟨admin, known, e, listed, belongs, live⟩ := untimely
    have ends : LoginCall.ends lib (w.clock + elapsed) w.auth (.revokeUserSessions bearer pubkey) = some pubkey :=
      if_pos (revoke_isOk_iff.mpr ⟨admin, known⟩)
    have ended : e.endedBy (some pubkey) = { e with ended := true } := if_pos belongs
    have after : { e with ended := true } ∈ (w.step lib (elapsed, .revokeUserSessions bearer pubkey)).issued := by
      refine List.mem_append_left _ (List.mem_map.mpr ⟨e, listed, ?_⟩)
      rw [ends, ended]
    have refused := (holds.finished _ after rfl (w.clock + elapsed) (Int.le_refl _)).auth
    rw [requireAuth_signToken documented (kept.own e listed), if_neg live] at refused
    cases refused
  | _ => exact untimely trivial

end

/-- Revoked sessions are over and the others can be renewed, in every state of a run, exactly if its steps are
timely. -/
theorem sessionsHold_iff {lib : LoginLib} (documented : lib.Documented) (start : Int) (s : FarmAuth)
    (acts : List (Nat × LoginCall)) :
    (∀ front, front <+: acts → SessionsHold lib (Runs.run (Issuer.step lib) { clock := start, auth := s } front)) ↔
      Runs.Meets (Issuer.step lib) (Timely lib) { clock := start, auth := s } acts := by
  refine Runs.always_iff_meets (Kept lib) (SessionsHold lib) (fun w kept => kept.holds documented)
    (fun w act kept timely => kept.step timely) (fun w act kept untimely =>
      untimely_breaks documented kept untimely) ?_ acts
  exact ⟨nofun, nofun, nofun⟩

-- The code that belongs to a secret is the secret itself.
def openLogin : LoginLib where
  toTokenLib := openTokens
  totp secret code _ := decide (code = secret)
  setup _ account := .ok ("secret", "otpauth://totp/" ++ account)

def nonceHex : String := hexEncode (List.replicate 32 7)

def signingIn (n : UInt8) : VerifyRequest where
  publicKey := namedKey n
  signature := signedBy n
  challenge := some nonceHex

def laptopCert : SubkeyCert where
  masterPubkey := namedKey 1
  subkeyPubkey := namedKey 2
  deviceLabel := "laptop"
  issuedAt := 1
  notAfter := none
  fallbackHubs := []
  signature := signedBy 1

/-- The farm of key 5, with a challenge out for one key. -/
def awaiting (n : UInt8) : FarmAuth where
  farms := some { adminPubkey := some (namedKey 5) }
  challenges := (∅ : Table ChallengeRow).insert nonceHex { publicKey := namedKey n, expiresAt := 160 }

def adminPayload : FarmTokenPayload := mint openLogin 200 "02" (namedKey 5) none "member"

def adminToken : String := openTokens.signToken adminPayload

theorem adminToken_reads {now : Int} (live : now < adminPayload.exp) :
    requireAuth openLogin now (some adminToken) = .ok adminPayload := by
  have read : requireAuth openLogin now (some (openLogin.signToken adminPayload)) = _ :=
    requireAuth_signToken openTokens_documented rfl
  exact read.trans (if_neg (Int.not_le.mpr live))

theorem adminToken_admits {now : Int} (live : now < adminPayload.exp) {s : FarmAuth}
    (admin : s.adminPubkey = some (namedKey 5)) : (requireAdmin openLogin now s (some adminToken)).isOk = true := by
  rw [requireAdmin, adminToken_reads live]
  exact congrArg Except.isOk (if_pos admin)

theorem checkSigned_signingIn (n : UInt8) (cert : Option SubkeyCert) :
    checkSigned openLogin nonceHex { signingIn n with subkeyCert := cert } = .ok () := by
  obtain ⟨signature, decoded, verified⟩ := checkSig_iff.mp (checkSig_signedBy n
    (Wire.tag "wavvon/auth-challenge/v1" ++ List.replicate 32 7))
  rw [signedBy, hexDecode_hexEncode] at decoded
  obtain rfl := Option.some.inj decoded
  have answered : verifyAuthChallenge openLogin.keys (namedKey n) (List.replicate 32 7) (List.replicate 64 n) =
    .ok () := verified
  simp only [checkSigned, nonceHex, signingIn, signedBy, hexDecode_hexEncode, answered]

theorem signsIn_awaiting {now : Int} {jti : String} {n : UInt8} {cert : Option SubkeyCert} {master : Option String}
    (soon : now < 160)
    (certified : certifiedMaster openLogin now { signingIn n with subkeyCert := cert } = .ok master) :
    SignsIn openLogin now (awaiting n) jti { signingIn n with subkeyCert := cert } master where
  answers := ⟨(nonceHex, { publicKey := namedKey n, expiresAt := 160 }),
    by simp [pendingChallenge, awaiting, signingIn], soon, checkSigned_signingIn n cert⟩
  certified := certified
  factor := by
    unfold secondFactor
    rw [awaiting, Option.filter_some, Bool.and_false, if_neg Bool.false_ne_true]
  fresh := ExtTreeMap.not_mem_empty

-- A sign-in without a certificate.
theorem timely_plain {w : Issuer} {elapsed : Nat} {jti : String} {n : UInt8} :
    Timely openLogin w (elapsed, .verify jti (signingIn n)) := by
  intro master signs
  cases signs.certified

def signedIn (n : UInt8) : Issuer :=
  Issuer.step openLogin { clock := 100, auth := awaiting n } (0, .verify "01" (signingIn n))

theorem signedIn_facts (n : UInt8) : (signedIn n).auth.adminPubkey = some (namedKey 5) ∧
    namedKey n ∈ (signedIn n).auth.users ∧ (signedIn n).issued =
      [{ payload := mint openLogin 100 "01" (namedKey n) none "member", key := namedKey n }] := by
  have signs : SignsIn openLogin 100 (awaiting n) "01" (signingIn n) none := by
    have plain : { signingIn n with subkeyCert := none } = signingIn n := rfl
    exact plain ▸ signsIn_awaiting (by decide) rfl
  have start : SignsIn openLogin ((100 : Int) + (0 : Nat)) (awaiting n) "01" (signingIn n) none := signs
  obtain ⟨seen, issued⟩ := step_signed (w := { clock := 100, auth := awaiting n }) start
  exact ⟨congrArg (Option.bind · FarmsRow.adminPubkey) seen.farms, (seen.users _).mpr (.inl rfl), issued⟩

def memberRun : List (Nat × LoginCall) :=
  [(0, .verify "01" (signingIn 3)), (2592000, .revokeUserSessions (some adminToken) (namedKey 3))]

/-- A member signs in, and is revoked on the day that the token expires. -/
theorem sessionsHold_iff_member :
    SessionsHold openLogin (Runs.run (Issuer.step openLogin) { clock := 100, auth := awaiting 3 } memberRun) := by
  have timely : Runs.Meets (Issuer.step openLogin) (Timely openLogin)
    { clock := 100, auth := awaiting 3 } memberRun := by
    refine ⟨timely_plain, ?_, trivial⟩
    intro _ _ e listed _
    rw [show e = _ from List.mem_singleton.mp ((signedIn_facts 3).2.2 ▸ listed)]
    exact (by decide : (100 : Int) + SESSION_TTL ≤ 100 + (0 : Nat) + (2592000 : Nat))
  exact (sessionsHold_iff openTokens_documented 100 (awaiting 3) memberRun).mpr timely memberRun List.prefix_rfl

-- Revoked on the spot, a member's token is still good; and a device's token, where the farm has not seen the master,
-- cannot be renewed.
theorem revoked_and_unrenewable :
    openLogin.Documented ∧
      (revokeUserSessions openLogin 300 (signedIn 3).auth (some adminToken) (namedKey 3)).2.isOk = true ∧
      ¬ SessionsHold openLogin
        ((signedIn 3).step openLogin (200, .revokeUserSessions (some adminToken) (namedKey 3))) ∧
      ¬ SessionsHold openLogin (Issuer.step openLogin { clock := 100, auth := awaiting 2 }
        (0, .verify "01" { signingIn 2 with subkeyCert := some laptopCert })) := by
  have kept (n : UInt8) : Kept openLogin { clock := 100, auth := awaiting n } := ⟨nofun, nofun, nofun⟩
  obtain ⟨farm, known, issued⟩ := signedIn_facts 3
  have admin {now : Int} (live : now < adminPayload.exp) := adminToken_admits live farm
  refine ⟨openTokens_documented, revoke_isOk_iff.mpr ⟨admin (by decide), known⟩,
    untimely_breaks openTokens_documented ((kept 3).step timely_plain) ?_,
    untimely_breaks openTokens_documented (kept 2) ?_⟩
  · intro timely
    have expired := timely (admin (by decide)) known _ (issued ▸ List.mem_singleton.mpr rfl)
      (decide_eq_true (.inl rfl))
    exact absurd expired (by decide : ¬ (100 : Int) + SESSION_TTL ≤ 100 + (0 : Nat) + (200 : Nat))
  · intro timely
    have certified : certifiedMaster openLogin 100 { signingIn 2 with subkeyCert := some laptopCert } =
        .ok (some (namedKey 1)) := by
      have signed : laptopCert.verify openLogin.keys = .ok () := checkSig_signedBy 1 laptopCert.toSigningBytes
      have own : laptopCert.subkeyPubkey = (signingIn 2).publicKey := rfl
      have lasts : certExpired laptopCert 100 = false := rfl
      simp only [certifiedMaster, own, ne_eq, not_true_eq_false, if_false, signed, lasts, Bool.false_eq_true]
      rfl
    obtain same | known := timely (namedKey 1) (signsIn_awaiting (by decide) certified)
    · exact absurd same (by decide)
    · exact ExtTreeMap.not_mem_empty known

end Wavvon.Farm
