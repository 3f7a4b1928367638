import Wavvon.Auth.Doors
import Wavvon.Farm.EndedSessions

set_option autoImplicit false

namespace Wavvon.Farm

open Std (ExtTreeMap)
open Wire (Bytes)

-- The hub's reader of farm tokens, over the libraries that the farm writes them with.
def hubReader (lib : TokenLib) (farmInfo : String → Option String) : FarmOutside where
  decodeBase64 := lib.decode
  verifySignature farmPubkeyHex payloadBytes signatureBytes :=
    (Wavvon.verifySignature lib.keys farmPubkeyHex payloadBytes signatureBytes).isOk
  parsePayload bytes := (lib.fromSlice bytes).map fun payload =>
    { exp := payload.exp, issPk := payload.issPk, sub := payload.sub }
  farmInfo := farmInfo

/-- One sign-in as both ways see it: the device and its certificate, and what either way draws and reads besides. -/
structure SignIn where
  device : String
  cert : Option SubkeyCert
  hubReq : Wavvon.VerifyRequest
  hubChallenge : Bytes
  env : VerifyEnv
  farmReq : VerifyRequest
  farmChallenge : Bytes
  jti : String
  farmNow : Int
  -- The request that carries the farm token to the hub.
  request : HttpRequest
  hubNow : Int

def SignIn.toHub (act : SignIn) : Wavvon.VerifyRequest :=
  { act.hubReq with publicKey := act.device, subkeyCert := act.cert }

def SignIn.toFarm (act : SignIn) : VerifyRequest :=
  { act.farmReq with publicKey := act.device, subkeyCert := act.cert }

/-- A hub that signs people in itself, and a farm with a hub of its own. -/
structure Twins where
  ownHub : AuthState := {}
  farm : FarmAuth := {}
  farmHub : AuthState := {}
  cache : FarmCache := {}

section

-- What the hubs' libraries answer, the farm's, and what is told at `/farm/info`.
variable (outside : Outside) (lib : LoginLib) (farmInfo : String → Option String)

def Twins.signHub (w : Twins) (act : SignIn) : AuthState × Except HttpError VerifyResponse :=
  Wavvon.verify (outside.withKeys lib.keys)
    (Wavvon.challenge w.ownHub act.device act.hubChallenge act.env.instant) act.toHub act.env

def Twins.signFarm (w : Twins) (act : SignIn) : FarmAuth × Except HttpError FarmTokenPayload :=
  Farm.verify lib act.farmNow act.jti (Farm.challenge act.farmNow w.farm act.device act.farmChallenge).1 act.toFarm

def Twins.enterHub (w : Twins) (act : SignIn) : AuthState × FarmCache × Except HttpError AuthUser :=
  match (w.signFarm lib act).2 with
  | .error e => (w.farmHub, w.cache, .error e)
  | .ok payload =>
    fromRequestParts (hubReader lib.toTokenLib farmInfo) w.farmHub w.cache (lib.signToken payload) act.request
      act.hubNow

def Twins.step (w : Twins) (act : SignIn) : Twins where
  ownHub := (w.signHub outside lib act).1
  farm := (w.signFarm lib act).1
  farmHub := (w.enterHub lib farmInfo act).1
  cache := (w.enterHub lib farmInfo act).2.1

/-- Whom the hub that signs in itself and the farm's hub take the sign-in for, where both take it. -/
def Agrees (w : Twins) (act : SignIn) : Prop :=
  ∀ response user, (w.signHub outside lib act).2 = .ok response → (w.enterHub lib farmInfo act).2.2 = .ok user →
    response.canonicalPubkey = user.publicKey

/--
No account but the master's own stands for the master: the one that is linked to it, if there is one,
and otherwise that of the device, if it is not linked.
-/
def OneAccount (s : AuthState) (device master : String) : Prop :=
  match s.db.users.toList.find? fun row => row.2.masterPubkey = some master with
  | some row => row.1 = master
  | none => (s.db.users[device]?.any (·.masterPubkey.isNone)) = true → device = master

instance (s : AuthState) (device master : String) : Decidable (OneAccount s device master) := by
  unfold OneAccount
  split <;> infer_instance

-- A certificate that both ways let pass is shown by a device that has nothing to lose.
def Unsplit (w : Twins) (act : SignIn) : Prop :=
  (w.signHub outside lib act).2.isOk = true → (w.enterHub lib farmInfo act).2.2.isOk = true →
    ∀ cert ∈ act.cert, OneAccount w.ownHub act.device cert.masterPubkey

end

section

variable {outside : Outside} {lib : LoginLib} {farmInfo : String → Option String} {w : Twins} {act : SignIn}

-- The session a sign-in leaves is the answered identity's.
theorem outcome_session {s : AuthState} {req : Wavvon.VerifyRequest} {canonical : String} {master : Option String}
    {exempt firstUser : Bool} {env : VerifyEnv} {answer : AuthState × Except HttpError VerifyResponse}
    {response : VerifyResponse} (outcome : SessionOutcome s req canonical master exempt env firstUser answer)
    (answered : answer.2 = .ok response) : response.canonicalPubkey = canonical ∧
      ∃ row ∈ answer.1.tables.sessions, row.token = response.token ∧ row.publicKey = canonical := by
  have written (passed : AuthState) : ∃ row ∈ (withSession s req canonical exempt env passed).tables.sessions,
      row.token = env.token ∧ row.publicKey = canonical :=
    ⟨_, List.mem_append_right _ (List.mem_singleton.mpr rfl), rfl, rfl⟩
  have kept {before after : AuthState} (adds : Adds [] before after) :
      after.tables.sessions = before.tables.sessions := by rw [adds.sessions, List.append_nil]
  cases outcome with
  | unanswered e faces refused => cases answered
  | uninvited passed e answers stranger person refused => cases answered
  | peer passed answers arrives =>
    cases answered
    dsimp only
    rw [kept (registerPeer_adds _ canonical)]
    exact ⟨rfl, written passed⟩
  | member belongs =>
    cases answered
    exact ⟨rfl, written s⟩
  | admitted passed spent redemption answers stranger person redeemed =>
    cases answered
    dsimp only
    rw [kept (admitNewcomer_adds spent canonical firstUser redemption), kept (redeemInvite_adds redeemed)]
    exact ⟨rfl, written passed⟩

theorem resolved_of_verify {s : AuthState} {req : Wavvon.VerifyRequest} {env : VerifyEnv} {response : VerifyResponse}
    (answered : (Wavvon.verify outside s req env).2 = .ok response) :
    ∃ master, resolveCanonicalIdentity outside s req.publicKey req.subkeyCert env.now =
      .ok (response.canonicalPubkey, master) := by
  obtain ⟨e, refused | refused⟩ | ⟨canonical, visitor, visits, visit⟩ | ⟨canonical, master, claimed, seats⟩ :=
    Wavvon.verify_cases outside s req env
  · rw [refused] at answered
    cases answered
  · rw [refused] at answered
    cases answered
  · rw [visit] at answered
    cases answered
    exact visits.resolved
  · rw [verify_seats seats] at answered
    have same := (outcome_session (afterSeat_outcome s req env canonical master claimed) answered).1
    rw [same]
    exact ⟨master, seats.resolved⟩

/-- Whoever is not just on a visit has a session under the identity that the answer names. -/
theorem session_of_verify {s : AuthState} {req : Wavvon.VerifyRequest} {env : VerifyEnv} {response : VerifyResponse}
    (answered : (Wavvon.verify outside s req env).2 = .ok response) (stays : response.scope ≠ .allianceVoice) :
    ∃ row ∈ (Wavvon.verify outside s req env).1.tables.sessions,
      row.token = response.token ∧ row.publicKey = response.canonicalPubkey := by
  obtain ⟨e, refused | refused⟩ | ⟨canonical, visitor, visits, visit⟩ | ⟨canonical, master, claimed, seats⟩ :=
    Wavvon.verify_cases outside s req env
  · rw [refused] at answered
    cases answered
  · rw [refused] at answered
    cases answered
  · rw [visit] at answered
    cases answered
    exact absurd rfl stays
  · rw [verify_seats seats] at answered ⊢
    obtain ⟨same, kept⟩ := outcome_session (afterSeat_outcome s req env canonical master claimed) answered
    rw [same]
    exact kept

-- What a certificate that passes stands for.
theorem resolved_cert {s : AuthState} {device canonical : String} {cert : SubkeyCert} {now : Int}
    {master : Option String}
    (resolved : resolveCanonicalIdentity outside s device (some cert) now = .ok (canonical, master)) :
    canonical = cert.masterPubkey ↔ OneAccount s device cert.masterPubkey := by
  unfold resolveCanonicalIdentity at resolved
  split at resolved
  next => cases resolved
  next =>
    dsimp only at resolved
    split at resolved
    next => cases resolved
    next =>
      split at resolved
      next => cases resolved
      next =>
        split at resolved
        next => cases resolved
        next =>
          cases linked : s.db.users.toList.find? fun row => row.2.masterPubkey = some cert.masterPubkey with
          | some row =>
            simp only [linked] at resolved
            cases resolved
            simp only [OneAccount, linked]
          | none =>
            simp only [linked] at resolved
            simp only [OneAccount, linked]
            split at resolved
            next legacy =>
              cases resolved
              exact ⟨fun same _ => same, fun alone => alone legacy⟩
            next strange =>
              cases resolved
              exact ⟨fun _ legacy => absurd legacy strange, fun _ => rfl⟩

theorem resolved_uncertified {s : AuthState} {device canonical : String} {now : Int} {master : Option String}
    (resolved : resolveCanonicalIdentity outside s device none now = .ok (canonical, master)) : canonical = device := by
  unfold resolveCanonicalIdentity at resolved
  split at resolved
  next => cases resolved
  next =>
    cases resolved
    rfl

section

variable {cache : FarmCache} {payload : FarmTokenPayload} {now : Int} {farmPubkey token sub : String}

theorem tryVerify_signToken (documented : lib.toTokenLib.Documented)
    (opened : tryVerifyFarmToken (hubReader lib.toTokenLib farmInfo) farmPubkey (lib.signToken payload) now = .ok sub) :
    sub = payload.sub := by
  have chars : (lib.signToken payload).toList =
      (lib.encode (lib.toVec payload)).toList ++ '.' :: (lib.encode (lib.sign (lib.toVec payload))).toList := by
    simp [TokenLib.signToken]
  rw [tryVerifyFarmToken, chars, span_dot (documented.alphabet _)] at opened
  simp only [hubReader, String.ofList_toList, documented.decoded, documented.parsed, Option.map_some] at opened
  split at opened
  next => cases opened
  next =>
    split at opened
    next => cases opened
    next =>
      split at opened
      next => cases opened
      next =>
        cases opened
        rfl

theorem resolveFarmToken_tried {farm : FarmOutside} (resolved : (resolveFarmToken farm cache token now).2 = .ok sub) :
    ∃ farmPubkey, tryVerifyFarmToken farm farmPubkey token now = .ok sub := by
  unfold resolveFarmToken at resolved
  split at resolved
  next => cases resolved
  next farmPubkey _ =>
    split at resolved
    next tried =>
      cases resolved
      exact ⟨farmPubkey, tried⟩
    next =>
      split at resolved
      next =>
        split at resolved
        next => cases resolved
        next =>
          split at resolved
          next => cases resolved
          next fresh _ =>
            dsimp only at resolved
            split at resolved
            next tried =>
              cases resolved
              exact ⟨fresh, tried⟩
            next => cases resolved
      next => cases resolved

-- A hub takes a farm token for its subject.
theorem fromRequestParts_sub (documented : lib.toTokenLib.Documented) {s : AuthState} {request : HttpRequest}
    {user : AuthUser}
    (entered : (fromRequestParts (hubReader lib.toTokenLib farmInfo) s cache (lib.signToken payload) request now).2.2 =
      .ok user) : user.publicKey = payload.sub := by
  have dotted : '.' ∈ (lib.signToken payload).toList := by simp [TokenLib.signToken]
  rw [fromRequestParts, if_pos dotted] at entered
  rcases resolved : resolveFarmToken (hubReader lib.toTokenLib farmInfo) cache (lib.signToken payload) now
    with ⟨after, e | publicKey⟩
  · rw [resolved] at entered
    cases entered
  · rw [resolved] at entered
    obtain ⟨farmPubkey, tried⟩ := resolveFarmToken_tried (congrArg Prod.snd resolved)
    have named := tryVerify_signToken documented tried
    dsimp only at entered
    split at entered
    next => cases entered
    next =>
      cases entered
      exact named

end

-- The subject is the master that the certificate names, and the device without one.
theorem subject_of_verify {s : FarmAuth} {req : VerifyRequest} {now : Int} {jti : String} {payload : FarmTokenPayload}
    (minted : (Farm.verify lib now jti s req).2 = .ok payload) :
    payload.sub = (req.subkeyCert.map SubkeyCert.masterPubkey).getD req.publicKey := by
  obtain ⟨master, signs, -, written⟩ | ⟨-, -, refused⟩ := Farm.verify_cases lib now jti s req
  · rw [minted] at written
    have same : payload.sub = master.getD req.publicKey := congrArg FarmTokenPayload.sub (Option.some.inj written)
    have certified := signs.certified
    unfold certifiedMaster at certified
    rw [same]
    split at certified
    next plain =>
      cases certified
      rw [plain]
      rfl
    next cert shown =>
      split at certified
      next => cases certified
      next =>
        split at certified
        next => cases certified
        next =>
          split at certified
          next => cases certified
          next =>
            cases certified
            rw [shown]
            rfl
  · rw [minted] at refused
    cases refused

theorem enterHub_user (documented : lib.toTokenLib.Documented) {user : AuthUser}
    (entered : (w.enterHub lib farmInfo act).2.2 = .ok user) :
    user.publicKey = (act.cert.map SubkeyCert.masterPubkey).getD act.device := by
  unfold Twins.enterHub at entered
  split at entered
  next => cases entered
  next payload minted =>
    rw [fromRequestParts_sub documented entered]
    exact subject_of_verify minted

theorem Twins.step_farmHub : (w.step outside lib farmInfo act).farmHub = (w.enterHub lib farmInfo act).1 := rfl

theorem Twins.step_cache : (w.step outside lib farmInfo act).cache = (w.enterHub lib farmInfo act).2.1 := rfl

theorem isOk_iff {E V : Type} {r : Except E V} : r.isOk = true ↔ ∃ v, r = .ok v := by
  cases r with
  | error e => exact ⟨nofun, nofun⟩
  | ok v => exact ⟨fun _ => ⟨v, rfl⟩, fun _ => rfl⟩

/-- One sign-in is taken for the same account on both ways exactly if the master has no other account. -/
theorem agrees_iff (documented : lib.toTokenLib.Documented) :
    Agrees outside lib farmInfo w act ↔ Unsplit outside lib farmInfo w act := by
  have resolved {response : VerifyResponse} (answered : (w.signHub outside lib act).2 = .ok response) :
      ∃ master, resolveCanonicalIdentity (outside.withKeys lib.keys) w.ownHub act.device act.cert act.env.now =
        .ok (response.canonicalPubkey, master) := resolved_of_verify answered
  constructor
  · intro agrees taken entered cert shown
    obtain ⟨response, answered⟩ := isOk_iff.mp taken
    obtain ⟨user, inside⟩ := isOk_iff.mp entered
    obtain ⟨master, standing⟩ := resolved answered
    have same := agrees response user answered inside
    rw [enterHub_user documented inside] at same
    rw [Option.mem_def.mp shown] at standing same
    exact (resolved_cert standing).mp same
  · intro unsplit response user answered inside
    obtain ⟨master, standing⟩ := resolved answered
    rw [enterHub_user documented inside]
    cases shown : act.cert with
    | none =>
      rw [shown] at standing
      exact resolved_uncertified standing
    | some cert =>
      have alone := unsplit (isOk_iff.mpr ⟨response, answered⟩) (isOk_iff.mpr ⟨user, inside⟩) cert shown
      rw [shown] at standing
      exact (resolved_cert standing).mpr alone

-- The farm and its hubs check a signature alike.
theorem verifySignature_isOk (lib : TokenLib) (farmPubkeyHex : String) (payloadBytes signature : Bytes) :
    (Wavvon.verifySignature lib.keys farmPubkeyHex payloadBytes signature).isOk =
      (lib.checkSignature farmPubkeyHex payloadBytes signature).isOk := by
  unfold Wavvon.verifySignature TokenLib.checkSignature
  cases hexDecode farmPubkeyHex with
  | none => rfl
  | some key =>
    dsimp only
    split
    next => rfl
    next =>
      split
      next => rfl
      next =>
        split
        next => rfl
        next => split <;> rfl

-- A hub lets in whoever its farm has just signed in, as far as its own gates do.
theorem enterHub_minted {payload : FarmTokenPayload} (farmInfo : String → Option String)
    (documented : lib.toTokenLib.Documented)
    (minted : (w.signFarm lib act).2 = .ok payload) (own : payload.issPk = lib.publicKeyHex)
    (live : act.hubNow < payload.exp) (cached : w.cache.cachedFarmPubkey = some lib.publicKeyHex) :
    w.enterHub lib farmInfo act =
      ((extractFarm w.farmHub payload.sub act.request act.hubNow).1, w.cache,
        (extractFarm w.farmHub payload.sub act.request act.hubNow).2.map fun _ =>
          { publicKey := payload.sub
            masterPubkey := (extractFarm w.farmHub payload.sub act.request act.hubNow).1.db.masterOf payload.sub
            scope := .member }) := by
  have dotted : '.' ∈ (lib.signToken payload).toList := by simp [TokenLib.signToken]
  have chars : (lib.signToken payload).toList =
      (lib.encode (lib.toVec payload)).toList ++ '.' :: (lib.encode (lib.sign (lib.toVec payload))).toList := by
    simp [TokenLib.signToken]
  have checked : (Wavvon.verifySignature lib.keys lib.publicKeyHex (lib.toVec payload)
      (lib.sign (lib.toVec payload))).isOk = true := by
    rw [verifySignature_isOk, documented.signed, Except.isOk, Except.toBool]
  have tried : tryVerifyFarmToken (hubReader lib.toTokenLib farmInfo) lib.publicKeyHex (lib.signToken payload)
      act.hubNow = .ok payload.sub := by
    rw [tryVerifyFarmToken, chars, span_dot (documented.alphabet _)]
    simp only [hubReader, String.ofList_toList, documented.decoded, documented.parsed, Option.map_some, checked,
      Bool.not_true, Bool.false_eq_true, if_false, own, if_neg (Int.not_le.mpr live), ne_eq, not_true_eq_false]
  have resolved : resolveFarmToken (hubReader lib.toTokenLib farmInfo) w.cache (lib.signToken payload) act.hubNow =
      (w.cache, .ok payload.sub) := by
    simp only [resolveFarmToken, cached, tried]
  simp only [Twins.enterHub, minted, fromRequestParts, if_pos dotted, resolved]
  rcases extractFarm w.farmHub payload.sub act.request act.hubNow with ⟨after, e | done⟩ <;> rfl

end

/--
In a run of sign-ins each is taken for the same account on both ways, exactly if no certificate is taken whose
master, or whose device, has an account of another name at the hub.
-/
theorem recognised_iff (outside : Outside) (lib : LoginLib) (farmInfo : String → Option String)
    (documented : lib.toTokenLib.Documented) (w : Twins) (acts : List SignIn) :
    Runs.Meets (Twins.step outside lib farmInfo) (Agrees outside lib farmInfo) w acts ↔
      Runs.Meets (Twins.step outside lib farmInfo) (Unsplit outside lib farmInfo) w acts :=
  Runs.meets_congr (fun _ => True) (fun _ _ _ => trivial) (fun _ _ _ => agrees_iff documented) trivial acts

def enrolling (n : UInt8) (jti : String) (cert : Option SubkeyCert) : SignIn where
  device := namedKey n
  cert := cert
  hubReq := { publicKey := namedKey n, challenge := nonceHex, signature := signedBy n }
  hubChallenge := List.replicate 32 7
  env := { now := 200, instant := 100, token := "5e551001" }
  farmReq := signingIn n
  farmChallenge := List.replicate 32 7
  jti := jti
  farmNow := 200
  request := { path := "/channels" }
  hubNow := 200

-- Nobody has signed in yet at either hub.
def openTwins : Twins where
  cache := { cachedFarmPubkey := some openTokens.publicKeyHex }

/-- A laptop that comes with its certificate from the start is its master on both ways, as the master itself is. -/
theorem recognised_iff_laptop :
    Runs.Meets (Twins.step softAuthenticator openLogin fun _ => none)
      (Agrees softAuthenticator openLogin fun _ => none) openTwins
      [enrolling 2 "01" (some laptopCert), enrolling 1 "02" none] := by
  refine (recognised_iff _ _ _ openTokens_documented _ _).mpr ⟨?_, ?_, trivial⟩
  · intro _ _ cert shown
    obtain rfl := Option.some.inj shown
    decide
  · intro _ _ cert shown
    cases shown

-- A laptop that has been here without its certificate keeps its own account at the hub, and is its master at the farm.
theorem laptop_split :
    openLogin.Documented ∧
      ¬ Runs.Meets (Twins.step softAuthenticator openLogin fun _ => none)
        (Agrees softAuthenticator openLogin fun _ => none) openTwins
        [enrolling 2 "01" none, enrolling 2 "02" (some laptopCert)] := by
  have first : (openTwins.signFarm openLogin (enrolling 2 "01" none)).2 =
      .ok (mint openLogin 200 "01" (namedKey 2) none "member") := by decide +kernel
  have entered := enterHub_minted (fun _ => none) openTokens_documented first rfl (by decide) rfl
  set w := openTwins.step softAuthenticator openLogin (fun _ => none) (enrolling 2 "01" none) with stepped
  have cached : w.cache.cachedFarmPubkey = some openTokens.publicKeyHex := by
    rw [stepped, Twins.step_cache, entered]
    rfl
  have farmHub : w.farmHub = (extractFarm {} (namedKey 2) { path := "/channels" } 200).1 := by
    rw [stepped, Twins.step_farmHub, entered]
    rfl
  have second : (w.signFarm openLogin (enrolling 2 "02" (some laptopCert))).2 =
      .ok (mint openLogin 200 "02" (namedKey 1) (some (namedKey 1)) "member") := by decide +kernel
  have reentered := enterHub_minted (fun _ => none) openTokens_documented second rfl (by decide) cached
  have admitted : (extractFarm w.farmHub (namedKey 1) { path := "/channels" } 200).2 = .ok () := by
    rw [farmHub]
    decide +kernel
  have answered : (w.signHub softAuthenticator openLogin (enrolling 2 "02" (some laptopCert))).2 =
      .ok { token := "5e551001", scope := .member, canonicalPubkey := namedKey 2 } := by decide +kernel
  have distinct : namedKey 2 ≠ namedKey 1 := by decide +kernel
  refine ⟨openTokens_documented, fun agrees => ?_⟩
  have agreed : Agrees softAuthenticator openLogin (fun _ => none) w (enrolling 2 "02" (some laptopCert)) := agrees.2.1
  have inside : (w.enterHub openLogin (fun _ => none) (enrolling 2 "02" (some laptopCert))).2.2.isOk = true := by
    rw [reentered, mint, enrolling]
    dsimp only
    rw [admitted]
    rfl
  obtain ⟨user, inside⟩ := isOk_iff.mp inside
  have same := agreed _ user answered inside
  rw [enterHub_user openTokens_documented inside] at same
  exact distinct same

end Wavvon.Farm
