import Wavvon.Farm.EndedSessions

set_option autoImplicit false

namespace Wavvon.Farm

/--
The farm with the tokens minted so far, each with whether it goes back to a sign-in with a code for the secret. Of the
tokens that were there before, `held` are those that do.
-/
structure Factor where
  auth : FarmAuth
  held : List FarmTokenPayload
  minted : List (FarmTokenPayload × Bool) := []

section

variable (lib : LoginLib) (secret : String)

def Factor.proved (w : Factor) (token : FarmTokenPayload) : Bool :=
  decide (token ∈ w.held ∨ (token, true) ∈ w.minted)

def Factor.proves (w : Factor) (now : Int) : LoginCall → Bool
  | .verify _ req => req.totpCode.any fun code => lib.totp secret code now
  | .renew _ bearer => ((requireAuth lib now bearer).toOption).any w.proved
  | _ => false

def Factor.step (w : Factor) (act : Int × LoginCall) : Factor :=
  let served := act.2.serve lib act.1 w.auth
  { w with
    auth := served.1
    minted := w.minted ++ (served.2.map fun token => (token, w.proves lib secret act.1 act.2)).toList }

def Enabled (s : FarmAuth) : Prop := s.farms.any fun row => row.totpEnabled && decide (row.totpSecret = some secret)

/-- The factor is on with this secret, and every token of the admin that was minted goes back to a code for it. -/
structure Guarded (w : Factor) : Prop where
  enabled : Enabled secret w.auth
  proved : ∀ entry ∈ w.minted, w.auth.adminPubkey = some entry.1.sub → entry.2 = true

-- Whoever calls the routes of the factor has no code for the secret.
def NoCode (_ : Factor) (act : Int × LoginCall) : Prop :=
  match act.2 with
  | .totpConfirm _ _ code => lib.totp secret code act.1 = false
  | .totpDisable _ code => lib.totp secret code act.1 = false
  | _ => True

/-- No other secret is confirmed, and what the admin's tokens are renewed from goes back to a code. -/
def Unbypassed (w : Factor) (act : Int × LoginCall) : Prop :=
  match act.2 with
  | .totpConfirm bearer own code =>
    ¬ ((requireAdmin lib act.1 w.auth bearer).isOk = true ∧ lib.totp own code act.1 = true)
  | .renew jti bearer => ∀ old, Renews lib act.1 w.auth jti bearer old → w.auth.adminPubkey = some old.sub →
      w.proved old = true
  | _ => True

end

section

variable {lib : LoginLib} {secret : String} {now : Int} {s : FarmAuth} {w : Factor} {payload : FarmTokenPayload}
  {bearer : Option String} {act : Int × LoginCall}

theorem totpConfirm_cases (lib : LoginLib) (now : Int) (s : FarmAuth) (bearer : Option String) (own code : String) :
    (((requireAdmin lib now s bearer).isOk = true ∧ lib.totp own code now = true) ∧
      (totpConfirm lib now s bearer own code).1 =
        updateFarms s fun row => { row with totpSecret := some own, totpEnabled := true }) ∨
    (¬ ((requireAdmin lib now s bearer).isOk = true ∧ lib.totp own code now = true) ∧
      (totpConfirm lib now s bearer own code).1 = s) := by
  unfold totpConfirm
  cases requireAdmin lib now s bearer with
  | error e => exact .inr ⟨fun both => (by cases both.1), rfl⟩
  | ok admin =>
    dsimp only
    split
    next valid => exact .inl ⟨⟨rfl, valid⟩, rfl⟩
    next invalid => exact .inr ⟨fun both => invalid both.2, rfl⟩

-- Without a code for the secret the factor is not turned off.
theorem totpDisable_barred {code : String} (enabled : Enabled secret s) (barred : lib.totp secret code now = false) :
    (totpDisable lib now s bearer code).1 = s := by
  obtain ⟨row, found, on⟩ := (Option.any_eq_true _ _).mp enabled
  rw [Bool.and_eq_true, decide_eq_true_eq] at on
  unfold totpDisable
  cases requireAdmin lib now s bearer with
  | error e => rfl
  | ok admin =>
    have kept : s.farms.filter (·.totpEnabled) = some row := by
      rw [found, Option.filter_some, if_pos on.1]
    simp only [kept, on.2, barred, Bool.false_eq_true, if_false]

-- The admin signs in with a code.
theorem factor_asked {canonical : String} {totpCode : Option String} (enabled : Enabled secret s)
    (admin : s.adminPubkey = some canonical) (passed : secondFactor lib now s.farms canonical totpCode = .ok ()) :
    (totpCode.any fun code => lib.totp secret code now) = true := by
  obtain ⟨row, found, on⟩ := (Option.any_eq_true _ _).mp enabled
  rw [Bool.and_eq_true, decide_eq_true_eq] at on
  rw [FarmAuth.adminPubkey, found, Option.bind_some] at admin
  have asked : s.farms.filter (fun row => decide (row.adminPubkey = some canonical) && row.totpEnabled) = some row := by
    rw [found, Option.filter_some, admin, on.1, if_pos (by simp)]
  unfold secondFactor at passed
  rw [asked] at passed
  simp only [on.2] at passed
  cases totpCode with
  | none => cases passed
  | some code =>
    dsimp only at passed
    split at passed
    next valid => exact valid
    next => cases passed

theorem serve_farms (enabled : Enabled secret w.auth) (barred : NoCode lib secret w act)
    (unbypassed : Unbypassed lib w act) :
    (act.2.serve lib act.1 w.auth).1.farms = w.auth.farms := by
  obtain ⟨now, call⟩ := act
  cases call with
  | challenge publicKey nonce => exact (challenge_unminted publicKey nonce).farms
  | verify jti req =>
    obtain ⟨master, -, seen, -⟩ | ⟨-, kept, -⟩ := verify_cases lib now jti w.auth req
    · exact seen.farms
    · exact kept.farms
  | renew jti bearer => exact (renew_cases lib now jti w.auth bearer).1.farms
  | revokeUserSessions bearer pubkey => exact (revokeUserSessions_unminted pubkey).farms
  | totpSetup bearer secret => rfl
  | totpConfirm bearer own code =>
    obtain ⟨both, -⟩ | ⟨-, same⟩ := totpConfirm_cases lib now w.auth bearer own code
    · exact absurd both unbypassed
    · exact congrArg FarmAuth.farms same
  | totpDisable bearer code => exact congrArg FarmAuth.farms (totpDisable_barred enabled barred)

theorem Guarded.step (guarded : Guarded secret w) (barred : NoCode lib secret w act)
    (unbypassed : Unbypassed lib w act) : Guarded secret (w.step lib secret act) := by
  have farms := serve_farms guarded.enabled barred unbypassed
  have admin : (w.step lib secret act).auth.adminPubkey = w.auth.adminPubkey := congrArg (Option.bind · _) farms
  refine ⟨?_, ?_⟩
  · exact (congrArg (Option.any _) farms).trans guarded.enabled
  · intro entry listed own
    rw [admin] at own
    obtain old | new := List.mem_append.mp listed
    · exact guarded.proved entry old own
    · rw [Option.mem_toList, Option.map_eq_some_iff] at new
      obtain ⟨payload, minted, rfl⟩ := new
      obtain ⟨now, call⟩ := act
      obtain ⟨jti, req, master, rfl, signs, rfl, -⟩ | ⟨jti, bearer, old, rfl, renews, rfl⟩ :=
        minted_cases minted
      · exact factor_asked guarded.enabled own signs.factor
      · show ((requireAuth lib now bearer).toOption).any w.proved = true
        rw [renews_requireAuth renews]
        exact unbypassed old renews own

theorem bypass_breaks (guarded : Guarded secret w) (barred : NoCode lib secret w act)
    (bypassed : ¬ Unbypassed lib w act) : ¬ Guarded secret (w.step lib secret act) := by
  intro still
  obtain ⟨now, call⟩ := act
  cases call with
  | totpConfirm bearer own code =>
    obtain ⟨both, changed⟩ | ⟨neither, -⟩ := totpConfirm_cases lib now w.auth bearer own code
    · -- The secret is the caller's, and the caller has no code for the old one.
      obtain ⟨row, found, -⟩ := (Option.any_eq_true _ _).mp guarded.enabled
      obtain ⟨row', after, on⟩ := (Option.any_eq_true _ _).mp still.enabled
      have stored : (w.step lib secret (now, .totpConfirm bearer own code)).auth.farms =
          some { row with totpSecret := some own, totpEnabled := true } := by
        show (totpConfirm lib now w.auth bearer own code).1.farms = _
        rw [changed, updateFarms, found, Option.map_some]
      obtain rfl := Option.some.inj (stored.symm.trans after)
      rw [Bool.and_eq_true, decide_eq_true_eq] at on
      obtain rfl := Option.some.inj on.2
      exact absurd (barred.symm.trans both.2) Bool.false_ne_true
    · exact bypassed neither
  | renew jti bearer =>
    simp only [Unbypassed, not_forall] at bypassed
    obtain ⟨old, renews, own, unproved⟩ := bypassed
    obtain ⟨kept, ⟨old', renews', minted⟩ | ⟨never, -⟩⟩ := renew_cases lib now jti w.auth bearer
    · have same : old' = old := Except.ok.inj ((renews_requireAuth renews').symm.trans (renews_requireAuth renews))
      subst same
      have admin : (w.step lib secret (now, .renew jti bearer)).auth.adminPubkey = w.auth.adminPubkey :=
        congrArg (Option.bind · _) kept.farms
      refine unproved ?_
      have listed : (mint lib now jti old'.sub old'.master old'.scope, w.proved old') ∈
          (w.step lib secret (now, .renew jti bearer)).minted := by
        refine List.mem_append_right _ ?_
        rw [Option.mem_toList, Option.map_eq_some_iff]
        refine ⟨_, minted, ?_⟩
        show (_, ((requireAuth lib now bearer).toOption).any w.proved) = _
        rw [renews_requireAuth renews]
        rfl
      exact still.proved _ listed (admin.trans own)
    · exact never old renews
  | _ => exact bypassed trivial

end

/--
Where the callers have no code for the secret, the second factor stays as it is and every token of the admin goes
back to a code for it, in every state of a run, exactly if its steps do not go around it.
-/
theorem guarded_iff (lib : LoginLib) {secret : String} {s : FarmAuth} (enabled : Enabled secret s)
    (held : List FarmTokenPayload) (acts : List (Int × LoginCall))
    (barred : Runs.Meets (Factor.step lib secret) (NoCode lib secret) { auth := s, held := held } acts) :
    (∀ front, front <+: acts →
        Guarded secret (Runs.run (Factor.step lib secret) { auth := s, held := held } front)) ↔
      Runs.Meets (Factor.step lib secret) (Unbypassed lib) { auth := s, held := held } acts :=
  Runs.always_iff_meets_within (Guarded secret) (Guarded secret) (fun _ => id)
    (fun _ _ guarded barred unbypassed => guarded.step barred unbypassed)
    (fun _ _ guarded barred bypassed => bypass_breaks guarded barred bypassed)
    ⟨enabled, fun _ listed => absurd listed List.not_mem_nil⟩ acts barred

/-- A farm whose admin, the holder of key 5, has enrolled the secret "JBSW". -/
def enrolled : FarmAuth where
  farms := some { adminPubkey := some (namedKey 5), totpSecret := some "JBSW", totpEnabled := true }
  users := (∅ : Table FarmUser).insert (namedKey 5) { firstSeenAt := 1, lastSeenAt := 1 }

-- The admin's token has been stolen.
def stolen : Factor := { auth := enrolled, held := [adminPayload] }

theorem enrolled_enabled : Enabled "JBSW" enrolled := rfl

def stolenRun : List (Int × LoginCall) :=
  [(300, .renew "03" (some adminToken)), (400, .totpDisable (some adminToken) "guess")]

-- It is renewed, and does not turn the factor off.
theorem guarded_iff_stolen : Guarded "JBSW" (Runs.run (Factor.step openLogin "JBSW") stolen stolenRun) := by
  have guess : openLogin.totp "JBSW" "guess" 400 = false := rfl
  have unbypassed : Runs.Meets (Factor.step openLogin "JBSW") (Unbypassed openLogin) stolen stolenRun := by
    refine ⟨?_, trivial, trivial⟩
    intro old renews _
    obtain ⟨rfl, -⟩ := (renews_signToken openTokens_documented rfl).mp renews
    exact decide_eq_true (.inl (List.mem_singleton.mpr rfl))
  exact (guarded_iff openLogin enrolled_enabled [adminPayload] stolenRun ⟨trivial, guess, trivial⟩).mpr unbypassed
    stolenRun List.prefix_rfl

-- Its holder confirms a secret of their own, with a code for that.
theorem factor_replaced :
    Enabled "JBSW" stolen.auth ∧ NoCode openLogin "JBSW" stolen (300, .totpConfirm (some adminToken) "OWN" "OWN") ∧
      ¬ Guarded "JBSW" (stolen.step openLogin "JBSW" (300, .totpConfirm (some adminToken) "OWN" "OWN")) := by
  have barred : openLogin.totp "JBSW" "OWN" 300 = false := rfl
  have guarded : Guarded "JBSW" stolen := ⟨enrolled_enabled, fun _ listed => absurd listed List.not_mem_nil⟩
  refine ⟨enrolled_enabled, barred, bypass_breaks guarded barred ?_⟩
  intro unbypassed
  exact unbypassed ⟨adminToken_admits (by decide) rfl, rfl⟩

end Wavvon.Farm
