import Wavvon.Identity.Revocations
import Wavvon.Moderation.Sanctions

set_option autoImplicit false

namespace Wavvon

open Std (ExtTreeMap)

/-- The rows of `users` are kept, and the given ones added; local bans stay. -/
structure Seating (new : String → Prop) (before after : AuthState) : Prop where
  kept : ∀ key, key ∈ before.db.users → key ∈ after.db.users
  gained : ∀ key, key ∈ after.db.users → key ∈ before.db.users ∨ new key
  bans : after.tables.bans = before.tables.bans

section

variable {new : String → Prop}

theorem seating_of_same {before after : AuthState} (users : ∀ key, key ∈ after.db.users ↔ key ∈ before.db.users)
    (bans : after.tables.bans = before.tables.bans) : Seating new before after :=
  ⟨fun key => (users key).mpr, fun key seated => .inl ((users key).mp seated), bans⟩

theorem Seating.trans {first second third : AuthState} (left : Seating new first second)
    (right : Seating new second third) : Seating new first third where
  kept key known := right.kept key (left.kept key known)
  gained key seated := by
    rcases right.gained key seated with earlier | gained
    · exact left.gained key earlier
    · exact .inr gained
  bans := right.bans.trans left.bans

theorem Seating.weaken {wider : String → Prop} {before after : AuthState} (seating : Seating new before after)
    (wide : ∀ key, new key → wider key) : Seating wider before after where
  kept := seating.kept
  gained key seated := (seating.gained key seated).imp_right (wide key)
  bans := seating.bans

end

section

variable {outside : Outside} {s : AuthState} {req : VerifyRequest} {env : VerifyEnv}
  {canonical : String} {master : Option String} {claimed : Nat}

theorem admitNewcomer_seating (firstUser : Bool) (redemption : Option InviteRedemption) (new : String → Prop) :
    Seating new s (admitNewcomer s canonical firstUser redemption) := by
  refine seating_of_same ?_ rfl
  intro key
  rw [admitNewcomer_users, admitMember, ExtTreeMap.mem_modify]

theorem sessionOutcome_seating {exempt firstUser : Bool}
    {outcome : AuthState × Except HttpError VerifyResponse}
    (ended : SessionOutcome s req canonical master exempt env firstUser outcome) (new : String → Prop) :
    Seating new s outcome.1 := by
  have opened : ∀ passed, Answers s req canonical master env passed →
      Seating new s (withSession s req canonical exempt env passed) := by
    intro passed answers
    obtain ⟨tokens, rfl⟩ := answers_frame answers
    exact seating_of_same (fun _ => Iff.rfl) rfl
  cases ended with
  | unanswered e faces refused => exact seating_of_same (fun _ => Iff.rfl) rfl
  | peer passed answers arrives => exact (opened passed answers).trans (seating_of_same (fun _ => Iff.rfl) rfl)
  | member belongs => exact seating_of_same (fun _ => Iff.rfl) rfl
  | uninvited passed e answers stranger person refused => exact opened passed answers
  | admitted passed spent redemption answers stranger person redeemed =>
    have kept : Seating new (withSession s req canonical exempt env passed) spent := by
      obtain ⟨invites, rfl⟩ := redeemInvite_frame redeemed
      exact seating_of_same (fun _ => Iff.rfl) rfl
    exact ((opened passed answers).trans kept).trans (admitNewcomer_seating firstUser redemption new)

theorem seatUser_seating :
    Seating (· = canonical) s (seatUser s req canonical master claimed env) := by
  have row := seatUser_users s req canonical master claimed env
  refine ⟨?_, ?_, by rw [seatUser_tables]⟩
  · intro key known
    rw [ExtTreeMap.mem_iff_isSome_getElem?, row]
    split
    · rfl
    · exact ExtTreeMap.mem_iff_isSome_getElem?.mp known
  · intro key seated
    by_cases same : key = canonical
    next => exact .inr same
    next =>
      rw [ExtTreeMap.mem_iff_isSome_getElem?, row, if_neg same] at seated
      exact .inl (ExtTreeMap.mem_iff_isSome_getElem?.mpr seated)

theorem verify_seating :
    Seating (fun key => (AuthCall.verify req env).SignsIn outside s key) s (verify outside s req env).1 := by
  rcases verify_cases outside s req env with ⟨e, same | same⟩ | ⟨canonical, visitor, _, same⟩ |
    ⟨canonical, master, claimed, seats⟩
  · rw [same]
    exact seating_of_same (fun _ => Iff.rfl) rfl
  · rw [same]
    exact seating_of_same (fun _ => Iff.rfl) rfl
  · rw [same]
    exact seating_of_same (fun _ => Iff.rfl) rfl
  · rw [verify_seats seats]
    have taken : Seating (· = canonical) s (takeChallenge s req.challenge) :=
      seating_of_same (fun _ => Iff.rfl) rfl
    have ended := sessionOutcome_seating (afterSeat_outcome s req env canonical master claimed) (· = canonical)
    refine ((taken.trans seatUser_seating).trans ended).weaken ?_
    rintro key rfl
    exact ⟨master, claimed, seats⟩

theorem issueSessionToken_seating (key : String) (ceremony : CeremonyEnv) :
    Seating (· = key) s (issueSessionToken s key ceremony).1 := by
  refine ⟨?_, ?_, rfl⟩
  · intro other known
    exact ExtTreeMap.mem_insertIfNew.mpr (.inr known)
  · intro other seated
    rcases ExtTreeMap.mem_insertIfNew.mp seated with same | known
    · exact .inr (by simpa using same : key = other).symm
    · exact .inl known

theorem registerFinish_seating (body : RegFinishRequest) (ceremony : CeremonyEnv) :
    Seating (fun key => (AuthCall.registerFinish body ceremony).SignsIn outside s key) s
      (registerFinish outside s body ceremony).1 := by
  unfold registerFinish
  split
  next => exact seating_of_same (fun _ => Iff.rfl) rfl
  next challenge found =>
    dsimp only
    split
    next => exact seating_of_same (fun _ => Iff.rfl) rfl
    next passkey finished =>
      have took := AuthCall.accepted_iff.mpr ⟨body, ceremony, challenge, rfl, found, finished, rfl⟩
      refine Seating.weaken (Seating.trans ?_ (issueSessionToken_seating challenge.userPubkey ceremony)) ?_
      · exact seating_of_same (fun _ => Iff.rfl) rfl
      · rintro key rfl
        exact .inl ⟨passkey, took⟩

theorem assertFinish_seating (body : AssertFinishRequest) (ceremony : CeremonyEnv) :
    Seating (fun key => (AuthCall.assertFinish body ceremony).SignsIn outside s key) s
      (assertFinish outside s body ceremony).1 := by
  unfold assertFinish
  split
  next => exact seating_of_same (fun _ => Iff.rfl) rfl
  next challenge found =>
    dsimp only
    split
    next => exact seating_of_same (fun _ => Iff.rfl) rfl
    next result finished =>
      have took := AuthCall.asserted_iff.mpr ⟨body, ceremony, rfl, found, finished⟩
      have used : Seating (· = challenge.userPubkey) s
          (recordUse outside { s with authChallenges := s.authChallenges.erase body.sessionId }
            challenge.passkeys result ceremony.now) := by
        unfold recordUse
        split <;> exact seating_of_same (fun _ => Iff.rfl) rfl
      refine (used.trans (issueSessionToken_seating challenge.userPubkey ceremony)).weaken ?_
      rintro key rfl
      exact .inr ⟨challenge, result, took, rfl⟩

theorem authNext_seating (call : AuthCall) :
    Seating (fun key => call.SignsIn outside s key) s (call.next outside s) := by
  cases call with
  | verify req env => exact verify_seating
  | registerFinish body ceremony => exact registerFinish_seating body ceremony
  | assertFinish body ceremony => exact assertFinish_seating body ceremony
  | challenge => exact seating_of_same (fun _ => Iff.rfl) rfl
  | registerBegin body ceremony =>
    simp only [AuthCall.next, AuthCall.serve, registerBegin]
    repeat' split
    all_goals exact seating_of_same (fun _ => Iff.rfl) rfl
  | assertBegin key ceremony =>
    simp only [AuthCall.next, AuthCall.serve, assertBegin]
    repeat' split
    all_goals exact seating_of_same (fun _ => Iff.rfl) rfl
  | deleteCredential user id =>
    simp only [AuthCall.next, AuthCall.serve, deleteCredential]
    split <;> exact seating_of_same (fun _ => Iff.rfl) rfl

end

theorem extractFarm_seating (s : AuthState) (publicKey : String) (request : HttpRequest) (now : Int) :
    Seating (· = publicKey) s (extractFarm s publicKey request now).1 := by
  have seen : Seating (· = publicKey) s { s with db := upsertFarmUser s.db publicKey now } := by
    refine ⟨?_, ?_, rfl⟩
    · intro key known
      exact ExtTreeMap.mem_insert.mpr (.inr known)
    · intro key seated
      rcases ExtTreeMap.mem_insert.mp seated with same | known
      · exact .inr (by simpa using same : publicKey = key).symm
      · exact .inl known
  unfold extractFarm
  dsimp only
  repeat' split
  all_goals try exact seen
  refine seen.trans (seating_of_same ?_ rfl)
  intro key
  exact ExtTreeMap.mem_modify

section

variable (farm : FarmOutside) (cache : FarmCache) (token : String) (now : Int)

def FarmSeats (key : String) : Prop := (resolveFarmToken farm cache token now).2 = .ok key

theorem fromRequestParts_seating (s : AuthState) (request : HttpRequest) :
    Seating (FarmSeats farm cache token now) s (fromRequestParts farm s cache token request now).1 := by
  unfold fromRequestParts
  split
  next =>
    cases answer : resolveFarmToken farm cache token now with
    | mk after result =>
      cases result with
      | error e => exact seating_of_same (fun _ => Iff.rfl) rfl
      | ok publicKey =>
        have seated : Seating (FarmSeats farm cache token now) s (extractFarm s publicKey request now).1 := by
          refine (extractFarm_seating s publicKey request now).weaken ?_
          rintro key rfl
          simp [FarmSeats, answer]
        dsimp only
        split <;> simp_all
  next =>
    repeat' split
    all_goals exact seating_of_same (fun _ => Iff.rfl) rfl

end

theorem foldl_bans {A : Type} (add : AuthTables → A → AuthTables)
    (each : ∀ tables item, (add tables item).bans = tables.bans) (items : List A) (tables : AuthTables) :
    (items.foldl add tables).bans = tables.bans := by
  induction items generalizing tables with
  | nil => rfl
  | cons item rest ih => exact (ih (add tables item)).trans (each tables item)

theorem insertRevocation_bans (tables : AuthTables) (entry : RevocationEntry) :
    (insertRevocation tables entry).bans = tables.bans := by
  unfold insertRevocation
  split <;> rfl

theorem syncOne_bans (keys : Keys) (answers : String → Option (List RevocationEntry)) (tables : AuthTables)
    (target : String × String) : (syncOne keys answers tables target).bans = tables.bans := by
  unfold syncOne
  split
  next => rfl
  next entries _ =>
    apply foldl_bans
    intro tables entry
    split
    · exact insertRevocation_bans tables entry
    · rfl

section

variable (outside : Outside) (farm : FarmOutside) (keys : Keys) (s : Registry)

-- The rows a call may add to `users`.
def RegistryCall.Seats (key : String) : RegistryCall → Prop
  | .auth call => call.SignsIn (outside.withKeys keys) s.auth key
  | .postDevice token _ _ now => FarmSeats farm s.farm token now key
  | _ => False

theorem postDevice_seating (token master : String) (cert : SubkeyCert) (now : Int) :
    Seating (FarmSeats farm s.farm token now) s.auth (s.postDevice farm keys token master cert now).1.auth := by
  have extracted := fromRequestParts_seating farm s.farm token now s.auth (devicesRequest master)
  unfold Registry.postDevice
  split
  next seen cache e same =>
    rw [same] at extracted
    exact extracted
  next seen cache user same =>
    rw [same] at extracted
    refine extracted.trans ?_
    rcases postDevice_cases keys seen user master cert with ⟨_, written⟩ | ⟨_, e, refused⟩
    · rw [written]
      exact seating_of_same (fun _ => Iff.rfl) rfl
    · rw [refused]
      exact seating_of_same (fun _ => Iff.rfl) rfl

theorem postRevocation_seating {new : String → Prop} (auth : AuthState) (master : String)
    (entry : RevocationEntry) : Seating new auth (postRevocation keys auth master entry).1 := by
  unfold postRevocation
  repeat' split
  all_goals first
    | exact seating_of_same (fun _ => Iff.rfl) rfl
    | exact seating_of_same (fun _ => Iff.rfl) (insertRevocation_bans auth.tables entry)

theorem Registry.next_seating (call : RegistryCall) :
    Seating (fun key => call.Seats outside farm keys s key) s.auth (s.next outside farm keys call).auth := by
  cases call with
  | auth call => exact authNext_seating call
  | postDevice token master cert now => exact postDevice_seating farm keys s token master cert now
  | postRevocation master entry =>
    exact postRevocation_seating keys s.auth master entry
  | revocationTick answers =>
    exact seating_of_same (fun _ => Iff.rfl) (foldl_bans _ (syncOne_bans keys answers) _ s.auth.tables)
  | postOffer offer now => exact seating_of_same (fun _ => Iff.rfl) rfl
  | postClaim claim now => exact seating_of_same (fun _ => Iff.rfl) rfl
  | postComplete complete now =>
    rcases postComplete_cases keys s complete now with ⟨_, same⟩ | ⟨_, same⟩
    · exact seating_of_same (fun _ => Iff.rfl) ((congrArg AuthTables.bans same).trans rfl)
    · exact seating_of_same (fun _ => Iff.rfl) ((congrArg AuthTables.bans same).trans rfl)

end

end Wavvon
