import Wavvon.Auth.Outcomes
import Wavvon.Identity.Registry

set_option autoImplicit false

namespace Wavvon

open Std (ExtTreeMap)
open Tables (Nested)

/-- Only the given columns of the device tables differ. -/
structure DevicesKept (before after : AuthState) : Prop where
  certs : after.tables.subkeyCerts = before.tables.subkeyCerts
  revocations : after.tables.subkeyRevocations = before.tables.subkeyRevocations

theorem DevicesKept.refl (s : AuthState) : DevicesKept s s := ⟨rfl, rfl⟩

theorem DevicesKept.trans {first second third : AuthState} (left : DevicesKept first second)
    (right : DevicesKept second third) : DevicesKept first third :=
  ⟨right.certs.trans left.certs, right.revocations.trans left.revocations⟩

section

variable {outside : Outside} {s : AuthState} {req : VerifyRequest} {env : VerifyEnv}
  {canonical : String} {master : Option String} {claimed : Nat}

theorem answers_devices {passed : AuthState} (answers : Answers s req canonical master env passed) :
    DevicesKept s passed := by
  obtain ⟨tokens, rfl⟩ := answers_frame answers
  exact ⟨rfl, rfl⟩

theorem withSession_devices {passed : AuthState} (exempt : Bool)
    (answers : Answers s req canonical master env passed) :
    DevicesKept s (withSession s req canonical exempt env passed) :=
  (answers_devices answers).trans ⟨rfl, rfl⟩

-- From the seat on a sign-in leaves the device tables alone.
theorem sessionOutcome_devices {exempt firstUser : Bool}
    {outcome : AuthState × Except HttpError VerifyResponse}
    (ended : SessionOutcome s req canonical master exempt env firstUser outcome) :
    DevicesKept s outcome.1 := by
  cases ended with
  | unanswered e faces refused => exact DevicesKept.refl s
  | peer passed answers arrives => exact (withSession_devices exempt answers).trans ⟨rfl, rfl⟩
  | member belongs => exact ⟨rfl, rfl⟩
  | uninvited passed e answers stranger person refused => exact withSession_devices exempt answers
  | admitted passed spent redemption answers stranger person redeemed =>
    refine (withSession_devices exempt answers).trans ?_
    obtain ⟨invites, rfl⟩ := redeemInvite_frame redeemed
    exact ⟨rfl, rfl⟩

theorem seatUser_certs :
    (seatUser s req canonical master claimed env).tables.subkeyCerts =
      match req.subkeyCert with
      | none => s.tables.subkeyCerts
      | some cert => (upsertSubkeyCert s.tables cert).subkeyCerts := by
  cases presented : req.subkeyCert <;> simp [seatUser, presented]

theorem seatUser_revocations :
    (seatUser s req canonical master claimed env).tables.subkeyRevocations =
      s.tables.subkeyRevocations := by
  rw [seatUser_tables]

theorem verify_certs (seats : Seats outside s req env canonical master claimed) :
    (verify outside s req env).1.tables.subkeyCerts =
      match req.subkeyCert with
      | none => s.tables.subkeyCerts
      | some cert => (upsertSubkeyCert s.tables cert).subkeyCerts := by
  rw [verify_seats seats, (sessionOutcome_devices (afterSeat_outcome s req env canonical master claimed)).certs,
    seatUser_certs]
  rfl

end

-- The certificate a sign-in records, whether or not it is let in afterwards.
def AuthCall.Presents (outside : Outside) (s : AuthState) : AuthCall → SubkeyCert → Prop
  | .verify req env, cert => req.subkeyCert = some cert ∧
      ∃ canonical master claimed, Seats outside s req env canonical master claimed
  | _, _ => False

section

variable (outside : Outside) (s : AuthState)

theorem registerBegin_devices (body : RegBeginRequest) (env : CeremonyEnv) :
    DevicesKept s (registerBegin outside s body env).1 := by
  unfold registerBegin
  split
  · exact DevicesKept.refl s
  · dsimp only
    split <;> exact ⟨rfl, rfl⟩

theorem registerFinish_devices (body : RegFinishRequest) (env : CeremonyEnv) :
    DevicesKept s (registerFinish outside s body env).1 := by
  unfold registerFinish
  split
  · exact DevicesKept.refl s
  · dsimp only
    split <;> exact ⟨rfl, rfl⟩

theorem assertBegin_devices (userPubkey : String) (env : CeremonyEnv) :
    DevicesKept s (assertBegin outside s userPubkey env).1 := by
  unfold assertBegin
  dsimp only
  repeat' split
  all_goals exact ⟨rfl, rfl⟩

theorem recordUse_devices (passkeys : List Passkey) (result : AuthResult) (now : Int) :
    DevicesKept s (recordUse outside s passkeys result now) := by
  unfold recordUse
  split <;> exact ⟨rfl, rfl⟩

theorem assertFinish_devices (body : AssertFinishRequest) (env : CeremonyEnv) :
    DevicesKept s (assertFinish outside s body env).1 := by
  unfold assertFinish
  split
  next => exact DevicesKept.refl s
  next challenge _ =>
    dsimp only
    split
    next => exact ⟨rfl, rfl⟩
    next result _ =>
      let taken := { s with authChallenges := s.authChallenges.erase body.sessionId }
      have used := recordUse_devices outside taken challenge.passkeys result env.now
      exact ⟨used.certs, used.revocations⟩

theorem deleteCredential_devices (user id : String) : DevicesKept s (deleteCredential s user id) := by
  unfold deleteCredential
  split <;> exact ⟨rfl, rfl⟩

-- Only a sign-in that reaches its seat writes a certificate.
theorem AuthCall.next_devices (call : AuthCall) :
    (∃ cert, call.Presents outside s cert ∧
        (call.next outside s).tables.subkeyCerts = (upsertSubkeyCert s.tables cert).subkeyCerts) ∨
      (∀ cert, ¬ call.Presents outside s cert) ∧
        (call.next outside s).tables.subkeyCerts = s.tables.subkeyCerts := by
  cases call with
  | verify req env =>
    by_cases seated : ∃ canonical master claimed, Seats outside s req env canonical master claimed
    next =>
      obtain ⟨canonical, master, claimed, seats⟩ := seated
      have written := verify_certs seats
      cases presented : req.subkeyCert with
      | none =>
        simp only [presented] at written
        exact .inr ⟨fun cert presents => by simp [Presents, presented] at presents, written⟩
      | some cert =>
        simp only [presented] at written
        exact .inl ⟨cert, ⟨presented, canonical, master, claimed, seats⟩, written⟩
    next =>
      refine .inr ⟨fun cert presents => seated presents.2, ?_⟩
      rcases verify_cases outside s req env with ⟨e, same | same⟩ | ⟨canonical, visitor, _, same⟩ | seats
      · simp [AuthCall.next, AuthCall.serve, same]
      · simp [AuthCall.next, AuthCall.serve, same, takeChallenge]
      · simp [AuthCall.next, AuthCall.serve, same, takeChallenge, recordVisit]
      · exact absurd seats seated
  | challenge publicKey bytes instant => exact .inr ⟨fun _ => id, rfl⟩
  | registerBegin body env => exact .inr ⟨fun _ => id, (registerBegin_devices outside s body env).certs⟩
  | registerFinish body env => exact .inr ⟨fun _ => id, (registerFinish_devices outside s body env).certs⟩
  | assertBegin key env => exact .inr ⟨fun _ => id, (assertBegin_devices outside s key env).certs⟩
  | assertFinish body env => exact .inr ⟨fun _ => id, (assertFinish_devices outside s body env).certs⟩
  | deleteCredential user id => exact .inr ⟨fun _ => fun h => h, (deleteCredential_devices s user id).certs⟩

theorem AuthCall.next_revocations (call : AuthCall) :
    (call.next outside s).tables.subkeyRevocations = s.tables.subkeyRevocations := by
  cases call with
  | verify req env =>
    rcases verify_cases outside s req env with ⟨e, same | same⟩ | ⟨canonical, visitor, _, same⟩ |
      ⟨canonical, master, claimed, seats⟩
    · simp [AuthCall.next, AuthCall.serve, same]
    · simp [AuthCall.next, AuthCall.serve, same, takeChallenge]
    · simp [AuthCall.next, AuthCall.serve, same, takeChallenge, recordVisit]
    · have kept := sessionOutcome_devices (afterSeat_outcome s req env canonical master claimed)
      calc (Wavvon.verify outside s req env).1.tables.subkeyRevocations
          = (afterSeat s req env canonical master claimed).1.tables.subkeyRevocations := by
            rw [verify_seats seats]
        _ = _ := kept.revocations
        _ = s.tables.subkeyRevocations := seatUser_revocations
  | challenge publicKey bytes instant => rfl
  | registerBegin body env => exact (registerBegin_devices outside s body env).revocations
  | registerFinish body env => exact (registerFinish_devices outside s body env).revocations
  | assertBegin key env => exact (assertBegin_devices outside s key env).revocations
  | assertFinish body env => exact (assertFinish_devices outside s body env).revocations
  | deleteCredential user id => exact (deleteCredential_devices s user id).revocations

end

-- The extractor writes nothing, except the row of a farm user.
theorem fromRequestParts_seen (farm : FarmOutside) (s : AuthState) (cache : FarmCache)
    (token : String) (request : HttpRequest) (now : Int) :
    (fromRequestParts farm s cache token request now).1 = s ∨
      ∃ publicKey, (fromRequestParts farm s cache token request now).1 =
        (extractFarm s publicKey request now).1 := by
  unfold fromRequestParts
  split
  next =>
    cases answer : resolveFarmToken farm cache token now with
    | mk after result =>
      cases result with
      | error e => exact .inl rfl
      | ok publicKey =>
        refine .inr ⟨publicKey, ?_⟩
        dsimp only
        split <;> simp [*]
  next =>
    repeat' split
    all_goals exact .inl rfl

theorem extractFarm_tables (s : AuthState) (publicKey : String) (request : HttpRequest) (now : Int) :
    (extractFarm s publicKey request now).1.tables = s.tables := by
  unfold extractFarm
  dsimp only
  repeat' split
  all_goals rfl

theorem upsertFarmUser_masters (db : Db) (publicKey : String) (now : Int) :
    MastersKept db (upsertFarmUser db publicKey now) := by
  intro key master linked
  simp only [upsertFarmUser, Db.masterOf, ExtTreeMap.getElem?_insert] at linked ⊢
  split
  next same =>
    obtain rfl : publicKey = key := by simpa using same
    cases found : db.users[publicKey]? with
    | none => simp [found] at linked
    | some user => simpa [found] using linked
  next => exact linked

theorem extractFarm_masters (s : AuthState) (publicKey : String) (request : HttpRequest) (now : Int) :
    MastersKept s.db (extractFarm s publicKey request now).1.db := by
  have seen := upsertFarmUser_masters s.db publicKey now
  unfold extractFarm
  dsimp only
  repeat' split
  all_goals first
    | exact seen
    | exact seen.trans (modify_masters _ publicKey _ fun _ => rfl)

section

variable (farm : FarmOutside) (s : AuthState) (cache : FarmCache) (token : String) (request : HttpRequest)
  (now : Int)

theorem fromRequestParts_tables :
    (fromRequestParts farm s cache token request now).1.tables = s.tables := by
  rcases fromRequestParts_seen farm s cache token request now with same | ⟨publicKey, same⟩
  · rw [same]
  · rw [same, extractFarm_tables]

theorem fromRequestParts_masters :
    MastersKept s.db (fromRequestParts farm s cache token request now).1.db := by
  rcases fromRequestParts_seen farm s cache token request now with same | ⟨publicKey, same⟩
  · rw [same]
    exact MastersKept.refl s.db
  · rw [same]
    exact extractFarm_masters s publicKey request now

end

def newRow (cert : SubkeyCert) : DeviceRow :=
  { cert := cert, homeHubUrl := cert.fallbackHubs.head?.getD "" }

def pairedRow (tables : AuthTables) (cert : SubkeyCert) : DeviceRow :=
  { cert := cert
    homeHubUrl :=
      ((tables.subkeyCerts.get cert.masterPubkey cert.subkeyPubkey).map (·.homeHubUrl)).getD "" }

/-- A completion the hub accepts: the certificate fits a live offer that a device has claimed. -/
structure Completes (keys : Keys) (s : Registry) (complete : PairingComplete) (now : Int) : Prop where
  signed : complete.cert.verify keys = .ok ()
  claimed : ∃ row, (pruneExpired s.pairingOffers now)[complete.pairingToken]? = some row ∧
    checkComplete row complete.cert now = .ok ()

section

variable (outside : Outside) (farm : FarmOutside) (keys : Keys) (s : Registry)

/-- A registration the hub accepts: the device's own session, and no other master's row. -/
def Enrols (token master : String) (cert : SubkeyCert) (now : Int) : Prop :=
  ∃ user, (fromRequestParts farm s.auth s.farm token (devicesRequest master) now).2.2 = .ok user ∧
    cert.masterPubkey = master ∧ cert.subkeyPubkey = user.publicKey ∧ cert.verify keys = .ok () ∧
    s.auth.otherMaster cert.subkeyPubkey cert.masterPubkey = false

-- The row of `subkey_certs` a call writes.
def Writes (row : DeviceRow) : RegistryCall → Prop
  | .auth call => ∃ cert, call.Presents (outside.withKeys keys) s.auth cert ∧ row = newRow cert
  | .postDevice token master cert now => Enrols farm keys s token master cert now ∧ row = newRow cert
  | .postComplete complete now =>
    Completes keys s complete now ∧ row = pairedRow s.auth.tables complete.cert
  | _ => False

-- What a call does to the certificates: it writes its one row, or nothing.
def CertsAfter (call : RegistryCall) (after : Registry) : Prop :=
  (∃ row, Writes outside farm keys s row call ∧
      after.auth.tables.subkeyCerts = s.auth.tables.subkeyCerts.put row.cert.masterPubkey
        row.cert.subkeyPubkey row) ∨
    (∀ row, ¬ Writes outside farm keys s row call) ∧
      after.auth.tables.subkeyCerts = s.auth.tables.subkeyCerts

theorem otherMaster_congr {before after : AuthState}
    (kept : after.tables.subkeyCerts = before.tables.subkeyCerts) (subkey master : String) :
    after.otherMaster subkey master = before.otherMaster subkey master := by
  simp only [AuthState.otherMaster, kept]

-- What the handler asks of a certificate once it knows the caller.
def Accepts (auth : AuthState) (user : AuthUser) (master : String) (cert : SubkeyCert) : Prop :=
  cert.masterPubkey = master ∧ cert.subkeyPubkey = user.publicKey ∧ cert.verify keys = .ok () ∧
    auth.otherMaster cert.subkeyPubkey cert.masterPubkey = false

theorem postDevice_cases (auth : AuthState) (user : AuthUser) (master : String) (cert : SubkeyCert) :
    Accepts keys auth user master cert ∧
        postDevice keys auth user master cert =
          ({ auth with tables := upsertSubkeyCert auth.tables cert }, .ok ()) ∨
      ¬ Accepts keys auth user master cert ∧ ∃ e, postDevice keys auth user master cert = (auth, .error e) := by
  by_cases accepted : Accepts keys auth user master cert
  next =>
    obtain ⟨own, mine, signed, free⟩ := id accepted
    refine .inl ⟨accepted, ?_⟩
    rw [postDevice, if_neg (not_not.mpr own), if_neg (not_not.mpr mine), signed]
    dsimp only
    rw [if_neg (by simp [free])]
  next =>
    refine .inr ⟨accepted, ?_⟩
    unfold postDevice
    split
    next => exact ⟨_, rfl⟩
    next own =>
      split
      next => exact ⟨_, rfl⟩
      next mine =>
        split
        next => exact ⟨_, rfl⟩
        next signed =>
          split
          next => exact ⟨_, rfl⟩
          next free => exact absurd ⟨not_not.mp own, not_not.mp mine, signed, by simpa using free⟩ accepted

theorem postDevice_certs (token master : String) (cert : SubkeyCert) (now : Int) :
    CertsAfter outside farm keys s (.postDevice token master cert now)
      (s.postDevice farm keys token master cert now).1 := by
  have kept := fromRequestParts_tables farm s.auth s.farm token (devicesRequest master) now
  have others := otherMaster_congr (congrArg AuthTables.subkeyCerts kept) cert.subkeyPubkey cert.masterPubkey
  cases extracted : fromRequestParts farm s.auth s.farm token (devicesRequest master) now with
  | mk seen rest =>
  obtain ⟨cache, result⟩ := rest
  rw [extracted] at kept others
  have certs : seen.tables.subkeyCerts = s.auth.tables.subkeyCerts :=
    congrArg AuthTables.subkeyCerts kept
  simp only [CertsAfter, Writes, Enrols, Registry.postDevice, extracted]
  cases result with
  | error e =>
    refine .inr ⟨?_, certs⟩
    rintro row ⟨⟨user, found, _⟩, _⟩
    cases found
  | ok user =>
    rcases postDevice_cases keys seen user master cert with ⟨accepted, same⟩ | ⟨refused, e, same⟩
    · obtain ⟨own, mine, signed, free⟩ := accepted
      rw [others] at free
      refine .inl ⟨newRow cert, ⟨⟨user, rfl, own, mine, signed, free⟩, rfl⟩, ?_⟩
      simp [same, upsertSubkeyCert, newRow, certs]
    · refine .inr ⟨?_, by simp [same, certs]⟩
      rintro row ⟨⟨holder, found, own, mine, signed, free⟩, _⟩
      cases found
      exact refused ⟨own, mine, signed, others.trans free⟩

theorem postComplete_cases (complete : PairingComplete) (now : Int) :
    Completes keys s complete now ∧
        (s.postComplete keys complete now).1.auth.tables = pairDevice s.auth.tables complete.cert ∨
      ¬ Completes keys s complete now ∧
        (s.postComplete keys complete now).1.auth.tables = s.auth.tables := by
  unfold Registry.postComplete Wavvon.postComplete
  cases signed : complete.cert.verify keys with
  | error e =>
    refine .inr ⟨?_, rfl⟩
    intro accepted
    simp [accepted.signed] at signed
  | ok _ =>
    dsimp only
    cases found : (pruneExpired s.pairingOffers now)[complete.pairingToken]? with
    | none =>
      refine .inr ⟨?_, rfl⟩
      intro accepted
      obtain ⟨offer, live, _⟩ := accepted.claimed
      simp [found] at live
    | some offer =>
      dsimp only
      cases checked : checkComplete offer complete.cert now with
      | error e =>
        refine .inr ⟨?_, rfl⟩
        intro accepted
        obtain ⟨live, here, passed⟩ := accepted.claimed
        rw [found] at here
        cases here
        simp [checked] at passed
      | ok _ => exact .inl ⟨⟨signed, offer, found, checked⟩, rfl⟩

theorem postComplete_certs (complete : PairingComplete) (now : Int) :
    CertsAfter outside farm keys s (.postComplete complete now) (s.postComplete keys complete now).1 := by
  rcases postComplete_cases keys s complete now with ⟨accepted, same⟩ | ⟨refused, same⟩
  · exact .inl ⟨_, ⟨accepted, rfl⟩, by rw [same]; rfl⟩
  · refine .inr ⟨?_, by rw [same]⟩
    rintro row ⟨accepted, _⟩
    exact refused accepted

/-- Revocations are only added, each one as presented; the other tables stay. -/
structure Stores (presented : RevocationEntry → Prop) (before after : AuthTables) : Prop where
  kept : ∀ master subkey entry, before.subkeyRevocations.get master subkey = some entry →
    after.subkeyRevocations.get master subkey = some entry
  gained : ∀ master subkey entry, after.subkeyRevocations.get master subkey = some entry →
    before.subkeyRevocations.get master subkey = some entry ∨
      presented entry ∧ entry.masterPubkey = master ∧ entry.subkeyPubkey = subkey
  certs : after.subkeyCerts = before.subkeyCerts
  sessions : after.sessions = before.sessions

section

variable {presented : RevocationEntry → Prop}

theorem Stores.refl (tables : AuthTables) : Stores presented tables tables :=
  ⟨fun _ _ _ found => found, fun _ _ _ found => .inl found, rfl, rfl⟩

theorem Stores.trans {first second third : AuthTables} (left : Stores presented first second)
    (right : Stores presented second third) : Stores presented first third where
  kept master subkey entry found := right.kept master subkey entry (left.kept master subkey entry found)
  gained master subkey entry found := by
    rcases right.gained master subkey entry found with earlier | new
    · exact left.gained master subkey entry earlier
    · exact .inr new
  certs := right.certs.trans left.certs
  sessions := right.sessions.trans left.sessions

theorem Stores.foldl {A : Type} (add : AuthTables → A → AuthTables) (items : List A)
    (each : ∀ tables, ∀ item ∈ items, Stores presented tables (add tables item)) (tables : AuthTables) :
    Stores presented tables (items.foldl add tables) := by
  induction items generalizing tables with
  | nil => exact Stores.refl tables
  | cons item rest ih =>
    have first := each tables item List.mem_cons_self
    have later := ih (fun tables item member => each tables item (List.mem_cons_of_mem _ member))
    exact first.trans (later (add tables item))

theorem insertRevocation_stores (tables : AuthTables) {entry : RevocationEntry} (shown : presented entry) :
    Stores presented tables (insertRevocation tables entry) := by
  unfold insertRevocation
  cases held : tables.subkeyRevocations.get entry.masterPubkey entry.subkeyPubkey with
  | some old => exact Stores.refl tables
  | none =>
    refine ⟨?_, ?_, rfl, rfl⟩
    · intro master subkey stored found
      dsimp only
      rw [Nested.get_put, if_neg ?_]
      · exact found
      · rintro ⟨rfl, rfl⟩
        rw [held] at found
        cases found
    · intro master subkey stored found
      dsimp only at found
      rw [Nested.get_put] at found
      split at found
      next same =>
        cases found
        exact .inr ⟨shown, same.1.symm, same.2.symm⟩
      next => exact .inl found

end

-- An entry some polled hub answers with, whoever signed it.
def Delivered (tables : AuthTables) (answers : String → Option (List RevocationEntry))
    (entry : RevocationEntry) : Prop :=
  ∃ target ∈ revocationTargets tables, ∃ entries,
    answers (revocationsUrl target.2 target.1) = some entries ∧ entry ∈ entries

def Fetched (tables : AuthTables) (answers : String → Option (List RevocationEntry))
    (entry : RevocationEntry) : Prop :=
  Delivered tables answers entry ∧ entry.verify keys = .ok ()

theorem isOk_unit {answer : Except String Unit} (passed : answer.isOk = true) : answer = .ok () := by
  cases answer with
  | ok => rfl
  | error e => simp [Except.isOk, Except.toBool] at passed

theorem syncOne_stores {listed tables : AuthTables} {answers : String → Option (List RevocationEntry)}
    {target : String × String} (polled : target ∈ revocationTargets listed) :
    Stores (Fetched keys listed answers) tables (syncOne keys answers tables target) := by
  unfold syncOne
  cases answered : answers (revocationsUrl target.2 target.1) with
  | none => exact Stores.refl tables
  | some entries =>
    refine Stores.foldl _ entries ?_ tables
    intro tables entry member
    split
    next verified =>
      exact insertRevocation_stores tables ⟨⟨target, polled, entries, answered, member⟩, isOk_unit verified⟩
    next => exact Stores.refl tables

theorem revocationTick_stores (answers : String → Option (List RevocationEntry)) (auth : AuthState) :
    Stores (Fetched keys auth.tables answers) auth.tables
      (subkeyRevocationTick keys answers auth).tables :=
  Stores.foldl _ _ (fun _ _ polled => syncOne_stores keys polled) auth.tables

/-- A revocation the hub takes: signed by a master some member is linked to. -/
def Posted (auth : AuthState) (master : String) (entry posted : RevocationEntry) : Prop :=
  posted = entry ∧ entry.masterPubkey = master ∧ entry.verify keys = .ok () ∧
    auth.masterIsKnownHere master = true

theorem postRevocation_stores (auth : AuthState) (master : String) (entry : RevocationEntry) :
    Stores (Posted keys auth master entry) auth.tables (postRevocation keys auth master entry).1.tables := by
  unfold postRevocation
  split
  next => exact Stores.refl auth.tables
  next own =>
    split
    next => exact Stores.refl auth.tables
    next signed =>
      split
      next => exact Stores.refl auth.tables
      next known =>
        exact insertRevocation_stores auth.tables ⟨rfl, not_not.mp own, signed, by simpa using known⟩

theorem Registry.next_certs (call : RegistryCall) :
    CertsAfter outside farm keys s call (s.next outside farm keys call) := by
  cases call with
  | auth call =>
    rcases AuthCall.next_devices (outside.withKeys keys) s.auth call with
      ⟨cert, presents, written⟩ | ⟨silent, same⟩
    · exact .inl ⟨newRow cert, ⟨cert, presents, rfl⟩, written⟩
    · exact .inr ⟨by rintro row ⟨cert, presents, _⟩; exact silent cert presents, same⟩
  | postDevice token master cert now => exact postDevice_certs outside farm keys s token master cert now
  | postRevocation master entry =>
    exact .inr ⟨fun _ => id, (postRevocation_stores keys s.auth master entry).certs⟩
  | revocationTick answers =>
    exact .inr ⟨fun _ => id, (revocationTick_stores keys answers s.auth).certs⟩
  | postOffer offer now => exact .inr ⟨fun _ => id, rfl⟩
  | postClaim claim now => exact .inr ⟨fun _ => id, rfl⟩
  | postComplete complete now => exact postComplete_certs outside farm keys s complete now

variable {outside farm keys s} in
theorem writes_unique {call : RegistryCall} {first second : DeviceRow}
    (writes : Writes outside farm keys s first call) (again : Writes outside farm keys s second call) :
    first = second := by
  cases call with
  | auth call =>
    obtain ⟨cert, presents, rfl⟩ := writes
    obtain ⟨other, presentsOther, rfl⟩ := again
    cases call with
    | verify req env =>
      have same := presents.1.symm.trans presentsOther.1
      cases same
      rfl
    | _ => exact presents.elim
  | postDevice token master cert now => exact writes.2.trans again.2.symm
  | postComplete complete now => exact writes.2.trans again.2.symm
  | _ => exact writes.elim

end

end Wavvon
