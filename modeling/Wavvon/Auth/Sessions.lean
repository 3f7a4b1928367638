import Wavvon.Auth.Ceremonies
import Wavvon.Shared.Runs

set_option autoImplicit false

namespace Wavvon

open Std (ExtTreeMap)

/-- Who has which private key, and whose authenticator holds which credential. -/
structure Holders (Party : Type) where
  holds : Party → String → Prop
  answers : Party → String → Prop

structure Issue (Party : Type) where
  party : Party
  row : Session
  credId : Option String
  deriving DecidableEq, Repr

structure Registration (Party : Type) where
  credId : String
  key : String
  party : Party
  deriving DecidableEq, Repr

/-- The hub with a record of who was handed which session and who registered which passkey. -/
structure World (Party : Type) where
  auth : AuthState
  issued : List (Issue Party) := []
  registered : List (Registration Party) := []

-- The session rows a call created whose token its answer carries.
def received (before after : AuthState) (token : Option String) : List Session :=
  (after.tables.sessions.drop before.tables.sessions.length).filter fun row => token = some row.token

-- A credential id that already has a row is not registered again.
def AuthCall.registers (outside : Outside) (s : AuthState) (call : AuthCall) : Option (String × String) :=
  (call.accepted outside s).bind fun entry =>
    if entry.2.credId ∈ s.tables.credentials then none else some (entry.2.credId, entry.1)

section

variable {Party : Type} (outside : Outside) (holders : Holders Party)

def World.step (world : World Party) (act : Party × AuthCall) : World Party :=
  let served := act.2.serve outside world.auth
  let credId := (act.2.asserted outside world.auth).map fun entry => entry.2.credId
  { auth := served.1
    issued := world.issued ++ (received world.auth served.1 served.2).map fun row =>
      { party := act.1, row := row, credId := credId }
    registered := world.registered ++ ((act.2.registers outside world.auth).map fun entry =>
      { credId := entry.1, key := entry.2, party := act.1 }).toList }

/--
The party controls the key, or a device certified by the master the key is linked to; a key
that is itself a master is linked to itself.
-/
def Controls (db : Db) (party : Party) (key : String) : Prop :=
  holders.holds party key ∨
    ∃ cert, outside.certVerifies cert = true ∧ holders.holds party cert.subkeyPubkey ∧
      (key = cert.masterPubkey ∨ db.masterOf key = some cert.masterPubkey)

def Enrolled (world : World Party) (credId key : String) : Prop :=
  ∃ party, { credId := credId, key := key, party := party } ∈ world.registered ∧
    Controls outside holders world.auth.db party key

def Justified (world : World Party) (issue : Issue Party) : Prop :=
  Controls outside holders world.auth.db issue.party issue.row.publicKey ∨
    ∃ credId, issue.credId = some credId ∧ holders.answers issue.party credId ∧
      Enrolled outside holders world credId issue.row.publicKey

def SpeaksForOwnKeys (world : World Party) : Prop :=
  ∀ issue ∈ world.issued, Justified outside holders world issue

/--
A verified signature comes from a holder of the key, an accepted assertion from the caller's
own authenticator.
-/
def Unforged (world : World Party) (act : Party × AuthCall) : Prop :=
  (∀ req env, act.2 = .verify req env → Signed outside world.auth req →
      holders.holds act.1 req.publicKey) ∧
    ∀ entry, act.2.asserted outside world.auth = some entry → holders.answers act.1 entry.2.credId

/-- Whoever completes a registration controls the key it was begun for. -/
def RegistersOwnKey (world : World Party) (act : Party × AuthCall) : Prop :=
  ∀ entry, act.2.accepted outside world.auth = some entry →
    Controls outside holders world.auth.db act.1 entry.1

/-- The library accepts only credentials of the list an authentication was started with. -/
def AcceptsListed : Prop :=
  ∀ passkeys seed state credential result, outside.startAuthentication passkeys seed = .ok state →
    outside.finishAuthentication credential state = .ok result →
      ∃ passkey ∈ passkeys, passkey.credId = result.credId

structure PasskeysOwned (world : World Party) : Prop where
  speaks : SpeaksForOwnKeys outside holders world
  stored : ∀ (id : String) (row : PasskeyRow), world.auth.tables.credentials[id]? = some row →
    row.passkey.credId = id ∧ Enrolled outside holders world id row.userPubkey
  pending : ∀ (sessionId : String) (challenge : AuthChallenge),
    world.auth.authChallenges[sessionId]? = some challenge →
      (∃ seed, outside.startAuthentication challenge.passkeys seed = .ok challenge.state) ∧
        ∀ passkey ∈ challenge.passkeys, Enrolled outside holders world passkey.credId challenge.userPubkey

end

section

variable {Party : Type} {outside : Outside} {holders : Holders Party}

theorem Controls.mono {before after : Db} (kept : MastersKept before after) {party : Party} {key : String}
    (controls : Controls outside holders before party key) : Controls outside holders after party key := by
  rcases controls with own | ⟨cert, verified, device, master | linked⟩
  · exact .inl own
  · exact .inr ⟨cert, verified, device, .inl master⟩
  · exact .inr ⟨cert, verified, device, .inr (kept key _ linked)⟩

theorem Enrolled.step {world : World Party} {credId key : String} (act : Party × AuthCall)
    (enrolled : Enrolled outside holders world credId key) :
    Enrolled outside holders (world.step outside act) credId key := by
  obtain ⟨party, member, controls⟩ := enrolled
  exact ⟨party, List.mem_append_left _ member, controls.mono (AuthCall.serve_effect act.2).masters⟩

theorem Justified.step {world : World Party} {issue : Issue Party} (act : Party × AuthCall)
    (justified : Justified outside holders world issue) :
    Justified outside holders (world.step outside act) issue := by
  rcases justified with controls | ⟨credId, through, answers, enrolled⟩
  · exact .inl (controls.mono (AuthCall.serve_effect act.2).masters)
  · exact .inr ⟨credId, through, answers, enrolled.step act⟩

theorem received_of_append {before after : AuthState} {rows : List Session} (token : Option String)
    (added : after.tables.sessions = before.tables.sessions ++ rows) :
    received before after token = rows.filter fun row => token = some row.token := by
  simp [received, added]

theorem controls_of_signed {s : AuthState} {party : Party} {req : VerifyRequest} {canonical : String}
    {now : Int} {master : Option String} (own : holders.holds party req.publicKey)
    (resolved : resolveCanonicalIdentity outside s req.publicKey req.subkeyCert now =
      .ok (canonical, master)) : Controls outside holders s.db party canonical := by
  rcases resolveCanonicalIdentity_cases resolved with rfl | ⟨cert, verified, device, linked⟩
  · exact .inl own
  · exact .inr ⟨cert, verified, device ▸ own, linked⟩

theorem PasskeysOwned.asserted {world : World Party} (lists : AcceptsListed outside)
    (owned : PasskeysOwned outside holders world) {call : AuthCall}
    {challenge : AuthChallenge} {result : AuthResult}
    (took : call.asserted outside world.auth = some (challenge, result)) :
    Enrolled outside holders world result.credId challenge.userPubkey := by
  obtain ⟨body, env, rfl, pending, finished⟩ := AuthCall.asserted_iff.mp took
  obtain ⟨⟨seed, started⟩, enrolled⟩ := owned.pending _ _ pending
  obtain ⟨passkey, listed, same⟩ := lists _ _ _ _ _ started finished
  rw [← same]
  exact enrolled passkey listed

-- The row a call opens is its caller's to have.
theorem opens_justified {world : World Party} (lists : AcceptsListed outside)
    (owned : PasskeysOwned outside holders world) {act : Party × AuthCall} {row : Session}
    (unforged : Unforged outside holders world act) (rightful : RegistersOwnKey outside holders world act)
    (opens : act.2.Opens outside world.auth row) :
    Justified outside holders world
      { party := act.1, row := row
        credId := (act.2.asserted outside world.auth).map fun entry => entry.2.credId } := by
  obtain ⟨req, env, master, called, signed, resolved⟩ | ⟨passkey, took⟩ |
    ⟨challenge, result, took, own⟩ := opens
  · exact .inl (controls_of_signed (unforged.1 req env called signed) resolved)
  · exact .inl (rightful _ took)
  · refine .inr ⟨result.credId, by simp [took], unforged.2 _ took, ?_⟩
    exact own ▸ owned.asserted lists took

theorem registers_of_accepted {s : AuthState} {call : AuthCall} {id key : String} {passkey : Passkey}
    (absent : s.tables.credentials[id]? = none) (own : passkey.credId = id)
    (took : call.accepted outside s = some (key, passkey)) : call.registers outside s = some (id, key) := by
  have unknown : id ∉ s.tables.credentials := by
    simp [ExtTreeMap.mem_iff_isSome_getElem?, absent]
  simp [AuthCall.registers, took, unknown, own]

theorem PasskeysOwned.step {world : World Party} (lists : AcceptsListed outside)
    (owned : PasskeysOwned outside holders world) (act : Party × AuthCall)
    (unforged : Unforged outside holders world act) (rightful : RegistersOwnKey outside holders world act) :
    PasskeysOwned outside holders (world.step outside act) := by
  have effect : AuthCall.Effect outside world.auth act.2 _ := AuthCall.serve_effect act.2
  refine ⟨?_, ?_, ?_⟩
  · intro issue member
    rcases List.mem_append.mp member with old | new
    · exact (owned.speaks issue old).step act
    · obtain ⟨rows, added, opens⟩ := effect.sessions
      obtain ⟨row, received, rfl⟩ := List.mem_map.mp new
      rw [received_of_append _ added] at received
      have opened := opens row (List.mem_of_mem_filter received)
      exact (opens_justified lists owned unforged rightful opened).step act
  · intro id row stored
    obtain kept | ⟨named, ⟨old, kept, same⟩ | ⟨absent, passkey, own, took⟩⟩ :=
      effect.credentials id row stored
    · obtain ⟨named, enrolled⟩ := owned.stored id row kept
      exact ⟨named, enrolled.step act⟩
    · exact ⟨named, same ▸ (owned.stored id old kept).2.step act⟩
    · refine ⟨named, act.1, List.mem_append_right _ ?_, (rightful _ took).mono effect.masters⟩
      simp [registers_of_accepted absent own took]
  · intro sessionId challenge pending
    rcases effect.pending sessionId challenge pending with kept | ⟨started, listed⟩
    · obtain ⟨started, enrolled⟩ := owned.pending sessionId challenge kept
      exact ⟨started, fun passkey member => (enrolled passkey member).step act⟩
    · refine ⟨started, fun passkey member => ?_⟩
      obtain ⟨id, row, stored, rfl, own⟩ := listed passkey member
      obtain ⟨named, enrolled⟩ := owned.stored id row stored
      rw [named, ← own]
      exact enrolled.step act

-- An accepted registration opens a session for the key it was begun for, whoever completes it.
theorem accepted_issues {world : World Party} {act : Party × AuthCall} {key : String} {passkey : Passkey}
    (took : act.2.accepted outside world.auth = some (key, passkey)) :
    (∀ other, (world.step outside act).auth.db.masterOf other = world.auth.db.masterOf other) ∧
      ∃ row : Session, row.publicKey = key ∧
        { party := act.1, row := row, credId := none } ∈ (world.step outside act).issued := by
  obtain ⟨party, call⟩ := act
  obtain ⟨body, env, challenge, rfl, found, finished, rfl⟩ := AuthCall.accepted_iff.mp took
  constructor
  · intro other
    simp only [World.step, AuthCall.serve, registerFinish, found, finished]
    exact issueSessionToken_masterOf _ _ env other
  · refine ⟨{ token := env.fresh, publicKey := challenge.userPubkey, createdAt := env.now }, rfl, ?_⟩
    refine List.mem_append_right _ ?_
    simp [AuthCall.serve, registerFinish, found, finished, received, AuthCall.asserted, storeCredential,
      issueSessionToken, insertSession, Except.toOption]

theorem speaks_breaks {world : World Party} (act : Party × AuthCall)
    (wrongful : ¬ RegistersOwnKey outside holders world act) :
    ¬ SpeaksForOwnKeys outside holders (world.step outside act) := by
  intro speaks
  apply wrongful
  rintro ⟨key, passkey⟩ took
  obtain ⟨same, row, rfl, member⟩ := accepted_issues took
  rcases speaks _ member with controls | ⟨credId, through, _⟩
  · simpa only [Controls, same] using controls
  · cases through

/--
Every session goes to a party its key's holder would recognise exactly in the runs where each
completed registration is the work of a party that controls the key it was begun for.
-/
theorem speaksForOwnKeys_iff (lists : AcceptsListed outside) (s : AuthState)
    (noPasskeys : s.tables.credentials = ∅) (noCeremonies : s.authChallenges = ∅)
    (acts : List (Party × AuthCall))
    (unforged : Runs.Meets (World.step outside) (Unforged outside holders) { auth := s } acts) :
    (∀ front, front <+: acts →
        SpeaksForOwnKeys outside holders (Runs.run (World.step outside) { auth := s } front)) ↔
      Runs.Meets (World.step outside) (RegistersOwnKey outside holders) { auth := s } acts := by
  refine Runs.always_iff_meets_within (PasskeysOwned outside holders) _ (fun _ owned => owned.speaks)
    (fun world act owned allowed met => owned.step lists act allowed met)
    (fun world act _ _ unmet => speaks_breaks act unmet) ?_ acts unforged
  exact ⟨by simp [SpeaksForOwnKeys], by simp [noPasskeys], by simp [noCeremonies]⟩

end

-- One authenticator, whose answer is its credential id followed by the challenge; a signature is
-- the challenge followed by the start of the key, and nobody has certified a device.
def softAuthenticator : Outside where
  verifyAuthChallenge key challenge signature :=
    decide (signature = challenge ++ (Wire.strBytes key).take 2)
  certVerifies _ := false
  sha256 _ := Vector.replicate 32 0
  certSatisfied _ _ := true
  verifyGrant _ _ := .error (403, "Unknown grant")
  startRegistration userPubkey _ _ seed := .ok (userPubkey ++ seed)
  finishRegistration credential state :=
    if credential = "c0" ++ state then .ok { credId := "c0", data := "" } else .error "mismatch"
  startAuthentication passkeys seed :=
    if passkeys.any (·.credId = "c0") then .ok seed else .error "no credential"
  finishAuthentication credential state :=
    if credential = "c0" ++ state then .ok { credId := "c0", data := "" } else .error "mismatch"
  updateCredential data _ := data

-- Every party holds the key it is named after, and one of them has the authenticator.
def namedAfterKeys (authenticator : String) : Holders String where
  holds party key := party = key
  answers party _ := party = authenticator

def ownerKey : String := "0b1e2d3c4f5a69788796a5b4c3d2e1f00f1e2d3c4b5a69788796a5b4c3d2e1f0"

def ownedHub : AuthState :=
  { db :=
      { users := (∅ : Table User).insert ownerKey { isMember := true }
        userRoles := {(ownerKey, BUILTIN_OWNER_ROLE_ID)} } }

theorem softAuthenticator_lists : AcceptsListed softAuthenticator := by
  intro passkeys seed state credential result started finished
  simp only [softAuthenticator, List.any_eq_true, decide_eq_true_eq] at started finished
  split at started
  next known =>
    split at finished
    · cases finished
      exact known
    · cases finished
  next => cases started

def signInRun : List (String × AuthCall) :=
  [ (ownerKey, .challenge ownerKey [7] 0),
    (ownerKey, .verify { publicKey := ownerKey, challenge := "07", signature := "073062" }
      { now := 1, instant := 1, token := "first" }),
    (ownerKey, .registerBegin { userPubkey := ownerKey } { now := 2, fresh := "enrol", seed := "71" }),
    (ownerKey, .registerFinish { sessionId := "enrol", credential := "c0" ++ ownerKey ++ "71" }
      { now := 3, fresh := "second" }),
    (ownerKey, .assertBegin ownerKey { now := 4, fresh := "login", seed := "72" }),
    (ownerKey, .assertFinish { sessionId := "login", credential := "c072" } { now := 5, fresh := "third" }) ]

theorem speaksForOwnKeys_iff_owner :
    SpeaksForOwnKeys softAuthenticator (namedAfterKeys ownerKey)
        (Runs.run (World.step softAuthenticator) { auth := ownedHub } signInRun) ∧
      (Runs.run (World.step softAuthenticator) { auth := ownedHub } signInRun).issued.length = 3 := by
  have unforged : Runs.Meets (World.step softAuthenticator)
      (Unforged softAuthenticator (namedAfterKeys ownerKey)) { auth := ownedHub } signInRun := by
    refine ⟨?_, ?_, ?_, ?_, ?_, ?_, trivial⟩ <;>
      exact ⟨fun _ _ called _ => by cases called <;> rfl, fun _ _ => rfl⟩
  have rightful : Runs.Meets (World.step softAuthenticator)
      (RegistersOwnKey softAuthenticator (namedAfterKeys ownerKey)) { auth := ownedHub } signInRun := by
    have own : ((AuthCall.registerFinish { sessionId := "enrol", credential := "c0" ++ ownerKey ++ "71" }
        { now := 3, fresh := "second" }).accepted softAuthenticator
          (Runs.run (World.step softAuthenticator) { auth := ownedHub } (signInRun.take 3)).auth).all
        (·.1 = ownerKey) = true := by
      decide
    refine ⟨nofun, nofun, nofun, fun entry took => .inl ?_, nofun, nofun, trivial⟩
    have named : entry.1 = ownerKey := by
      simpa using (Option.all_eq_true _ _).mp own entry took
    exact named.symm
  refine ⟨?_, by decide⟩
  exact (speaksForOwnKeys_iff softAuthenticator_lists ownedHub rfl rfl signInRun unforged).mpr rightful
    signInRun List.prefix_rfl

def namedOwnerRun : List (String × AuthCall) :=
  [ ("mallory", .registerBegin { userPubkey := ownerKey } { now := 1, fresh := "enrol", seed := "71" }),
    ("mallory", .registerFinish { sessionId := "enrol", credential := "c0" ++ ownerKey ++ "71" }
      { now := 2, fresh := "token" }) ]

theorem speaksForOwnKeys_named_owner :
    AcceptsListed softAuthenticator ∧
      Runs.Meets (World.step softAuthenticator)
        (Unforged softAuthenticator (namedAfterKeys "mallory")) { auth := ownedHub } namedOwnerRun ∧
      ¬ SpeaksForOwnKeys softAuthenticator (namedAfterKeys "mallory")
        (Runs.run (World.step softAuthenticator) { auth := ownedHub } namedOwnerRun) := by
  refine ⟨softAuthenticator_lists, ?_, ?_⟩
  · refine ⟨?_, ?_, trivial⟩ <;> exact ⟨fun _ _ called _ => (by cases called), fun _ _ => rfl⟩
  · intro speaks
    let session : Session := { token := "token", publicKey := ownerKey, createdAt := 2 }
    have handed : { party := "mallory", row := session, credId := none } ∈
        (Runs.run (World.step softAuthenticator) { auth := ownedHub } namedOwnerRun).issued := by
      decide
    rcases speaks _ handed with (own | ⟨cert, verified, _⟩) | ⟨credId, through, _⟩
    · exact (by decide : "mallory" ≠ ownerKey) own
    · cases verified
    · cases through

end Wavvon
