import Wavvon.Moderation.Seating

set_option autoImplicit false

namespace Wavvon

open Std (ExtTreeMap)

-- Two texts the decoder takes for the same key.
def SameKey (first second : String) : Prop :=
  ∃ bytes, bytes.length = 32 ∧ hexDecode first = some bytes ∧ hexDecode second = some bytes

namespace AuthState

def Shut (s : AuthState) (key : String) (now : Int) : Prop :=
  s.isBanned key now = true ∨ s.isDeniedByFederatedPolicy key = true ∨ s.isRevoked key = true

-- The tables a sign-in looks its keys up in; a local ban names a row of `users`.
def Holds (s : AuthState) (key : String) : Prop :=
  key ∈ s.db.users ∨ (∃ ban ∈ s.tables.federatedBans, ban.1 = key) ∨ key ∈ s.tables.banOverrides ∨
    s.isRevoked key = true

def OnlySpelling (s : AuthState) (key : String) : Prop :=
  ∀ other, s.Holds other → SameKey other key → other = key

-- Where a certificate leads: the row that carries its master, the device's own row, or the master.
def identityOf (s : AuthState) (publicKey : String) (cert : Option SubkeyCert) : String :=
  match cert with
  | none => publicKey
  | some cert =>
    match s.db.users.toList.find? fun row => row.2.masterPubkey = some cert.masterPubkey with
    | some row => row.1
    | none => if s.db.users[publicKey]?.any (·.masterPubkey.isNone) then publicKey else cert.masterPubkey

/-- Each key has at most one row, and only rows are banned. -/
structure OneRowEach (s : AuthState) : Prop where
  unique : ∀ first second, first ∈ s.db.users → second ∈ s.db.users → SameKey first second →
    first = second
  banned : ∀ ban ∈ s.tables.bans, ban.1 ∈ s.db.users

/-- A sign-in that writes its keys as the hub does, and is looked up under the key that signed. -/
structure Faithful (s : AuthState) (req : VerifyRequest) (now : Int) : Prop where
  signer : s.OnlySpelling req.publicKey
  master : ∀ cert, req.subkeyCert = some cert → s.OnlySpelling cert.masterPubkey
  ownRow : s.isBanned req.publicKey now = true → s.identityOf req.publicKey req.subkeyCert = req.publicKey
  ownMaster : s.isDeniedByFederatedPolicy req.publicKey = true → ∀ cert, req.subkeyCert = some cert →
    s.isDeniedByFederatedPolicy cert.masterPubkey = true
  visits : req.allianceVoiceGrant.isSome = true →
    (s.isDeniedByFederatedPolicy req.publicKey = true ∨ ∃ cert, req.subkeyCert = some cert ∧
      s.isDeniedByFederatedPolicy cert.masterPubkey = true) →
    s.identityOf req.publicKey req.subkeyCert ∈ s.db.users

end AuthState

section

variable {outside : Outside} {s : AuthState} {req : VerifyRequest} {env : VerifyEnv}

theorem identityOf_linked {publicKey : String} {cert : SubkeyCert} {row : String × User}
    (found : s.db.users.toList.find? (fun row => row.2.masterPubkey = some cert.masterPubkey) = some row) :
    s.identityOf publicKey (some cert) = row.1 := by
  simp only [AuthState.identityOf, found]

theorem identityOf_unlinked {publicKey : String} {cert : SubkeyCert}
    (absent : s.db.users.toList.find? (fun row => row.2.masterPubkey = some cert.masterPubkey) = none) :
    s.identityOf publicKey (some cert) =
      if s.db.users[publicKey]?.any (·.masterPubkey.isNone) then publicKey else cert.masterPubkey := by
  simp only [AuthState.identityOf, absent]

theorem resolved_identity {publicKey canonical : String} {cert : Option SubkeyCert} {now : Int}
    {master : Option String}
    (resolved : resolveCanonicalIdentity outside s publicKey cert now = .ok (canonical, master)) :
    canonical = s.identityOf publicKey cert ∧ master = cert.map (·.masterPubkey) ∧
      s.isRevoked publicKey = false := by
  unfold resolveCanonicalIdentity at resolved
  split at resolved
  next => cases resolved
  next fresh =>
    have fresh : s.isRevoked publicKey = false := by simpa using fresh
    split at resolved
    next =>
      cases resolved
      exact ⟨rfl, rfl, fresh⟩
    next cert =>
      iterate 3
        split at resolved
        next => cases resolved
      dsimp only at resolved
      split at resolved
      next row found =>
        cases resolved
        exact ⟨(identityOf_linked found).symm, rfl, fresh⟩
      next absent =>
        rw [identityOf_unlinked absent]
        split at resolved
        next legacy =>
          cases resolved
          exact ⟨(if_pos legacy).symm, rfl, fresh⟩
        next new =>
          cases resolved
          exact ⟨(if_neg new).symm, rfl, fresh⟩

theorem gates_clear {canonical : String} {master : Option String} {now : Int} {claimed : Nat}
    (gates : admissionGates outside s req canonical master now = .ok claimed) :
    s.isBanned canonical now = false ∧ s.isDeniedByFederatedPolicy (master.getD canonical) = false := by
  unfold admissionGates at gates
  split at gates
  next => cases gates
  next unbanned =>
    split at gates
    next => cases gates
    next allowed => exact ⟨by simpa using unbanned, by simpa using allowed⟩

theorem holds_of_denied {key : String} (denied : s.isDeniedByFederatedPolicy key = true) : s.Holds key := by
  by_cases overridden : key ∈ s.tables.banOverrides
  next => exact .inr (.inr (.inl overridden))
  next =>
    unfold AuthState.isDeniedByFederatedPolicy at denied
    rw [ExtTreeMap.getElem?_eq_none overridden] at denied
    simp only [Bool.or_eq_true, List.any_eq_true] at denied
    rcases denied with ⟨ban, listed, _⟩ | ⟨ban, listed, _⟩
    all_goals
      have named := List.mem_filter.mp listed
      exact .inr (.inl ⟨ban, named.1, by simpa using named.2⟩)

theorem known_of_banned (rows : s.OneRowEach) {key : String} {now : Int}
    (banned : s.isBanned key now = true) : key ∈ s.db.users := by
  obtain ⟨ban, listed, named⟩ := List.any_eq_true.mp banned
  have named : ban.1 = key := (by simpa using named : ban.1 = key ∧ _).1
  exact named ▸ rows.banned ban listed

theorem holds_of_shut (rows : s.OneRowEach) {key : String} {now : Int} (shut : s.Shut key now) :
    s.Holds key := by
  rcases shut with banned | denied | revoked
  · exact .inl (known_of_banned rows banned)
  · exact holds_of_denied denied
  · exact .inr (.inr (.inr revoked))

/-- Neither the key that signed nor the master it presents is shut out. -/
structure LetIn (s : AuthState) (req : VerifyRequest) (now : Int) : Prop where
  signer : ¬ s.Shut req.publicKey now
  master : ∀ cert, req.subkeyCert = some cert → s.isDeniedByFederatedPolicy cert.masterPubkey = false

theorem visits_letIn (rows : s.OneRowEach) (faithful : s.Faithful req env.now) {canonical : String}
    {visitor : VoiceVisitor} (visits : Visits outside s req env canonical visitor) :
    LetIn s req env.now := by
  obtain ⟨grant, granted, unknown, _⟩ := visits.granted
  obtain ⟨master, resolved⟩ := visits.resolved
  obtain ⟨rfl, _, unrevoked⟩ := resolved_identity resolved
  constructor
  · rintro (banned | denied | revoked)
    · rw [faithful.ownRow banned] at unknown
      exact unknown (known_of_banned rows banned)
    · exact unknown (faithful.visits (by simp [granted]) (.inl denied))
    · simp [unrevoked] at revoked
  · intro cert presented
    by_contra denied
    have denied := Bool.eq_true_of_not_eq_false denied
    exact unknown (faithful.visits (by simp [granted]) (.inr ⟨cert, presented, denied⟩))

theorem seats_letIn (faithful : s.Faithful req env.now) {canonical : String} {master : Option String}
    {claimed : Nat} (seats : Seats outside s req env canonical master claimed) :
    LetIn s req env.now := by
  obtain ⟨rfl, rfl, unrevoked⟩ := resolved_identity seats.resolved
  obtain ⟨unbanned, allowed⟩ := gates_clear seats.gates
  have allowedMaster : ∀ cert, req.subkeyCert = some cert →
      s.isDeniedByFederatedPolicy cert.masterPubkey = false := by
    intro cert presented
    simpa [presented] using allowed
  refine ⟨?_, allowedMaster⟩
  rintro (banned | denied | revoked)
  · rw [faithful.ownRow banned] at unbanned
    simp [unbanned] at banned
  · cases presented : req.subkeyCert with
    | none =>
      simp only [presented, Option.map_none, Option.getD_none, AuthState.identityOf] at allowed
      simp [allowed] at denied
    | some cert =>
      have listed := faithful.ownMaster denied cert presented
      simp [allowedMaster cert presented] at listed
  · simp [unrevoked] at revoked

theorem visits_signed {canonical : String} {visitor : VoiceVisitor}
    (visits : Visits outside s req env canonical visitor) : Signed outside s req := by
  obtain ⟨pending, found, passed⟩ := visits.proved
  exact checkChallenge_signed found passed

theorem seats_signed {canonical : String} {master : Option String} {claimed : Nat}
    (seats : Seats outside s req env canonical master claimed) : Signed outside s req := by
  obtain ⟨pending, found, passed⟩ := seats.proved
  exact checkChallenge_signed found passed

theorem answered_letIn (rows : s.OneRowEach) (faithful : Signed outside s req → s.Faithful req env.now) :
    (∃ e, (verify outside s req env).2 = .error e) ∨ s.Faithful req env.now ∧ LetIn s req env.now := by
  rcases verify_cases outside s req env with ⟨e, refused | refused⟩ | ⟨canonical, visitor, visits, _⟩ |
    ⟨canonical, master, claimed, seats⟩
  · exact .inl ⟨e, by rw [refused]⟩
  · exact .inl ⟨e, by rw [refused]⟩
  · have faithful := faithful (visits_signed visits)
    exact .inr ⟨faithful, visits_letIn rows faithful visits⟩
  · have faithful := faithful (seats_signed seats)
    exact .inr ⟨faithful, seats_letIn faithful seats⟩

-- Whatever spelling the ban or the revocation stands under, the request is refused.
theorem verify_shut (rows : s.OneRowEach) (faithful : Signed outside s req → s.Faithful req env.now)
    {key : String} (same : SameKey key req.publicKey) (shut : s.Shut key env.now) :
    ∃ e, (verify outside s req env).2 = .error e := by
  rcases answered_letIn rows faithful with refused | ⟨faithful, letIn⟩
  · exact refused
  · have spelt := faithful.signer key (holds_of_shut rows shut) same
    exact absurd (spelt ▸ shut) letIn.signer

theorem verify_deniedMaster (rows : s.OneRowEach)
    (faithful : Signed outside s req → s.Faithful req env.now) {key : String} {cert : SubkeyCert}
    (presented : req.subkeyCert = some cert) (same : SameKey key cert.masterPubkey)
    (denied : s.isDeniedByFederatedPolicy key = true) :
    ∃ e, (verify outside s req env).2 = .error e := by
  rcases answered_letIn rows faithful with refused | ⟨faithful, letIn⟩
  · exact refused
  · have spelt := faithful.master cert presented key (holds_of_denied denied) same
    rw [spelt, letIn.master cert presented] at denied
    cases denied

theorem identityOf_cases (s : AuthState) (publicKey : String) (cert : Option SubkeyCert) :
    s.identityOf publicKey cert ∈ s.db.users ∨ s.identityOf publicKey cert = publicKey ∨
      ∃ shown, cert = some shown ∧ s.identityOf publicKey cert = shown.masterPubkey := by
  cases cert with
  | none => exact .inr (.inl rfl)
  | some shown =>
    cases found : s.db.users.toList.find? fun row => row.2.masterPubkey = some shown.masterPubkey with
    | some row =>
      have listed := List.mem_of_find?_eq_some found
      rw [identityOf_linked found]
      exact .inl (ExtTreeMap.mem_iff_isSome_getElem?.mpr
        (by simp [ExtTreeMap.mem_toList_iff_getElem?_eq_some.mp listed]))
    | none =>
      rw [identityOf_unlinked found]
      split
      · exact .inr (.inl rfl)
      · exact .inr (.inr ⟨shown, rfl, rfl⟩)

end

theorem SameKey.symm {first second : String} (same : SameKey first second) : SameKey second first := by
  obtain ⟨bytes, long, left, right⟩ := same
  exact ⟨bytes, long, right, left⟩

-- New rows under the only spelling in use leave one row for each key.
theorem Seating.oneRowEach {new : String → Prop} {before after : AuthState} (seating : Seating new before after)
    (rows : before.OneRowEach) (one : ∀ first second, new first → new second → first = second)
    (spelt : ∀ key, new key → key ∈ before.db.users ∨ before.OnlySpelling key) : after.OneRowEach where
  unique first second firstSeated secondSeated same := by
    rcases seating.gained first firstSeated with left | left <;>
      rcases seating.gained second secondSeated with right | right
    · exact rows.unique first second left right same
    · rcases spelt second right with old | only
      · exact rows.unique first second left old same
      · exact only first (.inl left) same
    · rcases spelt first left with old | only
      · exact rows.unique first second old right same
      · exact (only second (.inl right) same.symm).symm
    · exact one first second left right
  banned ban listed := seating.kept _ (rows.banned ban (seating.bans ▸ listed))

theorem signsIn_unique {outside : Outside} {s : AuthState} {call : AuthCall} {first second : String}
    (left : call.SignsIn outside s first) (right : call.SignsIn outside s second) : first = second := by
  cases call with
  | verify req env =>
    obtain ⟨master, claimed, seats⟩ := left
    obtain ⟨other, level, again⟩ := right
    rw [(resolved_identity seats.resolved).1, (resolved_identity again.resolved).1]
  | registerFinish body env =>
    simp only [AuthCall.SignsIn, AuthCall.asserted] at left right
    grind
  | assertFinish body env =>
    simp only [AuthCall.SignsIn, AuthCall.accepted] at left right
    grind
  | _ => simp [AuthCall.SignsIn, AuthCall.accepted, AuthCall.asserted] at left

section

variable (outside : Outside) (farm : FarmOutside) (keys : Keys)

-- A call that can add a row, or is signed by a key, writes that key as the hub already does.
def KeepsSpelling (s : Registry) : ModerationCall → Prop
  | .registry (.auth (.verify req env)) =>
    Signed (outside.withKeys keys) s.auth req → s.auth.Faithful req env.now
  | .registry call => ∀ key, call.Seats outside farm keys s key → s.auth.OnlySpelling key
  | .banUser token _ _ now => ∀ key, FarmSeats farm s.farm token now key → s.auth.OnlySpelling key
  | .syncOneSource _ _ => True

/-- One key is one identity in every state of the run, and stays shut out however it is spelled. -/
structure OneIdentity (s : Registry) (calls : List ModerationCall) : Prop where
  unique : ∀ front, front <+: calls → ∀ first second,
    first ∈ (Runs.run (ModerationCall.next outside farm keys) s front).auth.db.users →
      second ∈ (Runs.run (ModerationCall.next outside farm keys) s front).auth.db.users →
      SameKey first second → first = second
  refused : ∀ front req env, front ++ [.registry (.auth (.verify req env))] <+: calls → ∀ key,
    SameKey key req.publicKey →
      (Runs.run (ModerationCall.next outside farm keys) s front).auth.Shut key env.now →
      ∃ e, (verify (outside.withKeys keys) (Runs.run (ModerationCall.next outside farm keys) s front).auth
        req env).2 = .error e
  masterRefused : ∀ front req env, front ++ [.registry (.auth (.verify req env))] <+: calls →
    ∀ key cert, req.subkeyCert = some cert → SameKey key cert.masterPubkey →
      (Runs.run (ModerationCall.next outside farm keys) s front).auth.isDeniedByFederatedPolicy key = true →
      ∃ e, (verify (outside.withKeys keys) (Runs.run (ModerationCall.next outside farm keys) s front).auth
        req env).2 = .error e

variable {outside farm keys} {s : Registry}

theorem seats_unique {call : RegistryCall} {first second : String}
    (left : call.Seats outside farm keys s first) (right : call.Seats outside farm keys s second) :
    first = second := by
  cases call with
  | auth call => exact signsIn_unique left right
  | postDevice token master cert now =>
    have same := Eq.trans (Eq.symm left) right
    cases same
    rfl
  | _ => exact left.elim

-- A sign-in seats the key that signed, the master it presents, or a row that is there.
theorem verify_spelt {req : VerifyRequest} {env : VerifyEnv} {key : String}
    (faithful : Signed (outside.withKeys keys) s.auth req → s.auth.Faithful req env.now)
    (signsIn : (AuthCall.verify req env).SignsIn (outside.withKeys keys) s.auth key) :
    key ∈ s.auth.db.users ∨ s.auth.OnlySpelling key := by
  obtain ⟨master, claimed, seats⟩ := signsIn
  have faithful := faithful (seats_signed seats)
  obtain ⟨rfl, _⟩ := resolved_identity seats.resolved
  rcases identityOf_cases s.auth req.publicKey req.subkeyCert with known | own | ⟨cert, presented, own⟩
  · exact .inl known
  · rw [own]
    exact .inr faithful.signer
  · rw [own]
    exact .inr (faithful.master cert presented)

theorem registry_oneRowEach {call : RegistryCall} (rows : s.auth.OneRowEach)
    (met : KeepsSpelling outside farm keys s (.registry call)) :
    (s.next outside farm keys call).auth.OneRowEach := by
  refine (Registry.next_seating outside farm keys s call).oneRowEach rows
    (fun _ _ left right => seats_unique left right) ?_
  intro key seated
  cases call with
  | auth call =>
    cases call with
    | verify req env => exact verify_spelt met seated
    | _ => exact .inr (met key seated)
  | _ => exact .inr (met key seated)

theorem storeBan_oneRowEach {auth : AuthState} (rows : auth.OneRowEach) {target : String}
    (known : target ∈ auth.db.users) (expiresAt : Option Int) (sighting : Option String) (now : Int) :
    (storeBan auth target expiresAt sighting now).OneRowEach where
  unique first second left right :=
    rows.unique first second (ExtTreeMap.mem_modify.mp left) (ExtTreeMap.mem_modify.mp right)
  banned ban listed := by
    apply ExtTreeMap.mem_modify.mpr
    rcases List.mem_append.mp listed with old | new
    · exact rows.banned ban (List.mem_of_mem_filter old)
    · obtain rfl := List.mem_singleton.mp new
      exact known

theorem banUser_oneRowEach {token : String} {req : BanRequest} {sighting : Option String} {now : Int}
    (rows : s.auth.OneRowEach) (met : KeepsSpelling outside farm keys s (.banUser token req sighting now)) :
    (s.banUser farm token req sighting now).1.auth.OneRowEach := by
  have extracted := (fromRequestParts_seating farm s.farm token now s.auth bansRequest).oneRowEach rows
    (fun first second left right => by
      have same := Eq.trans (Eq.symm left) right
      cases same
      rfl)
    (fun key seated => .inr (met key seated))
  unfold Registry.banUser
  split
  next seen cache e same =>
    rw [same] at extracted
    exact extracted
  next seen cache user same =>
    rw [same] at extracted
    rcases banUser_cases seen user req sighting now with ⟨e, refused⟩ | ⟨known, stored⟩
    · rw [refused]
      exact extracted
    · rw [stored]
      exact storeBan_oneRowEach extracted known _ _ _

theorem syncOneSource_bans (tables : AuthTables) (url : String) (answer : Option BanlistAnswer) :
    (syncOneSource keys tables url answer).bans = tables.bans := by
  unfold syncOneSource
  split
  · rfl
  · dsimp only
    split <;> rfl

theorem next_oneRowEach {call : ModerationCall} (rows : s.auth.OneRowEach)
    (met : KeepsSpelling outside farm keys s call) :
    (ModerationCall.next outside farm keys s call).auth.OneRowEach := by
  cases call with
  | registry call => exact registry_oneRowEach rows met
  | banUser token req sighting now => exact banUser_oneRowEach rows met
  | syncOneSource url answer =>
    refine ⟨rows.unique, ?_⟩
    intro ban listed
    exact rows.banned ban (syncOneSource_bans s.auth.tables url answer ▸ listed)

end

theorem oneIdentity_run (outside : Outside) (farm : FarmOutside) (keys : Keys) (s : Registry)
    (start : s.auth.OneRowEach) (calls : List ModerationCall)
    (met : Runs.Meets (ModerationCall.next outside farm keys) (KeepsSpelling outside farm keys) s calls) :
    OneIdentity outside farm keys s calls := by
  have rows : ∀ front, front <+: calls →
      (Runs.run (ModerationCall.next outside farm keys) s front).auth.OneRowEach := by
    rintro front ⟨rest, rfl⟩
    refine (Runs.Meets.append.mp met).1.invariant (fun s : Registry => s.auth.OneRowEach) ?_ start
    intro s call rows met
    exact next_oneRowEach rows met
  have signed : ∀ front req env, front ++ [.registry (.auth (.verify req env))] <+: calls → _ :=
    fun front req env inside => Runs.meets_iff.mp met front _ inside
  constructor
  · intro front inside
    exact (rows front inside).unique
  · intro front req env inside key same shut
    have before := (List.prefix_append front _).trans inside
    exact verify_shut (rows front before) (signed front req env inside) same shut
  · intro front req env inside key cert presented same denied
    have before := (List.prefix_append front _).trans inside
    exact verify_deniedMaster (rows front before) (signed front req env inside) presented same denied

-- An owner with a session, and a member who is not welcome any more.
def moderatedHub (bans : List (String × Option Int)) : Registry :=
  { auth :=
      { db :=
          { users := ((∅ : Table User).insert (namedKey 1) { isMember := true }).insert
              (namedKey 0xab) { isMember := true }
            roles := (∅ : Table Role).insert BUILTIN_OWNER_ROLE_ID { name := "Owner", priority := 1000 }
            userRoles := {(namedKey 1, BUILTIN_OWNER_ROLE_ID)} }
        tables :=
          { sessions := [{ token := "owner", publicKey := namedKey 1, createdAt := 0 }]
            bans := bans } } }

def signInAs (publicKey : String) : List ModerationCall :=
  [ .registry (.auth (.challenge publicKey (List.replicate 32 7) 1)),
    .registry (.auth (.verify
      { publicKey := publicKey, challenge := namedKey 7, signature := signedBy 0xab }
      { now := 2, instant := 2, token := "again" })) ]

theorem moderatedHub_rows (bans : List (String × Option Int)) (known : ∀ ban ∈ bans, ban.1 = namedKey 0xab) :
    (moderatedHub bans).auth.OneRowEach := by
  have users : ∀ key, key ∈ (moderatedHub bans).auth.db.users → key = namedKey 0xab ∨ key = namedKey 1 := by
    intro key seated
    have listed : namedKey 0xab = key ∨ namedKey 1 = key := by simpa [moderatedHub] using seated
    exact listed.imp Eq.symm Eq.symm
  have different : hexDecode (namedKey 1) ≠ hexDecode (namedKey 0xab) := by
    simp [namedKey]
  constructor
  · rintro first second left right ⟨bytes, _, decoded, again⟩
    have same := decoded.trans again.symm
    rcases users first left with rfl | rfl <;> rcases users second right with rfl | rfl
    · rfl
    · exact absurd same.symm different
    · exact absurd same different
    · rfl
  · intro ban listed
    rw [known ban listed]
    simp [moderatedHub]

theorem oneIdentity_run_banned :
    OneIdentity softAuthenticator oneTokenFarm openKeys (moderatedHub [(namedKey 0xab, none)])
      (signInAs (namedKey 0xab)) := by
  refine oneIdentity_run _ _ _ _ (moderatedHub_rows _ (by simp)) _ ⟨?_, ?_, trivial⟩
  · rintro key (⟨passkey, took⟩ | ⟨challenge, result, took, _⟩)
    · cases took
    · cases took
  · intro _
    refine ⟨?_, ?_, fun _ => rfl, ?_, ?_⟩
    · rintro other (seated | ⟨ban, listed, _⟩ | overridden | revoked) same
      · have rows := moderatedHub_rows [(namedKey 0xab, none)] (by simp)
        exact rows.unique other (namedKey 0xab) seated (by simp [moderatedHub]) same
      · cases listed
      · simp [ModerationCall.next, Registry.next, AuthCall.next, AuthCall.serve, challenge,
          moderatedHub] at overridden
      · simp [ModerationCall.next, Registry.next, AuthCall.next, AuthCall.serve, challenge,
          moderatedHub, AuthState.isRevoked] at revoked
    · intro cert presented
      cases presented
    · intro _ cert presented
      cases presented
    · intro granted
      cases granted

def shouted : String := String.ofList (List.replicate 32 ['A', 'B']).flatten

-- The owner bans a key; its holder signs in with the same key in capitals.
theorem oneIdentity_shouted :
    ¬ OneIdentity softAuthenticator oneTokenFarm openKeys (moderatedHub [])
      ([.banUser "owner" { targetPublicKey := namedKey 0xab } none 0] ++ signInAs shouted) := by
  intro one
  let front : List ModerationCall :=
    [.banUser "owner" { targetPublicKey := namedKey 0xab } none 0,
      .registry (.auth (.challenge shouted (List.replicate 32 7) 1))]
  have same : SameKey (namedKey 0xab) shouted :=
    ⟨List.replicate 32 0xab, by simp, by simp [namedKey], by decide +kernel⟩
  have banned : (Runs.run (ModerationCall.next softAuthenticator oneTokenFarm openKeys) (moderatedHub [])
      front).auth.isBanned (namedKey 0xab) 2 = true := by
    decide +kernel
  obtain ⟨e, refused⟩ := one.refused front _ _ List.prefix_rfl (namedKey 0xab) same (.inl banned)
  have answered : (verify (softAuthenticator.withKeys openKeys)
      (Runs.run (ModerationCall.next softAuthenticator oneTokenFarm openKeys) (moderatedHub []) front).auth
      { publicKey := shouted, challenge := namedKey 7, signature := signedBy 0xab }
      { now := 2, instant := 2, token := "again" }).2 =
        .ok { token := "again", scope := .member, canonicalPubkey := shouted } := by
    decide +kernel
  rw [answered] at refused
  cases refused

end Wavvon
