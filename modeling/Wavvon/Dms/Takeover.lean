import Wavvon.Auth.Doors
import Wavvon.Auth.Floor
import Wavvon.Auth.Refusals
import Wavvon.Dms.Links
import Wavvon.Shared.Runs

set_option autoImplicit false

namespace Wavvon.Dms

open Std (ExtTreeMap)

structure Hub where
  auth : AuthState := {}
  farm : FarmCache := {}
  convs : Conversations := {}

inductive Call where
  | auth (call : AuthCall)
  | createConversation (token : String) (req : CreateConversationRequest) (id : String) (now : Int)
      (registries : Registries)
  | receiveFederatedDm (token : String) (req : FederatedDmRequest) (now : Int) (registries : Registries)

structure World where
  outside : Outside
  farm : FarmOutside
  keys : Keys
  isUuid : String → Bool

def World.signIn (world : World) : Outside := world.outside.withKeys world.keys

section

variable (world : World)

def Hub.extract (s : Hub) (token path : String) (now : Int) : Hub × Except HttpError AuthUser :=
  match fromRequestParts world.farm s.auth s.farm token { method := .post, path := path } now with
  | (seen, cache, answer) => ({ s with auth := seen, farm := cache }, answer)

-- A peer hub is an identity listed in `peers`.
def Hub.extractPeer (s : Hub) (token path : String) (now : Int) : Hub × Except HttpError AuthUser :=
  match s.extract world token path now with
  | (seen, .error e) => (seen, .error e)
  | (seen, .ok user) =>
    if user.publicKey ∈ seen.auth.tables.peers then (seen, .ok user)
    else (seen, .error (403, "Caller is not a registered peer hub"))

def Hub.store (s : Hub) (written : Db × Conversations) : Hub :=
  { s with auth := { s.auth with db := written.1 }, convs := written.2 }

def Hub.next (s : Hub) : Call → Hub
  | .auth call => { s with auth := AuthCall.next world.signIn s.auth call }
  | .createConversation token req id now registries =>
    match s.extract world token "/conversations" now with
    | (seen, .error _) => seen
    | (seen, .ok user) =>
      let answer := Dms.createConversation world.keys registries seen.auth.db seen.convs user req id now
      seen.store (answer.1, answer.2.1)
  | .receiveFederatedDm token req now registries =>
    match s.extractPeer world token "/federation/dm" now with
    | (seen, .error _) => seen
    | (seen, .ok _) =>
      let answer := Dms.receiveFederatedDm world.keys registries world.isUuid seen.auth.db seen.convs req
      seen.store (answer.1, answer.2.1)

-- The binding a call asks for, with another hub's certificates behind it.
def Call.Binds (s : Hub) (key master : String) : Call → Prop
  | .createConversation token req _ now registries =>
    AsksToBind world.keys registries req key master ∧
      ∃ user, (s.extract world token "/conversations" now).2 = .ok user
  | .receiveFederatedDm token req now registries =>
    DeliversBinding world.keys registries req key master ∧
      ∃ peer, (s.extractPeer world token "/federation/dm" now).2 = .ok peer
  | .auth _ => False

-- The link a sign-in would record.
def Call.SeatsWith (s : Hub) (key master : String) : Call → Prop
  | .auth (.verify req env) => ∃ claimed, Seats world.signIn s.auth req env key (some master) claimed
  | _ => False

theorem extract_masterOf (s : Hub) (token path : String) (now : Int) (key : String) :
    (s.extract world token path now).1.auth.db.masterOf key = s.auth.db.masterOf key :=
  fromRequestParts_masterOf world.farm s.auth s.farm token _ now key

theorem extractPeer_masterOf (s : Hub) (token path : String) (now : Int) (key : String) :
    (s.extractPeer world token path now).1.auth.db.masterOf key = s.auth.db.masterOf key := by
  have same := extract_masterOf world s token path now key
  unfold Hub.extractPeer
  generalize s.extract world token path now = extracted at same ⊢
  obtain ⟨seen, answer⟩ := extracted
  cases answer with
  | error e => exact same
  | ok user =>
    dsimp only
    split <;> exact same

theorem next_links (s : Hub) (call : Call) :
    Links (fun key master => call.SeatsWith world s key master ∨ call.Binds world s key master) s.auth.db
      (s.next world call).auth.db := by
  cases call with
  | auth call =>
    cases call with
    | verify req env => exact (verify_links world.signIn s.auth req env).weaken fun _ _ => .inl
    | _ => exact links_of_same (quiet_masterOf world.signIn s.auth (by simp))
  | createConversation token req id now registries =>
    have same := extract_masterOf world s token "/conversations" now
    simp only [Hub.next]
    cases extracted : s.extract world token "/conversations" now with
    | mk seen answer =>
      rw [extracted] at same
      cases answer with
      | error e => exact links_of_same same
      | ok user =>
        have created := createConversation_links world.keys registries seen.auth.db seen.convs user req id now
        refine (links_of_same same).trans (created.weaken fun key master asks => .inr ⟨asks, user, ?_⟩)
        rw [extracted]
  | receiveFederatedDm token req now registries =>
    have same := extractPeer_masterOf world s token "/federation/dm" now
    simp only [Hub.next]
    cases extracted : s.extractPeer world token "/federation/dm" now with
    | mk seen answer =>
      rw [extracted] at same
      cases answer with
      | error e => exact links_of_same same
      | ok peer =>
        have received := receiveFederatedDm_links world.keys registries world.isUuid seen.auth.db seen.convs req
        refine (links_of_same same).trans (received.weaken fun key master delivers => .inr ⟨delivers, peer, ?_⟩)
        rw [extracted]

end

-- What a resolved certificate stands for: a link already recorded, or one nobody has yet.
theorem resolve_cases {outside : Outside} {s : AuthState} {authPubkey canonical : String}
    {cert : Option SubkeyCert} {now : Int} {master : Option String}
    (resolved : resolveCanonicalIdentity outside s authPubkey cert now = .ok (canonical, master)) :
    canonical = authPubkey ∧ master = none ∨
      ∃ shown, cert = some shown ∧ outside.certVerifies shown = true ∧ shown.subkeyPubkey = authPubkey ∧
        certExpired shown now = false ∧ master = some shown.masterPubkey ∧
        (s.db.masterOf canonical = some shown.masterPubkey ∨
          (∀ other, s.db.masterOf other ≠ some shown.masterPubkey) ∧
            (canonical = authPubkey ∨ canonical = shown.masterPubkey)) := by
  unfold resolveCanonicalIdentity at resolved
  split at resolved
  · cases resolved
  · split at resolved
    next =>
      cases resolved
      exact .inl ⟨rfl, rfl⟩
    next shown =>
      split at resolved
      · cases resolved
      next verified =>
        split at resolved
        · cases resolved
        next own =>
          split at resolved
          · cases resolved
          next unexpired =>
            refine .inr ⟨shown, rfl, by simpa using verified, not_not.mp own, by simpa using unexpired, ?_⟩
            dsimp only at resolved
            split at resolved
            next row found =>
              cases resolved
              refine ⟨rfl, .inl ?_⟩
              have listed := ExtTreeMap.mem_toList_iff_getElem?_eq_some.mp (List.mem_of_find?_eq_some found)
              have carries := List.find?_some found
              simpa [Db.masterOf, listed] using carries
            next absent =>
              have nobody : ∀ other, s.db.masterOf other ≠ some shown.masterPubkey := by
                intro other linked
                obtain ⟨user, found, carries⟩ := Option.bind_eq_some_iff.mp linked
                have listed := ExtTreeMap.mem_toList_iff_getElem?_eq_some.mpr found
                have missed := List.find?_eq_none.mp absent (other, user) listed
                simp [carries] at missed
              split at resolved
              · cases resolved
                exact ⟨rfl, .inr ⟨nobody, .inl rfl⟩⟩
              · cases resolved
                exact ⟨rfl, .inr ⟨nobody, .inr rfl⟩⟩

section

variable (world : World)

-- The key signs in itself, and shows that it knows the master.
def Call.SignsInWith (s : Hub) (key master : String) : Call → Prop
  | .auth (.verify req env) => req.publicKey = key ∧
      (∃ cert, req.subkeyCert = some cert ∧ cert.masterPubkey = master ∧ cert.subkeyPubkey = key ∧
        cert.verify world.keys = .ok ()) ∧
      ∃ response, (verify world.signIn s.auth req env).2 = .ok response
  | _ => False

def SignedInWith (s : Hub) (front : List Call) (key master : String) : Prop :=
  ∃ before call after, front = before ++ call :: after ∧
    call.SignsInWith world (Runs.run (Hub.next world) s before) key master

/-- What entitles a signing key to a session of an identity, after these calls. -/
def Entitled (s : Hub) (front : List Call) (req : VerifyRequest) (now : Int) (identity : String) : Prop :=
  req.publicKey = identity ∨
    ∃ cert, req.subkeyCert = some cert ∧ cert.subkeyPubkey = req.publicKey ∧
      cert.verify world.keys = .ok () ∧ certExpired cert now = false ∧
      (cert.masterPubkey = identity ∨ SignedInWith world s front identity cert.masterPubkey)

/-- Sessions go to entitled keys, and a master once recorded is one key's for good. -/
structure NoTakeover (s : Hub) (calls : List Call) : Prop where
  entitled : ∀ front req env response, front ++ [.auth (.verify req env)] <+: calls →
    (verify world.signIn (Runs.run (Hub.next world) s front).auth req env).2 = .ok response →
      Entitled world s front req env.now response.canonicalPubkey
  kept : ∀ before after, before <+: after → after <+: calls →
    MastersKept (Runs.run (Hub.next world) s before).auth.db (Runs.run (Hub.next world) s after).auth.db
  unique : ∀ front, front <+: calls → ∀ first second master,
    (Runs.run (Hub.next world) s front).auth.db.masterOf first = some master →
      (Runs.run (Hub.next world) s front).auth.db.masterOf second = some master → first = second

/--
A fetched certificate links no key but the master itself, and a sign-in that records the master of
its own key is not turned away afterwards.
-/
structure OwnLinks (s : Hub) (call : Call) : Prop where
  binds : ∀ key master, call.Binds world s key master → s.auth.db.masterOf key = none →
    key = master ∧ ∀ other, s.auth.db.masterOf other ≠ some master
  seats : ∀ req env key master claimed, call = .auth (.verify req env) →
    Seats world.signIn s.auth req env key (some master) claimed → s.auth.db.masterOf key = none →
      key = master ∨ ¬ FailsChallenge s.auth req key (some master) env ∧
        ¬ FailsInvite s.auth req key (some master) env

variable {world}

theorem withKeys_verified {outside : Outside} {keys : Keys} {cert : SubkeyCert}
    (verified : (outside.withKeys keys).certVerifies cert = true) : cert.verify keys = .ok () :=
  isOk_unit verified

theorem SignedInWith.longer {s : Hub} {front : List Call} {key master : String}
    (signed : SignedInWith world s front key master) (call : Call) :
    SignedInWith world s (front ++ [call]) key master := by
  obtain ⟨before, signs, after, rfl, how⟩ := signed
  exact ⟨before, signs, after ++ [call], by simp, how⟩

theorem seats_signsIn {s : Hub} {call : Call} {key master : String} (own : OwnLinks world s call)
    (seats : call.SeatsWith world s key master) (unlinked : s.auth.db.masterOf key = none) :
    (∀ other, s.auth.db.masterOf other ≠ some master) ∧
      (key = master ∨ call.SignsInWith world s key master) := by
  cases call with
  | auth call =>
    cases call with
    | verify req env =>
      obtain ⟨claimed, seats⟩ := seats
      rcases resolve_cases seats.resolved with ⟨_, none⟩ | ⟨shown, presented, verified, device, _, named, how⟩
      · cases none
      · obtain rfl : master = shown.masterPubkey := by simpa using named
        rcases how with linked | ⟨nobody, itself⟩
        · rw [unlinked] at linked
          cases linked
        · refine ⟨nobody, ?_⟩
          rcases own.seats req env key shown.masterPubkey claimed rfl seats unlinked with same | ⟨passes, invited⟩
          · exact .inl same
          · rcases itself with rfl | same
            · obtain ⟨response, answered, _⟩ := afterSeat_answered claimed passes invited
              refine .inr ⟨rfl, ⟨shown, presented, rfl, device, withKeys_verified verified⟩, response, ?_⟩
              rw [verify_seats seats]
              exact answered
            · exact .inl same
    | _ => exact seats.elim
  | _ => exact seats.elim

-- A call fills in one master at most for a key that is not the master itself.
theorem gained_unique {s : Hub} {call : Call} {first second master : String} (own : OwnLinks world s call)
    (unlinkedFirst : s.auth.db.masterOf first = none) (unlinkedSecond : s.auth.db.masterOf second = none)
    (gainsFirst : call.SeatsWith world s first master ∨ call.Binds world s first master)
    (gainsSecond : call.SeatsWith world s second master ∨ call.Binds world s second master) :
    first = second := by
  rcases gainsFirst with seatsFirst | bindsFirst
  · rcases gainsSecond with seatsSecond | bindsSecond
    · cases call with
      | auth call =>
        cases call with
        | verify req env =>
          obtain ⟨_, seatsFirst⟩ := seatsFirst
          obtain ⟨_, seatsSecond⟩ := seatsSecond
          have same := seatsFirst.resolved.symm.trans seatsSecond.resolved
          simpa using same
        | _ => exact seatsFirst.elim
      | _ => exact seatsFirst.elim
    · cases call with
      | auth call => exact bindsSecond.elim
      | _ => exact seatsFirst.elim
  · rcases gainsSecond with seatsSecond | bindsSecond
    · cases call with
      | auth call => exact bindsFirst.elim
      | _ => exact seatsSecond.elim
    · rw [(own.binds first master bindsFirst unlinkedFirst).1,
        (own.binds second master bindsSecond unlinkedSecond).1]

theorem gained_fresh {s : Hub} {call : Call} {key master : String} (own : OwnLinks world s call)
    (unlinked : s.auth.db.masterOf key = none)
    (gains : call.SeatsWith world s key master ∨ call.Binds world s key master) :
    (∀ other, s.auth.db.masterOf other ≠ some master) ∧
      (key = master ∨ call.SignsInWith world s key master) := by
  rcases gains with seats | binds
  · exact seats_signsIn own seats unlinked
  · obtain ⟨itself, nobody⟩ := own.binds key master binds unlinked
    exact ⟨nobody, .inl itself⟩

/-- Every recorded master is its own key's, or was shown by the key itself; none is recorded twice. -/
structure Trusted (world : World) (s : Hub) (front : List Call) : Prop where
  linked : ∀ key master, (Runs.run (Hub.next world) s front).auth.db.masterOf key = some master →
    key = master ∨ SignedInWith world s front key master
  unique : ∀ first second master,
    (Runs.run (Hub.next world) s front).auth.db.masterOf first = some master →
      (Runs.run (Hub.next world) s front).auth.db.masterOf second = some master → first = second

theorem trusted_next {s : Hub} (front : List Call) (call : Call) (trusted : Trusted world s front)
    (own : OwnLinks world (Runs.run (Hub.next world) s front) call) :
    Trusted world s (front ++ [call]) := by
  have links := next_links world (Runs.run (Hub.next world) s front) call
  have after : Runs.run (Hub.next world) s (front ++ [call]) =
      (Runs.run (Hub.next world) s front).next world call := by
    rw [Runs.run_append, Runs.run_cons, Runs.run_nil]
  constructor
  · intro key master linked
    rw [after] at linked
    rcases links.gained key master linked with earlier | ⟨unlinked, gains⟩
    · exact (trusted.linked key master earlier).imp_right fun signed => signed.longer call
    · refine (gained_fresh own unlinked gains).2.imp_right fun signs => ?_
      exact ⟨front, call, [], rfl, signs⟩
  · intro first second master linkedFirst linkedSecond
    rw [after] at linkedFirst linkedSecond
    rcases links.gained first master linkedFirst with earlierFirst | ⟨unlinkedFirst, gainsFirst⟩
    · rcases links.gained second master linkedSecond with earlierSecond | ⟨unlinkedSecond, gainsSecond⟩
      · exact trusted.unique first second master earlierFirst earlierSecond
      · exact absurd earlierFirst ((gained_fresh own unlinkedSecond gainsSecond).1 first)
    · rcases links.gained second master linkedSecond with earlierSecond | ⟨unlinkedSecond, gainsSecond⟩
      · exact absurd earlierSecond ((gained_fresh own unlinkedFirst gainsFirst).1 second)
      · exact gained_unique own unlinkedFirst unlinkedSecond gainsFirst gainsSecond

theorem run_masters (s : Hub) (calls : List Call) :
    MastersKept s.auth.db (Runs.run (Hub.next world) s calls).auth.db := by
  induction calls generalizing s with
  | nil => exact MastersKept.refl s.auth.db
  | cons call rest ih => exact (next_links world s call).kept.trans (ih _)

-- The identity a session is answered with is the one the certificate resolved to.
theorem answered_resolved {outside : Outside} {s : AuthState} {req : VerifyRequest} {env : VerifyEnv}
    {response : VerifyResponse} (answered : (verify outside s req env).2 = .ok response) :
    ∃ master, resolveCanonicalIdentity outside s req.publicKey req.subkeyCert env.now =
      .ok (response.canonicalPubkey, master) := by
  rcases verify_cases outside s req env with ⟨e, same | same⟩ | ⟨canonical, visitor, visits, same⟩ |
    ⟨canonical, master, claimed, seats⟩
  · simp [same] at answered
  · simp [same] at answered
  · rw [same] at answered
    cases answered
    exact visits.resolved
  · rw [verify_seats seats] at answered
    rw [(answered_seat (afterSeat_outcome s req env canonical master claimed) answered).1]
    exact ⟨master, seats.resolved⟩

theorem trusted_entitled {s : Hub} {front : List Call} (trusted : Trusted world s front)
    {req : VerifyRequest} {env : VerifyEnv} {response : VerifyResponse}
    (answered : (verify world.signIn (Runs.run (Hub.next world) s front).auth req env).2 = .ok response) :
    Entitled world s front req env.now response.canonicalPubkey := by
  obtain ⟨master, resolved⟩ := answered_resolved answered
  rcases resolve_cases resolved with ⟨same, _⟩ | ⟨shown, presented, verified, device, unexpired, _, how⟩
  · exact .inl same.symm
  · rcases how with linked | ⟨_, same | same⟩
    · refine .inr ⟨shown, presented, device, withKeys_verified verified, unexpired, ?_⟩
      exact (trusted.linked _ _ linked).imp_left Eq.symm
    · exact .inl same.symm
    · exact .inr ⟨shown, presented, device, withKeys_verified verified, unexpired, .inl same.symm⟩

end

/--
From a hub with no recorded masters, in every run whose fetched certificates link nobody but the
master itself and whose recorded links belong to sign-ins that succeed, no identity is taken over.
-/
theorem noTakeover_run (world : World) (s : Hub) (fresh : ∀ key, s.auth.db.masterOf key = none)
    (calls : List Call) (met : Runs.Meets (Hub.next world) (OwnLinks world) s calls) :
    NoTakeover world s calls := by
  have trusted : ∀ front, front <+: calls → Trusted world s front := by
    rintro front ⟨rest, rfl⟩
    refine (Runs.Meets.append.mp met).1.along (Trusted world s) ?_ trusted_next
    constructor
    · intro key master linked
      simp [fresh] at linked
    · intro first second master linked
      simp [fresh] at linked
  constructor
  · intro front req env response inside answered
    exact trusted_entitled (trusted front ((List.prefix_append front _).trans inside)) answered
  · rintro before after ⟨middle, rfl⟩ _
    rw [Runs.run_append]
    exact run_masters _ middle
  · intro front inside
    exact (trusted front inside).unique

def openWorld : World :=
  { outside := softAuthenticator, farm := oneTokenFarm, keys := openKeys, isUuid := fun _ => true }

def certOf (master subkey : UInt8) : SubkeyCert :=
  { masterPubkey := namedKey master, subkeyPubkey := namedKey subkey, deviceLabel := "laptop", issuedAt := 1
    notAfter := none, fallbackHubs := [], signature := signedBy master }

def certifiedSignIn : List Call :=
  [ .auth (.challenge (namedKey 1) (List.replicate 32 7) 0),
    .auth (.verify
      { publicKey := namedKey 1, challenge := namedKey 7, signature := signedBy 1
        subkeyCert := some (certOf 3 1) }
      { now := 1, instant := 1, token := "first" }) ]

theorem noTakeover_run_certified : NoTakeover openWorld {} certifiedSignIn := by
  refine noTakeover_run openWorld {} (fun _ => by simp [Db.masterOf]) certifiedSignIn ?_
  refine ⟨⟨fun _ _ => False.elim, ?_⟩, ⟨fun _ _ => False.elim, ?_⟩, trivial⟩
  · rintro req env key master claimed same
    cases same
  · rintro req env key master claimed same seats unlinked
    cases same
    refine .inr ⟨fun fails => fails.1.1 rfl, ?_⟩
    rintro ⟨_, _, _, e, refused⟩
    cases refused

def victimsHub : Hub :=
  { auth := { db :=
      { users := (∅ : Table User).insert (namedKey 1) { isMember := true }
        userRoles := {(namedKey 1, BUILTIN_OWNER_ROLE_ID)} } } }

-- The thief opens a conversation with the owner, naming a master and a hub of its own.
def theft : List Call :=
  [ .auth (.challenge (namedKey 2) (List.replicate 32 7) 0),
    .auth (.verify
      { publicKey := namedKey 2, challenge := namedKey 7, signature := signedBy 2 }
      { now := 1, instant := 1, token := "thief" }),
    .createConversation "thief"
      { members := [namedKey 1], memberHubs := [(namedKey 1, "https://thief")]
        memberMasters := [(namedKey 1, namedKey 3)] } "dm-1" 2 (fun _ => some [certOf 3 1]),
    .auth (.challenge (namedKey 2) (List.replicate 32 8) 3) ]

def devicesSignIn : VerifyRequest :=
  { publicKey := namedKey 2, challenge := namedKey 8, signature := signedBy 2
    subkeyCert := some (certOf 3 2) }

theorem noTakeover_bound :
    ¬ NoTakeover openWorld victimsHub
      (theft ++ [.auth (.verify devicesSignIn { now := 4, instant := 4, token := "owner" })]) := by
  intro safe
  have answered : (verify openWorld.signIn (Runs.run (Hub.next openWorld) victimsHub theft).auth devicesSignIn
      { now := 4, instant := 4, token := "owner" }).2 =
        .ok { token := "owner", scope := .member, canonicalPubkey := namedKey 1 } := by
    decide +kernel
  have different : namedKey 2 ≠ namedKey 1 ∧ namedKey 3 ≠ namedKey 1 := by decide +kernel
  rcases safe.entitled theft devicesSignIn _ _ List.prefix_rfl answered with same | ⟨cert, presented, _, _, _, how⟩
  · exact different.1 same
  · cases presented
    rcases how with same | ⟨before, call, after, split, signs⟩
    · exact different.2 same
    · have member : call ∈ theft := by simp [split]
      simp only [theft, List.mem_cons, List.not_mem_nil, or_false] at member
      rcases member with rfl | rfl | rfl | rfl
      · exact signs
      · exact different.1 signs.1
      · exact signs
      · exact signs

end Wavvon.Dms
