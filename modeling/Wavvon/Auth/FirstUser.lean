import Wavvon.Auth.Sessions
import Wavvon.Auth.StatementsAlone

set_option autoImplicit false

namespace Wavvon

open Std (ExtTreeMap)
open Interleaving (Handler Discipline Fits Task System Moves AllFit)

-- How far a sign-in is, as far as the first-user rule is concerned.
inductive Progress where
  | arrived
  | countedNone
  | seatedFirst (canonical : String)
  | another
  deriving DecidableEq, Repr

structure Keeps (s after : AuthState) : Prop where
  users : ∀ key, key ∈ s.db.users → key ∈ after.db.users
  peers : after.tables.peers = s.tables.peers

/--
A sign-in counts the users once. It gives out ownership only after it has counted none, and only to
the identity it has seated since.
-/
def signInRules : Discipline AuthState Statement Progress where
  advance p label s :=
    match label with
    | .countUsers => if existingUsers s = 0 then .countedNone else .another
    | .upsertUser canonical => if p = .countedNone then .seatedFirst canonical else p
    | _ => p
  permits p label s after :=
    match label with
    | .read => after = s
    | .write => Keeps s after
    | .countUsers => p = .arrived ∧ after = s
    | .upsertUser canonical => Keeps s after ∧ canonical ∈ after.db.users
    | .grantOwner canonical => p = .seatedFirst canonical ∧ Keeps s after
    | .registerPeer canonical =>
      (∀ key, key ∈ s.db.users → key ∈ after.db.users) ∧
        after.tables.peers = insert canonical s.tables.peers

section

variable {A B : Type} {post : Progress → B → Prop} {p : Progress}

theorem fits_query {read : AuthState → B} (ends : ∀ answer, post p answer) :
    Fits signInRules post p (query read) :=
  ⟨fun _ => rfl, fun s => ends (read s)⟩

theorem fits_query_bind {read : AuthState → A} {rest : A → SignIn B}
    (goesOn : ∀ answer, Fits signInRules post p (rest answer)) :
    Fits signInRules post p (query read >>= rest) :=
  ⟨fun _ => rfl, fun s => goesOn (read s)⟩

theorem fits_write_bind {change : AuthState → AuthState} {read : AuthState → A} {rest : A → SignIn B}
    (keeps : ∀ s, Keeps s (change s)) (goesOn : ∀ answer, Fits signInRules post p (rest answer)) :
    Fits signInRules post p (Handler.exec .write change read >>= rest) :=
  ⟨keeps, fun s => goesOn (read s)⟩

theorem keeps_refl (s : AuthState) : Keeps s s := ⟨fun _ known => known, rfl⟩

-- A statement that leaves `users` and `peers` as they are.
theorem keeps_of_same {s after : AuthState} (users : after.db.users = s.db.users)
    (peers : after.tables.peers = s.tables.peers) : Keeps s after :=
  ⟨fun _ known => users ▸ known, peers⟩

theorem keeps_modify {s after : AuthState} {key : String} {change : User → User}
    (users : after.db.users = s.db.users.modify key change)
    (peers : after.tables.peers = s.tables.peers) : Keeps s after := by
  refine ⟨?_, peers⟩
  intro other known
  rw [users]
  exact ExtTreeMap.mem_modify.mpr known

end

-- A handler that leaves the progress where it is.
def Quiet {A : Type} (p : Progress) (handler : SignIn A) : Prop :=
  Fits signInRules (fun later _ => later = p) p handler

section

variable (outside : Outside) (req : VerifyRequest) (env : VerifyEnv) (p : Progress)

theorem takePending_quiet : Quiet p (takePending outside req env) := by
  apply fits_write_bind
  · intro s
    split
    · exact keeps_of_same rfl rfl
    · exact keeps_refl s
  · intro pending
    split <;> exact rfl

theorem identify_quiet : Quiet p (identify outside req env) := by
  apply fits_query_bind
  intro revoked
  repeat' split
  all_goals try exact rfl
  apply fits_query_bind
  intro linked
  split
  · exact rfl
  · apply fits_query_bind
    intro legacy
    split <;> exact rfl

theorem visit_quiet (canonical : String) : Quiet p (visit outside req env canonical) := by
  unfold visit
  split
  · exact rfl
  · apply fits_query_bind
    intro known
    repeat' split
    · exact rfl
    · exact rfl
    · apply fits_write_bind
      · intro s
        exact keeps_of_same rfl rfl
      · intro _
        exact rfl

theorem matchBan_quiet (passed : Passed) : Quiet p (matchBan req env passed) := by
  unfold matchBan
  repeat' split
  · exact rfl
  · apply fits_query_bind
    intro seated
    split
    · exact rfl
    · exact fits_query fun _ => rfl
  · exact rfl

theorem recordDevice_quiet : Quiet p (recordDevice req) := by
  unfold recordDevice
  split
  · exact rfl
  · exact ⟨fun s => keeps_of_same rfl rfl, fun _ => rfl⟩

theorem raiseFlag_quiet (canonical : String) (matched : Option String) :
    Quiet p (raiseFlag env canonical matched) := by
  unfold raiseFlag
  split
  · exact rfl
  · exact ⟨fun s => keeps_of_same rfl rfl, fun _ => rfl⟩

theorem raiseLevel_quiet (canonical : String) (claimed : Nat) : Quiet p (raiseLevel canonical claimed) := by
  apply fits_query_bind
  intro stored
  split
  · apply fits_write_bind
    · intro s
      exact keeps_modify rfl rfl
    · intro _
      exact rfl
  · exact rfl

theorem namedInvite_quiet (passed : Passed) : Quiet p (namedInvite req passed) := by
  unfold namedInvite
  split
  · exact rfl
  · apply fits_query_bind
    intro bound
    exact rfl

theorem answerChallenge_quiet : Quiet p (answerChallenge req env) := by
  unfold answerChallenge
  split
  · exact rfl
  · apply fits_query_bind
    intro row
    repeat' split
    all_goals try exact rfl
    apply fits_write_bind
    · intro s
      exact keeps_of_same rfl rfl
    · intro _
      exact rfl

theorem redeem_quiet (passed : Passed) : Quiet p (redeem req env passed) := by
  unfold redeem
  split
  next code _ =>
    refine Fits.bind ?_ (fun _ _ held => held)
    apply fits_query_bind
    intro invite
    repeat' split
    all_goals try exact rfl
    apply fits_write_bind
    · intro s
      exact keeps_of_same rfl rfl
    · intro spent
      split <;> exact rfl
  next =>
    apply fits_query_bind
    intro closed
    split <;> exact rfl

theorem grantInvited_quiet (passed : Passed) (redemption : Option InviteRedemption) :
    Quiet p (grantInvited passed redemption) := by
  unfold grantInvited
  split
  · exact rfl
  · apply fits_query_bind
    intro role
    split
    · exact rfl
    · exact ⟨fun s => keeps_of_same rfl rfl, fun _ => rfl⟩

theorem passGates_fits (canonical : String) (master : Option String) :
    Fits signInRules (fun later answer => ∀ passed, answer = .ok passed → passed.existing = 0 →
      later = .countedNone) .arrived (passGates outside req env canonical master) := by
  apply fits_query_bind
  intro banned
  split
  · simp [Fits, pure]
  · apply fits_query_bind
    intro denied
    split
    · simp [Fits, pure]
    · refine ⟨fun s => ⟨rfl, rfl⟩, ?_⟩
      intro s
      -- What the count has read is what the progress records.
      have counted : ∀ later, later = signInRules.advance .arrived .countUsers s →
          existingUsers s = 0 → later = .countedNone := by
        intro later reached none
        rw [reached]
        exact if_pos none
      apply fits_query_bind
      intro owner
      apply fits_query_bind
      intro minLevel
      apply fits_query_bind
      intro lobby
      dsimp only
      split
      · simp [Fits, pure]
      · apply fits_query_bind
        intro minPow
        split
        · simp [Fits, pure]
        · apply fits_query_bind
          intro mode
          split
          · simp [Fits, pure]
          · rintro passed same none
            cases same
            exact counted _ rfl none

variable {p}

theorem seat_fits {passed : Passed} (counted : passed.existing = 0 → p = .countedNone) :
    Fits signInRules (fun later _ => passed.existing = 0 → later = .seatedFirst passed.canonical) p
      (seat req env passed) := by
  apply fits_query_bind
  intro approval
  refine (matchBan_quiet req env p passed).bind ?_
  rintro _ matched rfl
  apply fits_query_bind
  intro application
  refine (recordDevice_quiet req _).bind ?_
  rintro p _ rfl
  refine ⟨?_, ?_⟩
  · intro s
    refine ⟨⟨?_, rfl⟩, ?_⟩
    · intro key known
      exact ExtTreeMap.mem_insert.mpr (.inr known)
    · exact ExtTreeMap.mem_insert_self
  · intro s
    refine (raiseFlag_quiet env _ passed.canonical matched).bind ?_
    rintro _ _ rfl
    refine (raiseLevel_quiet _ passed.canonical passed.claimed).weaken ?_
    rintro _ _ rfl none
    exact if_pos (counted none)

theorem grantMembership_fits {passed : Passed} (seated : passed.existing = 0 → p = .seatedFirst passed.canonical)
    (redemption : Option InviteRedemption) :
    Fits signInRules (fun _ _ => True) p (grantMembership passed redemption) := by
  apply fits_write_bind
  · intro s
    exact keeps_modify rfl rfl
  · intro _
    apply fits_query_bind
    intro minted
    have granted : Fits signInRules (fun _ _ => True) p (grantFirst passed minted) := by
      unfold grantFirst
      split
      next first => exact ⟨fun s => ⟨seated first.1, keeps_of_same rfl rfl⟩, fun _ => trivial⟩
      next => trivial
    refine granted.bind ?_
    intro later _ _
    exact (grantInvited_quiet later passed redemption).weaken fun _ _ _ => trivial

theorem settle_fits {passed : Passed} (seated : passed.existing = 0 → p = .seatedFirst passed.canonical)
    (peer belongs : Bool) (scope : SessionScope) :
    Fits signInRules (fun _ _ => True) p (settle req env passed peer belongs scope) := by
  apply fits_write_bind
  · intro s
    exact keeps_of_same rfl rfl
  · intro _
    dsimp only
    split
    · exact ⟨fun s => ⟨fun _ known => known, rfl⟩, fun _ => trivial⟩
    · split
      · trivial
      · refine (redeem_quiet req env p passed).andThen (fun _ _ _ => trivial) ?_
        rintro _ redemption rfl
        refine (grantMembership_fits seated redemption).bind ?_
        intro _ _ _
        trivial

theorem openStatements_fits {passed : Passed}
    (seated : passed.existing = 0 → p = .seatedFirst passed.canonical) (level : Nat) :
    Fits signInRules (fun _ _ => True) p (openStatements req env passed level) := by
  apply fits_query_bind
  intro belongs
  refine (namedInvite_quiet req p passed).bind ?_
  rintro _ named rfl
  apply fits_query_bind
  intro mode
  dsimp only
  split
  · refine (answerChallenge_quiet req env _).andThen (fun _ _ _ => trivial) ?_
    rintro _ _ rfl
    exact settle_fits req env seated _ _ _
  · exact settle_fits req env seated _ _ _

theorem verifyStatements_fits :
    Fits signInRules (fun _ _ => True) .arrived (verifyStatements outside req env) := by
  refine (takePending_quiet outside req env .arrived).andThen (fun _ _ _ => trivial) ?_
  rintro _ _ rfl
  refine (identify_quiet outside req env .arrived).andThen (fun _ _ _ => trivial) ?_
  rintro _ identity rfl
  refine (visit_quiet outside req env .arrived identity.1).andThen (fun _ _ _ => trivial) ?_
  rintro _ visited rfl
  split
  · trivial
  · refine (passGates_fits outside req env identity.1 identity.2).andThen (fun _ _ _ => trivial) ?_
    intro p passed counted
    refine (seat_fits req env (counted passed rfl)).bind ?_
    intro later level seated
    exact openStatements_fits req env seated level

end

/-- Requests to sign in, in flight on one hub. -/
abbrev SignIns := System AuthState Statement Progress (Except HttpError VerifyResponse)

namespace SignIns

def start (outside : Outside) (s : AuthState) (requests : List (VerifyRequest × VerifyEnv)) : SignIns where
  shared := s
  tasks := requests.map fun request =>
    { progress := .arrived, handler := verifyStatements outside request.1 request.2 }

abbrev next : SignIns → Nat → SignIns := Interleaving.step signInRules

-- The request is about to make the identity the owner for having arrived first.
def GivesOwnership (sys : SignIns) (i : Nat) (canonical : String) : Prop :=
  ∃ p, sys.AtStatement i p (.grantOwner canonical)

def SeatedAt (sys : SignIns) (i : Nat) (canonical : String) : Prop :=
  ∃ handler, sys.tasks[i]? = some { progress := .seatedFirst canonical, handler := handler }

-- The request has counted no user and has not been refused since.
def CountingAt (sys : SignIns) (i : Nat) : Prop :=
  ∃ label effect next, sys.tasks[i]? = some { progress := .countedNone, handler := .stmt label effect next }

def ClaimsAt (sys : SignIns) (i : Nat) : Prop := sys.CountingAt i ∨ ∃ canonical, sys.SeatedAt i canonical

-- Nobody counts the users while another request that counted none has yet to write its row, and the
-- row of the first user stays among those that are counted.
def Orderly (sys : SignIns) (p : Progress) : Statement → Prop
  | .countUsers =>
    existingUsers sys.shared = 0 → ∀ task ∈ sys.tasks, ∀ move ∈ task.pending, move.1 ≠ .countedNone
  | .upsertUser canonical =>
    p = .countedNone → canonical ≠ "system" ∧ canonical ∉ sys.shared.tables.peers
  | .registerPeer canonical => ∀ task ∈ sys.tasks, task.progress ≠ .seatedFirst canonical
  | _ => True

instance (sys : SignIns) (p : Progress) : (label : Statement) → Decidable (sys.Orderly p label)
  | .countUsers => inferInstanceAs (Decidable (existingUsers sys.shared = 0 →
      ∀ task ∈ sys.tasks, ∀ move ∈ task.pending, move.1 ≠ .countedNone))
  | .upsertUser canonical => inferInstanceAs (Decidable (p = .countedNone →
      canonical ≠ "system" ∧ canonical ∉ sys.shared.tables.peers))
  | .registerPeer canonical => inferInstanceAs (Decidable (∀ task ∈ sys.tasks,
      task.progress ≠ .seatedFirst canonical))
  | .read | .write | .grantOwner _ => inferInstanceAs (Decidable True)

/-- The statement the scheduler picks next is orderly. -/
def FirstCome (sys : SignIns) (i : Nat) : Prop :=
  ∀ move ∈ sys.pending i, sys.Orderly move.1 move.2

instance (sys : SignIns) (i : Nat) : Decidable (sys.FirstCome i) :=
  inferInstanceAs (Decidable (∀ move ∈ sys.pending i, sys.Orderly move.1 move.2))

structure OneClaim (sys : SignIns) : Prop where
  fit : AllFit signInRules sys
  one : ∀ i j, sys.ClaimsAt i → sys.ClaimsAt j → i = j
  visible : ∀ i canonical, sys.SeatedAt i canonical → canonical ∈ sys.shared.db.users ∧
    canonical ≠ "system" ∧ canonical ∉ sys.shared.tables.peers

end SignIns

theorem existingUsers_pos {s : AuthState} {canonical : String} (known : canonical ∈ s.db.users)
    (person : canonical ≠ "system") (visible : canonical ∉ s.tables.peers) : existingUsers s ≠ 0 := by
  obtain ⟨user, found⟩ := Option.isSome_iff_exists.mp (ExtTreeMap.mem_iff_isSome_getElem?.mp known)
  have listed := ExtTreeMap.mem_toList_iff_getElem?_eq_some.mpr found
  have counted : (canonical, user) ∈ s.db.users.toList.filter fun row =>
      row.1 ≠ "system" ∧ row.1 ∉ s.tables.peers :=
    List.mem_filter.mpr ⟨listed, by simp [person, visible]⟩
  exact (List.length_pos_of_mem counted).ne'

namespace SignIns

section

variable {sys after : SignIns} {i : Nat} {p : Progress} {label : Statement}

theorem moves_other (moves : Moves signInRules sys after i p label) {j : Nat} (other : j ≠ i) :
    (after.CountingAt j ↔ sys.CountingAt j) ∧
      ∀ canonical, after.SeatedAt j canonical ↔ sys.SeatedAt j canonical := by
  have same := moves.elsewhere j other
  exact ⟨by simp only [CountingAt, same], fun canonical => by simp only [SeatedAt, same]⟩

-- The claim of the request that moves is the one its progress then shows.
theorem moves_here (moves : Moves signInRules sys after i p label) :
    (after.CountingAt i → signInRules.advance p label sys.shared = .countedNone) ∧
      ∀ canonical, after.SeatedAt i canonical ↔
        signInRules.advance p label sys.shared = .seatedFirst canonical := by
  obtain ⟨handler, here⟩ := moves.here
  constructor
  · rintro ⟨label, effect, next, found⟩
    exact congrArg Task.progress (Option.some.inj (here.symm.trans found))
  · intro canonical
    constructor
    · rintro ⟨other, found⟩
      exact congrArg Task.progress (Option.some.inj (here.symm.trans found))
    · intro reached
      exact ⟨handler, reached ▸ here⟩

theorem atStatement_claims (moves : Moves signInRules sys after i p label) :
    (p = .countedNone → sys.CountingAt i) ∧ ∀ canonical, p = .seatedFirst canonical → sys.SeatedAt i canonical := by
  obtain ⟨effect, next, found⟩ := moves.atStatement
  constructor
  · rintro rfl
    exact ⟨label, effect, next, found⟩
  · rintro canonical rfl
    exact ⟨_, found⟩

-- What a row seated first becomes: it stays, and only a peer registration hides it.
theorem moves_seated (moves : Moves signInRules sys after i p label) {j : Nat} {canonical : String}
    (seated : sys.SeatedAt j canonical) : after.SeatedAt j canonical := by
  by_cases here : j = i
  next =>
    subst here
    obtain ⟨handler, found⟩ := seated
    obtain ⟨effect, next, stands⟩ := moves.atStatement
    rw [found] at stands
    cases stands
    apply ((moves_here moves).2 canonical).mpr
    have permitted := moves.permitted
    cases label with
    | countUsers => cases permitted.1
    | upsertUser other =>
      simp only [signInRules]
      rw [if_neg (by simp)]
    | _ => rfl
  next => exact ((moves_other moves here).2 canonical).mpr seated

-- Only the count makes a claim, and only when there is no user to see.
theorem moves_claims (moves : Moves signInRules sys after i p label) (claims : after.ClaimsAt i) :
    sys.ClaimsAt i ∨ label = .countUsers ∧ existingUsers sys.shared = 0 := by
  have reached : signInRules.advance p label sys.shared = .countedNone ∨
      ∃ canonical, signInRules.advance p label sys.shared = .seatedFirst canonical := by
    rcases claims with counting | ⟨canonical, seated⟩
    · exact .inl ((moves_here moves).1 counting)
    · exact .inr ⟨canonical, ((moves_here moves).2 canonical).mp seated⟩
  have before := atStatement_claims moves
  have kept : (p = .countedNone ∨ ∃ canonical, p = .seatedFirst canonical) → sys.ClaimsAt i := by
    rintro (counted | ⟨canonical, seated⟩)
    · exact .inl (before.1 counted)
    · exact .inr ⟨canonical, before.2 canonical seated⟩
  cases label with
  | countUsers =>
    simp only [signInRules] at reached
    by_cases none : existingUsers sys.shared = 0
    next => exact .inr ⟨rfl, none⟩
    next => simp [none] at reached
  | upsertUser canonical =>
    simp only [signInRules] at reached
    by_cases counted : p = .countedNone
    next => exact .inl (.inl (before.1 counted))
    next =>
      rw [if_neg counted] at reached
      exact .inl (kept reached)
  | _ => exact .inl (kept reached)

theorem FirstCome.orderly (met : sys.FirstCome i) (moves : Moves signInRules sys after i p label) :
    sys.Orderly p label :=
  met (p, label) (System.atStatement_iff.mp moves.atStatement)

theorem not_countingAt (quiet : ∀ task ∈ sys.tasks, ∀ move ∈ task.pending, move.1 ≠ Progress.countedNone)
    (j : Nat) : ¬ sys.CountingAt j := by
  rintro ⟨label, effect, next, found⟩
  exact quiet _ (List.mem_of_getElem? found) (.countedNone, label) rfl rfl

theorem oneClaim_visible (held : sys.OneClaim) (met : sys.FirstCome i)
    (moves : Moves signInRules sys after i p label) {j : Nat} {canonical : String}
    (seated : after.SeatedAt j canonical) :
    canonical ∈ after.shared.db.users ∧ canonical ≠ "system" ∧ canonical ∉ after.shared.tables.peers := by
  have met := met.orderly moves
  have permitted := moves.permitted
  -- Either it was seated before the move, or the move seats it.
  have earlier : sys.SeatedAt j canonical ∨ label = .upsertUser canonical ∧ p = .countedNone := by
    by_cases here : j = i
    next =>
      subst here
      have reached := ((moves_here moves).2 canonical).mp seated
      have before := (atStatement_claims moves).2 canonical
      cases label with
      | countUsers =>
        simp only [signInRules] at reached
        split at reached <;> cases reached
      | upsertUser other =>
        simp only [signInRules] at reached
        split at reached
        next counted =>
          cases reached
          exact .inr ⟨rfl, counted⟩
        next => exact .inl (before reached)
      | _ => exact .inl (before reached)
    next => exact .inl (((moves_other moves here).2 canonical).mp seated)
  rcases earlier with before | ⟨rfl, counted⟩
  · obtain ⟨known, person, visible⟩ := held.visible j canonical before
    cases label with
    | read => exact permitted ▸ ⟨known, person, visible⟩
    | countUsers => exact permitted.2 ▸ ⟨known, person, visible⟩
    | write => exact ⟨permitted.users _ known, person, permitted.peers ▸ visible⟩
    | upsertUser other => exact ⟨permitted.1.users _ known, person, permitted.1.peers ▸ visible⟩
    | grantOwner other => exact ⟨permitted.2.users _ known, person, permitted.2.peers ▸ visible⟩
    | registerPeer other =>
      refine ⟨permitted.1 _ known, person, ?_⟩
      rw [permitted.2, Finset.mem_insert]
      rintro (rfl | hidden)
      · obtain ⟨handler, found⟩ := before
        exact met _ (List.mem_of_getElem? found) rfl
      · exact visible hidden
  · obtain ⟨person, visible⟩ := met counted
    exact ⟨permitted.2, person, permitted.1.peers ▸ visible⟩

theorem next_oneClaim (held : sys.OneClaim) (met : sys.FirstCome i) : (sys.next i).OneClaim := by
  have fit := Interleaving.step_fit held.fit i
  rcases Interleaving.step_cases held.fit i with same | ⟨p, label, moves⟩
  · rw [next, same]
    exact held
  · refine ⟨fit, ?_, fun j canonical => oneClaim_visible held met moves⟩
    -- A new claim is made with no user in sight, so nobody else has one.
    have alone : ∀ j, (sys.next i).ClaimsAt i → ¬ sys.ClaimsAt i → ¬ sys.ClaimsAt j := by
      intro j claims fresh other
      rcases moves_claims moves claims with before | ⟨rfl, none⟩
      · exact fresh before
      · rcases other with counting | ⟨canonical, seated⟩
        · exact not_countingAt (met.orderly moves none) j counting
        · obtain ⟨known, person, visible⟩ := held.visible j canonical seated
          exact existingUsers_pos known person visible none
    have before : ∀ j, j ≠ i → (sys.next i).ClaimsAt j → sys.ClaimsAt j := by
      intro j other claims
      obtain ⟨counting, seated⟩ := moves_other moves other
      exact claims.imp counting.mp fun ⟨canonical, there⟩ => ⟨canonical, (seated canonical).mp there⟩
    intro j k left right
    by_cases first : j = i <;> by_cases second : k = i
    · rw [first, second]
    · subst first
      by_cases old : sys.ClaimsAt j
      · exact held.one j k old (before k second right)
      · exact absurd (before k second right) (alone k left old)
    · subst second
      by_cases old : sys.ClaimsAt k
      · exact held.one j k (before j first left) old
      · exact absurd (before j first left) (alone j right old)
    · exact held.one j k (before j first left) (before k second right)

theorem start_oneClaim (outside : Outside) (s : AuthState) (requests : List (VerifyRequest × VerifyEnv)) :
    (start outside s requests).OneClaim := by
  have arrived : ∀ (i : Nat) (task : Task AuthState Statement Progress (Except HttpError VerifyResponse)),
      (start outside s requests).tasks[i]? = some task → task.progress = .arrived := by
    intro i task found
    simp only [start, List.getElem?_map, Option.map_eq_some_iff] at found
    obtain ⟨request, _, rfl⟩ := found
    rfl
  have unseated : ∀ i canonical, ¬ (start outside s requests).SeatedAt i canonical := by
    rintro i canonical ⟨handler, found⟩
    cases arrived i _ found
  refine ⟨?_, ?_, fun i canonical seated => absurd seated (unseated i canonical)⟩
  · intro task member
    obtain ⟨request, _, rfl⟩ := List.mem_map.mp member
    exact verifyStatements_fits outside request.1 request.2
  · rintro i j (⟨label, effect, next, found⟩ | ⟨canonical, seated⟩)
    · cases arrived i _ found
    · exact absurd seated (unseated i canonical)

-- Only the request that has seated the identity gives it the hub.
theorem givesOwnership_seated (held : sys.OneClaim) {canonical : String}
    (gives : sys.GivesOwnership i canonical) : sys.SeatedAt i canonical := by
  obtain ⟨p, effect, next, found⟩ := gives
  obtain ⟨rfl, _⟩ := (held.fit _ (List.mem_of_getElem? found)).1 sys.shared
  exact ⟨_, found⟩

end

/-- No two identities are made owner for having arrived first, anywhere in the run. -/
def OneFirstOwner (sys : SignIns) (schedule : List Nat) : Prop :=
  ∀ front i canonical later j other, front ++ [i] <+: schedule → later ++ [j] <+: schedule →
    (Runs.run next sys front).GivesOwnership i canonical → (Runs.run next sys later).GivesOwnership j other →
      canonical = other

end SignIns

theorem oneFirstOwner_run (outside : Outside) (s : AuthState) (requests : List (VerifyRequest × VerifyEnv))
    (schedule : List Nat)
    (met : Runs.Meets SignIns.next SignIns.FirstCome (SignIns.start outside s requests) schedule) :
    SignIns.OneFirstOwner (SignIns.start outside s requests) schedule := by
  have initial := SignIns.start_oneClaim outside s requests
  have keeps := fun (sys : SignIns) (i : Nat) (held : sys.OneClaim) (met : sys.FirstCome i) =>
    SignIns.next_oneClaim held met
  have held : ∀ front, front <+: schedule →
      (Runs.run SignIns.next (SignIns.start outside s requests) front).OneClaim := by
    rintro front ⟨rest, rfl⟩
    exact (Runs.Meets.append.mp met).1.invariant SignIns.OneClaim keeps initial
  -- A seat taken first is still taken at the end of the schedule.
  have lasts : ∀ front i canonical, front ++ [i] <+: schedule →
      (Runs.run SignIns.next (SignIns.start outside s requests) front).GivesOwnership i canonical →
      (Runs.run SignIns.next (SignIns.start outside s requests) schedule).SeatedAt i canonical := by
    intro front i canonical inside gives
    have before := (List.prefix_append front [i]).trans inside
    have seated := SignIns.givesOwnership_seated (held front before) gives
    obtain ⟨rest, rfl⟩ := before
    rw [Runs.run_append]
    refine (Runs.Meets.append.mp met).2.climbs SignIns.OneClaim
      (fun sys after => ∀ i canonical, sys.SeatedAt i canonical → after.SeatedAt i canonical)
      (fun _ _ _ there => there) (fun left right i canonical there => right i canonical (left i canonical there))
      keeps ?_ (held front (List.prefix_append front rest)) i canonical seated
    intro sys i held _ j canonical there
    rcases Interleaving.step_cases held.fit i with same | ⟨p, label, moves⟩
    · rw [SignIns.next, same]
      exact there
    · exact SignIns.moves_seated moves there
  intro front i canonical later j other inside insideLater gives givesLater
  have first := lasts front i canonical inside gives
  have second := lasts later j other insideLater givesLater
  obtain rfl := (held schedule List.prefix_rfl).one i j (.inr ⟨canonical, first⟩) (.inr ⟨other, second⟩)
  obtain ⟨_, found⟩ := first
  obtain ⟨_, again⟩ := second
  have same := congrArg Task.progress (Option.some.inj (found.symm.trans again))
  cases same
  rfl

def rivalKey : String := "1c2f3e4d506b7a89988a97b6c5d4e3f21021304f5d6c7b8a99a8b7c6d5e4f302"

-- A hub nobody has joined, with two challenges handed out.
def newHub : AuthState := challenge (challenge {} ownerKey [7] 0) rivalKey [8] 0

def twoArrivals : SignIns :=
  SignIns.start softAuthenticator newHub
    [ ({ publicKey := ownerKey, challenge := "07", signature := "073062" },
        { now := 1, instant := 1, token := "first" }),
      ({ publicKey := rivalKey, challenge := "08", signature := "083163" },
        { now := 1, instant := 1, token := "second" }) ]

theorem oneFirstOwner_run_in_turn :
    SignIns.OneFirstOwner twoArrivals (List.replicate 21 0 ++ List.replicate 21 1) ∧
      (Runs.run SignIns.next twoArrivals (List.replicate 20 0)).GivesOwnership 0 ownerKey := by
  refine ⟨oneFirstOwner_run _ _ _ _ (by decide +kernel), .seatedFirst ownerKey, ?_⟩
  exact Interleaving.System.atStatement_iff.mpr (by decide +kernel)

-- The first request counts, then the second runs up to its grant, then the first does.
def overtaken : List Nat := List.replicate 5 0 ++ List.replicate 20 1 ++ List.replicate 15 0

theorem oneFirstOwner_overtaken : ¬ SignIns.OneFirstOwner twoArrivals (overtaken ++ [0, 1]) := by
  intro one
  have first : (Runs.run SignIns.next twoArrivals overtaken).GivesOwnership 0 ownerKey :=
    ⟨.seatedFirst ownerKey, Interleaving.System.atStatement_iff.mpr (by decide +kernel)⟩
  have second : (Runs.run SignIns.next twoArrivals (overtaken ++ [0])).GivesOwnership 1 rivalKey :=
    ⟨.seatedFirst rivalKey, Interleaving.System.atStatement_iff.mpr (by decide +kernel)⟩
  have same := one overtaken 0 ownerKey (overtaken ++ [0]) 1 rivalKey ⟨[1], by simp⟩ ⟨[], by simp⟩ first second
  revert same
  decide

end Wavvon
