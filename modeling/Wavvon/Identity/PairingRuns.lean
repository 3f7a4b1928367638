import Wavvon.Identity.Pairing

set_option autoImplicit false

namespace Wavvon.Pairing

open Std (ExtTreeMap)
open Interleaving (Handler Discipline Fits FitAll Task System Moves)

inductive Call where
  | offer (offer : PairingOffer)
  | claim (claim : PairingClaim)
  | complete (complete : PairingComplete)
  deriving DecidableEq, Repr

structure Progress where
  call : Call
  written : Bool := false
  deriving DecidableEq, Repr

def handle (keys : Keys) (clock : Clock) : Call → Pair (Except HttpError Unit)
  | .offer offer => postOffer keys offer clock
  | .claim claim => postClaim keys claim clock
  | .complete complete => postComplete keys complete clock

-- A claim writes once, as its last statement, and in its own name.
def pairingRules : Discipline Store Statement Progress where
  advance p label _ :=
    match label with
    | .setClaimed _ _ => { p with written := true }
    | _ => p
  permits p label s after :=
    after = label.effect s ∧ p.written = false ∧
      ∀ claim now, label = .setClaimed claim now → p.call = .claim claim

-- Only a claim that has written is answered 200.
def Promised (p : Progress) (answer : Except HttpError Unit) : Prop :=
  ∀ claim, p.call = .claim claim → (p.written = true ↔ answer = .ok ())

/-- Pairing requests in flight on one hub. -/
abbrev Pairings := System Store Statement Progress (Except HttpError Unit)

namespace Pairings

def start (keys : Keys) (store : Store) (requests : List (Call × Clock)) : Pairings where
  shared := store
  tasks := requests.map fun request =>
    { progress := { call := request.1 }, handler := handle keys request.2 request.1 }

abbrev next : Pairings → Nat → Pairings := Interleaving.step pairingRules

-- The claim has been answered 200.
def Granted (sys : Pairings) (claim : PairingClaim) : Prop :=
  ∃ task ∈ sys.tasks, task.progress.call = .claim claim ∧ task.handler = .done (.ok ())

-- Whoever a status of the token names is the subkey.
def ShowsOnly (offers : Table OfferRow) (token subkey : String) : Prop :=
  ∀ now status, getStatus offers token now = .ok status → ∀ shown, status.subkey = some shown → shown = subkey

/-- One device for each token: in the answers, in the status, and in the certificate. -/
structure OneDevice (sys : Pairings) : Prop where
  one : ∀ first second, sys.Granted first → sys.Granted second →
    first.pairingToken = second.pairingToken → first.subkeyPubkey = second.subkeyPubkey
  shown : ∀ claim, sys.Granted claim → ShowsOnly sys.shared.offers claim.pairingToken claim.subkeyPubkey
  certified : ∀ (token : String) (row : OfferRow), sys.shared.offers[token]? = some row →
    row.state = .complete →
    ∃ cert, row.cert = some cert ∧ cert.masterPubkey = row.masterPubkey ∧
      row.subkeyPubkey = some cert.subkeyPubkey

end Pairings

-- The columns a row has in its state.
def Written (row : OfferRow) : Prop :=
  (row.state = .claimed → row.subkeyPubkey.isSome ∧ row.deviceLabel.isSome) ∧
    (row.state = .complete → row.wrappedKeyHex.isSome)

/-- Every row is as the handlers, run to completion, leave it. -/
def Store.Settled (store : Store) : Prop :=
  ∀ (token : String) (row : OfferRow), store.offers[token]? = some row → Written row ∧
    (row.state = .complete → ∃ cert, row.cert = some cert ∧ cert.masterPubkey = row.masterPubkey ∧
      row.subkeyPubkey = some cert.subkeyPubkey)

section

variable (keys : Keys) (clock : Clock)

theorem exec_fits {A B : Type} {post : Progress → B → Prop} {p : Progress} {label : Statement}
    {read : Store → A} {rest : A → Pair B} (unwritten : p.written = false)
    (ordinary : ∀ claim now, label ≠ .setClaimed claim now)
    (goesOn : ∀ answer, Fits pairingRules post p (rest answer)) :
    Fits pairingRules post p (exec label read >>= rest) := by
  have stays : ∀ s, pairingRules.advance p label s = p := by
    intro s
    cases label with
    | setClaimed claim now => exact absurd rfl (ordinary claim now)
    | _ => rfl
  refine ⟨fun s => ⟨rfl, unwritten, fun claim now same => absurd same (ordinary claim now)⟩, ?_⟩
  intro s
  rw [stays]
  exact goesOn (read s)

theorem refused_promised {claim : PairingClaim} (e : HttpError) :
    Promised { call := .claim claim } (.error e) := by
  intro other _
  exact iff_of_false (by simp) (by simp)

theorem postClaim_fits (claim : PairingClaim) :
    Fits pairingRules Promised { call := .claim claim } (postClaim keys claim clock) := by
  unfold postClaim
  split
  · exact refused_promised _
  · unfold claimOffer
    apply exec_fits rfl (by simp)
    intro _
    apply exec_fits rfl (by simp)
    intro found
    repeat' split
    · exact refused_promised _
    · exact refused_promised _
    · exact refused_promised _
    · refine ⟨?_, ?_⟩
      · intro s
        refine ⟨rfl, rfl, ?_⟩
        rintro other now same
        cases same
        rfl
      · intro s other _
        exact iff_of_true rfl rfl

-- The other two handlers promise nothing about claims.
theorem unclaimed_promised (call : Call) (other : ∀ claim, call ≠ .claim claim) (written : Bool)
    (answer : Except HttpError Unit) : Promised { call := call, written := written } answer := by
  intro claim same
  exact absurd same (other claim)

theorem handle_fits (call : Call) : Fits pairingRules Promised { call := call } (handle keys clock call) := by
  cases call with
  | claim claim => exact postClaim_fits keys clock claim
  | offer offer =>
    have promised := fun answer => unclaimed_promised (.offer offer) (by simp) false answer
    simp only [handle, postOffer]
    split
    · exact promised _
    · unfold openOffer
      apply exec_fits rfl (by simp)
      intro _
      exact ⟨fun s => ⟨rfl, rfl, by simp⟩, fun s => promised _⟩
  | complete complete =>
    have promised := fun answer => unclaimed_promised (.complete complete) (by simp) false answer
    simp only [handle, postComplete]
    split
    · exact promised _
    · unfold completeOffer
      apply exec_fits rfl (by simp)
      intro _
      apply exec_fits rfl (by simp)
      intro found
      repeat' split
      · exact promised _
      · exact promised _
      · exact ⟨fun s => ⟨rfl, rfl, by simp⟩, fun s => promised _⟩

end

-- What a statement leaves in the row of a token.
inductive RowAfter (s : Store) (token : String) : Statement → OfferRow → Prop where
  | same {label : Statement} {row : OfferRow} (found : s.offers[token]? = some row) : RowAfter s token label row
  | opened {offer : PairingOffer} {now : Int} : RowAfter s token (.insertOffer offer now) (offerRow offer now)
  | claimed {claim : PairingClaim} {now : Int} {row : OfferRow} (named : claim.pairingToken = token)
      (found : s.offers[token]? = some row) (pending : row.state = .pending) :
      RowAfter s token (.setClaimed claim now) (markClaimed claim now row)
  | completed {complete : PairingComplete} {now : Int} {row : OfferRow} (named : complete.pairingToken = token)
      (found : s.offers[token]? = some row) (claimed : row.state = .claimed) :
      RowAfter s token (.setComplete complete now) (markComplete complete now row)

section

variable {s : Store} {token : String} {row : OfferRow}

theorem modified_row {offers : Table OfferRow} {key : String} {change : OfferRow → OfferRow} {after : OfferRow}
    (found : (offers.modify key change)[token]? = some after) :
    offers[token]? = some after ∨ key = token ∧ ∃ row, offers[token]? = some row ∧ after = change row := by
  rw [ExtTreeMap.getElem?_modify] at found
  split at found
  next here =>
    rw [Std.compare_eq_iff_eq] at here
    subst here
    obtain ⟨row, stored, rfl⟩ := Option.map_eq_some_iff.mp found
    exact .inr ⟨rfl, row, stored, rfl⟩
  next => exact .inl found

theorem effect_row (label : Statement) (found : (label.effect s).offers[token]? = some row) :
    RowAfter s token label row := by
  cases label with
  | read => exact .same found
  | prune now =>
    simp only [Statement.effect, pruneExpired, ExtTreeMap.getElem?_filter'] at found
    exact .same (Option.filter_eq_some_iff.mp found).1
  | insertOffer offer now =>
    simp only [Statement.effect, ExtTreeMap.getElem?_insertIfNew] at found
    split at found
    · cases found
      exact .opened
    · exact .same found
  | setClaimed claim now =>
    rcases modified_row found with old | ⟨named, row, stored, rfl⟩
    · exact .same old
    · by_cases pending : row.state = .pending
      · exact .claimed named stored pending
      · rw [markClaimed, if_neg pending]
        exact .same stored
  | setComplete complete now =>
    rcases modified_row found with old | ⟨named, row, stored, rfl⟩
    · exact .same old
    · by_cases claimed : row.state = .claimed
      · exact .completed named stored claimed
      · rw [markComplete, if_neg claimed]
        exact .same stored

theorem RowAfter.written {label : Statement} (after : RowAfter s token label row)
    (rows : ∀ (token : String) (row : OfferRow), s.offers[token]? = some row → Written row) : Written row := by
  cases after with
  | same found => exact rows token row found
  | opened => simp [Written, offerRow]
  | claimed named found pending => simp [Written, markClaimed, pending]
  | completed named found claimed => simp [Written, markComplete, claimed]

end

theorem showsOnly_iff {offers : Table OfferRow} {token subkey : String} :
    Pairings.ShowsOnly offers token subkey ↔ ∀ (row : OfferRow) (status : PairingStatus) (shown : String),
      offers[token]? = some row → rowStatus row = .ok status → status.subkey = some shown → shown = subkey := by
  constructor
  · intro only row status shown found read named
    refine only row.expiresAt.toInt status ?_ shown named
    simp [getStatus, found, read]
  · intro only now status answered shown named
    unfold getStatus at answered
    split at answered
    next => cases answered
    next row found =>
      split at answered
      next =>
        cases answered
        cases named
      next => exact only row status shown found answered named

theorem rowStatus_claimed {row : OfferRow} (claimed : row.state = .claimed) (written : Written row) :
    ∃ subkey label, row.subkeyPubkey = some subkey ∧ rowStatus row = .ok (.claimed subkey label) := by
  obtain ⟨subkey, stored⟩ := Option.isSome_iff_exists.mp (written.1 claimed).1
  obtain ⟨label, labelled⟩ := Option.isSome_iff_exists.mp (written.1 claimed).2
  exact ⟨subkey, label, stored, by simp [rowStatus, claimed, stored, labelled]⟩

theorem rowStatus_pending {row : OfferRow} (pending : row.state = .pending) : rowStatus row = .ok .pending := by
  simp [rowStatus, pending]

namespace Pairings

section

variable {sys after : Pairings} {i : Nat} {p : Progress} {label : Statement}

theorem granted_iff (fit : FitAll pairingRules Promised sys) {claim : PairingClaim} :
    sys.Granted claim ↔ ∃ (j : Nat) (handler : Pair (Except HttpError Unit)),
      sys.tasks[j]? = some { progress := { call := .claim claim, written := true }, handler := handler } := by
  constructor
  · rintro ⟨⟨⟨call, written⟩, handler⟩, member, named, answered⟩
    dsimp only at named answered
    subst named answered
    have promised : Promised { call := .claim claim, written := written } (.ok ()) := fit _ member
    obtain rfl := (promised claim rfl).mpr rfl
    obtain ⟨j, found⟩ := List.getElem?_of_mem member
    exact ⟨j, _, found⟩
  · rintro ⟨j, handler, found⟩
    have member := List.mem_of_getElem? found
    refine ⟨_, member, rfl, ?_⟩
    cases handler with
    | done answer =>
      have promised : Promised { call := .claim claim, written := true } answer := fit _ member
      rw [(promised claim rfl).mp rfl]
    | stmt label effect next => cases ((fit _ member).1 sys.shared).2.1

-- A claim is granted by its own write, and stays granted.
theorem moves_granted (fit : FitAll pairingRules Promised sys) (fitAfter : FitAll pairingRules Promised after)
    (moves : Moves pairingRules sys after i p label) {claim : PairingClaim} :
    after.Granted claim ↔ sys.Granted claim ∨ ∃ now, label = .setClaimed claim now := by
  obtain ⟨effect, next, found⟩ := moves.atStatement
  obtain ⟨handler, here⟩ := moves.here
  rw [granted_iff fit, granted_iff fitAfter]
  constructor
  · rintro ⟨j, other, written⟩
    by_cases same : j = i
    next =>
      subst same
      have reached := congrArg Task.progress (Option.some.inj (here.symm.trans written))
      cases label with
      | setClaimed own now =>
        have named := moves.permitted.2.2 own now rfl
        have call := congrArg Progress.call reached
        simp only [pairingRules, named, Call.claim.injEq] at call
        exact .inr ⟨now, by rw [call]⟩
      | _ =>
        have written : p.written = true := congrArg Progress.written reached
        rw [moves.permitted.2.1] at written
        cases written
    next => exact .inl ⟨j, other, (moves.elsewhere j same) ▸ written⟩
  · rintro (⟨j, other, written⟩ | ⟨now, rfl⟩)
    · have same : j ≠ i := by
        rintro rfl
        rw [found] at written
        cases written
        cases moves.permitted.2.1
      exact ⟨j, other, (moves.elsewhere j same).trans written⟩
    · have named := moves.permitted.2.2 claim now rfl
      refine ⟨i, handler, here.trans ?_⟩
      simp only [pairingRules, ← named]

end

-- Nobody else has been given the token, and a certificate is for the row as it is now.
def Clear (sys : Pairings) : Statement → Prop
  | .setClaimed claim _ =>
    (∀ other, sys.Granted other → other.pairingToken = claim.pairingToken →
        other.subkeyPubkey = claim.subkeyPubkey) ∧
      ShowsOnly sys.shared.offers claim.pairingToken claim.subkeyPubkey
  | .setComplete complete _ =>
    ∀ row : OfferRow, sys.shared.offers[complete.pairingToken]? = some row → row.state = .claimed →
      complete.cert.masterPubkey = row.masterPubkey ∧ row.subkeyPubkey = some complete.cert.subkeyPubkey
  | _ => True

/-- The statement the scheduler picks next finds the token as its request has read it. -/
def Undisputed (sys : Pairings) (i : Nat) : Prop :=
  ∀ move ∈ sys.pending i, sys.Clear move.2

structure Sound (sys : Pairings) : Prop where
  fit : FitAll pairingRules Promised sys
  device : sys.OneDevice
  rows : ∀ (token : String) (row : OfferRow), sys.shared.offers[token]? = some row → Written row

section

variable {sys after : Pairings} {i : Nat} {p : Progress} {label : Statement}

theorem moves_shown (held : sys.Sound) (clear : sys.Clear label)
    (fitAfter : FitAll pairingRules Promised after) (moves : Moves pairingRules sys after i p label)
    {claim : PairingClaim} (granted : after.Granted claim) :
    ShowsOnly after.shared.offers claim.pairingToken claim.subkeyPubkey := by
  rw [moves.permitted.1]
  apply showsOnly_iff.mpr
  intro row status shown found read named
  have before : sys.Granted claim →
      ShowsOnly sys.shared.offers claim.pairingToken claim.subkeyPubkey := held.device.shown claim
  rcases (moves_granted held.fit fitAfter moves).mp granted with old | ⟨now, rfl⟩
  · cases effect_row label found with
    | same found => exact showsOnly_iff.mp (before old) row status shown found read named
    | opened =>
      rw [rowStatus_pending rfl] at read
      cases read
      cases named
    | @claimed own now row same found pending =>
      have agrees := clear.1 claim old same.symm
      simp only [markClaimed, pending, if_true, rowStatus] at read
      cases read
      cases named
      exact agrees.symm
    | @completed complete now row same there claimed =>
      obtain ⟨_, stored⟩ := clear row (same ▸ there) claimed
      obtain ⟨subkey, label, kept, earlier⟩ := rowStatus_claimed claimed (held.rows _ row there)
      have agrees := showsOnly_iff.mp (before old) row _ subkey there earlier rfl
      rw [stored] at kept
      cases kept
      simp only [markComplete, claimed, if_true, rowStatus] at read
      cases read
      cases named
      exact agrees
  · cases effect_row (.setClaimed claim now) found with
    | same found => exact showsOnly_iff.mp clear.2 row status shown found read named
    | claimed same found pending =>
      simp only [markClaimed, pending, if_true, rowStatus] at read
      cases read
      cases named
      rfl

theorem next_sound (held : sys.Sound) (met : sys.Undisputed i) : (sys.next i).Sound := by
  have fitAfter : FitAll pairingRules Promised (sys.next i) := Interleaving.step_fit held.fit i
  rcases Interleaving.step_cases held.fit i with same | ⟨p, label, moves⟩
  · rw [next, same]
    exact held
  · have clear : sys.Clear label := met (p, label) (System.atStatement_iff.mp moves.atStatement)
    have granted : ∀ claim, (sys.next i).Granted claim ↔ sys.Granted claim ∨ ∃ now, label = .setClaimed claim now :=
      fun _ => moves_granted held.fit fitAfter moves
    refine ⟨fitAfter, ⟨?_, fun claim => moves_shown held clear fitAfter moves, ?_⟩, ?_⟩
    · intro first second left right same
      rcases (granted first).mp left with old | ⟨now, rfl⟩
      · rcases (granted second).mp right with older | ⟨now, rfl⟩
        · exact held.device.one first second old older same
        · exact clear.1 first old same
      · rcases (granted second).mp right with older | ⟨later, again⟩
        · exact (clear.1 second older same.symm).symm
        · cases again
          rfl
    · intro token row found completed
      rw [moves.permitted.1] at found
      cases effect_row label found with
      | same found => exact held.device.certified token row found completed
      | opened => cases completed
      | claimed named found pending => simp [markClaimed, pending] at completed
      | @completed complete now row named there claimed =>
        subst named
        obtain ⟨master, subkey⟩ := clear row there claimed
        exact ⟨complete.cert, by simp [markComplete, claimed], by simp [markComplete, claimed, master],
          by simp [markComplete, claimed, subkey]⟩
    · intro token row found
      rw [moves.permitted.1] at found
      exact (effect_row label found).written held.rows

theorem next_breaks (held : sys.Sound) (unmet : ¬ sys.Undisputed i) : ¬ (sys.next i).OneDevice := by
  have fitAfter : FitAll pairingRules Promised (sys.next i) := Interleaving.step_fit held.fit i
  simp only [Undisputed, not_forall] at unmet
  obtain ⟨⟨p, label⟩, waits, unclear⟩ := unmet
  have moves := Interleaving.step_moves held.fit (System.atStatement_iff.mpr waits)
  have granted : ∀ claim, (sys.next i).Granted claim ↔ sys.Granted claim ∨ ∃ now, label = .setClaimed claim now :=
    fun _ => moves_granted held.fit fitAfter moves
  intro device
  apply unclear
  cases label with
  | setClaimed claim now =>
    have given := (granted claim).mpr (.inr ⟨now, rfl⟩)
    refine ⟨?_, ?_⟩
    · intro other earlier same
      exact device.one other claim ((granted other).mpr (.inl earlier)) given same
    · -- A status that names a subkey is of a row the update does not touch.
      have only := showsOnly_iff.mp (device.shown claim given)
      rw [moves.permitted.1] at only
      apply showsOnly_iff.mpr
      intro row status shown found read named
      have taken : row.state ≠ .pending := by
        intro pending
        rw [rowStatus_pending pending] at read
        cases read
        cases named
      refine only row status shown ?_ read named
      simp [Statement.effect, found, markClaimed, taken]
  | setComplete complete now =>
    intro row found claimed
    have stored : (sys.next i).shared.offers[complete.pairingToken]? = some (markComplete complete now row) := by
      rw [moves.permitted.1]
      simp [Statement.effect, found]
    obtain ⟨cert, kept, master, subkey⟩ :=
      device.certified complete.pairingToken _ stored (by simp [markComplete, claimed])
    simp only [markComplete, claimed, if_true, Option.some.injEq] at kept master subkey
    subst kept
    exact ⟨master, subkey⟩
  | _ => trivial

end

theorem start_fit (keys : Keys) (store : Store) (requests : List (Call × Clock)) :
    FitAll pairingRules Promised (start keys store requests) := by
  intro task member
  obtain ⟨request, _, rfl⟩ := List.mem_map.mp member
  exact handle_fits keys request.2 request.1

theorem start_sound {keys : Keys} {store : Store} {requests : List (Call × Clock)} (rows : store.Settled) :
    (start keys store requests).Sound := by
  have fit := start_fit keys store requests
  have ungranted : ∀ claim, ¬ (start keys store requests).Granted claim := by
    intro claim granted
    obtain ⟨j, handler, found⟩ := (granted_iff fit).mp granted
    obtain ⟨request, _, same⟩ := List.mem_map.mp (List.mem_of_getElem? found)
    cases congrArg (·.progress.written) same
  refine ⟨fit, ⟨?_, ?_, ?_⟩, ?_⟩
  · intro first _ granted
    exact absurd granted (ungranted first)
  · intro claim granted
    exact absurd granted (ungranted claim)
  · intro token row found completed
    exact (rows token row found).2 completed
  · intro token row found
    exact (rows token row found).1

end Pairings

/--
Whatever order the statements of pairing requests run in, each token goes to one device exactly when
every claim and every completion writes undisputed.
-/
theorem oneDevice_iff (keys : Keys) (store : Store) (requests : List (Call × Clock)) (schedule : List Nat)
    (rows : store.Settled) :
    (∀ front, front <+: schedule →
        (Runs.run Pairings.next (Pairings.start keys store requests) front).OneDevice) ↔
      Runs.Meets Pairings.next Pairings.Undisputed (Pairings.start keys store requests) schedule :=
  Runs.always_iff_meets Pairings.Sound Pairings.OneDevice (fun _ held => held.device)
    (fun _ _ held met => Pairings.next_sound held met) (fun _ _ held unmet => Pairings.next_breaks held unmet)
    (Pairings.start_sound rows) schedule

-- No claim has written yet, and the row is still free.
def Pairings.untaken (sys : Pairings) (i : Nat) : Bool :=
  sys.tasks.all (fun task => !task.progress.written) &&
    match sys.pending i with
    | some (_, .setClaimed claim _) => sys.shared.offers[claim.pairingToken]?.all (·.state = .pending)
    | some (_, .setComplete _ _) => false
    | _ => true

theorem untaken_undisputed {sys : Pairings} {i : Nat} (fit : FitAll pairingRules Promised sys)
    (free : sys.untaken i = true) : sys.Undisputed i := by
  obtain ⟨unwritten, untouched⟩ := Bool.and_eq_true_iff.mp free
  intro move waits
  rw [Option.mem_def] at waits
  rw [waits] at untouched
  obtain ⟨p, label⟩ := move
  cases label with
  | setClaimed claim now =>
    refine ⟨?_, ?_⟩
    · intro other granted _
      obtain ⟨j, handler, found⟩ := (Pairings.granted_iff fit).mp granted
      simpa using List.all_eq_true.mp unwritten _ (List.mem_of_getElem? found)
    · apply showsOnly_iff.mpr
      intro row status shown found read named
      have pending : row.state = .pending := by simpa [found] using untouched
      rw [rowStatus_pending pending] at read
      cases read
      cases named
  | setComplete complete now => cases untouched
  | _ => trivial

def qrToken : String := "f0e1d2c3b4a5968778695a4b3c2d1e0f"

def shownOffer : PairingOffer :=
  { masterPubkey := namedKey 3, homeHubs := [], pairingToken := qrToken, issuedAt := 100, expiresAt := 200
    signature := signedBy 3 }

def claimOf (n : UInt8) : PairingClaim :=
  { pairingToken := qrToken, subkeyPubkey := namedKey n, deviceLabel := "phone", proof := signedBy n }

theorem shownOffer_checked : checkOffer openKeys shownOffer 110 = .ok () := by
  have verified : shownOffer.verify openKeys = .ok () := checkSig_signedBy 3 _
  have long : ¬ (Wire.strBytes shownOffer.pairingToken).length < 32 := by decide
  unfold checkOffer
  rw [verified]
  dsimp only
  rw [if_neg (by decide), if_neg (by decide), if_neg (by decide), if_neg long]

def twoScans : Pairings :=
  Pairings.start openKeys {}
    [(.offer shownOffer, .still 110), (.claim (claimOf 1), .still 120), (.claim (claimOf 2), .still 120)]

-- The signatures are good, so only the statements are left to run.
theorem twoScans_eq : twoScans =
    { shared := {}
      tasks :=
        [ { progress := { call := .offer shownOffer }, handler := openOffer shownOffer (.still 110) },
          { progress := { call := .claim (claimOf 1) }, handler := claimOffer (claimOf 1) (.still 120) },
          { progress := { call := .claim (claimOf 2) }, handler := claimOffer (claimOf 2) (.still 120) } ] } := by
  have offered : postOffer openKeys shownOffer (.still 110) = openOffer shownOffer (.still 110) := by
    simp only [postOffer, Clock.still, shownOffer_checked]
  have claimed : ∀ n, postClaim openKeys (claimOf n) (.still 120) = claimOffer (claimOf n) (.still 120) := by
    intro n
    have verified : (claimOf n).verify openKeys = .ok () := checkSig_signedBy n _
    simp only [postClaim, verified]
  simp only [twoScans, Pairings.start, handle, List.map_cons, List.map_nil, offered, claimed]

theorem twoScans_fit : FitAll pairingRules Promised twoScans := by
  unfold twoScans
  apply Pairings.start_fit

-- The second device never gets to its write.
theorem oneDevice_iff_scanned :
    (Runs.run Pairings.next twoScans [0, 0, 1, 1, 2, 1]).OneDevice ∧
      (Runs.run Pairings.next twoScans [0, 0, 1, 1, 2, 1]).tasks.map (·.progress.written) =
        [false, true, false] := by
  have untaken : Runs.Meets Pairings.next (fun sys i => sys.untaken i = true) twoScans [0, 0, 1, 1, 2, 1] := by
    rw [twoScans_eq]
    decide +kernel
  refine ⟨(oneDevice_iff openKeys {} _ [0, 0, 1, 1, 2, 1] (by simp [Store.Settled])).mpr ?_ _ List.prefix_rfl, ?_⟩
  · exact untaken.mono (FitAll pairingRules Promised) (fun _ i fit => Interleaving.step_fit fit i)
      (fun _ _ fit free => untaken_undisputed fit free) twoScans_fit
  · rw [twoScans_eq]
    decide +kernel

-- Both devices read the offer as pending; both are told they have it.
theorem oneDevice_two_scans :
    ¬ ∀ front, front <+: [0, 0, 1, 1, 2, 2, 1, 2] → (Runs.run Pairings.next twoScans front).OneDevice := by
  intro always
  have device := always _ List.prefix_rfl
  have fit := Interleaving.run_fit twoScans_fit [0, 0, 1, 1, 2, 2, 1, 2]
  have written : (Runs.run Pairings.next twoScans [0, 0, 1, 1, 2, 2, 1, 2]).tasks.map (·.progress) =
      [ { call := .offer shownOffer }, { call := .claim (claimOf 1), written := true },
        { call := .claim (claimOf 2), written := true } ] := by
    rw [twoScans_eq]
    decide +kernel
  generalize Runs.run Pairings.next twoScans [0, 0, 1, 1, 2, 2, 1, 2] = ended at device fit written
  have granted : ∀ claim, { call := .claim claim, written := true } ∈ ended.tasks.map (·.progress) →
      ended.Granted claim := by
    intro claim listed
    obtain ⟨task, member, progress⟩ := List.mem_map.mp listed
    obtain ⟨j, found⟩ := List.getElem?_of_mem member
    exact (Pairings.granted_iff fit).mpr ⟨j, task.handler, progress ▸ found⟩
  have same := device.one (claimOf 1) (claimOf 2) (granted _ (by simp [written])) (granted _ (by simp [written])) rfl
  exact absurd same (by decide)

end Wavvon.Pairing
