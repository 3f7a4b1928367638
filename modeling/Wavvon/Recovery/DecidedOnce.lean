import Wavvon.Recovery.Decisions

set_option autoImplicit false

namespace Wavvon.Recovery

open Std (ExtTreeMap)
open Interleaving (Handler Discipline Fits FitAll System Moves fits_quiet)

-- The keys of the row a call has read, and whether it has moved the roles.
structure Progress where
  seen : Option (String × String) := none
  transferred : Bool := false
  deriving DecidableEq, Repr

-- Only an approval moves roles, between the keys it has read, once, and before it writes its status.
def decisionRules (id : String) : Discipline State Statement Progress where
  advance p label s :=
    match label with
    | .fetch => { p with seen := s.requests[id]?.map fun row => (row.oldPubkey, row.newPubkey) }
    | .transfer _ _ => { p with transferred := true }
    | _ => p
  permits p label s after :=
    after = label.effect id s ∧
      match label with
      | .transfer oldPubkey newPubkey => p.seen = some (oldPubkey, newPubkey) ∧ p.transferred = false
      | .decide status _ _ => status = .approved ∧ p.transferred = true ∨ status = .rejected
      | _ => True

inductive DecisionCall where
  | approve (admin : String) (now : Int)
  | deny (admin : String) (now : Int)
  | attest (req : AttestRequest)
  deriving DecidableEq, Repr

def handleDecision (id : String) (keys : Keys) (hubPubkey : String) :
    DecisionCall → Handle (Except HttpError Unit)
  | .approve admin now => adminApprove id admin now
  | .deny admin now => adminDeny id admin now
  | .attest req => attestStatements id keys hubPubkey req

/-- Calls about one rotation request, in flight on one hub. -/
abbrev Decisions := System State Statement Progress (Except HttpError Unit)

namespace Decisions

def start (id : String) (keys : Keys) (hubPubkey : String) (s : State) (calls : List DecisionCall) : Decisions where
  shared := s
  tasks := calls.map fun call => { progress := {}, handler := handleDecision id keys hubPubkey call }

abbrev next (id : String) : Decisions → Nat → Decisions := Interleaving.step (decisionRules id)

def status (id : String) (sys : Decisions) : Option RotationStatus := sys.shared.requests[id]?.map (·.status)

def transfers (sys : Decisions) : Nat := sys.progresses.countP (·.transferred)

end Decisions

-- Nobody's roles and nobody's membership have changed.
def Unmoved (s after : State) : Prop :=
  after.auth.db.userRoles = s.auth.db.userRoles ∧
    ∀ key, memberFlag after.auth.db key = memberFlag s.auth.db key

-- The new key holds what both held, ownership apart, and the old one nothing but ownership.
def Moved (oldPubkey newPubkey : String) (s after : State) : Prop :=
  (∀ role, (newPubkey, role) ∈ after.auth.db.userRoles ↔
      (newPubkey, role) ∈ s.auth.db.userRoles ∨
        role ≠ BUILTIN_OWNER_ROLE_ID ∧ (oldPubkey, role) ∈ s.auth.db.userRoles) ∧
    ∀ role, (oldPubkey, role) ∈ after.auth.db.userRoles → role = BUILTIN_OWNER_ROLE_ID

def Decides (status : RotationStatus) : Prop := status = .approved ∨ status = .rejected

/-- The request is decided once, and the roles have moved exactly if it was approved. -/
structure DecidedOnce (id : String) (row : RotationRow) (sys : Decisions) (schedule : List Nat) : Prop where
  once : ∀ front later, front <+: later → later <+: schedule → ∀ status, Decides status →
    (Runs.run (Decisions.next id) sys front).status id = some status →
      (Runs.run (Decisions.next id) sys later).status id = some status
  rejected : ∀ front, front <+: schedule →
    (Runs.run (Decisions.next id) sys front).status id = some .rejected →
      Unmoved sys.shared (Runs.run (Decisions.next id) sys front).shared
  approved : ∀ front, front <+: schedule →
    (Runs.run (Decisions.next id) sys front).status id = some .approved →
      (Runs.run (Decisions.next id) sys front).transfers = 1 ∧
        Moved row.oldPubkey row.newPubkey sys.shared (Runs.run (Decisions.next id) sys front).shared

-- Roles move only for a request still open and not yet moved for; a denial comes before any move.
def InTime (id : String) (sys : Decisions) : Statement → Prop
  | .transfer _ _ => sys.status id ≠ some .rejected ∧ sys.transfers = 0
  | .decide status _ _ => status = .rejected → sys.transfers = 0
  | _ => True

instance (id : String) (sys : Decisions) : (label : Statement) → Decidable (InTime id sys label)
  | .transfer _ _ => inferInstanceAs (Decidable (sys.status id ≠ some .rejected ∧ sys.transfers = 0))
  | .decide status _ _ => inferInstanceAs (Decidable (status = .rejected → sys.transfers = 0))
  | .read | .fetch | .insertUser _ _ | .deleteSessions _ | .insertAttestation _ | .flipReady =>
    inferInstanceAs (Decidable True)

def Decisions.Ordered (id : String) (sys : Decisions) (i : Nat) : Prop :=
  ∀ move ∈ sys.pending i, InTime id sys move.2

instance (id : String) (sys : Decisions) (i : Nat) : Decidable (sys.Ordered id i) :=
  inferInstanceAs (Decidable (∀ move ∈ sys.pending i, InTime id sys move.2))

section

variable (id : String)

def Ends (_ : Progress) (_ : Except HttpError Unit) : Prop := True

theorem adminApprove_fits (admin : String) (now : Int) :
    Fits (decisionRules id) Ends {} (adminApprove id admin now) := by
  refine fits_quiet (fun _ => rfl) (fun _ => ⟨rfl, trivial⟩) ?_
  intro owner
  cases owner with
  | error e => trivial
  | ok _ =>
    refine ⟨fun _ => ⟨rfl, trivial⟩, ?_⟩
    intro s
    simp only [decisionRules, Handler.bind]
    cases s.requests[id]? with
    | none => trivial
    | some row =>
      dsimp only
      split
      · trivial
      · refine fits_quiet (fun _ => rfl) (fun _ => ⟨rfl, trivial⟩) ?_
        intro _
        refine ⟨fun _ => ⟨rfl, rfl, rfl⟩, ?_⟩
        intro _
        refine fits_quiet (fun _ => rfl) (fun _ => ⟨rfl, trivial⟩) ?_
        intro _
        exact ⟨fun _ => ⟨rfl, .inl ⟨rfl, rfl⟩⟩, fun _ => trivial⟩

theorem adminDeny_fits (admin : String) (now : Int) :
    Fits (decisionRules id) Ends {} (adminDeny id admin now) := by
  refine fits_quiet (fun _ => rfl) (fun _ => ⟨rfl, trivial⟩) ?_
  intro owner
  cases owner with
  | error e => trivial
  | ok _ =>
    refine ⟨fun _ => ⟨rfl, trivial⟩, ?_⟩
    intro s
    simp only [decisionRules, Handler.bind]
    cases s.requests[id]? with
    | none => trivial
    | some row =>
      dsimp only
      split
      · trivial
      · exact ⟨fun _ => ⟨rfl, .inr rfl⟩, fun _ => trivial⟩

theorem attestStatements_fits (keys : Keys) (hubPubkey : String) (req : AttestRequest) :
    Fits (decisionRules id) Ends {} (attestStatements id keys hubPubkey req) := by
  refine ⟨fun _ => ⟨rfl, trivial⟩, ?_⟩
  intro s
  simp only [Handler.bind]
  generalize (decisionRules id).advance {} .fetch s = p
  cases s.requests[id]? with
  | none => trivial
  | some row =>
    dsimp only
    split
    · trivial
    · refine fits_quiet (fun _ => rfl) (fun _ => ⟨rfl, trivial⟩) ?_
      intro contact
      split
      · trivial
      · split
        · trivial
        · refine fits_quiet (fun _ => rfl) (fun _ => ⟨rfl, trivial⟩) ?_
          intro _
          refine fits_quiet (fun _ => rfl) (fun _ => ⟨rfl, trivial⟩) ?_
          intro threshold
          refine fits_quiet (fun _ => rfl) (fun _ => ⟨rfl, trivial⟩) ?_
          intro count
          split
          · exact ⟨fun _ => ⟨rfl, trivial⟩, fun _ => trivial⟩
          · trivial

theorem handleDecision_fits (keys : Keys) (hubPubkey : String) (call : DecisionCall) :
    Fits (decisionRules id) Ends {} (handleDecision id keys hubPubkey call) := by
  cases call with
  | approve admin now => exact adminApprove_fits id admin now
  | deny admin now => exact adminDeny_fits id admin now
  | attest req => exact attestStatements_fits id keys hubPubkey req

end

section

variable {s t u : State}

theorem Unmoved.refl (s : State) : Unmoved s s := ⟨rfl, fun _ => rfl⟩

theorem Unmoved.trans (first : Unmoved s t) (second : Unmoved t u) : Unmoved s u :=
  ⟨second.1.trans first.1, fun key => (second.2 key).trans (first.2 key)⟩

theorem Moved.unmoved {oldPubkey newPubkey : String} (moved : Moved oldPubkey newPubkey s t)
    (unmoved : Unmoved t u) : Moved oldPubkey newPubkey s u := by
  unfold Moved
  rw [unmoved.1]
  exact moved

theorem insertUser_memberFlag (db : Db) (publicKey : String) (now : Int) (key : String) :
    memberFlag (insertUser db publicKey now) key = memberFlag db key := by
  unfold memberFlag insertUser
  rw [ExtTreeMap.getElem?_insertIfNew]
  split
  next fresh =>
    obtain ⟨rfl, absent⟩ := (and_congr_left' Std.compare_eq_iff_eq).mp fresh
    rw [ExtTreeMap.getElem?_eq_none absent]
    rfl
  next => rfl

theorem mem_nonOwnerRoles {db : Db} {publicKey role : String} :
    role ∈ nonOwnerRoles db publicKey ↔ (publicKey, role) ∈ db.userRoles ∧ role ≠ BUILTIN_OWNER_ROLE_ID := by
  simp only [nonOwnerRoles, Finset.mem_image, Finset.mem_filter, Prod.exists]
  constructor
  · rintro ⟨holder, other, ⟨held, rfl, plain⟩, rfl⟩
    exact ⟨held, plain⟩
  · rintro ⟨held, plain⟩
    exact ⟨publicKey, role, ⟨held, rfl, plain⟩, rfl⟩

theorem transferRoles_userRoles (db : Db) (oldPubkey newPubkey : String) (row : String × String) :
    row ∈ (transferRoles db oldPubkey newPubkey).userRoles ↔
      (row ∈ db.userRoles ∨ row.1 = newPubkey ∧ row.2 ∈ nonOwnerRoles db oldPubkey) ∧
        ¬ (row.1 = oldPubkey ∧ row.2 ≠ BUILTIN_OWNER_ROLE_ID) := by
  obtain ⟨holder, role⟩ := row
  have copied : (holder, role) ∈ (nonOwnerRoles db oldPubkey).image (fun role => (newPubkey, role)) ↔
      holder = newPubkey ∧ role ∈ nonOwnerRoles db oldPubkey := by
    rw [Finset.mem_image]
    constructor
    · rintro ⟨other, member, same⟩
      cases same
      exact ⟨rfl, member⟩
    · rintro ⟨rfl, member⟩
      exact ⟨role, member, rfl⟩
  unfold transferRoles
  rw [Finset.mem_filter]
  refine and_congr_left' ?_
  rw [← copied, ← Finset.mem_union]
  split <;> exact Iff.rfl

theorem transfer_moved (id : String) {oldPubkey newPubkey : String} (apart : oldPubkey ≠ newPubkey)
    (unmoved : Unmoved s t) :
    Moved oldPubkey newPubkey s ((Statement.transfer oldPubkey newPubkey).effect id t) := by
  refine ⟨?_, ?_⟩
  · intro role
    rw [← unmoved.1]
    refine (transferRoles_userRoles t.auth.db oldPubkey newPubkey (newPubkey, role)).trans ?_
    simp only [mem_nonOwnerRoles, Ne.symm apart]
    tauto
  · intro role held
    by_contra plain
    exact ((transferRoles_userRoles t.auth.db oldPubkey newPubkey (oldPubkey, role)).mp held).2 ⟨rfl, plain⟩

end

/-- What holds of the row, the roles and the number of transfers made while the calls are in time. -/
structure Stage (id : String) (row : RotationRow) (s t : State) (transfers : Nat) : Prop where
  named : ∃ found, t.requests[id]? = some found ∧ found.oldPubkey = row.oldPubkey ∧ found.newPubkey = row.newPubkey
  few : transfers ≤ 1
  unmoved : transfers = 0 → Unmoved s t ∧ t.requests[id]?.map (·.status) ≠ some .approved
  moved : transfers = 1 → Moved row.oldPubkey row.newPubkey s t ∧ t.requests[id]?.map (·.status) ≠ some .rejected

section

variable {id : String} {row : RotationRow} {s t after : State} {n : Nat}

-- A step that moves nobody and leaves the keys of the row.
theorem Stage.still (stage : Stage id row s t n) (unmoved : Unmoved t after)
    {change : RotationRow → RotationRow}
    (changed : after.requests[id]? = (t.requests[id]?).map change)
    (named : ∀ found, (change found).oldPubkey = found.oldPubkey ∧ (change found).newPubkey = found.newPubkey)
    (approved : ∀ found, (change found).status = .approved → found.status = .approved ∨ n = 1)
    (rejected : ∀ found, (change found).status = .rejected → found.status = .rejected ∨ n = 0) :
    Stage id row s after n := by
  obtain ⟨found, here, old, new⟩ := stage.named
  rw [here] at changed
  refine ⟨⟨change found, changed, ?_, ?_⟩, stage.few, ?_, ?_⟩
  · exact (named found).1.trans old
  · exact (named found).2.trans new
  · intro none
    obtain ⟨still, unapproved⟩ := stage.unmoved none
    refine ⟨still.trans unmoved, ?_⟩
    intro status
    rw [changed] at status
    rw [here] at unapproved
    rcases approved found (Option.some.inj status) with before | one
    · exact unapproved (congrArg some before)
    · omega
  · intro one
    obtain ⟨moved, unrejected⟩ := stage.moved one
    refine ⟨moved.unmoved unmoved, ?_⟩
    intro status
    rw [changed] at status
    rw [here] at unrejected
    rcases rejected found (Option.some.inj status) with before | none
    · exact unrejected (congrArg some before)
    · omega

theorem Stage.transferred (stage : Stage id row s t 0) (apart : row.oldPubkey ≠ row.newPubkey)
    (unrejected : t.requests[id]?.map (·.status) ≠ some .rejected) :
    Stage id row s ((Statement.transfer row.oldPubkey row.newPubkey).effect id t) 1 where
  named := stage.named
  few := Nat.le_refl 1
  unmoved none := by omega
  moved _ := ⟨transfer_moved id apart (stage.unmoved rfl).1, unrejected⟩

-- The statements that touch neither the request nor anybody's roles.
def Aside : Statement → Prop
  | .transfer _ _ | .decide _ _ _ | .flipReady => False
  | _ => True

theorem aside_same {label : Statement} (aside : Aside label) :
    Unmoved t (label.effect id t) ∧ (label.effect id t).requests = t.requests := by
  cases label with
  | read | fetch | insertAttestation _ => exact ⟨Unmoved.refl t, rfl⟩
  | insertUser publicKey now => exact ⟨⟨rfl, insertUser_memberFlag t.auth.db publicKey now⟩, rfl⟩
  | deleteSessions publicKey => exact ⟨⟨rfl, fun _ => rfl⟩, rfl⟩
  | transfer _ _ | decide _ _ _ | flipReady => exact aside.elim

theorem Stage.aside (stage : Stage id row s t n) {label : Statement} (aside : Aside label) :
    Stage id row s (label.effect id t) n := by
  obtain ⟨unmoved, same⟩ : Unmoved t (label.effect id t) ∧ (label.effect id t).requests = t.requests :=
    aside_same aside
  refine stage.still unmoved ((congrArg (·[id]?) same).trans Option.map_id'.symm) ?_ ?_ ?_
  · exact fun _ => ⟨rfl, rfl⟩
  · exact fun _ => .inl
  · exact fun _ => .inl

theorem flipReady_decided {found : RotationRow} {status : RotationStatus} (decides : Decides status) :
    (flipReady found).status = status ↔ found.status = status := by
  unfold flipReady
  split
  next pending =>
    rw [pending]
    rcases decides with rfl | rfl <;> simp
  next => exact Iff.rfl

theorem Stage.flipped (stage : Stage id row s t n) : Stage id row s (Statement.flipReady.effect id t) n := by
  refine stage.still (Unmoved.refl t) ExtTreeMap.getElem?_modify_self ?_ ?_ ?_
  · intro found
    unfold flipReady
    split <;> exact ⟨rfl, rfl⟩
  · intro found
    exact fun status => .inl ((flipReady_decided (.inl rfl)).mp status)
  · intro found
    exact fun status => .inl ((flipReady_decided (.inr rfl)).mp status)

theorem Stage.decided (stage : Stage id row s t n) {status : RotationStatus} (now : Int) (admin : String)
    (approved : status = .approved → n = 1) (rejected : status = .rejected → n = 0) :
    Stage id row s ((Statement.decide status now admin).effect id t) n := by
  refine stage.still (Unmoved.refl t) ExtTreeMap.getElem?_modify_self ?_ ?_ ?_
  · exact fun _ => ⟨rfl, rfl⟩
  · exact fun _ same => .inr (approved same)
  · exact fun _ same => .inr (rejected same)

end

/-- The run so far: no call holds other keys than the row's, and the stage is that of the transfers made. -/
structure Held (id : String) (row : RotationRow) (s : State) (sys : Decisions) : Prop where
  fit : FitAll (decisionRules id) Ends sys
  seen : ∀ p ∈ sys.progresses, ∀ read ∈ p.seen, read = (row.oldPubkey, row.newPubkey)
  stage : Stage id row s sys.shared sys.transfers

section

variable {id : String} {row : RotationRow} {s : State} {sys : Decisions} {i : Nat} {p : Progress} {label : Statement}

theorem advance_seen (held : Held id row s sys) (member : p ∈ sys.progresses) :
    ∀ read ∈ ((decisionRules id).advance p label sys.shared).seen, read = (row.oldPubkey, row.newPubkey) := by
  have before := held.seen p member
  obtain ⟨found, here, old, new⟩ := held.stage.named
  cases label with
  | fetch =>
    intro read fetched
    simp only [decisionRules, here, Option.map_some, Option.mem_some_iff, old, new] at fetched
    exact fetched.symm
  | read | insertUser _ _ | transfer _ _ | deleteSessions _ | decide _ _ _ | insertAttestation _ | flipReady =>
    exact before

theorem transfers_step (waits : sys.AtStatement i p label)
    (same : ((decisionRules id).advance p label sys.shared).transferred = p.transferred) :
    (Decisions.next id sys i).transfers = sys.transfers := by
  have counted := Interleaving.step_countP (decisionRules id) waits (·.transferred)
  rw [same] at counted
  exact Nat.add_right_cancel counted

theorem transfers_transfer {oldPubkey newPubkey : String} (waits : sys.AtStatement i p (.transfer oldPubkey newPubkey))
    (before : p.transferred = false) : (Decisions.next id sys i).transfers = sys.transfers + 1 := by
  have counted := Interleaving.step_countP (decisionRules id) waits (·.transferred)
  rw [before] at counted
  exact counted

theorem transfers_pos (member : p ∈ sys.progresses) (transferred : p.transferred = true) : 0 < sys.transfers :=
  List.countP_pos_iff.mpr ⟨p, member, transferred⟩

theorem stage_step (apart : row.oldPubkey ≠ row.newPubkey) (held : Held id row s sys)
    (moves : Moves (decisionRules id) sys (Decisions.next id sys i) i p label) (timely : InTime id sys label) :
    Stage id row s (Decisions.next id sys i).shared (Decisions.next id sys i).transfers := by
  have waits := moves.atStatement
  have member : p ∈ sys.progresses := List.mem_of_getElem? (Interleaving.step_progresses (decisionRules id) waits).1
  obtain ⟨effect, allowed⟩ := moves.permitted
  rw [effect]
  cases label with
  | read | fetch | insertUser _ _ | deleteSessions _ | insertAttestation _ =>
    rw [transfers_step waits rfl]
    exact held.stage.aside trivial
  | flipReady =>
    rw [transfers_step waits rfl]
    exact held.stage.flipped
  | transfer oldPubkey newPubkey =>
    obtain ⟨unrejected, none⟩ := timely
    obtain ⟨read, before⟩ := allowed
    cases held.seen p member _ read
    rw [transfers_transfer waits before, none]
    exact (none ▸ held.stage).transferred apart unrejected
  | decide status now admin =>
    rw [transfers_step waits rfl]
    have few := held.stage.few
    refine held.stage.decided now admin ?_ timely
    intro approved
    rcases allowed with ⟨_, transferred⟩ | rejected
    · have some := transfers_pos member transferred
      omega
    · cases approved.symm.trans rejected

theorem held_step (apart : row.oldPubkey ≠ row.newPubkey) (held : Held id row s sys)
    (timely : sys.Ordered id i) : Held id row s (Decisions.next id sys i) := by
  rcases Interleaving.step_cases held.fit i with idle | ⟨p, label, moves⟩
  · rw [Decisions.next, idle]
    exact held
  · have waits := moves.atStatement
    obtain ⟨found, after⟩ := Interleaving.step_progresses (decisionRules id) waits
    refine ⟨Interleaving.step_fit held.fit i, ?_, ?_⟩
    · intro q member
      rw [after] at member
      rcases List.mem_or_eq_of_mem_set member with old | rfl
      · exact held.seen q old
      · exact advance_seen held (List.mem_of_getElem? found)
    · exact stage_step apart held moves (timely (p, label) (System.atStatement_iff.mp waits))

-- A decision that has been written is not written over.
theorem status_step (held : Held id row s sys) (timely : sys.Ordered id i) {status : RotationStatus}
    (decides : Decides status) (before : sys.status id = some status) :
    (Decisions.next id sys i).status id = some status := by
  rcases Interleaving.step_cases held.fit i with idle | ⟨p, label, moves⟩
  · rw [Decisions.next, idle]
    exact before
  · have waits := moves.atStatement
    have member : p ∈ sys.progresses :=
      List.mem_of_getElem? (Interleaving.step_progresses (decisionRules id) waits).1
    have inTime : InTime id sys label := timely (p, label) (System.atStatement_iff.mp waits)
    obtain ⟨effect, allowed⟩ := moves.permitted
    unfold Decisions.status at before ⊢
    rw [effect]
    cases label with
    | read | fetch | insertUser _ _ | deleteSessions _ | insertAttestation _ | transfer _ _ => exact before
    | flipReady =>
      obtain ⟨found, here, same⟩ := Option.map_eq_some_iff.mp before
      refine Option.map_eq_some_iff.mpr ⟨flipReady found, ?_, (flipReady_decided decides).mpr same⟩
      exact ExtTreeMap.getElem?_modify_self.trans (congrArg (Option.map flipReady) here)
    | decide written now admin =>
      have few := held.stage.few
      have decided : written = status := by
        rcases allowed with ⟨rfl, transferred⟩ | rfl
        · have some := transfers_pos member transferred
          rcases decides with rfl | rfl
          · rfl
          · exact absurd before (held.stage.moved (by omega)).2
        · rcases decides with rfl | rfl
          · exact absurd before (held.stage.unmoved (inTime rfl)).2
          · rfl
      obtain ⟨found, here, same⟩ := Option.map_eq_some_iff.mp before
      simp only [Statement.effect, ExtTreeMap.getElem?_modify_self, here, Option.map_some, decided]

end

section

variable {id : String} {row : RotationRow} {s : State}

theorem start_held (keys : Keys) (hubPubkey : String) (found : s.requests[id]? = some row)
    (undecided : row.status ≠ .approved) (calls : List DecisionCall) :
    Held id row s (Decisions.start id keys hubPubkey s calls) := by
  have fresh : ∀ p ∈ (Decisions.start id keys hubPubkey s calls).progresses, p = {} := by
    intro p member
    simp only [System.progresses, Decisions.start, List.map_map, List.mem_map] at member
    obtain ⟨_, _, rfl⟩ := member
    rfl
  have none : (Decisions.start id keys hubPubkey s calls).transfers = 0 := by
    refine List.countP_eq_zero.mpr ?_
    intro p member
    simp [fresh p member]
  refine ⟨?_, ?_, ?_⟩
  · intro task member
    obtain ⟨call, _, rfl⟩ := List.mem_map.mp member
    exact handleDecision_fits id keys hubPubkey call
  · intro p member read seen
    rw [fresh p member] at seen
    cases seen
  · rw [none]
    refine ⟨⟨row, found, rfl, rfl⟩, Nat.zero_le 1, fun _ => ⟨Unmoved.refl s, ?_⟩, fun one => by omega⟩
    rw [show (Decisions.start id keys hubPubkey s calls).shared = s from rfl, found]
    exact fun approved => undecided (Option.some.inj approved)

theorem held_run (apart : row.oldPubkey ≠ row.newPubkey) {sys : Decisions} (held : Held id row s sys)
    {schedule : List Nat} (met : Runs.Meets (Decisions.next id) (Decisions.Ordered id) sys schedule) :
    Held id row s (Runs.run (Decisions.next id) sys schedule) :=
  met.invariant (Held id row s) (fun _ _ held timely => held_step apart held timely) held

theorem status_run (apart : row.oldPubkey ≠ row.newPubkey) {sys : Decisions} (held : Held id row s sys)
    {schedule : List Nat} (met : Runs.Meets (Decisions.next id) (Decisions.Ordered id) sys schedule)
    {status : RotationStatus} (decides : Decides status) (before : sys.status id = some status) :
    (Runs.run (Decisions.next id) sys schedule).status id = some status :=
  met.climbs (Held id row s) (fun sys after => sys.status id = some status → after.status id = some status)
    (fun _ same => same) (fun first second same => second (first same))
    (fun _ _ held timely => held_step apart held timely)
    (fun _ _ held timely => status_step held timely decides) held before

/-- Calls in time decide the request once and move the roles with an approval, in every order of their statements. -/
theorem decidedOnce_run (id : String) (keys : Keys) (hubPubkey : String) (s : State) (row : RotationRow)
    (found : s.requests[id]? = some row) (apart : row.oldPubkey ≠ row.newPubkey)
    (undecided : row.status ≠ .approved) (calls : List DecisionCall) (schedule : List Nat)
    (met : Runs.Meets (Decisions.next id) (Decisions.Ordered id)
      (Decisions.start id keys hubPubkey s calls) schedule) :
    DecidedOnce id row (Decisions.start id keys hubPubkey s calls) schedule := by
  have initial := start_held keys hubPubkey found undecided calls
  have here : ∀ front, front <+: schedule →
      Runs.Meets (Decisions.next id) (Decisions.Ordered id) (Decisions.start id keys hubPubkey s calls) front ∧
        Held id row s (Runs.run (Decisions.next id) (Decisions.start id keys hubPubkey s calls) front) := by
    rintro front ⟨rest, rfl⟩
    obtain ⟨metFront, _⟩ := Runs.Meets.append.mp met
    exact ⟨metFront, held_run apart initial metFront⟩
  constructor
  · rintro front later ⟨between, rfl⟩ before status decides decided
    obtain ⟨metLater, _⟩ := here (front ++ between) before
    obtain ⟨metFront, metBetween⟩ := Runs.Meets.append.mp metLater
    rw [Runs.run_append]
    exact status_run apart (held_run apart initial metFront) metBetween decides decided
  · intro front before rejected
    have stage := (here front before).2.stage
    have few := stage.few
    by_cases none : (Runs.run (Decisions.next id) (Decisions.start id keys hubPubkey s calls) front).transfers = 0
    next => exact (stage.unmoved none).1
    next => exact absurd rejected (stage.moved (by omega)).2
  · intro front before approved
    have stage := (here front before).2.stage
    have few := stage.few
    by_cases none : (Runs.run (Decisions.next id) (Decisions.start id keys hubPubkey s calls) front).transfers = 0
    next => exact absurd approved (stage.unmoved none).2
    next =>
      have one : (Runs.run (Decisions.next id) (Decisions.start id keys hubPubkey s calls) front).transfers = 1 := by
        omega
      exact ⟨one, (stage.moved one).1⟩

end

-- An owner, a request that waits for the owner's decision, and a role the old key holds.
def awaiting : State :=
  { auth := { db := {
      users := ((∅ : Table User).insert "lost" { isMember := true }).insert "admin" { isMember := true }
      roles := ((∅ : Table Role).insert BUILTIN_OWNER_ROLE_ID { name := "owner", priority := 1000 }).insert
        "moderator" { name := "moderator", priority := 10 }
      userRoles := {("admin", BUILTIN_OWNER_ROLE_ID), ("lost", "moderator")} } }
    requests := (∅ : Table RotationRow).insert "request"
      { oldPubkey := "lost", newPubkey := "found", status := .readyForReview, createdAt := 6 } }

theorem decidedOnce_run_approval :
    DecidedOnce "request" { oldPubkey := "lost", newPubkey := "found", status := .readyForReview, createdAt := 6 }
      (Decisions.start "request" openKeys "hub" awaiting [.approve "admin" 9, .deny "admin" 9])
      [0, 0, 0, 0, 0, 0, 1, 1] :=
  decidedOnce_run "request" openKeys "hub" awaiting _ (by simp [awaiting]) (by decide) (by decide) _ _
    (by decide)

-- Both calls read the request as ready, and the denial is written after the roles have moved.
theorem decidedOnce_crossed :
    ¬ DecidedOnce "request" { oldPubkey := "lost", newPubkey := "found", status := .readyForReview, createdAt := 6 }
      (Decisions.start "request" openKeys "hub" awaiting [.approve "admin" 9, .deny "admin" 9])
      [0, 0, 1, 1, 0, 0, 0, 0, 1] := by
  intro decided
  have unmoved := (decided.rejected _ List.prefix_rfl (by decide)).1
  revert unmoved
  decide

end Wavvon.Recovery
