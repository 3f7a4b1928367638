import Wavvon.Auth.StatementsAlone
import Wavvon.Invites.Handlers

set_option autoImplicit false

namespace Wavvon.Invites

open Std (ExtTreeMap)
open Interleaving (Handler Discipline Fits FitAll System Moves)

-- What a statement of a redemption is, as far as the uses of the invites are concerned.
inductive Statement where
  | aside
  | fetch
  | take (code : String)
  | enter
  | count (code : String)
  deriving DecidableEq, Repr

abbrev Handle (A : Type) := Handler AuthState Statement A

def fetchInvite (code : String) : Handle (Option Invite) := .exec .fetch id fun s => s.tables.invites[code]?

-- The guarded increment, and whether it has found a use left.
def takeUse (code : String) : Handle Bool :=
  .exec (.take code)
    (fun s => { s with tables := { s.tables with invites := s.tables.invites.modify code Invite.spend } })
    fun s => s.tables.invites[code]?.any Invite.hasUses

def admitRow (s : AuthState) (publicKey : String) : AuthState := { s with db := admitMember s.db publicKey }

def checkRedeemable (invite : Invite) (candidates : List String) (now : Int) : Except HttpError Unit :=
  if invite.expiresAt.any (· < now) then .error (403, "Invite code has expired")
  else if !redeemableBy invite.boundPubkey candidates then
    .error (403, "This invite was issued to a different key")
  else .ok ()

def validateAndUse (code : String) (candidates : List String) (now : Int) :
    Handle (Except HttpError InviteRedemption) := do
  let found ← fetchInvite code
  match found with
  | none => return .error (403, "Invalid invite code")
  | some invite =>
    match checkRedeemable invite candidates now with
    | .error e => return .error e
    | .ok _ =>
      let taken ← takeUse code
      if taken then return .ok (redemptionOf invite) else return .error (403, "Invite code has been used up")

-- The role is decided on one reading of the tables and written after.
def grantStatements (redemption : InviteRedemption) (publicKey : String) : Handle (Except HttpError Unit) := do
  let role ← Handler.exec .aside id fun s => inviteRole s.db redemption
  match role with
  | none => return .ok ()
  | some roleId =>
    Handler.exec .aside (fun s => { s with db := (grantRole s.db publicKey roleId).1 })
      fun s => (grantRole s.db publicKey roleId).2

-- What `/auth/verify` does with a code: the use is taken before the admission.
def registerStatements (publicKey code : String) (candidates : List String) (now : Int) :
    Handle (Except HttpError Unit) :=
  (validateAndUse code candidates now).andThen fun redemption => do
    Handler.exec .aside (admitRow · publicKey) fun _ => ()
    grantStatements redemption publicKey

-- What `/join/:code` does: the use is counted after the admission, whatever the count is by then.
def joinStatements (publicKey : String) (master : Option String) (code : String) (now : Int) :
    Handle (Except HttpError Unit) := do
  let found ← fetchInvite code
  match found with
  | none => return .error notFound
  | some invite =>
    match checkJoin invite (publicKey :: master.toList) now with
    | .error e => return .error e
    | .ok _ =>
      Handler.exec .enter (admitRow · publicKey) fun _ => ()
      Handler.exec (.count code) (countUse · code) fun _ => ()
      Handler.exec .aside (autoApprove · publicKey) fun _ => ()
      grantStatements (redemptionOf invite) publicKey

section

variable {A B : Type}

theorem exec_bind_alone (label : Statement) (effect : AuthState → AuthState) (read : AuthState → A)
    (rest : A → Handle B) (s : AuthState) :
    (Handler.exec label effect read >>= rest).alone s = (rest (read s)).alone (effect s) := rfl

theorem grantStatements_alone (redemption : InviteRedemption) (publicKey : String) (s : AuthState) :
    (grantStatements redemption publicKey).alone s =
      ({ s with db := (applyInviteRoleGrant s.db redemption publicKey).1 },
        (applyInviteRoleGrant s.db redemption publicKey).2) := by
  unfold grantStatements applyInviteRoleGrant
  rw [exec_bind_alone]
  cases inviteRole s.db redemption <;> rfl

-- With nobody in between, the statements are the handlers that run to completion.
theorem joinStatements_alone (publicKey : String) (master : Option String) (code : String) (now : Int)
    (s : AuthState) :
    (joinStatements publicKey master code now).alone s = joinWithInvite s publicKey master code now := by
  unfold joinStatements joinWithInvite fetchInvite
  rw [exec_bind_alone]
  cases s.tables.invites[code]? with
  | none => rfl
  | some invite =>
    dsimp only
    cases checkJoin invite (publicKey :: master.toList) now with
    | error e => rfl
    | ok _ =>
      dsimp only
      rw [exec_bind_alone, exec_bind_alone, exec_bind_alone, grantStatements_alone]
      rfl

theorem validateAndUse_alone (code : String) (candidates : List String) (now : Int) (s : AuthState) :
    (validateAndUse code candidates now).alone s =
      match validateAndUseInvite s code candidates now with
      | .error e => (s, .error e)
      | .ok (spent, redemption) => (spent, .ok redemption) := by
  unfold validateAndUse validateAndUseInvite fetchInvite checkRedeemable
  rw [exec_bind_alone]
  cases found : s.tables.invites[code]? with
  | none => rfl
  | some invite =>
    dsimp only [id_eq]
    by_cases expired : invite.expiresAt.any (· < now) = true
    next => simp only [if_pos expired, Handler.alone_pure]
    next =>
      by_cases foreign : (!redeemableBy invite.boundPubkey candidates) = true
      next => simp only [if_neg expired, if_pos foreign, Handler.alone_pure]
      next =>
        simp only [if_neg expired, if_neg foreign, takeUse]
        rw [exec_bind_alone]
        by_cases spent : invite.maxUses.any (· ≤ invite.uses) = true
        next =>
          have unchanged : invite.spend = invite := by simp [Invite.spend, Invite.hasUses, spent]
          rw [Tables.modify_found found, unchanged, Tables.insert_self found]
          simp [found, Invite.hasUses, spent]
        next =>
          rw [Tables.modify_found found]
          simp [found, Invite.spend, Invite.hasUses, spent, redemptionOf]

end

-- Whether a redemption has let its caller in, and whether it has counted its use.
structure Progress where
  code : String
  admitted : Bool := false
  counted : Bool := false
  deriving DecidableEq, Repr

def hasUse (s : AuthState) (code : String) : Bool := s.tables.invites[code]?.any Invite.hasUses

-- A taken use is an admission already counted; a join is admitted first and counts after.
def redemptionRules : Discipline AuthState Statement Progress where
  advance p label s :=
    match label with
    | .take _ => if hasUse s p.code then { p with admitted := true, counted := true } else p
    | .enter => { p with admitted := true }
    | .count _ => { p with counted := true }
    | .aside | .fetch => p
  permits p label s after :=
    match label with
    | .aside | .fetch => after.tables.invites = s.tables.invites
    | .take code => code = p.code ∧ p.admitted = false ∧
        after.tables.invites = s.tables.invites.modify code Invite.spend
    | .enter => p.admitted = false ∧ p.counted = false ∧ after.tables.invites = s.tables.invites
    | .count code => code = p.code ∧ p.admitted = true ∧ p.counted = false ∧
        after.tables.invites = s.tables.invites.modify code fun invite => { invite with uses := invite.uses + 1 }

inductive RedeemCall where
  | register (publicKey code : String) (candidates : List String) (now : Int)
  | join (publicKey : String) (master : Option String) (code : String) (now : Int)
  deriving DecidableEq, Repr

def RedeemCall.code : RedeemCall → String
  | .register _ code _ _ | .join _ _ code _ => code

def RedeemCall.handler : RedeemCall → Handle (Except HttpError Unit)
  | .register publicKey code candidates now => registerStatements publicKey code candidates now
  | .join publicKey master code now => joinStatements publicKey master code now

/-- Redemptions in flight on one hub, of this invite and of others. -/
abbrev Redemptions := System AuthState Statement Progress (Except HttpError Unit)

def Progress.within (code : String) (p : Progress) : Bool := decide (p.code = code) && p.admitted

-- Let in, with the increment still to come.
def Progress.waiting (code : String) (p : Progress) : Bool := p.within code && !p.counted

namespace Redemptions

def start (s : AuthState) (calls : List RedeemCall) : Redemptions where
  shared := s
  tasks := calls.map fun call => { progress := { code := call.code }, handler := call.handler }

abbrev next : Redemptions → Nat → Redemptions := Interleaving.step redemptionRules

def admitted (code : String) (sys : Redemptions) : Nat := sys.progresses.countP (·.within code)

def uncounted (code : String) (sys : Redemptions) : Nat := sys.progresses.countP (·.waiting code)

end Redemptions

def usesOf (s : AuthState) (code : String) : Int := (s.tables.invites[code]?.map (·.uses)).getD 0

/-- The uses stay within the limit, and so do the redemptions: those before the run and those of it. -/
structure LimitKept (code : String) (limit before : Int) (sys : Redemptions) : Prop where
  uses : usesOf sys.shared code ≤ limit
  admitted : before + sys.admitted code ≤ limit

-- The statement lets its caller in on this invite.
def Gains (code : String) (s : AuthState) (p : Progress) : Statement → Prop
  | .take _ => p.code = code ∧ hasUse s code = true
  | .enter => p.code = code
  | _ => False

instance (code : String) (s : AuthState) (p : Progress) : (label : Statement) → Decidable (Gains code s p label)
  | .take _ => inferInstanceAs (Decidable (p.code = code ∧ hasUse s code = true))
  | .enter => inferInstanceAs (Decidable (p.code = code))
  | .aside | .fetch | .count _ => inferInstanceAs (Decidable False)

-- Whoever is about to be let in finds a use left that no join in flight is about to count.
def Spare (code : String) (limit : Int) (sys : Redemptions) (p : Progress) (label : Statement) : Prop :=
  Gains code sys.shared p label → usesOf sys.shared code + sys.uncounted code < limit

instance (code : String) (limit : Int) (sys : Redemptions) (p : Progress) (label : Statement) :
    Decidable (Spare code limit sys p label) :=
  inferInstanceAs (Decidable (Gains code sys.shared p label → usesOf sys.shared code + sys.uncounted code < limit))

def Redemptions.Spares (code : String) (limit : Int) (sys : Redemptions) (i : Nat) : Prop :=
  ∀ move ∈ sys.pending i, Spare code limit sys move.1 move.2

instance (code : String) (limit : Int) (sys : Redemptions) (i : Nat) : Decidable (sys.Spares code limit i) :=
  inferInstanceAs (Decidable (∀ move ∈ sys.pending i, Spare code limit sys move.1 move.2))

section

def Ends (_ : Progress) (_ : Except HttpError Unit) : Prop := True

variable {A B : Type} {post : Progress → B → Prop} {p : Progress}

-- A statement that has nothing to do with the invites.
theorem aside_bind {effect : AuthState → AuthState} {read : AuthState → A} {rest : A → Handle B}
    (same : ∀ s, (effect s).tables.invites = s.tables.invites)
    (goesOn : ∀ answer, Fits redemptionRules post p (rest answer)) :
    Fits redemptionRules post p (Handler.exec .aside effect read >>= rest) :=
  ⟨same, fun s => goesOn (read s)⟩

theorem fetch_bind {code : String} {rest : Option Invite → Handle B}
    (goesOn : ∀ found, Fits redemptionRules post p (rest found)) :
    Fits redemptionRules post p (fetchInvite code >>= rest) :=
  ⟨fun _ => rfl, fun _ => goesOn _⟩

theorem grantStatements_fits (redemption : InviteRedemption) (publicKey : String) (p : Progress) :
    Fits redemptionRules Ends p (grantStatements redemption publicKey) := by
  refine aside_bind (fun _ => rfl) ?_
  intro role
  cases role with
  | none => trivial
  | some roleId => exact ⟨fun _ => rfl, fun _ => trivial⟩

theorem validateAndUse_fits (code : String) (candidates : List String) (now : Int) :
    Fits redemptionRules (fun _ _ => True) { code := code } (validateAndUse code candidates now) := by
  refine fetch_bind ?_
  intro found
  cases found with
  | none => trivial
  | some invite =>
    dsimp only
    split
    · trivial
    · refine ⟨fun _ => ⟨rfl, rfl, rfl⟩, ?_⟩
      intro s
      simp only [Handler.bind]
      split <;> trivial

theorem registerStatements_fits (publicKey code : String) (candidates : List String) (now : Int) :
    Fits redemptionRules Ends { code := code } (registerStatements publicKey code candidates now) := by
  refine (validateAndUse_fits code candidates now).andThen (fun _ _ _ => trivial) ?_
  intro p redemption _
  exact aside_bind (fun _ => rfl) fun _ => grantStatements_fits redemption publicKey p

theorem joinStatements_fits (publicKey : String) (master : Option String) (code : String) (now : Int) :
    Fits redemptionRules Ends { code := code } (joinStatements publicKey master code now) := by
  unfold joinStatements
  refine fetch_bind ?_
  intro found
  cases found with
  | none => trivial
  | some invite =>
    dsimp only
    split
    · trivial
    · refine ⟨fun _ => ⟨rfl, rfl, rfl⟩, ?_⟩
      intro _
      refine ⟨fun _ => ⟨rfl, rfl, rfl, rfl⟩, ?_⟩
      intro _
      refine aside_bind ?_ fun _ => grantStatements_fits _ publicKey _
      intro s
      unfold autoApprove
      split <;> rfl

theorem handler_fits (call : RedeemCall) : Fits redemptionRules Ends { code := call.code } call.handler := by
  cases call with
  | register publicKey code candidates now => exact registerStatements_fits publicKey code candidates now
  | join publicKey master code now => exact joinStatements_fits publicKey master code now

end

section

variable {code : String} {limit before : Int} {sys : Redemptions} {i : Nat} {p : Progress} {label : Statement}

/-- How one statement changes the books of the invite. -/
structure Books (code : String) (limit : Int) (sys after : Redemptions) (gain : Nat) : Prop where
  limited : ∃ invite, after.shared.tables.invites[code]? = some invite ∧ invite.maxUses = some limit
  total : usesOf after.shared code + after.uncounted code = usesOf sys.shared code + sys.uncounted code + gain
  admitted : after.admitted code = sys.admitted code + gain

theorem books {old new : Invite} {gain : Nat} (waits : sys.AtStatement i p label)
    (before : sys.shared.tables.invites[code]? = some old)
    (after : (Redemptions.next sys i).shared.tables.invites[code]? = some new) (limited : new.maxUses = some limit)
    (total : new.uses + ((redemptionRules.advance p label sys.shared).waiting code).toNat =
      old.uses + (p.waiting code).toNat + gain)
    (admitted : ((redemptionRules.advance p label sys.shared).within code).toNat = (p.within code).toNat + gain) :
    Books code limit sys (Redemptions.next sys i) gain := by
  have counts : ∀ kind : Progress → Bool,
      (Redemptions.next sys i).progresses.countP kind + (kind p).toNat =
        sys.progresses.countP kind + (kind (redemptionRules.advance p label sys.shared)).toNat := by
    intro kind
    have moved := Interleaving.step_countP redemptionRules waits kind
    revert moved
    cases kind p <;> cases kind (redemptionRules.advance p label sys.shared) <;> exact id
  have waiting : (Redemptions.next sys i).uncounted code + (p.waiting code).toNat =
      sys.uncounted code + ((redemptionRules.advance p label sys.shared).waiting code).toNat := counts _
  have within : (Redemptions.next sys i).admitted code + (p.within code).toNat =
      sys.admitted code + ((redemptionRules.advance p label sys.shared).within code).toNat := counts _
  have usesAfter : usesOf (Redemptions.next sys i).shared code = new.uses := by simp [usesOf, after]
  have usesBefore : usesOf sys.shared code = old.uses := by simp [usesOf, before]
  refine ⟨⟨new, after, limited⟩, ?_, ?_⟩
  · rw [usesAfter, usesBefore]
    omega
  · omega

theorem modify_elsewhere {s after : AuthState} {other : String} {change : Invite → Invite}
    (same : after.tables.invites = s.tables.invites.modify other change) (apart : other ≠ code) :
    after.tables.invites[code]? = s.tables.invites[code]? := by
  rw [same, ExtTreeMap.getElem?_modify, if_neg (by simpa using apart)]

theorem advance_elsewhere (other : p.code ≠ code) (s : AuthState) :
    (redemptionRules.advance p label s).within code = false ∧ p.within code = false ∧
      (redemptionRules.advance p label s).waiting code = false ∧ p.waiting code = false := by
  have kept : (redemptionRules.advance p label s).code = p.code := by
    cases label with
    | take _ =>
      simp only [redemptionRules]
      split <;> rfl
    | aside | fetch | enter | count _ => rfl
  simp [Progress.within, Progress.waiting, kept, other]

-- A redemption of another invite.
theorem books_elsewhere (waits : sys.AtStatement i p label) (other : p.code ≠ code)
    (limited : ∃ invite, sys.shared.tables.invites[code]? = some invite ∧ invite.maxUses = some limit)
    (same : (Redemptions.next sys i).shared.tables.invites[code]? = sys.shared.tables.invites[code]?) :
    Books code limit sys (Redemptions.next sys i) 0 := by
  obtain ⟨invite, found, bound⟩ := limited
  obtain ⟨withinAfter, within, waitingAfter, waiting⟩ := @advance_elsewhere _ _ label other sys.shared
  refine books waits found (same.trans found) bound ?_ ?_
  · rw [waitingAfter, waiting]
    omega
  · rw [withinAfter, within]
    rfl

theorem books_step (moves : Moves redemptionRules sys (Redemptions.next sys i) i p label)
    (limited : ∃ invite, sys.shared.tables.invites[code]? = some invite ∧ invite.maxUses = some limit) :
    Books code limit sys (Redemptions.next sys i) (if Gains code sys.shared p label then 1 else 0) := by
  have waits := moves.atStatement
  have permitted := moves.permitted
  obtain ⟨invite, found, bound⟩ := limited
  cases label with
  | aside | fetch =>
    refine books waits found ((congrArg (·[code]?) permitted).trans found) bound ?_ ?_
    · simp [redemptionRules, Gains]
    · simp [redemptionRules, Gains]
  | enter =>
    obtain ⟨outside, uncounted, same⟩ := permitted
    have after := (congrArg (·[code]?) same).trans found
    refine books waits found after bound ?_ ?_
    · by_cases here : p.code = code <;>
        simp [redemptionRules, Gains, Progress.waiting, Progress.within, here, outside, uncounted]
    · by_cases here : p.code = code <;> simp [redemptionRules, Gains, Progress.within, here, outside]
  | count other =>
    obtain ⟨rfl, inside, uncounted, same⟩ := permitted
    by_cases here : p.code = code
    next =>
      subst here
      have after : (Redemptions.next sys i).shared.tables.invites[p.code]? =
          some { invite with uses := invite.uses + 1 } := by
        rw [same, ExtTreeMap.getElem?_modify_self, found]
        rfl
      refine books waits found after bound ?_ ?_
      · simp [redemptionRules, Gains, Progress.waiting, Progress.within, inside, uncounted]
      · simp [redemptionRules, Gains, Progress.within]
    next => exact books_elsewhere waits here ⟨invite, found, bound⟩ (modify_elsewhere same here)
  | take other =>
    obtain ⟨rfl, outside, same⟩ := permitted
    by_cases here : p.code = code
    next =>
      subst here
      have after : (Redemptions.next sys i).shared.tables.invites[p.code]? = some invite.spend := by
        rw [same, ExtTreeMap.getElem?_modify_self, found]
        rfl
      have free : hasUse sys.shared p.code = invite.hasUses := by simp [hasUse, found]
      cases left : invite.hasUses with
      | true =>
        refine books waits found after (by simp [Invite.spend, left, bound]) ?_ ?_
        · simp [redemptionRules, Gains, Progress.waiting, Progress.within, Invite.spend, free, left, outside]
        · simp [redemptionRules, Gains, Progress.within, free, left, outside]
      | false =>
        refine books waits found after (by simp [Invite.spend, left, bound]) ?_ ?_
        · simp [redemptionRules, Gains, Invite.spend, free, left]
        · simp [redemptionRules, Gains, free, left]
    next =>
      have none : ¬ Gains code sys.shared p (.take p.code) := fun gains => here gains.1
      rw [if_neg none]
      exact books_elsewhere waits here ⟨invite, found, bound⟩ (modify_elsewhere same here)

end

/-- The books of one invite in a run: every use is an admission, but for the joins that are still to count theirs. -/
structure Kept (code : String) (limit before : Int) (sys : Redemptions) : Prop where
  fit : FitAll redemptionRules Ends sys
  limited : ∃ invite, sys.shared.tables.invites[code]? = some invite ∧ invite.maxUses = some limit
  balance : before + sys.admitted code = usesOf sys.shared code + sys.uncounted code
  total : usesOf sys.shared code + sys.uncounted code ≤ limit

section

variable {code : String} {limit before : Int} {sys : Redemptions} {i : Nat}

theorem Kept.limitKept (kept : Kept code limit before sys) : LimitKept code limit before sys := by
  have balance := kept.balance
  have total := kept.total
  constructor <;> omega

theorem kept_step (kept : Kept code limit before sys) (spares : sys.Spares code limit i) :
    Kept code limit before (Redemptions.next sys i) := by
  rcases Interleaving.step_cases kept.fit i with idle | ⟨p, label, moves⟩
  · rw [Redemptions.next, idle]
    exact kept
  · have spare : Spare code limit sys p label := spares (p, label) (System.atStatement_iff.mp moves.atStatement)
    obtain ⟨limited, total, admitted⟩ := books_step moves kept.limited
    have balance := kept.balance
    have bound := kept.total
    refine ⟨Interleaving.step_fit kept.fit i, limited, by omega, ?_⟩
    rw [total]
    split
    next gains =>
      have left := spare gains
      omega
    next => omega

theorem exceeds_step (kept : Kept code limit before sys) (short : ¬ sys.Spares code limit i) :
    ¬ LimitKept code limit before (Redemptions.next sys i) := by
  rintro ⟨uses, admittedKept⟩
  refine short ?_
  rintro ⟨p, label⟩ pending gains
  have moves := Interleaving.step_moves kept.fit (System.atStatement_iff.mpr pending)
  obtain ⟨_, total, admitted⟩ := books_step moves kept.limited
  rw [if_pos gains] at total admitted
  have balance := kept.balance
  change (Redemptions.next sys i).admitted code = _ at admitted
  omega

theorem start_kept {s : AuthState} {invite : Invite} (found : s.tables.invites[code]? = some invite)
    (limited : invite.maxUses = some limit) (within : invite.uses ≤ limit) (calls : List RedeemCall) :
    Kept code limit invite.uses (Redemptions.start s calls) := by
  have fresh : ∀ p ∈ (Redemptions.start s calls).progresses, p.admitted = false := by
    intro p member
    simp only [System.progresses, Redemptions.start, List.map_map, List.mem_map] at member
    obtain ⟨_, _, rfl⟩ := member
    rfl
  have admitted : (Redemptions.start s calls).admitted code = 0 := by
    refine List.countP_eq_zero.mpr ?_
    intro p member
    simp [Progress.within, fresh p member]
  have uncounted : (Redemptions.start s calls).uncounted code = 0 := by
    refine List.countP_eq_zero.mpr ?_
    intro p member
    simp [Progress.waiting, Progress.within, fresh p member]
  have uses : usesOf (Redemptions.start s calls).shared code = invite.uses := by
    simp [usesOf, Redemptions.start, found]
  refine ⟨?_, ⟨invite, found, limited⟩, ?_, ?_⟩
  · intro task member
    obtain ⟨call, _, rfl⟩ := List.mem_map.mp member
    exact handler_fits call
  · rw [admitted, uncounted, uses]
  · rw [uncounted, uses]
    omega

/--
A limited invite is never over-consumed, in every order of the statements of the redemptions, exactly if
it starts within its limit and nobody is let in while the uses and the joins yet to be counted fill it.
-/
theorem limitKept_iff (s : AuthState) (code : String) (invite : Invite) (limit : Int)
    (found : s.tables.invites[code]? = some invite) (limited : invite.maxUses = some limit)
    (calls : List RedeemCall) (schedule : List Nat) :
    (∀ front, front <+: schedule →
        LimitKept code limit invite.uses (Runs.run Redemptions.next (Redemptions.start s calls) front)) ↔
      invite.uses ≤ limit ∧
        Runs.Meets Redemptions.next (Redemptions.Spares code limit) (Redemptions.start s calls) schedule := by
  have always : invite.uses ≤ limit →
      ((∀ front, front <+: schedule →
          LimitKept code limit invite.uses (Runs.run Redemptions.next (Redemptions.start s calls) front)) ↔
        Runs.Meets Redemptions.next (Redemptions.Spares code limit)
          (Redemptions.start s calls) schedule) := fun within =>
    Runs.always_iff_meets (Kept code limit invite.uses) (LimitKept code limit invite.uses)
      (fun _ kept => kept.limitKept) (fun _ _ kept spares => kept_step kept spares)
      (fun _ _ kept short => exceeds_step kept short) (start_kept found limited within calls) schedule
  constructor
  · intro kept
    have initial := (kept [] List.nil_prefix).uses
    have within : invite.uses ≤ limit := by simpa [usesOf, Redemptions.start, found] using initial
    exact ⟨within, (always within).mp kept⟩
  · rintro ⟨within, met⟩
    exact (always within).mpr met

end

def soloInvite : Invite :=
  { createdBy := "host", maxUses := some 1, uses := 0, expiresAt := none, grantRoleId := none, boundPubkey := none }

-- One invite for one use, and two members who hold the code.
def soloHub : AuthState :=
  { db := { users := ((∅ : Table User).insert "ann" {}).insert "bob" {} }
    tables := { invites := (∅ : Table Invite).insert "solo" soloInvite } }

theorem limitKept_iff_inTurn :
    LimitKept "solo" 1 0
      (Runs.run Redemptions.next (Redemptions.start soloHub [.join "ann" none "solo" 5, .join "bob" none "solo" 5])
        [0, 0, 0, 0, 0, 1]) :=
  (limitKept_iff soloHub "solo" soloInvite 1 (by decide) rfl
    [.join "ann" none "solo" 5, .join "bob" none "solo" 5] [0, 0, 0, 0, 0, 1]).mpr
      ⟨by decide, by decide⟩ _ List.prefix_rfl

-- Both joins read a count of nothing, and both are let in.
theorem limitKept_race :
    ¬ ∀ front, front <+: [0, 1, 0, 0, 1, 1] →
      LimitKept "solo" 1 0
        (Runs.run Redemptions.next (Redemptions.start soloHub [.join "ann" none "solo" 5, .join "bob" none "solo" 5])
          front) := by
  intro kept
  have uses := (kept _ List.prefix_rfl).uses
  revert uses
  decide

end Wavvon.Invites
