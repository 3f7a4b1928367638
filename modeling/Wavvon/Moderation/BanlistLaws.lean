import Wavvon.Moderation.BanlistRuns

set_option autoImplicit false

namespace Wavvon.Banlist

open Std (ExtTreeMap)
open Interleaving (FitAll System Moves)
open Tables (Nested)

variable {Json : Type}

abbrev BanDesk (Json : Type) := System BanTables (BanStatement Json) (BanProgress Json) BanAnswer

namespace BanDesk

def start (reader : ListReader Json) (s : BanTables) (requests : List (BanRequest Json)) : BanDesk Json where
  shared := s
  tasks := requests.map fun request => { progress := { request := request }, handler := request.handle reader }

abbrev next (reader : ListReader Json) : BanDesk Json → Nat → BanDesk Json := Interleaving.step (banRules reader)

def Quiet (sys : BanDesk Json) : Prop := ∀ task ∈ sys.tasks, ∃ answer, task.handler = .done answer

def Answers (reader : ListReader Json) (sys : BanDesk Json) (i : Nat) (answer : BanAnswer) : Prop :=
  (sys.pending i).isSome = true ∧ ∃ p, (next reader sys i).tasks[i]? = some { progress := p, handler := .done answer }

end BanDesk

-- The first list is signed for an earlier second than the other.
def older (reader : ListReader Json) (list other : Json) : Bool :=
  (reader.issuedAt list).any fun earlier => (reader.issuedAt other).any fun later => decide (earlier < later)

def Work.lifts (work : Work Json) (target : String) : Bool :=
  !work.remaining.isEmpty && work.hard && decide (target ∈ work.previous) &&
    work.replacement.rows.any fun row => decide (row.1 = target)

def BanProgress.lifts (p : BanProgress Json) (target : String) : Bool :=
  match p.phase with
  | .replacing work => work.lifts target
  | _ => false

-- A target of both lists, after a sync has taken its row away and before all rows of the new list are there.
def InBetween (sys : BanDesk Json) (target : String) : Prop := ∃ p ∈ sys.progresses, p.lifts target = true

-- The policy denies whoever is on both lists of a source that rejects.
def Enforced (sys : BanDesk Json) : Prop := ∀ target, InBetween sys target → denied sys.shared target = true

-- No check that is on its way lets them in either.
def ChecksDeny (reader : ListReader Json) (sys : BanDesk Json) (i : Nat) : Prop :=
  ∀ p key, sys.progresses[i]? = some p → p.request = .check key → sys.Answers reader i (.denied false) →
    ¬ InBetween sys key

-- No row of a list goes in once a newer one of its issuer has been stored.
def NeverBack (reader : ListReader Json) (sys : BanDesk Json) (i : Nat) : Prop :=
  ∀ p issuer target row work, sys.pending i = some (p, .insert issuer target row) → p.phase = .replacing work →
    ∀ q ∈ sys.progresses, ∀ kept ∈ q.replaced, kept.issuer = issuer →
      older reader work.replacement.list kept.list = false

-- A deletion leaves the other sources and what is stored of them alone.
def SparesOthers (reader : ListReader Json) (sys : BanDesk Json) (i : Nat) : Prop :=
  ∀ p label user url, sys.pending i = some (p, label) → p.request = .deleteSource user url →
    ∀ other source, other ≠ url → sys.shared.sources[other]? = some source →
      (BanDesk.next reader sys i).shared.sources[other]? = some source ∧
        ∀ issuer ∈ source.issuerPubkey, stored (BanDesk.next reader sys i).shared issuer = stored sys.shared issuer

-- One list of the issuer is stored; nothing is, only if no sync has stored a list of it or a deletion has removed it.
def AtRest (reader : ListReader Json) (sys : BanDesk Json) (issuer : String) : Prop :=
  Listed reader issuer (stored sys.shared issuer) ∨
    (stored sys.shared issuer = ∅ ∧
      ((∀ p ∈ sys.progresses, ∀ kept ∈ p.replaced, kept.issuer ≠ issuer) ∨ ∃ p ∈ sys.progresses,
        p.phase = .removed issuer))

/-- Every moment and step of a run enforces the bans, no list goes back, and at rest each issuer's rows are one list. -/
def BansKept (reader : ListReader Json) (s : BanTables) (requests : List (BanRequest Json)) (schedule : List Nat) :
    Prop :=
  (∀ front, front <+: schedule →
      Enforced (Runs.run (BanDesk.next reader) (BanDesk.start reader s requests) front) ∧
        ((Runs.run (BanDesk.next reader) (BanDesk.start reader s requests) front).Quiet → ∀ issuer,
          AtRest reader (Runs.run (BanDesk.next reader) (BanDesk.start reader s requests) front) issuer)) ∧
    Runs.Meets (BanDesk.next reader)
      (fun sys i => ChecksDeny reader sys i ∧ NeverBack reader sys i ∧ SparesOthers reader sys i)
      (BanDesk.start reader s requests) schedule

/--
What a statement that takes rows away must find: nobody else at work on the issuer's rows, no newer list stored, whoever
is on both lists of a rejecting source barred by the hub itself, and no other source under the same key.
-/
def Undisturbed (reader : ListReader Json) (sys : BanDesk Json) : BanStatement Json → Prop
  | .clear replacement =>
    (∀ q ∈ sys.progresses, q.writing ≠ some replacement.issuer) ∧
      (∀ q ∈ sys.progresses, ∀ kept ∈ q.replaced, kept.issuer = replacement.issuer →
        older reader replacement.list kept.list = false) ∧
      (rejects sys.shared replacement.url = true → ∀ row ∈ replacement.rows,
      row.1 ∈ stored sys.shared replacement.issuer →
        sys.shared.overrides[row.1]? = some "blacklist")
  | .removeBans url issuer =>
    (∀ q ∈ sys.progresses, q.writing ≠ some issuer) ∧
      ∀ source ∈ sys.shared.sources.toList, source.1 ≠ url → source.2.issuerPubkey ≠ some issuer
  | _ => True

instance (reader : ListReader Json) (sys : BanDesk Json) :
    (label : BanStatement Json) → Decidable (Undisturbed reader sys label)
  | .clear _ => inferInstanceAs (Decidable (_ ∧ _ ∧ _))
  | .removeBans _ _ => inferInstanceAs (Decidable (_ ∧ _))
  | .read | .readOverride _ | .pin _ _ | .insert _ _ _ | .removeSource _ => inferInstanceAs (Decidable True)

def BanDesk.Orderly (reader : ListReader Json) (sys : BanDesk Json) (i : Nat) : Prop :=
  ∀ move ∈ sys.pending i, Undisturbed reader sys move.2

instance (reader : ListReader Json) (sys : BanDesk Json) (i : Nat) : Decidable (sys.Orderly reader i) :=
  inferInstanceAs (Decidable (∀ move ∈ sys.pending i, _))

-- What a request has to rely on while others run.
def Own (reader : ListReader Json) (s : BanTables) : BanPhase Json → Prop
  | .idle | .removed _ => True
  | .checked key overrideType => overrideType = s.overrides[key]?
  | .replacing work =>
    Signed reader work.replacement.issuer work.replacement.list work.replacement.rows ∧
      (work.remaining ≠ [] →
        work.remaining.foldl putRow (stored s work.replacement.issuer) = work.replacement.rows.foldl putRow ∅ ∧
          (work.hard = true → ∀ row ∈ work.replacement.rows, row.1 ∈ work.previous →
          s.overrides[row.1]? = some "blacklist"))

-- Two requests are not at work on the rows of one issuer, and neither undoes the newer list of the other.
def Apart (reader : ListReader Json) (p q : BanProgress Json) : Prop :=
  ∀ work, p.phase = .replacing work → work.remaining ≠ [] →
    q.writing ≠ some work.replacement.issuer ∧
      ∀ kept ∈ q.replaced, kept.issuer = work.replacement.issuer → older reader work.replacement.list kept.list = false

structure Steady (reader : ListReader Json) (sys : BanDesk Json) : Prop where
  fit : FitAll (banRules reader) Answered sys
  own : ∀ (i : Nat) (p : BanProgress Json), sys.progresses[i]? = some p → Own reader sys.shared p.phase
  apart : ∀ (i j : Nat) (p q : BanProgress Json), i ≠ j → sys.progresses[i]? = some p → sys.progresses[j]? = some q →
    Apart reader p q
  rest : ∀ issuer, (∀ p ∈ sys.progresses, p.writing ≠ some issuer) → AtRest reader sys issuer

section

variable {reader : ListReader Json} {p q : BanProgress Json} {label : BanStatement Json} {s : BanTables}
  {sys : BanDesk Json}

theorem writing_iff {issuer : String} :
    p.writing = some issuer ↔ ∃ work, p.phase = .replacing work ∧ work.remaining ≠ [] ∧
    work.replacement.issuer = issuer := by
  unfold BanProgress.writing
  cases p.phase with
  | idle => simp
  | removed issuer => simp
  | checked key overrideType => simp
  | replacing work => by_cases rest : work.remaining = [] <;> simp [rest]

theorem replaced_iff {kept : Replacement Json} :
    p.replaced = some kept ↔ ∃ work, p.phase = .replacing work ∧ work.remaining = [] ∧ work.replacement = kept := by
  unfold BanProgress.replaced
  cases p.phase with
  | idle => simp
  | removed issuer => simp
  | checked key overrideType => simp
  | replacing work => by_cases rest : work.remaining = [] <;> simp [rest]

theorem lifts_iff {target : String} : p.lifts target = true ↔ ∃ work, p.phase = .replacing work ∧ work.remaining ≠ [] ∧
    work.hard = true ∧ target ∈ work.previous ∧ ∃ row ∈ work.replacement.rows, row.1 = target := by
  unfold BanProgress.lifts
  cases p.phase with
  | idle => simp
  | removed issuer => simp
  | checked key overrideType => simp
  | replacing work => simp [Work.lifts, and_assoc]

-- The issuer whose rows a statement changes.
def BanStatement.touched : BanStatement Json → Option String
  | .clear replacement => some replacement.issuer
  | .insert issuer _ _ => some issuer
  | .removeBans _ issuer => some issuer
  | _ => none

theorem stored_elsewhere {issuer : String} (elsewhere : label.touched ≠ some issuer) :
    stored (label.effect s) issuer = stored s issuer := by
  cases label with
  | clear replacement =>
    have apart : replacement.issuer ≠ issuer := fun same => elsewhere (congrArg some same)
    simp [BanStatement.effect, stored, ExtTreeMap.getElem?_erase, apart]
  | removeBans url other =>
    have apart : other ≠ issuer := fun same => elsewhere (congrArg some same)
    simp [BanStatement.effect, stored, ExtTreeMap.getElem?_erase, apart]
  | insert other target row =>
    have apart : other ≠ issuer := fun same => elsewhere (congrArg some same)
    simp [BanStatement.effect, stored, Nested.put, ExtTreeMap.getElem?_insert, apart]
  | _ => rfl

theorem stored_insert (s : BanTables) (issuer target : String) (row : BanRow) :
    stored ((BanStatement.insert issuer target row : BanStatement Json).effect s) issuer =
      putRow (stored s issuer) (target, row) := by
  simp [BanStatement.effect, stored, Nested.put, putRow]

theorem stored_erase (s : BanTables) (issuer : String) :
    stored { s with bans := s.bans.erase issuer } issuer = ∅ := by
  simp [stored]

theorem overrides_kept (label : BanStatement Json) (s : BanTables) : (label.effect s).overrides = s.overrides := by
  cases label <;> rfl

-- A statement takes or puts rows only of an issuer that nobody else is at work on.
theorem exclusive (steady : Steady reader sys) {i : Nat} (at' : sys.progresses[i]? = some p)
    (permitted : (banRules reader).permits p label sys.shared (label.effect sys.shared))
    (undisturbed : Undisturbed reader sys label)
    {issuer : String} (touched : label.touched = some issuer) {j : Nat} (apart : i ≠ j)
    (found : sys.progresses[j]? = some q) :
    q.writing ≠ some issuer := by
  cases label with
  | clear replacement =>
    cases touched
    exact undisturbed.1 q (List.mem_of_getElem? found)
  | removeBans url other =>
    cases touched
    exact undisturbed.1 q (List.mem_of_getElem? found)
  | insert other target row =>
    cases touched
    obtain ⟨-, -, work, rest, phase, rfl, left⟩ := permitted
    exact (steady.apart i j p q apart at' found work phase (by rw [left]; exact List.cons_ne_nil _ _)).1
  | _ => cases touched

theorem own_kept {phase : BanPhase Json} (own : Own reader s phase)
    (elsewhere : ∀ work, phase = .replacing work → work.remaining ≠ [] → label.touched ≠ some work.replacement.issuer) :
    Own reader (label.effect s) phase := by
  cases phase with
  | idle => trivial
  | removed issuer => trivial
  | checked key overrideType =>
    rw [Own, overrides_kept]
    exact own
  | replacing work =>
    refine ⟨own.1, fun left => ?_⟩
    rw [stored_elsewhere (elsewhere work rfl left), overrides_kept]
    exact own.2 left

-- What the request itself may rely on after its statement.
theorem own_step (own : Own reader s p.phase) (permitted : (banRules reader).permits p label s (label.effect s))
    (undisturbed : Undisturbed reader sys label) (shared : sys.shared = s) :
    Own reader (label.effect s) ((banRules reader).advance p label s).phase := by
  subst shared
  obtain ⟨-, allowed⟩ := permitted
  cases label with
  | read => exact own_kept own fun _ _ _ => nofun
  | pin url issuer => exact own_kept own fun _ _ _ => nofun
  | removeSource url => exact own_kept own fun _ _ _ => nofun
  | readOverride key => exact rfl
  | removeBans url issuer => trivial
  | clear replacement =>
    refine ⟨allowed.2.2, fun left => ⟨?_, undisturbed.2.2⟩⟩
    exact congrArg (fun table => replacement.rows.foldl putRow table) (stored_erase sys.shared replacement.issuer)
  | insert issuer target row =>
    obtain ⟨-, work, rest, phase, rfl, left⟩ := allowed
    rw [phase] at own
    have taken : ((banRules reader).advance p (.insert work.replacement.issuer target row) sys.shared).phase =
        .replacing (nextWork work) := by simp only [banRules, phase]
    rw [taken]
    have open_ : work.remaining ≠ [] := by
      rw [left]
      exact List.cons_ne_nil _ _
    obtain ⟨whole, barred⟩ := own.2 open_
    refine ⟨own.1, fun _ => ⟨?_, barred⟩⟩
    rw [left, List.foldl_cons] at whole
    change work.remaining.tail.foldl putRow _ = _
    rw [left, List.tail_cons]
    change rest.foldl putRow (stored _ work.replacement.issuer) = _
    rw [stored_insert]
    exact whole

theorem apart_aside {later : BanProgress Json} (aside : ∀ work, later.phase ≠ .replacing work) :
    Apart reader later q ∧ Apart reader q later := by
  constructor
  · intro work phase
    exact absurd phase (aside work)
  · intro work phase left
    refine ⟨fun written => ?_, fun kept stored => ?_⟩
    · obtain ⟨own, same, -⟩ := writing_iff.mp written
      exact absurd same (aside own)
    · obtain ⟨own, same, -⟩ := replaced_iff.mp stored
      exact absurd same (aside own)

-- After its statement a request is no nearer to another than before.
theorem apart_step (steady : Steady reader sys) {i : Nat} (at' : sys.progresses[i]? = some p)
    (permitted : (banRules reader).permits p label sys.shared (label.effect sys.shared))
    (undisturbed : Undisturbed reader sys label)
    {j : Nat} (apart : i ≠ j) (found : sys.progresses[j]? = some q) :
    Apart reader ((banRules reader).advance p label sys.shared) q ∧
    Apart reader q ((banRules reader).advance p label sys.shared) := by
  have before := steady.apart i j p q apart at' found
  have after := steady.apart j i q p (Ne.symm apart) found at'
  have alone : ∀ issuer, label.touched = some issuer → q.writing ≠ some issuer :=
    fun issuer touched => exclusive steady at' permitted undisturbed touched apart found
  obtain ⟨-, allowed⟩ := permitted
  cases label with
  | read => exact ⟨before, after⟩
  | pin url issuer => exact ⟨before, after⟩
  | removeSource url => exact ⟨before, after⟩
  | removeBans url issuer => exact apart_aside nofun
  | readOverride key => exact apart_aside nofun
  | clear replacement =>
    constructor
    · intro work phase left
      cases phase
      exact ⟨alone replacement.issuer rfl, undisturbed.2.1 q (List.mem_of_getElem? found)⟩
    · intro work phase left
      have elsewhere : replacement.issuer ≠ work.replacement.issuer := fun same =>
        alone replacement.issuer rfl (writing_iff.mpr ⟨work, phase, left, same.symm⟩)
      refine ⟨fun written => ?_, fun kept stored same => ?_⟩
      · obtain ⟨own, same, -, named⟩ := writing_iff.mp written
        cases same
        exact elsewhere named
      · obtain ⟨own, replaced, -, rfl⟩ := replaced_iff.mp stored
        cases replaced
        exact absurd same elsewhere
  | insert issuer target row =>
    obtain ⟨-, work, rest, phase, rfl, left⟩ := allowed
    have open_ : work.remaining ≠ [] := by
      rw [left]
      exact List.cons_ne_nil _ _
    have taken : ((banRules reader).advance p (.insert work.replacement.issuer target row) sys.shared).phase =
        .replacing (nextWork work) := by simp only [banRules, phase]
    constructor
    · intro later same _
      rw [taken] at same
      cases same
      exact before work phase open_
    · intro other same left
      have elsewhere : work.replacement.issuer ≠ other.replacement.issuer := fun named =>
        alone work.replacement.issuer rfl (writing_iff.mpr ⟨other, same, left, named.symm⟩)
      refine ⟨fun written => ?_, fun kept stored named => ?_⟩
      · obtain ⟨own, replaced, -, named⟩ := writing_iff.mp written
        rw [taken] at replaced
        cases replaced
        exact elsewhere named
      · obtain ⟨own, replaced, -, rfl⟩ := replaced_iff.mp stored
        rw [taken] at replaced
        cases replaced
        exact absurd named elsewhere

-- A sync that has stored its last row has stored its list.
theorem listed_last (own : Own reader s p.phase) (permitted : (banRules reader).permits p label s (label.effect s))
    {issuer : String}
    (writing : p.writing = some issuer) (done : ((banRules reader).advance p label s).writing ≠ some issuer) :
    Listed reader issuer (stored (label.effect s) issuer) := by
  obtain ⟨-, allowed⟩ := permitted
  obtain ⟨work, phase, left, rfl⟩ := writing_iff.mp writing
  rw [phase] at own allowed
  cases label with
  | read => exact absurd rfl (allowed work)
  | readOverride key => exact absurd allowed.1 nofun
  | pin url issuer => exact absurd allowed.1 nofun
  | clear replacement => exact absurd allowed.1 nofun
  | removeSource url => exact absurd allowed.1 nofun
  | removeBans url issuer => exact absurd allowed.1 nofun
  | insert issuer target row =>
    obtain ⟨-, same, rest, replacing, rfl, remaining⟩ := allowed
    cases replacing
    have taken : ((banRules reader).advance p (.insert work.replacement.issuer target row) s).phase =
        .replacing (nextWork work) := by simp only [banRules, phase]
    have last : rest = [] := by
      by_contra more
      refine done (writing_iff.mpr ⟨nextWork work, taken, ?_, rfl⟩)
      rw [nextWork, remaining]
      exact more
    obtain ⟨whole, -⟩ := own.2 left
    rw [remaining, last] at whole
    refine ⟨work.replacement.list, work.replacement.rows, own.1, ?_⟩
    rw [stored_insert]
    exact whole

-- A statement on another issuer's rows makes no list of this one stored, and takes no deletion back.
theorem aside_step (permitted : (banRules reader).permits p label s (label.effect s)) {issuer : String}
    (elsewhere : label.touched ≠ some issuer) :
    (∀ kept ∈ ((banRules reader).advance p label s).replaced, kept.issuer = issuer → kept ∈ p.replaced) ∧
      (p.phase = .removed issuer → ((banRules reader).advance p label s).phase = .removed issuer) := by
  obtain ⟨-, allowed⟩ := permitted
  cases label with
  | read => exact ⟨fun _ stored _ => stored, id⟩
  | pin url issuer => exact ⟨fun _ stored _ => stored, id⟩
  | removeSource url => exact ⟨fun _ stored _ => stored, id⟩
  | readOverride key =>
    refine ⟨fun kept stored => (by cases stored), fun gone => ?_⟩
    rw [allowed.1] at gone
    cases gone
  | removeBans url other =>
    refine ⟨fun kept stored => (by cases stored), fun gone => ?_⟩
    rw [allowed.1] at gone
    cases gone
  | clear replacement =>
    refine ⟨fun kept stored same => ?_, fun gone => ?_⟩
    · obtain ⟨work, replacing, -, rfl⟩ := replaced_iff.mp stored
      cases replacing
      exact absurd (congrArg some same) elsewhere
    · rw [allowed.1] at gone
      cases gone
  | insert other target row =>
    obtain ⟨-, work, rest, phase, rfl, -⟩ := allowed
    have taken : ((banRules reader).advance p (.insert work.replacement.issuer target row) s).phase =
        .replacing (nextWork work) := by simp only [banRules, phase]
    refine ⟨fun kept stored same => ?_, fun gone => ?_⟩
    · obtain ⟨own, replacing, -, rfl⟩ := replaced_iff.mp stored
      rw [taken] at replacing
      cases replacing
      exact absurd (congrArg some same) elsewhere
    · rw [phase] at gone
      cases gone

-- An issuer that nobody is at work on any more is at rest.
theorem rest_step (steady : Steady reader sys) {after : BanDesk Json} {i : Nat} (at' : sys.progresses[i]? = some p)
    (permitted : (banRules reader).permits p label sys.shared (label.effect sys.shared))
    (shared : after.shared = label.effect sys.shared)
    (progresses : after.progresses = sys.progresses.set i ((banRules reader).advance p label sys.shared))
    {issuer : String}
    (nobody : ∀ q ∈ after.progresses, q.writing ≠ some issuer) : AtRest reader after issuer := by
  have inside := (List.getElem?_eq_some_iff.mp at').1
  have mine : (banRules reader).advance p label sys.shared ∈ after.progresses := by
    rw [progresses]
    exact List.mem_set inside _
  unfold AtRest
  rw [shared]
  by_cases writing : p.writing = some issuer
  · exact .inl (listed_last (steady.own i p at') permitted writing (nobody _ mine))
  by_cases touched : label.touched = some issuer
  · obtain ⟨-, allowed⟩ := permitted
    cases label with
    | clear replacement =>
      cases touched
      have none : replacement.rows = [] := by
        by_contra more
        exact nobody _ mine (writing_iff.mpr ⟨firstWork sys.shared replacement, rfl, more, rfl⟩)
      refine .inl ⟨replacement.list, replacement.rows, allowed.2.2, ?_⟩
      rw [none]
      exact stored_erase sys.shared replacement.issuer
    | removeBans url other =>
      cases touched
      exact .inr ⟨stored_erase sys.shared issuer, .inr ⟨_, mine, rfl⟩⟩
    | insert other target row =>
      cases touched
      obtain ⟨-, work, rest, phase, rfl, remaining⟩ := allowed
      refine absurd (writing_iff.mpr ⟨work, phase, ?_, rfl⟩) writing
      rw [remaining]
      exact List.cons_ne_nil _ _
    | _ => cases touched
  · obtain ⟨untouched, stays⟩ := aside_step permitted touched
    rw [stored_elsewhere touched]
    have nobodyBefore : ∀ q ∈ sys.progresses, q.writing ≠ some issuer := by
      intro q listed
      obtain ⟨j, found⟩ := List.mem_iff_getElem?.mp listed
      by_cases here : j = i
      · subst here
        rw [at'] at found
        cases found
        exact writing
      · refine nobody q (List.mem_of_getElem? (i := j) ?_)
        rw [progresses, List.getElem?_set_ne (Ne.symm here)]
        exact found
    refine (steady.rest issuer nobodyBefore).imp_right fun ⟨bare, why⟩ => ⟨bare, ?_⟩
    rcases why with never | ⟨q, listed, gone⟩
    · refine .inl fun q listed kept stored same => ?_
      rw [progresses] at listed
      rcases List.mem_or_eq_of_mem_set listed with old | rfl
      · exact never q old kept stored same
      · exact never p (List.mem_of_getElem? at') kept (untouched kept stored same) same
    · refine .inr ?_
      obtain ⟨j, found⟩ := List.mem_iff_getElem?.mp listed
      by_cases here : j = i
      · subst here
        rw [at'] at found
        cases found
        exact ⟨_, mine, stays gone⟩
      · refine ⟨q, List.mem_of_getElem? (i := j) ?_, gone⟩
        rw [progresses, List.getElem?_set_ne (Ne.symm here)]
        exact found

theorem steady_next (steady : Steady reader sys) {i : Nat} (orderly : sys.Orderly reader i) :
    Steady reader (BanDesk.next reader sys i) := by
  rcases Interleaving.step_cases steady.fit i with idle | ⟨p, label, moves⟩
  · change Steady reader (Interleaving.step (banRules reader) sys i)
    rw [idle]
    exact steady
  · obtain ⟨at', after⟩ := Interleaving.step_progresses (banRules reader) moves.atStatement
    have shared : (BanDesk.next reader sys i).shared = label.effect sys.shared := moves.permitted.1
    have permitted := moves.permitted
    change (banRules reader).permits p label sys.shared (BanDesk.next reader sys i).shared at permitted
    rw [shared] at permitted
    have undisturbed := orderly (p, label) (System.atStatement_iff.mp moves.atStatement)
    have inside := (List.getElem?_eq_some_iff.mp at').1
    have here : (BanDesk.next reader sys i).progresses[i]? = some ((banRules reader).advance p label sys.shared) := by
      rw [after, List.getElem?_set_self inside]
    have elsewhere : ∀ j, j ≠ i → (BanDesk.next reader sys i).progresses[j]? = sys.progresses[j]? := by
      intro j apart
      rw [after, List.getElem?_set_ne (Ne.symm apart)]
    refine ⟨Interleaving.step_fit steady.fit i, ?_, ?_, ?_⟩
    · intro j q found
      rw [shared]
      by_cases same : j = i
      · subst same
        rw [here] at found
        cases found
        exact own_step (steady.own j p at') permitted undisturbed rfl
      · rw [elsewhere j same] at found
        refine own_kept (steady.own j q found) fun work phase left touched => ?_
        exact exclusive steady at' permitted undisturbed touched (Ne.symm same) found (writing_iff.mpr ⟨work, phase,
          left, rfl⟩)
    · intro j k q r apart foundQ foundR
      by_cases first : j = i
      · subst first
        rw [here] at foundQ
        cases foundQ
        rw [elsewhere k (Ne.symm apart)] at foundR
        exact (apart_step steady at' permitted undisturbed apart foundR).1
      · rw [elsewhere j first] at foundQ
        by_cases second : k = i
        · subst second
          rw [here] at foundR
          cases foundR
          exact (apart_step steady at' permitted undisturbed (Ne.symm apart) foundQ).2
        · rw [elsewhere k second] at foundR
          exact steady.apart j k q r apart foundQ foundR
    · exact fun issuer nobody => rest_step steady at' permitted shared after nobody

theorem start_progress {requests : List (BanRequest Json)} {i : Nat}
    (found : (BanDesk.start reader s requests).progresses[i]? = some p) : ∃ request, p = { request := request } := by
  simp only [BanDesk.start, System.progresses, List.map_map, List.getElem?_map] at found
  obtain ⟨request, -, rfl⟩ := Option.map_eq_some_iff.mp found
  exact ⟨request, rfl⟩

theorem start_steady (listed : ∀ issuer, stored s issuer = ∅ ∨ Listed reader issuer (stored s issuer))
    (requests : List (BanRequest Json)) :
    Steady reader (BanDesk.start reader s requests) where
  fit := by
    intro task inside
    obtain ⟨request, -, rfl⟩ := List.mem_map.mp inside
    exact banRequest_fits request
  own := by
    intro i p found
    obtain ⟨request, rfl⟩ := start_progress found
    trivial
  apart := by
    intro i j p q _ found _ work phase
    obtain ⟨request, rfl⟩ := start_progress found
    cases phase
  rest := by
    intro issuer _
    rcases listed issuer with bare | held
    · refine .inr ⟨bare, .inl fun p inside kept replaced => ?_⟩
      obtain ⟨i, found⟩ := List.mem_iff_getElem?.mp inside
      obtain ⟨request, rfl⟩ := start_progress found
      cases replaced
    · exact .inl held

theorem barred_of_inBetween (steady : Steady reader sys) {target : String} (between : InBetween sys target) :
    sys.shared.overrides[target]? = some "blacklist" := by
  obtain ⟨p, inside, lifted⟩ := between
  obtain ⟨work, phase, left, hard, before, row, listed, rfl⟩ := lifts_iff.mp lifted
  obtain ⟨i, found⟩ := List.mem_iff_getElem?.mp inside
  have own := steady.own i p found
  rw [phase] at own
  exact (own.2 left).2 hard row listed before

theorem enforced_of_steady (steady : Steady reader sys) : Enforced sys := by
  intro target between
  have barred := barred_of_inBetween steady between
  rw [denied, barred, if_neg (by simp), if_pos rfl]

theorem rest_of_quiet (steady : Steady reader sys) (quiet : sys.Quiet) (issuer : String) :
    AtRest reader sys issuer := by
  refine steady.rest issuer fun p inside => ?_
  obtain ⟨⟨q, handler⟩, member, rfl⟩ := List.mem_map.mp inside
  obtain ⟨answer, rfl⟩ := quiet _ member
  have answered : Answered q answer := steady.fit _ member
  rw [answered.1]
  exact nofun

theorem request_kept (p : BanProgress Json) (label : BanStatement Json) (s : BanTables) :
    ((banRules reader).advance p label s).request = p.request := by
  cases label with
  | insert issuer target row =>
    simp only [banRules]
    split <;> rfl
  | _ => rfl

theorem checksDeny_of_steady (steady : Steady reader sys) {i : Nat} (orderly : sys.Orderly reader i) :
    ChecksDeny reader sys i := by
  rintro p key at' asked ⟨waiting, q, answered⟩ between
  rcases Interleaving.step_cases steady.fit i with idle | ⟨r, label, moves⟩
  · change (Interleaving.step (banRules reader) sys i).tasks[i]? = _ at answered
    rw [idle] at answered
    rw [System.pending, answered] at waiting
    cases waiting
  · obtain ⟨own, -⟩ := Interleaving.step_progresses (banRules reader) moves.atStatement
    rw [at'] at own
    cases own
    obtain ⟨handler, here⟩ := moves.here
    obtain rfl : (banRules reader).advance p label sys.shared = q := congrArg (·.progress)
      (Option.some.inj (here.symm.trans answered))
    have after := steady_next steady orderly
    have ends : Answered ((banRules reader).advance p label sys.shared) (.denied false) :=
      after.fit _ (List.mem_of_getElem? answered)
    have same : ((banRules reader).advance p label sys.shared).request = .check key :=
      (request_kept p label sys.shared).trans asked
    obtain ⟨overrideType, phase, admitted⟩ := ends.2 key same rfl
    have read := after.own i _ (by rw [System.progresses, List.getElem?_map, answered]; rfl)
    change Own reader _ ((banRules reader).advance p label sys.shared).phase at read
    have shared : (BanDesk.next reader sys i).shared = label.effect sys.shared := moves.permitted.1
    rw [phase, shared, Own, overrides_kept, barred_of_inBetween steady between] at read
    exact admitted read

theorem neverBack_of_steady (steady : Steady reader sys) (i : Nat) : NeverBack reader sys i := by
  intro p issuer target row work waits phase q inside kept replaced same
  obtain ⟨effect, rest, found⟩ := System.atStatement_iff.mpr waits
  have at' : sys.progresses[i]? = some p := by
    rw [System.progresses, List.getElem?_map, found]
    rfl
  obtain ⟨-, -, own, more, replacing, rfl, remaining⟩ := (steady.fit _ (List.mem_of_getElem? found)).1 sys.shared
  obtain rfl : own = work := by
    rw [phase] at replacing
    cases replacing
    rfl
  have left : own.remaining ≠ [] := by
    rw [remaining]
    exact List.cons_ne_nil _ _
  obtain ⟨j, foundQ⟩ := List.mem_iff_getElem?.mp inside
  have apart : i ≠ j := by
    rintro rfl
    rw [at'] at foundQ
    cases foundQ
    obtain ⟨mine, again, done, -⟩ := replaced_iff.mp replaced
    rw [phase] at again
    cases again
    exact left done
  exact (steady.apart i j p q apart at' foundQ own phase left).2 kept replaced same

theorem sparesOthers_of_steady (steady : Steady reader sys) {i : Nat} (orderly : sys.Orderly reader i) :
    SparesOthers reader sys i := by
  intro p label user url waits asked other source apart found
  rcases Interleaving.step_cases steady.fit i with idle | ⟨q, moved, moves⟩
  · change (Interleaving.step (banRules reader) sys i).shared.sources[other]? = _ ∧
      ∀ issuer ∈ source.issuerPubkey, stored (Interleaving.step (banRules reader) sys i).shared issuer = _
    rw [idle]
    exact ⟨found, fun _ _ => rfl⟩
  · have same := System.atStatement_iff.mp moves.atStatement
    rw [waits] at same
    cases same
    have shared : (BanDesk.next reader sys i).shared = label.effect sys.shared := moves.permitted.1
    have undisturbed := orderly (p, label) waits
    obtain ⟨-, allowed⟩ := moves.permitted
    rw [shared]
    cases label with
    | read => exact ⟨found, fun _ _ => rfl⟩
    | readOverride key => exact ⟨found, fun _ _ => rfl⟩
    | pin pinned issuer =>
      obtain ⟨-, from', fetched, now, sync⟩ := allowed
      rw [asked] at sync
      cases sync
    | clear replacement =>
      obtain ⟨-, ⟨from', fetched, now, sync⟩, -⟩ := allowed
      rw [asked] at sync
      cases sync
    | insert issuer target row =>
      obtain ⟨⟨from', fetched, now, sync⟩, -⟩ := allowed
      rw [asked] at sync
      cases sync
    | removeSource removed =>
      obtain ⟨-, by', same⟩ := allowed
      rw [asked] at same
      cases same
      refine ⟨?_, fun _ _ => rfl⟩
      change (sys.shared.sources.erase url)[other]? = some source
      rw [ExtTreeMap.getElem?_erase, if_neg (by simpa using Ne.symm apart)]
      exact found
    | removeBans removed issuer =>
      obtain ⟨-, by', same⟩ := allowed
      rw [asked] at same
      cases same
      refine ⟨found, fun own named => stored_elsewhere fun touched => ?_⟩
      have others := undisturbed.2 (other, source) (ExtTreeMap.mem_toList_iff_getElem?_eq_some.mpr found) apart
      exact others (named.trans touched.symm)

end

structure PeerList where
  issuer : String
  issuedAt : Int
  entries : List BanEntry

-- A signature is the key and the text, for want of a real one.
def peerReader : ListReader PeerList where
  issuerPubkey list := some list.issuer
  issuedAt list := some list.issuedAt
  entries list := some list.entries
  text list := Wire.strBytes list.issuer
  verifySignature issuer text signature := decide (signature = Wire.strBytes issuer ++ text)

def peerTables : BanTables where
  sources := (∅ : Table BanSource).insert "https://peer" {}

def peerSync : BanRequest PeerList :=
  .sync "https://peer"
    (some
      { payload := some { issuer := "aa", issuedAt := 1, entries := [{ masterPubkey := some "mallory" }] }
        signature := some "61616161" }) 100

end Wavvon.Banlist
