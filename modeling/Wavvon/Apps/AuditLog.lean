import Mathlib.Data.List.Nodup
import Mathlib.Logic.Function.Basic
import Wavvon.Shared.Runs

set_option autoImplicit false

namespace Wavvon.Apps

structure AuditRow where
  id : String
  seq : Int
  eventType : String
  stamp : Int
  actorPubkey : Option String := none
  targetPubkey : Option String := none
  channelId : Option String := none
  payloadJson : String := "null"
  deriving DecidableEq, Repr

-- The arguments of one call of `publish_hub_event`, the payload as its JSON text.
structure Publication where
  eventType : String
  actorPubkey : Option String := none
  targetPubkey : Option String := none
  channelId : Option String := none
  payload : String := "null"
  deriving DecidableEq, Repr

inductive PublishPhase where
  | called
  | counted
  | numbered (seq : Int)
  | returned
  deriving DecidableEq, Repr

/--
The counter row, the log and where each call of `publish_hub_event` stands among its three
statements. `granted` records what `next_seq` returned to which call.
-/
structure AuditState where
  seq : Int := 0
  log : List AuditRow := []
  phase : Nat → PublishPhase := fun _ => .called
  granted : List (Nat × Int) := []

-- The next statement of a call as the database answers it, with the id and clock its row gets.
structure Statement where
  publisher : Nat
  fails : Bool := false
  id : String := ""
  now : Int := 0
  deriving DecidableEq, Repr

namespace AuditState

def enter (s : AuditState) (publisher : Nat) (phase : PublishPhase) : AuditState :=
  { s with phase := Function.update s.phase publisher phase }

-- `UPDATE hub_audit_seq SET seq = seq + 1 WHERE id = 1`.
def incrementSeq (s : AuditState) (publisher : Nat) : AuditState :=
  { s with seq := s.seq + 1 }.enter publisher .counted

-- `SELECT seq FROM hub_audit_seq WHERE id = 1`.
def readSeq (s : AuditState) (publisher : Nat) : AuditState :=
  { s with granted := s.granted ++ [(publisher, s.seq)] }.enter publisher (.numbered s.seq)

def insertRow (s : AuditState) (call : Publication) (stmt : Statement) (seq : Int) : AuditState :=
  let row : AuditRow :=
    { id := stmt.id, seq := seq, eventType := call.eventType, stamp := stmt.now
      actorPubkey := call.actorPubkey, targetPubkey := call.targetPubkey
      channelId := call.channelId, payloadJson := call.payload }
  { s with log := s.log ++ [row] }.enter stmt.publisher .returned

-- A failing statement is logged and ends the call; the counter keeps what it has counted.
def step (calls : Nat → Publication) (s : AuditState) (stmt : Statement) : AuditState :=
  match s.phase stmt.publisher with
  | .called =>
    if stmt.fails then s.enter stmt.publisher .returned else s.incrementSeq stmt.publisher
  | .counted =>
    if stmt.fails then s.enter stmt.publisher .returned else s.readSeq stmt.publisher
  | .numbered seq =>
    if stmt.fails then s.enter stmt.publisher .returned
    else s.insertRow (calls stmt.publisher) stmt seq
  | .returned => s

def returns (s : AuditState) (value : Int) : Nat :=
  s.granted.countP (·.2 = value)

def Idle (s : AuditState) : Prop :=
  ∀ publisher, s.phase publisher ≠ .counted

-- The counter is read at its current value only, so one it has moved past is never returned later.
structure SeqsExact (s : AuditState) : Prop where
  distinct : (s.log.map (·.seq)).Nodup
  once : s.returns s.seq ≤ 1
  passed : ∀ value, 0 < value → value < s.seq → s.returns value = 1
  settled : s.Idle → ∀ value, 0 < value → value ≤ s.seq → s.returns value = 1

-- No call is between its `UPDATE` and its `SELECT` when another counts, and no `SELECT` fails.
def CountsAlone (s : AuditState) (stmt : Statement) : Prop :=
  (s.phase stmt.publisher = .called → stmt.fails = false → s.Idle) ∧
    (s.phase stmt.publisher = .counted → stmt.fails = false)

structure Tallied (s : AuditState) : Prop where
  positive : 0 ≤ s.seq
  single : ∀ p q, s.phase p = .counted → s.phase q = .counted → p = q
  idle : s.Idle → ∀ value, s.returns value = if 0 < value ∧ value ≤ s.seq then 1 else 0
  busy : ∀ p, s.phase p = .counted →
    0 < s.seq ∧ ∀ value, s.returns value = if 0 < value ∧ value < s.seq then 1 else 0
  numbered : ∀ p seq, s.phase p = .numbered seq → (p, seq) ∈ s.granted
  rows : ∀ row ∈ s.log, ∃ p, s.phase p = .returned ∧ (p, row.seq) ∈ s.granted
  distinct : (s.log.map (·.seq)).Nodup

@[simp] theorem enter_seq (s : AuditState) (p : Nat) (phase : PublishPhase) :
    (s.enter p phase).seq = s.seq := rfl

@[simp] theorem enter_log (s : AuditState) (p : Nat) (phase : PublishPhase) :
    (s.enter p phase).log = s.log := rfl

@[simp] theorem enter_returns (s : AuditState) (p : Nat) (phase : PublishPhase) (value : Int) :
    (s.enter p phase).returns value = s.returns value := rfl

@[simp] theorem enter_granted (s : AuditState) (p : Nat) (phase : PublishPhase) :
    (s.enter p phase).granted = s.granted := rfl

theorem enter_phase (s : AuditState) (p q : Nat) (phase : PublishPhase) :
    (s.enter p phase).phase q = if q = p then phase else s.phase q := by
  simp [enter, Function.update_apply]

theorem idle_or_counted (s : AuditState) : s.Idle ∨ ∃ p, s.phase p = .counted := by
  by_cases busy : ∃ p, s.phase p = .counted
  · exact .inr busy
  · exact .inl fun p counted => busy ⟨p, counted⟩

theorem Tallied.returns_le {s : AuditState} (tallied : s.Tallied) (value : Int) :
    s.returns value ≤ 1 := by
  rcases s.idle_or_counted with idle | ⟨p, counted⟩
  · rw [tallied.idle idle value]
    split <;> omega
  · rw [(tallied.busy p counted).2 value]
    split <;> omega

theorem Tallied.seqsExact {s : AuditState} (tallied : s.Tallied) : s.SeqsExact := by
  refine ⟨tallied.distinct, tallied.returns_le s.seq, ?_, ?_⟩
  · intro value above below
    rcases s.idle_or_counted with idle | ⟨p, counted⟩
    · rw [tallied.idle idle value, if_pos ⟨above, by omega⟩]
    · rw [(tallied.busy p counted).2 value, if_pos ⟨above, below⟩]
  · intro idle value above below
    rw [tallied.idle idle value, if_pos ⟨above, below⟩]

-- A value returned at most once names the call it was returned to.
theorem granted_unique {s : AuditState} {value : Int} (once : s.returns value ≤ 1) {p q : Nat}
    (first : (p, value) ∈ s.granted) (second : (q, value) ∈ s.granted) : p = q := by
  rw [returns, List.countP_eq_length_filter] at once
  have left : (p, value) ∈ s.granted.filter (·.2 = value) := by simp [first]
  have right : (q, value) ∈ s.granted.filter (·.2 = value) := by simp [second]
  obtain ⟨i, iBound, atI⟩ := List.mem_iff_getElem.mp left
  obtain ⟨j, jBound, atJ⟩ := List.mem_iff_getElem.mp right
  have same : i = j := by omega
  subst same
  rw [atI] at atJ
  exact congrArg Prod.fst atJ

-- Ending a call that holds no unread count changes no tally.
theorem Tallied.return_uncounted {s : AuditState} (tallied : s.Tallied) {p : Nat}
    (uncounted : s.phase p ≠ .counted) : (s.enter p .returned).Tallied := by
  have counted_iff : ∀ q, (s.enter p .returned).phase q = .counted ↔ s.phase q = .counted := by
    intro q
    rw [enter_phase]
    by_cases same : q = p
    · simp [same, uncounted]
    · simp [same]
  refine ⟨tallied.positive, ?_, ?_, ?_, ?_, ?_, tallied.distinct⟩
  · intro q r left right
    exact tallied.single q r ((counted_iff q).mp left) ((counted_iff r).mp right)
  · intro idle
    exact tallied.idle fun q counted => idle q ((counted_iff q).mpr counted)
  · intro q counted
    exact tallied.busy q ((counted_iff q).mp counted)
  · intro q seq numbered
    rw [enter_phase] at numbered
    split at numbered
    · cases numbered
    · exact tallied.numbered q seq numbered
  · intro row member
    obtain ⟨q, returned, granted⟩ := tallied.rows row member
    refine ⟨q, ?_, granted⟩
    rw [enter_phase]
    split
    · rfl
    · exact returned

theorem Tallied.increment {s : AuditState} (tallied : s.Tallied) {p : Nat}
    (fresh : s.phase p = .called) (idle : s.Idle) : (s.incrementSeq p).Tallied := by
  have counted : ∀ q, (s.incrementSeq p).phase q = .counted → q = p := by
    intro q
    rw [incrementSeq, enter_phase]
    split
    · intro _
      assumption
    · intro counted
      exact absurd counted (idle q)
  have phases : ∀ q, q ≠ p → (s.incrementSeq p).phase q = s.phase q := by
    intro q other
    rw [incrementSeq, enter_phase, if_neg other]
  have entered : (s.incrementSeq p).phase p = .counted := by
    rw [incrementSeq, enter_phase, if_pos rfl]
  have grows : (s.incrementSeq p).seq = s.seq + 1 := rfl
  have positive := tallied.positive
  refine ⟨by omega, ?_, ?_, ?_, ?_, ?_, tallied.distinct⟩
  · intro q r left right
    rw [counted q left, counted r right]
  · intro nobody
    exact absurd entered (nobody p)
  · intro q _
    refine ⟨by omega, ?_⟩
    intro value
    have before := tallied.idle idle value
    change s.returns value = _
    rw [before, grows]
    congr 1
    simp only [eq_iff_iff]
    omega
  · intro q seq numbered
    by_cases same : q = p
    · rw [same, entered] at numbered
      cases numbered
    · rw [phases q same] at numbered
      exact tallied.numbered q seq numbered
  · intro row member
    obtain ⟨q, returned, granted⟩ := tallied.rows row member
    have other : q ≠ p := by
      rintro rfl
      rw [fresh] at returned
      cases returned
    exact ⟨q, (phases q other).trans returned, granted⟩

theorem readSeq_returns (s : AuditState) (p : Nat) (value : Int) :
    (s.readSeq p).returns value = s.returns value + if value = s.seq then 1 else 0 := by
  by_cases current : value = s.seq
  · simp [readSeq, returns, enter, List.countP_append, current]
  · simp [readSeq, returns, enter, List.countP_append, current, Ne.symm current]

theorem Tallied.read {s : AuditState} (tallied : s.Tallied) {p : Nat}
    (counted : s.phase p = .counted) : (s.readSeq p).Tallied := by
  have entered : (s.readSeq p).phase p = .numbered s.seq := by
    rw [readSeq, enter_phase, if_pos rfl]
  have phases : ∀ q, q ≠ p → (s.readSeq p).phase q = s.phase q := by
    intro q other
    rw [readSeq, enter_phase, if_neg other]
  have nobody : (s.readSeq p).Idle := by
    intro q still
    by_cases same : q = p
    · rw [same, entered] at still
      cases still
    · rw [phases q same] at still
      exact same (tallied.single q p still counted)
  have keeps : ∀ entry ∈ s.granted, entry ∈ (s.readSeq p).granted := by
    intro entry member
    exact List.mem_append_left _ member
  obtain ⟨positive, before⟩ := tallied.busy p counted
  refine ⟨tallied.positive, ?_, ?_, ?_, ?_, ?_, tallied.distinct⟩
  · intro q _ left _
    exact absurd left (nobody q)
  · intro _ value
    rw [readSeq_returns, before value]
    change _ = if 0 < value ∧ value ≤ s.seq then 1 else 0
    split_ifs <;> omega
  · intro q still
    exact absurd still (nobody q)
  · intro q seq numbered
    by_cases same : q = p
    · subst same
      rw [entered] at numbered
      cases numbered
      exact List.mem_append_right _ (by simp)
    · rw [phases q same] at numbered
      exact keeps _ (tallied.numbered q seq numbered)
  · intro row member
    obtain ⟨q, returned, granted⟩ := tallied.rows row member
    have other : q ≠ p := by
      rintro rfl
      rw [counted] at returned
      cases returned
    exact ⟨q, (phases q other).trans returned, keeps _ granted⟩

-- The row's number was returned to this call alone, so no finished call has written it.
theorem Tallied.insert {s : AuditState} (tallied : s.Tallied) (call : Publication)
    (stmt : Statement) {seq : Int} (numbered : s.phase stmt.publisher = .numbered seq) :
    (s.insertRow call stmt seq).Tallied := by
  have ended := tallied.return_uncounted (p := stmt.publisher) (by simp [numbered])
  have granted := tallied.numbered _ _ numbered
  refine ⟨ended.positive, ended.single, ended.idle, ended.busy, ended.numbered, ?_, ?_⟩
  · intro row member
    rcases List.mem_append.mp member with old | new
    · exact ended.rows row old
    · rw [List.mem_singleton.mp new]
      exact ⟨stmt.publisher, by rw [insertRow, enter_phase, if_pos rfl], granted⟩
  · have absent : seq ∉ s.log.map (·.seq) := by
      intro written
      obtain ⟨row, member, same⟩ := List.mem_map.mp written
      obtain ⟨q, returned, other⟩ := tallied.rows row member
      rw [same] at other
      have who := granted_unique (tallied.returns_le seq) granted other
      rw [← who, numbered] at returned
      cases returned
    simpa [insertRow, List.nodup_append] using And.intro tallied.distinct absent

theorem Tallied.step {s : AuditState} (tallied : s.Tallied) (calls : Nat → Publication)
    (stmt : Statement) (alone : s.CountsAlone stmt) : (s.step calls stmt).Tallied := by
  unfold AuditState.step
  cases stands : s.phase stmt.publisher with
  | called =>
    cases fails : stmt.fails with
    | true => simpa using tallied.return_uncounted (by simp [stands])
    | false => simpa using tallied.increment stands (alone.1 stands fails)
  | counted =>
    have answered := alone.2 stands
    simpa [answered] using tallied.read stands
  | numbered seq =>
    cases fails : stmt.fails with
    | true => simpa using tallied.return_uncounted (by simp [stands])
    | false => simpa using tallied.insert (calls stmt.publisher) stmt stands
  | returned => exact tallied

-- Counting over an unread count, or losing one, strands the value for good.
theorem Tallied.breaks {s : AuditState} (tallied : s.Tallied) (calls : Nat → Publication)
    (stmt : Statement) (crowded : ¬ s.CountsAlone stmt) : ¬ (s.step calls stmt).SeqsExact := by
  intro held
  apply crowded
  constructor
  · intro fresh fails p counted
    obtain ⟨positive, before⟩ := tallied.busy p counted
    have next : s.step calls stmt = s.incrementSeq stmt.publisher := by
      simp [AuditState.step, fresh, fails]
    rw [next] at held
    have stranded : s.returns s.seq = 1 := held.passed s.seq positive (by
      change s.seq < s.seq + 1
      omega)
    rw [before s.seq, if_neg (by omega)] at stranded
    cases stranded
  · intro counted
    by_contra fails
    obtain ⟨positive, before⟩ := tallied.busy _ counted
    have next : s.step calls stmt = s.enter stmt.publisher .returned := by
      simp [AuditState.step, counted, fails]
    rw [next] at held
    have nobody : (s.enter stmt.publisher .returned).Idle := by
      intro q still
      rw [enter_phase] at still
      split at still
      · cases still
      · exact absurd (tallied.single q _ still counted) (by assumption)
    have stranded : s.returns s.seq = 1 := held.settled nobody s.seq positive (by simp)
    rw [before s.seq, if_neg (by omega)] at stranded
    cases stranded

theorem tallied_initial : ({} : AuditState).Tallied := by
  refine ⟨by simp, ?_, ?_, ?_, ?_, ?_, by simp⟩
  · intro p q counted
    cases counted
  · intro _ value
    rw [if_neg (by change ¬ (0 < value ∧ value ≤ 0); omega)]
    rfl
  · intro p counted
    cases counted
  · intro p seq numbered
    cases numbered
  · intro row member
    cases member

/--
`next_seq` numbers every event once, without a gap, exactly in the interleavings where no call
counts while another has counted and not read back, and where every read back is answered.
-/
theorem seqsExact_iff (calls : Nat → Publication) (stmts : List Statement) :
    (∀ front, front <+: stmts → (Runs.run (step calls) {} front).SeqsExact) ↔
      Runs.Meets (step calls) CountsAlone {} stmts :=
  Runs.always_iff_meets Tallied SeqsExact (fun _ tallied => tallied.seqsExact)
    (fun _ stmt tallied alone => tallied.step calls stmt alone)
    (fun _ stmt tallied crowded => tallied.breaks calls stmt crowded) tallied_initial stmts

def twoJoins : Nat → Publication := fun _ => { eventType := "member.joined" }

-- Both calls count before either reads.
def overlappingPublishes : List Statement :=
  [{ publisher := 0 }, { publisher := 1 }, { publisher := 0 }, { publisher := 1 },
    { publisher := 0, id := "a" }, { publisher := 1, id := "b" }]

theorem seqsExact_overlapping :
    ((Runs.run (step twoJoins) {} overlappingPublishes).log.map (·.seq)) = [2, 2] ∧
      (Runs.run (step twoJoins) {} overlappingPublishes).returns 1 = 0 ∧
      ¬ (Runs.run (step twoJoins) {} overlappingPublishes).SeqsExact := by
  have rows : (Runs.run (step twoJoins) {} overlappingPublishes).log.map (·.seq) = [2, 2] := by
    decide
  refine ⟨rows, by decide, ?_⟩
  intro held
  have distinct := held.distinct
  rw [rows] at distinct
  exact absurd distinct (by decide)

end AuditState

end Wavvon.Apps
