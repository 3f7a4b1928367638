import Mathlib.Algebra.BigOperators.Group.List.Basic
import Mathlib.Algebra.Order.Ring.Int
import Std.Data.ExtTreeMap.Lemmas
import Wavvon.Shared.Interleaving
import Wavvon.Shared.Tables

set_option autoImplicit false

namespace Counters

open Std (ExtTreeMap TransCmp LawfulEqCmp)
open Tables (erase_insert insert_self modify_absent modify_found)

section

variable {K V : Type} {cmp : K → K → Ordering} [TransCmp cmp] [LawfulEqCmp cmp]

-- How many rows of a table satisfy a condition.
def rows (table : ExtTreeMap K V cmp) (holds : K → V → Bool) : Nat := (table.filter holds).size

theorem rows_congr {table : ExtTreeMap K V cmp} {first second : K → V → Bool}
    (agree : ∀ k v, table[k]? = some v → first k v = second k v) : rows table first = rows table second := by
  have same : table.filter first = table.filter second := by
    ext k v
    simp only [ExtTreeMap.getElem?_filter', Option.filter_eq_some_iff]
    exact and_congr_right fun found => by rw [agree k v found]
  rw [rows, rows, same]

theorem rows_eq_zero {table : ExtTreeMap K V cmp} {holds : K → V → Bool}
    (nobody : ∀ k v, table[k]? = some v → holds k v = false) : rows table holds = 0 := by
  have none : table.filter holds = ∅ := by
    ext k v
    simp only [ExtTreeMap.getElem?_filter', Option.filter_eq_some_iff, ExtTreeMap.getElem?_empty]
    constructor
    · intro found
      exact absurd found.2 (by simp [nobody k v found.1])
    · intro found
      cases found
  rw [rows, none, ExtTreeMap.size_empty]

theorem rows_filter (table : ExtTreeMap K V cmp) (kept holds : K → V → Bool) :
    rows (table.filter kept) holds = rows table fun k v => kept k v && holds k v := by
  have same : (table.filter kept).filter holds = table.filter fun k v => kept k v && holds k v := by
    ext k v
    simp
  rw [rows, rows, same]

theorem rows_map {W : Type} (table : ExtTreeMap K V cmp) (f : K → V → W) (holds : K → W → Bool) :
    rows (table.map f) holds = rows table fun k v => holds k (f k v) := by
  have same : (table.map f).filter holds = (table.filter fun k v => holds k (f k v)).map f := by
    ext k v
    cases found : table[k]? <;> simp [found, Option.filter_some]
  rw [rows, rows, same, ExtTreeMap.size_map]

variable [DecidableEq K]

theorem filter_insert (table : ExtTreeMap K V cmp) (holds : K → V → Bool) (k : K) (v : V) :
    (table.insert k v).filter holds =
      if holds k v then (table.filter holds).insert k v else (table.filter holds).erase k := by
  ext other w
  by_cases same : k = other
  next =>
    subst same
    by_cases counted : holds k v <;> simp [counted, Option.filter_some]
  next =>
    by_cases counted : holds k v <;>
      simp [counted, same, ExtTreeMap.getElem?_insert, ExtTreeMap.getElem?_erase]

theorem rows_insert {table : ExtTreeMap K V cmp} {k : K} (fresh : k ∉ table) (holds : K → V → Bool) (v : V) :
    rows (table.insert k v) holds = rows table holds + if holds k v then 1 else 0 := by
  have absent : k ∉ table.filter holds := by
    intro member
    exact fresh (ExtTreeMap.mem_of_mem_filter member)
  unfold rows
  rw [filter_insert]
  split
  next => simp [ExtTreeMap.size_insert, absent]
  next => simp [ExtTreeMap.size_erase, absent]

theorem rows_erase {table : ExtTreeMap K V cmp} {k : K} {v : V} (found : table[k]? = some v) (holds : K → V → Bool) :
    rows (table.erase k) holds + (if holds k v then 1 else 0) = rows table holds := by
  have fresh : k ∉ table.erase k := by simp
  rw [← rows_insert fresh holds v, erase_insert, insert_self found]

theorem rows_replace {table : ExtTreeMap K V cmp} {k : K} {v : V} (found : table[k]? = some v)
    (holds : K → V → Bool) (w : V) :
    rows (table.insert k w) holds + (if holds k v then 1 else 0) =
      rows table holds + if holds k w then 1 else 0 := by
  have fresh : k ∉ table.erase k := by simp
  rw [← erase_insert, rows_insert fresh holds w, ← rows_erase found holds]
  omega

-- A change that the condition does not look at.
theorem rows_modify {holds : K → V → Bool} {f : V → V} (blind : ∀ k v, holds k (f v) = holds k v)
    (table : ExtTreeMap K V cmp) (k : K) : rows (table.modify k f) holds = rows table holds := by
  cases found : table[k]? with
  | none => rw [modify_absent found]
  | some v =>
    rw [modify_found found]
    have replaced := rows_replace found holds (f v)
    rw [blind] at replaced
    omega

end

open Interleaving (System Discipline step)

variable {S L P A K : Type}

/-- A count that is stored beside the entries it counts. -/
structure Ledger (S K : Type) where
  count : S → K → Option Int
  entries : S → K → Nat

-- What the handlers in flight have still to add to a count.
def owed (due : P → K → Int) (sys : System S L P A) (k : K) : Int := (sys.progresses.map (due · k)).sum

def Balanced (ledger : Ledger S K) (due : P → K → Int) (sys : System S L P A) : Prop :=
  ∀ k count, ledger.count sys.shared k = some count → count + owed due sys k = ledger.entries sys.shared k

theorem sum_set (f : P → Int) {progresses : List P} {i : Nat} {p : P} (found : progresses[i]? = some p) (q : P) :
    ((progresses.set i q).map f).sum + f p = (progresses.map f).sum + f q := by
  induction progresses generalizing i with
  | nil => simp at found
  | cons head tail ih =>
    cases i with
    | zero =>
      obtain rfl : head = p := by simpa using found
      simp only [List.set_cons_zero, List.map_cons, List.sum_cons]
      omega
    | succ i =>
      have rest := ih (i := i) (by simpa using found)
      simp only [List.set_cons_succ, List.map_cons, List.sum_cons]
      omega

section

variable {ledger : Ledger S K} {due : P → K → Int} {rules : Discipline S L P} {sys : System S L P A}

theorem owed_step {i : Nat} {p : P} {label : L} (waits : sys.AtStatement i p label) (k : K) :
    owed due (step rules sys i) k + due p k = owed due sys k + due (rules.advance p label sys.shared) k := by
  obtain ⟨found, after⟩ := Interleaving.step_progresses rules waits
  rw [owed, owed, after]
  exact sum_set (due · k) found _

/--
A statement keeps a count when what it adds to the count and to what is owed is what it adds to the
entries. One that stores a new count answers for it whole.
-/
theorem balanced_step {i : Nat} {p : P} {label : L} (waits : sys.AtStatement i p label)
    (balanced : Balanced ledger due sys)
    (settles : ∀ k count, ledger.count (step rules sys i).shared k = some count →
      (∃ before, ledger.count sys.shared k = some before ∧
        count + due (rules.advance p label sys.shared) k + ledger.entries sys.shared k =
          before + due p k + ledger.entries (step rules sys i).shared k) ∨
      count + owed due (step rules sys i) k = ledger.entries (step rules sys i).shared k) :
    Balanced ledger due (step rules sys i) := by
  intro k count stored
  cases settles k count stored with
  | inl kept =>
    obtain ⟨before, found, sums⟩ := kept
    have held := balanced k before found
    have moved : owed due (step rules sys i) k + due p k =
        owed due sys k + due (rules.advance p label sys.shared) k := owed_step waits k
    omega
  | inr opened => exact opened

-- With nothing owed, the counts are right.
theorem Balanced.settled (balanced : Balanced ledger due sys) {k : K} {count : Int}
    (stored : ledger.count sys.shared k = some count) (idle : ∀ p ∈ sys.progresses, due p k = 0) :
    count = ledger.entries sys.shared k := by
  have nothing : owed due sys k = 0 := by
    rw [owed, List.map_congr_left idle]
    simp
  have held := balanced k count stored
  omega

end

end Counters
