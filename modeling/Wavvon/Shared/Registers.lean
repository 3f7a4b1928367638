import Mathlib.Data.Set.Insert
import Mathlib.Order.Defs.LinearOrder
import Std.Data.ExtTreeMap.Lemmas

set_option autoImplicit false

namespace Copies

open Std (ExtTreeMap TransCmp LawfulEqCmp)

variable {K V D : Type} {cmp : K → K → Ordering} [TransCmp cmp]

section

variable {key : D → K} {states : D → V → Prop} {table : ExtTreeMap K V cmp} {copies : List D}

/-- Each copy of a row that is stored says what the row says; a copy of no row says nothing. -/
def Faithful (key : D → K) (states : D → V → Prop) (table : ExtTreeMap K V cmp) (copies : List D) : Prop :=
  ∀ d ∈ copies, ∀ v, table[key d]? = some v → states d v

/-- Each stored row among the kept ones has a copy. -/
def Covers (key : D → K) (kept : K → Prop) (table : ExtTreeMap K V cmp) (copies : List D) : Prop :=
  ∀ k, kept k → ∀ v, table[k]? = some v → ∃ d ∈ copies, key d = k

-- Rows may go without the copies being told.
theorem Faithful.shrink (faithful : Faithful key states table copies) {less : ExtTreeMap K V cmp}
    (within : ∀ (k : K) (v : V), less[k]? = some v → table[k]? = some v) : Faithful key states less copies := by
  intro d member v found
  exact faithful d member v (within (key d) v found)

theorem Faithful.forget (faithful : Faithful key states table copies) {fewer : List D} (within : fewer ⊆ copies) :
    Faithful key states table fewer := by
  intro d member
  exact faithful d (within member)

theorem Faithful.copy (faithful : Faithful key states table copies) {d : D}
    (right : ∀ v, table[key d]? = some v → states d v) : Faithful key states table (d :: copies) := by
  intro e member
  obtain rfl | before := List.mem_cons.mp member
  · exact right
  · exact faithful e before

theorem Covers.shrink {kept : K → Prop} (covers : Covers key kept table copies) {less : ExtTreeMap K V cmp}
    (within : ∀ (k : K) (v : V), less[k]? = some v → table[k]? = some v) : Covers key kept less copies := by
  intro k listed v found
  exact covers k listed v (within k v found)

theorem Covers.copy {kept : K → Prop} (covers : Covers key kept table copies) (d : D) :
    Covers key (fun k => kept k ∨ k = key d) table (d :: copies) := by
  intro k listed v found
  obtain before | rfl := listed
  · obtain ⟨e, member, named⟩ := covers k before v found
    exact ⟨e, List.mem_cons_of_mem d member, named⟩
  · exact ⟨d, List.mem_cons_self, rfl⟩

theorem Covers.modify {kept : K → Prop} (covers : Covers key kept table copies) (k : K) (f : V → V) :
    Covers key kept (table.modify k f) copies := by
  intro other listed w found
  have stored : other ∈ table.modify k f := ExtTreeMap.mem_iff_isSome_getElem?.mpr (by rw [found]; rfl)
  have before := ExtTreeMap.mem_iff_isSome_getElem?.mp (ExtTreeMap.mem_modify.mp stored)
  obtain ⟨v, here⟩ := Option.isSome_iff_exists.mp before
  exact covers other listed v here

end

section

variable [LawfulEqCmp cmp]
variable {key : D → K} {states : D → V → Prop} {table : ExtTreeMap K V cmp} {copies : List D}

theorem Faithful.insert (faithful : Faithful key states table copies) {k : K} (uncopied : ∀ d ∈ copies, key d ≠ k)
    (v : V) : Faithful key states (table.insert k v) copies := by
  intro d member w found
  rw [ExtTreeMap.getElem?_insert, if_neg (by
    intro same
    exact uncopied d member (LawfulEqCmp.eq_of_compare same).symm)] at found
  exact faithful d member w found

-- A row may change in what its copies do not say.
theorem Faithful.modify (faithful : Faithful key states table copies) {k : K} {f : V → V}
    (keeps : ∀ d v, table[k]? = some v → states d v → states d (f v)) :
    Faithful key states (table.modify k f) copies := by
  intro d member w found
  rw [ExtTreeMap.getElem?_modify] at found
  by_cases same : cmp k (key d) = .eq
  next =>
    obtain rfl := LawfulEqCmp.eq_of_compare same
    rw [if_pos same] at found
    obtain ⟨v, stored, rfl⟩ := Option.map_eq_some_iff.mp found
    exact keeps d v stored (faithful d member v stored)
  next =>
    rw [if_neg same] at found
    exact faithful d member w found

theorem Covers.insert {kept : K → Prop} (covers : Covers key kept table copies) {k : K} (unkept : ¬ kept k) (v : V) :
    Covers key kept (table.insert k v) copies := by
  intro other listed w found
  rw [ExtTreeMap.getElem?_insert, if_neg (by
    intro same
    exact unkept (LawfulEqCmp.eq_of_compare same ▸ listed))] at found
  exact covers other listed w found

-- A deleted row takes its copies with it.
theorem Covers.drop [DecidableEq K] {kept : K → Prop} (covers : Covers key kept table copies) (k : K) :
    Covers key kept (table.erase k) (copies.filter (key · ≠ k)) := by
  intro other listed w found
  rw [ExtTreeMap.getElem?_erase] at found
  by_cases same : cmp k other = .eq
  next =>
    rw [if_pos same] at found
    cases found
  next =>
    rw [if_neg same] at found
    obtain ⟨d, member, rfl⟩ := covers other listed w found
    refine ⟨d, List.mem_filter.mpr ⟨member, ?_⟩, rfl⟩
    have other : key d ≠ k := by
      intro named
      exact same (by rw [named]; exact Std.ReflCmp.compare_self)
    exact decide_eq_true other

end

end Copies

namespace Registers

variable {K T V : Type} [LinearOrder T]

structure Write (K T V : Type) where
  key : K
  stamp : T
  value : V
  deriving DecidableEq, Repr

/-- A value for each key, beside the date of the newest write it has taken. -/
@[ext] structure Store (K T V : Type) where
  value : K → V
  newest : K → Option T

/-- What a store holds once it has taken these writes, in whatever order and however often. -/
structure Reflects (initial : K → V) (writes : Set (Write K T V)) (s : Store K T V) : Prop where
  untouched : ∀ key, s.newest key = none → s.value key = initial key
  newest : ∀ w ∈ writes, ∃ stamp, s.newest w.key = some stamp ∧ w.stamp ≤ stamp
  written : ∀ key stamp, s.newest key = some stamp →
    ∃ w ∈ writes, w.key = key ∧ w.stamp = stamp ∧ w.value = s.value key

-- The newest writes of a key want the same value.
def Agree (writes : Set (Write K T V)) : Prop :=
  ∀ v ∈ writes, ∀ w ∈ writes, v.key = w.key → v.stamp = w.stamp →
    v.value = w.value ∨ ∃ u ∈ writes, u.key = w.key ∧ w.stamp < u.stamp

section

variable {initial : K → V} {writes : Set (Write K T V)} {s other : Store K T V}

theorem reflects_initial (fresh : ∀ key, s.newest key = none) : Reflects s.value ∅ s where
  untouched _ _ := rfl
  newest _ inside := inside.elim
  written key stamp taken := by
    rw [fresh key] at taken
    cases taken

theorem reflects_congr (reflects : Reflects initial writes s) {same : Set (Write K T V)}
    (members : ∀ w, w ∈ same ↔ w ∈ writes) : Reflects initial same s := by
  have equal : same = writes := Set.ext members
  rw [equal]
  exact reflects

/-- The newest write of a key decides it. -/
theorem Reflects.decided (reflects : Reflects initial writes s) (agree : Agree writes) {w : Write K T V}
    (inside : w ∈ writes) (greatest : ∀ v ∈ writes, v.key = w.key → v.stamp ≤ w.stamp) :
    s.value w.key = w.value ∧ s.newest w.key = some w.stamp := by
  obtain ⟨stamp, taken, reached⟩ := reflects.newest w inside
  obtain ⟨v, written, sameKey, sameStamp, wrote⟩ := reflects.written w.key stamp taken
  obtain rfl : stamp = w.stamp := le_antisymm (sameStamp ▸ greatest v written sameKey) reached
  refine ⟨?_, taken⟩
  rcases agree v written w inside sameKey sameStamp with equal | ⟨u, newer, same, later⟩
  · exact wrote.symm.trans equal
  · exact absurd (greatest u newer same) (not_le.mpr later)

/-- Two stores that took the same writes are equal. -/
theorem Reflects.unique (reflects : Reflects initial writes s) (again : Reflects initial writes other)
    (agree : Agree writes) (key : K) : s.value key = other.value key ∧ s.newest key = other.newest key := by
  cases taken : s.newest key with
  | none =>
    cases found : other.newest key with
    | none => exact ⟨(reflects.untouched key taken).trans (again.untouched key found).symm, rfl⟩
    | some stamp =>
      obtain ⟨w, inside, rfl, _⟩ := again.written key stamp found
      obtain ⟨reached, newest, _⟩ := reflects.newest w inside
      rw [taken] at newest
      cases newest
  | some stamp =>
    obtain ⟨w, inside, rfl, rfl, wrote⟩ := reflects.written key stamp taken
    have greatest : ∀ v ∈ writes, v.key = w.key → v.stamp ≤ w.stamp := by
      intro v written same
      obtain ⟨reached, newest, older⟩ := reflects.newest v written
      rw [same, taken] at newest
      cases newest
      exact older
    have decided := again.decided agree inside greatest
    exact ⟨wrote.symm.trans decided.1.symm, decided.2.symm⟩

section

variable [DecidableEq K]

namespace Store

-- The last writer wins; of two writes with one date, the first to arrive.
def settle (s : Store K T V) (w : Write K T V) : Store K T V :=
  if (s.newest w.key).all (· < w.stamp) then
    { value := Function.update s.value w.key w.value
      newest := Function.update s.newest w.key (some w.stamp) }
  else s

theorem settle_stale {s : Store K T V} {w : Write K T V} {stamp : T} (taken : s.newest w.key = some stamp)
    (stale : w.stamp ≤ stamp) : s.settle w = s := by
  unfold settle
  rw [taken, if_neg]
  simpa using stale

theorem settle_other (s : Store K T V) {w : Write K T V} {key : K} (other : key ≠ w.key) :
    (s.settle w).value key = s.value key ∧ (s.settle w).newest key = s.newest key := by
  unfold settle
  split <;> simp [Function.update_of_ne other]

-- The value is written whatever its date; only the newest date stays on record.
def force (s : Store K T V) (w : Write K T V) : Store K T V :=
  { value := Function.update s.value w.key w.value, newest := (s.settle w).newest }

theorem settle_newer {s : Store K T V} {w : Write K T V} (newer : (s.newest w.key).all (· < w.stamp) = true) :
    (s.settle w).value w.key = w.value ∧ (s.settle w).newest w.key = some w.stamp := by
  simp [settle, newer]

-- The dates move by dates alone.
theorem settle_newest_congr {s other : Store K T V} (same : s.newest = other.newest) {v w : Write K T V}
    (sameKey : v.key = w.key) (sameStamp : v.stamp = w.stamp) : (s.settle v).newest = (other.settle w).newest := by
  unfold settle
  rw [same, sameKey, sameStamp]
  split
  · rfl
  · exact same

theorem force_newer {s : Store K T V} {w : Write K T V} (newer : (s.newest w.key).all (· < w.stamp) = true) :
    s.force w = s.settle w := by
  unfold force settle
  rw [if_pos newer]

/-- A write that changes its register shows the same both ways exactly if it is the newest of its key. -/
theorem force_value_iff {s : Store K T V} {w : Write K T V} (changes : s.value w.key ≠ w.value) :
    (s.force w).value = (s.settle w).value ↔ (s.newest w.key).all (· < w.stamp) = true := by
  constructor
  · intro same
    by_contra old
    have kept := congrFun same w.key
    unfold force settle at kept
    rw [if_neg old] at kept
    simp only [Function.update_self] at kept
    exact changes kept.symm
  · intro newer
    rw [force_newer newer]

-- A write that arrives is the newest of its key, or leaves a newer one there.
theorem settle_cases (s : Store K T V) (w : Write K T V) :
    ((s.settle w).newest w.key = some w.stamp ∧ (s.settle w).value w.key = w.value ∧
        ∀ stamp, s.newest w.key = some stamp → stamp < w.stamp) ∨
      s.settle w = s ∧ ∃ stamp, s.newest w.key = some stamp ∧ w.stamp ≤ stamp := by
  cases taken : s.newest w.key with
  | none =>
    left
    simp [settle, taken]
  | some stamp =>
    by_cases stale : w.stamp ≤ stamp
    · exact .inr ⟨settle_stale taken stale, stamp, rfl, stale⟩
    · left
      have newer := not_le.mp stale
      simp [settle, taken, newer]

end Store

open Store

theorem reflects_settle (reflects : Reflects initial writes s) (w : Write K T V) :
    Reflects initial (insert w writes) (s.settle w) := by
  rcases s.settle_cases w with ⟨newest, value, newer⟩ | ⟨same, taken⟩
  · constructor
    · intro key free
      by_cases here : key = w.key
      · subst here
        rw [newest] at free
        cases free
      · obtain ⟨sameValue, sameNewest⟩ := s.settle_other here
        rw [sameValue]
        exact reflects.untouched key (sameNewest.symm.trans free)
    · rintro v (rfl | earlier)
      · exact ⟨v.stamp, newest, le_refl _⟩
      · obtain ⟨stamp, taken, older⟩ := reflects.newest v earlier
        by_cases here : v.key = w.key
        · rw [here] at taken ⊢
          exact ⟨w.stamp, newest, older.trans (newer stamp taken).le⟩
        · rw [(s.settle_other here).2]
          exact ⟨stamp, taken, older⟩
    · intro key stamp taken
      by_cases here : key = w.key
      · subst here
        rw [newest] at taken
        cases taken
        exact ⟨w, .inl rfl, rfl, rfl, value.symm⟩
      · obtain ⟨sameValue, sameNewest⟩ := s.settle_other here
        rw [sameNewest] at taken
        obtain ⟨v, earlier, sameKey, sameStamp, wrote⟩ := reflects.written key stamp taken
        exact ⟨v, .inr earlier, sameKey, sameStamp, wrote.trans sameValue.symm⟩
  · rw [same]
    constructor
    · exact reflects.untouched
    · rintro v (rfl | earlier)
      · exact taken
      · exact reflects.newest v earlier
    · intro key stamp taken
      obtain ⟨v, earlier, found⟩ := reflects.written key stamp taken
      exact ⟨v, .inr earlier, found⟩

theorem Reflects.stale (reflects : Reflects initial writes s) {v w : Write K T V} (inside : v ∈ writes)
    (same : w.key = v.key) (older : w.stamp ≤ v.stamp) : s.settle w = s := by
  obtain ⟨stamp, taken, reached⟩ := reflects.newest v inside
  rw [← same] at taken
  exact settle_stale taken (older.trans reached)

-- A store that takes a list holds the writes of it that count; the others are older than what it has.
theorem reflects_foldl (reflects : Reflects initial writes s) (counts : Write K T V → Prop) (list : List (Write K T V))
    (stale : ∀ w ∈ list, ¬ counts w → ∃ v ∈ writes, w.key = v.key ∧ w.stamp ≤ v.stamp) :
    Reflects initial (writes ∪ {w | w ∈ list ∧ counts w}) (list.foldl settle s) := by
  induction list generalizing writes s with
  | nil => exact reflects_congr reflects (by simp)
  | cons w rest ih =>
    rw [List.foldl_cons]
    by_cases here : counts w
    · have later : ∀ u ∈ rest, ¬ counts u → ∃ v ∈ insert w writes, u.key = v.key ∧ u.stamp ≤ v.stamp := by
        intro u inside uncounted
        obtain ⟨v, written, newer⟩ := stale u (List.mem_cons_of_mem w inside) uncounted
        exact ⟨v, .inr written, newer⟩
      refine reflects_congr (ih (reflects_settle reflects w) later) ?_
      intro v
      simp only [Set.mem_union, Set.mem_insert_iff, Set.mem_ofPred_eq, List.mem_cons]
      by_cases same : v = w
      · simp [same, here]
      · simp [same]
    · obtain ⟨v, written, same, older⟩ := stale w List.mem_cons_self here
      rw [reflects.stale written same older]
      refine reflects_congr (ih reflects fun u inside => stale u (List.mem_cons_of_mem w inside)) ?_
      intro u
      simp only [Set.mem_union, Set.mem_ofPred_eq, List.mem_cons]
      by_cases same : u = w
      · simp [same, here]
      · simp [same]

end

end

end Registers
