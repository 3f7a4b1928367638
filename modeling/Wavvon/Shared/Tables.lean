import Mathlib.Data.Finset.Basic
import Mathlib.Data.Fintype.EquivFin
import Std.Data.ExtTreeMap.Lemmas

set_option autoImplicit false

namespace Tables

open Std (ExtTreeMap TransCmp LawfulEqCmp TransOrd LawfulEqOrd)

section

variable {K V : Type} {cmp : K → K → Ordering} [TransCmp cmp] [LawfulEqCmp cmp]

theorem erase_insert {table : ExtTreeMap K V cmp} (k : K) (v : V) : (table.erase k).insert k v = table.insert k v := by
  ext other w
  by_cases here : k = other <;> simp [here, ExtTreeMap.getElem?_insert, ExtTreeMap.getElem?_erase]

theorem insert_self {table : ExtTreeMap K V cmp} {k : K} {v : V} (found : table[k]? = some v) :
    table.insert k v = table := by
  ext other w
  by_cases here : k = other
  next => simp [← here, found]
  next => simp [here, ExtTreeMap.getElem?_insert]

theorem erase_absent {table : ExtTreeMap K V cmp} {k : K} (absent : table[k]? = none) : table.erase k = table := by
  ext other w
  by_cases here : k = other
  next => simp [← here, absent]
  next => simp [here, ExtTreeMap.getElem?_erase]

theorem modify_absent {table : ExtTreeMap K V cmp} {k : K} (absent : table[k]? = none) (f : V → V) :
    table.modify k f = table := by
  ext other w
  by_cases here : k = other
  next => simp [← here, absent]
  next => simp [here, ExtTreeMap.getElem?_modify]

theorem modify_found {table : ExtTreeMap K V cmp} {k : K} {v : V} (found : table[k]? = some v) (f : V → V) :
    table.modify k f = table.insert k (f v) := by
  ext other w
  by_cases here : k = other
  next => simp [← here, found]
  next => simp [here, ExtTreeMap.getElem?_modify, ExtTreeMap.getElem?_insert]

theorem modify_some [DecidableEq K] {table : ExtTreeMap K V cmp} {k m : K} {f : V → V} {w : V}
    (found : (table.modify k f)[m]? = some w) : ∃ v, table[m]? = some v ∧ w = if k = m then f v else v := by
  cases here : table[k]? with
  | none =>
    rw [modify_absent here] at found
    refine ⟨w, found, (if_neg ?_).symm⟩
    rintro rfl
    cases here.symm.trans found
  | some v =>
    rw [modify_found here, ExtTreeMap.getElem?_insert] at found
    by_cases same : k = m
    next =>
      subst same
      exact ⟨v, here, by simpa using found.symm⟩
    next => exact ⟨w, by simpa [same] using found, (if_neg same).symm⟩

end

variable {K L V : Type} [Ord K] [TransOrd K] [Ord L] [TransOrd L]

-- A map of maps in which a key is present only while its inner map has an entry.
abbrev Nested (K L V : Type) [Ord K] [Ord L] := ExtTreeMap K (ExtTreeMap L V)

namespace Nested

def get (table : Nested K L V) (k : K) (l : L) : Option V :=
  table[k]?.bind fun inner => inner[l]?

def put (table : Nested K L V) (k : K) (l : L) (v : V) : Nested K L V :=
  table.insert k ((table[k]?.getD ∅).insert l v)

def drop (table : Nested K L V) (k : K) (l : L) : Nested K L V :=
  match table[k]? with
  | none => table
  | some inner =>
    let rest := inner.erase l
    if rest.isEmpty then table.erase k else table.insert k rest

def NoEmpty (table : Nested K L V) : Prop :=
  ∀ (k : K) (inner : ExtTreeMap L V), table[k]? = some inner → inner ≠ ∅

@[simp] theorem get_empty (k : K) (l : L) : get (∅ : Nested K L V) k l = none := by
  simp [get]

omit [TransOrd L] in
theorem empty_noEmpty : NoEmpty (∅ : Nested K L V) := by
  intro k inner found
  simp at found

section

variable [LawfulEqOrd K] [LawfulEqOrd L] [DecidableEq K] [DecidableEq L]

theorem get_put (table : Nested K L V) (k k' : K) (l l' : L) (v : V) :
    get (put table k l v) k' l' = if k' = k ∧ l' = l then some v else get table k' l' := by
  simp only [get, put, ExtTreeMap.getElem?_insert]
  by_cases sameKey : k = k' <;> by_cases sameLabel : l = l' <;>
    grind

theorem get_drop (table : Nested K L V) (k k' : K) (l l' : L) :
    get (drop table k l) k' l' = if k' = k ∧ l' = l then none else get table k' l' := by
  simp only [get, drop]
  cases found : table[k]? with
  | none => grind
  | some inner =>
    dsimp only
    split
    · have gone : ∀ m : L, (inner.erase l)[m]? = none := by
        intro m
        have := ExtTreeMap.isEmpty_iff.mp ‹(inner.erase l).isEmpty = true›
        simp [this]
      have key := gone l'
      grind
    · grind

end

theorem mem_of_get {table : Nested K L V} {k : K} {l : L} {v : V}
    (found : get table k l = some v) : k ∈ table := by
  unfold get at found
  grind

theorem mem_iff {table : Nested K L V} (full : NoEmpty table) (k : K) :
    k ∈ table ↔ ∃ l v, get table k l = some v := by
  constructor
  · intro present
    have found : table[k]? = some table[k] := ExtTreeMap.getElem?_eq_some_getElem present
    have inhabited := full k _ found
    simp only [ne_eq, ExtTreeMap.eq_empty_iff_forall_not_mem, not_forall, not_not] at inhabited
    obtain ⟨l, member⟩ := inhabited
    exact ⟨l, table[k][l], by simp [get, found, member]⟩
  · rintro ⟨l, v, found⟩
    exact mem_of_get found

theorem put_noEmpty {table : Nested K L V} (full : NoEmpty table) (k : K) (l : L) (v : V) :
    NoEmpty (put table k l v) := by
  intro k' inner found
  simp only [put, ExtTreeMap.getElem?_insert] at found
  split at found
  · cases found
    exact ExtTreeMap.insert_ne_empty
  · exact full k' inner found

theorem drop_noEmpty [LawfulEqOrd K] {table : Nested K L V} (full : NoEmpty table) (k : K) (l : L) :
    NoEmpty (drop table k l) := by
  intro k' inner found
  unfold drop at found
  cases held : table[k]? with
  | none =>
    rw [held] at found
    exact full k' inner found
  | some old =>
    rw [held] at found
    dsimp only at found
    split at found <;> grind [NoEmpty]

end Nested

-- A table is finite, so some name is always free.
theorem exists_fresh [LawfulEqOrd K] [DecidableEq K] [Infinite K] (table : ExtTreeMap K V) : ∃ key :
    K, key ∉ table := by
  obtain ⟨key, outside⟩ := Infinite.exists_notMem_finset table.keys.toFinset
  exact ⟨key, fun known => outside (List.mem_toFinset.mpr (ExtTreeMap.mem_keys.mpr known))⟩

end Tables
