import Mathlib.Data.List.Basic
import Std.Data.ExtTreeMap.Lemmas

set_option autoImplicit false

namespace Leases

open Std (ExtTreeMap TransCmp LawfulEqCmp)

variable {O K I V : Type}

/-- Who holds which keys, and no key has two owners. -/
def Exclusive (held : List (O × K)) : Prop :=
  ∀ owner other key, (owner, key) ∈ held → (other, key) ∈ held → owner = other

-- Nobody but the owner holds one of the keys.
def Free (held : List (O × K)) (owner : O) (keys : List K) : Prop :=
  ∀ entry ∈ held, entry.2 ∈ keys → entry.1 = owner

instance [DecidableEq O] [DecidableEq K] (held : List (O × K)) (owner : O) (keys : List K) :
    Decidable (Free held owner keys) :=
  inferInstanceAs (Decidable (∀ entry ∈ held, entry.2 ∈ keys → entry.1 = owner))

theorem Exclusive.of_subset {held after : List (O × K)} (exclusive : Exclusive held)
    (covered : ∀ entry ∈ after, entry ∈ held) : Exclusive after := by
  intro owner other key mine theirs
  exact exclusive owner other key (covered _ mine) (covered _ theirs)

/-- Keys that are free are given to one owner. -/
theorem Exclusive.give {held after : List (O × K)} {owner : O} {keys : List K} (exclusive : Exclusive held)
    (free : Free held owner keys)
    (covered : ∀ entry ∈ after, entry ∈ held ∨ entry.1 = owner ∧ entry.2 ∈ keys) : Exclusive after := by
  intro first second key mine theirs
  obtain before | ⟨same, given⟩ := covered _ mine
  · obtain earlier | ⟨same', given'⟩ := covered _ theirs
    · exact exclusive first second key before earlier
    · exact (free _ before given').trans same'.symm
  · obtain earlier | ⟨same', -⟩ := covered _ theirs
    · exact same.trans (free _ earlier given).symm
    · exact same.trans same'.symm

-- The keys that the entries of a table hold.
def ofTable {cmp : I → I → Ordering} [TransCmp cmp] (owner : I → V → O) (keys : V → List K)
    (table : ExtTreeMap I V cmp) : List (O × K) :=
  table.toList.flatMap fun entry => (keys entry.2).map (owner entry.1 entry.2, ·)

section

variable {cmp : I → I → Ordering} [TransCmp cmp] [LawfulEqCmp cmp] {owner : I → V → O} {keys : V → List K}
  {table : ExtTreeMap I V cmp} {e : O × K}

theorem mem_ofTable : e ∈ ofTable owner keys table ↔
    ∃ i v, table[i]? = some v ∧ owner i v = e.1 ∧ e.2 ∈ keys v := by
  simp only [ofTable, List.mem_flatMap, List.mem_map, Prod.exists, ExtTreeMap.mem_toList_iff_getElem?_eq_some]
  constructor
  · rintro ⟨i, v, found, key, holds, rfl⟩
    exact ⟨i, v, found, rfl, holds⟩
  · rintro ⟨i, v, found, same, holds⟩
    exact ⟨i, v, found, e.2, holds, Prod.ext same rfl⟩

theorem mem_ofTable_insert {i : I} {v : V} (member : e ∈ ofTable owner keys (table.insert i v)) :
    e ∈ ofTable owner keys table ∨ e.1 = owner i v ∧ e.2 ∈ keys v := by
  obtain ⟨j, stored, found, same, holds⟩ := mem_ofTable.mp member
  rw [ExtTreeMap.getElem?_insert] at found
  split at found
  next here =>
    obtain rfl := LawfulEqCmp.eq_of_compare here
    obtain rfl := Option.some.inj found
    exact .inr ⟨same.symm, holds⟩
  next => exact .inl (mem_ofTable.mpr ⟨j, stored, found, same, holds⟩)

theorem mem_ofTable_erase {i : I} (member : e ∈ ofTable owner keys (table.erase i)) :
    e ∈ ofTable owner keys table := by
  obtain ⟨j, stored, found, same, holds⟩ := mem_ofTable.mp member
  rw [ExtTreeMap.getElem?_erase] at found
  split at found
  next => cases found
  next => exact mem_ofTable.mpr ⟨j, stored, found, same, holds⟩

theorem mem_ofTable_modify {i : I} {f : V → V} (member : e ∈ ofTable owner keys (table.modify i f)) :
    e ∈ ofTable owner keys table ∨ ∃ v, table[i]? = some v ∧ e.1 = owner i (f v) ∧ e.2 ∈ keys (f v) := by
  obtain ⟨j, stored, found, same, holds⟩ := mem_ofTable.mp member
  rw [ExtTreeMap.getElem?_modify] at found
  split at found
  next here =>
    obtain rfl := LawfulEqCmp.eq_of_compare here
    obtain ⟨v, before, rfl⟩ := Option.map_eq_some_iff.mp found
    exact .inr ⟨v, before, same.symm, holds⟩
  next => exact .inl (mem_ofTable.mpr ⟨j, stored, found, same, holds⟩)

end

end Leases
