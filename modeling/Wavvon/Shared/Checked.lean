import Mathlib.Algebra.Group.Nat.Defs

set_option autoImplicit false

namespace Checked

/-! Unsigned words of 64 bits. The answer is `none` where an operation overflows. -/

def add (a b : UInt64) : Option UInt64 := if a.toNat + b.toNat < 2 ^ 64 then some (a + b) else none

def sub (a b : UInt64) : Option UInt64 := if b.toNat ≤ a.toNat then some (a - b) else none

def mul (a b : UInt64) : Option UInt64 := if a.toNat * b.toNat < 2 ^ 64 then some (a * b) else none

-- `saturating_sub`
def satSub (a b : UInt64) : UInt64 := if b.toNat ≤ a.toNat then a - b else 0

-- `div_ceil`
def divCeil (a b : UInt64) : Option UInt64 := if 0 < a % b then add (a / b) 1 else some (a / b)

section

variable {a b c : UInt64} {m n : Nat}

theorem toNat_add (sum : add a b = some c) : c.toNat = a.toNat + b.toNat := by
  unfold add at sum
  split at sum
  next fits =>
    obtain rfl := Option.some.inj sum
    rw [UInt64.toNat_add, Nat.mod_eq_of_lt fits]
  next => cases sum

theorem add_isSome : (add a b).isSome = true ↔ a.toNat + b.toNat < 2 ^ 64 := by
  unfold add
  split
  next fits => exact iff_of_true rfl fits
  next exceeds => exact iff_of_false Bool.false_ne_true exceeds

theorem toNat_satSub (a b : UInt64) : (satSub a b).toNat = a.toNat - b.toNat := by
  unfold satSub
  split
  next below => exact UInt64.toNat_sub_of_le _ _ (UInt64.le_iff_toNat_le.mpr below)
  next above =>
    rw [Nat.sub_eq_zero_of_le (Nat.le_of_not_le above)]
    rfl

theorem toNat_ofNat (fits : m < 2 ^ 64) : (UInt64.ofNat m).toNat = m := by
  rw [UInt64.toNat_ofNat', Nat.mod_eq_of_lt fits]

theorem add_ofNat (fits : m + n < 2 ^ 64) : add (.ofNat m) (.ofNat n) = some (.ofNat (m + n)) := by
  rw [add, toNat_ofNat (by omega), toNat_ofNat (by omega), if_pos fits, UInt64.ofNat_add]

theorem sub_ofNat (below : n ≤ m) (fits : m < 2 ^ 64) : sub (.ofNat m) (.ofNat n) = some (.ofNat (m - n)) := by
  rw [sub, toNat_ofNat (by omega), toNat_ofNat fits, if_pos below]
  congr 1
  apply UInt64.toNat_inj.mp
  have words : UInt64.ofNat n ≤ UInt64.ofNat m := by
    rw [UInt64.le_iff_toNat_le, toNat_ofNat fits, toNat_ofNat (by omega)]
    exact below
  rw [UInt64.toNat_sub_of_le _ _ words, toNat_ofNat fits, toNat_ofNat (by omega), toNat_ofNat (by omega)]

theorem mul_ofNat (small : m < 2 ^ 64) (short : n < 2 ^ 64) (fits : m * n < 2 ^ 64) :
    mul (.ofNat m) (.ofNat n) = some (.ofNat (m * n)) := by
  rw [mul, toNat_ofNat small, toNat_ofNat short, if_pos fits, UInt64.ofNat_mul]

theorem div_ofNat (small : m < 2 ^ 64) (short : n < 2 ^ 64) :
    UInt64.ofNat m / UInt64.ofNat n = UInt64.ofNat (m / n) := by
  apply UInt64.toNat_inj.mp
  rw [UInt64.toNat_div, toNat_ofNat small, toNat_ofNat short,
    toNat_ofNat (Nat.lt_of_le_of_lt (Nat.div_le_self m n) small)]

theorem mod_ofNat (small : m < 2 ^ 64) (short : n < 2 ^ 64) :
    UInt64.ofNat m % UInt64.ofNat n = UInt64.ofNat (m % n) := by
  apply UInt64.toNat_inj.mp
  rw [UInt64.toNat_mod, toNat_ofNat small, toNat_ofNat short,
    toNat_ofNat (Nat.lt_of_le_of_lt (Nat.mod_le m n) small)]

theorem divCeil_ofNat (small : m < 2 ^ 64) (short : n < 2 ^ 64) (more : 1 < n) :
    divCeil (.ofNat m) (.ofNat n) = some (.ofNat ((m + (n - 1)) / n)) := by
  have split := Nat.div_add_mod m n
  have below := Nat.mod_lt m (Nat.lt_trans Nat.zero_lt_one more)
  rw [divCeil, mod_ofNat small short, div_ofNat small short]
  by_cases exact : m % n = 0
  · have ceil : (m + (n - 1)) / n = m / n := by
      rw [Nat.div_eq_iff (by omega)]
      have := Nat.mul_comm n (m / n)
      omega
    rw [exact, if_neg (by decide), ceil]
  · have ceil : (m + (n - 1)) / n = m / n + 1 := by
      rw [Nat.div_eq_iff (by omega), Nat.add_mul]
      have := Nat.mul_comm n (m / n)
      omega
    have room : m / n < m := Nat.div_lt_self (Nat.pos_of_ne_zero (by rintro rfl; simp at exact)) more
    have positive : 0 < UInt64.ofNat (m % n) := by
      rw [UInt64.lt_iff_toNat_lt, toNat_ofNat (by omega)]
      exact Nat.pos_of_ne_zero exact
    rw [if_pos positive, ceil]
    exact add_ofNat (Nat.lt_of_le_of_lt (Nat.succ_le_of_lt room) small)

end

end Checked
