import Mathlib.Algebra.Order.Field.Basic
import Mathlib.Tactic.Linarith
import Mathlib.Tactic.Ring
import Wavvon.Shared.Runs

set_option autoImplicit false

namespace Metering

variable {S E F : Type} [LinearOrder F]

/-- What is left to spend, how it grows with the time that passes, and what an event takes of it. -/
structure Meter (S E F : Type) where
  step : S → E → S
  time : E → F
  spends : S → E → Bool
  level : S → F → F

-- No event is earlier than the one before it.
def Ordered (time : E → F) : F → List E → Prop
  | _, [] => True
  | now, e :: rest => now ≤ time e ∧ Ordered time (time e) rest

namespace Meter

def spentIn (m : Meter S E F) (start stop : F) : S → List E → Nat
  | _, [] => 0
  | s, e :: rest =>
    (if start ≤ m.time e ∧ m.time e ≤ stop ∧ m.spends s e = true then 1 else 0) + m.spentIn start stop (m.step s e) rest

variable {m : Meter S E F}

theorem spentIn_append (start stop : F) (s : S) (front back : List E) :
    m.spentIn start stop s (front ++ back) =
      m.spentIn start stop s front + m.spentIn start stop (Runs.run m.step s front) back := by
  induction front generalizing s with
  | nil => simp [spentIn]
  | cons e rest ih => simp only [List.cons_append, spentIn, ih, Runs.run_cons, Nat.add_assoc]

-- Nothing is spent in a window that is over.
theorem spentIn_late {start stop now : F} (s : S) {events : List E} (ordered : Ordered m.time now events)
    (past : stop < now) :
    m.spentIn start stop s events = 0 := by
  induction events generalizing s now with
  | nil => rfl
  | cons e rest ih =>
    have late : stop < m.time e := lt_of_lt_of_le past ordered.1
    rw [spentIn, if_neg (fun inside => absurd inside.2.1 (not_le.mpr late)), ih _ ordered.2 late]

variable [Field F] [IsStrictOrderedRing F]

/-- The level stays between nothing and `burst`, grows by at most `rate`, and every event spent lowers it by one. -/
structure Bounded (m : Meter S E F) (burst rate : F) (valid : S → F → Prop) : Prop where
  nonneg : ∀ s now, valid s now → 0 ≤ m.level s now
  full : ∀ s now, valid s now → m.level s now ≤ burst
  grows : ∀ s now later, valid s now → now ≤ later → m.level s later ≤ m.level s now + rate * (later - now)
  waits : ∀ s now later, valid s now → now ≤ later → valid s later
  takes : ∀ s e, valid s (m.time e) →
    m.level (m.step s e) (m.time e) + (if m.spends s e = true then 1 else 0) ≤ m.level s (m.time e)
  keeps : ∀ s e, valid s (m.time e) → valid (m.step s e) (m.time e)

variable {burst rate : F} {valid : S → F → Prop}

theorem spentIn_open (bounded : m.Bounded burst rate valid) {start stop now : F} {s : S} {events : List E}
    (ok : valid s now) (inside : now ≤ stop) (rate_nonneg : 0 ≤ rate) (ordered : Ordered m.time now events) :
    (m.spentIn start stop s events : F) ≤ m.level s now + rate * (stop - now) := by
  induction events generalizing s now with
  | nil =>
    have left := bounded.nonneg s now ok
    have grown := mul_nonneg rate_nonneg (sub_nonneg.mpr inside)
    simp only [spentIn, Nat.cast_zero]
    linarith
  | cons e rest ih =>
    obtain ⟨later, ordered⟩ := ordered
    have grown := bounded.grows s now (m.time e) ok later
    have okThen := bounded.waits s now (m.time e) ok later
    by_cases within : m.time e ≤ stop
    · have rest := ih (bounded.keeps s e okThen) within ordered
      have taken := bounded.takes s e okThen
      have counted : ((if start ≤ m.time e ∧ m.time e ≤ stop ∧ m.spends s e = true then 1 else 0 : Nat) : F) ≤
          if m.spends s e = true then 1 else 0 := by
        by_cases spent : m.spends s e = true
        · rw [if_pos spent]
          split <;> simp
        · rw [if_neg spent, if_neg (fun held => spent held.2.2), Nat.cast_zero]
      rw [spentIn, Nat.cast_add]
      have split : rate * (stop - now) = rate * (stop - m.time e) + rate * (m.time e - now) := by ring
      linarith
    · have late := not_le.mp within
      have left := bounded.nonneg s now ok
      have room := mul_nonneg rate_nonneg (sub_nonneg.mpr inside)
      have none : m.spentIn start stop s (e :: rest) = 0 := by
        rw [spentIn, if_neg (fun held => within held.2.1), spentIn_late _ ordered late]
      rw [none, Nat.cast_zero]
      linarith

/-- In a window, no more is spent than the burst and what comes in while the window is open. -/
theorem Bounded.spentIn_le (bounded : m.Bounded burst rate valid) (rate_nonneg : 0 ≤ rate) {start stop now : F}
    (window : start ≤ stop) {s : S} {events : List E} (ok : valid s now) (ordered : Ordered m.time now events) :
    (m.spentIn start stop s events : F) ≤ burst + rate * (stop - start) := by
  induction events generalizing s now with
  | nil =>
    have room := mul_nonneg rate_nonneg (sub_nonneg.mpr window)
    have left := (bounded.nonneg s now ok).trans (bounded.full s now ok)
    simp only [spentIn, Nat.cast_zero]
    linarith
  | cons e rest ih =>
    have okThen := bounded.waits s now (m.time e) ok ordered.1
    by_cases before : m.time e < start
    · rw [spentIn, if_neg (fun held => absurd held.1 (not_le.mpr before)), Nat.zero_add]
      exact ih (bounded.keeps s e okThen) ordered.2
    · have opened := not_lt.mp before
      by_cases within : m.time e ≤ stop
      · have spent : (m.spentIn start stop s (e :: rest) : F) ≤ m.level s (m.time e) + rate * (stop - m.time e) :=
          spentIn_open bounded okThen within rate_nonneg ⟨le_refl _, ordered.2⟩
        have full := bounded.full s (m.time e) okThen
        have shorter : rate * (stop - m.time e) ≤ rate * (stop - start) :=
          mul_le_mul_of_nonneg_left (by linarith) rate_nonneg
        linarith
      · have room := mul_nonneg rate_nonneg (sub_nonneg.mpr window)
        have left := (bounded.nonneg s now ok).trans (bounded.full s now ok)
        have none : m.spentIn start stop s (e :: rest) = 0 := by
          rw [spentIn, if_neg (fun held => within held.2.1), spentIn_late _ ordered.2 (not_le.mp within)]
        rw [none, Nat.cast_zero]
        linarith

end Meter

end Metering
