import Mathlib.Data.List.Basic
import Mathlib.Tactic.Common

set_option autoImplicit false

namespace Slices

variable {B : Type} {xs : List B} {a b stop : Nat}

-- `xs[a..b]`, which is nothing where it would be out of range.
def slice (xs : List B) (a b : Nat) : Option (List B) :=
  if a ≤ b ∧ b ≤ xs.length then some ((xs.drop a).take (b - a)) else none

theorem slice_of_le (order : a ≤ b) (inside : b ≤ xs.length) : slice xs a b = some ((xs.drop a).take (b - a)) :=
  if_pos ⟨order, inside⟩

-- The same within a front part of the list.
theorem slice_take (order : a ≤ b) (inside : b ≤ stop) (fits : stop ≤ xs.length) :
    slice xs a b = some (((xs.take stop).drop a).take (b - a)) := by
  rw [slice_of_le order (by omega), List.drop_take, List.take_take, Nat.min_eq_left (by omega)]

-- The same from a position on.
theorem slice_drop {pos : Nat} {part : List B} (here : xs.drop pos = part) (order : a ≤ b)
    (inside : pos + b ≤ xs.length) : slice xs (pos + a) (pos + b) = some ((part.drop a).take (b - a)) := by
  rw [slice_of_le (by omega) inside, ← here, List.drop_drop, Nat.add_sub_add_left]

-- Choosing from the first few is the first few of the choice, if none is left out or none is left.
theorem filter_take_iff (p : B → Bool) (n : Nat) :
    (xs.take n).filter p = (xs.filter p).take n ↔ (∀ x ∈ xs.take n, p x = true) ∨ ∀ x ∈ xs.drop n, p x = false := by
  have split : xs.filter p = (xs.take n).filter p ++ (xs.drop n).filter p := by
    rw [← List.filter_append, List.take_append_drop]
  have few : ((xs.take n).filter p).length ≤ (xs.take n).length := List.length_filter_le _ _
  have short : (xs.take n).length ≤ n := List.length_take_le n xs
  have cut : (xs.filter p).take n = (xs.take n).filter p ++ ((xs.drop n).filter p).take (n - ((xs.take n).filter p).length) := by
    rw [split, List.take_append, List.take_of_length_le (by omega)]
  rw [cut, List.self_eq_append_right, List.take_eq_nil_iff, List.filter_eq_nil_iff]
  constructor
  · rintro (full | none)
    · exact .inl (List.length_filter_eq_length_iff.mp (by omega))
    · exact .inr fun x member => by simpa using none x member
  · rintro (all | none)
    · by_cases long : n ≤ xs.length
      · have kept := List.length_filter_eq_length_iff.mpr all
        rw [List.length_take] at kept
        exact .inl (by omega)
      · refine .inr fun x member => ?_
        rw [List.drop_eq_nil_of_le (by omega)] at member
        cases member
    · exact .inr fun x member => by simp [none x member]

end Slices

namespace Records

variable {A B : Type}

/-- `split` takes off the front of its input exactly what `enc` writes for one record. -/
structure Splits (enc : A → List B) (split : List B → Option (A × List B)) : Prop where
  exact : ∀ bytes a rest, split bytes = some (a, rest) ↔ bytes = enc a ++ rest
  nonempty : ∀ a, enc a ≠ []

section

variable (split : List B → Option (A × List B))

-- All records or nothing.
def readAll : Nat → List B → Option (List A)
  | 0, _ => none
  | fuel + 1, bytes =>
    if bytes.isEmpty then some []
    else
      match split bytes with
      | none => none
      | some (a, rest) => (readAll fuel rest).map (a :: ·)

-- As many records as there are, and what follows them.
def walk : Nat → List B → List A × List B
  | 0, bytes => ([], bytes)
  | fuel + 1, bytes =>
    match split bytes with
    | none => ([], bytes)
    | some (a, rest) => (a :: (walk fuel rest).1, (walk fuel rest).2)

end

section

variable {enc : A → List B} {split : List B → Option (A × List B)} {bytes : List B} {fuel : Nat}

namespace Splits

theorem shorter (splits : Splits enc split) {a : A} {rest : List B} (found : split bytes = some (a, rest)) :
    rest.length < bytes.length := by
  rw [(splits.exact bytes a rest).mp found, List.length_append]
  have := List.length_pos_iff.mpr (splits.nonempty a)
  omega

theorem self (splits : Splits enc split) (a : A) (rest : List B) : split (enc a ++ rest) = some (a, rest) :=
  (splits.exact _ a rest).mpr rfl

theorem readAll_iff (splits : Splits enc split) (enough : bytes.length < fuel) {as : List A} :
    readAll split fuel bytes = some as ↔ bytes = as.flatMap enc := by
  induction fuel generalizing bytes as with
  | zero => cases enough
  | succ fuel ih =>
    rw [readAll]
    cases bytes with
    | nil =>
      cases as with
      | nil => simp
      | cons a as =>
        have := splits.nonempty a
        simp [List.append_eq_nil_iff, this]
    | cons b bytes =>
      rw [if_neg (by simp)]
      cases found : split (b :: bytes) with
      | none =>
        refine iff_of_false nofun fun same => ?_
        cases as with
        | nil => cases same
        | cons a as =>
          rw [List.flatMap_cons] at same
          rw [(splits.exact _ a _).mpr same] at found
          cases found
      | some step =>
        obtain ⟨a, rest⟩ := step
        have front := (splits.exact _ a rest).mp found
        have short := splits.shorter found
        have later (as : List A) : readAll split fuel rest = some as ↔ rest = as.flatMap enc :=
          ih (by omega)
        dsimp only
        rw [Option.map_eq_some_iff]
        constructor
        · rintro ⟨tail, read, rfl⟩
          rw [front, (later tail).mp read, List.flatMap_cons]
        · intro whole
          cases as with
          | nil => cases whole
          | cons first tail =>
            rw [List.flatMap_cons] at whole
            have same := (splits.exact _ first _).mpr whole
            rw [found] at same
            cases same
            exact ⟨tail, (later tail).mpr rfl, rfl⟩

theorem walk_iff (splits : Splits enc split) (enough : bytes.length < fuel) {as : List A} {left : List B} :
    walk split fuel bytes = (as, left) ↔ bytes = as.flatMap enc ++ left ∧ split left = none := by
  induction fuel generalizing bytes as with
  | zero => cases enough
  | succ fuel ih =>
    rw [walk]
    cases found : split bytes with
    | none =>
      constructor
      · rintro ⟨⟩
        exact ⟨rfl, found⟩
      · rintro ⟨whole, stuck⟩
        cases as with
        | nil => rw [whole, List.flatMap_nil, List.nil_append]
        | cons a as =>
          rw [List.flatMap_cons, List.append_assoc] at whole
          rw [(splits.exact _ a _).mpr whole] at found
          cases found
    | some step =>
      obtain ⟨a, rest⟩ := step
      have front := (splits.exact _ a rest).mp found
      have short := splits.shorter found
      have later (as : List A) :
          walk split fuel rest = (as, left) ↔ rest = as.flatMap enc ++ left ∧ split left = none :=
        ih (by omega)
      dsimp only
      constructor
      · rintro ⟨⟩
        obtain ⟨whole, stuck⟩ := (later _).mp rfl
        refine ⟨?_, stuck⟩
        rw [List.flatMap_cons, List.append_assoc, ← whole, front]
      · rintro ⟨whole, stuck⟩
        cases as with
        | nil =>
          rw [List.flatMap_nil, List.nil_append] at whole
          rw [whole, stuck] at found
          cases found
        | cons first tail =>
          rw [List.flatMap_cons, List.append_assoc] at whole
          have same := (splits.exact _ first _).mpr whole
          rw [found] at same
          cases same
          have end_ := (later tail).mpr ⟨rfl, stuck⟩
          rw [end_]

end Splits

end

end Records
