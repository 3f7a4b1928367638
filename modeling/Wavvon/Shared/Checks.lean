import Mathlib.Data.List.Basic
import Mathlib.Logic.Basic

set_option autoImplicit false

namespace Checks

variable {E A B : Type}

theorem bind_ok {first : Except E A} {rest : A → Except E B} {answer : B} (ok : first >>= rest = .ok answer) :
    ∃ value, first = .ok value ∧ rest value = .ok answer := by
  cases first with
  | error e => cases ok
  | ok value => exact ⟨value, rfl, ok⟩

theorem refuse_ok {cond : Prop} [Decidable cond] {e : E} {rest : Except E A} {answer : A}
    (ok : (if cond then .error e else rest) = .ok answer) : ¬ cond ∧ rest = .ok answer := by
  split at ok
  next => cases ok
  next passed => exact ⟨passed, ok⟩

theorem permit_ok {cond : Prop} [Decidable cond] {e : E} {rest : Except E A} {answer : A}
    (ok : (if cond then rest else .error e) = .ok answer) : cond ∧ rest = .ok answer := by
  split at ok
  next passed => exact ⟨passed, ok⟩
  next => cases ok

end Checks

namespace Decoding

variable {A B C : Type} {f : A → Option B}

-- All rows or none: one that cannot be read spoils the others.
theorem mapM_cons_some {a : A} {rest : List A} {out : List B} :
    (a :: rest).mapM f = some out ↔ ∃ b bs, f a = some b ∧ rest.mapM f = some bs ∧ out = b :: bs := by
  rw [List.mapM_cons]
  cases f a <;> cases rest.mapM f <;> simp [eq_comm]

theorem mapM_isSome (rows : List A) : (rows.mapM f).isSome = true ↔ ∀ a ∈ rows, (f a).isSome = true := by
  induction rows with
  | nil => simp
  | cons a rest ih =>
    rw [List.mapM_cons, List.forall_mem_cons, ← ih]
    cases f a <;> cases rest.mapM f <;> simp

theorem mapM_mem {rows : List A} {out : List B} (read : rows.mapM f = some out) {b : B} (listed : b ∈ out) :
    ∃ a ∈ rows, f a = some b := by
  induction rows generalizing out with
  | nil =>
    cases read
    cases listed
  | cons a rest ih =>
    obtain ⟨first, later, here, there, rfl⟩ := mapM_cons_some.mp read
    rcases List.mem_cons.mp listed with rfl | listed
    · exact ⟨a, List.mem_cons_self, here⟩
    · obtain ⟨a', inside, found⟩ := ih there listed
      exact ⟨a', List.mem_cons_of_mem a inside, found⟩

-- What is read off a row can be read off what it was decoded to.
theorem mapM_map {rows : List A} {out : List B} (read : rows.mapM f = some out) {stored : A → C} {decoded : B → C}
    (kept : ∀ a b, f a = some b → decoded b = stored a) : out.map decoded = rows.map stored := by
  induction rows generalizing out with
  | nil =>
    cases read
    rfl
  | cons a rest ih =>
    obtain ⟨first, later, here, there, rfl⟩ := mapM_cons_some.mp read
    rw [List.map_cons, List.map_cons, kept a first here, ih there]

end Decoding
