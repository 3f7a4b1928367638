import Mathlib.Data.List.Chain
import Mathlib.Data.List.Induction
import Mathlib.Data.Option.Basic
import Mathlib.Logic.Basic
import Mathlib.Logic.Function.Basic

set_option autoImplicit false

namespace Cascades

variable {L : Type}

/-- What is allowed and what is denied at each level. -/
structure Ruling (L : Type) where
  allows : L → Prop
  denies : L → Prop

-- Within a level an allowance wins, and what a level says nothing about stays as it was.
def decide (ruling : Ruling L) (held : Prop) (level : L) : Prop :=
  ruling.allows level ∨ held ∧ ¬ ruling.denies level

-- A deeper level wins.
def outcome (ruling : Ruling L) (held : Prop) (levels : List L) : Prop :=
  levels.foldl (decide ruling) held

section

variable {ruling other : Ruling L} {held start : Prop} {levels : List L}

/-- More allowances and fewer denials take nothing away. -/
theorem outcome_mono (allows : ∀ level ∈ levels, ruling.allows level → other.allows level)
    (denies : ∀ level ∈ levels, other.denies level → ruling.denies level) (from_held : held → start)
    (reached : outcome ruling held levels) : outcome other start levels := by
  induction levels generalizing held start with
  | nil => exact from_held reached
  | cons level rest ih =>
    refine ih (fun l inside => allows l (List.mem_cons_of_mem level inside))
      (fun l inside => denies l (List.mem_cons_of_mem level inside)) ?_ reached
    rintro (allowed | ⟨before, undenied⟩)
    · exact .inl (allows level List.mem_cons_self allowed)
    · exact .inr ⟨from_held before, fun denied => undenied (denies level List.mem_cons_self denied)⟩

theorem outcome_congr (allows : ∀ level ∈ levels, ruling.allows level ↔ other.allows level)
    (denies : ∀ level ∈ levels, ruling.denies level ↔ other.denies level) :
    outcome ruling held levels ↔ outcome other held levels :=
  ⟨outcome_mono (fun level inside => (allows level inside).mp) (fun level inside => (denies level inside).mpr) id,
    outcome_mono (fun level inside => (allows level inside).mpr) (fun level inside => (denies level inside).mp) id⟩

/-- The last level that has something to say decides; where none has, what was held stays. -/
theorem outcome_last (speaks : L → Bool)
    (heard : ∀ level, speaks level = true ↔ ruling.allows level ∨ ruling.denies level) :
    outcome ruling held levels ↔
      match (levels.filter speaks).getLast? with
      | some level => ruling.allows level
      | none => held := by
  induction levels using List.reverseRecOn with
  | nil => exact Iff.rfl
  | append_singleton levels level ih =>
    have step : outcome ruling held (levels ++ [level]) = decide ruling (outcome ruling held levels) level := by
      rw [outcome, List.foldl_append]
      rfl
    rw [step, decide, List.filter_append]
    cases said : speaks level with
    | true =>
      have spoken := (heard level).mp said
      rw [List.filter_cons_of_pos said, List.filter_nil, List.getLast?_concat]
      exact ⟨fun either => either.elim id fun kept => spoken.resolve_right kept.2, Or.inl⟩
    | false =>
      have silent : ¬ (ruling.allows level ∨ ruling.denies level) := by
        rw [← heard, said]
        exact Bool.false_ne_true
      rw [not_or] at silent
      rw [List.filter_cons_of_neg (by rw [said]; exact Bool.false_ne_true), List.filter_nil, List.append_nil, ← ih]
      exact ⟨fun either => (either.resolve_left silent.1).1, fun kept => .inr ⟨kept, silent.2⟩⟩

end

end Cascades

namespace Parents

section

variable {A : Type} (parent : A → Option A)

-- What is met after the given number of steps towards the root.
def up : Nat → A → Option A
  | 0, a => some a
  | n + 1, a => (parent a).bind (up n)

def Above (a b : A) : Prop :=
  ∃ n, up parent (n + 1) a = some b

def Acyclic : Prop :=
  ∀ a, ¬ Above parent a a

inductive DepthOf : A → Nat → Prop where
  | root {a : A} (top : parent a = none) : DepthOf a 0
  | under {a p : A} {d : Nat} (below : parent a = some p) (above : DepthOf p d) : DepthOf a (d + 1)

def Rooted : Prop :=
  ∀ a, ∃ d, DepthOf parent a d

/-- The path from the root of an element down to it. -/
structure PathTo (a : A) (path : List A) : Prop where
  top : ∃ root, path.head? = some root ∧ parent root = none
  links : path.IsChain fun above below => parent below = some above
  last : path.getLast? = some a

end

variable {A : Type} {parent : A → Option A}

@[simp] theorem up_zero (a : A) : up parent 0 a = some a := rfl

@[simp] theorem up_succ (n : Nat) (a : A) : up parent (n + 1) a = (parent a).bind (up parent n) := rfl

theorem up_add (m n : Nat) (a : A) : up parent (m + n) a = (up parent m a).bind (up parent n) := by
  induction m generalizing a with
  | zero => simp
  | succ m ih =>
    rw [Nat.add_right_comm, up_succ, up_succ, Option.bind_assoc]
    exact Option.bind_congr fun p _ => ih p

theorem DepthOf.unique {a : A} {d e : Nat} (first : DepthOf parent a d)
    (second : DepthOf parent a e) : d = e := by
  induction first generalizing e with
  | root top =>
    cases second with
    | root => rfl
    | under below => rw [top] at below; cases below
  | under below _ ih =>
    cases second with
    | root top => rw [top] at below; cases below
    | under other above =>
      rw [below] at other
      cases other
      rw [ih above]

theorem DepthOf.climb {a b : A} {d n : Nat} (depth : DepthOf parent a d)
    (reached : up parent n a = some b) : ∃ e, d = e + n ∧ DepthOf parent b e := by
  induction n generalizing a d with
  | zero =>
    cases reached
    exact ⟨d, rfl, depth⟩
  | succ n ih =>
    cases depth with
    | root top => simp [top] at reached
    | under below above =>
      rw [up_succ, below, Option.bind_some] at reached
      obtain ⟨e, deep, rest⟩ := ih above reached
      exact ⟨e, by omega, rest⟩

theorem DepthOf.descend {a b : A} {e n : Nat} (depth : DepthOf parent b e)
    (reached : up parent n a = some b) : DepthOf parent a (e + n) := by
  induction n generalizing a with
  | zero =>
    cases reached
    exact depth
  | succ n ih =>
    rw [up_succ] at reached
    obtain ⟨p, below, rest⟩ := Option.bind_eq_some_iff.mp reached
    exact .under below (ih rest)

theorem Rooted.acyclic (rooted : Rooted parent) : Acyclic parent := by
  rintro a ⟨n, returned⟩
  obtain ⟨d, depth⟩ := rooted a
  obtain ⟨e, deeper, same⟩ := depth.climb returned
  have equal := depth.unique same
  omega

-- An acyclic chain comes by each element once.
theorem Acyclic.first_visit (acyclic : Acyclic parent) {a b : A} {n : Nat}
    (reached : up parent n a = some b) {k : Nat} (earlier : k < n) : up parent k a ≠ some b := by
  intro visited
  apply acyclic b
  refine ⟨n - k - 1, ?_⟩
  have split : n = k + (n - k - 1 + 1) := by omega
  rw [split, up_add, visited, Option.bind_some] at reached
  exact reached

section

variable {changed : A → Option A} {x : A} (frame : ∀ a, a ≠ x → changed a = parent a)

include frame

theorem up_until {n : Nat} {a : A} (before : ∀ k, k < n → up parent k a ≠ some x) :
    up changed n a = up parent n a := by
  induction n generalizing a with
  | zero => rfl
  | succ n ih =>
    have other : a ≠ x := by
      intro same
      exact before 0 (by omega) (congrArg some same)
    rw [up_succ, up_succ, frame a other]
    refine Option.bind_congr fun p below => ih ?_
    intro k earlier
    have later := before (k + 1) (by omega)
    rwa [up_succ, below, Option.bind_some] at later

theorem DepthOf.apart {a : A} {d : Nat} (depth : DepthOf parent a d)
    (apart : ∀ n, up parent n a ≠ some x) : DepthOf changed a d := by
  induction depth with
  | @root a top =>
    have other : a ≠ x := fun same => apart 0 (congrArg some same)
    exact .root ((frame a other).trans top)
  | @under a p d below _ ih =>
    have other : a ≠ x := fun same => apart 0 (congrArg some same)
    refine .under ((frame a other).trans below) (ih ?_)
    intro n reached
    apply apart (n + 1)
    rw [up_succ, below, Option.bind_some]
    exact reached

-- Changing one parent keeps the tree rooted as soon as the element itself still is.
theorem Rooted.rehung (rooted : Rooted parent) {e : Nat} (depth : DepthOf changed x e) :
    Rooted changed := by
  intro a
  obtain ⟨d, old⟩ := rooted a
  induction old with
  | @root a top =>
    by_cases same : a = x
    · exact ⟨e, same ▸ depth⟩
    · exact ⟨0, .root ((frame a same).trans top)⟩
  | @under a p d below _ ih =>
    by_cases same : a = x
    · exact ⟨e, same ▸ depth⟩
    · obtain ⟨f, new⟩ := ih
      exact ⟨f + 1, .under ((frame a same).trans below) new⟩

theorem Rooted.depth_below (rooted : Rooted parent) {e : Nat} (depth : DepthOf changed x e) {a : A}
    {n : Nat} (reached : up parent n a = some x) : DepthOf changed a (e + n) := by
  refine depth.descend ?_
  rw [up_until frame fun k earlier => rooted.acyclic.first_visit reached earlier]
  exact reached

theorem Rooted.cycle (rooted : Rooted parent) {p : A} (attached : changed x = some p) {n : Nat}
    (reached : up parent n p = some x) : ¬ Acyclic changed := by
  intro acyclic
  apply acyclic x
  refine ⟨n, ?_⟩
  rw [up_succ, attached, Option.bind_some,
    up_until frame fun k earlier => rooted.acyclic.first_visit reached earlier]
  exact reached

end

-- Dropping elements that nothing kept hangs under leaves the rest where it was.
theorem DepthOf.pruned {changed : A → Option A} {a : A} {d : Nat} (depth : DepthOf parent a d)
    (gone : A → Prop) (frame : ∀ b, ¬ gone b → changed b = parent b)
    (closed : ∀ b p, ¬ gone b → parent b = some p → ¬ gone p) (kept : ¬ gone a) :
    DepthOf changed a d := by
  induction depth with
  | @root a top => exact .root ((frame a kept).trans top)
  | @under a p d below _ ih => exact .under ((frame a kept).trans below) (ih (closed a p kept below))

end Parents
