import Mathlib.Data.List.Basic
import Mathlib.Data.List.Infix
import Mathlib.Tactic.Common

set_option autoImplicit false

namespace Patterns

variable {A : Type} [DecidableEq A] {pat rep s rest : List A}

omit [DecidableEq A] in
theorem forall_of_all {p : A → Prop} [DecidablePred p] (all : s.all (fun a => decide (p a)) = true) : ∀ a ∈ s, p a :=
  fun a member => of_decide_eq_true (List.all_eq_true.mp all a member)

/-- The first place where a pattern stands. -/
structure FirstAt (pat s : List A) (i : Nat) : Prop where
  here : pat <+: s.drop i
  before : ∀ j, j < i → ¬ pat <+: s.drop j

def position (pat : List A) : List A → Option Nat
  | [] => if pat = [] then some 0 else none
  | a :: rest => if pat <+: a :: rest then some 0 else (position pat rest).map (· + 1)

theorem position_eq_some {i : Nat} : position pat s = some i ↔ i ≤ s.length ∧ FirstAt pat s i := by
  induction s generalizing i with
  | nil =>
    rw [position]
    split
    next empty =>
      rw [empty]
      constructor
      · rintro ⟨⟩
        exact ⟨Nat.le_refl 0, List.nil_prefix, fun j earlier => absurd earlier (Nat.not_lt_zero j)⟩
      · rintro ⟨within, -⟩
        rw [Nat.le_zero.mp within]
    next filled =>
      refine iff_of_false (fun found => by cases found) ?_
      rintro ⟨-, here, -⟩
      rw [List.drop_nil, List.prefix_nil] at here
      exact filled here
  | cons a rest ih =>
    rw [position]
    split
    next here =>
      constructor
      · rintro ⟨⟩
        exact ⟨Nat.zero_le _, here, fun j earlier => absurd earlier (Nat.not_lt_zero j)⟩
      · rintro ⟨-, -, before⟩
        cases i with
        | zero => rfl
        | succ i => exact absurd here (before 0 (Nat.succ_pos i))
    next apart =>
      cases i with
      | zero =>
        refine iff_of_false (by simp) ?_
        rintro ⟨-, here, -⟩
        exact apart here
      | succ i =>
        rw [Option.map_eq_some_iff]
        constructor
        · rintro ⟨j, found, same⟩
          obtain rfl := Nat.succ.inj same
          obtain ⟨within, here, before⟩ := ih.mp found
          refine ⟨Nat.succ_le_succ within, here, ?_⟩
          intro k earlier
          cases k with
          | zero => exact apart
          | succ k => exact before k (Nat.lt_of_succ_lt_succ earlier)
        · rintro ⟨within, here, before⟩
          refine ⟨i, ih.mpr ⟨Nat.le_of_succ_le_succ within, here, ?_⟩, rfl⟩
          intro k earlier
          exact before (k + 1) (Nat.succ_lt_succ earlier)

theorem position_eq_none : position pat s = none ↔ ¬ pat <:+: s := by
  induction s with
  | nil =>
    rw [position, List.infix_nil]
    split
    next empty => exact iff_of_false (fun absent => by cases absent) (not_not.mpr empty)
    next filled => exact iff_of_true rfl filled
  | cons a rest ih =>
    rw [position, List.infix_cons_iff, not_or, ← ih]
    split
    next here => exact iff_of_false (fun absent => by cases absent) fun both => both.1 here
    next apart => simp [apart]

-- A pattern that does not hold the separator lies on one side of it.
theorem position_past {sep : A} {front back : List A} (nonempty : pat ≠ []) (apart : sep ∉ pat)
    (absent : ¬ pat <:+: front) :
    position pat (front ++ sep :: back) = (position pat back).map (· + (front.length + 1)) := by
  induction front with
  | nil =>
    rw [List.nil_append, position, if_neg]
    · rfl
    · intro here
      cases pat with
      | nil => exact nonempty rfl
      | cons a tail => exact apart (List.mem_cons.mpr (.inl (List.cons_prefix_cons.mp here).1.symm))
  | cons a front ih =>
    rw [List.infix_cons_iff, not_or] at absent
    rw [List.cons_append, position, if_neg, ih absent.2, Option.map_map]
    · rfl
    · intro here
      have through : a :: front ++ [sep] <+: a :: (front ++ sep :: back) := ⟨back, by simp⟩
      rcases List.prefix_or_prefix_of_prefix here through with within | beyond
      · rcases List.prefix_concat_iff.mp within with whole | inside
        · rw [whole] at apart
          exact apart (by simp)
        · exact absent.1 inside
      · exact apart (beyond.subset (by simp))

omit [DecidableEq A] in
-- A pattern whose last element is a stop, and only that, ends at one of the stops.
theorem concat_infix_iff {stops : A → Prop} {word front back : List A} {stop last : A}
    (stopped : stops stop) (ends : stops last) (plainWord : ∀ a ∈ word, ¬ stops a) (plainFront : ∀ a ∈ front, ¬ stops a) :
    word ++ [last] <:+: front ++ stop :: back ↔ stop = last ∧ word <:+ front ∨ word ++ [last] <:+: back := by
  constructor
  · rintro ⟨before, after, split⟩
    rw [List.append_assoc, List.append_assoc, List.singleton_append, ← List.append_assoc] at split
    rcases List.append_eq_append_iff.mp split with ⟨between, rest, tail⟩ | ⟨between, rest, tail⟩
    · cases between with
      | nil =>
        rw [List.append_nil] at rest
        obtain ⟨rfl, -⟩ := List.cons_eq_cons.mp tail
        exact .inl ⟨rfl, before, rest.symm⟩
      | cons a between =>
        obtain ⟨rfl, -⟩ := List.cons_eq_cons.mp tail
        exact absurd ends (plainFront last (by rw [rest]; simp))
    · cases between with
      | nil =>
        rw [List.append_nil] at rest
        obtain ⟨rfl, -⟩ := List.cons_eq_cons.mp tail
        exact .inl ⟨rfl, before, rest⟩
      | cons a between =>
        obtain ⟨rfl, back_eq⟩ := List.cons_eq_cons.mp tail
        rcases List.append_eq_append_iff.mp rest with ⟨inner, -, shared⟩ | ⟨inner, -, shared⟩
        · exact absurd stopped (plainWord stop (by rw [shared]; simp))
        · cases inner with
          | nil => exact absurd stopped (plainWord stop (by rw [← List.nil_append word, ← shared]; simp))
          | cons b inner =>
            obtain ⟨rfl, rfl⟩ := List.cons_eq_cons.mp shared
            exact .inr ⟨inner, after, by rw [back_eq]; simp⟩
  · rintro (⟨rfl, ⟨before, rfl⟩⟩ | ⟨before, after, rfl⟩)
    · exact ⟨before, back, by simp⟩
    · exact ⟨front ++ stop :: before, after, by simp⟩

/-- A list parted where its images under `f` first spell a pattern. -/
def cut {B : Type} (f : B → A) (pat : List A) (s : List B) : Option (List B × List B) :=
  (position pat (s.map f)).map fun p => (s.take p, s.drop p)

section

variable {B : Type} {f : B → A} {t front back : List B}

theorem cut_eq_some : cut f pat t = some (front, back) ↔ t = front ++ back ∧ FirstAt pat (t.map f) front.length := by
  rw [cut, Option.map_eq_some_iff]
  constructor
  · rintro ⟨p, found, parted⟩
    obtain ⟨within, first⟩ := position_eq_some.mp found
    obtain ⟨rfl, rfl⟩ := Prod.mk.inj parted
    rw [List.length_map] at within
    rw [List.length_take_of_le within]
    exact ⟨(List.take_append_drop p t).symm, first⟩
  · rintro ⟨rfl, first⟩
    exact ⟨front.length, position_eq_some.mpr ⟨by simp, first⟩, by simp⟩

theorem cut_prefix (found : cut f pat t = some (front, back)) : pat <+: back.map f := by
  obtain ⟨rfl, first⟩ := cut_eq_some.mp found
  simpa using first.here

theorem cut_here (here : pat <+: t.map f) : cut f pat t = some ([], t) :=
  cut_eq_some.mpr ⟨rfl, here, fun j earlier => absurd earlier (Nat.not_lt_zero j)⟩

theorem cut_miss {b : B} (apart : ¬ pat <+: (b :: t).map f) :
    cut f pat (b :: t) = (cut f pat t).map (Prod.map (b :: ·) id) := by
  rw [List.map_cons] at apart
  rw [cut, cut, List.map_cons, position, if_neg apart, Option.map_map, Option.map_map]
  rfl

theorem cut_nil (nonempty : pat ≠ []) : cut f pat ([] : List B) = none := by
  rw [cut, List.map_nil, position, if_neg nonempty]
  rfl

theorem cut_past {sep : B} (nonempty : pat ≠ []) (apart : f sep ∉ pat) (absent : ¬ pat <:+: front.map f) :
    cut f pat (front ++ sep :: back) = (cut f pat back).map (Prod.map ((front ++ [sep]) ++ ·) id) := by
  rw [cut, cut, List.map_append, List.map_cons, position_past nonempty apart absent, Option.map_map, Option.map_map,
    List.length_map]
  congr 1
  funext p
  have room : front.length + 1 = (front ++ [sep]).length := by simp
  rw [Function.comp_apply, Function.comp_apply, Prod.map_apply, id_eq, List.append_cons, Nat.add_comm, room, List.take_length_add_append, List.drop_length_add_append]

end

section

variable {front back : List A} {i : Nat}

omit [DecidableEq A] in
theorem prefix_drop_append (inside : i ≤ front.length) (fits : i + pat.length ≤ front.length) :
    pat <+: (front ++ back).drop i ↔ pat <+: front.drop i := by
  rw [List.drop_append_of_le_length inside]
  constructor
  · intro here
    exact List.prefix_of_prefix_length_le here (List.prefix_append _ _) (by rw [List.length_drop]; omega)
  · exact fun here => here.trans (List.prefix_append _ _)

-- What stands first in the whole is found as soon as the front holds it all, and not before.
theorem position_front (first : FirstAt pat (front ++ back) i) (fits : i + pat.length ≤ front.length) :
    position pat front = some i := by
  refine position_eq_some.mpr ⟨by omega, (prefix_drop_append (by omega) fits).mp first.here, ?_⟩
  intro j earlier here
  exact first.before j earlier ((prefix_drop_append (by omega) (by omega)).mpr here)

theorem position_front_none (nonempty : pat ≠ []) (first : FirstAt pat (front ++ back) i)
    (short : front.length < i + pat.length) : position pat front = none := by
  cases found : position pat front with
  | none => rfl
  | some j =>
    obtain ⟨within, here, -⟩ := position_eq_some.mp found
    have room := here.length_le
    have positive := List.length_pos_iff.mpr nonempty
    rw [List.length_drop] at room
    exact absurd ((prefix_drop_append (by omega) (by omega)).mpr here) (first.before j (by omega))

end

-- The pieces between the occurrences of a pattern that is not empty.
def splitFrom (pat : List A) : Nat → List A → List (List A)
  | _, [] => [[]]
  | skip + 1, _ :: rest => splitFrom pat skip rest
  | 0, a :: rest =>
    if pat <+: a :: rest then [] :: splitFrom pat (pat.length - 1) rest
    else (splitFrom pat 0 rest).modifyHead (a :: ·)

def splitOn (pat s : List A) : List (List A) := splitFrom pat 0 s

-- The number counts down the rest of a match that is being skipped.
def replaceFrom (pat rep : List A) : Nat → List A → List A
  | _, [] => []
  | skip + 1, _ :: rest => replaceFrom pat rep skip rest
  | 0, a :: rest =>
    if pat <+: a :: rest then rep ++ replaceFrom pat rep (pat.length - 1) rest
    else a :: replaceFrom pat rep 0 rest

/-- Every occurrence of a pattern that is not empty, from the left and without overlaps, is replaced. -/
def replace (pat rep s : List A) : List A := replaceFrom pat rep 0 s

@[simp] theorem replace_nil : replace pat rep [] = [] := rfl

theorem replaceFrom_append (skipped rest : List A) :
    replaceFrom pat rep skipped.length (skipped ++ rest) = replace pat rep rest := by
  induction skipped with
  | nil => rfl
  | cons a skipped ih => exact ih

theorem replace_match (nonempty : pat ≠ []) (rest : List A) :
    replace pat rep (pat ++ rest) = rep ++ replace pat rep rest := by
  cases pat with
  | nil => exact absurd rfl nonempty
  | cons a tail =>
    rw [replace, List.cons_append, replaceFrom, if_pos (by rw [← List.cons_append]; exact List.prefix_append _ _)]
    congr 1
    exact replaceFrom_append tail rest

theorem replace_cons {a : A} (apart : ¬ pat <+: a :: rest) : replace pat rep (a :: rest) = a :: replace pat rep rest := by
  rw [replace, replaceFrom, if_neg apart]
  rfl

/-- A list is followed match by match and element by element. -/
theorem replace_induction (nonempty : pat ≠ []) {motive : List A → Prop} (nil : motive [])
    (hit : ∀ rest, motive rest → motive (pat ++ rest))
    (miss : ∀ a rest, ¬ pat <+: a :: rest → motive rest → motive (a :: rest)) (s : List A) : motive s := by
  induction length : s.length using Nat.strong_induction_on generalizing s with
  | h n ih =>
    cases s with
    | nil => exact nil
    | cons a tail =>
      by_cases here : pat <+: a :: tail
      · obtain ⟨rest, split⟩ := here
        rw [← split] at length ⊢
        have positive := List.length_pos_iff.mpr nonempty
        rw [List.length_append] at length
        exact hit rest (ih rest.length (by omega) rest rfl)
      · rw [List.length_cons] at length
        exact miss a tail here (ih tail.length (by omega) tail rfl)

section

variable (shorter : rep.length < pat.length)

include shorter

theorem replace_length (s : List A) : (replace pat rep s).length ≤ s.length ∧
    ((replace pat rep s).length = s.length → replace pat rep s = s ∧ ¬ pat <:+: s) := by
  have nonempty : pat ≠ [] := List.ne_nil_of_length_pos (Nat.zero_lt_of_lt shorter)
  induction s using replace_induction nonempty with
  | nil => exact ⟨Nat.le_refl _, fun _ => ⟨rfl, fun inside => nonempty (List.infix_nil.mp inside)⟩⟩
  | hit rest ih =>
    rw [replace_match nonempty, List.length_append, List.length_append]
    exact ⟨by omega, fun _ => by omega⟩
  | miss a rest apart ih =>
    rw [replace_cons apart, List.length_cons, List.length_cons]
    refine ⟨by omega, fun same => ?_⟩
    obtain ⟨kept, absent⟩ := ih.2 (by omega)
    rw [kept, List.infix_cons_iff]
    exact ⟨rfl, not_or.mpr ⟨apart, absent⟩⟩

theorem replace_eq_self_iff (s : List A) : replace pat rep s = s ↔ ¬ pat <:+: s := by
  constructor
  · intro same
    exact ((replace_length shorter s).2 (by rw [same])).2
  · intro absent
    induction s with
    | nil => rfl
    | cons a rest ih =>
      rw [List.infix_cons_iff, not_or] at absent
      rw [replace_cons absent.1, ih absent.2]

end

def replaceEach (passes : List (List A × List A)) (s : List A) : List A :=
  passes.foldl (fun s pass => replace pass.1 pass.2 s) s

theorem replaceEach_length (passes : List (List A × List A))
    (shorter : ∀ pass ∈ passes, pass.2.length < pass.1.length) (s : List A) :
    (replaceEach passes s).length ≤ s.length := by
  induction passes generalizing s with
  | nil => exact Nat.le_refl _
  | cons pass passes ih =>
    obtain ⟨less, later⟩ := List.forall_mem_cons.mp shorter
    exact (ih later _).trans (replace_length less s).1

/-- Replacements by something shorter, one after the other, keep a list only if there was nothing to replace. -/
theorem replaceEach_eq_self_iff (passes : List (List A × List A))
    (shorter : ∀ pass ∈ passes, pass.2.length < pass.1.length) (s : List A) :
    replaceEach passes s = s ↔ ∀ pass ∈ passes, ¬ pass.1 <:+: s := by
  induction passes with
  | nil => simp [replaceEach]
  | cons pass passes ih =>
    obtain ⟨less, later⟩ := List.forall_mem_cons.mp shorter
    have unfolded : replaceEach (pass :: passes) s = replaceEach passes (replace pass.1 pass.2 s) := rfl
    rw [List.forall_mem_cons, ← replace_eq_self_iff less, unfolded]
    constructor
    · intro same
      have upper := replaceEach_length passes later (replace pass.1 pass.2 s)
      have lower := (replace_length less s).1
      rw [same] at upper
      obtain ⟨kept, -⟩ := (replace_length less s).2 (by omega)
      rw [kept] at same
      exact ⟨kept, (ih later).mp same⟩
    · rintro ⟨kept, rest⟩
      rw [kept]
      exact (ih later).mpr rest

/-! Elements written as entities: a mark, and after it elements that stand for themselves. -/

def encode (entity : A → Option (List A)) (s : List A) : List A := s.flatMap fun a => (entity a).getD [a]

structure Entities (mark : A) (entity : A → Option (List A)) : Prop where
  marked : ∀ a e, entity a = some e → ∃ tail, e = mark :: tail ∧ mark ∉ tail ∧ ∀ c ∈ tail, entity c = none
  apart : ∀ a b e f, a ≠ b → entity a = some e → entity b = some f → ¬ e <+: f

section

variable {mark : A} {entity : A → Option (List A)}

omit [DecidableEq A] in
theorem encode_cons (a : A) (s : List A) : encode entity (a :: s) = (entity a).getD [a] ++ encode entity s := rfl

omit [DecidableEq A] in
theorem encode_none (s : List A) : encode (fun _ => none) s = s := List.flatMap_singleton' s

omit [DecidableEq A] in
theorem encode_append (word rest : List A) (selves : ∀ c ∈ word, entity c = none) :
    encode entity (word ++ rest) = word ++ encode entity rest := by
  induction word with
  | nil => rfl
  | cons w word ih =>
    obtain ⟨self, later⟩ := List.forall_mem_cons.mp selves
    rw [List.cons_append, encode_cons, self, Option.getD_none, ih later]
    rfl

-- What has no mark in it is passed over.
theorem replace_plain {tail : List A} (word : List A) (plain : mark ∉ word) (rest : List A) :
    replace (mark :: tail) rep (word ++ rest) = word ++ replace (mark :: tail) rep rest := by
  induction word with
  | nil => rfl
  | cons a word ih =>
    rw [List.mem_cons, not_or] at plain
    rw [List.cons_append, replace_cons, ih plain.2]
    · rfl
    · intro here
      exact plain.1 (List.cons_prefix_cons.mp here).1

theorem replace_other {tail other : List A} (plain : mark ∉ other) (first : ¬ mark :: tail <+: mark :: other)
    (second : ¬ mark :: other <+: mark :: tail) (rest : List A) :
    replace (mark :: tail) rep (mark :: other ++ rest) = mark :: other ++ replace (mark :: tail) rep rest := by
  rw [List.cons_append, replace_cons, replace_plain other plain]
  · rfl
  · intro here
    rcases List.prefix_or_prefix_of_prefix here (List.prefix_append (mark :: other) rest) with longer | longer
    · exact first longer
    · exact second longer

theorem Entities.erase (entities : Entities mark entity) (k : A) : Entities mark (Function.update entity k none) := by
  have kept (a : A) (e : List A) (some : Function.update entity k none a = some e) : entity a = .some e := by
    rw [Function.update_apply] at some
    split at some
    · cases some
    · exact some
  constructor
  · intro a e encoded
    obtain ⟨tail, rfl, plain, selves⟩ := entities.marked a e (kept a e encoded)
    refine ⟨tail, rfl, plain, fun c member => ?_⟩
    rw [Function.update_apply, selves c member, ite_self]
  · intro a b e f other first second
    exact entities.apart a b e f other (kept a e first) (kept b f second)

omit [DecidableEq A] in
-- Encoding a list neither makes nor hides a word of elements that stand for themselves.
theorem Entities.prefix_encode (entities : Entities mark entity) (word : List A) (plain : mark ∉ word)
    (selves : ∀ c ∈ word, entity c = none) (s : List A) : word <+: encode entity s ↔ word <+: s := by
  induction word generalizing s with
  | nil => simp
  | cons w word ih =>
    rw [List.mem_cons, not_or] at plain
    obtain ⟨self, later⟩ := List.forall_mem_cons.mp selves
    cases s with
    | nil => exact Iff.rfl
    | cons a rest =>
      rw [encode_cons]
      cases encoded : entity a with
      | none =>
        rw [Option.getD_none, List.singleton_append, List.cons_prefix_cons, List.cons_prefix_cons, ih plain.2 later]
      | some e =>
        obtain ⟨tail, rfl, -⟩ := entities.marked a e encoded
        rw [Option.getD_some, List.cons_append, List.cons_prefix_cons, List.cons_prefix_cons]
        refine iff_of_false (fun both => plain.1 both.1.symm) ?_
        rintro ⟨rfl, -⟩
        rw [encoded] at self
        cases self

-- The mark's own entity is only ever the encoding of a mark.
theorem Entities.replace_mark (entities : Entities mark entity) {pat : List A} (own : entity mark = some pat)
    (s : List A) : replace pat [mark] (encode entity s) = encode (Function.update entity mark none) s := by
  obtain ⟨tail, rfl, -⟩ := entities.marked mark pat own
  induction s with
  | nil => rfl
  | cons a rest ih =>
    rw [encode_cons, encode_cons]
    by_cases same : a = mark
    · rw [same, own, Option.getD_some, replace_match (List.cons_ne_nil _ _), Function.update_self, ih]
      rfl
    · rw [Function.update_of_ne same]
      cases encoded : entity a with
      | none =>
        rw [Option.getD_none, replace_plain [a] (by simpa using Ne.symm same), ih]
      | some e =>
        obtain ⟨other, rfl, plain, -⟩ := entities.marked a e encoded
        rw [Option.getD_some, replace_other plain (entities.apart mark a _ _ (Ne.symm same) own encoded)
          (entities.apart a mark _ _ same encoded own), ih]

/-- Once marks are written as themselves, decoding an entity also takes what was written like it. -/
theorem Entities.replace_encode (entities : Entities mark entity) (bare : entity mark = none) {k : A} {pat : List A}
    (own : entity k = some pat) (s : List A) :
    replace pat [k] (encode entity s) = encode (Function.update entity k none) (replace pat [k] s) := by
  obtain ⟨tail, rfl, plain, selves⟩ := entities.marked k pat own
  have whole (rest : List A) : encode entity (mark :: tail ++ rest) = mark :: tail ++ encode entity rest :=
    encode_append (mark :: tail) rest (List.forall_mem_cons.mpr ⟨bare, selves⟩)
  induction s using replace_induction (List.cons_ne_nil mark tail) with
  | nil => rfl
  | hit rest ih =>
    rw [whole, replace_match (List.cons_ne_nil _ _), replace_match (List.cons_ne_nil _ _), ih, List.singleton_append,
      List.singleton_append, encode_cons, Function.update_self]
    rfl
  | miss a rest apart ih =>
    rw [replace_cons apart, encode_cons, encode_cons]
    by_cases same : a = k
    · rw [same, own, Option.getD_some, replace_match (List.cons_ne_nil _ _), Function.update_self, ih]
      rfl
    · rw [Function.update_of_ne same]
      cases encoded : entity a with
      | none =>
        rw [Option.getD_none, List.singleton_append, List.singleton_append, replace_cons, ih]
        rw [List.cons_prefix_cons, entities.prefix_encode tail plain selves, ← List.cons_prefix_cons]
        exact apart
      | some e =>
        obtain ⟨other, rfl, otherPlain, -⟩ := entities.marked a e encoded
        rw [Option.getD_some, replace_other otherPlain (entities.apart k a _ _ (Ne.symm same) own encoded)
          (entities.apart a k _ _ same encoded own), ih]

end

end Patterns
