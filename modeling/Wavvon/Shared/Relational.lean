import Mathlib.Data.List.Basic
import Mathlib.Tactic.Common

set_option autoImplicit false

namespace Relational

variable {T F K V : Type} [DecidableEq T] [DecidableEq F] [DecidableEq K]

inductive Action where
  | restrict
  | cascade
  | setNull
  deriving DecidableEq, Repr

/-- Foreign keys, each from a table to a table, with what becomes of a row when the row it refers to goes. -/
structure Schema (T F : Type) where
  table : F → T
  target : F → T
  onDelete : F → Action

/-- A row with the references that are not NULL. -/
structure Row (schema : Schema T F) (K V : Type) where
  table : T
  key : K
  refs : List (F × K)
  data : V
  typed : ∀ ref ∈ refs, schema.table ref.1 = table
  deriving DecidableEq

section

variable {schema : Schema T F}

namespace Row

def refersTo (r x : Row schema K V) (ref : F × K) : Bool :=
  decide (ref ∈ r.refs ∧ schema.target ref.1 = x.table ∧ ref.2 = x.key)

def refersBy (action : Action) (r x : Row schema K V) : Bool :=
  r.refs.any fun ref => decide (schema.onDelete ref.1 = action) && r.refersTo x ref

def forgets (gone : Row schema K V → Bool) (db : List (Row schema K V)) (r : Row schema K V) (ref : F × K) : Bool :=
  decide (schema.onDelete ref.1 = .setNull) && db.any fun x => gone x && r.refersTo x ref

-- A row that stays, without the references that are set to NULL.
def clear (gone : Row schema K V → Bool) (db : List (Row schema K V)) (r : Row schema K V) : Row schema K V :=
  { r with
    refs := r.refs.filter fun ref => !r.forgets gone db ref
    typed := fun ref member => r.typed ref (List.mem_filter.mp member).1 }

end Row

section

variable (db : List (Row schema K V)) (hit : Row schema K V → Bool)

-- The rows that a statement deletes by so many cascades.
def reached : Nat → Row schema K V → Bool
  | 0, r => hit r
  | n + 1, r => reached n r || db.any fun x => reached n x && r.refersBy .cascade x

def gone (r : Row schema K V) : Bool := reached db hit db.length r

def blocking (r : Row schema K V) : Option F :=
  (r.refs.find? fun ref => decide (schema.onDelete ref.1 = .restrict) && db.any fun x =>
    gone db hit x && r.refersTo x ref).map Prod.fst

/-- One DELETE statement: it fails on the first reference that neither cascades nor is set to NULL. -/
def delete : Except F (List (Row schema K V)) :=
  let left := db.filter fun r => !gone db hit r
  match left.findSome? (blocking db hit) with
  | some f => .error f
  | none => .ok (left.map (Row.clear (gone db hit) db))

-- Each statement for itself, up to the first that fails.
def autocommit : List (Row schema K V → Bool) → List (Row schema K V) → List (Row schema K V) × Except F Unit
  | [], db => (db, .ok ())
  | hit :: rest, db =>
    match delete db hit with
    | .error f => (db, .error f)
    | .ok left => autocommit rest left

def transaction (hits : List (Row schema K V → Bool)) (db : List (Row schema K V)) : Except F (List (Row schema K V)) :=
  match autocommit hits db with
  | (_, .error f) => .error f
  | (left, .ok _) => .ok left

end

/-- Every reference finds its row. -/
def Satisfied (db : List (Row schema K V)) : Prop :=
  ∀ r ∈ db, ∀ ref ∈ r.refs, ∃ x ∈ db, r.refersTo x ref = true

section

variable {db left : List (Row schema K V)} {hit : Row schema K V → Bool} {r x : Row schema K V} {n : Nat}

def Stable (db : List (Row schema K V)) (hit : Row schema K V → Bool) (n : Nat) : Prop :=
  ∀ r ∈ db, reached db hit (n + 1) r = true → reached db hit n r = true

theorem reached_succ (now : reached db hit n r = true) : reached db hit (n + 1) r = true := by
  rw [reached, now, Bool.true_or]

theorem Stable.succ (stable : Stable db hit n) : Stable db hit (n + 1) := by
  intro r member later
  rw [reached, Bool.or_eq_true] at later
  cases later with
  | inl now => exact now
  | inr by_ =>
    obtain ⟨x, there, refers⟩ := List.any_eq_true.mp by_
    obtain ⟨soon, cascades⟩ := (Bool.and_eq_true _ _).mp refers
    rw [reached, Bool.or_eq_true]
    exact .inr (List.any_eq_true.mpr ⟨x, there, (Bool.and_eq_true _ _).mpr ⟨stable x there soon, cascades⟩⟩)

theorem countP_lt {A : Type} {p q : A → Bool} {a : A} {as : List A} (wider : ∀ b ∈ as, p b = true → q b = true)
    (member : a ∈ as) (left : p a = false) (taken : q a = true) : as.countP p < as.countP q := by
  induction as with
  | nil => cases member
  | cons b rest ih =>
    have widerRest : ∀ c ∈ rest, p c = true → q c = true := fun c inside => wider c (List.mem_cons_of_mem b inside)
    cases List.mem_cons.mp member with
    | inl same =>
      have := List.countP_mono_left widerRest
      rw [List.countP_cons_of_neg (by rw [← same, left]; exact Bool.false_ne_true),
        List.countP_cons_of_pos (by rw [← same, taken])]
      omega
    | inr inside =>
      have := ih widerRest inside
      have first := wider b List.mem_cons_self
      rw [List.countP_cons, List.countP_cons]
      split
      next now => rw [if_pos (first now)]; omega
      next => omega

theorem count_grows (unstable : ¬ Stable db hit n) :
    db.countP (reached db hit n) < db.countP (reached db hit (n + 1)) := by
  have more : ∃ r ∈ db, reached db hit (n + 1) r = true ∧ reached db hit n r = false := by
    by_contra none
    refine unstable fun r member later => ?_
    by_contra before
    exact none ⟨r, member, later, Bool.eq_false_iff.mpr before⟩
  obtain ⟨r, member, later, before⟩ := more
  exact countP_lt (fun x _ now => reached_succ now) member before later

-- A cascade that still grows has reached as many rows as it has taken steps.
theorem stable_or_many (n : Nat) : Stable db hit n ∨ n < db.countP (reached db hit (n + 1)) := by
  induction n with
  | zero =>
    by_cases stable : Stable db hit 0
    · exact .inl stable
    · exact .inr (Nat.zero_lt_of_lt (count_grows stable))
  | succ n ih =>
    cases ih with
    | inl stable => exact .inl stable.succ
    | inr many =>
      by_cases stable : Stable db hit (n + 1)
      · exact .inl stable
      · exact .inr (Nat.lt_of_le_of_lt many (count_grows stable))

theorem stable : Stable db hit db.length := by
  have grown : Stable db hit db.length ∨ db.length < db.countP (reached db hit (db.length + 1)) :=
    stable_or_many db.length
  cases grown with
  | inl stable => exact stable
  | inr many => exact absurd List.countP_le_length (Nat.not_le.mpr many)

theorem gone_hit (asked : hit r = true) : gone db hit r = true := by
  have all (n : Nat) : reached db hit n r = true := by
    induction n with
    | zero => exact asked
    | succ n ih => exact reached_succ ih
  exact all _

-- What refers by a cascade to a row that goes, goes too.
theorem gone_cascade (member : r ∈ db) (target : x ∈ db) (goes : gone db hit x = true)
    (refers : r.refersBy .cascade x = true) : gone db hit r = true := by
  refine stable r member ?_
  rw [reached, Bool.or_eq_true]
  exact .inr (List.any_eq_true.mpr ⟨x, target, (Bool.and_eq_true _ _).mpr ⟨goes, refers⟩⟩)

theorem reached_mono {m : Nat} (fewer : n ≤ m) (now : reached db hit n r = true) : reached db hit m r = true := by
  induction fewer with
  | refl => exact now
  | step _ ih => exact reached_succ ih

theorem refersBy_iff {action : Action} : r.refersBy action x = true ↔
    ∃ ref ∈ r.refs, schema.onDelete ref.1 = action ∧ r.refersTo x ref = true := by
  simp only [Row.refersBy, List.any_eq_true, Bool.and_eq_true, decide_eq_true_eq]

/-- A row goes because it was asked to or through a reference that cascades. -/
theorem gone_cases (goes : gone db hit r = true) :
    hit r = true ∨ ∃ x ∈ db, gone db hit x = true ∧ r.refersBy .cascade x = true := by
  have all (n : Nat) (bound : n ≤ db.length) (now : reached db hit n r = true) :
      hit r = true ∨ ∃ x ∈ db, gone db hit x = true ∧ r.refersBy .cascade x = true := by
    induction n with
    | zero => exact .inl now
    | succ n ih =>
      rw [reached, Bool.or_eq_true] at now
      cases now with
      | inl before => exact ih (by omega) before
      | inr by_ =>
        obtain ⟨x, there, refers⟩ := List.any_eq_true.mp by_
        obtain ⟨soon, cascades⟩ := (Bool.and_eq_true _ _).mp refers
        exact .inr ⟨x, there, reached_mono (by omega) soon, cascades⟩
  exact all _ (Nat.le_refl _) goes

theorem blocking_none : blocking db hit r = none ↔
    ∀ x ∈ db, gone db hit x = true → r.refersBy .restrict x = false := by
  rw [blocking, Option.map_eq_none_iff, List.find?_eq_none]
  constructor
  · intro free x there goes
    rw [Bool.eq_false_iff]
    intro refers
    obtain ⟨ref, named, restricts, points⟩ := refersBy_iff.mp refers
    refine free ref named ?_
    rw [restricts]
    exact (Bool.and_eq_true _ _).mpr
      ⟨decide_eq_true rfl, List.any_eq_true.mpr ⟨x, there, (Bool.and_eq_true _ _).mpr ⟨goes, points⟩⟩⟩
  · intro free ref named blocks
    obtain ⟨restricts, found⟩ := (Bool.and_eq_true _ _).mp blocks
    obtain ⟨x, there, both⟩ := List.any_eq_true.mp found
    obtain ⟨goes, points⟩ := (Bool.and_eq_true _ _).mp both
    have refers : r.refersBy .restrict x = true := refersBy_iff.mpr ⟨ref, named, of_decide_eq_true restricts, points⟩
    rw [free x there goes] at refers
    cases refers

theorem delete_ok : delete db hit = .ok left ↔
    (∀ r ∈ db, gone db hit r = false → ∀ x ∈ db, gone db hit x = true → r.refersBy .restrict x = false) ∧
      left = (db.filter fun r => !gone db hit r).map (Row.clear (gone db hit) db) := by
  have free : (db.filter fun r => !gone db hit r).findSome? (blocking db hit) = none ↔
      ∀ r ∈ db, gone db hit r = false → ∀ x ∈ db, gone db hit x = true → r.refersBy .restrict x = false := by
    simp only [List.findSome?_eq_none_iff, List.mem_filter, Bool.not_eq_true', and_imp, blocking_none]
  rw [delete, ← free]
  cases (db.filter fun r => !gone db hit r).findSome? (blocking db hit) with
  | some f => simp
  | none => simp [eq_comm]

theorem clear_refs {ref : F × K} (named : ref ∈ (r.clear (gone db hit) db).refs) :
    ref ∈ r.refs ∧ r.forgets (gone db hit) db ref = false := by
  obtain ⟨before, kept⟩ := List.mem_filter.mp named
  exact ⟨before, by simpa using kept⟩

/-- Whatever a statement deletes, no reference is left without its row. -/
theorem Satisfied.delete (satisfied : Satisfied db) (done : delete db hit = .ok left) : Satisfied left := by
  obtain ⟨free, rfl⟩ := delete_ok.mp done
  intro after member ref named
  obtain ⟨r, kept, rfl⟩ := List.mem_map.mp member
  obtain ⟨inside, stays⟩ := List.mem_filter.mp kept
  rw [Bool.not_eq_true'] at stays
  obtain ⟨before, held⟩ := clear_refs named
  obtain ⟨x, there, points⟩ := satisfied r inside ref before
  have remains : gone db hit x = false := by
    rw [Bool.eq_false_iff]
    intro goes
    cases action : schema.onDelete ref.1 with
    | restrict =>
      have refers : r.refersBy .restrict x = true := refersBy_iff.mpr ⟨ref, before, action, points⟩
      rw [free r inside stays x there goes] at refers
      cases refers
    | cascade =>
      have follows := gone_cascade inside there goes (refersBy_iff.mpr ⟨ref, before, action, points⟩)
      rw [stays] at follows
      cases follows
    | setNull =>
      have forgotten : r.forgets (gone db hit) db ref = true := by
        rw [Row.forgets, action]
        exact (Bool.and_eq_true _ _).mpr
          ⟨decide_eq_true rfl, List.any_eq_true.mpr ⟨x, there, (Bool.and_eq_true _ _).mpr ⟨goes, points⟩⟩⟩
      rw [held] at forgotten
      cases forgotten
  refine ⟨x.clear (gone db hit) db, List.mem_map_of_mem (List.mem_filter.mpr ⟨there, by rw [remains]; rfl⟩), ?_⟩
  simp only [Row.refersTo, decide_eq_true_eq] at points ⊢
  exact ⟨named, points.2⟩

theorem clear_same (kept : (r.refs.filter fun ref => !r.forgets (gone db hit) db ref) = r.refs) :
    r.clear (gone db hit) db = r := by
  obtain ⟨table, key, refs, data, typed⟩ := r
  simp only [Row.clear, Row.mk.injEq, true_and, and_true]
  exact kept

-- A statement that finds nothing changes nothing.
theorem delete_nothing (nothing : ∀ r ∈ db, hit r = false) : delete db hit = .ok db := by
  have nobody (n : Nat) : ∀ r ∈ db, reached db hit n r = false := by
    induction n with
    | zero => exact nothing
    | succ n ih =>
      intro r member
      rw [reached, ih r member, Bool.false_or, List.any_eq_false]
      intro x there
      rw [ih x there]
      exact Bool.false_ne_true
  have stays : ∀ r ∈ db, gone db hit r = false := nobody _
  refine delete_ok.mpr ⟨fun _ _ _ x there goes => absurd goes (by rw [stays x there]; exact Bool.false_ne_true), ?_⟩
  rw [List.filter_eq_self.mpr fun r member => by rw [stays r member]; rfl]
  have same : ∀ r ∈ db, r.clear (gone db hit) db = r := by
    intro r _
    have keeps : ∀ ref ∈ r.refs, (!r.forgets (gone db hit) db ref) = true := by
      intro ref _
      have none : (db.any fun x => gone db hit x && r.refersTo x ref) = false := by
        rw [List.any_eq_false]
        intro x there
        rw [stays x there, Bool.false_and]
        exact Bool.false_ne_true
      rw [Row.forgets, none, Bool.and_false]
      rfl
    exact clear_same (List.filter_eq_self.mpr keeps)
  rw [List.map_congr_left same, List.map_id']

/-- What a table holds of a row after statements that leave it: the row less references that were set to NULL. -/
structure Remnant (after before : Row schema K V) : Prop where
  table : after.table = before.table
  key : after.key = before.key
  data : after.data = before.data
  fewer : ∀ ref ∈ after.refs, ref ∈ before.refs
  held : ∀ ref ∈ before.refs, schema.onDelete ref.1 ≠ .setNull → ref ∈ after.refs

namespace Remnant

theorem rfl {r : Row schema K V} : Remnant r r where
  table := Eq.refl _
  key := Eq.refl _
  data := Eq.refl _
  fewer _ named := named
  held _ named _ := named

theorem trans {a b c : Row schema K V} (later : Remnant a b) (earlier : Remnant b c) : Remnant a c where
  table := later.table.trans earlier.table
  key := later.key.trans earlier.key
  data := later.data.trans earlier.data
  fewer ref named := earlier.fewer ref (later.fewer ref named)
  held ref named kept := later.held ref (earlier.held ref named kept) kept

theorem clear (goes : Row schema K V → Bool) : Remnant (r.clear goes db) r where
  table := Eq.refl _
  key := Eq.refl _
  data := Eq.refl _
  fewer ref named := (List.mem_filter.mp named).1
  held ref named kept := by
    refine List.mem_filter.mpr ⟨named, ?_⟩
    rw [Row.forgets, decide_eq_false kept]
    exact Eq.refl _

end Remnant

-- A row that a statement selects was selected before.
def Lasting (hit : Row schema K V → Bool) : Prop :=
  ∀ after before, Remnant after before → hit after = true → hit before = true

theorem delete_remnant (done : delete db hit = .ok left) (member : r ∈ left) : ∃ x ∈ db, Remnant r x := by
  obtain ⟨_, rfl⟩ := delete_ok.mp done
  obtain ⟨x, kept, rfl⟩ := List.mem_map.mp member
  exact ⟨x, (List.mem_filter.mp kept).1, Remnant.clear _⟩

theorem delete_clean (lasting : Lasting hit) (done : delete db hit = .ok left) (member : r ∈ left) :
    hit r = false := by
  obtain ⟨_, rfl⟩ := delete_ok.mp done
  obtain ⟨x, kept, rfl⟩ := List.mem_map.mp member
  have stays := (List.mem_filter.mp kept).2
  rw [Bool.eq_false_iff]
  intro asked
  rw [gone_hit (lasting _ x (Remnant.clear _) asked)] at stays
  cases stays

theorem gone_table {p : T → Prop} (cascades : ∀ f, schema.onDelete f = .cascade → p (schema.table f))
    (asked : ∀ r ∈ db, hit r = true → p r.table) (member : r ∈ db) (goes : gone db hit r = true) : p r.table := by
  cases gone_cases goes with
  | inl now => exact asked r member now
  | inr by_ =>
    obtain ⟨x, _, _, refers⟩ := by_
    obtain ⟨ref, named, action, _⟩ := refersBy_iff.mp refers
    rw [← r.typed ref named]
    exact cascades ref.1 action

theorem delete_keeps {p : T → Prop} (cascades : ∀ f, schema.onDelete f = .cascade → p (schema.table f))
    (asked : ∀ r ∈ db, hit r = true → p r.table) (done : delete db hit = .ok left) (member : r ∈ db)
    (other : ¬ p r.table) : ∃ x ∈ left, Remnant x r := by
  obtain ⟨_, rfl⟩ := delete_ok.mp done
  have stays : gone db hit r = false := by
    rw [Bool.eq_false_iff]
    exact fun goes => other (gone_table cascades asked member goes)
  exact ⟨_, List.mem_map_of_mem (List.mem_filter.mpr ⟨member, by rw [stays]; exact Eq.refl _⟩), Remnant.clear _⟩

/-- Nothing that refers to the table keeps its rows from going. -/
def Sheltered (schema : Schema T F) (t : T) : Prop := ∀ f, schema.onDelete f = .restrict → schema.target f ≠ t

theorem delete_sheltered (cascades : ∀ f, schema.onDelete f = .cascade → Sheltered schema (schema.table f))
    (asked : ∀ r ∈ db, hit r = true → Sheltered schema r.table) : ∃ left, delete db hit = .ok left := by
  refine ⟨_, delete_ok.mpr ⟨fun r _ _ x there goes => ?_, Eq.refl _⟩⟩
  rw [Bool.eq_false_iff]
  intro refers
  obtain ⟨ref, _, action, points⟩ := refersBy_iff.mp refers
  exact gone_table cascades asked there goes ref.1 action (of_decide_eq_true points).2.1

section

variable {hits : List (Row schema K V → Bool)} {answer : Except F Unit}

theorem autocommit_remnant (done : autocommit hits db = (left, answer)) (member : r ∈ left) :
    ∃ x ∈ db, Remnant r x := by
  induction hits generalizing db with
  | nil =>
    cases done
    exact ⟨r, member, Remnant.rfl⟩
  | cons hit rest ih =>
    rw [autocommit] at done
    cases first : delete db hit with
    | error f =>
      rw [first] at done
      cases done
      exact ⟨r, member, Remnant.rfl⟩
    | ok after =>
      rw [first] at done
      obtain ⟨y, inside, later⟩ := ih done
      obtain ⟨x, there, earlier⟩ := delete_remnant first inside
      exact ⟨x, there, later.trans earlier⟩

theorem autocommit_satisfied (satisfied : Satisfied db) (done : autocommit hits db = (left, answer)) :
    Satisfied left := by
  induction hits generalizing db with
  | nil =>
    cases done
    exact satisfied
  | cons hit rest ih =>
    rw [autocommit] at done
    cases first : delete db hit with
    | error f =>
      rw [first] at done
      cases done
      exact satisfied
    | ok after =>
      rw [first] at done
      exact ih (satisfied.delete first) done

/-- No row is left that one of the statements selects. -/
theorem autocommit_clean (lasting : ∀ hit ∈ hits, Lasting hit) (done : autocommit hits db = (left, .ok ()))
    (among : hit ∈ hits) (member : r ∈ left) : hit r = false := by
  induction hits generalizing db with
  | nil => cases among
  | cons head rest ih =>
    rw [autocommit] at done
    cases first : delete db head with
    | error f =>
      rw [first] at done
      cases done
    | ok after =>
      rw [first] at done
      cases List.mem_cons.mp among with
      | inl same =>
        obtain ⟨x, there, later⟩ := autocommit_remnant done member
        have clean := delete_clean (lasting head List.mem_cons_self) first there
        rw [Bool.eq_false_iff]
        intro asked
        rw [same] at asked
        rw [lasting head List.mem_cons_self r x later asked] at clean
        cases clean
      | inr inside => exact ih (fun hit member => lasting hit (List.mem_cons_of_mem head member)) done inside

theorem autocommit_keeps {p : T → Prop} (cascades : ∀ f, schema.onDelete f = .cascade → p (schema.table f))
    (asked : ∀ hit ∈ hits, ∀ r, hit r = true → p r.table) (done : autocommit hits db = (left, answer))
    (member : r ∈ db) (other : ¬ p r.table) : ∃ x ∈ left, Remnant x r := by
  induction hits generalizing db r with
  | nil =>
    cases done
    exact ⟨r, member, Remnant.rfl⟩
  | cons hit rest ih =>
    rw [autocommit] at done
    cases first : delete db hit with
    | error f =>
      rw [first] at done
      cases done
      exact ⟨r, member, Remnant.rfl⟩
    | ok after =>
      rw [first] at done
      obtain ⟨y, inside, earlier⟩ := delete_keeps cascades
        (fun r _ now => asked hit List.mem_cons_self r now) first member other
      obtain ⟨x, there, later⟩ := ih (fun hit among => asked hit (List.mem_cons_of_mem _ among)) done inside
        (by rw [earlier.table]; exact other)
      exact ⟨x, there, later.trans earlier⟩

theorem autocommit_sheltered (cascades : ∀ f, schema.onDelete f = .cascade → Sheltered schema (schema.table f))
    (asked : ∀ hit ∈ hits, ∀ r, hit r = true → Sheltered schema r.table) :
    ∃ left, autocommit hits db = (left, .ok ()) := by
  induction hits generalizing db with
  | nil => exact ⟨db, Eq.refl _⟩
  | cons hit rest ih =>
    have deleted : ∃ after, delete db hit = .ok after :=
      delete_sheltered cascades fun r _ now => asked hit List.mem_cons_self r now
    obtain ⟨after, first⟩ := deleted
    have goesOn : ∃ left, autocommit rest after = (left, .ok ()) :=
      ih fun hit among => asked hit (List.mem_cons_of_mem _ among)
    obtain ⟨left, done⟩ := goesOn
    exact ⟨left, by rw [autocommit, first]; exact done⟩

theorem autocommit_append {more : List (Row schema K V → Bool)} (done : autocommit hits db = (left, .ok ())) :
    autocommit (hits ++ more) db = autocommit more left := by
  induction hits generalizing db with
  | nil =>
    cases done
    exact Eq.refl _
  | cons hit rest ih =>
    rw [autocommit] at done
    rw [List.cons_append, autocommit]
    cases first : delete db hit with
    | error f =>
      rw [first] at done
      cases done
    | ok after =>
      rw [first] at done
      exact ih done

-- Statements that find nothing may as well not run.
theorem autocommit_idle (idle : ∀ hit ∈ hits, ∀ r ∈ db, hit r = false) : autocommit hits db = (db, .ok ()) := by
  induction hits with
  | nil => exact Eq.refl _
  | cons hit rest ih =>
    rw [autocommit, delete_nothing (idle hit List.mem_cons_self)]
    exact ih fun hit among => idle hit (List.mem_cons_of_mem _ among)

theorem autocommit_skip {earlier later : List (Row schema K V → Bool)} (lasting : ∀ hit ∈ hits, Lasting hit)
    (idle : ∀ hit ∈ hits, ∀ r ∈ db, hit r = false) (done : autocommit earlier db = (left, .ok ())) :
    autocommit (earlier ++ (hits ++ later)) db = autocommit (earlier ++ later) db := by
  have still : ∀ hit ∈ hits, ∀ r ∈ left, hit r = false := by
    intro hit among r member
    obtain ⟨x, there, remnant⟩ := autocommit_remnant done member
    rw [Bool.eq_false_iff]
    intro asked
    have before := lasting hit among r x remnant asked
    rw [idle hit among x there] at before
    cases before
  rw [autocommit_append done, autocommit_append done, autocommit_append (autocommit_idle still)]

end

end

end

end Relational
