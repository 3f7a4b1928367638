import Mathlib.Data.List.Induction
import Mathlib.Data.List.Sort
import Mathlib.Data.String.Basic
import Mathlib.Order.Defs.LinearOrder

set_option autoImplicit false

namespace Grouping

open Std (ExtTreeMap TransOrd LawfulEqOrd)

variable {R K V : Type}

section

variable [Ord K] [TransOrd K]

-- The rows of each key, in the order in which they come.
def push (key : R → K) (val : R → V) (map : ExtTreeMap K (List V)) (row : R) : ExtTreeMap K (List V) :=
  map.insert (key row) ((map[key row]?.getD []) ++ [val row])

def group (key : R → K) (val : R → V) (rows : List R) : ExtTreeMap K (List V) :=
  rows.foldl (push key val) ∅

variable [LawfulEqOrd K] [DecidableEq K]

theorem group_getD (key : R → K) (val : R → V) (rows : List R) (k : K) :
    (group key val rows)[k]?.getD [] = (rows.filter fun row => key row = k).map val := by
  induction rows using List.reverseRecOn with
  | nil => simp [group]
  | append_singleton front row ih =>
    rw [group, List.foldl_append, List.foldl_cons, List.foldl_nil, ← group, push,
      ExtTreeMap.getElem?_insert, List.filter_append, List.map_append, ← ih]
    by_cases same : key row = k
    · subst same
      simp
    · simp [same]

end

section

variable (r : R → R → Prop) [DecidableRel r] (p : R → Bool)

theorem filter_orderedInsert [IsTrans R r] (a : R) {l : List R} (sorted : l.Pairwise r) :
    (l.orderedInsert r a).filter p = if p a then (l.filter p).orderedInsert r a else l.filter p := by
  induction l with
  | nil => by_cases kept : p a <;> simp [kept]
  | cons b l ih =>
    obtain ⟨first, rest⟩ := List.pairwise_cons.mp sorted
    by_cases here : r a b
    · rw [List.orderedInsert_cons, if_pos here]
      split
      next kept =>
        rw [List.filter_cons_of_pos kept]
        have least : ∀ c ∈ (b :: l).filter p, r a c := by
          intro c member
          cases List.mem_cons.mp (List.mem_filter.mp member).1 with
          | inl same => exact same ▸ here
          | inr later => exact IsTrans.trans a b c here (first c later)
        cases left : (b :: l).filter p with
        | nil => rfl
        | cons c rest =>
          rw [left] at least
          rw [List.orderedInsert_cons, if_pos (least c List.mem_cons_self)]
      next dropped => rw [List.filter_cons_of_neg dropped]
    · rw [List.orderedInsert_cons, if_neg here]
      by_cases kept : p b
      · rw [List.filter_cons_of_pos kept, List.filter_cons_of_pos kept, ih rest]
        split
        next => rw [List.orderedInsert_cons, if_neg here]
        next => rfl
      · rw [List.filter_cons_of_neg kept, List.filter_cons_of_neg kept, ih rest]

-- Sorting keeps the order of what is sorted already, so it may come before or after a choice.
theorem filter_insertionSort [IsTrans R r] [Std.Total r] (l : List R) :
    (l.insertionSort r).filter p = (l.filter p).insertionSort r := by
  induction l with
  | nil => rfl
  | cons a l ih =>
    rw [List.insertionSort_cons, filter_orderedInsert r p a (List.pairwise_insertionSort r l), ih]
    split
    next kept => rw [List.filter_cons_of_pos kept, List.insertionSort_cons]
    next dropped => rw [List.filter_cons_of_neg dropped]

end

end Grouping

namespace Keyset

variable {K R : Type} [LinearOrder K]

-- What comes after a cursor; without one, everything does.
def Past (after : Option K) (k : K) : Prop := ∀ a ∈ after, a < k

instance (after : Option K) (k : K) : Decidable (Past after k) := inferInstanceAs (Decidable (∀ a ∈ after, a < k))

/-- A page of a table: in order, of the rows past the cursor, and with no row skipped. -/
structure Page (rows : K → Prop) (after : Option K) (page : List K) : Prop where
  ascending : page.Pairwise (· < ·)
  drawn : ∀ k ∈ page, rows k ∧ Past after k
  closed : ∀ k, rows k → Past after k → ∀ l ∈ page, k ≤ l → k ∈ page

-- No row past the cursor is left for another page.
def Exhausts (rows : K → Prop) (after : Option K) (page : List K) : Prop :=
  ∀ k, rows k → Past after k → k ∈ page

/-- A walk through a table that changes from page to page; each page's last key is the next one's cursor. -/
inductive Walk : Option K → List (K → Prop) → List K → Prop where
  | last {after : Option K} {rows : K → Prop} {page : List K} (drawn : Page rows after page)
      (exhausts : Exhausts rows after page) : Walk after [rows] page
  | next {after : Option K} {rows : K → Prop} {page : List K} {l : K} {later : List (K → Prop)} {visited : List K}
      (drawn : Page rows after page) (more : page.getLast? = some l) (rest : Walk (some l) later visited) :
      Walk after (rows :: later) (page ++ visited)

section

variable {after : Option K} {rows : K → Prop} {page visited : List K} {tables : List (K → Prop)} {l : K}

theorem Page.le_last (drawn : Page rows after page) (more : page.getLast? = some l) {k : K} (member : k ∈ page) :
    k ≤ l := by
  obtain ⟨front, rfl⟩ := List.getLast?_eq_some_iff.mp more
  rcases List.mem_append.mp member with inFront | isLast
  · exact ((List.pairwise_append.mp drawn.ascending).2.2 k inFront l (by simp)).le
  · exact (List.mem_singleton.mp isLast).le

theorem Walk.past (walk : Walk after tables visited) {k : K} (member : k ∈ visited) : Past after k := by
  induction walk with
  | last drawn _ => exact (drawn.drawn k member).2
  | next drawn more _ ih =>
    rcases List.mem_append.mp member with here | later
    · exact (drawn.drawn k here).2
    · intro a named
      have reached := (drawn.drawn _ (List.mem_of_getLast? more)).2 a named
      exact reached.trans (ih later _ rfl)

-- The keys come in order, so none comes twice.
theorem Walk.ascending (walk : Walk after tables visited) : visited.Pairwise (· < ·) := by
  induction walk with
  | last drawn _ => exact drawn.ascending
  | next drawn more rest ih =>
    refine List.pairwise_append.mpr ⟨drawn.ascending, ih, ?_⟩
    intro k here m later
    exact (drawn.le_last more here).trans_lt (rest.past later _ rfl)

theorem Walk.drawn (walk : Walk after tables visited) {k : K} (member : k ∈ visited) : ∃ rows ∈ tables, rows k := by
  induction walk with
  | last drawn _ => exact ⟨_, List.mem_singleton_self _, (drawn.drawn k member).1⟩
  | next drawn more rest ih =>
    rcases List.mem_append.mp member with here | later
    · exact ⟨_, List.mem_cons_self, (drawn.drawn k here).1⟩
    · obtain ⟨rows, inside, held⟩ := ih later
      exact ⟨rows, List.mem_cons_of_mem _ inside, held⟩

-- Whatever is there at every page is visited.
theorem Walk.visits (walk : Walk after tables visited) {k : K} (stays : ∀ rows ∈ tables, rows k)
    (ahead : Past after k) :
    k ∈ visited := by
  induction walk with
  | last drawn exhausts => exact exhausts k (stays _ (List.mem_singleton_self _)) ahead
  | @next after rows page l later visited drawn more rest ih =>
    by_cases reached : k ≤ l
    next =>
      have here := drawn.closed k (stays _ List.mem_cons_self) ahead l (List.mem_of_getLast? more) reached
      exact List.mem_append_left _ here
    next =>
      have beyond : Past (some l) k := fun a named => Option.some.inj named ▸ not_le.mp reached
      exact List.mem_append_right _ (ih (fun rows inside => stays rows (List.mem_cons_of_mem _ inside)) beyond)

theorem Walk.visits_once (walk : Walk none tables visited) {k : K} (stays : ∀ rows ∈ tables, rows k) :
    visited.count k = 1 :=
  List.count_eq_one_of_mem (walk.ascending.imp fun less => less.ne)
    (walk.visits stays fun _ none => by cases none)

end

-- The rows past a cursor, in order.
def sorted (key : R → K) (table : List R) (holds : R → Bool) (after : Option K) : List R :=
  (table.filter fun r => holds r && decide (Past after (key r))).insertionSort fun a b => key a ≤ key b

-- As many of them as the limit lets through.
def page (key : R → K) (table : List R) (holds : R → Bool) (after : Option K) (limit : Nat) : List R :=
  (sorted key table holds after).take limit

def Rows (key : R → K) (table : List R) (holds : R → Bool) (k : K) : Prop := ∃ r ∈ table, holds r = true ∧ key r = k

section

variable {key : R → K} {table : List R} {holds : R → Bool} {after : Option K} {limit : Nat}

theorem mem_sorted {r : R} : r ∈ sorted key table holds after ↔ r ∈ table ∧ holds r = true ∧ Past after (key r) := by
  simp [sorted]

theorem sorted_ascending (distinct : (table.map key).Nodup) :
    ((sorted key table holds after).map key).Pairwise (· < ·) := by
  have total : Std.Total fun a b : R => key a ≤ key b := ⟨fun a b => le_total (key a) (key b)⟩
  have trans : IsTrans R fun a b => key a ≤ key b := ⟨fun _ _ _ => le_trans⟩
  have apart : ((sorted key table holds after).map key).Nodup := by
    refine ((List.perm_insertionSort _ _).map key).nodup_iff.mpr ?_
    exact distinct.sublist (List.filter_sublist.map key)
  have ordered : ((sorted key table holds after).map key).Pairwise (· ≤ ·) :=
    List.pairwise_map.mpr (List.pairwise_insertionSort _ _)
  exact (ordered.and apart).imp fun both => lt_of_le_of_ne both.1 both.2

theorem mem_of_mem_page {r : R} (shown : r ∈ page key table holds after limit) : r ∈ table ∧ holds r = true := by
  obtain ⟨stored, held, _⟩ := mem_sorted.mp (List.mem_of_mem_take shown)
  exact ⟨stored, held⟩

theorem page_drawn (distinct : (table.map key).Nodup) :
    Page (Rows key table holds) after ((page key table holds after limit).map key) := by
  have ascending : ((sorted key table holds after).map key).Pairwise (· < ·) := sorted_ascending distinct
  refine ⟨?_, ?_, ?_⟩
  · exact ascending.sublist ((List.take_sublist _ _).map key)
  · intro k member
    obtain ⟨r, inside, rfl⟩ := List.mem_map.mp member
    obtain ⟨stored, held, past⟩ := mem_sorted.mp (List.mem_of_mem_take inside)
    exact ⟨⟨r, stored, held, rfl⟩, past⟩
  · rintro k ⟨r, stored, held, rfl⟩ past l member below
    have inside : r ∈ sorted key table holds after := mem_sorted.mpr ⟨stored, held, past⟩
    rw [← List.take_append_drop limit (sorted key table holds after)] at inside ascending
    rcases List.mem_append.mp inside with here | later
    · exact List.mem_map_of_mem here
    · rw [List.map_append] at ascending
      have above := (List.pairwise_append.mp ascending).2.2 l member (key r) (List.mem_map_of_mem later)
      exact absurd below (not_le.mpr above)

-- A page that leaves room is the last.
theorem page_exhausts (room : (page key table holds after limit).length < limit) :
    Exhausts (Rows key table holds) after ((page key table holds after limit).map key) := by
  rintro k ⟨r, stored, held, rfl⟩ past
  have short : (sorted key table holds after).length ≤ limit := by
    rw [page, List.length_take] at room
    omega
  rw [page, List.take_of_length_le short]
  exact List.mem_map_of_mem (mem_sorted.mpr ⟨stored, held, past⟩)

-- The same order, decided in another way.
theorem insertionSort_congr {first second : R → R → Prop} [DecidableRel first] [DecidableRel second]
    (agree : ∀ a b, first a b ↔ second a b) (table : List R) :
    table.insertionSort first = table.insertionSort second := by
  obtain rfl : first = second := funext fun a => funext fun b => propext (agree a b)
  congr

end

-- The rows of a stretch of a table, and those past a place in it.
def between (key : R → K) (table : List R) (start stop : K) : List R :=
  table.filter fun r => decide (start < key r ∧ key r ≤ stop)

def after (key : R → K) (table : List R) (start : K) : List R := table.filter fun r => decide (start < key r)

section

variable {key : R → K} {table : List R} {start stop : K} {limit : Nat}

theorem mem_between {r : R} : r ∈ between key table start stop ↔ r ∈ table ∧ start < key r ∧ key r ≤ stop := by
  rw [between, List.mem_filter, decide_eq_true_eq]

theorem mem_after {r : R} : r ∈ after key table start ↔ r ∈ table ∧ start < key r := by
  rw [after, List.mem_filter, decide_eq_true_eq]

theorem between_self : between key table start start = [] := by
  rw [List.eq_nil_iff_forall_not_mem]
  intro r inside
  obtain ⟨_, past, reached⟩ := mem_between.mp inside
  exact not_le.mpr past reached

-- Rows that come after the stretch are not part of it.
theorem between_append {later : List R} (beyond : ∀ r ∈ later, start < key r → stop < key r) :
    between key (table ++ later) start stop = between key table start stop := by
  have nothing : between key later start stop = [] := by
    rw [List.eq_nil_iff_forall_not_mem]
    intro r inside
    obtain ⟨listed, past, reached⟩ := mem_between.mp inside
    exact not_le.mpr (beyond r listed past) reached
  rw [between, List.filter_append]
  exact (congrArg (between key table start stop ++ ·) nothing).trans (List.append_nil _)

theorem ascending_ext {first second : List R} (one : first.Pairwise fun a b => key a < key b)
    (two : second.Pairwise fun a b => key a < key b) (same : ∀ r, r ∈ first ↔ r ∈ second) : first = second := by
  have irrefl : Std.Irrefl fun a b : R => key a < key b := ⟨fun a => lt_irrefl (key a)⟩
  have antisymm : Std.Antisymm fun a b : R => key a < key b := ⟨fun _ _ less more => absurd less (lt_asymm more)⟩
  exact one.eq_of_mem_iff two same

-- A stretch and the page after it are the stretch up to the last row of the page.
theorem between_page (ascending : table.Pairwise fun a b => key a < key b) (reached : start ≤ stop) {r : R}
    (last : ((after key table stop).take limit).getLast? = some r) :
    between key table start stop ++ (after key table stop).take limit = between key table start (key r) := by
  have following : (after key table stop).Pairwise fun a b => key a < key b := ascending.sublist List.filter_sublist
  have cut := List.take_append_drop limit (after key table stop)
  rw [← cut] at following
  obtain ⟨shown, _, apart⟩ := List.pairwise_append.mp following
  have beyond : ∀ b ∈ (after key table stop).take limit, b ∈ table ∧ stop < key b :=
    fun b inside => mem_after.mp (List.mem_of_mem_take inside)
  have member := List.mem_of_getLast? last
  refine ascending_ext ?_ (ascending.sublist List.filter_sublist) fun row => ?_
  · refine List.pairwise_append.mpr ⟨ascending.sublist List.filter_sublist, shown, ?_⟩
    intro a before b inside
    exact (mem_between.mp before).2.2.trans_lt (beyond b inside).2
  · rw [List.mem_append, mem_between, mem_between]
    constructor
    · rintro (⟨listed, past, below⟩ | inside)
      · exact ⟨listed, past, below.trans (beyond r member).2.le⟩
      · obtain ⟨listed, past⟩ := beyond row inside
        refine ⟨listed, reached.trans_lt past, ?_⟩
        obtain ⟨front, split⟩ := List.getLast?_eq_some_iff.mp last
        rw [split] at inside shown
        rcases List.mem_append.mp inside with inFront | isLast
        · exact ((List.pairwise_append.mp shown).2.2 row inFront r (List.mem_singleton_self r)).le
        · rw [List.mem_singleton.mp isLast]
    · rintro ⟨listed, past, below⟩
      by_cases earlier : key row ≤ stop
      · exact .inl ⟨listed, past, earlier⟩
      · have inside : row ∈ after key table stop := mem_after.mpr ⟨listed, not_le.mp earlier⟩
        rw [← cut] at inside
        rcases List.mem_append.mp inside with here | later
        · exact .inr here
        · exact absurd below (not_le.mpr (apart r member row later))

theorem between_after (ascending : table.Pairwise fun a b => key a < key b) (reached : start ≤ stop) :
    between key table start stop ++ after key table stop = after key table start := by
  refine ascending_ext ?_ (ascending.sublist List.filter_sublist) fun row => ?_
  · refine List.pairwise_append.mpr
      ⟨ascending.sublist List.filter_sublist, ascending.sublist List.filter_sublist, ?_⟩
    intro a before b beyond
    exact (mem_between.mp before).2.2.trans_lt (mem_after.mp beyond).2
  · rw [List.mem_append, mem_between, mem_after, mem_after]
    constructor
    · rintro (⟨listed, past, _⟩ | ⟨listed, past⟩)
      · exact ⟨listed, past⟩
      · exact ⟨listed, reached.trans_lt past⟩
    · rintro ⟨listed, past⟩
      rcases le_or_gt (key row) stop with before | beyond
      · exact .inl ⟨listed, past, before⟩
      · exact .inr ⟨listed, beyond⟩

end

end Keyset
