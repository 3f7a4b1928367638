import Mathlib.Algebra.GroupWithZero.Nat
import Mathlib.Data.String.Basic
import Wavvon.Shared.Patterns

set_option autoImplicit false

namespace Offsets

open Patterns (cut cut_eq_some cut_here cut_miss forall_of_all)
open String (utf8Len utf8Len_append utf8Len_cons utf8Len_nil)

theorem toLower_cases (c : Char) :
    (65 ≤ c.toNat ∧ c.toNat ≤ 90 ∧ c.toLower.toNat = c.toNat + 32) ∨ c.toLower = c := by
  unfold Char.toLower
  split
  next upper =>
    have low := UInt32.le_iff_toNat_le.mp upper.1
    have high := UInt32.le_iff_toNat_le.mp upper.2
    have code : c.val.toNat = c.toNat := rfl
    rw [code] at low high
    refine .inl ⟨low, high, ?_⟩
    change (c.val + ('a'.val - 'A'.val)).toNat = c.toNat + 32
    rw [UInt32.toNat_add, code]
    exact Nat.mod_eq_of_lt (Nat.lt_of_le_of_lt (Nat.add_le_add_right high 32) (by decide))
  next => exact .inr rfl

theorem toLower_idem (c : Char) : c.toLower.toLower = c.toLower := by
  rcases toLower_cases c with ⟨low, high, lowered⟩ | same
  · rcases toLower_cases c.toLower with ⟨-, below, -⟩ | same
    · omega
    · exact same
  · rw [same, same]

theorem toLower_ascii {c : Char} : c.toLower.toNat < 128 ↔ c.toNat < 128 := by
  rcases toLower_cases c with ⟨low, high, lowered⟩ | same
  · omega
  · rw [same]

theorem utf8Size_ascii {c : Char} (ascii : c.toNat < 128) : c.utf8Size = 1 := by
  rw [Char.utf8Size_eq_one_iff, UInt32.le_iff_toNat_le]
  exact Nat.le_of_lt_succ ascii

theorem utf8Len_ascii {text : List Char} (ascii : ∀ c ∈ text, c.toNat < 128) : utf8Len text = text.length := by
  induction text with
  | nil => rfl
  | cons c rest ih =>
    obtain ⟨first, later⟩ := List.forall_mem_cons.mp ascii
    rw [utf8Len_cons, ih later, utf8Size_ascii first, List.length_cons]

/-! Slices of a text by offsets in bytes: there is none where an offset is inside a character or beyond the end. -/

def splitAt : List Char → Nat → Option (List Char × List Char)
  | text, 0 => some ([], text)
  | [], _ + 1 => none
  | c :: rest, offset + 1 =>
    if c.utf8Size ≤ offset + 1 then (splitAt rest (offset + 1 - c.utf8Size)).map (Prod.map (c :: ·) id) else none

theorem splitAt_utf8Len (front back : List Char) : splitAt (front ++ back) (utf8Len front) = some (front, back) := by
  induction front with
  | nil => cases back <;> rfl
  | cons c front ih =>
    obtain ⟨offset, size⟩ : ∃ offset, utf8Len (c :: front) = offset + 1 :=
      ⟨utf8Len front + c.utf8Size - 1, by have := c.utf8Size_pos; rw [utf8Len_cons]; omega⟩
    have within : c.utf8Size ≤ offset + 1 := by rw [← size, utf8Len_cons]; omega
    have left : offset + 1 - c.utf8Size = utf8Len front := by rw [← size, utf8Len_cons]; omega
    rw [size, List.cons_append, splitAt, if_pos within, left, ih]
    rfl

theorem splitAt_eq_some {text front back : List Char} {offset : Nat} :
    splitAt text offset = some (front, back) ↔ text = front ++ back ∧ utf8Len front = offset := by
  constructor
  · intro split
    induction text, offset using splitAt.induct generalizing front with
    | case1 text =>
      rw [splitAt, Option.some_inj, Prod.mk.injEq] at split
      obtain ⟨rfl, rfl⟩ := split
      exact ⟨rfl, rfl⟩
    | case2 offset => cases split
    | case3 c rest offset within ih =>
      rw [splitAt, if_pos within, Option.map_eq_some_iff] at split
      obtain ⟨⟨front', back'⟩, later, parts⟩ := split
      obtain ⟨rfl, rfl⟩ := Prod.mk.inj parts
      obtain ⟨rfl, size⟩ := ih later
      refine ⟨rfl, ?_⟩
      rw [utf8Len_cons, size]
      omega
    | case4 c rest offset beyond =>
      rw [splitAt, if_neg beyond] at split
      cases split
  · rintro ⟨rfl, rfl⟩
    exact splitAt_utf8Len front back

-- `&text[..stop]`
def sliceTo (text : List Char) (stop : Nat) : Option (List Char) := (splitAt text stop).map Prod.fst

-- `&text[start..]`
def sliceFrom (text : List Char) (start : Nat) : Option (List Char) := (splitAt text start).map Prod.snd

-- `&text[start..stop]`
def slice (text : List Char) (start stop : Nat) : Option (List Char) :=
  if start ≤ stop then (sliceFrom text start).bind fun rest => sliceTo rest (stop - start) else none

theorem sliceFrom_eq_some {text back : List Char} {start : Nat} :
    sliceFrom text start = some back ↔ ∃ front, text = front ++ back ∧ utf8Len front = start := by
  simp only [sliceFrom, Option.map_eq_some_iff, Prod.exists, splitAt_eq_some, exists_eq_right]

@[simp] theorem sliceTo_utf8Len (front back : List Char) : sliceTo (front ++ back) (utf8Len front) = some front := by
  rw [sliceTo, splitAt_utf8Len]
  rfl

@[simp] theorem sliceFrom_utf8Len (front back : List Char) : sliceFrom (front ++ back) (utf8Len front) = some back := by
  rw [sliceFrom, splitAt_utf8Len]
  rfl

theorem slice_utf8Len (front middle back : List Char) :
    slice (front ++ (middle ++ back)) (utf8Len front) (utf8Len front + utf8Len middle) = some middle := by
  rw [slice, if_pos (Nat.le_add_right _ _), sliceFrom_utf8Len, Option.bind_some, Nat.add_sub_cancel_left, sliceTo_utf8Len]

theorem slice_within {text middle : List Char} {start stop : Nat} (sliced : slice text start stop = some middle) :
    stop ≤ utf8Len text := by
  rw [slice] at sliced
  split at sliced
  next ordered =>
    obtain ⟨rest, from_, to_⟩ := Option.bind_eq_some_iff.mp sliced
    obtain ⟨front, rfl, size⟩ := sliceFrom_eq_some.mp from_
    obtain ⟨⟨_, back⟩, split, rfl⟩ := Option.map_eq_some_iff.mp to_
    obtain ⟨rfl, left⟩ := splitAt_eq_some.mp split
    rw [utf8Len_append, utf8Len_append]
    omega
  next => cases sliced

-- `str::find`
def find (word text : List Char) : Option Nat := (cut id word text).map fun place => utf8Len place.1

/-! Lower-casing. A capital sigma depends on where it stands, and no other character does. -/

/-- The tables of `str::to_lowercase`, and what a search for a word of ASCII relies on. -/
structure Casing where
  lower : Char → List Char
  endsWord : List Char → List Char → Bool
  ascii : ∀ c, c.toNat < 128 → lower c = [c.toLower]
  sigma : lower 'Σ' = ['σ']
  dotted : lower 'İ' = ['i', '\u0307']
  kelvin : lower '\u212a' = ['k']
  beyond : ∀ c, 128 ≤ c.toNat → c ≠ 'İ' → c ≠ '\u212a' → lower c ≠ [] ∧ ∀ d ∈ lower c, 128 ≤ d.toNat

namespace Casing

variable (casing : Casing) {word text front back : List Char}

def piece (seen : List Char) (c : Char) (rest : List Char) : List Char :=
  if c = 'Σ' ∧ casing.endsWord seen rest then ['ς'] else casing.lower c

def lowerFrom : List Char → List Char → List Char
  | _, [] => []
  | seen, c :: rest => casing.piece seen c rest ++ lowerFrom (seen ++ [c]) rest

-- `str::to_lowercase`
def toLowercase (text : List Char) : List Char := casing.lowerFrom [] text

/-- Lower-casing keeps the length in bytes. -/
def Steady (text : List Char) : Prop := utf8Len (casing.toLowercase text) = utf8Len text

instance (text : List Char) : Decidable (casing.Steady text) :=
  inferInstanceAs (Decidable (utf8Len (casing.toLowercase text) = utf8Len text))

-- Besides the ASCII letters the Kelvin sign is the one character that becomes a single one of ASCII.
def fold (c : Char) : Char := if c = '\u212a' then 'k' else c.toLower

theorem fold_ascii {c : Char} (ascii : c.toNat < 128) : fold c = c.toLower := by
  rw [fold, if_neg]
  rintro rfl
  exact absurd ascii (by decide)

theorem fold_beyond {c : Char} (beyond : 128 ≤ c.toNat) (other : c ≠ '\u212a') : 128 ≤ (fold c).toNat := by
  rw [fold, if_neg other, ← not_lt, toLower_ascii]
  exact not_lt.mpr beyond

-- What is folded to a character below the small letters is that character.
theorem eq_of_fold {c d : Char} (folded : fold c = d) (below : d.toNat < 97) : c = d := by
  rw [fold] at folded
  split at folded
  next =>
    rw [← folded] at below
    exact absurd below (by decide)
  next =>
    rcases toLower_cases c with ⟨low, high, lowered⟩ | same
    · rw [folded] at lowered
      omega
    · rw [← folded, same]

theorem map_fold_of_ascii (ascii : ∀ c ∈ text, c.toNat < 128) : text.map fold = text.map Char.toLower :=
  List.map_congr_left fun c member => fold_ascii (ascii c member)

theorem prefix_toLower (apart : 'k' ∈ word → '\u212a' ∉ text) (here : word <+: text.map fold) :
    word <+: text.map Char.toLower := by
  induction word generalizing text with
  | nil => exact List.nil_prefix
  | cons a word ih =>
    cases text with
    | nil => exact here
    | cons c rest =>
      obtain ⟨first, later⟩ := List.cons_prefix_cons.mp here
      refine List.cons_prefix_cons.mpr ⟨?_, ih ?_ later⟩
      · rw [first, fold, if_neg]
        rintro rfl
        exact apart (by rw [first]; exact List.mem_cons_self) List.mem_cons_self
      · exact fun listed inside => apart (List.mem_cons_of_mem a listed) (List.mem_cons_of_mem c inside)

theorem lowerFrom_ascii (ascii : ∀ c ∈ text, c.toNat < 128) (seen : List Char) :
    casing.lowerFrom seen text = text.map Char.toLower := by
  induction text generalizing seen with
  | nil => rfl
  | cons c rest ih =>
    obtain ⟨first, later⟩ := List.forall_mem_cons.mp ascii
    have alone : casing.piece seen c rest = [c.toLower] := by
      rw [piece, if_neg, casing.ascii c first]
      rintro ⟨rfl, -⟩
      exact absurd first (by decide)
    rw [lowerFrom, alone, ih later]
    rfl

theorem toLowercase_ascii (ascii : ∀ c ∈ text, c.toNat < 128) : casing.toLowercase text = text.map Char.toLower :=
  casing.lowerFrom_ascii ascii []

theorem utf8Len_piece (seen : List Char) (c : Char) (rest : List Char) :
    utf8Len (casing.piece seen c rest) = utf8Len (casing.lower c) := by
  rw [piece]
  split
  next sigma =>
    rw [sigma.1, casing.sigma]
    decide
  next => rfl

theorem utf8Len_lowerFrom (seen text : List Char) :
    utf8Len (casing.lowerFrom seen text) = (text.map fun c => utf8Len (casing.lower c)).sum := by
  induction text generalizing seen with
  | nil => rfl
  | cons c rest ih => rw [lowerFrom, utf8Len_append, utf8Len_piece, ih, List.map_cons, List.sum_cons]

theorem utf8Len_toLowercase_append (front back : List Char) :
    utf8Len (casing.toLowercase (front ++ back)) =
      utf8Len (casing.toLowercase front) + utf8Len (casing.toLowercase back) := by
  rw [toLowercase, toLowercase, toLowercase, utf8Len_lowerFrom, utf8Len_lowerFrom, utf8Len_lowerFrom, List.map_append,
    List.sum_append]

theorem utf8Len_toLowercase_cons (c : Char) (rest : List Char) :
    utf8Len (casing.toLowercase (c :: rest)) = utf8Len (casing.lower c) + utf8Len (casing.toLowercase rest) := by
  rw [toLowercase, toLowercase, utf8Len_lowerFrom, utf8Len_lowerFrom, List.map_cons, List.sum_cons]

-- What a character past ASCII becomes holds none of it, but for the two that a search has to reckon with.
theorem piece_cases (seen : List Char) (c : Char) (rest : List Char) :
    (casing.piece seen c rest = [fold c]) ∨ (c = 'İ' ∧ casing.piece seen c rest = ['i', '\u0307']) ∨
      (128 ≤ (fold c).toNat ∧ casing.piece seen c rest ≠ [] ∧ ∀ d ∈ casing.piece seen c rest, 128 ≤ d.toNat) := by
  by_cases ascii : c.toNat < 128
  · refine .inl ?_
    rw [fold_ascii ascii, piece, if_neg, casing.ascii c ascii]
    rintro ⟨rfl, -⟩
    exact absurd ascii (by decide)
  · by_cases kelvin : c = '\u212a'
    · refine .inl ?_
      rw [kelvin, piece, if_neg (by simp), casing.kelvin]
      rfl
    · by_cases dotted : c = 'İ'
      · refine .inr (.inl ⟨dotted, ?_⟩)
        rw [dotted, piece, if_neg (by simp), casing.dotted]
      · refine .inr (.inr ⟨fold_beyond (not_lt.mp ascii) kelvin, ?_⟩)
        rw [piece]
        split
        next => exact ⟨List.cons_ne_nil _ _, forall_of_all (by decide)⟩
        next => exact casing.beyond c (not_lt.mp ascii) dotted kelvin

theorem utf8Len_lower {c : Char} (ascii : (fold c).toNat < 128) : utf8Len (casing.lower c) = 1 := by
  have size := casing.utf8Len_piece [] c []
  rcases casing.piece_cases [] c [] with single | ⟨rfl, -⟩ | ⟨beyond, -⟩
  · rw [← size, single, utf8Len_cons, utf8Len_nil, Nat.zero_add, utf8Size_ascii ascii]
  · exact absurd ascii (by decide)
  · omega

theorem utf8Len_toLowercase_ascii (ascii : ∀ c ∈ text.map fold, c.toNat < 128) :
    utf8Len (casing.toLowercase text) = text.length := by
  induction text with
  | nil => rfl
  | cons c rest ih =>
    obtain ⟨first, later⟩ := List.forall_mem_cons.mp ascii
    rw [utf8Len_toLowercase_cons, casing.utf8Len_lower first, ih later, List.length_cons, Nat.add_comm]

theorem steady_append (ascii : ∀ c ∈ back, c.toNat < 128) : casing.Steady (front ++ back) ↔ casing.Steady front := by
  have kept : utf8Len (casing.toLowercase back) = utf8Len back := by
    rw [utf8Len_ascii ascii, casing.utf8Len_toLowercase_ascii]
    intro c member
    obtain ⟨typed, listed, rfl⟩ := List.mem_map.mp member
    rw [fold_ascii (ascii typed listed)]
    exact toLower_ascii.mpr (ascii typed listed)
  rw [Steady, Steady, utf8Len_toLowercase_append, utf8Len_append, kept, Nat.add_right_cancel_iff]

/-- A word that stands in the lowered text just where the text spells it. -/
structure Fits (word text : List Char) : Prop where
  ascii : ∀ c ∈ word, c.toNat < 128
  last : ['i'] <:+ word → 'İ' ∉ text

theorem prefix_lowerFrom (fits : Fits word text) (seen : List Char) :
    word <+: casing.lowerFrom seen text ↔ word <+: text.map fold := by
  obtain ⟨ascii, last⟩ := fits
  induction word generalizing text seen with
  | nil => exact iff_of_true List.nil_prefix List.nil_prefix
  | cons a word ih =>
    obtain ⟨first, later⟩ := List.forall_mem_cons.mp ascii
    cases text with
    | nil => exact Iff.rfl
    | cons c rest =>
      rw [lowerFrom, List.map_cons, List.cons_prefix_cons]
      rcases casing.piece_cases seen c rest with single | ⟨rfl, dotted⟩ | ⟨folded, filled, beyond⟩
      · rw [single, List.singleton_append, List.cons_prefix_cons, ih _ later]
        intro ends absent
        exact last (ends.trans (List.suffix_cons a word)) (List.mem_cons_of_mem c absent)
      · rw [dotted]
        refine iff_of_false (fun here => ?_) (fun here => ?_)
        · obtain ⟨rfl, after⟩ := List.cons_prefix_cons.mp here
          cases word with
          | nil => exact last (List.suffix_refl ['i']) List.mem_cons_self
          | cons b word =>
            obtain ⟨rfl, -⟩ := List.cons_prefix_cons.mp after
            exact absurd (later '\u0307' List.mem_cons_self) (by decide)
        · rw [here.1] at first
          exact absurd first (by decide)
      · refine iff_of_false (fun here => ?_) (fun here => ?_)
        · obtain ⟨d, tail, opens⟩ := List.exists_cons_of_ne_nil filled
          rw [opens] at here beyond
          obtain ⟨rfl, -⟩ := List.cons_prefix_cons.mp here
          exact absurd first (not_lt.mpr (beyond _ List.mem_cons_self))
        · rw [here.1] at first
          exact absurd first (not_lt.mpr folded)

theorem find_miss {c : Char} {rest : List Char} (apart : ¬ word <+: c :: rest) :
    find word (c :: rest) = (find word rest).map (c.utf8Size + ·) := by
  rw [find, find, cut_miss (by rwa [List.map_id]), Option.map_map, Option.map_map]
  congr 1
  funext place
  exact Nat.add_comm _ _

theorem find_beyond {a : Char} (ascii : a.toNat < 128) (beyond : ∀ c ∈ front, 128 ≤ c.toNat) :
    find (a :: word) (front ++ back) = (find (a :: word) back).map (utf8Len front + ·) := by
  induction front with
  | nil => simp
  | cons c front ih =>
    obtain ⟨first, later⟩ := List.forall_mem_cons.mp beyond
    rw [List.cons_append, find_miss, ih later, Option.map_map]
    · congr 1
      funext offset
      rw [Function.comp_apply, utf8Len_cons]
      omega
    · rintro here
      obtain ⟨rfl, -⟩ := List.cons_prefix_cons.mp here
      omega

theorem piece_tail (seen : List Char) (c : Char) (rest : List Char) :
    ∃ d tail, casing.piece seen c rest = d :: tail ∧ ∀ e ∈ tail, 128 ≤ e.toNat := by
  rcases casing.piece_cases seen c rest with single | ⟨-, dotted⟩ | ⟨-, filled, beyond⟩
  · exact ⟨_, [], single, List.forall_mem_nil _⟩
  · exact ⟨_, _, dotted, forall_of_all (by decide)⟩
  · obtain ⟨d, tail, opens⟩ := List.exists_cons_of_ne_nil filled
    rw [opens] at beyond
    exact ⟨d, tail, opens, (List.forall_mem_cons.mp beyond).2⟩

/-- The offset in the lowered text is the length of what stands before, lowered as well. -/
theorem find_lowerFrom (fits : Fits word text) (seen : List Char) :
    find word (casing.lowerFrom seen text) =
      (cut fold word text).map fun place => utf8Len (casing.toLowercase place.1) := by
  induction text generalizing seen with
  | nil =>
    rw [lowerFrom, find, cut, cut, List.map_nil, List.map_nil, Option.map_map, Option.map_map]
    congr 1
    funext p
    simp [toLowercase, lowerFrom]
  | cons c rest ih =>
    by_cases here : word <+: (c :: rest).map fold
    · rw [find, cut_here here, cut_here]
      · rfl
      · rw [List.map_id]
        exact (casing.prefix_lowerFrom fits seen).mpr here
    · have absent := (casing.prefix_lowerFrom fits seen).not.mpr here
      have later := ih ⟨fits.ascii, fun ends absent => fits.last ends (List.mem_cons_of_mem c absent)⟩ (seen ++ [c])
      have size := casing.utf8Len_piece seen c rest
      obtain ⟨d, tail, opens, beyond⟩ := casing.piece_tail seen c rest
      rw [lowerFrom, opens, List.cons_append] at absent
      rw [opens, utf8Len_cons] at size
      cases word with
      | nil => exact absurd List.nil_prefix here
      | cons a word =>
        rw [cut_miss here, lowerFrom, opens, List.cons_append, find_miss absent,
          find_beyond (fits.ascii a List.mem_cons_self) beyond, later, Option.map_map, Option.map_map, Option.map_map]
        congr 1
        funext place
        rw [Function.comp_apply, Function.comp_apply, Function.comp_apply, Prod.map_fst, utf8Len_toLowercase_cons]
        omega

theorem find_toLowercase (fits : Fits word text) : find word (casing.toLowercase text) =
    (cut fold word text).map fun place => utf8Len (casing.toLowercase place.1) :=
  casing.find_lowerFrom fits []

end Casing

end Offsets
