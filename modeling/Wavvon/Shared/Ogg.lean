import Mathlib.Algebra.GroupWithZero.Nat
import Wavvon.Shared.Riff

set_option autoImplicit false

namespace Ogg

open Riff (leValue)

-- The pattern that a page starts with.
def capture : List UInt8 := [0x4F, 0x67, 0x67, 0x53]

def tableSum (table : List UInt8) : Nat := (table.map UInt8.toNat).sum

/-- A header, the table that its last byte counts, and as many bytes as the table adds up to. -/
structure Page where
  header : List UInt8
  table : List UInt8
  payload : List UInt8
  captured : header.take 4 = capture
  sized : header.length = 26
  few : table.length < 256
  filled : payload.length = tableSum table

namespace Page

def bytes (p : Page) : List UInt8 := p.header ++ UInt8.ofNat p.table.length :: (p.table ++ p.payload)

def granule (p : Page) : Int64 := Int64.ofNat (leValue ((p.header.drop 6).take 8))

end Page

-- How many segments the front page states, their table, and where the page ends.
def segments (bytes : List UInt8) : Nat := (bytes.getD 26 0).toNat

def tableOf (bytes : List UInt8) : List UInt8 := (bytes.drop 27).take (segments bytes)

def stop (bytes : List UInt8) : Nat := 27 + segments bytes + tableSum (tableOf bytes)

def split (bytes : List UInt8) : Option (Page × List UInt8) :=
  if fits : bytes.take 4 = capture ∧ 27 ≤ bytes.length ∧ stop bytes ≤ bytes.length then
    some
      ({ header := bytes.take 26
         table := tableOf bytes
         payload := (bytes.drop (27 + segments bytes)).take (tableSum (tableOf bytes))
         captured := by rw [List.take_take]; exact fits.1
         sized := by simp only [List.length_take]; omega
         few := by
          have := (bytes.getD 26 0).toNat_lt
          simp only [tableOf, segments, List.length_take]
          omega
         filled := by
          have := fits.2.2
          simp only [stop] at this
          simp only [List.length_take, List.length_drop]
          omega },
        bytes.drop (stop bytes))
  else none

section

variable {bytes rest left : List UInt8}

namespace Page

theorem bytes_length (p : Page) : p.bytes.length = 27 + p.table.length + p.payload.length := by
  simp only [bytes, List.length_append, List.length_cons, p.sized]
  omega

theorem same {p q : Page} (header : p.header = q.header) (table : p.table = q.table)
    (payload : p.payload = q.payload) : p = q := by
  obtain ⟨⟩ := p
  obtain ⟨⟩ := q
  simp only at header table payload
  subst header table payload
  rfl

theorem segments_bytes (p : Page) (rest : List UInt8) : segments (p.bytes ++ rest) = p.table.length := by
  have few := p.few
  have here : (p.bytes ++ rest).getD 26 0 = UInt8.ofNat p.table.length := by
    rw [bytes, List.append_assoc, List.getD_eq_getElem?_getD, List.getElem?_append_right (Nat.le_of_eq p.sized),
      p.sized]
    rfl
  rw [segments, here, UInt8.toNat_ofNat']
  omega

theorem drop_header (p : Page) (rest : List UInt8) : (p.bytes ++ rest).drop 27 = p.table ++ (p.payload ++ rest) := by
  have : (p.header ++ [UInt8.ofNat p.table.length]).length = 27 := by simp [p.sized]
  have whole : p.bytes ++ rest =
      (p.header ++ [UInt8.ofNat p.table.length]) ++ (p.table ++ (p.payload ++ rest)) := by
    simp [bytes]
  rw [whole, List.drop_left' this]

theorem tableOf_bytes (p : Page) (rest : List UInt8) : tableOf (p.bytes ++ rest) = p.table := by
  rw [tableOf, drop_header, segments_bytes, List.take_left' rfl]

theorem stop_bytes (p : Page) (rest : List UInt8) : stop (p.bytes ++ rest) = p.bytes.length := by
  rw [stop, segments_bytes, tableOf_bytes, bytes_length, p.filled]

end Page

theorem split_bytes (p : Page) (rest : List UInt8) : split (p.bytes ++ rest) = some (p, rest) := by
  have total : (p.bytes ++ rest).length = p.bytes.length + rest.length := List.length_append
  have long := p.bytes_length
  have front : (p.bytes ++ rest).take 26 = p.header := by
    rw [Page.bytes, List.append_assoc, List.take_left' p.sized]
  have captured : (p.bytes ++ rest).take 4 = capture := by
    have : (p.bytes ++ rest).take 4 = ((p.bytes ++ rest).take 26).take 4 := by rw [List.take_take]; rfl
    rw [this, front, p.captured]
  rw [split, dif_pos ⟨captured, by omega, by rw [Page.stop_bytes]; omega⟩]
  congr 2
  · apply Page.same
    · exact front
    · exact p.tableOf_bytes rest
    · dsimp only
      rw [p.segments_bytes, p.tableOf_bytes, ← List.drop_drop, p.drop_header, List.drop_left' rfl, ← p.filled,
        List.take_left' rfl]
  · rw [p.stop_bytes, List.drop_left' rfl]

theorem splits : Records.Splits Page.bytes split where
  exact bytes p rest := by
    constructor
    · intro found
      rw [split] at found
      split at found
      next fits =>
        cases found
        obtain ⟨-, long, inside⟩ := fits
        rw [stop] at inside
        have count : (tableOf bytes).length = segments bytes := by
          simp only [tableOf, List.length_take, List.length_drop]
          omega
        have last : UInt8.ofNat (segments bytes) :: bytes.drop 27 = bytes.drop 26 := by
          rw [List.drop_eq_getElem_cons (by omega : 26 < bytes.length), segments,
            List.getD_eq_getElem?_getD, List.getElem?_eq_getElem (by omega : 26 < bytes.length), Option.getD_some,
            UInt8.ofNat_toNat]
        have tail : (bytes.drop (27 + segments bytes)).take (tableSum (tableOf bytes)) ++ bytes.drop (stop bytes) =
            bytes.drop (27 + segments bytes) := by
          have := List.take_append_drop (tableSum (tableOf bytes)) (bytes.drop (27 + segments bytes))
          rwa [List.drop_drop] at this
        have middle : tableOf bytes ++ bytes.drop (27 + segments bytes) = bytes.drop 27 := by
          have := List.take_append_drop (segments bytes) (bytes.drop 27)
          rwa [List.drop_drop] at this
        simp only [Page.bytes, count, List.append_assoc, List.cons_append]
        rw [tail, middle, last, List.take_append_drop]
      next => cases found
    · rintro rfl
      exact split_bytes p rest
  nonempty p := by
    intro empty
    have := p.bytes_length
    rw [empty, List.length_nil] at this
    omega

-- What a reader of pages takes for no page at all.
def Scrap (left : List UInt8) : Prop := left.length < 27 ∨ left.take 4 ≠ capture

instance (left : List UInt8) : Decidable (Scrap left) := inferInstanceAs (Decidable (_ ∨ _))

-- A page that has begun is all there, or cut off.
theorem split_none_iff : split bytes = none ↔ Scrap bytes ∨ bytes.length < stop bytes := by
  by_cases fits : bytes.take 4 = capture ∧ 27 ≤ bytes.length ∧ stop bytes ≤ bytes.length
  · rw [split, dif_pos fits]
    refine iff_of_false nofun ?_
    rintro ((short | strange) | cut)
    · omega
    · exact strange fits.1
    · omega
  · rw [split, dif_neg fits]
    refine iff_of_true rfl ?_
    by_cases captured : bytes.take 4 = capture
    · have : bytes.length < 27 ∨ bytes.length < stop bytes := by
        rw [not_and, not_and] at fits
        have := fits captured
        omega
      exact this.imp_left .inl
    · exact .inl (.inr captured)

theorem Scrap.split_none (scrap : Scrap left) : split left = none := split_none_iff.mpr (.inl scrap)

theorem pages_unique {ps qs : List Page} {left right : List UInt8} (lastL : split left = none)
    (lastR : split right = none) (whole : ps.flatMap Page.bytes ++ left = qs.flatMap Page.bytes ++ right) :
    ps = qs ∧ left = right := by
  have first := (splits.walk_iff (Nat.lt_succ_self (ps.flatMap Page.bytes ++ left).length)).mpr ⟨rfl, lastL⟩
  have second := (splits.walk_iff (Nat.lt_succ_self (qs.flatMap Page.bytes ++ right).length)).mpr ⟨rfl, lastR⟩
  rw [whole] at first
  exact Prod.mk.inj (first.symm.trans second)

end

end Ogg
