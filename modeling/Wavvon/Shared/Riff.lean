import Wavvon.Shared.Codes
import Wavvon.Shared.Records

set_option autoImplicit false

namespace Riff

open Codes (littleEndian)

def leValue (bytes : List UInt8) : Nat := bytes.foldr (fun b value => b.toNat + 256 * value) 0

/-- A tag, a payload of a 32-bit size, and a byte after a payload of an odd size. -/
structure Chunk where
  tag : List UInt8
  payload : List UInt8
  pad : List UInt8
  tagged : tag.length = 4
  sized : payload.length < 2 ^ 32
  padded : pad.length = payload.length % 2
  deriving DecidableEq

namespace Chunk

def bytes (c : Chunk) : List UInt8 := c.tag ++ littleEndian 4 c.payload.length ++ c.payload ++ c.pad

-- The size that the header of a chunk states, and where the chunk ends.
def stated (bytes : List UInt8) : Nat := leValue ((bytes.drop 4).take 4)

def stop (bytes : List UInt8) : Nat := 8 + stated bytes + stated bytes % 2

end Chunk

theorem leValue_lt (bytes : List UInt8) : leValue bytes < 256 ^ bytes.length := by
  induction bytes with
  | nil => decide
  | cons b rest ih =>
    have := b.toNat_lt
    simp only [leValue, List.foldr_cons, List.length_cons, Nat.pow_succ] at *
    omega

theorem leValue_littleEndian (count value : Nat) : leValue (littleEndian count value) = value % 256 ^ count := by
  induction count generalizing value with
  | zero => simp [leValue, littleEndian, Nat.mod_one]
  | succ count ih =>
    have := ih (value / 256)
    simp only [leValue, littleEndian, List.foldr_cons] at *
    rw [this, Nat.pow_succ, Nat.mul_comm (256 ^ count) 256, Nat.mod_mul]
    simp

theorem littleEndian_leValue (bytes : List UInt8) : littleEndian bytes.length (leValue bytes) = bytes := by
  induction bytes with
  | nil => rfl
  | cons b rest ih =>
    have low : (leValue (b :: rest)) / 256 = leValue rest := by
      have := b.toNat_lt
      simp only [leValue, List.foldr_cons]
      omega
    have same : UInt8.ofNat (leValue (b :: rest)) = b := by
      apply UInt8.toNat_inj.mp
      have := b.toNat_lt
      simp only [leValue, List.foldr_cons, UInt8.toNat_ofNat']
      omega
    rw [List.length_cons, littleEndian, low, ih, same]

theorem stated_lt (bytes : List UInt8) : Chunk.stated bytes < 2 ^ 32 := by
  have value := leValue_lt ((bytes.drop 4).take 4)
  have few : ((bytes.drop 4).take 4).length ≤ 4 := List.length_take_le 4 _
  have := Nat.pow_le_pow_right (by omega : 0 < 256) few
  rw [Chunk.stated]
  omega

def split (bytes : List UInt8) : Option (Chunk × List UInt8) :=
  if fits : 8 ≤ bytes.length ∧ Chunk.stop bytes ≤ bytes.length then
    some
      ({ tag := bytes.take 4
         payload := (bytes.drop 8).take (Chunk.stated bytes)
         pad := (bytes.drop (8 + Chunk.stated bytes)).take (Chunk.stated bytes % 2)
         tagged := by simp; omega
         sized := by
          have := stated_lt bytes
          simp only [List.length_take]
          omega
         padded := by
          simp only [Chunk.stop] at fits
          simp only [List.length_take, List.length_drop]
          omega },
        bytes.drop (Chunk.stop bytes))
  else none

def chunks (bytes : List UInt8) : Option (List Chunk) := Records.readAll split (bytes.length + 1) bytes

section

variable {c : Chunk} {rest bytes : List UInt8}

namespace Chunk

theorem bytes_length (c : Chunk) : c.bytes.length = 8 + c.payload.length + c.payload.length % 2 := by
  simp [Chunk.bytes, c.tagged, c.padded, Codes.littleEndian_length]
  omega

theorem stated_bytes (c : Chunk) (rest : List UInt8) : stated (c.bytes ++ rest) = c.payload.length := by
  have size : ((c.bytes ++ rest).drop 4).take 4 = littleEndian 4 c.payload.length := by
    rw [Chunk.bytes]
    simp only [List.append_assoc]
    rw [List.drop_left' c.tagged, List.take_left' (Codes.littleEndian_length 4 _)]
  have := c.sized
  rw [stated, size, leValue_littleEndian, Nat.mod_eq_of_lt (by omega)]

theorem stop_bytes (c : Chunk) (rest : List UInt8) : stop (c.bytes ++ rest) = c.bytes.length := by
  rw [stop, stated_bytes, bytes_length]

theorem same {c d : Chunk} (tag : c.tag = d.tag) (payload : c.payload = d.payload) (pad : c.pad = d.pad) : c = d := by
  obtain ⟨⟩ := c
  obtain ⟨⟩ := d
  simp only at tag payload pad
  subst tag payload pad
  rfl

end Chunk

theorem split_bytes (c : Chunk) (rest : List UInt8) : split (c.bytes ++ rest) = some (c, rest) := by
  have total : (c.bytes ++ rest).length = c.bytes.length + rest.length := List.length_append
  have long := c.bytes_length
  rw [split, dif_pos ⟨by omega, by rw [Chunk.stop_bytes]; omega⟩]
  have header : (c.tag ++ littleEndian 4 c.payload.length).length = 8 := by
    simp [c.tagged, Codes.littleEndian_length]
  have body : (c.tag ++ littleEndian 4 c.payload.length ++ c.payload).length = 8 + c.payload.length := by
    rw [List.length_append, header]
  congr 2
  · apply Chunk.same
    · simp only [Chunk.bytes, List.append_assoc]
      exact List.take_left' c.tagged
    · dsimp only
      rw [Chunk.stated_bytes]
      simp only [Chunk.bytes, List.append_assoc]
      rw [← List.append_assoc c.tag, List.drop_left' header, List.take_left' rfl]
    · dsimp only
      rw [Chunk.stated_bytes, ← c.padded, Chunk.bytes, List.append_assoc, List.drop_left' body, List.take_left' rfl]
  · rw [Chunk.stop_bytes, List.drop_left' rfl]

theorem splits : Records.Splits Chunk.bytes split where
  exact bytes c rest := by
    constructor
    · intro found
      rw [split] at found
      split at found
      next fits =>
        cases found
        have inside := fits.2
        rw [Chunk.stop] at inside
        have size : ((bytes.drop 8).take (Chunk.stated bytes)).length = Chunk.stated bytes := by
          simp only [List.length_take, List.length_drop]
          omega
        have header : littleEndian 4 (Chunk.stated bytes) = (bytes.drop 4).take 4 := by
          have four : ((bytes.drop 4).take 4).length = 4 := by
            simp only [List.length_take, List.length_drop]
            omega
          have read := littleEndian_leValue ((bytes.drop 4).take 4)
          rwa [four] at read
        simp only [Chunk.bytes, size, header, List.append_assoc]
        have tail : (bytes.drop (8 + Chunk.stated bytes)).take (Chunk.stated bytes % 2) ++
            bytes.drop (Chunk.stop bytes) = bytes.drop (8 + Chunk.stated bytes) := by
          have := List.take_append_drop (Chunk.stated bytes % 2) (bytes.drop (8 + Chunk.stated bytes))
          rwa [List.drop_drop] at this
        have middle : (bytes.drop 8).take (Chunk.stated bytes) ++ bytes.drop (8 + Chunk.stated bytes) =
            bytes.drop 8 := by
          have := List.take_append_drop (Chunk.stated bytes) (bytes.drop 8)
          rwa [List.drop_drop] at this
        have front : (bytes.drop 4).take 4 ++ bytes.drop 8 = bytes.drop 4 := by
          have := List.take_append_drop 4 (bytes.drop 4)
          rwa [List.drop_drop] at this
        rw [tail, middle, front, List.take_append_drop]
      next => cases found
    · rintro rfl
      exact split_bytes c rest
  nonempty c := by
    intro empty
    have := c.bytes_length
    rw [empty, List.length_nil] at this
    omega

-- What the chunks are, is what the bytes say.
theorem chunks_iff {cs : List Chunk} : chunks bytes = some cs ↔ bytes = cs.flatMap Chunk.bytes :=
  splits.readAll_iff (Nat.lt_succ_self _)

theorem chunks_cons (c : Chunk) (rest : List UInt8) : chunks (c.bytes ++ rest) = (chunks rest).map (c :: ·) := by
  apply Option.ext
  intro cs
  rw [chunks_iff, Option.map_eq_some_iff]
  constructor
  · intro whole
    cases cs with
    | nil => exact absurd (List.append_eq_nil_iff.mp whole).1 (splits.nonempty c)
    | cons first tail =>
      have same := (splits.exact _ first _).mpr whole
      rw [split_bytes] at same
      cases same
      exact ⟨tail, chunks_iff.mpr rfl, rfl⟩
  · rintro ⟨tail, read, rfl⟩
    rw [List.flatMap_cons, ← chunks_iff.mp read]

theorem chunks_stuck (more : bytes ≠ []) (stuck : split bytes = none) : chunks bytes = none := by
  rw [Option.eq_none_iff_forall_not_mem]
  intro cs read
  cases cs with
  | nil => exact more (chunks_iff.mp read)
  | cons c cs =>
    rw [(splits.exact bytes c _).mpr (chunks_iff.mp read)] at stuck
    cases stuck

theorem chunks_flatMap (cs : List Chunk) : chunks (cs.flatMap Chunk.bytes) = some cs := chunks_iff.mpr rfl

end

def riffTag : List UInt8 := [0x52, 0x49, 0x46, 0x46]

-- The size in front counts everything after it.
def file (form : List UInt8) (cs : List Chunk) : List UInt8 :=
  riffTag ++ littleEndian 4 (form ++ cs.flatMap Chunk.bytes).length ++ (form ++ cs.flatMap Chunk.bytes)

def readFile (form : List UInt8) (bytes : List UInt8) : Option (List Chunk) :=
  if bytes.take 4 = riffTag ∧ leValue ((bytes.drop 4).take 4) + 8 = bytes.length ∧
      (bytes.drop 8).take form.length = form then
    chunks (bytes.drop (8 + form.length))
  else none

section

variable {form bytes : List UInt8} {cs : List Chunk}

theorem file_parts (form : List UInt8) (cs : List Chunk) :
    (file form cs).take 4 = riffTag ∧
      ((file form cs).drop 4).take 4 = littleEndian 4 (form ++ cs.flatMap Chunk.bytes).length ∧
      (file form cs).drop 8 = form ++ cs.flatMap Chunk.bytes := by
  have four : riffTag.length = 4 := rfl
  have size (n : Nat) := Codes.littleEndian_length 4 n
  rw [file]
  refine ⟨?_, ?_, ?_⟩
  · rw [List.append_assoc, List.take_left' four]
  · rw [List.append_assoc, List.drop_left' four, List.take_left' (size _)]
  · rw [List.drop_left' (by rw [List.length_append, four, size])]

theorem file_length (form : List UInt8) (cs : List Chunk) :
    (file form cs).length = 8 + (form ++ cs.flatMap Chunk.bytes).length := by
  simp only [file, List.length_append, Codes.littleEndian_length, riffTag, List.length_cons, List.length_nil]

/-- The chunks of a file are those that it was written from, if its size can be written. -/
theorem readFile_iff :
    readFile form bytes = some cs ↔ bytes = file form cs ∧ (form ++ cs.flatMap Chunk.bytes).length < 2 ^ 32 := by
  constructor
  · intro read
    rw [readFile] at read
    split at read
    next holds =>
      obtain ⟨tag, size, own⟩ := holds
      have body := chunks_iff.mp read
      have rest : bytes.drop 8 = form ++ cs.flatMap Chunk.bytes := by
        have := List.take_append_drop form.length (bytes.drop 8)
        rw [own, List.drop_drop, body] at this
        exact this.symm
      have long : bytes.length = 8 + (form ++ cs.flatMap Chunk.bytes).length := by
        rw [← rest, List.length_drop]
        omega
      have four : ((bytes.drop 4).take 4).length = 4 := by
        simp only [List.length_take, List.length_drop]
        omega
      have value := leValue_lt ((bytes.drop 4).take 4)
      have written := littleEndian_leValue ((bytes.drop 4).take 4)
      rw [four] at value written
      refine ⟨?_, by omega⟩
      have middle : (bytes.drop 4).take 4 ++ bytes.drop 8 = bytes.drop 4 := by
        have := List.take_append_drop 4 (bytes.drop 4)
        rwa [List.drop_drop] at this
      have whole := List.take_append_drop 4 bytes
      rw [tag, ← middle, rest, ← written] at whole
      rw [file, ← whole, List.append_assoc]
      congr 2
      congr 1
      omega
    next => cases read
  · rintro ⟨rfl, small⟩
    obtain ⟨tag, size, rest⟩ := file_parts form cs
    rw [readFile, if_pos ?_, ← List.drop_drop, rest, List.drop_left' rfl]
    · exact chunks_flatMap cs
    · refine ⟨tag, ?_, by rw [rest, List.take_left' rfl]⟩
      rw [size, leValue_littleEndian, Nat.mod_eq_of_lt (by omega), file_length]
      omega

end

end Riff
