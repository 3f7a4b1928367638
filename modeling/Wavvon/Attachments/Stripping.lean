import Wavvon.Attachments.Images
import Wavvon.Shared.Records
import Wavvon.Shared.Riff

set_option autoImplicit false

namespace Wavvon.Attachments

open Wire (Bytes)
open Slices (slice)

def METADATA : List Bytes := ["ICCP", "EXIF", "XMP "].map ascii

theorem bytes_lawful : LawfulBEq (List UInt8) := inferInstance

instance decidableMetadata (tag : Bytes) : Decidable (tag ∈ METADATA) :=
  @List.instDecidableMemOfLawfulBEq Bytes _ bytes_lawful tag METADATA

/-- The loop by positions, as it is written: there is no answer if it reads out of range or goes on for ever. -/
def stripLoop (webp : Bytes) (stop : Nat) : Nat → Nat → Bytes → Bool → Option (Option (Bytes × Bool))
  | 0, _, _, _ => none
  | fuel + 1, pos, body, dropped =>
    if pos < stop then
      if stop < pos + 8 then some none
      else
        (slice webp pos (pos + 4)).bind fun tag =>
        (slice webp (pos + 4) (pos + 8)).bind fun word =>
        let size := readLe word
        let next := pos + 8 + size + size % 2
        if stop < next then some none
        else if tag ∈ METADATA then stripLoop webp stop fuel next body true
        else
          (slice webp pos next).bind fun chunk =>
          if tag = ascii "VP8X" ∧ 10 ≤ size then
            chunk[8]?.bind fun flags =>
            if flags &&& 0x2C ≠ 0 then stripLoop webp stop fuel next (body ++ chunk.set 8 (flags &&& 0xD3)) true
            else stripLoop webp stop fuel next (body ++ chunk) dropped
          else stripLoop webp stop fuel next (body ++ chunk) dropped
    else some (some (body, dropped))

def stripByPositions (webp : Bytes) : Option (Option Bytes) :=
  if webp.length < 12 then some none
  else
    (slice webp 0 4).bind fun riff => (slice webp 8 12).bind fun form =>
    if riff ≠ ascii "RIFF" ∨ form ≠ ascii "WEBP" then some none
    else
      (slice webp 4 8).bind fun word =>
      let stop := readLe word + 8
      if webp.length < stop ∨ stop < 12 then some none
      else
        (stripLoop webp stop (webp.length + 1) 12 (ascii "WEBP") (stop ≠ webp.length)).bind fun
          | none => some none
          | some (body, dropped) => if dropped then some (some (riffOf body)) else (slice webp 0 stop).map some

-- What is kept of the chunk at the front, and whether that is less than the chunk.
def keptOf (rest : Bytes) : Bytes × Bool :=
  let here := rest.take (chunkEnd rest)
  if rest.take 4 ∈ METADATA then ([], true)
  else if rest.take 4 = ascii "VP8X" ∧ 10 ≤ chunkSize rest ∧ here.getD 8 0 &&& 0x2C ≠ 0 then
    (here.set 8 (here.getD 8 0 &&& 0xD3), true)
  else (here, false)

section

variable {fuel : Nat} {rest : Bytes}

theorem stripChunks_stuck (started : rest ≠ []) (stuck : rest.length < 8 ∨ rest.length < chunkEnd rest) :
    stripChunks (fuel + 1) rest = none := by
  show (if rest = [] then _ else if rest.length < 8 ∨ rest.length < chunkEnd rest then none else _) = _
  rw [if_neg started, if_pos stuck]

theorem stripChunks_chunk (header : 8 ≤ rest.length) (complete : chunkEnd rest ≤ rest.length) :
    stripChunks (fuel + 1) rest = (stripChunks fuel (rest.drop (chunkEnd rest))).map fun later =>
      ((keptOf rest).1 ++ later.1, (keptOf rest).2 || later.2) := by
  have started : rest ≠ [] := by
    rintro rfl
    cases header
  show (if rest = [] then _ else if rest.length < 8 ∨ rest.length < chunkEnd rest then none else _) = _
  rw [if_neg started, if_neg (by omega)]
  dsimp only
  congr 1
  funext later
  rw [keptOf]
  by_cases metadata : rest.take 4 ∈ METADATA
  next =>
    have listed : rest.take 4 ∈ ["ICCP", "EXIF", "XMP "].map ascii := metadata
    rw [if_pos metadata, if_pos listed]
    rfl
  next =>
    have unlisted : rest.take 4 ∉ ["ICCP", "EXIF", "XMP "].map ascii := metadata
    rw [if_neg metadata, if_neg unlisted]
    split
    next => rfl
    next => rfl

end

theorem stripChunks_done (fuel : Nat) : stripChunks (fuel + 1) [] = some ([], false) := rfl

section

variable {webp : Bytes} {stop fuel pos : Nat}

-- The chunk is read from within the file.
theorem stripLoop_chunk (fits : stop ≤ webp.length) (header : pos + 8 ≤ stop)
    (complete : pos + chunkEnd ((webp.take stop).drop pos) ≤ stop) (body : Bytes) (dropped : Bool) :
    stripLoop webp stop (fuel + 1) pos body dropped =
      stripLoop webp stop fuel (pos + chunkEnd ((webp.take stop).drop pos))
        (body ++ (keptOf ((webp.take stop).drop pos)).1) (dropped || (keptOf ((webp.take stop).drop pos)).2) := by
  have tag : slice webp pos (pos + 4) = some (((webp.take stop).drop pos).take 4) := by
    rw [Slices.slice_take (by omega) (by omega) fits, Nat.add_sub_cancel_left]
  have word : slice webp (pos + 4) (pos + 8) = some ((((webp.take stop).drop pos).drop 4).take 4) := by
    rw [Slices.slice_take (by omega) (by omega) fits, List.drop_drop, Nat.add_sub_add_left]
  have here : slice webp pos (pos + chunkEnd ((webp.take stop).drop pos)) =
      some (((webp.take stop).drop pos).take (chunkEnd ((webp.take stop).drop pos))) := by
    rw [Slices.slice_take (by omega) complete fits, Nat.add_sub_cancel_left]
  have long : ((webp.take stop).drop pos).length = stop - pos := by
    rw [List.length_drop, List.length_take, Nat.min_eq_left fits]
  rw [stripLoop, if_pos (by omega), if_neg (by omega), tag, word]
  simp only [Option.bind_some]
  generalize (webp.take stop).drop pos = rest at *
  have size : readLe ((rest.drop 4).take 4) = chunkSize rest := rfl
  have next : pos + 8 + chunkSize rest + chunkSize rest % 2 = pos + chunkEnd rest := by
    rw [chunkEnd]
    omega
  rw [size, next, if_neg (by omega), here, keptOf]
  by_cases metadata : rest.take 4 ∈ METADATA
  next => simp only [if_pos metadata, List.append_nil, Bool.or_true]
  next =>
    rw [if_neg metadata, if_neg metadata, Option.bind_some]
    by_cases extended : rest.take 4 = ascii "VP8X" ∧ 10 ≤ chunkSize rest
    next =>
      have inside : 8 < (rest.take (chunkEnd rest)).length := by
        rw [chunkEnd] at *
        rw [List.length_take]
        omega
      have flags : (rest.take (chunkEnd rest))[8]? = some ((rest.take (chunkEnd rest)).getD 8 0) := by
        rw [List.getD_eq_getElem?_getD, List.getElem?_eq_getElem inside, Option.getD_some]
      rw [if_pos extended, flags, Option.bind_some]
      by_cases set : (rest.take (chunkEnd rest)).getD 8 0 &&& 0x2C ≠ 0
      next => rw [if_pos set, if_pos ⟨extended.1, extended.2, set⟩, Bool.or_true]
      next => rw [if_neg set, if_neg fun held => set held.2.2, Bool.or_false]
    next => rw [if_neg extended, if_neg fun held => extended ⟨held.1, held.2.1⟩, Bool.or_false]

theorem stripLoop_eq (fits : stop ≤ webp.length) (reached : pos ≤ stop) (enough : stop - pos < fuel) (body : Bytes)
    (dropped : Bool) :
    stripLoop webp stop fuel pos body dropped =
      some ((stripChunks fuel ((webp.take stop).drop pos)).map fun later =>
        (body ++ later.1, dropped || later.2)) := by
  induction fuel generalizing pos body dropped with
  | zero => omega
  | succ fuel ih =>
    have long : ((webp.take stop).drop pos).length = stop - pos := by
      rw [List.length_drop, List.length_take, Nat.min_eq_left fits]
    by_cases more : pos < stop
    next =>
      have started : (webp.take stop).drop pos ≠ [] := by
        rw [← List.length_pos_iff, long]
        omega
      by_cases header : stop < pos + 8
      next =>
        rw [stripLoop, if_pos more, if_pos header, stripChunks_stuck started (.inl (by omega))]
        rfl
      next =>
        by_cases complete : pos + chunkEnd ((webp.take stop).drop pos) ≤ stop
        next =>
          have eight : 8 ≤ chunkEnd ((webp.take stop).drop pos) := by
            rw [chunkEnd]
            omega
          rw [stripLoop_chunk fits (by omega) complete, stripChunks_chunk (by omega) (by omega),
            ih complete (by omega), List.drop_drop, Option.map_map]
          simp only [Function.comp_def, List.append_assoc, Bool.or_assoc]
        next =>
          have word : slice webp (pos + 4) (pos + 8) = some ((((webp.take stop).drop pos).drop 4).take 4) := by
            rw [Slices.slice_take (by omega) (by omega) fits, List.drop_drop, Nat.add_sub_add_left]
          have next : pos + 8 + readLe ((((webp.take stop).drop pos).drop 4).take 4) +
              readLe ((((webp.take stop).drop pos).drop 4).take 4) % 2 =
              pos + chunkEnd ((webp.take stop).drop pos) := by
            show pos + 8 + chunkSize _ + chunkSize _ % 2 = _
            rw [chunkEnd]
            omega
          rw [stripLoop, if_pos more, if_neg header, Slices.slice_take (b := pos + 4) (by omega) (by omega) fits, word]
          simp only [Option.bind_some]
          rw [next, if_pos (by omega), stripChunks_stuck started (.inr (by omega))]
          rfl
    next =>
      have done : (webp.take stop).drop pos = [] := by
        rw [← List.length_eq_zero_iff, long]
        omega
      rw [stripLoop, if_neg more, done, stripChunks_done]
      simp

/-- No read is out of range, and the loop ends. -/
theorem stripByPositions_eq (webp : Bytes) : stripByPositions webp = some (stripWebpMetadata webp) := by
  rw [stripByPositions, stripWebpMetadata]
  by_cases short : webp.length < 12
  next => rw [if_pos short, if_pos (.inl short)]
  next =>
    rw [if_neg short, Slices.slice_of_le (by omega) (by omega), Slices.slice_of_le (by omega) (by omega),
      Slices.slice_of_le (by omega) (by omega)]
    simp only [Option.bind_some, List.drop_zero, Nat.sub_zero, Nat.reduceSub, short, false_or]
    by_cases foreign : webp.take 4 ≠ ascii "RIFF" ∨ (webp.drop 8).take 4 ≠ ascii "WEBP"
    next => rw [if_pos foreign, if_pos foreign]
    next =>
      rw [if_neg foreign, if_neg foreign]
      generalize readLe ((webp.drop 4).take 4) + 8 = stop
      by_cases outside : webp.length < stop ∨ stop < 12
      next => rw [if_pos outside, if_pos outside]
      next =>
        rw [if_neg outside, if_neg outside, stripLoop_eq (by omega) (by omega) (by omega), Option.bind_some]
        cases stripChunks (webp.length + 1) ((webp.take stop).drop 12) with
        | none => rfl
        | some body =>
          simp only [Option.map_some]
          rw [Slices.slice_of_le (by omega) (by omega)]
          simp only [Bool.or_eq_true, decide_eq_true_eq, or_comm (a := stop ≠ webp.length)]
          split
          next => rfl
          next => rw [List.drop_zero, Nat.sub_zero, Option.map_some]

end

def webpForm : Bytes := ascii "WEBP"

def isMetadata (c : Riff.Chunk) : Bool := decide (c.tag ∈ METADATA)

-- The ICC, EXIF and XMP bits of the flags of an extended header.
def holdsFlags (c : Riff.Chunk) : Bool :=
  decide (c.tag = ascii "VP8X" ∧ 10 ≤ c.payload.length ∧ c.payload.getD 0 0 &&& 0x2C ≠ 0)

def clearFlags (c : Riff.Chunk) : Riff.Chunk :=
  if holdsFlags c then
    { c with
      payload := c.payload.set 0 (c.payload.getD 0 0 &&& 0xD3)
      sized := by rw [List.length_set]; exact c.sized
      padded := by rw [List.length_set]; exact c.padded }
  else c

def withoutMetadata (cs : List Riff.Chunk) : List Riff.Chunk := (cs.filter fun c => !isMetadata c).map clearFlags

def hasMetadata (cs : List Riff.Chunk) : Bool := cs.any fun c => isMetadata c || holdsFlags c

section

variable {c : Riff.Chunk} {cs : List Riff.Chunk} {rest x y : Bytes}

theorem header_length (c : Riff.Chunk) : (c.tag ++ Codes.littleEndian 4 c.payload.length).length = 8 := by
  rw [List.length_append, c.tagged, Codes.littleEndian_length]

theorem clearFlags_bytes (holds : holdsFlags c = true) :
    (clearFlags c).bytes = c.bytes.set 8 (c.payload.getD 0 0 &&& 0xD3) := by
  have long : c.payload ≠ [] := by
    rw [holdsFlags, decide_eq_true_eq] at holds
    rw [← List.length_pos_iff]
    omega
  have front := header_length c
  rw [clearFlags, if_pos holds]
  simp only [Riff.Chunk.bytes, List.length_set]
  obtain ⟨b, tail, whole⟩ := List.exists_cons_of_ne_nil long
  simp only [whole, List.append_assoc]
  rw [← List.append_assoc c.tag, ← List.append_assoc c.tag,
    List.set_append_right 8 _ (by rw [← whole, front]), ← whole, front]
  simp [whole]

theorem chunkEnd_bytes (c : Riff.Chunk) (rest : Bytes) : chunkEnd (c.bytes ++ rest) = c.bytes.length :=
  c.stop_bytes rest

theorem keptOf_bytes (c : Riff.Chunk) (rest : Bytes) :
    keptOf (c.bytes ++ rest) =
      (if isMetadata c then [] else (clearFlags c).bytes, isMetadata c || holdsFlags c) := by
  have tag : (c.bytes ++ rest).take 4 = c.tag := by
    rw [Riff.Chunk.bytes]
    simp only [List.append_assoc]
    exact List.take_left' c.tagged
  have size : chunkSize (c.bytes ++ rest) = c.payload.length := c.stated_bytes rest
  have flags (long : 10 ≤ c.payload.length) : c.bytes.getD 8 0 = c.payload.getD 0 0 := by
    have front := header_length c
    rw [Riff.Chunk.bytes, List.append_assoc]
    simp only [List.getD_eq_getElem?_getD]
    rw [List.getElem?_append_right (by omega), front, List.getElem?_append_left (by omega)]
  rw [keptOf, chunkEnd_bytes, List.take_left' rfl, tag, size]
  by_cases metadata : c.tag ∈ METADATA
  next =>
    have own : isMetadata c = true := decide_eq_true metadata
    rw [if_pos metadata, own]
    rfl
  next =>
    have other : isMetadata c = false := decide_eq_false metadata
    rw [if_neg metadata, other, if_neg Bool.false_ne_true, Bool.false_or]
    by_cases holds : holdsFlags c = true
    next =>
      rw [clearFlags_bytes holds, holds]
      rw [holdsFlags, decide_eq_true_eq] at holds
      rw [flags holds.2.1, if_pos holds]
    next =>
      have clear : clearFlags c = c := if_neg holds
      rw [clear, eq_false_of_ne_true holds]
      rw [holdsFlags, decide_eq_true_eq] at holds
      rw [if_neg]
      rintro ⟨extended, long, set⟩
      rw [flags long] at set
      exact holds ⟨extended, long, set⟩

theorem stripChunks_eq {fuel : Nat} {bytes : Bytes} (enough : bytes.length < fuel) :
    stripChunks fuel bytes =
      (Riff.chunks bytes).map fun cs => ((withoutMetadata cs).flatMap Riff.Chunk.bytes, hasMetadata cs) := by
  induction fuel generalizing bytes with
  | zero => cases enough
  | succ fuel ih =>
    by_cases more : bytes = []
    next =>
      subst more
      rfl
    next =>
      cases found : Riff.split bytes with
      | none =>
        have stuck : bytes.length < 8 ∨ bytes.length < chunkEnd bytes := by
          rw [Riff.split] at found
          split at found
          next => cases found
          next stuck =>
            show bytes.length < 8 ∨ bytes.length < Riff.Chunk.stop bytes
            omega
        rw [Riff.chunks_stuck more found, stripChunks_stuck more stuck]
        rfl
      | some step =>
        obtain ⟨c, rest⟩ := step
        obtain rfl := (Riff.splits.exact bytes c rest).mp found
        have long := c.bytes_length
        have total : (c.bytes ++ rest).length = c.bytes.length + rest.length := List.length_append
        rw [stripChunks_chunk (by omega) (by rw [chunkEnd_bytes]; omega), chunkEnd_bytes, List.drop_left' rfl,
          keptOf_bytes, ih (by omega), Riff.chunks_cons, Option.map_map, Option.map_map]
        congr 1
        funext cs
        simp only [Function.comp_def, hasMetadata, withoutMetadata, List.any_cons, Bool.or_assoc]
        cases metadata : isMetadata c <;> simp [metadata]

theorem riffOf_file (cs : List Riff.Chunk) :
    riffOf (webpForm ++ cs.flatMap Riff.Chunk.bytes) = Riff.file webpForm cs := by
  have riff : ascii "RIFF" = Riff.riffTag := by decide
  rw [riffOf, riff, Riff.file]

theorem withoutMetadata_clean (clean : hasMetadata cs = false) : withoutMetadata cs = cs := by
  rw [hasMetadata, List.any_eq_false] at clean
  have kept : cs.filter (fun c => !isMetadata c) = cs := by
    rw [List.filter_eq_self]
    intro c listed
    have := clean c listed
    simp_all
  rw [withoutMetadata, kept]
  refine (List.map_congr_left fun c listed => ?_).trans (List.map_id cs)
  have := clean c listed
  exact if_neg fun holds => this (by rw [holds, Bool.or_true])

theorem clearFlags_clean (c : Riff.Chunk) : holdsFlags (clearFlags c) = false := by
  by_cases holds : holdsFlags c = true
  next =>
    rw [clearFlags, if_pos holds, holdsFlags, decide_eq_false_iff_not]
    rintro ⟨-, long, set⟩
    rw [List.length_set] at long
    refine set ?_
    have cleared : (c.payload.set 0 (c.payload.getD 0 0 &&& 0xD3)).getD 0 0 = c.payload.getD 0 0 &&& 0xD3 := by
      rw [List.getD_eq_getElem?_getD, List.getElem?_set_self (by omega), Option.getD_some]
    have apart : (0xD3 : UInt8) &&& 0x2C = 0 := by decide
    rw [cleared, UInt8.and_assoc, apart, UInt8.and_zero]
  next =>
    rw [clearFlags, if_neg holds]
    exact eq_false_of_ne_true holds

theorem clearFlags_tag (c : Riff.Chunk) : (clearFlags c).tag = c.tag := by
  rw [clearFlags]
  split <;> rfl

theorem withoutMetadata_hasNone (cs : List Riff.Chunk) : hasMetadata (withoutMetadata cs) = false := by
  rw [hasMetadata, List.any_eq_false]
  intro c listed
  obtain ⟨d, kept, rfl⟩ := List.mem_map.mp listed
  have other := (List.mem_filter.mp kept).2
  rw [clearFlags_clean, Bool.or_false, isMetadata, clearFlags_tag]
  simpa [isMetadata] using other

-- A file is read up to the end that it states, and written again without its metadata.
theorem strip_iff :
    stripWebpMetadata x = some y ↔
      ∃ cs tail, x = Riff.file webpForm cs ++ tail ∧ (webpForm ++ cs.flatMap Riff.Chunk.bytes).length < 2 ^ 32 ∧
        y = Riff.file webpForm (withoutMetadata cs) := by
  have four : webpForm.length = 4 := by decide
  have riff : ascii "RIFF" = Riff.riffTag := by decide
  constructor
  · intro stripped
    rw [stripWebpMetadata] at stripped
    split at stripped
    next => cases stripped
    next container =>
      simp only [not_or, not_not, Nat.not_lt] at container
      obtain ⟨long, tag, form⟩ := container
      dsimp only at stripped
      generalize stop_eq : readLe ((x.drop 4).take 4) + 8 = stop at stripped
      split at stripped
      next => cases stripped
      next inside =>
        rw [stripChunks_eq (by rw [List.length_drop, List.length_take]; omega)] at stripped
        obtain ⟨body, found, rfl⟩ := Option.map_eq_some_iff.mp stripped
        obtain ⟨cs, read, rfl⟩ := Option.map_eq_some_iff.mp found
        have whole : Riff.readFile webpForm (x.take stop) = some cs := by
          rw [Riff.readFile, if_pos, four]
          · exact read
          · refine ⟨?_, ?_, ?_⟩
            · rw [List.take_take, Nat.min_eq_left (by omega), tag, riff]
            · rw [List.drop_take, List.take_take, Nat.min_eq_left (by omega), List.length_take,
                Nat.min_eq_left (by omega)]
              exact stop_eq
            · rw [List.drop_take, List.take_take, Nat.min_eq_left (by omega), four]
              exact form
        obtain ⟨same, small⟩ := Riff.readFile_iff.mp whole
        refine ⟨cs, x.drop stop, by rw [← same, List.take_append_drop], small, ?_⟩
        dsimp only
        split
        next => exact riffOf_file (withoutMetadata cs)
        next clean =>
          rw [same, withoutMetadata_clean]
          simpa using fun dirty => clean (.inl dirty)
  · rintro ⟨cs, tail, rfl, small, rfl⟩
    obtain ⟨tag, size, rest⟩ := Riff.file_parts webpForm cs
    have long := Riff.file_length webpForm cs
    have body : (webpForm ++ cs.flatMap Riff.Chunk.bytes).length = 4 + (cs.flatMap Riff.Chunk.bytes).length := by
      rw [List.length_append, four]
    have total : (Riff.file webpForm cs ++ tail).length = (Riff.file webpForm cs).length + tail.length :=
      List.length_append
    have stop : readLe (((Riff.file webpForm cs ++ tail).drop 4).take 4) + 8 = (Riff.file webpForm cs).length := by
      rw [List.drop_append_of_le_length (by omega),
        List.take_append_of_le_length (by rw [List.length_drop]; omega), size]
      show Riff.leValue _ + 8 = _
      rw [Riff.leValue_littleEndian, Nat.mod_eq_of_lt (by omega)]
      omega
    have form : ((Riff.file webpForm cs ++ tail).drop 8).take 4 = webpForm := by
      rw [List.drop_append_of_le_length (by omega), rest, List.append_assoc, List.take_left' four]
    have body_eq : (Riff.file webpForm cs).drop 12 = cs.flatMap Riff.Chunk.bytes := by
      rw [← List.drop_drop (i := 4) (j := 8), rest, List.drop_left' four]
    rw [stripWebpMetadata, if_neg]
    · dsimp only
      rw [stop, if_neg (by omega), List.take_left' rfl, body_eq,
        stripChunks_eq (by omega), Riff.chunks_flatMap, Option.map_some, Option.map_some]
      dsimp only
      split
      next => exact congrArg some (riffOf_file (withoutMetadata cs))
      next clean =>
        rw [withoutMetadata_clean]
        simpa using fun dirty => clean (.inl dirty)
    · rw [List.take_append_of_le_length (by omega), tag, form, riff]
      rintro (short | foreign | foreign)
      · omega
      · exact foreign rfl
      · exact foreign rfl

theorem clearFlags_length (c : Riff.Chunk) : (clearFlags c).bytes.length = c.bytes.length := by
  have same : (clearFlags c).payload.length = c.payload.length := by
    rw [clearFlags]
    split
    next => exact List.length_set
    next => rfl
  rw [Riff.Chunk.bytes_length, Riff.Chunk.bytes_length, same]

theorem withoutMetadata_shorter (cs : List Riff.Chunk) :
    ((withoutMetadata cs).flatMap Riff.Chunk.bytes).length ≤ (cs.flatMap Riff.Chunk.bytes).length := by
  induction cs with
  | nil => exact Nat.le_refl 0
  | cons c cs ih =>
    rw [withoutMetadata] at *
    cases metadata : isMetadata c with
    | true =>
      simp only [List.filter_cons, metadata, Bool.not_true, Bool.false_eq_true, if_false, List.flatMap_cons,
        List.length_append]
      omega
    | false =>
      simp only [List.filter_cons, metadata, Bool.not_false, if_true, List.map_cons, List.flatMap_cons,
        List.length_append, clearFlags_length]
      omega

end

/--
Nothing is read out of range; and what comes back is a file of the same chunks without those of metadata and without
their bits in the flags of an extended header, which is left as it is when it is stripped again.
-/
theorem strip_exact (x : Bytes) :
    stripByPositions x = some (stripWebpMetadata x) ∧
      ∀ y, stripWebpMetadata x = some y →
        ∃ cs tail, x = Riff.file webpForm cs ++ tail ∧ Riff.readFile webpForm (Riff.file webpForm cs) = some cs ∧
          Riff.readFile webpForm y = some (withoutMetadata cs) ∧ y.length ≤ x.length ∧
          stripWebpMetadata y = some y ∧ (hasMetadata cs = false → tail = [] → y = x) := by
  refine ⟨stripByPositions_eq x, fun y stripped => ?_⟩
  obtain ⟨cs, tail, rfl, small, rfl⟩ := strip_iff.mp stripped
  have shorter := withoutMetadata_shorter cs
  have smaller : (webpForm ++ (withoutMetadata cs).flatMap Riff.Chunk.bytes).length < 2 ^ 32 := by
    rw [List.length_append] at *
    omega
  have settled : withoutMetadata (withoutMetadata cs) = withoutMetadata cs :=
    withoutMetadata_clean (withoutMetadata_hasNone cs)
  refine ⟨cs, tail, rfl, Riff.readFile_iff.mpr ⟨rfl, small⟩, Riff.readFile_iff.mpr ⟨rfl, smaller⟩, ?_, ?_, ?_⟩
  · rw [List.length_append, Riff.file_length, Riff.file_length, List.length_append, List.length_append]
    omega
  · exact strip_iff.mpr ⟨withoutMetadata cs, [], (List.append_nil _).symm, smaller, by rw [settled]⟩
  · rintro clean rfl
    rw [withoutMetadata_clean clean, List.append_nil]

-- A header of one byte, its bits all set.
def shortHeader : Riff.Chunk where
  tag := ascii "VP8X"
  payload := [0x2C]
  pad := [0]
  tagged := by decide
  sized := by decide
  padded := by decide

-- The bits go from a header of the full size only.
theorem strip_keeps_flags :
    ¬ ∀ x y, stripWebpMetadata x = some y → ∀ cs, Riff.readFile webpForm y = some cs →
      ∀ c ∈ cs, c.tag = ascii "VP8X" → c.payload.getD 0 0 &&& 0x2C = 0 := by
  intro always
  have small : (webpForm ++ [shortHeader].flatMap Riff.Chunk.bytes).length < 2 ^ 32 := by decide
  have stripped : stripWebpMetadata (Riff.file webpForm [shortHeader]) = some (Riff.file webpForm [shortHeader]) :=
    strip_iff.mpr ⟨[shortHeader], [], (List.append_nil _).symm, small, by decide⟩
  have cleared := always _ _ stripped [shortHeader] (Riff.readFile_iff.mpr ⟨rfl, small⟩) shortHeader
    List.mem_cons_self rfl
  exact absurd cleared (by decide)

end Wavvon.Attachments
