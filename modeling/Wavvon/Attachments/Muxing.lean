import Wavvon.Attachments.Stripping

set_option autoImplicit false

namespace Wavvon.Attachments

open Wire (Bytes)

/-- What a reader sees in the extended header. -/
structure Canvas where
  animated : Bool
  alpha : Bool
  metadata : Bool
  width : Nat
  height : Nat
  deriving DecidableEq, Repr

def readCanvas (c : Riff.Chunk) : Option Canvas :=
  if c.tag = ascii "VP8X" ∧ c.payload.length = 10 then
    some
      { animated := decide (c.payload.getD 0 0 &&& 0x02 ≠ 0)
        alpha := decide (c.payload.getD 0 0 &&& 0x10 ≠ 0)
        metadata := decide (c.payload.getD 0 0 &&& 0x2C ≠ 0)
        width := readLe ((c.payload.drop 4).take 3) + 1
        height := readLe ((c.payload.drop 7).take 3) + 1 }
  else none

/-- One frame: where it lies on the canvas, how long it is shown, and its image. -/
structure Shown where
  x : Nat
  y : Nat
  width : Nat
  height : Nat
  duration : Nat
  image : Riff.Chunk
  deriving DecidableEq

-- Offsets are stored halved.
def readFrame (c : Riff.Chunk) : Option Shown :=
  if c.tag = ascii "ANMF" ∧ 16 ≤ c.payload.length then
    match Riff.chunks (c.payload.drop 16) with
    | some [image] =>
      some
        { x := 2 * readLe (c.payload.take 3)
          y := 2 * readLe ((c.payload.drop 3).take 3)
          width := readLe ((c.payload.drop 6).take 3) + 1
          height := readLe ((c.payload.drop 9).take 3) + 1
          duration := readLe ((c.payload.drop 12).take 3)
          image := image }
    | _ => none
  else none

section

variable {Rgba : Type} {crate : ImageCrate Rgba}

/-- A still is a file of a size that can be written, with one image in it. -/
structure Still (crate : ImageCrate Rgba) (image : Rgba) (vp8l : Riff.Chunk) : Prop where
  encoded : ∃ cs, crate.encodeStill image = .ok (Riff.file webpForm cs) ∧
    (webpForm ++ cs.flatMap Riff.Chunk.bytes).length < 2 ^ 32 ∧
    (cs.filter fun c => decide (c.tag = ascii "VP8L")) = [vp8l]

theorem Still.tag {image : Rgba} {vp8l : Riff.Chunk} (still : Still crate image vp8l) : vp8l.tag = ascii "VP8L" := by
  obtain ⟨cs, -, -, one⟩ := still.encoded
  have listed : vp8l ∈ cs.filter fun c => decide (c.tag = ascii "VP8L") := by
    rw [one]
    exact List.mem_singleton_self vp8l
  exact of_decide_eq_true (List.mem_filter.mp listed).2

theorem scanVp8l_chunks {cs : List Riff.Chunk} {vp8l : Riff.Chunk} {fuel : Nat}
    (one : (cs.filter fun c => decide (c.tag = ascii "VP8L")) = [vp8l])
    (enough : (cs.flatMap Riff.Chunk.bytes).length < fuel) :
    scanVp8l fuel (cs.flatMap Riff.Chunk.bytes) = .ok vp8l.bytes := by
  induction cs generalizing fuel with
  | nil => cases one
  | cons c cs ih =>
    rw [List.flatMap_cons] at *
    have long := c.bytes_length
    rw [List.length_append] at enough
    cases fuel with
    | zero => cases enough
    | succ fuel =>
      have tag : (c.bytes ++ cs.flatMap Riff.Chunk.bytes).take 4 = c.tag := by
        rw [Riff.Chunk.bytes]
        simp only [List.append_assoc]
        exact List.take_left' c.tagged
      rw [scanVp8l, if_neg (by rw [List.length_append]; omega), tag, chunkEnd_bytes]
      by_cases own : c.tag = ascii "VP8L"
      next =>
        rw [if_pos own, if_pos (by rw [List.length_append]; omega), List.take_left' rfl]
        rw [List.filter_cons, if_pos (decide_eq_true own)] at one
        rw [(List.cons.inj one).1]
      next =>
        rw [if_neg own, List.drop_left' rfl]
        rw [List.filter_cons, if_neg (by rw [decide_eq_true_eq]; exact own)] at one
        exact ih one (by omega)

theorem vp8lChunk_still {image : Rgba} {vp8l : Riff.Chunk} (still : Still crate image vp8l) :
    ∃ bytes, crate.encodeStill image = .ok bytes ∧ vp8lChunk bytes = .ok vp8l.bytes := by
  obtain ⟨cs, encoded, -, one⟩ := still.encoded
  refine ⟨_, encoded, ?_⟩
  have four : webpForm.length = 4 := by decide
  have body : (Riff.file webpForm cs).drop 12 = cs.flatMap Riff.Chunk.bytes := by
    rw [← List.drop_drop (i := 4) (j := 8), (Riff.file_parts webpForm cs).2.2, List.drop_left' four]
  rw [vp8lChunk, body]
  refine scanVp8l_chunks one ?_
  rw [Riff.file_length, List.length_append]
  omega

theorem u24_length (v : UInt32) : (u24 v).length = 3 := by
  rw [u24, List.length_take, Codes.littleEndian_length]
  decide

theorem u24_value (v : UInt32) : readLe (u24 v) = v.toNat % 2 ^ 24 :=
  Riff.leValue_littleEndian 3 v.toNat

-- A side that is written less one is read as it is.
theorem u24_side {side : UInt32} (low : 1 ≤ side.toNat) (high : side.toNat ≤ 2 ^ 24) :
    readLe (u24 (side - 1)) + 1 = side.toNat := by
  have one : (side - 1).toNat = side.toNat - 1 := by
    rw [UInt32.toNat_sub_of_le]
    · rfl
    · exact UInt32.le_iff_toNat_le.mpr low
  rw [u24_value, one, Nat.mod_eq_of_lt (by omega)]
  omega

theorem chunk_bytes {tag payload : Bytes} (tagged : tag.length = 4) (sized : payload.length < 2 ^ 32) :
    ∃ c : Riff.Chunk, c.tag = tag ∧ c.payload = payload ∧ chunk tag payload = c.bytes := by
  refine ⟨{ tag := tag, payload := payload, pad := if payload.length % 2 = 1 then [0] else []
            tagged := tagged, sized := sized, padded := ?_ }, rfl, rfl, rfl⟩
  split
  next odd => exact odd.symm
  next => simp only [List.length_nil]; omega

def anmfPayload (w h : UInt32) (ms : Nat) (vp8l : Bytes) : Bytes :=
  List.replicate 6 0 ++ u24 (w - 1) ++ u24 (h - 1) ++ u24 (UInt32.ofNat (min ms 0xFFFFFF)) ++ [0x02] ++ vp8l

theorem encodeFrame_still {w h : UInt32} {frame : Rgba × Nat} {vp8l : Riff.Chunk} (still : Still crate frame.1 vp8l) :
    encodeFrame crate w h frame = .ok (chunk (ascii "ANMF") (anmfPayload w h frame.2 vp8l.bytes)) := by
  obtain ⟨bytes, encoded, found⟩ := vp8lChunk_still still
  rw [encodeFrame, encoded]
  show (vp8lChunk bytes >>= fun image => pure (chunk (ascii "ANMF") (anmfPayload w h frame.2 image))) = _
  rw [found]
  rfl

/-- What a frame is meant to look like. -/
def shown (w h : UInt32) (ms : Nat) (vp8l : Riff.Chunk) : Shown :=
  { x := 0, y := 0, width := w.toNat, height := h.toNat, duration := min ms (2 ^ 24 - 1), image := vp8l }

theorem readFrame_anmf {w h : UInt32} (width : 1 ≤ w.toNat ∧ w.toNat ≤ 2 ^ 24)
    (height : 1 ≤ h.toNat ∧ h.toNat ≤ 2 ^ 24)
    (ms : Nat) (vp8l : Riff.Chunk) {c : Riff.Chunk} (tag : c.tag = ascii "ANMF")
    (payload : c.payload = anmfPayload w h ms vp8l.bytes) : readFrame c = some (shown w h ms vp8l) := by
  have duration : (UInt32.ofNat (min ms 0xFFFFFF)).toNat = min ms 0xFFFFFF := by
    rw [UInt32.toNat_ofNat']
    exact Nat.mod_eq_of_lt (by omega)
  have three := u24_length
  generalize length : UInt32.ofNat (min ms 0xFFFFFF) = shownFor at *
  have fields : c.payload = List.replicate 6 0 ++
      (u24 (w - 1) ++ (u24 (h - 1) ++ (u24 shownFor ++ ([0x02] ++ vp8l.bytes)))) := by
    rw [payload, anmfPayload, length]
    simp only [List.append_assoc]
  have six : (List.replicate 6 (0 : UInt8)).length = 6 := rfl
  have long : 16 ≤ c.payload.length := by
    rw [fields]
    simp only [List.length_append, three, six, List.length_cons, List.length_nil]
    omega
  have afterSix : c.payload.drop 6 = u24 (w - 1) ++ (u24 (h - 1) ++ (u24 shownFor ++ ([0x02] ++ vp8l.bytes))) := by
    rw [fields, List.drop_left' six]
  have afterNine : c.payload.drop 9 = u24 (h - 1) ++ (u24 shownFor ++ ([0x02] ++ vp8l.bytes)) := by
    rw [← List.drop_drop (i := 3) (j := 6), afterSix, List.drop_left' (three _)]
  have afterTwelve : c.payload.drop 12 = u24 shownFor ++ ([0x02] ++ vp8l.bytes) := by
    rw [← List.drop_drop (i := 3) (j := 9), afterNine, List.drop_left' (three _)]
  have afterSixteen : c.payload.drop 16 = vp8l.bytes := by
    rw [← List.drop_drop (i := 4) (j := 12), afterTwelve, ← List.append_assoc, List.drop_left']
    simp [three]
  have whole : Riff.chunks vp8l.bytes = some [vp8l] := by
    have := Riff.chunks_flatMap [vp8l]
    rwa [List.flatMap_singleton] at this
  have left : readLe (c.payload.take 3) = 0 := by
    rw [fields]
    rfl
  have top : readLe ((c.payload.drop 3).take 3) = 0 := by
    rw [fields]
    rfl
  rw [readFrame, if_pos ⟨tag, long⟩, afterSixteen, whole]
  simp only [left, top, afterSix, afterNine, afterTwelve, List.take_left' (three _)]
  rw [u24_side width.1 width.2, u24_side height.1 height.2, u24_value, duration, Nat.mod_eq_of_lt (by omega)]
  rfl

-- The frames are written one after the other.
theorem mapM_encodeFrame {w h : UInt32} {frames : List (Rgba × Nat)} {vp8l : Rgba → Riff.Chunk}
    (stills : ∀ frame ∈ frames, Still crate frame.1 (vp8l frame.1)) :
    frames.mapM (encodeFrame crate w h) = .ok (frames.map fun frame =>
      chunk (ascii "ANMF") (anmfPayload w h frame.2 (vp8l frame.1).bytes)) := by
  induction frames with
  | nil => rfl
  | cons frame rest ih =>
    rw [List.mapM_cons, encodeFrame_still (stills frame List.mem_cons_self),
      ih fun other listed => stills other (List.mem_cons_of_mem frame listed)]
    rfl

theorem frames_chunks {w h : UInt32} (width : 1 ≤ w.toNat ∧ w.toNat ≤ 2 ^ 24) (height : 1 ≤ h.toNat ∧ h.toNat ≤ 2 ^ 24)
    (vp8l : Rgba → Riff.Chunk) (frames : List (Rgba × Nat))
    (sized : (frames.map fun frame =>
      chunk (ascii "ANMF") (anmfPayload w h frame.2 (vp8l frame.1).bytes)).flatten.length < 2 ^ 32) :
    ∃ anmfs : List Riff.Chunk,
      (frames.map fun frame => chunk (ascii "ANMF") (anmfPayload w h frame.2 (vp8l frame.1).bytes)).flatten =
        anmfs.flatMap Riff.Chunk.bytes ∧
      anmfs.map readFrame = frames.map (fun frame => some (shown w h frame.2 (vp8l frame.1))) ∧
      ∀ c ∈ anmfs, c.tag = ascii "ANMF" := by
  induction frames with
  | nil => exact ⟨[], rfl, rfl, nofun⟩
  | cons frame rest ih =>
    rw [List.map_cons, List.flatten_cons, List.length_append] at sized
    obtain ⟨anmfs, bytes, read, tags⟩ := ih (by omega)
    have fits : (anmfPayload w h frame.2 (vp8l frame.1).bytes).length < 2 ^ 32 := by
      have inside : (anmfPayload w h frame.2 (vp8l frame.1).bytes).length ≤
          (chunk (ascii "ANMF") (anmfPayload w h frame.2 (vp8l frame.1).bytes)).length := by
        simp only [chunk, List.length_append]
        omega
      omega
    obtain ⟨c, tag, payload, written⟩ := chunk_bytes (by decide : (ascii "ANMF").length = 4) fits
    refine ⟨c :: anmfs, ?_, ?_, ?_⟩
    · rw [List.map_cons, List.flatten_cons, bytes, written, List.flatMap_cons]
    · rw [List.map_cons, List.map_cons, read, readFrame_anmf width height frame.2 (vp8l frame.1) tag payload]
    · rw [List.forall_mem_cons]
      exact ⟨tag, tags⟩

theorem readCanvas_vp8x {w h : UInt32} (width : 1 ≤ w.toNat ∧ w.toNat ≤ 2 ^ 24)
    (height : 1 ≤ h.toNat ∧ h.toNat ≤ 2 ^ 24)
    (alpha : Bool) {c : Riff.Chunk} (tag : c.tag = ascii "VP8X")
    (payload : c.payload = [0x02 ||| (if alpha then 0x10 else 0), 0, 0, 0] ++ u24 (w - 1) ++ u24 (h - 1)) :
    readCanvas c =
      some { animated := true, alpha := alpha, metadata := false, width := w.toNat, height := h.toNat } := by
  have three := u24_length
  have ten : c.payload.length = 10 := by
    rw [payload]
    simp only [List.length_append, three, List.length_cons, List.length_nil]
  have afterFour : c.payload.drop 4 = u24 (w - 1) ++ u24 (h - 1) := by
    rw [payload, List.append_assoc]
    rfl
  have afterSeven : c.payload.drop 7 = u24 (h - 1) := by
    rw [← List.drop_drop (i := 3) (j := 4), afterFour, List.drop_left' (three _)]
  have flags : c.payload.getD 0 0 = 0x02 ||| (if alpha then 0x10 else 0) := by
    rw [payload]
    rfl
  have last : (u24 (h - 1)).take 3 = u24 (h - 1) := by
    rw [← three (h - 1), List.take_length]
  rw [readCanvas, if_pos ⟨tag, ten⟩, flags, afterFour, afterSeven, List.take_left' (three _), last,
    u24_side width.1 width.2, u24_side height.1 height.2]
  cases alpha <;> rfl

theorem encodeAnimation_stills {frames : List (Rgba × Nat)} {w h : UInt32} (vp8l : Rgba → Riff.Chunk)
    (stills : ∀ frame ∈ frames, Still crate frame.1 (vp8l frame.1)) :
    encodeAnimation crate frames w h =
      .ok (riffOf (ascii "WEBP" ++
        chunk (ascii "VP8X")
          ([0x02 ||| (if frames.any fun frame => crate.hasAlpha frame.1 then 0x10 else 0), 0, 0, 0] ++
            u24 (w - 1) ++ u24 (h - 1)) ++
        chunk (ascii "ANIM") (List.replicate 6 0) ++
        (frames.map fun frame => chunk (ascii "ANMF") (anmfPayload w h frame.2 (vp8l frame.1).bytes)).flatten)) := by
  rw [encodeAnimation, mapM_encodeFrame stills]
  rfl

theorem plain_chunk {c : Riff.Chunk} (plain : c.tag = ascii "ANIM" ∨ c.tag = ascii "ANMF") :
    (isMetadata c || holdsFlags c) = false := by
  rw [isMetadata, holdsFlags]
  rcases plain with tag | tag <;>
    · rw [tag, Bool.or_eq_false_iff, decide_eq_false_iff_not, decide_eq_false_iff_not]
      exact ⟨by decide, fun holds => absurd holds.1 (by decide)⟩

end

-- An image of an odd size.
def pixel : Riff.Chunk where
  tag := ascii "VP8L"
  payload := [0x2F, 0, 0, 0, 0]
  pad := [0]
  tagged := by decide
  sized := by decide
  padded := by decide

def pixelCrate : ImageCrate Unit where
  guessFormat _ := .ok .gif
  decoder _ _ := .error "none"
  dimensions _ := (1, 1)
  hasAlpha _ := true
  resize image _ _ := image
  shrink w h _ := (w, h)
  encodeJpeg _ := .error "none"
  encodeStill _ := .ok (Riff.file webpForm [pixel])

def blinking : List (Unit × Nat) := [((), 100), ((), 2 ^ 30)]

end Wavvon.Attachments
