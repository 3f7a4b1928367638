import Wavvon.Attachments.Sniffing
import Wavvon.Shared.Checks

set_option autoImplicit false

namespace Wavvon.Attachments

open Wire (Bytes)
open Codes (littleEndian)

inductive ImageFormat where
  | png
  | jpeg
  | gif
  | webp
  | unsupported
  deriving DecidableEq, Repr

inductive IngestError where
  | tooLarge (message : String)
  | notAnImage (message : String)
  deriving DecidableEq, Repr

def bad (e : String) : IngestError := .notAnImage ("not a valid image: " ++ e)

structure Profile where
  maxDim : Nat
  maxInputDim : Nat
  maxInputPixels : Nat
  jpegStaysJpeg : Bool
  what : String
  deriving DecidableEq, Repr

def ATTACHMENT : Profile where
  maxDim := 4096
  maxInputDim := 8192
  maxInputPixels := 40 * 1024 * 1024
  jpegStaysJpeg := true
  what := "image"

def MAX_FRAMES : Nat := 60
def MAX_ANIM_PIXELS : Nat := 16 * 1024 * 1024
def MIN_FRAME_MS : Nat := 20

structure Canonical where
  bytes : Bytes
  mime : String
  width : UInt32
  height : UInt32
  deriving DecidableEq, Repr

structure Limits where
  maxImageWidth : Nat
  maxImageHeight : Nat
  maxAlloc : Nat
  deriving DecidableEq, Repr

def limits (p : Profile) : Limits := ⟨p.maxInputDim, p.maxInputDim, 512 * 1024 * 1024⟩

structure Frame (Rgba : Type) where
  delayNumer : UInt32
  delayDenom : UInt32
  image : Rgba

/-- What the image library knows of an input before it decodes the pixels. -/
structure Decoder (Rgba : Type) where
  dimensions : UInt32 × UInt32
  setLimits : Limits → Except String Unit
  animated : Except String Bool
  frames : Except String (List (Except String (Frame Rgba)))
  still : Except String Rgba

/-- The image library, and the floating-point step of `fit`. -/
structure ImageCrate (Rgba : Type) where
  guessFormat : Bytes → Except String ImageFormat
  decoder : ImageFormat → Bytes → Except String (Decoder Rgba)
  dimensions : Rgba → UInt32 × UInt32
  hasAlpha : Rgba → Bool
  resize : Rgba → UInt32 → UInt32 → Rgba
  shrink : UInt32 → UInt32 → Nat → UInt32 × UInt32
  encodeJpeg : Rgba → Except String Bytes
  encodeStill : Rgba → Except String Bytes

def readLe (bytes : Bytes) : Nat := bytes.foldr (fun b value => b.toNat + 256 * value) 0

-- Header, payload and padding of the chunk that the bytes start with.
def chunkSize (bytes : Bytes) : Nat := readLe ((bytes.drop 4).take 4)

def chunkEnd (bytes : Bytes) : Nat := 8 + chunkSize bytes + chunkSize bytes % 2

-- Every chunk has a header, so there are fewer chunks than bytes.
def scanVp8l : Nat → Bytes → Except IngestError Bytes
  | 0, _ => .error (bad "encoder produced no VP8L chunk")
  | fuel + 1, rest =>
    if rest.length < 8 then .error (bad "encoder produced no VP8L chunk")
    else if rest.take 4 = ascii "VP8L" then
      if chunkEnd rest ≤ rest.length then .ok (rest.take (chunkEnd rest)) else .error (bad "truncated encoder output")
    else scanVp8l fuel (rest.drop (chunkEnd rest))

def vp8lChunk (webp : Bytes) : Except IngestError Bytes := scanVp8l (webp.length + 1) (webp.drop 12)

def u24 (v : UInt32) : Bytes := (littleEndian 4 v.toNat).take 3

def chunk (tag payload : Bytes) : Bytes :=
  tag ++ littleEndian 4 payload.length ++ payload ++ (if payload.length % 2 = 1 then [0] else [])

def riffOf (body : Bytes) : Bytes := ascii "RIFF" ++ littleEndian 4 body.length ++ body

-- `None` when a chunk header or payload runs past the end.
def stripChunks : Nat → Bytes → Option (Bytes × Bool)
  | 0, _ => none
  | fuel + 1, rest =>
    if rest = [] then some ([], false)
    else if rest.length < 8 ∨ rest.length < chunkEnd rest then none
    else
      let tag := rest.take 4
      let here := rest.take (chunkEnd rest)
      (stripChunks fuel (rest.drop (chunkEnd rest))).map fun later =>
        if tag ∈ ["ICCP", "EXIF", "XMP "].map ascii then (later.1, true)
        else if tag = ascii "VP8X" ∧ 10 ≤ chunkSize rest ∧ here.getD 8 0 &&& 0x2C ≠ 0 then
          (here.set 8 (here.getD 8 0 &&& 0xD3) ++ later.1, true)
        else (here ++ later.1, later.2)

def stripWebpMetadata (webp : Bytes) : Option Bytes :=
  if webp.length < 12 ∨ webp.take 4 ≠ ascii "RIFF" ∨ (webp.drop 8).take 4 ≠ ascii "WEBP" then none
  else
    let stop := readLe ((webp.drop 4).take 4) + 8
    if webp.length < stop ∨ stop < 12 then none
    else
      (stripChunks (webp.length + 1) ((webp.take stop).drop 12)).map fun body =>
        if body.2 ∨ stop ≠ webp.length then riffOf (ascii "WEBP" ++ body.1) else webp.take stop

section

variable {Rgba : Type} (crate : ImageCrate Rgba)

def dimCheck (p : Profile) (d : Decoder Rgba) : Except IngestError Unit :=
  let (w, h) := d.dimensions
  if w = 0 ∨ h = 0 ∨ p.maxInputDim < w.toNat ∨ p.maxInputDim < h.toNat ∨ p.maxInputPixels < w.toNat * h.toNat then
    .error (.tooLarge ("image is " ++ toString w.toNat ++ "x" ++ toString h.toNat ++ "; the limit is " ++
      toString p.maxInputDim ++ "x" ++ toString p.maxInputDim))
  else (d.setLimits (limits p)).mapError bad

def collectFrames : List (Except String (Frame Rgba)) → List (Rgba × Nat) → Nat →
    Except IngestError (List (Rgba × Nat))
  | [], out, _ => if out = [] then .error (.notAnImage "image has no frames") else .ok out.reverse
  | .error e :: _, _, _ => .error (bad e)
  | .ok frame :: rest, out, pixels =>
    let ms := max (frame.delayNumer.toNat / max frame.delayDenom.toNat 1) MIN_FRAME_MS
    let (w, h) := crate.dimensions frame.image
    let pixels := pixels + w.toNat * h.toNat
    if MAX_FRAMES ≤ out.length ∨ MAX_ANIM_PIXELS < pixels then
      .error (.tooLarge ("animation exceeds " ++ toString MAX_FRAMES ++ " frames or " ++
        toString (MAX_ANIM_PIXELS / 1000000) ++ " megapixels in total"))
    else collectFrames rest ((frame.image, ms) :: out) pixels

-- One entry is a still.
def decode (input : Bytes) (format : ImageFormat) (p : Profile) : Except IngestError (List (Rgba × Nat)) := do
  let d ← (crate.decoder format input).mapError bad
  dimCheck p d
  let animated ← match format with
    | .gif => .ok true
    | .jpeg => .ok false
    | _ => d.animated.mapError bad
  if animated then
    let frames ← d.frames.mapError bad
    collectFrames crate frames [] 0
  else
    let image ← d.still.mapError bad
    return [(image, 0)]

def fit (w h : UInt32) (maxDim : Nat) : UInt32 × UInt32 :=
  if w.toNat ≤ maxDim ∧ h.toNat ≤ maxDim then (w, h) else crate.shrink w h maxDim

def encodeFrame (w h : UInt32) (frame : Rgba × Nat) : Except IngestError Bytes := do
  let still ← (crate.encodeStill frame.1).mapError bad
  let vp8l ← vp8lChunk still
  return chunk (ascii "ANMF") (List.replicate 6 0 ++ u24 (w - 1) ++ u24 (h - 1) ++
    u24 (UInt32.ofNat (min frame.2 0xFFFFFF)) ++ [0x02] ++ vp8l)

def encodeAnimation (frames : List (Rgba × Nat)) (w h : UInt32) : Except IngestError Bytes := do
  let hasAlpha := frames.any fun frame => crate.hasAlpha frame.1
  let vp8x := [0x02 ||| (if hasAlpha then 0x10 else 0), 0, 0, 0] ++ u24 (w - 1) ++ u24 (h - 1)
  let encoded ← frames.mapM (encodeFrame crate w h)
  return riffOf (ascii "WEBP" ++ chunk (ascii "VP8X") vp8x ++ chunk (ascii "ANIM") (List.replicate 6 0) ++
    encoded.flatten)

def encode (format : ImageFormat) (p : Profile) (first : Rgba) (rest : List (Rgba × Nat)) (ms : Nat) (nw nh : UInt32) :
    Except IngestError Bytes :=
  if p.jpegStaysJpeg ∧ format = .jpeg then (crate.encodeJpeg first).mapError bad
  else if rest = [] then (crate.encodeStill first).mapError bad
  else encodeAnimation crate ((first, ms) :: rest) nw nh

def canonicalizeFrames (input : Bytes) (maxBytes : Nat) (p : Profile) (format : ImageFormat) (first : Rgba) (ms : Nat)
    (rest : List (Rgba × Nat)) : Except IngestError Canonical := do
  let (w, h) := crate.dimensions first
  -- A WebP in bounds is canonical already: only its metadata goes.
  let kept := if format = .webp ∧ w.toNat ≤ p.maxDim ∧ h.toNat ≤ p.maxDim then stripWebpMetadata input else none
  match kept with
  | some bytes => return { bytes := bytes, mime := "image/webp", width := w, height := h }
  | none =>
    let (nw, nh) := fit crate w h p.maxDim
    let resized (image : Rgba) : Rgba := if (nw, nh) = (w, h) then image else crate.resize image nw nh
    let bytes ← encode crate format p (resized first) (rest.map fun frame => (resized frame.1, frame.2)) ms nw nh
    if maxBytes < bytes.length then
      .error (.tooLarge ("converted " ++ p.what ++ " exceeds the " ++ toString (maxBytes / 1024) ++ " KB limit"))
    else
      return { bytes := bytes, mime := if p.jpegStaysJpeg ∧ format = .jpeg then "image/jpeg" else "image/webp"
               width := nw, height := nh }

def canonicalizeProfile (input : Bytes) (maxBytes : Nat) (p : Profile) : Except IngestError Canonical :=
  if maxBytes < input.length then
    .error (.tooLarge ("file exceeds the " ++ toString (maxBytes / 1024) ++ " KB " ++ p.what ++ " limit"))
  else do
    let format ← (crate.guessFormat input).mapError bad
    if format = .unsupported then .error (.notAnImage (p.what ++ "s must be PNG, JPEG, GIF, WebP or APNG"))
    else
      let frames ← decode crate input format p
      match frames with
      | [] => .error (.notAnImage "decoder crashed")
      | (first, ms) :: rest => canonicalizeFrames crate input maxBytes p format first ms rest

/-- How the decoding task of one upload went. -/
inductive DecodeTask where
  | ran
  | unavailable
  | crashed
  deriving DecidableEq, Repr

def canonicalizeWith (task : DecodeTask) (input : Bytes) (maxBytes : Nat) (p : Profile) :
    Except IngestError Canonical :=
  match task with
  | .ran => canonicalizeProfile crate input maxBytes p
  | .unavailable => .error (.notAnImage "decoder unavailable")
  | .crashed => .error (.notAnImage "decoder crashed")

/-- What the encoders write is recognised as what they encode. -/
structure EncodersSniff : Prop where
  jpeg : ∀ image bytes, crate.encodeJpeg image = .ok bytes → sniff bytes = ⟨"image/jpeg", .raster⟩
  still : ∀ image bytes, crate.encodeStill image = .ok bytes → sniff bytes = ⟨"image/webp", .raster⟩

end

section

variable {Rgba : Type} {crate : ImageCrate Rgba}

theorem mapError_ok {A : Type} {answer : Except String A} {value : A} (ok : answer.mapError bad = .ok value) :
    answer = .ok value := by
  cases answer with
  | error e => cases ok
  | ok found =>
    cases ok
    rfl

theorem sniff_riffOf (body : Bytes) : sniff (riffOf (ascii "WEBP" ++ body)) = ⟨"image/webp", .raster⟩ := by
  have riff : (ascii "RIFF").length = 4 := by decide
  have webp : (ascii "WEBP").length = 4 := by decide
  have size (n : Nat) := Codes.littleEndian_length 4 n
  apply sniff_webp
  · rw [riffOf, List.append_assoc, List.take_left' riff]
  · rw [riffOf, List.drop_left' (by simp [riff, size]), List.take_left' webp]

theorem sniff_stripped {input bytes : Bytes} (stripped : stripWebpMetadata input = some bytes) :
    sniff bytes = ⟨"image/webp", .raster⟩ := by
  unfold stripWebpMetadata at stripped
  split at stripped
  next => cases stripped
  next container =>
    simp only [not_or, not_not, Nat.not_lt] at container
    dsimp only at stripped
    split at stripped
    next => cases stripped
    next inside =>
      obtain ⟨body, -, rfl⟩ := Option.map_eq_some_iff.mp stripped
      split
      next => exact sniff_riffOf body.1
      next =>
        apply sniff_webp
        · rw [List.take_take, min_eq_left (by omega)]
          exact container.2.1
        · rw [List.drop_take, List.take_take, min_eq_left (by omega)]
          exact container.2.2

theorem sniff_encoded (encoders : EncodersSniff crate) {format : ImageFormat} {p : Profile} {first : Rgba}
    {rest : List (Rgba × Nat)} {ms : Nat} {nw nh : UInt32} {bytes : Bytes}
    (ok : encode crate format p first rest ms nw nh = .ok bytes) :
    sniff bytes = ⟨if p.jpegStaysJpeg ∧ format = .jpeg then "image/jpeg" else "image/webp", .raster⟩ := by
  unfold encode at ok
  split at ok
  next photo => rw [if_pos photo, encoders.jpeg _ _ (mapError_ok ok)]
  next other =>
    rw [if_neg other]
    split at ok
    next => exact encoders.still _ _ (mapError_ok ok)
    next =>
      obtain ⟨encoded, -, rest⟩ := Checks.bind_ok ok
      cases rest
      simp only [List.append_assoc]
      exact sniff_riffOf _

-- A canonical image is a WebP or a JPEG by its bytes, and its mime type says which.
theorem canonical_sniffs (encoders : EncodersSniff crate) {input : Bytes} {maxBytes : Nat} {p : Profile}
    {c : Canonical} (ok : canonicalizeProfile crate input maxBytes p = .ok c) :
    sniff c.bytes = ⟨c.mime, .raster⟩ ∧ (c.mime = "image/webp" ∨ c.mime = "image/jpeg") := by
  obtain ⟨-, ok⟩ := Checks.refuse_ok ok
  obtain ⟨format, -, ok⟩ := Checks.bind_ok ok
  obtain ⟨-, ok⟩ := Checks.refuse_ok ok
  obtain ⟨frames, -, ok⟩ := Checks.bind_ok ok
  cases frames with
  | nil => cases ok
  | cons frame rest =>
    simp only [canonicalizeFrames] at ok
    split at ok
    next bytes kept =>
      cases ok
      split at kept
      next => exact ⟨sniff_stripped kept, .inl rfl⟩
      next => cases kept
    next =>
      obtain ⟨bytes, encoded, ok⟩ := Checks.bind_ok ok
      obtain ⟨-, ok⟩ := Checks.refuse_ok ok
      cases ok
      refine ⟨sniff_encoded encoders encoded, ?_⟩
      dsimp only
      split
      next => exact .inr rfl
      next => exact .inl rfl

end

end Wavvon.Attachments
