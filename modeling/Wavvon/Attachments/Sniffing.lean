import Wavvon.Voice.Join
import Wavvon.Roles.Handlers
import Wavvon.Identity.Wire

set_option autoImplicit false

namespace Wavvon.Attachments

open Wire (Bytes)

/-- What the bytes are, coarser than a mime type: it is what an extension is allowed to disagree with. -/
inductive Family where
  | raster
  | svg
  | pdf
  | mp4
  | zip
  | pe
  | text
  | other
  deriving DecidableEq, Repr

structure Sniffed where
  mime : String
  family : Family
  deriving DecidableEq, Repr

def ascii (text : String) : Bytes := text.toList.map fun c => UInt8.ofNat c.toNat

def isContinuation (b : UInt8) : Bool := decide (0x80 ≤ b ∧ b ≤ 0xBF)

-- The second bytes that a lead byte of three or of four allows.
def secondOfThree (lead b : UInt8) : Bool :=
  if lead = 0xE0 then decide (0xA0 ≤ b ∧ b ≤ 0xBF)
  else if lead = 0xED then decide (0x80 ≤ b ∧ b ≤ 0x9F)
  else isContinuation b

def secondOfFour (lead b : UInt8) : Bool :=
  if lead = 0xF0 then decide (0x90 ≤ b ∧ b ≤ 0xBF)
  else if lead = 0xF4 then decide (0x80 ≤ b ∧ b ≤ 0x8F)
  else isContinuation b

def charOf (lead : Nat) (rest : List UInt8) : Char :=
  Char.ofNat (rest.foldl (fun value b => value * 64 + b.toNat % 64) lead)

-- `str::from_utf8`; the error says whether the bytes only break off inside a character.
def fromUtf8 : Bytes → Except Bool (List Char)
  | [] => .ok []
  | a :: rest =>
    if a < 0x80 then (fromUtf8 rest).map (Char.ofNat a.toNat :: ·)
    else if 0xC2 ≤ a ∧ a ≤ 0xDF then
      match rest with
      | [] => .error true
      | b :: rest =>
        if isContinuation b then (fromUtf8 rest).map (charOf (a.toNat % 32) [b] :: ·) else .error false
    else if 0xE0 ≤ a ∧ a ≤ 0xEF then
      match rest with
      | [] => .error true
      | [b] => .error (secondOfThree a b)
      | b :: c :: rest =>
        if secondOfThree a b ∧ isContinuation c then (fromUtf8 rest).map (charOf (a.toNat % 16) [b, c] :: ·)
        else .error false
    else if 0xF0 ≤ a ∧ a ≤ 0xF4 then
      match rest with
      | [] => .error true
      | [b] => .error (secondOfFour a b)
      | [b, c] => .error (secondOfFour a b && isContinuation c)
      | b :: c :: d :: rest =>
        if secondOfFour a b ∧ isContinuation c ∧ isContinuation d then
          (fromUtf8 rest).map (charOf (a.toNat % 8) [b, c, d] :: ·)
        else .error false
    else .error false

def textLike (head : Bytes) (text : List Char) : Option Sniffed :=
  let t := (text.dropWhile (· = '\ufeff')).dropWhile isWhitespace
  if "<svg".toList.isPrefixOf t ∨ "<?xml".toList.isPrefixOf t ∧ "<svg".toList <:+: text then
    some ⟨"image/svg+xml", .svg⟩
  else if 0 ∉ head then some ⟨"text/plain", .text⟩
  else none

-- What is left when no signature matches: text by its first bytes, a cut inside a character allowed.
def sniffText (b : Bytes) : Sniffed :=
  let head := b.take 8192
  let found := match fromUtf8 head with
    | .ok text => textLike head text
    | .error cut =>
      if head.length = 8192 ∧ cut ∧ 0 ∉ head then some ⟨"text/plain", .text⟩ else none
  found.getD ⟨"application/octet-stream", .other⟩

-- The brand decides: HEIC and AVIF are files here, not video.
def sniffBrand (brand : Bytes) : Sniffed :=
  if brand ∈ ["heic", "heix", "mif1", "msf1"].map ascii then ⟨"image/heic", .other⟩
  else if brand ∈ ["avif", "avis"].map ascii then ⟨"image/avif", .other⟩
  else ⟨"video/mp4", .mp4⟩

def sniffMagic (b : Bytes) : Sniffed :=
  let starts (magic : Bytes) : Bool := magic.isPrefixOf b
  if starts (ascii "%PDF-") then ⟨"application/pdf", .pdf⟩
  else if starts (ascii "MZ") then ⟨"application/vnd.microsoft.portable-executable", .pe⟩
  else if starts (0x7F :: ascii "ELF") then ⟨"application/x-elf", .other⟩
  else if starts [0xCF, 0xFA, 0xED, 0xFE] ∨ starts [0xCE, 0xFA, 0xED, 0xFE] then
    ⟨"application/x-mach-binary", .other⟩
  else if starts (ascii "PK" ++ [3, 4]) ∨ starts (ascii "PK" ++ [5, 6]) then ⟨"application/zip", .zip⟩
  else if starts [0x1F, 0x8B] then ⟨"application/gzip", .other⟩
  else if starts (ascii "7z" ++ [0xBC, 0xAF, 0x27, 0x1C]) then ⟨"application/x-7z-compressed", .other⟩
  else if starts (ascii "Rar!" ++ [0x1A, 0x07]) then ⟨"application/vnd.rar", .other⟩
  else if starts (ascii "OggS") then ⟨"audio/ogg", .other⟩
  else if starts [0x1A, 0x45, 0xDF, 0xA3] then ⟨"video/webm", .other⟩
  else if starts (ascii "ID3") then ⟨"audio/mpeg", .other⟩
  else if 12 ≤ b.length ∧ (b.drop 4).take 4 = ascii "ftyp" then sniffBrand ((b.drop 8).take 4)
  else sniffText b

-- The declared type never decides; the first bytes do.
def sniff (b : Bytes) : Sniffed :=
  let starts (magic : Bytes) : Bool := magic.isPrefixOf b
  if starts ([0x89] ++ ascii "PNG" ++ [0x0D, 0x0A, 0x1A, 0x0A]) then ⟨"image/png", .raster⟩
  else if starts [0xFF, 0xD8, 0xFF] then ⟨"image/jpeg", .raster⟩
  else if starts (ascii "GIF87a") ∨ starts (ascii "GIF89a") then ⟨"image/gif", .raster⟩
  else if 12 ≤ b.length ∧ b.take 4 = ascii "RIFF" ∧ (b.drop 8).take 4 = ascii "WEBP" then ⟨"image/webp", .raster⟩
  else if 12 ≤ b.length ∧ b.take 4 = ascii "RIFF" ∧ (b.drop 8).take 4 = ascii "WAVE" then ⟨"audio/wav", .other⟩
  else sniffMagic b

theorem sniff_webp {b : Bytes} (riff : b.take 4 = ascii "RIFF") (webp : (b.drop 8).take 4 = ascii "WEBP") :
    sniff b = ⟨"image/webp", .raster⟩ := by
  have enough : 12 ≤ b.length := by
    have length := congrArg List.length webp
    simp [ascii] at length
    omega
  obtain ⟨tail, rfl⟩ : ∃ tail, b = 0x52 :: tail := by
    cases b with
    | nil => simp [ascii] at riff
    | cons a tail =>
      simp only [ascii, List.take_succ_cons] at riff
      exact ⟨tail, by rw [(List.cons.inj riff).1]; rfl⟩
  have container : 12 ≤ ((0x52 : UInt8) :: tail).length ∧ ((0x52 : UInt8) :: tail).take 4 = ascii "RIFF" ∧
      (((0x52 : UInt8) :: tail).drop 8).take 4 = ascii "WEBP" := ⟨enough, riff, webp⟩
  unfold sniff
  rw [if_neg (by simp), if_neg (by simp), if_neg (by simp [ascii]), if_pos container]

def toAsciiLower (c : Char) : Char := if 'A' ≤ c ∧ c ≤ 'Z' then Char.ofNat (c.toNat + 32) else c

-- What follows the last dot, when there is one.
def extension (name : String) : Option String :=
  let reversed := name.toList.reverse
  if '.' ∈ reversed then some (String.ofList (reversed.takeWhile (· ≠ '.')).reverse) else none

def extensionFamily (name : String) : Option Family :=
  (extension name).bind fun ext =>
    let ext := String.ofList (ext.toList.map toAsciiLower)
    if ext ∈ ["png", "jpg", "jpeg", "gif", "webp"] then some .raster
    else if ext = "svg" then some .svg
    else if ext = "pdf" then some .pdf
    else if ext ∈ ["mp4", "m4v"] then some .mp4
    else if ext ∈ ["zip", "jar", "docx", "xlsx", "pptx", "apk"] then some .zip
    else if ext ∈ ["exe", "dll", "scr"] then some .pe
    else if ext ∈ ["txt", "md", "csv", "json", "log"] then some .text
    else none

-- A raster named as another raster passes: it is re-encoded.
def checkExtension (name : String) (sniffed : Sniffed) : Except HttpError Unit :=
  match extensionFamily name with
  | none => .ok ()
  | some want =>
    if want ≠ sniffed.family then
      .error (415, "'" ++ name ++ "' does not match its contents (" ++ sniffed.mime ++ ")")
    else .ok ()

-- The last path segment without control characters, at most 255 characters.
def cleanName (raw : String) : String :=
  let base := (raw.toList.reverse.takeWhile fun c => c ≠ '/' ∧ c ≠ '\\').reverse
  let n := trim (String.ofList ((base.filter fun c => !Roles.isControl c).take 255))
  if n = "" then "file" else n

end Wavvon.Attachments
