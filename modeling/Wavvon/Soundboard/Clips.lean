import Wavvon.Attachments.Sniffing
import Wavvon.Roles.Handlers
import Wavvon.Shared.Ogg
import Wavvon.Shared.Records

set_option autoImplicit false

namespace Wavvon.Soundboard

open Attachments (ascii)
open Ogg (Page Scrap capture)
open Riff (leValue)
open Slices (slice)
open Wire (Bytes)

def MAX_CLIP_BYTES : Nat := 512 * 1024
def MAX_CLIP_DURATION_MS : Int64 := 10000
def MAX_CLIPS_PER_HUB : Nat := 50

def VOICE_SOUNDBOARD_MANAGE : String := "voice.soundboard.manage"

structure Scan where
  lastGranule : Int64 := 0
  foundOpusHead : Bool := false
  pageCount : Nat := 0
  deriving DecidableEq

def readGranule (word : Bytes) : Except String Int64 :=
  if word.length = 8 then .ok (Int64.ofNat (leValue word)) else .error "Malformed Ogg page header"

def opusHead (payload : Bytes) : Bool := decide (8 ≤ payload.length ∧ payload.take 8 = ascii "OpusHead")

def Scan.page (scan : Scan) (granule : Int64) (head : Bool) : Scan where
  lastGranule := if 0 ≤ granule then granule else scan.lastGranule
  foundOpusHead := scan.foundOpusHead || head
  pageCount := scan.pageCount + 1

/-- The walk over the pages by positions: there is no answer if it reads out of range or goes on for ever. -/
def pageLoop (bytes : Bytes) : Nat → Nat → Scan → Option (Except String Scan)
  | 0, _, _ => none
  | fuel + 1, pos, scan =>
    if pos + 27 ≤ bytes.length then
      (slice bytes pos (pos + 4)).bind fun tag =>
      if tag ≠ ascii "OggS" then some (.ok scan)
      else
        (slice bytes (pos + 6) (pos + 14)).bind fun word =>
        match readGranule word with
        | .error e => some (.error e)
        | .ok granule =>
          bytes[pos + 26]?.bind fun numSegments =>
          let segTableStart := pos + 27
          let payloadStart := segTableStart + numSegments.toNat
          if bytes.length < payloadStart then some (.error "Truncated Ogg page")
          else
            (slice bytes segTableStart payloadStart).bind fun segmentTable =>
            let payloadEnd := payloadStart + (segmentTable.map UInt8.toNat).sum
            if bytes.length < payloadEnd then some (.error "Truncated Ogg page payload")
            else
              -- Only the first page is looked into.
              (if scan.pageCount = 0 then (slice bytes payloadStart payloadEnd).map opusHead else some false).bind
                fun head => pageLoop bytes fuel payloadEnd (scan.page granule head)
    else some (.ok scan)

def scanOgg (bytes : Bytes) : Option (Except String Int64) :=
  if bytes.length < 4 ∨ bytes.take 4 ≠ ascii "OggS" then some (.error "Not a valid Ogg container")
  else
    (pageLoop bytes (bytes.length + 1) 0 {}).map fun scanned => scanned.bind fun scan =>
      if !scan.foundOpusHead then .error "Not a valid Opus stream (missing OpusHead)"
      else if scan.pageCount < 2 then .error "Ogg file has no audio pages"
      else .ok scan.lastGranule

-- Samples at 48 kHz, in milliseconds.
def durationMs (lastGranule : Int64) : Int64 := max lastGranule 0 * 1000 / 48000

def validateOggOpus (bytes : Bytes) : Option (Except String Int64) :=
  (scanOgg bytes).map fun scanned => scanned.map durationMs

structure ClipInfo where
  id : String
  name : String
  emoji : Option String
  uploader : String
  sizeBytes : Nat
  durationMs : Int64
  createdAt : Int
  deriving DecidableEq

-- A part of the form as it can be read: under its name, as a text or as bytes.
structure Field where
  name : Option String
  text : Except String String
  bytes : Except String Bytes

structure Form where
  name : Option String := none
  emoji : Option String := none
  audio : Option Bytes := none

def readError {α : Type} (read : Except String α) : Except HttpError α :=
  read.mapError fun e => (400, "Read error: " ++ e)

def Form.add (form : Form) (field : Field) : Except HttpError Form :=
  let fieldName := field.name.getD ""
  if fieldName = "name" then do
    let text ← readError field.text
    return { form with name := some text }
  else if fieldName = "emoji" then do
    let text ← readError field.text
    return if text ≠ "" then { form with emoji := some text } else form
  else if fieldName = "audio" then do
    let data ← readError field.bytes
    if MAX_CLIP_BYTES < data.length then .error (400, "Clip exceeds 512 KB limit")
    return { form with audio := some data }
  else return form

def readForm : List (Except String Field) → Form → Except HttpError Form
  | [], form => .ok form
  | .error e :: _, _ => .error (400, "Multipart error: " ++ e)
  | .ok field :: rest, form => (form.add field).bind (readForm rest)

/-- The clips of a hub, beside its own tables. -/
structure Library where
  db : Db := {}
  clips : Table ClipInfo := ∅

-- What the file system says to the directory and to the file.
structure Disk where
  created : Except String Unit
  written : Except String Unit

def checkInsertClip (lib : Library) (id uploader : String) : Except HttpError Unit :=
  if id ∈ lib.clips then .error (500, "DB error: " ++ duplicateKey "soundboard_clips_pkey")
  else if uploader ∉ lib.db.users then
    .error (500, "DB error: " ++ foreignKeyViolation "soundboard_clips" "soundboard_clips_uploader_fkey")
  else .ok ()

def storeClip (lib : Library) (row : ClipInfo) (disk : Disk) : Except HttpError (Library × ClipInfo) := do
  disk.created.mapError fun e => (500, "FS error: " ++ e)
  disk.written.mapError fun e => (500, "Write error: " ++ e)
  checkInsertClip lib row.id row.uploader
  return ({ lib with clips := lib.clips.insert row.id row }, row)

structure ClipRequest where
  name : String
  emoji : Option String
  bytes : Bytes

def askedClip (form : Form) : Except HttpError ClipRequest :=
  match (form.name.map trim).filter (· ≠ "") with
  | none => .error (400, "Missing 'name' field")
  | some name =>
    match form.audio with
    | none => .error (400, "No 'audio' field in upload")
    | some bytes => .ok { name := name, emoji := form.emoji, bytes := bytes }

def clipRequest (lib : Library) (user : String) (fields : List (Except String Field)) :
    Except HttpError ClipRequest := do
  (userPermissions lib.db user).require VOICE_SOUNDBOARD_MANAGE
  if MAX_CLIPS_PER_HUB ≤ lib.clips.size then
    .error (400, "This hub already has the maximum of 50 soundboard clips")
  let form ← readForm fields {}
  askedClip form

def keepClip (lib : Library) (user : String) (req : ClipRequest) (durationMs : Int64) (id : String) (now : Int)
    (disk : Disk) : Except HttpError (Library × ClipInfo) :=
  if MAX_CLIP_DURATION_MS < durationMs then .error (400, "Clip exceeds 10s duration limit")
  else
    storeClip lib
      { id := id, name := req.name, emoji := req.emoji, uploader := user, sizeBytes := req.bytes.length
        durationMs := durationMs, createdAt := now } disk

def uploadClip (lib : Library) (user : String) (fields : List (Except String Field)) (id : String) (now : Int)
    (disk : Disk) : Option (Except HttpError (Library × ClipInfo)) :=
  match clipRequest lib user fields with
  | .error e => some (.error e)
  | .ok req => (validateOggOpus req.bytes).map fun
    | .error msg => .error (400, msg)
    | .ok durationMs => keepClip lib user req durationMs id now disk

-- What the walk has seen after some pages.
def scanPages (scan : Scan) (pages : List Page) : Scan :=
  pages.foldl (fun scan p => scan.page p.granule (decide (scan.pageCount = 0) && opusHead p.payload)) scan

section

variable {bytes rest : Bytes} {pos fuel : Nat} {scan : Scan} {p : Page}

theorem pageLoop_page (here : bytes.drop pos = p.bytes ++ rest) :
    pageLoop bytes (fuel + 1) pos scan = pageLoop bytes fuel (pos + p.bytes.length)
      (scan.page p.granule (decide (scan.pageCount = 0) && opusHead p.payload)) := by
  have long := p.bytes_length
  have inside : pos + p.bytes.length + rest.length = bytes.length := by
    have := congrArg List.length here
    rw [List.length_drop, List.length_append] at this
    omega
  have sized := p.sized
  have front {a b : Nat} (order : a ≤ b) (within : b ≤ 26) :
      slice bytes (pos + a) (pos + b) = some ((p.header.drop a).take (b - a)) := by
    rw [Slices.slice_drop here order (by omega), Page.bytes, List.append_assoc,
      List.drop_append_of_le_length (by omega), List.take_append_of_le_length (by rw [List.length_drop]; omega)]
  have tag : slice bytes pos (pos + 4) = some (ascii "OggS") := by
    have := front (Nat.zero_le 4) (by omega)
    rw [Nat.add_zero, List.drop_zero, p.captured] at this
    rw [this]
    decide
  have word : slice bytes (pos + 6) (pos + 14) = some ((p.header.drop 6).take 8) :=
    front (by omega) (by omega)
  have granule : readGranule ((p.header.drop 6).take 8) = .ok p.granule :=
    if_pos (by rw [List.length_take, List.length_drop]; omega)
  have count : bytes[pos + 26]? = some (UInt8.ofNat p.table.length) := by
    have : bytes[pos + 26]? = (bytes.drop pos)[26]? := by rw [List.getElem?_drop]
    rw [this, here, Page.bytes, List.append_assoc, List.getElem?_append_right (by omega), sized]
    rfl
  have few : (UInt8.ofNat p.table.length).toNat = p.table.length := by
    have := p.few
    rw [UInt8.toNat_ofNat']
    omega
  have table : slice bytes (pos + 27) (pos + 27 + p.table.length) = some p.table := by
    rw [Nat.add_assoc, Slices.slice_drop here (by omega) (by omega), p.drop_header, Nat.add_sub_cancel_left,
      List.take_left' rfl]
  have payload : slice bytes (pos + 27 + p.table.length) (pos + 27 + p.table.length + p.payload.length) =
      some p.payload := by
    rw [Nat.add_assoc, Nat.add_assoc, Nat.add_assoc, ← Nat.add_assoc 27,
      Slices.slice_drop here (by omega) (by omega), ← List.drop_drop, p.drop_header, List.drop_left' rfl,
      Nat.add_sub_cancel_left, List.take_left' rfl]
  have sum : (p.table.map UInt8.toNat).sum = p.payload.length := p.filled.symm
  have stop : pos + 27 + p.table.length + p.payload.length = pos + p.bytes.length := by omega
  have head : (if scan.pageCount = 0 then
      (slice bytes (pos + 27 + p.table.length) (pos + 27 + p.table.length + p.payload.length)).map opusHead
      else some false) = some (decide (scan.pageCount = 0) && opusHead p.payload) := by
    rw [payload]
    split
    next first => simp [first]
    next later => simp [later]
  rw [pageLoop, if_pos (by omega), tag, Option.bind_some, if_neg (by simp), word, Option.bind_some, granule]
  simp only [count, Option.bind_some, few]
  rw [if_neg (by omega), table, Option.bind_some, sum, if_neg (by omega), head, Option.bind_some, stop]

theorem pageLoop_scrap (scrap : Scrap (bytes.drop pos)) :
    pageLoop bytes (fuel + 1) pos scan = some (.ok scan) := by
  rw [pageLoop]
  split
  next long =>
    cases scrap with
    | inl short =>
      rw [List.length_drop] at short
      omega
    | inr strange =>
      rw [Slices.slice_of_le (by omega) (by omega), Nat.add_sub_cancel_left, Option.bind_some, if_pos]
      have : ascii "OggS" = capture := by decide
      rwa [this]
  next => rfl

theorem pageLoop_cut (starts : ¬ Scrap (bytes.drop pos))
    (cut : (bytes.drop pos).length < Ogg.stop (bytes.drop pos)) :
    ∃ e, pageLoop bytes (fuel + 1) pos scan = some (.error e) := by
  obtain ⟨long, captured⟩ := not_or.mp starts
  rw [List.length_drop, Nat.not_lt] at long
  have tag : slice bytes pos (pos + 4) = some (ascii "OggS") := by
    rw [Slices.slice_of_le (by omega) (by omega), Nat.add_sub_cancel_left, not_not.mp captured]
    decide
  have word : slice bytes (pos + 6) (pos + 14) = some (((bytes.drop pos).drop 6).take 8) :=
    Slices.slice_drop rfl (by omega) (by omega)
  have granule : readGranule (((bytes.drop pos).drop 6).take 8) =
      .ok (Int64.ofNat (leValue (((bytes.drop pos).drop 6).take 8))) :=
    if_pos (by simp only [List.length_take, List.length_drop]; omega)
  have count : bytes[pos + 26]? = some ((bytes.drop pos).getD 26 0) := by
    rw [List.getD_eq_getElem?_getD, List.getElem?_drop, List.getElem?_eq_getElem (by omega), Option.getD_some]
  rw [pageLoop, if_pos (by omega), tag, Option.bind_some, if_neg (by simp), word, Option.bind_some, granule]
  simp only [count, Option.bind_some]
  split
  next => exact ⟨_, rfl⟩
  next =>
    have table : slice bytes (pos + 27) (pos + 27 + ((bytes.drop pos).getD 26 0).toNat) =
        some (Ogg.tableOf (bytes.drop pos)) := by
      rw [Nat.add_assoc, Slices.slice_drop rfl (by omega) (by omega), Nat.add_sub_cancel_left]
      rfl
    rw [table, Option.bind_some, if_pos]
    · exact ⟨_, rfl⟩
    · rw [List.length_drop, Ogg.stop, Ogg.segments, Ogg.tableSum] at cut
      omega

/-- The walk ends in what follows the pages that it has read, and fails only where this is a page cut off. -/
theorem pageLoop_pages (inside : pos ≤ bytes.length) (enough : bytes.length - pos < fuel) :
    ∃ pages left, bytes.drop pos = pages.flatMap Page.bytes ++ left ∧
      (Scrap left ∧ pageLoop bytes fuel pos scan = some (.ok (scanPages scan pages)) ∨
        Ogg.split left = none ∧ ¬ Scrap left ∧ ∃ e, pageLoop bytes fuel pos scan = some (.error e)) := by
  induction fuel generalizing pos scan with
  | zero => cases enough
  | succ fuel ih =>
    by_cases scrap : Scrap (bytes.drop pos)
    · exact ⟨[], _, rfl, .inl ⟨scrap, pageLoop_scrap scrap⟩⟩
    cases found : Ogg.split (bytes.drop pos) with
    | none =>
      have cut := (Ogg.split_none_iff.mp found).resolve_left scrap
      exact ⟨[], _, rfl, .inr ⟨found, scrap, pageLoop_cut scrap cut⟩⟩
    | some step =>
      obtain ⟨p, rest⟩ := step
      have here := (Ogg.splits.exact _ p rest).mp found
      have size : bytes.length - pos = p.bytes.length + rest.length := by
        rw [← List.length_drop, here, List.length_append]
      have long := p.bytes_length
      have next : bytes.drop (pos + p.bytes.length) = rest := by
        rw [← List.drop_drop, here, List.drop_left' rfl]
      obtain ⟨pages, left, whole, result⟩ :=
        ih (by omega : pos + p.bytes.length ≤ bytes.length) (by omega)
      refine ⟨p :: pages, left, ?_, ?_⟩
      · rw [here, List.flatMap_cons, List.append_assoc, ← whole, next]
      · rw [pageLoop_page here]
        exact result

end

-- The last position that is no negative number, and zero if there is none.
def lastGranule (pages : List Page) : Int64 := ((pages.map Page.granule).filter (0 ≤ ·)).getLastD 0

def opened (pages : List Page) : Bool := pages.head?.any fun p => opusHead p.payload

theorem scanPages_append (scan : Scan) (pages : List Page) (p : Page) :
    scanPages scan (pages ++ [p]) = (scanPages scan pages).page p.granule
      (decide ((scanPages scan pages).pageCount = 0) && opusHead p.payload) := by
  rw [scanPages, List.foldl_append]
  rfl

theorem lastGranule_append (pages : List Page) (p : Page) :
    lastGranule (pages ++ [p]) = if 0 ≤ p.granule then p.granule else lastGranule pages := by
  simp only [lastGranule, List.map_append, List.filter_append, List.map_cons, List.map_nil]
  split
  next counted => simp [counted]
  next negative => simp [negative]

theorem scanPages_eq (pages : List Page) :
    scanPages {} pages =
      { lastGranule := lastGranule pages, foundOpusHead := opened pages, pageCount := pages.length } := by
  induction pages using List.reverseRecOn with
  | nil => rfl
  | append_singleton pages p ih =>
    rw [scanPages_append, ih, lastGranule_append]
    simp only [Scan.page, List.length_append, List.length_cons, List.length_nil]
    congr 1
    cases pages with
    | nil => simp [opened]
    | cons first later => simp [opened]

theorem front_capture {pages : List Page} (left : Bytes) (some : pages ≠ []) :
    (pages.flatMap Page.bytes ++ left).take 4 = capture ∧ 27 ≤ (pages.flatMap Page.bytes ++ left).length := by
  cases pages with
  | nil => exact absurd rfl some
  | cons p later =>
    have long := p.bytes_length
    have sized := p.sized
    rw [List.flatMap_cons, List.append_assoc]
    refine ⟨?_, by rw [List.length_append]; omega⟩
    rw [Page.bytes, List.append_assoc, List.take_append_of_le_length (by omega), p.captured]

theorem scanOgg_walked {x : Bytes} {scan : Scan} {g : Int64}
    (walked : pageLoop x (x.length + 1) 0 {} = some (.ok scan)) :
    scanOgg x = some (.ok g) ↔ (4 ≤ x.length ∧ x.take 4 = capture) ∧ scan.foundOpusHead = true ∧
      2 ≤ scan.pageCount ∧ g = scan.lastGranule := by
  have tag : ascii "OggS" = capture := by decide
  rw [scanOgg, walked, tag, Option.map_some]
  split
  next strange =>
    refine iff_of_false nofun fun holds => ?_
    cases strange with
    | inl short => omega
    | inr other => exact other holds.1.2
  next begun =>
    have begins : 4 ≤ x.length ∧ x.take 4 = capture := by
      rw [not_or, Nat.not_lt, not_not] at begun
      exact begun
    simp only [Except.bind, Option.some.injEq]
    cases scan.foundOpusHead with
    | false => simp
    | true =>
      by_cases several : scan.pageCount < 2
      · simp [several]
      · simp [several, begins, eq_comm]
        omega

-- The loop over a whole file.
theorem pageLoop_whole (x : Bytes) :
    ∃ pages left, x.drop 0 = pages.flatMap Page.bytes ++ left ∧
      (Scrap left ∧ pageLoop x (x.length + 1) 0 {} = some (.ok (scanPages {} pages)) ∨
        Ogg.split left = none ∧ ¬ Scrap left ∧ ∃ e, pageLoop x (x.length + 1) 0 {} = some (.error e)) :=
  pageLoop_pages (Nat.zero_le x.length) (by omega)

theorem pageLoop_all {pages : List Page} {left : Bytes} (scrap : Scrap left) :
    pageLoop (pages.flatMap Page.bytes ++ left) ((pages.flatMap Page.bytes ++ left).length + 1) 0 {} =
      some (.ok (scanPages {} pages)) := by
  generalize total : pages.flatMap Page.bytes ++ left = x
  obtain ⟨ps, right, whole, result⟩ := pageLoop_whole x
  rw [List.drop_zero, ← total] at whole
  cases result with
  | inl kept =>
    obtain ⟨rfl, -⟩ := Ogg.pages_unique scrap.split_none kept.1.split_none whole
    exact kept.2
  | inr failed =>
    obtain ⟨-, rfl⟩ := Ogg.pages_unique scrap.split_none failed.1 whole
    exact absurd scrap failed.2.1

/-- What is accepted: two pages or more, the first of them an identification header, and no page after them. -/
theorem scanOgg_iff {x : Bytes} {g : Int64} :
    scanOgg x = some (.ok g) ↔ ∃ pages left, x = pages.flatMap Page.bytes ++ left ∧ Scrap left ∧
      2 ≤ pages.length ∧ opened pages = true ∧ g = lastGranule pages := by
  constructor
  · intro accepted
    obtain ⟨pages, left, whole, result⟩ := pageLoop_whole x
    cases result with
    | inl kept =>
      obtain ⟨scrap, walked⟩ := kept
      obtain ⟨-, head, several, rfl⟩ := (scanOgg_walked walked).mp accepted
      rw [scanPages_eq] at head several
      exact ⟨pages, left, whole, scrap, several, head, by rw [scanPages_eq]⟩
    | inr failed =>
      obtain ⟨-, -, e, stopped⟩ := failed
      rw [scanOgg, stopped] at accepted
      split at accepted <;> cases accepted
  · rintro ⟨pages, left, rfl, scrap, several, head, rfl⟩
    have begins := front_capture left (List.ne_nil_of_length_pos (by omega : 0 < pages.length))
    rw [scanOgg_walked (pageLoop_all scrap), scanPages_eq]
    exact ⟨⟨by omega, begins.1⟩, head, several, rfl⟩

theorem scanOgg_answers (x : Bytes) : ∃ answer, scanOgg x = some answer := by
  obtain ⟨pages, left, -, result⟩ := pageLoop_whole x
  have walked : ∃ answer, pageLoop x (x.length + 1) 0 {} = some answer := by
    cases result with
    | inl kept => exact ⟨_, kept.2⟩
    | inr failed => exact ⟨_, failed.2.2.choose_spec⟩
  obtain ⟨answer, walked⟩ := walked
  rw [scanOgg, walked]
  split
  next => exact ⟨_, rfl⟩
  next => exact ⟨_, rfl⟩

theorem max_eq_self {g : Int64} (counted : 0 ≤ g) : max g 0 = g := by
  change (if g ≤ 0 then 0 else g) = g
  split
  next negative => exact Int64.le_antisymm counted negative
  next => rfl

theorem durationMs_exact {g : Int64} (counted : 0 ≤ g) (fits : g.toInt * 1000 < 2 ^ 63) :
    (durationMs g).toInt = g.toInt / 48 := by
  have natural : 0 ≤ g.toInt := Int64.le_iff_toInt_le.mp counted
  have thousand : (1000 : Int64).toInt = 1000 := by decide
  have rate : (48000 : Int64).toInt = 48000 := by decide
  have product : (g * 1000).toInt = g.toInt * 1000 := by
    rw [Int64.toInt_mul, thousand, Int.bmod_eq_of_le (by omega) (by omega)]
  rw [durationMs, max_eq_self counted, Int64.toInt_div, product, rate, Int.tdiv_eq_ediv_of_nonneg (by omega),
    Int.bmod_eq_of_le (by omega) (by omega)]
  omega

theorem lastGranule_nonneg (pages : List Page) : 0 ≤ lastGranule pages := by
  induction pages using List.reverseRecOn with
  | nil => decide
  | append_singleton pages p ih =>
    rw [lastGranule_append]
    split
    next counted => exact counted
    next => exact ih

-- A concatenation of two pages or more that opens a stream, with its length in whole milliseconds.
def Exact (x : Bytes) (d : Int64) : Prop :=
  ∃ pages, x = pages.flatMap Page.bytes ∧ 2 ≤ pages.length ∧ opened pages = true ∧
    d.toInt = (lastGranule pages).toInt / 48

/-- The validation of one upload keeps within its bounds, accepts exactly the page grammar and reports the length;
what is stored of it is within the limit. -/
structure Validated (x : Bytes) : Prop where
  total : ∃ answer, validateOggOpus x = some answer
  fits : ∀ g, scanOgg x = some (.ok g) → (max g 0).toInt * 1000 < 2 ^ 63
  exact : ∀ d, validateOggOpus x = some (.ok d) ↔ Exact x d
  stored : ∀ lib user fields id now disk after row form, readForm fields {} = .ok form → form.audio = some x →
    uploadClip lib user fields id now disk = some (.ok (after, row)) →
    0 ≤ row.durationMs ∧ row.durationMs ≤ MAX_CLIP_DURATION_MS

-- No bytes are left after the pages of a stream, and its last position is not near the end of its type.
def Sound (x : Bytes) : Prop :=
  ∀ pages left, x = pages.flatMap Page.bytes ++ left → Scrap left → 2 ≤ pages.length → opened pages = true →
    left = [] ∧ (lastGranule pages).toInt * 1000 < 2 ^ 63

theorem validate_ok {x : Bytes} {d : Int64} :
    validateOggOpus x = some (.ok d) ↔ ∃ g, scanOgg x = some (.ok g) ∧ durationMs g = d := by
  rw [validateOggOpus]
  cases scanOgg x with
  | none => simp
  | some answer =>
    cases answer with
    | error e => simp [Except.map]
    | ok g => simp [Except.map]

theorem clipRequest_audio {lib : Library} {user : String} {fields : List (Except String Field)} {form : Form}
    {req : ClipRequest} (read : readForm fields {} = .ok form) (asked : clipRequest lib user fields = .ok req) :
    form.audio = some req.bytes := by
  simp only [clipRequest, read, bind, Except.bind] at asked
  cases allowed : (userPermissions lib.db user).require VOICE_SOUNDBOARD_MANAGE with
  | error e =>
    rw [allowed] at asked
    cases asked
  | ok _ =>
    rw [allowed] at asked
    simp only at asked
    split at asked
    next => cases asked
    next =>
      rw [askedClip] at asked
      split at asked
      next => cases asked
      next =>
        split at asked
        next => cases asked
        next bytes audio =>
          cases asked
          exact audio

theorem storeClip_row {lib after : Library} {row stored : ClipInfo} {disk : Disk}
    (kept : storeClip lib row disk = .ok (after, stored)) : stored = row := by
  simp only [storeClip, bind, Except.bind, pure, Except.pure] at kept
  split at kept
  next => cases kept
  next =>
    split at kept
    next => cases kept
    next =>
      split at kept
      next => cases kept
      next =>
        cases kept
        rfl

-- What is stored has been validated, and compared with the limit.
theorem uploadClip_stored {lib after : Library} {user id : String} {fields : List (Except String Field)} {now : Int}
    {disk : Disk} {row : ClipInfo} {form : Form} {x : Bytes} (read : readForm fields {} = .ok form)
    (audio : form.audio = some x) (stored : uploadClip lib user fields id now disk = some (.ok (after, row))) :
    validateOggOpus x = some (.ok row.durationMs) ∧ row.durationMs ≤ MAX_CLIP_DURATION_MS := by
  rw [uploadClip] at stored
  split at stored
  next => cases stored
  next req asked =>
    have same := clipRequest_audio read asked
    rw [audio] at same
    cases same
    obtain ⟨validated, checked, kept⟩ := Option.map_eq_some_iff.mp stored
    cases validated with
    | error msg => cases kept
    | ok d =>
      simp only [keepClip] at kept
      split at kept
      next => cases kept
      next short =>
        have := storeClip_row kept
        subst this
        exact ⟨checked, Int64.not_lt.mp short⟩

/-- The validation is exact on the uploads that end with their last page and stay clear of the overflow, and on no
other. -/
theorem validated_iff (x : Bytes) : Validated x ↔ Sound x := by
  constructor
  · intro validated pages left whole scrap several head
    have scanned : scanOgg x = some (.ok (lastGranule pages)) :=
      scanOgg_iff.mpr ⟨pages, left, whole, scrap, several, head, rfl⟩
    obtain ⟨ps, same, -, -, -⟩ := (validated.exact _).mp (validate_ok.mpr ⟨_, scanned, rfl⟩)
    have scrapless : Scrap ([] : Bytes) := .inl (by decide)
    have small := validated.fits _ scanned
    rw [max_eq_self (lastGranule_nonneg pages)] at small
    rw [whole, ← List.append_nil (ps.flatMap Page.bytes)] at same
    obtain ⟨-, rfl⟩ := Ogg.pages_unique scrap.split_none scrapless.split_none same
    exact ⟨rfl, small⟩
  · intro sound
    have exact (d : Int64) : validateOggOpus x = some (.ok d) ↔ Exact x d := by
      rw [validate_ok]
      constructor
      · rintro ⟨g, scanned, rfl⟩
        obtain ⟨pages, left, whole, scrap, several, head, rfl⟩ := scanOgg_iff.mp scanned
        obtain ⟨rfl, small⟩ := sound pages left whole scrap several head
        rw [List.append_nil] at whole
        exact ⟨pages, whole, several, head, durationMs_exact (lastGranule_nonneg pages) small⟩
      · rintro ⟨pages, whole, several, head, length⟩
        have scrap : Scrap ([] : Bytes) := .inl (by decide)
        rw [← List.append_nil (pages.flatMap Page.bytes)] at whole
        obtain ⟨-, small⟩ := sound pages [] whole scrap several head
        refine ⟨_, scanOgg_iff.mpr ⟨pages, [], whole, scrap, several, head, rfl⟩, ?_⟩
        rw [← Int64.toInt_inj, durationMs_exact (lastGranule_nonneg pages) small, length]
    refine ⟨?_, ?_, exact, ?_⟩
    · obtain ⟨answer, scanned⟩ := scanOgg_answers x
      exact ⟨_, by rw [validateOggOpus, scanned, Option.map_some]⟩
    · intro g scanned
      obtain ⟨pages, left, whole, scrap, several, head, rfl⟩ := scanOgg_iff.mp scanned
      rw [max_eq_self (lastGranule_nonneg pages)]
      exact (sound pages left whole scrap several head).2
    · intro lib user fields id now disk after row form read audio stored
      obtain ⟨validated, short⟩ := uploadClip_stored read audio stored
      obtain ⟨pages, -, -, -, length⟩ := (exact _).mp validated
      have counted := Int64.le_iff_toInt_le.mp (lastGranule_nonneg pages)
      have zero : (0 : Int64).toInt = 0 := by decide
      refine ⟨Int64.le_iff_toInt_le.mpr ?_, short⟩
      rw [zero] at counted ⊢
      omega

def headPage : Page where
  header := ascii "OggS" ++ List.replicate 22 0
  table := [8]
  payload := ascii "OpusHead"
  captured := by decide
  sized := by decide
  few := by decide
  filled := by decide

-- A page at 2 ^ 61 samples; a thousand times that is a multiple of 2 ^ 64.
def latePage : Page where
  header := ascii "OggS" ++ [0, 0, 0, 0, 0, 0, 0, 0, 0, 0x20] ++ List.replicate 12 0
  table := []
  payload := []
  captured := by decide
  sized := by decide
  few := by decide
  filled := by decide

def lateClip : Bytes := [headPage, latePage].flatMap Page.bytes

def clipWithRest : Bytes := [headPage, headPage].flatMap Page.bytes ++ [0]

-- The one is stored with a length of nothing, the other with a byte that belongs to no page.
theorem clips_unsound :
    (lateClip.length ≤ MAX_CLIP_BYTES ∧ validateOggOpus lateClip = some (.ok 0) ∧ ¬ Validated lateClip) ∧
      clipWithRest.length ≤ MAX_CLIP_BYTES ∧ ¬ Validated clipWithRest := by
  have scrapless : Scrap ([] : Bytes) := .inl (by decide)
  have scrap : Scrap ([0] : Bytes) := .inl (by decide)
  have late : scanOgg lateClip = some (.ok (lastGranule [headPage, latePage])) :=
    scanOgg_iff.mpr ⟨_, [], (List.append_nil _).symm, scrapless, by decide, by decide, rfl⟩
  have trailing : scanOgg clipWithRest = some (.ok (lastGranule [headPage, headPage])) :=
    scanOgg_iff.mpr ⟨_, [0], rfl, scrap, by decide, by decide, rfl⟩
  refine ⟨⟨by decide, validate_ok.mpr ⟨_, late, by decide⟩, ?_⟩, by decide, ?_⟩
  · intro validated
    exact absurd (validated.fits _ late) (by decide)
  · intro validated
    obtain ⟨ps, same, -, -, -⟩ := (validated.exact _).mp (validate_ok.mpr ⟨_, trailing, rfl⟩)
    rw [clipWithRest, ← List.append_nil (ps.flatMap Page.bytes)] at same
    obtain ⟨-, rest⟩ := Ogg.pages_unique scrap.split_none scrapless.split_none same
    cases rest

end Wavvon.Soundboard
