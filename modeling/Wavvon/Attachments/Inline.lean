import Wavvon.Attachments.Budget
import Wavvon.Identity.Signatures
import Mathlib.Data.Set.Function

set_option autoImplicit false

namespace Wavvon.Attachments

open Wire (Bytes)

structure Served where
  bytes : Bytes
  mime : String
  name : String
  isInline : Bool
  deriving DecidableEq, Repr

-- The row of an attachment, joined with its blob.
def Store.refRow (s : Store) (id : String) : Option RefRow :=
  (s.attachments.find? (·.id = id)).map fun a =>
    let blob := a.sha256.bind fun sha => s.blobs.find? (·.sha256 = sha)
    { id := a.id, name := a.name, asFile := a.asFile, removedAt := a.removedAt, expiredAt := a.expiredAt
      sha256 := a.sha256, kind := blob.map (·.kind), mime := blob.map (·.mime), sizeBytes := blob.map (·.sizeBytes)
      width := blob.bind (·.width), height := blob.bind (·.height) }

-- The row is read first and the file later, with no lock held: `disk` is the store by then.
def readForServing (rows disk : Store) (id : String) : Except HttpError Served :=
  match rows.refRow id with
  | none => .error (404, "File not found")
  | some row =>
    match row.state with
    | .removed => .error (410, "attachment removed")
    | .expired => .error (410, "attachment expired")
    | .ok =>
      match disk.files[row.sha256.getD ""]? with
      | none => .error (404, "File not found")
      | some bytes =>
        .ok { bytes := bytes, mime := row.intoRef.mime, name := row.intoRef.name
              isInline := decide (row.intoRef.kind = .image) }

def Step.upload : Step → Option (Upload × IngestEnv)
  | .ingest up env _ => some (up, env)
  | _ => none

def uploadsOf (acts : List Step) : List (Upload × IngestEnv) := acts.filterMap Step.upload

section

variable {Rgba : Type} (crate : ImageCrate Rgba) (sha256 : Bytes → Vector UInt8 32)

-- Some upload of the list is stored as this.
def Uploaded (uploads : List (Upload × IngestEnv)) (p : Prepared) : Prop :=
  ∃ u ∈ uploads, prepare crate u.2.task u.1 = .ok p

-- What the uploads have hashed.
def hashed (uploads : List (Upload × IngestEnv)) : Set Bytes :=
  { bytes | ∃ p, Uploaded crate uploads p ∧ p.bytes = bytes }

/-- Where everything in the store comes from. -/
structure Traced (uploads : List (Upload × IngestEnv)) (s : Store) : Prop where
  files : ∀ (sha : String) (bytes : Bytes), s.files[sha]? = some bytes →
    bytes ∈ hashed crate uploads ∧ shaOf sha256 bytes = sha
  mimes : ∀ b ∈ s.blobs, ∃ p, Uploaded crate uploads p ∧ shaOf sha256 p.bytes = b.sha256 ∧ p.mime = b.mime
  images : ∀ b ∈ s.blobs, b.kind = .image →
    ∃ p, Uploaded crate uploads p ∧ shaOf sha256 p.bytes = b.sha256 ∧ p.kind = .image
  rows : ∀ a ∈ s.attachments, ∃ u ∈ uploads, u.2.id = a.id ∧ ∃ p, prepare crate u.2.task u.1 = .ok p ∧
    p.asFile = a.asFile ∧ ∀ sha, a.sha256 = some sha → shaOf sha256 p.bytes = sha

end

section

variable {Rgba : Type} {crate : ImageCrate Rgba} {sha256 : Bytes → Vector UInt8 32}
  {uploads more : List (Upload × IngestEnv)} {s t : Store}

theorem Uploaded.mono {p : Prepared} (uploaded : Uploaded crate uploads p) (within : uploads ⊆ more) :
    Uploaded crate more p := by
  obtain ⟨u, member, prepared⟩ := uploaded
  exact ⟨u, within member, prepared⟩

theorem Traced.mono (traced : Traced crate sha256 uploads s) (within : uploads ⊆ more) :
    Traced crate sha256 more s where
  files := by
    intro sha bytes found
    obtain ⟨⟨p, uploaded, same⟩, digest⟩ := traced.files sha bytes found
    exact ⟨⟨p, uploaded.mono within, same⟩, digest⟩
  mimes := by
    intro b member
    obtain ⟨p, uploaded, held⟩ := traced.mimes b member
    exact ⟨p, uploaded.mono within, held⟩
  images := by
    intro b member image
    obtain ⟨p, uploaded, held⟩ := traced.images b member image
    exact ⟨p, uploaded.mono within, held⟩
  rows := by
    intro a member
    obtain ⟨u, listed, held⟩ := traced.rows a member
    exact ⟨u, within listed, held⟩

-- Rows that only become other rows, blobs and files of which none is new.
theorem Traced.fewer {deletions : Prop} {kept : String → Prop} (traced : Traced crate sha256 uploads s)
    (keeps : Keeps deletions kept s t)
    (files : ∀ (sha : String) (bytes : Bytes), t.files[sha]? = some bytes →
      bytes ∈ hashed crate uploads ∧ shaOf sha256 bytes = sha)
    (blobs : ∀ later ∈ t.blobs, ∃ b ∈ s.blobs, later.facts = b.facts) : Traced crate sha256 uploads t where
  files := files
  mimes := by
    intro later member
    obtain ⟨b, found, same⟩ := blobs later member
    obtain ⟨p, uploaded, digest, mime⟩ := traced.mimes b found
    exact ⟨p, uploaded, digest.trans (congrArg (·.1) same).symm, mime.trans (congrArg (·.2.2.1) same).symm⟩
  images := by
    intro later member image
    obtain ⟨b, found, same⟩ := blobs later member
    obtain ⟨p, uploaded, digest, kind⟩ := traced.images b found ((congrArg (·.2.1) same).symm.trans image)
    exact ⟨p, uploaded, digest.trans (congrArg (·.1) same).symm, kind⟩
  rows := by
    intro later member
    obtain ⟨a, found, becomes⟩ := keeps.rows later member
    obtain ⟨u, listed, sameId, p, prepared, asFile, digest⟩ := traced.rows a found
    refine ⟨u, listed, sameId.trans becomes.id.symm, p, prepared, asFile.trans becomes.asFile.symm, ?_⟩
    intro sha stored
    rcases becomes.sha256 with same | gone
    · exact digest sha (same ▸ stored)
    · rw [gone] at stored
      cases stored

theorem Traced.later {deletions : Prop} (traced : Traced crate sha256 uploads s) (later : Later deletions s t) :
    Traced crate sha256 uploads t :=
  traced.fewer later.toKeeps (fun sha bytes found => traced.files sha bytes (later.files sha bytes found)) later.blobs

theorem Traced.inPlace {deletions : Prop} {p : Prepared} {base : Store} (traced : Traced crate sha256 uploads s)
    (uploaded : Uploaded crate uploads p)
    (inPlace : InPlace deletions (shaOf sha256 p.bytes) p.bytes s base) : Traced crate sha256 uploads base := by
  refine traced.fewer inPlace.keeps ?_ inPlace.blobs
  intro sha bytes found
  rcases inPlace.files sha bytes found with old | ⟨rfl, rfl⟩
  · exact traced.files sha bytes old
  · exact ⟨⟨p, uploaded, rfl⟩, rfl⟩

theorem Traced.insertBlob {p : Prepared} (traced : Traced crate sha256 uploads s) (uploaded : Uploaded crate uploads p)
    (now : Int) : Traced crate sha256 uploads (s.insertBlob (blobOf sha256 p now)) := by
  unfold Store.insertBlob
  split
  next =>
    refine { traced with mimes := ?_, images := ?_ }
    · intro later member
      obtain ⟨b, found, rfl⟩ := List.mem_map.mp member
      split <;> exact traced.mimes b found
    · intro later member image
      obtain ⟨b, found, rfl⟩ := List.mem_map.mp member
      split at image
      next same =>
        rw [if_pos same]
        by_cases new : p.kind = .image
        · exact ⟨p, uploaded, same.symm, new⟩
        · exact traced.images b found (by simpa [Blob.upload, blobOf, new] using image)
      next other =>
        rw [if_neg other]
        exact traced.images b found image
  next =>
    refine { traced with mimes := ?_, images := ?_ }
    · intro later member
      rcases List.mem_cons.mp member with rfl | old
      · exact ⟨p, uploaded, rfl, rfl⟩
      · exact traced.mimes later old
    · intro later member image
      rcases List.mem_cons.mp member with rfl | old
      · exact ⟨p, uploaded, rfl, image⟩
      · exact traced.images later old image

theorem Traced.insertAttachment {up : Upload} {env : IngestEnv} {p : Prepared} (traced : Traced crate sha256 uploads s)
    (listed : (up, env) ∈ uploads) (prepared : prepare crate env.task up = .ok p) :
    Traced crate sha256 uploads (s.insertAttachment (attachmentOf sha256 up env p)).1 := by
  rcases insertAttachment_cases s (attachmentOf sha256 up env p) with same | ⟨-, added⟩
  · rwa [same]
  rw [added]
  refine { traced with rows := ?_ }
  intro a member
  rcases List.mem_cons.mp member with rfl | old
  · exact ⟨(up, env), listed, rfl, p, prepared, rfl, fun sha stored => Option.some.inj stored⟩
  · exact traced.rows a old

theorem Ingested.traced {deletions : Prop} {up : Upload} {env : IngestEnv}
    (ingested : Ingested crate sha256 deletions up env s t) (traced : Traced crate sha256 uploads s)
    (listed : (up, env) ∈ uploads) : Traced crate sha256 uploads t := by
  cases ingested with
  | refused _ => exact traced
  | full _ _ _ _ _ later _ => exact traced.later later
  | stored prepared _ inPlace before between =>
    have uploaded : Uploaded crate uploads _ := ⟨(up, env), listed, prepared⟩
    exact ((((traced.inPlace uploaded inPlace).later before.toLater).insertBlob uploaded env.now).later
      between.toLater).insertAttachment listed prepared

theorem Traced.tombstone (traced : Traced crate sha256 uploads s) (id : String) (now : Int) :
    Traced crate sha256 uploads (s.tombstone id now) := by
  refine { traced with rows := ?_ }
  intro later member
  obtain ⟨a, found, rfl⟩ := List.mem_map.mp member
  obtain ⟨u, listed, sameId, p, prepared, asFile, digest⟩ := traced.rows a found
  split
  next => exact ⟨u, listed, sameId, p, prepared, asFile, nofun⟩
  next => exact ⟨u, listed, sameId, p, prepared, asFile, digest⟩

theorem Traced.step (traced : Traced crate sha256 uploads s) (sound : Sound [] s) (a : Step) :
    Traced crate sha256 (uploads ++ a.upload.toList) (step crate sha256 s a) := by
  have traced : Traced crate sha256 (uploads ++ a.upload.toList) s := traced.mono (List.subset_append_left _ _)
  cases a with
  | ingest up env amid =>
    exact (step_ingested sound up env amid).traced traced (List.mem_append_right _ List.mem_cons_self)
  | remove id now amid =>
    obtain ⟨seen, freed, apart, cleaned⟩ := step_removed crate sha256 sound id now amid
    exact ((traced.later apart.toLater).tombstone id now).later cleaned.later
  | sweep now amid =>
    obtain ⟨aged, freed, apart, cleaned⟩ := step_swept crate sha256 sound now amid
    exact traced.later (apart.toLater.trans cleaned.later)
  | aside transaction => exact traced.later (aside_apart s fun _ => trivial : Apart True s _).toLater
  | createChannel channelId bannerFileId => exact { traced with }
  | setBanner channelId bannerFileId => exact { traced with }
  | setSetting key value => exact { traced with }

theorem run_traced (crate : ImageCrate Rgba) (sha256 : Bytes → Vector UInt8 32) (acts : List Step) :
    Traced crate sha256 (uploadsOf acts) (Runs.run (step crate sha256) {} acts) := by
  induction acts using List.reverseRecOn with
  | nil =>
    refine ⟨?_, ?_, ?_, ?_⟩
    · intro sha bytes found
      simp at found
    all_goals exact fun _ member => absurd member List.not_mem_nil
  | append_singleton front a ih =>
    rw [Runs.run_append, Runs.run_cons, Runs.run_nil]
    have traced := ih.step (run_sound crate sha256 front) a
    cases upload : a.upload <;> simpa [uploadsOf, upload] using traced

-- An upload is stored as it came, or as the image that its bytes were re-encoded to.
theorem prepare_cases {task : DecodeTask} {up : Upload} {p : Prepared} (ok : prepare crate task up = .ok p) :
    (up.EntersAsFile ∧ p.kind = .file ∧ p.mime = (sniff p.bytes).mime ∧
        p.asFile = (up.asFile && decide ((sniff p.bytes).family = .raster)) ∧ p.bytes = up.bytes) ∨
      ¬ up.EntersAsFile ∧ ∃ c, canonicalizeProfile crate up.bytes USIZE_MAX ATTACHMENT = .ok c ∧ p.bytes = c.bytes ∧
        p.mime = c.mime := by
  simp only [prepare] at ok
  obtain ⟨_, -, ok⟩ := Checks.bind_ok ok
  obtain ⟨-, ok⟩ := Checks.refuse_ok ok
  split at ok
  next enters =>
    obtain rfl := Except.ok.inj ok
    exact .inl ⟨enters, rfl, rfl, rfl, rfl⟩
  next image =>
    obtain ⟨c, canonical, ok⟩ := Checks.bind_ok ok
    obtain rfl := Except.ok.inj ok
    refine .inr ⟨image, c, ?_, rfl, rfl⟩
    cases task with
    | ran =>
      simp only [canonicalizeWith] at canonical
      cases decoded : canonicalizeProfile crate up.bytes USIZE_MAX ATTACHMENT with
      | error e =>
        rw [decoded] at canonical
        cases canonical
      | ok found =>
        rw [decoded] at canonical
        cases canonical
        rfl
    | unavailable => cases canonical
    | crashed => cases canonical

theorem prepare_mime (encoders : EncodersSniff crate) {task : DecodeTask} {up : Upload} {p : Prepared}
    (ok : prepare crate task up = .ok p) : p.mime = (sniff p.bytes).mime := by
  rcases prepare_cases ok with ⟨-, -, mime, -⟩ | ⟨-, c, canonical, bytes, mime⟩
  · exact mime
  · rw [mime, bytes, (canonical_sniffs encoders canonical).1]

theorem shaOf_injOn (injective : Set.InjOn sha256 (hashed crate uploads)) {p q : Prepared}
    (first : Uploaded crate uploads p) (second : Uploaded crate uploads q)
    (same : shaOf sha256 p.bytes = shaOf sha256 q.bytes) : p.bytes = q.bytes := by
  refine injective ⟨p, first, rfl⟩ ⟨q, second, rfl⟩ ?_
  have digests := congrArg hexDecode same
  simp only [shaOf, hexDecode_hexEncode, Option.some.injEq] at digests
  exact Vector.toList_inj.mp digests

-- What an answer that is shown inline says of the row, the blob and the file it was read from.
theorem readForServing_inline {rows disk : Store} {id : String} {served : Served}
    (answer : readForServing rows disk id = .ok served) (shown : served.isInline = true) :
    ∃ a ∈ rows.attachments, a.id = id ∧ a.asFile = false ∧ ∃ sha, a.sha256 = some sha ∧
      disk.files[sha]? = some served.bytes ∧
      ∃ b ∈ rows.blobs, b.sha256 = sha ∧ b.kind = .image ∧ b.mime = served.mime := by
  unfold readForServing at answer
  split at answer
  next => cases answer
  next row found =>
    obtain ⟨a, first, rfl⟩ := Option.map_eq_some_iff.mp found
    have sameId : a.id = id := by simpa using List.find?_some first
    split at answer
    next => cases answer
    next => cases answer
    next live =>
      split at answer
      next => cases answer
      next bytes file =>
        obtain rfl := Except.ok.inj answer
        simp only [RefRow.intoRef, RefRow.isInline, live, true_and, if_true] at shown ⊢
        cases stored : a.sha256 with
        | none => simp [stored] at shown
        | some sha =>
          cases joined : rows.blobs.find? (·.sha256 = sha) with
          | none => simp [stored, joined] at shown
          | some b =>
            have sameSha : b.sha256 = sha := by simpa using List.find?_some joined
            simp only [stored, joined, Option.bind_some, Option.map_some, Option.some.injEq, Option.getD_some,
              decide_eq_true_eq, ite_eq_left_iff, not_and, reduceCtorEq, imp_false] at shown file ⊢
            have inline : b.kind = .image ∧ a.asFile = false := by simpa using shown
            exact ⟨a, List.mem_of_find?_eq_some first, sameId, inline.2, sha, stored, file, b,
              List.mem_of_find?_eq_some joined, sameSha, inline.1, rfl⟩

/--
Whatever is shown inline was re-encoded from an upload, its mime type is the one of the image it is, and
no row that an upload as a file made is ever shown inline.
-/
theorem inline_reencoded (encoders : EncodersSniff crate) {front back : List Step} (before : front <+: back)
    (injective : Set.InjOn sha256 (hashed crate (uploadsOf back)))
    (distinct : ((uploadsOf back).map (·.2.id)).Nodup) {id : String} {served : Served}
    (answer : readForServing (Runs.run (step crate sha256) {} front) (Runs.run (step crate sha256) {} back) id =
      .ok served) (shown : served.isInline = true) :
    (∃ u ∈ uploadsOf back, ∃ c, canonicalizeProfile crate u.1.bytes USIZE_MAX ATTACHMENT = .ok c ∧
        served.bytes = c.bytes ∧ served.mime = c.mime) ∧
      (served.mime = "image/webp" ∨ served.mime = "image/jpeg") ∧ (sniff served.bytes).mime = served.mime ∧
      ∀ u ∈ uploadsOf back, u.2.id = id → ¬ u.1.EntersAsFile := by
  have within : uploadsOf front ⊆ uploadsOf back := (before.sublist.filterMap Step.upload).subset
  have rows := (run_traced crate sha256 front).mono within
  have disk := run_traced crate sha256 back
  obtain ⟨a, member, rfl, asFile, sha, stored, file, b, listed, rfl, image, mime⟩ := readForServing_inline answer shown
  obtain ⟨⟨q, uploaded, sameBytes⟩, digest⟩ := disk.files _ _ file
  rw [← sameBytes] at digest ⊢
  have same : ∀ p, Uploaded crate (uploadsOf back) p → shaOf sha256 p.bytes = b.sha256 → p.bytes = q.bytes := by
    intro p other held
    exact shaOf_injOn injective other uploaded (held.trans digest.symm)
  obtain ⟨p, shownUpload, held, kind⟩ := rows.images b listed image
  obtain ⟨u, inside, prepared⟩ := shownUpload
  have whole := same p ⟨u, inside, prepared⟩ held
  rcases prepare_cases prepared with ⟨-, notImage, -⟩ | ⟨-, c, canonical, bytes, -⟩
  · cases notImage.symm.trans kind
  obtain ⟨sniffed, raster⟩ := canonical_sniffs encoders canonical
  have isCanonical : q.bytes = c.bytes := whole.symm.trans bytes
  have sameMime : served.mime = c.mime := by
    obtain ⟨r, ⟨v, insideToo, preparedToo⟩, heldToo, mimeOf⟩ := rows.mimes b listed
    rw [← mime, ← mimeOf, prepare_mime encoders preparedToo, same r ⟨v, insideToo, preparedToo⟩ heldToo, isCanonical,
      sniffed]
  refine ⟨⟨u, inside, c, canonical, isCanonical, sameMime⟩, sameMime ▸ raster, ?_, ?_⟩
  · rw [isCanonical, sniffed, sameMime]
  · intro v insideToo sameId enters
    obtain ⟨w, fromRow, idRow, r, preparedRow, asFileRow, digestRow⟩ := rows.rows a member
    obtain rfl : w = v := List.inj_on_of_nodup_map distinct fromRow insideToo (idRow.trans sameId.symm)
    have bytesRow : r.bytes = c.bytes := (same r ⟨w, fromRow, preparedRow⟩ (digestRow _ stored)).trans isCanonical
    rcases prepare_cases preparedRow with ⟨-, -, -, flag, unmodified⟩ | ⟨reencoded, -⟩
    · rw [bytesRow, sniffed, asFileRow, asFile] at flag
      refine enters ⟨?_, .inr ?_⟩
      · rw [← unmodified, bytesRow, sniffed]
      · simpa using flag.symm
    · exact reencoded enters

end

-- A lossless WebP of one pixel.
def pixelWebp : Bytes :=
  ascii "RIFF" ++ [26, 0, 0, 0] ++ ascii "WEBPVP8L" ++ [13, 0, 0, 0] ++
    [47, 0, 0, 0, 16, 7, 16, 17, 17, 136, 136, 254, 7, 0]

def pixelSha256 (_ : Bytes) : Vector UInt8 32 :=
  #v[134, 190, 82, 189, 183, 84, 116, 19, 202, 251, 62, 209, 117, 168, 6, 167, 152, 198, 93, 233, 139, 64, 132, 158, 11,
    151, 76, 71, 209, 135, 222, 101]

-- An image library that has seen only this one.
def pixelImages : ImageCrate Unit where
  guessFormat bytes := if bytes = pixelWebp then .ok .webp else .error "The image format could not be determined"
  decoder _ _ := .ok
    { dimensions := (1, 1), setLimits := fun _ => .ok (), animated := .ok false, frames := .ok [], still := .ok () }
  dimensions _ := (1, 1)
  hasAlpha _ := true
  resize image _ _ := image
  shrink w h _ := (w, h)
  encodeJpeg _ := .error "unsupported color type"
  encodeStill _ := .ok pixelWebp

def pixelUpload (asFile : Bool) : Upload where
  channelId := "general"
  uploader := "ann"
  name := "pixel.webp"
  bytes := pixelWebp
  asFile := asFile
  banner := false

-- The same bytes come as a file and then as an image, and share one blob.
def pixelRun : List Step :=
  [.createChannel "general" none, .ingest (pixelUpload true) { id := "file", now := 100 } [],
    .ingest (pixelUpload false) { id := "image", now := 200 } []]

def pixelServed : Served where
  bytes := pixelWebp
  mime := "image/webp"
  name := "pixel.webp"
  isInline := true

theorem pixelImages_sniff : EncodersSniff pixelImages where
  jpeg := nofun
  still := by
    intro image bytes encoded
    cases encoded
    decide

theorem hashed_pixelRun {bytes : Bytes} (member : bytes ∈ hashed pixelImages (uploadsOf pixelRun)) :
    bytes = pixelWebp := by
  obtain ⟨p, ⟨u, listed, prepared⟩, rfl⟩ := member
  have asUploaded : ∀ asFile, ∃ q, prepare pixelImages .ran (pixelUpload asFile) = .ok q ∧ q.bytes = pixelWebp := by
    intro asFile
    cases asFile <;> exact ⟨_, rfl, rfl⟩
  obtain ⟨asFile, pixel, ran⟩ : ∃ asFile, u.1 = pixelUpload asFile ∧ u.2.task = .ran := by
    rcases List.mem_cons.mp listed with rfl | other
    · exact ⟨true, rfl, rfl⟩
    · cases List.mem_singleton.mp other
      exact ⟨false, rfl, rfl⟩
  obtain ⟨q, stored, same⟩ := asUploaded asFile
  rw [ran, pixel] at prepared
  cases stored.symm.trans prepared
  exact same

theorem inline_reencoded_pixel :
    (∃ u ∈ uploadsOf pixelRun, ∃ c, canonicalizeProfile pixelImages u.1.bytes USIZE_MAX ATTACHMENT = .ok c ∧
        pixelServed.bytes = c.bytes ∧ pixelServed.mime = c.mime) ∧
      (pixelServed.mime = "image/webp" ∨ pixelServed.mime = "image/jpeg") ∧
      (sniff pixelServed.bytes).mime = pixelServed.mime ∧
      ∀ u ∈ uploadsOf pixelRun, u.2.id = "image" → ¬ u.1.EntersAsFile := by
  refine @inline_reencoded _ pixelImages pixelSha256 pixelImages_sniff pixelRun pixelRun List.prefix_rfl ?_ (by decide)
    "image" pixelServed (by decide) rfl
  intro a first b second _
  rw [hashed_pixelRun first, hashed_pixelRun second]

end Wavvon.Attachments
