import Wavvon.Attachments.Images
import Wavvon.Attachments.Store

set_option autoImplicit false

namespace Wavvon.Attachments

open Interleaving (Handler)
open Wire (Bytes)

inductive RefState where
  | ok
  | removed
  | expired
  deriving DecidableEq, Repr

/-- One attachment as messages, posts and replies carry it. -/
structure AttachmentRef where
  id : String
  url : String
  name : String
  mime : String
  kind : Kind
  size : Nat
  width : Option Int
  height : Option Int
  state : RefState
  deriving DecidableEq, Repr

structure RefRow where
  id : String
  name : String
  asFile : Bool
  removedAt : Option Int
  expiredAt : Option Int
  sha256 : Option String
  kind : Option Kind
  mime : Option String
  sizeBytes : Option Nat
  width : Option Int
  height : Option Int
  deriving DecidableEq, Repr

namespace RefRow

def state (r : RefRow) : RefState :=
  if r.removedAt.isSome then .removed
  else if r.expiredAt.isSome ∨ r.sha256 = none ∨ r.kind = none then .expired
  else .ok

def isInline (r : RefRow) : Prop := r.state = .ok ∧ r.kind = some .image ∧ r.asFile = false

instance (r : RefRow) : Decidable r.isInline := inferInstanceAs (Decidable (_ ∧ _ ∧ _))

def intoRef (r : RefRow) : AttachmentRef where
  id := r.id
  url := "/uploads/" ++ r.id
  name := r.name
  mime := if r.state = .ok then r.mime.getD "" else "application/octet-stream"
  kind := if r.isInline then .image else .file
  size := if r.state = .ok then r.sizeBytes.getD 0 else 0
  width := if r.state = .ok then r.width else none
  height := if r.state = .ok then r.height else none
  state := r.state

end RefRow

/-- Transactions that write attachments without the lock. -/
inductive Aside where
  | link (owner : Owner) (ownerId : String) (ids : List String) (now : Int)
  | deleteOwner (owner : Owner) (ownerId : String)
  | deleteChannel (channelId : String)
  deriving DecidableEq, Repr

def Aside.IsDeletion : Aside → Prop
  | .link _ _ _ _ => False
  | .deleteOwner _ _ => True
  | .deleteChannel _ => True

namespace Store

def Linkable (id : String) (a : Attachment) : Prop := a.id = id ∧ a.Unlinked ∧ a.Live

instance (id : String) : DecidablePred (Linkable id) := fun _ => inferInstanceAs (Decidable (_ ∧ _ ∧ _))

def linkOne (s : Store) (owner : Owner) (ownerId id : String) (position : Nat) : Store :=
  { s with attachments := s.attachments.map fun a =>
      if Linkable id a then a.linkedTo owner ownerId position else a }

def linkEach (s : Store) (owner : Owner) (ownerId : String) : List String → Nat → Except HttpError Store
  | [], _ => .ok s
  | id :: rest, position =>
    if s.attachments.countP (fun a => Linkable id a) ≠ 1 then .error (409, "attachment_unavailable")
    else linkEach (s.linkOne owner ownerId id position) owner ownerId rest (position + 1)

def touchBlobs (s : Store) (ids : List String) (now : Int) : Store :=
  { s with blobs := s.blobs.map fun b =>
      if ∃ a ∈ s.attachments, a.id ∈ ids ∧ a.sha256 = some b.sha256 then { b with lastLinkedAt := now } else b }

def link (s : Store) (owner : Owner) (ownerId : String) (ids : List String) (now : Int) : Except HttpError Store :=
  if ids = [] then .ok s
  else do
    let linked ← s.linkEach owner ownerId ids 0
    return linked.touchBlobs ids now

-- A transaction that fails changes nothing; a deleted owner or channel takes its attachments along.
def aside (s : Store) : Aside → Store
  | .link owner ownerId ids now =>
    match s.link owner ownerId ids now with
    | .ok linked => linked
    | .error _ => s
  | .deleteOwner owner ownerId => { s with attachments := s.attachments.filter fun a => a.owner owner ≠ some ownerId }
  | .deleteChannel channelId =>
    { s with
      channels := s.channels.filter (·.id ≠ channelId)
      attachments := s.attachments.filter (·.channelId ≠ channelId) }

end Store

abbrev Locked (A : Type) := Handler Store Unit A

def update (effect : Store → Store) : Locked Unit := .exec () effect fun _ => ()

def query {A : Type} (read : Store → A) : Locked A := .exec () id read

def removeFiles : List Blob → Locked Unit
  | [] => .done ()
  | b :: rest => do
    update (·.removeFile b.sha256)
    removeFiles rest

-- Orphans past the delay, then blobs no live row wants.
def dropUnused (now : Int) : Locked Nat := do
  update (·.deleteOrphans now)
  let gone ← Handler.exec () Store.deleteUnusedBlobs Store.unusedBlobs
  removeFiles gone
  return (gone.map (·.sizeBytes)).sum

def evictBatch (want now : Int) : List Blob → Nat → Locked Nat
  | [], freed => return freed
  | b :: rest, freed => do
    update (·.expireBlob b.sha256 now)
    update (·.deleteBlob b.sha256)
    update (·.removeFile b.sha256)
    if want ≤ freed + b.sizeBytes then return freed + b.sizeBytes
    else evictBatch want now rest (freed + b.sizeBytes)

def evictRounds (want now : Int) : Nat → Nat → Locked Nat
  | 0, freed => return freed
  | rounds + 1, freed =>
    if want ≤ freed then return freed
    else do
      let batch ← query Store.evictable
      if batch = [] then return freed
      else
        let freed ← evictBatch want now batch freed
        evictRounds want now rounds freed

-- Every round but the last deletes a blob, so one more round than there are blobs ends the loop.
def evictOldest (want now : Int) : Locked Nat := do
  let blobs ← query fun s => s.blobs.length
  evictRounds want now (blobs + 1) 0

def ensureRoom (need : Nat) (now : Int) : Locked Unit := do
  let cap ← query Store.capBytes
  let used ← query Store.usedBytes
  let excess : Int := used + need - cap
  if excess ≤ 0 then return ()
  else
    let dropped ← dropUnused now
    if 0 < excess - dropped then
      let _ ← evictOldest (excess - dropped) now
      return ()
    else return ()

structure Upload where
  channelId : String
  uploader : String
  name : String
  bytes : Bytes
  asFile : Bool
  banner : Bool
  deriving DecidableEq, Repr

/-- What an ingest takes from outside: its id, the clock, the decoding task and the disk. -/
structure IngestEnv where
  id : String
  now : Int
  task : DecodeTask := .ran
  first : WriteAttempt := .written
  second : WriteAttempt := .written
  deriving DecidableEq, Repr

/-- What is stored of an upload. -/
structure Prepared where
  name : String
  bytes : Bytes
  mime : String
  kind : Kind
  width : Option Int
  height : Option Int
  asFile : Bool
  deriving DecidableEq, Repr

def ingestErr : IngestError → HttpError
  | .tooLarge m => (413, m)
  | .notAnImage m => (415, m)

-- `as i32`.
def asI32 (v : UInt32) : Int := v.toBitVec.toInt

def USIZE_MAX : Nat := 2 ^ 64 - 1

section

variable {Rgba : Type} (crate : ImageCrate Rgba) (sha256 : Bytes → Vector UInt8 32)

-- An upload that is stored as it came, to be downloaded only.
def Upload.EntersAsFile (up : Upload) : Prop := ¬ ((sniff up.bytes).family = .raster ∧ (up.banner ∨ up.asFile = false))

instance (up : Upload) : Decidable up.EntersAsFile := inferInstanceAs (Decidable (¬ (_ ∧ _)))

def prepare (task : DecodeTask) (up : Upload) : Except HttpError Prepared := do
  let name := cleanName up.name
  let sniffed := sniff up.bytes
  checkExtension name sniffed
  if up.banner ∧ sniffed.family ≠ .raster then .error (415, "Banner images must be PNG, JPEG, GIF, or WebP")
  else if up.EntersAsFile then
    return { name := name, bytes := up.bytes, mime := sniffed.mime, kind := .file, width := none, height := none
             asFile := up.asFile && decide (sniffed.family = .raster) }
  else
    let c ← (canonicalizeWith crate task up.bytes USIZE_MAX ATTACHMENT).mapError ingestErr
    return { name := name, bytes := c.bytes, mime := c.mime, kind := .image, width := some (asI32 c.width)
             height := some (asI32 c.height), asFile := false }

def shaOf (bytes : Bytes) : String := hexEncode (sha256 bytes).toList

def blobOf (p : Prepared) (now : Int) : Blob where
  sha256 := shaOf sha256 p.bytes
  kind := p.kind
  mime := p.mime
  sizeBytes := p.bytes.length
  width := p.width
  height := p.height
  createdAt := now
  lastLinkedAt := now

def attachmentOf (up : Upload) (env : IngestEnv) (p : Prepared) : Attachment where
  id := env.id
  sha256 := some (shaOf sha256 p.bytes)
  name := p.name
  uploader := up.uploader
  channelId := up.channelId
  asFile := p.asFile
  createdAt := env.now

def refOf (env : IngestEnv) (p : Prepared) : AttachmentRef :=
  RefRow.intoRef
    { id := env.id, name := p.name, asFile := p.asFile, removedAt := none, expiredAt := none
      sha256 := some (shaOf sha256 p.bytes), kind := some p.kind, mime := some p.mime
      sizeBytes := some p.bytes.length, width := p.width, height := p.height }

def insertRows (up : Upload) (env : IngestEnv) (p : Prepared) : Locked (Except HttpError AttachmentRef) := do
  update (·.insertBlob (blobOf sha256 p env.now))
  let inserted ← Handler.exec () (fun s => (s.insertAttachment (attachmentOf sha256 up env p)).1)
    fun s => (s.insertAttachment (attachmentOf sha256 up env p)).2
  match inserted with
  | .error e => return .error e
  | .ok _ => return .ok (refOf sha256 env p)

def writeBlob (sha : String) (bytes : Bytes) (attempt : WriteAttempt) : Locked WriteAttempt :=
  .exec () (·.writeBlob sha bytes attempt) fun _ => attempt

-- The budget first; when the disk itself is full, the oldest go once more and the write is retried once.
def storeBytes (env : IngestEnv) (p : Prepared) : Locked (Except HttpError Unit) := do
  ensureRoom p.bytes.length env.now
  let first ← writeBlob (shaOf sha256 p.bytes) p.bytes env.first
  match first with
  | .written => return .ok ()
  | .full _ =>
    let _ ← evictOldest p.bytes.length env.now
    let second ← writeBlob (shaOf sha256 p.bytes) p.bytes env.second
    match second with
    | .written => return .ok ()
    | .full _ => return .error (507, "storage_full")

def onDisk (sha : String) : Locked Bool := do
  let held ← query fun s => decide (s.HasBlob sha)
  if held then query fun s => decide (sha ∈ s.files) else return false

def ingest (up : Upload) (env : IngestEnv) : Locked (Except HttpError AttachmentRef) :=
  match prepare crate env.task up with
  | .error e => return .error e
  | .ok p => do
    let stored ← onDisk (shaOf sha256 p.bytes)
    if stored then insertRows sha256 up env p
    else (storeBytes sha256 env p).andThen fun _ => insertRows sha256 up env p

end

def remove (id : String) (now : Int) : Locked Unit := do
  update (·.tombstone id now)
  let _ ← dropUnused now
  return ()

-- The retention worker's pass: age, orphans, blobs nothing wants.
def sweep (now : Int) : Locked Unit := do
  let days ← query Store.retentionDays
  if 0 < days then update (·.expireOlder now (now - days * 86400))
  let _ ← dropUnused now
  return ()

/-- The steps of the store; `amid` are the transactions that come in between an operation's statements. -/
inductive Step where
  | ingest (up : Upload) (env : IngestEnv) (amid : List (List Aside))
  | remove (id : String) (now : Int) (amid : List (List Aside))
  | sweep (now : Int) (amid : List (List Aside))
  | aside (transaction : Aside)
  | createChannel (channelId : String) (bannerFileId : Option String)
  | setBanner (channelId : String) (bannerFileId : Option String)
  | setSetting (key value : String)
  deriving DecidableEq, Repr

def Step.amid : Step → List (List Aside)
  | .ingest _ _ amid => amid
  | .remove _ _ amid => amid
  | .sweep _ amid => amid
  | .aside _ => []
  | .createChannel _ _ => []
  | .setBanner _ _ => []
  | .setSetting _ _ => []

section

variable {Rgba : Type} (crate : ImageCrate Rgba) (sha256 : Bytes → Vector UInt8 32)

-- Any file may become a banner here: the routes' own checks only narrow this down.
def step (s : Store) : Step → Store
  | .ingest up env amid => ((ingest crate sha256 up env).amid Store.aside amid s).1
  | .remove id now amid => ((remove id now).amid Store.aside amid s).1
  | .sweep now amid => ((sweep now).amid Store.aside amid s).1
  | .aside transaction => s.aside transaction
  | .createChannel channelId bannerFileId =>
    { s with channels := { id := channelId, bannerFileId := bannerFileId } :: s.channels }
  | .setBanner channelId bannerFileId =>
    { s with channels := s.channels.map fun c =>
        if c.id = channelId then { c with bannerFileId := bannerFileId } else c }
  | .setSetting key value => { s with settings := s.settings.insert key value }

end

end Wavvon.Attachments
