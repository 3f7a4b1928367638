import Mathlib.Algebra.GroupWithZero.Nat
import Mathlib.Data.List.Sort
import Wavvon.Attachments.Sniffing
import Wavvon.Shared.Interleaving

set_option autoImplicit false

namespace Wavvon.Attachments

open Interleaving (Handler)
open Wire (Bytes)

def ORPHAN_AFTER_SECS : Int := 24 * 3600
def MB : Nat := 1024 * 1024
def GB : Nat := 1024 * MB

inductive Kind where
  | file
  | image
  deriving DecidableEq, Repr

structure Blob where
  sha256 : String
  kind : Kind
  mime : String
  sizeBytes : Nat
  width : Option Int
  height : Option Int
  createdAt : Int
  lastLinkedAt : Int
  deriving DecidableEq, Repr

inductive Owner where
  | message
  | post
  | reply
  deriving DecidableEq, Repr

structure Attachment where
  id : String
  sha256 : Option String
  name : String
  uploader : String
  channelId : String
  messageId : Option String := none
  postId : Option String := none
  replyId : Option String := none
  asFile : Bool
  position : Nat := 0
  createdAt : Int
  removedAt : Option Int := none
  expiredAt : Option Int := none
  deriving DecidableEq, Repr

namespace Attachment

def Live (a : Attachment) : Prop := a.removedAt = none ∧ a.expiredAt = none

instance (a : Attachment) : Decidable a.Live := inferInstanceAs (Decidable (_ ∧ _))

def Unlinked (a : Attachment) : Prop := a.messageId = none ∧ a.postId = none ∧ a.replyId = none

instance (a : Attachment) : Decidable a.Unlinked := inferInstanceAs (Decidable (_ ∧ _ ∧ _))

def owner (a : Attachment) : Owner → Option String
  | .message => a.messageId
  | .post => a.postId
  | .reply => a.replyId

def linkedTo (a : Attachment) (owner : Owner) (ownerId : String) (position : Nat) : Attachment :=
  match owner with
  | .message => { a with messageId := some ownerId, position := position }
  | .post => { a with postId := some ownerId, position := position }
  | .reply => { a with replyId := some ownerId, position := position }

-- The reference is set to NULL when its blob is deleted.
def forget (a : Attachment) (sha : String) : Attachment := if a.sha256 = some sha then { a with sha256 := none } else a

end Attachment

structure ChannelRow where
  id : String
  bannerFileId : Option String := none
  deriving DecidableEq, Repr

/-- The tables of attachments, what is on disk, and the names of temporary files beside it. -/
structure Store where
  attachments : List Attachment := []
  blobs : List Blob := []
  channels : List ChannelRow := []
  settings : Table String := ∅
  files : Table Bytes := ∅
  temps : List String := []

namespace Store

def HasBlob (s : Store) (sha : String) : Prop := ∃ b ∈ s.blobs, b.sha256 = sha

instance (s : Store) (sha : String) : Decidable (s.HasBlob sha) := inferInstanceAs (Decidable (∃ b ∈ s.blobs, _))

def IsBanner (s : Store) (id : String) : Prop := ∃ c ∈ s.channels, c.bannerFileId = some id

instance (s : Store) (id : String) : Decidable (s.IsBanner id) := inferInstanceAs (Decidable (∃ c ∈ s.channels, _))

-- Some attachment of the blob, whatever became of it, is the banner of a channel.
def HeldByBanner (s : Store) (sha : String) : Prop := ∃ a ∈ s.attachments, a.sha256 = some sha ∧ s.IsBanner a.id

instance (s : Store) (sha : String) : Decidable (s.HeldByBanner sha) :=
  inferInstanceAs (Decidable (∃ a ∈ s.attachments, _ ∧ _))

def Wanted (s : Store) (sha : String) : Prop := ∃ a ∈ s.attachments, a.sha256 = some sha ∧ a.Live

instance (s : Store) (sha : String) : Decidable (s.Wanted sha) :=
  inferInstanceAs (Decidable (∃ a ∈ s.attachments, _ ∧ _))

def usedBytes (s : Store) : Nat := (s.blobs.map (·.sizeBytes)).sum

-- A stored value that does not parse or is out of range falls back to the default.
def readSetting (s : Store) (key : String) (default floor ceiling : Nat) : Nat :=
  (((s.settings[key]?).bind (parseUnsigned (2 ^ 64))).filter fun v => floor ≤ v ∧ v ≤ ceiling).getD default

def capBytes (s : Store) : Nat := s.readSetting "attachments_cap_bytes" (10 * GB) (64 * MB) (10 * 1024 * GB)

def retentionDays (s : Store) : Int := s.readSetting "attachments_retention_days" 0 0 3650

def deleteOrphans (s : Store) (now : Int) : Store :=
  { s with attachments := s.attachments.filter fun a =>
      ¬ (a.Unlinked ∧ a.createdAt < now - ORPHAN_AFTER_SECS ∧ ¬ s.IsBanner a.id) }

def unusedBlobs (s : Store) : List Blob := s.blobs.filter fun b => ¬ s.Wanted b.sha256

def deleteUnusedBlobs (s : Store) : Store :=
  { s with
    blobs := s.blobs.filter fun b => s.Wanted b.sha256
    attachments := s.attachments.map fun a =>
      if ∃ b ∈ s.unusedBlobs, a.sha256 = some b.sha256 then { a with sha256 := none } else a }

def removeFile (s : Store) (sha : String) : Store := { s with files := s.files.erase sha }

-- `ORDER BY last_linked_at, sha256`.
def LinkedBefore (a b : Blob) : Prop :=
  a.lastLinkedAt < b.lastLinkedAt ∨ a.lastLinkedAt = b.lastLinkedAt ∧ a.sha256 ≤ b.sha256

instance : DecidableRel LinkedBefore := fun a b =>
  inferInstanceAs (Decidable (a.lastLinkedAt < b.lastLinkedAt ∨ a.lastLinkedAt = b.lastLinkedAt ∧ a.sha256 ≤ b.sha256))

def evictable (s : Store) : List Blob :=
  ((s.blobs.filter fun b => ¬ s.HeldByBanner b.sha256).insertionSort LinkedBefore).take 32

def expireBlob (s : Store) (sha : String) (now : Int) : Store :=
  { s with attachments := s.attachments.map fun a =>
      if a.sha256 = some sha ∧ a.Live then { a with expiredAt := some now } else a }

def deleteBlob (s : Store) (sha : String) : Store :=
  { s with blobs := s.blobs.filter (·.sha256 ≠ sha), attachments := s.attachments.map (·.forget sha) }

def expireOlder (s : Store) (now before : Int) : Store :=
  { s with attachments := s.attachments.map fun a =>
      if a.Live ∧ a.createdAt < before ∧ ¬ s.IsBanner a.id then { a with expiredAt := some now } else a }

def tombstone (s : Store) (id : String) (now : Int) : Store :=
  { s with attachments := s.attachments.map fun a =>
      if a.id = id then { a with removedAt := a.removedAt.or (some now), sha256 := none } else a }

end Store

/-- How an attempt to write a blob went: only running out of space is foreseen. -/
inductive WriteAttempt where
  | written
  | full (created : Bool)
  deriving DecidableEq, Repr

-- The bytes go to a temporary file, which is then renamed.
def Store.writeBlob (s : Store) (sha : String) (bytes : Bytes) : WriteAttempt → Store
  | .written => { s with files := s.files.insert sha bytes, temps := s.temps.filter (· ≠ sha) }
  | .full true => { s with temps := if sha ∈ s.temps then s.temps else sha :: s.temps }
  | .full false => s

def Blob.upload (old new : Blob) : Blob :=
  { old with
    lastLinkedAt := new.lastLinkedAt
    kind := if new.kind = .image then .image else old.kind
    width := old.width.or new.width
    height := old.height.or new.height }

def Store.insertBlob (s : Store) (new : Blob) : Store :=
  { s with blobs :=
      if s.HasBlob new.sha256 then s.blobs.map fun b => if b.sha256 = new.sha256 then b.upload new else b
      else new :: s.blobs }

def Store.insertAttachment (s : Store) (a : Attachment) : Store × Except HttpError Unit :=
  if ∃ other ∈ s.attachments, other.id = a.id then
    (s, .error (500, "DB error: " ++ duplicateKey "attachments_pkey"))
  else if ¬ ∃ c ∈ s.channels, c.id = a.channelId then
    (s, .error (500, "DB error: " ++ foreignKeyViolation "attachments" "attachments_channel_id_fkey"))
  else ({ s with attachments := a :: s.attachments }, .ok ())

end Wavvon.Attachments
