import Wavvon.Attachments.Eviction

set_option autoImplicit false

namespace Wavvon.Attachments

open Interleaving (Handler Ends ends_exec ends_exec_bind)
open Wire (Bytes)

/-- A blob's bytes are on disk, and what holds before its rows are written. -/
structure InPlace (deletions : Prop) (sha : String) (bytes : Bytes) (s base : Store) : Prop where
  keeps : Keeps deletions (fun _ => False) s base
  sound : Sound [] base ∨ Sound [sha] base
  present : sha ∈ base.files
  files : ∀ (other : String) (content : Bytes), base.files[other]? = some content →
    s.files[other]? = some content ∨ other = sha ∧ content = bytes
  blobs : ∀ later ∈ base.blobs, ∃ b ∈ s.blobs, later.facts = b.facts
  temps : base.temps = s.temps ∨ base.temps = s.temps.filter (· ≠ sha)
  room : ¬ s.HasBlob sha → Room deletions s bytes.length base

-- Both attempts have run out of space; a temporary file is left when one of them could create it.
def IngestEnv.BothFull (env : IngestEnv) : Prop := ∃ c₁ c₂, env.first = .full c₁ ∧ env.second = .full c₂

def Store.OnDisk (s : Store) (sha : String) : Prop := s.HasBlob sha ∧ sha ∈ s.files

instance (s : Store) (sha : String) : Decidable (s.OnDisk sha) := inferInstanceAs (Decidable (_ ∧ _))

section

variable {deletions : Prop} {s t : Store} {sha : String} {bytes : Bytes}

theorem Later.keepsOnly (later : Later deletions s t) : Keeps deletions (fun _ => False) s t :=
  later.toKeeps.trans (.of_eq deletions _ rfl rfl rfl) fun _ never => never.elim

theorem writeBlob_sound (sound : Sound [] s) (new : ¬ s.HasBlob sha) (bytes : Bytes) :
    Sound [sha] (s.writeBlob sha bytes .written) :=
  { sound with
    files := fun other has => Std.ExtTreeMap.mem_insert.mpr (.inr (sound.files other has))
    blobs := by
      intro other present
      rcases Std.ExtTreeMap.mem_insert.mp present with same | old
      · exact .inr (List.mem_singleton.mpr (Std.LawfulEqCmp.eq_of_compare same).symm)
      · exact .inl ((sound.blobs other old).resolve_right List.not_mem_nil)
    extra := by
      intro other member has
      rw [List.mem_singleton.mp member] at has
      exact new has }

theorem writeBlob_inPlace {room : Store} (sound : Sound [] room) (new : ¬ s.HasBlob sha)
    (later : Later deletions s room) (temps : room.temps.filter (· ≠ sha) = s.temps.filter (· ≠ sha))
    (fits : Room deletions s bytes.length room) :
    InPlace deletions sha bytes s (room.writeBlob sha bytes .written) where
  keeps := later.keepsOnly.trans (.of_eq deletions _ rfl rfl rfl) fun _ never => never
  sound := .inr (writeBlob_sound sound (fun has => new (later.hasBlob has)) bytes)
  present := Std.ExtTreeMap.mem_insert_self
  files := by
    intro other content found
    simp only [Store.writeBlob, Std.ExtTreeMap.getElem?_insert] at found
    split at found
    next same =>
      cases found
      exact .inr ⟨(Std.LawfulEqCmp.eq_of_compare same).symm, rfl⟩
    next => exact .inl (later.files other content found)
  blobs := later.blobs
  temps := .inr temps
  room _ := fits

theorem Apart.inPlace {base : Store} (apart : Apart deletions s t) (inPlace : InPlace deletions sha bytes t base) :
    InPlace deletions sha bytes s base where
  keeps := apart.toLater.keepsOnly.trans inPlace.keeps fun _ never => never
  sound := inPlace.sound
  present := inPlace.present
  files other content found := by
    rw [← apart.sameFiles]
    exact inPlace.files other content found
  blobs := by
    intro later member
    obtain ⟨between, found, same⟩ := inPlace.blobs later member
    obtain ⟨before, original, sameBefore⟩ := apart.blobs between found
    exact ⟨before, original, same.trans sameBefore⟩
  temps := apart.sameTemps ▸ inPlace.temps
  room := by
    intro new
    rcases inPlace.room fun has => new (apart.hasBlob_iff.mp has) with fits | held
    · exact .inl (apart.capBytes ▸ fits)
    · refine .inr ?_
      intro b member other
      exact (held b member other).imp_right fun atStart => ⟨atStart.1, apart.heldByBanner atStart.2⟩

-- An attempt that failed leaves a temporary file at most.
theorem writeFull_later (deletions : Prop) (s : Store) (sha : String) (bytes : Bytes) (created : Bool) :
    Later deletions s (s.writeBlob sha bytes (.full created)) := by
  cases created <;> exact ⟨.of_eq deletions _ rfl rfl rfl, fun _ _ found => found, fun b member => ⟨b, member, rfl⟩⟩

theorem writeFull_sound {extra : List String} (sound : Sound extra s) (sha : String) (bytes : Bytes) (created : Bool) :
    Sound extra (s.writeBlob sha bytes (.full created)) := by
  cases created <;> exact { sound with }

theorem writeFull_used (s : Store) (sha : String) (bytes : Bytes) (created : Bool) :
    (s.writeBlob sha bytes (.full created)).usedBytes = s.usedBytes := by
  cases created <;> rfl

theorem writeFull_temps (s : Store) (sha : String) (bytes : Bytes) (created : Bool) :
    (s.writeBlob sha bytes (.full created)).temps.filter (· ≠ sha) = s.temps.filter (· ≠ sha) := by
  cases created with
  | false => rfl
  | true =>
    simp only [Store.writeBlob]
    split
    next => rfl
    next => rw [List.filter_cons_of_neg (by simp)]

theorem onDisk_ends (s : Store) (sha : String) :
    Ends (Apart deletions) (fun stored t => Apart deletions s t ∧ (stored = true ↔ s.OnDisk sha)) (onDisk sha) s := by
  refine ends_exec_bind ?_
  intro s₁ first
  have held : decide (s₁.HasBlob sha) = true ↔ s.HasBlob sha := by rw [decide_eq_true_iff, first.hasBlob_iff]
  split
  next has =>
    refine ends_exec ?_
    intro s₂ second
    refine ⟨first.trans second, ?_⟩
    rw [decide_eq_true_iff, second.sameFiles]
    change sha ∈ s₁.files ↔ _
    rw [first.sameFiles]
    exact (and_iff_right (held.mp has)).symm
  next none => exact .done ⟨first, iff_of_false (by simp) fun stored => none (held.mpr stored.1)⟩

end

section

variable {deletions : Prop} {s t : Store} {sha256 : Bytes → Vector UInt8 32} {env : IngestEnv} {p : Prepared}

/-- What an attempt to store the bytes may lead to. -/
def StoreOutcome (deletions : Prop) (sha256 : Bytes → Vector UInt8 32) (env : IngestEnv) (p : Prepared) (s : Store)
    (answer : Except HttpError Unit) (t : Store) : Prop :=
  match answer with
  | .ok _ => ¬ env.BothFull ∧ InPlace deletions (shaOf sha256 p.bytes) p.bytes s t
  | .error _ => Sound [] t ∧ Later deletions s t ∧ ∃ c₁ c₂, env.first = .full c₁ ∧ env.second = .full c₂ ∧
      t.temps = ((s.writeBlob (shaOf sha256 p.bytes) p.bytes (.full c₁)).writeBlob (shaOf sha256 p.bytes) p.bytes
        (.full c₂)).temps

theorem writeFull_temps_congr (sha : String) (bytes : Bytes) (created : Bool) (same : t.temps = s.temps) :
    (t.writeBlob sha bytes (.full created)).temps = (s.writeBlob sha bytes (.full created)).temps := by
  cases created with
  | false => exact same
  | true => simp only [Store.writeBlob, same]

theorem storeBytes_ends (sound : Sound [] s) (new : ¬ s.HasBlob (shaOf sha256 p.bytes)) :
    Ends (Apart deletions) (StoreOutcome deletions sha256 env p s) (storeBytes sha256 env p) s := by
  refine (ensureRoom_ends sound _ env.now).bind ?_
  rintro _ t₁ ⟨soundRoom, toRoom, temps, fits⟩
  refine ends_exec_bind ?_
  intro t₂ apart
  have soundHere := apart.sound soundRoom
  have here := toRoom.trans apart.toLater
  have tempsHere := apart.sameTemps.trans temps
  have fitsHere := fits.later soundRoom.ids toRoom.toKeeps apart.toLater (le_of_eq apart.usedBytes)
  cases first : env.first with
  | written =>
    refine .done ⟨?_, writeBlob_inPlace soundHere new here (by rw [tempsHere]) fitsHere⟩
    rintro ⟨c₁, c₂, full, -⟩
    rw [first] at full
    cases full
  | full c₁ =>
    have failed := writeFull_later deletions t₂ (shaOf sha256 p.bytes) p.bytes c₁
    have soundFailed := writeFull_sound soundHere (shaOf sha256 p.bytes) p.bytes c₁
    refine (evictOldest_ends soundFailed _ env.now).bind ?_
    rintro freed t₃ ⟨evicted, -⟩
    refine ends_exec_bind ?_
    intro t₄ last
    have soundLast := last.sound evicted.sound
    have later := (here.trans failed).trans (evicted.later.trans last.toLater)
    have tempsLast := last.sameTemps.trans evicted.temps
    cases second : env.second with
    | written =>
      refine .done ⟨?_, writeBlob_inPlace soundLast new later ?_ ?_⟩
      · rintro ⟨_, c₂, -, full⟩
        rw [second] at full
        cases full
      · rw [tempsLast, writeFull_temps, tempsHere]
      · refine fitsHere.later soundHere.ids here.toKeeps (failed.trans (evicted.later.trans last.toLater)) ?_
        have used : t₃.usedBytes + freed = t₂.usedBytes := evicted.used.trans (writeFull_used t₂ _ _ c₁)
        rw [last.usedBytes]
        omega
    | full c₂ =>
      refine .done ⟨writeFull_sound soundLast _ _ c₂, later.trans (writeFull_later deletions t₄ _ _ c₂), c₁, c₂, first,
        second, ?_⟩
      refine writeFull_temps_congr _ _ c₂ ?_
      rw [tempsLast]
      exact writeFull_temps_congr _ _ c₁ tempsHere

end

section

variable {Rgba : Type} (crate : ImageCrate Rgba) (sha256 : Bytes → Vector UInt8 32)

/-- What an ingest may lead to, transactions outside the lock in between. -/
inductive Ingested (deletions : Prop) (up : Upload) (env : IngestEnv) (s : Store) : Store → Prop
  | refused {e : HttpError} (refusal : prepare crate env.task up = .error e) : Ingested deletions up env s s
  | full {p : Prepared} {t : Store} {c₁ c₂ : Bool} (prepared : prepare crate env.task up = .ok p)
      (new : ¬ s.OnDisk (shaOf sha256 p.bytes)) (first : env.first = .full c₁) (second : env.second = .full c₂)
      (sound : Sound [] t) (later : Later deletions s t)
      (temps : t.temps = ((s.writeBlob (shaOf sha256 p.bytes) p.bytes (.full c₁)).writeBlob (shaOf sha256 p.bytes)
        p.bytes (.full c₂)).temps) : Ingested deletions up env s t
  | stored {p : Prepared} {base listed filed : Store} (prepared : prepare crate env.task up = .ok p)
      (room : s.OnDisk (shaOf sha256 p.bytes) ∨ ¬ env.BothFull)
      (inPlace : InPlace deletions (shaOf sha256 p.bytes) p.bytes s base) (before : Apart deletions base listed)
      (between : Apart deletions (listed.insertBlob (blobOf sha256 p env.now)) filed) :
      Ingested deletions up env s (filed.insertAttachment (attachmentOf sha256 up env p)).1

variable {crate sha256} {deletions : Prop} {s : Store}

theorem insertRows_ends {up : Upload} {env : IngestEnv} {p : Prepared} {base : Store}
    (prepared : prepare crate env.task up = .ok p) (room : s.OnDisk (shaOf sha256 p.bytes) ∨ ¬ env.BothFull)
    (inPlace : InPlace deletions (shaOf sha256 p.bytes) p.bytes s base) :
    Ends (Apart deletions) (fun _ => Ingested crate sha256 deletions up env s) (insertRows sha256 up env p) base := by
  refine ends_exec_bind ?_
  intro listed before
  refine ends_exec_bind ?_
  intro filed between
  split <;> exact .done (.stored prepared room inPlace before between)

theorem ingest_ends (sound : Sound [] s) (up : Upload) (env : IngestEnv) :
    Ends (Apart deletions) (fun _ => Ingested crate sha256 deletions up env s) (ingest crate sha256 up env) s := by
  unfold ingest
  cases prepared : prepare crate env.task up with
  | error e => exact .done (.refused prepared)
  | ok p =>
    refine (onDisk_ends s (shaOf sha256 p.bytes)).bind ?_
    rintro stored t ⟨apart, here⟩
    split
    next found =>
      have onDisk := here.mp found
      refine insertRows_ends prepared (.inl onDisk) ?_
      exact
        { keeps := apart.toLater.keepsOnly
          sound := .inl (apart.sound sound)
          present := apart.sameFiles ▸ onDisk.2
          files := fun other content there => .inl (apart.files other content there)
          blobs := apart.blobs
          temps := .inl apart.sameTemps
          room := fun new => absurd onDisk.1 new }
    next missing =>
      have notOnDisk : ¬ s.OnDisk (shaOf sha256 p.bytes) := fun onDisk => missing (here.mpr onDisk)
      have new : ¬ s.HasBlob (shaOf sha256 p.bytes) := fun has => notOnDisk ⟨has, sound.files _ has⟩
      have newHere : ¬ t.HasBlob (shaOf sha256 p.bytes) := fun has => new (apart.hasBlob has)
      have stores : Ends (Apart deletions) (StoreOutcome deletions sha256 env p t) (storeBytes sha256 env p) t :=
        storeBytes_ends (apart.sound sound) newHere
      refine stores.bind ?_
      intro answer base outcome
      cases answer with
      | error e =>
        obtain ⟨soundAfter, later, c₁, c₂, first, second, temps⟩ := outcome
        refine .done (.full prepared notOnDisk first second soundAfter (apart.toLater.trans later) (temps.trans ?_))
        exact writeFull_temps_congr _ _ c₂ (writeFull_temps_congr _ _ c₁ apart.sameTemps)
      | ok _ =>
        obtain ⟨spared, inPlace⟩ := outcome
        exact insertRows_ends prepared (.inr spared) (apart.inPlace inPlace)

end

end Wavvon.Attachments
