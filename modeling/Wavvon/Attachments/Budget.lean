import Wavvon.Attachments.Outcomes

set_option autoImplicit false

namespace Wavvon.Attachments

open Wire (Bytes)

/-- Live rows have their blob and its file; a file has a blob row, and no temporary file is left. -/
structure Consistent (s : Store) : Prop where
  live : ∀ a ∈ s.attachments, a.Live → ∃ sha, a.sha256 = some sha ∧ s.HasBlob sha ∧ sha ∈ s.files
  files : ∀ sha, sha ∈ s.files → s.HasBlob sha
  temps : s.temps = []

-- The banner's attachment is alive on its blob, unless a deletion came in between and took it or its channel.
def Stands (deletions : Prop) (a : Attachment) (s : Store) : Prop :=
  (s.IsBanner a.id ∧ ∃ later ∈ s.attachments, later.id = a.id ∧ later.Live ∧ later.sha256 = a.sha256) ∨
    deletions ∧ s.TakenDown a.id

def BannersStand (deletions : Prop) (excepted : Option String) (s s' : Store) : Prop :=
  ∀ a ∈ s.attachments, a.Live → s.IsBanner a.id → excepted ≠ some a.id → Stands deletions a s'

def Step.Deletes (a : Step) : Prop := ∃ batch ∈ a.amid, ∃ e ∈ batch, e.IsDeletion

-- Both attempts to write the blob ran out of space, and one of them had created the temporary file.
def IngestEnv.LeavesTemp (env : IngestEnv) : Prop :=
  match env.first, env.second with
  | .full c₁, .full c₂ => c₁ = true ∨ c₂ = true
  | _, _ => False

section

variable {deletions : Prop} {s t : Store}

theorem insertBlob_hasBlob (s : Store) (new : Blob) (sha : String) :
    (s.insertBlob new).HasBlob sha ↔ s.HasBlob sha ∨ sha = new.sha256 := by
  unfold Store.insertBlob
  by_cases has : s.HasBlob new.sha256
  · rw [if_pos has]
    have same : ∀ b : Blob, (if b.sha256 = new.sha256 then b.upload new else b).sha256 = b.sha256 := by
      intro b
      split <;> rfl
    constructor
    · rintro ⟨later, member, rfl⟩
      obtain ⟨b, found, rfl⟩ := List.mem_map.mp member
      exact .inl ⟨b, found, (same b).symm⟩
    · rintro (⟨b, found, rfl⟩ | rfl)
      · exact ⟨_, List.mem_map_of_mem found, same b⟩
      · obtain ⟨b, found, held⟩ := has
        exact ⟨_, List.mem_map_of_mem found, (same b).trans held⟩
  · rw [if_neg has]
    simp only [Store.HasBlob, List.mem_cons, exists_eq_or_imp]
    rw [or_comm, eq_comm]

theorem insertBlob_keys (s : Store) (new : Blob) (keys : (s.blobs.map (·.sha256)).Nodup) :
    ((s.insertBlob new).blobs.map (·.sha256)).Nodup := by
  unfold Store.insertBlob
  split
  next =>
    have same : (s.blobs.map fun b => if b.sha256 = new.sha256 then b.upload new else b).map (·.sha256) =
        s.blobs.map (·.sha256) := by
      rw [List.map_map]
      refine List.map_congr_left ?_
      intro b _
      simp only [Function.comp_apply]
      split <;> rfl
    exact same ▸ keys
  next none =>
    refine List.nodup_cons.mpr ⟨?_, keys⟩
    intro member
    obtain ⟨b, found, same⟩ := List.mem_map.mp member
    exact none ⟨b, found, same⟩

theorem insertBlob_new {new : Blob} (none : ¬ s.HasBlob new.sha256) :
    s.insertBlob new = { s with blobs := new :: s.blobs } := by
  rw [Store.insertBlob, if_neg none]

theorem InPlace.inserted_keeps {sha : String} {bytes : Bytes} {base listed : Store}
    (inPlace : InPlace deletions sha bytes s base) (before : Apart deletions base listed) (new : Blob) :
    Keeps deletions (fun _ => False) s (listed.insertBlob new) :=
  (inPlace.keeps.trans before.toLater.keepsOnly fun _ never => never).trans (.of_eq deletions _ rfl rfl rfl)
    fun _ never => never

theorem insertBlob_sound {extra : List String} {new : Blob} (sound : Sound extra s) (present : new.sha256 ∈ s.files)
    (only : ∀ sha ∈ extra, sha = new.sha256) : Sound [] (s.insertBlob new) where
  keys := insertBlob_keys s new sound.keys
  ids := sound.ids
  live := by
    intro a member live
    obtain ⟨sha, stored, has⟩ := sound.live a member live
    exact ⟨sha, stored, (insertBlob_hasBlob s new sha).mpr (.inl has)⟩
  files := by
    intro sha has
    rcases (insertBlob_hasBlob s new sha).mp has with old | rfl
    · exact sound.files sha old
    · exact present
  blobs := by
    intro sha file
    refine .inl ((insertBlob_hasBlob s new sha).mpr ?_)
    exact (sound.blobs sha file).imp_right (only sha)
  extra := by simp

theorem insertAttachment_cases (s : Store) (a : Attachment) :
    (s.insertAttachment a).1 = s ∨
      a.id ∉ s.attachments.map (·.id) ∧ (s.insertAttachment a).1 = { s with attachments := a :: s.attachments } := by
  unfold Store.insertAttachment
  split
  next => exact .inl rfl
  next fresh =>
    split
    next => exact .inl rfl
    next =>
      refine .inr ⟨?_, rfl⟩
      intro member
      obtain ⟨other, found, same⟩ := List.mem_map.mp member
      exact fresh ⟨other, found, same⟩

theorem insertAttachment_sound {a : Attachment} {sha : String} (sound : Sound [] s) (stored : a.sha256 = some sha)
    (has : s.HasBlob sha) : Sound [] (s.insertAttachment a).1 := by
  rcases insertAttachment_cases s a with same | ⟨fresh, added⟩
  · rwa [same]
  rw [added]
  exact
    { sound with
      ids := List.nodup_cons.mpr ⟨fresh, sound.ids⟩
      live := by
        intro row member live
        rcases List.mem_cons.mp member with rfl | old
        · exact ⟨sha, stored, has⟩
        · exact sound.live row old live }

theorem Stands.start {a : Attachment} (member : a ∈ s.attachments) (live : a.Live) (banner : s.IsBanner a.id) :
    Stands deletions a s :=
  .inl ⟨banner, a, member, rfl, live, rfl⟩

theorem Stands.keeps {a : Attachment} {kept : String → Prop} (stands : Stands deletions a s) (ids : s.UniqueIds)
    (keeps : Keeps deletions kept s t) : Stands deletions a t := by
  rcases stands with ⟨banner, later, member, sameId, live, sameSha⟩ | ⟨deleted, down⟩
  · by_cases gone : deletions ∧ t.TakenDown a.id
    · exact .inr gone
    rcases keeps.banners ids later member (sameId ▸ banner) with ⟨last, found, sameLast, alive, -⟩ | taken
    · refine .inl ⟨?_, last, found, sameLast.trans sameId, (alive live).1, (alive live).2.trans sameSha⟩
      by_contra hidden
      refine gone ⟨?_, fun shown => hidden shown.1⟩
      by_contra none
      obtain ⟨c, listed, shows⟩ := banner
      exact hidden ⟨c, keeps.allChannels none ▸ listed, shows⟩
    · exact absurd (sameId ▸ taken) gone
  · exact .inr ⟨deleted, keeps.takenDown down⟩

theorem Stands.insertAttachment {a new : Attachment} (stands : Stands deletions a s) (other : a.id ≠ new.id) :
    Stands deletions a (s.insertAttachment new).1 := by
  rcases insertAttachment_cases s new with same | ⟨-, added⟩
  · rwa [same]
  rw [added]
  rcases stands with ⟨banner, later, member, held⟩ | ⟨deleted, down⟩
  · exact .inl ⟨banner, later, List.mem_cons_of_mem new member, held⟩
  · refine .inr ⟨deleted, ?_⟩
    rintro ⟨banner, later, member, sameId⟩
    rcases List.mem_cons.mp member with rfl | old
    · exact other sameId.symm
    · exact down ⟨banner, later, old, sameId⟩

theorem tombstone_ids (s : Store) (id : String) (now : Int) :
    (s.tombstone id now).attachments.map (·.id) = s.attachments.map (·.id) := by
  rw [Store.tombstone, List.map_map]
  refine List.map_congr_left ?_
  intro a _
  simp only [Function.comp_apply]
  split <;> rfl

theorem tombstone_sound {extra : List String} (sound : Sound extra s) (id : String) (now : Int) :
    Sound extra (s.tombstone id now) :=
  { sound with
    ids := by
      unfold Store.UniqueIds
      rw [tombstone_ids]
      exact sound.ids
    live := by
      intro later member live
      obtain ⟨a, found, rfl⟩ := List.mem_map.mp member
      split at live
      next removed =>
        have none := live.1
        simp at none
      next other =>
        rw [if_neg other]
        exact sound.live a found live }

theorem Stands.tombstone {a : Attachment} {id : String} (stands : Stands deletions a s) (other : a.id ≠ id)
    (now : Int) : Stands deletions a (s.tombstone id now) := by
  rcases stands with ⟨banner, later, member, sameId, held⟩ | ⟨deleted, down⟩
  · refine .inl ⟨banner, later, List.mem_map.mpr ⟨later, member, ?_⟩, sameId, held⟩
    rw [if_neg (sameId ▸ other)]
  · refine .inr ⟨deleted, ?_⟩
    rintro ⟨banner, later, member, sameId⟩
    have listed : later.id ∈ (s.tombstone id now).attachments.map (·.id) := List.mem_map_of_mem member
    rw [tombstone_ids] at listed
    obtain ⟨before, found, same⟩ := List.mem_map.mp listed
    exact down ⟨banner, before, found, same.trans sameId⟩

end

section

variable {Rgba : Type} (crate : ImageCrate Rgba) (sha256 : Bytes → Vector UInt8 32)

-- After an upload whose blob is new, the blobs fit the budget or banners hold all the others.
def WithinBudget (deletions : Prop) (up : Upload) (env : IngestEnv) (s s' : Store) : Prop :=
  ∀ p, prepare crate env.task up = .ok p → ¬ s.HasBlob (shaOf sha256 p.bytes) → s'.HasBlob (shaOf sha256 p.bytes) →
    s'.usedBytes ≤ s'.capBytes ∨ AllHeld deletions s (· = shaOf sha256 p.bytes) s'

/--
What a step owes: no banner's attachment is evicted or expired (the one that is removed, or an id drawn
twice, apart), and an upload keeps to the budget.
-/
def Fair (s : Store) (a : Step) : Prop :=
  match a with
  | .ingest up env _ =>
    BannersStand a.Deletes (some env.id) s (step crate sha256 s a) ∧
      WithinBudget crate sha256 a.Deletes up env s (step crate sha256 s a)
  | .remove id _ _ => BannersStand a.Deletes (some id) s (step crate sha256 s a)
  | .sweep _ _ => BannersStand a.Deletes none s (step crate sha256 s a)
  | _ => True

-- No upload runs out of space twice and leaves its temporary file.
def Spared (s : Store) : Step → Prop
  | .ingest up env _ =>
    ∀ p, prepare crate env.task up = .ok p → ¬ s.OnDisk (shaOf sha256 p.bytes) → ¬ env.LeavesTemp
  | _ => True

variable {crate sha256} {deletions : Prop} {up : Upload} {env : IngestEnv} {s t : Store}

theorem InPlace.listed_sound {sha : String} {bytes : Bytes} {base listed : Store} {new : Blob}
    (inPlace : InPlace deletions sha bytes s base) (before : Apart deletions base listed) (same : new.sha256 = sha) :
    Sound [] (listed.insertBlob new) := by
  have present : new.sha256 ∈ listed.files := by
    rw [before.sameFiles, same]
    exact inPlace.present
  rcases inPlace.sound with sound | sound
  · exact insertBlob_sound (before.sound sound) present (by simp)
  · exact insertBlob_sound (before.sound sound) present (by simp [same])

theorem Ingested.sound (ingested : Ingested crate sha256 deletions up env s t) (sound : Sound [] s) : Sound [] t := by
  cases ingested with
  | refused _ => exact sound
  | full _ _ _ _ soundAfter _ _ => exact soundAfter
  | stored _ _ inPlace before between =>
    refine insertAttachment_sound (between.sound (inPlace.listed_sound before rfl)) rfl ?_
    exact between.hasBlob_iff.mpr ((insertBlob_hasBlob _ _ _).mpr (.inr rfl))

theorem Ingested.stands (ingested : Ingested crate sha256 deletions up env s t) (sound : Sound [] s) :
    BannersStand deletions (some env.id) s t := by
  intro a member live banner other
  have start : Stands deletions a s := .start member live banner
  cases ingested with
  | refused _ => exact start
  | full _ _ _ _ _ later _ => exact start.keeps sound.ids later.toKeeps
  | stored _ _ inPlace before between =>
    have keeps := inPlace.inserted_keeps before
    refine ((start.keeps sound.ids (keeps _)).keeps ((keeps _).unique sound.ids) between.toKeeps).insertAttachment ?_
    exact fun same => other (congrArg some same.symm)

theorem withinBudget_insertAttachment {excepted kept : String → Prop} {filed : Store} {a : Attachment}
    (keeps : Keeps deletions kept s filed)
    (within : filed.usedBytes ≤ s.capBytes ∨ AllHeld deletions s excepted filed) :
    (filed.insertAttachment a).1.usedBytes ≤ (filed.insertAttachment a).1.capBytes ∨
      AllHeld deletions s excepted (filed.insertAttachment a).1 := by
  rw [← keeps.capBytes] at within
  rcases insertAttachment_cases filed a with same | ⟨-, added⟩
  · rwa [same]
  rw [added]
  refine within.imp_right ?_
  intro held b member other
  refine (held b member other).imp_left ?_
  rintro ⟨row, listed, stored⟩
  exact ⟨row, List.mem_cons_of_mem a listed, stored⟩

theorem Ingested.within (ingested : Ingested crate sha256 deletions up env s t) (sound : Sound [] s) :
    WithinBudget crate sha256 deletions up env s t := by
  intro p prepared new stored
  cases ingested with
  | refused refusal => cases refusal.symm.trans prepared
  | full _ _ _ _ _ later _ => exact absurd (later.hasBlob stored) new
  | @stored q base listed filed preparedHere _ inPlace before between =>
    cases preparedHere.symm.trans prepared
    have idsBase := inPlace.keeps.unique sound.ids
    have room := (inPlace.room new).later idsBase inPlace.keeps before.toLater (le_of_eq before.usedBytes)
    have newHere : ¬ listed.HasBlob (shaOf sha256 p.bytes) := by
      intro has
      obtain ⟨b, member, same⟩ := before.hasBlob has
      obtain ⟨old, found, sameFacts⟩ := inPlace.blobs b member
      exact new ⟨old, found, (congrArg Prod.fst sameFacts).symm.trans same⟩
    have inserted : listed.insertBlob (blobOf sha256 p env.now) =
        { listed with blobs := blobOf sha256 p env.now :: listed.blobs } := insertBlob_new newHere
    have keepsInserted := inPlace.inserted_keeps before (blobOf sha256 p env.now)
    have soundInserted : Sound [] (listed.insertBlob (blobOf sha256 p env.now)) := inPlace.listed_sound before rfl
    refine withinBudget_insertAttachment (keepsInserted.trans between.toLater.keepsOnly fun _ never => never) ?_
    rcases room with fits | held
    · refine .inl ?_
      rw [between.usedBytes, inserted]
      simp only [Store.usedBytes, List.map_cons, List.sum_cons] at fits ⊢
      simp only [blobOf]
      omega
    · refine .inr (AllHeld.later ?_ soundInserted.ids keepsInserted between.toLater)
      intro b member other
      rw [inserted] at member
      rcases List.mem_cons.mp member with rfl | old
      · exact absurd rfl other
      · exact held b old (fun never => never)

theorem IngestEnv.LeavesTemp.bothFull (leaves : env.LeavesTemp) : env.BothFull := by
  unfold IngestEnv.LeavesTemp at leaves
  cases first : env.first with
  | written => simp [first] at leaves
  | full c₁ =>
    cases second : env.second with
    | written => simp [first, second] at leaves
    | full c₂ => exact ⟨c₁, c₂, first, second⟩

theorem Ingested.temps (ingested : Ingested crate sha256 deletions up env s t) (none : s.temps = [])
    (amid : List (List Aside)) : t.temps = [] ↔ Spared crate sha256 s (.ingest up env amid) := by
  cases ingested with
  | refused refusal =>
    refine iff_of_true none ?_
    intro p prepared
    cases refusal.symm.trans prepared
  | @full p _ c₁ c₂ prepared new first second _ _ temps =>
    have left : t.temps = [] ↔ ¬ env.LeavesTemp := by
      rw [temps, IngestEnv.LeavesTemp, first, second]
      cases c₁ <;> cases c₂ <;> simp [Store.writeBlob, none]
    rw [left]
    constructor
    · intro spared q preparedToo _
      exact spared
    · intro spared
      exact spared p prepared new
  | @stored p base listed filed prepared room inPlace before between =>
    have empty : base.temps = [] := by
      rcases inPlace.temps with same | fewer
      · rw [same, none]
      · rw [fewer, none, List.filter_nil]
    have filedTemps : filed.temps = [] := between.sameTemps.trans (before.sameTemps.trans empty)
    refine iff_of_true ?_ ?_
    · rcases insertAttachment_cases filed (attachmentOf sha256 up env p) with same | ⟨-, added⟩
      · rwa [same]
      · rwa [added]
    · intro q preparedToo new leaves
      cases prepared.symm.trans preparedToo
      exact room.elim new fun spared => spared leaves.bothFull

-- What an operation promises holds after the step, whatever transactions the step lists in between.
theorem step_ends {A : Type} {post : A → Store → Prop} {operation : Locked A} (a : Step)
    (ends : Interleaving.Ends (Apart a.Deletes) post operation s) :
    post (operation.amid Store.aside a.amid s).2 (operation.amid Store.aside a.amid s).1 := by
  refine ends.amid (.refl a.Deletes) Apart.trans ?_
  intro batch member e inside s
  exact aside_apart s fun deletion => ⟨batch, member, e, inside, deletion⟩

theorem step_ingested (sound : Sound [] s) (up : Upload) (env : IngestEnv) (amid : List (List Aside)) :
    Ingested crate sha256 (Step.ingest up env amid).Deletes up env s (step crate sha256 s (.ingest up env amid)) := by
  have ends : Interleaving.Ends (Apart (Step.ingest up env amid).Deletes)
      (fun _ => Ingested crate sha256 (Step.ingest up env amid).Deletes up env s) (ingest crate sha256 up env) s :=
    ingest_ends sound up env
  have done := step_ends (Step.ingest up env amid) ends
  rw [step]
  exact done

theorem remove_ends (sound : Sound [] s) (id : String) (now : Int) :
    Interleaving.Ends (Apart deletions)
      (fun _ t => ∃ seen freed, Apart deletions s seen ∧ Freed deletions (seen.tombstone id now) freed t)
      (remove id now) s := by
  refine Interleaving.ends_exec_bind ?_
  intro seen apart
  refine (dropUnused_ends (tombstone_sound (apart.sound sound) id now) now).bind ?_
  intro freed t cleaned
  exact .done ⟨seen, freed, apart, cleaned⟩

theorem sweep_ends (sound : Sound [] s) (now : Int) :
    Interleaving.Ends (Apart deletions)
      (fun _ t => ∃ aged freed, Apart deletions s aged ∧ Freed deletions aged freed t) (sweep now) s := by
  have finish : ∀ aged, Apart deletions s aged → Interleaving.Ends (Apart deletions)
      (fun _ t => ∃ aged freed, Apart deletions s aged ∧ Freed deletions aged freed t)
      (do let _ ← dropUnused now; return ()) aged := by
    intro aged apart
    refine (dropUnused_ends (apart.sound sound) now).bind ?_
    intro freed t cleaned
    exact .done ⟨aged, freed, apart, cleaned⟩
  refine Interleaving.ends_exec_bind ?_
  intro s₁ first
  split
  next =>
    refine Interleaving.ends_exec_bind ?_
    intro s₂ second
    exact finish _ ((first.trans second).trans (expireOlder_apart deletions s₂ now _))
  next => exact finish s₁ first

theorem step_removed (crate : ImageCrate Rgba) (sha256 : Bytes → Vector UInt8 32) (sound : Sound [] s) (id : String)
    (now : Int) (amid : List (List Aside)) :
    ∃ seen freed, Apart (Step.remove id now amid).Deletes s seen ∧
      Freed (Step.remove id now amid).Deletes (seen.tombstone id now) freed
        (step crate sha256 s (.remove id now amid)) :=
  step_ends (.remove id now amid) (remove_ends sound id now)

theorem step_swept (crate : ImageCrate Rgba) (sha256 : Bytes → Vector UInt8 32) (sound : Sound [] s) (now : Int)
    (amid : List (List Aside)) :
    ∃ aged freed, Apart (Step.sweep now amid).Deletes s aged ∧
      Freed (Step.sweep now amid).Deletes aged freed (step crate sha256 s (.sweep now amid)) :=
  step_ends (.sweep now amid) (sweep_ends sound now)

theorem step_sound (sound : Sound [] s) (a : Step) : Sound [] (step crate sha256 s a) := by
  cases a with
  | ingest up env amid => exact (step_ingested sound up env amid).sound sound
  | remove id now amid =>
    obtain ⟨seen, freed, -, cleaned⟩ := step_removed crate sha256 sound id now amid
    exact cleaned.sound
  | sweep now amid =>
    obtain ⟨aged, freed, -, cleaned⟩ := step_swept crate sha256 sound now amid
    exact cleaned.sound
  | aside transaction => exact (aside_apart s fun _ => trivial).sound sound
  | createChannel channelId bannerFileId => exact { sound with }
  | setBanner channelId bannerFileId => exact { sound with }
  | setSetting key value => exact { sound with }

theorem step_fair (sound : Sound [] s) (a : Step) : Fair crate sha256 s a := by
  cases a with
  | ingest up env amid =>
    have ingested : Ingested crate sha256 (Step.ingest up env amid).Deletes up env s
        (step crate sha256 s (.ingest up env amid)) := step_ingested sound up env amid
    exact ⟨ingested.stands sound, ingested.within sound⟩
  | remove id now amid =>
    obtain ⟨seen, freed, apart, cleaned⟩ := step_removed crate sha256 sound id now amid
    intro a member live banner other
    have stands : Stands _ a seen := (Stands.start member live banner).keeps sound.ids apart.toKeeps
    refine (stands.tombstone (fun same => other (congrArg some same.symm)) now).keeps ?_ cleaned.later.toKeeps
    exact (tombstone_sound (apart.sound sound) id now).ids
  | sweep now amid =>
    obtain ⟨aged, freed, apart, cleaned⟩ := step_swept crate sha256 sound now amid
    intro a member live banner _
    exact (Stands.start member live banner).keeps sound.ids (apart.toLater.trans cleaned.later).toKeeps
  | aside transaction => trivial
  | createChannel channelId bannerFileId => trivial
  | setBanner channelId bannerFileId => trivial
  | setSetting key value => trivial

theorem step_temps (sound : Sound [] s) (none : s.temps = []) (a : Step) :
    (step crate sha256 s a).temps = [] ↔ Spared crate sha256 s a := by
  cases a with
  | ingest up env amid => exact (step_ingested sound up env amid).temps none amid
  | remove id now amid =>
    obtain ⟨seen, freed, apart, cleaned⟩ := step_removed crate sha256 sound id now amid
    exact iff_of_true (cleaned.temps.trans (apart.sameTemps.trans none)) trivial
  | sweep now amid =>
    obtain ⟨aged, freed, apart, cleaned⟩ := step_swept crate sha256 sound now amid
    exact iff_of_true (cleaned.temps.trans (apart.sameTemps.trans none)) trivial
  | aside transaction =>
    have apart : Apart True s (s.aside transaction) := aside_apart s fun _ => trivial
    exact iff_of_true (apart.sameTemps.trans none) trivial
  | createChannel channelId bannerFileId => exact iff_of_true none trivial
  | setBanner channelId bannerFileId => exact iff_of_true none trivial
  | setSetting key value => exact iff_of_true none trivial

theorem consistent_iff (sound : Sound [] s) : Consistent s ↔ s.temps = [] := by
  constructor
  · exact Consistent.temps
  · intro none
    refine ⟨?_, ?_, none⟩
    · intro a member live
      obtain ⟨sha, stored, has⟩ := sound.live a member live
      exact ⟨sha, stored, has, sound.files sha has⟩
    · intro sha present
      exact (sound.blobs sha present).resolve_right List.not_mem_nil

theorem empty_sound : Sound [] ({} : Store) where
  keys := List.nodup_nil
  ids := List.nodup_nil
  live := by simp
  files := by
    rintro sha ⟨b, member, -⟩
    cases member
  blobs := by
    intro sha present
    simp at present
  extra := by simp

theorem run_sound (crate : ImageCrate Rgba) (sha256 : Bytes → Vector UInt8 32) (acts : List Step) :
    Sound [] (Runs.run (step crate sha256) {} acts) :=
  Runs.run_invariant (Sound []) (fun _ a sound => step_sound sound a) {} empty_sound acts

/--
In every run from an empty store rows, blobs and files stay consistent, banners stand and uploads keep
to the budget exactly when no upload runs out of space twice and leaves its temporary file.
-/
theorem consistent_iff_spared (crate : ImageCrate Rgba) (sha256 : Bytes → Vector UInt8 32) (acts : List Step) :
    ((∀ front, front <+: acts → Consistent (Runs.run (step crate sha256) {} front)) ∧
        Runs.Meets (step crate sha256) (Fair crate sha256) {} acts) ↔
      Runs.Meets (step crate sha256) (Spared crate sha256) {} acts := by
  refine Runs.good_fair_iff_meets (fun s => Sound [] s ∧ s.temps = []) Consistent _ ?_ ?_ ?_ ⟨empty_sound, rfl⟩ acts
  · rintro s ⟨sound, none⟩
    exact (consistent_iff sound).mpr none
  · rintro s a ⟨sound, none⟩ spared
    exact ⟨⟨step_sound sound a, (step_temps sound none a).mpr spared⟩, step_fair sound a⟩
  · rintro s a ⟨sound, none⟩ unspared ⟨consistent, -⟩
    exact unspared ((step_temps sound none a).mp consistent.temps)

end

-- An image library that knows no format.
def noImages : ImageCrate Unit where
  guessFormat _ := .error "The image format could not be determined"
  decoder _ _ := .error "The image format could not be determined"
  dimensions _ := (0, 0)
  hasAlpha _ := false
  resize image _ _ := image
  shrink w h _ := (w, h)
  encodeJpeg _ := .error "unsupported color type"
  encodeStill _ := .error "unsupported color type"

def planUpload : Upload where
  channelId := "general"
  uploader := "ann"
  name := "plan.pdf"
  bytes := ascii "%PDF-1.4"
  asFile := true
  banner := false

-- The digest of the only upload.
def planSha256 (_ : Bytes) : Vector UInt8 32 :=
  #v[225, 111, 165, 217, 181, 25, 40, 117, 93, 184, 91, 145, 127, 2, 151, 186, 186, 242, 44, 122, 71, 233, 125, 146, 18,
    173, 171, 86, 230, 27, 160, 78]

def fullDiskRun : List Step :=
  [.createChannel "general" none,
    .ingest planUpload { id := "upload", now := 100, first := .full true, second := .full true } []]

-- A full disk refuses the upload and keeps its temporary file.
theorem full_disk_inconsistent :
    ¬ ∀ front, front <+: fullDiskRun → Consistent (Runs.run (step noImages planSha256) {} front) := by
  intro always
  exact absurd (always fullDiskRun List.prefix_rfl).temps (by decide)

end Wavvon.Attachments
