import Wavvon.Attachments.Ingest

set_option autoImplicit false

namespace Wavvon.Attachments

open Interleaving (Handler Ends ends_exec ends_exec_bind)
open Wire (Bytes)

-- What a statement that links, deletes or evicts leaves alone in a blob.
def Blob.facts (b : Blob) : String × Kind × String × Nat := (b.sha256, b.kind, b.mime, b.sizeBytes)

namespace Store

-- The banner's attachment, or the channel that showed it, was deleted.
def TakenDown (s : Store) (id : String) : Prop := ¬ (s.IsBanner id ∧ ∃ a ∈ s.attachments, a.id = id)

def UniqueIds (s : Store) : Prop := (s.attachments.map (·.id)).Nodup

end Store

/-- A later row of the same attachment: it may have lost its blob, and never comes back to life. -/
structure Attachment.Becomes (a later : Attachment) : Prop where
  id : later.id = a.id
  asFile : later.asFile = a.asFile
  sha256 : later.sha256 = a.sha256 ∨ later.sha256 = none
  live : later.Live → a.Live ∧ later.sha256 = a.sha256

/--
How the rows and the channels move on when none is added. A banner's attachment stays alive, and on its
blob while that is one of `kept`, unless a deletion took it or its channel.
-/
structure Keeps (deletions : Prop) (kept : String → Prop) (s s' : Store) : Prop where
  settings : s'.settings = s.settings
  rows : ∀ later ∈ s'.attachments, ∃ a ∈ s.attachments, a.Becomes later
  channels : ∀ c ∈ s'.channels, c ∈ s.channels
  allChannels : ¬ deletions → s'.channels = s.channels
  unique : s.UniqueIds → s'.UniqueIds
  banners : s.UniqueIds → ∀ a ∈ s.attachments, s.IsBanner a.id →
    (∃ later ∈ s'.attachments, later.id = a.id ∧ (a.Live → later.Live ∧ later.sha256 = a.sha256) ∧
        ∀ sha, a.sha256 = some sha → kept sha → later.sha256 = some sha) ∨
      deletions ∧ s'.TakenDown a.id

/-- A state that cleaning up, or a transaction outside the lock, may lead to: no blob and no file is new. -/
structure Later (deletions : Prop) (s s' : Store) : Prop extends Keeps deletions s'.HasBlob s s' where
  files : ∀ (sha : String) (bytes : Bytes), s'.files[sha]? = some bytes → s.files[sha]? = some bytes
  blobs : ∀ later ∈ s'.blobs, ∃ b ∈ s.blobs, later.facts = b.facts

section

variable {deletions : Prop} {s t u : Store} {sha : String}

theorem Attachment.Becomes.refl (a : Attachment) : a.Becomes a := ⟨rfl, rfl, .inl rfl, fun live => ⟨live, rfl⟩⟩

theorem Attachment.Becomes.trans {a b c : Attachment} (first : a.Becomes b) (second : b.Becomes c) : a.Becomes c where
  id := second.id.trans first.id
  asFile := second.asFile.trans first.asFile
  sha256 := by
    rcases second.sha256 with same | gone
    · rw [same]
      exact first.sha256
    · exact .inr gone
  live := by
    intro live
    obtain ⟨before, same⟩ := second.live live
    exact ⟨(first.live before).1, same.trans (first.live before).2⟩

section

variable {kept keptAfter : String → Prop}

-- The same rows and channels.
theorem Keeps.of_eq (deletions : Prop) (kept : String → Prop) (settings : t.settings = s.settings)
    (rows : t.attachments = s.attachments) (channels : t.channels = s.channels) : Keeps deletions kept s t where
  settings := settings
  rows a member := ⟨a, rows ▸ member, .refl a⟩
  channels _ member := channels ▸ member
  allChannels _ := channels
  unique ids := by
    unfold Store.UniqueIds
    rwa [rows]
  banners _ a member _ := .inl ⟨a, rows ▸ member, rfl, fun live => ⟨live, rfl⟩, fun _ held _ => held⟩

theorem Keeps.isBanner (keeps : Keeps deletions kept s t) {id : String} (banner : t.IsBanner id) : s.IsBanner id := by
  obtain ⟨c, member, shows⟩ := banner
  exact ⟨c, keeps.channels c member, shows⟩

theorem Keeps.heldByBanner (keeps : Keeps deletions kept s t) (held : t.HeldByBanner sha) : s.HeldByBanner sha := by
  obtain ⟨a, member, stored, banner⟩ := held
  obtain ⟨before, found, becomes⟩ := keeps.rows a member
  rw [becomes.id] at banner
  rcases becomes.sha256 with same | gone
  · exact ⟨before, found, same.symm.trans stored, keeps.isBanner banner⟩
  · rw [gone] at stored
    cases stored

theorem Keeps.wanted (keeps : Keeps deletions kept s t) (wanted : t.Wanted sha) : s.Wanted sha := by
  obtain ⟨a, member, stored, live⟩ := wanted
  obtain ⟨before, found, becomes⟩ := keeps.rows a member
  exact ⟨before, found, (becomes.live live).2.symm.trans stored, (becomes.live live).1⟩

theorem Keeps.takenDown (keeps : Keeps deletions kept s t) {id : String} (down : s.TakenDown id) : t.TakenDown id := by
  rintro ⟨banner, a, member, rfl⟩
  obtain ⟨before, found, becomes⟩ := keeps.rows a member
  exact down ⟨keeps.isBanner banner, before, found, becomes.id.symm⟩

theorem Keeps.capBytes (keeps : Keeps deletions kept s t) : t.capBytes = s.capBytes := by
  unfold Store.capBytes Store.readSetting
  rw [keeps.settings]

theorem Keeps.trans (first : Keeps deletions kept s t) (second : Keeps deletions keptAfter t u)
    (fewer : ∀ sha, keptAfter sha → kept sha) : Keeps deletions keptAfter s u where
  settings := second.settings.trans first.settings
  rows := by
    intro later member
    obtain ⟨between, found, becomes⟩ := second.rows later member
    obtain ⟨before, original, becomesBefore⟩ := first.rows between found
    exact ⟨before, original, becomesBefore.trans becomes⟩
  channels c member := first.channels c (second.channels c member)
  allChannels none := (second.allChannels none).trans (first.allChannels none)
  unique ids := second.unique (first.unique ids)
  banners := by
    intro ids a member banner
    rcases first.banners ids a member banner with ⟨between, found, sameId, live, stays⟩ | ⟨deleted, down⟩
    · by_cases still : t.IsBanner a.id
      · rcases second.banners (first.unique ids) between found (sameId ▸ still) with
          ⟨later, last, sameLast, liveLast, staysLast⟩ | taken
        · refine .inl ⟨later, last, sameLast.trans sameId, ?_, ?_⟩
          · intro wasLive
            obtain ⟨liveBetween, sameSha⟩ := live wasLive
            exact ⟨(liveLast liveBetween).1, (liveLast liveBetween).2.trans sameSha⟩
          · intro sha stored keep
            exact staysLast sha (stays sha stored (fewer sha keep)) keep
        · exact .inr ⟨taken.1, sameId ▸ taken.2⟩
      · refine .inr ⟨?_, fun shown => still (second.isBanner shown.1)⟩
        by_contra none
        obtain ⟨c, listed, shows⟩ := banner
        exact still ⟨c, first.allChannels none ▸ listed, shows⟩
    · exact .inr ⟨deleted, second.takenDown down⟩

end

theorem Later.refl (deletions : Prop) (s : Store) : Later deletions s s where
  toKeeps := .of_eq deletions _ rfl rfl rfl
  files _ _ found := found
  blobs b member := ⟨b, member, rfl⟩

theorem Later.hasBlob (later : Later deletions s t) (has : t.HasBlob sha) : s.HasBlob sha := by
  obtain ⟨b, member, rfl⟩ := has
  obtain ⟨before, found, same⟩ := later.blobs b member
  exact ⟨before, found, (congrArg Prod.fst same).symm⟩

theorem Later.trans (first : Later deletions s t) (second : Later deletions t u) : Later deletions s u where
  toKeeps := first.toKeeps.trans second.toKeeps fun _ => second.hasBlob
  files sha bytes found := first.files sha bytes (second.files sha bytes found)
  blobs := by
    intro later member
    obtain ⟨between, found, same⟩ := second.blobs later member
    obtain ⟨before, original, sameBefore⟩ := first.blobs between found
    exact ⟨before, original, same.trans sameBefore⟩

end

/-- What a transaction outside the lock may do: it touches no file, and of the blobs only when they were last linked. -/
structure Apart (deletions : Prop) (s s' : Store) : Prop extends Later deletions s s' where
  sameFiles : s'.files = s.files
  sameTemps : s'.temps = s.temps
  sameBlobs : s'.blobs.map Blob.facts = s.blobs.map Blob.facts

section

variable {deletions : Prop} {s t u : Store} {sha : String}

theorem Apart.refl (deletions : Prop) (s : Store) : Apart deletions s s := ⟨.refl deletions s, rfl, rfl, rfl⟩

theorem Apart.trans (first : Apart deletions s t) (second : Apart deletions t u) : Apart deletions s u :=
  ⟨first.toLater.trans second.toLater, second.sameFiles.trans first.sameFiles, second.sameTemps.trans first.sameTemps,
    second.sameBlobs.trans first.sameBlobs⟩

theorem hasBlob_iff : s.HasBlob sha ↔ sha ∈ (s.blobs.map Blob.facts).map Prod.fst := by
  simp [Store.HasBlob, Blob.facts]

theorem Apart.hasBlob_iff (apart : Apart deletions s t) : t.HasBlob sha ↔ s.HasBlob sha := by
  rw [Attachments.hasBlob_iff, apart.sameBlobs, ← Attachments.hasBlob_iff]

theorem usedBytes_eq (s : Store) : s.usedBytes = ((s.blobs.map Blob.facts).map fun b => b.2.2.2).sum := by
  simp [Store.usedBytes, Blob.facts, Function.comp_def]

theorem Apart.usedBytes (apart : Apart deletions s t) : t.usedBytes = s.usedBytes := by
  rw [usedBytes_eq, apart.sameBlobs, ← usedBytes_eq]

theorem Apart.length (apart : Apart deletions s t) : t.blobs.length = s.blobs.length := by
  simpa using congrArg List.length apart.sameBlobs

-- Rows rewritten in place: a banner's keeps its life, and its blob while the blob is there.
theorem later_map (deletions : Prop) (s : Store) (f : Attachment → Attachment) {blobs : List Blob} {files : Table Bytes}
    (fewerFiles : ∀ (sha : String) (bytes : Bytes), files[sha]? = some bytes → s.files[sha]? = some bytes)
    (fewerBlobs : ∀ later ∈ blobs, ∃ b ∈ s.blobs, later.facts = b.facts)
    (becomes : ∀ a ∈ s.attachments, a.Becomes (f a))
    (kept : ∀ a ∈ s.attachments, s.IsBanner a.id → (a.Live → (f a).Live) ∧
      ∀ sha, a.sha256 = some sha → (∃ b ∈ blobs, b.sha256 = sha) → (f a).sha256 = some sha) :
    Later deletions s { s with attachments := s.attachments.map f, blobs := blobs, files := files } where
  settings := rfl
  files := fewerFiles
  blobs := fewerBlobs
  rows := by
    intro later member
    obtain ⟨a, found, rfl⟩ := List.mem_map.mp member
    exact ⟨a, found, becomes a found⟩
  channels _ member := member
  allChannels _ := rfl
  unique := by
    intro ids
    have same : ((s.attachments.map f).map (·.id)) = s.attachments.map (·.id) := by
      rw [List.map_map]
      exact List.map_congr_left fun a member => (becomes a member).id
    unfold Store.UniqueIds
    rwa [same]
  banners := by
    intro _ a member banner
    obtain ⟨live, stored⟩ := kept a member banner
    refine .inl ⟨f a, List.mem_map_of_mem member, (becomes a member).id, ?_, stored⟩
    intro wasLive
    exact ⟨live wasLive, ((becomes a member).live (live wasLive)).2⟩

-- Rows deleted: a banner's only by a deletion.
theorem later_filter {deletions : Prop} {s : Store} {keep : Attachment → Bool} {channels : List ChannelRow}
    (fewer : ∀ c ∈ channels, c ∈ s.channels) (same : ¬ deletions → channels = s.channels)
    (kept : ∀ a ∈ s.attachments, s.IsBanner a.id → keep a = true ∨ deletions) :
    Later deletions s { s with channels := channels, attachments := s.attachments.filter keep } where
  settings := rfl
  files _ _ found := found
  blobs b member := ⟨b, member, rfl⟩
  rows a member := ⟨a, (List.mem_filter.mp member).1, .refl a⟩
  channels := fewer
  allChannels := same
  unique ids := ids.sublist (List.filter_sublist.map _)
  banners := by
    intro ids a member banner
    by_cases stays : keep a = true
    · exact .inl ⟨a, List.mem_filter.mpr ⟨member, stays⟩, rfl, fun live => ⟨live, rfl⟩, fun _ held _ => held⟩
    · refine .inr ⟨(kept a member banner).resolve_left stays, ?_⟩
      rintro ⟨-, other, found, sameId⟩
      obtain ⟨listed, passes⟩ := List.mem_filter.mp found
      rw [List.inj_on_of_nodup_map ids listed member sameId] at passes
      exact stays passes

theorem linkOne_apart (deletions : Prop) (s : Store) (owner : Owner) (ownerId id : String) (position : Nat) :
    Apart deletions s (s.linkOne owner ownerId id position) := by
  refine ⟨later_map deletions s _ (fun _ _ found => found) (fun b member => ⟨b, member, rfl⟩) ?_ ?_, rfl, rfl, rfl⟩
  · intro a _
    split
    next => cases owner <;> exact ⟨rfl, rfl, .inl rfl, fun live => ⟨live, rfl⟩⟩
    next => exact .refl a
  · intro a _ _
    split
    next => cases owner <;> exact ⟨fun live => live, fun _ held _ => held⟩
    next => exact ⟨fun live => live, fun _ held _ => held⟩

theorem linkEach_apart (deletions : Prop) {s linked : Store} {owner : Owner} {ownerId : String} {ids : List String}
    {position : Nat} (ok : s.linkEach owner ownerId ids position = .ok linked) : Apart deletions s linked := by
  induction ids generalizing s position with
  | nil =>
    cases ok
    exact .refl deletions _
  | cons id rest ih =>
    obtain ⟨-, ok⟩ := Checks.refuse_ok ok
    exact (linkOne_apart deletions _ owner ownerId id position).trans (ih ok)

theorem touchBlobs_facts (s : Store) (ids : List String) (now : Int) :
    (s.touchBlobs ids now).blobs.map Blob.facts = s.blobs.map Blob.facts := by
  rw [Store.touchBlobs, List.map_map]
  refine List.map_congr_left ?_
  intro b _
  simp only [Function.comp_apply]
  split <;> rfl

theorem touchBlobs_apart (deletions : Prop) (s : Store) (ids : List String) (now : Int) :
    Apart deletions s (s.touchBlobs ids now) := by
  refine ⟨⟨.of_eq deletions _ rfl rfl rfl, fun _ _ found => found, ?_⟩, rfl, rfl, touchBlobs_facts s ids now⟩
  intro later member
  have listed : later.facts ∈ (s.touchBlobs ids now).blobs.map Blob.facts := List.mem_map_of_mem member
  rw [touchBlobs_facts, List.mem_map] at listed
  obtain ⟨b, found, same⟩ := listed
  exact ⟨b, found, same.symm⟩

theorem link_apart (deletions : Prop) {s linked : Store} {owner : Owner} {ownerId : String} {ids : List String}
    {now : Int} (ok : s.link owner ownerId ids now = .ok linked) : Apart deletions s linked := by
  unfold Store.link at ok
  split at ok
  next =>
    cases ok
    exact .refl deletions s
  next =>
    obtain ⟨between, each, touched⟩ := Checks.bind_ok ok
    cases touched
    exact (linkEach_apart deletions each).trans (touchBlobs_apart deletions between ids now)

-- A transaction outside the lock keeps to its part.
theorem aside_apart {deletions : Prop} (s : Store) {e : Aside} (allowed : e.IsDeletion → deletions) :
    Apart deletions s (s.aside e) := by
  cases e with
  | link owner ownerId ids now =>
    simp only [Store.aside]
    split
    next linked ok => exact link_apart deletions ok
    next => exact .refl deletions s
  | deleteOwner owner ownerId =>
    have deleted : deletions := allowed trivial
    exact ⟨later_filter (fun _ member => member) (fun _ => rfl) fun _ _ _ => .inr deleted, rfl, rfl, rfl⟩
  | deleteChannel channelId =>
    have deleted : deletions := allowed trivial
    refine ⟨later_filter ?_ (fun none => absurd deleted none) fun _ _ _ => .inr deleted, rfl, rfl, rfl⟩
    intro c member
    exact (List.mem_filter.mp member).1

end

end Wavvon.Attachments
