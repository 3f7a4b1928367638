import Wavvon.Attachments.Cleanup
import Mathlib.Algebra.BigOperators.Group.List.Basic

set_option autoImplicit false

namespace Wavvon.Attachments

open Interleaving (Ends ends_exec ends_exec_bind)

/--
What holds of the tables and the disk between two statements; `extra` are the files whose blob rows are
deleted already, or not there yet.
-/
structure Sound (extra : List String) (s : Store) : Prop where
  keys : (s.blobs.map (·.sha256)).Nodup
  ids : s.UniqueIds
  live : ∀ a ∈ s.attachments, a.Live → ∃ sha, a.sha256 = some sha ∧ s.HasBlob sha
  files : ∀ sha, s.HasBlob sha → sha ∈ s.files
  blobs : ∀ sha, sha ∈ s.files → s.HasBlob sha ∨ sha ∈ extra
  extra : ∀ sha ∈ extra, ¬ s.HasBlob sha

section

variable {deletions : Prop} {s t : Store} {sha : String} {extra : List String}

theorem Apart.sound (apart : Apart deletions s t) (sound : Sound extra s) : Sound extra t where
  keys := by
    have same : t.blobs.map (·.sha256) = s.blobs.map (·.sha256) := by
      simpa [Blob.facts, Function.comp_def] using congrArg (List.map Prod.fst) apart.sameBlobs
    exact same ▸ sound.keys
  ids := apart.unique sound.ids
  live := by
    intro later member live
    obtain ⟨a, found, becomes⟩ := apart.rows later member
    obtain ⟨wasLive, same⟩ := becomes.live live
    obtain ⟨sha, stored, has⟩ := sound.live a found wasLive
    exact ⟨sha, same.trans stored, apart.hasBlob_iff.mpr has⟩
  files sha has := apart.sameFiles ▸ sound.files sha (apart.hasBlob_iff.mp has)
  blobs sha present := by
    rw [apart.hasBlob_iff]
    exact sound.blobs sha (apart.sameFiles ▸ present)
  extra sha member has := sound.extra sha member (apart.hasBlob_iff.mp has)

-- Rows rewritten in place, blobs and files as they were.
theorem apart_map (deletions : Prop) (s : Store) (f : Attachment → Attachment)
    (becomes : ∀ a ∈ s.attachments, a.Becomes (f a))
    (sameSha : ∀ a ∈ s.attachments, (f a).sha256 = a.sha256)
    (kept : ∀ a ∈ s.attachments, s.IsBanner a.id → a.Live → (f a).Live) :
    Apart deletions s { s with attachments := s.attachments.map f } := by
  refine ⟨later_map deletions s f (fun _ _ found => found) (fun b member => ⟨b, member, rfl⟩) becomes ?_, rfl, rfl,
    rfl⟩
  intro a member banner
  exact ⟨kept a member banner, fun _ held _ => (sameSha a member).trans held⟩

theorem deleteOrphans_apart (deletions : Prop) (s : Store) (now : Int) : Apart deletions s (s.deleteOrphans now) := by
  refine ⟨later_filter (fun _ member => member) (fun _ => rfl) ?_, rfl, rfl, rfl⟩
  intro a _ banner
  exact .inl (by simp [banner])

theorem expired_becomes (a : Attachment) (now : Int) : a.Becomes { a with expiredAt := some now } :=
  ⟨rfl, rfl, .inl rfl, fun live => nomatch live.2⟩

theorem expireOlder_apart (deletions : Prop) (s : Store) (now before : Int) :
    Apart deletions s (s.expireOlder now before) := by
  apply apart_map
  · intro a _
    split
    next => exact expired_becomes a now
    next => exact .refl a
  · intro a _
    split <;> rfl
  · intro a _ banner live
    rwa [if_neg fun expires => expires.2.2 banner]

theorem expireBlob_apart (deletions : Prop) {s : Store} {sha : String} (free : ¬ s.HeldByBanner sha) (now : Int) :
    Apart deletions s (s.expireBlob sha now) := by
  apply apart_map
  · intro a _
    split
    next => exact expired_becomes a now
    next => exact .refl a
  · intro a _
    split <;> rfl
  · intro a member banner live
    rwa [if_neg fun expires => free ⟨a, member, expires.1, banner⟩]

theorem expireBlob_unwanted (s : Store) (sha : String) (now : Int) : ¬ (s.expireBlob sha now).Wanted sha := by
  rintro ⟨later, member, stored, live⟩
  obtain ⟨a, -, rfl⟩ := List.mem_map.mp member
  split at stored
  next expired =>
    rw [if_pos expired] at live
    cases live.2
  next other =>
    rw [if_neg other] at live
    exact other ⟨stored, live⟩

theorem sizes_split (blobs : List Blob) (p : Blob → Bool) :
    ((blobs.filter p).map (·.sizeBytes)).sum + ((blobs.filter fun b => !p b).map (·.sizeBytes)).sum =
      (blobs.map (·.sizeBytes)).sum := by
  rw [← List.sum_append, ← List.map_append]
  exact ((List.filter_append_perm p blobs).map _).sum_eq

theorem deleteUnusedBlobs_later (deletions : Prop) (s : Store) : Later deletions s s.deleteUnusedBlobs := by
  have unwanted : ∀ sha, (∃ b ∈ s.unusedBlobs, sha = b.sha256) → ¬ s.Wanted sha := by
    rintro _ ⟨b, unused, rfl⟩
    simpa using (List.mem_filter.mp unused).2
  apply later_map deletions s _ (fun _ _ found => found)
  · intro b member
    exact ⟨b, (List.mem_filter.mp member).1, rfl⟩
  · intro a member
    split
    next forgotten =>
      obtain ⟨b, unused, stored⟩ := forgotten
      refine ⟨rfl, rfl, .inr rfl, ?_⟩
      intro live
      exact absurd ⟨a, member, stored, live⟩ (unwanted b.sha256 ⟨b, unused, rfl⟩)
    next => exact .refl a
  · intro a member _
    split
    next forgotten =>
      refine ⟨fun live => live, ?_⟩
      rintro sha stored ⟨b, kept, rfl⟩
      obtain ⟨gone, unused, same⟩ := forgotten
      have wanted : s.Wanted b.sha256 := by simpa using (List.mem_filter.mp kept).2
      exact absurd wanted (unwanted b.sha256 ⟨gone, unused, Option.some.inj (stored.symm.trans same)⟩)
    next => exact ⟨fun live => live, fun _ held _ => held⟩

theorem deleteUnusedBlobs_used (s : Store) :
    s.deleteUnusedBlobs.usedBytes + (s.unusedBlobs.map (·.sizeBytes)).sum = s.usedBytes := by
  simpa [Store.usedBytes, Store.deleteUnusedBlobs, Store.unusedBlobs] using
    sizes_split s.blobs fun b => decide (s.Wanted b.sha256)

theorem deleteUnusedBlobs_sound (sound : Sound extra s) :
    Sound (s.unusedBlobs.map (·.sha256) ++ extra) s.deleteUnusedBlobs where
  keys := sound.keys.sublist (List.filter_sublist.map _)
  ids := (deleteUnusedBlobs_later True s).unique sound.ids
  live := by
    intro later member live
    obtain ⟨a, found, becomes⟩ := (deleteUnusedBlobs_later True s).rows later member
    obtain ⟨wasLive, same⟩ := becomes.live live
    obtain ⟨sha, stored, b, listed, rfl⟩ := sound.live a found wasLive
    refine ⟨b.sha256, same.trans stored, b, List.mem_filter.mpr ⟨listed, ?_⟩, rfl⟩
    exact decide_eq_true ⟨a, found, stored, wasLive⟩
  files sha has := sound.files sha ((deleteUnusedBlobs_later True s).hasBlob has)
  blobs := by
    intro sha present
    rcases sound.blobs sha present with ⟨b, listed, rfl⟩ | more
    · by_cases wanted : s.Wanted b.sha256
      · exact .inl ⟨b, List.mem_filter.mpr ⟨listed, decide_eq_true wanted⟩, rfl⟩
      · refine .inr (List.mem_append_left _ (List.mem_map_of_mem ?_))
        exact List.mem_filter.mpr ⟨listed, decide_eq_true wanted⟩
    · exact .inr (List.mem_append_right _ more)
  extra := by
    rintro sha member ⟨b, kept, rfl⟩
    obtain ⟨listed, wanted⟩ := List.mem_filter.mp kept
    rcases List.mem_append.mp member with unused | more
    · obtain ⟨gone, unused, same⟩ := List.mem_map.mp unused
      have unwanted : ¬ s.Wanted gone.sha256 := by simpa using (List.mem_filter.mp unused).2
      rw [same] at unwanted
      exact unwanted (by simpa using wanted)
    · exact sound.extra _ more ⟨b, listed, rfl⟩

theorem deleteBlob_later (deletions : Prop) (unwanted : ¬ s.Wanted sha) : Later deletions s (s.deleteBlob sha) := by
  apply later_map deletions s _ (fun _ _ found => found)
  · intro b member
    exact ⟨b, (List.mem_filter.mp member).1, rfl⟩
  · intro a member
    unfold Attachment.forget
    split
    next stored =>
      refine ⟨rfl, rfl, .inr rfl, ?_⟩
      intro live
      exact absurd ⟨a, member, stored, live⟩ unwanted
    next => exact .refl a
  · intro a _ _
    unfold Attachment.forget
    split
    next stored =>
      refine ⟨fun live => live, ?_⟩
      rintro other held ⟨b, kept, rfl⟩
      have different := (List.mem_filter.mp kept).2
      rw [Option.some.inj (held.symm.trans stored)] at different
      simp at different
    next => exact ⟨fun live => live, fun _ held _ => held⟩

theorem deleteBlob_gone (s : Store) (sha : String) : ¬ (s.deleteBlob sha).HasBlob sha := by
  rintro ⟨b, kept, rfl⟩
  simpa using (List.mem_filter.mp kept).2

theorem deleteBlob_sound (sound : Sound extra s) (unwanted : ¬ s.Wanted sha) :
    Sound (sha :: extra) (s.deleteBlob sha) where
  keys := sound.keys.sublist (List.filter_sublist.map _)
  ids := (deleteBlob_later True unwanted).unique sound.ids
  live := by
    intro later member live
    obtain ⟨a, found, becomes⟩ := (deleteBlob_later True unwanted).rows later member
    obtain ⟨wasLive, same⟩ := becomes.live live
    obtain ⟨other, stored, b, listed, rfl⟩ := sound.live a found wasLive
    refine ⟨b.sha256, same.trans stored, b, List.mem_filter.mpr ⟨listed, ?_⟩, rfl⟩
    refine decide_eq_true ?_
    rintro rfl
    exact unwanted ⟨a, found, stored, wasLive⟩
  files other has := sound.files other ((deleteBlob_later True unwanted).hasBlob has)
  blobs := by
    intro other present
    rcases sound.blobs other present with ⟨b, listed, rfl⟩ | more
    · by_cases same : b.sha256 = sha
      · exact .inr (same ▸ List.mem_cons_self)
      · exact .inl ⟨b, List.mem_filter.mpr ⟨listed, decide_eq_true same⟩, rfl⟩
    · exact .inr (List.mem_cons_of_mem sha more)
  extra := by
    intro other member has
    rcases List.mem_cons.mp member with rfl | more
    · exact deleteBlob_gone s other has
    · exact sound.extra other more ((deleteBlob_later True unwanted).hasBlob has)

theorem filter_sha_eq {blobs : List Blob} (keys : (blobs.map (·.sha256)).Nodup) {b : Blob} (member : b ∈ blobs) :
    (blobs.filter fun other => !decide (other.sha256 ≠ b.sha256)) = [b] := by
  induction blobs with
  | nil => cases member
  | cons first rest ih =>
    obtain ⟨fresh, keys⟩ := List.nodup_cons.mp keys
    rcases List.mem_cons.mp member with rfl | later
    · have none : (rest.filter fun other => !decide (other.sha256 ≠ b.sha256)) = [] := by
        rw [List.filter_eq_nil_iff]
        intro other listed same
        exact fresh (List.mem_map.mpr ⟨other, listed, by simpa using same⟩)
      rw [List.filter_cons_of_pos (by simp), none]
    · have other : first.sha256 ≠ b.sha256 := by
        intro same
        exact fresh (List.mem_map.mpr ⟨b, later, same.symm⟩)
      rw [List.filter_cons_of_neg (by simpa using other), ih keys later]

theorem deleteBlob_used (sound : Sound extra s) {b : Blob} (member : b ∈ s.blobs) :
    (s.deleteBlob b.sha256).usedBytes + b.sizeBytes = s.usedBytes := by
  have split := sizes_split s.blobs fun other => decide (other.sha256 ≠ b.sha256)
  rw [filter_sha_eq sound.keys member] at split
  simpa [Store.usedBytes, Store.deleteBlob] using split

theorem deleteBlob_length {b : Blob} (member : b ∈ s.blobs) : (s.deleteBlob b.sha256).blobs.length < s.blobs.length :=
  List.length_filter_lt_length_iff_exists.mpr ⟨b, member, by simp⟩

theorem removeFile_later (deletions : Prop) (s : Store) (sha : String) : Later deletions s (s.removeFile sha) :=
  { Later.refl deletions s with
    toKeeps := .of_eq deletions _ rfl rfl rfl
    files := by
      intro other bytes found
      simp only [Store.removeFile, Std.ExtTreeMap.getElem?_erase] at found
      split at found
      next => cases found
      next => exact found }

theorem removeFile_sound (sound : Sound (sha :: extra) s) : Sound extra (s.removeFile sha) :=
  { sound with
    files := by
      intro other has
      refine Std.ExtTreeMap.mem_erase.mpr ⟨?_, sound.files other has⟩
      intro same
      rw [← Std.LawfulEqCmp.eq_of_compare same] at has
      exact sound.extra sha List.mem_cons_self has
    blobs := by
      intro other present
      obtain ⟨different, present⟩ := Std.ExtTreeMap.mem_erase.mp present
      rcases sound.blobs other present with has | member
      · exact .inl has
      · rcases List.mem_cons.mp member with rfl | more
        · exact absurd Std.ReflCmp.compare_self different
        · exact .inr more
    extra := fun other member => sound.extra other (List.mem_cons_of_mem sha member) }

/-- What a clean-up leaves that freed so many bytes. -/
structure Freed (deletions : Prop) (s : Store) (freed : Nat) (t : Store) : Prop where
  sound : Sound [] t
  later : Later deletions s t
  temps : t.temps = s.temps
  used : t.usedBytes + freed = s.usedBytes

-- The clean-ups of a sound store leave one, whatever transactions come in between.
theorem removeFiles_ends {gone : List Blob} (sound : Sound (gone.map (·.sha256) ++ extra) s) :
    Ends (Apart deletions)
      (fun _ t => Sound extra t ∧ Later deletions s t ∧ t.temps = s.temps ∧ t.usedBytes = s.usedBytes)
      (removeFiles gone) s := by
  induction gone generalizing s with
  | nil => exact .done ⟨sound, .refl deletions s, rfl, rfl⟩
  | cons b rest ih =>
    refine ends_exec_bind ?_
    intro seen apart
    refine (ih (removeFile_sound (apart.sound sound))).weaken ?_
    rintro _ t ⟨soundAfter, later, temps, used⟩
    exact ⟨soundAfter, apart.toLater.trans (removeFile_later deletions seen b.sha256) |>.trans later,
      temps.trans apart.sameTemps, used.trans apart.usedBytes⟩

theorem dropUnused_ends (sound : Sound [] s) (now : Int) :
    Ends (Apart deletions) (Freed deletions s) (dropUnused now) s := by
  refine ends_exec_bind ?_
  intro s₁ first
  have orphans := first.trans (deleteOrphans_apart deletions s₁ now)
  refine ends_exec_bind ?_
  intro s₂ second
  have unused := orphans.trans second
  refine (removeFiles_ends (deleteUnusedBlobs_sound (unused.sound sound))).bind ?_
  rintro _ t ⟨soundAfter, later, temps, used⟩
  refine .done ⟨soundAfter, unused.toLater.trans (deleteUnusedBlobs_later deletions s₂) |>.trans later,
    temps.trans unused.sameTemps, ?_⟩
  rw [used, deleteUnusedBlobs_used, unused.usedBytes]

/-- What evicting one blob leaves. -/
structure Evicted (deletions : Prop) (b : Blob) (s t : Store) : Prop where
  sound : Sound [] t
  later : Later deletions s t
  temps : t.temps = s.temps
  used : t.usedBytes + b.sizeBytes = s.usedBytes
  length : t.blobs.length < s.blobs.length
  others : ∀ other : Blob, other.sha256 ≠ b.sha256 → other.facts ∈ s.blobs.map Blob.facts →
    other.facts ∈ t.blobs.map Blob.facts

theorem evictOne_ends {A : Type} {rest : Locked A} {post : A → Store → Prop} {b : Blob} (sound : Sound [] s)
    (listed : b.facts ∈ s.blobs.map Blob.facts) (free : ¬ s.HeldByBanner b.sha256) (now : Int)
    (goesOn : ∀ t, Evicted deletions b s t → Ends (Apart deletions) post rest t) :
    Ends (Apart deletions) post (do
      update (·.expireBlob b.sha256 now)
      update (·.deleteBlob b.sha256)
      update (·.removeFile b.sha256)
      rest) s := by
  refine ends_exec_bind ?_
  intro s₁ first
  have freeHere : ¬ s₁.HeldByBanner b.sha256 := fun held => free (first.heldByBanner held)
  refine ends_exec_bind ?_
  intro s₂ second
  have expired := (first.trans (expireBlob_apart deletions freeHere now)).trans second
  have unwanted : ¬ s₂.Wanted b.sha256 := fun wanted => expireBlob_unwanted s₁ b.sha256 now (second.wanted wanted)
  obtain ⟨here, member, same⟩ : ∃ here ∈ s₂.blobs, here.facts = b.facts := by
    rw [← expired.sameBlobs] at listed
    exact List.mem_map.mp listed
  have sameSha : here.sha256 = b.sha256 := congrArg Prod.fst same
  have sameSize : here.sizeBytes = b.sizeBytes := congrArg (·.2.2.2) same
  have soundHere := expired.sound sound
  refine ends_exec_bind ?_
  intro s₃ third
  refine goesOn _
    { sound := removeFile_sound (third.sound (deleteBlob_sound soundHere unwanted))
      later := (expired.toLater.trans (deleteBlob_later deletions unwanted)).trans third.toLater
        |>.trans (removeFile_later deletions s₃ b.sha256)
      temps := third.sameTemps.trans expired.sameTemps
      used := ?_
      length := ?_
      others := ?_ }
  · have deleted := deleteBlob_used soundHere member
    rw [sameSha, sameSize, ← third.usedBytes, expired.usedBytes] at deleted
    exact deleted
  · have deleted := deleteBlob_length member
    rw [sameSha, ← third.length, expired.length] at deleted
    exact deleted
  · intro other different present
    rw [← expired.sameBlobs] at present
    obtain ⟨found, listed, sameFacts⟩ := List.mem_map.mp present
    have sameOther : found.sha256 = other.sha256 := congrArg Prod.fst sameFacts
    change other.facts ∈ s₃.blobs.map Blob.facts
    rw [third.sameBlobs, ← sameFacts]
    refine List.mem_map_of_mem (List.mem_filter.mpr ⟨listed, ?_⟩)
    exact decide_eq_true (sameOther ▸ different)

theorem evictBatch_ends {batch : List Blob} {want now : Int} {freed : Nat} (keys : (batch.map (·.sha256)).Nodup)
    (listed : ∀ b ∈ batch, b.facts ∈ s.blobs.map Blob.facts) (free : ∀ b ∈ batch, ¬ s.HeldByBanner b.sha256)
    {start : Store} (soFar : Freed deletions start freed s) :
    Ends (Apart deletions)
      (fun total t => Freed deletions start total t ∧
        (want ≤ total ∨ t.blobs.length + batch.length ≤ s.blobs.length))
      (evictBatch want now batch freed) s := by
  induction batch generalizing s freed with
  | nil => exact .done ⟨soFar, .inr le_rfl⟩
  | cons b rest ih =>
    obtain ⟨fresh, keys⟩ := List.nodup_cons.mp keys
    refine evictOne_ends soFar.sound (listed b List.mem_cons_self) (free b List.mem_cons_self) now ?_
    intro t evicted
    have further : Freed deletions start (freed + b.sizeBytes) t :=
      { sound := evicted.sound
        later := soFar.later.trans evicted.later
        temps := evicted.temps.trans soFar.temps
        used := by rw [← soFar.used, ← evicted.used]; omega }
    split
    next enough => exact .done ⟨further, .inl enough⟩
    next =>
      refine (ih keys ?_ ?_ further).weaken ?_
      · intro other member
        refine evicted.others other ?_ (listed other (List.mem_cons_of_mem b member))
        intro same
        exact fresh (List.mem_map.mpr ⟨other, member, same⟩)
      · intro other member held
        exact free other (List.mem_cons_of_mem b member) (evicted.later.heldByBanner held)
      · rintro total u ⟨freedHere, enough | fewer⟩
        · exact ⟨freedHere, .inl enough⟩
        · have one := evicted.length
          exact ⟨freedHere, .inr (by rw [List.length_cons]; omega)⟩

-- Only blobs that banners hold are left.
def Full (s : Store) : Prop := ∀ b ∈ s.blobs, s.HeldByBanner b.sha256

theorem mem_evictable {b : Blob} (member : b ∈ s.evictable) : b ∈ s.blobs ∧ ¬ s.HeldByBanner b.sha256 := by
  have listed := List.mem_of_mem_take member
  rw [List.mem_insertionSort] at listed
  simpa using listed

theorem evictable_keys (sound : Sound extra s) : (s.evictable.map (·.sha256)).Nodup := by
  have sorted := (List.perm_insertionSort Store.LinkedBefore
    (s.blobs.filter fun b => ¬ s.HeldByBanner b.sha256)).map (·.sha256)
  exact ((sorted.nodup_iff.mpr (sound.keys.sublist (List.filter_sublist.map _))).sublist
    ((List.take_sublist 32 _).map _))

theorem full_of_evictable_nil (none : s.evictable = []) : Full s := by
  intro b member
  by_contra free
  have sorted : b ∈ (s.blobs.filter fun b => ¬ s.HeldByBanner b.sha256).insertionSort Store.LinkedBefore := by
    rw [List.mem_insertionSort, List.mem_filter]
    exact ⟨member, by simpa using free⟩
  rw [(List.take_eq_nil_iff.mp none).resolve_left (by decide)] at sorted
  cases sorted

-- There are rounds enough: the loop ends because it has freed enough or found nothing to evict.
theorem evictRounds_ends {rounds : Nat} {want now : Int} {freed : Nat} {start : Store}
    (enough : s.blobs.length < rounds) (soFar : Freed deletions start freed s) :
    Ends (Apart deletions) (fun total t => Freed deletions start total t ∧ (want ≤ total ∨ Full t))
      (evictRounds want now rounds freed) s := by
  induction rounds generalizing s freed with
  | zero => omega
  | succ rounds ih =>
    unfold evictRounds
    split
    next reached => exact .done ⟨soFar, .inl reached⟩
    next =>
      refine ends_exec_bind ?_
      intro seen apart
      have here : Freed deletions start freed seen :=
        { sound := apart.sound soFar.sound
          later := soFar.later.trans apart.toLater
          temps := apart.sameTemps.trans soFar.temps
          used := apart.usedBytes ▸ soFar.used }
      split
      next none => exact .done ⟨here, .inr (full_of_evictable_nil none)⟩
      next some =>
        refine (evictBatch_ends (evictable_keys here.sound) ?_ ?_ here).bind ?_
        · intro b member
          exact List.mem_map_of_mem (mem_evictable member).1
        · intro b member
          exact (mem_evictable member).2
        · rintro total t ⟨after, reached | fewer⟩
          · cases rounds with
            | zero => exact .done ⟨after, .inl reached⟩
            | succ rounds =>
              unfold evictRounds
              rw [if_pos reached]
              exact .done ⟨after, .inl reached⟩
          · have shown : 0 < seen.evictable.length := List.length_pos_of_ne_nil some
            exact ih (by rw [apart.length] at fewer; omega) after

theorem evictOldest_ends (sound : Sound [] s) (want now : Int) :
    Ends (Apart deletions) (fun freed t => Freed deletions s freed t ∧ (want ≤ freed ∨ Full t))
      (evictOldest want now) s := by
  refine ends_exec_bind ?_
  intro seen apart
  refine evictRounds_ends (Nat.lt_succ_self _) ?_
  exact
    { sound := apart.sound sound, later := apart.toLater, temps := apart.sameTemps
      used := (Nat.add_zero _).trans apart.usedBytes }

/--
All the blobs left, some excepted, are held by banners: now, or, when a deletion came in between, at the
start.
-/
def AllHeld (deletions : Prop) (start : Store) (excepted : String → Prop) (s : Store) : Prop :=
  ∀ b ∈ s.blobs, ¬ excepted b.sha256 → s.HeldByBanner b.sha256 ∨ deletions ∧ start.HeldByBanner b.sha256

theorem AllHeld.later {start : Store} {excepted kept : String → Prop} (held : AllHeld deletions start excepted s)
    (ids : s.UniqueIds) (since : Keeps deletions kept start s) (later : Later deletions s t) :
    AllHeld deletions start excepted t := by
  intro b member other
  obtain ⟨before, listed, same⟩ := later.blobs b member
  have sameSha : b.sha256 = before.sha256 := congrArg Prod.fst same
  rw [sameSha] at other ⊢
  rcases held before listed other with heldHere | atStart
  · by_cases deleted : deletions
    · exact .inr ⟨deleted, since.heldByBanner heldHere⟩
    · obtain ⟨a, row, stored, banner⟩ := heldHere
      rcases later.banners ids a row banner with ⟨after, found, sameId, -, stays⟩ | taken
      · refine .inl ⟨after, found, stays _ stored ⟨b, member, sameSha⟩, ?_⟩
        rw [sameId]
        obtain ⟨c, shown, shows⟩ := banner
        exact ⟨c, later.allChannels deleted ▸ shown, shows⟩
      · exact absurd taken.1 deleted
  · exact .inr atStart

-- There is room for so many more bytes, or nothing is left to evict.
def Room (deletions : Prop) (start : Store) (need : Nat) (s : Store) : Prop :=
  s.usedBytes + need ≤ start.capBytes ∨ AllHeld deletions start (fun _ => False) s

theorem Room.later {start : Store} {need : Nat} {kept : String → Prop} (room : Room deletions start need s)
    (ids : s.UniqueIds) (since : Keeps deletions kept start s) (later : Later deletions s t)
    (used : t.usedBytes ≤ s.usedBytes) : Room deletions start need t := by
  rcases room with fits | held
  · exact .inl (by omega)
  · exact .inr (held.later ids since later)

theorem Full.room {start : Store} {need : Nat} (full : Full s) : Room deletions start need s :=
  .inr fun b member _ => .inl (full b member)

theorem ensureRoom_ends (sound : Sound [] s) (need : Nat) (now : Int) :
    Ends (Apart deletions)
      (fun _ t => Sound [] t ∧ Later deletions s t ∧ t.temps = s.temps ∧ Room deletions s need t)
      (ensureRoom need now) s := by
  refine ends_exec_bind ?_
  intro s₁ first
  refine ends_exec_bind ?_
  intro s₂ second
  have apart := first.trans second
  have soundHere := apart.sound sound
  have cap : s₁.capBytes = s.capBytes := first.capBytes
  dsimp only
  split
  next fits =>
    refine .done ⟨soundHere, apart.toLater, apart.sameTemps, .inl ?_⟩
    rw [cap] at fits
    simp only [id]
    omega
  next excess =>
    refine (dropUnused_ends soundHere now).bind ?_
    intro dropped t₁ cleaned
    have used : t₁.usedBytes + dropped = s₂.usedBytes := cleaned.used
    split
    next short =>
      refine (evictOldest_ends cleaned.sound _ now).bind ?_
      rintro freed t₂ ⟨evicted, reached | full⟩
      · have left := evicted.used
        refine .done ⟨evicted.sound, (apart.toLater.trans cleaned.later).trans evicted.later,
          evicted.temps.trans (cleaned.temps.trans apart.sameTemps), .inl ?_⟩
        rw [cap] at reached
        omega
      · exact .done ⟨evicted.sound, (apart.toLater.trans cleaned.later).trans evicted.later,
          evicted.temps.trans (cleaned.temps.trans apart.sameTemps), full.room⟩
    next enough =>
      refine .done ⟨cleaned.sound, apart.toLater.trans cleaned.later, cleaned.temps.trans apart.sameTemps, .inl ?_⟩
      rw [cap] at enough
      omega

end

end Wavvon.Attachments
