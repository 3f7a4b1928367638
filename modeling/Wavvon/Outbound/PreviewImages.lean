import Mathlib.Algebra.GroupWithZero.Nat
import Mathlib.Data.List.MinMax
import Mathlib.Data.List.Nodup
import Wavvon.Shared.Runs

set_option autoImplicit false

namespace Wavvon.PreviewImages

def CACHE_TTL_SECS : Nat := 30 * 60

-- Instants count nanoseconds.
structure CachedImage where
  contentType : String
  bytes : List UInt8
  instant : Nat
  deriving DecidableEq, Repr

abbrev Images := List (String × CachedImage)

-- `min_by_key` over a `HashMap`, whose order decides among the oldest.
structure Oldest where
  pick : Images → Option (String × CachedImage)
  empty : ∀ images, pick images = none → images = []
  least : ∀ images e, pick images = some e → e ∈ images ∧ ∀ other ∈ images, e.2.instant ≤ other.2.instant

-- `at.elapsed().as_secs() < CACHE_TTL_SECS`
def fresh (now : Nat) (image : CachedImage) : Bool := decide ((now - image.instant) / 10 ^ 9 < CACHE_TTL_SECS)

def total (images : Images) : Nat := (images.map fun e => e.2.bytes.length).sum

-- The loop takes out an entry a round, so as many rounds as there are entries are enough.
def evict (oldest : Oldest) (size maxTotal : Nat) : Nat → Nat → Images → Images
  | 0, _, images => images
  | rounds + 1, held, images =>
    if maxTotal < held + size then
      match oldest.pick images with
      | none => images
      | some e => evict oldest size maxTotal rounds (held - e.2.bytes.length) (images.filter (·.1 ≠ e.1))
    else images

structure Insertion where
  id : String
  image : CachedImage
  now : Nat
  deriving DecidableEq, Repr

def kept (i : Insertion) (images : Images) : Images := (images.filter (fresh i.now ·.2)).filter (·.1 ≠ i.id)

def insertImage (oldest : Oldest) (maxTotal : Nat) (images : Images) (i : Insertion) : Images :=
  let rest := kept i images
  (i.id, i.image) :: evict oldest i.image.bytes.length maxTotal rest.length (total rest) rest

structure ImageResponse where
  headers : List (String × String)
  body : List UInt8
  deriving DecidableEq, Repr

def serve (image : CachedImage) : ImageResponse :=
  { headers := [("content-type", image.contentType), ("cache-control", "public, max-age=" ++ toString CACHE_TTL_SECS),
      ("x-content-type-options", "nosniff")]
    body := image.bytes }

-- `none` is the 404.
def getPreviewImage (images : Images) (id : String) (now : Nat) : Option ImageResponse :=
  match images.find? (·.1 = id) with
  | some (_, image) => if fresh now image then some (serve image) else none
  | none => none

-- What an id was given last.
def latest (acts : List Insertion) (id : String) : Option CachedImage :=
  (acts.reverse.find? (·.id = id)).map (·.image)

-- The clock does not go back, and an image is dated before it is put in.
def InTime (acts : List Insertion) : Prop :=
  (∀ i ∈ acts, i.image.instant ≤ i.now) ∧ acts.Pairwise fun first second => first.now ≤ second.image.instant

/-- Within its bytes, but for an image larger than they are, and with the youngest of what was put in. -/
structure Bounded (maxTotal : Nat) (acts : List Insertion) (images : Images) : Prop where
  within : total images ≤ maxTotal ∨ images.length ≤ 1
  apart : (images.map Prod.fst).Nodup
  latest : ∀ e ∈ images, latest acts e.1 = some e.2
  youngest : ∀ id image now, PreviewImages.latest acts id = some image → (id, image) ∉ images →
    (∀ i ∈ acts, i.now ≤ now) → fresh now image = true → ∀ e ∈ images, image.instant ≤ e.2.instant

section

variable {oldest : Oldest} {size maxTotal rounds held : Nat} {images : Images} {e : String × CachedImage}

theorem total_filter (apart : (images.map Prod.fst).Nodup) (listed : e ∈ images) :
    total images = e.2.bytes.length + total (images.filter (·.1 ≠ e.1)) := by
  induction images with
  | nil => cases listed
  | cons first rest ih =>
    obtain ⟨fresh_id, apart⟩ := List.nodup_cons.mp apart
    rcases List.mem_cons.mp listed with rfl | later
    · have others : rest.filter (·.1 ≠ e.1) = rest := by
        refine List.filter_eq_self.mpr fun other inside => decide_eq_true ?_
        rintro same
        exact fresh_id (same ▸ List.mem_map_of_mem inside)
      rw [List.filter_cons_of_neg (by simp), others]
      rfl
    · have differs : first.1 ≠ e.1 := fun same => fresh_id (same ▸ List.mem_map_of_mem later)
      have tail := ih apart later
      rw [List.filter_cons_of_pos (by simpa using differs)]
      simp only [total, List.map_cons, List.sum_cons] at tail ⊢
      omega

/-- What eviction leaves, and that it takes the oldest only and only for room. -/
structure Evicted (size maxTotal : Nat) (images left : Images) : Prop where
  sub : left.Sublist images
  room : total left + size ≤ maxTotal ∨ left = []
  oldest : ∀ gone ∈ images, gone ∉ left → ∀ e ∈ left, gone.2.instant ≤ e.2.instant

theorem evict_evicted (apart : (images.map Prod.fst).Nodup) (enough : images.length ≤ rounds)
    (counted : held = total images) : Evicted size maxTotal images (evict oldest size maxTotal rounds held images) := by
  induction rounds generalizing held images with
  | zero =>
    obtain rfl := List.length_eq_zero_iff.mp (Nat.le_zero.mp enough)
    exact ⟨List.Sublist.refl _, .inr rfl, fun _ gone => absurd gone List.not_mem_nil⟩
  | succ rounds ih =>
    unfold evict
    split
    next full =>
      cases picked : oldest.pick images with
      | none => exact ⟨List.Sublist.refl _, .inr (oldest.empty images picked), fun _ listed gone => absurd listed gone⟩
      | some e =>
        obtain ⟨listed, least⟩ := oldest.least images e picked
        have parted := total_filter apart listed
        have fewer : (images.filter (·.1 ≠ e.1)).length < images.length := by
          refine List.length_filter_lt_length_iff_exists.mpr ⟨e, listed, by simp⟩
        have less : (images.filter (·.1 ≠ e.1)).length ≤ rounds := by omega
        have counts : held - e.2.bytes.length = total (images.filter (·.1 ≠ e.1)) := by omega
        have later := ih (apart.sublist (List.filter_sublist.map Prod.fst)) less counts
        refine ⟨later.sub.trans List.filter_sublist, later.room, fun gone inside out other left => ?_⟩
        have among := (later.sub.subset left)
        by_cases same : gone.1 = e.1
        · have one : gone = e := List.inj_on_of_nodup_map apart inside listed same
          rw [one]
          exact least other (List.mem_filter.mp among).1
        · exact later.oldest gone (List.mem_filter.mpr ⟨inside, decide_eq_true same⟩) out other left
    next fits => exact ⟨List.Sublist.refl _, .inl (by omega), fun _ listed gone => absurd listed gone⟩

variable {acts : List Insertion} {i : Insertion} {id : String} {image : CachedImage} {now earlier : Nat}

theorem fresh_mono (before : earlier ≤ now) (still : fresh now image = true) : fresh earlier image = true := by
  refine decide_eq_true ((Nat.div_le_div_right ?_).trans_lt (of_decide_eq_true still))
  exact Nat.sub_le_sub_right before image.instant

theorem latest_append : latest (acts ++ [i]) id = if i.id = id then some i.image else latest acts id := by
  rw [latest, List.reverse_append, List.reverse_singleton, List.singleton_append, List.find?_cons]
  by_cases same : i.id = id <;> simp [same, latest]

theorem latest_mem (found : latest acts id = some image) : ∃ i ∈ acts, i.image = image := by
  obtain ⟨i, here, same⟩ := Option.map_eq_some_iff.mp found
  exact ⟨i, List.mem_reverse.mp (List.mem_of_find?_eq_some here), same⟩

theorem mem_kept : e ∈ kept i images ↔ e ∈ images ∧ fresh i.now e.2 = true ∧ e.1 ≠ i.id := by
  rw [kept, List.mem_filter, List.mem_filter, decide_eq_true_eq, and_assoc]

theorem Bounded.insert (bounded : Bounded maxTotal acts images) (inTime : InTime (acts ++ [i])) :
    Bounded maxTotal (acts ++ [i]) (insertImage oldest maxTotal images i) := by
  have restApart : ((kept i images).map Prod.fst).Nodup :=
    bounded.apart.sublist ((List.filter_sublist.trans List.filter_sublist).map Prod.fst)
  have evicted := @evict_evicted oldest i.image.bytes.length maxTotal _ _ _ restApart (le_refl _) rfl
  unfold insertImage
  dsimp only
  generalize evict oldest i.image.bytes.length maxTotal _ _ _ = left at evicted ⊢
  have among : ∀ e ∈ left, e ∈ images ∧ e.1 ≠ i.id := fun e inside =>
    ⟨(mem_kept.mp (evicted.sub.subset inside)).1, (mem_kept.mp (evicted.sub.subset inside)).2.2⟩
  constructor
  · rcases evicted.room with fits | rfl
    · refine .inl ?_
      rw [total, List.map_cons, List.sum_cons, Nat.add_comm]
      exact fits
    · exact .inr (le_refl _)
  · refine List.nodup_cons.mpr ⟨fun inside => ?_, restApart.sublist (evicted.sub.map Prod.fst)⟩
    obtain ⟨e, listed, same⟩ := List.mem_map.mp inside
    exact (among e listed).2 same
  · intro e inside
    rw [latest_append]
    rcases List.mem_cons.mp inside with rfl | listed
    · exact if_pos rfl
    · rw [if_neg (among e listed).2.symm]
      exact bounded.latest e (among e listed).1
  · intro id image now found out past still e inside
    rw [latest_append] at found
    split at found
    next same =>
      cases found
      exact absurd (same ▸ List.mem_cons_self) out
    next differs =>
      rcases List.mem_cons.mp inside with rfl | listed
      · obtain ⟨j, before, rfl⟩ := latest_mem found
        have dated := inTime.1 j (List.mem_append_left _ before)
        exact dated.trans ((List.pairwise_append.mp inTime.2).2.2 j before i (List.mem_singleton_self i))
      · by_cases held : (id, image) ∈ images
        · refine evicted.oldest (id, image) (mem_kept.mpr ⟨held, ?_, Ne.symm differs⟩)
            (fun stays => out (List.mem_cons_of_mem _ stays)) e listed
          exact fresh_mono (past i (List.mem_append_right _ (List.mem_singleton_self i))) still
        · exact bounded.youngest id image now found held (fun j before => past j (List.mem_append_left _ before)) still e
            (among e listed).1

theorem run_bounded (oldest : Oldest) (maxTotal : Nat) (inTime : InTime acts) :
    Bounded maxTotal acts (Runs.run (insertImage oldest maxTotal) [] acts) := by
  induction acts using List.reverseRecOn with
  | nil => exact ⟨.inl (Nat.zero_le _), List.nodup_nil, fun _ none => absurd none List.not_mem_nil,
      fun _ _ _ found => by cases found⟩
  | append_singleton acts i ih =>
    rw [Runs.run_append, Runs.run_cons, Runs.run_nil]
    refine (ih ⟨fun j before => inTime.1 j (List.mem_append_left _ before), ?_⟩).insert inTime
    exact (List.pairwise_append.mp inTime.2).1

theorem getPreviewImage_iff (apart : (images.map Prod.fst).Nodup) {answer : ImageResponse} :
    getPreviewImage images id now = some answer ↔
      ∃ image, (id, image) ∈ images ∧ fresh now image = true ∧ serve image = answer := by
  unfold getPreviewImage
  cases found : images.find? (·.1 = id) with
  | none =>
    refine iff_of_false (Option.some_ne_none answer).symm ?_
    rintro ⟨image, listed, _⟩
    exact absurd rfl (of_decide_eq_false (Bool.not_eq_true _ ▸ List.find?_eq_none.mp found _ listed))
  | some e =>
    obtain ⟨key, image⟩ := e
    have listed := List.mem_of_find?_eq_some found
    have same := List.find?_some found
    obtain rfl : key = id := of_decide_eq_true same
    have only : ∀ other, (key, other) ∈ images → other = image := fun other inside =>
      (Prod.mk.inj (List.inj_on_of_nodup_map apart inside listed rfl)).2
    dsimp only
    split
    next still =>
      refine ⟨fun same => ⟨image, listed, still, Option.some.inj same⟩, ?_⟩
      rintro ⟨other, inside, _, rfl⟩
      rw [only other inside]
    next expired =>
      refine iff_of_false (Option.some_ne_none answer).symm ?_
      rintro ⟨other, inside, still, _⟩
      exact expired (only other inside ▸ still)

end

/--
Whatever is put in, the cache holds no more bytes than it may but for a single image larger than they are; it answers
with what an id was given last, while that is fresh; and of what is fresh it has given up the oldest only.
-/
theorem images_bounded (oldest : Oldest) (maxTotal : Nat) (acts : List Insertion) (inTime : InTime acts) :
    let images := Runs.run (insertImage oldest maxTotal) [] acts
    (total images ≤ maxTotal ∨ images.length ≤ 1) ∧
      (∀ id now answer, getPreviewImage images id now = some answer →
        ∃ image, latest acts id = some image ∧ fresh now image = true ∧ answer = serve image) ∧
      ∀ id image now, latest acts id = some image → (∀ i ∈ acts, i.now ≤ now) → fresh now image = true →
        getPreviewImage images id now = none → ∀ e ∈ images, image.instant ≤ e.2.instant := by
  have bounded := run_bounded oldest maxTotal inTime
  refine ⟨bounded.within, fun id now answer answered => ?_, fun id image now found past still missed => ?_⟩
  · obtain ⟨image, listed, still, same⟩ := (getPreviewImage_iff bounded.apart).mp answered
    exact ⟨image, bounded.latest _ listed, still, same.symm⟩
  · refine bounded.youngest id image now found (fun listed => ?_) past still
    rw [(getPreviewImage_iff bounded.apart).mpr ⟨image, listed, still, rfl⟩] at missed
    cases missed

def listOrder : Oldest where
  pick := @List.argmin (String × CachedImage) Nat Nat.instLinearOrder.toPreorder Nat.instLinearOrder.toDecidableLT
    (·.2.instant)
  empty _ nothing := List.argmin_eq_none.mp nothing
  least _ _ picked :=
    ⟨List.argmin_mem picked, fun _ listed =>
      @List.le_of_mem_argmin (String × CachedImage) Nat Nat.instLinearOrder _ _ _ _ listed picked⟩

def pixel (instant : Nat) : CachedImage := { contentType := "image/png", bytes := [0], instant := instant }

-- Two images of a byte each where there is room for one.
theorem images_bounded_pixels :
    total (Runs.run (insertImage listOrder 1) [] [⟨"a", pixel 1, 1⟩, ⟨"b", pixel 2, 2⟩]) ≤ 1 ∨
      (Runs.run (insertImage listOrder 1) [] [⟨"a", pixel 1, 1⟩, ⟨"b", pixel 2, 2⟩]).length ≤ 1 :=
  (images_bounded listOrder 1 [⟨"a", pixel 1, 1⟩, ⟨"b", pixel 2, 2⟩] ⟨by decide, by decide⟩).1

end Wavvon.PreviewImages
