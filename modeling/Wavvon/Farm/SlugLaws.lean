import Wavvon.Farm.SlugRules

set_option autoImplicit false

namespace Wavvon.Farm

open Std (ExtTreeMap)
open Interleaving (Handler FitAll System Moves Assertions Holds)

/-- Any number of requests about slugs, and time going by, on one farm. -/
abbrev SlugDesk := System Registry SlugStatement SlugProgress (Except HttpError Unit)

namespace SlugDesk

def start (limits : Limits) (s : Registry) (requests : List SlugRequest) : SlugDesk where
  shared := s
  tasks := requests.zipIdx.map fun request =>
    { progress := { tx := request.2, request := request.1 }, handler := request.1.handle request.2 limits }

abbrev next : SlugDesk → Nat → SlugDesk := Interleaving.gatedStep (fun p label s => label.ready p.tx s) slugRules

end SlugDesk

-- The hub that released a slug still has the row, or its time is over.
def Reserved (limits : Limits) (s : Registry) (record : ReleaseRecord) : Prop :=
  (∃ row, s.db.hubSlugs[record.slug]? = some row ∧ row.hubId = record.hubId ∧
      ∀ released ∈ row.releasedAt, record.releasedAt ≤ released) ∨
    record.releasedAt + limits.cooloff ≤ s.now

/-- What the tables of a farm keep up. -/
structure Sound (limits : Limits) (s : Registry) : Prop where
  quota : ∀ hubId, liveCount s hubId ≠ 0 → (liveCount s hubId : Int) ≤ limits.maxSlugs
  housed : ∀ (slug : String) (row : SlugRow), s.db.hubSlugs[slug]? = some row → row.releasedAt = none →
    (liveHub s.db row.hubId).isSome = true
  normal : ∀ slug ∈ s.db.hubSlugs, ∃ raw, normalize raw = .ok slug
  flagged : ∀ (slug : String) (row : SlugRow), s.db.hubSlugs[slug]? = some row → row.isCanonical = true →
    row.releasedAt = none
  single : ∀ (hubId first second : String) (row other : SlugRow), s.db.hubSlugs[first]? = some row →
    s.db.hubSlugs[second]? = some other →
    row.canonicalFor hubId = true → other.canonicalFor hubId = true → first = second
  reserved : ∀ record ∈ s.released, record.releasedAt ≤ s.now ∧ Reserved limits s record
  locked : ∀ slug ∈ s.locks, slug ∈ s.db.hubSlugs

def HasLive (s : Registry) (hubId : String) : Prop :=
  ∃ (slug : String) (row : SlugRow), s.db.hubSlugs[slug]? = some row ∧ row.liveFor hubId = true

def HasCanonical (s : Registry) (hubId : String) : Prop :=
  ∃ (slug : String) (row : SlugRow), s.db.hubSlugs[slug]? = some row ∧ row.canonicalFor hubId = true

-- What the claimant counted and asked for would come out the same now.
def Claiming.stillAllowed (claim : Claiming) (limits : Limits) (s : Registry) : Prop :=
  (liveHub s.db claim.hubId).isSome = true ∧ (liveCount s claim.hubId : Int) < limits.maxSlugs ∧
    (claim.settles = true ∨ liveCount s claim.hubId ≠ 0)

instance (claim : Claiming) (limits : Limits) (s : Registry) : Decidable (claim.stillAllowed limits s) :=
  inferInstanceAs (Decidable (_ ∧ _ ∧ _))

def SlugRow.freeFor (row : SlugRow) (limits : Limits) (now : Int) (hubId : String) : Bool :=
  row.releasedAt.any fun released => decide (row.hubId = hubId) || decide (released + limits.cooloff ≤ now)

-- The check before a write still passes in the state that it is written to.
def StillPasses (limits : Limits) (s : Registry) : SlugStatement → Prop
  | .reclaim claim => claim.stillAllowed limits s ∧
      s.db.hubSlugs[claim.slug]?.any (fun row => row.freeFor limits s.now claim.hubId) = true
  | .insert claim => claim.stillAllowed limits s ∧ claim.slug ∉ s.db.hubSlugs
  | .set slug hubId _ => (liveSlug s slug hubId).isSome = true
  | .release slug hubId settles => (liveSlug s slug hubId).any (fun row => !row.isCanonical || settles) = true
  | .deleteHub hubId => liveCount s hubId = 0
  | _ => True

instance (limits : Limits) (s : Registry) : (label : SlugStatement) → Decidable (StillPasses limits s label)
  | .reclaim _ | .insert _ => inferInstanceAs (Decidable (_ ∧ _))
  | .set _ _ _ | .release _ _ _ | .deleteHub _ => inferInstanceAs (Decidable (_ = _))
  | .read | .readSlug _ | .findCanonical _ | .clear _ _ | .commit _ _ | .rollback | .nextLive _ | .tick _ =>
    inferInstanceAs (Decidable True)

def SlugDesk.UpToDate (limits : Limits) (sys : SlugDesk) (i : Nat) : Prop :=
  ∀ move ∈ sys.pending i, move.2.ready move.1.tx sys.shared = true → StillPasses limits sys.shared move.2

instance (limits : Limits) (sys : SlugDesk) (i : Nat) : Decidable (sys.UpToDate limits i) :=
  inferInstanceAs (Decidable (∀ move ∈ sys.pending i, _ → _))

section

variable {limits : Limits} {s : Registry} {hubId slug : String} {row : SlugRow} {tx : Nat}

theorem liveFor_iff : row.liveFor hubId = true ↔ row.hubId = hubId ∧ row.releasedAt = none := by
  simp [SlugRow.liveFor]

theorem canonicalFor_iff : row.canonicalFor hubId = true ↔ row.hubId = hubId ∧ row.isCanonical = true := by
  simp [SlugRow.canonicalFor]

theorem liveSlug_eq_some : liveSlug s slug hubId = some row ↔ s.db.hubSlugs[slug]? = some row ∧
    row.liveFor hubId = true :=
  Option.filter_eq_some_iff

theorem liveCount_ne_zero : liveCount s hubId ≠ 0 ↔ HasLive s hubId := by
  constructor
  · intro counted
    by_contra none
    refine counted (Counters.rows_eq_zero fun c row found => ?_)
    exact Bool.eq_false_iff.mpr fun live => none ⟨c, row, found, live⟩
  · rintro ⟨c, row, found, live⟩ zero
    have erased := Counters.rows_erase found fun _ row => row.liveFor hubId
    rw [if_pos live] at erased
    rw [liveCount] at zero
    omega

-- What a commit makes of the flag of a row.
def flagAfter (cleared : List String) (target : Option String) (slug : String) (flag : Bool) : Bool :=
  if target = some slug then true else if slug ∈ cleared then false else flag

theorem setCanonicalFlag_getElem? (flag : Bool) (table : Table SlugRow) (slug other : String) :
    (setCanonicalFlag flag table slug)[other]? =
      table[other]?.map fun row => if slug = other then { row with isCanonical := flag } else row := by
  rw [setCanonicalFlag, ExtTreeMap.getElem?_modify]
  by_cases here : slug = other
  · subst here
    simp
  · cases table[other]? <;> simp [here]

theorem foldl_flags (cleared : List String) (table : Table SlugRow) (other : String) :
    (cleared.foldl (setCanonicalFlag false) table)[other]? =
      table[other]?.map fun row => if other ∈ cleared then { row with isCanonical := false } else row := by
  induction cleared generalizing table with
  | nil => simp
  | cons first rest ih =>
    rw [List.foldl_cons, ih, setCanonicalFlag_getElem?, Option.map_map]
    congr 1
    funext row
    by_cases here : first = other
    · subst here
      simp
    · by_cases later : other ∈ rest <;> simp [here, later, Ne.symm here]

theorem commit_rows (cleared : List String) (target : Option String) (s : Registry) (tx : Nat) :
    ((SlugStatement.commit cleared target).effect tx s).db.hubSlugs =
      s.db.hubSlugs.map fun slug row => { row with isCanonical := flagAfter cleared target slug row.isCanonical } := by
  ext other row
  rw [ExtTreeMap.getElem?_map]
  cases target with
  | none =>
    change (cleared.foldl (setCanonicalFlag false) s.db.hubSlugs)[other]? = _ ↔ _
    rw [foldl_flags]
    cases s.db.hubSlugs[other]? with
    | none => simp
    | some row => by_cases named : other ∈ cleared <;> simp [flagAfter, named]
  | some target =>
    change (setCanonicalFlag true (cleared.foldl (setCanonicalFlag false) s.db.hubSlugs) target)[other]? = _ ↔ _
    rw [setCanonicalFlag_getElem?, foldl_flags]
    cases s.db.hubSlugs[other]? with
    | none => simp
    | some row => by_cases here : target = other <;> by_cases named : other ∈ cleared <;> simp [flagAfter, here, named]

theorem lockAll_getElem? (s : Registry) (tx : Nat) (slugs : List String) (slug : String) :
    (lockAll s tx slugs).locks[slug]? = if slug ∈ slugs then some tx else s.locks[slug]? := by
  have fold : ∀ locks : Table Nat, (slugs.foldl (fun locks other => locks.insert other tx) locks)[slug]? =
      if slug ∈ slugs then some tx else locks[slug]? := by
    induction slugs with
    | nil => simp
    | cons first rest ih =>
      intro locks
      rw [List.foldl_cons, ih, ExtTreeMap.getElem?_insert]
      by_cases here : first = slug
      · subst here
        simp
      · by_cases later : slug ∈ rest <;> simp [here, later, Ne.symm here]
  exact fold s.locks

theorem unlock_getElem? (s : Registry) (tx : Nat) (slug : String) :
    (unlock s tx).locks[slug]? = s.locks[slug]?.filter fun holder => decide (holder ≠ tx) := by
  simp [unlock]

theorem slugFree_iff : slugFree s tx slug = true ↔ ∀ holder, s.locks[slug]? = some holder → holder = tx := by
  rw [slugFree]
  cases s.locks[slug]? <;> simp

theorem mem_slugs {holds : SlugRow → Bool} :
    slug ∈ slugs s holds ↔ ∃ row, s.db.hubSlugs[slug]? = some row ∧ holds row = true := by
  rw [slugs, List.mem_map]
  constructor
  · rintro ⟨⟨named, row⟩, listed, rfl⟩
    obtain ⟨stored, held⟩ := List.mem_filter.mp listed
    exact ⟨row, ExtTreeMap.mem_toList_iff_getElem?_eq_some.mp stored, held⟩
  · rintro ⟨row, found, held⟩
    exact ⟨(slug, row), List.mem_filter.mpr ⟨ExtTreeMap.mem_toList_iff_getElem?_eq_some.mpr found, held⟩, rfl⟩

theorem stillCanonical_iff :
    stillCanonical s hubId slug = true ↔ ∃ row, s.db.hubSlugs[slug]? = some row ∧ row.canonicalFor hubId = true := by
  rw [stillCanonical, Option.any_eq_true]

theorem indexFree_iff : indexFree s tx hubId = true ↔
    ∀ (other : String) (row : SlugRow), s.db.hubSlugs[other]? = some row → row.hubId = hubId →
    slugFree s tx other = true := by
  rw [indexFree, List.all_eq_true]
  constructor
  · intro free other row found own
    have here := free (other, row) (ExtTreeMap.mem_toList_iff_getElem?_eq_some.mpr found)
    simpa [own] using here
  · rintro free ⟨other, row⟩ listed
    have found := ExtTreeMap.mem_toList_iff_getElem?_eq_some.mp listed
    by_cases own : row.hubId = hubId
    · simp [free other row found own]
    · simp [own]

theorem setOutcome_true {cleared : List String} (hit : setOutcome s slug hubId cleared = .ok true) :
    (∃ row, liveSlug s slug hubId = some row) ∧
      ∀ (other : String) (row : SlugRow), s.db.hubSlugs[other]? = some row → row.canonicalFor hubId = true →
        other ∈ slug :: cleared := by
  unfold setOutcome at hit
  split at hit
  next => cases hit
  next present =>
    split at hit
    next => cases hit
    next open_ =>
      refine ⟨Option.ne_none_iff_exists'.mp (by simpa using present), fun other row found canonical => ?_⟩
      by_contra outside
      obtain ⟨apart, away⟩ := not_or.mp (fun named => outside (List.mem_cons.mpr named))
      refine open_ (List.any_eq_true.mpr ⟨other, mem_slugs.mpr ⟨row, found, canonical⟩, ?_⟩)
      simp [apart, away]

theorem setOutcome_error {cleared : List String} {e : HttpError}
    (refused : setOutcome s slug hubId cleared = .error e) :
    HasCanonical s hubId := by
  unfold setOutcome at refused
  split at refused
  next => cases refused
  next =>
    split at refused
    next taken =>
      obtain ⟨other, listed, -⟩ := List.any_eq_true.mp taken
      obtain ⟨row, found, canonical⟩ := mem_slugs.mp listed
      exact ⟨other, row, found, canonical⟩
    next => cases refused

-- A row whose canonical flag a transaction holds.
def Grips (s : Registry) (tx : Nat) (hubId slug : String) : Prop :=
  s.locks[slug]? = some tx ∧ ∃ row, s.db.hubSlugs[slug]? = some row ∧ row.liveFor hubId = true

/-- A transaction that is about to move the flag of a hub holds every row that may have it. -/
structure Seated (s : Registry) (tx : Nat) (hubId : String) (named : List String) : Prop where
  grips : ∀ slug ∈ named, Grips s tx hubId slug
  flags : ∀ (other : String) (row : SlugRow), s.db.hubSlugs[other]? = some row → row.canonicalFor hubId = true →
    other ∈ named
  alone : ∀ (other : String) (row : SlugRow), s.db.hubSlugs[other]? = some row → row.hubId = hubId →
    slugFree s tx other = true

def Knows (s : Registry) (tx : Nat) : SlugPhase → Prop
  | .idle => ∀ slug : String, s.locks[slug]? ≠ some tx
  | .refused => True
  | .missed => False
  | .cleared hubId cleared => ∀ slug ∈ cleared, Grips s tx hubId slug
  | .writing hubId slug cleared => Seated s tx hubId (slug :: cleared)

def slugAssertions (limits : Limits) : Assertions Registry SlugProgress where
  shared := Sound limits
  task i p s := p.tx = i ∧ Knows s i p.phase

-- One row is written, whether it was there or not.
theorem liveCount_write (s : Registry) (slug : String) (row : SlugRow) (hubId : String) :
    liveCount (withSlugs s (s.db.hubSlugs.insert slug row)) hubId ≤
      liveCount s hubId + if row.liveFor hubId then 1 else 0 := by
  cases found : s.db.hubSlugs[slug]? with
  | none =>
    have fresh : slug ∉ s.db.hubSlugs := by
      intro listed
      rw [ExtTreeMap.mem_iff_isSome_getElem?, found] at listed
      cases listed
    exact Nat.le_of_eq (Counters.rows_insert fresh (fun _ row => row.liveFor hubId) row)
  | some old =>
    have replaced := Counters.rows_replace found (fun _ row => row.liveFor hubId) row
    change Counters.rows (s.db.hubSlugs.insert slug row) _ ≤ Counters.rows s.db.hubSlugs _ + _
    omega

theorem write_getElem? (s : Registry) (slug other : String) (row : SlugRow) :
    (withSlugs s (s.db.hubSlugs.insert slug row)).db.hubSlugs[other]? = if slug = other then some row else s.db.hubSlugs[other]? := by
  change (s.db.hubSlugs.insert slug row)[other]? = _
  rw [ExtTreeMap.getElem?_insert]
  by_cases here : slug = other <;> simp [here]

theorem Sound.write (sound : Sound limits s) (normal : ∃ raw, normalize raw = .ok slug)
    (plain : row.isCanonical = false)
    (housed : row.releasedAt = none → (liveHub s.db row.hubId).isSome = true)
    (room : row.releasedAt = none → (liveCount s row.hubId : Int) < limits.maxSlugs)
    (reserved : ∀ record ∈ s.released, record.slug = slug →
      Reserved limits (withSlugs s (s.db.hubSlugs.insert slug row)) record) :
    Sound limits (withSlugs s (s.db.hubSlugs.insert slug row)) where
  quota := by
    intro hubId counted
    have most := liveCount_write s slug row hubId
    by_cases live : row.liveFor hubId = true
    · obtain ⟨own, unreleased⟩ := liveFor_iff.mp live
      have free := room unreleased
      rw [own] at free
      rw [if_pos live] at most
      omega
    · rw [if_neg live] at most
      have before := sound.quota hubId (by omega)
      omega
  housed := by
    intro other found stored unreleased
    rw [write_getElem?] at stored
    split at stored
    next =>
      cases stored
      exact housed unreleased
    next => exact sound.housed other found stored unreleased
  normal := by
    intro other listed
    rcases ExtTreeMap.mem_insert.mp listed with here | before
    · exact (Std.LawfulEqOrd.eq_of_compare here) ▸ normal
    · exact sound.normal other before
  flagged := by
    intro other found stored canonical
    rw [write_getElem?] at stored
    split at stored
    next =>
      cases stored
      rw [plain] at canonical
      cases canonical
    next => exact sound.flagged other found stored canonical
  single := by
    intro hubId first second one two storedOne storedTwo flagOne flagTwo
    have old : ∀ (other : String) (found : SlugRow),
        (withSlugs s (s.db.hubSlugs.insert slug row)).db.hubSlugs[other]? = some found →
          found.canonicalFor hubId = true →
        s.db.hubSlugs[other]? = some found := by
      intro other found stored flag
      rw [write_getElem?] at stored
      split at stored
      next =>
        cases stored
        rw [canonicalFor_iff, plain] at flag
        cases flag.2
      next => exact stored
    exact sound.single hubId first second one two (old first one storedOne flagOne)
      (old second two storedTwo flagTwo) flagOne flagTwo
  reserved := by
    intro record listed
    obtain ⟨past, held⟩ := sound.reserved record listed
    refine ⟨past, ?_⟩
    by_cases here : record.slug = slug
    · exact reserved record listed here
    · refine held.imp (fun ⟨found, stored, own, later⟩ => ⟨found, ?_, own, later⟩) id
      rw [write_getElem?, if_neg (Ne.symm here)]
      exact stored
  locked := fun other held => ExtTreeMap.mem_insert.mpr (.inr (sound.locked other held))

-- Nothing but clock, locks and hubs changes.
theorem Sound.aside {after : Registry} (sound : Sound limits s) (rows : after.db.hubSlugs = s.db.hubSlugs)
    (housed : ∀ (slug : String) (row : SlugRow), s.db.hubSlugs[slug]? = some row → row.releasedAt = none →
      (liveHub after.db row.hubId).isSome = true)
    (released : after.released = s.released) (later : s.now ≤ after.now)
    (locked : ∀ slug ∈ after.locks, slug ∈ s.db.hubSlugs) : Sound limits after where
  quota := by
    intro hubId
    rw [liveCount, rows]
    exact sound.quota hubId
  housed := by
    rw [rows]
    exact housed
  normal := by
    rw [rows]
    exact sound.normal
  flagged := by
    rw [rows]
    exact sound.flagged
  single := by
    rw [rows]
    exact sound.single
  reserved := by
    intro record listed
    rw [released] at listed
    obtain ⟨past, held⟩ := sound.reserved record listed
    refine ⟨le_trans past later, ?_⟩
    rw [Reserved, rows]
    exact held.imp id fun elapsed => le_trans elapsed later
  locked := by
    rw [rows]
    exact locked

theorem locked_lockAll (sound : Sound limits s) {named : List String} (present : ∀ slug ∈ named, slug ∈ s.db.hubSlugs) :
    ∀ slug ∈ (lockAll s tx named).locks, slug ∈ s.db.hubSlugs := by
  intro slug held
  rw [ExtTreeMap.mem_iff_isSome_getElem?, lockAll_getElem?] at held
  split at held
  next here => exact present slug here
  next => exact sound.locked slug (ExtTreeMap.mem_iff_isSome_getElem?.mpr held)

theorem locked_unlock (sound : Sound limits s) : ∀ slug ∈ (unlock s tx).locks, slug ∈ s.db.hubSlugs := by
  intro slug held
  rw [ExtTreeMap.mem_iff_isSome_getElem?, unlock_getElem?] at held
  obtain ⟨holder, found⟩ := Option.isSome_iff_exists.mp held
  exact sound.locked slug (ExtTreeMap.mem_iff_isSome_getElem?.mpr (by rw [(Option.filter_eq_some_iff.mp found).1]; rfl))

theorem mem_hubSlugs (found : s.db.hubSlugs[slug]? = some row) : slug ∈ s.db.hubSlugs :=
  ExtTreeMap.mem_iff_isSome_getElem?.mpr (by rw [found]; rfl)

theorem Sound.reclaim (sound : Sound limits s) {claim : Claiming} (normal : ∃ raw, normalize raw = .ok claim.slug)
    (passes : StillPasses limits s (.reclaim claim)) : Sound limits ((SlugStatement.reclaim claim).effect tx s) := by
  obtain ⟨⟨housed, room, -⟩, free⟩ := passes
  obtain ⟨row, found, free⟩ := (Option.any_eq_true _ _).mp free
  obtain ⟨released, past, own⟩ := (Option.any_eq_true _ _).mp free
  rw [SlugStatement.effect, Tables.modify_found found]
  refine sound.write normal rfl (fun _ => housed) (fun _ => room) fun record listed here => ?_
  obtain ⟨-, ⟨kept, stored, named, later⟩ | elapsed⟩ := sound.reserved record listed
  · rw [here] at stored
    obtain rfl := Option.some.inj (found.symm.trans stored)
    rcases Bool.or_eq_true_iff.mp own with same | elapsed
    · refine .inl ⟨claim.reclaimed row, ?_, ?_, nofun⟩
      · rw [write_getElem?, if_pos here.symm]
      · exact (of_decide_eq_true same).symm.trans named
    · have after := later released past
      have done := of_decide_eq_true elapsed
      exact .inr (by change record.releasedAt + limits.cooloff ≤ s.now; omega)
  · exact .inr elapsed

theorem Sound.insert (sound : Sound limits s) {claim : Claiming} (normal : ∃ raw, normalize raw = .ok claim.slug)
    (passes : StillPasses limits s (.insert claim)) : Sound limits ((SlugStatement.insert claim).effect tx s) := by
  obtain ⟨⟨housed, room, -⟩, fresh⟩ := passes
  rw [SlugStatement.effect]
  split
  next =>
    refine sound.write normal rfl (fun _ => housed) (fun _ => room) fun record listed here => ?_
    obtain ⟨-, ⟨kept, stored, -, -⟩ | elapsed⟩ := sound.reserved record listed
    · rw [here] at stored
      exact absurd (mem_hubSlugs stored) fresh
    · exact .inr elapsed
  next => exact sound

theorem Sound.release (sound : Sound limits s) {settles : Bool} (live : ∃ row, liveSlug s slug hubId = some row) :
    Sound limits ((SlugStatement.release slug hubId settles).effect tx s) := by
  obtain ⟨row, live⟩ := live
  obtain ⟨found, live⟩ := liveSlug_eq_some.mp live
  obtain ⟨own, -⟩ := liveFor_iff.mp live
  let gone : SlugRow := { row with releasedAt := some s.now, isCanonical := false }
  have written : Sound limits (withSlugs s (s.db.hubSlugs.insert slug gone)) := by
    refine sound.write (sound.normal slug (mem_hubSlugs found)) rfl nofun nofun fun record listed here => ?_
    obtain ⟨past, ⟨kept, stored, named, -⟩ | elapsed⟩ := sound.reserved record listed
    · rw [here] at stored
      obtain rfl := Option.some.inj (found.symm.trans stored)
      refine .inl ⟨gone, ?_, named, ?_⟩
      · rw [write_getElem?, if_pos here.symm]
      · intro released same
        cases same
        exact past
    · exact .inr elapsed
  have effect : (SlugStatement.release slug hubId settles).effect tx s =
      { withSlugs s (s.db.hubSlugs.insert slug gone) with
        released := s.released ++ [{ slug := slug, hubId := hubId, releasedAt := s.now }] } := by
    rw [SlugStatement.effect, Tables.modify_found found]
  rw [effect]
  refine { written with reserved := ?_ }
  intro record listed
  rcases List.mem_append.mp listed with before | here
  · exact written.reserved record before
  · rw [List.mem_singleton] at here
    rw [here]
    refine ⟨le_refl s.now, .inl ⟨gone, ?_, own, ?_⟩⟩
    · exact (write_getElem? s slug slug gone).trans (if_pos rfl)
    · intro released same
      cases same
      exact le_refl s.now

theorem commit_getElem? (cleared : List String) (target : Option String) (s : Registry) (tx : Nat) (other : String) :
    ((SlugStatement.commit cleared target).effect tx s).db.hubSlugs[other]? =
      s.db.hubSlugs[other]?.map fun row => { row with isCanonical := flagAfter cleared target other row.isCanonical } := by
  rw [commit_rows, ExtTreeMap.getElem?_map]

-- After a commit only the target may be canonical for the hub.
theorem canonical_commit {cleared : List String} (seated : Seated s tx hubId (slug :: cleared)) {other : String}
    {after : SlugRow}
    {hub : String} (found : ((SlugStatement.commit cleared (some slug)).effect tx s).db.hubSlugs[other]? = some after)
    (flag : after.canonicalFor hub = true) :
    ∃ row, s.db.hubSlugs[other]? = some row ∧ row.hubId = hub ∧
      ((hub = hubId ∧ other = slug) ∨ (hub ≠ hubId ∧ row.canonicalFor hub = true)) := by
  rw [commit_getElem?] at found
  obtain ⟨row, before, rfl⟩ := Option.map_eq_some_iff.mp found
  obtain ⟨own, flag⟩ := canonicalFor_iff.mp flag
  have own : row.hubId = hub := own
  have flag : flagAfter cleared (some slug) other row.isCanonical = true := flag
  refine ⟨row, before, own, ?_⟩
  unfold flagAfter at flag
  by_cases target : slug = other
  · obtain ⟨-, held, found, live⟩ := seated.grips slug List.mem_cons_self
    rw [target, before] at found
    cases found
    exact .inl ⟨own.symm.trans (liveFor_iff.mp live).1, target.symm⟩
  · rw [if_neg (by simpa using target)] at flag
    by_cases named : other ∈ cleared
    · rw [if_pos named] at flag
      cases flag
    · rw [if_neg named] at flag
      refine .inr ⟨fun same => ?_, canonicalFor_iff.mpr ⟨own, flag⟩⟩
      rcases List.mem_cons.mp (seated.flags other row before (canonicalFor_iff.mpr ⟨own.trans same,
        flag⟩)) with here | inside
      · exact target here.symm
      · exact named inside

theorem Sound.commit (sound : Sound limits s) {cleared : List String} (seated : Seated s tx hubId (slug :: cleared)) :
    Sound limits ((SlugStatement.commit cleared (some slug)).effect tx s) where
  quota := by
    intro hub
    have same : liveCount ((SlugStatement.commit cleared (some slug)).effect tx s) hub = liveCount s hub := by
      rw [liveCount, commit_rows, Counters.rows_map]
      rfl
    rw [same]
    exact sound.quota hub
  housed := by
    intro other after found unreleased
    rw [commit_getElem?] at found
    obtain ⟨row, before, rfl⟩ := Option.map_eq_some_iff.mp found
    exact sound.housed other row before unreleased
  normal := by
    intro other listed
    rw [commit_rows, ExtTreeMap.mem_map] at listed
    exact sound.normal other listed
  flagged := by
    intro other after found canonical
    have flag : after.canonicalFor after.hubId = true := canonicalFor_iff.mpr ⟨rfl, canonical⟩
    obtain ⟨row, before, own, ⟨-, rfl⟩ | ⟨-, old⟩⟩ := canonical_commit seated found flag
    all_goals
      rw [commit_getElem?, before] at found
      cases found
    · obtain ⟨-, held, stored, live⟩ := seated.grips other List.mem_cons_self
      obtain rfl := Option.some.inj (before.symm.trans stored)
      exact (liveFor_iff.mp live).2
    · exact sound.flagged other row before (canonicalFor_iff.mp old).2
  single := by
    intro hub first second one two foundOne foundTwo flagOne flagTwo
    obtain ⟨rowOne, beforeOne, -, ⟨same, rfl⟩ | ⟨apart, oldOne⟩⟩ := canonical_commit seated foundOne flagOne
    · obtain ⟨-, -, -, ⟨-, rfl⟩ | ⟨apart, -⟩⟩ := canonical_commit seated foundTwo flagTwo
      · rfl
      · exact absurd same apart
    · obtain ⟨rowTwo, beforeTwo, -, ⟨same, -⟩ | ⟨-, oldTwo⟩⟩ := canonical_commit seated foundTwo flagTwo
      · exact absurd same apart
      · exact sound.single hub first second rowOne rowTwo beforeOne beforeTwo oldOne oldTwo
  reserved := by
    intro record listed
    obtain ⟨past, held⟩ := sound.reserved record listed
    refine ⟨past, held.imp (fun ⟨row, stored, own, later⟩ => ?_) id⟩
    have kept := commit_getElem? cleared (some slug) s tx record.slug
    rw [stored] at kept
    exact ⟨_, kept, own, later⟩
  locked := by
    intro other held
    rw [commit_rows, ExtTreeMap.mem_map]
    exact locked_unlock sound other held

theorem liveHub_delete {other : String} (apart : other ≠ hubId) :
    liveHub ((SlugStatement.deleteHub hubId).effect tx s).db other = liveHub s.db other := by
  rw [liveHub, liveHub, SlugStatement.effect, ExtTreeMap.getElem?_modify, if_neg (by simpa using Ne.symm apart)]

variable {p : SlugProgress} {label : SlugStatement}

theorem sound_step (sound : Sound limits s) (knows : Knows s p.tx p.phase) (passes : StillPasses limits s label)
    (permitted : slugRules.permits p label s (label.effect p.tx s)) : Sound limits (label.effect p.tx s) := by
  obtain ⟨-, -, allowed⟩ := permitted
  have same : Sound limits s := sound
  cases label with
  | read => exact same
  | readSlug slug => exact same
  | findCanonical hubId => exact same
  | nextLive hubId => exact same
  | reclaim claim => exact sound.reclaim allowed.2.2 passes
  | insert claim => exact sound.insert allowed.2.2 passes
  | clear hubId found =>
    refine sound.aside rfl sound.housed rfl (le_refl _) (locked_lockAll sound fun slug named => ?_)
    obtain ⟨row, stored, -⟩ := stillCanonical_iff.mp (List.mem_filter.mp named).2
    exact mem_hubSlugs stored
  | set slug hubId cleared =>
    rw [SlugStatement.effect]
    split
    next =>
      obtain ⟨row, live⟩ := Option.isSome_iff_exists.mp passes
      refine sound.aside rfl sound.housed rfl (le_refl _) (locked_lockAll sound fun other named => ?_)
      rw [List.mem_singleton] at named
      exact named ▸ mem_hubSlugs (liveSlug_eq_some.mp live).1
    next => exact same
  | commit cleared target =>
    rcases allowed with ⟨hubId, slug, phase, rfl, -⟩ | missed
    · rw [phase] at knows
      exact sound.commit knows
    · rw [missed] at knows
      exact knows.elim
  | rollback => exact sound.aside rfl sound.housed rfl (le_refl _) (locked_unlock sound)
  | release slug hubId settles =>
    obtain ⟨row, live, -⟩ := (Option.any_eq_true _ _).mp passes
    exact sound.release ⟨row, live⟩
  | deleteHub hubId =>
    refine sound.aside rfl (fun slug row stored unreleased => ?_) rfl (le_refl _) sound.locked
    have apart : row.hubId ≠ hubId := fun same =>
      liveCount_ne_zero.mpr ⟨slug, row, stored, liveFor_iff.mpr ⟨same, unreleased⟩⟩ passes
    rw [liveHub_delete apart]
    exact sound.housed slug row stored unreleased
  | tick seconds =>
    refine sound.aside rfl sound.housed rfl ?_ sound.locked
    change s.now ≤ s.now + (seconds : Int)
    omega

theorem grips_lockAll {named : List String} (here : slug ∈ named)
    (live : ∃ row, s.db.hubSlugs[slug]? = some row ∧ row.liveFor hubId = true) :
    Grips (lockAll s tx named) tx hubId slug :=
  ⟨by rw [lockAll_getElem?, if_pos here], live⟩

-- What the request itself knows after its statement.
theorem own_step (sound : Sound limits s) (knows : Knows s p.tx p.phase) (passes : StillPasses limits s label)
    (ready : label.ready p.tx s = true) (permitted : slugRules.permits p label s (label.effect p.tx s)) :
    Knows (label.effect p.tx s) p.tx (slugRules.advance p label s).phase := by
  obtain ⟨-, -, allowed⟩ := permitted
  have unlocked : ∀ slug : String, (unlock s p.tx).locks[slug]? ≠ some p.tx := by
    intro slug held
    rw [unlock_getElem?] at held
    exact of_decide_eq_true (Option.filter_eq_some_iff.mp held).2 rfl
  cases label with
  | read => exact knows
  | readSlug slug =>
    have phase : (slugRules.advance p (.readSlug slug) s).phase = p.phase := by
      simp only [slugRules]
      split <;> rfl
    rw [phase]
    exact knows
  | findCanonical hubId => exact knows
  | nextLive hubId =>
    have phase : (slugRules.advance p (.nextLive hubId) s).phase = p.phase := by
      simp only [slugRules]
      split <;> rfl
    rw [phase]
    exact knows
  | reclaim claim =>
    have phase : (slugRules.advance p (.reclaim claim) s).phase = .idle := allowed.1
    rw [phase]
    rw [allowed.1] at knows
    exact knows
  | insert claim =>
    have phase : (slugRules.advance p (.insert claim) s).phase = p.phase := by
      simp only [slugRules]
      split <;> rfl
    have locks : ((SlugStatement.insert claim).effect p.tx s).locks = s.locks := by
      rw [SlugStatement.effect]
      split <;> rfl
    rw [phase]
    rw [allowed.1] at knows ⊢
    intro slug
    rw [locks]
    exact knows slug
  | clear hubId found =>
    intro slug named
    obtain ⟨row, stored, flag⟩ := stillCanonical_iff.mp (List.mem_filter.mp named).2
    obtain ⟨own, canonical⟩ := canonicalFor_iff.mp flag
    exact grips_lockAll named ⟨row, stored, liveFor_iff.mpr ⟨own, sound.flagged slug row stored canonical⟩⟩
  | set slug hubId cleared =>
    rw [allowed.1] at knows
    rw [SlugStatement.effect]
    cases outcome : setOutcome s slug hubId cleared with
    | error e =>
      have phase : (slugRules.advance p (.set slug hubId cleared) s).phase = .refused := by
        simp only [slugRules, outcome]
      rw [phase]
      trivial
    | ok hit =>
      obtain ⟨row, live⟩ := Option.isSome_iff_exists.mp passes
      cases hit with
      | false =>
        unfold setOutcome at outcome
        rw [live] at outcome
        simp only [Option.isNone_some, Bool.false_eq_true, if_false] at outcome
        split at outcome <;> cases outcome
      | true =>
        obtain ⟨-, flags⟩ := setOutcome_true outcome
        have phase : (slugRules.advance p (.set slug hubId cleared) s).phase = .writing hubId slug cleared := by
          simp only [slugRules, outcome]
        rw [phase]
        have free : slugFree s p.tx slug = true ∧ indexFree s p.tx hubId = true := by
          simpa [SlugStatement.ready, live] using ready
        refine ⟨fun other named => ?_, flags, fun other found stored own => ?_⟩
        · rcases List.mem_cons.mp named with rfl | inside
          · exact grips_lockAll List.mem_cons_self ⟨row, liveSlug_eq_some.mp live⟩
          · obtain ⟨held, present⟩ := knows other inside
            refine ⟨?_, present⟩
            rw [lockAll_getElem?]
            split
            next => rfl
            next => exact held
        · rw [slugFree_iff]
          intro holder held
          rw [lockAll_getElem?] at held
          split at held
          next =>
            cases held
            rfl
          next => exact slugFree_iff.mp (indexFree_iff.mp free.2 other found stored own) holder held
  | commit cleared target => exact unlocked
  | rollback => exact unlocked
  | release slug hubId settles =>
    have phase : (slugRules.advance p (.release slug hubId settles) s).phase = .idle := allowed.1
    rw [phase]
    rw [allowed.1] at knows
    exact knows
  | deleteHub hubId =>
    have phase : (slugRules.advance p (.deleteHub hubId) s).phase = .idle := allowed
    rw [phase]
    rw [allowed] at knows
    exact knows
  | tick seconds =>
    have phase : (slugRules.advance p (.tick seconds) s).phase = .idle := allowed
    rw [phase]
    rw [allowed] at knows
    exact knows

-- A row that another transaction has locked keeps its hub and stays live.
theorem grips_others {other : Nat} {c : String} (apart : other ≠ tx) (ready : label.ready other s = true)
    (grips : Grips s tx hubId c) : Grips (label.effect other s) tx hubId c := by
  obtain ⟨held, row, stored, live⟩ := grips
  have away : slugFree s other c ≠ true := fun free => apart (slugFree_iff.mp free tx held).symm
  have locked : ∀ named : List String, (∀ slug ∈ named, slugFree s other slug = true) →
      (lockAll s other named).locks[c]? = some tx := by
    intro named free
    rw [lockAll_getElem?, if_neg fun here => away (free c here)]
    exact held
  have unlocked : (unlock s other).locks[c]? = some tx := by
    rw [unlock_getElem?, held, Option.filter_some, if_pos (decide_eq_true (Ne.symm apart))]
  cases label with
  | read => exact ⟨held, row, stored, live⟩
  | readSlug slug => exact ⟨held, row, stored, live⟩
  | findCanonical hub => exact ⟨held, row, stored, live⟩
  | nextLive hub => exact ⟨held, row, stored, live⟩
  | deleteHub hub => exact ⟨held, row, stored, live⟩
  | tick seconds => exact ⟨held, row, stored, live⟩
  | reclaim claim =>
    refine ⟨held, row, ?_, live⟩
    have elsewhere : claim.slug ≠ c := fun here => away (here ▸ ready)
    change (s.db.hubSlugs.modify claim.slug claim.reclaimed)[c]? = some row
    rw [ExtTreeMap.getElem?_modify, if_neg (by simpa using elsewhere)]
    exact stored
  | insert claim =>
    rw [SlugStatement.effect]
    split
    next fresh =>
      refine ⟨held, row, ?_, live⟩
      have elsewhere : claim.slug ≠ c := by
        rintro here
        have absent := of_decide_eq_true (Bool.and_eq_true_iff.mp fresh).1
        exact absent (here ▸ mem_hubSlugs stored)
      rw [write_getElem?, if_neg elsewhere]
      exact stored
    next => exact ⟨held, row, stored, live⟩
  | clear hub found => exact ⟨locked _ fun slug named => List.all_eq_true.mp ready slug named, row, stored, live⟩
  | set slug hub cleared =>
    rw [SlugStatement.effect]
    split
    next hit =>
      obtain ⟨⟨own, present⟩, -⟩ := setOutcome_true hit
      have free : slugFree s other slug = true ∧ indexFree s other hub = true := by
        simpa [SlugStatement.ready, present] using ready
      exact ⟨locked [slug] fun named here => by rw [List.mem_singleton.mp here]; exact free.1, row, stored, live⟩
    next => exact ⟨held, row, stored, live⟩
  | commit cleared target =>
    have kept := commit_getElem? cleared target s other c
    rw [stored] at kept
    exact ⟨unlocked, _, kept, live⟩
  | rollback => exact ⟨unlocked, row, stored, live⟩
  | release slug hub settles =>
    refine ⟨held, row, ?_, live⟩
    have elsewhere : slug ≠ c := fun here => away (here ▸ ready)
    change (s.db.hubSlugs.modify slug fun row => { row with releasedAt := some s.now, isCanonical := false })[c]? = some row
    rw [ExtTreeMap.getElem?_modify, if_neg (by simpa using elsewhere)]
    exact stored

-- Only a commit raises a flag, and only a reclaim or an insert moves a row to another hub.
theorem rows_after (knows : Knows s p.tx p.phase) (permitted : slugRules.permits p label s (label.effect p.tx s))
    {other : String}
    {after : SlugRow} (found : (label.effect p.tx s).db.hubSlugs[other]? = some after) :
    (∃ row, s.db.hubSlugs[other]? = some row ∧ after.hubId = row.hubId ∧
    (after.isCanonical = true → row.isCanonical = true)) ∨
      (s.locks[other]? = some p.tx ∧ ∃ row, s.db.hubSlugs[other]? = some row ∧ after.hubId = row.hubId) ∨
      (after.isCanonical = false ∧ p.phase = .idle ∧
        ((∃ claim, label = .reclaim claim ∧ other = claim.slug) ∨ other ∉ s.db.hubSlugs)) := by
  obtain ⟨-, -, allowed⟩ := permitted
  have kept : s.db.hubSlugs[other]? = some after →
      ∃ row, s.db.hubSlugs[other]? = some row ∧ after.hubId = row.hubId ∧
        (after.isCanonical = true → row.isCanonical = true) :=
    fun stored => ⟨after, stored, rfl, id⟩
  cases label with
  | read => exact .inl (kept found)
  | readSlug slug => exact .inl (kept found)
  | findCanonical hub => exact .inl (kept found)
  | nextLive hub => exact .inl (kept found)
  | deleteHub hub => exact .inl (kept found)
  | tick seconds => exact .inl (kept found)
  | clear hub found' => exact .inl (kept found)
  | rollback => exact .inl (kept found)
  | set slug hub cleared =>
    rw [SlugStatement.effect] at found
    split at found <;> exact .inl (kept found)
  | reclaim claim =>
    obtain ⟨row, stored, rfl⟩ := Tables.modify_some found
    by_cases here : claim.slug = other
    · rw [if_pos here]
      exact .inr (.inr ⟨rfl, allowed.1, .inl ⟨claim, rfl, here.symm⟩⟩)
    · rw [if_neg here]
      exact .inl ⟨row, stored, rfl, id⟩
  | insert claim =>
    rw [SlugStatement.effect] at found
    split at found
    next fresh =>
      rw [write_getElem?] at found
      split at found
      next here =>
        cases found
        have absent := of_decide_eq_true (Bool.and_eq_true_iff.mp fresh).1
        exact .inr (.inr ⟨rfl, allowed.1, .inr (here ▸ absent)⟩)
      next => exact .inl (kept found)
    next => exact .inl (kept found)
  | release slug hub settles =>
    obtain ⟨row, stored, rfl⟩ := Tables.modify_some found
    refine .inl ⟨row, stored, ?_⟩
    by_cases here : slug = other
    · rw [if_pos here]
      exact ⟨rfl, nofun⟩
    · rw [if_neg here]
      exact ⟨rfl, id⟩
  | commit cleared target =>
    rw [commit_getElem?] at found
    obtain ⟨row, stored, rfl⟩ := Option.map_eq_some_iff.mp found
    rcases allowed with ⟨hub, slug, phase, rfl, -⟩ | missed
    · rw [phase] at knows
      by_cases here : slug = other
      · have held := (knows.grips slug List.mem_cons_self).1
        exact .inr (.inl ⟨here ▸ held, row, stored, rfl⟩)
      · refine .inl ⟨row, stored, rfl, fun flag => ?_⟩
        have flag : flagAfter cleared (some slug) other row.isCanonical = true := flag
        unfold flagAfter at flag
        rw [if_neg (by simpa using here)] at flag
        split at flag
        next => cases flag
        next => exact flag
    · rw [missed] at knows
      exact knows.elim

-- What is locked after a statement was locked before, or is free for its transaction and of the hub it is at.
theorem locks_after (ready : label.ready p.tx s = true) {other : String} {holder : Nat}
    (held : (label.effect p.tx s).locks[other]? = some holder) :
    s.locks[other]? = some holder ∨ (holder = p.tx ∧ (label.effect p.tx s).db = s.db ∧ slugFree s p.tx other = true ∧
      ∃ hub row, s.db.hubSlugs[other]? = some row ∧ row.hubId = hub ∧
        (row.canonicalFor hub = true ∨ indexFree s p.tx hub = true)) := by
  cases label with
  | read => exact .inl held
  | readSlug slug => exact .inl held
  | findCanonical hub => exact .inl held
  | nextLive hub => exact .inl held
  | deleteHub hub => exact .inl held
  | tick seconds => exact .inl held
  | reclaim claim => exact .inl held
  | release slug hub settles => exact .inl held
  | insert claim =>
    rw [SlugStatement.effect] at held
    split at held <;> exact .inl held
  | clear hub found =>
    change (lockAll s p.tx _).locks[other]? = some holder at held
    rw [lockAll_getElem?] at held
    split at held
    next named =>
      cases held
      obtain ⟨row, stored, flag⟩ := stillCanonical_iff.mp (List.mem_filter.mp named).2
      have free : slugFree s p.tx other = true := List.all_eq_true.mp ready other named
      exact .inr ⟨rfl, rfl, free, hub, row, stored, (canonicalFor_iff.mp flag).1, .inl flag⟩
    next => exact .inl held
  | set slug hub cleared =>
    rw [SlugStatement.effect] at held ⊢
    split at held
    next hit =>
      obtain ⟨⟨row, present⟩, -⟩ := setOutcome_true hit
      have free : slugFree s p.tx slug = true ∧ indexFree s p.tx hub = true := by
        simpa [SlugStatement.ready, present] using ready
      rw [lockAll_getElem?] at held
      split at held
      next named =>
        cases held
        rw [List.mem_singleton] at named
        obtain ⟨stored, live⟩ := liveSlug_eq_some.mp present
        exact .inr ⟨rfl, rfl, named ▸ free.1, hub, row, named ▸ stored, (liveFor_iff.mp live).1, .inr free.2⟩
      next => exact .inl held
    next => exact .inl held
  | commit cleared target =>
    change (unlock s p.tx).locks[other]? = some holder at held
    rw [unlock_getElem?] at held
    exact .inl (Option.filter_eq_some_iff.mp held).1
  | rollback =>
    change (unlock s p.tx).locks[other]? = some holder at held
    rw [unlock_getElem?] at held
    exact .inl (Option.filter_eq_some_iff.mp held).1

-- Nobody else comes near the flag of a hub that a transaction is seated at.
theorem seated_others {named : List String} (apart : p.tx ≠ tx) (sound : Sound limits s)
    (ready : label.ready p.tx s = true)
    (knows : Knows s p.tx p.phase) (permitted : slugRules.permits p label s (label.effect p.tx s)) (some' : named ≠ [])
    (seated : Seated s tx hubId named) : Seated (label.effect p.tx s) tx hubId named := by
  have foreign : ∀ slug ∈ named, slugFree s p.tx slug ≠ true := fun slug listed free =>
    apart (slugFree_iff.mp free tx (seated.grips slug listed).1).symm
  refine ⟨fun slug listed => grips_others apart ready (seated.grips slug listed), ?_, ?_⟩
  · intro other after found flag
    obtain ⟨own, canonical⟩ := canonicalFor_iff.mp flag
    rcases rows_after knows permitted found with ⟨row, stored, same, raised⟩ | ⟨held, row, stored, same⟩ | ⟨plain, -, -⟩
    · exact seated.flags other row stored (canonicalFor_iff.mpr ⟨same.symm.trans own, raised canonical⟩)
    · exact absurd (slugFree_iff.mp (seated.alone other row stored (same.symm.trans own)) p.tx held) apart
    · rw [plain] at canonical
      cases canonical
  · intro other after found own
    rw [slugFree_iff]
    intro holder held
    rcases locks_after ready held with before | ⟨rfl, rows, free, hub, row, stored, at', flagged⟩
    · rcases rows_after knows permitted found with ⟨row, stored, same, -⟩ | ⟨-, row, stored, same⟩ | ⟨-, idle,
      ⟨claim, rfl, rfl⟩ | absent⟩
      · exact slugFree_iff.mp (seated.alone other row stored (same.symm.trans own)) holder before
      · exact slugFree_iff.mp (seated.alone other row stored (same.symm.trans own)) holder before
      · rw [idle] at knows
        obtain rfl := slugFree_iff.mp ready holder before
        exact absurd before (knows claim.slug)
      · exact absurd (sound.locked other (ExtTreeMap.mem_iff_isSome_getElem?.mpr (by rw [before]; rfl))) absent
    · have ownBefore : row.hubId = hubId := by
        rw [rows, stored] at found
        cases found
        exact own
      rcases flagged with canonical | indexed
      · have listed := seated.flags other row stored (canonicalFor_iff.mpr ⟨ownBefore,
        (canonicalFor_iff.mp canonical).2⟩)
        exact absurd free (foreign other listed)
      · obtain ⟨first, rest, rfl⟩ := List.exists_cons_of_ne_nil some'
        obtain ⟨-, mine, present, live⟩ := seated.grips first List.mem_cons_self
        have same : mine.hubId = hub := (liveFor_iff.mp live).1.trans (ownBefore.symm.trans at')
        exact absurd (indexFree_iff.mp indexed first mine present same) (foreign first List.mem_cons_self)

-- The statement of one transaction leaves what the others know.
theorem knows_others {phase : SlugPhase} (apart : p.tx ≠ tx) (sound : Sound limits s)
    (ready : label.ready p.tx s = true)
    (knows : Knows s p.tx p.phase) (permitted : slugRules.permits p label s (label.effect p.tx s))
    (held : Knows s tx phase) :
    Knows (label.effect p.tx s) tx phase := by
  cases phase with
  | idle =>
    intro slug locked
    rcases locks_after ready locked with before | ⟨same, -⟩
    · exact held slug before
    · exact apart same.symm
  | cleared hubId cleared => exact fun slug listed => grips_others apart ready (held slug listed)
  | writing hubId slug cleared => exact seated_others apart sound ready knows permitted (List.cons_ne_nil slug cleared) held
  | missed => exact held.elim
  | refused => trivial

end

end Wavvon.Farm
