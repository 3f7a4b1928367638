import Mathlib.Data.Finset.Max
import Wavvon.Farm.SlugLaws

set_option autoImplicit false

namespace Wavvon.Farm

open Std (ExtTreeMap)
open Interleaving (Handler FitAll System Moves Holds)

def LiveFor (s : Registry) (slug hubId : String) : Prop := ∃ row, liveSlug s slug hubId = some row

def CanonicalFor (s : Registry) (slug hubId : String) : Prop :=
  ∃ row, s.db.hubSlugs[slug]? = some row ∧ row.canonicalFor hubId = true

/-- A farm that no request is at work on. -/
structure Orderly (limits : Limits) (s : Registry) : Prop where
  sound : Sound limits s
  unlocked : s.locks = ∅
  settled : ∀ hubId, HasLive s hubId → HasCanonical s hubId

-- Every hub with a live slug has a canonical one, or a request has still to choose it.
def Settling (sys : SlugDesk) : Prop :=
  ∀ hubId, HasLive sys.shared hubId → HasCanonical sys.shared hubId ∨ ∃ p ∈ sys.progresses, p.owing = some hubId

-- The request gets its answer by its next statement.
def SlugDesk.Answers (sys : SlugDesk) (i : Nat) (answer : Except HttpError Unit) : Prop :=
  (sys.pending i).isSome = true ∧ ∃ p, (sys.next i).tasks[i]? = some { progress := p, handler := .done answer }

def SlugDesk.Quiet (sys : SlugDesk) : Prop := ∀ task ∈ sys.tasks, ∃ answer, task.handler = .done answer

-- A slug that was live is live for the same hub, or that hub has released it since.
def KeptSince (before after : Registry) : Prop :=
  ∀ slug hubId, LiveFor before slug hubId → LiveFor after slug hubId ∨
    ∃ record ∈ after.released.drop before.released.length, record.slug = slug ∧ record.hubId = hubId

/-- What holds of the slugs of a farm at any moment. -/
structure SlugLaws (limits : Limits) (sys : SlugDesk) : Prop where
  reserved : ∀ record ∈ sys.shared.released, ∀ hubId, hubId ≠ record.hubId → LiveFor sys.shared record.slug hubId →
    record.releasedAt + limits.cooloff ≤ sys.shared.now
  quota : ∀ hubId, liveCount sys.shared hubId ≤ limits.maxSlugs.toNat
  canonical : sys.Quiet → ∀ hubId, HasLive sys.shared hubId →
    ∃ slug, LiveFor sys.shared slug hubId ∧ ∀ other, CanonicalFor sys.shared other hubId ↔ other = slug

-- What is refused as taken is a slug that the farm resolves.
def TakenResolves (requests : List SlugRequest) (sys : SlugDesk) (i : Nat) : Prop :=
  ∀ user hubId raw canonical, requests[i]? = some (.claim user hubId raw canonical) → sys.Answers i (.error slugTaken) →
    ∃ slug, normalize raw = .ok slug ∧ (resolveHub sys.shared.db slug).isSome = true

/-- No hub loses an address in a run, and none is refused one that nobody has. -/
def AddressesKept (limits : Limits) (s : Registry) (requests : List SlugRequest) (schedule : List Nat) : Prop :=
  (∀ front back, front ++ back <+: schedule →
      KeptSince (Runs.run SlugDesk.next (SlugDesk.start limits s requests) front).shared
        (Runs.run SlugDesk.next (SlugDesk.start limits s requests) (front ++ back)).shared) ∧
    (∀ front, front <+: schedule → SlugLaws limits (Runs.run SlugDesk.next (SlugDesk.start limits s requests) front)) ∧
    Runs.Meets SlugDesk.next (TakenResolves requests) (SlugDesk.start limits s requests) schedule

/-- What the requests in flight keep up together. -/
structure Steady (limits : Limits) (requests : List SlugRequest) (sys : SlugDesk) : Prop where
  fit : FitAll slugRules Answered sys
  holds : Holds (slugAssertions limits) sys
  settling : Settling sys
  requested : ∀ (i : Nat) (p : SlugProgress), sys.progresses[i]? = some p → requests[i]? = some p.request

section

variable {limits : Limits} {s : Registry} {hubId slug : String} {p : SlugProgress} {label : SlugStatement}

theorem liveFor_kept {after : Registry} (kept : ∀ row, s.db.hubSlugs[slug]? = some row → row.liveFor hubId = true →
      ∃ later : SlugRow, after.db.hubSlugs[slug]? = some later ∧ later.liveFor hubId = true) (live :
      LiveFor s slug hubId) :
    LiveFor after slug hubId := by
  obtain ⟨row, found⟩ := live
  obtain ⟨stored, live⟩ := liveSlug_eq_some.mp found
  obtain ⟨later, stored, live⟩ := kept row stored live
  exact ⟨later, liveSlug_eq_some.mpr ⟨stored, live⟩⟩

-- A live slug stays with its hub, or the hub releases it.
theorem live_step (passes : StillPasses limits s label) (live : LiveFor s slug hubId) :
    LiveFor (label.effect p.tx s) slug hubId ∨
      (label.effect p.tx s).released = s.released ++ [{ slug := slug, hubId := hubId, releasedAt := s.now }] := by
  cases label with
  | read => exact .inl live
  | readSlug other => exact .inl live
  | findCanonical hub => exact .inl live
  | nextLive hub => exact .inl live
  | clear hub found => exact .inl live
  | rollback => exact .inl live
  | deleteHub hub => exact .inl live
  | tick seconds => exact .inl live
  | set other hub cleared =>
    rw [SlugStatement.effect]
    split <;> exact .inl live
  | reclaim claim =>
    refine .inl (liveFor_kept (fun row stored owns => ⟨row, ?_, owns⟩) live)
    obtain ⟨old, found, free⟩ := (Option.any_eq_true _ _).mp passes.2
    obtain ⟨released, gone, -⟩ := (Option.any_eq_true _ _).mp free
    have elsewhere : claim.slug ≠ slug := by
      rintro rfl
      rw [stored] at found
      cases found
      rw [(liveFor_iff.mp owns).2] at gone
      cases gone
    change (s.db.hubSlugs.modify claim.slug claim.reclaimed)[slug]? = some row
    rw [ExtTreeMap.getElem?_modify, if_neg (by simpa using elsewhere)]
    exact stored
  | insert claim =>
    refine .inl (liveFor_kept (fun row stored live => ⟨row, ?_, live⟩) live)
    rw [SlugStatement.effect]
    split
    next =>
      have elsewhere : claim.slug ≠ slug := by
        rintro rfl
        exact passes.2 (mem_hubSlugs stored)
      rw [write_getElem?, if_neg elsewhere]
      exact stored
    next => exact stored
  | commit cleared target =>
    refine .inl (liveFor_kept (fun row stored owns => ?_) live)
    have kept := commit_getElem? cleared target s p.tx slug
    rw [stored] at kept
    exact ⟨_, kept, owns⟩
  | release other hub settles =>
    obtain ⟨row, found⟩ := live
    obtain ⟨stored, live⟩ := liveSlug_eq_some.mp found
    obtain ⟨old, oldLive, -⟩ := (Option.any_eq_true _ _).mp passes
    obtain ⟨oldStored, oldLive⟩ := liveSlug_eq_some.mp oldLive
    by_cases here : other = slug
    · subst here
      obtain rfl := Option.some.inj (stored.symm.trans oldStored)
      obtain rfl := (liveFor_iff.mp live).1.symm.trans (liveFor_iff.mp oldLive).1
      exact .inr rfl
    · refine .inl ⟨row, liveSlug_eq_some.mpr ⟨?_, live⟩⟩
      change (s.db.hubSlugs.modify other _)[slug]? = some row
      rw [ExtTreeMap.getElem?_modify, if_neg (by simpa using here)]
      exact stored

-- What has been released is never forgotten.
theorem released_step (label : SlugStatement) (tx : Nat) (s : Registry) :
    s.released <+: (label.effect tx s).released := by
  cases label with
  | insert claim =>
    rw [SlugStatement.effect]
    split <;> exact List.prefix_refl _
  | set other hub cleared =>
    rw [SlugStatement.effect]
    split <;> exact List.prefix_refl _
  | release other hub settles => exact List.prefix_append _ _
  | _ => exact List.prefix_refl _

theorem oldestLive_none (nobody : oldestLive s hubId = none) : ¬ HasLive s hubId := by
  rintro ⟨slug, row, found, live⟩
  let candidates := s.db.hubSlugs.toList.filter fun entry => entry.2.liveFor hubId
  have listed : (slug, row) ∈ candidates :=
    List.mem_filter.mpr ⟨ExtTreeMap.mem_toList_iff_getElem?_eq_some.mpr found, live⟩
  obtain ⟨oldest, inside, least⟩ :=
    candidates.toFinset.exists_min_image (fun entry => entry.2.createdAt) ⟨_, List.mem_toFinset.mpr listed⟩
  have absent := List.find?_eq_none.mp (Option.map_eq_none_iff.mp nobody) oldest (List.mem_toFinset.mp inside)
  refine absent (List.all_eq_true.mpr fun other member => ?_)
  exact decide_eq_true (least other (List.mem_toFinset.mpr member))

-- A stored name that is not released is one that the farm resolves.
theorem resolves_of_held (sound : Sound limits s) (held : heldBySomeone s slug = true) {raw : String}
    (normal : normalize raw = .ok slug) : (resolveHub s.db slug).isSome = true := by
  obtain ⟨row, stored, unreleased⟩ := (Option.any_eq_true _ _).mp held
  obtain ⟨-, lowered, plain⟩ := normalize_ok normal
  have found : s.db.hubSlugs[toAsciiLowercase slug]? = some row := by
    rw [lowered, toAsciiLowercase_idem, ← lowered]
    exact stored
  have free : row.releasedAt = none := of_decide_eq_true unreleased
  obtain ⟨hub, live⟩ := Option.isSome_iff_exists.mp (sound.housed slug row stored free)
  have resolved : hubBySlug s.db (toAsciiLowercase slug) = some hub := by
    rw [hubBySlug, found, Option.filter_some, if_pos unreleased]
    exact live
  rw [resolveHub, plain, if_neg Bool.false_ne_true, resolved]
  rfl

-- A hub that a statement leaves without a canonical slug is left to the same request as before, or to this one.
def Owed (before after : Registry) (p q : SlugProgress) (hubId : String) : Prop :=
  HasCanonical after hubId ∨ q.owing = some hubId ∨
    (HasLive before hubId ∧ ¬ HasCanonical before hubId ∧ p.owing ≠ some hubId)

theorem owed_kept {after : Registry} {q : SlugProgress} (live : HasLive s hubId)
    (kept : HasCanonical s hubId → HasCanonical after hubId) (owing : p.owing = some hubId → q.owing = some hubId) :
    Owed s after p q hubId := by
  by_cases canonical : HasCanonical s hubId
  · exact .inl (kept canonical)
  · by_cases mine : p.owing = some hubId
    · exact .inr (.inl (owing mine))
    · exact .inr (.inr ⟨live, canonical, mine⟩)

theorem owed_same {after : Registry} {q : SlugProgress} (rows : after.db.hubSlugs = s.db.hubSlugs)
    (owing : p.owing = some hubId → q.owing = some hubId) (live : HasLive after hubId) : Owed s after p q hubId := by
  refine owed_kept ?_ ?_ owing
  · rwa [HasLive, rows] at live
  · rw [HasCanonical, HasCanonical, rows]
    exact id

-- A claim that is not to be canonical is of a hub that has another slug.
theorem owed_claim {claim : Claiming} {row : SlugRow} {q : SlugProgress} (allowed : claim.stillAllowed limits s)
    (own : row.hubId = claim.hubId) (plain : ∀ old, s.db.hubSlugs[claim.slug]? = some old → old.isCanonical = false)
    (before : p.owing = none) (after : q.owing = owes claim.settles claim.hubId)
    (live : HasLive (withSlugs s (s.db.hubSlugs.insert claim.slug row)) hubId) :
    Owed s (withSlugs s (s.db.hubSlugs.insert claim.slug row)) p q hubId := by
  have kept : HasCanonical s hubId → HasCanonical (withSlugs s (s.db.hubSlugs.insert claim.slug row)) hubId := by
    rintro ⟨other, old, found, flag⟩
    have elsewhere : claim.slug ≠ other := by
      rintro rfl
      rw [canonicalFor_iff, plain old found] at flag
      cases flag.2
    exact ⟨other, old, by rw [write_getElem?, if_neg elsewhere]; exact found, flag⟩
  have nothing : p.owing = some hubId → q.owing = some hubId := by
    rw [before]
    exact nofun
  obtain ⟨other, found, stored, owned⟩ := live
  rw [write_getElem?] at stored
  split at stored
  next =>
    cases stored
    obtain rfl := (liveFor_iff.mp owned).1.symm.trans own
    rcases allowed.2.2 with settles | more
    · refine .inr (.inl ?_)
      rw [after, settles]
      rfl
    · exact owed_kept (liveCount_ne_zero.mp more) kept nothing
  next => exact owed_kept ⟨other, found, stored, owned⟩ kept nothing

theorem owed_release {settles : Bool} {q : SlugProgress} (passes : StillPasses limits s (.release slug hubId settles))
    (before : p.owing = none) (after : q.owing = owes settles hubId) {hub : String}
    (live : HasLive ((SlugStatement.release slug hubId settles).effect p.tx s) hub) :
    Owed s ((SlugStatement.release slug hubId settles).effect p.tx s) p q hub := by
  obtain ⟨old, present, settled⟩ := (Option.any_eq_true _ _).mp passes
  obtain ⟨stored, owned⟩ := liveSlug_eq_some.mp present
  have others : ∀ other : String, slug ≠ other →
      ((SlugStatement.release slug hubId settles).effect p.tx s).db.hubSlugs[other]? = s.db.hubSlugs[other]? := by
    intro other elsewhere
    change (s.db.hubSlugs.modify slug _)[other]? = _
    rw [ExtTreeMap.getElem?_modify, if_neg (by simpa using elsewhere)]
  obtain ⟨kept, row, found, live⟩ := live
  have elsewhere : slug ≠ kept := by
    rintro rfl
    obtain ⟨_, _, rfl⟩ := Tables.modify_some found
    rw [if_pos rfl] at live
    cases (liveFor_iff.mp live).2
  rw [others kept elsewhere] at found
  by_cases canonical : HasCanonical s hub
  · obtain ⟨main, flagged, there, flag⟩ := canonical
    by_cases here : slug = main
    · subst here
      obtain rfl := Option.some.inj (stored.symm.trans there)
      obtain ⟨owner, raised⟩ := canonicalFor_iff.mp flag
      rw [raised] at settled
      refine .inr (.inl ?_)
      rw [after, ← owner, (liveFor_iff.mp owned).1, show settles = true from settled]
      rfl
    · exact .inl ⟨main, flagged, by rw [others main here]; exact there, flag⟩
  · exact .inr (.inr ⟨⟨kept, row, found, live⟩, canonical, by rw [before]; exact nofun⟩)

theorem owed_commit {cleared : List String} {q : SlugProgress} (seated : Seated s p.tx hubId (slug :: cleared))
    (own : ∀ hub ∈ p.owing, hub = hubId) {hub : String}
    (live : HasLive ((SlugStatement.commit cleared (some slug)).effect p.tx s) hub) :
    Owed s ((SlugStatement.commit cleared (some slug)).effect p.tx s) p q hub := by
  by_cases here : hub = hubId
  · subst here
    obtain ⟨-, row, stored, owned⟩ := seated.grips slug List.mem_cons_self
    have kept := commit_getElem? cleared (some slug) s p.tx slug
    rw [stored] at kept
    exact .inl ⟨slug, _, kept, canonicalFor_iff.mpr ⟨(liveFor_iff.mp owned).1, if_pos rfl⟩⟩
  · obtain ⟨other, row, found, live⟩ := live
    rw [commit_getElem?] at found
    obtain ⟨old, stored, rfl⟩ := Option.map_eq_some_iff.mp found
    refine owed_kept ⟨other, old, stored, live⟩ ?_ fun mine => absurd (own hub mine) here
    rintro ⟨main, flagged, there, flag⟩
    have outside : main ∉ slug :: cleared := by
      intro named
      obtain ⟨-, mine, stored, owned⟩ := seated.grips main named
      obtain rfl := Option.some.inj (there.symm.trans stored)
      exact here ((canonicalFor_iff.mp flag).1.symm.trans (liveFor_iff.mp owned).1)
    obtain ⟨target, away⟩ := not_or.mp fun named => outside (List.mem_cons.mpr named)
    have kept := commit_getElem? cleared (some slug) s p.tx main
    rw [there] at kept
    refine ⟨main, _, kept, canonicalFor_iff.mpr ⟨(canonicalFor_iff.mp flag).1, ?_⟩⟩
    change flagAfter cleared (some slug) main flagged.isCanonical = true
    rw [flagAfter, if_neg (by simpa using Ne.symm target), if_neg away]
    exact (canonicalFor_iff.mp flag).2

theorem insertable_of_passes {claim : Claiming} (passes : StillPasses limits s (.insert claim)) :
    claim.insertable s = true := by
  obtain ⟨hub, found⟩ := Option.isSome_iff_exists.mp passes.1.1
  have housed : claim.hubId ∈ s.db.hubs :=
    ExtTreeMap.mem_iff_isSome_getElem?.mpr (by rw [(Option.filter_eq_some_iff.mp found).1]; rfl)
  simp [Claiming.insertable, passes.2, housed]

theorem owed_step (sound : Sound limits s) (knows : Knows s p.tx p.phase) (passes : StillPasses limits s label)
    (permitted : slugRules.permits p label s (label.effect p.tx s)) (live : HasLive (label.effect p.tx s) hubId) :
    Owed s (label.effect p.tx s) p (slugRules.advance p label s) hubId := by
  obtain ⟨-, -, allowed⟩ := permitted
  cases label with
  | read => exact owed_same rfl id live
  | findCanonical hub => exact owed_same rfl id live
  | clear hub found => exact owed_same rfl id live
  | rollback => exact owed_same rfl id live
  | deleteHub hub => exact owed_same rfl id live
  | tick seconds => exact owed_same rfl id live
  | readSlug other =>
    refine owed_same rfl (fun mine => ?_) live
    simp only [slugRules]
    split <;> exact mine
  | nextLive hub =>
    refine owed_same rfl (fun mine => ?_) live
    obtain rfl := Option.some.inj (mine.symm.trans allowed.2)
    have others : oldestLive s hubId ≠ none := fun nobody => oldestLive_none nobody live
    simp only [slugRules]
    rw [if_neg (by simpa using others)]
    exact mine
  | reclaim claim =>
    obtain ⟨old, found, free⟩ := (Option.any_eq_true _ _).mp passes.2
    obtain ⟨released, gone, -⟩ := (Option.any_eq_true _ _).mp free
    rw [SlugStatement.effect, Tables.modify_found found] at live ⊢
    refine owed_claim passes.1 rfl (fun row stored => ?_) allowed.2.1 rfl live
    obtain rfl := Option.some.inj (stored.symm.trans found)
    refine Bool.eq_false_iff.mpr fun flag => ?_
    rw [sound.flagged claim.slug row stored flag] at gone
    cases gone
  | insert claim =>
    have insertable := insertable_of_passes passes
    rw [SlugStatement.effect, if_pos insertable] at live ⊢
    refine owed_claim passes.1 rfl (fun row stored => absurd (mem_hubSlugs stored) passes.2) allowed.2.1 ?_ live
    simp only [slugRules]
    rw [if_pos insertable]
  | set other hub cleared =>
    have rows : ((SlugStatement.set other hub cleared).effect p.tx s).db.hubSlugs = s.db.hubSlugs := by
      rw [SlugStatement.effect]
      split <;> rfl
    cases outcome : setOutcome s other hub cleared with
    | ok hit =>
      refine owed_same rows (fun mine => ?_) live
      simp only [slugRules, outcome]
      cases hit <;> exact mine
    | error e =>
      by_cases mine : p.owing = some hubId
      · obtain rfl := allowed.2 hubId mine
        obtain ⟨main, row, found, flag⟩ := setOutcome_error outcome
        exact .inl ⟨main, row, by rw [rows]; exact found, flag⟩
      · exact owed_same rows (fun same => absurd same mine) live
  | commit cleared target =>
    rcases allowed with ⟨hub, own, phase, rfl, owing⟩ | missed
    · rw [phase] at knows
      exact owed_commit knows owing live
    · rw [missed] at knows
      exact knows.elim
  | release other hub settles => exact owed_release passes allowed.2 rfl live

-- A request is refused for a slug that another holds only while the farm resolves it.
theorem taken_step (sound : Sound limits s) (passes : StillPasses limits s label)
    (permitted : slugRules.permits p label s (label.effect p.tx s))
    (taken : (slugRules.advance p label s).taken ≠ none) :
    ∃ user hubId raw canonical slug, p.request = .claim user hubId raw canonical ∧ normalize raw = .ok slug ∧
      (resolveHub s.db slug).isSome = true := by
  obtain ⟨-, untaken, allowed⟩ := permitted
  cases label with
  | readSlug slug =>
    simp only [slugRules] at taken
    split at taken
    next held =>
      obtain ⟨-, user, hubId, raw, canonical, request, normal⟩ := allowed
      exact ⟨user, hubId, raw, canonical, slug, request, normal, resolves_of_held sound held normal⟩
    next => exact absurd untaken taken
  | insert claim =>
    have insertable := insertable_of_passes passes
    simp only [slugRules] at taken
    rw [if_pos insertable] at taken
    exact absurd untaken taken
  | set slug hubId cleared =>
    simp only [slugRules] at taken
    split at taken <;> exact absurd untaken taken
  | nextLive hubId =>
    simp only [slugRules] at taken
    split at taken <;> exact absurd untaken taken
  | _ => exact absurd untaken taken

theorem request_kept (p : SlugProgress) (label : SlugStatement) (s : Registry) :
    (slugRules.advance p label s).request = p.request := by
  cases label <;> simp only [slugRules] <;> split <;> rfl

variable {requests : List SlugRequest} {sys : SlugDesk}

-- One step is the statement of one request, and its check still passes.
theorem next_cases (steady : Steady limits requests sys) {i : Nat} (upToDate : sys.UpToDate limits i) :
    sys.next i = sys ∨ ∃ p label, Moves slugRules sys (sys.next i) i p label ∧ p.tx = i ∧
    label.ready p.tx sys.shared = true ∧
      Knows sys.shared p.tx p.phase ∧ StillPasses limits sys.shared label ∧
      (sys.next i).shared = label.effect p.tx sys.shared := by
  rcases Interleaving.gatedStep_cases steady.fit i with idle | ⟨p, label, ready, moves⟩
  · exact .inl idle
  · obtain ⟨rfl, knows⟩ := steady.holds.at moves.atStatement
    have passes := upToDate (p, label) (System.atStatement_iff.mp moves.atStatement) ready
    exact .inr ⟨p, label, moves, rfl, ready, knows, passes, moves.permitted.1⟩

theorem steady_next (steady : Steady limits requests sys) {i : Nat} (upToDate : sys.UpToDate limits i) :
    Steady limits requests (sys.next i) := by
  rcases next_cases steady upToDate with idle | ⟨p, label, moves, rfl, ready, knows, passes, shared⟩
  · rw [idle]
    exact steady
  · have sound := steady.holds.shared
    have permitted := moves.permitted
    rw [shared] at permitted
    obtain ⟨handler, here⟩ := moves.here
    have others : ∀ j, j ≠ p.tx → (sys.next p.tx).progresses[j]? = sys.progresses[j]? := by
      intro j apart
      rw [System.progresses, System.progresses, List.getElem?_map, List.getElem?_map, moves.elsewhere j apart]
    have mine : (sys.next p.tx).progresses[p.tx]? = some (slugRules.advance p label sys.shared) := by
      rw [System.progresses, List.getElem?_map, here]
      rfl
    obtain ⟨effect, rest, found⟩ := moves.atStatement
    have before : sys.progresses[p.tx]? = some p := by
      rw [System.progresses, List.getElem?_map, found]
      rfl
    refine ⟨Interleaving.gatedStep_fit steady.fit p.tx, ?_, ?_, ?_⟩
    · refine steady.holds.moves moves ?_ ⟨?_, ?_⟩ ?_
      · rw [shared]
        exact sound_step sound knows passes permitted
      · cases label <;> simp only [slugRules] <;> split <;> rfl
      · rw [shared]
        exact own_step sound knows passes ready permitted
      · rintro j q apart ⟨own, held⟩
        refine ⟨own, ?_⟩
        rw [shared]
        exact knows_others (Ne.symm apart) sound ready knows permitted held
    · intro hubId live
      rw [shared] at live ⊢
      rcases owed_step sound knows passes permitted live with canonical | owing | ⟨liveBefore, missing, notMine⟩
      · exact .inl canonical
      · exact .inr ⟨_, List.mem_of_getElem? mine, owing⟩
      · obtain ⟨q, listed, owing⟩ := (steady.settling hubId liveBefore).resolve_left missing
        obtain ⟨j, found⟩ := List.mem_iff_getElem?.mp listed
        have apart : j ≠ p.tx := by
          rintro rfl
          rw [before] at found
          cases found
          exact notMine owing
        exact .inr ⟨q, List.mem_of_getElem? ((others j apart).trans found), owing⟩
    · intro j q found
      by_cases apart : j = p.tx
      · subst apart
        rw [mine] at found
        cases found
        rw [request_kept]
        exact steady.requested p.tx p before
      · rw [others j apart] at found
        exact steady.requested j q found

theorem start_progress {i : Nat} (found : (SlugDesk.start limits s requests).progresses[i]? = some p) :
    ∃ request, requests[i]? = some request ∧ p = { tx := i, request := request } := by
  simp only [SlugDesk.start, System.progresses, List.map_map, List.getElem?_map, List.getElem?_zipIdx, Nat.zero_add,
    Option.map_map] at found
  obtain ⟨request, listed, rfl⟩ := Option.map_eq_some_iff.mp found
  exact ⟨request, listed, rfl⟩

theorem start_steady (orderly : Orderly limits s) (requests : List SlugRequest) :
    Steady limits requests (SlugDesk.start limits s requests) where
  fit := by
    intro task listed
    obtain ⟨⟨request, i⟩, -, rfl⟩ := List.mem_map.mp listed
    exact slugRequest_fits limits request
  holds := by
    refine ⟨orderly.sound, fun i p found => ?_⟩
    obtain ⟨request, -, rfl⟩ := start_progress found
    refine ⟨rfl, fun slug held => ?_⟩
    change s.locks[slug]? = some i at held
    rw [orderly.unlocked, ExtTreeMap.getElem?_empty] at held
    cases held
  settling := fun hubId live => .inl (orderly.settled hubId live)
  requested := by
    intro i p found
    obtain ⟨request, listed, rfl⟩ := start_progress found
    exact listed

theorem laws_of_steady (steady : Steady limits requests sys) : SlugLaws limits sys where
  reserved := by
    intro record listed hubId apart ⟨row, live⟩
    obtain ⟨stored, owned⟩ := liveSlug_eq_some.mp live
    refine (steady.holds.shared.reserved record listed).2.resolve_left ?_
    rintro ⟨found, there, own, -⟩
    obtain rfl := Option.some.inj (stored.symm.trans there)
    exact apart ((liveFor_iff.mp owned).1.symm.trans own)
  quota := by
    intro hubId
    by_cases counted : liveCount sys.shared hubId = 0
    · omega
    · have most := steady.holds.shared.quota hubId counted
      omega
  canonical := by
    intro quiet hubId live
    have unowed : ∀ p ∈ sys.progresses, p.owing ≠ some hubId := by
      intro p listed owing
      obtain ⟨⟨q, handler⟩, member, rfl⟩ := List.mem_map.mp listed
      obtain ⟨answer, rfl⟩ := quiet _ member
      have answered : Answered q answer := steady.fit _ member
      rw [answered.2.1] at owing
      cases owing
    rcases steady.settling hubId live with ⟨slug, row, found, flag⟩ | ⟨p, listed, owing⟩
    · obtain ⟨own, raised⟩ := canonicalFor_iff.mp flag
      have unreleased := steady.holds.shared.flagged slug row found raised
      refine ⟨slug, ⟨row, liveSlug_eq_some.mpr ⟨found, liveFor_iff.mpr ⟨own, unreleased⟩⟩⟩, fun other => ?_⟩
      constructor
      · rintro ⟨second, there, same⟩
        exact steady.holds.shared.single hubId other slug second row there found same flag
      · rintro rfl
        exact ⟨row, found, flag⟩
    · exact absurd owing (unowed p listed)

theorem takenResolves_of_steady (steady : Steady limits requests sys) {i : Nat} (upToDate : sys.UpToDate limits i) :
    TakenResolves requests sys i := by
  intro user hubId raw canonical asked ⟨waiting, q, answered⟩
  rcases next_cases steady upToDate with idle | ⟨p, label, moves, rfl, ready, knows, passes, shared⟩
  · rw [idle] at answered
    rw [System.pending, answered] at waiting
    cases waiting
  · have permitted := moves.permitted
    rw [shared] at permitted
    obtain ⟨handler, here⟩ := moves.here
    obtain rfl : slugRules.advance p label sys.shared = q := congrArg (·.progress)
      (Option.some.inj (here.symm.trans answered))
    have ends : Answered _ (.error slugTaken) :=
      Interleaving.gatedStep_fit steady.fit p.tx _ (List.mem_of_getElem? answered)
    obtain ⟨user', hub', raw', canonical', slug, request, normal, resolved⟩ :=
      taken_step steady.holds.shared passes permitted (ends.2.2 rfl)
    obtain ⟨effect, rest, found⟩ := moves.atStatement
    have own := steady.requested p.tx p (by rw [System.progresses, List.getElem?_map, found]; rfl)
    rw [request, asked] at own
    cases own
    exact ⟨slug, normal, resolved⟩

-- The log of releases only grows, and a slug that leaves its hub is on it.
theorem keptSince_next {before : Registry} (steady : Steady limits requests sys) {i : Nat}
    (upToDate : sys.UpToDate limits i)
    (longer : before.released <+: sys.shared.released) (kept : KeptSince before sys.shared) :
    before.released <+: (sys.next i).shared.released ∧ KeptSince before (sys.next i).shared := by
  rcases next_cases steady upToDate with idle | ⟨p, label, -, -, -, -, passes, shared⟩
  · rw [idle]
    exact ⟨longer, kept⟩
  · rw [shared]
    refine ⟨longer.trans (released_step label p.tx sys.shared), fun slug hubId live => ?_⟩
    rcases kept slug hubId live with still | ⟨record, listed, named⟩
    · refine (live_step passes still).imp_right fun released => ?_
      rw [released, List.drop_append_of_le_length longer.length_le]
      exact ⟨_, List.mem_append_right _ List.mem_cons_self, rfl, rfl⟩
    · obtain ⟨more, appended⟩ := released_step label p.tx sys.shared
      refine .inr ⟨record, ?_, named⟩
      rw [← appended, List.drop_append_of_le_length longer.length_le]
      exact List.mem_append_left more listed

end

/--
However the statements interleave, every hub keeps its addresses, as long as what each request checked still passes in
the state that it writes to.
-/
theorem addresses_kept (limits : Limits) (s : Registry) (orderly : Orderly limits s) (requests : List SlugRequest)
    (schedule : List Nat)
    (met : Runs.Meets SlugDesk.next (SlugDesk.UpToDate limits) (SlugDesk.start limits s requests) schedule) :
    AddressesKept limits s requests schedule := by
  have steady : ∀ front, front <+: schedule →
      Steady limits requests (Runs.run SlugDesk.next (SlugDesk.start limits s requests) front) := by
    rintro front ⟨back, rfl⟩
    exact Runs.Meets.invariant (Steady limits requests) (fun _ _ held upToDate => steady_next held upToDate)
      (start_steady orderly requests) (Runs.Meets.append.mp met).1
  refine ⟨fun front back before => ?_, fun front before => laws_of_steady (steady front before), ?_⟩
  · obtain ⟨rest, rfl⟩ := before
    obtain ⟨metFront, metBack⟩ := Runs.Meets.append.mp (Runs.Meets.append.mp met).1
    rw [Runs.run_append]
    have kept := Runs.Meets.invariant
      (fun sys => Steady limits requests sys ∧
        (Runs.run SlugDesk.next (SlugDesk.start limits s requests) front).shared.released <+: sys.shared.released ∧
        KeptSince (Runs.run SlugDesk.next (SlugDesk.start limits s requests) front).shared sys.shared)
      (fun _ _ ⟨held, longer, kept⟩ upToDate => ⟨steady_next held upToDate, keptSince_next held upToDate longer kept⟩)
      ⟨steady front ⟨back ++ rest, by rw [List.append_assoc]⟩, List.prefix_refl _, fun _ _ live => .inl live⟩ metBack
    exact kept.2.2
  · rw [Runs.meets_iff]
    intro front i before
    exact takenResolves_of_steady (steady front ((List.prefix_append front [i]).trans before))
      (Runs.meets_iff.mp met front i before)

-- Hubs that have not claimed anything yet.
theorem orderly_unclaimed {limits : Limits} {s : Registry} (rows : s.db.hubSlugs = ∅) (unlocked : s.locks = ∅)
    (unreleased : s.released = []) : Orderly limits s := by
  have unfound : ∀ slug : String, s.db.hubSlugs[slug]? = none := by simp [rows]
  have nobody : ∀ hubId, ¬ HasLive s hubId := by
    rintro hubId ⟨slug, row, found, -⟩
    rw [unfound] at found
    cases found
  constructor
  case unlocked => exact unlocked
  case settled => exact fun hubId live => absurd live (nobody hubId)
  case sound =>
    constructor
    case quota => exact fun hubId counted => absurd (liveCount_ne_zero.mp counted) (nobody hubId)
    case housed =>
      intro slug row found
      rw [unfound] at found
      cases found
    case normal =>
      intro slug listed
      rw [ExtTreeMap.mem_iff_isSome_getElem?, unfound] at listed
      cases listed
    case flagged =>
      intro slug row found
      rw [unfound] at found
      cases found
    case single =>
      intro hubId first second row other found
      rw [unfound] at found
      cases found
    case reserved => simp [unreleased]
    case locked =>
      intro slug held
      rw [unlocked] at held
      cases ExtTreeMap.not_mem_empty held

-- Three hubs that nobody has named.
def harborFarm : Registry where
  db :=
    { hubs := (((∅ : Table HubRow).insert "a" { ownerPubkey := "ann", name := "A" }).insert "b"
        { ownerPubkey := "bob", name := "B" }).insert "c" { ownerPubkey := "cat", name := "C" } }

def twoWeeks : Limits := { maxSlugs := 5, cooloffDays := 14 }

-- Ann gives the name back, and when it is free again both others ask for it.
def harborRequests : List SlugRequest :=
  [.claim "ann" "a" "harbor" false, .release "ann" "a" "harbor", .pass 1209600, .claim "bob" "b" "harbor" false,
   .claim "cat" "c" "harbor" false]

-- Until bob's claim is written, with both of them past their checks.
def bothAsked : List Nat :=
  List.replicate 10 0 ++ List.replicate 5 1 ++ [2] ++ List.replicate 5 3 ++ List.replicate 5 4 ++ [3]

theorem addresses_kept_harbor : AddressesKept twoWeeks harborFarm harborRequests bothAsked :=
  addresses_kept twoWeeks harborFarm (orderly_unclaimed rfl rfl rfl) harborRequests bothAsked (by decide +kernel)

-- Then cat's claim takes the name from bob's hub.
theorem harbor_taken :
    ¬ ∀ (limits : Limits) (s : Registry) (requests : List SlugRequest) (schedule : List Nat), Orderly limits s →
      AddressesKept limits s requests schedule := by
  intro always
  have kept := (always twoWeeks harborFarm harborRequests (bothAsked ++ [4]) (orderly_unclaimed rfl rfl rfl)).1
    bothAsked [4] (List.prefix_refl _)
  have live : (liveSlug (Runs.run SlugDesk.next (SlugDesk.start twoWeeks harborFarm harborRequests) bothAsked).shared
      "harbor" "b").isSome = true := by decide +kernel
  rcases kept "harbor" "b" (Option.isSome_iff_exists.mp live) with ⟨row, still⟩ | ⟨record, listed, -, -⟩
  · have gone : liveSlug (Runs.run SlugDesk.next (SlugDesk.start twoWeeks harborFarm harborRequests)
    (bothAsked ++ [4])).shared
        "harbor" "b" = none := by decide +kernel
    rw [gone] at still
    cases still
  · have nothing : (Runs.run SlugDesk.next (SlugDesk.start twoWeeks harborFarm harborRequests)
    (bothAsked ++ [4])).shared.released.drop
        (Runs.run SlugDesk.next (SlugDesk.start twoWeeks harborFarm harborRequests) bothAsked).shared.released.length = [] := by
      decide +kernel
    rw [nothing] at listed
    cases listed

end Wavvon.Farm
