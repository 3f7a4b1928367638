import Wavvon.Farm.Slugs

set_option autoImplicit false

namespace Wavvon.Farm

open Interleaving (Handler Discipline Fits FitAll System fits_quiet)

-- How far the transaction that moves the canonical flag is.
inductive SlugPhase where
  | idle
  | cleared (hubId : String) (cleared : List String)
  | writing (hubId slug : String) (cleared : List String)
  | missed
  | refused
  deriving DecidableEq

structure SlugProgress where
  tx : Nat
  request : SlugRequest
  phase : SlugPhase := .idle
  -- The hub that the request has still to find a canonical slug for.
  owing : Option String := none
  -- The slug it is refused because another holds it.
  taken : Option String := none

def owes (settles : Bool) (hubId : String) : Option String := if settles then some hubId else none

def heldBySomeone (s : Registry) (slug : String) : Bool :=
  s.db.hubSlugs[slug]?.any fun row => decide (row.releasedAt = none)

def slugRules : Discipline Registry SlugStatement SlugProgress where
  advance p label s :=
    match label with
    | .readSlug slug => if heldBySomeone s slug then { p with taken := some slug } else p
    | .reclaim claim => { p with owing := owes claim.settles claim.hubId }
    | .insert claim =>
      if claim.insertable s then { p with owing := owes claim.settles claim.hubId }
      else { p with taken := some claim.slug }
    | .clear hubId found => { p with phase := .cleared hubId (found.filter (stillCanonical s hubId)) }
    | .set slug hubId cleared =>
      match setOutcome s slug hubId cleared with
      | .error _ => { p with phase := .refused, owing := none }
      | .ok true => { p with phase := .writing hubId slug cleared }
      | .ok false => { p with phase := .missed }
    | .commit _ _ => { p with phase := .idle, owing := none }
    | .rollback => { p with phase := .idle }
    | .release _ hubId settles => { p with owing := owes settles hubId }
    | .nextLive hubId => if (oldestLive s hubId).isNone then { p with owing := none } else p
    | _ => p
  permits p label s after :=
    after = label.effect p.tx s ∧ p.taken = none ∧
      match label with
      | .readSlug slug => p.phase = .idle ∧ ∃ user hubId raw canonical, p.request = .claim user hubId raw canonical ∧
        normalize raw = .ok slug
      | .reclaim claim => p.phase = .idle ∧ p.owing = none ∧ ∃ raw, normalize raw = .ok claim.slug
      | .insert claim => p.phase = .idle ∧ p.owing = none ∧ ∃ raw, normalize raw = .ok claim.slug
      | .findCanonical _ => p.phase = .idle
      | .clear _ _ => p.phase = .idle
      | .set _ hubId cleared => p.phase = .cleared hubId cleared ∧ ∀ hub ∈ p.owing, hub = hubId
      | .commit cleared slug => (∃ hubId own, p.phase = .writing hubId own cleared ∧ slug = some own ∧
          ∀ hub ∈ p.owing, hub = hubId) ∨ p.phase = .missed
      | .rollback => p.phase = .refused
      | .release _ _ _ => p.phase = .idle ∧ p.owing = none
      | .nextLive hubId => p.phase = .idle ∧ p.owing = some hubId
      | _ => p.phase = .idle

-- An answer leaves nothing locked and nothing owed.
def Answered (p : SlugProgress) (answer : Except HttpError Unit) : Prop :=
  p.phase = .idle ∧ p.owing = none ∧ (answer = .error slugTaken → p.taken ≠ none)

section

variable {A B : Type} {post : SlugProgress → B → Prop} {p : SlugProgress} {tx : Nat} {request : SlugRequest}

theorem answered_plain {answer : Except HttpError Unit} (plain : answer ≠ .error slugTaken) :
    Answered { tx := tx, request := request } answer :=
  ⟨rfl, rfl, fun same => absurd same plain⟩

-- The texts of the other refusals part from it at their sixth letter.
theorem plain_of_front {front rest : String} (long : 5 < front.toList.length) (parts : front.toList[5]? ≠ some 't') :
    (Except.error (409, front ++ rest) : Except HttpError Unit) ≠ .error slugTaken := by
  intro same
  have texts : front ++ rest = "slug_taken" := congrArg Prod.snd (Except.error.inj same)
  have letter : (front ++ rest).toList[5]? = some 't' := by
    rw [texts]
    rfl
  rw [String.toList_append, List.getElem?_append_left long] at letter
  exact parts letter

theorem readSlugs_andThen {E C : Type} {later : SlugProgress → Except E C → Prop} {read : Registry → Except E A}
    {rest : A → Desk (Except E C)} (stops : ∀ s e, read s = .error e → later { tx := tx, request := request }
    (.error e))
    (goesOn : ∀ answer, Fits slugRules later { tx := tx, request := request } (rest answer)) :
    Fits slugRules later { tx := tx, request := request } ((exec tx .read read).andThen rest) := by
  refine ⟨fun _ => ⟨rfl, rfl, rfl⟩, fun s => ?_⟩
  simp only [Handler.bind, slugRules]
  cases answer : read s with
  | error e => exact stops s e answer
  | ok value => exact goesOn value

theorem setOutcome_plain {s : Registry} {slug hubId : String} {cleared : List String} {e : HttpError}
    (refused : setOutcome s slug hubId cleared = .error e) : e ≠ slugTaken := by
  unfold setOutcome at refused
  split at refused
  next => cases refused
  next =>
    split at refused
    next =>
      cases refused
      simp [slugTaken]
    next => cases refused

theorem setCanonical_fits {owing : Option String} (hubId slug : String) (own : ∀ hub ∈ owing, hub = hubId) :
    Fits slugRules Answered { tx := tx, request := request, owing := owing } (setCanonical tx hubId slug) := by
  refine fits_quiet (fun _ => rfl) (fun _ => ⟨rfl, rfl, rfl⟩) fun found => ?_
  refine ⟨fun _ => ⟨rfl, rfl, rfl⟩, fun s => ?_⟩
  refine ⟨fun _ => ⟨rfl, rfl, rfl, own⟩, fun s => ?_⟩
  simp only [Handler.bind, slugRules]
  cases outcome : setOutcome s slug hubId _ with
  | error e =>
    refine ⟨fun _ => ⟨rfl, rfl, rfl⟩, fun _ => ⟨rfl, rfl, fun same => ?_⟩⟩
    exact absurd (Except.error.inj same) (setOutcome_plain outcome)
  | ok hit =>
    cases hit with
    | false => exact ⟨fun _ => ⟨rfl, rfl, .inr rfl⟩, fun _ => ⟨rfl, rfl, nofun⟩⟩
    | true => exact ⟨fun _ => ⟨rfl, rfl, .inl ⟨hubId, slug, rfl, rfl, own⟩⟩, fun _ => ⟨rfl, rfl, nofun⟩⟩

theorem ownerOf_plain {s : Registry} {hubId : String} {e : HttpError} (refused : ownerOf s hubId = .error e) :
    e ≠ slugTaken := by
  unfold ownerOf at refused
  split at refused
  next =>
    cases refused
    simp [slugTaken]
  next => cases refused

theorem requireHubControl_fits (user hubId : String) :
    Fits slugRules (fun q answer => q = { tx := tx, request := request } ∧ answer ≠ .error slugTaken)
      { tx := tx, request := request } (requireHubControl tx user hubId) := by
  refine readSlugs_andThen (fun s e refused => ⟨rfl, fun same => ?_⟩) fun owner => ?_
  · exact absurd (Except.error.inj same) (ownerOf_plain refused)
  · refine fits_quiet (fun _ => rfl) (fun _ => ⟨rfl, rfl, rfl⟩) fun admin => ?_
    split
    next => exact ⟨rfl, nofun⟩
    next => exact ⟨rfl, by simp [slugTaken]⟩

theorem afterControl {user hubId : String} {rest : Unit → Desk (Except HttpError Unit)}
    (goesOn : Fits slugRules Answered { tx := tx, request := request } (rest ())) :
    Fits slugRules Answered { tx := tx, request := request } ((requireHubControl tx user hubId).andThen rest) := by
  refine (requireHubControl_fits user hubId).andThen ?_ ?_
  · rintro _ e ⟨rfl, plain⟩
    exact answered_plain fun same => plain (congrArg _ (Except.error.inj same))
  · rintro _ value ⟨rfl, -⟩
    exact goesOn

theorem promoteSlug_fits (user hubId slugParam : String) :
    Fits slugRules Answered { tx := tx, request := request } (promoteSlug tx user hubId slugParam) := by
  refine afterControl (fits_quiet (fun _ => rfl) (fun _ => ⟨rfl, rfl, rfl⟩) fun live => ?_)
  split
  next => exact answered_plain (by simp [slugNotFound, slugTaken])
  next => exact setCanonical_fits hubId _ fun hub owing => by cases owing

theorem releaseSlug_fits (user hubId slugParam : String) :
    Fits slugRules Answered { tx := tx, request := request } (releaseSlug tx user hubId slugParam) := by
  refine afterControl (fits_quiet (fun _ => rfl) (fun _ => ⟨rfl, rfl, rfl⟩) fun live => ?_)
  cases live with
  | none => exact answered_plain (by simp [slugNotFound, slugTaken])
  | some row =>
    refine ⟨fun _ => ⟨rfl, rfl, rfl, rfl⟩, fun s => ?_⟩
    simp only [Handler.bind, slugRules, owes]
    cases row.isCanonical with
    | false => exact answered_plain nofun
    | true =>
      refine ⟨fun _ => ⟨rfl, rfl, rfl, rfl⟩, fun s => ?_⟩
      dsimp only
      cases oldestLive s hubId with
      | none => exact answered_plain nofun
      | some next => exact setCanonical_fits hubId next fun hub owing => (Option.some.inj owing).symm

-- A claim either writes and is settled from then on, or is refused.
theorem writeClaim_fits {limits : Limits} {s : Registry} {claim : Claiming} {raw : String}
    {rest : Unit → Desk (Except HttpError Unit)}
    (normal : normalize raw = .ok claim.slug)
    (goesOn : Fits slugRules Answered { tx := tx, request := request, owing := owes claim.settles claim.hubId }
    (rest ())) :
    Fits slugRules Answered (slugRules.advance { tx := tx, request := request } (.readSlug claim.slug) s)
      ((writeClaim tx limits s.db.hubSlugs[claim.slug]? claim).andThen rest) := by
  have seen : slugRules.advance { tx := tx, request := request } (.readSlug claim.slug) s =
      if heldBySomeone s claim.slug then { tx := tx, request := request, taken := some claim.slug }
      else { tx := tx, request := request } := rfl
  rw [seen, heldBySomeone]
  cases existing : s.db.hubSlugs[claim.slug]? with
  | none =>
    simp only [Option.any_none, Bool.false_eq_true, if_false]
    refine ⟨fun _ => ⟨rfl, rfl, rfl, rfl, raw, normal⟩, fun s => ?_⟩
    simp only [Handler.bind, slugRules]
    by_cases fresh : claim.insertable s = true
    · rw [if_pos fresh, if_pos fresh]
      exact goesOn
    · rw [if_neg fresh, if_neg fresh]
      exact ⟨rfl, rfl, fun _ => Option.some_ne_none _⟩
  | some row =>
    cases released : row.releasedAt with
    | none =>
      simp only [Option.any_some, released, decide_true, if_true, writeClaim]
      exact ⟨rfl, rfl, fun _ => Option.some_ne_none _⟩
    | some releasedAt =>
      simp only [Option.any_some, released, reduceCtorEq, decide_false, Bool.false_eq_true, if_false, writeClaim]
      split
      next => exact answered_plain (plain_of_front (by decide) (by decide))
      next => exact ⟨fun _ => ⟨rfl, rfl, rfl, rfl, raw, normal⟩, fun _ => goesOn⟩

theorem claimSlug_fits {limits : Limits} (user hubId raw : String) (canonical : Bool)
    (own : request = .claim user hubId raw canonical) :
    Fits slugRules Answered { tx := tx, request := request } (claimSlug tx limits user hubId raw canonical) := by
  refine afterControl ?_
  cases normal : normalize raw with
  | error e => exact answered_plain (by simp [slugTaken])
  | ok slug =>
    refine fits_quiet (fun _ => rfl) (fun _ => ⟨rfl, rfl, rfl⟩) fun now => ?_
    refine fits_quiet (fun _ => rfl) (fun _ => ⟨rfl, rfl, rfl⟩) fun live => ?_
    split
    next =>
      refine answered_plain ?_
      rw [quotaReached, String.append_assoc, String.append_assoc, String.append_assoc]
      exact plain_of_front (by decide) (by decide)
    next =>
      refine ⟨fun _ => ⟨rfl, rfl, rfl, user, hubId, raw, canonical, own, normal⟩, fun s => ?_⟩
      let claim : Claiming := ⟨slug, hubId, trim raw, now, canonical || decide (live = 0)⟩
      have named : normalize raw = .ok claim.slug := normal
      refine writeClaim_fits named ?_
      dsimp only [owes]
      split
      next => exact setCanonical_fits hubId slug fun hub owing => (Option.some.inj owing).symm
      next => exact answered_plain nofun

theorem deleteHub_fits (user hubId : String) :
    Fits slugRules Answered { tx := tx, request := request } (deleteHub tx user hubId) := by
  refine fits_quiet (fun _ => rfl) (fun _ => ⟨rfl, rfl, rfl⟩) fun admin => ?_
  refine readSlugs_andThen (fun s e refused => answered_plain fun same => ?_) fun owner => ?_
  · exact absurd (Except.error.inj same) (ownerOf_plain refused)
  · split
    next => exact answered_plain (by simp [slugTaken])
    next => exact ⟨fun _ => ⟨rfl, rfl, rfl⟩, fun _ => answered_plain nofun⟩

theorem slugRequest_fits (limits : Limits) (request : SlugRequest) :
    Fits slugRules Answered { tx := tx, request := request } (request.handle tx limits) := by
  cases request with
  | claim user hubId raw canonical => exact claimSlug_fits user hubId raw canonical rfl
  | promote user hubId slugParam => exact promoteSlug_fits user hubId slugParam
  | release user hubId slugParam => exact releaseSlug_fits user hubId slugParam
  | delete user hubId => exact deleteHub_fits user hubId
  | pass seconds => exact ⟨fun _ => ⟨rfl, rfl, rfl⟩, fun _ => answered_plain nofun⟩

end

end Wavvon.Farm
