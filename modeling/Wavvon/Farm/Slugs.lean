import Wavvon.Auth.State
import Wavvon.Farm.State
import Wavvon.Shared.Counters
import Wavvon.Shared.Interleaving

set_option autoImplicit false

namespace Wavvon.Farm

open Interleaving (Handler)

-- The columns `max_slugs_per_hub` and `slug_cooloff_days` of the farm.
structure Limits where
  maxSlugs : Int
  cooloffDays : Int

def Limits.cooloff (limits : Limits) : Int := limits.cooloffDays * 86400

structure ReleaseRecord where
  slug : String
  hubId : String
  releasedAt : Int
  deriving DecidableEq, Repr

/-- The committed rows, the clock, the row locks of the transactions in flight, and who asked for which release. -/
structure Registry where
  db : FarmDb := {}
  adminPubkey : Option String := none
  now : Int := 0
  locks : Table Nat := ∅
  released : List ReleaseRecord := []

def SlugRow.liveFor (row : SlugRow) (hubId : String) : Bool :=
  decide (row.hubId = hubId) && decide (row.releasedAt = none)

def SlugRow.canonicalFor (row : SlugRow) (hubId : String) : Bool :=
  decide (row.hubId = hubId) && row.isCanonical

def liveCount (s : Registry) (hubId : String) : Nat := Counters.rows s.db.hubSlugs fun _ row => row.liveFor hubId

def slugs (s : Registry) (holds : SlugRow → Bool) : List String :=
  (s.db.hubSlugs.toList.filter fun entry => holds entry.2).map (·.1)

def canonicalSlugs (s : Registry) (hubId : String) : List String := slugs s fun row => row.canonicalFor hubId

def liveSlug (s : Registry) (slug hubId : String) : Option SlugRow :=
  s.db.hubSlugs[slug]?.filter fun row => row.liveFor hubId

def stillCanonical (s : Registry) (hubId slug : String) : Bool :=
  s.db.hubSlugs[slug]?.any fun row => row.canonicalFor hubId

-- ORDER BY created_at LIMIT 1
def oldestLive (s : Registry) (hubId : String) : Option String :=
  let live := s.db.hubSlugs.toList.filter fun entry => entry.2.liveFor hubId
  (live.find? fun entry => live.all fun other => decide (entry.2.createdAt ≤ other.2.createdAt)).map (·.1)

/-- What a claim writes into the row of a slug. -/
structure Claiming where
  slug : String
  hubId : String
  display : String
  now : Int
  -- The claim goes on to make the slug canonical.
  settles : Bool
  deriving DecidableEq

inductive SlugStatement where
  | read
  | readSlug (slug : String)
  | reclaim (claim : Claiming)
  | insert (claim : Claiming)
  | findCanonical (hubId : String)
  | clear (hubId : String) (found : List String)
  | set (slug hubId : String) (cleared : List String)
  | commit (cleared : List String) (slug : Option String)
  | rollback
  | release (slug hubId : String) (settles : Bool)
  | nextLive (hubId : String)
  | deleteHub (hubId : String)
  | tick (seconds : Nat)
  deriving DecidableEq

def withSlugs (s : Registry) (hubSlugs : Table SlugRow) : Registry :=
  { s with db := { s.db with hubSlugs := hubSlugs } }

def Claiming.insertable (claim : Claiming) (s : Registry) : Bool :=
  decide (claim.slug ∉ s.db.hubSlugs) && decide (claim.hubId ∈ s.db.hubs)

def Claiming.newRow (claim : Claiming) : SlugRow :=
  { displaySlug := claim.display, hubId := claim.hubId, createdAt := claim.now }

def Claiming.reclaimed (claim : Claiming) (row : SlugRow) : SlugRow :=
  { row with
    hubId := claim.hubId, displaySlug := claim.display, releasedAt := none, isCanonical := false,
      createdAt := claim.now }

def lockAll (s : Registry) (tx : Nat) (slugs : List String) : Registry :=
  { s with locks := slugs.foldl (fun locks slug => locks.insert slug tx) s.locks }

def unlock (s : Registry) (tx : Nat) : Registry :=
  { s with locks := s.locks.filter fun _ holder => decide (holder ≠ tx) }

-- The unique index on the canonical slug of a hub, for an update of the row.
def indexTaken (s : Registry) (slug hubId : String) (cleared : List String) : Bool :=
  (canonicalSlugs s hubId).any fun other => decide (other ≠ slug) && decide (other ∉ cleared)

-- Whether the row is there to be set, or the index refuses it.
def setOutcome (s : Registry) (slug hubId : String) (cleared : List String) : Except HttpError Bool :=
  if (liveSlug s slug hubId).isNone then .ok false
  else if indexTaken s slug hubId cleared then .error (500, "db_error: " ++ duplicateKey "hub_slugs_one_canonical_idx")
  else .ok true

def setCanonicalFlag (flag : Bool) (table : Table SlugRow) (slug : String) : Table SlugRow :=
  table.modify slug fun row => { row with isCanonical := flag }

-- What a statement does; the flags of a transaction are seen once it is committed.
def SlugStatement.effect (tx : Nat) : SlugStatement → Registry → Registry
  | .read, s | .readSlug _, s | .findCanonical _, s | .nextLive _, s => s
  | .reclaim claim, s => withSlugs s (s.db.hubSlugs.modify claim.slug claim.reclaimed)
  | .insert claim, s =>
    if claim.insertable s then withSlugs s (s.db.hubSlugs.insert claim.slug claim.newRow) else s
  | .clear hubId found, s => lockAll s tx (found.filter (stillCanonical s hubId))
  | .set slug hubId cleared, s =>
    match setOutcome s slug hubId cleared with
    | .ok true => lockAll s tx [slug]
    | _ => s
  | .commit cleared slug, s =>
    unlock (withSlugs s (slug.toList.foldl (setCanonicalFlag true)
    (cleared.foldl (setCanonicalFlag false) s.db.hubSlugs))) tx
  | .rollback, s => unlock s tx
  | .release slug hubId _, s =>
    { withSlugs s (s.db.hubSlugs.modify slug fun row => { row with releasedAt := some s.now, isCanonical := false }) with
      released := s.released ++ [{ slug := slug, hubId := hubId, releasedAt := s.now }] }
  | .deleteHub hubId, s =>
    { s with db := { s.db with hubs := s.db.hubs.modify hubId fun row => { row with deletedAt := some s.now } } }
  | .tick seconds, s => { s with now := s.now + seconds }

def slugFree (s : Registry) (tx : Nat) (slug : String) : Bool := s.locks[slug]?.all fun holder => decide (holder = tx)

-- No other transaction is at the canonical flag of one of the hub's rows.
def indexFree (s : Registry) (tx : Nat) (hubId : String) : Bool :=
  s.db.hubSlugs.toList.all fun entry => decide (entry.2.hubId ≠ hubId) || slugFree s tx entry.1

-- Whether a statement gets the locks that it needs.
def SlugStatement.ready (tx : Nat) : SlugStatement → Registry → Bool
  | .reclaim claim, s => slugFree s tx claim.slug
  | .clear hubId found, s => (found.filter (stillCanonical s hubId)).all (slugFree s tx)
  | .set slug hubId _, s => (liveSlug s slug hubId).isNone || (slugFree s tx slug && indexFree s tx hubId)
  | .release slug _ _, s => slugFree s tx slug
  | _, _ => true

abbrev Desk (A : Type) := Handler Registry SlugStatement A

section

variable (tx : Nat) (limits : Limits)

def exec {A : Type} (statement : SlugStatement) (read : Registry → A) : Desk A :=
  .exec statement (statement.effect tx) read

def ownerOf (s : Registry) (hubId : String) : Except HttpError String :=
  match liveHub s.db hubId with
  | none => .error (404, "hub_not_found")
  | some row => .ok row.ownerPubkey

def requireHubControl (user hubId : String) : Desk (Except HttpError Unit) :=
  (exec tx .read fun s => ownerOf s hubId).andThen fun owner => do
    let admin ← exec tx .read (·.adminPubkey)
    if owner = user ∨ admin = some user then return .ok () else return .error (403, "not_hub_owner")

def setCanonical (hubId slug : String) : Desk (Except HttpError Unit) := do
  let found ← exec tx (.findCanonical hubId) fun s => canonicalSlugs s hubId
  let cleared ← exec tx (.clear hubId found) fun s => found.filter (stillCanonical s hubId)
  let outcome ← exec tx (.set slug hubId cleared) fun s => setOutcome s slug hubId cleared
  match outcome with
  | .error e =>
    exec tx .rollback fun _ => ()
    return .error e
  | .ok hit => exec tx (.commit cleared (if hit then some slug else none)) fun _ => .ok ()

def slugTaken : HttpError := (409, "slug_taken")

def slugReserved (reclaimableAt : Int) : HttpError :=
  (409, "slug_reserved: released recently; available again after " ++ toString reclaimableAt)

def quotaReached (live : Nat) (maxSlugs : Int) : HttpError :=
  (409, "slug_quota_reached: this hub already holds " ++ toString live ++ " of " ++ toString maxSlugs ++
    " addresses — release one first")

-- The row of the slug becomes the claimant's, by whichever statement the row that was read asks for.
def writeClaim (existing : Option SlugRow) (claim : Claiming) : Desk (Except HttpError Unit) :=
  match existing with
  | none => exec tx (.insert claim) fun s => if claim.insertable s then .ok () else .error slugTaken
  | some row =>
    match row.releasedAt with
    | none => return .error slugTaken
    | some releasedAt =>
      if row.hubId ≠ claim.hubId ∧ claim.now < releasedAt + limits.cooloff then
        return .error (slugReserved (releasedAt + limits.cooloff))
      else exec tx (.reclaim claim) fun _ => .ok ()

def claimSlug (user hubId raw : String) (canonical : Bool) : Desk (Except HttpError Unit) :=
  (requireHubControl tx user hubId).andThen fun _ =>
    match normalize raw with
    | .error e => return .error (400, "invalid_slug: " ++ e.message)
    | .ok slug => do
      let now ← exec tx .read (·.now)
      let live ← exec tx .read fun s => liveCount s hubId
      if limits.maxSlugs ≤ live then return .error (quotaReached live limits.maxSlugs)
      else
        let existing ← exec tx (.readSlug slug) fun s => s.db.hubSlugs[slug]?
        let settles := canonical || decide (live = 0)
        let claim : Claiming := { slug := slug, hubId := hubId, display := trim raw, now := now, settles := settles }
        (writeClaim tx limits existing claim).andThen fun _ =>
          if settles then setCanonical tx hubId slug else return .ok ()

def slugNotFound : HttpError := (404, "slug_not_found")

def promoteSlug (user hubId slugParam : String) : Desk (Except HttpError Unit) :=
  (requireHubControl tx user hubId).andThen fun _ => do
    let live ← exec tx .read fun s => liveSlug s (toAsciiLowercase slugParam) hubId
    if live.isNone then return .error slugNotFound else setCanonical tx hubId (toAsciiLowercase slugParam)

-- Releasing the canonical slug promotes the oldest one left.
def releaseSlug (user hubId slugParam : String) : Desk (Except HttpError Unit) :=
  (requireHubControl tx user hubId).andThen fun _ => do
    let live ← exec tx .read fun s => liveSlug s (toAsciiLowercase slugParam) hubId
    match live with
    | none => return .error slugNotFound
    | some row =>
      exec tx (.release (toAsciiLowercase slugParam) hubId row.isCanonical) fun _ => ()
      if row.isCanonical then
        let next ← exec tx (.nextLive hubId) fun s => oldestLive s hubId
        match next with
        | none => return .ok ()
        | some nextSlug => setCanonical tx hubId nextSlug
      else return .ok ()

def deleteHub (user hubId : String) : Desk (Except HttpError Unit) := do
  let admin ← exec tx .read (·.adminPubkey)
  (exec tx .read fun s => ownerOf s hubId).andThen fun owner =>
    if admin ≠ some user ∧ owner ≠ user then return .error (403, "farm_admin_only")
    else exec tx (.deleteHub hubId) fun _ => .ok ()

-- `pass` is time going by.
inductive SlugRequest where
  | claim (user hubId raw : String) (canonical : Bool)
  | promote (user hubId slugParam : String)
  | release (user hubId slugParam : String)
  | delete (user hubId : String)
  | pass (seconds : Nat)

def SlugRequest.handle : SlugRequest → Desk (Except HttpError Unit)
  | .claim user hubId raw canonical => claimSlug tx limits user hubId raw canonical
  | .promote user hubId slugParam => promoteSlug tx user hubId slugParam
  | .release user hubId slugParam => releaseSlug tx user hubId slugParam
  | .delete user hubId => deleteHub tx user hubId
  | .pass seconds => exec tx (.tick seconds) fun _ => .ok ()

end

end Wavvon.Farm
