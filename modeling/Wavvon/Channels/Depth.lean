import Wavvon.Channels.Forest

set_option autoImplicit false

namespace Wavvon.Channels

open Std (ExtTreeMap)
open Parents

-- The code-depths a channel may have under a limit: a category needs a level below it.
def Fits (limit : Nat) (isCategory : Bool) (depth : Nat) : Prop :=
  depth ≤ limit - 1 ∧ (isCategory = true → 1 < limit → depth < limit - 1)

def WithinDepth (limit : Nat) (db : Db) : Prop :=
  ∀ c node, db.node c = some node →
    ∃ depth, DepthOf db.parentOf c depth ∧ Fits limit node.isCategory depth

-- What an accepted move takes along: every channel below the moved one fits under the new parent.
def SubtreeFits (limit : Nat) (db : Db) (call : ChannelCall) : Prop :=
  ∀ user x req images p, call = .update user x req images → req.parentId = some (some p) →
    updateRefusal db user x req images = none → ∀ depth, DepthOf db.parentOf p depth →
      ∀ c node n, db.node c = some node → 0 < n → up db.parentOf n c = some x →
        Fits limit node.isCategory (depth + 1 + n)

-- Every channel has a depth that suits its kind.
def Placed (fits : Bool → Nat → Prop) (db : Db) : Prop :=
  ∀ c node, db.node c = some node → ∃ depth, DepthOf db.parentOf c depth ∧ fits node.isCategory depth

structure GrownWithin (limit : Nat) (db : Db) : Prop where
  grown : Grown db
  limited : readMaxDepth db = limit
  within : WithinDepth limit db

theorem Fits.shallower {limit : Nat} {isCategory : Bool} {depth less : Nat}
    (fits : Fits limit isCategory depth) (below : less ≤ depth) : Fits limit isCategory less := by
  refine ⟨by have bound := fits.1; omega, ?_⟩
  intro category room
  have bound := fits.2 category room
  omega

theorem depthRefusal_eq_none {limit depth : Nat} {isCategory : Bool} :
    depthRefusal limit isCategory depth = none ↔
      depth ≤ limit - 1 ∧ (isCategory = true → depth < limit - 1) := by
  unfold depthRefusal
  split
  next deep =>
    simp only [reduceCtorEq, false_iff, not_and]
    omega
  next =>
    cases isCategory with
    | false => simp; omega
    | true =>
      simp only [Bool.true_and, decide_eq_true_eq, forall_const]
      split
      next blocked =>
        simp only [reduceCtorEq, false_iff, not_and]
        omega
      next => simp; omega

theorem createDepthRefusal_fits {db : Db} {limit : Nat} (positive : 0 < limit)
    (limited : readMaxDepth db = limit) {parentId : Option String} {isCategory : Bool}
    (accepted : createDepthRefusal db parentId isCategory = none) {depth : Nat}
    (sits : ∀ newDepth, nodeDepth db parentId = .ok newDepth → newDepth = depth) :
    Fits limit isCategory depth := by
  rw [createDepthRefusal, limited, if_pos positive] at accepted
  cases answer : nodeDepth db parentId with
  | error refusal =>
    rw [answer] at accepted
    cases accepted
  | ok newDepth =>
    rw [answer] at accepted
    obtain ⟨bound, category⟩ := depthRefusal_eq_none.mp accepted
    rw [sits newDepth answer] at bound category
    exact ⟨bound, fun kind _ => category kind⟩

-- The check of a move is a level stricter than that of a creation.
theorem moveDepthRefusal_fits {db : Db} {limit : Nat} (positive : 0 < limit)
    (limited : readMaxDepth db = limit) {x p : String} {old : Db.Node} (found : db.node x = some old)
    (accepted : moveDepthRefusal db x p = none) {depth : Nat} (above : DepthOf db.parentOf p depth) :
    Fits limit old.isCategory (depth + 1) := by
  obtain ⟨row, listed, rfl⟩ := Option.map_eq_some_iff.mp found
  rw [moveDepthRefusal, limited, if_pos positive, nodeDepth_eq above, listed] at accepted
  split at accepted
  · cases accepted
  next parentDepth answer =>
    split at answer
    · cases answer
      obtain ⟨bound, category⟩ := depthRefusal_eq_none.mp accepted
      refine ⟨by omega, ?_⟩
      intro kind _
      have strict := category (by simpa using kind)
      omega
    · cases answer

theorem nodeDepth_ok {db : Db} {p : String} {depth newDepth : Nat} (above : DepthOf db.parentOf p depth)
    (answer : nodeDepth db (some p) = .ok newDepth) : newDepth = depth + 1 := by
  rw [nodeDepth_eq above] at answer
  split at answer
  · cases answer
    omega
  · cases answer

section

variable {db after : Db} {fits : Bool → Nat → Prop} {x : String} {node : Db.Node}

-- A channel that is hung elsewhere takes those below it along and leaves the others where they are.
theorem Placed.hang (placed : Placed fits db) (grown : Grown db)
    (nodes : ∀ c, after.node c = if c = x then some node else db.node c)
    {depth : Nat} (sits : DepthOf after.parentOf x depth) (fit : fits node.isCategory depth)
    (below : ∀ c found n, db.node c = some found → 0 < n → up db.parentOf n c = some x →
      fits found.isCategory (depth + n)) : Placed fits after := by
  have frame := parentOf_framed_other nodes
  intro c found listed
  rw [nodes c] at listed
  split at listed
  next same =>
    cases listed
    exact ⟨depth, same ▸ sits, fit⟩
  next other =>
    obtain ⟨d, deep, deepFit⟩ := placed c found listed
    by_cases under : ∃ n, up db.parentOf n c = some x
    · obtain ⟨n, reached⟩ := under
      have positive : 0 < n := by
        by_contra zero
        have start : n = 0 := by omega
        rw [start, up_zero] at reached
        exact other (Option.some.inj reached)
      exact ⟨depth + n, grown.rooted.depth_below frame sits reached, below c found n listed positive reached⟩
    · exact ⟨d, deep.apart frame fun n reached => under ⟨n, reached⟩, deepFit⟩

-- Nothing hangs under a channel that is not there, so a new one leaves every depth as it was.
theorem Placed.add (placed : Placed fits db) (grown : Grown db) (fresh : db.node x = none)
    (nodes : ∀ c, after.node c = if c = x then some node else db.node c)
    (parent : ∀ p, node.parentId = some p → IsCategory db p)
    (fit : ∀ depth, (node.parentId = none ∧ depth = 0 ∨
      ∃ p d, node.parentId = some p ∧ DepthOf db.parentOf p d ∧ depth = d + 1) →
        fits node.isCategory depth) : Placed fits after := by
  have frame := parentOf_framed_other nodes
  have here := parentOf_framed_self nodes
  have unreached : ∀ c found n, db.node c = some found → 0 < n → up db.parentOf n c ≠ some x := by
    intro c found n _ positive reached
    obtain ⟨m, rfl⟩ : ∃ m, n = m + 1 := ⟨n - 1, by omega⟩
    rw [up_succ] at reached
    obtain ⟨p, named, rest⟩ := Option.bind_eq_some_iff.mp reached
    exact (grown.up_listed (grown.parentOf named) rest).ne_fresh fresh rfl
  have nothing : ∀ c found n depth, db.node c = some found → 0 < n → up db.parentOf n c = some x →
      fits found.isCategory (depth + n) := by
    intro c found n _ listed positive reached
    exact absurd reached (unreached c found n listed positive)
  cases above : node.parentId with
  | none =>
    exact placed.hang grown nodes (.root (here.trans above)) (fit 0 (.inl ⟨above, rfl⟩))
      fun c found n => nothing c found n 0
  | some p =>
    obtain ⟨d, deep⟩ := grown.rooted p
    have sits := DepthOf.under (here.trans above)
      (deep.apart frame (grown.fresh_apart fresh parent p above))
    exact placed.hang grown nodes sits (fit (d + 1) (.inr ⟨p, d, above, deep, rfl⟩))
      fun c found n => nothing c found n (d + 1)

end

theorem updateChannel_hubSettings (db : Db) (channelId : String) (f : Channel → Channel) :
    (db.updateChannel channelId f).hubSettings = db.hubSettings := rfl

-- No call writes the settings; only the rest of the hub does.
theorem serve_hubSettings (db : Db) (call : ChannelCall) (own : ∀ other, call ≠ .others other) :
    (serve db call).hubSettings = db.hubSettings := by
  cases call with
  | create user req id now =>
    simp only [serve, createChannel, insertChannel]
    grind
  | update user channelId req images =>
    simp only [serve, updateChannel, renameChannel]
    grind [updateChannel_hubSettings]
  | delete user channelId =>
    simp only [serve, deleteChannel, deleteChannels]
    grind
  | spawn spawnerId joinerPubkey displayName env =>
    simp only [serve, spawnTempChannel]
    split
    · rfl
    · split
      · rfl
      · split
        · rfl
        next allocated =>
          obtain ⟨_, _, rfl⟩ := allocateRoom_fresh _ _ _ _ _ _ _ _ allocated
          rfl
  | others other => exact absurd rfl (own other)

def KeepsLimit (limit : Nat) (_ : Db) (call : ChannelCall) : Prop :=
  ∀ other, call = .others other → readMaxDepth other = limit

theorem serve_limited {db : Db} {limit : Nat} (limited : readMaxDepth db = limit) (call : ChannelCall)
    (kept : KeepsLimit limit db call) : readMaxDepth (serve db call) = limit := by
  by_cases rest : ∃ other, call = .others other
  · obtain ⟨other, rfl⟩ := rest
    exact kept other rfl
  · have settings := serve_hubSettings db call fun other same => rest ⟨other, same⟩
    rw [← limited]
    simp only [readMaxDepth, Db.readSetting, settings]

theorem GrownWithin.serve {db : Db} {limit : Nat} (positive : 0 < limit)
    (held : GrownWithin limit db) (call : ChannelCall) (kept : KeepsLimit limit db call)
    (fitting : SubtreeFits limit db call) : GrownWithin limit (serve db call) := by
  obtain ⟨grown, limited, within⟩ := held
  have shallow : ¬ DeepMove db call := by
    rintro ⟨_, _, _, _, _, _, _, _, unlimited, _⟩
    omega
  refine ⟨grown.serve call shallow, serve_limited limited call kept, ?_⟩
  cases serve_effect db call with
  | same nodes =>
    have parents : (Channels.serve db call).parentOf = db.parentOf := by
      funext c
      rw [Db.parentOf_node, Db.parentOf_node, nodes c]
    intro c node listed
    rw [nodes c] at listed
    rw [parents]
    exact within c node listed
  | created id node fresh parent fits nodes =>
    refine Placed.add within grown fresh nodes parent ?_
    rintro depth (⟨top, rfl⟩ | ⟨p, d, named, deep, rfl⟩)
    · refine createDepthRefusal_fits positive limited fits ?_
      intro newDepth answer
      rw [top] at answer
      cases answer
      rfl
    · refine createDepthRefusal_fits positive limited fits ?_
      intro newDepth answer
      rw [named] at answer
      exact nodeDepth_ok deep answer
  | spawned id spawner sibling node fresh beside same leaf nodes =>
    have parent : ∀ p, node.parentId = some p → IsCategory db p := by
      intro p named
      exact grown.parents spawner sibling beside p (same ▸ named)
    obtain ⟨d, deep, fit⟩ := within spawner sibling beside
    have above : db.parentOf spawner = sibling.parentId := by
      rw [Db.parentOf_node, beside]
      rfl
    refine Placed.add within grown fresh nodes parent ?_
    rintro depth (⟨_, rfl⟩ | ⟨p, e, named, top, rfl⟩)
    · exact ⟨Nat.zero_le _, by simp [leaf]⟩
    · have level : d = e + 1 := deep.unique (.under (above.trans (same ▸ named)) top)
      exact ⟨level ▸ fit.1, by simp [leaf]⟩
  | detached x old found nodes =>
    have sits : DepthOf (Channels.serve db call).parentOf x 0 := .root (parentOf_framed_self nodes)
    refine Placed.hang within grown nodes sits ⟨Nat.zero_le _, fun _ room => by omega⟩ ?_
    intro c node n listed _ reached
    obtain ⟨d, deep, fit⟩ := within c node listed
    obtain ⟨e, split, _⟩ := deep.climb reached
    exact fit.shallower (by omega)
  | moved x p old user req images called asked accepted found nodes =>
    have checked := updateRefusal_move asked accepted
    have apart := checked.apart grown.rooted fun unlimited => by omega
    obtain ⟨d, deep⟩ := grown.rooted p
    have sits := DepthOf.under (parentOf_framed_self nodes)
      (deep.apart (parentOf_framed_other nodes) apart)
    refine Placed.hang within grown nodes sits (moveDepthRefusal_fits positive limited found checked.fits deep) ?_
    intro c node n listed below reached
    exact fitting user x req images p called asked accepted d deep c node n listed below reached
  | removed ids closed nodes =>
    intro c node listed
    rw [nodes c] at listed
    split at listed
    · cases listed
    next staying =>
      obtain ⟨d, deep, fit⟩ := within c node listed
      exact ⟨d, depth_removed closed nodes staying deep, fit⟩

theorem overflow_breaks {db : Db} {limit : Nat} (positive : 0 < limit) (held : GrownWithin limit db)
    (call : ChannelCall) (overflow : ¬ SubtreeFits limit db call) :
    ¬ WithinDepth limit (serve db call) := by
  intro within
  apply overflow
  rintro user x req images p rfl asked accepted d deep c node n listed below reached
  have grown := held.grown
  have limited := held.limited
  have checked := updateRefusal_move asked accepted
  have apart := checked.apart grown.rooted fun unlimited => by omega
  obtain ⟨old, _, nodes⟩ := updateChannel_nodes accepted
  rw [asked] at nodes
  have frame := parentOf_framed_other nodes
  have sits := DepthOf.under (parentOf_framed_self nodes) (deep.apart frame apart)
  have other : c ≠ x := by
    rintro rfl
    exact grown.rooted.acyclic.first_visit reached below rfl
  have moved : (serve db (.update user x req images)).node c = some node := by
    refine (nodes c).trans ?_
    rw [if_neg other, listed]
  obtain ⟨e, depth, fit⟩ := within c node moved
  have level := depth.unique (grown.rooted.depth_below frame sits reached)
  exact level ▸ fit

/--
With `max_channel_depth` fixed at a positive limit, every channel keeps to it exactly in the runs
where what hangs below an accepted move still fits under the new parent.
-/
theorem withinDepth_iff (limit : Nat) (positive : 0 < limit) (hub : Db)
    (limited : readMaxDepth hub = limit) (calls : List ChannelCall)
    (kept : Runs.Meets serve (KeepsLimit limit) { hub with channels := ∅ } calls) :
    (∀ front, front <+: calls →
        WithinDepth limit (Runs.run serve { hub with channels := ∅ } front)) ↔
      Runs.Meets serve (SubtreeFits limit) { hub with channels := ∅ } calls := by
  refine Runs.always_iff_meets_within (GrownWithin limit) (WithinDepth limit)
    (fun _ held => held.within) (fun _ call held keeps fits => held.serve positive call keeps fits)
    (fun _ call held _ overflow => overflow_breaks positive held call overflow) ?_ calls kept
  refine ⟨grown_empty hub, limited, ?_⟩
  intro c node listed
  rw [node_empty] at listed
  cases listed

def limitedHub : Db :=
  { ownerHub with hubSettings := (∅ : Table String).insert "max_channel_depth" "4" }

def category (id : String) (parentId : Option String) : ChannelCall :=
  .create "ann" { name := id, isCategory := true, parentId := parentId } id 0

def detachedNesting : List ChannelCall :=
  [category "p" none, category "x" (some "p"), .update "ann" "x" { parentId := some none } ∅]

theorem withinDepth_iff_detached :
    readMaxDepth limitedHub = 4 ∧
      (Runs.run serve { limitedHub with channels := ∅ } detachedNesting).node "x" =
        some { parentId := none, isCategory := true } ∧
      WithinDepth 4 (Runs.run serve { limitedHub with channels := ∅ } detachedNesting) := by
  have limited : readMaxDepth limitedHub = 4 := by decide
  refine ⟨limited, by decide, ?_⟩
  refine (withinDepth_iff 4 (by decide) limitedHub limited detachedNesting ?_).mpr ?_
    detachedNesting List.prefix_rfl
  · refine Runs.meets_of_forall (fun db call member other same => ?_) _
    subst same
    simp [detachedNesting, category] at member
  · refine Runs.meets_of_forall (fun db call member user x req images p called asked => ?_) _
    subst called
    simp [detachedNesting, category] at member
    rw [member.2.2.1] at asked
    cases asked

-- The moved category fits at its own new depth; what it brings along ends up one level too deep.
def movedNesting : List ChannelCall :=
  [category "p" none, category "x" none, category "y" (some "x"), category "z" (some "y"),
    .create "ann" { name := "w", parentId := some "z" } "w" 0,
    .update "ann" "x" { parentId := some (some "p") } ∅]

theorem withinDepth_moved :
    readMaxDepth limitedHub = 4 ∧
      ¬ WithinDepth 4 (Runs.run serve { limitedHub with channels := ∅ } movedNesting) := by
  refine ⟨by decide, ?_⟩
  intro within
  obtain ⟨depth, deep, fits⟩ := within "w" { parentId := some "z", isCategory := false }
    (by decide)
  have top : DepthOf (Runs.run serve { limitedHub with channels := ∅ } movedNesting).parentOf "p" 0 :=
    .root (by decide)
  have level := deep.unique (top.descend (n := 4) (by decide))
  have bound := fits.1
  omega

-- No channel lies so deep that `node_depth` gives up on it.
def Shallow (db : Db) : Prop :=
  ∀ c, c ∈ db.channels → ∃ depth, DepthOf db.parentOf c depth ∧ 1 + depth ≤ SAFETY_LIMIT

-- A channel `x` may move under `p` when a channel of its kind may be created there.
def SameRule (db : Db) (x p : String) : Prop :=
  ∀ row, db.channels[x]? = some row →
    (moveDepthRefusal db x p = none ↔ createDepthRefusal db (some p) row.isCategory = none)

-- The limit that leaves room for one more channel of the kind below `p`, but not for two.
def EdgeOf (db : Db) (x p : String) : Prop :=
  ∃ row depth, db.channels[x]? = some row ∧ DepthOf db.parentOf p depth ∧
    readMaxDepth db = depth + (if row.isCategory then 3 else 2)

theorem createDepthRefusal_iff {db : Db} (positive : 0 < readMaxDepth db) {p : String} {depth : Nat}
    (deep : DepthOf db.parentOf p depth) (shallow : 1 + depth ≤ SAFETY_LIMIT) (isCategory : Bool) :
    createDepthRefusal db (some p) isCategory = none ↔
      1 + depth ≤ readMaxDepth db - 1 ∧ (isCategory = true → 1 + depth < readMaxDepth db - 1) := by
  rw [createDepthRefusal, if_pos positive, nodeDepth_eq deep, if_pos shallow]
  exact depthRefusal_eq_none

theorem moveDepthRefusal_iff {db : Db} (positive : 0 < readMaxDepth db) {x p : String} {row : Channel} {depth : Nat}
    (found : db.channels[x]? = some row) (deep : DepthOf db.parentOf p depth) (shallow : 1 + depth ≤ SAFETY_LIMIT) :
    moveDepthRefusal db x p = none ↔
      1 + depth + 1 ≤ readMaxDepth db - 1 ∧ (row.isCategory = true → 1 + depth + 1 < readMaxDepth db - 1) := by
  rw [moveDepthRefusal, if_pos positive, nodeDepth_eq deep, if_pos shallow, found]
  exact depthRefusal_eq_none

/-- Moving and creating go by one rule except right at the limit, where a move is refused that a creation is not. -/
theorem sameRule_iff (db : Db) (shallow : Shallow db) (positive : 0 < readMaxDepth db) (x p : String)
    (category : IsCategory db p) : SameRule db x p ↔ ¬ EdgeOf db x p := by
  obtain ⟨node, listed, -⟩ := category
  obtain ⟨parent, stored, -⟩ := Option.map_eq_some_iff.mp listed
  obtain ⟨depth, deep, within⟩ := shallow p (ExtTreeMap.mem_iff_isSome_getElem?.mpr (by rw [stored]; rfl))
  have agree : ∀ row, db.channels[x]? = some row →
      ((moveDepthRefusal db x p = none ↔ createDepthRefusal db (some p) row.isCategory = none) ↔
        readMaxDepth db ≠ depth + (if row.isCategory then 3 else 2)) := by
    intro row found
    rw [moveDepthRefusal_iff positive found deep within, createDepthRefusal_iff positive deep within]
    cases row.isCategory with
    | false =>
      simp only [Bool.false_eq_true, false_implies, and_true, if_false]
      omega
    | true =>
      simp only [forall_const, if_true]
      omega
  constructor
  · rintro same ⟨row, other, found, otherDeep, edge⟩
    rw [otherDeep.unique deep] at edge
    exact (agree row found).mp (same row found) edge
  · intro away row found
    exact (agree row found).mpr fun edge => away ⟨row, depth, found, deep, edge⟩

def twoLevels : Db :=
  { ownerHub with
    channels := ((∅ : Table Channel).insert "p" { name := "p", createdBy := "ann", isCategory := true }).insert "x"
      { name := "x", createdBy := "ann" }
    hubSettings := (∅ : Table String).insert "max_channel_depth" "2" }

theorem twoLevels_roots (c : String) : twoLevels.parentOf c = none := by
  have roots : ∀ entry ∈ twoLevels.channels.toList, entry.2.parentId = none := by decide
  cases found : twoLevels.channels[c]? with
  | none => rw [Db.parentOf, found, Option.bind_none]
  | some row =>
    rw [Db.parentOf, found, Option.bind_some]
    exact roots (c, row) (ExtTreeMap.mem_toList_iff_getElem?_eq_some.mpr found)

theorem twoLevels_shallow : Shallow twoLevels := fun c _ => ⟨0, .root (twoLevels_roots c), by decide⟩

theorem twoLevels_category : IsCategory twoLevels "p" := ⟨{ parentId := none, isCategory := true }, by decide, rfl⟩

theorem sameRule_iff_twoLevels : SameRule twoLevels "x" "p" ↔ ¬ EdgeOf twoLevels "x" "p" :=
  sameRule_iff twoLevels twoLevels_shallow (by decide) "x" "p" twoLevels_category

-- A channel may be created under `p`, and may not be moved there.
theorem sameRule_edge :
    ¬ ∀ db, Shallow db → 0 < readMaxDepth db → ∀ x p, IsCategory db p → isAncestor db x p = false →
      (∀ c, db.parentOf c ≠ some x) → SameRule db x p := by
  intro always
  have childless : ∀ c, twoLevels.parentOf c ≠ some "x" := by simp [twoLevels_roots]
  have same := always twoLevels twoLevels_shallow (by decide) "x" "p" twoLevels_category (by decide) childless
    { name := "x", createdBy := "ann" } (by decide)
  exact absurd (same.mpr (by decide)) (by decide)

end Wavvon.Channels
