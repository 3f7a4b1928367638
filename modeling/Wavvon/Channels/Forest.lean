import Wavvon.Channels.TreeEffect

set_option autoImplicit false

namespace Wavvon.Channels

open Std (ExtTreeMap)
open Parents

structure IsForest (db : Db) : Prop where
  acyclic : Acyclic db.parentOf
  parents : ∀ c node, db.node c = some node → ∀ p, node.parentId = some p → IsCategory db p

-- An accepted move, while nesting is unlimited, under a category too far below the channel for the
-- cycle check to walk back to it.
def DeepMove (db : Db) (call : ChannelCall) : Prop :=
  ∃ user x req images p, call = .update user x req images ∧ req.parentId = some (some p) ∧
    updateRefusal db user x req images = none ∧ readMaxDepth db = 0 ∧
    ∃ n, 50 < n ∧ up db.parentOf n p = some x

structure Grown (db : Db) : Prop where
  rooted : Rooted db.parentOf
  parents : ∀ c node, db.node c = some node → ∀ p, node.parentId = some p → IsCategory db p

theorem Grown.isForest {db : Db} (grown : Grown db) : IsForest db :=
  ⟨grown.rooted.acyclic, grown.parents⟩

theorem ancestorLoop_iff (db : Db) (candidate : String) (hops : Nat) (start : String) :
    ancestorLoop db candidate hops start = true ↔
      ∃ k, k < hops ∧ up db.parentOf (k + 1) start = some candidate := by
  induction hops generalizing start with
  | zero => simp [ancestorLoop]
  | succ hops ih =>
    simp only [ancestorLoop]
    cases parent : db.parentOf start with
    | none => simp [parent]
    | some p =>
      by_cases same : p = candidate
      · simp only [same, if_true, true_iff]
        exact ⟨0, by omega, by simp [parent, same]⟩
      · simp only [same, if_false, ih p]
        constructor
        · rintro ⟨k, within, reached⟩
          refine ⟨k + 1, by omega, ?_⟩
          rw [up_succ, parent, Option.bind_some]
          exact reached
        · rintro ⟨k, within, reached⟩
          rw [up_succ, parent, Option.bind_some] at reached
          cases k with
          | zero => exact absurd (Option.some.inj reached) same
          | succ k => exact ⟨k, by omega, reached⟩

-- The loop gives the depth of a child, or gives up beyond the safety limit.
theorem depthLoop_eq {db : Db} {a : String} {d : Nat} (depth : DepthOf db.parentOf a d)
    {fuel start : Nat} (left : start + fuel = SAFETY_LIMIT + 1) (running : 0 < fuel) :
    depthLoop db fuel start a =
      if start + d ≤ SAFETY_LIMIT then .ok (start + d)
      else .error (400, "Channel nesting depth exceeds safety limit") := by
  induction depth generalizing fuel start with
  | @root a top =>
    cases fuel with
    | zero => omega
    | succ fuel =>
      simp only [depthLoop, top, Nat.add_zero]
      rw [if_pos (by omega)]
  | @under a p d below _ ih =>
    cases fuel with
    | zero => omega
    | succ fuel =>
      simp only [depthLoop, below]
      by_cases limit : SAFETY_LIMIT < start + 1
      · rw [if_pos limit, if_neg (by omega)]
      · rw [if_neg limit, ih (by omega) (by omega)]
        have same : start + 1 + d = start + (d + 1) := by omega
        rw [same]

theorem nodeDepth_eq {db : Db} {p : String} {d : Nat} (depth : DepthOf db.parentOf p d) :
    nodeDepth db (some p) =
      if 1 + d ≤ SAFETY_LIMIT then .ok (1 + d)
      else .error (400, "Channel nesting depth exceeds safety limit") :=
  depthLoop_eq depth (by decide) (by decide)

structure MoveChecked (db : Db) (x p : String) : Prop where
  other : p ≠ x
  category : IsCategory db p
  notBelow : isAncestor db x p = false
  fits : moveDepthRefusal db x p = none

theorem updateRefusal_move {db : Db} {user x p : String} {req : UpdateChannelRequest}
    {images : Finset (String × String)} (asked : req.parentId = some (some p))
    (accepted : updateRefusal db user x req images = none) : MoveChecked db x p := by
  unfold updateRefusal at accepted
  cases found : db.channels[x]? with
  | none => simp [found] at accepted
  | some existing =>
    simp only [found] at accepted
    have checked := firstRefusal_eq_none.mp accepted (req.parentId.join.bind (moveRefusal db x))
      (by simp)
    rw [asked, Option.join_some, Option.bind_some] at checked
    have passed := firstRefusal_eq_none.mp checked
    simp only [List.forall_mem_cons, List.not_mem_nil, false_imp_iff, forall_const, and_true] at passed
    obtain ⟨other, category, below, fits⟩ := passed
    refine ⟨?_, parentRefusal_eq_none.mp category, ?_, fits⟩
    · simpa [refuseIf] using other
    · simpa [refuseIf] using below

-- A bounded depth makes the depth check give up where the cycle check does.
theorem MoveChecked.apart {db : Db} {x p : String} (checked : MoveChecked db x p)
    (rooted : Rooted db.parentOf)
    (shallow : readMaxDepth db = 0 → ∀ n, up db.parentOf n p = some x → n ≤ 50) :
    ∀ n, up db.parentOf n p ≠ some x := by
  intro n reached
  have far : 50 < n := by
    cases n with
    | zero => exact absurd (Option.some.inj reached) checked.other
    | succ k =>
      by_contra near
      have found := (ancestorLoop_iff db x 50 p).mpr ⟨k, by omega, reached⟩
      have missed := checked.notBelow
      rw [isAncestor, found] at missed
      cases missed
  by_cases unlimited : readMaxDepth db = 0
  · have near := shallow unlimited n reached
    omega
  · obtain ⟨d, depth⟩ := rooted p
    obtain ⟨e, deep, _⟩ := depth.climb reached
    have fits := checked.fits
    rw [moveDepthRefusal, if_pos (by omega), nodeDepth_eq depth,
      if_neg (by unfold SAFETY_LIMIT; omega)] at fits
    cases fits

section

variable {db after : Db}

theorem parentOf_framed {x : String} {node : Db.Node}
    (nodes : ∀ c, after.node c = if c = x then some node else db.node c) (c : String) :
    after.parentOf c = if c = x then node.parentId else db.parentOf c := by
  rw [Db.parentOf_node, Db.parentOf_node, nodes c]
  split <;> rfl

theorem parentOf_framed_other {x : String} {node : Db.Node}
    (nodes : ∀ c, after.node c = if c = x then some node else db.node c) (c : String)
    (other : c ≠ x) : after.parentOf c = db.parentOf c := by
  rw [parentOf_framed nodes, if_neg other]

theorem parentOf_framed_self {x : String} {node : Db.Node}
    (nodes : ∀ c, after.node c = if c = x then some node else db.node c) :
    after.parentOf x = node.parentId := by
  rw [parentOf_framed nodes, if_pos rfl]

theorem Grown.parentOf (grown : Grown db) {c p : String} (named : db.parentOf c = some p) :
    IsCategory db p := by
  rw [Db.parentOf_node] at named
  obtain ⟨node, found, parent⟩ := Option.bind_eq_some_iff.mp named
  exact grown.parents c node found p parent

theorem Grown.up_listed (grown : Grown db) {n : Nat} {a b : String} (listed : IsCategory db a)
    (reached : up db.parentOf n a = some b) : IsCategory db b := by
  induction n generalizing a with
  | zero =>
    cases reached
    exact listed
  | succ n ih =>
    rw [up_succ] at reached
    obtain ⟨p, named, rest⟩ := Option.bind_eq_some_iff.mp reached
    exact ih (grown.parentOf named) rest

theorem IsCategory.ne_fresh {p id : String} (category : IsCategory db p) (fresh : db.node id = none) :
    p ≠ id := by
  rintro rfl
  obtain ⟨node, found, _⟩ := category
  rw [fresh] at found
  cases found

-- A channel whose parent changes or that is new hangs where its parent is, if that is not below it.
theorem Grown.hang {x : String} {node : Db.Node} (grown : Grown db)
    (nodes : ∀ c, after.node c = if c = x then some node else db.node c)
    (parent : ∀ p, node.parentId = some p → IsCategory db p)
    (apart : ∀ p, node.parentId = some p → ∀ n, up db.parentOf n p ≠ some x)
    (keeps : ∀ c, IsCategory db c → IsCategory after c) : Grown after := by
  have frame := parentOf_framed_other nodes
  have here := parentOf_framed_self nodes
  constructor
  · cases above : node.parentId with
    | none => exact grown.rooted.rehung frame (.root (here.trans above))
    | some p =>
      obtain ⟨d, depth⟩ := grown.rooted p
      exact grown.rooted.rehung frame (.under (here.trans above) (depth.apart frame (apart p above)))
  · intro c found listed p named
    rw [nodes c] at listed
    split at listed
    · cases listed
      exact keeps p (parent p named)
    · exact keeps p (grown.parents c found listed p named)

theorem keeps_fresh {id : String} {node : Db.Node} (fresh : db.node id = none)
    (nodes : ∀ c, after.node c = if c = id then some node else db.node c) (c : String)
    (category : IsCategory db c) : IsCategory after c := by
  have other := category.ne_fresh fresh
  obtain ⟨found, listed, kind⟩ := category
  refine ⟨found, ?_, kind⟩
  rw [nodes c, if_neg other, listed]

theorem keeps_moved {x : String} {old : Db.Node} {parentId : Option String}
    (found : db.node x = some old)
    (nodes : ∀ c, after.node c = if c = x then some { old with parentId := parentId } else db.node c)
    (c : String) (category : IsCategory db c) : IsCategory after c := by
  obtain ⟨node, listed, kind⟩ := category
  by_cases same : c = x
  · subst same
    rw [found] at listed
    cases listed
    exact ⟨{ old with parentId := parentId }, by rw [nodes c, if_pos rfl], kind⟩
  · exact ⟨node, by rw [nodes c, if_neg same, listed], kind⟩

-- Nothing hangs under a channel that is not there.
theorem Grown.fresh_apart (grown : Grown db) {id : String} {node : Db.Node}
    (fresh : db.node id = none) (parent : ∀ p, node.parentId = some p → IsCategory db p) (p : String)
    (named : node.parentId = some p) (n : Nat) : up db.parentOf n p ≠ some id := by
  intro reached
  exact (grown.up_listed (parent p named) reached).ne_fresh fresh rfl

-- What a deletion leaves keeps its depth.
theorem depth_removed {ids : List String}
    (closed : ∀ c node, c ∉ ids → db.node c = some node → ∀ p, node.parentId = some p → p ∉ ids)
    (nodes : ∀ c, after.node c = if c ∈ ids then none else db.node c) {c : String} (kept : c ∉ ids)
    {d : Nat} (depth : DepthOf db.parentOf c d) : DepthOf after.parentOf c d := by
  refine depth.pruned (· ∈ ids) ?_ ?_ kept
  · intro b staying
    rw [Db.parentOf_node, Db.parentOf_node, nodes b, if_neg staying]
  · intro b p staying named
    rw [Db.parentOf_node] at named
    obtain ⟨node, found, parent⟩ := Option.bind_eq_some_iff.mp named
    exact closed b node staying found p parent

theorem Grown.remove (grown : Grown db) {ids : List String}
    (closed : ∀ c node, c ∉ ids → db.node c = some node → ∀ p, node.parentId = some p → p ∉ ids)
    (nodes : ∀ c, after.node c = if c ∈ ids then none else db.node c) : Grown after := by
  constructor
  · intro c
    by_cases gone : c ∈ ids
    · refine ⟨0, .root ?_⟩
      rw [Db.parentOf_node, nodes c, if_pos gone]
      rfl
    · obtain ⟨d, depth⟩ := grown.rooted c
      exact ⟨d, depth_removed closed nodes gone depth⟩
  · intro c node listed p named
    rw [nodes c] at listed
    split at listed
    · cases listed
    next kept =>
      obtain ⟨above, found, kind⟩ := grown.parents c node listed p named
      refine ⟨above, ?_, kind⟩
      rw [nodes p, if_neg (closed c node kept listed p named), found]

theorem Grown.unchanged (grown : Grown db) (nodes : ∀ c, after.node c = db.node c) : Grown after := by
  have parents : after.parentOf = db.parentOf := by
    funext c
    rw [Db.parentOf_node, Db.parentOf_node, nodes c]
  constructor
  · rw [parents]
    exact grown.rooted
  · intro c node listed p named
    rw [nodes c] at listed
    obtain ⟨above, found, kind⟩ := grown.parents c node listed p named
    exact ⟨above, (nodes p).trans found, kind⟩

end

theorem Grown.serve {db : Db} (grown : Grown db) (call : ChannelCall) (shallow : ¬ DeepMove db call) :
    Grown (serve db call) := by
  cases serve_effect db call with
  | same nodes => exact grown.unchanged nodes
  | created id node fresh parent fits nodes =>
    exact grown.hang nodes parent (grown.fresh_apart fresh parent) (keeps_fresh fresh nodes)
  | spawned id spawner sibling node fresh beside same leaf nodes =>
    have parent : ∀ p, node.parentId = some p → IsCategory db p := by
      intro p named
      exact grown.parents spawner sibling beside p (same ▸ named)
    exact grown.hang nodes parent (grown.fresh_apart fresh parent) (keeps_fresh fresh nodes)
  | detached x old found nodes =>
    exact grown.hang nodes (by simp) (by simp) (keeps_moved found nodes)
  | moved x p old user req images called asked accepted found nodes =>
    have checked := updateRefusal_move asked accepted
    have apart := checked.apart grown.rooted fun unlimited n reached => by
      by_contra far
      exact shallow ⟨user, x, req, images, p, called, asked, accepted, unlimited, n, by omega, reached⟩
    refine grown.hang nodes ?_ ?_ (keeps_moved found nodes)
    · intro q named
      cases named
      exact checked.category
    · intro q named
      cases named
      exact apart
  | removed ids closed nodes => exact grown.remove closed nodes

theorem deepMove_breaks {db : Db} (grown : Grown db) (call : ChannelCall) (deep : DeepMove db call) :
    ¬ IsForest (serve db call) := by
  obtain ⟨user, x, req, images, p, rfl, asked, accepted, _, n, _, reached⟩ := deep
  intro forest
  obtain ⟨old, _, nodes⟩ := updateChannel_nodes accepted
  rw [asked] at nodes
  exact grown.rooted.cycle (parentOf_framed_other nodes) (parentOf_framed_self nodes) reached
    forest.acyclic

theorem node_empty (hub : Db) (c : String) : ({ hub with channels := ∅ } : Db).node c = none := by
  simp [Db.node]

theorem grown_empty (hub : Db) : Grown { hub with channels := ∅ } := by
  constructor
  · intro c
    exact ⟨0, .root (by rw [Db.parentOf_node, node_empty]; rfl)⟩
  · intro c node listed
    rw [node_empty] at listed
    cases listed

/--
The channel tree stays a forest exactly in the runs that never, with nesting unlimited, move a
channel under a category more than 50 levels below it.
-/
theorem isForest_iff (hub : Db) (calls : List ChannelCall) :
    (∀ front, front <+: calls → IsForest (Runs.run serve { hub with channels := ∅ } front)) ↔
      Runs.Meets serve (fun db call => ¬ DeepMove db call) { hub with channels := ∅ } calls := by
  exact Runs.always_iff_meets Grown IsForest (fun _ grown => grown.isForest)
    (fun _ call grown shallow => grown.serve call shallow)
    (fun _ call grown deep => deepMove_breaks grown call (not_not.mp deep)) (grown_empty hub) calls

def ownerHub : Db :=
  { users := (∅ : Table User).insert "ann" { isMember := true }
    roles := (∅ : Table Role).insert "builtin-owner" { name := "owner" }
    userRoles := {("ann", "builtin-owner")} }

-- Its own parent, so the walk comes by it again.
def looped : Db :=
  { ownerHub with channels := (∅ : Table Channel).insert "c" { name := "c", createdBy := "ann", parentId := some "c" } }

theorem deleteChannel_succeeds_looped : (deleteChannel looped "ann" "c").2 = .ok () :=
  deleteChannel_succeeds looped "ann" "c" (by decide) (by decide)

def level (n : Nat) : String := "c" ++ toString n

def nest (n : Nat) : ChannelCall :=
  let parentId := if n = 0 then none else some (level (n - 1))
  .create "ann" { name := level n, isCategory := true, parentId := parentId } (level n) 0

-- The outermost of 52 nested categories goes under the innermost, 51 levels below it.
def foldedNesting : List ChannelCall :=
  (List.range 52).map nest ++ [.update "ann" (level 0) { parentId := some (some (level 51)) } ∅]

theorem isForest_folded : ¬ IsForest (Runs.run serve { ownerHub with channels := ∅ } foldedNesting) := by
  intro forest
  apply forest.acyclic (level 0)
  refine ⟨51, ?_⟩
  decide +kernel

end Wavvon.Channels
