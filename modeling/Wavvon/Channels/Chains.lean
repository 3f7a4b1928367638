import Wavvon.Channels.Depth

set_option autoImplicit false

namespace Wavvon.Channels

open Std (ExtTreeMap)
open Parents

def idToParent (db : Db) : Table (Option String) :=
  ExtTreeMap.ofList (db.channels.toList.map fun row => (row.1, row.2.parentId))

/-- Both walks give the whole path of every channel, so that no ancestor is left out of a fold. -/
def ChainsComplete (db : Db) : Prop :=
  ∀ c, c ∈ db.channels →
    PathTo db.parentOf c (ancestorChain db c) ∧ PathTo db.parentOf c (ancestorChainFromMap (idToParent db) c)

-- The checks and the constraints of a new row.
def Creatable (db : Db) (user : String) (req : CreateChannelRequest) (id : String) : Prop :=
  createRefusal db user req = none ∧ id ∉ db.channels ∧ (∀ row ∈ db.channels.toList, row.2.name ≠ req.name) ∧
    user ∈ db.users

-- The call puts channel `x` under `p`: it is accepted and asks for it.
def Hangs (db : Db) : ChannelCall → String → String → Prop
  | .create user req id _, x, p => x = id ∧ req.parentId = some p ∧ Creatable db user req id
  | .update user channelId req images, x, p =>
      x = channelId ∧ req.parentId = some (some p) ∧ updateRefusal db user channelId req images = none
  | .delete .., _, _ | .spawn .., _, _ | .others _, _, _ => False

-- It takes a channel, the one it hangs up or one below that, more than 64 levels below a root.
def TooFar (db : Db) (call : ChannelCall) : Prop :=
  ∃ x p c below above, Hangs db call x p ∧ up db.parentOf below c = some x ∧ DepthOf db.parentOf p above ∧
    chainCap < below + 1 + above

structure GrownChains (db : Db) : Prop where
  grown : Grown db
  placed : Placed (fun _ depth => depth ≤ chainCap) db

theorem climb_links (parent : String → Option String) (hops : Nat) (c : String) :
    (c :: climb parent hops c).IsChain fun below above => parent below = some above := by
  induction hops generalizing c with
  | zero => exact .singleton c
  | succ hops ih =>
    rw [climb]
    cases named : parent c with
    | none => exact .singleton c
    | some p => exact .cons_cons named (ih p)

-- The walk ends at a root exactly if there is one within its hops.
theorem climb_top (parent : String → Option String) (hops : Nat) (c : String) :
    (∃ root, (c :: climb parent hops c).getLast? = some root ∧ parent root = none) ↔
      ∃ depth ≤ hops, DepthOf parent c depth := by
  induction hops generalizing c with
  | zero =>
    constructor
    · rintro ⟨root, last, top⟩
      cases last
      exact ⟨0, Nat.le_refl 0, .root top⟩
    · rintro ⟨depth, within, deep⟩
      cases deep with
      | root top => exact ⟨c, rfl, top⟩
      | under => omega
  | succ hops ih =>
    rw [climb]
    cases named : parent c with
    | none => exact iff_of_true ⟨c, rfl, named⟩ ⟨0, Nat.zero_le _, .root named⟩
    | some p =>
      dsimp only
      rw [List.getLast?_cons_cons, ih p]
      constructor
      · rintro ⟨depth, within, deep⟩
        exact ⟨depth + 1, Nat.succ_le_succ within, .under named deep⟩
      · rintro ⟨depth, within, deep⟩
        cases deep with
        | root top => rw [named] at top; cases top
        | under below above =>
          rw [named] at below
          cases below
          exact ⟨_, Nat.le_of_succ_le_succ within, above⟩

theorem pathTo_climb (parent : String → Option String) (hops : Nat) (c : String) :
    PathTo parent c (c :: climb parent hops c).reverse ↔ ∃ depth ≤ hops, DepthOf parent c depth := by
  rw [← climb_top]
  constructor
  · rintro ⟨top, -, -⟩
    rwa [List.head?_reverse] at top
  · intro top
    refine ⟨?_, ?_, ?_⟩
    · rwa [List.head?_reverse]
    · rw [List.isChain_reverse]
      exact climb_links parent hops c
    · rw [List.getLast?_reverse]
      rfl

theorem chainsComplete_iff_depths (db : Db) :
    ChainsComplete db ↔ ∀ c ∈ db.channels, ∃ depth ≤ chainCap, DepthOf db.parentOf c depth := by
  unfold ChainsComplete idToParent
  simp only [ancestorChainFromMap_eq, and_self, ancestorChain, pathTo_climb]

theorem listed_iff {db : Db} {c : String} : c ∈ db.channels ↔ ∃ node, db.node c = some node := by
  rw [← not_iff_not, ← Db.node_eq_none, Option.eq_none_iff_forall_ne_some]
  exact not_exists.symm

theorem GrownChains.complete {db : Db} (held : GrownChains db) : ChainsComplete db := by
  rw [chainsComplete_iff_depths]
  intro c listed
  obtain ⟨node, found⟩ := listed_iff.mp listed
  obtain ⟨depth, deep, within⟩ := held.placed c node found
  exact ⟨depth, within, deep⟩

section

variable {db : Db}

theorem createChannel_refused {user id : String} {req : CreateChannelRequest} (refused : ¬ Creatable db user req id)
    (now : Int) : (createChannel db user req id now).1 = db := by
  unfold createChannel
  cases refusal : createRefusal db user req with
  | some _ => rfl
  | none =>
    dsimp only
    split
    next inserted stored =>
      refine absurd ⟨refusal, ?_⟩ refused
      simp only [insertChannel] at stored
      split at stored
      · cases stored
      next available =>
        rw [not_or] at available
        split at stored
        next known => exact ⟨available.1, by simpa using available.2, known⟩
        next => cases stored
    next => rfl
    next => rfl

theorem createChannel_stored {user id : String} {req : CreateChannelRequest} (creatable : Creatable db user req id)
    (now : Int) (c : String) : (createChannel db user req id now).1.node c =
      if c = id then some { parentId := req.parentId, isCategory := req.isCategory } else db.node c := by
  obtain ⟨passed, fresh, unnamed, known⟩ := creatable
  have available : ¬ (id ∈ db.channels ∨ db.channels.toList.any (·.2.name == req.name) = true) := by
    rw [not_or]
    exact ⟨fresh, by simpa using unnamed⟩
  simp only [createChannel, passed, insertChannel, if_neg available, if_pos known]
  exact Db.node_insert db id c _

theorem Hangs.nodes {call : ChannelCall} {x p : String} (hangs : Hangs db call x p) :
    IsCategory db p ∧ ∃ node, node.parentId = some p ∧
      ∀ c, (serve db call).node c = if c = x then some node else db.node c := by
  cases call with
  | create user req id now =>
    obtain ⟨rfl, asked, creatable⟩ := hangs
    obtain ⟨parent, -⟩ := createRefusal_eq_none creatable.1
    exact ⟨parent p asked, _, asked, createChannel_stored creatable now⟩
  | update user channelId req images =>
    obtain ⟨rfl, asked, accepted⟩ := hangs
    obtain ⟨old, -, nodes⟩ := updateChannel_nodes accepted
    rw [asked] at nodes
    exact ⟨(updateRefusal_move asked accepted).category, { old with parentId := some p }, rfl, nodes⟩
  | delete | spawn | others => cases hangs

-- An accepted call that folds the tree back on itself would take the channel above itself again and again.
theorem not_deepMove (held : GrownChains db) {call : ChannelCall} (near : ¬ TooFar db call) : ¬ DeepMove db call := by
  rintro ⟨user, x, req, images, p, rfl, asked, accepted, -, n, far, reached⟩
  obtain ⟨depth, deep⟩ := held.grown.rooted p
  obtain ⟨e, split, -⟩ := deep.climb reached
  refine near ⟨x, p, p, n, depth, ⟨rfl, asked, accepted⟩, reached, deep, ?_⟩
  unfold chainCap
  omega

theorem Placed.unchanged {fits : Bool → Nat → Prop} {after : Db} (placed : Placed fits db)
    (nodes : ∀ c, after.node c = db.node c) : Placed fits after := by
  have parents : after.parentOf = db.parentOf := by
    funext c
    rw [Db.parentOf_node, Db.parentOf_node, nodes c]
  intro c node listed
  rw [nodes c] at listed
  rw [parents]
  exact placed c node listed

theorem Hangs.near {call : ChannelCall} {x p c : String} {below above : Nat} (hangs : Hangs db call x p)
    (near : ¬ TooFar db call) (reached : up db.parentOf below c = some x) (deep : DepthOf db.parentOf p above) :
    above + 1 + below ≤ chainCap := by
  by_contra far
  exact near ⟨x, p, c, below, above, hangs, reached, deep, by omega⟩

theorem GrownChains.create (held : GrownChains db) {user id : String} {req : CreateChannelRequest} {now : Int}
    (near : ¬ TooFar db (.create user req id now)) :
    Placed (fun _ depth => depth ≤ chainCap) (createChannel db user req id now).1 := by
  by_cases creatable : Creatable db user req id
  · obtain ⟨parent, -⟩ := createRefusal_eq_none creatable.1
    refine held.placed.add held.grown (Db.node_eq_none.mpr creatable.2.1) (createChannel_stored creatable now) parent ?_
    rintro depth (⟨-, rfl⟩ | ⟨p, above, asked, deep, rfl⟩)
    · exact Nat.zero_le _
    · have hangs : Hangs db (.create user req id now) id p := ⟨rfl, asked, creatable⟩
      exact hangs.near near (up_zero id) deep
  · rw [createChannel_refused creatable]
    exact held.placed

theorem GrownChains.update (held : GrownChains db) {user x : String} {req : UpdateChannelRequest}
    {images : Finset (String × String)} (near : ¬ TooFar db (.update user x req images)) :
    Placed (fun _ depth => depth ≤ chainCap) (updateChannel db user x req images).1 := by
  have grown := held.grown.serve _ (not_deepMove held near)
  cases refusal : updateRefusal db user x req images with
  | some _ =>
    refine held.placed.unchanged fun c => ?_
    simp only [updateChannel, refusal]
  | none =>
    obtain ⟨old, found, nodes⟩ := updateChannel_nodes refusal
    cases asked : req.parentId with
    | none =>
      rw [asked] at nodes
      refine held.placed.unchanged fun c => (nodes c).trans ?_
      split
      next same => rw [same, found, Option.getD_none]
      next => rfl
    | some parent =>
      rw [asked, Option.getD_some] at nodes
      cases parent with
      | none =>
        refine held.placed.hang held.grown nodes (.root (parentOf_framed_self nodes)) (Nat.zero_le _) ?_
        intro c node n listed _ reached
        obtain ⟨depth, deep, within⟩ := held.placed c node listed
        obtain ⟨e, split, -⟩ := deep.climb reached
        omega
      | some p =>
        have hangs : Hangs db (.update user x req images) x p := ⟨rfl, asked, refusal⟩
        have apart : ∀ n, up db.parentOf n p ≠ some x := fun n reached =>
          held.grown.rooted.cycle (parentOf_framed_other nodes) (parentOf_framed_self nodes) reached grown.rooted.acyclic
        obtain ⟨above, deep⟩ := held.grown.rooted p
        have sits := DepthOf.under (parentOf_framed_self nodes) (deep.apart (parentOf_framed_other nodes) apart)
        refine held.placed.hang held.grown nodes sits (hangs.near near (up_zero x) deep) ?_
        intro c node n _ _ reached
        exact hangs.near near reached deep

theorem GrownChains.spawn (held : GrownChains db) (spawnerId joinerPubkey : String) (displayName : Option String)
    (env : JoinEnv) :
    Placed (fun _ depth => depth ≤ chainCap) (spawnTempChannel db spawnerId joinerPubkey displayName env).1 := by
  rcases spawnTempChannel_spawned db spawnerId joinerPubkey displayName env with nodes | ⟨id, sibling, fresh, beside, nodes⟩
  · exact held.placed.unchanged nodes
  · obtain ⟨depth, deep, within⟩ := held.placed spawnerId sibling beside
    have above : db.parentOf spawnerId = sibling.parentId := by
      rw [Db.parentOf_node, beside]
      rfl
    refine held.placed.add held.grown fresh nodes (held.grown.parents spawnerId sibling beside) ?_
    rintro level (⟨-, rfl⟩ | ⟨p, e, named, top, rfl⟩)
    · exact Nat.zero_le _
    · rw [← deep.unique (.under (above.trans named) top)]
      exact within

theorem GrownChains.serve (held : GrownChains db) (call : ChannelCall) (near : ¬ TooFar db call) :
    GrownChains (serve db call) := by
  refine ⟨held.grown.serve call (not_deepMove held near), ?_⟩
  cases call with
  | create user req id now => exact held.create near
  | update user x req images => exact held.update near
  | delete user channelId =>
    rw [Channels.serve]
    rcases deleteChannel_removed db user channelId with same | ⟨ids, closed, nodes⟩
    · rw [same]
      exact held.placed
    · intro c node listed
      rw [nodes c] at listed
      split at listed
      · cases listed
      next staying =>
        obtain ⟨depth, deep, within⟩ := held.placed c node listed
        exact ⟨depth, depth_removed closed nodes staying deep, within⟩
  | spawn spawnerId joinerPubkey displayName env => exact held.spawn spawnerId joinerPubkey displayName env
  | others other => exact held.placed.unchanged fun _ => rfl

theorem rooted_of_complete {after : Db} (complete : ChainsComplete after) : Rooted after.parentOf := by
  rw [chainsComplete_iff_depths] at complete
  intro c
  by_cases listed : c ∈ after.channels
  · obtain ⟨depth, -, deep⟩ := complete c listed
    exact ⟨depth, deep⟩
  · refine ⟨0, .root ?_⟩
    rw [Db.parentOf_node, Db.node_eq_none.mpr listed]
    rfl

theorem tooFar_breaks (held : GrownChains db) (call : ChannelCall) (far : TooFar db call) :
    ¬ ChainsComplete (serve db call) := by
  obtain ⟨x, p, c, below, above, hangs, reached, deep, exceeds⟩ := far
  obtain ⟨-, node, parent, nodes⟩ := hangs.nodes
  have frame := parentOf_framed_other nodes
  have here := (parentOf_framed_self nodes).trans parent
  intro complete
  have rooted := rooted_of_complete complete
  have apart : ∀ n, up db.parentOf n p ≠ some x := fun n returned =>
    held.grown.rooted.cycle frame here returned rooted.acyclic
  have bottom := held.grown.rooted.depth_below frame (.under here (deep.apart frame apart)) reached
  have listed : c ∈ (serve db call).channels := by
    rw [listed_iff, nodes c]
    by_cases same : c = x
    · exact ⟨node, if_pos same⟩
    · rw [if_neg same, ← listed_iff]
      by_contra absent
      cases below with
      | zero => exact same (Option.some.inj reached)
      | succ below =>
        rw [up_succ, Db.parentOf_node, Db.node_eq_none.mpr absent] at reached
        cases reached
  obtain ⟨depth, within, found⟩ := (chainsComplete_iff_depths _).mp complete c listed
  have := found.unique bottom
  omega

end

/--
The chains are whole exactly in the runs that never put a channel more than 64 levels below its
root, be it by creating it there or by moving what it hangs under.
-/
theorem chainsComplete_iff (hub : Db) (calls : List ChannelCall) :
    (∀ front, front <+: calls → ChainsComplete (Runs.run serve { hub with channels := ∅ } front)) ↔
      Runs.Meets serve (fun db call => ¬ TooFar db call) { hub with channels := ∅ } calls := by
  refine Runs.always_iff_meets GrownChains ChainsComplete (fun _ held => held.complete)
    (fun _ call held near => held.serve call near)
    (fun _ call held far => tooFar_breaks held call (not_not.mp far)) ⟨grown_empty hub, ?_⟩ calls
  intro c node listed
  rw [node_empty] at listed
  cases listed

-- 66 categories, each in the one before, on a hub that does not limit the depth.
def deepNesting : Db := Runs.run serve { ownerHub with channels := ∅ } ((List.range 66).map nest)

theorem deepNesting_top : readMaxDepth deepNesting = 0 ∧ level 65 ∈ deepNesting.channels ∧
    (ancestorChain deepNesting (level 65)).head? = some (level 1) ∧ deepNesting.parentOf (level 1) = some (level 0) := by
  decide +kernel

-- The outermost of its 65 ancestors is missing from the chain of the innermost.
theorem chains_truncated : readMaxDepth deepNesting = 0 ∧ ¬ ChainsComplete deepNesting := by
  obtain ⟨unlimited, listed, first, above⟩ := deepNesting_top
  refine ⟨unlimited, ?_⟩
  intro complete
  obtain ⟨root, head, top⟩ := (complete (level 65) listed).1.top
  rw [first] at head
  cases head
  rw [above] at top
  cases top

end Wavvon.Channels
