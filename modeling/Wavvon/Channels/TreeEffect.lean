import Wavvon.Channels.Tree

set_option autoImplicit false

namespace Wavvon

open Std (ExtTreeMap)

namespace Db

-- What the shape of the channel tree depends on of a row.
structure Node where
  parentId : Option String
  isCategory : Bool
  deriving DecidableEq, Repr

def node (db : Db) (channelId : String) : Option Node :=
  db.channels[channelId]?.map fun row => { parentId := row.parentId, isCategory := row.isCategory }

theorem parentOf_node (db : Db) (channelId : String) :
    db.parentOf channelId = (db.node channelId).bind (·.parentId) := by
  cases found : db.channels[channelId]? <;> simp [parentOf, node, found]

theorem node_eq_none {db : Db} {channelId : String} :
    db.node channelId = none ↔ channelId ∉ db.channels := by
  simp [node]

theorem node_updateChannel (db : Db) (channelId other : String) (f : Channel → Channel) :
    (db.updateChannel channelId f).node other =
      if other = channelId then
        db.channels[other]?.map fun row =>
          { parentId := (f row).parentId, isCategory := (f row).isCategory }
      else db.node other := by
  simp only [node, channels_updateChannel]
  split
  · rw [Option.map_map]
    rfl
  · rfl

theorem node_insert (db : Db) (channelId other : String) (row : Channel) :
    ({ db with channels := db.channels.insert channelId row } : Db).node other =
      if other = channelId then some { parentId := row.parentId, isCategory := row.isCategory }
      else db.node other := by
  by_cases same : other = channelId
  · simp [node, same]
  · simp [node, same, ExtTreeMap.getElem?_insert, Ne.symm same]

end Db

namespace Channels

def IsCategory (db : Db) (channelId : String) : Prop :=
  ∃ node, db.node channelId = some node ∧ node.isCategory = true

/--
Everything a call can do to the shape of the tree, with the checks that let it. A spawned room is
a leaf beside its spawner; every other new channel has passed the checks of its parent and depth.
-/
inductive TreeEffect (db : Db) (call : ChannelCall) (after : Db) : Prop where
  | same (nodes : ∀ c, after.node c = db.node c)
  | created (id : String) (node : Db.Node) (fresh : db.node id = none)
      (parent : ∀ p, node.parentId = some p → IsCategory db p)
      (fits : createDepthRefusal db node.parentId node.isCategory = none)
      (nodes : ∀ c, after.node c = if c = id then some node else db.node c)
  | spawned (id spawner : String) (sibling node : Db.Node) (fresh : db.node id = none)
      (beside : db.node spawner = some sibling) (same : node.parentId = sibling.parentId)
      (leaf : node.isCategory = false)
      (nodes : ∀ c, after.node c = if c = id then some node else db.node c)
  | detached (x : String) (old : Db.Node) (found : db.node x = some old)
      (nodes : ∀ c, after.node c = if c = x then some { old with parentId := none } else db.node c)
  | moved (x p : String) (old : Db.Node) (user : String) (req : UpdateChannelRequest)
      (images : Finset (String × String)) (called : call = .update user x req images)
      (asked : req.parentId = some (some p)) (accepted : updateRefusal db user x req images = none)
      (found : db.node x = some old)
      (nodes : ∀ c, after.node c = if c = x then some { old with parentId := some p } else db.node c)
  | removed (ids : List String)
      (closed : ∀ c node, c ∉ ids → db.node c = some node → ∀ p, node.parentId = some p → p ∉ ids)
      (nodes : ∀ c, after.node c = if c ∈ ids then none else db.node c)

theorem firstRefusal_eq_none {checks : List (Option Refusal)} :
    firstRefusal checks = none ↔ ∀ check ∈ checks, check = none := by
  simp [firstRefusal, List.findSome?_eq_none_iff]

theorem parentRefusal_eq_none {db : Db} {parentId : String} :
    parentRefusal db parentId = none ↔ IsCategory db parentId := by
  unfold parentRefusal IsCategory
  cases found : db.channels[parentId]? with
  | none => simp [Db.node, found]
  | some row => cases kind : row.isCategory <;> simp [Db.node, found, kind]

theorem createRefusal_eq_none {db : Db} {user : String} {req : CreateChannelRequest}
    (accepted : createRefusal db user req = none) :
    (∀ p, req.parentId = some p → IsCategory db p) ∧
      createDepthRefusal db req.parentId req.isCategory = none := by
  have passed := firstRefusal_eq_none.mp accepted
  constructor
  · intro p named
    have parent := passed (req.parentId.bind (parentRefusal db)) (by simp)
    rw [named, Option.bind_some] at parent
    exact parentRefusal_eq_none.mp parent
  · exact passed _ (by simp)

theorem createChannel_effect (db : Db) (user : String) (req : CreateChannelRequest) (id : String)
    (now : Int) :
    TreeEffect db (.create user req id now) (createChannel db user req id now).1 := by
  unfold createChannel
  cases refusal : createRefusal db user req with
  | some _ => exact .same fun _ => rfl
  | none =>
    obtain ⟨parent, fits⟩ := createRefusal_eq_none refusal
    simp only [insertChannel]
    split
    next inserted stored =>
      split at stored
      · cases stored
      next available =>
        split at stored
        · cases stored
          rw [not_or] at available
          exact .created id { parentId := req.parentId, isCategory := req.isCategory }
            (Db.node_eq_none.mpr available.1) parent fits fun c => Db.node_insert db id c _
        · cases stored
    next => exact .same fun _ => rfl
    next => exact .same fun _ => rfl

-- Whatever becomes of the rename, the tree is the one the update left.
theorem node_renameChannel (db : Db) (channelId : String) (name : Option String) (c : String) :
    (renameChannel db channelId name).1.node c = db.node c := by
  unfold renameChannel
  split
  · rfl
  · dsimp only
    split
    · rfl
    · split
      · rfl
      · rw [Db.node_updateChannel]
        split <;> rfl

theorem updateChannel_nodes {db : Db} {user channelId : String} {req : UpdateChannelRequest}
    {images : Finset (String × String)} (accepted : updateRefusal db user channelId req images = none) :
    ∃ old, db.node channelId = some old ∧ ∀ c,
      (updateChannel db user channelId req images).1.node c =
        if c = channelId then some { old with parentId := req.parentId.getD old.parentId }
        else db.node c := by
  cases found : db.channels[channelId]? with
  | none => simp [updateRefusal, found] at accepted
  | some row =>
    refine ⟨{ parentId := row.parentId, isCategory := row.isCategory }, by simp [Db.node, found], ?_⟩
    intro c
    have served : updateChannel db user channelId req images =
        renameChannel (db.updateChannel channelId req.apply) channelId req.name := by
      simp [updateChannel, accepted]
    rw [served, node_renameChannel, Db.node_updateChannel]
    by_cases same : c = channelId
    · rw [if_pos same, if_pos same, same, found]
      rfl
    · rw [if_neg same, if_neg same]

theorem updateChannel_effect (db : Db) (user channelId : String) (req : UpdateChannelRequest)
    (images : Finset (String × String)) :
    TreeEffect db (.update user channelId req images)
      (updateChannel db user channelId req images).1 := by
  cases refusal : updateRefusal db user channelId req images with
  | some _ =>
    refine .same fun c => ?_
    simp [updateChannel, refusal]
  | none =>
    obtain ⟨old, found, nodes⟩ := updateChannel_nodes refusal
    cases asked : req.parentId with
    | none =>
      refine .same fun c => (nodes c).trans ?_
      split
      next same => rw [same, found, asked, Option.getD_none]
      next => rfl
    | some parent =>
      rw [asked] at nodes
      cases parent with
      | none => exact .detached channelId old found nodes
      | some p => exact .moved channelId p old user req images rfl asked refusal found nodes

theorem channels_outside (db : Db) (ids : List String) (c : String) :
    (db.channels.filter fun id _ => id ∉ ids)[c]? = if c ∈ ids then none else db.channels[c]? := by
  cases found : db.channels[c]? <;> by_cases gone : c ∈ ids <;> simp [found, gone]

-- A channel outside whose parent is among the deleted ones keeps them all.
theorem deleteChannels_none {db : Db} {ids : List String} : deleteChannels db ids = none ↔
    ∃ (id : String) (row : Channel), db.channels[id]? = some row ∧ id ∉ ids ∧ ∃ parent ∈ row.parentId,
    parent ∈ ids := by
  unfold deleteChannels
  simp only [ite_eq_left_iff, reduceCtorEq, imp_false, not_not, List.any_eq_true, Option.any_eq_true,
    decide_eq_true_eq, Prod.exists, ExtTreeMap.mem_toList_iff_getElem?_eq_some, channels_outside]
  constructor
  · rintro ⟨id, row, stored, parent, above, inside⟩
    split at stored
    next => cases stored
    next outside => exact ⟨id, row, stored, outside, parent, above, inside⟩
  · rintro ⟨id, row, stored, outside, parent, above, inside⟩
    exact ⟨id, row, (if_neg outside).trans stored, parent, above, inside⟩

theorem deleteChannels_some {db after : Db} {ids : List String} (deleted : deleteChannels db ids = some after) :
    after.channels = db.channels.filter fun id _ => id ∉ ids := by
  unfold deleteChannels at deleted
  dsimp only at deleted
  split at deleted
  next => cases deleted
  next =>
    cases deleted
    rfl

-- What goes leaves no channel whose parent it was.
theorem deleteChannels_removed {db after : Db} {ids : List String} (deleted : deleteChannels db ids = some after) :
    (∀ c node, c ∉ ids → db.node c = some node → ∀ p, node.parentId = some p → p ∉ ids) ∧
      ∀ c, after.node c = if c ∈ ids then none else db.node c := by
  unfold deleteChannels at deleted
  dsimp only at deleted
  split at deleted
  · cases deleted
  next intact =>
    cases deleted
    refine ⟨?_, ?_⟩
    · intro c node staying found p named gone
      apply intact
      rw [List.any_eq_true]
      obtain ⟨row, listed, rfl⟩ := Option.map_eq_some_iff.mp found
      refine ⟨(c, row), ExtTreeMap.mem_toList_iff_getElem?_eq_some.mpr ?_, ?_⟩
      · rw [channels_outside, if_neg staying, listed]
      · simp only at named
        simp [named, gone]
    · intro c
      simp only [Db.node, channels_outside]
      split <;> rfl

theorem deleteChannel_removed (db : Db) (user channelId : String) :
    (deleteChannel db user channelId).1 = db ∨ ∃ ids : List String,
      (∀ c node, c ∉ ids → db.node c = some node → ∀ p, node.parentId = some p → p ∉ ids) ∧
      ∀ c, (deleteChannel db user channelId).1.node c = if c ∈ ids then none else db.node c := by
  unfold deleteChannel
  split
  · exact .inl rfl
  · split
    · split
      next deleted => exact .inr ⟨_, deleteChannels_removed deleted⟩
      next => exact .inl rfl
    · exact .inl rfl

theorem deleteChannel_effect (db : Db) (user channelId : String) :
    TreeEffect db (.delete user channelId) (deleteChannel db user channelId).1 := by
  rcases deleteChannel_removed db user channelId with same | ⟨ids, closed, nodes⟩
  · exact .same fun c => by rw [same]
  · exact .removed ids closed nodes

def unseen (db : Db) (seen : List String) : List String :=
  db.channels.keys.filter (· ∉ seen)

theorem mem_childrenOf {db : Db} {frontier : List String} {id : String} :
    id ∈ childrenOf db frontier ↔
      ∃ row p, db.channels[id]? = some row ∧ row.parentId = some p ∧ p ∈ frontier := by
  simp only [childrenOf, List.mem_map, List.mem_filter, Prod.exists, exists_and_right,
    ExtTreeMap.mem_toList_iff_getElem?_eq_some, Option.any_eq_true, decide_eq_true_eq]
  constructor
  · rintro ⟨other, ⟨row, found, p, named, inside⟩, rfl⟩
    exact ⟨row, p, found, named, inside⟩
  · rintro ⟨row, p, found, named, inside⟩
    exact ⟨id, ⟨row, found, p, named, inside⟩, rfl⟩

theorem unseen_shrinks (db : Db) (seen frontier : List String) {id : String}
    (fresh : id ∈ (childrenOf db frontier).filter (· ∉ seen)) :
    (unseen db (seen ++ (childrenOf db frontier).filter (· ∉ seen))).length <
      (unseen db seen).length := by
  obtain ⟨child, isNew⟩ := List.mem_filter.mp fresh
  obtain ⟨row, p, found, _⟩ := mem_childrenOf.mp child
  have listed : id ∈ unseen db seen := by
    refine List.mem_filter.mpr ⟨ExtTreeMap.mem_keys.mpr ?_, isNew⟩
    exact ExtTreeMap.mem_iff_isSome_getElem?.mpr (by rw [found]; rfl)
  have again : unseen db (seen ++ (childrenOf db frontier).filter (· ∉ seen)) =
      (unseen db seen).filter (· ∉ (childrenOf db frontier).filter (· ∉ seen)) := by
    simp only [unseen, List.filter_filter]
    refine List.filter_congr fun other _ => ?_
    rw [← Bool.decide_and]
    refine decide_eq_decide.mpr ?_
    rw [List.mem_append, not_or, and_comm]
  rw [again]
  refine List.length_filter_lt_length_iff_exists.mpr ⟨id, listed, ?_⟩
  simpa using fresh

-- The walk ends because it runs out of unseen channels, not out of rounds.
theorem subtreeLoop_closed (db : Db) (fuel : Nat) (seen frontier : List String)
    (enough : (frontier = [] ∧ 0 < fuel) ∨ (unseen db seen).length + 2 ≤ fuel)
    (expanded : ∀ id row p, db.channels[id]? = some row → row.parentId = some p → p ∈ seen →
      p ∉ frontier → id ∈ seen) :
    ∀ id row p, db.channels[id]? = some row → row.parentId = some p →
      p ∈ subtreeLoop db fuel seen frontier → id ∈ subtreeLoop db fuel seen frontier := by
  induction fuel generalizing seen frontier with
  | zero => omega
  | succ fuel ih =>
    simp only [subtreeLoop]
    cases frontier with
    | nil =>
      intro id row p found named inside
      exact expanded id row p found named inside List.not_mem_nil
    | cons first rest =>
      simp only [List.isEmpty_cons, Bool.false_eq_true, if_false]
      refine ih _ _ ?_ ?_
      · have room : (unseen db seen).length + 2 ≤ fuel + 1 := by
          rcases enough with ⟨none, _⟩ | room
          · cases none
          · exact room
        cases fresh : (childrenOf db (first :: rest)).filter (· ∉ seen) with
        | nil => exact .inl ⟨rfl, by omega⟩
        | cons id others =>
          have member : id ∈ (childrenOf db (first :: rest)).filter (· ∉ seen) := by
            rw [fresh]
            exact List.mem_cons_self
          have shrinks := unseen_shrinks db seen (first :: rest) member
          rw [fresh] at shrinks
          exact .inr (by omega)
      · intro id row p found named inside waiting
        have old : p ∈ seen := (List.mem_append.mp inside).resolve_right waiting
        by_cases here : p ∈ first :: rest
        · by_cases known : id ∈ seen
          · exact List.mem_append_left _ known
          · refine List.mem_append_right _ (List.mem_filter.mpr ⟨?_, by simpa using known⟩)
            exact mem_childrenOf.mpr ⟨row, p, found, named, here⟩
        · exact List.mem_append_left _ (expanded id row p found named old here)

-- The walk comes by stored channels only.
theorem subtreeLoop_listed (db : Db) (fuel : Nat) (seen frontier : List String)
    (listed : ∀ id ∈ seen, id ∈ db.channels) : ∀ id ∈ subtreeLoop db fuel seen frontier, id ∈ db.channels := by
  induction fuel generalizing seen frontier with
  | zero => exact listed
  | succ fuel ih =>
    simp only [subtreeLoop]
    split
    next => exact listed
    next =>
      refine ih _ _ ?_
      intro id reached
      obtain before | fresh := List.mem_append.mp reached
      · exact listed id before
      · obtain ⟨row, p, found, _⟩ := mem_childrenOf.mp (List.mem_filter.mp fresh).1
        exact ExtTreeMap.mem_iff_isSome_getElem?.mpr (by rw [found]; rfl)

-- Deleting a whole subtree never trips over a parent reference.
theorem deleteChannel_succeeds (db : Db) (user channelId : String)
    (allowed : (channelPermissions db user channelId).has CHANNELS_MANAGE = true)
    (listed : channelId ∈ db.channels) : (deleteChannel db user channelId).2 = .ok () := by
  have closed := subtreeLoop_closed db (db.channels.size + 2) [channelId] [channelId]
    (by
      have fewer := List.length_filter_le (· ∉ [channelId]) db.channels.keys
      rw [ExtTreeMap.length_keys] at fewer
      exact .inr (Nat.add_le_add_right fewer 2))
    (by
      intro id row p _ _ inside outside
      exact absurd inside outside)
  have intact : ((db.channels.filter fun id _ => id ∉ channelSubtreeIds db channelId).toList.any
      fun entry => entry.2.parentId.any (· ∈ channelSubtreeIds db channelId)) = false := by
    rw [List.any_eq_false]
    rintro ⟨id, row⟩ stored orphaned
    obtain ⟨p, named, inside⟩ := (Option.any_eq_true _ _).mp orphaned
    rw [ExtTreeMap.mem_toList_iff_getElem?_eq_some, ExtTreeMap.getElem?_filter',
      Option.filter_eq_some_iff] at stored
    exact (of_decide_eq_true stored.2) (closed id row p stored.1 named (of_decide_eq_true inside))
  have deleted : (deleteChannels db (channelSubtreeIds db channelId)).isSome := by
    simp only [deleteChannels, intact, Bool.false_eq_true, if_false, Option.isSome_some]
  obtain ⟨after, result⟩ := Option.isSome_iff_exists.mp deleted
  simp [deleteChannel, require, allowed, listed, result]

theorem node_makeRoomAfter (db : Db) (parentId : Option String) (order : Int) (c : String) :
    (makeRoomAfter db parentId order).node c = db.node c := by
  simp only [Db.node, makeRoomAfter, ExtTreeMap.getElem?_map, Option.map_map]
  cases db.channels[c]? with
  | none => rfl
  | some row =>
    simp only [Option.map_some, Function.comp_apply]
    split <;> rfl

theorem spawnTempChannel_spawned (db : Db) (spawnerId joinerPubkey : String) (displayName : Option String)
    (env : JoinEnv) :
    (∀ c, (spawnTempChannel db spawnerId joinerPubkey displayName env).1.node c = db.node c) ∨
      ∃ id sibling, db.node id = none ∧ db.node spawnerId = some sibling ∧
        ∀ c, (spawnTempChannel db spawnerId joinerPubkey displayName env).1.node c =
          if c = id then some { sibling with isCategory := false } else db.node c := by
  unfold spawnTempChannel
  split
  · exact .inl fun _ => rfl
  next spawner found =>
    split
    · exact .inl fun _ => rfl
    · have unshifted := node_makeRoomAfter db spawner.parentId spawner.displayOrder
      dsimp only
      split
      · exact .inl unshifted
      next id inserted allocated =>
        obtain ⟨fresh, name, rfl⟩ := allocateRoom_fresh _ _ _ _ _ _ _ _ allocated
        refine .inr ⟨id, { parentId := spawner.parentId, isCategory := spawner.isCategory }, ?_, ?_, ?_⟩
        · rw [← unshifted id]
          exact Db.node_eq_none.mpr fresh
        · simp [Db.node, found]
        · intro c
          rw [Db.node_insert, unshifted]

theorem spawnTempChannel_effect (db : Db) (spawnerId joinerPubkey : String)
    (displayName : Option String) (env : JoinEnv) :
    TreeEffect db (.spawn spawnerId joinerPubkey displayName env)
      (spawnTempChannel db spawnerId joinerPubkey displayName env).1 := by
  rcases spawnTempChannel_spawned db spawnerId joinerPubkey displayName env with nodes | ⟨id, sibling, fresh, beside, nodes⟩
  · exact .same nodes
  · exact .spawned id spawnerId sibling { sibling with isCategory := false } fresh beside rfl rfl nodes

theorem serve_effect (db : Db) (call : ChannelCall) : TreeEffect db call (serve db call) := by
  cases call with
  | create user req id now => exact createChannel_effect db user req id now
  | update user channelId req images => exact updateChannel_effect db user channelId req images
  | delete user channelId => exact deleteChannel_effect db user channelId
  | spawn spawnerId joinerPubkey displayName env =>
    exact spawnTempChannel_effect db spawnerId joinerPubkey displayName env
  | others other => exact .same fun _ => rfl

end Channels

end Wavvon
