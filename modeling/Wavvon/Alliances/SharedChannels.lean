import Wavvon.Channels.Forest
import Wavvon.Chat.Messages

set_option autoImplicit false

namespace Wavvon.Alliances

open Std (ExtTreeMap)
open Chat (Share shareDepth)
open Parents (up Above)

structure TreeRow where
  id : String
  channel : Channel
  depth : Nat
  includeDescendants : Bool
  deriving DecidableEq, Repr

structure EffectiveChannelRow where
  id : String
  name : String
  channelType : ChannelType
  isCategory : Bool
  parentId : Option String
  deriving DecidableEq, Repr

-- The orders of `ORDER BY depth, display_order`; rows that agree on both come as they come.
structure Ranking where
  sort : List TreeRow → List TreeRow
  perm : ∀ rows, (sort rows).Perm rows
  sorted : ∀ rows, (sort rows).Pairwise fun a b =>
    a.depth < b.depth ∨ a.depth = b.depth ∧ a.channel.displayOrder ≤ b.channel.displayOrder

section

variable (db : Db)

def sharedRoots (shares : List Share) (allianceId : String) : List TreeRow :=
  (shares.filter (·.allianceId = allianceId)).filterMap fun share =>
    (db.channels[share.channelId]?).map fun channel =>
      { id := share.channelId, channel := channel, depth := 0, includeDescendants := share.includeDescendants }

def childRows (t : TreeRow) : List TreeRow :=
  if t.includeDescendants ∧ t.depth < shareDepth then
    (db.channels.toList.filter fun entry => entry.2.parentId = some t.id).map fun entry =>
      { id := entry.1, channel := entry.2, depth := t.depth + 1, includeDescendants := t.includeDescendants }
  else []

-- The working table of each round of WITH RECURSIVE.
def round (roots : List TreeRow) : Nat → List TreeRow
  | 0 => roots
  | n + 1 => (round roots n).flatMap (childRows db)

-- The recursion ends with a round that adds nothing.
def sharedTree (roots : List TreeRow) : List TreeRow :=
  (List.range (shareDepth + 1)).flatMap (round db roots)

-- SELECT DISTINCT ON (id), of rows that are in order.
def distinctOn : List TreeRow → List TreeRow
  | [] => []
  | row :: rest => row :: (distinctOn rest).filter (·.id ≠ row.id)

def byIdAndDepth (a b : TreeRow) : Bool := decide (a.id < b.id ∨ a.id = b.id ∧ a.depth ≤ b.depth)

def effectiveSharedChannels (ranking : Ranking) (shares : List Share) (allianceId : String) :
    List EffectiveChannelRow :=
  let rows := ranking.sort
    (distinctOn ((sharedTree db (sharedRoots db shares allianceId)).mergeSort byIdAndDepth))
  let ids := rows.map (·.id)
  rows.map fun row =>
    { id := row.id, name := row.channel.name, channelType := row.channel.channelType
      isCategory := row.channel.isCategory, parentId := row.channel.parentId.filter (· ∈ ids) }

/-- Shared by name, or at most so many levels below a channel that is shared with its descendants. -/
def SharedWithin (depth : Nat) (shares : List Share) (allianceId id : String) : Prop :=
  ∃ share ∈ shares, share.allianceId = allianceId ∧ share.channelId ∈ db.channels ∧
    (id = share.channelId ∨
      share.includeDescendants = true ∧ ∃ levels ≤ depth, up db.parentOf levels id = some share.channelId)

end

section

variable {db : Db} {shares : List Share} {allianceId id : String} {roots rows : List TreeRow} {row root : TreeRow}
  {n : Nat}

theorem parentOf_of_row {channel : Channel} (found : db.channels[id]? = some channel) :
    db.parentOf id = channel.parentId := by
  rw [Db.parentOf, found]
  rfl

theorem mem_childRows {t : TreeRow} : row ∈ childRows db t ↔
    t.includeDescendants = true ∧ t.depth < shareDepth ∧ db.channels[row.id]? = some row.channel ∧
      row.channel.parentId = some t.id ∧ row.depth = t.depth + 1 ∧ row.includeDescendants = t.includeDescendants := by
  rw [childRows]
  split
  next grows =>
    simp only [List.mem_map, List.mem_filter, decide_eq_true_eq, Prod.exists,
      ExtTreeMap.mem_toList_iff_getElem?_eq_some,
      grows, true_and]
    constructor
    · rintro ⟨id, channel, ⟨found, parent⟩, rfl⟩
      exact ⟨found, parent, rfl, rfl⟩
    · rintro ⟨found, parent, depth, descends⟩
      refine ⟨row.id, row.channel, ⟨found, parent⟩, ?_⟩
      obtain ⟨id, channel, _, _⟩ := row
      cases depth
      cases descends
      rfl
  next ends =>
    refine iff_of_false List.not_mem_nil ?_
    rintro ⟨descends, shallow, _⟩
    exact ends ⟨descends, shallow⟩

theorem mem_sharedRoots : row ∈ sharedRoots db shares allianceId ↔
    ∃ share ∈ shares, share.allianceId = allianceId ∧ row.id = share.channelId ∧
      db.channels[row.id]? = some row.channel ∧ row.depth = 0 ∧ row.includeDescendants = share.includeDescendants := by
  simp only [sharedRoots, List.mem_filterMap, List.mem_filter, decide_eq_true_eq, Option.map_eq_some_iff]
  constructor
  · rintro ⟨share, ⟨listed, its⟩, channel, found, rfl⟩
    exact ⟨share, listed, its, rfl, found, rfl, rfl⟩
  · rintro ⟨share, listed, its, same, found, depth, descends⟩
    refine ⟨share, ⟨listed, its⟩, row.channel, same ▸ found, ?_⟩
    obtain ⟨id, channel, _, _⟩ := row
    cases same
    cases depth
    cases descends
    rfl

-- A row of a round: a channel that many levels below one of the roots.
structure Reached (db : Db) (root row : TreeRow) (n : Nat) : Prop where
  found : db.channels[row.id]? = some row.channel
  above : up db.parentOf n row.id = some root.id
  depth : row.depth = n
  descends : row.includeDescendants = root.includeDescendants
  shared : 0 < n → root.includeDescendants = true
  within : n ≤ shareDepth

theorem round_reached (roots_fresh : ∀ root ∈ roots, root.depth = 0 ∧ db.channels[root.id]? = some root.channel)
    (member : row ∈ round db roots n) : ∃ root ∈ roots, Reached db root row n := by
  induction n generalizing row with
  | zero =>
    obtain ⟨depth, found⟩ := roots_fresh row member
    exact ⟨row, member, found, rfl, depth, rfl, fun later => absurd later (Nat.lt_irrefl 0), Nat.zero_le _⟩
  | succ n ih =>
    obtain ⟨t, earlier, child⟩ := List.mem_flatMap.mp member
    obtain ⟨descends, shallow, found, parent, depth, same⟩ := mem_childRows.mp child
    obtain ⟨root, among, before⟩ := ih earlier
    refine ⟨root, among, found, ?_, by rw [depth, before.depth], same.trans before.descends, fun _ => ?_, ?_⟩
    · rw [Parents.up_succ, parentOf_of_row found, parent, Option.bind_some]
      exact before.above
    · rw [← before.descends]
      exact descends
    · rw [before.depth] at shallow
      exact shallow

theorem reached_round {channel : Channel} (among : root ∈ roots)
    (fresh : root.depth = 0 ∧ db.channels[root.id]? = some root.channel) (found : db.channels[id]? = some channel)
    (above : up db.parentOf n id = some root.id) (shared : 0 < n → root.includeDescendants = true)
    (within : n ≤ shareDepth) : ∃ row ∈ round db roots n, row.id = id ∧ Reached db root row n := by
  induction n generalizing id channel with
  | zero =>
    cases above
    exact ⟨root, among, rfl, fresh.2, rfl, fresh.1, rfl, shared, within⟩
  | succ n ih =>
    rw [Parents.up_succ] at above
    obtain ⟨p, parent, rest⟩ := Option.bind_eq_some_iff.mp above
    have listed : ∃ up, db.channels[p]? = some up := by
      cases n with
      | zero =>
        cases rest
        exact ⟨_, fresh.2⟩
      | succ n =>
        rw [Parents.up_succ] at rest
        obtain ⟨q, further, _⟩ := Option.bind_eq_some_iff.mp rest
        rw [Db.parentOf] at further
        obtain ⟨channel, found, _⟩ := Option.bind_eq_some_iff.mp further
        exact ⟨channel, found⟩
    obtain ⟨parentRow, listed⟩ := listed
    obtain ⟨t, earlier, same, before⟩ := ih listed rest (fun _ => shared (Nat.succ_pos n)) (by omega)
    have child : ({ id := id, channel := channel, depth := t.depth + 1
                    includeDescendants := t.includeDescendants } : TreeRow) ∈ childRows db t := by
      refine mem_childRows.mpr ⟨?_, ?_, found, ?_, rfl, rfl⟩
      · rw [before.descends]
        exact shared (Nat.succ_pos n)
      · rw [before.depth]
        omega
      · rw [same, ← parentOf_of_row found]
        exact parent
    refine ⟨_, List.mem_flatMap.mpr ⟨t, earlier, child⟩, rfl, found, ?_, ?_, before.descends, shared, within⟩
    · rw [Parents.up_succ, parent, Option.bind_some]
      exact rest
    · show t.depth + 1 = n + 1
      rw [before.depth]

theorem mem_distinctOn_ids : id ∈ (distinctOn rows).map (·.id) ↔ id ∈ rows.map (·.id) := by
  induction rows with
  | nil => rfl
  | cons row rest ih =>
    rw [distinctOn, List.map_cons, List.map_cons, List.mem_cons, List.mem_cons, ← ih]
    by_cases same : id = row.id
    · simp [same]
    · simp only [same, false_or, List.mem_map, List.mem_filter, decide_eq_true_eq]
      constructor
      · rintro ⟨kept, ⟨inside, _⟩, rfl⟩
        exact ⟨kept, inside, rfl⟩
      · rintro ⟨kept, inside, rfl⟩
        exact ⟨kept, ⟨inside, same⟩, rfl⟩

theorem distinctOn_nodup (rows : List TreeRow) : ((distinctOn rows).map (·.id)).Nodup := by
  induction rows with
  | nil => exact List.nodup_nil
  | cons row rest ih =>
    rw [distinctOn, List.map_cons, List.nodup_cons]
    constructor
    · rw [List.mem_map]
      rintro ⟨kept, inside, same⟩
      exact of_decide_eq_true (List.mem_filter.mp inside).2 same
    · exact ih.sublist (List.filter_sublist.map _)

theorem distinctOn_sublist (rows : List TreeRow) : (distinctOn rows).Sublist rows := by
  induction rows with
  | nil => exact List.Sublist.refl _
  | cons row rest ih => exact (List.filter_sublist.trans ih).cons_cons row

theorem effective_ids (ranking : Ranking) : ((effectiveSharedChannels db ranking shares allianceId).map (·.id)).Perm
    ((distinctOn ((sharedTree db (sharedRoots db shares allianceId)).mergeSort byIdAndDepth)).map (·.id)) := by
  rw [effectiveSharedChannels, List.map_map]
  exact (ranking.perm _).map _

theorem roots_fresh : ∀ root ∈ sharedRoots db shares allianceId,
    root.depth = 0 ∧ db.channels[root.id]? = some root.channel := by
  intro root member
  obtain ⟨_, _, _, _, found, depth, _⟩ := mem_sharedRoots.mp member
  exact ⟨depth, found⟩

theorem mem_sharedTree : row ∈ sharedTree db roots ↔ ∃ n ≤ shareDepth, row ∈ round db roots n := by
  simp only [sharedTree, List.mem_flatMap, List.mem_range, Nat.lt_succ_iff]

theorem mem_effective (ranking : Ranking) :
    id ∈ (effectiveSharedChannels db ranking shares allianceId).map (·.id) ↔
      id ∈ db.channels ∧ SharedWithin db shareDepth shares allianceId id := by
  rw [(effective_ids ranking).mem_iff, mem_distinctOn_ids, ((List.mergeSort_perm _ _).map _).mem_iff, List.mem_map]
  constructor
  · rintro ⟨row, member, rfl⟩
    obtain ⟨n, _, there⟩ := mem_sharedTree.mp member
    obtain ⟨root, among, reached⟩ := round_reached roots_fresh there
    obtain ⟨share, listed, its, same, found, _, descends⟩ := mem_sharedRoots.mp among
    refine ⟨ExtTreeMap.mem_iff_isSome_getElem?.mpr (by rw [reached.found]; rfl), share, listed, its, ?_, ?_⟩
    · rw [← same]
      exact ExtTreeMap.mem_iff_isSome_getElem?.mpr (by rw [found]; rfl)
    · cases n with
      | zero => exact .inl ((Option.some.inj reached.above).trans same)
      | succ n =>
        refine .inr ⟨descends ▸ reached.shared (Nat.succ_pos n), n + 1, reached.within, ?_⟩
        rw [← same]
        exact reached.above
  · rintro ⟨present, share, listed, its, rooted, linked⟩
    obtain ⟨channel, found⟩ := Option.isSome_iff_exists.mp (ExtTreeMap.mem_iff_isSome_getElem?.mp present)
    obtain ⟨top, foundTop⟩ := Option.isSome_iff_exists.mp (ExtTreeMap.mem_iff_isSome_getElem?.mp rooted)
    let root : TreeRow :=
      { id := share.channelId, channel := top, depth := 0, includeDescendants := share.includeDescendants }
    have among : root ∈ sharedRoots db shares allianceId :=
      mem_sharedRoots.mpr ⟨share, listed, its, rfl, foundTop, rfl, rfl⟩
    have below (n : Nat) (above : up db.parentOf n id = some share.channelId)
        (shared : 0 < n → share.includeDescendants = true) (within : n ≤ shareDepth) :
        ∃ row, row ∈ sharedTree db (sharedRoots db shares allianceId) ∧ row.id = id := by
      obtain ⟨row, member, same, _⟩ := reached_round among ⟨rfl, foundTop⟩ found above shared within
      exact ⟨row, mem_sharedTree.mpr ⟨n, within, member⟩, same⟩
    cases linked with
    | inl same => exact below 0 (congrArg some same) (fun later => absurd later (Nat.lt_irrefl 0)) (Nat.zero_le _)
    | inr descends =>
      obtain ⟨includes, levels, within, above⟩ := descends
      exact below levels above (fun _ => includes) within

/-- The rows are those of their channels, and a parent that is not shared is left out. -/
theorem effective_row (ranking : Ranking) {row : EffectiveChannelRow}
    (member : row ∈ effectiveSharedChannels db ranking shares allianceId) :
    ∃ channel, db.channels[row.id]? = some channel ∧ row.name = channel.name ∧ row.channelType = channel.channelType ∧
      row.isCategory = channel.isCategory ∧ row.parentId = channel.parentId.filter fun parentId =>
        parentId ∈ (effectiveSharedChannels db ranking shares allianceId).map (·.id) := by
  have ids : (effectiveSharedChannels db ranking shares allianceId).map (·.id) = (ranking.sort
      (distinctOn ((sharedTree db (sharedRoots db shares allianceId)).mergeSort byIdAndDepth))).map (·.id) := by
    rw [effectiveSharedChannels, List.map_map]
    rfl
  rw [ids]
  obtain ⟨tree, inside, rfl⟩ := List.mem_map.mp member
  have listed := (List.mergeSort_perm _ _).mem_iff.mp
    ((distinctOn_sublist _).subset ((ranking.perm _).mem_iff.mp inside))
  obtain ⟨n, _, there⟩ := mem_sharedTree.mp listed
  obtain ⟨_, _, reached⟩ := round_reached roots_fresh there
  exact ⟨tree.channel, reached.found, rfl, rfl, rfl, rfl⟩

theorem mem_climb {parent : String → Option String} {hops : Nat} {start ancestor : String} :
    ancestor ∈ climb parent hops start ↔ ∃ levels < hops, up parent (levels + 1) start = some ancestor := by
  induction hops generalizing start with
  | zero => simp [climb]
  | succ hops ih =>
    simp only [climb, Parents.up_succ]
    cases parent start with
    | none => simp
    | some p =>
      simp only [List.mem_cons, ih, Option.bind_some]
      constructor
      · rintro (rfl | ⟨levels, within, above⟩)
        · exact ⟨0, Nat.succ_pos hops, rfl⟩
        · exact ⟨levels + 1, Nat.succ_lt_succ within, by rw [Parents.up_succ]; exact above⟩
      · rintro ⟨levels, within, above⟩
        cases levels with
        | zero => exact .inl (Option.some.inj above).symm
        | succ levels => exact .inr ⟨levels, Nat.lt_of_succ_lt_succ within, above⟩

-- What the message routes ask of one channel is membership in the list.
theorem effective_gate (s : Chat.State) (ranking : Ranking) (rooted : ∀ share ∈ s.shares,
    share.channelId ∈ s.db.channels)
    (allianceId id : String) : (Chat.effectiveSharedChannel s allianceId id).isSome = true ↔
      id ∈ (effectiveSharedChannels s.db ranking s.shares allianceId).map (·.id) := by
  rw [mem_effective, Chat.effectiveSharedChannel, ExtTreeMap.mem_iff_isSome_getElem?]
  cases s.db.channels[id]? with
  | none => simp
  | some channel =>
    simp only [Option.filter_some, Option.isSome_some, true_and, SharedWithin]
    split
    next shared =>
      refine iff_of_true rfl ?_
      obtain ⟨share, listed, both⟩ := List.any_eq_true.mp shared
      simp only [Bool.and_eq_true, Bool.or_eq_true, decide_eq_true_eq, mem_climb] at both
      obtain ⟨its, named | ⟨includes, levels, within, above⟩⟩ := both
      · exact ⟨share, listed, its, rooted share listed, .inl named.symm⟩
      · exact ⟨share, listed, its, rooted share listed, .inr ⟨includes, levels + 1, within, above⟩⟩
    next apart =>
      refine iff_of_false Bool.false_ne_true ?_
      rintro ⟨share, listed, its, _, linked⟩
      refine apart (List.any_eq_true.mpr ⟨share, listed, ?_⟩)
      simp only [Bool.and_eq_true, Bool.or_eq_true, decide_eq_true_eq, mem_climb]
      obtain same | ⟨includes, levels, within, above⟩ := linked
      · exact ⟨its, .inl same.symm⟩
      · cases levels with
        | zero => exact ⟨its, .inl (Option.some.inj above).symm⟩
        | succ levels => exact ⟨its, .inr ⟨includes, levels, within, above⟩⟩

/--
An alliance sees what is shared with it by name, and up to 32 levels below what is shared with its
descendants; each channel once, and no other.
-/
theorem effective_exact (db : Db) (ranking : Ranking) (shares : List Share) (allianceId : String) :
    ((effectiveSharedChannels db ranking shares allianceId).map (·.id)).Nodup ∧
      ∀ id, id ∈ (effectiveSharedChannels db ranking shares allianceId).map (·.id) ↔
        id ∈ db.channels ∧ SharedWithin db 32 shares allianceId id :=
  ⟨(effective_ids ranking).nodup_iff.mpr (distinctOn_nodup _), fun _ => mem_effective ranking⟩

end

/-- Every channel that is shared by name or has an ancestor that is. -/
def SharesSubtrees (db : Db) (ranking : Ranking) (shares : List Share) (allianceId : String) : Prop :=
  ((effectiveSharedChannels db ranking shares allianceId).map (·.id)).Nodup ∧
    ∀ id, id ∈ (effectiveSharedChannels db ranking shares allianceId).map (·.id) ↔
      id ∈ db.channels ∧ ∃ share ∈ shares, share.allianceId = allianceId ∧
        (id = share.channelId ∨ Above db.parentOf id share.channelId)

def shallower (a b : TreeRow) : Bool :=
  decide (a.depth < b.depth ∨ a.depth = b.depth ∧ a.channel.displayOrder ≤ b.channel.displayOrder)

def stable : Ranking where
  sort rows := rows.mergeSort shallower
  perm rows := List.mergeSort_perm rows shallower
  sorted rows := by
    have ordered : (rows.mergeSort shallower).Pairwise fun a b => shallower a b = true := List.pairwise_mergeSort
      (fun a b c => by simp only [shallower, decide_eq_true_eq]; omega)
      (fun a b => by simp only [shallower, Bool.or_eq_true, decide_eq_true_eq]; omega) rows
    simpa only [shallower, decide_eq_true_eq] using ordered

-- 34 categories, each in the one before, on a hub that does not limit the depth.
def nested : Db := Runs.run Channels.serve { Channels.ownerHub with channels := ∅ } ((List.range 34).map Channels.nest)

-- Neither what lies below a channel shared without its descendants is seen, nor what lies 33 levels below one.
theorem subtrees_cut : ¬ SharesSubtrees nested stable [⟨"alliance", Channels.level 0, false⟩] "alliance" ∧
    ¬ SharesSubtrees nested stable [⟨"alliance", Channels.level 0, true⟩] "alliance" := by
  constructor
  · intro whole
    have listed := (whole.2 (Channels.level 1)).mpr
      ⟨by decide +kernel, _, List.mem_singleton.mpr rfl, rfl, .inr ⟨0, by decide +kernel⟩⟩
    obtain ⟨_, share, among, _, _, linked⟩ := (mem_effective stable).mp listed
    cases List.mem_singleton.mp among
    cases linked with
    | inl same => exact absurd same (by decide)
    | inr descends => cases descends.1
  · intro whole
    have listed := (whole.2 (Channels.level 33)).mpr
      ⟨by decide +kernel, _, List.mem_singleton.mpr rfl, rfl, .inr ⟨32, by decide +kernel⟩⟩
    obtain ⟨_, share, among, _, _, linked⟩ := (mem_effective stable).mp listed
    cases List.mem_singleton.mp among
    have apart : Channels.level 0 ∉ climb nested.parentOf shareDepth (Channels.level 33) := by decide +kernel
    cases linked with
    | inl same => exact absurd same (by decide)
    | inr descends =>
      obtain ⟨_, levels, within, above⟩ := descends
      cases levels with
      | zero => exact absurd (Option.some.inj above) (by decide)
      | succ levels => exact apart (mem_climb.mpr ⟨levels, within, above⟩)

end Wavvon.Alliances
