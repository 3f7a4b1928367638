import Mathlib.Data.Finset.Image
import Wavvon.Hub.Database

set_option autoImplicit false

namespace Wavvon

open Std (ExtTreeMap)

def MESSAGES_READ : String := "messages.read"
def VOICE_JOIN : String := "voice.join"
def VOICE_MOVE_MEMBERS : String := "voice.move_members"
def VOICE_SCREEN_SHARE : String := "voice.screen_share"

def BUILTIN_OWNER_ROLE_ID : String := "builtin-owner"
def BUILTIN_EVERYONE_ROLE_ID : String := "builtin-everyone"

structure RoleRow where
  id : String
  name : String
  priority : Int
  createdAt : Int
  deriving DecidableEq, Repr

structure UserPermissions where
  roles : List RoleRow
  effective : Finset String
  maxPriority : Int
  isOwner : Bool

def UserPermissions.has (perms : UserPermissions) (permission : String) : Bool :=
  perms.isOwner || decide (permission ∈ perms.effective)

-- The `member_roles` view: explicit grants, plus the everyone floor of a member.
def memberRole (db : Db) (publicKey roleId : String) : Bool :=
  decide ((publicKey, roleId) ∈ db.userRoles) ||
    (roleId == BUILTIN_EVERYONE_ROLE_ID && (db.users[publicKey]?.any (·.isMember)))

def fetchPermissions (db : Db) (roleIds : List String) : Finset String :=
  (db.rolePermissions.filter (fun row => row.1 ∈ roleIds)).image Prod.snd

def userPermissions (db : Db) (publicKey : String) : UserPermissions :=
  let roles := (db.roles.toList.filter fun row => memberRole db publicKey row.1).map fun row =>
    { id := row.1, name := row.2.name, priority := row.2.priority, createdAt := row.2.createdAt }
  { roles := roles
    effective := fetchPermissions db (roles.map (·.id))
    maxPriority := (roles.map (·.priority)).max?.getD 0
    isOwner := roles.any (·.id == BUILTIN_OWNER_ROLE_ID) }

def climb (parent : String → Option String) : Nat → String → List String
  | 0, _ => []
  | hops + 1, current =>
    match parent current with
    | none => []
    | some p => p :: climb parent hops p

def chainCap : Nat := 64

def ancestorChain (db : Db) (channelId : String) : List String :=
  (channelId :: climb db.parentOf chainCap channelId).reverse

def ancestorChainFromMap (parentOf : Table (Option String)) (channelId : String) : List String :=
  (channelId :: climb (fun id => parentOf[id]?.join) chainCap channelId).reverse

def fetchOverwrites (db : Db) (channelIds roleIds : List String) : List OverwriteRow :=
  if channelIds.isEmpty || roleIds.isEmpty then []
  else db.overwrites.filter fun row => row.channelId ∈ channelIds ∧ row.roleId ∈ roleIds

def foldLevel (rows : List OverwriteRow) (effective : Finset String) (channelId : String) :
    Finset String :=
  let here := rows.filter (·.channelId == channelId)
  let allow := ((here.filter (·.allow)).map (·.permission)).toFinset
  let deny := ((here.filter (!·.allow)).map (·.permission)).toFinset
  (effective \ (deny \ allow)) ∪ allow

def foldOverwrites (baseline : Finset String) (chain : List String) (rows : List OverwriteRow) :
    Finset String :=
  chain.foldl (foldLevel rows) baseline

def bannedChannels (db : Db) (publicKey : String) : Finset String :=
  (db.channelBans.filter (fun ban => ban.2 = publicKey)).image Prod.fst

def channelPermissions (db : Db) (publicKey channelId : String) : UserPermissions :=
  let baseline := userPermissions db publicKey
  if !baseline.isOwner && decide (channelId ∈ bannedChannels db publicKey) then
    { baseline with effective := ∅ }
  else if baseline.roles.isEmpty then baseline
  else
    let chain := ancestorChain db channelId
    let rows := fetchOverwrites db chain (baseline.roles.map (·.id))
    { baseline with effective := foldOverwrites baseline.effective chain rows }

def channelsWithPermission (db : Db) (publicKey permission : String) : Finset String :=
  let baseline := userPermissions db publicKey
  let all := db.channels.toList.map fun row => (row.1, row.2.parentId)
  let allIds := all.map Prod.fst
  if baseline.isOwner then allIds.toFinset
  else
    let banned := bannedChannels db publicKey
    if baseline.roles.isEmpty then
      (allIds.filter fun id => permission ∈ baseline.effective ∧ id ∉ banned).toFinset
    else
      let parentOf : Table (Option String) := ExtTreeMap.ofList all
      let rows := fetchOverwrites db allIds (baseline.roles.map (·.id))
      (allIds.filter fun id =>
        if id ∈ banned then false
        else decide (permission ∈
          foldOverwrites baseline.effective (ancestorChainFromMap parentOf id) rows)).toFinset

theorem climb_congr {first second : String → Option String}
    (same : ∀ id, first id = second id) (hops : Nat) (current : String) :
    climb first hops current = climb second hops current := by
  induction hops generalizing current with
  | zero => rfl
  | succ hops ih =>
    simp only [climb, same]
    cases second current with
    | none => rfl
    | some p => simp [ih]

theorem parentOf_ofList (db : Db) (id : String) :
    ((ExtTreeMap.ofList (db.channels.toList.map fun row => (row.1, row.2.parentId)) :
      Table (Option String))[id]?).join = db.parentOf id := by
  let all := db.channels.toList.map fun row => (row.1, row.2.parentId)
  have distinct : all.Pairwise (fun a b => ¬ compare a.1 b.1 = .eq) := by
    simpa [all, List.pairwise_map] using ExtTreeMap.distinct_keys_toList (t := db.channels)
  cases found : db.channels[id]? with
  | none =>
    have outside : id ∉ db.channels := by grind
    have absent : (all.map Prod.fst).contains id = false := by
      simpa [all, List.map_map, Function.comp_def, ExtTreeMap.map_fst_toList_eq_keys] using outside
    rw [ExtTreeMap.getElem?_ofList_of_contains_eq_false absent]
    simp [Db.parentOf, found]
  | some row =>
    have member : (id, row.parentId) ∈ all :=
      List.mem_map.mpr ⟨(id, row), ExtTreeMap.mem_toList_iff_getElem?_eq_some.mpr found, rfl⟩
    rw [ExtTreeMap.getElem?_ofList_of_mem Std.ReflCmp.compare_self distinct member]
    simp [Db.parentOf, found]

theorem ancestorChainFromMap_eq (db : Db) (channelId : String) :
    ancestorChainFromMap
        (ExtTreeMap.ofList (db.channels.toList.map fun row => (row.1, row.2.parentId))) channelId =
      ancestorChain db channelId := by
  simp only [ancestorChainFromMap, ancestorChain, climb_congr (parentOf_ofList db)]

-- A level of the fold reads only the rows of its own channel.
theorem foldOverwrites_congr (baseline : Finset String) (chain : List String)
    (first second : List OverwriteRow)
    (same : ∀ c ∈ chain,
      first.filter (·.channelId == c) = second.filter (·.channelId == c)) :
    foldOverwrites baseline chain first = foldOverwrites baseline chain second := by
  unfold foldOverwrites
  induction chain generalizing baseline with
  | nil => rfl
  | cons c rest ih =>
    have level : foldLevel first baseline c = foldLevel second baseline c := by
      simp only [foldLevel, same c List.mem_cons_self]
    simp only [List.foldl_cons, level]
    exact ih _ fun d member => same d (List.mem_cons_of_mem _ member)

theorem fetchOverwrites_level (db : Db) (channelIds roleIds : List String) (c : String)
    (reaches : ∀ row ∈ db.overwrites, row.channelId = c → c ∈ channelIds) :
    (fetchOverwrites db channelIds roleIds).filter (·.channelId == c) =
      db.overwrites.filter fun row => row.channelId = c ∧ row.roleId ∈ roleIds := by
  by_cases skipped : channelIds.isEmpty || roleIds.isEmpty
  · simp only [fetchOverwrites, skipped, if_true, List.filter_nil]
    symm
    simp only [List.filter_eq_nil_iff, decide_eq_true_eq, not_and]
    intro row member here
    have listed := reaches row member here
    simp only [Bool.or_eq_true, List.isEmpty_iff] at skipped
    rcases skipped with none | none <;> simp_all
  · simp only [fetchOverwrites, skipped, Bool.false_eq_true, if_false, List.filter_filter]
    apply List.filter_congr
    intro row member
    by_cases here : row.channelId = c
    · simp [here, reaches row member here]
    · simp [here]

theorem foldOverwrites_batch (db : Db)
    (referenced : ∀ row ∈ db.overwrites, row.channelId ∈ db.channels)
    (baseline : Finset String) (chain roleIds : List String) :
    foldOverwrites baseline chain (fetchOverwrites db db.channels.keys roleIds) =
      foldOverwrites baseline chain (fetchOverwrites db chain roleIds) := by
  apply foldOverwrites_congr
  intro c onChain
  rw [fetchOverwrites_level db db.channels.keys roleIds c
      (fun row member here => ExtTreeMap.mem_keys.mpr (here ▸ referenced row member)),
    fetchOverwrites_level db chain roleIds c (fun _ _ _ => onChain)]

theorem all_ids (db : Db) :
    (db.channels.toList.map fun row => (row.1, row.2.parentId)).map Prod.fst = db.channels.keys := by
  simp [List.map_map, Function.comp_def, ExtTreeMap.map_fst_toList_eq_keys]

-- The batch of all channels decides each as a single resolution does.
theorem mem_channelsWithPermission {db : Db} (referenced : ∀ row ∈ db.overwrites, row.channelId ∈ db.channels)
    {publicKey permission c : String} :
    c ∈ channelsWithPermission db publicKey permission ↔
      c ∈ db.channels.keys ∧ (channelPermissions db publicKey c).has permission = true := by
  simp only [channelsWithPermission, channelPermissions, all_ids, ancestorChainFromMap_eq,
    foldOverwrites_batch db referenced]
  by_cases owner : (userPermissions db publicKey).isOwner
  · by_cases rootless : (userPermissions db publicKey).roles.isEmpty <;>
      simp [owner, rootless, UserPermissions.has]
  · by_cases banned : c ∈ bannedChannels db publicKey <;>
      by_cases rootless : (userPermissions db publicKey).roles.isEmpty <;>
      simp [owner, banned, rootless, UserPermissions.has]

theorem channelsWithPermission_correct (db : Db)
    (referenced : ∀ row ∈ db.overwrites, row.channelId ∈ db.channels)
    (publicKey permission : String) :
    channelsWithPermission db publicKey permission =
      db.channels.keys.toFinset.filter fun c =>
        (channelPermissions db publicKey c).has permission := by
  ext c
  rw [mem_channelsWithPermission referenced, Finset.mem_filter, List.mem_toFinset]

def lobbyDb : Db :=
  { users := (∅ : Table User).insert "ann" { isMember := true }
    roles := (∅ : Table Role).insert "builtin-everyone" { name := "everyone" }
    rolePermissions := {("builtin-everyone", "messages.read")}
    channels := ((∅ : Table Channel).insert
        "area" { name := "area", createdBy := "ann", isCategory := true }).insert
        "lobby" { name := "lobby", createdBy := "ann", parentId := some "area" }
    overwrites := [⟨"area", "builtin-everyone", "messages.read", false⟩,
      ⟨"lobby", "builtin-everyone", "messages.read", true⟩] }

theorem channelsWithPermission_correct_lobby :
    channelsWithPermission lobbyDb "ann" MESSAGES_READ = {"lobby"} ∧
      {"lobby"} = lobbyDb.channels.keys.toFinset.filter fun c =>
        (channelPermissions lobbyDb "ann" c).has MESSAGES_READ := by
  have agree := channelsWithPermission_correct lobbyDb (by decide) "ann" MESSAGES_READ
  have batch : channelsWithPermission lobbyDb "ann" MESSAGES_READ = {"lobby"} := by decide
  exact ⟨batch, batch ▸ agree⟩

end Wavvon
