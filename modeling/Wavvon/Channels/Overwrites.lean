import Wavvon.Hub.Permissions
import Wavvon.Roles.Handlers
import Wavvon.Shared.Checks
import Wavvon.Shared.Parents

set_option autoImplicit false

namespace Wavvon.Overwrites

open Cascades (Ruling outcome outcome_last)

-- The rows of a channel, sorted into what they allow and what they deny.
def gather (rows : List OverwriteRow) (channelId : String) : Finset String × Finset String :=
  (rows.filter (·.channelId == channelId)).foldl
    (fun sets row =>
      if row.allow then (insert row.permission sets.1, sets.2) else (sets.1, insert row.permission sets.2))
    (∅, ∅)

-- The two sets are gone through in whatever order they list what is in them.
def applyLevel (effective : Finset String) (allow deny : List String) : Finset String :=
  let left := deny.foldl (fun effective perm => if perm ∈ allow then effective else effective.erase perm) effective
  allow.foldl (fun effective perm => insert perm effective) left

def rowsRuling (rows : List OverwriteRow) (permission : String) : Ruling String where
  allows level := ∃ row ∈ rows, row.channelId = level ∧ row.permission = permission ∧ row.allow = true
  denies level := ∃ row ∈ rows, row.channelId = level ∧ row.permission = permission ∧ row.allow = false

-- Whether some row of the channel is about the permission.
def mentions (rows : List OverwriteRow) (permission channelId : String) : Bool :=
  rows.any fun row => row.channelId == channelId && row.permission == permission

section

variable {rows : List OverwriteRow} {permission : String}

theorem mem_foldLevel (rows : List OverwriteRow) (start : Finset String) (level : String) :
    permission ∈ foldLevel rows start level ↔
      Cascades.decide (rowsRuling rows permission) (permission ∈ start) level := by
  simp only [foldLevel, Cascades.decide, rowsRuling, Finset.mem_union, Finset.mem_sdiff, List.mem_toFinset,
    List.mem_map, List.mem_filter, beq_iff_eq, Bool.not_eq_true']
  grind

theorem mem_gather (level : String) :
    (permission ∈ (gather rows level).1 ↔ (rowsRuling rows permission).allows level) ∧
      (permission ∈ (gather rows level).2 ↔ (rowsRuling rows permission).denies level) := by
  have gathered : ∀ (here : List OverwriteRow) (sets : Finset String × Finset String),
      let after := here.foldl (fun sets row => if row.allow then (insert row.permission sets.1, sets.2)
        else (sets.1, insert row.permission sets.2)) sets
      (permission ∈ after.1 ↔ permission ∈ sets.1 ∨ ∃ row ∈ here, row.permission = permission ∧ row.allow = true) ∧
        (permission ∈ after.2 ↔
          permission ∈ sets.2 ∨ ∃ row ∈ here, row.permission = permission ∧ row.allow = false) := by
    intro here
    induction here with
    | nil => simp
    | cons row rest ih =>
      intro sets
      rw [List.foldl_cons]
      refine ⟨(ih _).1.trans ?_, (ih _).2.trans ?_⟩
      · cases allowed : row.allow <;> grind
      · cases allowed : row.allow <;> grind
  have all := gathered (rows.filter (·.channelId == level)) (∅, ∅)
  refine ⟨all.1.trans ?_, all.2.trans ?_⟩
  · simp [rowsRuling, and_assoc]
  · simp [rowsRuling, and_assoc]

theorem mem_applyLevel (effective : Finset String) (allow deny : List String) :
    permission ∈ applyLevel effective allow deny ↔
      permission ∈ allow ∨ permission ∈ effective ∧ permission ∉ deny := by
  have added : ∀ (perms : List String) (start : Finset String),
      permission ∈ perms.foldl (fun effective perm => insert perm effective) start ↔
        permission ∈ perms ∨ permission ∈ start := by
    intro perms
    induction perms with
    | nil => simp
    | cons perm rest ih =>
      intro start
      rw [List.foldl_cons, ih, Finset.mem_insert, List.mem_cons, or_left_comm, or_assoc]
  have removed : ∀ (perms : List String) (start : Finset String),
      permission ∈ perms.foldl (fun effective perm => if perm ∈ allow then effective else effective.erase perm) start ↔
        permission ∈ start ∧ (permission ∈ perms → permission ∈ allow) := by
    intro perms
    induction perms with
    | nil => simp
    | cons perm rest ih =>
      intro start
      rw [List.foldl_cons, ih, List.mem_cons]
      by_cases spared : perm ∈ allow
      · grind
      · grind
  rw [applyLevel, added, removed]
  grind

/-- The loops over the two sets of a level, in any order, leave what the level's rule leaves. -/
theorem applyLevel_gather {allow deny : List String} (effective : Finset String) (level : String)
    (allowed : allow.toFinset = (gather rows level).1) (denied : deny.toFinset = (gather rows level).2) :
    applyLevel effective allow deny = foldLevel rows effective level := by
  ext permission
  have allowance : permission ∈ allow ↔ (rowsRuling rows permission).allows level := by
    rw [← (mem_gather level).1, ← allowed, List.mem_toFinset]
  have denial : permission ∈ deny ↔ (rowsRuling rows permission).denies level := by
    rw [← (mem_gather level).2, ← denied, List.mem_toFinset]
  rw [mem_applyLevel, mem_foldLevel, allowance, denial]
  rfl

theorem mem_fold (baseline : Finset String) (chain : List String) :
    permission ∈ foldOverwrites baseline chain rows ↔
      outcome (rowsRuling rows permission) (permission ∈ baseline) chain := by
  induction chain generalizing baseline with
  | nil => exact Iff.rfl
  | cons level rest ih =>
    refine (ih (foldLevel rows baseline level)).trans ?_
    rw [propext (mem_foldLevel rows baseline level)]
    rfl

theorem mentions_iff (level : String) :
    mentions rows permission level = true ↔
      (rowsRuling rows permission).allows level ∨ (rowsRuling rows permission).denies level := by
  simp only [mentions, rowsRuling, List.any_eq_true, Bool.and_eq_true, beq_iff_eq]
  constructor
  · rintro ⟨row, stored, here, named⟩
    cases allowed : row.allow with
    | true => exact .inl ⟨row, stored, here, named, allowed⟩
    | false => exact .inr ⟨row, stored, here, named, allowed⟩
  · rintro (⟨row, stored, here, named, -⟩ | ⟨row, stored, here, named, -⟩)
    · exact ⟨row, stored, here, named⟩
    · exact ⟨row, stored, here, named⟩

end

/-- The deepest level with a row about the permission decides it, and a row that allows wins there. -/
theorem mem_foldOverwrites (baseline : Finset String) (chain : List String) (rows : List OverwriteRow) :
    (∀ permission, permission ∈ foldOverwrites baseline chain rows ↔
      match (chain.filter (mentions rows permission)).getLast? with
      | some level => ∃ row ∈ rows, row.channelId = level ∧ row.permission = permission ∧ row.allow = true
      | none => permission ∈ baseline) ∧
    ∀ others : List OverwriteRow, (∀ row, row ∈ others ↔ row ∈ rows) →
      foldOverwrites baseline chain others = foldOverwrites baseline chain rows := by
  constructor
  · intro permission
    rw [mem_fold, outcome_last (mentions rows permission) mentions_iff]
    cases (chain.filter (mentions rows permission)).getLast? with
    | none => exact Iff.rfl
    | some level => exact Iff.rfl
  · intro others same
    ext permission
    have ruling : rowsRuling others permission = rowsRuling rows permission := by
      simp only [rowsRuling, same]
    rw [mem_fold, mem_fold, ruling]

-- The lobby's allowance wins over its denial, and over the denial of the area around it.
theorem mem_foldOverwrites_lobby :
    (MESSAGES_READ ∈ foldOverwrites ∅ ["area", "lobby"]
        [⟨"area", "guest", MESSAGES_READ, false⟩, ⟨"lobby", "guest", MESSAGES_READ, false⟩,
          ⟨"lobby", "staff", MESSAGES_READ, true⟩]) ∧
      foldOverwrites {"voice.join"} ["area"]
          [⟨"area", "guest", "voice.join", false⟩, ⟨"area", "guest", "voice.join", false⟩] =
        foldOverwrites {"voice.join"} ["area"] [⟨"area", "guest", "voice.join", false⟩] := by
  constructor
  · exact ((mem_foldOverwrites ∅ ["area", "lobby"] _).1 MESSAGES_READ).mpr
      ⟨⟨"lobby", "staff", MESSAGES_READ, true⟩, by decide⟩
  · exact (mem_foldOverwrites {"voice.join"} ["area"] [⟨"area", "guest", "voice.join", false⟩]).2 _ (by simp)

end Wavvon.Overwrites

namespace Wavvon

open Std (ExtTreeMap)
open Cascades (Ruling outcome outcome_congr)

def CHANNELS_PERMISSIONS : String := "channels.permissions"

inductive Scope where
  | hub
  | hubAndChannel
  deriving DecidableEq, Repr

def Scope.allowsChannel (scope : Scope) : Bool := scope = .hubAndChannel

-- The entries of the catalogue with a channel dimension.
def CHANNEL_PERMISSIONS : List String :=
  ["messages.read", "messages.send", "messages.manage", "messages.masquerade", "forum.posts.create",
   "forum.posts.manage", "channels.manage", "channels.appearance", "channels.permissions", "voice.join",
   "voice.screen_share", "voice.camera", "voice.soundboard.use", "voice.move_members", "stickers.external",
   "moderation.mute", "moderation.ban.temporary", "moderation.ban.permanent", "events.create", "events.manage"]

def scopeOf (id : String) : Option Scope :=
  if id ∈ ALL_PERMISSIONS then some (if id ∈ CHANNEL_PERMISSIONS then .hubAndChannel else .hub) else none

def validateChannelOverwrite : List String → Except HttpError Unit
  | [] => .ok ()
  | p :: rest =>
    match scopeOf p with
    | none => .error (400, "unknown permission: " ++ p)
    | some scope =>
      if !scope.allowsChannel then .error (400, p ++ " is hub-wide only and cannot be a channel overwrite")
      else validateChannelOverwrite rest

namespace Overwrites

structure OverwriteSet where
  allow : List String := []
  deny : List String := []
  deriving DecidableEq, Repr

structure RolePermissionsView where
  roleId : String
  roleName : String
  overwrites : OverwriteSet
  inherited : Finset String
  effective : Finset String

def roleView (db : Db) (channelId roleId roleName : String) : RolePermissionsView :=
  let chain := ancestorChain db channelId
  let rows := fetchOverwrites db chain [roleId]
  let here := rows.filter (·.channelId = channelId)
  { roleId := roleId
    roleName := roleName
    overwrites :=
      { allow := ((here.filter (·.allow)).map (·.permission)).mergeSort (· ≤ ·)
        deny := ((here.filter (!·.allow)).map (·.permission)).mergeSort (· ≤ ·) }
    inherited := foldOverwrites (rolePermissions db roleId) chain.dropLast rows
    effective := foldOverwrites (rolePermissions db roleId) chain rows }

def requireChannelExists (db : Db) (channelId : String) : Except HttpError Unit :=
  if channelId ∈ db.channels then .ok () else .error (404, "channel not found")

def requireRole (db : Db) (roleId : String) : Except HttpError Role :=
  match db.roles[roleId]? with
  | none => .error (404, "role not found")
  | some role => .ok role

def checkPut (db : Db) (user channelId roleId : String) (req : OverwriteSet) : Except HttpError Role := do
  let perms := channelPermissions db user channelId
  perms.require CHANNELS_PERMISSIONS
  requireChannelExists db channelId
  let role ← requireRole db roleId
  if perms.maxPriority ≤ role.priority then
    .error (403, "Cannot edit permission overwrites for a role with priority >= your own")
  validateChannelOverwrite (req.allow ++ req.deny)
  match req.allow.find? (· ∈ req.deny) with
  | some p => .error (400, "permission '" ++ p ++ "' cannot be both allowed and denied")
  | none =>
    match perms.firstNotHeld req.allow with
    | some p => .error (403, "Cannot grant permission '" ++ p ++ "' you do not hold on this channel")
    | none => .ok role

def clearOverwrites (db : Db) (channelId roleId : String) : Db :=
  { db with overwrites := db.overwrites.filter fun row => ¬ (row.channelId = channelId ∧ row.roleId = roleId) }

def setOverwrites (db : Db) (channelId roleId : String) (req : OverwriteSet) : Db :=
  { db with
    overwrites := db.overwrites ++ req.allow.map (⟨channelId, roleId, ·, true⟩) ++
      req.deny.map (⟨channelId, roleId, ·, false⟩) }

-- A permission listed twice violates the primary key, and the transaction is rolled back.
def putChannelPermissions (db : Db) (user channelId roleId : String) (req : OverwriteSet) :
    Db × Except HttpError RolePermissionsView :=
  match checkPut db user channelId roleId req with
  | .error e => (db, .error e)
  | .ok role =>
    if (req.allow ++ req.deny).Nodup then
      let written := setOverwrites (clearOverwrites db channelId roleId) channelId roleId req
      (written, .ok (roleView written channelId roleId role.name))
    else (db, .error (500, "DB error: " ++ duplicateKey "channel_permission_overwrites_pkey"))

def checkDelete (db : Db) (user channelId roleId : String) : Except HttpError Unit := do
  let perms := channelPermissions db user channelId
  perms.require CHANNELS_PERMISSIONS
  requireChannelExists db channelId
  let role ← requireRole db roleId
  if perms.maxPriority ≤ role.priority then
    .error (403, "Cannot clear permission overwrites for a role with priority >= your own")
  else .ok ()

def deleteChannelPermissions (db : Db) (user channelId roleId : String) : Db × Except HttpError Unit :=
  match checkDelete db user channelId roleId with
  | .error e => (db, .error e)
  | .ok _ => (clearOverwrites db channelId roleId, .ok ())

inductive OverwriteCall where
  | put (req : OverwriteSet)
  | delete
  deriving DecidableEq, Repr

namespace OverwriteCall

-- What the call leaves of the role's rows on the channel.
def leaves : OverwriteCall → OverwriteSet
  | .put req => req
  | .delete => {}

def run (call : OverwriteCall) (db : Db) (user channelId roleId : String) : Db × Except HttpError Unit :=
  match call with
  | .put req =>
    let answered := putChannelPermissions db user channelId roleId req
    (answered.1, answered.2.map fun _ => ())
  | .delete => deleteChannelPermissions db user channelId roleId

end OverwriteCall

-- What the holders of these roles may do on a channel.
def effectiveFor (db : Db) (held : List String) (channelId : String) : Finset String :=
  let chain := ancestorChain db channelId
  foldOverwrites (fetchPermissions db held) chain (fetchOverwrites db chain held)

def withoutOverwrite (db : Db) (channelId roleId permission : String) : Db :=
  { db with overwrites := db.overwrites.filter fun row =>
      ¬ (row.channelId = channelId ∧ row.roleId = roleId ∧ row.permission = permission) }

/-- The role's deny on the channel is what keeps the permission from these holders somewhere. -/
structure Withholds (db : Db) (held : List String) (channelId roleId permission : String) : Prop where
  denied : ⟨channelId, roleId, permission, false⟩ ∈ db.overwrites
  keeps : ∃ place, permission ∉ effectiveFor db held place ∧
    permission ∈ effectiveFor (withoutOverwrite db channelId roleId permission) held place

def RanksBelow (db : Db) (roleId : String) (perms : UserPermissions) : Prop :=
  ∃ role, db.roles[roleId]? = some role ∧ role.priority < perms.maxPriority

def rulingOf (rows : List OverwriteRow) (held : List String) (permission : String) : Ruling String where
  allows level := ∃ row ∈ rows, row.roleId ∈ held ∧ row.channelId = level ∧ row.permission = permission ∧
    row.allow = true
  denies level := ∃ row ∈ rows, row.roleId ∈ held ∧ row.channelId = level ∧ row.permission = permission ∧
    row.allow = false

section

variable {db : Db} {held : List String} {channelId roleId permission : String}

theorem mem_effectiveFor (db : Db) (place : String) :
    permission ∈ effectiveFor db held place ↔
      outcome (rulingOf db.overwrites held permission) (permission ∈ fetchPermissions db held)
        (ancestorChain db place) := by
  have fetched : ∀ row, row ∈ fetchOverwrites db (ancestorChain db place) held ↔
      row ∈ db.overwrites ∧ row.channelId ∈ ancestorChain db place ∧ row.roleId ∈ held := by
    intro row
    unfold fetchOverwrites
    split
    next empty =>
      simp only [Bool.or_eq_true, List.isEmpty_iff] at empty
      rcases empty with none | none <;> simp [none]
    next => simp
  refine (mem_fold _ _).trans (outcome_congr ?_ ?_)
  · intro level inside
    simp only [rowsRuling, rulingOf, fetched]
    grind
  · intro level inside
    simp only [rowsRuling, rulingOf, fetched]
    grind

-- The view of a role is what its holders may do, and so is what a member may do with the roles they hold.
theorem roleView_effective (roleName : String) :
    (roleView db channelId roleId roleName).effective = effectiveFor db [roleId] channelId := by
  have baseline : rolePermissions db roleId = fetchPermissions db [roleId] := by
    simp [rolePermissions, fetchPermissions]
  unfold roleView effectiveFor
  rw [baseline]

theorem foldOverwrites_nil (baseline : Finset String) (chain : List String) :
    foldOverwrites baseline chain [] = baseline := by
  unfold foldOverwrites
  induction chain with
  | nil => rfl
  | cons level rest ih =>
    rw [List.foldl_cons, show foldLevel [] baseline level = baseline by simp [foldLevel]]
    exact ih

theorem channelPermissions_effective {user : String}
    (unbanned : (userPermissions db user).isOwner = true ∨ channelId ∉ bannedChannels db user) :
    (channelPermissions db user channelId).effective =
      effectiveFor db ((userPermissions db user).roles.map (·.id)) channelId := by
  unfold channelPermissions
  dsimp only
  rw [if_neg (by simpa [or_iff_not_imp_left] using unbanned)]
  split
  next rootless =>
    have none : (userPermissions db user).roles = [] := by simpa using rootless
    have effective : (userPermissions db user).effective =
        fetchPermissions db ((userPermissions db user).roles.map (·.id)) := rfl
    rw [effective, none]
    simp [effectiveFor, fetchOverwrites, foldOverwrites_nil]
  next => rfl

theorem effectiveFor_mono (db : Db) (rows after : List OverwriteRow)
    (allows : ∀ level, (rulingOf rows held permission).allows level → (rulingOf after held permission).allows level)
    (denies : ∀ level, (rulingOf after held permission).denies level → (rulingOf rows held permission).denies level)
    {place : String} (effective : permission ∈ effectiveFor { db with overwrites := rows } held place) :
    permission ∈ effectiveFor { db with overwrites := after } held place := by
  have before := (mem_effectiveFor { db with overwrites := rows } place).mp effective
  refine (mem_effectiveFor { db with overwrites := after } place).mpr ?_
  exact Cascades.outcome_mono (fun level _ => allows level) (fun level _ => denies level) id before

section

variable (left : OverwriteSet)

def rewritten (db : Db) (channelId roleId : String) (left : OverwriteSet) : Db :=
  setOverwrites (clearOverwrites db channelId roleId) channelId roleId left

theorem mem_rewritten (row : OverwriteRow) :
    row ∈ (rewritten db channelId roleId left).overwrites ↔
      row ∈ db.overwrites ∧ ¬ (row.channelId = channelId ∧ row.roleId = roleId) ∨
        row.channelId = channelId ∧ row.roleId = roleId ∧
          (row.permission ∈ left.allow ∧ row.allow = true ∨ row.permission ∈ left.deny ∧ row.allow = false) := by
  obtain ⟨channel, role, p, allow⟩ := row
  simp only [rewritten, setOverwrites, clearOverwrites, List.mem_append, List.mem_filter, List.mem_map,
    OverwriteRow.mk.injEq, decide_eq_true_eq]
  grind

-- A permission the call denies is nowhere more effective than before.
theorem denied_effective {left : OverwriteSet} (unallowed : permission ∉ left.allow) (denied : permission ∈ left.deny)
    {place : String} (effective : permission ∈ effectiveFor (rewritten db channelId roleId left) held place) :
    permission ∈ effectiveFor db held place := by
  refine effectiveFor_mono db (rewritten db channelId roleId left).overwrites _ ?_ ?_ effective
  · rintro level ⟨row, inside, found⟩
    rw [mem_rewritten] at inside
    grind [rulingOf]
  · rintro level ⟨row, inside, held, there, about, denies⟩
    by_cases here : row.channelId = channelId ∧ row.roleId = roleId
    · refine ⟨row, (mem_rewritten left row).mpr (.inr ?_), held, there, about, denies⟩
      exact ⟨here.1, here.2, .inr ⟨about ▸ denied, denies⟩⟩
    · exact ⟨row, (mem_rewritten left row).mpr (.inl ⟨inside, here⟩), held, there, about, denies⟩

-- One the call does not name is as effective as without the role's row for it.
theorem unnamed_effective {left : OverwriteSet} (unallowed : permission ∉ left.allow)
    (undenied : permission ∉ left.deny) (place : String) :
    permission ∈ effectiveFor (rewritten db channelId roleId left) held place ↔
      permission ∈ effectiveFor (withoutOverwrite db channelId roleId permission) held place := by
  have rows : ∀ row : OverwriteRow, row.permission = permission →
      (row ∈ (rewritten db channelId roleId left).overwrites ↔
        row ∈ (withoutOverwrite db channelId roleId permission).overwrites) := by
    intro row about
    rw [mem_rewritten]
    simp only [withoutOverwrite, List.mem_filter, decide_eq_true_eq]
    grind
  constructor
  · refine effectiveFor_mono db (rewritten db channelId roleId left).overwrites _ ?_ ?_
    · rintro level ⟨row, inside, held, there, about, allows⟩
      exact ⟨row, (rows row about).mp inside, held, there, about, allows⟩
    · rintro level ⟨row, inside, held, there, about, denies⟩
      exact ⟨row, (rows row about).mpr inside, held, there, about, denies⟩
  · refine effectiveFor_mono db _ (rewritten db channelId roleId left).overwrites ?_ ?_
    · rintro level ⟨row, inside, held, there, about, allows⟩
      exact ⟨row, (rows row about).mpr inside, held, there, about, allows⟩
    · rintro level ⟨row, inside, held, there, about, denies⟩
      exact ⟨row, (rows row about).mp inside, held, there, about, denies⟩

-- Taking a row away that denies nothing gives nothing.
theorem undenied_effective (undenied : ⟨channelId, roleId, permission, false⟩ ∉ db.overwrites) {place : String}
    (effective : permission ∈ effectiveFor (withoutOverwrite db channelId roleId permission) held place) :
    permission ∈ effectiveFor db held place := by
  refine effectiveFor_mono db _ db.overwrites ?_ ?_ effective
  · rintro level ⟨row, inside, found⟩
    exact ⟨row, (List.mem_filter.mp inside).1, found⟩
  · rintro level ⟨row, inside, held, there, about, denies⟩
    refine ⟨row, List.mem_filter.mpr ⟨inside, ?_⟩, held, there, about, denies⟩
    simp only [decide_eq_true_eq]
    rintro ⟨rfl, rfl, rfl⟩
    obtain ⟨channel, role, p, allow⟩ := row
    dsimp only at denies undenied
    subst denies
    exact undenied inside

-- Who does not hold the role is not concerned.
theorem unheld_effective (unheld : roleId ∉ held) {place : String}
    (effective : permission ∈ effectiveFor (rewritten db channelId roleId left) held place) :
    permission ∈ effectiveFor db held place := by
  refine effectiveFor_mono db (rewritten db channelId roleId left).overwrites _ ?_ ?_ effective
  · rintro level ⟨row, inside, holds, found⟩
    rw [mem_rewritten] at inside
    grind [rulingOf]
  · rintro level ⟨row, inside, holds, found⟩
    refine ⟨row, (mem_rewritten left row).mpr (.inl ⟨inside, ?_⟩), holds, found⟩
    rintro ⟨_, rfl⟩
    exact unheld holds

end

section

variable {user : String} {call : OverwriteCall}

theorem requireRole_ok {role : Role} (found : requireRole db roleId = .ok role) : db.roles[roleId]? = some role := by
  unfold requireRole at found
  split at found
  next => cases found
  next row present =>
    cases found
    exact present

-- A role the caller outranks, and nothing allowed that the caller does not hold.
theorem checkPut_ok {req : OverwriteSet} {role : Role} (passed : checkPut db user channelId roleId req = .ok role) :
    RanksBelow db roleId (channelPermissions db user channelId) ∧
      (∀ p ∈ req.allow, p ∉ req.deny) ∧ ∀ p ∈ req.allow, (channelPermissions db user channelId).has p = true := by
  unfold checkPut at passed
  dsimp only at passed
  obtain ⟨_, _, passed⟩ := Checks.bind_ok passed
  obtain ⟨_, _, passed⟩ := Checks.bind_ok passed
  obtain ⟨found, role, passed⟩ := Checks.bind_ok passed
  have present := requireRole_ok role
  split at passed
  next => cases passed
  next outranks =>
    obtain ⟨_, _, passed⟩ := Checks.bind_ok passed
    split at passed
    next => cases passed
    next apart =>
      split at passed
      next => cases passed
      next holds =>
        refine ⟨⟨found, present, not_le.mp outranks⟩, ?_, ?_⟩
        · simpa using apart
        · simpa [UserPermissions.firstNotHeld] using holds

theorem checkDelete_ok (passed : checkDelete db user channelId roleId = .ok ()) :
    RanksBelow db roleId (channelPermissions db user channelId) := by
  unfold checkDelete at passed
  dsimp only at passed
  obtain ⟨_, _, passed⟩ := Checks.bind_ok passed
  obtain ⟨_, _, passed⟩ := Checks.bind_ok passed
  obtain ⟨found, role, passed⟩ := Checks.bind_ok passed
  obtain ⟨outranks, _⟩ := Checks.refuse_ok passed
  exact ⟨found, requireRole_ok role, not_le.mp outranks⟩

theorem rewritten_nothing : rewritten db channelId roleId {} = clearOverwrites db channelId roleId := by
  simp [rewritten, setOverwrites]

/-- What a call that succeeds has checked, and what it writes. -/
theorem run_ok (succeeds : (call.run db user channelId roleId).2 = .ok ()) :
    (call.run db user channelId roleId).1 = rewritten db channelId roleId call.leaves ∧
      RanksBelow db roleId (channelPermissions db user channelId) ∧
      (∀ p ∈ call.leaves.allow, p ∉ call.leaves.deny) ∧
      ∀ p ∈ call.leaves.allow, (channelPermissions db user channelId).has p = true := by
  cases call with
  | put req =>
    simp only [OverwriteCall.run, putChannelPermissions] at succeeds ⊢
    cases passed : checkPut db user channelId roleId req with
    | error e =>
      rw [passed] at succeeds
      cases succeeds
    | ok role =>
      rw [passed] at succeeds
      dsimp only at succeeds ⊢
      split at succeeds
      next distinct =>
        rw [if_pos distinct]
        exact ⟨rfl, checkPut_ok passed⟩
      next => cases succeeds
  | delete =>
    simp only [OverwriteCall.run, deleteChannelPermissions] at succeeds ⊢
    cases passed : checkDelete db user channelId roleId with
    | error e =>
      rw [passed] at succeeds
      cases succeeds
    | ok =>
      exact ⟨rewritten_nothing.symm, checkDelete_ok passed, by simp [OverwriteCall.leaves], by
        simp [OverwriteCall.leaves]⟩

/--
A call that succeeds hands a role's holders nothing the caller lacks exactly if each deny it takes away,
and that kept a permission from them, is of a permission the caller holds there.
-/
theorem handsOutHeld_iff (db : Db) (user channelId roleId : String) (call : OverwriteCall) (held : List String)
    (succeeds : (call.run db user channelId roleId).2 = .ok ()) :
    (∀ place p, p ∈ effectiveFor (call.run db user channelId roleId).1 held place → p ∉ effectiveFor db held place →
        (channelPermissions db user channelId).has p = true ∧ roleId ∈ held ∧
          RanksBelow db roleId (channelPermissions db user channelId)) ↔
      ∀ p, p ∉ call.leaves.allow → p ∉ call.leaves.deny → Withholds db held channelId roleId p →
        (channelPermissions db user channelId).has p = true := by
  obtain ⟨written, ranks, _, holds⟩ := run_ok succeeds
  rw [written]
  constructor
  · rintro law p unallowed undenied ⟨_, place, before, after⟩
    exact (law place p ((unnamed_effective unallowed undenied place).mpr after) before).1
  · intro covered place p after before
    have concerned : roleId ∈ held := by
      by_contra unheld
      exact before (unheld_effective call.leaves unheld after)
    refine ⟨?_, concerned, ranks⟩
    by_cases allowed : p ∈ call.leaves.allow
    · exact holds p allowed
    · have undenied : p ∉ call.leaves.deny := fun denied => before (denied_effective allowed denied after)
      have restored := (unnamed_effective allowed undenied place).mp after
      refine covered p allowed undenied ⟨?_, place, before, restored⟩
      by_contra unrestrained
      exact before (undenied_effective unrestrained restored)

end

end

-- Moderators may edit this channel, guests may not write there, and ann is a moderator.
def newsDb : Db where
  users := (∅ : Table User).insert "ann" { isMember := true }
  roles := ((∅ : Table Role).insert "mod" { name := "mod", priority := 10 }).insert "guest" { name := "guest", priority := 1 }
  userRoles := {("ann", "mod")}
  rolePermissions := {("mod", "channels.permissions"), ("guest", "messages.send")}
  channels := (∅ : Table Channel).insert "news" { name := "news", createdBy := "ann" }
  overwrites := [⟨"news", "guest", "messages.send", false⟩]

-- The deny is written anew, so nothing is handed out.
theorem handsOutHeld_iff_kept :
    (channelPermissions newsDb "ann" "news").isOwner = false ∧ ∀ place p,
      p ∈ effectiveFor (OverwriteCall.run (.put { deny := ["messages.send"] }) newsDb "ann" "news" "guest").1 ["guest"] place →
        p ∉ effectiveFor newsDb ["guest"] place →
          (channelPermissions newsDb "ann" "news").has p = true ∧ "guest" ∈ ["guest"] ∧
            RanksBelow newsDb "guest" (channelPermissions newsDb "ann" "news") := by
  refine ⟨by decide,
    (handsOutHeld_iff newsDb "ann" "news" "guest" (.put { deny := ["messages.send"] }) ["guest"] ?_).mpr ?_⟩
  · decide
  · intro p _ undenied withholds
    have denied := withholds.denied
    simp only [newsDb, List.mem_singleton, OverwriteRow.mk.injEq, true_and, and_true] at denied
    exact absurd denied (by simpa [OverwriteCall.leaves] using undenied)

-- Ann takes the deny away, and guests may do what she may not.
theorem handsOutHeld_deleted :
    (OverwriteCall.delete.run newsDb "ann" "news" "guest").2 = .ok () ∧
      (channelPermissions newsDb "ann" "news").isOwner = false ∧
      "messages.send" ∉ effectiveFor newsDb ["guest"] "news" ∧
      "messages.send" ∈ effectiveFor (OverwriteCall.delete.run newsDb "ann" "news" "guest").1 ["guest"] "news" ∧
      (channelPermissions newsDb "ann" "news").has "messages.send" = false := by
  decide

end Overwrites

end Wavvon
