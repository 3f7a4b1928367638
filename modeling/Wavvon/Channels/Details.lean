import Wavvon.Channels.Forest

set_option autoImplicit false

namespace Wavvon.Channels

open Std (ExtTreeMap)

-- The columns of the channels table that only its own handlers read.
structure ChannelDetails where
  description : Option String := none
  icon : Option String := none
  color : Option String := none
  customIconSvg : Option String := none
  retentionDays : Option Int := none
  bannerUrl : Option String := none
  bannerFileId : Option String := none
  forumRequireTag : Bool := false
  nsfw : Bool := false
  deriving DecidableEq, Repr

structure ChannelStore where
  db : Db
  details : Table ChannelDetails := ∅

def ChannelStore.detailsOf (s : ChannelStore) (channelId : String) : ChannelDetails :=
  s.details[channelId]?.getD {}

-- The whole rows of the table.
def ChannelStore.rows (s : ChannelStore) : Table (Channel × ChannelDetails) :=
  s.db.channels.map fun id row => (row, s.detailsOf id)

-- Either banner source clears the other; asked for together they are refused before.
def UpdateChannelRequest.applyDetails (req : UpdateChannelRequest) (details : ChannelDetails) : ChannelDetails :=
  { description := req.description.or details.description
    icon := req.icon.getD details.icon
    color := req.color.getD details.color
    customIconSvg := req.customIconSvg.getD details.customIconSvg
    retentionDays := req.retentionDays.getD details.retentionDays
    bannerUrl := if req.bannerFileId.isSome then none else req.bannerUrl.or details.bannerUrl
    bannerFileId := if req.bannerUrl.isSome then none else req.bannerFileId.or details.bannerFileId
    forumRequireTag := req.forumRequireTag.getD details.forumRequireTag
    nsfw := req.nsfw.getD details.nsfw }

def UpdateChannelRequest.needsUpdate (req : UpdateChannelRequest) : Bool :=
  req.description.isSome || req.icon.isSome || req.color.isSome || req.customIconSvg.isSome ||
    req.parentId.isSome || req.minTalkPower.isSome || req.retentionDays.isSome || req.bannerUrl.isSome ||
    req.bannerFileId.isSome || req.forumRequireTag.isSome || req.nsfw.isSome || req.channelType.isSome

-- The first of the two statements: every column that is asked for, except the name.
def ChannelStore.write (s : ChannelStore) (channelId : String) (req : UpdateChannelRequest) : ChannelStore :=
  if req.needsUpdate then
    { db := s.db.updateChannel channelId req.apply
      details := s.details.insert channelId (req.applyDetails (s.detailsOf channelId)) }
  else s

-- The handler on whole rows.
def updateRow (s : ChannelStore) (user channelId : String) (req : UpdateChannelRequest)
    (images : Finset (String × String)) : ChannelStore × Except Refusal Unit :=
  match updateRefusal s.db user channelId req images with
  | some refusal => (s, .error refusal)
  | none =>
    let written := s.write channelId req
    let renamed := renameChannel written.db channelId req.name
    ({ written with db := renamed.1 }, renamed.2)

-- The name is blank, or another channel has it.
def BadName (db : Db) (channelId name : String) : Prop :=
  trim name = "" ∨ ∃ (other : String) (row : Channel),
    db.channels[other]? = some row ∧ other ≠ channelId ∧ row.name = trim name

-- The row holds what is asked for already, the name left aside.
def Holds (s : ChannelStore) (channelId : String) (req : UpdateChannelRequest) : Prop :=
  ∀ row, s.db.channels[channelId]? = some row →
    req.apply row = row ∧ req.applyDetails (s.detailsOf channelId) = s.detailsOf channelId

def AllOrNothing (s : ChannelStore) (user channelId : String) (req : UpdateChannelRequest)
    (images : Finset (String × String)) : Prop :=
  ∀ refusal, (updateRow s user channelId req images).2 = .error refusal →
    (updateRow s user channelId req images).1.rows = s.rows

section

variable {s : ChannelStore} {db : Db} {user channelId : String} {req : UpdateChannelRequest}
  {images : Finset (String × String)}

theorem getElem?_rows (s : ChannelStore) (id : String) :
    s.rows[id]? = s.db.channels[id]?.map fun row => (row, s.detailsOf id) := by
  rw [ChannelStore.rows, ExtTreeMap.getElem?_map]

theorem apply_idle (idle : req.needsUpdate = false) (row : Channel) : req.apply row = row := by
  simp only [UpdateChannelRequest.needsUpdate, Bool.or_eq_false_iff, Option.isSome_eq_false_iff,
    Option.isNone_iff_eq_none] at idle
  simp [UpdateChannelRequest.apply, idle]

theorem applyDetails_idle (idle : req.needsUpdate = false) (details : ChannelDetails) :
    req.applyDetails details = details := by
  simp only [UpdateChannelRequest.needsUpdate, Bool.or_eq_false_iff, Option.isSome_eq_false_iff,
    Option.isNone_iff_eq_none] at idle
  simp [UpdateChannelRequest.applyDetails, idle]

theorem updateChannel_idle (idle : req.needsUpdate = false) (db : Db) (channelId : String) :
    db.updateChannel channelId req.apply = db := by
  have same : (db.updateChannel channelId req.apply).channels = db.channels := by
    apply ExtTreeMap.ext_getElem?
    intro other
    rw [Db.channels_updateChannel]
    split
    next => cases db.channels[other]? <;> simp [apply_idle idle]
    next => rfl
  calc db.updateChannel channelId req.apply
      = { db with channels := (db.updateChannel channelId req.apply).channels } := rfl
    _ = db := by rw [same]

theorem write_db (s : ChannelStore) (channelId : String) (req : UpdateChannelRequest) :
    (s.write channelId req).db = s.db.updateChannel channelId req.apply := by
  unfold ChannelStore.write
  split
  next => rfl
  next idle => exact (updateChannel_idle (Bool.eq_false_iff.mpr idle) s.db channelId).symm

theorem write_detailsOf (s : ChannelStore) (channelId id : String) (req : UpdateChannelRequest) :
    (s.write channelId req).detailsOf id =
      if id = channelId then req.applyDetails (s.detailsOf id) else s.detailsOf id := by
  unfold ChannelStore.write
  split
  next =>
    rw [ChannelStore.detailsOf, ExtTreeMap.getElem?_insert]
    by_cases same : id = channelId
    · simp [same]
    · simp [same, Ne.symm same, ChannelStore.detailsOf]
  next idle =>
    rw [applyDetails_idle (Bool.eq_false_iff.mpr idle), ite_self]

/-- The handler on whole rows does to the columns other code reads what the handler on those columns does. -/
theorem updateRow_db (s : ChannelStore) (user channelId : String) (req : UpdateChannelRequest)
    (images : Finset (String × String)) :
    ((updateRow s user channelId req images).1.db, (updateRow s user channelId req images).2) =
      updateChannel s.db user channelId req images := by
  unfold updateRow updateChannel
  cases updateRefusal s.db user channelId req images with
  | some refusal => rfl
  | none =>
    dsimp only
    rw [write_db]

-- A statement that only renames leaves the other columns, and one that fails leaves the name too.
theorem renameChannel_error {name : Option String} {refusal : Refusal}
    (failed : (renameChannel db channelId name).2 = .error refusal) : (renameChannel db channelId name).1 = db := by
  unfold renameChannel at failed ⊢
  cases name with
  | none => rfl
  | some name =>
    dsimp only at failed ⊢
    split
    next => rfl
    next filled =>
      split
      next => rfl
      next free =>
        rw [if_neg filled, if_neg free] at failed
        cases failed

theorem taken_iff {name : String} :
    (db.channels.toList.any fun entry => decide (entry.1 ≠ channelId ∧ entry.2.name = name)) = true ↔
      ∃ (other : String) (row : Channel), db.channels[other]? = some row ∧ other ≠ channelId ∧ row.name = name := by
  simp only [List.any_eq_true, decide_eq_true_eq, Prod.exists, ExtTreeMap.mem_toList_iff_getElem?_eq_some]

theorem renameChannel_fails_iff {name : Option String} :
    (∃ refusal, (renameChannel db channelId name).2 = .error refusal) ↔
      ∃ wanted, name = some wanted ∧ BadName db channelId wanted := by
  cases name with
  | none => exact iff_of_false nofun nofun
  | some wanted =>
    have bad : (∃ other, some wanted = some other ∧ BadName db channelId other) ↔ BadName db channelId wanted := by
      simp
    rw [bad, BadName, ← taken_iff]
    unfold renameChannel
    dsimp only
    split
    next blank => exact iff_of_true ⟨_, rfl⟩ (.inl blank)
    next filled =>
      split
      next taken => exact iff_of_true ⟨_, rfl⟩ (.inr taken)
      next free => exact iff_of_false nofun (by rintro (blank | taken) <;> contradiction)

theorem badName_written (s : ChannelStore) (channelId name : String) (req : UpdateChannelRequest) :
    BadName (s.write channelId req).db channelId name ↔ BadName s.db channelId name := by
  have others : ∀ (other : String) (row : Channel),
      ((s.write channelId req).db.channels[other]? = some row ∧ other ≠ channelId ∧ row.name = trim name) ↔
        s.db.channels[other]? = some row ∧ other ≠ channelId ∧ row.name = trim name := by
    intro other row
    rw [write_db, Db.channels_updateChannel]
    by_cases same : other = channelId
    · simp [same]
    · rw [if_neg same]
  simp only [BadName, others]

theorem write_rows_iff (s : ChannelStore) (channelId : String) (req : UpdateChannelRequest) :
    (s.write channelId req).rows = s.rows ↔ Holds s channelId req := by
  have written : ∀ id, (s.write channelId req).rows[id]? =
      if id = channelId then s.db.channels[id]?.map fun row => (req.apply row, req.applyDetails (s.detailsOf id))
      else s.rows[id]? := by
    intro id
    rw [getElem?_rows, write_db, write_detailsOf, Db.channels_updateChannel, getElem?_rows]
    split
    next => cases s.db.channels[id]? <;> rfl
    next => rfl
  constructor
  · intro same row found
    have here := written channelId
    rw [same, if_pos rfl, getElem?_rows, found] at here
    simp only [Option.map_some, Option.some.injEq, Prod.mk.injEq] at here
    exact ⟨here.1.symm, here.2.symm⟩
  · intro holds
    apply ExtTreeMap.ext_getElem?
    intro id
    rw [written]
    split
    next same =>
      subst same
      rw [getElem?_rows]
      cases found : s.db.channels[id]? with
      | none => rfl
      | some row =>
        obtain ⟨columns, details⟩ := holds row found
        rw [Option.map_some, Option.map_some, columns, details]
    next => rfl

end

/-- A refused update changes nothing unless it gets past the checks with a bad name and another change. -/
theorem update_allOrNothing_iff (s : ChannelStore) (user channelId : String) (req : UpdateChannelRequest)
    (images : Finset (String × String)) :
    AllOrNothing s user channelId req images ↔
      ¬ (updateRefusal s.db user channelId req images = none ∧
        (∃ name, req.name = some name ∧ BadName s.db channelId name) ∧ ¬ Holds s channelId req) := by
  unfold AllOrNothing updateRow
  cases checked : updateRefusal s.db user channelId req images with
  | some refusal => exact iff_of_true (fun _ _ => rfl) (by rintro ⟨⟨⟩, -⟩)
  | none =>
    dsimp only
    have failing : (∃ refusal, (renameChannel (s.write channelId req).db channelId req.name).2 = .error refusal) ↔
        ∃ name, req.name = some name ∧ BadName s.db channelId name := by
      rw [renameChannel_fails_iff]
      simp only [badName_written]
    have kept : ∀ refusal, (renameChannel (s.write channelId req).db channelId req.name).2 = .error refusal →
        ({ s.write channelId req with
          db := (renameChannel (s.write channelId req).db channelId req.name).1 } : ChannelStore) =
          s.write channelId req := by
      intro refusal failed
      rw [renameChannel_error failed]
    constructor
    · rintro clean ⟨-, bad, other⟩
      obtain ⟨refusal, failed⟩ := failing.mpr bad
      have same := clean refusal failed
      rw [kept refusal failed, write_rows_iff] at same
      exact other same
    · intro free refusal failed
      rw [kept refusal failed, write_rows_iff]
      by_contra other
      exact free ⟨rfl, failing.mp ⟨refusal, failed⟩, other⟩

def hallDb : Db :=
  { ownerHub with channels := (∅ : Table Channel).insert "hall" { name := "hall", createdBy := "ann" } }

-- A new description and a blank name: the description is in, the answer is an error.
theorem update_halfway : ¬ ∀ s user channelId req images, AllOrNothing s user channelId req images := by
  intro always
  have same := always { db := hallDb } "ann" "hall" { name := some " ", description := some "new" } ∅
    (400, "Channel name cannot be empty") (by decide)
  have read := congrArg (fun rows => rows["hall"]?) same
  revert read
  decide

end Wavvon.Channels
