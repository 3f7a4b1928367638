import Wavvon.Farm.State

set_option autoImplicit false

namespace Wavvon.Farm

-- The fields of the body that have the type the farm asks for.
structure HeartbeatPayload where
  hubPubkey : Option String := none
  hubId : Option String := none
  onlineUsers : Option Int := none
  storageBytes : Option Int := none
  uptimeSeconds : Option Int := none
  deriving DecidableEq, Repr

structure Sibling where
  hubPubkey : String
  hubUrl : String
  deriving DecidableEq, Repr

structure HeartbeatResponse where
  canonicalUrl : Option String := none
  siblings : List Sibling := []
  deriving DecidableEq, Repr

section

variable (farmUrl : String)

-- trim_end_matches('/')
def farmBase : String := String.ofList (farmUrl.toList.reverse.dropWhile (· == '/')).reverse

def canonicalSlug (s : Fleet) (hubId : String) : Option String :=
  (s.hubSlugs.toList.find? fun entry =>
    decide (entry.2.hubId = hubId ∧ entry.2.isCanonical = true ∧ entry.2.releasedAt = none)).map (·.1)

def hubUrl (s : Fleet) (hubId : String) (hubPubkey : Option String) : Option String :=
  match canonicalSlug s hubId with
  | some slug => some (farmBase farmUrl ++ "/hub/" ++ slug)
  | none => hubPubkey.map fun pubkey => farmBase farmUrl ++ "/hub/" ++ pubkey

def holdsKey (s : Fleet) (pubkey : String) : Bool := s.hubs.toList.any fun entry => decide (entry.2.hubPubkey = some pubkey)

-- The unique index on the key of a hub knows deleted rows too.
def claimable (s : Fleet) (row : FleetRow) (pubkey : String) : Bool :=
  decide (row.hubPubkey = none ∧ row.deletedAt = none) && !holdsKey s pubkey

/-- First contact: binds the row to the key, once. -/
def claimHub (s : Fleet) (hubId pubkey : String) : Fleet :=
  if s.hubs[hubId]?.any fun row => claimable s row pubkey then
    updateHub s hubId fun row => { row with hubPubkey := some pubkey }
  else s

def liveKey (pubkey : String) (row : FleetRow) : Bool := decide (row.hubPubkey = some pubkey ∧ row.deletedAt = none)

def knownHub (s : Fleet) (pubkey : String) : Bool := s.hubs.toList.any fun entry => liveKey pubkey entry.2

def canonicalUrl (s : Fleet) (pubkey : String) : Option String :=
  (s.hubs.toList.find? fun entry => liveKey pubkey entry.2).bind fun entry => hubUrl farmUrl s entry.1 (some pubkey)

def isSibling (pubkey : String) (row : FleetRow) : Bool :=
  decide (row.hubPubkey ≠ some pubkey ∧ row.deletedAt = none ∧ row.suspendedAt = none)

def siblings (s : Fleet) (pubkey : String) : List Sibling :=
  (s.hubs.toList.filter fun entry => isSibling pubkey entry.2).filterMap fun entry =>
    entry.2.hubPubkey.map fun other =>
      { hubPubkey := other, hubUrl := farmBase farmUrl ++ "/hub/" ++ (canonicalSlug s entry.1).getD other }

def heardAt (now : Int) (payload : HeartbeatPayload) : Heartbeat where
  onlineUsers := payload.onlineUsers.getD 0
  storageBytes := payload.storageBytes.getD 0
  uptimeSeconds := payload.uptimeSeconds.getD 0
  lastSeenAt := now

def clearAttempts (pubkey : String) (row : FleetRow) : FleetRow :=
  if row.hubPubkey = some pubkey ∧ 0 < row.restartAttempts then { row with restartAttempts := 0 } else row

def receiveHeartbeat (now : Int) (s : Fleet) (payload : HeartbeatPayload) : Fleet × Nat × HeartbeatResponse :=
  match payload.hubPubkey.filter (· ≠ "") with
  | none => (s, 400, {})
  | some pubkey =>
    let claimed := (payload.hubId.map fun hubId => claimHub s hubId pubkey).getD s
    if knownHub claimed pubkey then
      let heard := { claimed with heartbeats := claimed.heartbeats.insert pubkey (heardAt now payload) }
      let cleared := { heard with hubs := heard.hubs.map fun _ row => clearAttempts pubkey row }
      (cleared, 200, { canonicalUrl := canonicalUrl farmUrl cleared pubkey, siblings := siblings farmUrl cleared pubkey })
    else (claimed, 403, {})

end

section

variable {farmUrl pubkey : String} {now : Int} {s : Fleet} {payload : HeartbeatPayload}

theorem claimHub_cases (s : Fleet) (hubId pubkey : String) :
    claimHub s hubId pubkey = s ∨
      (∃ row, s.hubs[hubId]? = some row ∧ claimable s row pubkey = true) ∧
        claimHub s hubId pubkey = updateHub s hubId fun row => { row with hubPubkey := some pubkey } := by
  unfold claimHub
  split
  next free => exact .inr ⟨(Option.any_eq_true _ _).mp free, rfl⟩
  next => exact .inl rfl

@[simp] theorem claimHub_heartbeats (s : Fleet) (hubId pubkey : String) :
    (claimHub s hubId pubkey).heartbeats = s.heartbeats := by
  obtain same | ⟨-, same⟩ := claimHub_cases s hubId pubkey
  · rw [same]
  · rw [same, updateHub]

theorem mem_toList_row {table : Table FleetRow} {entry : String × FleetRow} :
    entry ∈ table.toList ↔ table[entry.1]? = some entry.2 := by
  obtain ⟨id, row⟩ := entry
  exact Std.ExtTreeMap.mem_toList_iff_getElem?_eq_some

theorem knownHub_iff : knownHub s pubkey = true ↔ ∃ (id : String) (row : FleetRow), s.hubs[id]? = some row ∧
    liveKey pubkey row = true := by
  rw [knownHub, List.any_eq_true]
  constructor
  · rintro ⟨⟨id, row⟩, listed, live⟩
    exact ⟨id, row, mem_toList_row.mp listed, live⟩
  · rintro ⟨id, row, found, live⟩
    exact ⟨(id, row), mem_toList_row.mpr found, live⟩

/-- A heartbeat that is heard: the key it is from, and the fleet once the row is claimed. -/
structure HeardFrom (s : Fleet) (payload : HeartbeatPayload) (pubkey : String) (claimed : Fleet) : Prop where
  stated : payload.hubPubkey = some pubkey
  claim : claimed = (payload.hubId.map fun hubId => claimHub s hubId pubkey).getD s
  known : knownHub claimed pubkey = true

-- What a heartbeat does: nothing, or a claim that is of no use, or it is heard.
theorem receiveHeartbeat_cases (farmUrl : String) (now : Int) (s : Fleet) (payload : HeartbeatPayload) :
    ((receiveHeartbeat farmUrl now s payload).1 = s ∧ (receiveHeartbeat farmUrl now s payload).2.1 ≠ 200) ∨
      ∃ pubkey claimed, HeardFrom s payload pubkey claimed ∧ (receiveHeartbeat farmUrl now s payload).2.1 = 200 ∧
        (receiveHeartbeat farmUrl now s payload).1 =
          { claimed with
            heartbeats := claimed.heartbeats.insert pubkey (heardAt now payload)
            hubs := claimed.hubs.map fun _ row => clearAttempts pubkey row } := by
  unfold receiveHeartbeat
  cases stated : payload.hubPubkey.filter (· ≠ "") with
  | none => exact .inl ⟨rfl, (by decide : (400 : Nat) ≠ 200)⟩
  | some pubkey =>
    have own : payload.hubPubkey = some pubkey := (Option.filter_eq_some_iff.mp stated).1
    dsimp only
    generalize claim : (payload.hubId.map fun hubId => claimHub s hubId pubkey).getD s = claimed
    by_cases known : knownHub claimed pubkey = true
    next =>
      rw [if_pos known]
      exact .inr ⟨pubkey, claimed, ⟨own, claim.symm, known⟩, rfl, rfl⟩
    next =>
      rw [if_neg known]
      refine .inl ⟨?_, (by decide : (403 : Nat) ≠ 200)⟩
      -- A row that was just claimed is live and known.
      cases named : payload.hubId with
      | none =>
        rw [named] at claim
        exact claim.symm
      | some hubId =>
        rw [named, Option.map_some, Option.getD_some] at claim
        obtain same | ⟨⟨row, found, free⟩, changed⟩ := claimHub_cases s hubId pubkey
        · rw [← claim, same]
        · refine absurd (knownHub_iff.mpr ⟨hubId, { row with hubPubkey := some pubkey }, ?_, ?_⟩) known
          · rw [← claim, changed, updateHub_row, if_pos rfl, found, Option.map_some]
          · rw [claimable, Bool.and_eq_true, decide_eq_true_eq] at free
            exact decide_eq_true ⟨rfl, free.1.2⟩

theorem clearAttempts_key (pubkey : String) (row : FleetRow) :
    (clearAttempts pubkey row).hubPubkey = row.hubPubkey := by
  unfold clearAttempts
  split <;> rfl

theorem clearAttempts_other {pubkey : String} {row : FleetRow} (other : row.hubPubkey ≠ some pubkey) :
    clearAttempts pubkey row = row := if_neg fun held => other held.1

theorem clearAttempts_last (pubkey : String) (row : FleetRow) :
    (clearAttempts pubkey row).lastRestartAt = row.lastRestartAt := by
  unfold clearAttempts
  split <;> rfl

theorem clearAttempts_attempts (pubkey : String) (row : FleetRow) :
    (clearAttempts pubkey row).restartAttempts = row.restartAttempts ∨
    (clearAttempts pubkey row).restartAttempts = 0 := by
  unfold clearAttempts
  split
  next => exact .inr rfl
  next => exact .inl rfl

-- A claim binds one row that had no key.
theorem claimHub_row (s : Fleet) (hubId pubkey other : String) :
    (claimHub s hubId pubkey).hubs[other]? = s.hubs[other]? ∨
      ∃ row, s.hubs[other]? = some row ∧ row.hubPubkey = none ∧
        (claimHub s hubId pubkey).hubs[other]? = some { row with hubPubkey := some pubkey } := by
  obtain same | ⟨⟨row, found, free⟩, changed⟩ := claimHub_cases s hubId pubkey
  · exact .inl (by rw [same])
  · rw [changed, updateHub_row]
    by_cases own : other = hubId
    next =>
      subst own
      rw [claimable, Bool.and_eq_true, decide_eq_true_eq] at free
      exact .inr ⟨row, found, free.1.1, by rw [if_pos rfl, found, Option.map_some]⟩
    next => exact .inl (if_neg own)

namespace HeardFrom

variable {claimed : Fleet}

theorem heartbeats (heard : HeardFrom s payload pubkey claimed) : claimed.heartbeats = s.heartbeats := by
  rw [heard.claim]
  cases payload.hubId with
  | none => rfl
  | some hubId => exact claimHub_heartbeats s hubId pubkey

theorem row (heard : HeardFrom s payload pubkey claimed) (other : String) :
    claimed.hubs[other]? = s.hubs[other]? ∨
      ∃ row, s.hubs[other]? = some row ∧ row.hubPubkey = none ∧
        claimed.hubs[other]? = some { row with hubPubkey := some pubkey } := by
  rw [heard.claim]
  cases payload.hubId with
  | none => exact .inl rfl
  | some hubId => exact claimHub_row s hubId pubkey other

end HeardFrom

/-- What a heartbeat leaves of a row: its key if it had one, and its attempts unless it is heard. -/
structure Heard (row changed : FleetRow) : Prop where
  key : ∀ pubkey, row.hubPubkey = some pubkey → changed.hubPubkey = some pubkey
  attempts : changed.restartAttempts = row.restartAttempts ∨ changed.restartAttempts = 0
  last : changed.lastRestartAt = row.lastRestartAt

theorem heartbeat_row (farmUrl : String) (now : Int) (payload : HeartbeatPayload) {hubId : String} {row : FleetRow}
    (found : s.hubs[hubId]? = some row) :
    ∃ changed, (receiveHeartbeat farmUrl now s payload).1.hubs[hubId]? = some changed ∧ Heard row changed := by
  obtain ⟨same, -⟩ | ⟨pubkey, claimed, heard, -, after⟩ := receiveHeartbeat_cases farmUrl now s payload
  · exact ⟨row, by rw [same, found], fun _ => id, .inl rfl, rfl⟩
  · rw [after, Std.ExtTreeMap.getElem?_map]
    obtain kept | ⟨row', found', free, bound⟩ := heard.row hubId
    · rw [kept, found]
      exact ⟨_, rfl, fun _ own => (clearAttempts_key pubkey row).trans own, clearAttempts_attempts pubkey row,
        clearAttempts_last pubkey row⟩
    · obtain rfl := Option.some.inj (found'.symm.trans found)
      rw [bound]
      refine ⟨_, rfl, ?_, clearAttempts_attempts pubkey { row' with hubPubkey := some pubkey },
        clearAttempts_last pubkey { row' with hubPubkey := some pubkey }⟩
      intro own bound
      rw [free] at bound
      cases bound

theorem heartbeat_absent {hubId : String} (absent : s.hubs[hubId]? = none) :
    (receiveHeartbeat farmUrl now s payload).1.hubs[hubId]? = none := by
  obtain ⟨same, -⟩ | ⟨pubkey, claimed, heard, -, after⟩ := receiveHeartbeat_cases farmUrl now s payload
  · rw [same, absent]
  · obtain kept | ⟨row, found, -, -⟩ := heard.row hubId
    · rw [after, Std.ExtTreeMap.getElem?_map, kept, absent, Option.map_none]
    · rw [absent] at found
      cases found

-- Heartbeats are stored under the key that they state, and no other is touched.
theorem heartbeat_seen (farmUrl : String) (now : Int) (s : Fleet) (payload : HeartbeatPayload) (other : String) :
    (receiveHeartbeat farmUrl now s payload).1.heartbeats[other]? = s.heartbeats[other]? ∨
      (receiveHeartbeat farmUrl now s payload).1.heartbeats[other]? = some (heardAt now payload) := by
  obtain ⟨same, -⟩ | ⟨pubkey, claimed, heard, -, after⟩ := receiveHeartbeat_cases farmUrl now s payload
  · exact .inl (by rw [same])
  · rw [after, heard.heartbeats, Std.ExtTreeMap.getElem?_insert]
    split
    next => exact .inr rfl
    next => exact .inl rfl

end

end Wavvon.Farm
