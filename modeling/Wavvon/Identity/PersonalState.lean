import Wavvon.Identity.Registry
import Wavvon.Shared.Runs

set_option autoImplicit false

namespace Wavvon.Personal

open Std (ExtTreeMap)

-- Versions are cast to a signed column and back.
structure DesignationRow where
  hubs : List String
  issuedAt : Int64
  sequence : Int64
  signature : String
  updatedAt : Int
  deriving DecidableEq

structure PrefsRow where
  blobVersion : Int64
  ciphertextHex : String
  signature : String
  updatedAt : Int
  deriving DecidableEq

inductive Kind where
  | designation
  | prefs
  deriving DecidableEq, Repr

inductive Body where
  | designation (list : HomeHubList)
  | prefs (blob : SignedPrefsBlob)
  deriving DecidableEq, Repr

namespace Body

def kind : Body → Kind
  | .designation _ => .designation
  | .prefs _ => .prefs

def masterPubkey : Body → String
  | .designation list => list.masterPubkey
  | .prefs blob => blob.masterPubkey

def version : Body → UInt64
  | .designation list => list.sequence
  | .prefs blob => blob.blobVersion

def verify (keys : Keys) : Body → Except String Unit
  | .designation list => list.verify keys
  | .prefs blob => blob.verify keys

end Body

-- A request before each of its three statements, and once it has its answer.
inductive Phase where
  | checked
  | known
  | read (current : Option Int64)
  | answered (answer : Except HttpError Unit)

structure Request where
  master : String
  body : Body
  phase : Phase := .checked

structure State where
  auth : AuthState := {}
  designations : Table DesignationRow := ∅
  prefsBlobs : Table PrefsRow := ∅
  requests : List Request := []

-- Requests arrive and take their statements one by one; the rest of the hub changes as it likes.
inductive Action where
  | arrive (master : String) (body : Body)
  | advance (request : Nat) (now : Int)
  | elsewhere (auth : AuthState)

def checkBody (keys : Keys) (master : String) (body : Body) : Except HttpError Unit :=
  if body.masterPubkey ≠ master then .error masterMismatch
  else
    match body.verify keys with
    | .error e => .error (badSignature e)
    | .ok _ => .ok ()

def staleVersion (kind : Kind) (current : Int64) : HttpError :=
  match kind with
  | .designation => (409, "sequence must exceed current (" ++ toString current ++ ")")
  | .prefs => (409, "blob_version must exceed current (" ++ toString current ++ ")")

namespace State

def getDesignation (s : State) (master : String) : Except HttpError HomeHubList :=
  match s.designations[master]? with
  | none => .error (404, "No designation")
  | some row =>
    .ok { masterPubkey := master, hubs := row.hubs, issuedAt := row.issuedAt.toUInt64
          sequence := row.sequence.toUInt64, signature := row.signature }

def getPrefs (s : State) (master : String) : Except HttpError SignedPrefsBlob :=
  match s.prefsBlobs[master]? with
  | none => .error (404, "No prefs blob")
  | some row =>
    .ok { masterPubkey := master, blobVersion := row.blobVersion.toUInt64
          ciphertextHex := row.ciphertextHex, signature := row.signature }

-- The version the route answers with.
def versionRead (s : State) (kind : Kind) (master : String) : Option UInt64 :=
  match kind with
  | .designation => (s.getDesignation master).toOption.map (·.sequence)
  | .prefs => (s.getPrefs master).toOption.map (·.blobVersion)

def selectVersion (s : State) (kind : Kind) (master : String) : Option Int64 :=
  match kind with
  | .designation => s.designations[master]?.map (·.sequence)
  | .prefs => s.prefsBlobs[master]?.map (·.blobVersion)

def upsert (s : State) (request : Request) (now : Int) : State :=
  match request.body with
  | .designation list =>
    let row : DesignationRow :=
      { hubs := list.hubs, issuedAt := list.issuedAt.toInt64, sequence := list.sequence.toInt64
        signature := list.signature, updatedAt := now }
    { s with designations := s.designations.insert request.master row }
  | .prefs blob =>
    let row : PrefsRow :=
      { blobVersion := blob.blobVersion.toInt64, ciphertextHex := blob.ciphertextHex
        signature := blob.signature, updatedAt := now }
    { s with prefsBlobs := s.prefsBlobs.insert blob.masterPubkey row }

def enter (s : State) (i : Nat) (request : Request) (phase : Phase) : State :=
  { s with requests := s.requests.set i { request with phase := phase } }

-- One statement of a request, and the code up to its next one.
def advance (s : State) (i : Nat) (request : Request) (now : Int) : State :=
  match request.phase with
  | .checked =>
    if s.auth.masterIsKnownHere request.master then s.enter i request .known
    else s.enter i request (.answered (.error masterUnknown))
  | .known =>
    let current := s.selectVersion request.body.kind request.master
    match current.filter (request.body.version.toInt64 ≤ ·) with
    | some stored => s.enter i request (.answered (.error (staleVersion request.body.kind stored)))
    | none => s.enter i request (.read current)
  | .read _ => (s.upsert request now).enter i request (.answered (.ok ()))
  | .answered _ => s

def arrive (keys : Keys) (s : State) (master : String) (body : Body) : State :=
  let phase := match checkBody keys master body with
    | .error e => .answered (.error e)
    | .ok _ => .checked
  { s with requests := s.requests ++ [{ master := master, body := body, phase := phase }] }

def step (keys : Keys) (s : State) : Action → State
  | .arrive master body => s.arrive keys master body
  | .advance i now =>
    match s.requests[i]? with
    | none => s
    | some request => s.advance i request now
  | .elsewhere auth => { s with auth := auth }

end State

-- What a request in flight has been checked for.
def Request.Sound (request : Request) : Prop :=
  match request.phase with
  | .checked | .known => request.body.masterPubkey = request.master
  | .read current => request.body.masterPubkey = request.master ∧
      ∀ stored, current = some stored → stored < request.body.version.toInt64
  | .answered _ => True

def State.Checked (s : State) : Prop := ∀ request ∈ s.requests, request.Sound

-- The request whose row the action writes.
def State.upserting (s : State) : Action → Option Request
  | .advance i _ =>
    match s.requests[i]? with
    | some request =>
      match request.phase with
      | .read _ => some request
      | _ => none
    | none => none
  | _ => none

section

variable {keys : Keys} {s : State}

theorem upserting_iff {act : Action} {request : Request} :
    s.upserting act = some request ↔
      ∃ i now current, act = .advance i now ∧ s.requests[i]? = some request ∧
        request.phase = .read current := by
  constructor
  · intro writes
    cases act with
    | advance i now =>
      simp only [State.upserting] at writes
      split at writes
      next held found =>
        split at writes
        next current reading =>
          cases writes
          exact ⟨i, now, current, rfl, found, reading⟩
        next => cases writes
      next => cases writes
    | arrive | elsewhere => simp [State.upserting] at writes
  · rintro ⟨i, now, current, rfl, found, reading⟩
    simp [State.upserting, found, reading]

theorem checked_set (checked : s.Checked) {i : Nat} {request : Request} (sound : request.Sound) :
    ∀ other ∈ s.requests.set i request, other.Sound := by
  intro other member
  rcases List.mem_or_eq_of_mem_set member with old | rfl
  · exact checked other old
  · exact sound

theorem checkBody_ok {master : String} {body : Body} (passed : checkBody keys master body = .ok ()) :
    body.masterPubkey = master := by
  unfold checkBody at passed
  split at passed
  · cases passed
  next own => exact not_not.mp own

theorem upsert_requests (request : Request) (now : Int) : (s.upsert request now).requests = s.requests := by
  unfold State.upsert
  split <;> rfl

theorem advance_checked (checked : s.Checked) {i : Nat} {request : Request} (now : Int)
    (found : s.requests[i]? = some request) : (s.advance i request now).Checked := by
  have sound := checked request (List.mem_of_getElem? found)
  unfold State.advance
  split
  next reading =>
    simp only [Request.Sound, reading] at sound
    split
    · exact checked_set checked sound
    · exact checked_set checked trivial
  next reading =>
    simp only [Request.Sound, reading] at sound
    dsimp only
    split
    next => exact checked_set checked trivial
    next newer =>
      refine checked_set checked ⟨sound, ?_⟩
      intro stored current
      rw [Option.filter_eq_none_iff] at newer
      exact Int64.not_le.mp (by simpa using newer stored current)
  next =>
    have same := upsert_requests (s := s) request now
    exact checked_set (s := s.upsert request now) (by rw [State.Checked, same]; exact checked) trivial
  next => exact checked

theorem step_checked (act : Action) (checked : s.Checked) : (s.step keys act).Checked := by
  cases act with
  | arrive master body =>
    intro request member
    rcases List.mem_append.mp member with old | new
    · exact checked request old
    · obtain rfl := List.mem_singleton.mp new
      unfold Request.Sound
      dsimp only
      cases passed : checkBody keys master body with
      | error e => trivial
      | ok => exact checkBody_ok passed
  | advance i now =>
    simp only [State.step]
    split
    next => exact checked
    next request found => exact advance_checked checked now found
  | elsewhere auth => exact checked

theorem versionRead_eq (kind : Kind) (master : String) :
    s.versionRead kind master = (s.selectVersion kind master).map Int64.toUInt64 := by
  cases kind with
  | designation =>
    simp only [State.versionRead, State.getDesignation, State.selectVersion]
    cases s.designations[master]? <;> rfl
  | prefs =>
    simp only [State.versionRead, State.getPrefs, State.selectVersion]
    cases s.prefsBlobs[master]? <;> rfl

theorem upsert_version {request : Request} (own : request.body.masterPubkey = request.master) (now : Int)
    (kind : Kind) (master : String) :
    (s.upsert request now).versionRead kind master =
      if request.body.kind = kind ∧ request.master = master then some request.body.version
      else s.versionRead kind master := by
  simp only [versionRead_eq]
  cases written : request.body with
  | designation list =>
    cases kind with
    | designation =>
      simp only [State.upsert, written, State.selectVersion, ExtTreeMap.getElem?_insert, Std.compare_eq_iff_eq,
        Body.kind, true_and, Body.version]
      split <;> simp
    | prefs => simp [State.upsert, written, State.selectVersion, Body.kind]
  | prefs blob =>
    have target : blob.masterPubkey = request.master := by simpa [written, Body.masterPubkey] using own
    cases kind with
    | designation => simp [State.upsert, written, State.selectVersion, Body.kind]
    | prefs =>
      simp only [State.upsert, written, State.selectVersion, ExtTreeMap.getElem?_insert, Std.compare_eq_iff_eq,
        Body.kind, true_and, Body.version, target]
      split <;> simp

-- Only the upsert changes what the routes answer.
theorem step_version (checked : s.Checked) (act : Action) (kind : Kind) (master : String) :
    (s.step keys act).versionRead kind master =
      match s.upserting act with
      | none => s.versionRead kind master
      | some request =>
        if request.body.kind = kind ∧ request.master = master then some request.body.version
        else s.versionRead kind master := by
  cases act with
  | arrive master body => rfl
  | elsewhere auth => rfl
  | advance i now =>
    simp only [State.step, State.upserting]
    cases found : s.requests[i]? with
    | none => rfl
    | some request =>
      have sound := checked request (List.mem_of_getElem? found)
      dsimp only
      unfold State.advance
      cases reading : request.phase with
      | checked => dsimp only; split <;> rfl
      | known => dsimp only; split <;> rfl
      | answered answer => rfl
      | read current =>
        simp only [Request.Sound, reading] at sound
        exact upsert_version sound.1 now kind master

end

-- Below the sign boundary, above it, and across it upwards the two orders agree.
theorem lt_of_toInt64_lt {stored version : UInt64} (newer : stored.toInt64 < version.toInt64)
    (sameSide : ¬ (2 ^ 63 ≤ stored.toNat ∧ version.toNat < 2 ^ 63)) : stored < version := by
  have signed := Int64.lt_iff_toInt_lt.mp newer
  rw [Wire.toInt_toInt64, Wire.toInt_toInt64] at signed
  have low := stored.toNat_lt
  have high := version.toNat_lt
  rw [UInt64.lt_iff_toNat_lt]
  split at signed <;> split at signed <;> omega

/--
The row an upsert replaces does not lie beyond the sign boundary from it, and either is the one the
request read before or is older than it.
-/
def State.Undisturbed (s : State) (act : Action) : Prop :=
  ∀ i now request current, act = .advance i now → s.requests[i]? = some request →
    request.phase = .read current →
      ∀ stored, s.versionRead request.body.kind request.master = some stored →
        ¬ (2 ^ 63 ≤ stored.toNat ∧ request.body.version.toNat < 2 ^ 63) ∧
          (current ≠ some stored.toInt64 → stored < request.body.version)

theorem undisturbed_iff {s : State} (checked : s.Checked) (act : Action) :
    s.Undisturbed act ↔
      ∀ request, s.upserting act = some request →
        ∀ stored, s.versionRead request.body.kind request.master = some stored →
          stored < request.body.version := by
  constructor
  · intro undisturbed request writes stored held
    obtain ⟨i, now, current, rfl, found, reading⟩ := upserting_iff.mp writes
    obtain ⟨sameSide, moved⟩ := undisturbed i now request current rfl found reading stored held
    by_cases seen : current = some stored.toInt64
    next =>
      have sound := checked request (List.mem_of_getElem? found)
      simp only [Request.Sound, reading] at sound
      exact lt_of_toInt64_lt (sound.2 stored.toInt64 seen) sameSide
    next => exact moved seen
  · rintro newer i now request current rfl found reading stored held
    have above := newer request (upserting_iff.mpr ⟨i, now, current, rfl, found, reading⟩) stored held
    rw [UInt64.lt_iff_toNat_lt] at above
    exact ⟨by omega, fun _ => UInt64.lt_iff_toNat_lt.mpr above⟩

def LaterVersions (before after : State) : Prop :=
  ∀ kind master old, before.versionRead kind master = some old →
    ∃ new, after.versionRead kind master = some new ∧ old ≤ new

theorem LaterVersions.refl (s : State) : LaterVersions s s :=
  fun _ _ old held => ⟨old, held, UInt64.le_refl old⟩

theorem LaterVersions.trans {first second third : State} (left : LaterVersions first second)
    (right : LaterVersions second third) : LaterVersions first third := by
  intro kind master old held
  obtain ⟨middle, read, older⟩ := left kind master old held
  obtain ⟨new, readLater, newer⟩ := right kind master middle read
  exact ⟨new, readLater, UInt64.le_trans older newer⟩

section

variable {keys : Keys} {s : State}

theorem step_later (checked : s.Checked) {act : Action} (undisturbed : s.Undisturbed act) :
    LaterVersions s (s.step keys act) := by
  intro kind master old held
  rw [step_version checked]
  cases writes : s.upserting act with
  | none => exact ⟨old, held, UInt64.le_refl old⟩
  | some request =>
    dsimp only
    split
    next same =>
      obtain ⟨rfl, rfl⟩ := same
      have newer := (undisturbed_iff checked act).mp undisturbed request writes old held
      exact ⟨request.body.version, rfl, UInt64.le_of_lt newer⟩
    next => exact ⟨old, held, UInt64.le_refl old⟩

def Request.Stored (request : Request) : Prop := request.phase = .answered (.ok ())

theorem advance_requests (i : Nat) (request : Request) (now : Int) :
    (s.advance i request now).requests = s.requests ∨
      ∃ phase, (s.advance i request now).requests = s.requests.set i { request with phase := phase } ∧
        (phase = .answered (.ok ()) → ∃ current, request.phase = .read current) := by
  unfold State.advance
  cases reading : request.phase with
  | checked =>
    dsimp only
    split
    · exact .inr ⟨.known, rfl, fun stored => by cases stored⟩
    · exact .inr ⟨_, rfl, fun stored => by cases stored⟩
  | known =>
    dsimp only
    split
    · exact .inr ⟨_, rfl, fun stored => by cases stored⟩
    · exact .inr ⟨_, rfl, fun stored => by cases stored⟩
  | read current =>
    refine .inr ⟨.answered (.ok ()), ?_, fun _ => ⟨current, rfl⟩⟩
    dsimp only [State.enter]
    rw [upsert_requests]
  | answered answer => exact .inl rfl

-- A request that has just been answered 200 was about to write its row.
theorem stored_now {act : Action} {i : Nat} {request : Request}
    (found : (s.step keys act).requests[i]? = some request) (stored : request.Stored)
    (before : ∀ old, s.requests[i]? = some old → ¬ old.Stored) :
    ∃ old, s.upserting act = some old ∧ old.body = request.body ∧ old.master = request.master := by
  cases act with
  | elsewhere auth => exact absurd stored (before request found)
  | arrive master body =>
    simp only [State.step, State.arrive, List.getElem?_append] at found
    split at found
    next => exact absurd stored (before request found)
    next =>
      obtain ⟨_, rfl⟩ := List.getElem?_eq_some_iff.mp found
      exfalso
      simp only [Request.Stored, List.getElem_singleton] at stored
      split at stored <;> cases stored
  | advance j now =>
    simp only [State.step] at found
    cases present : s.requests[j]? with
    | none =>
      rw [present] at found
      exact absurd stored (before request found)
    | some old =>
      rw [present] at found
      rcases advance_requests (s := s) j old now with same | ⟨phase, set, wasReading⟩
      · rw [same] at found
        exact absurd stored (before request found)
      · rw [set, List.getElem?_set] at found
        split at found
        next here =>
          split at found
          next =>
            cases found
            obtain ⟨current, reading⟩ := wasReading stored
            exact ⟨old, upserting_iff.mpr ⟨j, now, current, rfl, present, reading⟩, rfl, rfl⟩
          next => cases found
        next => exact absurd stored (before request found)

end

theorem stored_next {s : State} (keys : Keys) {i : Nat} (now : Int) {request : Request}
    {current : Option Int64} (found : s.requests[i]? = some request) (reading : request.phase = .read current) :
    (s.step keys (.advance i now)).requests[i]? = some { request with phase := .answered (.ok ()) } := by
  obtain ⟨bound, _⟩ := List.getElem?_eq_some_iff.mp found
  simp only [State.step, found, State.advance, reading, State.enter]
  rw [upsert_requests, List.getElem?_set_self bound]

/-- What the routes answer never goes back, and a 200 stored something newer than all before it. -/
structure MovesForward (keys : Keys) (s : State) (acts : List Action) : Prop where
  monotone : ∀ before after, before <+: after → after <+: acts →
    LaterVersions (Runs.run (State.step keys) s before) (Runs.run (State.step keys) s after)
  stored : ∀ front act (i : Nat) (request : Request), front ++ [act] <+: acts →
    (Runs.run (State.step keys) s (front ++ [act])).requests[i]? = some request → request.Stored →
    (∀ old : Request, (Runs.run (State.step keys) s front).requests[i]? = some old → ¬ old.Stored) →
      (Runs.run (State.step keys) s (front ++ [act])).versionRead request.body.kind request.master =
          some request.body.version ∧
        ∀ earlier, earlier <+: front → ∀ old,
          (Runs.run (State.step keys) s earlier).versionRead request.body.kind request.master = some old →
            old < request.body.version

section

variable {keys : Keys} {s : State} (checked : s.Checked)

include checked

theorem run_checked (keys : Keys) (acts : List Action) : (Runs.run (State.step keys) s acts).Checked :=
  Runs.run_invariant State.Checked (fun _ act => step_checked act) s checked acts

theorem run_later {acts before after : List Action}
    (met : Runs.Meets (State.step keys) State.Undisturbed s acts) (start : before <+: after)
    (stop : after <+: acts) :
    LaterVersions (Runs.run (State.step keys) s before) (Runs.run (State.step keys) s after) := by
  obtain ⟨rest, rfl⟩ := stop
  obtain ⟨middle, rfl⟩ := start
  have metAfter := (Runs.Meets.append.mp met).1
  rw [Runs.run_append]
  exact (Runs.Meets.append.mp metAfter).2.climbs State.Checked LaterVersions LaterVersions.refl
    LaterVersions.trans (fun _ act checked _ => step_checked act checked)
    (fun _ _ checked => step_later checked) (run_checked checked keys before)

theorem movesForward_of_meets {acts : List Action}
    (met : Runs.Meets (State.step keys) State.Undisturbed s acts) : MovesForward keys s acts where
  monotone _ _ start stop := run_later checked met start stop
  stored front act i request inside found stored before := by
    have front' : front <+: acts := (List.prefix_append front [act]).trans inside
    have checkedFront := run_checked checked keys front
    have undisturbed := Runs.meets_iff.mp met front act inside
    rw [Runs.run_append, Runs.run_cons, Runs.run_nil] at found ⊢
    obtain ⟨old, writes, sameBody, sameMaster⟩ := stored_now found stored before
    rw [← sameBody, ← sameMaster, step_version checkedFront, writes]
    refine ⟨if_pos ⟨rfl, rfl⟩, ?_⟩
    intro earlier start version held
    obtain ⟨newest, read, older⟩ := run_later checked met start front' _ _ version held
    have newer := (undisturbed_iff checkedFront act).mp undisturbed old writes newest read
    exact UInt64.lt_of_le_of_lt older newer

theorem meets_of_movesForward {acts : List Action} (forward : MovesForward keys s acts) :
    Runs.Meets (State.step keys) State.Undisturbed s acts := by
  rw [Runs.meets_iff]
  intro front act inside
  have checkedFront := run_checked checked keys front
  refine (undisturbed_iff checkedFront act).mpr ?_
  intro request writes version held
  obtain ⟨i, now, current, rfl, found, reading⟩ := upserting_iff.mp writes
  have answered : (Runs.run (State.step keys) s (front ++ [.advance i now])).requests[i]? =
      some { request with phase := .answered (.ok ()) } := by
    rw [Runs.run_append, Runs.run_cons, Runs.run_nil]
    exact stored_next keys now found reading
  refine (forward.stored front _ i _ inside answered rfl ?_).2 front List.prefix_rfl version held
  intro old same stored
  rw [found] at same
  cases same
  rw [Request.Stored, reading] at stored
  cases stored

end

/--
From any stored rows, over any interleaving of the statements of any requests, personal state moves
forward exactly when every upsert is undisturbed.
-/
theorem movesForward_iff (keys : Keys) (auth : AuthState) (designations : Table DesignationRow)
    (prefsBlobs : Table PrefsRow) (acts : List Action) :
    MovesForward keys { auth := auth, designations := designations, prefsBlobs := prefsBlobs } acts ↔
      Runs.Meets (State.step keys) State.Undisturbed
        { auth := auth, designations := designations, prefsBlobs := prefsBlobs } acts := by
  have checked : State.Checked { auth := auth, designations := designations, prefsBlobs := prefsBlobs } := by
    intro request member
    cases member
  exact ⟨meets_of_movesForward checked, movesForward_of_meets checked⟩

def linkedHub : AuthState :=
  { db := { users := (∅ : Table User).insert (namedKey 2) { masterPubkey := some (namedKey 1) } } }

def designationOf (sequence : UInt64) : Body :=
  .designation { masterPubkey := namedKey 1, hubs := ["https://home"], issuedAt := 1, sequence := sequence
                 signature := signedBy 1 }

-- One request after the other: the first stores 2^63, the second 5.
def wrapsAround : List Action :=
  [ .arrive (namedKey 1) (designationOf 9223372036854775808), .advance 0 1, .advance 0 1, .advance 0 1,
    .arrive (namedKey 1) (designationOf 5), .advance 1 2, .advance 1 2, .advance 1 2 ]

theorem movesForward_wraps : ¬ MovesForward openKeys { auth := linkedHub } wrapsAround := by
  intro forward
  have first : (Runs.run (State.step openKeys) { auth := linkedHub } (wrapsAround.take 4)).versionRead
      .designation (namedKey 1) = some (2 ^ 63) := by
    decide +kernel
  have last : (Runs.run (State.step openKeys) { auth := linkedHub } wrapsAround).versionRead
      .designation (namedKey 1) = some 5 := by
    decide +kernel
  obtain ⟨new, read, newer⟩ := forward.monotone (wrapsAround.take 4) wrapsAround
    (List.take_prefix 4 wrapsAround) List.prefix_rfl .designation (namedKey 1) (2 ^ 63) first
  rw [last] at read
  cases read
  exact absurd newer (by decide +kernel)

end Wavvon.Personal
