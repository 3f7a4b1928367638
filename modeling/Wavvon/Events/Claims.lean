import Wavvon.Events.Slots

set_option autoImplicit false

namespace Wavvon.Events

open Std (ExtTreeMap)
open Interleaving (Handler Discipline Fits FitAll System Moves Assertions Holds fits_quiet)

-- How far the transaction of a request is, and what it has read.
inductive Phase where
  | idle
  | locked (eventId slotId : String) (capacity : Option Int64)
  | counted (eventId slotId user : String)
  | writing (row : RsvpRow)
  deriving DecidableEq

structure Progress where
  tx : Nat
  phase : Phase := .idle
  deriving DecidableEq

def Phase.allows (phase : Phase) (row : RsvpRow) : Prop :=
  ∀ slotId, row.slotId = some slotId →
    phase = .locked row.eventId slotId none ∨ phase = .counted row.eventId slotId row.userPubkey

def Phase.counts (phase : Phase) (slotId user : String) (claimed : Nat) : Phase :=
  match phase with
  | .locked eventId own (some cap) =>
    if own = slotId ∧ (claimed : Int) < cap.toInt then .counted eventId own user else phase
  | _ => phase

-- A claim is written by who has locked the slot and found room; a capacity, by who found enough.
def slotRules : Discipline Signups Statement Progress where
  advance p label s :=
    match label with
    | .lockSlot eventId slotId =>
      match slotOfEvent s eventId slotId with
      | none => p
      | some row => { p with phase := .locked eventId slotId row.capacity }
    | .countOthers slotId user => { p with phase := p.phase.counts slotId user (countOtherClaims s slotId user) }
    | .upsert row => { p with phase := .writing row }
    | .commit _ | .rollback => { p with phase := .idle }
    | _ => p
  permits p label s after :=
    after = label.effect p.tx s ∧
      match label with
      | .upsert row => p.phase.allows row
      | .commit row => p.phase = .writing row
      | .updateCapacity _ capacity => p.phase = .idle ∧ ∀ limit, capacity = some limit → 0 ≤ limit.toInt
      | .insertSlot _ _ | .updateName _ _ | .deleteSlot _ => p.phase = .idle
      | _ => True

/-- Any number of requests about slots, in flight on one hub. -/
abbrev Desk := System Signups Statement Progress Unit

namespace Desk

def start (s : Signups) (requests : List SlotRequest) : Desk where
  shared := s
  tasks := requests.zipIdx.map fun request => { progress := { tx := request.2 }, handler := request.1.handle request.2 }

abbrev next : Desk → Nat → Desk := Interleaving.gatedStep (fun p label s => label.ready p.tx s) slotRules

end Desk

/-- No slot is over-claimed, every claim names a slot of its event, and each user has one claim. -/
structure Sound (s : Signups) : Prop where
  within : ∀ (slotId : String) (row : SlotRow), s.hub.slots[slotId]? = some row → ∀ cap ∈ row.capacity,
    (countSlotClaims s slotId : Int) ≤ max cap.toInt 0
  named : ∀ row ∈ s.rsvps, ∀ slotId, row.slotId = some slotId →
    ∃ slot : SlotRow, s.hub.slots[slotId]? = some slot ∧ slot.eventId = row.eventId
  once : (s.rsvps.map RsvpRow.key).Nodup

-- The check of the handler still stands when the capacity is written.
def StillFits (s : Signups) : Statement → Prop
  | .updateCapacity slotId (some capacity) => slotId ∈ s.hub.slots → (countSlotClaims s slotId : Int) ≤ capacity.toInt
  | _ => True

instance (s : Signups) : (label : Statement) → Decidable (StillFits s label)
  | .updateCapacity slotId (some capacity) =>
    inferInstanceAs (Decidable (slotId ∈ s.hub.slots → (countSlotClaims s slotId : Int) ≤ capacity.toInt))
  | .updateCapacity _ none | .read | .lockSlot _ _ | .countOthers _ _ | .upsert _ | .commit _ | .rollback
  | .insertSlot _ _ | .updateName _ _ | .deleteSlot _ => inferInstanceAs (Decidable True)

def Desk.UpToDate (sys : Desk) (i : Nat) : Prop :=
  ∀ move ∈ sys.pending i, move.2.ready move.1.tx sys.shared = true → StillFits sys.shared move.2

instance (sys : Desk) (i : Nat) : Decidable (sys.UpToDate i) :=
  inferInstanceAs (Decidable (∀ move ∈ sys.pending i, move.2.ready move.1.tx sys.shared = true →
    StillFits sys.shared move.2))

section

variable {A B : Type} {post : Progress → B → Prop} {p : Progress} {tx : Nat}

theorem read_andThen {E : Type} {read : Signups → Except E A} {rest : A → Handle (Except E B)}
    (goesOn : ∀ answer, Fits slotRules (fun _ _ => True) { tx := tx } (rest answer)) :
    Fits slotRules (fun _ _ => True) { tx := tx } ((exec tx .read read).andThen rest) := by
  refine fits_quiet (fun _ => rfl) (fun _ => ⟨rfl, trivial⟩) ?_
  intro answer
  cases answer with
  | error e => trivial
  | ok value => exact goesOn value

theorem upsertRsvp_fits {row : RsvpRow} {phase : Phase} (allowed : phase.allows row) :
    Fits slotRules (fun _ _ => True) { tx := tx, phase := phase } (upsertRsvp tx row) := by
  refine ⟨fun _ => ⟨rfl, allowed⟩, ?_⟩
  intro s
  simp only [Handler.bind]
  cases checkUpsert s row with
  | error e => exact ⟨fun _ => ⟨rfl, trivial⟩, fun _ => trivial⟩
  | ok value => exact ⟨fun _ => ⟨rfl, rfl⟩, fun _ => trivial⟩

theorem claimSlot_fits {row : RsvpRow} {slotId : String} (claims : row.slotId = some slotId) :
    Fits slotRules (fun _ _ => True) { tx := tx } (claimSlot tx row slotId) := by
  refine ⟨fun _ => ⟨rfl, trivial⟩, ?_⟩
  intro s
  simp only [Handler.bind, slotRules]
  cases found : slotOfEvent s row.eventId slotId with
  | none => exact ⟨fun _ => ⟨rfl, trivial⟩, fun _ => trivial⟩
  | some slot =>
    dsimp only [Option.map_some]
    cases limit : slot.capacity with
    | none =>
      refine upsertRsvp_fits ?_
      intro other same
      obtain rfl := Option.some.inj (claims.symm.trans same)
      exact .inl rfl
    | some cap =>
      refine ⟨fun _ => ⟨rfl, trivial⟩, ?_⟩
      intro s
      simp only [Handler.bind]
      split
      next => exact ⟨fun _ => ⟨rfl, trivial⟩, fun _ => trivial⟩
      next room =>
        refine upsertRsvp_fits ?_
        intro other same
        obtain rfl := Option.some.inj (claims.symm.trans same)
        exact .inr (if_pos ⟨rfl, not_le.mp room⟩)

theorem rsvpEvent_fits (user eventId : String) (req : RsvpRequest) :
    Fits slotRules (fun _ _ => True) { tx := tx } (rsvpEvent tx user eventId req) := by
  unfold rsvpEvent
  cases RsvpStatus.parse req.status with
  | none => trivial
  | some status =>
    refine read_andThen ?_
    intro event
    split
    next unslotted =>
      refine upsertRsvp_fits ?_
      intro slotId claims
      cases unslotted.symm.trans claims
    next claims => exact claimSlot_fits claims

theorem createSlot_fits (user eventId : String) (req : CreateSlotRequest) (id : String) (now : Int) :
    Fits slotRules (fun _ _ => True) { tx := tx } (createSlot tx user eventId req id now) := by
  refine read_andThen ?_
  intro channel
  dsimp only
  split
  next => trivial
  next =>
    refine fits_quiet (fun _ => rfl) (fun _ => ⟨rfl, trivial⟩) ?_
    intro position
    refine fits_quiet (fun _ => rfl) (fun _ => ⟨rfl, rfl⟩) ?_
    intro inserted
    cases inserted <;> trivial

theorem checkCapacity_fits (slotId : String) (capacity : Option (Option Int64)) :
    Fits slotRules (fun q answer => q = { tx := tx } ∧
      (answer.isOk = true → ∀ limit, capacity = some (some limit) → 0 ≤ limit.toInt)) { tx := tx }
      (checkCapacity tx slotId capacity) := by
  unfold checkCapacity
  split
  next limit =>
    refine fits_quiet (fun _ => rfl) (fun _ => ⟨rfl, trivial⟩) ?_
    intro claimed
    split
    next => exact ⟨rfl, fun fine => by cases fine⟩
    next enough =>
      refine ⟨rfl, ?_⟩
      intro _ other same
      cases same
      omega
  next other =>
    refine ⟨rfl, ?_⟩
    intro _ limit same
    exact absurd same (other limit)

theorem updateSlot_fits (user eventId slotId : String) (req : UpdateSlotRequest) :
    Fits slotRules (fun _ _ => True) { tx := tx } (updateSlot tx user eventId slotId req) := by
  refine read_andThen ?_
  intro channel
  refine read_andThen ?_
  intro row
  split
  next => trivial
  next =>
    refine (checkCapacity_fits slotId req.capacity).andThen (fun _ _ _ => trivial) ?_
    rintro q value ⟨rfl, enough⟩
    have respond : Fits slotRules (fun _ _ => True) { tx := tx } (slotResponse tx eventId slotId) := by
      refine read_andThen ?_
      intro row
      exact fits_quiet (fun _ => rfl) (fun _ => ⟨rfl, trivial⟩) fun _ => trivial
    have resize : Fits slotRules (fun q _ => q = { tx := tx }) { tx := tx } (storeCapacity tx slotId req.capacity) := by
      cases wanted : req.capacity with
      | none => rfl
      | some capacity =>
        refine ⟨fun _ => ⟨rfl, rfl, ?_⟩, fun _ => rfl⟩
        rintro limit rfl
        exact enough rfl limit wanted
    have rename : Fits slotRules (fun q _ => q = { tx := tx }) { tx := tx } (storeName tx slotId req.name) := by
      cases req.name with
      | none => rfl
      | some name => exact ⟨fun _ => ⟨rfl, rfl⟩, fun _ => rfl⟩
    refine rename.bind ?_
    rintro q _ rfl
    refine resize.bind ?_
    rintro q _ rfl
    exact respond

theorem deleteSlot_fits (user eventId slotId : String) :
    Fits slotRules (fun _ _ => True) { tx := tx } (deleteSlot tx user eventId slotId) := by
  refine read_andThen ?_
  intro channel
  refine read_andThen ?_
  intro row
  refine fits_quiet (fun _ => rfl) (fun _ => ⟨rfl, trivial⟩) ?_
  intro claimed
  split
  next => trivial
  next => exact ⟨fun _ => ⟨rfl, rfl⟩, fun _ => trivial⟩

theorem handle_fits (request : SlotRequest) : Fits slotRules (fun _ _ => True) { tx := tx } (request.handle tx) := by
  cases request with
  | rsvp user eventId req => exact (rsvpEvent_fits user eventId req).bind fun _ _ _ => trivial
  | create user eventId req id now => exact (createSlot_fits user eventId req id now).bind fun _ _ _ => trivial
  | update user eventId slotId req => exact (updateSlot_fits user eventId slotId req).bind fun _ _ _ => trivial
  | delete user eventId slotId => exact (deleteSlot_fits user eventId slotId).bind fun _ _ _ => trivial

end

-- A slot of the event that a transaction has locked.
def Grips (s : Signups) (tx : Nat) (eventId slotId : String) (holds : SlotRow → Prop) : Prop :=
  s.slotLocks[slotId]? = some tx ∧ ∃ slot : SlotRow, s.hub.slots[slotId]? = some slot ∧ slot.eventId = eventId ∧
    holds slot

def HasRoom (s : Signups) (tx : Nat) (eventId slotId user : String) : Prop :=
  Grips s tx eventId slotId fun slot => ∀ cap ∈ slot.capacity, (countOtherClaims s slotId user : Int) < cap.toInt

def Knows (s : Signups) (tx : Nat) : Phase → Prop
  | .idle => True
  | .locked eventId slotId capacity => Grips s tx eventId slotId fun slot => slot.capacity = capacity
  | .counted eventId slotId user => HasRoom s tx eventId slotId user
  | .writing row => ∀ slotId, row.slotId = some slotId → HasRoom s tx row.eventId slotId row.userPubkey

def deskAssertions : Assertions Signups Progress where
  shared := Sound
  task i p s := p.tx = i ∧ Knows s i p.phase

section

variable {s : Signups} {tx : Nat} {eventId slotId user : String}

/-- What the others leave of a slot that is locked. -/
structure Spares (tx : Nat) (s after : Signups) : Prop where
  locks : ∀ slotId : String, s.slotLocks[slotId]? = some tx → after.slotLocks[slotId]? = some tx
  slots : ∀ (slotId : String) (slot : SlotRow), s.slotLocks[slotId]? = some tx → s.hub.slots[slotId]? = some slot →
    after.hub.slots[slotId]? = some slot
  claims : ∀ slotId user, s.slotLocks[slotId]? = some tx → slotId ∈ s.hub.slots →
    countOtherClaims after slotId user ≤ countOtherClaims s slotId user

theorem Grips.spared {after : Signups} {holds wider : SlotRow → Prop} (grips : Grips s tx eventId slotId holds)
    (spares : Spares tx s after) (wide : slotId ∈ s.hub.slots → ∀ slot, holds slot → wider slot) :
    Grips after tx eventId slotId wider := by
  obtain ⟨locked, slot, stored, own, held⟩ := grips
  refine ⟨spares.locks slotId locked, slot, spares.slots slotId slot locked stored, own, wide ?_ slot held⟩
  exact ExtTreeMap.mem_iff_isSome_getElem?.mpr (by rw [stored]; rfl)

theorem HasRoom.spared {after : Signups} (room : HasRoom s tx eventId slotId user) (spares : Spares tx s after) :
    HasRoom after tx eventId slotId user := by
  have locked := room.1
  refine Grips.spared room spares ?_
  intro listed slot free cap limit
  have fewer := spares.claims slotId user locked listed
  have below := free cap limit
  omega

theorem Knows.spared {after : Signups} {phase : Phase} (knows : Knows s tx phase) (spares : Spares tx s after) :
    Knows after tx phase := by
  cases phase with
  | idle => trivial
  | locked eventId slotId capacity => exact Grips.spared knows spares fun _ _ same => same
  | counted eventId slotId user => exact HasRoom.spared knows spares
  | writing row => exact fun slotId claims => (knows slotId claims).spared spares

theorem slotOfEvent_eq {slot : SlotRow} (found : slotOfEvent s eventId slotId = some slot) :
    s.hub.slots[slotId]? = some slot ∧ slot.eventId = eventId := by
  obtain ⟨stored, own⟩ := Option.filter_eq_some_iff.mp found
  exact ⟨stored, of_decide_eq_true own⟩

theorem slotFree_other {other : Nat} (free : slotFree s other slotId = true) (locked : s.slotLocks[slotId]? = some tx) :
    other = tx := by
  rw [slotFree, locked] at free
  exact (of_decide_eq_true free).symm

theorem withoutSlot_claims {gone : String} (apart : slotId ≠ gone) (row : RsvpRow) :
    (withoutSlot gone row).claims slotId = row.claims slotId := by
  unfold withoutSlot
  split
  next named => simp [RsvpRow.claims, named, Ne.symm apart]
  next => rfl

theorem unlock_keeps {other : Nat} (apart : other ≠ tx) (locked : s.slotLocks[slotId]? = some tx) :
    (unlock s other).slotLocks[slotId]? = some tx := by
  simp [unlock, ExtTreeMap.getElem?_filter, locked, Ne.symm apart]

theorem countOther_commit {row : RsvpRow} (elsewhere : row.slotId ≠ some slotId) :
    (row :: s.rsvps.filter fun other => decide (other.key ≠ row.key)).countP
        (fun other => other.claims slotId && decide (other.userPubkey ≠ user)) ≤ countOtherClaims s slotId user := by
  rw [List.countP_cons_of_neg (by simp [RsvpRow.claims, elsewhere])]
  exact List.Sublist.countP_le List.filter_sublist

-- A statement of another transaction stops at the locked slot.
theorem effect_spares {other : Nat} (apart : other ≠ tx) {label : Statement} (ready : label.ready other s = true)
    (commits : ∀ row, label = .commit row → Knows s other (.writing row)) : Spares tx s (label.effect other s) := by
  have away {slotId free : String} (locked : s.slotLocks[slotId]? = some tx) (opened : slotFree s other free = true) :
      slotId ≠ free := by
    rintro rfl
    exact apart (slotFree_other opened locked)
  cases label with
  | read => exact ⟨fun _ h => h, fun _ _ _ h => h, fun _ _ _ _ => le_rfl⟩
  | countOthers slotId user => exact ⟨fun _ h => h, fun _ _ _ h => h, fun _ _ _ _ => le_rfl⟩
  | lockSlot eventId target =>
    rw [Statement.effect]
    split
    next exists_ =>
      refine ⟨?_, fun _ _ _ h => h, fun _ _ _ _ => le_rfl⟩
      intro slotId locked
      have open_ : slotFree s other target = true := by
        simpa [Statement.ready, Option.isSome_iff_ne_none.mp exists_] using ready
      simp [ExtTreeMap.getElem?_insert, (away locked open_).symm, locked]
    next => exact ⟨fun _ h => h, fun _ _ _ h => h, fun _ _ _ _ => le_rfl⟩
  | upsert row =>
    rw [Statement.effect]
    split <;> exact ⟨fun _ h => h, fun _ _ _ h => h, fun _ _ _ _ => le_rfl⟩
  | commit row =>
    refine ⟨fun _ locked => unlock_keeps apart locked, fun _ _ _ h => h, ?_⟩
    intro slotId user locked _
    refine countOther_commit ?_
    intro claims
    exact apart (Option.some.inj ((commits row rfl slotId claims).1.symm.trans locked))
  | rollback => exact ⟨fun _ locked => unlock_keeps apart locked, fun _ _ _ h => h, fun _ _ _ _ => le_rfl⟩
  | insertSlot id row =>
    rw [Statement.effect]
    split
    next => exact ⟨fun _ h => h, fun _ _ _ h => h, fun _ _ _ _ => le_rfl⟩
    next accepted =>
      refine ⟨fun _ h => h, ?_, fun _ _ _ _ => le_rfl⟩
      intro slotId slot _ stored
      have fresh : id ≠ slotId := by
        rintro rfl
        have listed : id ∈ s.hub.slots := ExtTreeMap.mem_iff_isSome_getElem?.mpr (by rw [stored]; rfl)
        simp [checkInsertSlot, listed] at accepted
      simp [withSlots, ExtTreeMap.getElem?_insert, fresh, stored]
  | updateName target name =>
    refine ⟨fun _ h => h, ?_, fun _ _ _ _ => le_rfl⟩
    intro slotId slot locked stored
    simp [Statement.effect, withSlots, ExtTreeMap.getElem?_modify, (away locked ready).symm, stored]
  | updateCapacity target capacity =>
    refine ⟨fun _ h => h, ?_, fun _ _ _ _ => le_rfl⟩
    intro slotId slot locked stored
    simp [Statement.effect, withSlots, ExtTreeMap.getElem?_modify, (away locked ready).symm, stored]
  | deleteSlot target =>
    have open_ := (Bool.and_eq_true_iff.mp ready).1
    refine ⟨fun _ h => h, ?_, ?_⟩
    next =>
      intro slotId slot locked stored
      simp [Statement.effect, withSlots, ExtTreeMap.getElem?_erase, (away locked open_).symm, stored]
    next =>
      intro slotId user locked _
      refine le_of_eq ?_
      rw [countOtherClaims, Statement.effect, List.countP_map]
      refine List.countP_congr fun row _ => ?_
      have sameUser : (withoutSlot target row).userPubkey = row.userPubkey := by
        unfold withoutSlot
        split <;> rfl
      simp only [Function.comp_apply, withoutSlot_claims (away locked open_), sameUser]

theorem withoutSlot_key (gone : String) (row : RsvpRow) : (withoutSlot gone row).key = row.key := by
  unfold withoutSlot
  split <;> rfl

theorem withoutSlot_slotId {gone : String} {row : RsvpRow} (left : (withoutSlot gone row).slotId = some slotId) :
    row.slotId = some slotId ∧ slotId ≠ gone := by
  unfold withoutSlot at left
  split at left
  next => cases left
  next other =>
    refine ⟨left, ?_⟩
    rintro rfl
    exact other left

-- Those who claim a slot besides a user, in a sound state.
theorem claims_besides (sound : Sound s) {row : RsvpRow} {slot : SlotRow} (stored : s.hub.slots[slotId]? = some slot)
    (own : slot.eventId = row.eventId) :
    (s.rsvps.filter fun other => decide (other.key ≠ row.key)).countP (·.claims slotId) ≤
      countOtherClaims s slotId row.userPubkey := by
  rw [List.countP_filter]
  refine List.countP_mono_left fun other listed counted => ?_
  obtain ⟨claims, apart⟩ := Bool.and_eq_true_iff.mp counted
  have names : other.slotId = some slotId := of_decide_eq_true (Bool.and_eq_true_iff.mp claims).1
  obtain ⟨same, found, event⟩ := sound.named other listed slotId names
  obtain rfl := Option.some.inj (stored.symm.trans found)
  have user : other.userPubkey ≠ row.userPubkey := by
    intro equal
    refine of_decide_eq_true apart ?_
    rw [RsvpRow.key, RsvpRow.key, ← event, own, equal]
  rw [claims, decide_eq_true user]
  rfl

theorem Sound.commit (sound : Sound s) {row : RsvpRow} (knows : Knows s tx (.writing row)) :
    Sound ((Statement.commit row).effect tx s) := by
  refine ⟨?_, ?_, ?_⟩
  next =>
    intro slotId slot stored cap limit
    have before := sound.within slotId slot stored cap limit
    have counted : countSlotClaims ((Statement.commit row).effect tx s) slotId =
        (s.rsvps.filter fun other => decide (other.key ≠ row.key)).countP (·.claims slotId) +
          if row.claims slotId then 1 else 0 := List.countP_cons
    rw [counted]
    split
    next claims =>
      have names : row.slotId = some slotId := of_decide_eq_true (Bool.and_eq_true_iff.mp claims).1
      obtain ⟨_, same, found, own, room⟩ := knows slotId names
      obtain rfl := Option.some.inj (stored.symm.trans found)
      have free := room cap limit
      have besides := claims_besides sound stored own
      omega
    next =>
      have fewer : (s.rsvps.filter fun other => decide (other.key ≠ row.key)).countP (·.claims slotId) ≤
          countSlotClaims s slotId := List.Sublist.countP_le List.filter_sublist
      omega
  next =>
    intro other listed slotId names
    obtain rfl | listed := List.mem_cons.mp listed
    · obtain ⟨_, slot, stored, own, _⟩ := knows slotId names
      exact ⟨slot, stored, own⟩
    · exact sound.named other (List.mem_of_mem_filter listed) slotId names
  next =>
    refine List.nodup_cons.mpr ⟨?_, (List.Sublist.map _ List.filter_sublist).nodup sound.once⟩
    intro listed
    obtain ⟨other, member, same⟩ := List.mem_map.mp listed
    exact of_decide_eq_true (List.mem_filter.mp member).2 same

theorem Sound.insertSlot (sound : Sound s) (id : String) (row : SlotRow) :
    Sound ((Statement.insertSlot id row).effect tx s) := by
  rw [Statement.effect]
  split
  next => exact sound
  next accepted =>
    have fresh : id ∉ s.hub.slots := by
      intro listed
      simp [checkInsertSlot, listed] at accepted
    refine ⟨?_, ?_, sound.once⟩
    next =>
      intro slotId slot stored cap limit
      by_cases here : id = slotId
      next =>
        have nobody : countSlotClaims s slotId = 0 := by
          refine List.countP_eq_zero.mpr fun other listed claims => ?_
          have names : other.slotId = some slotId := of_decide_eq_true (Bool.and_eq_true_iff.mp claims).1
          obtain ⟨there, found, _⟩ := sound.named other listed slotId names
          exact fresh (here ▸ ExtTreeMap.mem_iff_isSome_getElem?.mpr (by rw [found]; rfl))
        show ((countSlotClaims s slotId : Nat) : Int) ≤ max cap.toInt 0
        omega
      next =>
        rw [withSlots, ExtTreeMap.getElem?_insert, if_neg (by simpa using here)] at stored
        exact sound.within slotId slot stored cap limit
    next =>
      intro other listed slotId names
      obtain ⟨slot, found, own⟩ := sound.named other listed slotId names
      have apart : id ≠ slotId := by
        rintro rfl
        exact fresh (ExtTreeMap.mem_iff_isSome_getElem?.mpr (by rw [found]; rfl))
      refine ⟨slot, ?_, own⟩
      rw [withSlots, ExtTreeMap.getElem?_insert, if_neg (by simpa using apart)]
      exact found

theorem Sound.deleteSlot (sound : Sound s) (target : String) : Sound ((Statement.deleteSlot target).effect tx s) := by
  refine ⟨?_, ?_, ?_⟩
  next =>
    intro slotId slot stored cap limit
    rw [Statement.effect, withSlots, ExtTreeMap.getElem?_erase] at stored
    split at stored
    next => cases stored
    next apart =>
      have away : slotId ≠ target := by
        rintro rfl
        exact apart Std.ReflCmp.compare_self
      have same : countSlotClaims ((Statement.deleteSlot target).effect tx s) slotId = countSlotClaims s slotId := by
        rw [countSlotClaims, Statement.effect, List.countP_map]
        exact List.countP_congr fun row _ => by rw [Function.comp_apply, withoutSlot_claims away]
      rw [same]
      exact sound.within slotId slot stored cap limit
  next =>
    intro other listed slotId names
    obtain ⟨row, before, rfl⟩ := List.mem_map.mp listed
    obtain ⟨named, apart⟩ := withoutSlot_slotId names
    obtain ⟨slot, found, own⟩ := sound.named row before slotId named
    refine ⟨slot, ?_, own.trans (congrArg Prod.fst (withoutSlot_key target row)).symm⟩
    rw [Statement.effect, withSlots, ExtTreeMap.getElem?_erase, if_neg (by simpa using apart.symm)]
    exact found
  next =>
    rw [Statement.effect, List.map_map]
    exact (List.map_congr_left fun row _ => withoutSlot_key target row).symm ▸ sound.once

-- A slot row that is rewritten keeps its event, and its limit where it is not resized.
theorem Sound.modifySlot (sound : Sound s) {target : String} {change : SlotRow → SlotRow}
    (own : ∀ slot, (change slot).eventId = slot.eventId)
    (within : ∀ slot : SlotRow, s.hub.slots[target]? = some slot → ∀ cap ∈ (change slot).capacity,
      (countSlotClaims s target : Int) ≤ max cap.toInt 0) :
    Sound (withSlots s (s.hub.slots.modify target change)) := by
  refine ⟨?_, ?_, sound.once⟩
  next =>
    intro slotId slot stored cap limit
    rw [withSlots, ExtTreeMap.getElem?_modify] at stored
    split at stored
    next here =>
      obtain rfl := Std.LawfulEqCmp.eq_of_compare here
      obtain ⟨old, found, rfl⟩ := Option.map_eq_some_iff.mp stored
      exact within old found cap limit
    next => exact sound.within slotId slot stored cap limit
  next =>
    intro other listed slotId names
    obtain ⟨slot, found, event⟩ := sound.named other listed slotId names
    rw [withSlots, ExtTreeMap.getElem?_modify]
    split
    next here =>
      obtain rfl := Std.LawfulEqCmp.eq_of_compare here
      exact ⟨change slot, by rw [found]; rfl, (own slot).trans event⟩
    next => exact ⟨slot, found, event⟩

theorem Sound.effect (sound : Sound s) {label : Statement} (fits : StillFits s label)
    (commits : ∀ row, label = .commit row → Knows s tx (.writing row)) : Sound (label.effect tx s) := by
  cases label with
  | read => exact sound
  | countOthers slotId user => exact sound
  | lockSlot eventId slotId =>
    rw [Statement.effect]
    split
    next => exact ⟨sound.within, sound.named, sound.once⟩
    next => exact sound
  | upsert row =>
    rw [Statement.effect]
    split
    next => exact sound
    next => exact ⟨sound.within, sound.named, sound.once⟩
  | commit row => exact sound.commit (commits row rfl)
  | rollback => exact ⟨sound.within, sound.named, sound.once⟩
  | insertSlot id row => exact sound.insertSlot id row
  | updateName slotId name =>
    exact sound.modifySlot (fun _ => rfl) fun slot stored cap limit => sound.within slotId slot stored cap limit
  | updateCapacity slotId capacity =>
    refine sound.modifySlot (fun _ => rfl) ?_
    intro slot stored cap limit
    obtain rfl : capacity = some cap := limit
    exact le_max_of_le_left (fits (ExtTreeMap.mem_iff_isSome_getElem?.mpr (by rw [stored]; rfl)))
  | deleteSlot slotId => exact sound.deleteSlot slotId

-- What a transaction learns from its own statement.
theorem Knows.own {p : Progress} {label : Statement} (knows : Knows s p.tx p.phase)
    (permitted : slotRules.permits p label s (label.effect p.tx s)) :
    Knows (label.effect p.tx s) p.tx (slotRules.advance p label s).phase := by
  obtain ⟨_, allowed⟩ := permitted
  cases label with
  | read => exact knows
  | lockSlot eventId slotId =>
    simp only [slotRules, Statement.effect]
    cases found : slotOfEvent s eventId slotId with
    | none => simpa using knows
    | some slot =>
      obtain ⟨stored, own⟩ := slotOfEvent_eq found
      exact ⟨by simp, slot, stored, own, rfl⟩
  | countOthers slotId user =>
    show Knows s p.tx (p.phase.counts slotId user (countOtherClaims s slotId user))
    unfold Phase.counts
    split
    next eventId own cap here =>
      split
      next room =>
        obtain ⟨rfl, free⟩ := room
        rw [here] at knows
        obtain ⟨locked, slot, stored, event, limit⟩ := knows
        refine ⟨locked, slot, stored, event, ?_⟩
        intro other same
        obtain rfl := Option.some.inj (limit.symm.trans same)
        exact free
      next => exact knows
    next => exact knows
  | upsert row =>
    have writes : Knows s p.tx (.writing row) := by
      intro slotId claims
      obtain unlimited | counted := allowed slotId claims
      · rw [unlimited] at knows
        obtain ⟨locked, slot, stored, event, limit⟩ := knows
        refine ⟨locked, slot, stored, event, ?_⟩
        intro cap same
        cases limit.symm.trans same
      · rw [counted] at knows
        exact knows
    show Knows ((Statement.upsert row).effect p.tx s) p.tx (.writing row)
    rw [Statement.effect]
    split
    next => exact writes
    next => exact writes
  | commit row => trivial
  | rollback => trivial
  | insertSlot id row =>
    show Knows _ _ p.phase
    rw [allowed]
    trivial
  | updateName slotId name =>
    show Knows _ _ p.phase
    rw [allowed]
    trivial
  | updateCapacity slotId capacity =>
    show Knows _ _ p.phase
    rw [allowed.1]
    trivial
  | deleteSlot slotId =>
    show Knows _ _ p.phase
    rw [allowed]
    trivial

end

section

variable {sys : Desk} {i : Nat}

theorem next_holds (fit : FitAll slotRules (fun _ _ => True) sys) (held : Holds deskAssertions sys)
    (upToDate : sys.UpToDate i) : Holds deskAssertions (Desk.next sys i) := by
  obtain same | ⟨p, label, ready, moves⟩ : Desk.next sys i = sys ∨ ∃ p label, label.ready p.tx sys.shared = true ∧
      Moves slotRules sys (Desk.next sys i) i p label := Interleaving.gatedStep_cases fit i
  · rw [same]
    exact held
  · obtain ⟨rfl, knows⟩ := held.at moves.atStatement
    have effect : (Desk.next sys p.tx).shared = label.effect p.tx sys.shared := moves.permitted.1
    have commits : ∀ row, label = .commit row → Knows sys.shared p.tx (.writing row) := by
      rintro row rfl
      exact moves.permitted.2 ▸ knows
    refine held.moves moves ?_ ⟨?_, ?_⟩ ?_
    next =>
      rw [effect]
      exact held.shared.effect (upToDate (p, label)
        (Interleaving.System.atStatement_iff.mp moves.atStatement) ready) commits
    next =>
      cases label with
      | lockSlot eventId slotId =>
        simp only [slotRules]
        split <;> rfl
      | _ => rfl
    next =>
      have permitted := moves.permitted
      rw [effect] at permitted ⊢
      exact knows.own permitted
    next =>
      rintro j q apart ⟨rfl, known⟩
      rw [effect]
      exact ⟨rfl, known.spared (effect_spares apart.symm ready commits)⟩

-- A capacity that is written below the claims is over-claimed at once.
theorem upToDate_of_sound (fit : FitAll slotRules (fun _ _ => True) sys)
    (after : Sound (Desk.next sys i).shared) : sys.UpToDate i := by
  rintro ⟨p, label⟩ waits ready
  have standing := System.atStatement_iff.mpr waits
  cases label with
  | updateCapacity slotId capacity =>
    cases capacity with
    | none => trivial
    | some limit =>
      intro listed
      have moves := Interleaving.step_moves fit standing
      rw [Desk.next, Interleaving.gatedStep_ready standing ready, moves.permitted.1] at after
      have positive := moves.permitted.2.2 limit rfl
      obtain ⟨slot, stored⟩ := Option.isSome_iff_exists.mp (ExtTreeMap.mem_iff_isSome_getElem?.mp listed)
      have within := after.within slotId { slot with capacity := some limit }
        (by simp [Statement.effect, withSlots, stored]) limit rfl
      have same : countSlotClaims ((Statement.updateCapacity slotId (some limit)).effect p.tx sys.shared) slotId =
          countSlotClaims sys.shared slotId := rfl
      show (countSlotClaims sys.shared slotId : Int) ≤ limit.toInt
      omega
  | _ => trivial

theorem start_fits (s : Signups) (requests : List SlotRequest) :
    FitAll slotRules (fun _ _ => True) (Desk.start s requests) := by
  intro task listed
  obtain ⟨request, _, rfl⟩ := List.mem_map.mp listed
  exact handle_fits request.1

theorem start_holds {s : Signups} (sound : Sound s) (requests : List SlotRequest) :
    Holds deskAssertions (Desk.start s requests) := by
  refine ⟨sound, ?_⟩
  intro i p found
  rw [Interleaving.System.progresses, Desk.start, List.map_map, List.getElem?_map] at found
  obtain ⟨request, here, rfl⟩ := Option.map_eq_some_iff.mp found
  rw [List.getElem?_zipIdx] at here
  obtain ⟨_, _, rfl⟩ := Option.map_eq_some_iff.mp here
  exact ⟨Nat.zero_add i, trivial⟩

end

/--
However the statements interleave, no slot is over-claimed exactly if no capacity is written below
the claims that stand by then.
-/
theorem sound_iff_upToDate (s : Signups) (sound : Sound s) (requests : List SlotRequest) (schedule : List Nat) :
    (∀ front, front <+: schedule → Sound (Runs.run Desk.next (Desk.start s requests) front).shared) ↔
      Runs.Meets Desk.next Desk.UpToDate (Desk.start s requests) schedule := by
  have fits (front : List Nat) :
      FitAll slotRules (fun _ _ => True) (Runs.run Desk.next (Desk.start s requests) front) :=
    Runs.run_invariant (FitAll slotRules fun _ _ => True) (fun _ i fit => Interleaving.gatedStep_fit fit i) _
      (start_fits s requests) front
  constructor
  · intro always
    rw [Runs.meets_iff]
    intro front i before
    refine upToDate_of_sound (fits front) ?_
    have after := always (front ++ [i]) before
    rwa [Runs.run_append] at after
  · intro met front before
    obtain ⟨back, rfl⟩ := before
    have metFront := (Runs.Meets.append.mp met).1
    have kept := Runs.Meets.invariant
      (fun sys => FitAll slotRules (fun _ _ => True) sys ∧ Holds deskAssertions sys)
      (fun sys i held upToDate => ⟨Interleaving.gatedStep_fit held.1 i, next_holds held.1 held.2 upToDate⟩)
      ⟨start_fits s requests, start_holds sound requests⟩ metFront
    exact kept.2.shared

-- An event of ann's with room for one tank.
def signUpSheet : Signups where
  hub :=
    { forum :=
        { chat :=
            { db :=
                { users := ((∅ : Table User).insert "ann" { isMember := true }).insert "bob" { isMember := true }
                  channels := (∅ : Table Channel).insert "hall" { name := "hall", createdBy := "ann" } } } }
      events := (∅ : Table EventRow).insert "raid"
        { channelId := "hall", creatorPubkey := "ann", title := "raid", startsAt := 1000, createdAt := 0, hubWide := true }
      slots := (∅ : Table SlotRow).insert "tank"
        { eventId := "raid", name := "tank", capacity := some 1, position := 0, createdAt := 0 } }

theorem signUpSheet_sound : Sound signUpSheet where
  within slotId row _ cap _ := le_max_right cap.toInt 0
  named row listed := by cases listed
  once := List.nodup_nil

-- Ann closes the slot while bob claims it.
def closing : List SlotRequest :=
  [.update "ann" "raid" "tank" { capacity := some (some 0) }, .rsvp "bob" "raid" { status := "going", slotId := some "tank" }]

theorem sound_iff_upToDate_closing :
    (∀ front, front <+: [0, 0, 0, 0, 1, 1] → Sound (Runs.run Desk.next (Desk.start signUpSheet closing) front).shared) ↔
      Runs.Meets Desk.next Desk.UpToDate (Desk.start signUpSheet closing) [0, 0, 0, 0, 1, 1] :=
  sound_iff_upToDate signUpSheet signUpSheet_sound closing [0, 0, 0, 0, 1, 1]

-- Bob's claim is committed between the count and the write.
theorem closed_claimed :
    ¬ ∀ (s : Signups) (requests : List SlotRequest) (schedule : List Nat), Sound s →
      Sound (Runs.run Desk.next (Desk.start s requests) schedule).shared := by
  intro always
  let left := (Runs.run Desk.next (Desk.start signUpSheet closing) [0, 0, 0, 1, 1, 1, 1, 1, 0]).shared
  have sound : Sound left := always signUpSheet closing [0, 0, 0, 1, 1, 1, 1, 1, 0] signUpSheet_sound
  have claimed : countSlotClaims left "tank" = 1 := by decide +kernel
  have within := sound.within "tank" { eventId := "raid", name := "tank", capacity := some 0, position := 0, createdAt := 0 }
    (by decide +kernel) 0 rfl
  rw [claimed] at within
  exact absurd within (by decide)

end Wavvon.Events
