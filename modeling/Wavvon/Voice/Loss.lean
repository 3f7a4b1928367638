import Mathlib.Data.FinEnum
import Mathlib.Order.Interval.Finset.Nat
import Wavvon.Shared.Checked
import Wavvon.Voice.State

set_option autoImplicit false

namespace Wavvon.Loss

-- `track` with its arithmetic checked: `none` where counting one more overflows.
def trackChecked (prev : Option SenderLoss) (ctr : UInt64) : Option SenderLoss :=
  match prev with
  | none => some { highestCtr := ctr, firstCtr := ctr, received := 1 }
  | some p =>
    (Checked.add p.received 1).map fun received =>
      { highestCtr := max p.highestCtr ctr, firstCtr := min p.firstCtr ctr, received := received }

def trackAll (ctrs : List UInt64) : Option (Option SenderLoss) :=
  ctrs.foldlM (fun prev ctr => (trackChecked prev ctr).map some) none

-- How many counters were to be expected, and how many of them are lost.
def lossCounts (t : SenderLoss) : Option (UInt64 × UInt64) :=
  (Checked.add (Checked.satSub t.highestCtr t.firstCtr) 1).map fun expected =>
    (expected, Checked.satSub expected t.received)

-- What the figure in percent is computed from.
inductive Figure where
  | nothing
  | share (lost expected : UInt64)
  deriving DecidableEq, Repr

def lossPercent : Option SenderLoss → Option (Option Figure)
  | none => some none
  | some t =>
    (lossCounts t).map fun counts =>
      if counts.1 ≤ 1 then none
      else if counts.2 = 0 then some .nothing
      else some (.share counts.2 counts.1)

/-- A tracker that holds the greatest and the least of the counters, and how many they are. -/
structure Tracks (ctrs : List UInt64) (t : SenderLoss) : Prop where
  highest : t.highestCtr ∈ ctrs
  above : ∀ ctr ∈ ctrs, ctr ≤ t.highestCtr
  first : t.firstCtr ∈ ctrs
  below : ∀ ctr ∈ ctrs, t.firstCtr ≤ ctr
  counted : t.received.toNat = ctrs.length

-- The counters of the span that are not among those that arrived.
def missing (ctrs : List UInt64) (t : SenderLoss) : Finset Nat :=
  (Finset.Icc t.firstCtr.toNat t.highestCtr.toNat).filter fun n => ∀ ctr ∈ ctrs, ctr.toNat ≠ n

/-- No operation overflows, the tracker is exact in whatever order they arrive, and so is what is counted as lost. -/
def LossExact (ctrs : List UInt64) : Prop :=
  ∃ (t : SenderLoss) (expected lost : UInt64),
    (∀ arrived : List UInt64, arrived.Perm ctrs → trackAll arrived = some (some t)) ∧ Tracks ctrs t ∧
    (lossPercent (some t)).isSome ∧ lossCounts t = some (expected, lost) ∧
    expected.toNat = t.highestCtr.toNat - t.firstCtr.toNat + 1 ∧ lost.toNat = expected.toNat - ctrs.length ∧
    lost ≤ expected ∧ (ctrs.Nodup → lost.toNat = (missing ctrs t).card)

def MAX_CTR : UInt64 := 18446744073709551615

section

variable {ctrs arrived : List UInt64} {t u : SenderLoss} {ctr : UInt64}

-- Where nothing overflows, it is `track`.
theorem track_of_checked {prev : Option SenderLoss} (tracked : trackChecked prev ctr = some t) : t = track prev ctr := by
  cases prev with
  | none => exact (Option.some.inj tracked).symm
  | some p =>
    obtain ⟨received, sum, rfl⟩ := Option.map_eq_some_iff.mp tracked
    unfold Checked.add at sum
    split at sum
    next => rw [track, Option.some.inj sum]
    next => cases sum

theorem tracks_first (ctr : UInt64) : Tracks [ctr] { highestCtr := ctr, firstCtr := ctr, received := 1 } := by
  constructor <;> simp

theorem Tracks.step (tracks : Tracks ctrs t) (ctr : UInt64) (room : ctrs.length + 1 < 2 ^ 64) :
    ∃ u, trackChecked (some t) ctr = some u ∧ Tracks (ctrs ++ [ctr]) u := by
  have fits : (Checked.add t.received 1).isSome = true := by
    rw [Checked.add_isSome, tracks.counted]
    exact room
  obtain ⟨received, sum⟩ := Option.isSome_iff_exists.mp fits
  refine ⟨_, by rw [trackChecked, sum, Option.map_some], ?_⟩
  have total := Checked.toNat_add sum
  rw [tracks.counted] at total
  have upper : ∀ a b : UInt64, max a b = if a ≤ b then b else a := fun _ _ => rfl
  have lower : ∀ a b : UInt64, min a b = if a ≤ b then a else b := fun _ _ => rfl
  constructor
  · simp only [upper]
    split
    next => simp
    next => exact List.mem_append_left _ tracks.highest
  · intro other inside
    rcases List.mem_append.mp inside with before | last
    · have known := tracks.above other before
      simp only [UInt64.le_iff_toNat_le, UInt64.toNat_max] at known ⊢
      omega
    · obtain rfl := List.mem_singleton.mp last
      simp only [UInt64.le_iff_toNat_le, UInt64.toNat_max]
      omega
  · simp only [lower]
    split
    next => exact List.mem_append_left _ tracks.first
    next => simp
  · intro other inside
    rcases List.mem_append.mp inside with before | last
    · have known := tracks.below other before
      simp only [UInt64.le_iff_toNat_le, UInt64.toNat_min] at known ⊢
      omega
    · obtain rfl := List.mem_singleton.mp last
      simp only [UInt64.le_iff_toNat_le, UInt64.toNat_min]
      omega
  · rw [List.length_append, List.length_singleton]
    exact total

theorem trackAll_append (ctrs : List UInt64) (ctr : UInt64) :
    trackAll (ctrs ++ [ctr]) = (trackAll ctrs).bind fun prev => (trackChecked prev ctr).map some := by
  rw [trackAll, List.foldlM_append]
  change (trackAll ctrs).bind _ = _
  cases trackAll ctrs with
  | none => rfl
  | some prev =>
    rw [Option.bind_some, Option.bind_some, List.foldlM_cons]
    cases trackChecked prev ctr <;> rfl

theorem trackAll_tracks (some_arrived : ctrs ≠ []) (room : ctrs.length < 2 ^ 64) :
    ∃ t, trackAll ctrs = some (some t) ∧ Tracks ctrs t := by
  induction ctrs using List.reverseRecOn with
  | nil => exact absurd rfl some_arrived
  | append_singleton ctrs ctr ih =>
    rw [List.length_append, List.length_singleton] at room
    rw [trackAll_append]
    by_cases empty : ctrs = []
    · subst empty
      exact ⟨_, rfl, tracks_first ctr⟩
    · obtain ⟨t, before, tracks⟩ := ih empty (by omega)
      obtain ⟨u, tracked, after⟩ := tracks.step ctr room
      exact ⟨u, by rw [before, Option.bind_some, tracked, Option.map_some], after⟩

theorem trackAll_overflows (many : 2 ^ 64 ≤ ctrs.length) : trackAll ctrs = none := by
  induction ctrs using List.reverseRecOn with
  | nil => cases many
  | append_singleton ctrs ctr ih =>
    rw [List.length_append, List.length_singleton] at many
    rw [trackAll_append]
    by_cases before : 2 ^ 64 ≤ ctrs.length
    · rw [ih before, Option.bind_none]
    · have some_arrived : ctrs ≠ [] := by
        rintro rfl
        simp at many
      obtain ⟨t, tracked, tracks⟩ := trackAll_tracks some_arrived (by omega)
      have full : Checked.add t.received 1 = none := by
        rw [← Option.not_isSome_iff_eq_none, Checked.add_isSome, tracks.counted]
        have one : (1 : UInt64).toNat = 1 := rfl
        omega
      rw [tracked, Option.bind_some, trackChecked, full, Option.map_none, Option.map_none]

-- A tracker is determined by what arrived, whatever the order.
theorem Tracks.unique (first : Tracks ctrs t) (second : Tracks arrived u) (same : arrived.Perm ctrs) : u = t := by
  have highest : u.highestCtr = t.highestCtr := by
    have up := first.above _ (same.mem_iff.mp second.highest)
    have down := second.above _ (same.mem_iff.mpr first.highest)
    exact UInt64.le_antisymm up down
  have lowest : u.firstCtr = t.firstCtr := by
    have down := first.below _ (same.mem_iff.mp second.first)
    have up := second.below _ (same.mem_iff.mpr first.first)
    exact UInt64.le_antisymm up down
  have counted : u.received = t.received := by
    rw [← UInt64.toNat_inj, first.counted, second.counted, same.length_eq]
  cases u
  cases t
  simp only [SenderLoss.mk.injEq]
  exact ⟨highest, lowest, counted⟩

theorem missing_card (tracks : Tracks ctrs t) (distinct : ctrs.Nodup) :
    (missing ctrs t).card = t.highestCtr.toNat - t.firstCtr.toNat + 1 - ctrs.length := by
  have arrived : missing ctrs t =
      Finset.Icc t.firstCtr.toNat t.highestCtr.toNat \ (ctrs.map UInt64.toNat).toFinset := by
    ext n
    simp [missing, Finset.mem_sdiff]
  have inside : (ctrs.map UInt64.toNat).toFinset ⊆ Finset.Icc t.firstCtr.toNat t.highestCtr.toNat := by
    intro n listed
    obtain ⟨ctr, member, rfl⟩ := List.mem_map.mp (List.mem_toFinset.mp listed)
    exact Finset.mem_Icc.mpr
      ⟨UInt64.le_iff_toNat_le.mp (tracks.below ctr member), UInt64.le_iff_toNat_le.mp (tracks.above ctr member)⟩
  have numbers : (ctrs.map UInt64.toNat).Nodup := distinct.map fun _ _ same => UInt64.toNat_inj.mp same
  have span := UInt64.le_iff_toNat_le.mp (tracks.below _ tracks.highest)
  rw [arrived, Finset.card_sdiff_of_subset inside, Nat.card_Icc, List.toFinset_card_of_nodup numbers, List.length_map]
  omega

-- The span is the whole of the type exactly if both ends of it are seen.
theorem whole_span_iff (tracks : Tracks ctrs t) :
    t.highestCtr.toNat - t.firstCtr.toNat + 1 < 2 ^ 64 ↔ ¬ (0 ∈ ctrs ∧ MAX_CTR ∈ ctrs) := by
  have greatest : MAX_CTR.toNat = 2 ^ 64 - 1 := by decide
  have high := t.highestCtr.toNat_lt
  constructor
  · rintro short ⟨zero, last⟩
    have bottom := UInt64.le_iff_toNat_le.mp (tracks.below 0 zero)
    have top := UInt64.le_iff_toNat_le.mp (tracks.above MAX_CTR last)
    rw [UInt64.toNat_zero] at bottom
    omega
  · intro apart
    by_contra long
    have bottom : t.firstCtr = 0 := by
      rw [← UInt64.toNat_inj, UInt64.toNat_zero]
      omega
    have top : t.highestCtr = MAX_CTR := by
      rw [← UInt64.toNat_inj]
      omega
    exact apart ⟨bottom ▸ tracks.first, top ▸ tracks.highest⟩

end

/-- The account is exact unless both the least and the greatest counter arrive, or more datagrams than can be counted. -/
theorem lossExact_iff (ctrs : List UInt64) (some_arrived : ctrs ≠ []) :
    LossExact ctrs ↔ ctrs.length < 2 ^ 64 ∧ ¬ (0 ∈ ctrs ∧ MAX_CTR ∈ ctrs) := by
  by_cases room : ctrs.length < 2 ^ 64
  · obtain ⟨t, tracked, tracks⟩ := trackAll_tracks some_arrived room
    have one : (1 : UInt64).toNat = 1 := rfl
    have span : (Checked.add (Checked.satSub t.highestCtr t.firstCtr) 1).isSome = true ↔
        ¬ (0 ∈ ctrs ∧ MAX_CTR ∈ ctrs) := by
      rw [Checked.add_isSome, Checked.toNat_satSub, one, whole_span_iff tracks]
    rw [← span]
    constructor
    · rintro ⟨u, expected, lost, ordered, -, -, counts, -⟩
      obtain rfl : t = u := by
        have same := ordered ctrs (List.Perm.refl ctrs)
        rw [tracked] at same
        exact Option.some.inj (Option.some.inj same)
      refine ⟨room, ?_⟩
      obtain ⟨sum, found, -⟩ := Option.map_eq_some_iff.mp counts
      rw [found]
      rfl
    · rintro ⟨-, fits⟩
      obtain ⟨expected, sum⟩ := Option.isSome_iff_exists.mp fits
      have counts : lossCounts t = some (expected, Checked.satSub expected t.received) := by
        rw [lossCounts, sum, Option.map_some]
      have total := Checked.toNat_add sum
      rw [Checked.toNat_satSub, one] at total
      have lost := Checked.toNat_satSub expected t.received
      rw [tracks.counted] at lost
      refine ⟨t, expected, Checked.satSub expected t.received, ?_, tracks, ?_, counts, total, lost, ?_, ?_⟩
      · intro arrived same
        have any : arrived ≠ [] := by
          rintro rfl
          exact some_arrived same.nil_eq.symm
        obtain ⟨u, found, exact⟩ := trackAll_tracks any (by rw [same.length_eq]; exact room)
        rw [found, tracks.unique exact same]
      · rw [lossPercent, counts]
        rfl
      · rw [UInt64.le_iff_toNat_le, lost]
        omega
      · intro distinct
        rw [missing_card tracks distinct, lost, total]
  · refine iff_of_false ?_ fun fine => room fine.1
    rintro ⟨t, expected, lost, ordered, -⟩
    have same := ordered ctrs (List.Perm.refl ctrs)
    rw [trackAll_overflows (Nat.le_of_not_lt room)] at same
    cases same

theorem lossExact_gap : LossExact [7, 9, 5] :=
  (lossExact_iff [7, 9, 5] (List.cons_ne_nil _ _)).mpr (by decide)

-- The first datagram of a session is numbered 0 and the second with the greatest number there is.
theorem loss_overflows : ¬ ∀ ctrs : List UInt64, ctrs ≠ [] → LossExact ctrs := by
  intro always
  obtain ⟨t, expected, lost, ordered, -, -, counts, -⟩ := always [0, MAX_CTR] (List.cons_ne_nil _ _)
  have tracked : trackAll [0, MAX_CTR] = some (some { highestCtr := MAX_CTR, firstCtr := 0, received := 2 }) := by decide
  have same := ordered [0, MAX_CTR] (List.Perm.refl _)
  rw [tracked] at same
  obtain rfl := Option.some.inj (Option.some.inj same)
  revert counts
  have overflow : lossCounts { highestCtr := MAX_CTR, firstCtr := 0, received := 2 } = none := by decide
  rw [overflow]
  exact nofun

end Wavvon.Loss
