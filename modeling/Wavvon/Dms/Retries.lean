import Wavvon.Dms.Outbox

set_option autoImplicit false

namespace Wavvon.Dms

open Interleaving (Handler Discipline Fits FitAll System Moves)

/-- Everybody who works on the row of one message and one hub. -/
abbrev Outbox := System Slot OutboxStatement Holding Unit

namespace Outbox

variable (stored : Except LoadEnvelopeError FederatedDmRequest)

def start (calls : List OutboxCall) : Outbox where
  shared := {}
  tasks := calls.map fun call => { progress := .nothing, handler := call.handler stored }

abbrev next : Outbox → Nat → Outbox := Interleaving.step (outboxRules stored)

abbrev after (calls : List OutboxCall) (schedule : List Nat) : Outbox :=
  Runs.run (next stored) (start stored calls) schedule

end Outbox

/-- The row goes when it is done with, and bounces when nothing is left to try. -/
structure OutboxKept (stored : Except LoadEnvelopeError FederatedDmRequest) (calls : List OutboxCall)
    (schedule : List Nat) : Prop where
  deleted : ∀ front i, front ++ [i] <+: schedule → (Outbox.after stored calls front).shared.row ≠ none →
    (Outbox.after stored calls (front ++ [i])).shared.row = none →
      0 < (Outbox.after stored calls front).shared.delivered ∨ (Outbox.after stored calls front).shared.present = false
  bounced : ∀ front i, front ++ [i] <+: schedule → (Outbox.after stored calls front).shared.bounced = false →
    (Outbox.after stored calls (front ++ [i])).shared.bounced = true →
      BACKOFF_SECS.length + 1 ≤ (Outbox.after stored calls front).shared.failed ∨ ∃ why,
        stored = .error (.unreadable why)
  -- A bounced row is tried by nobody but the background task and the passes that had already read it.
  quiet : ∀ front later i p, front ++ later ++ [i] <+: schedule →
    (∀ cut, cut <+: later → (Outbox.after stored calls (front ++ cut)).shared.bounced = true) →
      (Outbox.after stored calls (front ++ later)).pending i = some (p, .attempt) →
        p = .first ∨ ∃ attempts, (Outbox.after stored calls front).progresses[i]? = some (.inHand attempts)
  attempts : ∀ front, front <+: schedule → ∀ row ∈ (Outbox.after stored calls front).shared.row,
    row.attempts ≤ (Outbox.after stored calls front).shared.failed

section

variable {stored : Except LoadEnvelopeError FederatedDmRequest} {sys : Outbox} {i : Nat}

-- What a task's holding says about the deliveries so far.
def Sound (stored : Except LoadEnvelopeError FederatedDmRequest) (s : Slot) : Holding → Prop
  | .nothing | .first | .trying none => True
  | .inHand attempts | .trying (some attempts) => attempts ≤ s.failed
  | .failing none => 1 ≤ s.failed
  | .failing (some attempts) => attempts + 1 ≤ s.failed
  | .delivered => 0 < s.delivered
  | .gone => s.present = false
  | .unreadable => ∃ why, stored = .error (.unreadable why)

structure SlotKept (stored : Except LoadEnvelopeError FederatedDmRequest) (sys : Outbox) : Prop where
  fit : FitAll (outboxRules stored) (fun _ _ => True) sys
  attempts : ∀ row ∈ sys.shared.row, row.attempts ≤ sys.shared.failed
  sound : ∀ p ∈ sys.progresses, Sound stored sys.shared p

theorem Sound.later {s after : Slot} {p : Holding} (sound : Sound stored s p) (failed : s.failed ≤ after.failed)
    (delivered : s.delivered ≤ after.delivered) (present : s.present = false → after.present = false) :
    Sound stored after p := by
  cases p with
  | nothing | first => trivial
  | inHand attempts => exact le_trans sound failed
  | trying attempts =>
    cases attempts with
    | none => trivial
    | some attempts => exact le_trans sound failed
  | failing attempts => cases attempts <;> exact le_trans sound failed
  | delivered => exact lt_of_lt_of_le sound delivered
  | gone => exact present sound
  | unreadable => exact sound

theorem writes_later {p : Holding} {label : OutboxStatement} {s after : Slot} (writes : Writes p label s after) :
    s.failed ≤ after.failed ∧ s.delivered ≤ after.delivered ∧ (s.present = false → after.present = false) := by
  cases label with
  | insert =>
    obtain ⟨_, _, _, rfl⟩ := writes
    exact ⟨le_rfl, le_rfl, id⟩
  | select | attempt | delete =>
    obtain ⟨_, rfl⟩ := writes
    exact ⟨le_rfl, le_rfl, id⟩
  | load =>
    cases writes
    exact ⟨le_rfl, le_rfl, id⟩
  | answer ok =>
    obtain ⟨_, rfl⟩ := writes
    cases ok
    · exact ⟨Nat.le_succ _, le_rfl, id⟩
    · exact ⟨le_rfl, Nat.le_succ _, id⟩
  | firstFailure =>
    obtain ⟨_, _, _, rfl⟩ := writes
    exact ⟨le_rfl, le_rfl, id⟩
  | retry =>
    obtain ⟨_, _, _, _, rfl⟩ := writes
    exact ⟨le_rfl, le_rfl, id⟩
  | bounce =>
    obtain ⟨_, _, _, rfl⟩ := writes
    exact ⟨le_rfl, le_rfl, id⟩
  | forget =>
    cases writes
    exact ⟨le_rfl, le_rfl, fun _ => rfl⟩

theorem answer_row {p : Holding} {ok : Bool} {s after : Slot} (writes : Writes p (.answer ok) s after) :
    after.row = s.row := by
  obtain ⟨_, rfl⟩ := writes
  cases ok <;> rfl

-- The task that executes the statement holds something sound again.
theorem writes_sound {p : Holding} {label : OutboxStatement} {s after : Slot} (writes : Writes p label s after)
    (attempts : ∀ row ∈ s.row, row.attempts ≤ s.failed) (sound : Sound stored s p) :
    Sound stored after (holdAfter stored p label s) := by
  cases label with
  | insert | delete | firstFailure | retry | bounce | forget => cases p <;> trivial
  | select pass =>
    obtain ⟨_, rfl⟩ := writes
    simp only [holdAfter]
    cases due : pass.due after with
    | none => trivial
    | some row => exact attempts row (Option.filter_eq_some_iff.mp due).1
  | load =>
    cases writes
    cases p with
    | inHand n =>
      simp only [holdAfter, Slot.load]
      cases present : s.present with
      | false => exact present
      | true =>
        cases stored with
        | error e =>
          cases e with
          | db => trivial
          | unreadable why => exact ⟨why, rfl⟩
        | ok _ => exact sound
    | nothing | first | trying _ | failing _ | delivered | gone | unreadable => trivial
  | attempt =>
    obtain ⟨rfl | ⟨n, rfl⟩, rfl⟩ := writes
    · trivial
    · exact sound
  | answer ok =>
    obtain ⟨⟨n, rfl⟩, rfl⟩ := writes
    cases ok with
    | true => exact Nat.succ_pos _
    | false =>
      cases n with
      | none => exact Nat.succ_le_succ (Nat.zero_le _)
      | some n => exact Nat.succ_le_succ sound

theorem writes_attempts {p : Holding} {label : OutboxStatement} {s after : Slot} (writes : Writes p label s after)
    (attempts : ∀ row ∈ s.row, row.attempts ≤ s.failed) (sound : Sound stored s p) :
    ∀ row ∈ after.row, row.attempts ≤ after.failed := by
  intro row found
  cases label with
  | insert =>
    obtain ⟨fresh, zero, _, rfl⟩ := writes
    cases old : s.row with
    | some known =>
      simp only [old, Option.some_or, Option.mem_some_iff] at found
      exact attempts row (found ▸ old)
    | none =>
      simp only [old, Option.none_or, Option.mem_some_iff] at found
      rw [← found, zero]
      exact Nat.zero_le _
  | select | attempt =>
    obtain ⟨_, rfl⟩ := writes
    exact attempts row found
  | load | forget =>
    cases writes
    exact attempts row found
  | delete =>
    obtain ⟨_, rfl⟩ := writes
    cases found
  | answer ok => exact le_trans (attempts row (answer_row writes ▸ found)) (writes_later writes).1
  | firstFailure =>
    obtain ⟨rfl, change, changed, rfl⟩ := writes
    obtain ⟨old, _, rfl⟩ := Option.mem_map.mp found
    rw [(changed old).1]
    exact sound
  | retry =>
    obtain ⟨n, rfl, change, changed, rfl⟩ := writes
    obtain ⟨old, _, rfl⟩ := Option.mem_map.mp found
    rw [(changed old).1]
    exact sound
  | bounce =>
    obtain ⟨change, _, ⟨_, changed⟩ | ⟨n, rfl, _, changed⟩, rfl⟩ := writes
    · obtain ⟨old, before, rfl⟩ := Option.mem_map.mp found
      rw [changed old]
      exact attempts old before
    · obtain ⟨old, _, rfl⟩ := Option.mem_map.mp found
      rw [changed old]
      exact sound

theorem slotKept_step (kept : SlotKept stored sys) (i : Nat) : SlotKept stored (Outbox.next stored sys i) := by
  rcases Interleaving.step_cases kept.fit i with idle | ⟨p, label, moves⟩
  · rw [Outbox.next, idle]
    exact kept
  · obtain ⟨here, progresses⟩ := Interleaving.step_progresses (outboxRules stored) moves.atStatement
    have own := kept.sound p (List.mem_of_getElem? here)
    obtain ⟨failed, delivered, present⟩ := writes_later moves.permitted
    refine ⟨Interleaving.step_fit kept.fit i, writes_attempts moves.permitted kept.attempts own, ?_⟩
    intro q member
    rw [Outbox.next, progresses] at member
    rcases List.mem_or_eq_of_mem_set member with old | rfl
    · exact (kept.sound q old).later failed delivered present
    · exact writes_sound moves.permitted kept.attempts own

theorem start_slotKept (calls : List OutboxCall) : SlotKept stored (Outbox.start stored calls) := by
  refine ⟨?_, ?_, ?_⟩
  · intro task member
    obtain ⟨call, _, rfl⟩ := List.mem_map.mp member
    exact outboxCall_fits call
  · simp [Outbox.start]
  · intro p member
    simp only [System.progresses, Outbox.start, List.map_map, List.mem_map] at member
    obtain ⟨_, _, rfl⟩ := member
    trivial

variable (stored) in
theorem after_slotKept (calls : List OutboxCall) (schedule : List Nat) :
    SlotKept stored (Outbox.after stored calls schedule) :=
  Runs.run_invariant (SlotKept stored) (fun _ i kept => slotKept_step kept i) _ (start_slotKept calls) schedule

theorem writes_deletes {p : Holding} {label : OutboxStatement} {s after : Slot} (writes : Writes p label s after)
    (had : s.row ≠ none) (gone : after.row = none) : p = .delivered ∨ p = .gone := by
  cases label with
  | insert =>
    obtain ⟨fresh, _, _, rfl⟩ := writes
    simp at gone
  | select | attempt =>
    obtain ⟨_, rfl⟩ := writes
    exact absurd gone had
  | load | forget =>
    cases writes
    exact absurd gone had
  | delete => exact writes.1
  | answer ok => exact absurd ((answer_row writes).symm.trans gone) had
  | firstFailure =>
    obtain ⟨_, change, _, rfl⟩ := writes
    exact absurd (Option.map_eq_none_iff.mp gone) had
  | retry =>
    obtain ⟨_, _, change, _, rfl⟩ := writes
    exact absurd (Option.map_eq_none_iff.mp gone) had
  | bounce =>
    obtain ⟨change, _, _, rfl⟩ := writes
    exact absurd (Option.map_eq_none_iff.mp gone) had

theorem bounced_map {s after : Slot} {change : OutboxRow → OutboxRow}
    (same : ∀ row, (change row).bouncedAt = row.bouncedAt) (mapped : after.row = s.row.map change) :
    after.bounced = s.bounced := by
  cases found : s.row <;> simp [Slot.bounced, mapped, found, same]

theorem writes_bounces {p : Holding} {label : OutboxStatement} {s after : Slot} (writes : Writes p label s after)
    (before : s.bounced = false) (bounces : after.bounced = true) :
    p = .unreadable ∨ ∃ attempts, p = .failing (some attempts) ∧ BACKOFF_SECS.length ≤ attempts := by
  have unchanged : after.row = s.row → False := by
    intro same
    simp only [Slot.bounced, same] at bounces before
    rw [before] at bounces
    cases bounces
  cases label with
  | insert =>
    obtain ⟨fresh, _, open_, rfl⟩ := writes
    cases found : s.row with
    | none => simp [Slot.bounced, found, open_] at bounces
    | some row => exact (unchanged (by simp [found])).elim
  | select | attempt =>
    obtain ⟨_, rfl⟩ := writes
    exact (unchanged rfl).elim
  | load | forget =>
    cases writes
    exact (unchanged rfl).elim
  | delete =>
    obtain ⟨_, rfl⟩ := writes
    cases bounces
  | answer ok => exact (unchanged (answer_row writes)).elim
  | firstFailure =>
    obtain ⟨_, change, changed, rfl⟩ := writes
    rw [bounced_map (fun row => (changed row).2) rfl, before] at bounces
    cases bounces
  | retry =>
    obtain ⟨_, _, change, changed, rfl⟩ := writes
    rw [bounced_map (fun row => (changed row).2) rfl, before] at bounces
    cases bounces
  | bounce =>
    obtain ⟨change, _, ⟨rfl, _⟩ | ⟨attempts, rfl, spent, _⟩, _⟩ := writes
    · exact .inl rfl
    · exact .inr ⟨attempts, rfl, spent⟩

-- A bounced row is due to no pass.
theorem due_bounced {pass : Pass} {s : Slot} (bounced : s.bounced = true) : pass.due s = none := by
  cases found : s.row with
  | none => simp [Pass.due, found]
  | some row =>
    simp only [Slot.bounced, found, Option.any_some] at bounced
    simp [Pass.due, found, Option.filter, Option.ne_none_iff_isSome.mpr bounced]

theorem inHand_before {p : Holding} {label : OutboxStatement} {s : Slot} {attempts : Nat} (bounced : s.bounced = true)
    (held : holdAfter stored p label s = .inHand attempts) : ∃ before, p = .inHand before := by
  cases p with
  | inHand before => exact ⟨before, rfl⟩
  | nothing | first | trying _ | failing _ | delivered | gone | unreadable =>
    cases label <;> simp [holdAfter, due_bounced bounced] at held
    all_goals (split at held <;> cases held)

theorem inHand_step (fit : FitAll (outboxRules stored) (fun _ _ => True) sys) (bounced : sys.shared.bounced = true)
    {j attempts : Nat} (held : (Outbox.next stored sys j).progresses[i]? = some (.inHand attempts)) :
    ∃ before, sys.progresses[i]? = some (.inHand before) := by
  rcases Interleaving.step_cases fit j with idle | ⟨p, label, moves⟩
  · rw [Outbox.next, idle] at held
    exact ⟨attempts, held⟩
  · obtain ⟨here, progresses⟩ := Interleaving.step_progresses (outboxRules stored) moves.atStatement
    rw [Outbox.next, progresses] at held
    by_cases same : j = i
    next =>
      subst same
      rw [List.getElem?_set_self (List.getElem?_eq_some_iff.mp here).1] at held
      obtain ⟨before, rfl⟩ := inHand_before bounced (Option.some.inj held)
      exact ⟨before, here⟩
    next =>
      rw [List.getElem?_set_ne same] at held
      exact ⟨attempts, held⟩

-- As long as the row is bounced, no pass takes it in hand.
theorem inHand_run (kept : SlotKept stored sys) (later : List Nat)
    (bounced : ∀ cut, cut <+: later → (Runs.run (Outbox.next stored) sys cut).shared.bounced = true) {attempts : Nat}
    (held : (Runs.run (Outbox.next stored) sys later).progresses[i]? = some (.inHand attempts)) :
    ∃ before, sys.progresses[i]? = some (.inHand before) := by
  induction later generalizing sys with
  | nil => exact ⟨attempts, held⟩
  | cons j rest ih =>
    obtain ⟨middle, heldNext⟩ := ih (slotKept_step kept j)
      (fun cut inside => bounced (j :: cut) (List.cons_prefix_cons.mpr ⟨rfl, inside⟩)) held
    exact inHand_step kept.fit (bounced [] List.nil_prefix) heldNext

/-- In every order of the statements of everybody who works on the row. -/
theorem outbox_kept (stored : Except LoadEnvelopeError FederatedDmRequest) (calls : List OutboxCall)
    (schedule : List Nat) : OutboxKept stored calls schedule where
  deleted front i _ had gone := by
    rw [Outbox.after, Runs.run_append, Runs.run_cons, Runs.run_nil] at gone
    have kept := after_slotKept stored calls front
    rcases Interleaving.step_cases kept.fit i with idle | ⟨p, label, moves⟩
    · rw [Outbox.next, idle] at gone
      exact absurd gone had
    · have own := kept.sound p (List.mem_of_getElem?
        (Interleaving.step_progresses (outboxRules stored) moves.atStatement).1)
      obtain rfl | rfl := writes_deletes moves.permitted had gone
      · exact .inl own
      · exact .inr own
  bounced front i _ before bounces := by
    rw [Outbox.after, Runs.run_append, Runs.run_cons, Runs.run_nil] at bounces
    have kept := after_slotKept stored calls front
    rcases Interleaving.step_cases kept.fit i with idle | ⟨p, label, moves⟩
    · rw [Outbox.next, idle, before] at bounces
      cases bounces
    · have own := kept.sound p (List.mem_of_getElem?
        (Interleaving.step_progresses (outboxRules stored) moves.atStatement).1)
      obtain rfl | ⟨attempts, rfl, spent⟩ := writes_bounces moves.permitted before bounces
      · exact .inr own
      · exact .inl (le_trans (Nat.succ_le_succ spent) own)
  quiet front later i p _ bounced waits := by
    have kept := after_slotKept stored calls front
    have keptLater := after_slotKept stored calls (front ++ later)
    have moves := Interleaving.step_moves keptLater.fit (System.atStatement_iff.mpr waits)
    obtain ⟨rfl | ⟨attempts, rfl⟩, _⟩ := moves.permitted
    · exact .inl rfl
    · refine .inr ?_
      have held := (Interleaving.step_progresses (outboxRules stored) moves.atStatement).1
      simp only [Outbox.after, Runs.run_append] at held bounced
      exact inHand_run kept later bounced held
  attempts front _ := (after_slotKept stored calls front).attempts

end

-- Eight passes, each of which finds the row due and the hub down.
def downFor (passes : Nat) : List Pass :=
  (List.range passes).map fun k => { now := 100000 * k, answer := .error "down" }

def readable : Except LoadEnvelopeError FederatedDmRequest :=
  .ok { messageId := "m1", conversationId := "c", convType := "dm", sender := "ann", members := [], createdAt := 0 }

-- The worker has given the message up when the background task gets to its first attempt.
theorem outbox_belated :
    ¬ ∀ front i p, front ++ [i] <+: 0 :: List.replicate 40 1 ++ [0] →
      (Outbox.after readable [.send 0 (.ok ()), .worker (downFor 8)] front).shared.bounced = true →
        (Outbox.after readable [.send 0 (.ok ()), .worker (downFor 8)] front).pending i ≠ some (p, .attempt) := by
  intro quiet
  refine quiet (0 :: List.replicate 40 1) 0 .first List.prefix_rfl ?_ ?_
  · decide +kernel
  · decide +kernel

end Wavvon.Dms
