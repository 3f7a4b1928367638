import Wavvon.Dms.Envelopes
import Wavvon.Shared.Interleaving

set_option autoImplicit false

namespace Wavvon.Dms

open Interleaving (Handler Discipline Fits FitAll System Moves)

-- In seconds; the index is the number of attempts so far.
def BACKOFF_SECS : List Int := [10, 60, 300, 1800, 3600, 21600, 86400]

structure OutboxRow where
  attempts : Nat := 0
  nextAttemptAt : Int
  lastError : Option String := none
  bouncedAt : Option Int := none
  mirror : Bool := false
  deriving DecidableEq, Repr

/-- The row of one message and one hub, whether the message is still stored, and what the hub answered so far. -/
structure Slot where
  row : Option OutboxRow := none
  present : Bool := true
  failed : Nat := 0
  delivered : Nat := 0
  deriving DecidableEq, Repr

def Slot.bounced (s : Slot) : Bool := s.row.any (·.bouncedAt.isSome)

-- One pass of the worker; the batch is limited, so a row that is due may be left out.
structure Pass where
  now : Int
  picked : Bool := true
  answer : Except String Unit
  deriving DecidableEq, Repr

def Pass.due (pass : Pass) (s : Slot) : Option OutboxRow :=
  s.row.filter fun row => row.bouncedAt = none ∧ row.nextAttemptAt ≤ pass.now ∧ pass.picked

inductive OutboxStatement where
  | insert
  | select (pass : Pass)
  | load
  | attempt
  | answer (ok : Bool)
  | delete
  | firstFailure
  | retry
  | bounce
  | forget
  deriving DecidableEq, Repr

abbrev OutboxHandler (A : Type) := Handler Slot OutboxStatement A

def insertRow (mirror : Bool) (now : Int) : OutboxHandler Unit :=
  .exec .insert (fun s => { s with row := s.row.or (some { nextAttemptAt := now, mirror := mirror }) }) fun _ => ()

def deleteRow : OutboxHandler Unit := .exec .delete (fun s => { s with row := none }) fun _ => ()

def updateRow (label : OutboxStatement) (change : OutboxRow → OutboxRow) : OutboxHandler Unit :=
  .exec label (fun s => { s with row := s.row.map change }) fun _ => ()

def Slot.answered (s : Slot) : Except String Unit → Slot
  | .ok _ => { s with delivered := s.delivered + 1 }
  | .error _ => { s with failed := s.failed + 1 }

-- The request goes out, and some time later its answer is there.
def deliver (answer : Except String Unit) : OutboxHandler Unit := do
  Handler.exec .attempt id fun _ => ()
  Handler.exec (.answer answer.isOk) (·.answered answer) fun _ => ()

-- What `send_dm` does for one hub: the row, then the delivery in the background.
def sendInBackground (now : Int) (answer : Except String Unit) : OutboxHandler Unit := do
  insertRow false now
  deliver answer
  match answer with
  | .ok _ => deleteRow
  | .error e =>
    updateRow .firstFailure fun row => { row with attempts := 1, nextAttemptAt := now + 10, lastError := some e }

section

-- What `storedEnvelope` makes of the message.
variable (stored : Except LoadEnvelopeError FederatedDmRequest)

def Slot.load (s : Slot) : Except LoadEnvelopeError (Option FederatedDmRequest) :=
  if s.present then stored.map some else .ok none

theorem load_eq_loadEnvelope {Text : Type} {columns : Columns Text} {rows : Table (StoredMessage Text)}
    {convs : Conversations} {messageId : String} {msg : StoredMessage Text} {s : Slot}
    (here : rows[messageId]? = if s.present then some msg else none) :
    s.load (storedEnvelope columns convs messageId msg) = loadEnvelope columns rows convs messageId := by
  unfold Slot.load loadEnvelope
  rw [here]
  cases s.present <;> rfl

def recordFailure (pass : Pass) (attempts : Nat) (e : String) : OutboxHandler Unit :=
  match BACKOFF_SECS[attempts]? with
  | none =>
    updateRow .bounce fun row =>
      { row with attempts := attempts + 1, lastError := some e, bouncedAt := some pass.now }
  | some secs =>
    updateRow .retry fun row =>
      { row with attempts := attempts + 1, nextAttemptAt := pass.now + secs, lastError := some e }

def passLoaded (pass : Pass) (attempts : Nat) : Except LoadEnvelopeError (Option FederatedDmRequest) →
    OutboxHandler Unit
  | .error .db => return ()
  | .error (.unreadable why) =>
    updateRow .bounce fun row => { row with lastError := some why, bouncedAt := some pass.now }
  | .ok none => deleteRow
  | .ok (some _) => do
    deliver pass.answer
    match pass.answer with
    | .ok _ => deleteRow
    | .error e => recordFailure pass attempts e

def passStatements (pass : Pass) : OutboxHandler Unit := do
  let due ← Handler.exec (.select pass) id pass.due
  match due with
  | none => return ()
  | some row =>
    let loaded ← Handler.exec .load id (·.load stored)
    passLoaded pass row.attempts loaded

-- A worker makes its passes one after another.
def workerStatements : List Pass → OutboxHandler Unit
  | [] => .done ()
  | pass :: rest => do
    passStatements stored pass
    workerStatements rest

inductive OutboxCall where
  | send (now : Int) (answer : Except String Unit)
  | mirror (now : Int)
  | worker (passes : List Pass)
  | forget

def OutboxCall.handler : OutboxCall → OutboxHandler Unit
  | .send now answer => sendInBackground now answer
  | .mirror now => insertRow true now
  | .worker passes => workerStatements stored passes
  | .forget => .exec .forget (fun s => { s with present := false }) fun _ => ()

end

/-- What a task holds: the row it has read as due, or what became of its delivery. -/
inductive Holding where
  | nothing
  | first
  | inHand (attempts : Nat)
  | trying (attempts : Option Nat)
  | failing (attempts : Option Nat)
  | delivered
  | gone
  | unreadable
  deriving DecidableEq, Repr

section

variable (stored : Except LoadEnvelopeError FederatedDmRequest)

def holdAfter (p : Holding) (label : OutboxStatement) (s : Slot) : Holding :=
  match label, p with
  | .insert, _ => .first
  | .select pass, _ => (pass.due s).elim .nothing fun row => .inHand row.attempts
  | .load, .inHand attempts =>
    match s.load stored with
    | .error .db => .nothing
    | .error (.unreadable _) => .unreadable
    | .ok none => .gone
    | .ok (some _) => .inHand attempts
  | .attempt, .first => .trying none
  | .attempt, .inHand attempts => .trying (some attempts)
  | .answer ok, .trying attempts => if ok then .delivered else .failing attempts
  | _, _ => .nothing

/-- What each statement writes, and what a task holds that executes it. -/
def Writes (p : Holding) (label : OutboxStatement) (s after : Slot) : Prop :=
  match label with
  | .insert => ∃ row : OutboxRow, row.attempts = 0 ∧ row.bouncedAt = none ∧
    after = { s with row := s.row.or (some row) }
  | .select _ => p = .nothing ∧ after = s
  | .load => after = s
  | .attempt => (p = .first ∨ ∃ attempts, p = .inHand attempts) ∧ after = s
  | .answer ok => (∃ attempts, p = .trying attempts) ∧
      after = if ok then { s with delivered := s.delivered + 1 } else { s with failed := s.failed + 1 }
  | .delete => (p = .delivered ∨ p = .gone) ∧ after = { s with row := none }
  | .firstFailure => p = .failing none ∧ ∃ change : OutboxRow → OutboxRow,
      (∀ row, (change row).attempts = 1 ∧ (change row).bouncedAt = row.bouncedAt) ∧
        after = { s with row := s.row.map change }
  | .retry => ∃ attempts, p = .failing (some attempts) ∧ ∃ change : OutboxRow → OutboxRow,
      (∀ row, (change row).attempts = attempts + 1 ∧ (change row).bouncedAt = row.bouncedAt) ∧
        after = { s with row := s.row.map change }
  | .bounce => ∃ change : OutboxRow → OutboxRow, (∀ row, (change row).bouncedAt ≠ none) ∧
      (p = .unreadable ∧ (∀ row, (change row).attempts = row.attempts) ∨
        ∃ attempts, p = .failing (some attempts) ∧ BACKOFF_SECS.length ≤ attempts ∧
          ∀ row, (change row).attempts = attempts + 1) ∧
        after = { s with row := s.row.map change }
  | .forget => after = { s with present := false }

def outboxRules : Discipline Slot OutboxStatement Holding where
  advance := holdAfter stored
  permits := Writes

end

section

variable {stored : Except LoadEnvelopeError FederatedDmRequest} {A : Type} {post : Holding → A → Prop}

theorem deliver_fits {p : Holding} {answer : Except String Unit} {rest : Unit → OutboxHandler A}
    {attempts : Option Nat} (ready : p = .first ∧ attempts = none ∨ ∃ n, p = .inHand n ∧ attempts = some n)
    (delivered : answer.isOk = true → Fits (outboxRules stored) post .delivered (rest ()))
    (failing : answer.isOk = false → Fits (outboxRules stored) post (.failing attempts) (rest ())) :
    Fits (outboxRules stored) post p (deliver answer >>= rest) := by
  have trying : holdAfter stored p .attempt = fun _ => .trying attempts := by
    funext s
    obtain ⟨rfl, rfl⟩ | ⟨n, rfl, rfl⟩ := ready <;> rfl
  refine ⟨?_, ?_⟩
  · intro s
    exact ⟨ready.imp And.left fun ⟨n, here, _⟩ => ⟨n, here⟩, rfl⟩
  · intro s
    simp only [outboxRules, trying]
    refine ⟨?_, ?_⟩
    · intro s
      refine ⟨⟨attempts, rfl⟩, ?_⟩
      cases answer <;> rfl
    · intro s
      cases answered : answer.isOk with
      | true => exact delivered answered
      | false => exact failing answered

theorem deleteRow_fits {p : Holding} (ready : p = .delivered ∨ p = .gone) :
    Fits (outboxRules stored) (fun p _ => p = .nothing) p deleteRow := by
  refine Interleaving.fits_exec (fun s => ⟨ready, rfl⟩) ?_
  intro s
  obtain rfl | rfl := ready <;> rfl

theorem updateRow_fits {p : Holding} {label : OutboxStatement} {change : OutboxRow → OutboxRow}
    (ends : holdAfter stored p label = fun _ => .nothing)
    (writes : ∀ s, Writes p label s { s with row := s.row.map change }) :
    Fits (outboxRules stored) (fun p _ => p = .nothing) p (updateRow label change) :=
  Interleaving.fits_exec writes fun s => congrFun ends s

theorem sendInBackground_fits (now : Int) (answer : Except String Unit) :
    Fits (outboxRules stored) (fun p _ => p = .nothing) .nothing (sendInBackground now answer) := by
  refine ⟨fun s => ⟨_, rfl, rfl, rfl⟩, fun s => ?_⟩
  refine deliver_fits (.inl ⟨rfl, rfl⟩) ?_ ?_
  · intro answered
    cases answer with
    | error e => cases answered
    | ok _ => exact deleteRow_fits (.inl rfl)
  · intro answered
    cases answer with
    | ok _ => cases answered
    | error e =>
      refine updateRow_fits rfl fun s => ⟨rfl, _, ?_, rfl⟩
      exact fun _ => ⟨rfl, rfl⟩

theorem recordFailure_fits (pass : Pass) (attempts : Nat) (e : String) :
    Fits (outboxRules stored) (fun p _ => p = .nothing) (.failing (some attempts)) (recordFailure pass attempts e) := by
  unfold recordFailure
  split
  next spent =>
    refine updateRow_fits rfl fun s => ⟨_, ?_, .inr ⟨attempts, rfl, List.getElem?_eq_none_iff.mp spent, ?_⟩, rfl⟩
    · simp
    · exact fun _ => rfl
  next =>
    refine updateRow_fits rfl fun s => ⟨attempts, rfl, _, ?_, rfl⟩
    exact fun _ => ⟨rfl, rfl⟩

theorem passLoaded_fits (pass : Pass) (attempts : Nat) (s : Slot) :
    Fits (outboxRules stored) (fun p _ => p = .nothing) (holdAfter stored (.inHand attempts) .load s)
      (passLoaded pass attempts (s.load stored)) := by
  unfold holdAfter
  cases s.load stored with
  | error e =>
    cases e with
    | db => rfl
    | unreadable why =>
      refine updateRow_fits rfl fun s => ⟨_, ?_, .inl ⟨rfl, ?_⟩, rfl⟩
      · simp
      · exact fun _ => rfl
  | ok found =>
    cases found with
    | none => exact deleteRow_fits (.inr rfl)
    | some envelope =>
      refine deliver_fits (.inr ⟨attempts, rfl, rfl⟩) ?_ ?_
      · intro answered
        cases answer : pass.answer with
        | error e =>
          rw [answer] at answered
          cases answered
        | ok _ => exact deleteRow_fits (.inl rfl)
      · intro answered
        cases answer : pass.answer with
        | ok _ =>
          rw [answer] at answered
          cases answered
        | error e => exact recordFailure_fits pass attempts e

theorem passStatements_fits (pass : Pass) :
    Fits (outboxRules stored) (fun p _ => p = .nothing) .nothing (passStatements stored pass) := by
  refine Interleaving.fits_exec_bind (fun s => ⟨rfl, rfl⟩) ?_
  intro s
  simp only [outboxRules, holdAfter]
  cases pass.due s with
  | none => rfl
  | some row => exact Interleaving.fits_exec_bind (fun s => rfl) fun s => passLoaded_fits pass row.attempts s

theorem workerStatements_fits (passes : List Pass) :
    Fits (outboxRules stored) (fun p _ => p = .nothing) .nothing (workerStatements stored passes) := by
  induction passes with
  | nil => rfl
  | cons pass rest ih =>
    refine (passStatements_fits pass).bind ?_
    rintro p _ rfl
    exact ih

theorem outboxCall_fits (call : OutboxCall) :
    Fits (outboxRules stored) (fun _ _ => True) .nothing (call.handler stored) := by
  cases call with
  | send now answer => exact (sendInBackground_fits now answer).weaken fun _ _ _ => trivial
  | mirror now => exact Interleaving.fits_exec (fun s => ⟨_, rfl, rfl, rfl⟩) fun _ => trivial
  | worker passes => exact (workerStatements_fits passes).weaken fun _ _ _ => trivial
  | forget => exact Interleaving.fits_exec (fun s => rfl) fun _ => trivial

end

end Wavvon.Dms
