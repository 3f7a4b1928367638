import Wavvon.Apps.Replay

set_option autoImplicit false

namespace Wavvon.Apps

-- `mpsc::channel(256)`: the queue of envelopes of one app connection.
def QUEUE_CAPACITY : Nat := 256

inductive WsOut (Json : Type) where
  | hubEvent (envelope : HubEvent Json)
  | replayComplete (replayed : Nat) (liveFromSeq : Int)
  | replayUnavailable (earliestSeq earliestAt : Int)

-- Where the connection's task is: parked in its select loop or inside `replay_events_for_app`.
inductive ConnTask (Json : Type) where
  | selecting
  | replaying (rest : List (HubEvent Json)) (replayed : Nat) (liveSeq : Int)

/--
One app connection. Its task owns the receiving end of `queue`; `socket` is what the task has
written since the run began.
-/
structure AppConn (Json : Type) where
  queue : List (HubEvent Json) := []
  socket : List (WsOut Json) := []
  task : ConnTask Json := .selecting
  isReplaying : Bool := false
  replayBuffer : List (HubEvent Json) := []

-- Another task publishing a live event, or this one running to its next await.
inductive Turn (Json : Type) where
  | publish (seq : Int) (event hubUrl : String) (stamp : Int) (payload : Json)
  | poll

namespace AppConn

variable {Json : Type}

-- `try_send`: a full queue drops the event.
def trySend (c : AppConn Json) (envelope : HubEvent Json) : AppConn Json :=
  if c.queue.length < QUEUE_CAPACITY then { c with queue := c.queue ++ [envelope] } else c

-- The reply goes straight to the socket, then whatever was held back during the replay.
def replyTo (c : AppConn Json) (liveSeq : Int) (result : ReplayResult) : AppConn Json :=
  let reply := match result with
    | .complete replayed => WsOut.replayComplete replayed liveSeq
    | .unavailable earliestSeq earliestAt => WsOut.replayUnavailable earliestSeq earliestAt
  { c with
    isReplaying := false
    task := .selecting
    socket := c.socket ++ reply :: c.replayBuffer.map WsOut.hubEvent
    replayBuffer := [] }

def handleResume (c : AppConn Json) (isApp : Bool) (liveSeq : Int)
    (answer : Except ReplayResult (List (HubEvent Json))) : AppConn Json :=
  if isApp then
    match answer with
    | .error result => { c with isReplaying := true }.replyTo liveSeq result
    | .ok events => { c with isReplaying := true, task := .replaying events 0 liveSeq }
  else c

-- A full queue leaves the blocking send, and with it the task, where it is.
def poll (c : AppConn Json) : AppConn Json :=
  match c.task with
  | .selecting =>
    match c.queue with
    | [] => c
    | envelope :: later =>
      if c.isReplaying then
        { c with queue := later, replayBuffer := c.replayBuffer ++ [envelope] }
      else { c with queue := later, socket := c.socket ++ [.hubEvent envelope] }
  | .replaying [] replayed liveSeq => c.replyTo liveSeq (.complete replayed)
  | .replaying (envelope :: rest) replayed liveSeq =>
    if c.queue.length < QUEUE_CAPACITY then
      { c with queue := c.queue ++ [envelope], task := .replaying rest (replayed + 1) liveSeq }
    else c

def step (c : AppConn Json) : Turn Json → AppConn Json
  | .publish seq event hubUrl stamp payload => c.trySend (.new seq event hubUrl stamp payload)
  | .poll => c.poll

-- The connection as the Resume frame is dispatched, with what the queue already holds.
def resumed (queued events : List (HubEvent Json)) (liveSeq : Int) : AppConn Json :=
  ({ queue := queued } : AppConn Json).handleResume true liveSeq (.ok events)

def Replied (c : AppConn Json) : Prop :=
  ∃ replayed liveSeq, WsOut.replayComplete replayed liveSeq ∈ c.socket

structure ResumesInOrder (queued events : List (HubEvent Json)) (liveSeq : Int) : Prop where
  completes : ∀ turns, ∃ polls,
    (Runs.run step (resumed queued events liveSeq) (turns ++ List.replicate polls .poll)).Replied
  replayedFirst : ∀ turns front back replayed seq,
    (Runs.run step (resumed queued events liveSeq) turns).socket =
        front ++ .replayComplete replayed seq :: back →
      ∀ envelope ∈ events, .hubEvent envelope ∈ front
  liveLater : ∀ turns front back live,
    (Runs.run step (resumed queued events liveSeq) turns).socket = front ++ .hubEvent live :: back →
      live.replayed = false → ∀ envelope ∈ events, envelope.seq < live.seq →
        .hubEvent envelope ∉ back

-- Until the reply nothing at all is written, so the reply is always the first thing written.
def ReplyFirst (c : AppConn Json) : Prop :=
  c.replayBuffer = [] ∧
    ((∃ rest replayed liveSeq, c.task = .replaying rest replayed liveSeq ∧ c.socket = []) ∨
      (c.isReplaying = false ∧ c.task = .selecting ∧
        ∃ replayed liveSeq back, c.socket = .replayComplete replayed liveSeq :: back))

theorem trySend_same (c : AppConn Json) (envelope : HubEvent Json) :
    (c.trySend envelope).socket = c.socket ∧ (c.trySend envelope).task = c.task ∧
      (c.trySend envelope).isReplaying = c.isReplaying ∧
      (c.trySend envelope).replayBuffer = c.replayBuffer := by
  unfold trySend
  split <;> exact ⟨rfl, rfl, rfl, rfl⟩

theorem replyFirst_step (c : AppConn Json) (turn : Turn Json) (first : c.ReplyFirst) :
    (c.step turn).ReplyFirst := by
  obtain ⟨unbuffered, shape⟩ := first
  cases turn with
  | publish seq event hubUrl stamp payload =>
    obtain ⟨socket, task, replaying, buffer⟩ := c.trySend_same (.new seq event hubUrl stamp payload)
    simp only [step, ReplyFirst, socket, task, replaying, buffer]
    exact ⟨unbuffered, shape⟩
  | poll =>
    rcases shape with ⟨rest, replayed, liveSeq, task, silent⟩ |
      ⟨live, task, replayed, liveSeq, back, written⟩
    · cases rest with
      | nil =>
        refine ⟨by simp [step, poll, task, replyTo], .inr ⟨?_, ?_, replayed, liveSeq, [], ?_⟩⟩
        · simp [step, poll, task, replyTo]
        · simp [step, poll, task, replyTo]
        · simp [step, poll, task, replyTo, silent, unbuffered]
      | cons envelope rest =>
        simp only [step, poll, task]
        split
        · exact ⟨unbuffered, .inl ⟨rest, replayed + 1, liveSeq, rfl, silent⟩⟩
        · exact ⟨unbuffered, .inl ⟨envelope :: rest, replayed, liveSeq, task, silent⟩⟩
    · simp only [step, poll, task]
      cases queue : c.queue with
      | nil => exact ⟨unbuffered, .inr ⟨live, task, replayed, liveSeq, back, written⟩⟩
      | cons envelope later =>
        simp only [live, Bool.false_eq_true, if_false]
        refine ⟨unbuffered, .inr ⟨rfl, rfl, replayed, liveSeq, back ++ [.hubEvent envelope], ?_⟩⟩
        simp [written]

theorem replyFirst_run (queued events : List (HubEvent Json)) (liveSeq : Int)
    (turns : List (Turn Json)) : (Runs.run step (resumed queued events liveSeq) turns).ReplyFirst := by
  refine Runs.run_invariant ReplyFirst replyFirst_step _ ?_ turns
  exact ⟨rfl, .inl ⟨events, 0, liveSeq, rfl, rfl⟩⟩

theorem ReplyFirst.nothing_before {c : AppConn Json} (first : c.ReplyFirst) (replied : c.Replied) :
    ∃ replayed liveSeq back, c.socket = [] ++ .replayComplete replayed liveSeq :: back := by
  rcases first.2 with ⟨_, _, _, _, silent⟩ | ⟨_, _, replayed, liveSeq, back, written⟩
  · obtain ⟨replayed, liveSeq, member⟩ := replied
    rw [silent] at member
    cases member
  · exact ⟨replayed, liveSeq, back, written⟩

-- With nothing left to replay the next turn of the task is the reply.
def Finishing (c : AppConn Json) : Prop :=
  c.Replied ∨ ∃ replayed liveSeq, c.task = .replaying [] replayed liveSeq

theorem Replied.step {c : AppConn Json} (replied : c.Replied) (turn : Turn Json) :
    (c.step turn).Replied := by
  obtain ⟨replayed, liveSeq, member⟩ := replied
  refine ⟨replayed, liveSeq, ?_⟩
  cases turn with
  | publish seq event hubUrl stamp payload =>
    rw [AppConn.step, (c.trySend_same _).1]
    exact member
  | poll =>
    simp only [AppConn.step, poll]
    split
    · split
      · exact member
      · split
        · exact member
        · exact List.mem_append_left _ member
    · exact List.mem_append_left _ member
    · split <;> exact member

theorem Finishing.step {c : AppConn Json} (finishing : c.Finishing) (turn : Turn Json) :
    (c.step turn).Finishing := by
  rcases finishing with replied | ⟨replayed, liveSeq, task⟩
  · exact .inl (replied.step turn)
  · cases turn with
    | publish seq event hubUrl stamp payload =>
      refine .inr ⟨replayed, liveSeq, ?_⟩
      rw [AppConn.step, (c.trySend_same _).2.1]
      exact task
    | poll => exact .inl ⟨replayed, liveSeq, by simp [AppConn.step, poll, task, replyTo]⟩

theorem Finishing.poll {c : AppConn Json} (finishing : c.Finishing) : (c.step .poll).Replied := by
  rcases finishing with replied | ⟨replayed, liveSeq, task⟩
  · exact replied.step .poll
  · exact ⟨replayed, liveSeq, by simp [AppConn.step, AppConn.poll, task, replyTo]⟩

/--
Resume replies and keeps its order exactly when there is nothing to replay: the task that fills the
queue is the one that empties it, so no replayed envelope reaches the socket before the reply.
-/
theorem resumesInOrder_iff (queued events : List (HubEvent Json)) (liveSeq : Int) :
    ResumesInOrder queued events liveSeq ↔ events = [] := by
  constructor
  · intro inOrder
    obtain ⟨polls, replied⟩ := inOrder.completes []
    obtain ⟨replayed, seq, back, written⟩ :=
      (replyFirst_run queued events liveSeq _).nothing_before replied
    rw [List.eq_nil_iff_forall_not_mem]
    intro envelope listed
    have before := inOrder.replayedFirst _ [] back replayed seq written envelope listed
    cases before
  · rintro rfl
    refine ⟨?_, ?_, ?_⟩
    · intro turns
      refine ⟨1, ?_⟩
      rw [Runs.run_append]
      have finishing : (Runs.run step (resumed queued [] liveSeq) turns).Finishing :=
        Runs.run_invariant Finishing (fun _ turn held => held.step turn) _
          (.inr ⟨0, liveSeq, rfl⟩) turns
      exact finishing.poll
    · intro _ _ _ _ _ _ envelope listed
      cases listed
    · intro _ _ _ _ _ _ envelope listed
      cases listed

-- More than the queue has room for: the send that finds it full is never woken.
structure Stuck (c : AppConn Json) : Prop where
  bounded : c.queue.length ≤ QUEUE_CAPACITY
  unreplied : ¬ c.Replied
  tooMany : ∃ rest replayed liveSeq, c.task = .replaying rest replayed liveSeq ∧
    QUEUE_CAPACITY < c.queue.length + rest.length

theorem Stuck.step {c : AppConn Json} (stuck : c.Stuck) (turn : Turn Json) : (c.step turn).Stuck := by
  obtain ⟨bounded, unreplied, rest, replayed, liveSeq, task, tooMany⟩ := stuck
  cases turn with
  | publish seq event hubUrl stamp payload =>
    simp only [AppConn.step, trySend]
    split
    · refine ⟨?_, unreplied, rest, replayed, liveSeq, task, ?_⟩
      · simp only [List.length_append, List.length_singleton]
        omega
      · simp only [List.length_append, List.length_singleton]
        omega
    · exact ⟨bounded, unreplied, rest, replayed, liveSeq, task, tooMany⟩
  | poll =>
    cases rest with
    | nil =>
      simp only [List.length_nil] at tooMany
      omega
    | cons envelope rest =>
      simp only [AppConn.step, poll, task]
      split
      · refine ⟨?_, unreplied, rest, replayed + 1, liveSeq, rfl, ?_⟩
        · simp only [List.length_append, List.length_singleton]
          omega
        · simp only [List.length_append, List.length_singleton]
          simp only [List.length_cons] at tooMany
          omega
      · exact ⟨bounded, unreplied, envelope :: rest, replayed, liveSeq, task, tooMany⟩

theorem resume_never_replies (queued events : List (HubEvent Json)) (liveSeq : Int)
    (bounded : queued.length ≤ QUEUE_CAPACITY)
    (tooMany : QUEUE_CAPACITY < queued.length + events.length) (turns : List (Turn Json)) :
    ¬ (Runs.run step (resumed queued events liveSeq) turns).Replied := by
  have initial : (resumed queued events liveSeq).Stuck := by
    refine ⟨bounded, ?_, events, 0, liveSeq, rfl, tooMany⟩
    rintro ⟨_, _, member⟩
    cases member
  exact (Runs.run_invariant Stuck (fun _ turn held => held.step turn) _ initial turns).unreplied

-- Undisturbed, the task fills the queue and replies in one turn more than there are envelopes.
theorem polls_reply (rest : List (HubEvent Json)) (c : AppConn Json) (replayed : Nat) (liveSeq : Int)
    (task : c.task = .replaying rest replayed liveSeq)
    (room : c.queue.length + rest.length ≤ QUEUE_CAPACITY) :
    (Runs.run step c (List.replicate (rest.length + 1) .poll)).Replied := by
  induction rest generalizing c replayed with
  | nil => exact ⟨replayed, liveSeq, by simp [step, poll, task, replyTo]⟩
  | cons envelope rest ih =>
    simp only [List.length_cons] at room
    have next : c.step .poll =
        { c with queue := c.queue ++ [envelope], task := .replaying rest (replayed + 1) liveSeq } := by
      simp only [step, poll, task]
      rw [if_pos (by omega)]
    rw [List.length_cons, List.replicate_succ, Runs.run_cons, next]
    refine ih _ (replayed + 1) rfl ?_
    simp only [List.length_append, List.length_singleton]
    omega

theorem resume_replies_undisturbed_iff (queued events : List (HubEvent Json)) (liveSeq : Int)
    (bounded : queued.length ≤ QUEUE_CAPACITY) :
    (∃ polls, (Runs.run step (resumed queued events liveSeq)
        (List.replicate polls .poll)).Replied) ↔
      queued.length + events.length ≤ QUEUE_CAPACITY := by
  constructor
  · rintro ⟨polls, replied⟩
    by_contra tooMany
    exact resume_never_replies queued events liveSeq bounded (by omega) _ replied
  · intro room
    exact ⟨events.length + 1, polls_reply events _ 0 liveSeq rfl room⟩

end AppConn

def missedMessage : HubEvent String :=
  { HubEvent.new 1 "message.created" "https://hub" 0 "null" with replayed := true }

-- One missed event: the reply is on the socket before the envelope.
theorem resumesInOrder_one_missed :
    (Runs.run AppConn.step (AppConn.resumed [] [missedMessage] 1) [.poll, .poll, .poll]).socket =
        [.replayComplete 1 1, .hubEvent missedMessage] ∧
      ¬ AppConn.ResumesInOrder [] [missedMessage] 1 ∧
      ∀ turns, ¬ (Runs.run AppConn.step
        (AppConn.resumed [] (List.replicate 257 missedMessage) 1) turns).Replied := by
  have written : (Runs.run AppConn.step (AppConn.resumed [] [missedMessage] 1)
      [.poll, .poll, .poll]).socket = [.replayComplete 1 1, .hubEvent missedMessage] := rfl
  refine ⟨written, ?_, ?_⟩
  · intro inOrder
    have before := inOrder.replayedFirst [.poll, .poll, .poll] [] [.hubEvent missedMessage] 1 1
      written missedMessage (List.mem_singleton_self _)
    cases before
  · exact AppConn.resume_never_replies [] _ 1 (by decide) (by rw [List.length_replicate]; decide)

end Wavvon.Apps
