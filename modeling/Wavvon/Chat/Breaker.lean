import Wavvon.Auth.State
import Wavvon.Shared.Runs

set_option autoImplicit false

namespace Wavvon.Chat

structure WebhookCircuit where
  consecutiveFailures : Nat := 0
  openUntil : Option Int := none
  streakStartedAt : Option Int := none
  deriving DecidableEq, Repr

/-- The status of the answer, and what it says where its body is JSON and these fields of it are strings. -/
structure ModerationAnswer where
  status : Nat
  action : Option String := none
  reason : Option String := none
  deriving DecidableEq, Repr

def ModerationAnswer.isServerError (a : ModerationAnswer) : Bool := decide (500 ≤ a.status ∧ a.status < 600)

def ModerationAnswer.verdict (a : ModerationAnswer) : Except HttpError Unit :=
  if a.status = 403 then .error (403, "Message blocked by moderation policy")
  else if 200 ≤ a.status ∧ a.status < 300 ∧ a.action = some "block" then
    .error (403, a.reason.getD "Message blocked by moderation policy")
  else .ok ()

namespace WebhookCircuit

def isOpen (c : WebhookCircuit) (now : Int) : Bool := c.openUntil.any (now < ·)

def fail (c : WebhookCircuit) (now : Int) : WebhookCircuit :=
  let streakStart := c.streakStartedAt.getD now
  let failures := c.consecutiveFailures + 1
  if 3 ≤ failures ∧ now - streakStart ≤ 60 then
    { consecutiveFailures := failures, openUntil := some (now + 600), streakStartedAt := some streakStart }
  else if 60 < now - streakStart then
    { consecutiveFailures := 1, openUntil := c.openUntil, streakStartedAt := some now }
  else { consecutiveFailures := failures, openUntil := c.openUntil, streakStartedAt := some streakStart }

-- No answer in time changes nothing and lets the message through.
def answered (c : WebhookCircuit) (now : Int) : Option ModerationAnswer → WebhookCircuit × Except HttpError Unit
  | none => (c, .ok ())
  | some a => if a.isServerError then (c.fail now, .ok ()) else ({}, a.verdict)

end WebhookCircuit

/-- The circuit, the messages whose call is under way, and the answers so far: when, and whether a failure. -/
structure Breaker where
  circuit : WebhookCircuit := {}
  pending : List String := []
  answers : List (Int × Bool) := []
  deriving DecidableEq, Repr

-- A message is asked about, and its call ends; other messages may come in between.
inductive BreakerEvent where
  | ask (id url : String) (now : Int)
  | answer (id : String) (now : Int) (result : Option ModerationAnswer)
  deriving DecidableEq, Repr

namespace Breaker

def step (b : Breaker) : BreakerEvent → Breaker
  | .ask id url now => if url ≠ "" ∧ b.circuit.isOpen now = false then { b with pending := id :: b.pending } else b
  | .answer id now result =>
    if id ∈ b.pending then
      { circuit := (b.circuit.answered now result).1
        pending := b.pending.erase id
        answers := (result.map fun a => (now, a.isServerError)).toList ++ b.answers }
    else b

-- The latest three answers are failures within a minute.
def Tripped : List (Int × Bool) → Prop
  | (latest, true) :: (_, true) :: (first, true) :: _ => latest - first ≤ 60
  | _ => False

-- The latest two are, and a failure now would be the third in a minute.
def Due (now : Int) : List (Int × Bool) → Prop
  | (_, true) :: (first, true) :: _ => now - first ≤ 60
  | _ => False


theorem tripped_cons {now : Int} {answers : List (Int × Bool)} :
    Tripped ((now, true) :: answers) ↔ Due now answers := by
  match answers with
  | [] | [(_, true)] | [(_, false)] => exact Iff.rfl
  | (_, false) :: _ :: _ | (_, true) :: (_, false) :: _ | (_, true) :: (_, true) :: _ => exact Iff.rfl

theorem not_tripped_passed {now : Int} {answers : List (Int × Bool)} : ¬ Tripped ((now, false) :: answers) := id

theorem Due.failed {now : Int} {answers : List (Int × Bool)} (due : Due now answers) :
    ∃ latest first older, answers = (latest, true) :: (first, true) :: older ∧ now - first ≤ 60 := by
  match answers with
  | [] | [(_, true)] | [(_, false)] => cases due
  | (_, false) :: _ :: _ | (_, true) :: (_, false) :: _ => cases due
  | (latest, true) :: (first, true) :: older => exact ⟨latest, first, older, rfl, due⟩

/-- Open until ten minutes after the latest answer exactly if it trips, and closed if it is no failure. -/
structure Exact (b : Breaker) : Prop where
  opened : (∃ last ∈ b.answers.head?, b.circuit.openUntil = some (last.1 + 600)) ↔ Tripped b.answers
  closed : ∀ last ∈ b.answers.head?, last.2 = false → b.circuit.openUntil = none

def InOrder (b : Breaker) : BreakerEvent → Prop
  | .ask _ _ _ => True
  | .answer _ now _ => ∀ last ∈ b.answers.head?, last.1 ≤ now

-- A failure that is due finds the two before it in a window of its own minute.
def KeepsWindow (b : Breaker) : BreakerEvent → Prop
  | .ask _ _ _ => True
  | .answer id now result => id ∈ b.pending → result.any ModerationAnswer.isServerError = true → Due now b.answers →
      b.circuit.consecutiveFailures ≠ 1 ∧ ∀ start ∈ b.circuit.streakStartedAt, now - start ≤ 60

/-- The failures that the circuit counts are the latest answers, and its mark is no later than they allow. -/
structure Window (c : WebhookCircuit) (counted older : List (Int × Bool)) : Prop where
  failures : c.consecutiveFailures = counted.length
  failed : ∀ a ∈ counted, a.2 = true
  start : c.streakStartedAt = counted.getLast?.map Prod.fst
  sorted : (counted ++ older).Pairwise fun later earlier => earlier.1 ≤ later.1
  clear : counted = [] → c.openUntil = none ∧ ∀ a ∈ older.head?, a.2 = false
  capped : ∀ opened, c.openUntil = some opened → ∃ last ∈ counted.head?, opened ≤ last.1 + 600 ∧
    (opened = last.1 + 600 → 3 ≤ counted.length ∧ ∀ start ∈ c.streakStartedAt, last.1 - start ≤ 60)

def Counted (b : Breaker) : Prop := ∃ counted older, b.answers = counted ++ older ∧ Window b.circuit counted older

section

variable {c : WebhookCircuit} {counted older answers : List (Int × Bool)} {now start : Int}

theorem fail_trips (several : 2 ≤ c.consecutiveFailures) (began : c.streakStartedAt = some start)
    (recent : now - start ≤ 60) :
    c.fail now =
      { consecutiveFailures := c.consecutiveFailures + 1, openUntil := some (now + 600), streakStartedAt := some start } := by
  rw [WebhookCircuit.fail, began, Option.getD_some]
  exact if_pos ⟨by omega, recent⟩

theorem fail_restarts (began : c.streakStartedAt = some start) (old : 60 < now - start) :
    c.fail now = { consecutiveFailures := 1, openUntil := c.openUntil, streakStartedAt := some now } := by
  rw [WebhookCircuit.fail, began, Option.getD_some, if_neg (by omega), if_pos old]

theorem fail_counts (few : c.consecutiveFailures < 2) (recent : now - c.streakStartedAt.getD now ≤ 60) :
    c.fail now =
      { consecutiveFailures := c.consecutiveFailures + 1, openUntil := c.openUntil
        streakStartedAt := some (c.streakStartedAt.getD now) } := by
  rw [WebhookCircuit.fail, if_neg (by omega), if_neg (by omega)]

namespace Window

theorem begun (w : Window c counted older) (some : counted ≠ []) :
    ∃ st ∈ counted.getLast?, c.streakStartedAt = Option.some st.1 := by
  obtain ⟨st, last⟩ := Option.isSome_iff_exists.mp (List.getLast?_isSome.mpr some)
  exact ⟨st, last, by rw [w.start, last, Option.map_some]⟩

-- What the window holds is as old as the window at most.
theorem inside (w : Window c counted older) (began : c.streakStartedAt = some start) :
    ∀ a ∈ counted, start ≤ a.1 := by
  intro a member
  rw [w.start, Option.map_eq_some_iff] at began
  obtain ⟨first, last, rfl⟩ := began
  obtain ⟨front, rfl⟩ := List.getLast?_eq_some_iff.mp last
  rw [List.mem_append, List.mem_singleton] at member
  cases member with
  | inl before =>
    have sorted := (List.pairwise_append.mp (List.pairwise_append.mp w.sorted).1).2.2
    exact sorted a before first (List.mem_singleton.mpr rfl)
  | inr same => rw [same]

theorem sorted_cons (w : Window c counted older) (order : ∀ last ∈ (counted ++ older).head?, last.1 ≤ now) (b : Bool) :
    ((now, b) :: (counted ++ older)).Pairwise fun later earlier => earlier.1 ≤ later.1 := by
  refine List.pairwise_cons.mpr ⟨?_, w.sorted⟩
  have sorted := w.sorted
  cases whole : counted ++ older with
  | nil => exact fun _ => nofun
  | cons first rest =>
    rw [whole] at sorted order
    intro a member
    have latest := order first rfl
    cases List.mem_cons.mp member with
    | inl same => rw [same]; exact latest
    | inr later => exact ((List.pairwise_cons.mp sorted).1 a later).trans latest

theorem start_cons (w : Window c counted older) (b : Bool) :
    some (c.streakStartedAt.getD now) = ((now, b) :: counted).getLast?.map Prod.fst := by
  rw [w.start, List.getLast?_cons]
  cases counted.getLast? <;> rfl

theorem trips (w : Window c counted older) (order : ∀ last ∈ (counted ++ older).head?, last.1 ≤ now)
    (several : 2 ≤ c.consecutiveFailures) (began : c.streakStartedAt = some start) (recent : now - start ≤ 60) :
    Window (c.fail now) ((now, true) :: counted) older := by
  have failures := w.failures
  rw [fail_trips several began recent]
  constructor
  case failures => simp [failures]
  case failed => exact List.forall_mem_cons.mpr ⟨rfl, w.failed⟩
  case start =>
    have begun : some (c.streakStartedAt.getD now) = ((now, true) :: counted).getLast?.map Prod.fst :=
      w.start_cons true
    rwa [began] at begun
  case sorted => exact w.sorted_cons order true
  case clear => nofun
  case capped =>
    rintro _ ⟨⟩
    refine ⟨_, rfl, le_refl _, fun _ => ⟨by rw [List.length_cons]; omega, ?_⟩⟩
    rintro _ ⟨⟩
    exact recent

theorem restarts (w : Window c counted older) (order : ∀ last ∈ (counted ++ older).head?, last.1 ≤ now)
    (began : c.streakStartedAt = some start) (old : 60 < now - start) :
    Window (c.fail now) [(now, true)] (counted ++ older) := by
  rw [fail_restarts began old]
  constructor
  case failures => rfl
  case failed => simp
  case start => rfl
  case sorted => exact w.sorted_cons order true
  case clear => nofun
  case capped =>
    intro opened marked
    obtain ⟨last, head, cap, full⟩ := w.capped opened marked
    have latest := order last (List.mem_head?_append_of_mem_head? head)
    refine ⟨_, rfl, by omega, fun same => ?_⟩
    have young := (full (by omega)).2 start began
    omega

theorem counts (w : Window c counted older) (order : ∀ last ∈ (counted ++ older).head?, last.1 ≤ now)
    (few : c.consecutiveFailures < 2) (recent : now - c.streakStartedAt.getD now ≤ 60) :
    Window (c.fail now) ((now, true) :: counted) older := by
  have failures := w.failures
  rw [fail_counts few recent]
  constructor
  case failures => simp [failures]
  case failed => exact List.forall_mem_cons.mpr ⟨rfl, w.failed⟩
  case start => exact w.start_cons true
  case sorted => exact w.sorted_cons order true
  case clear => nofun
  case capped =>
    intro opened marked
    obtain ⟨last, head, cap, full⟩ := w.capped opened marked
    have latest := order last (List.mem_head?_append_of_mem_head? head)
    refine ⟨_, rfl, by omega, fun same => ?_⟩
    have many := (full (by omega)).1
    omega

-- Each failure is counted, whether it opens the circuit, begins a window anew or does neither.
theorem fail (w : Window c counted older) (order : ∀ last ∈ (counted ++ older).head?, last.1 ≤ now) :
    ∃ counts later, (now, true) :: (counted ++ older) = counts ++ later ∧ Window (c.fail now) counts later := by
  cases began : c.streakStartedAt with
  | none =>
    have none : counted = [] := by
      have start := w.start
      rwa [began, eq_comm, Option.map_eq_none_iff, List.getLast?_eq_none_iff] at start
    have few : c.consecutiveFailures < 2 := by
      rw [w.failures, none]
      exact Nat.zero_lt_two
    refine ⟨(now, true) :: counted, older, rfl, w.counts order few ?_⟩
    rw [began, Option.getD_none]
    omega
  | some start =>
    by_cases old : 60 < now - start
    · exact ⟨[(now, true)], counted ++ older, rfl, w.restarts order began old⟩
    by_cases several : 2 ≤ c.consecutiveFailures
    · exact ⟨(now, true) :: counted, older, rfl, w.trips order several began (by omega)⟩
    · refine ⟨(now, true) :: counted, older, rfl, w.counts order (by omega) ?_⟩
      rw [began, Option.getD_some]
      omega

-- A circuit that is marked until ten minutes after the latest answer has tripped.
theorem tripped (w : Window c counted older)
    (marked : ∃ last ∈ (counted ++ older).head?, c.openUntil = some (last.1 + 600)) : Tripped (counted ++ older) := by
  obtain ⟨last, head, opened⟩ := marked
  obtain ⟨first, front, -, full⟩ := w.capped _ opened
  have same : first = last := Option.mem_unique (List.mem_head?_append_of_mem_head? front) head
  subst same
  obtain ⟨three, young⟩ := full rfl
  obtain ⟨latest, middle, third, rest, rfl⟩ : ∃ a b d rest, counted = a :: b :: d :: rest := by
    match counted, three with
    | a :: b :: d :: rest, _ => exact ⟨a, b, d, rest, rfl⟩
  cases front
  obtain ⟨st, -, began⟩ := w.begun (List.cons_ne_nil _ _)
  have age := young st.1 began
  have held := w.inside began third (by simp)
  have failed := w.failed
  simp only [List.mem_cons, forall_eq_or_imp] at failed
  obtain ⟨when1, failed1⟩ := first
  obtain ⟨when2, failed2⟩ := middle
  obtain ⟨when3, failed3⟩ := third
  obtain ⟨rfl, rfl, rfl, -⟩ := failed
  simp only [List.cons_append, Tripped]
  omega

theorem reset (w : Window c counted older) (order : ∀ last ∈ (counted ++ older).head?, last.1 ≤ now) :
    Window {} [] ((now, false) :: (counted ++ older)) where
  failures := rfl
  failed := nofun
  start := rfl
  sorted := w.sorted_cons order false
  clear := fun _ => ⟨rfl, by rintro _ ⟨⟩; rfl⟩
  capped := nofun

end Window

end

-- A failure that is due opens the circuit exactly if the window is kept.
theorem due_opens {c : WebhookCircuit} {counted older : List (Int × Bool)} {now : Int} (w : Window c counted older)
    (order : ∀ last ∈ (counted ++ older).head?, last.1 ≤ now) (due : Due now (counted ++ older)) :
    (c.fail now).openUntil = some (now + 600) ↔
      c.consecutiveFailures ≠ 1 ∧ ∀ start ∈ c.streakStartedAt, now - start ≤ 60 := by
  have some : counted ≠ [] := by
    rintro rfl
    obtain ⟨latest, first, rest, rfl, -⟩ := due.failed
    cases (w.clear rfl).2 (latest, true) rfl
  obtain ⟨st, -, began⟩ := w.begun some
  have failures := w.failures
  have positive := List.length_pos_iff.mpr some
  constructor
  · intro opened
    have unmarked (same : (c.fail now).openUntil = c.openUntil) : 3 ≤ counted.length ∧ now - st.1 ≤ 60 := by
      obtain ⟨last, head, cap, full⟩ := w.capped _ (same.symm.trans opened)
      have latest := order last (List.mem_head?_append_of_mem_head? head)
      have when : now = last.1 := by omega
      obtain ⟨three, young⟩ := full (by omega)
      exact ⟨three, when ▸ young st.1 began⟩
    by_cases old : 60 < now - st.1
    · have := (unmarked (by rw [fail_restarts began old])).2
      omega
    by_cases few : c.consecutiveFailures < 2
    · have := (unmarked (by rw [fail_counts few (by rw [began, Option.getD_some]; omega)])).1
      omega
    refine ⟨by omega, fun start began' => ?_⟩
    have same := Option.mem_unique began' began
    omega
  · rintro ⟨notOne, young⟩
    rw [fail_trips (by omega) began (young st.1 began)]

/-- What holds before each event of a run whose failures keep their windows. -/
structure Running (b : Breaker) : Prop where
  counted : Counted b
  exact : Exact b

section

variable {b : Breaker} {id : String} {now : Int} {a : ModerationAnswer}

theorem step_failed (asked : id ∈ b.pending) (failed : a.isServerError = true) :
    step b (.answer id now (some a)) =
      { circuit := b.circuit.fail now, pending := b.pending.erase id, answers := (now, true) :: b.answers } := by
  rw [step, if_pos asked, WebhookCircuit.answered, if_pos failed, Option.map_some, failed]
  rfl

theorem step_passed (asked : id ∈ b.pending) (passed : a.isServerError = false) :
    step b (.answer id now (some a)) =
      { circuit := {}, pending := b.pending.erase id, answers := (now, false) :: b.answers } := by
  rw [step, if_pos asked, WebhookCircuit.answered, if_neg (by simp [passed]), Option.map_some, passed]
  rfl

theorem step_silent (e : BreakerEvent)
    (silent : ∀ id now a, e = .answer id now (some a) → id ∉ b.pending) :
    (step b e).circuit = b.circuit ∧ (step b e).answers = b.answers := by
  cases e with
  | ask id url now =>
    rw [step]
    split <;> exact ⟨rfl, rfl⟩
  | answer id now result =>
    rw [step]
    split
    next asked =>
      cases result with
      | none => exact ⟨rfl, rfl⟩
      | some a => exact absurd asked (silent id now a rfl)
    next => exact ⟨rfl, rfl⟩

end

-- An event changes nothing of what is counted, unless it is an answer that was waited for.
theorem event_cases (b : Breaker) (e : BreakerEvent) :
    (∃ id now a, e = .answer id now (some a) ∧ id ∈ b.pending) ∨
      (step b e).circuit = b.circuit ∧ (step b e).answers = b.answers ∧ KeepsWindow b e := by
  by_cases heard : ∃ id now a, e = .answer id now (some a) ∧ id ∈ b.pending
  · exact .inl heard
  · have silent (id : String) (now : Int) (a : ModerationAnswer) (same : e = .answer id now (some a)) :
        id ∉ b.pending := fun asked => heard ⟨id, now, a, same, asked⟩
    obtain ⟨circuit, answers⟩ := step_silent e silent
    refine .inr ⟨circuit, answers, ?_⟩
    cases e with
    | ask => trivial
    | answer id now result =>
      intro asked failed
      cases result with
      | none => cases failed
      | some a => exact absurd asked (silent id now a rfl)

theorem step_running {b : Breaker} {e : BreakerEvent} (running : Running b) (order : InOrder b e) :
    Counted (step b e) ∧ (Exact (step b e) ↔ KeepsWindow b e) := by
  obtain ⟨counted, older, split, w⟩ := running.counted
  rcases event_cases b e with ⟨id, now, a, rfl, asked⟩ | ⟨circuit, answers, kept⟩
  · rw [InOrder, split] at order
    cases failed : a.isServerError with
    | true =>
      rw [step_failed asked failed]
      obtain ⟨counts, later, same, next⟩ := w.fail order
      refine ⟨⟨counts, later, by rw [split, same], next⟩, ?_⟩
      have back (marked : (b.circuit.fail now).openUntil = some (now + 600)) : Due now b.answers := by
        rw [split, ← tripped_cons, same]
        exact next.tripped ⟨(now, true), by rw [← same]; rfl, marked⟩
      have kept : KeepsWindow b (.answer id now (some a)) ↔
          (Due now b.answers → (b.circuit.fail now).openUntil = some (now + 600)) := by
        simp only [KeepsWindow, asked, Option.any_some, failed, true_imp_iff]
        refine imp_congr_right fun due => ?_
        rw [split] at due
        exact (due_opens w order due).symm
      rw [kept]
      constructor
      · intro exact due
        obtain ⟨last, head, marked⟩ := exact.opened.mpr (tripped_cons.mpr due)
        cases head
        exact marked
      · intro opens
        constructor
        · rw [tripped_cons]
          constructor
          · rintro ⟨last, ⟨⟩, marked⟩
            exact back marked
          · exact fun due => ⟨_, rfl, opens due⟩
        · rintro last ⟨⟩ ⟨⟩
    | false =>
      rw [step_passed asked failed]
      refine ⟨⟨[], _, rfl, by rw [split]; exact w.reset order⟩, iff_of_true ?_ ?_⟩
      · exact { opened := iff_of_false (by rintro ⟨_, -, ⟨⟩⟩) not_tripped_passed, closed := fun _ _ _ => rfl }
      · intro _ fails
        simp [failed] at fails
  · refine ⟨⟨counted, older, by rw [answers, split], by rw [circuit]; exact w⟩, iff_of_true ?_ kept⟩
    exact { opened := by rw [answers, circuit]; exact running.exact.opened
            closed := by rw [answers, circuit]; exact running.exact.closed }

/-- The breaker is exact throughout a run if and only if no failure that is due meets a window begun anew. -/
theorem breaker_iff (events : List BreakerEvent) (ordered : Runs.Meets step InOrder {} events) :
    (∀ front, front <+: events → Exact (Runs.run step {} front)) ↔ Runs.Meets step KeepsWindow {} events := by
  have initial : Running {} := by
    refine ⟨⟨[], [], rfl, ?_⟩, ?_⟩
    · constructor <;> simp
    · constructor <;> simp [Tripped]
  exact Runs.always_iff_meets_within Running Exact (fun _ running => running.exact)
    (fun _ _ running order kept => ⟨(step_running running order).1, (step_running running order).2.mpr kept⟩)
    (fun _ _ running order lost exact => lost ((step_running running order).2.mp exact)) initial events ordered

-- One message after the other, each of them answered with a failure.
def failures (times : List Int) : List BreakerEvent :=
  times.flatMap fun now => [.ask "m" "https://moderation" now, .answer "m" now (some { status := 503 })]

theorem breaker_iff_quick : Exact (Runs.run step {} (failures [0, 10, 20])) := by
  have ordered : Runs.Meets step InOrder {} (failures [0, 10, 20]) := by
    simp [failures, Runs.Meets, InOrder, step, WebhookCircuit.isOpen, WebhookCircuit.answered,
      WebhookCircuit.fail, ModerationAnswer.isServerError]
  refine (breaker_iff _ ordered).mpr ?_ _ (List.prefix_refl _)
  simp [failures, Runs.Meets, KeepsWindow, Due, step, WebhookCircuit.isOpen, WebhookCircuit.answered,
    WebhookCircuit.fail, ModerationAnswer.isServerError]

-- The third failure begins a new window, which the fourth does not find the second in.
theorem breaker_misses :
    ¬ ∀ events, Runs.Meets step InOrder {} events →
      ∀ front, front <+: events → Exact (Runs.run step {} front) := by
  intro always
  have ordered : Runs.Meets step InOrder {} (failures [0, 50, 70, 75]) := by
    simp [failures, Runs.Meets, InOrder, step, WebhookCircuit.isOpen, WebhookCircuit.answered,
      WebhookCircuit.fail, ModerationAnswer.isServerError]
  have reached : Runs.run step {} (failures [0, 50, 70, 75]) =
      { circuit := { consecutiveFailures := 2, streakStartedAt := some 70 }
        answers := [(75, true), (70, true), (50, true), (0, true)] } := by decide
  have exact := always _ ordered _ (List.prefix_refl _)
  rw [reached] at exact
  obtain ⟨last, -, marked⟩ := exact.opened.mpr (show (75 : Int) - 50 ≤ 60 by decide)
  cases marked

end Breaker

end Wavvon.Chat
