import Wavvon.Shared.Runs

set_option autoImplicit false

namespace Interleaving

variable {S L P A B E : Type}

/--
A handler cut at its statements. Each statement changes the shared state at once; what the handler
does next depends on the state the statement saw.
-/
inductive Handler (S L A : Type) where
  | done (answer : A)
  | stmt (label : L) (effect : S → S) (next : S → Handler S L A)

namespace Handler

def bind : Handler S L A → (A → Handler S L B) → Handler S L B
  | done answer, rest => rest answer
  | stmt label effect next, rest => stmt label effect fun s => (next s).bind rest

instance : Monad (Handler S L) where
  pure := done
  bind := bind

-- One statement and the value it reads.
def exec (label : L) (effect : S → S) (read : S → A) : Handler S L A :=
  stmt label effect fun s => done (read s)

-- The rest of a handler that stops at the first error.
def andThen (first : Handler S L (Except E A)) (rest : A → Handler S L (Except E B)) :
    Handler S L (Except E B) :=
  first >>= fun
    | .error e => done (.error e)
    | .ok value => rest value

-- The handler from start to end, with nobody else in between.
def alone : Handler S L A → S → S × A
  | done answer, s => (s, answer)
  | stmt _ effect next, s => (next s).alone (effect s)

@[simp] theorem alone_done (answer : A) (s : S) : (done answer : Handler S L A).alone s = (s, answer) := rfl

@[simp] theorem alone_pure (answer : A) (s : S) : (pure answer : Handler S L A).alone s = (s, answer) := rfl

@[simp] theorem alone_exec (label : L) (effect : S → S) (read : S → A) (s : S) :
    (exec label effect read).alone s = (effect s, read s) := rfl

@[simp] theorem alone_bind (first : Handler S L A) (rest : A → Handler S L B) (s : S) :
    (first >>= rest).alone s = (rest (first.alone s).2).alone (first.alone s).1 := by
  induction first generalizing s with
  | done answer => rfl
  | stmt label effect next ih => exact ih s (effect s)

theorem alone_andThen (first : Handler S L (Except E A)) (rest : A → Handler S L (Except E B)) (s : S) :
    (first.andThen rest).alone s =
      match (first.alone s).2 with
      | .error e => ((first.alone s).1, .error e)
      | .ok value => (rest value).alone (first.alone s).1 := by
  rw [andThen, alone_bind]
  cases (first.alone s).2 <;> rfl

end Handler

/-- How the statements of a handler move it along, and what each may do to the shared state. -/
structure Discipline (S L P : Type) where
  advance : P → L → S → P
  permits : P → L → S → S → Prop

-- Every statement still to come is permitted where the handler then is, and it ends as promised.
def Fits (rules : Discipline S L P) (post : P → A → Prop) : P → Handler S L A → Prop
  | p, .done answer => post p answer
  | p, .stmt label effect next =>
    (∀ s, rules.permits p label s (effect s)) ∧ ∀ s, Fits rules post (rules.advance p label s) (next s)

section

variable {rules : Discipline S L P} {post : P → A → Prop}

theorem fits_exec {p : P} {label : L} {effect : S → S} {read : S → A}
    (permitted : ∀ s, rules.permits p label s (effect s))
    (ends : ∀ s, post (rules.advance p label s) (read s)) :
    Fits rules post p (Handler.exec label effect read) :=
  ⟨permitted, ends⟩

theorem fits_exec_bind {later : P → B → Prop} {p : P} {label : L} {effect : S → S} {read : S → A}
    {rest : A → Handler S L B} (permitted : ∀ s, rules.permits p label s (effect s))
    (goesOn : ∀ s, Fits rules later (rules.advance p label s) (rest (read s))) :
    Fits rules later p (Handler.exec label effect read >>= rest) :=
  ⟨permitted, goesOn⟩

-- A statement that leaves the handler where it is.
theorem fits_quiet {later : P → B → Prop} {p : P} {label : L} {effect : S → S} {read : S → A}
    {rest : A → Handler S L B} (stays : ∀ s, rules.advance p label s = p)
    (permitted : ∀ s, rules.permits p label s (effect s)) (goesOn : ∀ answer, Fits rules later p (rest answer)) :
    Fits rules later p (Handler.exec label effect read >>= rest) := by
  refine fits_exec_bind permitted ?_
  intro s
  rw [stays]
  exact goesOn (read s)

theorem Fits.bind {later : P → B → Prop} {p : P} {first : Handler S L A} {rest : A → Handler S L B}
    (fits : Fits rules post p first) (goesOn : ∀ p answer, post p answer → Fits rules later p (rest answer)) :
    Fits rules later p (first >>= rest) := by
  induction first generalizing p with
  | done answer => exact goesOn p answer fits
  | stmt label effect next ih =>
    refine ⟨fits.1, ?_⟩
    intro s
    exact ih s (fits.2 s)

theorem Fits.andThen {E : Type} {first : Handler S L (Except E A)} {rest : A → Handler S L (Except E B)}
    {middle : P → Except E A → Prop} {later : P → Except E B → Prop} {p : P}
    (fits : Fits rules middle p first) (stops : ∀ p e, middle p (.error e) → later p (.error e))
    (goesOn : ∀ p value, middle p (.ok value) → Fits rules later p (rest value)) :
    Fits rules later p (first.andThen rest) := by
  refine fits.bind ?_
  intro p answer held
  cases answer with
  | error e => exact stops p e held
  | ok value => exact goesOn p value held

theorem fits_exec_andThen {E : Type} {later : P → Except E B → Prop} {p : P} {label : L} {effect : S → S}
    {read : S → Except E A} {rest : A → Handler S L (Except E B)} (permitted : ∀ s, rules.permits p label s (effect s))
    (stops : ∀ s e, read s = .error e → later (rules.advance p label s) (.error e))
    (goesOn : ∀ s value, read s = .ok value → Fits rules later (rules.advance p label s) (rest value)) :
    Fits rules later p ((Handler.exec label effect read).andThen rest) := by
  refine fits_exec_bind permitted ?_
  intro s
  cases answer : read s with
  | error e => exact stops s e answer
  | ok value => exact goesOn s value answer

theorem Fits.weaken {wider : P → A → Prop} {p : P} {handler : Handler S L A}
    (fits : Fits rules post p handler) (wide : ∀ p answer, post p answer → wider p answer) :
    Fits rules wider p handler := by
  induction handler generalizing p with
  | done answer => exact wide p answer fits
  | stmt label effect next ih => exact ⟨fits.1, fun s => ih s (fits.2 s)⟩

end

structure Task (S L P A : Type) where
  progress : P
  handler : Handler S L A

/-- Handlers in flight over one shared state. -/
structure System (S L P A : Type) where
  shared : S
  tasks : List (Task S L P A)

def System.progresses (sys : System S L P A) : List P := sys.tasks.map (·.progress)

-- A task that is about to execute the statement.
def System.AtStatement (sys : System S L P A) (i : Nat) (p : P) (label : L) : Prop :=
  ∃ effect next, sys.tasks[i]? = some { progress := p, handler := .stmt label effect next }

-- The statement a task is about to execute, with how far the task is.
def Task.pending : Task S L P A → Option (P × L)
  | { progress := _, handler := .done _ } => none
  | { progress := p, handler := .stmt label _ _ } => some (p, label)

def System.pending (sys : System S L P A) (i : Nat) : Option (P × L) :=
  sys.tasks[i]?.bind Task.pending

theorem Task.pending_eq_some {task : Task S L P A} {p : P} {label : L} :
    task.pending = some (p, label) ↔
      ∃ effect next, task = { progress := p, handler := .stmt label effect next } := by
  obtain ⟨q, handler⟩ := task
  cases handler with
  | done answer => simp [pending]
  | stmt other effect next => simp [pending]

theorem System.atStatement_iff {sys : System S L P A} {i : Nat} {p : P} {label : L} :
    sys.AtStatement i p label ↔ sys.pending i = some (p, label) := by
  rw [pending, Option.bind_eq_some_iff]
  constructor
  · rintro ⟨effect, next, found⟩
    exact ⟨_, found, rfl⟩
  · rintro ⟨task, found, waits⟩
    obtain ⟨effect, next, rfl⟩ := Task.pending_eq_some.mp waits
    exact ⟨effect, next, found⟩

-- The scheduler picks a task; one that has answered does nothing more.
def step (rules : Discipline S L P) (sys : System S L P A) (i : Nat) : System S L P A :=
  match sys.tasks[i]? with
  | some { progress := p, handler := .stmt label effect next } =>
    { shared := effect sys.shared
      tasks := sys.tasks.set i
        { progress := rules.advance p label sys.shared, handler := next sys.shared } }
  | _ => sys

def FitAll (rules : Discipline S L P) (post : P → A → Prop) (sys : System S L P A) : Prop :=
  ∀ task ∈ sys.tasks, Fits rules post task.progress task.handler

def AllFit (rules : Discipline S L P) (sys : System S L P A) : Prop :=
  ∀ task ∈ sys.tasks, Fits rules (fun _ _ => True) task.progress task.handler

/-- One statement of one task: permitted, and nothing else moves. -/
structure Moves (rules : Discipline S L P) (sys after : System S L P A) (i : Nat) (p : P) (label : L) :
    Prop where
  atStatement : sys.AtStatement i p label
  permitted : rules.permits p label sys.shared after.shared
  here : ∃ handler, after.tasks[i]? =
    some { progress := rules.advance p label sys.shared, handler := handler }
  elsewhere : ∀ j, j ≠ i → after.tasks[j]? = sys.tasks[j]?

section

variable {rules : Discipline S L P} {post : P → A → Prop} {sys : System S L P A}

theorem step_moves (fit : FitAll rules post sys) {i : Nat} {p : P} {label : L}
    (waits : sys.AtStatement i p label) : Moves rules sys (step rules sys i) i p label := by
  obtain ⟨effect, next, found⟩ := waits
  have inside := (List.getElem?_eq_some_iff.mp found).1
  refine ⟨⟨effect, next, found⟩, ?_, ⟨next sys.shared, ?_⟩, ?_⟩
  · simpa [step, found] using (fit _ (List.mem_of_getElem? found)).1 sys.shared
  · simp only [step, found]
    simp [inside]
  · intro j other
    simp [step, found, Ne.symm other]

theorem step_progresses (rules : Discipline S L P) {i : Nat} {p : P} {label : L} (waits : sys.AtStatement i p label) :
    sys.progresses[i]? = some p ∧
      (step rules sys i).progresses = sys.progresses.set i (rules.advance p label sys.shared) := by
  obtain ⟨effect, next, found⟩ := waits
  constructor
  · simp [System.progresses, found]
  · simp only [System.progresses, step, found, List.map_set]

-- A task that stands somewhere after a move is the one that moved, or stood there before.
theorem step_at (rules : Discipline S L P) {i : Nat} {p : P} {label : L} (waits : sys.AtStatement i p label)
    {j : Nat} {q : P}
    (found : (step rules sys i).progresses[j]? = some q) :
    j = i ∧ q = rules.advance p label sys.shared ∨ j ≠ i ∧ sys.progresses[j]? = some q := by
  obtain ⟨before, after⟩ := step_progresses rules waits
  rw [after] at found
  by_cases here : j = i
  next =>
    subst here
    rw [List.getElem?_set_self (List.getElem?_eq_some_iff.mp before).1] at found
    exact .inl ⟨rfl, (Option.some.inj found).symm⟩
  next =>
    rw [List.getElem?_set_ne (Ne.symm here)] at found
    exact .inr ⟨here, found⟩

-- How a move changes the number of tasks of a kind.
theorem step_countP (rules : Discipline S L P) {i : Nat} {p : P} {label : L} (waits : sys.AtStatement i p label)
    (kind : P → Bool) :
    (step rules sys i).progresses.countP kind + (if kind p then 1 else 0) =
      sys.progresses.countP kind + (if kind (rules.advance p label sys.shared) then 1 else 0) := by
  obtain ⟨found, after⟩ := step_progresses rules waits
  obtain ⟨inside, here⟩ := List.getElem?_eq_some_iff.mp found
  have counted : (if kind p then 1 else 0) ≤ sys.progresses.countP kind := by
    split
    next own => exact List.countP_pos_iff.mpr ⟨p, List.mem_of_getElem? found, own⟩
    next => exact Nat.zero_le _
  rw [after, List.countP_set inside, here]
  omega

theorem step_cases (fit : FitAll rules post sys) (i : Nat) :
    step rules sys i = sys ∨ ∃ p label, Moves rules sys (step rules sys i) i p label := by
  cases waits : sys.pending i with
  | some move => exact .inr ⟨move.1, move.2, step_moves fit (System.atStatement_iff.mpr waits)⟩
  | none =>
    refine .inl ?_
    unfold step
    split
    next p label effect next found => simp [System.pending, Task.pending, found] at waits
    next => rfl

theorem step_fit (fit : FitAll rules post sys) (i : Nat) : FitAll rules post (step rules sys i) := by
  unfold step
  split
  next p label effect next found =>
    intro task member
    rcases List.mem_or_eq_of_mem_set member with old | rfl
    · exact fit task old
    · exact (fit _ (List.mem_of_getElem? found)).2 sys.shared
  next => exact fit

theorem run_fit (fit : FitAll rules post sys) (schedule : List Nat) :
    FitAll rules post (Runs.run (step rules) sys schedule) :=
  Runs.run_invariant (FitAll rules post) (fun _ i held => step_fit held i) sys fit schedule

end

section

variable (ready : P → L → S → Bool) (rules : Discipline S L P)

-- A statement that waits for a row lock does nothing until it gets it.
def gatedStep (sys : System S L P A) (i : Nat) : System S L P A :=
  if (sys.pending i).any fun move => ready move.1 move.2 sys.shared then step rules sys i else sys

end

/-- What holds of the shared state, and what each task knows of it. -/
structure Assertions (S P : Type) where
  shared : S → Prop
  task : Nat → P → S → Prop

structure Holds (claims : Assertions S P) (sys : System S L P A) : Prop where
  shared : claims.shared sys.shared
  tasks : ∀ i p, sys.progresses[i]? = some p → claims.task i p sys.shared

section

variable {ready : P → L → S → Bool} {rules : Discipline S L P} {post : P → A → Prop} {sys : System S L P A}

theorem gatedStep_cases (fit : FitAll rules post sys) (i : Nat) :
    gatedStep ready rules sys i = sys ∨ ∃ p label, ready p label sys.shared = true ∧
      Moves rules sys (gatedStep ready rules sys i) i p label := by
  unfold gatedStep
  split
  next opened =>
    obtain ⟨⟨p, label⟩, waits, free⟩ := (Option.any_eq_true _ _).mp opened
    exact .inr ⟨p, label, free, step_moves fit (System.atStatement_iff.mpr waits)⟩
  next => exact .inl rfl

theorem gatedStep_ready {i : Nat} {p : P} {label : L} (waits : sys.AtStatement i p label)
    (free : ready p label sys.shared = true) : gatedStep ready rules sys i = step rules sys i := by
  rw [gatedStep, System.atStatement_iff.mp waits, Option.any_some, free, if_pos rfl]

theorem gatedStep_fit (fit : FitAll rules post sys) (i : Nat) : FitAll rules post (gatedStep ready rules sys i) := by
  unfold gatedStep
  split
  next => exact step_fit fit i
  next => exact fit

variable {claims : Assertions S P} {after : System S L P A}

-- A statement keeps what its own task knows, and must not spoil what the others know.
theorem Holds.moves {i : Nat} {p : P} {label : L} (held : Holds claims sys) (moves : Moves rules sys after i p label)
    (shared : claims.shared after.shared) (own : claims.task i (rules.advance p label sys.shared) after.shared)
    (others : ∀ j q, j ≠ i → claims.task j q sys.shared → claims.task j q after.shared) : Holds claims after := by
  refine ⟨shared, ?_⟩
  intro j q found
  by_cases here : j = i
  next =>
    subst here
    obtain ⟨handler, stands⟩ := moves.here
    rw [System.progresses, List.getElem?_map, stands] at found
    cases found
    exact own
  next =>
    rw [System.progresses, List.getElem?_map, moves.elsewhere j here, ← List.getElem?_map] at found
    exact others j q here (held.tasks j q found)

theorem Holds.at {i : Nat} {p : P} {label : L} (held : Holds claims sys) (waits : sys.AtStatement i p label) :
    claims.task i p sys.shared := by
  obtain ⟨effect, next, found⟩ := waits
  exact held.tasks i p (by simp [System.progresses, found])

end

/--
A handler with the transactions of others in between: before each of its statements a batch of them
runs, none once the batches are used up.
-/
def Handler.amid (others : S → E → S) : Handler S L A → List (List E) → S → S × A
  | .done answer, _, s => (s, answer)
  | .stmt _ effect next, batches, s =>
    let seen := Runs.run others s (batches.headD [])
    (next seen).amid others batches.tail (effect seen)

-- The rest of a handler goes on with the batches that are left.
theorem Handler.amid_bind (others : S → E → S) (first : Handler S L A) (rest : A → Handler S L B)
    (batches : List (List E)) (s : S) :
    ∃ used, (first >>= rest).amid others batches s =
      (rest (first.amid others batches s).2).amid others (batches.drop used) (first.amid others batches s).1 := by
  induction first generalizing batches s with
  | done answer => exact ⟨0, rfl⟩
  | stmt label effect next ih =>
    let seen := Runs.run others s (batches.headD [])
    obtain ⟨used, same⟩ := ih seen batches.tail (effect seen)
    rw [List.drop_tail] at same
    exact ⟨used + 1, same⟩

-- However far others move the state before each statement, the handler ends as promised.
inductive Ends (rely : S → S → Prop) (post : A → S → Prop) : Handler S L A → S → Prop
  | done {answer : A} {s : S} (kept : post answer s) : Ends rely post (.done answer) s
  | stmt {label : L} {effect : S → S} {next : S → Handler S L A} {s : S}
      (goesOn : ∀ seen, rely s seen → Ends rely post (next seen) (effect seen)) :
      Ends rely post (.stmt label effect next) s

section

variable {rely : S → S → Prop} {post : A → S → Prop} {later : B → S → Prop}

theorem ends_exec {label : L} {effect : S → S} {read : S → A} {s : S}
    (ends : ∀ seen, rely s seen → post (read seen) (effect seen)) :
    Ends rely post (Handler.exec label effect read) s :=
  .stmt fun seen moved => .done (ends seen moved)

theorem ends_exec_bind {label : L} {effect : S → S} {read : S → A} {rest : A → Handler S L B} {s : S}
    (goesOn : ∀ seen, rely s seen → Ends rely later (rest (read seen)) (effect seen)) :
    Ends rely later (Handler.exec label effect read >>= rest) s :=
  .stmt goesOn

theorem Ends.bind {first : Handler S L A} {rest : A → Handler S L B} {s : S} (ends : Ends rely post first s)
    (goesOn : ∀ answer s, post answer s → Ends rely later (rest answer) s) :
    Ends rely later (first >>= rest) s := by
  induction ends with
  | done kept => exact goesOn _ _ kept
  | stmt _ ih => exact .stmt ih

theorem Ends.weaken {wider : A → S → Prop} {handler : Handler S L A} {s : S} (ends : Ends rely post handler s)
    (wide : ∀ answer s, post answer s → wider answer s) : Ends rely wider handler s := by
  induction ends with
  | done kept => exact .done (wide _ _ kept)
  | stmt _ ih => exact .stmt ih

theorem batch_keeps {others : S → E → S} (refl : ∀ s, rely s s)
    (trans : ∀ {s t u}, rely s t → rely t u → rely s u) {batch : List E}
    (keep : ∀ e ∈ batch, ∀ s, rely s (others s e)) (s : S) : rely s (Runs.run others s batch) := by
  induction batch generalizing s with
  | nil => exact refl s
  | cons e rest ih =>
    exact trans (keep e List.mem_cons_self s)
      (ih (fun other member => keep other (List.mem_cons_of_mem e member)) (others s e))

-- Others that keep to the relation cannot break the promise.
theorem Ends.amid {others : S → E → S} {handler : Handler S L A} {s : S} (ends : Ends rely post handler s)
    (refl : ∀ s, rely s s) (trans : ∀ {s t u}, rely s t → rely t u → rely s u) {batches : List (List E)}
    (keep : ∀ batch ∈ batches, ∀ e ∈ batch, ∀ s, rely s (others s e)) :
    post (handler.amid others batches s).2 (handler.amid others batches s).1 := by
  induction ends generalizing batches with
  | done kept => exact kept
  | @stmt label effect next s _ ih =>
    cases batches with
    | nil => exact ih s (refl s) keep
    | cons batch rest =>
      exact ih _ (batch_keeps refl trans (keep batch List.mem_cons_self) s)
        fun other member => keep other (List.mem_cons_of_mem batch member)

end

end Interleaving
