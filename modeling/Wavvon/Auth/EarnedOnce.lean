import Wavvon.Auth.Puzzles
import Wavvon.Shared.Interleaving

set_option autoImplicit false

namespace Wavvon.Puzzles

open Std (ExtTreeMap)
open Interleaving (Discipline Fits FitAll System Moves Assertions Holds fits_exec_bind fits_exec_andThen fits_quiet)

inductive LobbyPhase where
  | idle
  | found (row : ChallengeRow)
  | wrong (row : ChallengeRow)
  -- The request has marked the challenge as consumed.
  | taken (row : ChallengeRow)
  | passedOn (row : ChallengeRow) (puzzleId : String)
  | issued (row : ChallengeRow) (token : String)
  deriving DecidableEq, Repr

structure LobbyProgress where
  request : LobbyRequest
  phase : LobbyPhase := .idle
  deriving DecidableEq, Repr

namespace LobbyProgress

def challengeId (p : LobbyProgress) : Option String :=
  match p.request with
  | .verify req _ _ => some req.id
  | _ => none

def answer (p : LobbyProgress) : Option String :=
  match p.request with
  | .verify req _ _ => req.answer
  | _ => none

-- The challenge that the request has consumed.
def taken (p : LobbyProgress) : Option String :=
  match p.phase with
  | .taken _ | .passedOn _ _ | .issued _ _ => p.challengeId
  | _ => none

def passedOnTo (p : LobbyProgress) (id : String) : Bool :=
  match p.phase with
  | .passedOn _ puzzleId => decide (puzzleId = id)
  | _ => false

def hasIssued (p : LobbyProgress) : Bool :=
  match p.phase with
  | .issued _ _ => true
  | _ => false

def answeredWrong (p : LobbyProgress) (id : String) : Bool :=
  match p.phase with
  | .wrong _ => decide (p.challengeId = some id)
  | _ => false

end LobbyProgress

section

variable (sha256Hex : String → String)

def lookedUp (p : LobbyProgress) (s : Lobby) : LobbyPhase :=
  match p.request with
  | .verify req now _ =>
    match checkRow req now s.challenges[req.id]? with
    | .ok row => .found row
    | .error _ => p.phase
  | _ => p.phase

def IsWrong (p : LobbyProgress) (row : ChallengeRow) : Prop :=
  row.kind = "puzzle" ∧ grade sha256Hex p.answer row.expectedAnswer = .wrong

instance (p : LobbyProgress) (row : ChallengeRow) : Decidable (IsWrong sha256Hex p row) :=
  inferInstanceAs (Decidable (_ ∧ _))

-- What earns the challenge: a click needs no answer, a puzzle the right one.
def Answers (p : LobbyProgress) (row : ChallengeRow) : Prop :=
  row.kind = "click" ∨ row.kind = "puzzle" ∧ grade sha256Hex p.answer row.expectedAnswer = .right

def nextPhase (p : LobbyProgress) (label : LobbyStatement) (s : Lobby) : LobbyPhase :=
  match label, p.phase with
  | .lookUp _, .idle => lookedUp p s
  | .readDifficulty, .found row => if IsWrong sha256Hex p row then .wrong row else .found row
  | .consume _ _, .found row => .taken row
  | .insertChallenge id _, .taken row => if id ∈ s.challenges then .taken row else .passedOn row id
  | .issueToken token _, .taken row => if token ∈ s.tokens then .taken row else .issued row token
  | _, phase => phase

def lobbyRules : Discipline Lobby LobbyStatement LobbyProgress where
  advance p label s := { p with phase := nextPhase sha256Hex p label s }
  permits p label s after :=
    after = label.effect s ∧
      match label with
      | .lookUp id => p.phase = .idle ∧ p.challengeId = some id
      | .consume id _ => p.challengeId = some id ∧ ∃ row, p.phase = .found row ∧ Answers sha256Hex p row
      | .insertChallenge _ row => row.consumedAt = none ∧
          (p.phase = .idle ∨ row.kind = "puzzle" ∧ ∃ clicked, p.phase = .taken clicked ∧ clicked.kind = "click")
      | .issueToken _ _ => ∃ row, p.phase = .taken row
      | _ => True

abbrev LobbyDesk := System Lobby LobbyStatement LobbyProgress LobbyAnswer

namespace LobbyDesk

def start (s : Lobby) (requests : List LobbyRequest) : LobbyDesk where
  shared := s
  tasks := requests.map fun request => { progress := { request := request }, handler := request.handle sha256Hex }

abbrev next : LobbyDesk → Nat → LobbyDesk := Interleaving.step (lobbyRules sha256Hex)

end LobbyDesk

end

-- The puzzle was asked for by a request that clicked on the other challenge.
def CameFrom (sys : LobbyDesk) (origin id : String) : Prop :=
  ∃ p ∈ sys.progresses, p.challengeId = some origin ∧ p.passedOnTo id = true

-- The request has issued a token for the challenge, or for the puzzle that followed it.
def GivesRise (sys : LobbyDesk) (id : String) (i : Nat) : Prop :=
  ∃ p, sys.progresses[i]? = some p ∧ p.hasIssued = true ∧ ∃ own ∈ p.challengeId, own = id ∨ CameFrom sys id own

def wrongAnswers (sys : LobbyDesk) (id : String) : Nat := sys.progresses.countP (·.answeredWrong id)

inductive LobbyStep where
  | click
  | puzzle
  deriving DecidableEq, Repr

-- The steps of each mode, as a new challenge is made for it.
def demands (mode : String) : List LobbyStep :=
  if mode = "off" then []
  else if mode = "puzzle" then [.puzzle]
  else if mode = "both" then [.click, .puzzle]
  else [.click]

section

variable (sha256Hex : String → String)

def Clicked (s : Lobby) (id : String) : Prop :=
  ∃ row, s.challenges[id]? = some row ∧ row.kind = "click" ∧ row.consumedAt.isSome = true

def Solved (sys : LobbyDesk) (id : String) : Prop :=
  ∃ row, sys.shared.challenges[id]? = some row ∧ row.kind = "puzzle" ∧ row.consumedAt.isSome = true ∧
    ∃ p ∈ sys.progresses, p.challengeId = some id ∧ grade sha256Hex p.answer row.expectedAnswer = .right

def Completed (sys : LobbyDesk) (id : String) : LobbyStep → Prop
  | .click => ∃ origin, (origin = id ∨ CameFrom sys origin id) ∧ Clicked sys.shared origin
  | .puzzle => Solved sha256Hex sys id

-- A token goes in only when all that the mode then asks for has been done.
def TokenEarned (sys : LobbyDesk) (i : Nat) : Prop :=
  ∀ p token row, sys.pending i = some (p, .issueToken token row) → token ∉ sys.shared.tokens →
    ∃ id ∈ p.challengeId, ∀ step ∈ demands (challengeMode sys.shared), Completed sha256Hex sys id step

/-- What holds of the challenges at any moment. -/
structure ChallengeLaws (sys : LobbyDesk) : Prop where
  once : ∀ id i j, GivesRise sys id i → GivesRise sys id j → i = j
  guesses : ∀ id, wrongAnswers sys id ≤ 3

/-- Through a run, challenges are earned and spent once. -/
def EarnedOnce (s : Lobby) (requests : List LobbyRequest) (schedule : List Nat) : Prop :=
  (∀ front, front <+: schedule →
      ChallengeLaws (Runs.run (LobbyDesk.next sha256Hex) (LobbyDesk.start sha256Hex s requests) front)) ∧
    Runs.Meets (LobbyDesk.next sha256Hex) (TokenEarned sha256Hex) (LobbyDesk.start sha256Hex s requests) schedule

-- The request has come in with a wrong answer, graded or not.
def guesses (id : String) (p : LobbyProgress) : Bool :=
  match p.phase with
  | .found row => decide (p.challengeId = some id) && decide (IsWrong sha256Hex p row)
  | .wrong _ => decide (p.challengeId = some id)
  | _ => false

-- All that there is to do for the challenge, as it was made.
def course (sys : LobbyDesk) (id : String) : List LobbyStep :=
  (if sys.progresses.any (·.passedOnTo id) then [.click] else []) ++
    match sys.shared.challenges[id]? with
    | none => []
    | some row => if row.kind = "click" then [.click] else if row.kind = "puzzle" then [.puzzle] else []

/--
What a statement must find: a challenge that is taken, not yet consumed; one that a wrong answer has come in for, with
fewer than three before it; and for a token, a mode that asks for no more than the challenge was made of.
-/
def InOrder (sys : LobbyDesk) (p : LobbyProgress) : LobbyStatement → Prop
  | .lookUp id =>
    guesses sha256Hex id { p with phase := nextPhase sha256Hex p (.lookUp id) sys.shared } = true →
      sys.progresses.countP (guesses sha256Hex id) < 3
  | .consume id _ => ∀ row ∈ sys.shared.challenges[id]?, row.consumedAt = none
  | .issueToken token _ => token ∉ sys.shared.tokens →
      ∀ id ∈ p.challengeId, ∀ step ∈ demands (challengeMode sys.shared), step ∈ course sys id
  | _ => True

instance (sys : LobbyDesk) (p : LobbyProgress) : (label : LobbyStatement) → Decidable (InOrder sha256Hex sys p label)
  | .lookUp _ => inferInstanceAs (Decidable (_ → _))
  | .consume id _ => inferInstanceAs (Decidable (∀ row ∈ sys.shared.challenges[id]?, _))
  | .issueToken _ _ => inferInstanceAs (Decidable (_ → ∀ id ∈ p.challengeId, _))
  | .readUser | .readMode | .readDifficulty | .insertChallenge _ _ | .upsertSetting _ _ =>
    inferInstanceAs (Decidable True)

def LobbyDesk.Orderly (sys : LobbyDesk) (i : Nat) : Prop := ∀ move ∈ sys.pending i, InOrder sha256Hex sys move.1 move.2

instance (sys : LobbyDesk) (i : Nat) : Decidable (sys.Orderly sha256Hex i) :=
  inferInstanceAs (Decidable (∀ move ∈ sys.pending i, _))

end

section

variable {sha256Hex : String → String} {p : LobbyProgress} {request : LobbyRequest} {id : String} {s : Lobby}

def Free {A : Type} (_ : LobbyProgress) (_ : A) : Prop := True

theorem takeAndIssue_fits {row : ChallengeRow} {req : VerifyChallengeRequest} {now : Int} {draw : Draw}
    (earned : Answers sha256Hex { request := .verify req now draw } row) :
    Fits (lobbyRules sha256Hex) Free { request := .verify req now draw, phase := .found row }
      (takeAndIssue req now draw) := by
  refine fits_exec_bind (fun _ => ⟨rfl, rfl, row, rfl, earned⟩) ?_
  intro s
  exact fits_exec_andThen (fun _ => ⟨rfl, row, rfl⟩) (fun _ _ _ => trivial) (fun _ _ _ => trivial)

theorem takeAndAsk_fits {row : ChallengeRow} {req : VerifyChallengeRequest} {now : Int} {draw : Draw}
    (difficulty : String)
    (click : row.kind = "click") :
    Fits (lobbyRules sha256Hex) Free { request := .verify req now draw, phase := .found row }
      (takeAndAsk sha256Hex req now draw difficulty) := by
  refine fits_exec_bind (fun _ => ⟨rfl, rfl, row, rfl, .inl click⟩) ?_
  intro s
  exact fits_exec_andThen (fun _ => ⟨rfl, rfl, .inr ⟨rfl, row, rfl, click⟩⟩) (fun _ _ _ => trivial)
    (fun _ _ _ => trivial)

theorem newChallenge_fits (pubkey : String) (now : Int) (draw : Draw) :
    Fits (lobbyRules sha256Hex) Free { request := request } (newChallenge sha256Hex pubkey now draw) := by
  refine fits_quiet (fun _ => rfl) (fun _ => ⟨rfl, trivial⟩) ?_
  intro mode
  split
  next => trivial
  next =>
    refine fits_quiet (fun _ => rfl) (fun _ => ⟨rfl, trivial⟩) ?_
    intro difficulty
    dsimp only
    split
    next => exact fits_exec_andThen (fun _ => ⟨rfl, rfl, .inl rfl⟩) (fun _ _ _ => trivial) (fun _ _ _ => trivial)
    next => exact fits_exec_andThen (fun _ => ⟨rfl, rfl, .inl rfl⟩) (fun _ _ _ => trivial) (fun _ _ _ => trivial)

theorem verifyChallenge_fits (req : VerifyChallengeRequest) (now : Int) (draw : Draw) :
    Fits (lobbyRules sha256Hex) Free { request := .verify req now draw } (verifyChallenge sha256Hex req now draw) := by
  refine fits_exec_andThen (fun _ => ⟨rfl, rfl, rfl⟩) (fun _ _ _ => trivial) ?_
  intro s row passes
  have here : (lobbyRules sha256Hex).advance { request := .verify req now draw } (.lookUp req.id) s =
      { request := .verify req now draw, phase := .found row } := by
    simp only [lobbyRules, nextPhase, lookedUp, passes]
  rw [here]
  refine fits_quiet (fun _ => rfl) (fun _ => ⟨rfl, trivial⟩) ?_
  intro mode
  refine fits_exec_bind (fun _ => ⟨rfl, trivial⟩) ?_
  intro s
  by_cases click : row.kind = "click"
  next =>
    have calm : ¬ IsWrong sha256Hex { request := .verify req now draw, phase := .found row } row := by
      simp [IsWrong, click]
    simp only [lobbyRules, nextPhase, if_neg calm, if_pos click]
    split
    next => exact takeAndAsk_fits _ click
    next => exact takeAndIssue_fits (.inl click)
  next =>
    rw [if_neg click]
    split
    next puzzle =>
      split
      next => trivial
      next => trivial
      next => trivial
      next right =>
        have calm : ¬ IsWrong sha256Hex { request := .verify req now draw, phase := .found row } row := by
          simp [IsWrong, LobbyProgress.answer, right]
        simp only [lobbyRules, nextPhase, if_neg calm]
        exact takeAndIssue_fits (.inr ⟨puzzle, right⟩)
    next => trivial

theorem upsertAll_fits (settings : List (String × String)) :
    Fits (lobbyRules sha256Hex) Free { request := request } (upsertAll settings) := by
  induction settings with
  | nil => trivial
  | cons setting rest ih => exact fits_quiet (fun _ => rfl) (fun _ => ⟨rfl, trivial⟩) fun _ => ih

theorem updateChallengeSettings_fits (user : String) (req : UpdateChallengeSettingsRequest) :
    Fits (lobbyRules sha256Hex) Free { request := request } (updateChallengeSettings user req) := by
  refine fits_exec_andThen (fun _ => ⟨rfl, trivial⟩) (fun _ _ _ => trivial) ?_
  intro _ _ _
  split
  next => trivial
  next =>
    split
    next => trivial
    next => exact upsertAll_fits _

theorem lobbyRequest_fits (request : LobbyRequest) :
    Fits (lobbyRules sha256Hex) Free { request := request } (request.handle sha256Hex) := by
  cases request with
  | new pubkey now draw => exact (newChallenge_fits pubkey now draw).bind fun _ _ _ => trivial
  | verify req now draw => exact (verifyChallenge_fits req now draw).bind fun _ _ _ => trivial
  | updateSettings user req => exact (updateChallengeSettings_fits user req).bind fun _ _ _ => trivial

-- Challenges stay as they were made, and consumed once they are.
def Kept (s after : Lobby) : Prop :=
  ∀ (id : String) (row : ChallengeRow), s.challenges[id]? = some row → ∃ later : ChallengeRow,
    after.challenges[id]? = some later ∧ later.kind = row.kind ∧ later.expectedAnswer = row.expectedAnswer ∧
      (row.consumedAt.isSome = true → later.consumedAt.isSome = true)

theorem effect_kept (label : LobbyStatement) (s : Lobby) : Kept s (label.effect s) := by
  intro id row stored
  have same : ∃ later : ChallengeRow, s.challenges[id]? = some later ∧ later.kind = row.kind ∧
      later.expectedAnswer = row.expectedAnswer ∧ (row.consumedAt.isSome = true → later.consumedAt.isSome = true) :=
    ⟨row, stored, rfl, rfl, fun consumed => consumed⟩
  cases label with
  | insertChallenge other new =>
    rw [LobbyStatement.effect]
    split
    next => exact same
    next fresh =>
      have elsewhere : other ≠ id := by
        rintro rfl
        exact fresh (ExtTreeMap.mem_iff_isSome_getElem?.mpr (by rw [stored]; rfl))
      refine ⟨row, ?_, rfl, rfl, fun consumed => consumed⟩
      change (s.challenges.insert other new)[id]? = some row
      rw [ExtTreeMap.getElem?_insert, if_neg (by simpa using elsewhere)]
      exact stored
  | consume other now =>
    by_cases here : other = id
    next =>
      subst here
      refine ⟨{ row with consumedAt := some now }, ?_, rfl, rfl, fun _ => rfl⟩
      change (s.challenges.modify other _)[other]? = _
      rw [ExtTreeMap.getElem?_modify_self, stored]
      rfl
    next =>
      change ∃ later, (s.challenges.modify other _)[id]? = some later ∧ _
      rw [ExtTreeMap.getElem?_modify, if_neg (by simpa using here)]
      exact same
  | issueToken token new =>
    rw [LobbyStatement.effect]
    split <;> exact same
  | _ => exact same

/-- What a permitted statement can do to the phase of its request. -/
inductive PhaseStep (sha256Hex : String → String) (p : LobbyProgress) (s : Lobby) : LobbyStatement → LobbyPhase → Prop
  | stays (label : LobbyStatement) : PhaseStep sha256Hex p s label p.phase
  | finds {id : String} {row : ChallengeRow} (idle : p.phase = .idle) (own : p.challengeId = some id)
      (stored : s.challenges[id]? = some row) : PhaseStep sha256Hex p s (.lookUp id) (.found row)
  | fails {row : ChallengeRow} (found : p.phase = .found row) (wrong : IsWrong sha256Hex p row) :
      PhaseStep sha256Hex p s .readDifficulty (.wrong row)
  | takes {id : String} {now : Int} {row : ChallengeRow} (own : p.challengeId = some id) (found : p.phase = .found row)
      (earned : Answers sha256Hex p row) : PhaseStep sha256Hex p s (.consume id now) (.taken row)
  | passesOn {id : String} {row puzzle : ChallengeRow} (taken : p.phase = .taken row) (click : row.kind = "click") :
      PhaseStep sha256Hex p s (.insertChallenge id puzzle) (.passedOn row id)
  | issues {token : String} {new : ChallengeToken} {row : ChallengeRow} (taken : p.phase = .taken row)
      (fresh : token ∉ s.tokens) : PhaseStep sha256Hex p s (.issueToken token new) (.issued row token)

theorem lookedUp_cases (idle : p.phase = .idle) (own : p.challengeId = some id) :
    lookedUp p s = p.phase ∨ ∃ row, s.challenges[id]? = some row ∧ lookedUp p s = .found row := by
  obtain ⟨request, phase⟩ := p
  cases request with
  | new pubkey now draw => cases own
  | updateSettings user req => cases own
  | verify req now draw =>
    cases own
    unfold lookedUp
    dsimp only
    cases stored : s.challenges[req.id]? with
    | none => exact .inl rfl
    | some row =>
      simp only [checkRow]
      split
      next found =>
        refine .inr ⟨row, rfl, ?_⟩
        grind
      next => exact .inl rfl

theorem phase_step {label : LobbyStatement} (permitted : (lobbyRules sha256Hex).permits p label s (label.effect s)) :
    PhaseStep sha256Hex p s label (nextPhase sha256Hex p label s) := by
  obtain ⟨-, allowed⟩ := permitted
  obtain ⟨request, phase⟩ := p
  cases label with
  | readUser => exact .stays _
  | readMode => exact .stays _
  | upsertSetting key value => exact .stays _
  | lookUp id =>
    obtain ⟨idle, own⟩ := allowed
    cases idle
    change PhaseStep _ _ _ _ (lookedUp { request := request } s)
    rcases lookedUp_cases (p := { request := request }) (s := s) rfl own with same | ⟨row, stored, found⟩
    · rw [same]
      exact .stays _
    · rw [found]
      exact .finds rfl own stored
  | readDifficulty =>
    cases phase with
    | found row =>
      change PhaseStep _ _ _ _ (if IsWrong sha256Hex { request := request, phase := .found row } row then _ else _)
      split
      next wrong => exact .fails rfl wrong
      next => exact .stays _
    | _ => exact .stays _
  | consume id now =>
    obtain ⟨own, row, found, earned⟩ := allowed
    cases found
    exact .takes own rfl earned
  | insertChallenge id puzzle =>
    rcases allowed.2 with idle | ⟨-, row, taken, click⟩
    · cases idle
      exact .stays _
    · cases taken
      change PhaseStep _ _ _ _ (if id ∈ s.challenges then _ else _)
      split
      next => exact .stays _
      next => exact .passesOn rfl click
  | issueToken token new =>
    obtain ⟨row, taken⟩ := allowed
    cases taken
    change PhaseStep _ _ _ _ (if token ∈ s.tokens then _ else _)
    split
    next => exact .stays _
    next fresh => exact .issues rfl fresh

-- The request has consumed its challenge, and earned it.
def Spent (sha256Hex : String → String) (p : LobbyProgress) (row : ChallengeRow) (s : Lobby) : Prop :=
  Answers sha256Hex p row ∧ ∃ id ∈ p.challengeId, ∃ stored : ChallengeRow, s.challenges[id]? = some stored ∧
    stored.kind = row.kind ∧ stored.expectedAnswer = row.expectedAnswer ∧ stored.consumedAt.isSome = true

-- What a request has to rely on while others run.
def Own (sha256Hex : String → String) (p : LobbyProgress) (s : Lobby) : Prop :=
  match p.phase with
  | .idle | .wrong _ => True
  | .found row => ∃ id ∈ p.challengeId, ∃ stored : ChallengeRow, s.challenges[id]? = some stored ∧
      stored.kind = row.kind ∧ stored.expectedAnswer = row.expectedAnswer
  | .taken row | .issued row _ => Spent sha256Hex p row s
  | .passedOn row _ => Spent sha256Hex p row s ∧ row.kind = "click"

theorem spent_kept {row : ChallengeRow} {after : Lobby} (kept : Kept s after) (spent : Spent sha256Hex p row s) :
    Spent sha256Hex p row after := by
  obtain ⟨earned, id, own, stored, found, kind, expected, consumed⟩ := spent
  obtain ⟨later, there, sameKind, sameExpected, still⟩ := kept id stored found
  exact ⟨earned, id, own, later, there, sameKind.trans kind, sameExpected.trans expected, still consumed⟩

theorem own_kept {after : Lobby} (kept : Kept s after) (own : Own sha256Hex p s) : Own sha256Hex p after := by
  obtain ⟨request, phase⟩ := p
  cases phase with
  | idle => trivial
  | wrong row => trivial
  | found row =>
    obtain ⟨id, mine, stored, found, kind, expected⟩ := own
    obtain ⟨later, there, sameKind, sameExpected, -⟩ := kept id stored found
    exact ⟨id, mine, later, there, sameKind.trans kind, sameExpected.trans expected⟩
  | taken row => exact spent_kept kept own
  | issued row token => exact spent_kept kept own
  | passedOn row puzzleId => exact ⟨spent_kept kept own.1, own.2⟩

theorem own_step {label : LobbyStatement} (own : Own sha256Hex p s)
    (permitted : (lobbyRules sha256Hex).permits p label s (label.effect s)) :
    Own sha256Hex ((lobbyRules sha256Hex).advance p label s) (label.effect s) := by
  have kept := effect_kept label s
  have step := phase_step permitted
  change Own sha256Hex { p with phase := nextPhase sha256Hex p label s } _
  generalize nextPhase sha256Hex p label s = later at step ⊢
  cases step with
  | stays => exact own_kept kept own
  | finds idle mine stored => exact ⟨_, mine, _, stored, rfl, rfl⟩
  | fails found wrong => trivial
  | @takes id now row mine found earned =>
    rw [Own, found] at own
    obtain ⟨other, same, stored, there, kind, expected⟩ := own
    obtain rfl := Option.some.inj (mine.symm.trans same)
    refine ⟨earned, id, mine, { stored with consumedAt := some now }, ?_, kind, expected, rfl⟩
    change (s.challenges.modify id _)[id]? = _
    rw [ExtTreeMap.getElem?_modify_self, there]
    rfl
  | passesOn taken click =>
    rw [Own, taken] at own
    exact ⟨spent_kept kept own, click⟩
  | issues taken fresh =>
    rw [Own, taken] at own
    exact spent_kept kept own

-- Only the statement that consumes a challenge makes it the request's own.
theorem taken_step {label : LobbyStatement} (permitted : (lobbyRules sha256Hex).permits p label s (label.effect s)) :
    ((lobbyRules sha256Hex).advance p label s).taken = p.taken ∨
      ∃ id now, label = .consume id now ∧ ((lobbyRules sha256Hex).advance p label s).taken = some id := by
  obtain ⟨request, phase⟩ := p
  have step := phase_step permitted
  change LobbyProgress.taken { request := request, phase := nextPhase sha256Hex _ label s } = _ ∨
    ∃ id now, _ ∧ LobbyProgress.taken { request := request, phase := nextPhase sha256Hex _ label s } = some id
  generalize nextPhase sha256Hex _ label s = later at step ⊢
  cases step with
  | stays => exact .inl rfl
  | finds idle own stored =>
    cases idle
    exact .inl rfl
  | fails found wrong =>
    cases found
    exact .inl rfl
  | takes own found earned => exact .inr ⟨_, _, rfl, own⟩
  | passesOn taken click =>
    cases taken
    exact .inl rfl
  | issues taken fresh =>
    cases taken
    exact .inl rfl

-- A request that has taken a challenge has left it consumed.
theorem consumed_of_taken (own : Own sha256Hex p s) (taken : p.taken = some id) :
    ∃ row, s.challenges[id]? = some row ∧ row.consumedAt.isSome = true := by
  obtain ⟨request, phase⟩ := p
  cases phase with
  | idle => cases taken
  | found row => cases taken
  | wrong row => cases taken
  | taken row =>
    obtain ⟨-, other, mine, stored, there, -, -, consumed⟩ := own
    obtain rfl := Option.some.inj (taken.symm.trans mine)
    exact ⟨stored, there, consumed⟩
  | issued row token =>
    obtain ⟨-, other, mine, stored, there, -, -, consumed⟩ := own
    obtain rfl := Option.some.inj (taken.symm.trans mine)
    exact ⟨stored, there, consumed⟩
  | passedOn row puzzleId =>
    obtain ⟨⟨-, other, mine, stored, there, -, -, consumed⟩, -⟩ := own
    obtain rfl := Option.some.inj (taken.symm.trans mine)
    exact ⟨stored, there, consumed⟩

-- Wrong answers come in only when the challenge is looked up for them.
theorem guess_step {label : LobbyStatement} (permitted : (lobbyRules sha256Hex).permits p label s (label.effect s))
    (guess : guesses sha256Hex id ((lobbyRules sha256Hex).advance p label s) = true) :
    guesses sha256Hex id p = true ∨ label = .lookUp id := by
  obtain ⟨request, phase⟩ := p
  have step := phase_step permitted
  change guesses sha256Hex id { request := request, phase := nextPhase sha256Hex _ label s } = true at guess
  generalize nextPhase sha256Hex _ label s = later at step guess
  cases step with
  | stays => exact .inl guess
  | finds idle own stored =>
    obtain ⟨mine, -⟩ := Bool.and_eq_true_iff.mp guess
    obtain rfl := Option.some.inj (own.symm.trans (of_decide_eq_true mine))
    exact .inr rfl
  | fails found wrong =>
    cases found
    exact .inl (Bool.and_eq_true_iff.mpr ⟨guess, decide_eq_true wrong⟩)
  | takes own found earned => cases guess
  | passesOn taken click => cases guess
  | issues taken fresh => cases guess

theorem guesses_of_answeredWrong (wrong : p.answeredWrong id = true) : guesses sha256Hex id p = true := by
  obtain ⟨request, phase⟩ := p
  cases phase with
  | wrong row => exact wrong
  | _ => cases wrong

theorem taken_of_issued (issued : p.hasIssued = true) : p.taken = p.challengeId := by
  obtain ⟨request, phase⟩ := p
  cases phase with
  | issued row token => rfl
  | _ => cases issued

theorem passedOn_of {puzzleId : String} (passed : p.passedOnTo puzzleId = true) :
    ∃ row, p.phase = .passedOn row puzzleId := by
  obtain ⟨request, phase⟩ := p
  cases phase with
  | passedOn row other =>
    obtain rfl := of_decide_eq_true passed
    exact ⟨row, rfl⟩
  | _ => cases passed

theorem taken_of_passedOn {puzzleId : String} (passed : p.passedOnTo puzzleId = true) : p.taken = p.challengeId := by
  obtain ⟨row, phase⟩ := passedOn_of passed
  simp only [LobbyProgress.taken, phase]

def claims (sha256Hex : String → String) : Assertions Lobby LobbyProgress where
  shared _ := True
  task _ p s := Own sha256Hex p s

/-- What the requests in flight keep up together. -/
structure Steady (sha256Hex : String → String) (sys : LobbyDesk) : Prop where
  fit : FitAll (lobbyRules sha256Hex) Free sys
  holds : Holds (claims sha256Hex) sys
  apart : ∀ (i j : Nat) (p q : LobbyProgress), sys.progresses[i]? = some p → sys.progresses[j]? = some q →
    ∀ id, p.taken = some id → q.taken = some id → i = j
  few : ∀ id, sys.progresses.countP (guesses sha256Hex id) ≤ 3

variable {sys : LobbyDesk}

-- What one request takes, no other has taken.
theorem alone_step (steady : Steady sha256Hex sys) {i : Nat} {label : LobbyStatement}
    (moves : Moves (lobbyRules sha256Hex) sys (LobbyDesk.next sha256Hex sys i) i p label)
    (ordered : InOrder sha256Hex sys p label) (taken : ((lobbyRules sha256Hex).advance p label sys.shared).taken = some id)
    {j : Nat} {q : LobbyProgress} (apart : j ≠ i) (found : sys.progresses[j]? = some q) : q.taken ≠ some id := by
  intro other
  obtain ⟨same, -⟩ := moves.permitted
  have permitted := moves.permitted
  rw [same] at permitted
  rcases taken_step permitted with kept | ⟨mine, now, rfl, now'⟩
  · have own := (Interleaving.step_progresses (lobbyRules sha256Hex) moves.atStatement).1
    exact apart (steady.apart j i q p found own id other (kept ▸ taken))
  · obtain rfl := Option.some.inj (now'.symm.trans taken)
    obtain ⟨row, stored, consumed⟩ := consumed_of_taken (steady.holds.tasks j q found) other
    rw [ordered row stored] at consumed
    cases consumed

theorem steady_next (steady : Steady sha256Hex sys) {i : Nat} (orderly : sys.Orderly sha256Hex i) :
    Steady sha256Hex (LobbyDesk.next sha256Hex sys i) := by
  rcases Interleaving.step_cases steady.fit i with idle | ⟨p, label, moves⟩
  · change Steady sha256Hex (Interleaving.step (lobbyRules sha256Hex) sys i)
    rw [idle]
    exact steady
  · have ordered := orderly (p, label) (System.atStatement_iff.mp moves.atStatement)
    have shared : (LobbyDesk.next sha256Hex sys i).shared = label.effect sys.shared := moves.permitted.1
    have permitted := moves.permitted
    change (lobbyRules sha256Hex).permits p label sys.shared (LobbyDesk.next sha256Hex sys i).shared at permitted
    rw [shared] at permitted
    refine ⟨Interleaving.step_fit steady.fit i, ?_, ?_, ?_⟩
    · refine steady.holds.moves moves trivial ?_ ?_
      · change Own sha256Hex _ (LobbyDesk.next sha256Hex sys i).shared
        rw [shared]
        exact own_step (steady.holds.at moves.atStatement) permitted
      · intro j q _ own
        change Own sha256Hex q (LobbyDesk.next sha256Hex sys i).shared
        rw [shared]
        exact own_kept (effect_kept label sys.shared) own
    · intro j k q r atJ atK id mine other
      rcases Interleaving.step_at _ moves.atStatement atJ with ⟨hereJ, rfl⟩ | ⟨awayJ, beforeJ⟩
      · rcases Interleaving.step_at _ moves.atStatement atK with ⟨hereK, -⟩ | ⟨awayK, beforeK⟩
        · rw [hereJ, hereK]
        · exact absurd other (alone_step steady moves ordered mine awayK beforeK)
      · rcases Interleaving.step_at _ moves.atStatement atK with ⟨hereK, rfl⟩ | ⟨awayK, beforeK⟩
        · exact absurd mine (alone_step steady moves ordered other awayJ beforeJ)
        · exact steady.apart j k q r beforeJ beforeK id mine other
    · intro id
      have counted := Interleaving.step_countP (lobbyRules sha256Hex) moves.atStatement (guesses sha256Hex id)
      have before := steady.few id
      change (Interleaving.step (lobbyRules sha256Hex) sys i).progresses.countP _ ≤ 3
      by_cases guess : guesses sha256Hex id ((lobbyRules sha256Hex).advance p label sys.shared) = true
      · rw [if_pos guess] at counted
        rcases guess_step permitted guess with had | rfl
        · rw [if_pos had] at counted
          exact (Nat.add_right_cancel counted).trans_le before
        · have left := ordered guess
          omega
      · rw [if_neg guess] at counted
        omega

theorem start_progress {requests : List LobbyRequest} {i : Nat}
    (found : (LobbyDesk.start sha256Hex s requests).progresses[i]? = some p) : p.phase = .idle := by
  simp only [LobbyDesk.start, System.progresses, List.map_map, List.getElem?_map] at found
  obtain ⟨request, -, rfl⟩ := Option.map_eq_some_iff.mp found
  rfl

theorem start_steady (s : Lobby) (requests : List LobbyRequest) :
    Steady sha256Hex (LobbyDesk.start sha256Hex s requests) where
  fit := by
    intro task inside
    obtain ⟨request, -, rfl⟩ := List.mem_map.mp inside
    exact lobbyRequest_fits request
  holds := by
    refine ⟨trivial, ?_⟩
    intro i p found
    change Own sha256Hex p _
    rw [Own, start_progress found]
    trivial
  apart := by
    intro i j p q found _ id taken _
    rw [LobbyProgress.taken, start_progress found] at taken
    cases taken
  few := by
    intro id
    have none : (LobbyDesk.start sha256Hex s requests).progresses.countP (guesses sha256Hex id) = 0 := by
      refine List.countP_eq_zero.mpr ?_
      intro p inside
      obtain ⟨i, found⟩ := List.mem_iff_getElem?.mp inside
      rw [guesses, start_progress found]
      exact Bool.false_ne_true
    exact none.trans_le (Nat.zero_le 3)

theorem once_of_steady (steady : Steady sha256Hex sys) {i j : Nat} (first : GivesRise sys id i)
    (second : GivesRise sys id j) :
    i = j := by
  have takes : ∀ {origin puzzle : String}, CameFrom sys origin puzzle →
      ∃ (k : Nat) (r : LobbyProgress), sys.progresses[k]? = some r ∧ r.taken = some origin ∧
        r.passedOnTo puzzle = true := by
    rintro origin puzzle ⟨r, inside, mine, passed⟩
    obtain ⟨k, found⟩ := List.mem_iff_getElem?.mp inside
    exact ⟨k, r, found, (taken_of_passedOn passed).trans mine, passed⟩
  have elsewhere : ∀ {k l : Nat} {r t : LobbyProgress} {puzzle : String}, sys.progresses[k]? = some r →
    r.hasIssued = true → r.taken = some id →
      sys.progresses[l]? = some t → t.taken = some id → t.passedOnTo puzzle = false := by
    intro k l r t puzzle atK issued mine atL other
    obtain rfl := steady.apart k l r t atK atL id mine other
    obtain rfl := Option.some.inj (atK.symm.trans atL)
    refine Bool.eq_false_iff.mpr ?_
    intro passed
    obtain ⟨row, phase⟩ := passedOn_of passed
    simp [LobbyProgress.hasIssued, phase] at issued
  obtain ⟨p, atI, issuedP, own, mineP, fromP⟩ := first
  obtain ⟨q, atJ, issuedQ, other, mineQ, fromQ⟩ := second
  have takenP := (taken_of_issued issuedP).trans mineP
  have takenQ := (taken_of_issued issuedQ).trans mineQ
  rcases fromP with rfl | fromP
  · rcases fromQ with rfl | fromQ
    · exact steady.apart i j p q atI atJ _ takenP takenQ
    · obtain ⟨k, r, atK, taken, passed⟩ := takes fromQ
      rw [elsewhere atI issuedP takenP atK taken] at passed
      cases passed
  · obtain ⟨k, r, atK, taken, passed⟩ := takes fromP
    rcases fromQ with rfl | fromQ
    · rw [elsewhere atJ issuedQ takenQ atK taken] at passed
      cases passed
    · obtain ⟨l, t, atL, takenT, passedT⟩ := takes fromQ
      obtain rfl := steady.apart k l r t atK atL id taken takenT
      obtain rfl := Option.some.inj (atK.symm.trans atL)
      obtain ⟨row, phase⟩ := passedOn_of passed
      have same := passedT
      rw [LobbyProgress.passedOnTo, phase] at same
      obtain rfl := of_decide_eq_true same
      exact steady.apart i j p q atI atJ _ takenP takenQ

theorem laws_of_steady (steady : Steady sha256Hex sys) : ChallengeLaws sys where
  once _ _ _ := once_of_steady steady
  guesses id := (List.countP_mono_left fun _ _ => guesses_of_answeredWrong).trans (steady.few id)

-- The click before a puzzle has been clicked.
theorem clicked_of_cameFrom (steady : Steady sha256Hex sys) {origin : String} (came : CameFrom sys origin id) :
    Clicked sys.shared origin := by
  obtain ⟨q, inside, mine, passed⟩ := came
  obtain ⟨j, found⟩ := List.mem_iff_getElem?.mp inside
  have own : Own sha256Hex q sys.shared := steady.holds.tasks j q found
  obtain ⟨row, phase⟩ := passedOn_of passed
  rw [Own, phase] at own
  obtain ⟨⟨-, other, same, stored, there, kind, -, consumed⟩, click⟩ := own
  obtain rfl := Option.some.inj (mine.symm.trans same)
  exact ⟨stored, there, kind.trans click, consumed⟩

theorem cameFrom_of_any (steady : Steady sha256Hex sys) (any : (sys.progresses.any (·.passedOnTo id)) = true) :
    ∃ origin, CameFrom sys origin id := by
  obtain ⟨q, inside, passed⟩ := List.any_eq_true.mp any
  obtain ⟨j, found⟩ := List.mem_iff_getElem?.mp inside
  have own : Own sha256Hex q sys.shared := steady.holds.tasks j q found
  obtain ⟨row, phase⟩ := passedOn_of passed
  rw [Own, phase] at own
  obtain ⟨⟨-, origin, mine, -⟩, -⟩ := own
  exact ⟨origin, q, inside, mine, passed⟩

-- All that a challenge was made of is done once it has been taken.
theorem completed_of_course (steady : Steady sha256Hex sys) (inside : p ∈ sys.progresses) {row : ChallengeRow}
    (own : p.challengeId = some id) (spent : Spent sha256Hex p row sys.shared) {step : LobbyStep}
    (needed : step ∈ course sys id) : Completed sha256Hex sys id step := by
  obtain ⟨earned, other, same, stored, there, kind, expected, consumed⟩ := spent
  obtain rfl := Option.some.inj (own.symm.trans same)
  rw [course, there] at needed
  rcases List.mem_append.mp needed with before | here
  · split at before
    next any =>
      obtain rfl := List.mem_singleton.mp before
      obtain ⟨origin, came⟩ := cameFrom_of_any steady any
      exact ⟨origin, .inr came, clicked_of_cameFrom steady came⟩
    next => cases before
  · dsimp only at here
    split at here
    next click =>
      obtain rfl := List.mem_singleton.mp here
      exact ⟨id, .inl rfl, stored, there, click, consumed⟩
    next plain =>
      split at here
      next puzzle =>
        obtain rfl := List.mem_singleton.mp here
        rcases earned with click | ⟨-, right⟩
        · exact absurd (kind.trans click) plain
        · exact ⟨stored, there, puzzle, consumed, p, inside, own, expected ▸ right⟩
      next => cases here

theorem earned_of_steady (steady : Steady sha256Hex sys) {i : Nat} (orderly : sys.Orderly sha256Hex i) :
    TokenEarned sha256Hex sys i := by
  intro p token new waits fresh
  obtain ⟨effect, next, found⟩ := System.atStatement_iff.mpr waits
  obtain ⟨-, row, phase⟩ := (steady.fit _ (List.mem_of_getElem? found)).1 sys.shared
  change p.phase = .taken row at phase
  have own : Own sha256Hex p sys.shared := steady.holds.at (System.atStatement_iff.mpr waits)
  rw [Own, phase] at own
  obtain ⟨earned, id, mine, rest⟩ := own
  refine ⟨id, mine, ?_⟩
  intro step demanded
  have inside : p ∈ sys.progresses := List.mem_map.mpr ⟨_, List.mem_of_getElem? found, rfl⟩
  exact completed_of_course steady inside mine ⟨earned, id, mine, rest⟩ (orderly _ waits fresh id mine step demanded)

end

/--
However the statements interleave and the mode changes, challenges are earned and spent once, as long as
none is consumed twice, at most three wrong answers come in for each, and no token waits for a mode that asks
for more.
-/
theorem challenges_earned (sha256Hex : String → String) (s : Lobby) (requests : List LobbyRequest) (schedule : List Nat)
    (met : Runs.Meets (LobbyDesk.next sha256Hex) (LobbyDesk.Orderly sha256Hex) (LobbyDesk.start sha256Hex s requests)
      schedule) : EarnedOnce sha256Hex s requests schedule := by
  have steady : ∀ front, front <+: schedule →
      Steady sha256Hex (Runs.run (LobbyDesk.next sha256Hex) (LobbyDesk.start sha256Hex s requests) front) := by
    rintro front ⟨back, rfl⟩
    exact Runs.Meets.invariant (Steady sha256Hex) (fun _ _ held orderly => steady_next held orderly)
      (start_steady s requests) (Runs.Meets.append.mp met).1
  constructor
  · intro front before
    exact laws_of_steady (steady front before)
  · rw [Runs.meets_iff]
    intro front i before
    have held := steady front ((List.prefix_append front [i]).trans before)
    exact earned_of_steady held (Runs.meets_iff.mp met front i before)

-- The digests of the answers given below.
def knownDigest (text : String) : String :=
  if text = "2" then "d4735e3a265e16eee03f59718b9b5d03019c07d8b6c51f90da3a666eec13ab35"
  else if text = "3" then "4e07408562bedb8b60ce05c1decfe3ad16b72230967de01f640b7e4729b49fce"
  else ""

def lobbyIn (mode : String) : Lobby where
  db :=
    { roles := (∅ : Table Role).insert "admins" { name := "Admins" }
      userRoles := {("boss", "admins")}
      rolePermissions := {("admins", MODERATION_SETTINGS)}
      hubSettings := (∅ : Table String).insert "challenge_mode" mode }

def ask : LobbyRequest := .new "aa" 0 { id := "c" }

def respond (answer : Option String) (token : String) : LobbyRequest :=
  .verify { id := "c", pubkey := "aa", answer := answer } 1 { id := "d", token := token }

theorem challenges_earned_click : EarnedOnce knownDigest (lobbyIn "click") [ask, respond none "t"]
    [0, 0, 0, 1, 1, 1, 1, 1] :=
  challenges_earned knownDigest (lobbyIn "click") [ask, respond none "t"] [0, 0, 0, 1, 1, 1, 1, 1] (by decide)

def clicks : List LobbyRequest := [ask, respond none "t", respond none "u"]

-- Both clicks look the challenge up before either consumes it.
def bothLook : List Nat := [0, 0, 0, 1, 2, 1, 1, 1, 1, 2, 2, 2, 2]

def wrongGuesses : List LobbyRequest := ask :: List.replicate 4 (respond (some "3") "t")

def inTurn : List Nat := [0, 0, 0, 1, 1, 1, 2, 2, 2, 3, 3, 3, 4, 4, 4]

def clickAndSwitch : List LobbyRequest :=
  [ask, respond none "t", .updateSettings "boss" { challengeMode := some "puzzle" }]

-- The mode turns to a puzzle while the click is on its way.
def switchBefore : List Nat := [0, 0, 0, 1, 1, 1, 2, 2, 1]

theorem bothLook_spends :
    let sys := Runs.run (LobbyDesk.next knownDigest) (LobbyDesk.start knownDigest (lobbyIn "click") clicks) bothLook
    GivesRise sys "c" 1 ∧ GivesRise sys "c" 2 := by
  intro sys
  have issued : ∀ i, (sys.progresses[i]?.any fun p => p.hasIssued && decide (p.challengeId = some "c")) = true →
      GivesRise sys "c" i := by
    intro i found
    obtain ⟨p, at', held⟩ := (Option.any_eq_true _ _).mp found
    obtain ⟨issued, own⟩ := Bool.and_eq_true_iff.mp held
    exact ⟨p, at', issued, "c", of_decide_eq_true own, .inl rfl⟩
  exact ⟨issued 1 (by decide), issued 2 (by decide)⟩

theorem switchBefore_unearned :
    ¬ TokenEarned knownDigest
      (Runs.run (LobbyDesk.next knownDigest) (LobbyDesk.start knownDigest (lobbyIn "click") clickAndSwitch) switchBefore) 1 := by
  intro earned
  let row : ChallengeRow := { pubkey := "aa", kind := "click", createdAt := 0, expiresAt := 300 }
  obtain ⟨id, own, completed⟩ := earned { request := respond none "t", phase := .taken row } "t"
    { pubkey := "aa", expiresAt := 301, consumedAt := none } (by decide) (by decide)
  cases own
  obtain ⟨stored, found, kind, -⟩ := completed .puzzle (by decide)
  have click : (Runs.run (LobbyDesk.next knownDigest) (LobbyDesk.start knownDigest (lobbyIn "click") clickAndSwitch)
      switchBefore).shared.challenges["c"]?.map (·.kind) = some "click" := by decide
  rw [found] at click
  exact absurd (kind.symm.trans (Option.some.inj click)) (by decide)

-- Two tokens for one challenge, a fourth wrong answer graded, and a click that passes for a puzzle.
theorem challenge_spent_twice :
    ¬ EarnedOnce knownDigest (lobbyIn "click") clicks bothLook ∧
      ¬ EarnedOnce knownDigest (lobbyIn "puzzle") wrongGuesses inTurn ∧
      ¬ EarnedOnce knownDigest (lobbyIn "click") clickAndSwitch (switchBefore ++ [1]) := by
  refine ⟨?_, ?_, ?_⟩
  · intro kept
    obtain ⟨first, second⟩ := bothLook_spends
    cases (kept.1 bothLook (List.prefix_refl _)).once "c" 1 2 first second
  · intro kept
    have few := (kept.1 inTurn (List.prefix_refl _)).guesses "c"
    have four : wrongAnswers (Runs.run (LobbyDesk.next knownDigest)
        (LobbyDesk.start knownDigest (lobbyIn "puzzle") wrongGuesses) inTurn) "c" = 4 := by decide
    omega
  · intro kept
    exact switchBefore_unearned (Runs.meets_iff.mp kept.2 switchBefore 1 (List.prefix_refl _))

end Wavvon.Puzzles
