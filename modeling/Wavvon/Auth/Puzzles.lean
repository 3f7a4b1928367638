import Wavvon.Auth.State
import Wavvon.Roles.Handlers
import Wavvon.Shared.Interleaving

set_option autoImplicit false

namespace Wavvon.Puzzles

open Std (ExtTreeMap)
open Interleaving (Handler)

def MODERATION_SETTINGS : String := "moderation.settings"

structure ChallengeRow where
  pubkey : String
  kind : String
  expectedAnswer : Option String := none
  createdAt : Int
  expiresAt : Int
  consumedAt : Option Int := none
  deriving DecidableEq, Repr

structure ChallengePrompt where
  id : String
  mode : String
  promptSvg : Option String
  expiresAt : Int
  deriving DecidableEq, Repr

structure ChallengeVerifyResponse where
  ok : Bool
  token : Option String := none
  expiresAt : Option Int := none
  nextChallenge : Option ChallengePrompt := none
  attemptsRemaining : Option Nat := none
  deriving DecidableEq, Repr

structure VerifyChallengeRequest where
  id : String
  pubkey : String
  answer : Option String := none
  deriving DecidableEq, Repr

structure UpdateChallengeSettingsRequest where
  challengeMode : Option String := none
  challengeDifficulty : Option String := none
  deriving DecidableEq, Repr

/-- The settings, the challenges and the tokens that are handed out for them. -/
structure Lobby where
  db : Db := {}
  challenges : Table ChallengeRow := ∅
  tokens : Table ChallengeToken := ∅

-- What a request draws at random: a row id, two dice for the puzzle, a token.
structure Draw where
  id : String
  dice : Nat × Nat := (0, 0)
  token : String := ""
  deriving DecidableEq, Repr

def challengeMode (s : Lobby) : String := (s.db.readSetting "challenge_mode").getD "off"

def challengeDifficulty (s : Lobby) : String := (s.db.readSetting "challenge_difficulty").getD "easy"

def puzzleSvg (a b : Nat) : String :=
  "<svg xmlns='http://www.w3.org/2000/svg' width='200' height='80'>" ++
    "<rect width='200' height='80' fill='#1a1a2e'/>" ++
    "<line x1='0' y1='30' x2='200' y2='35' stroke='#333' stroke-width='1'/>" ++
    "<line x1='10' y1='60' x2='190' y2='55' stroke='#2a2a4e' stroke-width='1'/>" ++
    "<text x='20' y='52' font-size='26' fill='#e0e0ff' font-family='monospace' transform='rotate(-5,20,52)'>" ++
    toString a ++ "</text>" ++
    "<text x='72' y='55' font-size='26' fill='#e0e0ff' font-family='monospace'>+</text>" ++
    "<text x='100' y='50' font-size='26' fill='#e0e0ff' font-family='monospace' transform='rotate(3,100,50)'>" ++
    toString b ++ "</text>" ++
    "<text x='145' y='53' font-size='26' fill='#c0c0ff' font-family='monospace'>=?</text>" ++
    "</svg>"

-- The picture and the answer.
def makePuzzleSvg (difficulty : String) (dice : Nat × Nat) : String × String :=
  let roll (die : Nat) : Nat := if difficulty = "medium" then 10 + die % 41 else 1 + die % 9
  (puzzleSvg (roll dice.1) (roll dice.2), toString (roll dice.1 + roll dice.2))

inductive LobbyStatement where
  | readUser
  | readMode
  | readDifficulty
  | lookUp (id : String)
  | insertChallenge (id : String) (row : ChallengeRow)
  | consume (id : String) (now : Int)
  | issueToken (token : String) (row : ChallengeToken)
  | upsertSetting (key value : String)
  deriving DecidableEq, Repr

-- A row whose key is taken does not go in.
def LobbyStatement.effect : LobbyStatement → Lobby → Lobby
  | .readUser, s | .readMode, s | .readDifficulty, s | .lookUp _, s => s
  | .insertChallenge id row, s => if id ∈ s.challenges then s else { s with challenges := s.challenges.insert id row }
  | .consume id now, s =>
    { s with challenges := s.challenges.modify id fun row => { row with consumedAt := some now } }
  | .issueToken token row, s => if token ∈ s.tokens then s else { s with tokens := s.tokens.insert token row }
  | .upsertSetting key value, s => { s with db := { s.db with hubSettings := s.db.hubSettings.insert key value } }

abbrev Handle (A : Type) := Handler Lobby LobbyStatement A

def exec {A : Type} (statement : LobbyStatement) (read : Lobby → A) : Handle A :=
  .exec statement statement.effect read

def insertChallenge (id : String) (row : ChallengeRow) : Handle (Except HttpError Unit) :=
  exec (.insertChallenge id row) fun s =>
    if id ∈ s.challenges then .error (500, "DB error: " ++ duplicateKey "admission_challenges_pkey") else .ok ()

def issueChallengeToken (token pubkey : String) (now : Int) : Handle (Except HttpError Int) :=
  exec (.issueToken token { pubkey := pubkey, expiresAt := now + 300, consumedAt := none }) fun s =>
    if token ∈ s.tokens then .error (500, "DB error: " ++ duplicateKey "challenge_tokens_pkey") else .ok (now + 300)

-- What the row allows, in the order in which it is looked at.
def checkRow (req : VerifyChallengeRequest) (now : Int) : Option ChallengeRow → Except HttpError ChallengeRow
  | none => .error (404, "Challenge not found")
  | some row =>
    if row.consumedAt.isSome then .error (410, "Challenge already consumed")
    else if now > row.expiresAt then .error (410, "Challenge expired")
    else if row.pubkey ≠ req.pubkey then .error (403, "Pubkey mismatch")
    else .ok row

inductive Grade where
  | unanswered
  | noExpected
  | wrong
  | right
  deriving DecidableEq, Repr

section

variable (sha256Hex : String → String)

def grade (answer expectedAnswer : Option String) : Grade :=
  match answer, expectedAnswer with
  | none, _ => .unanswered
  | some _, none => .noExpected
  | some a, some expected => if sha256Hex (trim a) ≠ expected then .wrong else .right

def puzzleRow (pubkey answer : String) (now : Int) : ChallengeRow where
  pubkey := pubkey
  kind := "puzzle"
  expectedAnswer := some (sha256Hex answer)
  createdAt := now
  expiresAt := now + 300

def clickRow (pubkey : String) (now : Int) : ChallengeRow where
  pubkey := pubkey
  kind := "click"
  createdAt := now
  expiresAt := now + 300

def newChallenge (pubkey : String) (now : Int) (draw : Draw) : Handle (Except HttpError ChallengePrompt) := do
  let mode ← exec .readMode challengeMode
  if mode = "off" then return .error (404, "Challenges are disabled")
  else
    let difficulty ← exec .readDifficulty challengeDifficulty
    let puzzle := makePuzzleSvg difficulty draw.dice
    let prompt (svg : Option String) : ChallengePrompt :=
      { id := draw.id, mode := mode, promptSvg := svg, expiresAt := now + 300 }
    if mode = "puzzle" then
      (insertChallenge draw.id (puzzleRow sha256Hex pubkey puzzle.2 now)).andThen fun _ =>
        return .ok (prompt (some puzzle.1))
    else (insertChallenge draw.id (clickRow pubkey now)).andThen fun _ => return .ok (prompt none)

def withToken (token : String) (expiresAt : Int) : ChallengeVerifyResponse where
  ok := true
  token := some token
  expiresAt := some expiresAt

def tryAgain : ChallengeVerifyResponse where
  ok := false
  attemptsRemaining := some 2

def takeAndIssue (req : VerifyChallengeRequest) (now : Int) (draw : Draw) :
    Handle (Except HttpError ChallengeVerifyResponse) := do
  exec (.consume req.id now) fun _ => ()
  (issueChallengeToken draw.token req.pubkey now).andThen fun expiresAt => return .ok (withToken draw.token expiresAt)

-- The click is only the first half.
def takeAndAsk (req : VerifyChallengeRequest) (now : Int) (draw : Draw) (difficulty : String) :
    Handle (Except HttpError ChallengeVerifyResponse) := do
  exec (.consume req.id now) fun _ => ()
  let puzzle := makePuzzleSvg difficulty draw.dice
  (insertChallenge draw.id (puzzleRow sha256Hex req.pubkey puzzle.2 now)).andThen fun _ =>
    return .ok
      { ok := true
        nextChallenge := some
          { id := draw.id, mode := "both", promptSvg := some puzzle.1, expiresAt := now + 300 } }

def verifyChallenge (req : VerifyChallengeRequest) (now : Int) (draw : Draw) :
    Handle (Except HttpError ChallengeVerifyResponse) :=
  (exec (.lookUp req.id) fun s => checkRow req now s.challenges[req.id]?).andThen fun row => do
    let mode ← exec .readMode challengeMode
    let difficulty ← exec .readDifficulty challengeDifficulty
    if row.kind = "click" then
      if mode = "both" then takeAndAsk sha256Hex req now draw difficulty else takeAndIssue req now draw
    else if row.kind = "puzzle" then
      match grade sha256Hex req.answer row.expectedAnswer with
      | .unanswered => return .ok tryAgain
      | .noExpected => return .error (500, "Missing expected answer")
      | .wrong => return .ok tryAgain
      | .right => takeAndIssue req now draw
    else return .error (500, "Unknown challenge kind")

def upsertAll : List (String × String) → Handle (Except HttpError Unit)
  | [] => return .ok ()
  | (key, value) :: rest => do
    exec (.upsertSetting key value) fun _ => ()
    upsertAll rest

def updateChallengeSettings (user : String) (req : UpdateChallengeSettingsRequest) : Handle (Except HttpError Unit) :=
  (exec .readUser fun s => (userPermissions s.db user).require MODERATION_SETTINGS).andThen fun _ =>
    match req.challengeMode.filter fun mode => !(["off", "click", "puzzle", "both"].contains mode) with
    | some mode => return .error (400, "Invalid challenge_mode: " ++ mode)
    | none =>
      match req.challengeDifficulty.filter fun difficulty => !(["easy", "medium"].contains difficulty) with
      | some difficulty => return .error (400, "Invalid challenge_difficulty: " ++ difficulty)
      | none => upsertAll
          ((req.challengeMode.map fun mode => ("challenge_mode", mode)).toList ++
            (req.challengeDifficulty.map fun difficulty => ("challenge_difficulty", difficulty)).toList)

inductive LobbyRequest where
  | new (pubkey : String) (now : Int) (draw : Draw)
  | verify (req : VerifyChallengeRequest) (now : Int) (draw : Draw)
  | updateSettings (user : String) (req : UpdateChallengeSettingsRequest)
  deriving DecidableEq, Repr

inductive LobbyAnswer where
  | prompted (outcome : Except HttpError ChallengePrompt)
  | verified (outcome : Except HttpError ChallengeVerifyResponse)
  | updated (outcome : Except HttpError Unit)

def LobbyRequest.handle : LobbyRequest → Handle LobbyAnswer
  | .new pubkey now draw => newChallenge sha256Hex pubkey now draw >>= fun outcome => return .prompted outcome
  | .verify req now draw => verifyChallenge sha256Hex req now draw >>= fun outcome => return .verified outcome
  | .updateSettings user req => updateChallengeSettings user req >>= fun outcome => return .updated outcome

end

end Wavvon.Puzzles
