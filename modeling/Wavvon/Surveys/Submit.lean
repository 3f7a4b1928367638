import Mathlib.Data.List.Sort
import Wavvon.Auth.State
import Wavvon.Hub.Permissions

set_option autoImplicit false

namespace Wavvon.Surveys

def ONBOARDING : String := "onboarding"

inductive QuestionKind where
  | text
  | choice
  | multi
  | consent
  deriving DecidableEq, Repr

structure SurveyRow where
  enabled : Bool
  updatedAt : Int
  purpose : String
  deriving DecidableEq, Repr

structure QuestionRow where
  surveyId : String
  prompt : String
  kind : QuestionKind
  required : Bool
  displayOrder : Int
  help : Option String := none
  multiline : Bool := false
  maxLen : Option Int := none
  minChoices : Option Int := none
  maxChoices : Option Int := none
  deriving DecidableEq, Repr

structure ChoiceRow where
  questionId : String
  label : String
  displayOrder : Int
  deriving DecidableEq, Repr

structure ResponseRow where
  pubkey : String
  surveyId : String
  submittedAt : Int
  deriving DecidableEq, Repr

structure AnswerRow where
  responseId : String
  questionId : String
  choiceId : Option String
  textAnswer : Option String
  deriving DecidableEq, Repr

/-- A hub with its join forms. -/
structure State where
  db : Db := {}
  admissionFlags : Finset String := ∅
  surveys : Table SurveyRow := ∅
  questions : Table QuestionRow := ∅
  choices : Table ChoiceRow := ∅
  choiceRoles : List (String × String) := []
  responses : Table ResponseRow := ∅
  answers : List AnswerRow := []
  answerChoices : List (String × String × String) := []

structure SurveyChoicePublic where
  id : String
  label : String
  displayOrder : Int
  deriving DecidableEq, Repr

structure SurveyQuestionPublic where
  id : String
  prompt : String
  kind : QuestionKind
  required : Bool
  displayOrder : Int
  help : Option String
  multiline : Bool
  maxLen : Option Int
  minChoices : Option Int
  maxChoices : Option Int
  choices : Option (List SurveyChoicePublic)
  deriving DecidableEq, Repr

structure SurveyPublic where
  id : String
  questions : List SurveyQuestionPublic
  deriving DecidableEq, Repr

-- A field for each kind of question; nothing stops a client from sending several.
structure SurveyAnswerInput where
  questionId : String
  choiceId : Option String := none
  choiceIds : Option (List String) := none
  textAnswer : Option String := none
  checked : Option Bool := none
  deriving DecidableEq, Repr

structure SubmitSurveyRequest where
  surveyId : String
  answers : List SurveyAnswerInput

structure SubmitSurveyResponse where
  nextState : String
  appliedRoles : List String
  deriving DecidableEq, Repr

def QuestionKind.hasChoices : QuestionKind → Bool
  | .choice | .multi => true
  | .text | .consent => false

def loadQuestions (s : State) (surveyId : String) : List (String × QuestionRow) :=
  (s.questions.toList.filter fun row => decide (row.2.surveyId = surveyId)).insertionSort
    fun first second => first.2.displayOrder ≤ second.2.displayOrder

def loadChoices (s : State) (questionId : String) : List (String × ChoiceRow) :=
  (s.choices.toList.filter fun row => decide (row.2.questionId = questionId)).insertionSort
    fun first second => first.2.displayOrder ≤ second.2.displayOrder

def questionPublic (s : State) (id : String) (row : QuestionRow) : SurveyQuestionPublic where
  id := id
  prompt := row.prompt
  kind := row.kind
  required := row.required
  displayOrder := row.displayOrder
  help := row.help
  multiline := row.multiline
  maxLen := row.maxLen
  minChoices := row.minChoices
  maxChoices := row.maxChoices
  choices := if row.kind.hasChoices then
      some ((loadChoices s id).map fun choice =>
        { id := choice.1, label := choice.2.label, displayOrder := choice.2.displayOrder })
    else none

-- The enabled form with this purpose.
def loadActivePublic (s : State) (purpose : String) : Option SurveyPublic :=
  (s.surveys.toList.find? fun row => row.2.enabled && decide (row.2.purpose = purpose)).map fun row =>
    { id := row.1, questions := (loadQuestions s row.1).map fun question => questionPublic s question.1 question.2 }

def unprocessable (msg : String) : HttpError := (422, msg)

def SurveyQuestionPublic.offered (q : SurveyQuestionPublic) (id : String) : Bool :=
  q.choices.any fun choices => choices.any fun choice => decide (choice.id = id)

-- `as i32`.
def asI32 (n : Nat) : Int := (n : Int).bmod (2 ^ 32)

def textAnswered (q : SurveyQuestionPublic) (a : SurveyAnswerInput) : Except HttpError Bool :=
  let text := trim (a.textAnswer.getD "")
  match q.maxLen with
  | some limit =>
    if (max limit 0).toNat < text.length then
      .error (unprocessable ("Answer to '" ++ q.id ++ "' is longer than " ++ toString limit ++ " characters"))
    else .ok (decide (text ≠ ""))
  | none => .ok (decide (text ≠ ""))

def choiceAnswered (q : SurveyQuestionPublic) (a : SurveyAnswerInput) : Except HttpError Bool :=
  match a.choiceId with
  | none => .ok false
  | some id => if q.offered id then .ok true else .error (unprocessable ("Unknown choice for '" ++ q.id ++ "'"))

def multiAnswered (q : SurveyQuestionPublic) (a : SurveyAnswerInput) : Except HttpError Bool :=
  let ids := a.choiceIds.getD []
  let n := asI32 ids.length
  if ids.any fun id => !q.offered id then .error (unprocessable ("Unknown choice for '" ++ q.id ++ "'"))
  else if (q.minChoices.any fun fewest => decide (0 < n ∧ n < fewest)) ||
      (q.maxChoices.any fun most => decide (most < n)) then
    .error (unprocessable ("Wrong number of choices for '" ++ q.id ++ "'"))
  else .ok (decide (0 < n))

-- Only the field that fits the kind of the question is looked at.
def answered (q : SurveyQuestionPublic) : Option SurveyAnswerInput → Except HttpError Bool
  | none => .ok false
  | some a =>
    match q.kind with
    | .text => textAnswered q a
    | .choice => choiceAnswered q a
    | .multi => multiAnswered q a
    | .consent => .ok (decide (a.checked = some true))

def validateQuestion (answers : List SurveyAnswerInput) (q : SurveyQuestionPublic) : Except HttpError Unit := do
  let done ← answered q (answers.find? fun a => decide (a.questionId = q.id))
  if q.required && !done then
    .error (unprocessable (if q.kind = .consent then "consent_refused:" ++ q.id
      else "Required question '" ++ q.id ++ "' not answered"))

def validateAnswers (form : SurveyPublic) (answers : List SurveyAnswerInput) : Except HttpError Unit :=
  match answers.find? fun a => !form.questions.any fun q => decide (q.id = a.questionId) with
  | some stray => .error (unprocessable ("Question '" ++ stray.questionId ++ "' is not on this form"))
  | none => form.questions.forM (validateQuestion answers)

def answerStored (responseId : String) (a : SurveyAnswerInput) (s : State) : Bool :=
  s.answers.any fun row => decide (row.responseId = responseId ∧ row.questionId = a.questionId)

def storeAnswer (responseId : String) (a : SurveyAnswerInput) (s : State) : State :=
  let picked := (a.choiceIds.getD []).map fun choice => (responseId, a.questionId, choice)
  { s with
    answers := s.answers ++
      [{ responseId := responseId, questionId := a.questionId, choiceId := a.choiceId
         textAnswer := if a.checked = some true then some "checked" else a.textAnswer }]
    answerChoices := s.answerChoices ++ picked.dedup.filter (· ∉ s.answerChoices) }

-- One answer for each question; a second one breaks the primary key.
def storeAnswers (responseId : String) : List SurveyAnswerInput → State → State × Except HttpError Unit
  | [], s => (s, .ok ())
  | a :: rest, s =>
    if answerStored responseId a s then (s, .error (500, "DB error: " ++ duplicateKey "survey_answers_pkey"))
    else storeAnswers responseId rest (storeAnswer responseId a s)

def hasText (answers : List SurveyAnswerInput) : Bool := answers.any fun a => a.textAnswer.any fun text => decide (text ≠ "")

-- Both fields.
def SurveyAnswerInput.named (a : SurveyAnswerInput) : List String := a.choiceId.toList ++ a.choiceIds.getD []

-- Whatever the kinds of the questions; free text leaves the roles to a reviewer.
def countedChoices (answers : List SurveyAnswerInput) : List String :=
  if hasText answers then [] else answers.flatMap (·.named)

def rolesOf (s : State) (choiceId : String) : List String :=
  (s.choiceRoles.filter fun row => decide (row.1 = choiceId)).map Prod.snd

def checkAssign (db : Db) (user roleId : String) : Except HttpError Unit :=
  if user ∉ db.users then .error (500, "DB error: " ++ foreignKeyViolation "user_roles" "user_roles_user_public_key_fkey")
  else if roleId ∉ db.roles then .error (500, "DB error: " ++ foreignKeyViolation "user_roles" "user_roles_role_id_fkey")
  else .ok ()

def assignRole (s : State) (user roleId : String) : State :=
  { s with db := { s.db with userRoles := insert (user, roleId) s.db.userRoles } }

def applyRoles (user : String) : List String → State → State × Except HttpError (List String)
  | [], s => (s, .ok [])
  | roleId :: rest, s =>
    match checkAssign s.db user roleId with
    | .error e => (s, .error e)
    | .ok _ =>
      let (left, applied) := applyRoles user rest (assignRole s user roleId)
      (left, applied.map (roleId :: ·))

def setApproval (s : State) (user status : String) : State :=
  { s with db := { s.db with users := s.db.users.modify user fun row => { row with approvalStatus := status } } }

-- Free text waits for a reviewer; a flagged newcomer stays as they are.
def decideApproval (s : State) (user : String) (text : Bool) : State × String :=
  if text then (setApproval s user "pending", "pending")
  else (if user ∈ s.admissionFlags then s else setApproval s user "approved", "approved")

def alreadySubmitted (s : State) (user surveyId responseId : String) : Bool :=
  decide (responseId ∈ s.responses) ||
    s.responses.toList.any fun row => decide (row.2.pubkey = user ∧ row.2.surveyId = surveyId)

def insertResponse (s : State) (user surveyId responseId : String) (now : Int) : State :=
  { s with responses := s.responses.insert responseId { pubkey := user, surveyId := surveyId, submittedAt := now } }

def submitChecks (s : State) (user : String) (req : SubmitSurveyRequest) (responseId : String) :
    Except HttpError SurveyPublic :=
  match loadActivePublic s ONBOARDING with
  | none => .error (404, "No active survey")
  | some survey =>
    if survey.id ≠ req.surveyId then .error (400, "survey_id does not match active survey")
    else
      match validateAnswers survey req.answers with
      | .error e => .error e
      | .ok _ =>
        if alreadySubmitted s user req.surveyId responseId then .error (409, "Survey already submitted")
        else .ok survey

def submitSurvey (s : State) (user : String) (req : SubmitSurveyRequest) (responseId : String) (now : Int) :
    State × Except HttpError SubmitSurveyResponse :=
  match submitChecks s user req responseId with
  | .error e => (s, .error e)
  | .ok _ =>
    match storeAnswers responseId req.answers (insertResponse s user req.surveyId responseId now) with
    | (left, .error e) => (left, .error e)
    | (stored, .ok _) =>
      match applyRoles user ((countedChoices req.answers).flatMap (rolesOf stored)) stored with
      | (left, .error e) => (left, .error e)
      | (granted, .ok applied) =>
        let (decided, nextState) := decideApproval granted user (hasText req.answers)
        (decided, .ok { nextState := nextState, appliedRoles := applied })

end Wavvon.Surveys
