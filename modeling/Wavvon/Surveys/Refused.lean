import Mathlib.Data.List.MinMax
import Wavvon.Surveys.Earned

set_option autoImplicit false

namespace Wavvon.Surveys

open Std (ExtTreeMap)

def APPLICATION : String := "application"

def REAPPLY_COOLDOWN_SECS : Int := 7 * 24 * 3600

-- The columns a decision fills of a response; a response without an entry is undecided.
structure Decision where
  rejected : Bool
  decidedAt : Option Int
  rejectionReason : Option String
  deriving DecidableEq, Repr

/-- A hub with what was decided on its applications; answers and decisions are of responses that are there. -/
structure Office extends State where
  decisions : Table Decision := ∅
  decided : ∀ id, id ∈ decisions → id ∈ responses
  answered : ∀ row ∈ answers, row.responseId ∈ responses

-- `ORDER BY submitted_at DESC LIMIT 1`, which may take any of those submitted in one second.
structure Latest where
  pick : List (String × ResponseRow) → Option (String × ResponseRow)
  none_iff : ∀ rows, pick rows = none ↔ rows = []
  member : ∀ rows row, pick rows = some row → row ∈ rows
  newest : ∀ rows row, pick rows = some row → ∀ other ∈ rows, other.2.submittedAt ≤ row.2.submittedAt

structure OwnResponse where
  id : String
  rejected : Bool
  rejectionReason : Option String
  decidedAt : Option Int
  deriving DecidableEq, Repr

def ownResponse (latest : Latest) (s : Office) (pubkey : String) : Option OwnResponse :=
  let own := s.responses.toList.filter fun row =>
    decide (row.2.pubkey = pubkey) && s.surveys[row.2.surveyId]?.any fun survey => decide (survey.purpose = APPLICATION)
  (latest.pick own).map fun row =>
    { id := row.1
      rejected := s.decisions[row.1]?.any (·.rejected)
      rejectionReason := s.decisions[row.1]?.bind (·.rejectionReason)
      decidedAt := s.decisions[row.1]?.bind (·.decidedAt) }

-- What comes before anything is written: the form, and the rejected response that the new one replaces.
def applicationChecks (latest : Latest) (s : Office) (user : String) (req : SubmitSurveyRequest) (now : Int) :
    Except HttpError (SurveyPublic × Option String) :=
  match loadActivePublic s.toState APPLICATION with
  | none => .error (404, "This hub takes no applications")
  | some form =>
    if form.id ≠ req.surveyId then .error (400, "survey_id does not match the hub's application")
    else if s.db.users[user]?.map (·.approvalStatus) ≠ some "pending" then .error (409, "Already a member")
    else
      match ownResponse latest s user with
      | none => .ok (form, none)
      | some prev =>
        if !prev.rejected then .error (409, "Application already submitted")
        else
          let retryAfter := prev.decidedAt.getD now + REAPPLY_COOLDOWN_SECS
          if now < retryAfter then .error (429, "retry_after:" ++ toString retryAfter)
          else .ok (form, some prev.id)

-- The answers go with the response.
def Office.deleteResponse (s : Office) (id : String) : Office where
  toState :=
    { s.toState with
      responses := s.responses.erase id
      answers := s.answers.filter fun row => decide (row.responseId ≠ id)
      answerChoices := s.answerChoices.filter fun row => decide (row.1 ≠ id) }
  decisions := s.decisions.erase id
  decided other listed := by
    rw [ExtTreeMap.mem_erase] at listed ⊢
    exact ⟨listed.1, s.decided other listed.2⟩
  answered row listed := by
    obtain ⟨kept, other⟩ := List.mem_filter.mp listed
    rw [ExtTreeMap.mem_erase]
    exact ⟨fun same => of_decide_eq_true other (Std.compare_eq_iff_eq.mp same).symm, s.answered row kept⟩

section

variable {s : State} {user responseId : String} {answers : List SurveyAnswerInput} {roles : List String}

-- Storing answers writes the two tables of answers and nothing else.
theorem storeAnswers_frame (responseId : String) (answers : List SurveyAnswerInput) (s : State) :
    ∃ rows choices, (storeAnswers responseId answers s).1 = { s with answers := rows, answerChoices := choices } ∧
      ∀ row ∈ rows, row ∈ s.answers ∨ row.responseId = responseId := by
  induction answers generalizing s with
  | nil => exact ⟨s.answers, s.answerChoices, rfl, fun row listed => .inl listed⟩
  | cons a rest ih =>
    unfold storeAnswers
    split
    · exact ⟨s.answers, s.answerChoices, rfl, fun row listed => .inl listed⟩
    · obtain ⟨rows, choices, same, origin⟩ := ih (storeAnswer responseId a s)
      refine ⟨rows, choices, same, fun row listed => ?_⟩
      rcases origin row listed with old | new
      · rcases List.mem_append.mp old with old | new
        · exact .inl old
        · rw [List.mem_singleton.mp new]
          exact .inr rfl
      · exact .inr new

-- Under a new response the answers go in unless one question is answered twice.
theorem storeAnswers_ok_iff (fresh : ∀ row ∈ s.answers, row.responseId ≠ responseId) :
    (storeAnswers responseId answers s).2 = .ok () ↔ (answers.map (·.questionId)).Nodup := by
  constructor
  · exact fun ok => (storeAnswers_stored ok).once
  · have stores : ∀ (answers : List SurveyAnswerInput) (s : State),
        (∀ a ∈ answers, answerStored responseId a s = false) → (answers.map (·.questionId)).Nodup →
          (storeAnswers responseId answers s).2 = .ok () := by
      intro answers
      induction answers with
      | nil => exact fun s _ _ => rfl
      | cons a rest ih =>
        intro s free once
        obtain ⟨here, later⟩ := List.forall_mem_cons.mp free
        rw [List.map_cons, List.nodup_cons] at once
        rw [storeAnswers, here, if_neg Bool.false_ne_true]
        refine ih _ (fun b listed => ?_) once.2
        have apart : a.questionId ≠ b.questionId := fun same => once.1 (same ▸ List.mem_map_of_mem listed)
        rw [answerStored, storeAnswer, List.any_append]
        have old := later b listed
        rw [answerStored] at old
        rw [old]
        simp [apart]
    refine stores answers s fun a _ => ?_
    rw [answerStored, List.any_eq_false]
    intro row listed
    simp [fresh row listed]

theorem applyRoles_frame (user : String) (roles : List String) (s : State) :
    ∃ granted, (applyRoles user roles s).1 = { s with db := { s.db with userRoles := granted } } := by
  induction roles generalizing s with
  | nil => exact ⟨s.db.userRoles, rfl⟩
  | cons role rest ih =>
    unfold applyRoles
    split
    · exact ⟨s.db.userRoles, rfl⟩
    · obtain ⟨granted, same⟩ := ih (assignRole s user role)
      exact ⟨granted, same⟩

theorem applyRoles_ok_iff : (∃ applied, (applyRoles user roles s).2 = .ok applied) ↔
    ∀ role ∈ roles, user ∈ s.db.users ∧ role ∈ s.db.roles := by
  induction roles generalizing s with
  | nil => exact iff_of_true ⟨[], rfl⟩ fun role listed => absurd listed List.not_mem_nil
  | cons role rest ih =>
    have later : (∃ applied, (applyRoles user rest (assignRole s user role)).2 = .ok applied) ↔
        ∀ role ∈ rest, user ∈ s.db.users ∧ role ∈ s.db.roles := ih
    rw [List.forall_mem_cons]
    unfold applyRoles checkAssign
    split
    next e refused =>
      constructor
      · rintro ⟨_, ok⟩
        cases ok
      · rintro ⟨⟨known, present⟩, -⟩
        rw [if_neg (not_not.mpr known), if_neg (not_not.mpr present)] at refused
        cases refused
    next accepted =>
      have both : user ∈ s.db.users ∧ role ∈ s.db.roles := by
        by_contra missing
        split_ifs at accepted with known present
        exact missing ⟨known, present⟩
      rw [and_iff_right both, ← later]
      dsimp only
      cases (applyRoles user rest (assignRole s user role)).2 with
      | error e => simp [Except.map]
      | ok applied => simp [Except.map]

theorem decideApproval_frame (s : State) (user : String) (text : Bool) :
    ∃ users, (decideApproval s user text).1 = { s with db := { s.db with users := users } } := by
  unfold decideApproval setApproval
  split
  · exact ⟨_, rfl⟩
  · split
    · exact ⟨s.db.users, rfl⟩
    · exact ⟨_, rfl⟩

/-- A state with one more response, its answers and what they brought the submitter. -/
structure Entered (user surveyId responseId : String) (now : Int) (before after : State) : Prop where
  tables : ∃ rows choices granted users, after =
    { insertResponse before user surveyId responseId now with
      answers := rows, answerChoices := choices, db := { before.db with userRoles := granted, users := users } }
  answers : ∀ row ∈ after.answers, row ∈ before.answers ∨ row.responseId = responseId

variable {surveyId : String} {now : Int} {before after : State}

theorem Entered.responses (entered : Entered user surveyId responseId now before after) :
    after.responses = before.responses.insert responseId { pubkey := user, surveyId := surveyId, submittedAt := now } := by
  obtain ⟨rows, choices, granted, users, rfl⟩ := entered.tables
  rfl

theorem storeAnswers_entered (user surveyId responseId : String) (now : Int) (answers : List SurveyAnswerInput)
    (s : State) : Entered user surveyId responseId now s
      (storeAnswers responseId answers (insertResponse s user surveyId responseId now)).1 := by
  obtain ⟨rows, choices, same, origin⟩ := storeAnswers_frame responseId answers (insertResponse s user surveyId responseId now)
  exact ⟨⟨rows, choices, _, _, same⟩, by rw [same]; exact origin⟩

theorem Entered.granted (entered : Entered user surveyId responseId now before after) (granted : Finset (String × String)) :
    Entered user surveyId responseId now before { after with db := { after.db with userRoles := granted } } := by
  obtain ⟨⟨rows, choices, _, users, rfl⟩, origin⟩ := entered
  exact ⟨⟨rows, choices, granted, users, rfl⟩, origin⟩

theorem Entered.seated (entered : Entered user surveyId responseId now before after) (users : Table User) :
    Entered user surveyId responseId now before { after with db := { after.db with users := users } } := by
  obtain ⟨⟨rows, choices, granted, _, rfl⟩, origin⟩ := entered
  exact ⟨⟨rows, choices, granted, users, rfl⟩, origin⟩

variable {req : SubmitSurveyRequest} {form : SurveyPublic}

theorem submitSurvey_entered (checked : submitChecks s user req responseId = .ok form) (now : Int) :
    Entered user req.surveyId responseId now s (submitSurvey s user req responseId now).1 := by
  have stored := storeAnswers_entered user req.surveyId responseId now req.answers s
  unfold submitSurvey
  rw [checked]
  dsimp only
  generalize storeAnswers responseId req.answers (insertResponse s user req.surveyId responseId now) = result at stored
  obtain ⟨left, outcome⟩ := result
  cases outcome with
  | error e => exact stored
  | ok _ =>
    dsimp only
    obtain ⟨granted, same⟩ := applyRoles_frame user ((countedChoices req.answers).flatMap (rolesOf left)) left
    generalize applyRoles user ((countedChoices req.answers).flatMap (rolesOf left)) left = result at same
    obtain ⟨right, outcome⟩ := result
    dsimp only at same
    have applied : Entered user req.surveyId responseId now s right := by
      rw [same]
      exact stored.granted granted
    cases outcome with
    | error e => exact applied
    | ok roles =>
      dsimp only
      obtain ⟨users, decided⟩ := decideApproval_frame right user (hasText req.answers)
      rw [decided]
      exact applied.seated users

theorem submitSurvey_refused {e : HttpError} (refused : submitChecks s user req responseId = .error e) (now : Int) :
    submitSurvey s user req responseId now = (s, .error e) := by
  rw [submitSurvey, refused]

-- Past the checks, a submission fails on a question answered twice or a role that cannot be given.
theorem submitSurvey_ok_iff (checked : submitChecks s user req responseId = .ok form)
    (fresh : ∀ row ∈ s.answers, row.responseId ≠ responseId) (now : Int) :
    (∃ response, (submitSurvey s user req responseId now).2 = .ok response) ↔
      (req.answers.map (·.questionId)).Nodup ∧
        ∀ role ∈ (countedChoices req.answers).flatMap (rolesOf s), user ∈ s.db.users ∧ role ∈ s.db.roles := by
  have stores : (storeAnswers responseId req.answers (insertResponse s user req.surveyId responseId now)).2 = .ok () ↔
      (req.answers.map (·.questionId)).Nodup := storeAnswers_ok_iff fresh
  have frame := storeAnswers_frame responseId req.answers (insertResponse s user req.surveyId responseId now)
  rw [← stores]
  unfold submitSurvey
  rw [checked]
  dsimp only
  generalize storeAnswers responseId req.answers (insertResponse s user req.surveyId responseId now) = result at frame
  obtain ⟨left, outcome⟩ := result
  obtain ⟨rows, choices, same, -⟩ := frame
  dsimp only at same
  cases outcome with
  | error e => simp
  | ok _ =>
    have grants : (∃ applied, (applyRoles user ((countedChoices req.answers).flatMap (rolesOf left)) left).2 = .ok applied) ↔
        _ := applyRoles_ok_iff
    have roles : rolesOf left = rolesOf s := by rw [same]; rfl
    have users : left.db.users = s.db.users := by rw [same]; rfl
    have listed : left.db.roles = s.db.roles := by rw [same]; rfl
    rw [roles, users, listed] at grants
    dsimp only
    rw [roles, ← grants, and_iff_right rfl]
    cases applyRoles user ((countedChoices req.answers).flatMap (rolesOf s)) left with
    | mk right outcome =>
      cases outcome with
      | error e => simp
      | ok applied => simp

/-- No response is lost, and no answer is left without its response. -/
structure Extends (before after : State) : Prop where
  responses : ∀ id, id ∈ before.responses → id ∈ after.responses
  answers : ∀ row ∈ after.answers, row ∈ before.answers ∨ row.responseId ∈ after.responses

theorem Entered.extends (entered : Entered user surveyId responseId now before after) : Extends before after := by
  constructor
  · intro id listed
    rw [entered.responses, ExtTreeMap.mem_insert]
    exact .inr listed
  · intro row listed
    refine (entered.answers row listed).imp_right fun same => ?_
    rw [entered.responses, same, ExtTreeMap.mem_insert]
    exact .inl Std.ReflCmp.compare_self

theorem submitSurvey_extends (s : State) (user : String) (req : SubmitSurveyRequest) (responseId : String) (now : Int) :
    Extends s (submitSurvey s user req responseId now).1 := by
  cases checked : submitChecks s user req responseId with
  | error e =>
    rw [submitSurvey_refused checked]
    exact ⟨fun _ listed => listed, fun _ listed => .inl listed⟩
  | ok form => exact (submitSurvey_entered checked now).extends

end

def Office.withState (s : Office) (after : State) (ext : Extends s.toState after) : Office where
  toState := after
  decisions := s.decisions
  decided id listed := ext.responses id (s.decided id listed)
  answered row listed := (ext.answers row listed).elim (fun old => ext.responses _ (s.answered row old)) id

def Office.submitSurvey (s : Office) (user : String) (req : SubmitSurveyRequest) (responseId : String) (now : Int) :
    Office × Except HttpError SubmitSurveyResponse :=
  (s.withState _ (submitSurvey_extends s.toState user req responseId now),
    (Surveys.submitSurvey s.toState user req responseId now).2)

-- The constraint that an inserted response breaks.
def violated (s : State) (user surveyId responseId : String) : Option String :=
  if responseId ∈ s.responses then some "survey_responses_pkey"
  else if s.responses.toList.any fun row => decide (row.2.pubkey = user ∧ row.2.surveyId = surveyId) then
    some "survey_responses_pubkey_survey_id_key"
  else none

def Office.cleared (s : Office) (replaced : Option String) : Office := replaced.elim s s.deleteResponse

-- `submit` of the applications: the rejected response goes before the new one is looked at.
def Office.submit (latest : Latest) (s : Office) (user : String) (req : SubmitSurveyRequest) (responseId : String)
    (now : Int) : Office × Except HttpError Unit :=
  match applicationChecks latest s user req now with
  | .error e => (s, .error e)
  | .ok (form, replaced) =>
    match validateAnswers form req.answers with
    | .error e => (s.cleared replaced, .error e)
    | .ok _ =>
      match violated (s.cleared replaced).toState user form.id responseId with
      | some constraint => (s.cleared replaced, .error (500, "DB error: " ++ duplicateKey constraint))
      | none =>
        ((s.cleared replaced).withState _ (storeAnswers_entered user form.id responseId now req.answers _).extends,
          (storeAnswers responseId req.answers
            (insertResponse (s.cleared replaced).toState user form.id responseId now)).2)

/-- What a hub keeps about a member's forms and standing. -/
structure Record where
  responses : Table ResponseRow
  decisions : Table Decision
  answers : List AnswerRow
  answerChoices : List (String × String × String)
  roles : Finset String
  approvalStatus : Option String

def recordOf (s : State) (decisions : Table Decision) (user : String) : Record :=
  let own := s.responses.filter fun _ row => decide (row.pubkey = user)
  { responses := own
    decisions := decisions.filter fun id _ => decide (id ∈ own)
    answers := s.answers.filter fun row => decide (row.responseId ∈ own)
    answerChoices := s.answerChoices.filter fun row => decide (row.1 ∈ own)
    roles := (s.db.userRoles.filter fun row => row.1 = user).image Prod.snd
    approvalStatus := s.db.users[user]?.map (·.approvalStatus) }

def Office.record (s : Office) (user : String) : Record := recordOf s.toState s.decisions user

def LeavesNothing {A : Type} (user : String) (s : Office) (result : Office × Except HttpError A) : Prop :=
  ∀ e, result.2 = .error e → result.1.record user = s.record user

-- A submission past its checks that the tables take as it is.
def Storable (s : Office) (user : String) (req : SubmitSurveyRequest) (responseId : String) : Prop :=
  ∀ form, submitChecks s.toState user req responseId = .ok form → (req.answers.map (·.questionId)).Nodup ∧
    ∀ role ∈ (countedChoices req.answers).flatMap (rolesOf s.toState), user ∈ s.db.users ∧ role ∈ s.db.roles

/--
An application past its checks that replaces a rejected one only if it is fit to be stored, and
answers no question twice if it is.
-/
def Replaceable (latest : Latest) (s : Office) (user : String) (req : SubmitSurveyRequest) (responseId : String)
    (now : Int) : Prop :=
  ∀ form replaced, applicationChecks latest s user req now = .ok (form, replaced) →
    (validateAnswers form req.answers = .ok () ∧ violated (s.cleared replaced).toState user form.id responseId = none ∧
      (req.answers.map (·.questionId)).Nodup) ∨
    replaced = none ∧ (validateAnswers form req.answers ≠ .ok () ∨ violated s.toState user form.id responseId ≠ none)

section

variable {s : Office} {user responseId : String} {req : SubmitSurveyRequest} {now : Int} {latest : Latest}

theorem entered_differs {before after : State} {surveyId : String} {decisions decisions' : Table Decision}
    (entered : Entered user surveyId responseId now before after) (fresh : responseId ∉ before.responses) :
    recordOf after decisions' user ≠ recordOf before decisions user := by
  intro same
  have own := congrArg (fun record : Record => record.responses[responseId]?) same
  simp only [recordOf, entered.responses] at own
  simp [fresh] at own

theorem alreadySubmitted_fresh {s : State} {surveyId : String} (first : ¬ alreadySubmitted s user surveyId responseId = true) :
    responseId ∉ s.responses := by
  intro listed
  apply first
  rw [alreadySubmitted, decide_eq_true listed, Bool.true_or]

theorem submitChecks_fresh {s : State} {form : SurveyPublic} (checked : submitChecks s user req responseId = .ok form) :
    responseId ∉ s.responses := by
  unfold submitChecks at checked
  split at checked
  · cases checked
  · split at checked
    · cases checked
    · split at checked
      · cases checked
      · split at checked
        · cases checked
        next first => exact alreadySubmitted_fresh first

theorem Office.unanswered (s : Office) (fresh : responseId ∉ s.responses) :
    ∀ row ∈ s.answers, row.responseId ≠ responseId := by
  rintro row listed rfl
  exact fresh (s.answered row listed)

theorem leavesNothing_survey : LeavesNothing user s (s.submitSurvey user req responseId now) ↔
    Storable s user req responseId := by
  cases checked : submitChecks s.toState user req responseId with
  | error e =>
    refine iff_of_true ?_ fun form ok => by rw [checked] at ok; cases ok
    intro _ _
    have kept : (Surveys.submitSurvey s.toState user req responseId now).1 = s.toState := by
      rw [submitSurvey_refused checked]
    change recordOf (Surveys.submitSurvey s.toState user req responseId now).1 s.decisions user = _
    rw [kept]
    rfl
  | ok form =>
    have fresh := submitChecks_fresh checked
    have whole := submitSurvey_ok_iff checked (s.unanswered fresh) now
    have only : Storable s user req responseId ↔ (req.answers.map (·.questionId)).Nodup ∧
        ∀ role ∈ (countedChoices req.answers).flatMap (rolesOf s.toState), user ∈ s.db.users ∧ role ∈ s.db.roles :=
      ⟨fun storable => storable form checked, fun whole _ _ => whole⟩
    rw [only, ← whole]
    cases outcome : (Surveys.submitSurvey s.toState user req responseId now).2 with
    | ok response =>
      refine iff_of_true ?_ ⟨response, rfl⟩
      intro e failed
      exact absurd (outcome.symm.trans failed) (by simp)
    | error e =>
      refine iff_of_false ?_ (by rintro ⟨_, ok⟩; cases ok)
      intro leaves
      exact entered_differs (submitSurvey_entered checked now) fresh (leaves e outcome)

theorem ownResponse_rejected {prev : OwnResponse} (own : ownResponse latest s user = some prev)
    (rejected : prev.rejected = true) :
    (∃ row, s.responses[prev.id]? = some row ∧ row.pubkey = user) ∧ prev.id ∈ s.decisions := by
  obtain ⟨row, picked, rfl⟩ := Option.map_eq_some_iff.mp own
  obtain ⟨listed, its⟩ := List.mem_filter.mp (latest.member _ row picked)
  refine ⟨⟨row.2, ExtTreeMap.mem_toList_iff_getElem?_eq_some.mp listed, ?_⟩, ?_⟩
  · exact of_decide_eq_true (Bool.and_eq_true_iff.mp its).1
  · obtain ⟨decision, found, -⟩ := (Option.any_eq_true _ _).mp rejected
    rw [ExtTreeMap.mem_iff_isSome_getElem?, found]
    rfl

theorem applicationChecks_replaced {form : SurveyPublic} {id : String}
    (checked : applicationChecks latest s user req now = .ok (form, some id)) :
    (∃ row, s.responses[id]? = some row ∧ row.pubkey = user) ∧ id ∈ s.decisions := by
  unfold applicationChecks at checked
  split at checked
  · cases checked
  · split at checked
    · cases checked
    · split at checked
      · cases checked
      · cases own : ownResponse latest s user with
        | none =>
          rw [own] at checked
          cases checked
        | some prev =>
          rw [own] at checked
          dsimp only at checked
          split at checked
          · cases checked
          next rejected =>
            split at checked
            · cases checked
            · cases checked
              exact ownResponse_rejected own (by simpa using rejected)

-- Once the rejected response is gone, so is its decision.
theorem replaced_differs {id : String} (own : ∃ row, s.responses[id]? = some row ∧ row.pubkey = user)
    (decided : id ∈ s.decisions) (after : State) :
    recordOf after (s.decisions.erase id) user ≠ s.record user := by
  intro same
  obtain ⟨row, found, its⟩ := own
  obtain ⟨decision, stored⟩ := Option.isSome_iff_exists.mp (ExtTreeMap.mem_iff_isSome_getElem?.mp decided)
  have mine : id ∈ s.responses.filter fun _ row => decide (row.pubkey = user) := by
    rw [ExtTreeMap.mem_iff_isSome_getElem?, ExtTreeMap.getElem?_filter', found, Option.filter_some,
      if_pos (decide_eq_true its)]
    rfl
  have gone := congrArg (fun record : Record => record.decisions[id]?) same
  simp only [recordOf, Office.record] at gone
  simp [stored, mine, Option.filter_some] at gone

theorem violated_fresh {s : State} {surveyId : String} (free : violated s user surveyId responseId = none) :
    responseId ∉ s.responses := by
  intro listed
  rw [violated, if_pos listed] at free
  cases free

-- An application is stored whole, or refused before anything was removed for it.
theorem leavesNothing_application : LeavesNothing user s (s.submit latest user req responseId now) ↔
    Replaceable latest s user req responseId now := by
  cases checked : applicationChecks latest s user req now with
  | error e =>
    refine iff_of_true ?_ fun form replaced ok => by rw [checked] at ok; cases ok
    intro _ _
    rw [Office.submit, checked]
  | ok found =>
    obtain ⟨form, replaced⟩ := found
    have only : Replaceable latest s user req responseId now ↔
        (validateAnswers form req.answers = .ok () ∧ violated (s.cleared replaced).toState user form.id responseId = none ∧
          (req.answers.map (·.questionId)).Nodup) ∨
        replaced = none ∧ (validateAnswers form req.answers ≠ .ok () ∨ violated s.toState user form.id responseId ≠ none) := by
      constructor
      · exact fun replaceable => replaceable form replaced checked
      · intro fits form' replaced' again
        rw [checked] at again
        cases again
        exact fits
    -- Whatever follows the removal, the decision on the removed response is gone.
    have lost : ∀ id, replaced = some id → ∀ after, recordOf after (s.cleared replaced).decisions user ≠ s.record user := by
      rintro id rfl after
      obtain ⟨own, decided⟩ := applicationChecks_replaced checked
      exact replaced_differs own decided after
    rw [only, Office.submit, checked]
    dsimp only
    cases valid : validateAnswers form req.answers with
    | error e =>
      dsimp only
      cases replaced with
      | none => exact iff_of_true (fun _ _ => rfl) (.inr ⟨rfl, .inl (by simp)⟩)
      | some id =>
        refine iff_of_false (fun leaves => lost id rfl _ (leaves e rfl)) ?_
        rintro (⟨ok, -⟩ | ⟨none, -⟩)
        · cases ok
        · cases none
    | ok _ =>
      dsimp only
      cases free : violated (s.cleared replaced).toState user form.id responseId with
      | some constraint =>
        dsimp only
        cases replaced with
        | none =>
          have taken : violated s.toState user form.id responseId = some constraint := free
          exact iff_of_true (fun _ _ => rfl) (.inr ⟨rfl, .inr (by simp [taken])⟩)
        | some id =>
          refine iff_of_false (fun leaves => lost id rfl _ (leaves _ rfl)) ?_
          rintro (⟨-, taken, -⟩ | ⟨none, -⟩)
          · cases taken
          · cases none
      | none =>
        dsimp only
        have fresh := violated_fresh free
        have stores : (storeAnswers responseId req.answers
            (insertResponse (s.cleared replaced).toState user form.id responseId now)).2 = .ok () ↔
              (req.answers.map (·.questionId)).Nodup := storeAnswers_ok_iff ((s.cleared replaced).unanswered fresh)
        cases outcome : (storeAnswers responseId req.answers
            (insertResponse (s.cleared replaced).toState user form.id responseId now)).2 with
        | ok _ =>
          refine iff_of_true ?_ (.inl ⟨rfl, rfl, stores.mp outcome⟩)
          intro e failed
          cases failed
        | error e =>
          refine iff_of_false ?_ ?_
          · intro leaves
            have same := leaves e rfl
            cases replaced with
            | none => exact entered_differs (storeAnswers_entered user form.id responseId now req.answers s.toState) fresh same
            | some id => exact lost id rfl _ same
          · rintro (⟨-, -, once⟩ | ⟨rfl, invalid | taken⟩)
            · rw [stores.mpr once] at outcome
              cases outcome
            · exact invalid rfl
            · exact taken free

end

def argmax : Latest where
  pick := @List.argmax (String × ResponseRow) Int Int.instLinearOrder.toPreorder Int.instLinearOrder.toDecidableLT
    (·.2.submittedAt)
  none_iff _ := List.argmax_eq_none
  member _ _ picked := List.argmax_mem picked
  newest _ _ picked _ listed := @List.le_of_mem_argmax (String × ResponseRow) Int Int.instLinearOrder _ _ _ _ listed picked

def teamOffice : Office where
  toState := teams
  decided _ none := absurd none ExtTreeMap.not_mem_empty
  answered := by decide

-- The team is picked twice.
def redTwice : SubmitSurveyRequest where
  surveyId := "form"
  answers := [{ questionId := "team", choiceId := some "red" }, { questionId := "team", choiceId := some "red" }]

-- A hub that takes applications, and one it rejected long ago.
def rejecting : Office where
  db := { users := (∅ : Table User).insert "applicant" { approvalStatus := "pending" } }
  surveys := (∅ : Table SurveyRow).insert "form" { enabled := true, updatedAt := 0, purpose := APPLICATION }
  responses := (∅ : Table ResponseRow).insert "old" { pubkey := "applicant", surveyId := "form", submittedAt := 0 }
  decisions := (∅ : Table Decision).insert "old" { rejected := true, decidedAt := some 0, rejectionReason := some "no" }
  decided id listed := by
    rw [ExtTreeMap.mem_insert] at listed ⊢
    exact listed.imp_right fun none => absurd none ExtTreeMap.not_mem_empty
  answered := by decide

def unknownQuestion : SubmitSurveyRequest := { surveyId := "form", answers := [{ questionId := "gone" }] }

-- A retry of the failed submission is answered by a conflict.
example : ((teamOffice.submitSurvey "newcomer" redTwice "r1" 5).1.submitSurvey "newcomer" redOnly "r2" 6).2 =
    .error (409, "Survey already submitted") := by decide

end Wavvon.Surveys
