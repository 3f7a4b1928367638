import Mathlib.Data.Finset.Card
import Wavvon.Surveys.Submit

set_option autoImplicit false

namespace Wavvon.Surveys

open Std (ExtTreeMap)

def Belongs (s : State) (choiceId questionId : String) : Prop :=
  s.choices[choiceId]?.any (fun row => decide (row.questionId = questionId)) = true

instance (s : State) (choiceId questionId : String) : Decidable (Belongs s choiceId questionId) :=
  inferInstanceAs (Decidable (_ = true))

-- The submitter names the choice in an answer to the question.
def Picked (answers : List SurveyAnswerInput) (questionId choiceId : String) : Prop :=
  ∃ a ∈ answers, a.questionId = questionId ∧ choiceId ∈ a.named

instance (answers : List SurveyAnswerInput) (questionId choiceId : String) :
    Decidable (Picked answers questionId choiceId) :=
  inferInstanceAs (Decidable (∃ a ∈ answers, a.questionId = questionId ∧ choiceId ∈ a.named))

-- How many of its choices a question lets count: a multiple choice that is left out counts none.
def WithinKind (q : SurveyQuestionPublic) (n : Nat) : Prop :=
  match q.kind with
  | .choice => n ≤ 1
  | .multi => n = 0 ∨ (∀ fewest ∈ q.minChoices, fewest ≤ (n : Int)) ∧ ∀ most ∈ q.maxChoices, (n : Int) ≤ most
  | .text | .consent => n = 0

instance (q : SurveyQuestionPublic) (n : Nat) : Decidable (WithinKind q n) := by
  unfold WithinKind
  cases q.kind <;> infer_instance

-- The choices of a question that the roles are taken for, whatever answer names them.
def countedOf (s : State) (answers : List SurveyAnswerInput) (questionId : String) : Finset String :=
  (countedChoices answers).toFinset.filter fun choice => Belongs s choice questionId

/-- The roles of a submission come from choices of the form, each picked where it is offered. -/
structure Honest (s : State) (form : SurveyPublic) (answers : List SurveyAnswerInput) (applied : List String) :
    Prop where
  earned : ∀ role ∈ applied, ∃ q ∈ form.questions, ∃ choice, (choice, role) ∈ s.choiceRoles ∧
    Belongs s choice q.id ∧ Picked answers q.id choice
  within : ∀ q ∈ form.questions, WithinKind q (countedOf s answers q.id).card

def namedOf (s : State) (answers : List SurveyAnswerInput) (questionId : String) : Finset String :=
  (answers.flatMap (·.named)).toFinset.filter fun choice => Belongs s choice questionId

-- The field of an answer that is checked for a question of this kind.
def looked (q : SurveyQuestionPublic) (a : SurveyAnswerInput) : List String :=
  match q.kind with
  | .choice => a.choiceId.toList
  | .multi => a.choiceIds.getD []
  | .text | .consent => []

-- Named where no question looks for it.
def Slipped (form : SurveyPublic) (a : SurveyAnswerInput) (choiceId : String) : Prop :=
  choiceId ∈ a.named ∧ ∀ q ∈ form.questions, q.id = a.questionId → choiceId ∉ looked q a

instance (form : SurveyPublic) (a : SurveyAnswerInput) (choiceId : String) : Decidable (Slipped form a choiceId) :=
  inferInstanceAs (Decidable (_ ∧ _))

/-- The field nobody looks at brings no role of its own, and no choices a question would not count. -/
structure Fitting (s : State) (form : SurveyPublic) (answers : List SurveyAnswerInput) : Prop where
  slipped : ∀ a ∈ answers, ∀ choice, Slipped form a choice → ∀ role, (choice, role) ∈ s.choiceRoles →
    ∃ q ∈ form.questions, ∃ other, (other, role) ∈ s.choiceRoles ∧ Belongs s other q.id ∧ Picked answers q.id other
  within : ∀ q ∈ form.questions, WithinKind q (namedOf s answers q.id).card

section

variable {s : State} {user responseId : String} {answers : List SurveyAnswerInput} {form : SurveyPublic}

/-- What is stored of the answers leaves the rest of the hub, and each is to a question of its own. -/
structure Stored (responseId : String) (before after : State) (answers : List SurveyAnswerInput) : Prop where
  choiceRoles : after.choiceRoles = before.choiceRoles
  fresh : ∀ a ∈ answers, answerStored responseId a before = false
  once : (answers.map (·.questionId)).Nodup

theorem answerStored_storeAnswer {a b : SurveyAnswerInput}
    (fresh : answerStored responseId b (storeAnswer responseId a s) = false) :
    answerStored responseId b s = false ∧ a.questionId ≠ b.questionId := by
  rw [answerStored, storeAnswer, List.any_append, Bool.or_eq_false_iff] at fresh
  refine ⟨fresh.1, fun same => ?_⟩
  have apart := fresh.2
  simp [same] at apart

theorem storeAnswers_stored (ok : (storeAnswers responseId answers s).2 = .ok ()) :
    Stored responseId s (storeAnswers responseId answers s).1 answers := by
  induction answers generalizing s with
  | nil => exact ⟨rfl, fun a listed => absurd listed List.not_mem_nil, List.nodup_nil⟩
  | cons a rest ih =>
    unfold storeAnswers at ok ⊢
    by_cases taken : answerStored responseId a s = true
    · rw [if_pos taken] at ok
      cases ok
    · rw [if_neg taken] at ok ⊢
      obtain ⟨choiceRoles, fresh, once⟩ := ih ok
      refine ⟨choiceRoles, List.forall_mem_cons.mpr ⟨Bool.eq_false_iff.mpr taken, fun b listed => ?_⟩, ?_⟩
      · exact (answerStored_storeAnswer (fresh b listed)).1
      · refine List.nodup_cons.mpr ⟨fun again => ?_, once⟩
        obtain ⟨b, listed, same⟩ := List.mem_map.mp again
        exact (answerStored_storeAnswer (fresh b listed)).2 same.symm

theorem applyRoles_applied {roles applied : List String} (ok : (applyRoles user roles s).2 = .ok applied) :
    applied = roles := by
  induction roles generalizing s applied with
  | nil =>
    cases ok
    rfl
  | cons role rest ih =>
    unfold applyRoles at ok
    cases accepted : checkAssign s.db user role with
    | error e =>
      rw [accepted] at ok
      cases ok
    | ok _ =>
      rw [accepted] at ok
      dsimp only at ok
      cases left : (applyRoles user rest (assignRole s user role)).2 with
      | error e =>
        rw [left] at ok
        cases ok
      | ok more =>
        rw [left] at ok
        cases ok
        rw [ih left]

variable {req : SubmitSurveyRequest} {now : Int} {response : SubmitSurveyResponse}

theorem submitChecks_ok (enabled : loadActivePublic s ONBOARDING = some form) {found : SurveyPublic}
    (ok : submitChecks s user req responseId = .ok found) : validateAnswers form req.answers = .ok () := by
  rw [submitChecks, enabled] at ok
  dsimp only at ok
  split at ok
  next => cases ok
  next =>
    cases valid : validateAnswers form req.answers with
    | error e =>
      rw [valid] at ok
      cases ok
    | ok _ => rfl

-- A submission that goes through has passed its checks, and applies every role of a counted choice.
theorem submitSurvey_ok (enabled : loadActivePublic s ONBOARDING = some form)
    (ok : (submitSurvey s user req responseId now).2 = .ok response) :
    validateAnswers form req.answers = .ok () ∧ (req.answers.map (·.questionId)).Nodup ∧
      response.appliedRoles = (countedChoices req.answers).flatMap (rolesOf s) := by
  unfold submitSurvey at ok
  cases checked : submitChecks s user req responseId with
  | error e =>
    rw [checked] at ok
    cases ok
  | ok found =>
    rw [checked] at ok
    dsimp only at ok
    have stored : (storeAnswers responseId req.answers (insertResponse s user req.surveyId responseId now)).2 = .ok () →
        Stored responseId (insertResponse s user req.surveyId responseId now)
          (storeAnswers responseId req.answers (insertResponse s user req.surveyId responseId now)).1 req.answers :=
      storeAnswers_stored
    generalize storeAnswers responseId req.answers (insertResponse s user req.surveyId responseId now) = result at ok stored
    obtain ⟨left, outcome⟩ := result
    cases outcome with
    | error e => cases ok
    | ok _ =>
      obtain ⟨choiceRoles, -, once⟩ := stored rfl
      refine ⟨submitChecks_ok enabled checked, once, ?_⟩
      have roles : (countedChoices req.answers).flatMap (rolesOf left) = (countedChoices req.answers).flatMap (rolesOf s) := by
        refine List.flatMap_congr fun choice _ => ?_
        rw [rolesOf, rolesOf, choiceRoles]
        rfl
      dsimp only at ok
      rw [roles] at ok
      have applied : ∀ given, (applyRoles user ((countedChoices req.answers).flatMap (rolesOf s)) left).2 = .ok given →
          given = (countedChoices req.answers).flatMap (rolesOf s) := fun _ => applyRoles_applied
      generalize applyRoles user ((countedChoices req.answers).flatMap (rolesOf s)) left = grants at ok applied
      obtain ⟨granted, outcome⟩ := grants
      cases outcome with
      | error e => cases ok
      | ok given =>
        cases ok
        exact applied given rfl

theorem forM_ok {check : SurveyQuestionPublic → Except HttpError Unit} {questions : List SurveyQuestionPublic}
    (ok : questions.forM check = .ok ()) : ∀ q ∈ questions, check q = .ok () := by
  induction questions with
  | nil => exact fun q listed => absurd listed List.not_mem_nil
  | cons first rest ih =>
    change (check first >>= fun _ => rest.forM check) = .ok () at ok
    cases passed : check first with
    | error e =>
      rw [passed] at ok
      cases ok
    | ok _ =>
      rw [passed] at ok
      exact List.forall_mem_cons.mpr ⟨passed, ih ok⟩

theorem validateAnswers_ok (valid : validateAnswers form answers = .ok ()) :
    (∀ a ∈ answers, ∃ q ∈ form.questions, q.id = a.questionId) ∧
      ∀ q ∈ form.questions, validateQuestion answers q = .ok () := by
  rw [validateAnswers] at valid
  cases stray : answers.find? fun a => !form.questions.any fun q => decide (q.id = a.questionId) with
  | some a =>
    rw [stray] at valid
    cases valid
  | none =>
    rw [stray] at valid
    refine ⟨fun a listed => ?_, forM_ok valid⟩
    have known := List.find?_eq_none.mp stray a listed
    simpa using known

theorem find_own {a : SurveyAnswerInput} (once : (answers.map (·.questionId)).Nodup) (listed : a ∈ answers) :
    (answers.find? fun b => decide (b.questionId = a.questionId)) = some a := by
  induction answers with
  | nil => exact absurd listed List.not_mem_nil
  | cons first rest ih =>
    rw [List.map_cons, List.nodup_cons] at once
    rcases List.mem_cons.mp listed with rfl | later
    · exact List.find?_cons_of_pos (decide_eq_true rfl)
    · have apart : first.questionId ≠ a.questionId := fun same =>
        once.1 (same ▸ List.mem_map_of_mem later)
      rw [List.find?_cons_of_neg (by simpa using apart)]
      exact ih once.2 later

-- The field that fits holds choices of the question alone.
theorem looked_offered {q : SurveyQuestionPublic} {a : SurveyAnswerInput} {done : Bool}
    (ok : answered q (some a) = .ok done) : ∀ choice ∈ looked q a, q.offered choice = true := by
  intro choice named
  rw [answered] at ok
  rw [looked] at named
  cases kind : q.kind with
  | text =>
    rw [kind] at named
    exact absurd named List.not_mem_nil
  | consent =>
    rw [kind] at named
    exact absurd named List.not_mem_nil
  | choice =>
    rw [kind] at ok named
    dsimp only at ok named
    rw [Option.mem_toList] at named
    rw [choiceAnswered, named] at ok
    by_contra unknown
    dsimp only at ok
    rw [if_neg unknown] at ok
    cases ok
  | multi =>
    rw [kind] at ok named
    dsimp only at ok named
    rw [multiAnswered] at ok
    by_contra unknown
    have stray : ((a.choiceIds.getD []).any fun id => !q.offered id) = true :=
      List.any_eq_true.mpr ⟨choice, named, by simpa using unknown⟩
    rw [if_pos stray] at ok
    cases ok

theorem offered_belongs (enabled : loadActivePublic s ONBOARDING = some form) {q : SurveyQuestionPublic}
    (asked : q ∈ form.questions) {choice : String} (offered : q.offered choice = true) : Belongs s choice q.id := by
  obtain ⟨survey, -, rfl⟩ := Option.map_eq_some_iff.mp enabled
  obtain ⟨question, -, rfl⟩ := List.mem_map.mp asked
  obtain ⟨choices, listed, found⟩ := (Option.any_eq_true _ _).mp offered
  obtain ⟨shown, member, same⟩ := List.any_eq_true.mp found
  simp only [questionPublic, Option.ite_none_right_eq_some, Option.some.injEq] at listed
  obtain ⟨-, rfl⟩ := listed
  obtain ⟨row, stored, rfl⟩ := List.mem_map.mp member
  obtain rfl := of_decide_eq_true same
  obtain ⟨present, own⟩ := List.mem_filter.mp ((List.mem_insertionSort _).mp stored)
  have entry := Std.ExtTreeMap.mem_toList_iff_getElem?_eq_some.mp present
  rw [Belongs, entry]
  exact own

theorem mem_countedChoices {choice : String} (plain : hasText answers ≠ true) :
    choice ∈ countedChoices answers ↔ ∃ a ∈ answers, choice ∈ a.named := by
  rw [countedChoices, if_neg plain]
  exact List.mem_flatMap

theorem mem_rolesOf {choice role : String} : role ∈ rolesOf s choice ↔ (choice, role) ∈ s.choiceRoles := by
  rw [rolesOf, List.mem_map]
  constructor
  · rintro ⟨⟨named, role⟩, listed, rfl⟩
    obtain ⟨mapped, same⟩ := List.mem_filter.mp listed
    obtain rfl := of_decide_eq_true same
    exact mapped
  · exact fun mapped => ⟨(choice, role), List.mem_filter.mpr ⟨mapped, decide_eq_true rfl⟩, rfl⟩

theorem countedChoices_text (text : hasText answers = true) : countedChoices answers = [] := by
  rw [countedChoices, if_pos text]

theorem withinKind_zero (q : SurveyQuestionPublic) : WithinKind q 0 := by
  unfold WithinKind
  cases q.kind with
  | text => rfl
  | consent => rfl
  | choice => exact Nat.zero_le 1
  | multi => exact .inl rfl

-- What no field lets slip is a choice of its own question.
theorem looked_picked (enabled : loadActivePublic s ONBOARDING = some form)
    (valid : validateAnswers form answers = .ok ())
    (once : (answers.map (·.questionId)).Nodup) {a : SurveyAnswerInput} (listed : a ∈ answers) {choice : String}
    (named : choice ∈ a.named) (clear : ¬ Slipped form a choice) :
    ∃ q ∈ form.questions, Belongs s choice q.id ∧ Picked answers q.id choice := by
  have seen : ∃ q ∈ form.questions, q.id = a.questionId ∧ choice ∈ looked q a := by
    by_contra missed
    exact clear ⟨named, fun q asked own seen => missed ⟨q, asked, own, seen⟩⟩
  obtain ⟨q, asked, own, seen⟩ := seen
  have checked := (validateAnswers_ok valid).2 q asked
  rw [validateQuestion, own, find_own once listed] at checked
  cases answer : answered q (some a) with
  | error e =>
    rw [answer] at checked
    cases checked
  | ok done =>
    have offered := looked_offered answer choice seen
    exact ⟨q, asked, offered_belongs enabled asked offered, a, listed, own.symm, named⟩

/-- The form is honest for an accepted submission exactly when the fields that are not looked at add nothing to it. -/
theorem submit_honest_iff (enabled : loadActivePublic s ONBOARDING = some form)
    (ok : (submitSurvey s user req responseId now).2 = .ok response) :
    Honest s form req.answers response.appliedRoles ↔ hasText req.answers = true ∨ Fitting s form req.answers := by
  obtain ⟨valid, once, applied⟩ := submitSurvey_ok enabled ok
  rw [applied]
  by_cases text : hasText req.answers = true
  · refine iff_of_true ⟨?_, fun q _ => ?_⟩ (.inl text)
    · rw [countedChoices_text text]
      exact fun role granted => absurd granted List.not_mem_nil
    · have none : countedOf s req.answers q.id = ∅ := by
        rw [countedOf, countedChoices_text text]
        rfl
      rw [none]
      exact withinKind_zero q
  · have counted : countedChoices req.answers = req.answers.flatMap (·.named) := by rw [countedChoices, if_neg text]
    constructor
    · rintro ⟨earned, within⟩
      refine .inr ⟨fun a listed choice slip role mapped => ?_, fun q asked => ?_⟩
      · have granted : role ∈ (countedChoices req.answers).flatMap (rolesOf s) :=
          List.mem_flatMap.mpr ⟨choice, (mem_countedChoices text).mpr ⟨a, listed, slip.1⟩, mem_rolesOf.mpr mapped⟩
        exact earned role granted
      · have held := within q asked
        rwa [countedOf, counted] at held
    · rintro (text' | ⟨slipped, within⟩)
      · exact absurd text' text
      · refine ⟨fun role granted => ?_, fun q asked => ?_⟩
        · obtain ⟨choice, chosen, given⟩ := List.mem_flatMap.mp granted
          obtain ⟨a, listed, named⟩ := (mem_countedChoices text).mp chosen
          have mapped := mem_rolesOf.mp given
          by_cases slip : Slipped form a choice
          · exact slipped a listed choice slip role mapped
          · obtain ⟨q, asked, own, picked⟩ := looked_picked enabled valid once listed named slip
            exact ⟨q, asked, choice, mapped, own, picked⟩
        · rw [countedOf, counted]
          exact within q asked

end

-- A form that lets one of two teams be picked, with a role for each.
def teams : State where
  db :=
    { users := (∅ : Table User).insert "newcomer" {}
      roles := ((∅ : Table Role).insert "reds" { name := "Reds" }).insert "blues" { name := "Blues" } }
  surveys := (∅ : Table SurveyRow).insert "form" { enabled := true, updatedAt := 0, purpose := ONBOARDING }
  questions := (∅ : Table QuestionRow).insert "team"
    { surveyId := "form", prompt := "Your team?", kind := .choice, required := true, displayOrder := 0 }
  choices := ((∅ : Table ChoiceRow).insert "red" { questionId := "team", label := "Red", displayOrder := 0 }).insert "blue"
    { questionId := "team", label := "Blue", displayOrder := 1 }
  choiceRoles := [("red", "reds"), ("blue", "blues")]

def teamQuestion : SurveyQuestionPublic where
  id := "team"
  prompt := "Your team?"
  kind := .choice
  required := true
  displayOrder := 0
  help := none
  multiline := false
  maxLen := none
  minChoices := none
  maxChoices := none
  choices := some
    [{ id := "red", label := "Red", displayOrder := 0 }, { id := "blue", label := "Blue", displayOrder := 1 }]

def teamForm : SurveyPublic := { id := "form", questions := [teamQuestion] }

def redOnly : SubmitSurveyRequest := { surveyId := "form", answers := [{ questionId := "team", choiceId := some "red" }] }

theorem submit_honest_iff_red :
    Honest teams teamForm redOnly.answers ["reds"] ↔ hasText redOnly.answers = true ∨
    Fitting teams teamForm redOnly.answers := by
  have ok : (submitSurvey teams "newcomer" redOnly "r1" 5).2 =
      .ok { nextState := "approved", appliedRoles := ["reds"] } := by decide
  exact submit_honest_iff (by decide) ok

-- The list that belongs to a multiple choice rides along with the one team picked.
theorem both_teams :
    ¬ ∀ (s : State) (user : String) (req : SubmitSurveyRequest) (responseId : String) (now : Int) (form : SurveyPublic)
      (response : SubmitSurveyResponse), loadActivePublic s ONBOARDING = some form →
      (submitSurvey s user req responseId now).2 = .ok response → Honest s form req.answers response.appliedRoles := by
  intro always
  have honest := always teams "newcomer"
    { surveyId := "form", answers := [{ questionId := "team", choiceId := some "red", choiceIds := some ["blue"] }] }
    "r1" 5 teamForm { nextState := "approved", appliedRoles := ["reds", "blues"] } (by decide) (by decide)
  have one := honest.within teamQuestion (List.mem_singleton.mpr rfl)
  exact absurd one (by decide)

end Wavvon.Surveys
