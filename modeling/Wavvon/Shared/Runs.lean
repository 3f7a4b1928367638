import Mathlib.Data.List.Chain
import Mathlib.Data.List.Infix

set_option autoImplicit false

namespace Runs

variable {S A : Type} {step : S → A → S}

-- Every handler runs to completion, so a run is a left fold of its step function.
def run (step : S → A → S) (s : S) (acts : List A) : S :=
  acts.foldl step s

@[simp] theorem run_nil (s : S) : run step s [] = s := rfl

@[simp] theorem run_cons (s : S) (a : A) (rest : List A) :
    run step s (a :: rest) = run step (step s a) rest := rfl

theorem run_append (s : S) (front back : List A) :
    run step s (front ++ back) = run step (run step s front) back :=
  List.foldl_append

theorem run_invariant (inv : S → Prop) (keeps : ∀ s a, inv s → inv (step s a))
    (s : S) (initial : inv s) (acts : List A) : inv (run step s acts) := by
  induction acts generalizing s with
  | nil => exact initial
  | cons a rest ih => exact ih (step s a) (keeps s a initial)

-- Each action of the list meets the condition in the state it is taken from.
def Meets (step : S → A → S) (cond : S → A → Prop) : S → List A → Prop
  | _, [] => True
  | s, a :: rest => cond s a ∧ Meets step cond (step s a) rest

instance instDecidableMeets {cond : S → A → Prop} [∀ s a, Decidable (cond s a)] :
    (s : S) → (acts : List A) → Decidable (Meets step cond s acts)
  | _, [] => inferInstanceAs (Decidable True)
  | s, a :: rest =>
    have : Decidable (Meets step cond (step s a) rest) := instDecidableMeets (step s a) rest
    inferInstanceAs (Decidable (cond s a ∧ Meets step cond (step s a) rest))

theorem Meets.append {cond : S → A → Prop} {s : S} {front back : List A} :
    Meets step cond s (front ++ back) ↔
      Meets step cond s front ∧ Meets step cond (run step s front) back := by
  induction front generalizing s with
  | nil => simp [Meets]
  | cons a rest ih => simp [Meets, ih, and_assoc]

theorem meets_iff {cond : S → A → Prop} {s : S} {acts : List A} :
    Meets step cond s acts ↔
      ∀ front a, front ++ [a] <+: acts → cond (run step s front) a := by
  induction acts generalizing s with
  | nil => simp [Meets]
  | cons first rest ih =>
    rw [Meets, ih]
    constructor
    · rintro ⟨met, later⟩ front a before
      cases front with
      | nil =>
        obtain ⟨rfl, _⟩ := List.cons_prefix_cons.mp before
        exact met
      | cons b front =>
        obtain ⟨rfl, inside⟩ := List.cons_prefix_cons.mp before
        exact later front a inside
    · intro always
      refine ⟨always [] first (by simp), ?_⟩
      intro front a inside
      exact always (first :: front) a (List.cons_prefix_cons.mpr ⟨rfl, inside⟩)

theorem meets_and {first second : S → A → Prop} {s : S} {acts : List A} :
    Meets step first s acts ∧ Meets step second s acts ↔ Meets step (fun s a => first s a ∧ second s a) s acts := by
  induction acts generalizing s with
  | nil => simp [Meets]
  | cons a rest ih => simp only [Meets, ← ih, and_and_and_comm]

theorem Meets.invariant {cond : S → A → Prop} (inv : S → Prop)
    (keeps : ∀ s a, inv s → cond s a → inv (step s a))
    {s : S} (initial : inv s) {acts : List A} (met : Meets step cond s acts) :
    inv (run step s acts) := by
  induction acts generalizing s with
  | nil => exact initial
  | cons a rest ih => exact ih (keeps s a initial met.1) met.2

-- An invariant of the history so far, not of the state alone.
theorem Meets.along {cond : S → A → Prop} {s : S} (inv : List A → Prop) (initial : inv [])
    (keeps : ∀ front a, inv front → cond (run step s front) a → inv (front ++ [a])) {acts : List A}
    (met : Meets step cond s acts) : inv acts := by
  induction acts using List.reverseRecOn with
  | nil => exact initial
  | append_singleton front a ih =>
    obtain ⟨metFront, last⟩ := Meets.append.mp met
    exact keeps front a (ih metFront) last.1

-- A relation each met step climbs is climbed by the whole run.
theorem Meets.climbs {cond : S → A → Prop} (inv : S → Prop) (rel : S → S → Prop)
    (refl : ∀ s, rel s s) (trans : ∀ {s t u}, rel s t → rel t u → rel s u)
    (keeps : ∀ s a, inv s → cond s a → inv (step s a))
    (up : ∀ s a, inv s → cond s a → rel s (step s a))
    {s : S} (initial : inv s) {acts : List A} (met : Meets step cond s acts) :
    rel s (run step s acts) := by
  induction acts generalizing s with
  | nil => exact refl s
  | cons a rest ih => exact trans (up s a initial met.1) (ih (keeps s a initial met.1) met.2)

theorem Meets.mono {first second : S → A → Prop} (inv : S → Prop) (keeps : ∀ s a, inv s → inv (step s a))
    (weaker : ∀ s a, inv s → first s a → second s a)
    {s : S} (initial : inv s) {acts : List A} (met : Meets step first s acts) : Meets step second s acts := by
  induction acts generalizing s with
  | nil => trivial
  | cons a rest ih => exact ⟨weaker s a initial met.1, ih (keeps s a initial) met.2⟩

theorem meets_congr {first second : S → A → Prop} (inv : S → Prop)
    (keeps : ∀ s a, inv s → inv (step s a))
    (same : ∀ s a, inv s → (first s a ↔ second s a))
    {s : S} (initial : inv s) (acts : List A) :
    Meets step first s acts ↔ Meets step second s acts := by
  induction acts generalizing s with
  | nil => exact Iff.rfl
  | cons a rest ih =>
    exact and_congr (same s a initial) (ih (keeps s a initial))

theorem meets_congr_within {allowed first second : S → A → Prop}
    (same : ∀ s a, allowed s a → (first s a ↔ second s a))
    {s : S} {acts : List A} (within : Meets step allowed s acts) :
    Meets step first s acts ↔ Meets step second s acts := by
  induction acts generalizing s with
  | nil => exact Iff.rfl
  | cons a rest ih => exact and_congr (same s a within.1) (ih within.2)

/--
A property that holds in every state of a run exactly when the run's steps all meet the
condition: met steps keep the invariant behind the property, an unmet step breaks it. Only
steps allowed in their state are considered.
-/
theorem always_iff_meets_within {cond allowed : S → A → Prop} (inv good : S → Prop)
    (enough : ∀ s, inv s → good s)
    (keeps : ∀ s a, inv s → allowed s a → cond s a → inv (step s a))
    (breaks : ∀ s a, inv s → allowed s a → ¬ cond s a → ¬ good (step s a))
    {s : S} (initial : inv s) (acts : List A) (within : Meets step allowed s acts) :
    (∀ front, front <+: acts → good (run step s front)) ↔ Meets step cond s acts := by
  induction acts generalizing s with
  | nil =>
    constructor
    · intro _
      trivial
    · intro _ front before
      rw [List.prefix_nil.mp before]
      exact enough s initial
  | cons a rest ih =>
    constructor
    · intro always
      have met : cond s a := by
        by_contra unmet
        exact breaks s a initial within.1 unmet (always [a] (by simp))
      refine ⟨met, (ih (keeps s a initial within.1 met) within.2).mp ?_⟩
      intro front before
      exact always (a :: front) (List.cons_prefix_cons.mpr ⟨rfl, before⟩)
    · rintro ⟨met, later⟩ front before
      cases front with
      | nil => exact enough s initial
      | cons b front =>
        obtain ⟨rfl, inside⟩ := List.cons_prefix_cons.mp before
        exact (ih (keeps s b initial within.1 met) within.2).mpr later front inside

theorem meets_of_forall {cond : S → A → Prop} {acts : List A} (always : ∀ s, ∀ a ∈ acts, cond s a)
    (s : S) : Meets step cond s acts := by
  induction acts generalizing s with
  | nil => trivial
  | cons a rest ih =>
    refine ⟨always s a List.mem_cons_self, ih ?_ (step s a)⟩
    intro t b member
    exact always t b (List.mem_cons_of_mem a member)

theorem always_iff_meets {cond : S → A → Prop} (inv good : S → Prop)
    (enough : ∀ s, inv s → good s)
    (keeps : ∀ s a, inv s → cond s a → inv (step s a))
    (breaks : ∀ s a, inv s → ¬ cond s a → ¬ good (step s a))
    {s : S} (initial : inv s) (acts : List A) :
    (∀ front, front <+: acts → good (run step s front)) ↔ Meets step cond s acts :=
  always_iff_meets_within inv good enough (fun s a held _ => keeps s a held)
    (fun s a held _ => breaks s a held) initial acts
    (meets_of_forall (fun _ _ _ => trivial) s)

/--
States that stay good and steps that are fair: a run has only these exactly when its steps all meet
the condition.
-/
theorem good_fair_iff_meets {cond : S → A → Prop} (inv good : S → Prop) (fair : S → A → Prop)
    (enough : ∀ s, inv s → good s)
    (keeps : ∀ s a, inv s → cond s a → inv (step s a) ∧ fair s a)
    (breaks : ∀ s a, inv s → ¬ cond s a → ¬ (good (step s a) ∧ fair s a))
    {s : S} (initial : inv s) (acts : List A) :
    ((∀ front, front <+: acts → good (run step s front)) ∧ Meets step fair s acts) ↔
      Meets step cond s acts := by
  induction acts generalizing s with
  | nil =>
    refine iff_of_true ⟨?_, trivial⟩ trivial
    intro front before
    rw [List.prefix_nil.mp before]
    exact enough s initial
  | cons a rest ih =>
    constructor
    · rintro ⟨always, fairHere, fairLater⟩
      have met : cond s a := by
        by_contra unmet
        exact breaks s a initial unmet ⟨always [a] (by simp), fairHere⟩
      refine ⟨met, (ih (keeps s a initial met).1).mp ⟨?_, fairLater⟩⟩
      intro front before
      exact always (a :: front) (List.cons_prefix_cons.mpr ⟨rfl, before⟩)
    · rintro ⟨met, later⟩
      obtain ⟨held, fairHere⟩ := keeps s a initial met
      obtain ⟨always, fairLater⟩ := (ih held).mpr later
      refine ⟨?_, fairHere, fairLater⟩
      intro front before
      cases front with
      | nil => exact enough s initial
      | cons b front =>
        obtain ⟨rfl, inside⟩ := List.cons_prefix_cons.mp before
        exact always front inside

-- Some step of the run started it, and no later step ended it.
def Since (step : S → A → S) (starts ends : S → A → Prop) (s : S) (acts : List A) : Prop :=
  ∃ before a after, acts = before ++ a :: after ∧ starts (run step s before) a ∧
    ∀ mid b rest, after = mid ++ b :: rest → ¬ ends (run step s (before ++ a :: mid)) b

theorem since_concat {starts ends : S → A → Prop} (s : S) (acts : List A) (a : A) :
    Since step starts ends s (acts ++ [a]) ↔
      starts (run step s acts) a ∨
        (Since step starts ends s acts ∧ ¬ ends (run step s acts) a) := by
  constructor
  · rintro ⟨before, b, after, split, started, kept⟩
    rcases List.eq_nil_or_concat after with rfl | ⟨front, last, rfl⟩
    · obtain ⟨rfl, same⟩ := List.append_inj' split rfl
      cases same
      exact .inl started
    · rw [List.concat_eq_append, ← List.cons_append, ← List.append_assoc] at split
      obtain ⟨rfl, same⟩ := List.append_inj' split rfl
      cases same
      refine .inr ⟨⟨before, b, front, rfl, started, ?_⟩, kept front a [] (by simp)⟩
      intro mid c rest inside
      exact kept mid c (rest ++ [a]) (by simp [inside])
  · rintro (started | ⟨⟨before, b, after, rfl, started, kept⟩, goesOn⟩)
    · exact ⟨acts, a, [], rfl, started, by simp⟩
    · refine ⟨before, b, after ++ [a], by simp, started, ?_⟩
      intro mid c rest split
      rcases List.eq_nil_or_concat rest with rfl | ⟨front, last, rfl⟩
      · obtain ⟨rfl, same⟩ := List.append_inj' split rfl
        cases same
        exact goesOn
      · rw [List.concat_eq_append, ← List.cons_append, ← List.append_assoc] at split
        exact kept mid c front (List.append_inj' split rfl).1

/--
A condition that is switched on by the starting steps and off by the ending ones holds at the end
of a run exactly when some step started it and none has ended it since.
-/
theorem holds_iff_since {starts ends : S → A → Prop} (holds : S → Prop)
    (stepwise : ∀ s a, holds (step s a) ↔ starts s a ∨ (holds s ∧ ¬ ends s a))
    {s : S} (initial : ¬ holds s) (acts : List A) :
    holds (run step s acts) ↔ Since step starts ends s acts := by
  induction acts using List.reverseRecOn with
  | nil =>
    refine iff_of_false initial ?_
    rintro ⟨before, a, after, split, _⟩
    simp at split
  | append_singleton front a ih =>
    rw [since_concat, ← ih, run_append, run_cons, run_nil]
    exact stepwise (run step s front) a

end Runs

namespace Alternation

-- Switchings on and off, oldest first: the first one is on and neighbours differ.
def Alternates (switches : List Bool) : Prop :=
  switches.head? ≠ some false ∧ switches.IsChain (· ≠ ·)

def lastOn (switches : List Bool) : Bool :=
  switches.getLast?.getD false

@[simp] theorem alternates_nil : Alternates [] := by
  simp [Alternates]

@[simp] theorem lastOn_nil : lastOn [] = false := rfl

@[simp] theorem lastOn_append (switches : List Bool) (switch : Bool) :
    lastOn (switches ++ [switch]) = switch := by
  simp [lastOn]

theorem alternates_append (switches : List Bool) (switch : Bool) :
    Alternates (switches ++ [switch]) ↔ Alternates switches ∧ lastOn switches ≠ switch := by
  cases switches with
  | nil => cases switch <;> simp [Alternates, lastOn]
  | cons first rest =>
    obtain ⟨last, found⟩ : ∃ last, (first :: rest).getLast? = some last :=
      ⟨_, List.getLast?_eq_some_getLast (List.cons_ne_nil first rest)⟩
    have chained : ((first :: rest) ++ [switch]).IsChain (· ≠ ·) ↔
        (first :: rest).IsChain (· ≠ ·) ∧ last ≠ switch := by
      rw [List.isChain_append, found]
      simp
    have same : ((first :: rest) ++ [switch]).head? = (first :: rest).head? := rfl
    rw [Alternates, Alternates, chained, same, lastOn, found, Option.getD_some, and_assoc]

-- The log of a switch that stands where its last entry left it.
def Follows (switches : List Bool) (on : Prop) : Prop :=
  Alternates switches ∧ (lastOn switches = true ↔ on)

theorem follows_append {switches : List Bool} {was : Prop} (follows : Follows switches was)
    (switch : Bool) (on : Prop) :
    Follows (switches ++ [switch]) on ↔ (was ↔ switch = false) ∧ (on ↔ switch = true) := by
  obtain ⟨alternates, last⟩ := follows
  rw [Follows, alternates_append, lastOn_append, ← last]
  cases switch <;> cases lastOn switches <;> simp [alternates, eq_comm]

end Alternation
