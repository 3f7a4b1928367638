import Mathlib.Data.List.Lex
import Mathlib.Data.Nat.Init
import Mathlib.Logic.Function.Iterate
import Mathlib.Order.Monotone.Basic
import Mathlib.Tactic.Common
import Mathlib.Tactic.IntervalCases

set_option autoImplicit false

namespace Gregorian

/-! The calendar by its own rule, a second after the other, and the day number of a date. -/

def IsLeap (year : Nat) : Prop := 4 ∣ year ∧ (¬ 100 ∣ year ∨ 400 ∣ year)

instance (year : Nat) : Decidable (IsLeap year) := inferInstanceAs (Decidable (_ ∧ _))

def monthLength (year month : Nat) : Nat :=
  if month = 2 then if IsLeap year then 29 else 28
  else if month = 4 ∨ month = 6 ∨ month = 9 ∨ month = 11 then 30 else 31

structure Date where
  year : Nat
  month : Nat
  day : Nat
  deriving DecidableEq, Repr

structure Date.Valid (date : Date) : Prop where
  month : 1 ≤ date.month ∧ date.month ≤ 12
  day : 1 ≤ date.day ∧ date.day ≤ monthLength date.year date.month

def Date.next (date : Date) : Date :=
  if date.day < monthLength date.year date.month then { date with day := date.day + 1 }
  else if date.month < 12 then { date with month := date.month + 1, day := 1 }
  else { year := date.year + 1, month := 1, day := 1 }

structure Moment extends Date where
  hour : Nat
  minute : Nat
  second : Nat
  deriving DecidableEq, Repr

structure Moment.Valid (moment : Moment) : Prop where
  date : moment.toDate.Valid
  hour : moment.hour < 24
  minute : moment.minute < 60
  second : moment.second < 60

def Moment.next (moment : Moment) : Moment :=
  if moment.second < 59 then { moment with second := moment.second + 1 }
  else if moment.minute < 59 then { moment with minute := moment.minute + 1, second := 0 }
  else if moment.hour < 23 then { moment with hour := moment.hour + 1, minute := 0, second := 0 }
  else { toDate := moment.toDate.next, hour := 0, minute := 0, second := 0 }

def epoch : Moment := { year := 1970, month := 1, day := 1, hour := 0, minute := 0, second := 0 }

/-- The moment so many seconds after 1970-01-01T00:00:00. -/
def since (seconds : Nat) : Moment := Moment.next^[seconds] epoch

def Moment.fields (moment : Moment) : List Nat :=
  [moment.year, moment.month, moment.day, moment.hour, moment.minute, moment.second]

-- Years, months and days from March on, so that a leap day is the last of its year.
def Date.marchYear (date : Date) : Int := if date.month ≤ 2 then (date.year : Int) - 1 else date.year

def Date.marchMonth (date : Date) : Nat := if date.month ≤ 2 then date.month + 9 else date.month - 3

def Date.marchDay (date : Date) : Nat := (153 * date.marchMonth + 2) / 5 + date.day - 1

/-- Days from 1970-01-01 to a date, by cycles of 400 years. -/
def daysFromCivil (date : Date) : Int :=
  let era := date.marchYear / 400
  let yearOfEra := date.marchYear - era * 400
  let dayOfEra := yearOfEra * 365 + yearOfEra / 4 - yearOfEra / 100 + date.marchDay
  era * 146097 + dayOfEra - 719468

def secondsFromCivil (moment : Moment) : Int :=
  daysFromCivil moment.toDate * 86400 + moment.hour * 3600 + moment.minute * 60 + moment.second

-- The days before the first of March of a year.
def yearStart (year : Int) : Int := 365 * year + year / 4 - year / 100 + year / 400

theorem daysFromCivil_eq (date : Date) :
    daysFromCivil date = yearStart date.marchYear + date.marchDay - 719468 := by
  dsimp only [daysFromCivil, yearStart]
  omega

theorem yearStart_succ (year : Nat) :
    yearStart year = yearStart ((year : Int) - 1) + if IsLeap year then 366 else 365 := by
  split
  next leap =>
    obtain ⟨fourth, rest⟩ := leap
    unfold yearStart
    omega
  next common =>
    have : ¬ 4 ∣ year ∨ 100 ∣ year ∧ ¬ 400 ∣ year := by
      unfold IsLeap at common
      omega
    unfold yearStart
    omega

theorem yearStart_mono {year later : Int} (order : year ≤ later) : yearStart year ≤ yearStart later := by
  unfold yearStart
  omega

theorem monthLength_bounds (year month : Nat) : 28 ≤ monthLength year month ∧ monthLength year month ≤ 31 := by
  unfold monthLength
  split_ifs <;> omega

section

variable {date other : Date}

theorem Date.Valid.next (valid : date.Valid) : date.next.Valid := by
  obtain ⟨⟨first, last⟩, one, inside⟩ := valid
  have start (year month : Nat) : 1 ≤ monthLength year month := (monthLength_bounds year month).1.trans' (by decide)
  unfold Date.next
  split_ifs with more less
  · exact ⟨⟨first, last⟩, Nat.succ_pos _, more⟩
  · exact ⟨⟨Nat.succ_pos _, less⟩, Nat.le_refl 1, start _ _⟩
  · exact ⟨⟨Nat.le_refl 1, Nat.succ_pos 11⟩, Nat.le_refl 1, start _ _⟩

-- From March to January a month takes what the formula gives it; February is the last of its year.
theorem monthLength_inner (valid : date.Valid) (inner : date.month ≠ 2) :
    (153 * date.marchMonth + 2) / 5 + monthLength date.year date.month = (153 * (date.marchMonth + 1) + 2) / 5 := by
  obtain ⟨⟨first, last⟩, -⟩ := valid
  obtain ⟨year, month, day⟩ := date
  dsimp only at first last inner
  unfold Date.marchMonth monthLength
  interval_cases month <;> simp at inner ⊢

theorem marchYear_february (month : date.month = 2) : date.marchYear = date.year - 1 := by
  rw [Date.marchYear, month, if_pos (Nat.le_refl 2)]

theorem marchDay_february (valid : date.Valid) (month : date.month = 2) : date.marchDay = 336 + date.day := by
  have := valid.day.1
  rw [Date.marchDay, Date.marchMonth, month, if_pos (Nat.le_refl 2)]
  omega

theorem marchDay_inner (valid : date.Valid) (inner : date.month ≠ 2) :
    date.marchDay < (153 * (date.marchMonth + 1) + 2) / 5 ∧ date.marchMonth ≤ 10 := by
  have upto := monthLength_inner valid inner
  obtain ⟨⟨first, last⟩, one, inside⟩ := valid
  refine ⟨?_, ?_⟩
  · unfold Date.marchDay
    omega
  · unfold Date.marchMonth
    split_ifs <;> omega

-- A date lies within its year from March to February.
theorem marchDay_within (valid : date.Valid) :
    yearStart date.marchYear + date.marchDay < yearStart (date.marchYear + 1) := by
  by_cases month : date.month = 2
  · have last : date.day ≤ if IsLeap date.year then 29 else 28 := by
      have := valid.day.2
      rwa [monthLength, if_pos month] at this
    rw [marchYear_february month, marchDay_february valid month, Int.sub_add_cancel, yearStart_succ]
    split_ifs at last ⊢ <;> omega
  · obtain ⟨inside, inner⟩ := marchDay_inner valid month
    unfold yearStart
    omega

theorem next_inner (valid : date.Valid) (inner : date.month ≠ 2) :
    date.next.marchYear = date.marchYear ∧ date.next.marchDay = date.marchDay + 1 := by
  have upto := monthLength_inner valid inner
  obtain ⟨⟨first, last⟩, one, inside⟩ := valid
  obtain ⟨year, month, day⟩ := date
  unfold Date.next Date.marchYear Date.marchDay Date.marchMonth at *
  dsimp only at *
  split_ifs at * <;> dsimp only at * <;> omega

-- The day after a last of February opens the next year.
theorem next_february (valid : date.Valid) (month : date.month = 2) :
    yearStart date.next.marchYear + date.next.marchDay = yearStart date.marchYear + (date.marchDay + 1) := by
  have length : monthLength date.year date.month = if IsLeap date.year then 29 else 28 := by
    rw [monthLength, if_pos month]
  have here := marchYear_february month
  have today := marchDay_february valid month
  obtain ⟨one, inside⟩ := valid.day
  by_cases more : date.day < monthLength date.year date.month
  · have next : date.next = { date with day := date.day + 1 } := if_pos more
    have sameYear : date.next.marchYear = date.marchYear := by rw [next]; rfl
    have nextDay : date.next.day = date.day + 1 := by rw [next]
    rw [sameYear, marchDay_february valid.next (by rw [next]; exact month), today, nextDay]
    rfl
  · have next : date.next = { date with month := date.month + 1, day := 1 } := by
      rw [Date.next, if_neg more, if_pos (by omega)]
    have nextYear : date.next.marchYear = date.year := by
      rw [next, Date.marchYear, month]
      rfl
    have nextDay : date.next.marchDay = 0 := by
      rw [next, Date.marchDay, Date.marchMonth, month]
      simp
    rw [nextYear, nextDay, here, today, yearStart_succ]
    rw [length] at more inside
    split_ifs at * <;> omega

theorem daysFromCivil_next (valid : date.Valid) : daysFromCivil date.next = daysFromCivil date + 1 := by
  rw [daysFromCivil_eq, daysFromCivil_eq]
  by_cases month : date.month = 2
  · have := next_february valid month
    omega
  · obtain ⟨sameYear, nextDay⟩ := next_inner valid month
    rw [sameYear, nextDay]
    omega

-- The first days of the months, from March on, are apart by more than a month has.
theorem marchDay_inj (valid : date.Valid) (right : other.Valid) (same : date.marchDay = other.marchDay) :
    date.marchMonth = other.marchMonth ∧ date.day = other.day := by
  have upto {d : Date} (valid : d.Valid) : (153 * d.marchMonth + 2) / 5 ≤ d.marchDay ∧
      (d.marchDay < (153 * (d.marchMonth + 1) + 2) / 5 ∨ d.marchMonth = 11) ∧ d.marchMonth ≤ 11 ∧
      d.marchDay + 1 = (153 * d.marchMonth + 2) / 5 + d.day := by
    have one := valid.day.1
    refine ⟨?_, ?_, ?_, ?_⟩
    · unfold Date.marchDay
      omega
    · by_cases month : d.month = 2
      · exact .inr (by rw [Date.marchMonth, month, if_pos (Nat.le_refl 2)])
      · exact .inl (marchDay_inner valid month).1
    · have := valid.month.2
      unfold Date.marchMonth
      split_ifs <;> omega
    · unfold Date.marchDay
      omega
  obtain ⟨begun, ended, last, day⟩ := upto valid
  obtain ⟨begun', ended', last', day'⟩ := upto right
  have month : date.marchMonth = other.marchMonth := by
    rcases Nat.lt_trichotomy date.marchMonth other.marchMonth with less | equal | more
    · have : (153 * (date.marchMonth + 1) + 2) / 5 ≤ (153 * other.marchMonth + 2) / 5 :=
        Nat.div_le_div_right (by omega)
      omega
    · exact equal
    · have : (153 * (other.marchMonth + 1) + 2) / 5 ≤ (153 * date.marchMonth + 2) / 5 :=
        Nat.div_le_div_right (by omega)
      omega
  refine ⟨month, ?_⟩
  rw [month] at day
  omega

theorem daysFromCivil_inj (valid : date.Valid) (right : other.Valid)
    (same : daysFromCivil date = daysFromCivil other) : date = other := by
  rw [daysFromCivil_eq, daysFromCivil_eq] at same
  have before := marchDay_within valid
  have after := marchDay_within right
  have year : date.marchYear = other.marchYear := by
    rcases Int.lt_trichotomy date.marchYear other.marchYear with less | equal | more
    · have := yearStart_mono (Int.add_one_le_of_lt less)
      omega
    · exact equal
    · have := yearStart_mono (Int.add_one_le_of_lt more)
      omega
  rw [year] at same
  obtain ⟨month, day⟩ := marchDay_inj valid right (by omega)
  have first := valid.month
  have second := right.month
  obtain ⟨y, m, d⟩ := date
  obtain ⟨y', m', d'⟩ := other
  unfold Date.marchYear at year
  unfold Date.marchMonth at month
  dsimp only at *
  have months : m = m' := by split_ifs at month <;> omega
  have years : y = y' := by
    rw [months] at year
    split_ifs at year <;> omega
  rw [months, years, day]

end

section

variable {moment other : Moment}

theorem Moment.Valid.next (valid : moment.Valid) : moment.next.Valid := by
  obtain ⟨date, hour, minute, second⟩ := valid
  unfold Moment.next
  split_ifs with seconds minutes hours
  · exact ⟨date, hour, minute, Nat.succ_lt_succ seconds⟩
  · exact ⟨date, hour, Nat.succ_lt_succ minutes, Nat.succ_pos 59⟩
  · exact ⟨date, Nat.succ_lt_succ hours, Nat.succ_pos 59, Nat.succ_pos 59⟩
  · exact ⟨date.next, Nat.succ_pos 23, Nat.succ_pos 59, Nat.succ_pos 59⟩

theorem secondsFromCivil_next (valid : moment.Valid) :
    secondsFromCivil moment.next = secondsFromCivil moment + 1 := by
  have day := daysFromCivil_next valid.date
  obtain ⟨-, hour, minute, second⟩ := valid
  unfold Moment.next secondsFromCivil
  split_ifs <;> dsimp only <;> omega

theorem secondsFromCivil_inj (valid : moment.Valid) (right : other.Valid)
    (same : secondsFromCivil moment = secondsFromCivil other) : moment = other := by
  have date : moment.toDate = other.toDate := by
    apply daysFromCivil_inj valid.date right.date
    obtain ⟨-, hour, minute, second⟩ := valid
    obtain ⟨-, hour', minute', second'⟩ := right
    unfold secondsFromCivil at same
    omega
  obtain ⟨-, hour, minute, second⟩ := valid
  obtain ⟨-, hour', minute', second'⟩ := right
  obtain ⟨_, h, m, s⟩ := moment
  obtain ⟨_, h', m', s'⟩ := other
  unfold secondsFromCivil at same
  dsimp only at *
  subst date
  obtain rfl : h = h' := by omega
  obtain rfl : m = m' := by omega
  obtain rfl : s = s' := by omega
  rfl

theorem since_succ (seconds : Nat) : since (seconds + 1) = (since seconds).next :=
  Function.iterate_succ_apply' Moment.next seconds epoch

theorem since_valid (seconds : Nat) : (since seconds).Valid := by
  induction seconds with
  | zero => exact ⟨⟨by decide, by decide⟩, by decide, by decide, by decide⟩
  | succ seconds ih =>
    rw [since_succ]
    exact ih.next

theorem secondsFromCivil_since (seconds : Nat) : secondsFromCivil (since seconds) = seconds := by
  induction seconds with
  | zero => decide
  | succ seconds ih =>
    rw [since_succ, secondsFromCivil_next (since_valid seconds), ih, Nat.cast_succ]

/-- A valid moment is the one that its number of seconds leads to. -/
theorem eq_since (valid : moment.Valid) {seconds : Nat} (number : secondsFromCivil moment = seconds) :
    moment = since seconds :=
  secondsFromCivil_inj valid (since_valid seconds) (number.trans (secondsFromCivil_since seconds).symm)

theorem fields_next (moment : Moment) : moment.fields < moment.next.fields := by
  unfold Moment.next Date.next Moment.fields
  simp only [List.cons_lt_cons_iff]
  split_ifs <;> dsimp only <;> omega

theorem since_strictMono : StrictMono fun seconds => (since seconds).fields :=
  strictMono_nat_of_lt_succ fun seconds => by
    rw [since_succ]
    exact fields_next (since seconds)

end

end Gregorian
