import Wavvon.Events.State
import Wavvon.Shared.Checked
import Wavvon.Shared.Gregorian

set_option autoImplicit false

namespace Wavvon.Calendar

open Checked (add sub mul divCeil toNat_ofNat add_ofNat sub_ofNat mul_ofNat div_ofNat mod_ofNat divCeil_ofNat)
open Gregorian (Moment)

-- `civil_from_unix` on words; nothing where an operation overflows.
def civilFromUnix (secs : UInt64) : Option (UInt64 × UInt64 × UInt64 × UInt64 × UInt64 × UInt64) := do
  let days := secs / 86400
  let timeOfDay := secs % 86400
  let jdn ← add days 2440588
  let l ← add jdn 68569
  let n := (← mul 4 l) / 146097
  let l ← sub l (← divCeil (← mul 146097 n) 4)
  let yearI := (← mul 4000 (← add l 1)) / 1461001
  let l ← add (← sub l ((← mul 1461 yearI) / 4)) 31
  let monthI := (← mul 80 l) / 2447
  let day ← sub l ((← mul 2447 monthI) / 80)
  let l := monthI / 11
  let month ← sub (← add monthI 2) (← mul 12 l)
  let year ← add (← add (← mul 100 (← sub n 49)) yearI) l
  return (year, month, day, timeOfDay / 3600, timeOfDay % 3600 / 60, timeOfDay % 60)

def momentOf : UInt64 × UInt64 × UInt64 × UInt64 × UInt64 × UInt64 → Moment
  | (year, month, day, hour, minute, second) =>
    { year := year.toNat, month := month.toNat, day := day.toNat
      hour := hour.toNat, minute := minute.toNat, second := second.toNat }

-- The values the algorithm passes through, by the names of what they count.
def dayNumber (secs : Nat) : Nat := secs / 86400 + 2440588 + 68569

section

variable (l : Nat)

def centuries : Nat := 4 * l / 146097

def dayOfCentury : Nat := l - (146097 * centuries l + 3) / 4

def yearOfCentury : Nat := 4000 * (dayOfCentury l + 1) / 1461001

def dayOfYear : Nat := dayOfCentury l - 1461 * yearOfCentury l / 4

end

def monthI (dayOfYear : Nat) : Nat := 80 * (dayOfYear + 31) / 2447

def dayOfMonth (dayOfYear : Nat) : Nat := dayOfYear + 31 - 2447 * monthI dayOfYear / 80

theorem civilFromUnix_parts (secs : Nat) :
    let l := dayNumber secs
    Events.civilFromUnix secs =
      (100 * (centuries l - 49) + yearOfCentury l + monthI (dayOfYear l) / 11,
      monthI (dayOfYear l) + 2 - 12 * (monthI (dayOfYear l) / 11), dayOfMonth (dayOfYear l),
      secs % 86400 / 3600, secs % 86400 % 3600 / 60, secs % 86400 % 60) := by
  unfold Events.civilFromUnix dayOfMonth monthI dayOfYear yearOfCentury dayOfCentury centuries dayNumber
  rfl

theorem dayNumber_eq (secs : Nat) : dayNumber secs = secs / 86400 + 2509157 := Nat.add_assoc _ _ _

section

variable {l : Nat}

theorem centuries_ge (fits : 2509157 ≤ l) : 68 ≤ centuries l := by
  unfold centuries
  omega

theorem centuries_below (l : Nat) : (146097 * centuries l + 3) / 4 ≤ l := by
  unfold centuries
  omega

theorem dayOfCentury_le (l : Nat) : dayOfCentury l ≤ 36524 := by
  unfold dayOfCentury centuries
  omega

-- Only every fourth century has its last day.
theorem centuries_last (last : dayOfCentury l = 36524) : centuries l % 4 = 0 := by
  unfold dayOfCentury centuries at *
  omega

-- Within a century, a year of `1461001 / 4000` days rounds as the four-year cycle does.
theorem yearOfCentury_eq (l : Nat) : yearOfCentury l = (4 * dayOfCentury l + 3) / 1461 := by
  have inside := dayOfCentury_le l
  unfold yearOfCentury
  generalize dayOfCentury l = day at inside ⊢
  omega

theorem yearOfCentury_le (l : Nat) : yearOfCentury l ≤ 99 := by
  have inside := dayOfCentury_le l
  have year := yearOfCentury_eq l
  omega

theorem yearOfCentury_below (l : Nat) : 1461 * yearOfCentury l / 4 ≤ dayOfCentury l := by
  have year := yearOfCentury_eq l
  omega

theorem dayOfYear_le (l : Nat) : dayOfYear l ≤ 365 := by
  have year := yearOfCentury_eq l
  unfold dayOfYear
  omega

-- A year from March on has its last day only where the February it ends with has one more.
theorem dayOfYear_last (fits : 2509157 ≤ l) (last : dayOfYear l = 365) :
    Gregorian.IsLeap (100 * (centuries l - 49) + yearOfCentury l + 1) := by
  have first := centuries_ge fits
  have inside := dayOfCentury_le l
  have year := yearOfCentury_eq l
  unfold dayOfYear at last
  refine ⟨by omega, ?_⟩
  by_cases century : yearOfCentury l = 99
  · have := centuries_last (l := l) (by omega)
    exact .inr (by omega)
  · exact .inl (by omega)

-- The years before are the cycles that were taken off.
theorem yearStart_parts (fits : 2509157 ≤ l) :
    Gregorian.yearStart (100 * (centuries l - 49) + yearOfCentury l : Nat) + dayOfYear l = l - 1789689 := by
  have first := centuries_ge fits
  have below := centuries_below l
  have small := yearOfCentury_le l
  have taken := yearOfCentury_below l
  have century : dayOfCentury l = l - (146097 * centuries l + 3) / 4 := rfl
  have cycle : dayOfYear l = dayOfCentury l - 1461 * yearOfCentury l / 4 := rfl
  obtain ⟨hundreds, count⟩ : ∃ hundreds, centuries l = hundreds + 49 := ⟨centuries l - 49, by omega⟩
  rw [count] at century
  rw [count, Nat.add_sub_cancel]
  generalize yearOfCentury l = year at *
  have fourths : ((100 * hundreds + year : Nat) : Int) / 4 = 25 * hundreds + year / 4 := by omega
  have centuries : ((100 * hundreds + year : Nat) : Int) / 100 = hundreds := by omega
  have eras : ((100 * hundreds + year : Nat) : Int) / 400 = hundreds / 4 := by omega
  have days : 1461 * year / 4 = 365 * year + year / 4 := by omega
  have ceil : (146097 * (hundreds + 49) + 3) / 4 = 36524 * hundreds + hundreds / 4 + 1789689 := by omega
  rw [Gregorian.yearStart, fourths, centuries, eras]
  omega

end

-- A common year has the shortest February.
theorem monthLength_le (year month : Nat) : Gregorian.monthLength 1 month ≤ Gregorian.monthLength year month := by
  unfold Gregorian.monthLength
  split_ifs <;> first | omega | exact absurd ‹Gregorian.IsLeap 1› (by decide)

-- The months of a year from March on, one day after the other.
theorem monthI_table : ∀ dayOfYear ≤ 365, 1 ≤ monthI dayOfYear ∧ monthI dayOfYear ≤ 12 ∧
    2447 * monthI dayOfYear / 80 ≤ dayOfYear + 31 ∧ 1 ≤ dayOfMonth dayOfYear ∧
    (153 * (monthI dayOfYear - 1) + 2) / 5 + dayOfMonth dayOfYear = dayOfYear + 1 ∧
    (dayOfMonth dayOfYear ≤ Gregorian.monthLength 1 (monthI dayOfYear + 2 - 12 * (monthI dayOfYear / 11)) ∨
      dayOfYear = 365 ∧ dayOfMonth dayOfYear = 29 ∧ monthI dayOfYear = 12) := by
  decide +kernel

section

variable (secs : Nat)

def moment : Moment where
  year := (Events.civilFromUnix secs).1
  month := (Events.civilFromUnix secs).2.1
  day := (Events.civilFromUnix secs).2.2.1
  hour := (Events.civilFromUnix secs).2.2.2.1
  minute := (Events.civilFromUnix secs).2.2.2.2.1
  second := (Events.civilFromUnix secs).2.2.2.2.2

-- The two months that belong to the next year are those with `month_i / 11 = 1`.
theorem moment_march :
    let l := dayNumber secs
    (moment secs).marchYear = (100 * (centuries l - 49) + yearOfCentury l : Nat) ∧
      (moment secs).marchMonth = monthI (dayOfYear l) - 1 ∧ (moment secs).marchDay = dayOfYear l := by
  obtain ⟨first, last, -, one, day, -⟩ := monthI_table (dayOfYear (dayNumber secs)) (dayOfYear_le _)
  have month : (moment secs).marchMonth = monthI (dayOfYear (dayNumber secs)) - 1 := by
    rw [Gregorian.Date.marchMonth, moment, civilFromUnix_parts]
    dsimp only
    split_ifs <;> omega
  refine ⟨?_, month, ?_⟩
  · rw [Gregorian.Date.marchYear, moment, civilFromUnix_parts]
    dsimp only
    split_ifs <;> omega
  · rw [Gregorian.Date.marchDay, month, moment, civilFromUnix_parts]
    dsimp only
    omega

theorem moment_valid : (moment secs).Valid := by
  obtain ⟨first, last, -, one, -, inside⟩ := monthI_table (dayOfYear (dayNumber secs)) (dayOfYear_le _)
  rw [moment, civilFromUnix_parts]
  refine ⟨⟨?_, one, ?_⟩, ?_, ?_, ?_⟩ <;> dsimp only
  · omega
  · rcases inside with inside | ⟨leapDay, day, month⟩
    · exact inside.trans (monthLength_le _ _)
    · have leap := dayOfYear_last (l := dayNumber secs) (by rw [dayNumber_eq]; omega) leapDay
      rw [day, month, Gregorian.monthLength, if_pos rfl, if_pos leap]
  · omega
  · omega
  · omega

theorem secondsFromCivil_moment : Gregorian.secondsFromCivil (moment secs) = secs := by
  obtain ⟨year, -, day⟩ := moment_march secs
  have fits : 2509157 ≤ dayNumber secs := by
    rw [dayNumber_eq]
    omega
  have days : Gregorian.daysFromCivil (moment secs).toDate = (secs / 86400 : Nat) := by
    have := yearStart_parts fits
    rw [Gregorian.daysFromCivil_eq, year, day, this, dayNumber_eq]
    omega
  rw [Gregorian.secondsFromCivil, days, moment, civilFromUnix_parts]
  dsimp only
  omega

/-- The algorithm counts as the calendar does. -/
theorem moment_eq : moment secs = Gregorian.since secs :=
  Gregorian.eq_since (moment_valid secs) (secondsFromCivil_moment secs)

end

-- No operation leaves the words: each is where the one on naturals is.
theorem civilFromUnix_words (secs : UInt64) :
    ∃ fields, civilFromUnix secs = some fields ∧ momentOf fields = moment secs.toNat := by
  have fits := secs.toNat_lt
  obtain ⟨s, word⟩ : ∃ s, s = secs.toNat := ⟨_, rfl⟩
  obtain rfl : secs = .ofNat s := by rw [word, UInt64.ofNat_toNat]
  rw [← word] at fits ⊢
  have number := dayNumber_eq s
  generalize counted : dayNumber s = l at number
  have first := centuries_ge (l := l) (by omega)
  have below := centuries_below l
  have inCentury := dayOfCentury_le l
  have year := yearOfCentury_le l
  have yearBelow := yearOfCentury_below l
  have inYear := dayOfYear_le l
  obtain ⟨monthFrom, monthTo, monthBelow, -⟩ := monthI_table _ inYear
  have small : dayOfMonth (dayOfYear l) < 2 ^ 64 := by
    unfold dayOfMonth
    omega
  have days : UInt64.ofNat s / 86400 = .ofNat (s / 86400) := div_ofNat fits (by decide)
  have time : UInt64.ofNat s % 86400 = .ofNat (s % 86400) := mod_ofNat fits (by decide)
  have jdn : add (.ofNat (s / 86400)) 2440588 = some (.ofNat (s / 86400 + 2440588)) :=
    add_ofNat (n := 2440588) (by omega)
  have shifted : add (.ofNat (s / 86400 + 2440588)) 68569 = some (.ofNat l) := by
    rw [← counted]
    exact add_ofNat (n := 68569) (by omega)
  have quarters : mul 4 (.ofNat l) = some (.ofNat (4 * l)) :=
    mul_ofNat (m := 4) (by decide) (by omega) (by omega)
  have century : UInt64.ofNat (4 * l) / 146097 = .ofNat (centuries l) := div_ofNat (by omega) (by decide)
  have gone : mul 146097 (.ofNat (centuries l)) = some (.ofNat (146097 * centuries l)) :=
    mul_ofNat (m := 146097) (by decide) (by omega) (by omega)
  have goneUp : divCeil (.ofNat (146097 * centuries l)) 4 = some (.ofNat ((146097 * centuries l + 3) / 4)) :=
    divCeil_ofNat (n := 4) (by omega) (by decide) (by decide)
  have rest : sub (.ofNat l) (.ofNat ((146097 * centuries l + 3) / 4)) = some (.ofNat (dayOfCentury l)) :=
    sub_ofNat below (by omega)
  have next : add (.ofNat (dayOfCentury l)) 1 = some (.ofNat (dayOfCentury l + 1)) := add_ofNat (n := 1) (by omega)
  have scaled : mul 4000 (.ofNat (dayOfCentury l + 1)) = some (.ofNat (4000 * (dayOfCentury l + 1))) :=
    mul_ofNat (m := 4000) (by decide) (by omega) (by omega)
  have yearI : UInt64.ofNat (4000 * (dayOfCentury l + 1)) / 1461001 = .ofNat (yearOfCentury l) :=
    div_ofNat (by omega) (by decide)
  have cycles : mul 1461 (.ofNat (yearOfCentury l)) = some (.ofNat (1461 * yearOfCentury l)) :=
    mul_ofNat (m := 1461) (by decide) (by omega) (by omega)
  have cyclesDown : UInt64.ofNat (1461 * yearOfCentury l) / 4 = .ofNat (1461 * yearOfCentury l / 4) :=
    div_ofNat (by omega) (by decide)
  have yearDay : sub (.ofNat (dayOfCentury l)) (.ofNat (1461 * yearOfCentury l / 4)) = some (.ofNat (dayOfYear l)) :=
    sub_ofNat yearBelow (by omega)
  have ahead : add (.ofNat (dayOfYear l)) 31 = some (.ofNat (dayOfYear l + 31)) := add_ofNat (n := 31) (by omega)
  have eighty : mul 80 (.ofNat (dayOfYear l + 31)) = some (.ofNat (80 * (dayOfYear l + 31))) :=
    mul_ofNat (m := 80) (by decide) (by omega) (by omega)
  have month : UInt64.ofNat (80 * (dayOfYear l + 31)) / 2447 = .ofNat (monthI (dayOfYear l)) :=
    div_ofNat (by omega) (by decide)
  have months : mul 2447 (.ofNat (monthI (dayOfYear l))) = some (.ofNat (2447 * monthI (dayOfYear l))) :=
    mul_ofNat (m := 2447) (by decide) (by omega) (by omega)
  have monthsDown : UInt64.ofNat (2447 * monthI (dayOfYear l)) / 80 = .ofNat (2447 * monthI (dayOfYear l) / 80) :=
    div_ofNat (by omega) (by decide)
  have day : sub (.ofNat (dayOfYear l + 31)) (.ofNat (2447 * monthI (dayOfYear l) / 80)) =
      some (.ofNat (dayOfMonth (dayOfYear l))) := sub_ofNat monthBelow (by omega)
  generalize named : monthI (dayOfYear l) = m at *
  have carry : UInt64.ofNat m / 11 = .ofNat (m / 11) := div_ofNat (by omega) (by decide)
  have twoOn : add (.ofNat m) 2 = some (.ofNat (m + 2)) := add_ofNat (n := 2) (by omega)
  have twelve : mul 12 (.ofNat (m / 11)) = some (.ofNat (12 * (m / 11))) :=
    mul_ofNat (m := 12) (by decide) (by omega) (by omega)
  have monthOf : sub (.ofNat (m + 2)) (.ofNat (12 * (m / 11))) = some (.ofNat (m + 2 - 12 * (m / 11))) :=
    sub_ofNat (by omega) (by omega)
  have since : sub (.ofNat (centuries l)) 49 = some (.ofNat (centuries l - 49)) :=
    sub_ofNat (n := 49) (by omega) (by omega)
  have hundreds : mul 100 (.ofNat (centuries l - 49)) = some (.ofNat (100 * (centuries l - 49))) :=
    mul_ofNat (m := 100) (by decide) (by omega) (by omega)
  have march : add (.ofNat (100 * (centuries l - 49))) (.ofNat (yearOfCentury l)) =
      some (.ofNat (100 * (centuries l - 49) + yearOfCentury l)) := add_ofNat (by omega)
  have yearOf : add (.ofNat (100 * (centuries l - 49) + yearOfCentury l)) (.ofNat (m / 11)) =
      some (.ofNat (100 * (centuries l - 49) + yearOfCentury l + m / 11)) := add_ofNat (by omega)
  have hour : UInt64.ofNat (s % 86400) / 3600 = .ofNat (s % 86400 / 3600) := div_ofNat (by omega) (by decide)
  have hourRest : UInt64.ofNat (s % 86400) % 3600 = .ofNat (s % 86400 % 3600) := mod_ofNat (by omega) (by decide)
  have minute : UInt64.ofNat (s % 86400 % 3600) / 60 = .ofNat (s % 86400 % 3600 / 60) := div_ofNat (by omega) (by decide)
  have second : UInt64.ofNat (s % 86400) % 60 = .ofNat (s % 86400 % 60) := mod_ofNat (by omega) (by decide)
  refine ⟨(.ofNat (100 * (centuries l - 49) + yearOfCentury l + m / 11), .ofNat (m + 2 - 12 * (m / 11)),
    .ofNat (dayOfMonth (dayOfYear l)), .ofNat (s % 86400 / 3600), .ofNat (s % 86400 % 3600 / 60),
    .ofNat (s % 86400 % 60)), ?_, ?_⟩
  · unfold civilFromUnix
    dsimp only [Option.bind_eq_bind, Option.pure_def]
    rw [days, time, jdn, Option.bind_some, shifted, Option.bind_some, quarters, Option.bind_some, century, gone,
      Option.bind_some, goneUp, Option.bind_some, rest, Option.bind_some, next, Option.bind_some, scaled,
      Option.bind_some, yearI, cycles, Option.bind_some, cyclesDown, yearDay, Option.bind_some, ahead,
      Option.bind_some, eighty, Option.bind_some, month, months, Option.bind_some, monthsDown, day, Option.bind_some,
      carry, twoOn, Option.bind_some, twelve, Option.bind_some, monthOf, Option.bind_some, since, Option.bind_some,
      hundreds, Option.bind_some, march, Option.bind_some, yearOf, Option.bind_some, hour, hourRest, minute, second]
  · rw [momentOf, moment, civilFromUnix_parts, counted]
    dsimp only
    rw [named, toNat_ofNat small, toNat_ofNat (m := s % 86400 / 3600) (by omega),
      toNat_ofNat (m := s % 86400 % 3600 / 60) (by omega), toNat_ofNat (m := s % 86400 % 60) (by omega),
      toNat_ofNat (m := 100 * (centuries l - 49) + yearOfCentury l + m / 11) (by omega),
      toNat_ofNat (m := m + 2 - 12 * (m / 11)) (by omega)]

theorem civilFromUnix_exact :
    ∃ civil : UInt64 → UInt64 × UInt64 × UInt64 × UInt64 × UInt64 × UInt64,
      (∀ secs, civilFromUnix secs = some (civil secs)) ∧
      (∀ secs, momentOf (civil secs) = Gregorian.since secs.toNat ∧ (momentOf (civil secs)).Valid ∧
        Gregorian.secondsFromCivil (momentOf (civil secs)) = secs.toNat) ∧
      Function.Injective civil ∧
      ∀ secs later, secs < later ↔ (momentOf (civil secs)).fields < (momentOf (civil later)).fields := by
  choose civil answers agrees using civilFromUnix_words
  have counted (secs : UInt64) : momentOf (civil secs) = Gregorian.since secs.toNat := (agrees secs).trans (moment_eq _)
  have order (secs later : UInt64) :
      secs < later ↔ (momentOf (civil secs)).fields < (momentOf (civil later)).fields := by
    rw [counted, counted, UInt64.lt_iff_toNat_lt]
    exact Gregorian.since_strictMono.lt_iff_lt.symm
  refine ⟨civil, answers, fun secs => ⟨counted secs, ?_, ?_⟩, ?_, order⟩
  · rw [counted]
    exact Gregorian.since_valid _
  · rw [counted]
    exact Gregorian.secondsFromCivil_since _
  · intro secs later same
    apply UInt64.toNat_inj.mp
    apply Gregorian.since_strictMono.injective
    dsimp only
    rw [← counted, ← counted, same]

example : civilFromUnix 4107542400 = some (2100, 3, 1, 0, 0, 0) := by decide +kernel

end Wavvon.Calendar
