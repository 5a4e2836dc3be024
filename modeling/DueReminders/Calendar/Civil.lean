/-! Civil dates of the proleptic Gregorian calendar and their day numbers, counted from 1970-01-01.
The two conversions invert each other. -/
namespace DueReminders

/-- A year, month and day as people write them, not yet known to exist. -/
structure Civil where
  year : Int
  month : Nat
  day : Nat
  deriving DecidableEq, Repr

namespace Civil

def isLeapYear (year : Int) : Bool := year % 4 == 0 && (year % 100 != 0 || year % 400 == 0)

def daysInMonth (year : Int) (month : Nat) : Nat :=
  if month = 2 then (if isLeapYear year then 29 else 28)
  else if month = 4 ∨ month = 6 ∨ month = 9 ∨ month = 11 then 30
  else 31

theorem daysInMonth_le (year : Int) (month : Nat) : daysInMonth year month ≤ 31 := by
  unfold daysInMonth
  split
  · split <;> decide
  · split <;> decide

/-- Days since 1970-01-01. Years are counted from March, so that a leap day ends its year, and in
cycles of 400 years, which all have 146097 days. -/
def dayNumber (civil : Civil) : Int :=
  let year := if civil.month ≤ 2 then civil.year - 1 else civil.year
  let cycle := year / 400
  let yearOfCycle := year % 400
  let monthFromMarch : Int := (civil.month + 9) % 12
  let dayOfYear := (153 * monthFromMarch + 2) / 5 + civil.day - 1
  cycle * 146097 + (yearOfCycle * 365 + yearOfCycle / 4 - yearOfCycle / 100 + dayOfYear) - 719468

/-- The civil date of a day number: whole cycles of 400 years, then centuries, spans of four years
and years, where the last century of a cycle and the last year of a span may be a day longer. -/
def ofDayNumber (number : Int) : Civil :=
  let shifted := number + 719468
  let dayOfCycle := shifted % 146097
  let century := min (dayOfCycle / 36524) 3
  let dayOfCentury := dayOfCycle - century * 36524
  let dayOfSpan := dayOfCentury % 1461
  let yearOfSpan := min (dayOfSpan / 365) 3
  let dayOfYear := dayOfSpan - yearOfSpan * 365
  let monthFromMarch := (5 * dayOfYear + 2) / 153
  let day := dayOfYear - (153 * monthFromMarch + 2) / 5 + 1
  let month := if monthFromMarch < 10 then monthFromMarch + 3 else monthFromMarch - 9
  let yearFromMarch :=
    shifted / 146097 * 400 + century * 100 + dayOfCentury / 1461 * 4 + yearOfSpan
  ⟨if month ≤ 2 then yearFromMarch + 1 else yearFromMarch, month.toNat, day.toNat⟩

/-- A civil date the calendar has: a month of the year and a day of that month. -/
def Exists (civil : Civil) : Prop :=
  1 ≤ civil.month ∧ civil.month ≤ 12 ∧ 1 ≤ civil.day ∧
    civil.day ≤ daysInMonth civil.year civil.month

instance (civil : Civil) : Decidable civil.Exists := by unfold Exists; infer_instance

/-- Reading a day number as a civil date and counting its days gives the number back. -/
theorem dayNumber_ofDayNumber (number : Int) : (ofDayNumber number).dayNumber = number := by
  unfold ofDayNumber
  extract_lets shifted dayOfCycle century dayOfCentury dayOfSpan yearOfSpan dayOfYear monthFromMarch
    day month yearFromMarch
  have cycle_bounds : 0 ≤ dayOfCycle ∧ dayOfCycle < 146097 := by omega
  have century_bounds : 0 ≤ century ∧ century ≤ 3 := by omega
  have ofCentury_bounds : 0 ≤ dayOfCentury ∧ dayOfCentury ≤ 36524 := by omega
  have ofSpan_bounds : 0 ≤ dayOfSpan ∧ dayOfSpan < 1461 := by omega
  have span_bounds : 0 ≤ yearOfSpan ∧ yearOfSpan ≤ 3 := by omega
  have ofYear_bounds : 0 ≤ dayOfYear ∧ dayOfYear ≤ 365 := by omega
  have march_bounds : 0 ≤ monthFromMarch ∧ monthFromMarch ≤ 11 := by omega
  have day_bounds : 1 ≤ day ∧ day ≤ 31 := by omega
  have month_bounds : 1 ≤ month ∧ month ≤ 12 := by omega
  have march_eq : (month + 9) % 12 = monthFromMarch := by omega
  have year_eq :
      (if month.toNat ≤ 2 then (if month ≤ 2 then yearFromMarch + 1 else yearFromMarch) - 1
        else (if month ≤ 2 then yearFromMarch + 1 else yearFromMarch)) = yearFromMarch := by
    split <;> split <;> omega
  unfold dayNumber
  simp only [year_eq]
  have month_cast : ((month.toNat : Nat) : Int) = month := by omega
  have day_cast : ((day.toNat : Nat) : Int) = day := by omega
  rw [month_cast, day_cast, march_eq]
  have spans : 0 ≤ dayOfCentury / 1461 ∧ dayOfCentury / 1461 ≤ 24 := by omega
  generalize spans_eq : dayOfCentury / 1461 = span at *
  have year_mod : yearFromMarch % 400 = century * 100 + span * 4 + yearOfSpan := by omega
  have year_div : yearFromMarch / 400 = shifted / 146097 := by omega
  rw [year_mod, year_div]
  have quarter : (century * 100 + span * 4 + yearOfSpan) / 4 = century * 25 + span := by omega
  have hundredth : (century * 100 + span * 4 + yearOfSpan) / 100 = century := by omega
  rw [quarter, hundredth]
  have whole : dayOfCentury = span * 1461 + dayOfSpan := by omega
  omega

/-- Every day number is a civil date the calendar has. -/
theorem exists_ofDayNumber (number : Int) : (ofDayNumber number).Exists := by
  unfold ofDayNumber
  extract_lets shifted dayOfCycle century dayOfCentury dayOfSpan yearOfSpan dayOfYear monthFromMarch
    day month yearFromMarch
  have cycle_bounds : 0 ≤ dayOfCycle ∧ dayOfCycle < 146097 := by omega
  have century_bounds : 0 ≤ century ∧ century ≤ 3 := by omega
  have ofCentury_bounds : 0 ≤ dayOfCentury ∧ dayOfCentury ≤ 36524 := by omega
  have ofSpan_bounds : 0 ≤ dayOfSpan ∧ dayOfSpan < 1461 := by omega
  have span_bounds : 0 ≤ yearOfSpan ∧ yearOfSpan ≤ 3 := by omega
  have ofYear_bounds : 0 ≤ dayOfYear ∧ dayOfYear ≤ 365 := by omega
  have march_bounds : 0 ≤ monthFromMarch ∧ monthFromMarch ≤ 11 := by omega
  have day_bounds : 1 ≤ day ∧ day ≤ 31 := by omega
  have month_bounds : 1 ≤ month ∧ month ≤ 12 := by omega
  show 1 ≤ month.toNat ∧ month.toNat ≤ 12 ∧ 1 ≤ day.toNat ∧
    day.toNat ≤ daysInMonth (if month ≤ 2 then yearFromMarch + 1 else yearFromMarch) month.toNat
  refine ⟨by omega, by omega, by omega, ?_⟩
  have spans : 0 ≤ dayOfCentury / 1461 ∧ dayOfCentury / 1461 ≤ 24 := by omega
  generalize spans_eq : dayOfCentury / 1461 = span at *
  have whole : dayOfCentury = span * 1461 + dayOfSpan := by omega
  simp only [daysInMonth]
  split
  · rename_i feb
    have : month = 2 := by omega
    have early : month ≤ 2 := by omega
    simp only [early, if_true]
    have leap : dayOfYear = 365 → isLeapYear (yearFromMarch + 1) = true := by
      intro longest
      simp [isLeapYear]
      constructor
      · omega
      · by_cases final : span = 24
        · right; omega
        · left; omega
    split
    · omega
    · rename_i common
      have : dayOfYear ≠ 365 := fun longest => common (leap longest)
      omega
  · split
    · omega
    · omega

end Civil
end DueReminders
