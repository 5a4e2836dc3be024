import DueReminders.Calendar.Civil

/-! The days of the calendar. A date is its number of days since 1970-01-01; the calendar ends where
the civil year leaves -262143 … 262142. -/
namespace DueReminders

/-- A day of the calendar. -/
structure Date where
  number : Int
  first_le : -96465292 ≤ number
  le_last : number ≤ 95026236

namespace Date

/-- Day number of -262143-01-01. -/
def firstNumber : Int := -96465292

/-- Day number of 262142-12-31. -/
def lastNumber : Int := 95026236

theorem ext {a b : Date} (same : a.number = b.number) : a = b := by
  cases a
  cases b
  cases same
  rfl

instance : DecidableEq Date := fun a b =>
  if same : a.number = b.number then .isTrue (ext same)
  else .isFalse fun equal => same (equal ▸ rfl)

instance : LT Date := ⟨fun a b => a.number < b.number⟩
instance : LE Date := ⟨fun a b => a.number ≤ b.number⟩
instance (a b : Date) : Decidable (a < b) := inferInstanceAs (Decidable (a.number < b.number))
instance (a b : Date) : Decidable (a ≤ b) := inferInstanceAs (Decidable (a.number ≤ b.number))

theorem lt_iff {a b : Date} : a < b ↔ a.number < b.number := Iff.rfl
theorem le_iff {a b : Date} : a ≤ b ↔ a.number ≤ b.number := Iff.rfl

/-- The day with a given number, unless it lies outside the calendar. -/
def ofNumber? (number : Int) : Option Date :=
  if inside : -96465292 ≤ number ∧ number ≤ 95026236 then some ⟨number, inside.1, inside.2⟩
  else none

theorem ofNumber?_eq_some_iff {number : Int} {date : Date} :
    ofNumber? number = some date ↔ date.number = number := by
  unfold ofNumber?
  split
  · constructor
    · intro same
      cases same
      rfl
    · rintro rfl
      rfl
  · next outside =>
    constructor
    · intro same
      cases same
    · rintro rfl
      exact absurd ⟨date.first_le, date.le_last⟩ outside

theorem ofNumber?_isSome_iff {number : Int} :
    (ofNumber? number).isSome = true ↔ firstNumber ≤ number ∧ number ≤ lastNumber := by
  unfold ofNumber? firstNumber lastNumber
  split <;> simp_all

def civil (date : Date) : Civil := Civil.ofDayNumber date.number

/-- The day a civil date names, if the calendar has it. -/
def ofCivil? (civil : Civil) : Option Date :=
  if civil.Exists then ofNumber? civil.dayNumber else none

def year (date : Date) : Int := date.civil.year
def month (date : Date) : Nat := date.civil.month
def day (date : Date) : Nat := date.civil.day

theorem ofCivil?_civil (date : Date) : ofCivil? date.civil = some date := by
  rw [ofCivil?, civil, if_pos (Civil.exists_ofDayNumber _), Civil.dayNumber_ofDayNumber]
  exact ofNumber?_eq_some_iff.mpr rfl

def addDays? (date : Date) (days : Int) : Option Date := ofNumber? (date.number + days)

def next? (date : Date) : Option Date := date.addDays? 1

/-- Days since the last Sunday, 0 on Sundays. 1970-01-01 was a Thursday. -/
def daysFromSunday (date : Date) : Nat := ((date.number + 4) % 7).toNat

/-- The Saturday that ends the week of `date`; weeks run from Sunday to Saturday. -/
def endOfWeek? (date : Date) : Option Date := date.addDays? (6 - date.daysFromSunday)

theorem daysFromSunday_lt (date : Date) : date.daysFromSunday < 7 := by
  unfold daysFromSunday
  omega

/-- The last day of the calendar is a Monday, so the week ends inside the calendar whenever two
more days follow. -/
theorem endOfWeek?_isSome_of_two_more {date : Date} (room : date.number + 2 ≤ lastNumber) :
    date.endOfWeek?.isSome = true := by
  have first := date.first_le
  have last := date.le_last
  rw [endOfWeek?, addDays?, ofNumber?_isSome_iff]
  unfold lastNumber firstNumber daysFromSunday at *
  omega

end Date
end DueReminders
