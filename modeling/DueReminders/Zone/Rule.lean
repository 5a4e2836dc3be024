import DueReminders.Calendar.Civil

/-! Yearly daylight-saving rules and dated changes of offset. A history lists the changes since
1970; after its last change the rule holds for good. -/
namespace DueReminders.Zone

/-- A moment that comes back every year: the `week`-th (5 for the last) given weekday of a month,
and a wall-clock second counted from the start of that day. -/
structure YearlyMoment where
  month : Nat
  week : Nat
  daysFromSunday : Nat
  second : Int

/-- Seconds since 1970 of the moment in a year, read as universal time. -/
def YearlyMoment.inYear (moment : YearlyMoment) (year : Int) : Int :=
  let firstOfMonth := Civil.dayNumber ⟨year, moment.month, 1⟩
  let first := (moment.daysFromSunday - (firstOfMonth + 4)) % 7
  let later := first + 7 * ((moment.week : Int) - 1)
  let inMonth := if later < Civil.daysInMonth year moment.month then later else later - 7
  (firstOfMonth + inMonth) * 86400 + moment.second

/-- The offset in summer and the moments it starts and ends, each on the clock in force before. -/
structure Summer where
  offset : Int
  start : YearlyMoment
  finish : YearlyMoment

/-- A standard offset, and summer time where it is kept. -/
structure Rule where
  standard : Int
  summer : Option Summer := none

/-- The offset a rule gives at an instant. South of the equator summer spans the turn of the
year. -/
def Rule.offsetAt (rule : Rule) (instant : Int) : Int :=
  match rule.summer with
  | none => rule.standard
  | some summer =>
    let year := (Civil.ofDayNumber (instant / 86400)).year
    let start := summer.start.inYear year - rule.standard
    let finish := summer.finish.inYear year - summer.offset
    let inSummer :=
      if start < finish then start ≤ instant ∧ instant < finish
      else ¬(finish ≤ instant ∧ instant < start)
    if inSummer then summer.offset else rule.standard

/-- The offset in force at the start of 1970, the dated changes after it, and the rule that holds
from the last of them on. -/
structure History where
  initial : Int
  changes : List (Int × Int)
  rule : Rule

def History.offsetAt (history : History) (instant : Int) : Int :=
  match history.changes.reverse with
  | [] => history.rule.offsetAt instant
  | (last, _) :: earlier =>
    if last ≤ instant then history.rule.offsetAt instant
    else
      match earlier.find? fun (start, _) => start ≤ instant with
      | some (_, offset) => offset
      | none => history.initial

end DueReminders.Zone
