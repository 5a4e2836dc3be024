import DueReminders.Calendar.DateTime
import DueReminders.Calendar.Names
import DueReminders.Number.Digits

/-! The two written forms of dates: the long form of a mail and the compact form a date field is
compared by. -/
namespace DueReminders

open Number

/-- At least four digits; outside 0 … 9999 a sign stands in front. -/
def Calendar.yearText (year : Int) : List Char :=
  if 0 ≤ year ∧ year ≤ 9999 then padded 4 year.natAbs
  else (if year < 0 then '-' else '+') :: padded 4 year.natAbs

/-- For instance `Wednesday, June 12, 2024`. -/
def Date.long (date : Date) : List Char :=
  (Calendar.weekdayName date.daysFromSunday).toList ++ [',', ' '] ++
    (Calendar.monthName date.month).toList ++ [' '] ++ digits date.day ++ [',', ' '] ++
    Calendar.yearText date.year

def Date.compact (date : Date) : List Char :=
  Calendar.yearText date.year ++ '-' :: padded 2 date.month ++ '-' :: padded 2 date.day

/-- Hours, minutes and seconds; a leap second is counted as one second more. -/
def ClockTime.compact (time : ClockTime) : List Char :=
  padded 2 time.hour ++ ':' :: padded 2 time.minute ++ ':' ::
    padded 2 (time.secondOfMinute + (if time.isLeap then 1 else 0))

/-- For instance `2024-06-12T09:00:00`; fractions of a second are left out. -/
def DateTime.compact (moment : DateTime) : List Char :=
  moment.date.compact ++ 'T' :: moment.time.compact

def longDate (date : Date) : String := String.ofList date.long

end DueReminders
