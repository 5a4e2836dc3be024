import DueReminders.Calendar.Date

/-! Wall-clock date-times with nanoseconds. A leap second is written as the second before it with a
thousand million nanoseconds or more, so that it sorts after that second. -/
namespace DueReminders

def nanosPerSecond : Nat := 1000000000

/-- A time of day: the second of the day and the nanoseconds after it. -/
structure ClockTime where
  second : Nat
  nano : Nat
  second_lt : second < 86400
  nano_lt : nano < 2000000000

namespace ClockTime

theorem ext {a b : ClockTime} (second : a.second = b.second) (nano : a.nano = b.nano) : a = b := by
  cases a
  cases b
  cases second
  cases nano
  rfl

instance : DecidableEq ClockTime := fun a b =>
  if same : a.second = b.second ∧ a.nano = b.nano then .isTrue (ext same.1 same.2)
  else .isFalse fun equal => same (equal ▸ ⟨rfl, rfl⟩)

def midnight : ClockTime := ⟨0, 0, by decide, by decide⟩

def hour (time : ClockTime) : Nat := time.second / 3600
def minute (time : ClockTime) : Nat := time.second / 60 % 60

/-- The second of the minute, leap seconds aside. -/
def secondOfMinute (time : ClockTime) : Nat := time.second % 60

def isLeap (time : ClockTime) : Bool := nanosPerSecond ≤ time.nano

/-- Not inside of a leap second, or of one that follows the last second of a minute. -/
def Regular (time : ClockTime) : Prop := time.isLeap = true → time.secondOfMinute = 59

instance (time : ClockTime) : Decidable time.Regular := by unfold Regular; infer_instance

/-- The time with these parts, if the clock shows it. -/
def ofParts? (hour minute second nano : Nat) : Option ClockTime :=
  if parts : hour < 24 ∧ minute < 60 ∧ second < 60 ∧
      (nano < 1000000000 ∨ (second = 59 ∧ nano < 2000000000)) then
    some ⟨hour * 3600 + minute * 60 + second, nano, by omega, by omega⟩
  else none

/-- The time without the fraction of its second; a leap second stays one. -/
def truncate (time : ClockTime) : ClockTime :=
  ⟨time.second, if time.isLeap then 1000000000 else 0, time.second_lt, by split <;> decide⟩

end ClockTime

/-- A day and a time of that day. -/
structure DateTime where
  date : Date
  time : ClockTime
  deriving DecidableEq

namespace DateTime

def atMidnight (date : Date) : DateTime := ⟨date, .midnight⟩

/-- Earlier by day, then by second, then by nanosecond. -/
def Before (a b : DateTime) : Prop :=
  a.date < b.date ∨ (a.date = b.date ∧ (a.time.second < b.time.second ∨
    (a.time.second = b.time.second ∧ a.time.nano < b.time.nano)))

instance (a b : DateTime) : Decidable (a.Before b) := by unfold Before; infer_instance

def truncate (moment : DateTime) : DateTime := ⟨moment.date, moment.time.truncate⟩

/-- Going back over whole days. A leap second left towards the past counts as the second after it,
one left towards the future as the second before; without a move it stays. -/
def daysBack? (moment : DateTime) (days : Int) : Option DateTime :=
  let time := moment.time
  if leap : 1000000000 ≤ time.nano ∧ 0 < days then
    if last : time.second = 86399 then
      (moment.date.addDays? (1 - days)).map
        fun date => ⟨date, 0, time.nano - 1000000000, by decide, by have := time.nano_lt; omega⟩
    else
      (moment.date.addDays? (-days)).map fun date =>
        ⟨date, time.second + 1, time.nano - 1000000000, by have := time.second_lt; omega,
          by have := time.nano_lt; omega⟩
  else if 1000000000 ≤ time.nano ∧ days < 0 then
    (moment.date.addDays? (-days)).map
      fun date => ⟨date, time.second, time.nano - 1000000000, time.second_lt,
        by have := time.nano_lt; omega⟩
  else (moment.date.addDays? (-days)).map fun date => ⟨date, time⟩

/-- Moving the wall clock by whole seconds; the nanoseconds stay. -/
def addSeconds? (moment : DateTime) (seconds : Int) : Option DateTime :=
  let total := (moment.time.second : Int) + seconds
  (moment.date.addDays? (total / 86400)).map fun date =>
    ⟨date, (total % 86400).toNat, moment.time.nano, by omega, moment.time.nano_lt⟩

/-- Seconds since 1970-01-01T00:00:00 of the same wall clock. -/
def epochSeconds (moment : DateTime) : Int := moment.date.number * 86400 + moment.time.second

theorem epochSeconds_addSeconds? {moment moved : DateTime} {seconds : Int}
    (done : moment.addSeconds? seconds = some moved) :
    moved.epochSeconds = moment.epochSeconds + seconds := by
  unfold addSeconds? at done
  obtain ⟨date, found, rfl⟩ := Option.map_eq_some_iff.mp done
  rw [Date.addDays?, Date.ofNumber?_eq_some_iff] at found
  simp only [epochSeconds, found]
  omega

end DateTime
end DueReminders
