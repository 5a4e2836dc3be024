import DueReminders.Calendar.DateTime
import DueReminders.Calendar.Names
import DueReminders.Number.Digits
import DueReminders.Text.Blank

/-! Patterns for written dates and times. A pattern is a sequence of items; each item takes what it
needs from the front of the text, and the whole text has to be used. Blanks are optional where a
pattern has one and in front of every number. -/
namespace DueReminders.Calendar

open Number Text

inductive Item where
  /-- One to four digits, or a sign and any number of digits. -/
  | year
  | month
  | day
  /-- Hours from 0 to 23. -/
  | hour
  /-- Hours from 1 to 12, to be told apart by `halfDay`. -/
  | hourOfHalf
  /-- The words AM and PM. -/
  | halfDay
  | minute
  /-- Seconds from 0 to 60. -/
  | second
  /-- Nothing, or a point and digits. -/
  | fraction
  | monthName
  | weekdayName
  /-- Any number of blanks, none included. -/
  | blank
  | literal (c : Char)
  deriving DecidableEq, Repr

/-- What the items of a pattern have read so far. -/
structure Reading where
  year : Int := 0
  month : Nat := 0
  day : Nat := 0
  hour : Nat := 0
  afternoon : Bool := false
  minute : Nat := 0
  second : Nat := 0
  nano : Nat := 0
  weekday : Option Nat := none
  deriving DecidableEq, Repr

/-- At least one digit and at most `limit`; the rest of the text follows. -/
def takeNumber? (limit : Nat) (text : List Char) : Option (Nat × List Char) :=
  match takeDigits limit text with
  | ([], _) => none
  | (taken, rest) => some (ofDigits taken, rest)

/-- One or two digits after optional blanks, with a value from `low` to `high`. -/
def takeBounded? (low high : Nat) (text : List Char) : Option (Nat × List Char) := do
  let (value, rest) ← takeNumber? 2 (trimStart text)
  if low ≤ value ∧ value ≤ high then some (value, rest) else none

/-- A year after optional blanks: with a sign all digits belong to it, without one at most four. -/
def takeYear? (text : List Char) : Option (Int × List Char) :=
  match trimStart text with
  | '-' :: rest => (takeNumber? rest.length rest).map fun (value, left) => (-(value : Int), left)
  | '+' :: rest => (takeNumber? rest.length rest).map fun (value, left) => ((value : Int), left)
  | rest => (takeNumber? 4 rest).map fun (value, left) => ((value : Int), left)

/-- Digits after a decimal point as nanoseconds: nine digits count, any further ones are passed
over. -/
def takeNanos? (text : List Char) : Option (Nat × List Char) :=
  match takeDigits 9 text with
  | ([], _) => none
  | (taken, rest) =>
    some (ofDigits taken * Nat.pow 10 (9 - taken.length), rest.dropWhile Char.isDigit)

/-- An optional fraction of a second. -/
def takeFraction? : List Char → Option (Nat × List Char)
  | '.' :: rest => takeNanos? rest
  | text => some (0, text)

def Item.take? (reading : Reading) (text : List Char) : Item → Option (Reading × List Char)
  | .year => (takeYear? text).map fun (value, rest) => ({ reading with year := value }, rest)
  | .month => (takeBounded? 1 12 text).map fun (value, rest) => ({ reading with month := value }, rest)
  | .day => (takeBounded? 1 31 text).map fun (value, rest) => ({ reading with day := value }, rest)
  | .hour => (takeBounded? 0 23 text).map fun (value, rest) => ({ reading with hour := value }, rest)
  | .hourOfHalf =>
    (takeBounded? 1 12 text).map fun (value, rest) => ({ reading with hour := value % 12 }, rest)
  | .halfDay =>
    match dropWord? ['A', 'M'] text, dropWord? ['P', 'M'] text with
    | some rest, _ => some ({ reading with afternoon := false }, rest)
    | none, some rest => some ({ reading with afternoon := true }, rest)
    | none, none => none
  | .minute => (takeBounded? 0 59 text).map fun (value, rest) => ({ reading with minute := value }, rest)
  | .second => (takeBounded? 0 60 text).map fun (value, rest) => ({ reading with second := value }, rest)
  | .fraction => (takeFraction? text).map fun (value, rest) => ({ reading with nano := value }, rest)
  | .monthName =>
    (takeName? monthNames text).map fun (position, rest) =>
      ({ reading with month := position + 1 }, rest)
  | .weekdayName =>
    (takeName? weekdayNames text).map fun (position, rest) =>
      ({ reading with weekday := some position }, rest)
  | .blank => some (reading, trimStart text)
  | .literal c =>
    match text with
    | head :: rest => if head = c then some (reading, rest) else none
    | [] => none

abbrev Pattern := List Item

/-- Take the items in order; nothing may be left over. -/
def Pattern.readFrom? (reading : Reading) : Pattern → List Char → Option Reading
  | [], [] => some reading
  | [], _ :: _ => none
  | item :: items, text => do
    let (reading, rest) ← item.take? reading text
    readFrom? reading items rest

def Pattern.read? (pattern : Pattern) (text : List Char) : Option Reading :=
  readFrom? {} pattern text

namespace Reading

/-- The day read, if it exists and falls on the weekday read. -/
def date? (reading : Reading) : Option Date := do
  let date ← Date.ofCivil? ⟨reading.year, reading.month, reading.day⟩
  match reading.weekday with
  | some weekday => if date.daysFromSunday = weekday then some date else none
  | none => some date

/-- The time read. Second 60 is the leap second after second 59, in any minute. -/
def time? (reading : Reading) : Option ClockTime :=
  let hour := if reading.afternoon then reading.hour + 12 else reading.hour
  if reading.second = 60 then
    ClockTime.ofParts? hour reading.minute 59 (reading.nano + nanosPerSecond)
  else ClockTime.ofParts? hour reading.minute reading.second reading.nano

def dateTime? (reading : Reading) : Option DateTime := do
  let date ← reading.date?
  let time ← reading.time?
  some ⟨date, time⟩

end Reading

namespace Pattern

def isoDate : Pattern := [.year, .literal '-', .month, .literal '-', .day]
def slashDate : Pattern := [.month, .literal '/', .day, .literal '/', .year]
def namedDate : Pattern := [.monthName, .blank, .day, .literal ',', .blank, .year]
def weekdayDate : Pattern := [.weekdayName, .literal ',', .blank] ++ namedDate
def minutes : Pattern := [.hour, .literal ':', .minute]
def seconds : Pattern := minutes ++ [.literal ':', .second]
def fractions : Pattern := seconds ++ [.fraction]
def halfDayMinutes : Pattern := [.hourOfHalf, .literal ':', .minute, .blank, .halfDay]
def halfDaySeconds : Pattern :=
  [.hourOfHalf, .literal ':', .minute, .literal ':', .second, .blank, .halfDay]

/-- The date-time patterns, in the order they are tried. -/
def dateTimes : List Pattern :=
  [isoDate ++ .literal 'T' :: fractions, isoDate ++ .literal 'T' :: seconds,
    isoDate ++ .blank :: fractions, isoDate ++ .blank :: seconds,
    isoDate ++ .literal 'T' :: minutes, isoDate ++ .blank :: minutes,
    slashDate ++ .blank :: seconds, slashDate ++ .blank :: halfDaySeconds,
    slashDate ++ .blank :: minutes, slashDate ++ .blank :: halfDayMinutes]

def dates : List Pattern := [isoDate, slashDate, namedDate, weekdayDate]

end Pattern
end DueReminders.Calendar
