import DueReminders.Calendar.OffsetDateTime

/-! Reading dates that people and programs write in different ways. The text is trimmed, a
timestamp with an offset keeps its own wall clock, and otherwise the first pattern that fits
decides. -/
namespace DueReminders.Calendar

open Text

/-- The wall-clock time a text stands for. -/
def read? (text : String) : Option DateTime :=
  let chars := trim text.toList
  match OffsetDateTime.read? chars with
  | some stamp => some stamp.wall
  | none =>
    match Pattern.dateTimes.findSome? fun pattern => (pattern.read? chars).bind Reading.dateTime? with
    | some moment => some moment
    | none =>
      (Pattern.dates.findSome? fun pattern => (pattern.read? chars).bind Reading.date?).map
        DateTime.atMidnight

/-- The timestamp a text stands for when it carries an offset. -/
def readOffset? (text : String) : Option OffsetDateTime := OffsetDateTime.read? (trim text.toList)

def hasOffset (text : String) : Bool := (readOffset? text).isSome

end DueReminders.Calendar
