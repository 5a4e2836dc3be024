/-! English names of months and weekdays, full or cut to three letters, in any case. -/
namespace DueReminders.Calendar

def monthNames : List String :=
  ["January", "February", "March", "April", "May", "June", "July", "August", "September",
    "October", "November", "December"]

def weekdayNames : List String :=
  ["Sunday", "Monday", "Tuesday", "Wednesday", "Thursday", "Friday", "Saturday"]

def monthName (month : Nat) : String := monthNames.getD (month - 1) ""

def weekdayName (daysFromSunday : Nat) : String := weekdayNames.getD daysFromSunday ""

/-- The rest of `text` after `word`, compared without regard to ASCII case. -/
def dropWord? : List Char → List Char → Option (List Char)
  | [], text => some text
  | _ :: _, [] => none
  | w :: word, c :: text => if w.toLower = c.toLower then dropWord? word text else none

/-- The position of the first name `text` starts with, and the rest of the text. Three letters
decide; the remaining letters of the name are consumed when they follow. -/
def takeName? (names : List String) (text : List Char) : Option (Nat × List Char) :=
  names.zipIdx.findSome? fun (name, position) =>
    (dropWord? (name.toList.take 3) text).map fun rest =>
      (position, (dropWord? (name.toList.drop 3) rest).getD rest)

end DueReminders.Calendar
