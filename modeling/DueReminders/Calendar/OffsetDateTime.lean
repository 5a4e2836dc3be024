import DueReminders.Calendar.Pattern

/-! Timestamps that carry their distance from universal time, in the fixed-width notation of the
Internet date-time profile. -/
namespace DueReminders

open Calendar Number

/-- A wall-clock time and the seconds its clock is ahead of universal time. -/
structure OffsetDateTime where
  wall : DateTime
  offset : Int
  deriving DecidableEq

namespace OffsetDateTime

/-- Exactly `width` digits. -/
def takeFixed? (width : Nat) (text : List Char) : Option (Nat × List Char) :=
  match takeDigits width text with
  | (taken, rest) => if taken.length = width then some (ofDigits taken, rest) else none

def takeChar? (accepted : List Char) : List Char → Option (List Char)
  | c :: rest => if c ∈ accepted then some rest else none
  | [] => none

/-- `Z`, or a sign, hours below 24 and minutes below 60. The minus may be the mathematical one. -/
def takeOffset? (text : List Char) : Option (Int × List Char) :=
  match takeChar? ['Z', 'z'] text with
  | some rest => some (0, rest)
  | none => do
    let (sign, rest) ←
      match text with
      | '+' :: rest => some (1, rest)
      | '-' :: rest => some (-1, rest)
      | '\u2212' :: rest => some (-1, rest)
      | _ => none
    let (hours, rest) ← takeFixed? 2 rest
    let rest ← takeChar? [':'] rest
    let (minutes, rest) ← takeFixed? 2 rest
    if hours < 24 ∧ minutes < 60 then some (sign * ((hours * 3600 + minutes * 60 : Nat) : Int), rest)
    else none

def read? (text : List Char) : Option OffsetDateTime := do
  let (year, rest) ← takeFixed? 4 text
  let rest ← takeChar? ['-'] rest
  let (month, rest) ← takeFixed? 2 rest
  let rest ← takeChar? ['-'] rest
  let (day, rest) ← takeFixed? 2 rest
  let rest ← takeChar? ['T', 't', ' '] rest
  let (hour, rest) ← takeFixed? 2 rest
  let rest ← takeChar? [':'] rest
  let (minute, rest) ← takeFixed? 2 rest
  let rest ← takeChar? [':'] rest
  let (second, rest) ← takeFixed? 2 rest
  let (nano, rest) ← takeFraction? rest
  let (offset, rest) ← takeOffset? rest
  if second ≤ 60 ∧ rest = [] then
    let reading : Reading := { year, month, day, hour, minute, second, nano }
    reading.dateTime?.map fun wall => ⟨wall, offset⟩
  else none

def toUniversal? (stamp : OffsetDateTime) : Option DateTime := stamp.wall.addSeconds? (-stamp.offset)

end OffsetDateTime
end DueReminders
