import DueReminders.Calendar.Lenient

/-! Time zones. A zone is its name and the map from universal time to the offset of its wall clock;
an offset always stays below a day. -/
namespace DueReminders

structure Zone where
  name : String
  /-- Seconds the wall clock is ahead, at an instant counted in seconds since 1970. -/
  offsetAt : Int → Int
  offset_bounds : ∀ instant, -86400 < offsetAt instant ∧ offsetAt instant < 86400

namespace Zone

def universal (name : String) : Zone := ⟨name, fun _ => 0, fun _ => by decide⟩

/-- A zone from any map of instants to offsets; an offset of a day or more counts as none. -/
def ofOffsets (name : String) (offsets : Int → Int) : Zone where
  name
  offsetAt instant :=
    if -86400 < offsets instant ∧ offsets instant < 86400 then offsets instant else 0
  offset_bounds instant := by split <;> simp_all

/-- The wall clock of the zone when universal time is `universal`. -/
def wall? (zone : Zone) (universal : DateTime) : Option DateTime :=
  universal.addSeconds? (zone.offsetAt universal.epochSeconds)

end Zone

/-- The same instant on the wall clock of a zone. -/
def OffsetDateTime.inZone? (stamp : OffsetDateTime) (zone : Zone) : Option DateTime :=
  stamp.toUniversal?.bind zone.wall?

/-- The time a text stands for on the wall clock of a zone. A text without an offset is taken to be
on that clock already. -/
def Calendar.readInZone? (zone : Zone) (text : String) : Option DateTime :=
  match readOffset? text with
  | some stamp => stamp.inZone? zone
  | none => read? text

end DueReminders
