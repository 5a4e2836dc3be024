import DueReminders.Zone.Basic
import DueReminders.Zone.Current
import DueReminders.Zone.Histories

/-! Zones by name. Names are compared as they are, so case and blanks matter. -/
namespace DueReminders.Zone

/-- The zone of a name in the time zone database. All names of the database are known, but not all
of its past: a zone with a kept history has the offsets of the database from 1970 on, and any other
zone follows the rule in force now at every instant. So for times before the last change of such a
zone, and for all times before 1970, the offset may differ from that of the database. -/
def named? (name : String) : Option Zone :=
  match Histories.named.find? fun (_, names) => names.contains name with
  | some (history, _) => some (ofOffsets name history.offsetAt)
  | none =>
    (Current.named.find? fun (_, names) => names.contains name).map
      fun (rule, _) => ofOffsets name rule.offsetAt

end DueReminders.Zone
