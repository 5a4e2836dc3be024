import DueReminders.Calendar.DateTime
import DueReminders.Calendar.Span

/-! Urgency buckets. The bucket of a due date depends on the day, and for past dates on how long
before the due date the item was last touched. -/
namespace DueReminders

inductive Bucket where
  | wayOverdue
  | overdue
  | today
  | tomorrow
  | thisWeek
  deriving DecidableEq, Repr

namespace Bucket

/-- All buckets in the order a document shows them. -/
def all : List Bucket := [.wayOverdue, .overdue, .today, .tomorrow, .thisWeek]

theorem mem_all (bucket : Bucket) : bucket ∈ all := by cases bucket <;> decide

theorem nodup_all : all.Nodup := by decide

/-- The template block that is shown when the bucket has items. -/
def blockName : Bucket → String
  | .wayOverdue => "HAS_WAY_OVERDUE_TASK"
  | .overdue => "HAS_OVERDUE_TASK"
  | .today => "HAS_TODAY_TASKS"
  | .tomorrow => "HAS_TOMORROW_TASKS"
  | .thisWeek => "HAS_THISWEEK_TASKS"

def listToken : Bucket → String
  | .wayOverdue => "WAY_OVERDUE_TASKS"
  | .overdue => "OVERDUE_TASKS"
  | .today => "TODAY_TASKS"
  | .tomorrow => "TOMORROW_TASKS"
  | .thisWeek => "THISWEEK_TASKS"

theorem blockName_injective {a b : Bucket} (same : a.blockName = b.blockName) : a = b := by
  revert same
  cases a <;> cases b <;> decide

theorem listToken_injective {a b : Bucket} (same : a.listToken = b.listToken) : a = b := by
  revert same
  cases a <;> cases b <;> decide

/-- The moment `days` before the due time, if so many days are a length of time and the calendar has
the moment. -/
def threshold? (due : DateTime) (days : Int) : Option DateTime :=
  (Span.ofDays? days).bind fun span => due.daysBack? span.days

/-- An item last modified before the threshold has been left alone for too long. -/
def isStale (due : DateTime) (modified : Option DateTime) (days : Int) : Bool :=
  match modified, threshold? due days with
  | some modified, some threshold => decide (modified.Before threshold)
  | _, _ => false

/-- A due date that is neither today nor past nor tomorrow leaves room for the week's Saturday. -/
theorem endOfWeek?_isSome_of_later {due today : Date} (other : due ≠ today)
    (notPast : ¬due < today) (notNext : today.next? ≠ some due) : today.endOfWeek?.isSome = true := by
  apply Date.endOfWeek?_isSome_of_two_more
  have last := due.le_last
  rw [Date.lt_iff] at notPast
  rw [Date.next?, Date.addDays?, ne_eq, Date.ofNumber?_eq_some_iff] at notNext
  have distinct : due.number ≠ today.number := fun same => other (Date.ext same)
  unfold Date.lastNumber
  omega

/-- The bucket of a due time as seen on `today`; none once the due date lies after the week. -/
def ofDates (due : DateTime) (modified : Option DateTime) (today : Date) (days : Int) :
    Option Bucket :=
  if same : due.date = today then some .today
  else if past : due.date < today then
    some (if isStale due modified days then .wayOverdue else .overdue)
  else if next : today.next? = some due.date then some .tomorrow
  else
    let saturday := today.endOfWeek?.get (endOfWeek?_isSome_of_later same past next)
    if due.date ≤ saturday then some .thisWeek else none

end Bucket
end DueReminders
