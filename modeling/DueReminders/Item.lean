import DueReminders.Calendar.Lenient
import DueReminders.Calendar.Writing
import DueReminders.Record

/-! List items: an id and fields by name. A field holds a text, a wall-clock time, or a reference to
another record together with the words shown for it. -/
namespace DueReminders

inductive Field where
  | text (content : String)
  | moment (value : DateTime)
  | reference (id : Int) (shown : String)
  deriving DecidableEq

namespace Field

/-- The text a field is compared by and parsed from. -/
def raw : Field → String
  | .text content => content
  | .moment value => String.ofList value.compact
  | .reference _ shown => shown

/-- The time a field stands for: its own, or the one its text reads as. -/
def dateTime? : Field → Option DateTime
  | .moment value => some value
  | field => Calendar.read? field.raw

/-- What a reader of a mail sees. Times, and texts that read as a time, become long dates. -/
def shown : Field → String
  | .reference _ shown => shown
  | .moment value => longDate value.date
  | .text content =>
    match Calendar.read? content with
    | some time => longDate time.date
    | none => content

end Field

structure Item where
  id : Int
  fields : Record Field
  deriving DecidableEq

namespace Item

def bare (id : Int) : Item := ⟨id, Record.empty⟩

def set (item : Item) (name : String) (field : Field) : Item :=
  { item with fields := item.fields.insert name field }

def get? (item : Item) (name : String) : Option Field := item.fields.get? name

/-- The text of a field; a missing field reads as the empty text. -/
def raw (item : Item) (name : String) : String :=
  match item.get? name with
  | some field => field.raw
  | none => ""

/-- The id a field refers to, if it is a reference. -/
def referenceId? (item : Item) (name : String) : Option Int :=
  match item.get? name with
  | some (.reference id _) => some id
  | _ => none

def dateTime? (item : Item) (name : String) : Option DateTime := (item.get? name).bind Field.dateTime?

def shown (item : Item) : Record String := item.fields.map Field.shown

theorem get?_shown (item : Item) (name : String) :
    item.shown.get? name = (item.get? name).map Field.shown := by
  rw [shown, Record.map, Record.get?_filterMap]
  cases found : item.fields.get? name <;> simp [get?, found]

end Item
end DueReminders
