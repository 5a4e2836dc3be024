import DueReminders.Failure
import DueReminders.Item
import DueReminders.Json.Reader
import DueReminders.Zone.Basic

/-! Rows of a list as the site sends them, and the items they stand for. -/
namespace DueReminders

namespace Field

/-- A reference to another record, told by its id; without words of its own its id is shown. -/
def reference? (members : Json.Members) : Option Field :=
  let refer (id : Int) (shown : Option Json) : Field :=
    .reference id ((shown.bind Json.text?).getD (String.ofList (Number.signed id)))
  match (members.lookup "LookupId").bind Json.int64? with
  | some id => some (refer id (members.lookup "LookupValue"))
  | none =>
    match (members.lookup "Id").bind Json.int64? with
    | some id => some (refer id (members.lookup "Title"))
    | none => none

/-- A text that carries an offset is a moment on the clock of the zone. -/
def ofText? (zone : Zone) (content : String) : Option Field :=
  match Calendar.readOffset? content with
  | some stamp => (stamp.inZone? zone).map .moment
  | none => some (.text content)

/-- The words a list of values joins. Times and values without a field have none. -/
def words? : Option Field → Option String
  | some (.text content) => some content
  | some (.reference _ shown) => some shown
  | _ => none

mutual

/-- The field a value stands for, if it has a shown form. -/
def ofJson? (zone : Zone) : Json → Option Field
  | .null => none
  | .boolean value => some (.text (if value then "true" else "false"))
  | .number value => some (.text (String.ofList value.text))
  | .text content => ofText? zone content
  | .object members => reference? members
  | .array elements =>
    match allWords zone elements with
    | [] => none
    | words => some (.text ("; ".intercalate words))

def allWords (zone : Zone) : List Json → List String
  | [] => []
  | value :: rest => (words? (ofJson? zone value)).toList ++ allWords zone rest

end

end Field

abbrev Row := Json.Members

namespace Row

/-- Columns that describe the row to programs and hold no data. -/
def isAnnotation (name : String) : Bool :=
  ["odata.", "__"].any fun mark => mark.toList.isPrefixOf name.toList

/-- The id under `Id`, or under `ID` where there is no column `Id`. -/
def id? (row : Row) : Option Int :=
  ((row.lookup "Id").or (row.lookup "ID")).bind Json.int64?

/-- The columns with a shown form. -/
def fields (zone : Zone) (row : Row) : Record Field :=
  Record.ofList (row.filterMap fun (name, value) =>
    if isAnnotation name then none else (Field.ofJson? zone value).map (name, ·))

/-- The item of a row; a row without an id is none. -/
def item (zone : Zone) (row : Row) : Except Failure Item :=
  match row.id? with
  | some id => .ok ⟨id, row.fields zone⟩
  | none => .error ⟨.listData, "list item without numeric Id"⟩

/-- The items of the rows that have an id, in order. -/
def items (zone : Zone) (rows : List Row) : List Item :=
  rows.filterMap fun row => (row.item zone).toOption

end Row
end DueReminders
