import DueReminders.Digest
import DueReminders.Text.Blank

/-! Sorting items into recipients' buckets. -/
namespace DueReminders

/-- The fields an item is judged by, and the days after which an overdue item is way overdue. -/
structure Criteria where
  filterField : String
  filterValue : String
  dueField : String
  modifiedField : String
  overdueDays : Int
  deriving DecidableEq, Repr

namespace Criteria

/-- Items with the filter value are left out; a missing field counts as empty. -/
def excludes (criteria : Criteria) (item : Item) : Bool :=
  item.raw criteria.filterField == criteria.filterValue

/-- The bucket of an item's dates, once its due time is known. -/
def bucketOf (criteria : Criteria) (today : Date) (item : Item) (due : DateTime) : Option Bucket :=
  Bucket.ofDates due (item.dateTime? criteria.modifiedField) today criteria.overdueDays

/-- The bucket of an item, whoever it belongs to. -/
def bucket? (criteria : Criteria) (today : Date) (item : Item) : Option Bucket :=
  if criteria.excludes item then none
  else (item.dateTime? criteria.dueField).bind (criteria.bucketOf today item)

/-- Put an item with a known recipient and due time into the digest. The recipient is named even
when the item falls into no bucket. -/
def place (criteria : Criteria) (today : Date) (item : Item) (email : String) (due : DateTime)
    (digest : Digest) : Digest :=
  match criteria.bucketOf today item due with
  | some bucket => digest.push email bucket item
  | none => digest.enter email

end Criteria

/-- Finds the address an item's reminder goes to; asking may change its state. -/
abbrev Resolver (σ : Type) := Item → StateM σ (Option String)

namespace Digest

/-- Judge one item: an excluded one is passed over unasked, and one without an address or a due time
is dropped. -/
def add {σ : Type} (criteria : Criteria) (today : Date) (resolve : Resolver σ) (digest : Digest)
    (item : Item) : StateM σ Digest := do
  if criteria.excludes item then
    return digest
  let email ← resolve item
  match email, item.dateTime? criteria.dueField with
  | some email, some due =>
    if Text.isBlankText email then return digest
    else return criteria.place today item email due digest
  | _, _ => return digest

/-- Sort items into a digest, asking for each address in turn. -/
def classifyM {σ : Type} (criteria : Criteria) (today : Date) (resolve : Resolver σ)
    (items : List Item) : StateM σ Digest :=
  items.foldlM (add criteria today resolve) empty

def classify (criteria : Criteria) (today : Date) (resolve : Item → Option String)
    (items : List Item) : Digest :=
  ((classifyM criteria today (fun item => pure (resolve item)) items).run ()).1

end Digest
end DueReminders
