import DueReminders.Classify
import DueReminders.Failure

/-! Where a run gets its items and addresses from. A source may change with every call and may fail
at any; after a failure nothing more is asked. -/
namespace DueReminders

/-- A call that may fail and may change the state of what is called. -/
abbrev Call (σ α : Type) := ExceptT Failure (StateM σ) α

structure ItemSource (σ : Type) where
  /-- Address of the form that edits an item. -/
  editFormUrl : Call σ String
  fetchItems : Call σ (List Item)
  /-- Mail address of a user, if there is one. -/
  resolveEmail : Int → Call σ (Option String)

/-- The mail addresses of the users asked for, in the order they were asked. -/
abbrev Directory := List (Int × Option String)

namespace Directory

/-- The users the open items are assigned to, each once, in the order they first appear. -/
def assignees (criteria : Criteria) (assigneeField : String) (items : List Item) : List Int :=
  ((items.filter fun item => !criteria.excludes item).filterMap (·.referenceId? assigneeField)).eraseDups

/-- Ask for one user after the other, up to the first failure. -/
def ask {σ : Type} (source : ItemSource σ) (users : List Int) : Call σ Directory :=
  users.mapM fun user => do return (user, ← source.resolveEmail user)

def resolve {σ : Type} (source : ItemSource σ) (criteria : Criteria) (assigneeField : String)
    (items : List Item) : Call σ Directory :=
  ask source (assignees criteria assigneeField items)

def email? (directory : Directory) (user : Int) : Option String := (directory.lookup user).join

def recipient? (directory : Directory) (assigneeField : String) (item : Item) : Option String :=
  (item.referenceId? assigneeField).bind directory.email?

end Directory
end DueReminders
