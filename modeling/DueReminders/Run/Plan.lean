import DueReminders.Document
import DueReminders.Run.Source
import DueReminders.Settings

/-! What a run is going to send. All reading and rendering comes first, so a run that fails has sent
nothing. -/
namespace DueReminders

/-- What a run learns from its source. -/
structure Gathered where
  editUrl : String
  items : List Item
  directory : Directory

structure Plan where
  itemCount : Nat
  recipientCount : Nat
  documents : List Document
  deriving DecidableEq, Repr

namespace Plan

/-- The digest of fetched items with known addresses. -/
def digest (settings : Settings) (today : Date) (directory : Directory) (items : List Item) : Digest :=
  Digest.classify settings.criteria today (directory.recipient? settings.assigneeField) items

/-- The plan for fetched items, if the templates can be used. -/
def ofItems (settings : Settings) (templates : Templates) (today : Date) (gathered : Gathered) :
    Except Failure Plan := do
  let digest := digest settings today gathered.directory gathered.items
  let documents ←
    (templates.renderAll gathered.editUrl today digest).mapError Template.Unresolved.toFailure
  return ⟨gathered.items.length, digest.size, documents⟩

/-- Ask the source for the form, the items and the addresses, in this order. -/
def gather {σ : Type} (settings : Settings) (source : ItemSource σ) : Call σ Gathered := do
  let editUrl ← source.editFormUrl
  let items ← source.fetchItems
  let directory ← Directory.resolve source settings.criteria settings.assigneeField items
  return ⟨editUrl, items, directory⟩

def prepare {σ : Type} (settings : Settings) (templates : Templates) (today : Date)
    (source : ItemSource σ) : Call σ Plan := do
  let gathered ← gather settings source
  liftM (ofItems settings templates today gathered)

end Plan
end DueReminders
