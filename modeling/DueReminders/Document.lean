import DueReminders.Digest
import DueReminders.Template.ItemTemplate
import DueReminders.Template.Tokens

/-! The documents of a digest: one per recipient with something due, made from a template with a
block and a list token for every bucket. -/
namespace DueReminders

/-- The template of a whole document and the template of one item in it. -/
structure Templates where
  digest : String
  item : String
  deriving DecidableEq, Repr

/-- A finished digest for one recipient. -/
structure Document where
  email : String
  html : String
  itemCount : Nat
  deriving DecidableEq, Repr

namespace Templates

/-- Keep the blocks of the buckets with items and drop the others, in bucket order. -/
def resolveBlocks (template : List Char) (recipient : RecipientItems) :
    Except Template.Unresolved (List Char) :=
  Bucket.all.foldlM
    (fun document bucket =>
      Template.resolveNamed document bucket.blockName.toList (!(recipient.items bucket).isEmpty))
    template

def tokens (templates : Templates) (editUrl : String) (today : Date) (recipient : RecipientItems) :
    Template.TokenTable :=
  Bucket.all.foldl
    (fun table bucket =>
      table.insert (String.ofList (Template.token bucket.listToken.toList))
        (String.ofList
          (Template.renderItems templates.item.toList editUrl (recipient.items bucket))))
    (Record.empty.insert (String.ofList (Template.token "TODAY".toList)) (longDate today))

/-- The document of one recipient; none when nothing is due. -/
def render (templates : Templates) (editUrl : String) (today : Date) (recipient : RecipientItems) :
    Except Template.Unresolved (Option Document) := do
  if recipient.isEmpty then
    return none
  let document ← resolveBlocks templates.digest.toList recipient
  let html := (templates.tokens editUrl today recipient).replace document
  return some ⟨recipient.email, String.ofList html, recipient.total⟩

theorem render_of_isEmpty (templates : Templates) (editUrl : String) (today : Date)
    {recipient : RecipientItems} (empty : recipient.isEmpty = true) :
    templates.render editUrl today recipient = .ok none := by
  simp only [render, empty, if_true]
  rfl

/-- A document is the template with its blocks resolved and its tokens replaced. -/
theorem render_of_due (templates : Templates) (editUrl : String) (today : Date)
    {recipient : RecipientItems} (due : recipient.isEmpty = false) :
    templates.render editUrl today recipient =
      (resolveBlocks templates.digest.toList recipient).map fun document =>
        some {
          email := recipient.email
          html := String.ofList ((templates.tokens editUrl today recipient).replace document)
          itemCount := recipient.total } := by
  simp only [render, due, Bool.false_eq_true, if_false]
  cases resolveBlocks templates.digest.toList recipient with
  | error cause => rfl
  | ok document => rfl

/-- The documents of all recipients with something due, in order. -/
def renderAll (templates : Templates) (editUrl : String) (today : Date) (digest : Digest) :
    Except Template.Unresolved (List Document) := do
  let documents ← digest.recipients.mapM (templates.render editUrl today)
  return documents.filterMap id

end Templates

/-- A subject line with the long date in place of its mark. -/
def formatSubject (format : String) (today : Date) : String :=
  String.ofList (Text.replaceAll ['{', '0', '}'] today.long format.toList)

end DueReminders
