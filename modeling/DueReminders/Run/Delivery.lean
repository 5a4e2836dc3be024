import DueReminders.Files.Archive
import DueReminders.Mail.Message
import DueReminders.Settings

/-! Sending the documents of a run. A document that cannot be sent is noted and does not keep the
others from being sent; one that cannot be archived is sent all the same. -/
namespace DueReminders

/-- Where mails are handed over; a sink may change with every mail and refuse any. -/
abbrev Sink (τ : Type) := Envelope → StateM τ (Except Failure Unit)

/-- What became of a document. -/
structure Delivery where
  email : String
  outcome : Except Failure Unit

def Settings.envelope (settings : Settings) (today : Date) (document : Document) : Envelope where
  sender := settings.sender
  recipient := document.email
  copyTo := settings.copyTo
  subject := formatSubject settings.subject today
  html := document.html

/-- Where copies of documents are kept; an archive may change with every document and refuse any. -/
abbrev Archive (φ : Type) := Document → StateM φ (Except FileFault Unit)

/-- The archive in the folder of the settings, or none that keeps nothing. -/
def Settings.archive (settings : Settings) : Archive FileTree := fun document files =>
  match settings.archiveFolder with
  | some folder =>
    let (answer, files) := files.archive folder document.email document.html
    (answer.map fun _ => (), files)
  | none => (.ok (), files)

namespace Delivery

/-- Archive one document, then send it. What the archive answers is left aside. -/
def perform {φ τ : Type} (archive : Archive φ) (settings : Settings) (today : Date) (sink : Sink τ)
    (document : Document) : StateM (φ × τ) Delivery := fun (store, state) =>
  let (_, store) := (archive document).run store
  let (outcome, state) := (sink (settings.envelope today document)).run state
  (⟨document.email, outcome⟩, store, state)

def performAll {φ τ : Type} (archive : Archive φ) (settings : Settings) (today : Date) (sink : Sink τ)
    (documents : List Document) : StateM (φ × τ) (List Delivery) :=
  documents.mapM (perform archive settings today sink)

def sent? (delivery : Delivery) : Option String :=
  match delivery.outcome with
  | .ok () => some delivery.email
  | .error _ => none

def failed? (delivery : Delivery) : Option (String × Failure) :=
  match delivery.outcome with
  | .ok () => none
  | .error failure => some (delivery.email, failure)

end Delivery
end DueReminders
