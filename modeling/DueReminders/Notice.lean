import DueReminders.Document
import DueReminders.Mail.Message
import DueReminders.Settings

/-! The mail that tells the operator of a failed run. -/
namespace DueReminders

/-- The three characters of markup as entities. -/
def escapeMarkup (text : List Char) : List Char :=
  text.flatMap fun c =>
    if c = '&' then "&amp;".toList
    else if c = '<' then "&lt;".toList
    else if c = '>' then "&gt;".toList
    else [c]

/-- The notice goes to the operator, and in copy to the operator as well. -/
def Settings.failureNotice (settings : Settings) (today : Date) (details : String) : Envelope where
  sender := settings.sender
  recipient := settings.operator
  copyTo := some settings.operator
  subject := formatSubject settings.failureSubject today
  html := "<pre>" ++ String.ofList (escapeMarkup details.toList) ++ "</pre>"

end DueReminders
