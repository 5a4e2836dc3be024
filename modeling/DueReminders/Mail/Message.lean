import DueReminders.Mail.Mailbox

/-! Messages: what a run asks to be sent, and the mail made of it. -/
namespace DueReminders

/-- A mail as a run asks for it, with addresses that may still turn out to be none. -/
structure Envelope where
  sender : String
  recipient : String
  copyTo : Option String
  subject : String
  html : String
  deriving DecidableEq, Repr

/-- A mail with checked addresses. -/
structure Message where
  sender : Mailbox
  recipient : Mailbox
  copyTo : Option Mailbox
  subject : String
  html : String
  deriving DecidableEq, Repr

/-- Why headers do not make a mail. -/
inductive MessageFault where
  | noSender
  | manySenders
  | noRecipient
  | notAscii
  deriving DecidableEq, Repr

def MessageFault.message : MessageFault → String
  | .noSender => "missing source address, invalid envelope"
  | .manySenders => "there can only be one source address"
  | .noRecipient => "missing destination address, invalid envelope"
  | .notAscii => "message contains non-ASCII characters"

def MessageFault.toFailure (fault : MessageFault) : Failure :=
  ⟨.mail, "message build: " ++ fault.message⟩

namespace Message

/-- The mail of an envelope. Sender, recipient and copy are read in this order, and a blank copy
address counts as none. -/
def ofEnvelope (envelope : Envelope) : Except AddressError Message := do
  let sender ← Mailbox.read envelope.sender
  let recipient ← Mailbox.read envelope.recipient
  let copyTo ←
    match envelope.copyTo.filter fun copy => !Text.isBlankText copy with
    | some copy => some <$> Mailbox.read copy
    | none => pure none
  return ⟨sender, recipient, copyTo, envelope.subject, envelope.html⟩

/-- The kinds of the parts: first the plain text, then the document. -/
def parts : List String := ["text/plain; charset=utf-8", "text/html; charset=utf-8"]

/-- Every line end as mail has it, with a return before the feed. -/
def mailLines : Bool → List Char → List Char
  | _, [] => []
  | afterReturn, c :: rest =>
    if c = '\n' ∧ ¬afterReturn then '\r' :: '\n' :: mailLines false rest
    else c :: mailLines (c == '\r') rest

def body (message : Message) : String := String.ofList (mailLines false message.html.toList)

def recipients (message : Message) : List Address :=
  message.recipient.address :: (message.copyTo.map Mailbox.address).toList

end Message
end DueReminders
