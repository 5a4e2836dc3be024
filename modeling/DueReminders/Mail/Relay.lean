import DueReminders.Files.SystemFault
import DueReminders.Mail.Message
import DueReminders.Run.Delivery

/-! The mail relay as a sink. A mail is composed first, so that one with a bad address never reaches
the relay. -/
namespace DueReminders

/-- Why the relay did not take a mail. -/
inductive RelayFault where
  | connection (fault : SystemFault)
  | permanent (code : Nat) (lines : List String)
  | transient (code : Nat) (lines : List String)
  deriving DecidableEq, Repr

def RelayFault.message : RelayFault → String
  | .connection fault => "Connection error: " ++ fault.message
  | .permanent code lines =>
    "permanent error (" ++ String.ofList (Number.digits code) ++ "): " ++ " ".intercalate lines
  | .transient code lines =>
    "transient error (" ++ String.ofList (Number.digits code) ++ "): " ++ " ".intercalate lines

def RelayFault.toFailure (fault : RelayFault) : Failure := ⟨.mail, "SMTP: " ++ fault.message⟩

/-- A relay that no connection leads to. -/
def RelayFault.unreachable : RelayFault := .connection .networkUnreachable

/-- Takes composed mails; it may change with every mail and refuse any. -/
abbrev Relay (τ : Type) := Message → StateM τ (Except RelayFault Unit)

/-- Compose a mail and hand it to the relay. -/
def Sink.ofRelay {τ : Type} (relay : Relay τ) : Sink τ := fun envelope =>
  match Message.ofEnvelope envelope with
  | .error error => pure (.error error.toFailure)
  | .ok message => do return (← relay message).mapError RelayFault.toFailure

end DueReminders
