import DueReminders.Notice
import DueReminders.Run.Delivery

/-! Telling the operator of a failure. -/
namespace DueReminders

/-- Send the notice of a failure with its details. -/
def Settings.notify {τ : Type} (settings : Settings) (today : Date) (sink : Sink τ) (details : String) :
    StateM τ (Except Failure Unit) :=
  sink (settings.failureNotice today details)

end DueReminders
