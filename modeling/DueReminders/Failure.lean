/-! What can go wrong in a run, by the part of the work it stops. Each failure carries the words of
its cause. -/
namespace DueReminders

/-- The part of the work a failure belongs to. -/
inductive Failure.Kind where
  | configuration
  | listData
  | template
  | site
  | request
  | mail
  | file
  deriving DecidableEq, Repr

structure Failure where
  kind : Failure.Kind
  cause : String
  deriving DecidableEq, Repr

namespace Failure

/-- The sentence a failure of this kind begins with. -/
def Kind.lead : Kind → String
  | .configuration => "Invalid configuration"
  | .listData => "Failed to parse list data"
  | .template => "Malformed template"
  | .site => "Failed to access SharePoint API"
  | .request => "Failed to send HTTP request"
  | .mail => "Failed to send email"
  | .file => "Failed to access file"

/-- A failure as the reader of a report sees it. -/
def message (failure : Failure) : String := failure.kind.lead ++ ": " ++ failure.cause

end Failure

theorem exists_of_bind_eq_ok {ε α β : Type} {step : Except ε α} {next : α → Except ε β} {result : β}
    (done : step >>= next = .ok result) : ∃ value, step = .ok value ∧ next value = .ok result := by
  cases step with
  | error cause => cases done
  | ok value => exact ⟨value, rfl, done⟩

end DueReminders
