import DueReminders.Log
import DueReminders.Run.Notification
import DueReminders.Run.Report
import DueReminders.Site.Client

/-! The whole program: read the settings, load the templates, see that the site answers, carry out
the run, and tell the operator when any of it went wrong. -/
namespace DueReminders

/-- What went wrong, and what caused it, the nearest cause first. -/
structure Problem where
  headline : String
  causes : List String
  deriving DecidableEq, Repr

namespace Problem

def ofFailure (failure : Failure) : Problem := ⟨failure.message, []⟩

/-- The failure as the cause of a larger problem. -/
def causedBy (headline : String) (failure : Failure) : Problem := ⟨headline, [failure.message]⟩

def indentLines (width : Nat) (text : String) : List Char :=
  text.toList.flatMap fun c => if c = '\n' then '\n' :: List.replicate width ' ' else [c]

/-- The problem in full, with its causes below. Several causes are numbered. A trace of calls, which
is added behind them where the environment asks for one, is left out. -/
def details (problem : Problem) : String :=
  let shown : List Char :=
    match problem.causes with
    | [] => []
    | [cause] => "\n\nCaused by:\n    ".toList ++ indentLines 4 cause
    | causes =>
      "\n\nCaused by:".toList ++ causes.zipIdx.flatMap fun (cause, position) =>
        let number := Number.digits position
        '\n' :: List.replicate (5 - number.length) ' ' ++ number ++ [':', ' '] ++ indentLines 7 cause
  problem.headline ++ String.ofList shown

/-- The problem of a run in which mails could not be sent. -/
def ofReport (report : Report) : Problem :=
  let line (entry : String × Failure) : String := entry.1 ++ ": " ++ entry.2.message
  let count (number : Nat) : String := String.ofList (Number.digits number)
  ⟨count report.failed.length ++ " of " ++ count (report.failed.length + report.sent.length) ++
    " digest(s) could not be sent:\n" ++ "\n".intercalate (report.failed.map line), []⟩

end Problem

namespace Program

/-- Parts of the program that write to the log. -/
def mainPart : String := "task_digest"
def sitePart : String := "task_digest::sharepoint::client"
def noticePart : String := "task_digest::worker::notify"

/-- How the program ended. -/
structure Outcome where
  exitCode : Nat
  complaint : String
  log : List LogEntry
  deriving DecidableEq, Repr

variable {σ τ : Type}

/-- Load the templates, connect and run. Mails that could not be sent are a problem in the end. -/
def execute (settings : Settings) (today : Date) (id : RunId) (transport : Site.Transport σ)
    (sink : Sink τ) (before : Surroundings σ τ) :
    Except Problem Report × List LogEntry × Surroundings σ τ :=
  match Templates.load before.files settings.templateFolder with
  | .error failure => (.error (.causedBy "Failed to load email templates" failure), [], before)
  | .ok templates =>
    let log : List LogEntry :=
      [⟨.info, sitePart, "Connecting to SharePoint: " ++ settings.siteUrl ++ " ..."⟩]
    match (Site.connect settings transport).run.run before.source with
    | (.error failure, source) => (.error (.ofFailure failure), log, { before with source })
    | (.ok title, source) =>
      let log := log ++
        [⟨.info, sitePart, "Connected to SharePoint site \x27" ++ title.getD "<untitled>" ++ "\x27"⟩]
      match (settings.run templates today id (Site.source settings transport) sink).run
          { before with source } with
      | (.error failure, after) => (.error (.ofFailure failure), log, after)
      | (.ok report, after) =>
        (if report.hasFailures then .error (.ofReport report) else .ok report, log, after)

def failed (problem : Problem) (log : List LogEntry) : Outcome :=
  ⟨1, "Error: " ++ problem.details ++ "\n", log⟩

/-- Tell the operator of a problem. When that fails too, it becomes the problem that is shown. -/
def report (settings : Settings) (today : Date) (sink : Sink τ) (problem : Problem)
    (log : List LogEntry) (surroundings : Surroundings σ τ) : Outcome × Surroundings σ τ :=
  let log := log ++
    [⟨.error, mainPart,
        "Reminder run failed: " ++ ": ".intercalate (problem.headline :: problem.causes)⟩,
      ⟨.info, noticePart, "Sending failure notification to " ++ settings.operator⟩]
  let (answer, sent) := (settings.notify today sink problem.details).run surroundings.sink
  let shown :=
    match answer with
    | .ok () => problem
    | .error failure => .causedBy "Failed to send error notification" failure
  (failed shown log, { surroundings with sink := sent })

def run (given : Variables) (now : DateTime) (id : RunId) (transport : Site.Transport σ)
    (sink : Sink τ) (before : Surroundings σ τ) : Outcome × Surroundings σ τ :=
  match Settings.read given with
  | .error error =>
    (failed ⟨error.message, []⟩ [⟨.error, mainPart, "Config error: " ++ error.message⟩], before)
  | .ok settings =>
    let today := ((settings.zone.wall? now).getD now).date
    match execute settings today id transport sink before with
    | (.error problem, log, after) => report settings today sink problem log after
    | (.ok report, log, after) =>
      let words := "Reminder run " ++ report.id.text ++ " complete: " ++
        String.ofList (Number.digits report.sent.length) ++ " digest(s) sent"
      (⟨0, "", log ++ [⟨.info, mainPart, words⟩]⟩, after)

def logVariable : String := "RUST_LOG"

def logFilter (given : Variables) : LogFilter :=
  match given logVariable with
  | some text => .read text
  | none => .standard

end Program
end DueReminders
