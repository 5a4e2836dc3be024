import DueReminders.Proofs.Program.Notice
import DueReminders.Proofs.Run.Accounting
import DueReminders.Proofs.Settings.Validation

/-! When the program ends well, and what the operator is told when it does not. -/
namespace DueReminders

namespace Settings

theorem offers_eq_nil {σ τ φ : Type} {settings : Settings} {archive : Archive φ} {templates : Templates}
    {today : Date} {id : RunId} {source : ItemSource σ} {sink : Sink τ}
    {before after : Surroundings σ τ φ} {failure : Failure}
    (refused : (settings.runKeeping archive templates today id source sink).run before =
      (.error failure, after)) :
    settings.offers archive templates today id source sink before = [] := by
  rcases prepared : (Plan.prepare settings templates today source).run.run before.source with
    ⟨answer, asked⟩
  rw [runKeeping_eq, prepared] at refused
  cases answer with
  | error cause =>
    rw [offers, runKeeping_eq]
    simp only [prepared]
  | ok plan => cases refused

/-- The date in the zone of the settings at an instant of universal time. -/
def today (settings : Settings) (now : DateTime) : Date := ((settings.zone.wall? now).getD now).date

theorem operator_of_read {given : Variables} {settings : Settings} (valid : read given = .ok settings) :
    given "ERROR_TO" = some settings.operator := by
  unfold read readSolid at valid
  obtain ⟨siteUrl, -, valid⟩ := exists_of_bind_eq_ok valid
  obtain ⟨listTitle, -, valid⟩ := exists_of_bind_eq_ok valid
  obtain ⟨maxItems, -, valid⟩ := exists_of_bind_eq_ok valid
  obtain ⟨overdueDays, -, valid⟩ := exists_of_bind_eq_ok valid
  obtain ⟨sender, -, valid⟩ := exists_of_bind_eq_ok valid
  obtain ⟨operator, named, valid⟩ := exists_of_bind_eq_ok valid
  obtain ⟨server, -, valid⟩ := exists_of_bind_eq_ok valid
  obtain ⟨port, -, valid⟩ := exists_of_bind_eq_ok valid
  obtain ⟨secure, -, valid⟩ := exists_of_bind_eq_ok valid
  obtain ⟨zone, -, valid⟩ := exists_of_bind_eq_ok valid
  cases valid
  unfold Variables.required at named
  split at named
  · next content present =>
    cases named
    exact (Variables.withoutBlanks_eq_some_iff.mp present).1
  · cases named

end Settings

namespace Program

section

variable {σ τ : Type}

/-- The program gets as far as a report: the templates load, the site answers, and the run is
carried out and offers the mails. -/
inductive Reports (settings : Settings) (today : Date) (id : RunId) (transport : Site.Transport σ)
    (sink : Sink τ) (before : Surroundings σ τ) : Report → List Offer → Prop where
  | carriedOut {templates : Templates} {title : Option String} {connected : σ} {report : Report}
      {after : Surroundings σ τ}
      (loaded : Templates.load before.files settings.templateFolder = .ok templates)
      (answered : (Site.connect settings transport).run.run before.source = (.ok title, connected))
      (done : (settings.run templates today id (Site.source settings transport) sink).run
        { before with source := connected } = (.ok report, after)) :
      Reports settings today id transport sink before report
        (settings.offers settings.archive templates today id (Site.source settings transport) sink
          { before with source := connected })

/-- What is to be said of the end of the program and of all mails it offered. -/
structure Alerts (settings : Settings) (today : Date) (id : RunId) (transport : Site.Transport σ)
    (sink : Sink τ) (before : Surroundings σ τ) (ended : Outcome) (offers : List Offer) : Prop where
  /-- The program succeeds exactly when it gets to a report without failures. -/
  succeeds : ended.exitCode = 0 ↔
    ∃ report mails, Reports settings today id transport sink before report mails ∧ report.failed = []
  fails : ended.exitCode ≠ 0 → ended.exitCode = 1
  /-- What is reported is what the sink answered to the mails of the run. -/
  accounted : ∀ report mails, Reports settings today id transport sink before report mails →
    report.sent = mails.filterMap Offer.sent? ∧ report.failed = mails.filterMap Offer.failed?
  /-- After a report without failures nothing is offered beside the mails of the run. -/
  quiet : ∀ report mails, Reports settings today id transport sink before report mails →
    report.failed = [] → offers = mails
  /-- A report with failures is passed on in one notice, after all mails of the run. -/
  passedOn : ∀ report mails, Reports settings today id transport sink before report mails →
    report.failed ≠ [] → ∃ notice answer,
      offers = mails ++ [⟨notice, answer⟩] ∧ settings.Alarms notice ∧ notice.Lists report
  /-- Where there is no report, there is one notice and no other mail. -/
  stopped : (∀ report mails, ¬Reports settings today id transport sink before report mails) →
    ∃ notice answer, offers = [⟨notice, answer⟩] ∧ settings.Alarms notice

variable {given : Variables} {settings : Settings} {today : Date} {id : RunId}
  {transport : Site.Transport σ} {sink : Sink τ} {before : Surroundings σ τ} {report : Report}
  {mails : List Offer}

theorem Reports.unique (first : Reports settings today id transport sink before report mails)
    {other : Report} {others : List Offer}
    (second : Reports settings today id transport sink before other others) :
    other = report ∧ others = mails := by
  obtain ⟨loaded, answered, done⟩ := first
  obtain ⟨again, replied, repeated⟩ := second
  cases loaded.symm.trans again
  cases answered.symm.trans replied
  cases done.symm.trans repeated
  exact ⟨rfl, rfl⟩

theorem Reports.accounted (reports : Reports settings today id transport sink before report mails) :
    report.sent = mails.filterMap Offer.sent? ∧ report.failed = mails.filterMap Offer.failed? := by
  obtain ⟨-, -, done⟩ := reports
  obtain ⟨gathered, -, accounts⟩ := Settings.accounts_of_runKeeping done
  exact ⟨accounts.sent, accounts.failed⟩

/-- What comes of everything before the end: either there is no report and no mail, or a report that
is a problem when it has failures. -/
inductive Executes (settings : Settings) (today : Date) (id : RunId) (transport : Site.Transport σ)
    (sink : Sink τ) (before : Surroundings σ τ) : Except Problem Report → List Offer → Prop where
  | stopped (problem : Problem)
      (unreported : ∀ report mails, ¬Reports settings today id transport sink before report mails) :
      Executes settings today id transport sink before (.error problem) []
  | failed {report : Report} {mails : List Offer}
      (reports : Reports settings today id transport sink before report mails)
      (refused : report.failed ≠ []) :
      Executes settings today id transport sink before (.error (.ofReport report)) mails
  | succeeded {report : Report} {mails : List Offer}
      (reports : Reports settings today id transport sink before report mails)
      (taken : report.failed = []) :
      Executes settings today id transport sink before (.ok report) mails

/-- Keeping a list of the mails changes nothing, and the mails are those of the run. -/
theorem execute_recorded (settings : Settings) (today : Date) (id : RunId) (transport : Site.Transport σ)
    (sink : Sink τ) (before : Surroundings σ τ) :
    ∃ answer log after mails,
      execute settings today id transport sink before = (answer, log, after) ∧
      execute settings today id transport sink.recorded ⟨before.source, (before.sink, []), before.files⟩ =
        (answer, log, ⟨after.source, (after.sink, mails), after.files⟩) ∧
      Executes settings today id transport sink before answer mails := by
  unfold execute
  dsimp only
  cases loaded : Templates.load before.files settings.templateFolder with
  | error failure =>
    refine ⟨_, _, _, [], rfl, rfl, .stopped _ ?_⟩
    rintro report mails ⟨again, -, -⟩
    cases loaded.symm.trans again
  | ok templates =>
    rcases answered : (Site.connect settings transport).run.run before.source with ⟨answer, connected⟩
    cases answer with
    | error failure =>
      refine ⟨_, _, _, [], rfl, rfl, .stopped _ ?_⟩
      rintro report mails ⟨-, replied, -⟩
      cases answered.symm.trans replied
    | ok title =>
      let reached : Surroundings σ τ := { before with source := connected }
      have recorded : (settings.run templates today id (Site.source settings transport) sink.recorded).run
          ⟨connected, (before.sink, []), before.files⟩ = _ :=
        settings.runKeeping_recorded settings.archive id (Site.source settings transport) sink reached
      dsimp only
      rw [recorded]
      rcases done :
        (settings.run templates today id (Site.source settings transport) sink).run reached with
        ⟨answer, after⟩
      rw [Settings.run] at done
      rw [done]
      cases answer with
      | error failure =>
        -- the run itself failed, and such a run has offered nothing
        rw [Settings.offers_eq_nil done]
        refine ⟨_, _, _, [], rfl, rfl, .stopped _ ?_⟩
        rintro report mails ⟨again, replied, repeated⟩
        cases loaded.symm.trans again
        cases answered.symm.trans replied
        cases done.symm.trans repeated
      | ok report =>
        have reports : Reports settings today id transport sink before report _ :=
          .carriedOut loaded answered done
        refine ⟨_, _, _, _, rfl, rfl, ?_⟩
        by_cases taken : report.failed = []
        · have fine : report.hasFailures = false := by simp [Report.hasFailures, taken]
          rw [fine]
          exact .succeeded reports taken
        · have refused : report.hasFailures = true := by simp [Report.hasFailures, taken]
          rw [refused]
          exact .failed reports taken

theorem report_recorded (settings : Settings) (today : Date) (sink : Sink τ) (problem : Problem)
    (log : List LogEntry) (before : Surroundings σ τ) (mails : List Offer) :
    ∃ ended after answer,
      Program.report settings today sink problem log before = (ended, after) ∧
      Program.report settings today sink.recorded problem log
          ⟨before.source, (before.sink, mails), before.files⟩ =
        (ended, ⟨after.source,
          (after.sink, mails ++ [⟨settings.failureNotice today problem.details, answer⟩]), after.files⟩) ∧
      ended.exitCode = 1 :=
  ⟨_, _, ((sink (settings.failureNotice today problem.details)).run before.sink).1, rfl, rfl, rfl⟩

namespace Alerts

variable {ended : Outcome} {answer : Except Failure Unit}

theorem of_stopped {details : String} (code : ended.exitCode = 1)
    (unreported : ∀ report mails, ¬Reports settings today id transport sink before report mails) :
    Alerts settings today id transport sink before ended
      [⟨settings.failureNotice today details, answer⟩] where
  succeeds := by
    rw [code]
    refine ⟨fun zero => (by cases zero), ?_⟩
    rintro ⟨report, mails, reports, -⟩
    exact absurd reports (unreported report mails)
  fails := fun _ => code
  accounted := fun _ _ => Reports.accounted
  quiet := fun report mails reports => absurd reports (unreported report mails)
  passedOn := fun report mails reports => absurd reports (unreported report mails)
  stopped := fun _ => ⟨_, answer, rfl, settings.alarms_failureNotice today details⟩

theorem of_failed (code : ended.exitCode = 1)
    (reports : Reports settings today id transport sink before report mails)
    (refused : report.failed ≠ []) :
    Alerts settings today id transport sink before ended
      (mails ++ [⟨settings.failureNotice today (Problem.ofReport report).details, answer⟩]) where
  succeeds := by
    rw [code]
    refine ⟨fun zero => (by cases zero), ?_⟩
    rintro ⟨other, others, second, taken⟩
    obtain ⟨rfl, rfl⟩ := reports.unique second
    exact absurd taken refused
  fails := fun _ => code
  accounted := fun _ _ => Reports.accounted
  quiet := by
    intro other others second taken
    obtain ⟨rfl, rfl⟩ := reports.unique second
    exact absurd taken refused
  passedOn := by
    intro other others second _
    obtain ⟨rfl, rfl⟩ := reports.unique second
    exact ⟨_, answer, rfl, settings.alarms_failureNotice today _,
      settings.lists_failureNotice today other⟩
  stopped := fun unreported => absurd reports (unreported report mails)

theorem of_succeeded (code : ended.exitCode = 0)
    (reports : Reports settings today id transport sink before report mails)
    (taken : report.failed = []) :
    Alerts settings today id transport sink before ended mails where
  succeeds := ⟨fun _ => ⟨report, mails, reports, taken⟩, fun _ => code⟩
  fails := fun wrong => absurd code wrong
  accounted := fun _ _ => Reports.accounted
  quiet := fun other others second _ => (reports.unique second).2.symm
  passedOn := by
    intro other others second refused
    obtain ⟨rfl, rfl⟩ := reports.unique second
    exact absurd taken refused
  stopped := fun unreported => absurd reports (unreported report mails)

end Alerts

/-- The program succeeds exactly when it gets to a report without failures, and then offers nothing
but the mails of the run. Otherwise it fails, whatever the sink answers, and offers one notice to
the operator behind all mails of the run, which lists the failures of the report if there is one. -/
theorem run_alerts {given : Variables} {settings : Settings} (valid : Settings.read given = .ok settings)
    (now : DateTime) (id : RunId) (transport : Site.Transport σ) (sink : Sink τ)
    (before : Surroundings σ τ) :
    given "ERROR_TO" = some settings.operator ∧
    ∃ ended after offers,
      run given now id transport sink before = (ended, after) ∧
      run given now id transport sink.recorded ⟨before.source, (before.sink, []), before.files⟩ =
        (ended, ⟨after.source, (after.sink, offers), after.files⟩) ∧
      Alerts settings (settings.today now) id transport sink before ended offers := by
  refine ⟨Settings.operator_of_read valid, ?_⟩
  obtain ⟨answer, log, after, mails, done, recorded, executes⟩ :=
    execute_recorded settings (settings.today now) id transport sink before
  -- what happens before the end decides the answer; the notice is the only mail that can follow
  unfold Settings.today at done recorded
  simp only [run, valid, done, recorded]
  cases executes with
  | stopped problem unreported =>
    obtain ⟨ended, last, reply, told, listed, code⟩ :=
      report_recorded settings (settings.today now) sink problem log after []
    exact ⟨ended, last, _, told, listed, .of_stopped code unreported⟩
  | failed reports refused =>
    obtain ⟨ended, last, reply, told, listed, code⟩ :=
      report_recorded settings (settings.today now) sink (.ofReport _) log after mails
    exact ⟨ended, last, _, told, listed, .of_failed code reports refused⟩
  | succeeded reports taken =>
    exact ⟨_, _, mails, rfl, rfl, .of_succeeded rfl reports taken⟩

end

end Program

namespace Sample

def given : Variables :=
  .ofList [("SITE_URL", "http://s"), ("LIST_TITLE", "Tasks"), ("FROM_EMAIL", "reminders@s"),
    ("ERROR_TO", "operator@s"), ("SMTP_SERVER", "relay")]

/-- A site that sends one text after the other. -/
def scripted : Site.Transport (List String) := fun _ script =>
  match script with
  | [] => (.silence, [])
  | body :: rest => (.answer 200 (some body), rest)

/-- The title, the form, the items and the address of a site with one task that is due. -/
def script : List String :=
  ["\x7b\x7d", "\x7b\"DefaultEditFormUrl\":\"/\"\x7d",
    "\x7b\"value\":[\x7b\"Id\":1,\"AssignedTo\":\x7b\"Id\":1\x7d,\"DueDate\":\"2024-06-13T00:00:00Z\"\x7d]\x7d",
    "\x7b\"EMail\":\"ann@s\"\x7d"]

/-- A tree with both templates in the current folder. -/
def templateFiles : FileTree :=
  ⟨[], [([Templates.digestFile], .file templates.digest.toUTF8),
    ([Templates.itemFile], .file templates.item.toUTF8)]⟩

/-- The program at this site, with a sink that refuses the first mail, and with a list of its
mails. -/
def scriptedRun : Program.Outcome × Surroundings (List String) (Nat × List Offer) :=
  Program.run given (.atMidnight today) (.ofBits 0) scripted sink.recorded ⟨script, (0, []), templateFiles⟩

theorem length_offers_scriptedRun : scriptedRun.2.sink.2.length = 2 := by
  decide +kernel

theorem read_given : ∃ settings, Settings.read given = .ok settings := by
  have accepted : (Settings.read given).isOk = true := by decide +kernel
  cases valid : Settings.read given with
  | error error =>
    rw [valid] at accepted
    cases accepted
  | ok settings => exact ⟨settings, rfl⟩

/-- The one mail of a run is refused, and the operator is told of it. -/
theorem run_alerts_refused :
    ∃ settings ended offers, Settings.read given = .ok settings ∧
      Program.Alerts settings (settings.today (.atMidnight today)) (.ofBits 0) scripted sink
        ⟨script, 0, templateFiles⟩ ended offers ∧
      offers.length = 2 := by
  obtain ⟨settings, valid⟩ := read_given
  obtain ⟨-, ended, after, offers, -, recorded, alerts⟩ :=
    Program.run_alerts valid (.atMidnight today) (.ofBits 0) scripted sink ⟨script, 0, templateFiles⟩
  have counted := length_offers_scriptedRun
  dsimp only at recorded
  rw [scriptedRun, recorded] at counted
  exact ⟨settings, ended, offers, valid, alerts, counted⟩

end Sample

end DueReminders
