import DueReminders.Proofs.Document.Batch
import DueReminders.Proofs.Run.Gathering
import DueReminders.Proofs.Run.Offers
import DueReminders.Run.Report

/-! The account of a run: which mails are offered to the sink, and what the report says of them. -/
namespace DueReminders

section

variable {σ τ φ : Type} {settings : Settings} {templates : Templates} {today : Date}

namespace Plan

theorem gather_of_prepare {source : ItemSource σ} {state asked : σ} {plan : Plan}
    (prepared : (prepare settings templates today source).run.run state = (.ok plan, asked)) :
    ∃ gathered, (gather settings source).run.run state = (.ok gathered, asked) ∧
      ofItems settings templates today gathered = .ok plan := by
  obtain ⟨gathered, middle, told, prepared⟩ := Call.exists_of_bind_eq_ok prepared
  cases planned : ofItems settings templates today gathered with
  | error failure =>
    rw [planned] at prepared
    cases prepared
  | ok made =>
    rw [planned] at prepared
    cases prepared
    exact ⟨gathered, told, planned⟩

theorem renders_of_ofItems {gathered : Gathered} {plan : Plan}
    (planned : ofItems settings templates today gathered = .ok plan) :
    plan.recipientCount = (digest settings today gathered.directory gathered.items).size ∧
      List.Forall₂ (templates.Renders gathered.editUrl today)
        (digest settings today gathered.directory gathered.items).due plan.documents := by
  rw [ofItems] at planned
  obtain ⟨documents, rendered, kept⟩ := exists_of_bind_eq_ok planned
  cases kept
  refine ⟨rfl, Templates.renders_of_renderAll ?_⟩
  cases made : templates.renderAll gathered.editUrl today
      (digest settings today gathered.directory gathered.items) with
  | error cause =>
    rw [made] at rendered
    cases rendered
  | ok finished =>
    rw [made] at rendered
    cases rendered
    rfl

end Plan

/-- The envelope holds the recipient's own document. -/
def Settings.Mails (settings : Settings) (templates : Templates) (today : Date) (editUrl : String)
    (recipient : RecipientItems) (envelope : Envelope) : Prop :=
  ∃ document, templates.render editUrl today recipient = .ok (some document) ∧
    envelope = {
      sender := settings.sender
      recipient := recipient.email
      copyTo := settings.copyTo
      subject := formatSubject settings.subject today
      html := document.html }

/-- What is to be said of a run that was carried out. -/
structure Accounts (settings : Settings) (templates : Templates) (today : Date) (gathered : Gathered)
    (offers : List Offer) (report : Report) : Prop where
  /-- Each recipient with something due is offered one mail, and nobody else is offered any. -/
  mails : List.Forall₂ (settings.Mails templates today gathered.editUrl)
    (Plan.digest settings today gathered.directory gathered.items).due (offers.map Offer.envelope)
  /-- They stand in the order in which their first items were gathered. -/
  order : offers.map (·.envelope.recipient) =
    (gathered.items.filterMap (settings.criteria.addressee?
      (gathered.directory.recipient? settings.assigneeField))).eraseDups.filter fun email =>
        gathered.items.any fun item =>
          gathered.directory.recipient? settings.assigneeField item = some email ∧
            (settings.criteria.bucket? today item).isSome
  distinct : (offers.map (·.envelope.recipient)).Nodup
  sent : report.sent = offers.filterMap Offer.sent?
  /-- A failure is the sink's own, whose message is the text that is shown of it. -/
  failed : report.failed = offers.filterMap Offer.failed?
  recipients : report.recipients = (Plan.digest settings today gathered.directory gathered.items).size
  bounded : offers.length ≤ report.recipients
  suppressed : report.suppressed = report.recipients - offers.length
  total : report.recipients = report.suppressed + report.sent.length + report.failed.length

namespace Settings

/-- A run gathers, plans, and then offers the mails of the planned documents. -/
theorem runKeeping_eq (archive : Archive φ) (id : RunId) (source : ItemSource σ) (sink : Sink τ)
    (before : Surroundings σ τ φ) :
    (settings.runKeeping archive templates today id source sink).run before =
      match (Plan.prepare settings templates today source).run.run before.source with
      | (.error failure, asked) => (.error failure, ⟨asked, before.sink, before.files⟩)
      | (.ok plan, asked) =>
        let (offers, sent) :=
          (sink.offerAll (plan.documents.map (settings.envelope today))).run before.sink
        (.ok (Report.ofDeliveries id plan (offers.map Offer.delivery)),
          ⟨asked, sent, ((plan.documents.mapM archive).run before.files).2⟩) := by
  rw [StateT.run, runKeeping]
  rcases (Plan.prepare settings templates today source).run.run before.source with ⟨answer, asked⟩
  cases answer with
  | error failure => rfl
  | ok plan =>
    have performed := Delivery.performAll_eq archive settings today sink plan.documents before.files
      before.sink
    simp only [performed]
    rfl

def offers (settings : Settings) (archive : Archive φ) (templates : Templates) (today : Date)
    (id : RunId) (source : ItemSource σ) (sink : Sink τ) (before : Surroundings σ τ φ) : List Offer :=
  ((settings.runKeeping archive templates today id source sink.recorded).run
    ⟨before.source, (before.sink, []), before.files⟩).2.sink.2

theorem runKeeping_recorded (archive : Archive φ) (id : RunId) (source : ItemSource σ) (sink : Sink τ)
    (before : Surroundings σ τ φ) :
    (settings.runKeeping archive templates today id source sink.recorded).run
        ⟨before.source, (before.sink, []), before.files⟩ =
      let (answer, after) :=
        (settings.runKeeping archive templates today id source sink).run before
      (answer, ⟨after.source,
        (after.sink, settings.offers archive templates today id source sink before), after.files⟩) := by
  rw [offers, runKeeping_eq, runKeeping_eq]
  rcases (Plan.prepare settings templates today source).run.run before.source with ⟨answer, asked⟩
  cases answer with
  | error failure => rfl
  | ok plan =>
    simp only [Sink.offerAll_recorded]
    rfl

theorem offers_of_prepare (before : Surroundings σ τ φ) {source : ItemSource σ} {plan : Plan} {asked : σ}
    (prepared : (Plan.prepare settings templates today source).run.run before.source = (.ok plan, asked))
    (archive : Archive φ) (id : RunId) (sink : Sink τ) :
    settings.offers archive templates today id source sink before =
      ((sink.offerAll (plan.documents.map (settings.envelope today))).run before.sink).1 := by
  rw [offers, runKeeping_eq]
  simp only [prepared, Sink.offerAll_recorded]
  rfl

theorem report_of_prepare (before : Surroundings σ τ φ) {source : ItemSource σ} {plan : Plan} {asked : σ}
    (prepared : (Plan.prepare settings templates today source).run.run before.source = (.ok plan, asked))
    (archive : Archive φ) (id : RunId) (sink : Sink τ) :
    ((settings.runKeeping archive templates today id source sink).run before).1 =
      .ok (Report.ofDeliveries id plan
        ((settings.offers archive templates today id source sink before).map Offer.delivery)) := by
  rw [offers_of_prepare before prepared, runKeeping_eq]
  simp only [prepared]
  rfl

theorem prepare_of_runKeeping {archive : Archive φ} {id : RunId} {source : ItemSource σ} {sink : Sink τ}
    {before after : Surroundings σ τ φ} {report : Report}
    (done : (settings.runKeeping archive templates today id source sink).run before =
      (.ok report, after)) :
    ∃ plan,
      (Plan.prepare settings templates today source).run.run before.source = (.ok plan, after.source) := by
  rcases prepared : (Plan.prepare settings templates today source).run.run before.source with
    ⟨answer, asked⟩
  rw [runKeeping_eq, prepared] at done
  cases answer with
  | error failure => cases done
  | ok plan =>
    have same : asked = after.source := congrArg (fun result => result.2.source) done
    exact ⟨plan, by rw [same]⟩

theorem accounts_of_ofItems {gathered : Gathered} {plan : Plan}
    (planned : Plan.ofItems settings templates today gathered = .ok plan) (id : RunId)
    {offers : List Offer}
    (offered : offers.map Offer.envelope = plan.documents.map (settings.envelope today)) :
    Accounts settings templates today gathered offers
      (Report.ofDeliveries id plan (offers.map Offer.delivery)) := by
  obtain ⟨counted, rendered⟩ := Plan.renders_of_ofItems planned
  have size : offers.length = plan.documents.length := by
    simpa using congrArg List.length offered
  have bounded : plan.documents.length ≤ plan.recipientCount := by
    rw [← rendered.length_eq, counted]
    exact List.length_filter_le _ _
  have sent : (offers.map Offer.delivery).filterMap Delivery.sent? = offers.filterMap Offer.sent? := by
    rw [List.filterMap_map, Offer.sent?_comp_delivery]
  have failed : (offers.map Offer.delivery).filterMap Delivery.failed? =
      offers.filterMap Offer.failed? := by
    rw [List.filterMap_map, Offer.failed?_comp_delivery]
  have recipients : offers.map (·.envelope.recipient) =
      (Plan.digest settings today gathered.directory gathered.items).due.map RecipientItems.email := by
    have addressed : offers.map (·.envelope.recipient) = plan.documents.map Document.email := by
      simpa [Function.comp_def, envelope] using congrArg (List.map Envelope.recipient) offered
    rw [addressed, Templates.emails_of_renders rendered]
  refine {
    mails := ?_
    order := recipients.trans (Digest.emails_due_classify gathered.items)
    distinct := recipients ▸ Digest.nodup_emails_due _
    sent := sent
    failed := failed
    recipients := counted
    bounded := Nat.le_trans (Nat.le_of_eq size) bounded
    suppressed := congrArg (plan.recipientCount - ·) size.symm
    total := ?_ }
  · rw [offered, List.forall₂_map_right_iff]
    refine rendered.imp fun recipient document made => ⟨document, made, ?_⟩
    rw [envelope, made.email_eq]
  · have partition := Offer.length_sent_add_length_failed offers
    show plan.recipientCount = plan.recipientCount - plan.documents.length +
      ((offers.map Offer.delivery).filterMap Delivery.sent?).length +
      ((offers.map Offer.delivery).filterMap Delivery.failed?).length
    rw [sent, failed]
    omega

/-- A run that reports has gathered everything, and the report accounts for all it offered. -/
theorem accounts_of_runKeeping {archive : Archive φ} {id : RunId} {source : ItemSource σ} {sink : Sink τ}
    {before after : Surroundings σ τ φ} {report : Report}
    (done : (settings.runKeeping archive templates today id source sink).run before =
      (.ok report, after)) :
    ∃ gathered, (Plan.gather settings source).run.run before.source = (.ok gathered, after.source) ∧
      Accounts settings templates today gathered
        (settings.offers archive templates today id source sink before) report := by
  obtain ⟨plan, prepared⟩ := prepare_of_runKeeping done
  obtain ⟨gathered, told, planned⟩ := Plan.gather_of_prepare prepared
  have reported := report_of_prepare before prepared archive id sink
  rw [done] at reported
  cases reported
  refine ⟨gathered, told, accounts_of_ofItems planned id ?_⟩
  rw [offers_of_prepare before prepared, Sink.envelopes_offerAll]

/-- A run that reports offers one mail to every recipient with something due, each with the
recipient's own document and in the order of the first items, and the report accounts for all of
them. Another archive, another sink or another store has no say in what is offered, and sinks that
answer alike get the same report. -/
theorem runKeeping_accounts {archive : Archive φ} {id : RunId} {source : ItemSource σ} {sink : Sink τ}
    {before after : Surroundings σ τ φ} {report : Report}
    (done : (settings.runKeeping archive templates today id source sink).run before =
      (.ok report, after)) :
    let offers := settings.offers archive templates today id source sink before
    (settings.runKeeping archive templates today id source sink.recorded).run
        ⟨before.source, (before.sink, []), before.files⟩ =
      (.ok report, ⟨after.source, (after.sink, offers), after.files⟩) ∧
    (∃ gathered, (Plan.gather settings source).run.run before.source = (.ok gathered, after.source) ∧
      Accounts settings templates today gathered offers report) ∧
    ∀ {υ ψ : Type} (other : Sink υ) (keep : Archive ψ) (state : υ) (store : ψ)
        (folder : Option String) (otherId : RunId),
      let altered := { settings with archiveFolder := folder }
      let others := altered.offers keep templates today otherId source other ⟨before.source, state, store⟩
      others.map Offer.envelope = offers.map Offer.envelope ∧
      (other.Alike state sink before.sink →
        others = offers ∧
        ((altered.runKeeping keep templates today otherId source other).run
          ⟨before.source, state, store⟩).1 = .ok { report with id := otherId }) := by
  obtain ⟨plan, prepared⟩ := prepare_of_runKeeping done
  have offered := offers_of_prepare before prepared archive id sink
  have reported := report_of_prepare before prepared archive id sink
  refine ⟨?_, accounts_of_runKeeping done, ?_⟩
  · rw [runKeeping_recorded, done]
  · intro υ ψ other keep state store folder otherId altered others
    let elsewhere : Surroundings σ υ ψ := ⟨before.source, state, store⟩
    -- where the archive folder lies has no part in gathering and planning
    have replanned : (Plan.prepare altered templates today source).run.run elsewhere.source =
        (.ok plan, after.source) := prepared
    have others_eq : others =
        ((other.offerAll (plan.documents.map (settings.envelope today))).run state).1 :=
      offers_of_prepare elsewhere replanned keep otherId other
    refine ⟨?_, fun alike => ?_⟩
    · rw [others_eq, offered, Sink.envelopes_offerAll, Sink.envelopes_offerAll]
    · have same : others = settings.offers archive templates today id source sink before := by
        rw [others_eq, offered]
        exact alike _
      refine ⟨same, ?_⟩
      rw [done] at reported
      cases reported
      rw [← same]
      exact report_of_prepare elsewhere replanned keep otherId other

end Settings

end

namespace Sample

def today : Date := ⟨19886, by decide, by decide⟩

def settings : Settings where
  siteUrl := "https://example.org"
  listTitle := "Tasks"
  credentials := .anonymous
  maxItems := 100
  criteria := ⟨"Status", "Completed", "DueDate", "Modified", 7⟩
  assigneeField := "AssignedTo"
  sender := "reminders@example.org"
  copyTo := none
  operator := "operator@example.org"
  subject := "Tasks for \x7b0\x7d"
  failureSubject := "Failed on \x7b0\x7d"
  relay := ⟨"relay", 25, false, none, none⟩
  templateFolder := "."
  archiveFolder := some "copies"
  zone := .universal "UTC"

/-- Templates that show the titles of what is due today. -/
def templates : Templates where
  digest := String.ofList (Bucket.all.flatMap fun bucket =>
    let name := bucket.blockName.toList
    let body := if bucket = .today then Template.token bucket.listToken.toList else []
    Template.token name ++ body ++ Template.endMarker name)
  item := "<@\x7bTitle\x7d>"

def task (user : Int) (title : String) (due : Date) : Item :=
  (((Item.bare 0).set "Title" (.text title)).set "AssignedTo" (.reference user "someone")).set "DueDate"
    (.moment (.atMidnight due))

/-- The users' addresses by number; nobody else has one. -/
def address : Int → Option String
  | 1 => some "ann@example.org"
  | 2 => some "bob@example.org"
  | 3 => some "eve@example.org"
  | _ => none

/-- A source of some items that never fails. -/
def source (items : List Item) : ItemSource Unit where
  editFormUrl := pure "edit"
  fetchItems := pure items
  resolveEmail user := pure (address user)

/-- Two tasks of one user with one of another in between, one that is too far off, and one of
nobody. -/
def tasks : List Item :=
  [task 1 "Plan" today, task 2 "Print" today, task 3 "Paint" ⟨19986, by decide, by decide⟩,
    task 4 "Pack" today, task 1 "Call" today]

/-- A sink that refuses the first mail and takes all others. -/
def sink : Sink Nat := fun _ count => (if count = 0 then .error ⟨.mail, "busy"⟩ else .ok (), count + 1)

/-- A tree in which a file stands where the folder of the copies should be. -/
def files : FileTree := ⟨[], [(["copies"], .file .empty)]⟩

/-- The report of a run on these, in which one mail is refused and no copy is kept. -/
def report : Report :=
  ⟨.ofBits 0, 5, 3, 1, ["bob@example.org"], [("ann@example.org", ⟨.mail, "busy"⟩)]⟩

theorem run_tasks :
    ∃ after, (settings.run templates today (.ofBits 0) (source tasks) sink).run ⟨(), 0, files⟩ =
      (.ok report, after) := by
  have reported : ((settings.run templates today (.ofBits 0) (source tasks) sink).run ⟨(), 0, files⟩).1 =
      .ok report := by decide +kernel
  rcases ran : (settings.run templates today (.ofBits 0) (source tasks) sink).run ⟨(), 0, files⟩ with
    ⟨answer, after⟩
  rw [ran] at reported
  subst reported
  exact ⟨after, rfl⟩

theorem runKeeping_accounts_sample :
    let offers :=
      settings.offers settings.archive templates today (.ofBits 0) (source tasks) sink ⟨(), 0, files⟩
    ∃ gathered, Accounts settings templates today gathered offers report := by
  obtain ⟨after, ran⟩ := run_tasks
  obtain ⟨-, ⟨gathered, -, accounts⟩, -⟩ := Settings.runKeeping_accounts ran
  exact ⟨gathered, accounts⟩

end Sample

end DueReminders
