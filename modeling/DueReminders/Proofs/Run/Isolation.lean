import DueReminders.Proofs.Run.Accounting
import Mathlib.Data.List.Forall2

/-! Recipients are kept apart: what one of them is sent depends on this recipient's items alone. -/
namespace DueReminders

section

variable {settings : Settings} {templates : Templates} {today : Date}

namespace Plan

/-- A bucket of the digest is cut out of the recipient's own items. -/
theorem itemsOf_digest {address : Int → Option String} {directory : Directory} {items : List Item}
    (known : ∀ item ∈ items, settings.criteria.excludes item = false →
      directory.recipient? settings.assigneeField item = settings.owner? address item)
    (email : String) (bucket : Bucket) :
    (digest settings today directory items).itemsOf email bucket =
      if Text.trim email.toList = [] then []
      else (items.filter fun item => settings.owner? address item = some email).filter fun item =>
        settings.criteria.bucket? today item = some bucket := by
  rw [digest, Digest.itemsOf_classify_eq, List.filter_filter]
  congr 1
  apply List.filter_congr
  intro item member
  rw [← Bool.decide_and]
  apply decide_eq_decide.mpr
  rw [and_comm]
  apply and_congr_right
  intro found
  rw [known item member (Criteria.open_of_bucket? found).1]

end Plan

namespace Settings

theorem Mails.recipient_eq {editUrl : String} {recipient : RecipientItems} {envelope : Envelope}
    (mail : settings.Mails templates today editUrl recipient envelope) :
    envelope.recipient = recipient.email := by
  obtain ⟨document, -, rfl⟩ := mail
  rfl

theorem Mails.unique {editUrl : String} {recipient : RecipientItems} {first second : Envelope}
    (mail : settings.Mails templates today editUrl recipient first)
    (other : settings.Mails templates today editUrl recipient second) : first = second := by
  obtain ⟨document, rendered, rfl⟩ := mail
  obtain ⟨again, same, rfl⟩ := other
  rw [rendered] at same
  cases same
  rfl

theorem forall₂_mailsTo {gathered : Gathered} {offers : List Offer} {report : Report}
    (accounts : Accounts settings templates today gathered offers report) (email : String) :
    List.Forall₂ (settings.Mails templates today gathered.editUrl)
      ((Plan.digest settings today gathered.directory gathered.items).due.filter fun recipient =>
        recipient.email == email)
      (Offer.mailsTo offers email) := by
  apply List.rel_filter _ accounts.mails
  intro recipient envelope mail
  simp only [mail.recipient_eq]

section

variable {σ₁ σ₂ τ₁ τ₂ φ₁ φ₂ : Type} {editUrl : String} {address : Int → Option String}
  {source₁ : ItemSource σ₁} {source₂ : ItemSource σ₂} {items₁ items₂ : List Item} {email : String}
  {archive₁ : Archive φ₁} {archive₂ : Archive φ₂} {id₁ id₂ : RunId} {sink₁ : Sink τ₁} {sink₂ : Sink τ₂}
  {before₁ after₁ : Surroundings σ₁ τ₁ φ₁} {before₂ after₂ : Surroundings σ₂ τ₂ φ₂}
  {report₁ report₂ : Report}

/-- Two runs whose items agree on those of one address offer the same mail to this address, or both
none. All other items, the sources' ways of answering, the sinks and the archives may differ. -/
theorem runKeeping_isolates
    (answers₁ : source₁.Answers editUrl items₁ address)
    (answers₂ : source₂.Answers editUrl items₂ address)
    (same : (items₁.filter fun item => settings.owner? address item = some email) =
      items₂.filter fun item => settings.owner? address item = some email)
    (done₁ : (settings.runKeeping archive₁ templates today id₁ source₁ sink₁).run before₁ =
      (.ok report₁, after₁))
    (done₂ : (settings.runKeeping archive₂ templates today id₂ source₂ sink₂).run before₂ =
      (.ok report₂, after₂)) :
    let mails₁ := Offer.mailsTo
      (settings.offers archive₁ templates today id₁ source₁ sink₁ before₁) email
    let mails₂ := Offer.mailsTo
      (settings.offers archive₂ templates today id₂ source₂ sink₂ before₂) email
    mails₁ = [] ∧ mails₂ = [] ∨ ∃ envelope, mails₁ = [envelope] ∧ mails₂ = [envelope] := by
  obtain ⟨gathered₁, told₁, accounts₁⟩ := accounts_of_runKeeping done₁
  obtain ⟨gathered₂, told₂, accounts₂⟩ := accounts_of_runKeeping done₂
  have rendered₁ := forall₂_mailsTo accounts₁ email
  have rendered₂ := forall₂_mailsTo accounts₂ email
  obtain ⟨form₁, listed₁, known₁⟩ := Plan.gather_eq answers₁ told₁
  obtain ⟨form₂, listed₂, known₂⟩ := Plan.gather_eq answers₂ told₂
  rw [form₁, listed₁] at rendered₁
  rw [form₂, listed₂] at rendered₂
  have alike (bucket : Bucket) :
      (Plan.digest settings today gathered₁.directory items₁).itemsOf email bucket =
        (Plan.digest settings today gathered₂.directory items₂).itemsOf email bucket := by
    rw [Plan.itemsOf_digest known₁, Plan.itemsOf_digest known₂, same]
  rw [Digest.due_filter_email_congr alike] at rendered₁
  intro mails₁ mails₂
  have equal : mails₁ = mails₂ :=
    List.right_unique_forall₂' (fun _ _ _ mail other => mail.unique other) rendered₁ rendered₂
  have few : mails₂.length ≤ 1 := by
    rw [← rendered₂.length_eq, Digest.due_filter_email]
    exact List.length_filter_le _ _
  rw [equal]
  cases shown : mails₂ with
  | nil => exact .inl ⟨rfl, rfl⟩
  | cons envelope rest =>
    rw [shown, List.length_cons] at few
    have last : rest = [] := List.eq_nil_of_length_eq_zero (by omega)
    exact .inr ⟨envelope, by rw [last], by rw [last]⟩

end

end Settings

end

namespace Sample

theorem answers_source (items : List Item) : (source items).Answers "edit" items address where
  form told := by
    cases told
    rfl
  fetched told := by
    cases told
    rfl
  resolved told := by
    cases told
    rfl

/-- Other tasks of the others around the same tasks of the first user. -/
def otherTasks : List Item :=
  [task 2 "@\x7bTODAY\x7d" today, task 1 "Plan" today, task 2 "ann@example.org" today, task 1 "Call" today]

theorem runKeeping_isolates_sample :
    let mails (items : List Item) := Offer.mailsTo
      (settings.offers settings.archive templates today (.ofBits 0) (source items) sink ⟨(), 0, files⟩)
      "ann@example.org"
    ∃ envelope, mails tasks = [envelope] ∧ mails otherTasks = [envelope] := by
  have reported : ((settings.run templates today (.ofBits 0) (source otherTasks) sink).run
      ⟨(), 0, files⟩).1.toOption.isSome = true := by decide +kernel
  obtain ⟨after, ran⟩ := run_tasks
  rcases other : (settings.run templates today (.ofBits 0) (source otherTasks) sink).run ⟨(), 0, files⟩
    with ⟨answer, otherAfter⟩
  rw [other] at reported
  cases answer with
  | error failure => cases reported
  | ok otherReport =>
    have shared : (tasks.filter fun item => settings.owner? address item = some "ann@example.org") =
        otherTasks.filter fun item => settings.owner? address item = some "ann@example.org" := by
      decide +kernel
    rcases Settings.runKeeping_isolates (answers_source tasks) (answers_source otherTasks) shared ran
      other with ⟨absent, -⟩ | same
    · obtain ⟨gathered, -, accounts⟩ := Settings.accounts_of_runKeeping ran
      have lost : ("ann@example.org", ⟨.mail, "busy"⟩) ∈ report.failed := List.mem_singleton_self _
      rw [accounts.failed] at lost
      exact absurd absent (Offer.mailsTo_ne_nil_of_failed lost)
    · exact same

end Sample
end DueReminders
