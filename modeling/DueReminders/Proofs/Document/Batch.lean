import DueReminders.Document
import DueReminders.Proofs.Digest.Due
import Mathlib.Data.List.Forall2

/-! The documents of a whole digest: exactly one for every recipient with something due, in the
order of the recipients. -/
namespace DueReminders.Templates

variable {templates : Templates} {editUrl : String} {today : Date}

/-- The document is the one the recipient gets. -/
def Renders (templates : Templates) (editUrl : String) (today : Date) (recipient : RecipientItems)
    (document : Document) : Prop :=
  templates.render editUrl today recipient = .ok (some document)

theorem cases_of_render {recipient : RecipientItems} {document : Option Document}
    (rendered : templates.render editUrl today recipient = .ok document) :
    recipient.isEmpty = true ∧ document = none ∨
      recipient.isEmpty = false ∧ ∃ html, document = some ⟨recipient.email, html, recipient.total⟩ := by
  cases empty : recipient.isEmpty with
  | true =>
    rw [render_of_isEmpty templates editUrl today empty] at rendered
    cases rendered
    exact .inl ⟨rfl, rfl⟩
  | false =>
    rw [render_of_due templates editUrl today empty] at rendered
    cases blocks : resolveBlocks templates.digest.toList recipient with
    | error cause =>
      rw [blocks] at rendered
      cases rendered
    | ok resolved =>
      rw [blocks] at rendered
      cases rendered
      exact .inr ⟨rfl, _, rfl⟩

theorem Renders.email_eq {recipient : RecipientItems} {document : Document}
    (rendered : templates.Renders editUrl today recipient document) :
    document.email = recipient.email := by
  rcases cases_of_render rendered with ⟨-, absent⟩ | ⟨-, html, same⟩
  · cases absent
  · cases same
    rfl

theorem emails_of_renders {recipients : List RecipientItems} {documents : List Document}
    (rendered : List.Forall₂ (templates.Renders editUrl today) recipients documents) :
    documents.map Document.email = recipients.map RecipientItems.email := by
  induction rendered with
  | nil => rfl
  | cons here _ ih => rw [List.map_cons, List.map_cons, here.email_eq, ih]

theorem renders_of_renderAll {digest : Digest} {documents : List Document}
    (rendered : templates.renderAll editUrl today digest = .ok documents) :
    List.Forall₂ (templates.Renders editUrl today) digest.due documents := by
  have each (recipients : List RecipientItems) (results : List (Option Document))
      (made : recipients.mapM (templates.render editUrl today) = .ok results) :
      List.Forall₂ (templates.Renders editUrl today)
        (recipients.filter fun recipient => !recipient.isEmpty) (results.filterMap id) := by
    induction recipients generalizing results with
    | nil =>
      cases made
      exact .nil
    | cons head rest ih =>
      rw [List.mapM_cons] at made
      obtain ⟨first, here, made⟩ := exists_of_bind_eq_ok made
      obtain ⟨others, there, made⟩ := exists_of_bind_eq_ok made
      cases made
      rcases cases_of_render here with ⟨empty, rfl⟩ | ⟨due, html, rfl⟩
      · rw [List.filter_cons_of_neg (by simp [empty])]
        exact ih others there
      · rw [List.filter_cons_of_pos (by simp [due])]
        exact .cons here (ih others there)
  rw [renderAll] at rendered
  obtain ⟨results, made, kept⟩ := exists_of_bind_eq_ok rendered
  cases kept
  exact each digest.recipients results made

theorem mapM_eq_error_iff {ε α β : Type} {step : α → Except ε β} {values : List α} {cause : ε} :
    values.mapM step = .error cause ↔ ∃ front value back, values = front ++ value :: back ∧
      (∀ other ∈ front, ∃ result, step other = .ok result) ∧ step value = .error cause := by
  constructor
  · intro failed
    induction values with
    | nil => cases failed
    | cons head rest ih =>
      rw [List.mapM_cons] at failed
      cases here : step head with
      | error other =>
        rw [here] at failed
        cases failed
        exact ⟨[], head, rest, rfl, by simp, here⟩
      | ok result =>
        have later : rest.mapM step = .error cause := by
          rw [here] at failed
          cases there : rest.mapM step with
          | error other =>
            rw [there] at failed
            cases failed
            rfl
          | ok results =>
            rw [there] at failed
            cases failed
        obtain ⟨front, value, back, rfl, earlier, refused⟩ := ih later
        exact ⟨head :: front, value, back, rfl, List.forall_mem_cons.mpr ⟨⟨result, here⟩, earlier⟩,
          refused⟩
  · rintro ⟨front, value, back, rfl, earlier, refused⟩
    induction front with
    | nil =>
      rw [List.nil_append, List.mapM_cons, refused]
      rfl
    | cons head front ih =>
      obtain ⟨⟨result, here⟩, others⟩ := List.forall_mem_cons.mp earlier
      rw [List.cons_append, List.mapM_cons, here, ih others]
      rfl

/-- Rendering stops at the first recipient it fails for. -/
theorem renderAll_eq_error_iff {digest : Digest} {cause : Template.Unresolved} :
    templates.renderAll editUrl today digest = .error cause ↔
      ∃ front recipient back, digest.recipients = front ++ recipient :: back ∧
        (∀ other ∈ front, ∃ document, templates.render editUrl today other = .ok document) ∧
        templates.render editUrl today recipient = .error cause := by
  rw [← mapM_eq_error_iff, renderAll]
  cases digest.recipients.mapM (templates.render editUrl today) with
  | error other =>
    constructor
    · intro failed
      cases failed
      rfl
    · intro failed
      cases failed
      rfl
  | ok documents =>
    constructor
    · intro failed
      cases failed
    · intro failed
      cases failed

end DueReminders.Templates
