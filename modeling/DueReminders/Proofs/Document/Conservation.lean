import DueReminders.Proofs.Document.Alike
import DueReminders.Proofs.Document.Batch
import Mathlib.Algebra.Ring.Nat
import Mathlib.Data.List.Basic

/-! Nothing is lost between sorting and rendering. Every item that is sorted into a bucket is
counted in exactly one document, and nobody without such an item has a say in what is rendered. -/
namespace DueReminders

namespace RecipientItems

theorem total_eq_length (recipient : RecipientItems) : recipient.total = recipient.contents.length := by
  have counted (buckets : List Bucket) :
      buckets.foldr (fun bucket total => (recipient.items bucket).length + total) 0 =
        (buckets.flatMap recipient.items).length := by
    induction buckets with
    | nil => rfl
    | cons bucket rest ih => rw [List.foldr_cons, ih, List.flatMap_cons, List.length_append]
  exact counted Bucket.all

theorem total_pos_iff {recipient : RecipientItems} : 0 < recipient.total ↔ recipient.isEmpty = false := by
  rw [isEmpty, Nat.pos_iff_ne_zero, beq_eq_false_iff_ne]

end RecipientItems

namespace Digest

theorem sum_total_due (digest : Digest) :
    (digest.due.map RecipientItems.total).sum = digest.contents.length := by
  rw [due, contents]
  induction digest.recipients with
  | nil => rfl
  | cons head rest ih =>
    rw [List.flatMap_cons, List.length_append, ← ih, ← head.total_eq_length]
    cases empty : head.isEmpty with
    | true =>
      have none : head.total = 0 := by simpa [RecipientItems.isEmpty] using empty
      rw [List.filter_cons_of_neg (by simp [empty]), none, Nat.zero_add]
    | false => rw [List.filter_cons_of_pos (by simp [empty]), List.map_cons, List.sum_cons]

end Digest

theorem Criteria.places_eq (criteria : Criteria) (today : Date) (resolve : Item → Option String)
    (item : Item) :
    criteria.places today resolve item =
      (!criteria.excludes item && (resolve item).any (fun email => !Text.isBlankText email) &&
        (criteria.bucket? today item).isSome) := by
  rw [places, Bool.eq_iff_iff]
  simp only [Bool.and_eq_true, Bool.not_eq_true', Option.any_eq_true, Option.isSome_iff_exists]
  constructor
  · rintro ⟨⟨email, addressed⟩, found⟩
    obtain ⟨included, -, resolved, solid⟩ := addressee?_eq_some_iff.mp addressed
    have shown : Text.isBlankText email = false :=
      Bool.eq_false_iff.mpr fun blank => solid (Text.isBlankText_iff.mp blank)
    exact ⟨⟨included, email, resolved, shown⟩, found⟩
  · rintro ⟨⟨-, email, resolved, shown⟩, bucket, found⟩
    have solid : Text.trim email.toList ≠ [] := fun blank =>
      Bool.false_ne_true (shown.symm.trans (Text.isBlankText_iff.mpr blank))
    exact ⟨⟨email, ((addressee?_bucket?_iff solid).mpr ⟨resolved, found⟩).1⟩, bucket, found⟩

namespace Templates

variable {templates : Templates} {editUrl : String} {today : Date}

theorem Renders.itemCount_eq {recipient : RecipientItems} {document : Document}
    (rendered : templates.Renders editUrl today recipient document) :
    document.itemCount = recipient.total := by
  rcases cases_of_render rendered with ⟨-, absent⟩ | ⟨-, html, same⟩
  · cases absent
  · cases same
    rfl

theorem itemCounts_of_renders {recipients : List RecipientItems} {documents : List Document}
    (rendered : List.Forall₂ (templates.Renders editUrl today) recipients documents) :
    documents.map Document.itemCount = recipients.map RecipientItems.total := by
  induction rendered with
  | nil => rfl
  | cons here _ ih => rw [List.map_cons, List.map_cons, here.itemCount_eq, ih]

theorem collect_cons {ε : Type} (make : RecipientItems → Except ε (Option Document))
    (head : RecipientItems) (rest : List RecipientItems) :
    ((head :: rest).mapM make).map (List.filterMap id) =
      (make head).bind fun document =>
        ((rest.mapM make).map (List.filterMap id)).map (document.toList ++ ·) := by
  rw [List.mapM_cons]
  cases make head with
  | error cause => rfl
  | ok document =>
    cases rest.mapM make with
    | error cause => rfl
    | ok documents => cases document <;> rfl

theorem renderAll_eq_due (digest : Digest) :
    templates.renderAll editUrl today digest =
      (digest.due.mapM (templates.render editUrl today)).map (List.filterMap id) := by
  have left_out (recipients : List RecipientItems) :
      (recipients.mapM (templates.render editUrl today)).map (List.filterMap id) =
        ((recipients.filter fun recipient => !recipient.isEmpty).mapM
          (templates.render editUrl today)).map (List.filterMap id) := by
    induction recipients with
    | nil => rfl
    | cons head rest ih =>
      rw [collect_cons, ih]
      cases empty : head.isEmpty with
      | true =>
        rw [List.filter_cons_of_neg (by simp [empty]), render_of_isEmpty templates editUrl today empty]
        cases (rest.filter fun recipient => !recipient.isEmpty).mapM
          (templates.render editUrl today) <;> rfl
      | false => rw [List.filter_cons_of_pos (by simp [empty]), collect_cons]
  exact left_out digest.recipients

theorem exists_of_renderAll_eq_error {digest : Digest} {cause : Template.Unresolved}
    (failed : templates.renderAll editUrl today digest = .error cause) :
    ∃ front recipient back, digest.due = front ++ recipient :: back ∧
      (∀ other ∈ front, ∃ document, templates.Renders editUrl today other document) ∧
      templates.render editUrl today recipient = .error cause := by
  obtain ⟨front, recipient, back, split, earlier, refused⟩ := renderAll_eq_error_iff.mp failed
  have due : recipient.isEmpty = false := by
    cases empty : recipient.isEmpty with
    | true =>
      rw [render_of_isEmpty templates editUrl today empty] at refused
      cases refused
    | false => rfl
  refine ⟨front.filter fun other => !other.isEmpty, recipient,
    back.filter fun other => !other.isEmpty, ?_, ?_, refused⟩
  · rw [Digest.due, split, List.filter_append, List.filter_cons_of_pos (by simp [due])]
  · intro other member
    obtain ⟨present, solid⟩ := List.mem_filter.mp member
    obtain ⟨document, rendered⟩ := earlier other present
    rcases cases_of_render rendered with ⟨empty, -⟩ | ⟨-, html, rfl⟩
    · simp [empty] at solid
    · exact ⟨_, rendered⟩

/-- What is to be said of the documents that sorted items end up in. -/
structure Conserves (criteria : Criteria) (today : Date) (resolve : Item → Option String)
    (items : List Item) (documents : List Document) : Prop where
  /-- Nobody gets two documents. -/
  distinct : (documents.map Document.email).Nodup
  /-- The recipients are those with an item in some bucket, in the order of their first items. -/
  recipients : documents.map Document.email =
    (items.filterMap (criteria.addressee? resolve)).eraseDups.filter fun email =>
      items.any fun item => resolve item = some email ∧ (criteria.bucket? today item).isSome
  positive : ∀ document ∈ documents, 0 < document.itemCount
  /-- Each item that is placed is counted once. -/
  total : (documents.map Document.itemCount).sum = items.countP fun item =>
    !criteria.excludes item && (resolve item).any (fun email => !Text.isBlankText email) &&
      (criteria.bucket? today item).isSome

theorem conserves_of_renders {criteria : Criteria} {resolve : Item → Option String} {items : List Item}
    {documents : List Document}
    (rendered : List.Forall₂ (templates.Renders editUrl today)
      (Digest.classify criteria today resolve items).due documents) :
    Conserves criteria today resolve items documents where
  distinct := by
    rw [emails_of_renders rendered]
    exact Digest.nodup_emails_due _
  recipients := by rw [emails_of_renders rendered, Digest.emails_due_classify]
  positive document member := by
    have counted : document.itemCount ∈ documents.map Document.itemCount := List.mem_map_of_mem member
    rw [itemCounts_of_renders rendered] at counted
    obtain ⟨recipient, due, same⟩ := List.mem_map.mp counted
    rw [← same, RecipientItems.total_pos_iff]
    simpa using (List.mem_filter.mp due).2
  total := by
    rw [itemCounts_of_renders rendered, Digest.sum_total_due, (Digest.contents_classify items).length_eq,
      List.countP_eq_length_filter]
    congr 2
    funext item
    exact criteria.places_eq today resolve item

/-- Sorting and rendering conserve the items. The documents belong to the recipients with something
due, one each and in order, and together they count every placed item once. Where there are no
documents, the cause is that of the first recipient with something due who cannot be served. Those
without anything due are never rendered and are no cause of a failure. -/
theorem renderAll_conserves (templates : Templates) (editUrl : String) (criteria : Criteria) (today : Date)
    (resolve : Item → Option String) (items : List Item) :
    let digest := Digest.classify criteria today resolve items
    let rendered := templates.renderAll editUrl today digest
    rendered = (digest.due.mapM (templates.render editUrl today)).map (List.filterMap id) ∧
    (∀ documents, rendered = .ok documents →
      List.Forall₂ (templates.Renders editUrl today) digest.due documents ∧
        Conserves criteria today resolve items documents) ∧
    ∀ cause, rendered = .error cause →
      ∃ front recipient back, digest.due = front ++ recipient :: back ∧
        (∀ other ∈ front, ∃ document, templates.Renders editUrl today other document) ∧
        templates.render editUrl today recipient = .error cause := by
  intro digest rendered
  refine ⟨renderAll_eq_due digest, ?_, fun cause => exists_of_renderAll_eq_error⟩
  intro documents made
  have each := renders_of_renderAll made
  exact ⟨each, conserves_of_renders each⟩

end Templates

namespace Sample

open Templates

/-- An item of somebody's by number, with a state and a due date. -/
def dated (id : Int) (state : String) (due : Date) : Item :=
  ((Item.bare id).set "Status" (.text state)).set "DueDate" (.moment (.atMidnight due))

/-- Two people's items, one of nobody, one of a blank address, one that is done, and one too far
off. -/
def mixed : List Item :=
  [dated 11 "Open" juneDay, dated 21 "Open" juneDay, dated 31 "Open" juneDay, dated 41 "Open" juneDay,
    dated 12 "Done" juneDay, dated 51 "Open" ⟨19987, by decide, by decide⟩,
    dated 13 "Open" ⟨19882, by decide, by decide⟩]

/-- Items belong to people by their tens. -/
def owner (item : Item) : Option String :=
  match item.id / 10 with
  | 1 => some "ann@example.org"
  | 2 => some "bob@example.org"
  | 3 => some " "
  | 5 => some "eve@example.org"
  | _ => none

def openItems : Criteria := ⟨"Status", "Done", "DueDate", "Modified", 7⟩

/-- Three of the items are placed, two of them with the first recipient. -/
theorem renderAll_conserves_mixed :
    ∃ documents, (Templates.nested .today .overdue).renderAll "edit" juneDay
        (Digest.classify openItems juneDay owner mixed) = .ok documents ∧
      documents.map Document.email = ["ann@example.org", "bob@example.org"] ∧
      (documents.map Document.itemCount).sum = 3 := by
  have rendered : ((Templates.nested .today .overdue).renderAll "edit" juneDay
      (Digest.classify openItems juneDay owner mixed)).toOption.isSome = true := by decide +kernel
  obtain ⟨-, conserves, -⟩ :=
    renderAll_conserves (Templates.nested .today .overdue) "edit" openItems juneDay owner mixed
  cases made : (Templates.nested .today .overdue).renderAll "edit" juneDay
      (Digest.classify openItems juneDay owner mixed) with
  | error cause =>
    rw [made] at rendered
    cases rendered
  | ok documents =>
    obtain ⟨-, conserved⟩ := conserves documents made
    refine ⟨documents, rfl, ?_, ?_⟩
    · rw [conserved.recipients]
      decide +kernel
    · rw [conserved.total]
      decide +kernel

end Sample
end DueReminders
