import DueReminders.Proofs.Digest.Due
import DueReminders.Proofs.Document.Meaning
import DueReminders.Proofs.Template.Acceptance

/-! For which recipients a digest template is refused. A template that has the block of every bucket
once is refused for some recipients only when a block encloses a mark of a later bucket's block: it
goes down with the enclosing block where that one has no items. -/
namespace DueReminders

open Template

def Bucket.blockMarks : List MarkName := Bucket.naming.allMarks Bucket.all

namespace RecipientItems

theorem isEmpty_eq_false_iff {recipient : RecipientItems} :
    recipient.isEmpty = false ↔ ∃ bucket, recipient.shows bucket = true := by
  rw [← Bool.not_eq_true, isEmpty_iff, not_forall]
  simp [shows]

/-- A recipient with one item in each bucket that is shown. -/
def showing (shown : Bucket → Bool) : RecipientItems :=
  let items (bucket : Bucket) : List Item := if shown bucket then [Item.bare 1] else []
  { email := "ann@example.org"
    wayOverdue := items .wayOverdue
    overdue := items .overdue
    today := items .today
    tomorrow := items .tomorrow
    thisWeek := items .thisWeek }

theorem shows_showing (shown : Bucket → Bool) : (showing shown).shows = shown := by
  funext bucket
  cases bucket <;> simp only [shows, showing, items] <;> split <;> simp_all

end RecipientItems

namespace Templates

variable {templates : Templates} {editUrl : String} {today : Date} {recipient : RecipientItems}

/-- There is no document for the recipient because of the template. -/
def Refuses (templates : Templates) (editUrl : String) (today : Date)
    (recipient : RecipientItems) : Prop :=
  ∃ cause, templates.render editUrl today recipient = .error cause

/-- A mark of a block stands in the template twice. -/
def Repeats (templates : Templates) : Prop :=
  ∃ mark ∈ Bucket.blockMarks, MarksInOrder templates.digest.toList [mark, mark]

theorem refuses_iff (due : recipient.isEmpty = false) :
    templates.Refuses editUrl today recipient ↔
      ¬∃ document, resolveBlocks templates.digest.toList recipient = .ok document := by
  rw [Refuses, render_of_due _ _ _ due]
  cases resolveBlocks templates.digest.toList recipient <;> simp [Except.map]

/-- A template is refused when a block is missing or a dropped block encloses a mark of a later
one. -/
theorem refuses_iff_not_accepts (whole : ¬Torn Bucket.blockMarks templates.digest.toList)
    (once : ¬templates.Repeats) (due : recipient.isEmpty = false) :
    templates.Refuses editUrl today recipient ↔
      ¬Bucket.naming.Accepts (MarksInOrder templates.digest.toList) recipient.shows Bucket.all := by
  have single : ∀ mark ∈ Bucket.blockMarks, ¬MarksInOrder templates.digest.toList [mark, mark] :=
    fun mark listed twice => once ⟨mark, listed, twice⟩
  rw [refuses_iff due, ← Naming.resolves_iff Bucket.nodup_all whole single]
  rfl

/-- A template is refused for all recipients with something due or for none exactly when a block is
missing or no block encloses a mark of a later one. -/
theorem refuses_alike_iff (editUrl : String) (today : Date)
    (whole : ¬Torn Bucket.blockMarks templates.digest.toList) (once : ¬templates.Repeats) :
    (∀ a b : RecipientItems, a.isEmpty = false → b.isEmpty = false →
        (templates.Refuses editUrl today a ↔ templates.Refuses editUrl today b)) ↔
      (∃ bucket, ¬MarksInOrder templates.digest.toList (Bucket.naming.marks bucket)) ∨
        Bucket.all.Pairwise fun outer inner =>
          ¬Bucket.naming.Encloses (MarksInOrder templates.digest.toList) outer inner := by
  constructor
  · intro alike
    refine or_iff_not_imp_left.mpr fun nothingMissing => ?_
    have complete : ∀ bucket ∈ Bucket.all,
        MarksInOrder templates.digest.toList (Bucket.naming.marks bucket) :=
      fun bucket _ => not_not.mp (not_exists.mp nothingMissing bucket)
    refine List.pairwise_iff_forall_sublist.mpr fun {outer inner} earlier => ?_
    -- all blocks are shown to one recipient, all but the outer one to another
    let all := RecipientItems.showing fun _ => true
    let others := RecipientItems.showing fun bucket => bucket != outer
    have apart : inner ≠ outer := by
      have distinct := Bucket.nodup_all.sublist earlier
      simp only [List.nodup_cons, List.mem_singleton] at distinct
      exact Ne.symm distinct.1
    have dueAll : all.isEmpty = false := RecipientItems.isEmpty_eq_false_iff.mpr
      ⟨inner, by rw [RecipientItems.shows_showing]⟩
    have dueOthers : others.isEmpty = false := RecipientItems.isEmpty_eq_false_iff.mpr
      ⟨inner, by rw [RecipientItems.shows_showing]; exact bne_iff_ne.mpr apart⟩
    have accepted : ¬templates.Refuses editUrl today all := by
      rw [refuses_iff_not_accepts whole once dueAll, not_not, RecipientItems.shows_showing]
      exact ⟨complete, List.pairwise_iff_forall_sublist.mpr fun _ dropped => nomatch dropped⟩
    rw [alike all others dueAll dueOthers, refuses_iff_not_accepts whole once dueOthers, not_not,
      RecipientItems.shows_showing] at accepted
    exact List.pairwise_iff_forall_sublist.mp accepted.clear earlier (bne_self_eq_false outer)
  · rintro (⟨bucket, missing⟩ | apart) a b dueA dueB
    · have refused {recipient : RecipientItems} (due : recipient.isEmpty = false) :
          templates.Refuses editUrl today recipient :=
        (refuses_iff_not_accepts whole once due).mpr fun accepted =>
          missing (accepted.complete bucket (Bucket.mem_all bucket))
      exact iff_of_true (refused dueA) (refused dueB)
    · rw [refuses_iff_not_accepts whole once dueA, refuses_iff_not_accepts whole once dueB,
        Naming.accepts_iff_complete apart, Naming.accepts_iff_complete apart]

/-- Templates that write an item as its title. -/
def titles (digest : List Char) : Templates := ⟨String.ofList digest, "<@\x7bTitle\x7d>"⟩

/-- A template with a block for every bucket, one of them inside of another. -/
def nestedParts (outer inner : Bucket) : List Part :=
  let block (bucket : Bucket) (body : List Part) : List Part := Bucket.naming.parts (.block bucket body)
  Bucket.all.flatMap fun bucket =>
    if bucket = inner then []
    else if bucket = outer then block outer (.mark outer.listMark :: block inner [.mark inner.listMark])
    else block bucket [.mark bucket.listMark]

def nested (outer inner : Bucket) : Templates := titles ((nestedParts outer inner).flatMap Part.source)

theorem digest_nested (outer inner : Bucket) :
    (nested outer inner).digest.toList = (nestedParts outer inner).flatMap Part.source :=
  String.toList_ofList

theorem whole_nested {known : List MarkName} (outer inner : Bucket) :
    ¬Torn known (nested outer inner).digest.toList := by
  rw [digest_nested]
  exact Part.not_torn_source _

theorem not_repeats_nested (outer inner : Bucket) : ¬(nested outer inner).Repeats := by
  simp only [Repeats, digest_nested, Part.marksInOrder_source]
  cases outer <;> cases inner <;> decide

theorem marks_nestedParts :
    ∀ outer ∈ Bucket.all, ∀ inner ∈ Bucket.all, outer ≠ inner → ∀ a ∈ Bucket.all,
      (Bucket.naming.marks a).Sublist (Part.marks (nestedParts outer inner)) ∧ ∀ b ∈ Bucket.all,
        (Bucket.naming.Encloses (·.Sublist (Part.marks (nestedParts outer inner))) a b ↔
          a = outer ∧ b = inner) := by
  decide +kernel

/-- A nested template is refused for those without tasks in the outer bucket when that one comes
first. -/
theorem refuses_nested_iff {outer inner : Bucket} (apart : outer ≠ inner)
    (due : recipient.isEmpty = false) : (nested outer inner).Refuses editUrl today recipient ↔
      [outer, inner].Sublist Bucket.all ∧ recipient.shows outer = false := by
  have marks (a : Bucket) :=
    marks_nestedParts outer (Bucket.mem_all outer) inner (Bucket.mem_all inner) apart
    a (Bucket.mem_all a)
  rw [refuses_iff_not_accepts (whole_nested outer inner) (not_repeats_nested outer inner) due,
    digest_nested, Part.marksInOrder_source, not_iff_comm, not_and]
  constructor
  · intro free
    refine ⟨fun bucket _ => (marks bucket).1, List.pairwise_iff_forall_sublist.mpr ?_⟩
    intro a b earlier dropped enclosed
    obtain ⟨rfl, rfl⟩ := ((marks a).2 b (Bucket.mem_all b)).mp enclosed
    exact free earlier dropped
  · intro accepted earlier dropped
    exact List.pairwise_iff_forall_sublist.mp accepted.clear earlier dropped
      (((marks outer).2 inner (Bucket.mem_all inner)).mpr ⟨rfl, rfl⟩)

/-- Thursday, June 13, 2024. -/
def juneDay : Date := ⟨19887, by decide, by decide⟩

/-- A block inside of a later one is resolved before that one is dropped. -/
theorem refuses_alike_nested :
    ¬Torn Bucket.blockMarks (nested .today .overdue).digest.toList ∧
      ¬(nested .today .overdue).Repeats ∧
      ∀ a b : RecipientItems, a.isEmpty = false → b.isEmpty = false →
        ((nested .today .overdue).Refuses "edit" juneDay a ↔
          (nested .today .overdue).Refuses "edit" juneDay b) := by
  have whole : ¬Torn Bucket.blockMarks (nested .today .overdue).digest.toList :=
    whole_nested .today .overdue
  have once := not_repeats_nested .today .overdue
  have apart : Bucket.all.Pairwise fun outer inner =>
      ¬Bucket.naming.Encloses (MarksInOrder (nested .today .overdue).digest.toList) outer inner := by
    simp only [Naming.Encloses, digest_nested, Part.marksInOrder_source]
    decide
  exact ⟨whole, once, (refuses_alike_iff "edit" juneDay whole once).mpr (.inr apart)⟩

/-- A block inside of an earlier one goes down with it: whoever has tasks for today alone is
refused. -/
theorem nested_refuses_some :
    (RecipientItems.showing (· == .overdue)).isEmpty = false ∧
      (RecipientItems.showing (· == .today)).isEmpty = false ∧
      ¬(nested .overdue .today).Refuses "edit" juneDay (.showing (· == .overdue)) ∧
      (nested .overdue .today).Refuses "edit" juneDay (.showing (· == .today)) := by
  refine ⟨by decide, by decide, ?_, ?_⟩
  · rw [refuses_nested_iff (by decide) (by decide)]
    decide
  · rw [refuses_nested_iff (by decide) (by decide)]
    decide

end Templates
end DueReminders
