import DueReminders.Digest

/-! What a digest holds: the items of one recipient in one bucket, and all items of all recipients.
Adding an item shows in one list of one recipient and nowhere else. -/
namespace DueReminders

namespace RecipientItems

/-- The items of all buckets in bucket order. -/
def contents (recipient : RecipientItems) : List Item := Bucket.all.flatMap recipient.items

theorem contents_push (recipient : RecipientItems) (bucket : Bucket) (item : Item) :
    (recipient.push bucket item).contents.Perm (item :: recipient.contents) := by
  have added (buckets : List Bucket) (distinct : buckets.Nodup) (member : bucket ∈ buckets) :
      (buckets.flatMap (recipient.push bucket item).items).Perm
        (item :: buckets.flatMap recipient.items) := by
    obtain ⟨front, back, rfl⟩ := List.append_of_mem member
    have others (rest : List Bucket) (apart : ∀ other ∈ rest, other ≠ bucket) :
        rest.flatMap (recipient.push bucket item).items = rest.flatMap recipient.items := by
      have same : ∀ other ∈ rest, (recipient.push bucket item).items other = recipient.items other :=
        fun other present => by rw [items_push, if_neg (apart other present)]
      rw [List.flatMap_def, List.map_congr_left same, ← List.flatMap_def]
    have parts := List.nodup_append.mp distinct
    have before := others front fun other present => parts.2.2 other present bucket List.mem_cons_self
    have after := others back fun other present same =>
      (List.nodup_cons.mp parts.2.1).1 (same ▸ present)
    rw [List.flatMap_append, List.flatMap_append, List.flatMap_cons, List.flatMap_cons, before, after,
      items_push, if_pos rfl]
    have moved : (front.flatMap recipient.items ++ recipient.items bucket ++
        item :: back.flatMap recipient.items).Perm
          (item :: (front.flatMap recipient.items ++ recipient.items bucket ++
            back.flatMap recipient.items)) := List.perm_middle
    simpa using moved
  exact added Bucket.all Bucket.nodup_all (Bucket.mem_all bucket)

end RecipientItems

namespace Digest

/-- The items of a recipient in a bucket; someone who is not a recipient has none. -/
def itemsOf (digest : Digest) (email : String) (bucket : Bucket) : List Item :=
  ((digest.get? email).map fun recipient => recipient.items bucket).getD []

/-- What is held under an address; nothing for someone who is not a recipient. -/
def entry (digest : Digest) (email : String) : RecipientItems := (digest.get? email).getD { email }

/-- All items of all recipients. -/
def contents (digest : Digest) : List Item := digest.recipients.flatMap RecipientItems.contents

theorem email_entry (digest : Digest) (email : String) : (digest.entry email).email = email := by
  rw [entry]
  cases found : digest.get? email with
  | none => rfl
  | some recipient =>
    rw [get?] at found
    simpa using List.find?_some found

theorem items_entry (digest : Digest) (email : String) (bucket : Bucket) :
    (digest.entry email).items bucket = digest.itemsOf email bucket := by
  rw [itemsOf, entry]
  cases digest.get? email with
  | none => exact RecipientItems.items_fresh email bucket
  | some recipient => rfl

theorem itemsOf_update (digest : Digest) (email other : String) (bucket : Bucket)
    (change : RecipientItems → RecipientItems)
    (keeps : ∀ recipient, (change recipient).email = recipient.email) :
    (digest.update email change keeps).itemsOf other bucket =
      if other = email then (change (digest.entry email)).items bucket
      else digest.itemsOf other bucket := by
  rw [itemsOf, get?_update]
  split <;> rfl

theorem itemsOf_enter (digest : Digest) (email other : String) (bucket : Bucket) :
    (digest.enter email).itemsOf other bucket = digest.itemsOf other bucket := by
  rw [enter, itemsOf_update]
  split
  · next same =>
    subst same
    exact items_entry digest other bucket
  · rfl

theorem itemsOf_push (digest : Digest) (email other : String) (bucket otherBucket : Bucket)
    (item : Item) :
    (digest.push email bucket item).itemsOf other otherBucket =
      if other = email ∧ otherBucket = bucket then digest.itemsOf other otherBucket ++ [item]
      else digest.itemsOf other otherBucket := by
  rw [push, itemsOf_update]
  by_cases same : other = email
  · subst same
    simp only [if_true, true_and, RecipientItems.items_push, items_entry]
  · simp only [same, if_false, false_and]

theorem emails_enter (digest : Digest) (email : String) :
    (digest.enter email).emails =
      if email ∈ digest.emails then digest.emails else digest.emails ++ [email] :=
  emails_update digest email id _

theorem emails_push (digest : Digest) (email : String) (bucket : Bucket) (item : Item) :
    (digest.push email bucket item).emails =
      if email ∈ digest.emails then digest.emails else digest.emails ++ [email] :=
  emails_update digest email (·.push bucket item) _

theorem contents_update (digest : Digest) (email : String) (added : List Item)
    {change : RecipientItems → RecipientItems}
    (keeps : ∀ recipient, (change recipient).email = recipient.email)
    (adds : ∀ recipient, (change recipient).contents.Perm (added ++ recipient.contents)) :
    (digest.update email change keeps).contents.Perm (added ++ digest.contents) := by
  simp only [contents, update]
  generalize digest.recipients = recipients
  induction recipients with
  | nil =>
    have fresh : (RecipientItems.contents { email }) = [] := by
      simp [RecipientItems.contents, RecipientItems.items_fresh]
    simpa [updateIn, fresh] using adds { email }
  | cons head rest ih =>
    simp only [updateIn]
    split
    · rw [List.flatMap_cons, List.flatMap_cons, ← List.append_assoc]
      exact (adds head).append_right _
    · rw [List.flatMap_cons, List.flatMap_cons]
      refine (ih.append_left head.contents).trans ?_
      rw [← List.append_assoc, ← List.append_assoc]
      exact List.perm_append_comm.append_right _

theorem contents_enter (digest : Digest) (email : String) :
    (digest.enter email).contents.Perm digest.contents :=
  digest.contents_update email [] _ fun _ => .refl _

theorem contents_push (digest : Digest) (email : String) (bucket : Bucket) (item : Item) :
    (digest.push email bucket item).contents.Perm (item :: digest.contents) :=
  digest.contents_update email [item] _ fun recipient => recipient.contents_push bucket item

end Digest
end DueReminders
