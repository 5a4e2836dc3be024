import DueReminders.Proofs.Digest.Partition

/-! The recipients with something due. Who they are and what they are sent depends, for one address,
on the items of this address alone. -/
namespace DueReminders

namespace RecipientItems

theorem isEmpty_iff {recipient : RecipientItems} :
    recipient.isEmpty = true ↔ ∀ bucket, recipient.items bucket = [] := by
  have none_of (buckets : List Bucket) :
      buckets.foldr (fun bucket total => (recipient.items bucket).length + total) 0 = 0 ↔
        ∀ bucket ∈ buckets, recipient.items bucket = [] := by
    induction buckets with
    | nil => simp
    | cons bucket rest ih => simp [Nat.add_eq_zero_iff, ih]
  rw [isEmpty, beq_iff_eq, total, none_of]
  exact ⟨fun none bucket => none bucket (Bucket.mem_all bucket), fun none bucket _ => none bucket⟩

end RecipientItems

namespace Digest

/-- The recipients with an item in some bucket. -/
def due (digest : Digest) : List RecipientItems :=
  digest.recipients.filter fun recipient => !recipient.isEmpty

theorem filter_email (digest : Digest) (email : String) :
    digest.recipients.filter (fun recipient => recipient.email == email) =
      (digest.get? email).toList := by
  have distinct := digest.distinct
  rw [get?]
  generalize digest.recipients = recipients at distinct ⊢
  induction recipients with
  | nil => rfl
  | cons head rest ih =>
    obtain ⟨fresh, distinct⟩ := List.nodup_cons.mp distinct
    by_cases here : head.email = email
    · have absent : rest.filter (fun recipient => recipient.email == email) = [] := by
        rw [List.filter_eq_nil_iff]
        intro recipient member same
        exact fresh (here.trans (beq_iff_eq.mp same).symm ▸ List.mem_map_of_mem member)
      rw [List.filter_cons_of_pos (by simpa using here), absent,
        List.find?_cons_of_pos (by simpa using here)]
      rfl
    · rw [List.filter_cons_of_neg (by simpa using here), List.find?_cons_of_neg (by simpa using here)]
      exact ih distinct

theorem get?_of_mem {digest : Digest} {recipient : RecipientItems}
    (member : recipient ∈ digest.recipients) : digest.get? recipient.email = some recipient := by
  have kept : recipient ∈ digest.recipients.filter (fun other => other.email == recipient.email) :=
    List.mem_filter.mpr ⟨member, beq_self_eq_true _⟩
  rw [filter_email] at kept
  exact Option.mem_toList.mp kept

theorem itemsOf_of_mem {digest : Digest} {recipient : RecipientItems}
    (member : recipient ∈ digest.recipients) (bucket : Bucket) :
    digest.itemsOf recipient.email bucket = recipient.items bucket := by
  rw [itemsOf, get?_of_mem member]
  rfl

theorem due_filter_email (digest : Digest) (email : String) :
    digest.due.filter (fun recipient => recipient.email == email) =
      [digest.entry email].filter fun recipient => !recipient.isEmpty := by
  rw [due, List.filter_filter, List.filter_congr fun _ _ => Bool.and_comm _ _, ← List.filter_filter,
    filter_email, entry]
  cases digest.get? email with
  | none => rfl
  | some recipient => rfl

theorem nodup_emails_due (digest : Digest) :
    (digest.due.map RecipientItems.email).Nodup :=
  digest.distinct.sublist (List.filter_sublist.map _)

theorem emails_due (digest : Digest) :
    digest.due.map RecipientItems.email =
      digest.emails.filter fun email =>
        Bucket.all.any fun bucket => !(digest.itemsOf email bucket).isEmpty := by
  rw [due, emails, List.filter_map]
  congr 1
  apply List.filter_congr
  intro recipient member
  rw [Bool.eq_iff_iff]
  have empty := recipient.isEmpty_iff
  cases nothing : recipient.isEmpty with
  | true => simp [itemsOf_of_mem member, empty.mp nothing]
  | false =>
    have something : ∃ bucket, recipient.items bucket ≠ [] := by
      by_contra none
      exact Bool.false_ne_true (nothing.symm.trans (empty.mpr (by simpa using none)))
    simpa [itemsOf_of_mem member, Bucket.mem_all] using something

/-- Whether and with which items an address is due depends on its own items alone. -/
theorem due_filter_email_congr {digest other : Digest} {email : String}
    (same : ∀ bucket, digest.itemsOf email bucket = other.itemsOf email bucket) :
    digest.due.filter (fun recipient => recipient.email == email) =
      other.due.filter fun recipient => recipient.email == email := by
  have alike : digest.entry email = other.entry email := by
    apply RecipientItems.ext_items
    · rw [email_entry, email_entry]
    · intro bucket
      rw [items_entry, items_entry, same]
  rw [due_filter_email, due_filter_email, alike]

section

variable {criteria : Criteria} {today : Date} {resolve : Item → Option String}

/-- Those with something due stand in the order in which they were first named. -/
theorem emails_due_classify (items : List Item) :
    (classify criteria today resolve items).due.map RecipientItems.email =
      (items.filterMap (criteria.addressee? resolve)).eraseDups.filter fun email =>
        items.any fun item => resolve item = some email ∧ (criteria.bucket? today item).isSome := by
  rw [emails_due, emails_classify]
  apply List.filter_congr
  intro email member
  obtain ⟨named, -, owned⟩ := List.mem_filterMap.mp (List.mem_eraseDups.mp member)
  have solid := (Criteria.addressee?_eq_some_iff.mp owned).2.2.2
  simp only [itemsOf_classify_eq, if_neg solid]
  rw [Bool.eq_iff_iff]
  constructor
  · intro shown
    obtain ⟨bucket, -, held⟩ := List.any_eq_true.mp shown
    obtain ⟨item, present, resolved, found⟩ : ∃ item ∈ items, resolve item = some email ∧
        criteria.bucket? today item = some bucket := by simpa using held
    exact List.any_eq_true.mpr ⟨item, present, by simp [resolved, found]⟩
  · intro given
    obtain ⟨item, present, found⟩ := List.any_eq_true.mp given
    obtain ⟨resolved, placed⟩ := of_decide_eq_true found
    obtain ⟨bucket, placed⟩ := Option.isSome_iff_exists.mp placed
    refine List.any_eq_true.mpr ⟨bucket, Bucket.mem_all bucket, ?_⟩
    simpa using ⟨item, present, resolved, placed⟩

end

end Digest
end DueReminders
