import DueReminders.Proofs.Digest.Partition
import Mathlib.Data.Finset.Card
import Mathlib.Data.List.Basic
import Mathlib.Data.List.Induction

/-! Digests by their history. However recipients were named and items were added, a digest lists
everybody who was named once and in the order they were first named, and holds under each address
what was added there. -/
namespace DueReminders.Digest

/-- What can be done to a digest. -/
inductive Change where
  | enter (email : String)
  | push (email : String) (bucket : Bucket) (item : Item)

namespace Change

def email : Change → String
  | .enter email => email
  | .push email _ _ => email

def item? (email : String) (bucket : Bucket) : Change → Option Item
  | .enter _ => none
  | .push owner kind item => if email = owner ∧ bucket = kind then some item else none

def adds (email : String) : Change → Bool
  | .enter _ => false
  | .push owner _ _ => email == owner

end Change

def apply (digest : Digest) : Change → Digest
  | .enter email => digest.enter email
  | .push email bucket item => digest.push email bucket item

/-- The digest after some changes, of which the first was made to an empty one. -/
def replay (history : List Change) : Digest := history.foldl apply empty

theorem replay_concat (history : List Change) (change : Change) :
    replay (history ++ [change]) = (replay history).apply change := by
  rw [replay, List.foldl_append]
  rfl

theorem getElem?_updateIn {change : RecipientItems → RecipientItems}
    (keeps : ∀ recipient, (change recipient).email = recipient.email) {email : String}
    {other : RecipientItems} (apart : other.email ≠ email) (recipients : List RecipientItems)
    (place : Nat) :
    (updateIn change email recipients)[place]? = some other ↔ recipients[place]? = some other := by
  have changed (recipient : RecipientItems) (same : recipient.email = email) :
      change recipient ≠ other :=
    fun equal => apart (by rw [← equal, keeps, same])
  induction recipients generalizing place with
  | nil =>
    cases place with
    | zero => simpa [updateIn] using changed { email } rfl
    | succ place => simp [updateIn]
  | cons head rest ih =>
    rw [updateIn]
    by_cases here : head.email = email
    · have gone : head ≠ other := fun equal => apart (equal ▸ here)
      rw [if_pos here]
      cases place with
      | zero => simp [changed head here, gone]
      | succ place => rfl
    · rw [if_neg here]
      cases place with
      | zero => rfl
      | succ place => exact ih place

theorem getElem?_apply (digest : Digest) (change : Change) {other : RecipientItems}
    (apart : other.email ≠ change.email) (place : Nat) :
    (digest.apply change).recipients[place]? = some other ↔ digest.recipients[place]? = some other := by
  cases change with
  | enter email => exact getElem?_updateIn (fun _ => rfl) apart _ place
  | push email bucket item =>
    exact getElem?_updateIn (fun recipient => recipient.email_push bucket item) apart _ place

theorem emails_apply (digest : Digest) (change : Change) :
    (digest.apply change).emails =
      if change.email ∈ digest.emails then digest.emails else digest.emails ++ [change.email] := by
  cases change with
  | enter email => exact emails_enter digest email
  | push email bucket item => exact emails_push digest email bucket item

theorem itemsOf_apply (digest : Digest) (change : Change) (email : String) (bucket : Bucket) :
    (digest.apply change).itemsOf email bucket =
      digest.itemsOf email bucket ++ (change.item? email bucket).toList := by
  cases change with
  | enter owner => rw [apply, itemsOf_enter, Change.item?, Option.toList_none, List.append_nil]
  | push owner kind item =>
    rw [apply, itemsOf_push, Change.item?]
    split
    · rfl
    · rw [Option.toList_none, List.append_nil]

theorem entry_update (digest : Digest) (email other : String) (change : RecipientItems → RecipientItems)
    (keeps : ∀ recipient, (change recipient).email = recipient.email) :
    (digest.update email change keeps).entry other =
      if other = email then change (digest.entry email) else digest.entry other := by
  rw [entry, get?_update]
  split <;> rfl

theorem total_entry_apply (digest : Digest) (change : Change) (email : String) :
    ((digest.apply change).entry email).total =
      (digest.entry email).total + if change.adds email then 1 else 0 := by
  cases change with
  | enter owner =>
    rw [apply, enter, entry_update]
    split
    · next same => rw [same]; rfl
    · rfl
  | push owner kind item =>
    rw [apply, push, entry_update, Change.adds]
    by_cases same : email = owner
    · rw [if_pos same, RecipientItems.total_push, same, beq_self_eq_true, if_pos rfl]
    · rw [if_neg same, beq_false_of_ne same]
      rfl

theorem isSome_get?_iff {digest : Digest} {email : String} :
    (digest.get? email).isSome = true ↔ email ∈ digest.emails := by
  rw [get?, List.find?_isSome, emails, List.mem_map]
  simp only [beq_iff_eq]

theorem entry_of_get? {digest : Digest} {email : String} {recipient : RecipientItems}
    (found : digest.get? email = some recipient) : digest.entry email = recipient := by
  rw [entry, found]
  rfl

/-- Recipients stand in the order in which they were first named. -/
theorem emails_replay (history : List Change) :
    (replay history).emails = (history.map Change.email).eraseDups := by
  induction history using List.reverseRecOn with
  | nil => rfl
  | append_singleton history change ih =>
    rw [replay_concat, emails_apply, ih, List.map_append, List.map_singleton, eraseDups_concat]
    simp only [List.mem_eraseDups]

theorem itemsOf_replay (history : List Change) (email : String) (bucket : Bucket) :
    (replay history).itemsOf email bucket = history.filterMap (Change.item? email bucket) := by
  induction history using List.reverseRecOn with
  | nil => rfl
  | append_singleton history change ih =>
    rw [replay_concat, itemsOf_apply, ih, List.filterMap_append]
    cases added : change.item? email bucket <;> simp [added]

theorem total_entry_replay (history : List Change) (email : String) :
    ((replay history).entry email).total = history.countP (Change.adds email) := by
  induction history using List.reverseRecOn with
  | nil => rfl
  | append_singleton history change ih =>
    rw [replay_concat, total_entry_apply, ih, List.countP_append, List.countP_singleton]

/-- A digest holds what a history has put into it. -/
structure Holds (history : List Change) (digest : Digest) : Prop where
  distinct : digest.emails.Nodup
  /-- Everybody who was named is listed, in the order of the first mentions. -/
  emails : digest.emails = (history.map Change.email).eraseDups
  size : digest.size = (history.map Change.email).toFinset.card
  found : ∀ email, (digest.get? email).isSome = true ↔ email ∈ history.map Change.email
  email : ∀ {email recipient}, digest.get? email = some recipient → recipient.email = email
  /-- The items of a bucket stand in the order in which they were added to it. -/
  items : ∀ {email recipient}, digest.get? email = some recipient → ∀ bucket,
    recipient.items bucket = history.filterMap (Change.item? email bucket)
  total : ∀ {email recipient}, digest.get? email = some recipient →
    recipient.total = history.countP (Change.adds email)
  empty : ∀ {email recipient}, digest.get? email = some recipient →
    (recipient.isEmpty = true ↔ ∀ change ∈ history, change.adds email = false)

theorem holds_replay (history : List Change) : Holds history (replay history) where
  distinct := (replay history).distinct
  emails := emails_replay history
  size := by
    have same : (history.map Change.email).toFinset = (replay history).emails.toFinset := by
      ext email
      rw [List.mem_toFinset, List.mem_toFinset, emails_replay, List.mem_eraseDups]
    have distinct : (replay history).emails.Nodup := (replay history).distinct
    rw [same, List.toFinset_card_of_nodup distinct, Digest.emails, List.length_map, Digest.size]
  found email := by rw [isSome_get?_iff, emails_replay, List.mem_eraseDups]
  email found := by rw [← entry_of_get? found, email_entry]
  items found bucket := by rw [← entry_of_get? found, items_entry, itemsOf_replay]
  total found := by rw [← entry_of_get? found, total_entry_replay]
  empty found := by
    rw [← entry_of_get? found, RecipientItems.isEmpty, beq_iff_eq, total_entry_replay,
      List.countP_eq_zero]
    simp only [Bool.not_eq_true]

/-- After any history a digest lists every recipient that was named, once and in the order of the
first mentions, and holds under each address what was added there, in this order. One more change
leaves everybody else's items and place as they were. -/
theorem replay_invariant (history : List Change) :
    Holds history (replay history) ∧
    ∀ (change : Change) (place : Nat) (other : RecipientItems), other.email ≠ change.email →
      ((replay (history ++ [change])).recipients[place]? = some other ↔
        (replay history).recipients[place]? = some other) := by
  refine ⟨holds_replay history, ?_⟩
  intro change place other apart
  rw [replay_concat]
  exact getElem?_apply _ change apart place

end DueReminders.Digest
