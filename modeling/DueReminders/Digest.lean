import DueReminders.Bucket
import DueReminders.Item

/-! The items of each recipient by urgency. Recipients keep the order they were first named in;
items keep the order they were added in. -/
namespace DueReminders

/-- One recipient's items by bucket. -/
structure RecipientItems where
  email : String
  wayOverdue : List Item := []
  overdue : List Item := []
  today : List Item := []
  tomorrow : List Item := []
  thisWeek : List Item := []
  deriving DecidableEq

namespace RecipientItems

def items (recipient : RecipientItems) : Bucket → List Item
  | .wayOverdue => recipient.wayOverdue
  | .overdue => recipient.overdue
  | .today => recipient.today
  | .tomorrow => recipient.tomorrow
  | .thisWeek => recipient.thisWeek

def push (recipient : RecipientItems) (bucket : Bucket) (item : Item) : RecipientItems :=
  match bucket with
  | .wayOverdue => { recipient with wayOverdue := recipient.wayOverdue ++ [item] }
  | .overdue => { recipient with overdue := recipient.overdue ++ [item] }
  | .today => { recipient with today := recipient.today ++ [item] }
  | .tomorrow => { recipient with tomorrow := recipient.tomorrow ++ [item] }
  | .thisWeek => { recipient with thisWeek := recipient.thisWeek ++ [item] }

def total (recipient : RecipientItems) : Nat :=
  Bucket.all.foldr (fun bucket total => (recipient.items bucket).length + total) 0

def isEmpty (recipient : RecipientItems) : Bool := recipient.total == 0

@[simp] theorem email_push (recipient : RecipientItems) (bucket : Bucket) (item : Item) :
    (recipient.push bucket item).email = recipient.email := by cases bucket <;> rfl

theorem items_push (recipient : RecipientItems) (bucket other : Bucket) (item : Item) :
    (recipient.push bucket item).items other =
      if other = bucket then recipient.items other ++ [item] else recipient.items other := by
  cases bucket <;> cases other <;> simp [push, items]

@[simp] theorem items_fresh (email : String) (bucket : Bucket) :
    (RecipientItems.items { email } bucket) = [] := by cases bucket <;> rfl

theorem total_push (recipient : RecipientItems) (bucket : Bucket) (item : Item) :
    (recipient.push bucket item).total = recipient.total + 1 := by
  cases bucket <;> simp [total, Bucket.all, push, items] <;> omega

/-- Two recipients are the same when their address and all buckets agree. -/
theorem ext_items {a b : RecipientItems} (email : a.email = b.email)
    (items : ∀ bucket, a.items bucket = b.items bucket) : a = b := by
  have wayOverdue := items .wayOverdue
  have overdue := items .overdue
  have today := items .today
  have tomorrow := items .tomorrow
  have thisWeek := items .thisWeek
  cases a
  cases b
  simp_all [RecipientItems.items]

end RecipientItems

/-- The recipients of a run, each address once. -/
structure Digest where
  recipients : List RecipientItems
  distinct : (recipients.map RecipientItems.email).Nodup

namespace Digest

instance : DecidableEq Digest := fun a b =>
  if same : a.recipients = b.recipients then .isTrue (by cases a; cases b; cases same; rfl)
  else .isFalse fun equal => same (equal ▸ rfl)

def empty : Digest := ⟨[], List.nodup_nil⟩

def emails (digest : Digest) : List String := digest.recipients.map RecipientItems.email

def size (digest : Digest) : Nat := digest.recipients.length

def get? (digest : Digest) (email : String) : Option RecipientItems :=
  digest.recipients.find? fun recipient => recipient.email == email

/-- Change the recipient with the address, or a fresh one put at the end. -/
def updateIn (change : RecipientItems → RecipientItems) (email : String) :
    List RecipientItems → List RecipientItems
  | [] => [change { email }]
  | head :: rest =>
    if head.email = email then change head :: rest else head :: updateIn change email rest

theorem emails_updateIn {change : RecipientItems → RecipientItems}
    (keeps : ∀ recipient, (change recipient).email = recipient.email) (email : String)
    (recipients : List RecipientItems) :
    (updateIn change email recipients).map RecipientItems.email =
      if email ∈ recipients.map RecipientItems.email then recipients.map RecipientItems.email
      else recipients.map RecipientItems.email ++ [email] := by
  induction recipients with
  | nil => simp [updateIn, keeps]
  | cons head rest ih =>
    simp only [updateIn]
    split
    · next same => simp [keeps, same]
    · next other =>
      rw [List.map_cons, ih]
      by_cases member : email ∈ rest.map RecipientItems.email
      · simp only [List.map_cons, member, if_true, List.mem_cons, or_true]
      · simp only [List.map_cons, member, if_false, List.mem_cons, or_false, Ne.symm other,
          List.cons_append]

/-- Change one recipient, who is added at the end when new. -/
def update (digest : Digest) (email : String) (change : RecipientItems → RecipientItems)
    (keeps : ∀ recipient, (change recipient).email = recipient.email) : Digest where
  recipients := updateIn change email digest.recipients
  distinct := by
    rw [emails_updateIn keeps]
    split
    · exact digest.distinct
    · next fresh =>
      rw [List.nodup_append]
      refine ⟨digest.distinct, by simp, ?_⟩
      intro a member b last same
      rw [List.mem_singleton] at last
      exact fresh (last ▸ same ▸ member)

/-- Name a recipient without adding an item. -/
def enter (digest : Digest) (email : String) : Digest := digest.update email id fun _ => rfl

def push (digest : Digest) (email : String) (bucket : Bucket) (item : Item) : Digest :=
  digest.update email (·.push bucket item) fun recipient => recipient.email_push bucket item

theorem emails_update (digest : Digest) (email : String) (change : RecipientItems → RecipientItems)
    (keeps : ∀ recipient, (change recipient).email = recipient.email) :
    (digest.update email change keeps).emails =
      if email ∈ digest.emails then digest.emails else digest.emails ++ [email] :=
  emails_updateIn keeps email digest.recipients

/-- Only the changed recipient reads differently. -/
theorem get?_update (digest : Digest) (email other : String)
    (change : RecipientItems → RecipientItems)
    (keeps : ∀ recipient, (change recipient).email = recipient.email) :
    (digest.update email change keeps).get? other =
      if other = email then some (change ((digest.get? email).getD { email }))
      else digest.get? other := by
  simp only [update, get?]
  generalize digest.recipients = recipients
  induction recipients with
  | nil =>
    by_cases same : other = email
    · subst same
      simp [updateIn, keeps]
    · simp [updateIn, keeps, same, Ne.symm same]
  | cons head rest ih =>
    simp only [updateIn]
    by_cases here : head.email = email
    · by_cases same : other = email
      · subst same
        simp [here, keeps]
      · have apart : head.email ≠ other := fun equal => same (equal.symm.trans here)
        simp [here, keeps, same, Ne.symm same]
    · by_cases same : other = email
      · subst same
        simp only [if_true] at ih
        simp [here, ih]
      · simp only [same, if_false] at ih
        simp only [here, if_false, List.find?_cons, ih, same]

end Digest
end DueReminders
