import DueReminders.Run.Delivery
import Mathlib.Data.List.Basic

/-! What a sink is offered and what it answers. Delivering documents offers their mails in order,
each once, and neither an answer of the sink nor the archive has a say in what is offered. -/
namespace DueReminders

theorem run_mapM_cons {σ α β : Type} (step : α → StateM σ β) (head : α) (rest : List α) (state : σ) :
    ((head :: rest).mapM step).run state =
      let (value, next) := (step head).run state
      let (values, after) := (rest.mapM step).run next
      (value :: values, after) := by
  rw [List.mapM_cons]
  rfl

/-- A mail that was handed to a sink, and what the sink answered. -/
structure Offer where
  envelope : Envelope
  answer : Except Failure Unit
  deriving DecidableEq

namespace Offer

def delivery (offer : Offer) : Delivery := ⟨offer.envelope.recipient, offer.answer⟩

/-- The mails to one address among all that were offered. -/
def mailsTo (offers : List Offer) (email : String) : List Envelope :=
  (offers.map envelope).filter fun envelope => envelope.recipient == email

def sent? (offer : Offer) : Option String :=
  match offer.answer with
  | .ok () => some offer.envelope.recipient
  | .error _ => none

def failed? (offer : Offer) : Option (String × Failure) :=
  match offer.answer with
  | .ok () => none
  | .error failure => some (offer.envelope.recipient, failure)

theorem mailsTo_ne_nil_of_failed {offers : List Offer} {email : String} {failure : Failure}
    (lost : (email, failure) ∈ offers.filterMap failed?) : mailsTo offers email ≠ [] := by
  obtain ⟨offer, member, refused⟩ := List.mem_filterMap.mp lost
  obtain ⟨envelope, answer⟩ := offer
  cases answer with
  | ok done => cases refused
  | error cause =>
    cases refused
    apply List.ne_nil_of_mem
    exact List.mem_filter.mpr ⟨List.mem_map_of_mem member, beq_self_eq_true _⟩

theorem sent?_comp_delivery : Delivery.sent? ∘ delivery = sent? := rfl

theorem failed?_comp_delivery : Delivery.failed? ∘ delivery = failed? := rfl

theorem length_sent_add_length_failed (offers : List Offer) :
    (offers.filterMap sent?).length + (offers.filterMap failed?).length = offers.length := by
  induction offers with
  | nil => rfl
  | cons offer offers ih =>
    obtain ⟨envelope, answer⟩ := offer
    cases answer with
    | ok done =>
      have taken : sent? ⟨envelope, .ok done⟩ = some envelope.recipient := rfl
      have kept : failed? ⟨envelope, .ok done⟩ = none := rfl
      rw [List.filterMap_cons_some taken, List.filterMap_cons_none kept, List.length_cons,
        List.length_cons, ← ih]
      omega
    | error failure =>
      have lost : sent? ⟨envelope, .error failure⟩ = none := rfl
      have refused : failed? ⟨envelope, .error failure⟩ = some (envelope.recipient, failure) := rfl
      rw [List.filterMap_cons_none lost, List.filterMap_cons_some refused, List.length_cons,
        List.length_cons, ← ih]
      omega

end Offer

namespace Sink

variable {τ υ : Type}

/-- The sink together with a list of what it was offered. -/
def recorded (sink : Sink τ) : Sink (τ × List Offer) := fun envelope (state, offers) =>
  let (answer, state) := (sink envelope).run state
  (answer, state, offers ++ [⟨envelope, answer⟩])

/-- Offer one mail after the other, whatever the answers are. -/
def offerAll (sink : Sink τ) (envelopes : List Envelope) : StateM τ (List Offer) :=
  envelopes.mapM fun envelope => do return ⟨envelope, ← sink envelope⟩

/-- Two sinks answer alike to every sequence of mails. -/
def Alike (sink : Sink τ) (state : τ) (other : Sink υ) (otherState : υ) : Prop :=
  ∀ envelopes, ((sink.offerAll envelopes).run state).1 = ((other.offerAll envelopes).run otherState).1

theorem offerAll_cons (sink : Sink τ) (envelope : Envelope) (envelopes : List Envelope) (state : τ) :
    (sink.offerAll (envelope :: envelopes)).run state =
      let (answer, next) := (sink envelope).run state
      let (offers, after) := (sink.offerAll envelopes).run next
      (⟨envelope, answer⟩ :: offers, after) :=
  run_mapM_cons _ envelope envelopes state

theorem envelopes_offerAll (sink : Sink τ) (envelopes : List Envelope) (state : τ) :
    ((sink.offerAll envelopes).run state).1.map Offer.envelope = envelopes := by
  induction envelopes generalizing state with
  | nil => rfl
  | cons envelope envelopes ih =>
    rw [offerAll_cons]
    exact congrArg (envelope :: ·) (ih _)

theorem offerAll_recorded (sink : Sink τ) (envelopes : List Envelope) (state : τ)
    (earlier : List Offer) :
    (sink.recorded.offerAll envelopes).run (state, earlier) =
      let (offers, after) := (sink.offerAll envelopes).run state
      (offers, after, earlier ++ offers) := by
  induction envelopes generalizing state earlier with
  | nil =>
    show ([], state, earlier) = ([], state, earlier ++ [])
    rw [List.append_nil]
  | cons envelope envelopes ih =>
    rcases answered : (sink envelope).run state with ⟨answer, next⟩
    rcases offered : (sink.offerAll envelopes).run next with ⟨offers, after⟩
    have first : (sink.recorded envelope).run (state, earlier) =
        (answer, next, earlier ++ [⟨envelope, answer⟩]) := by
      show (((sink envelope).run state).1, ((sink envelope).run state).2,
        earlier ++ [Offer.mk envelope ((sink envelope).run state).1]) = _
      rw [answered]
    rw [offerAll_cons, offerAll_cons, first, answered]
    simp only [ih, offered, List.append_assoc, List.singleton_append]

end Sink

/-- A document of which a copy was to be kept, and what the archive answered. -/
structure Copy where
  document : Document
  answer : Except FileFault Unit
  deriving DecidableEq

/-- The archive together with a list of what it was given and its answers. -/
def Archive.recorded {φ : Type} (archive : Archive φ) : Archive (φ × List Copy) :=
  fun document (store, copies) =>
    let (answer, store) := (archive document).run store
    (answer, store, copies ++ [⟨document, answer⟩])

namespace Delivery

variable {φ τ : Type} (archive : Archive φ) (settings : Settings) (today : Date) (sink : Sink τ)

/-- Delivering documents is offering their mails to the sink and, apart from that, keeping
copies. -/
theorem performAll_eq (documents : List Document) (store : φ) (state : τ) :
    (performAll archive settings today sink documents).run (store, state) =
      let (offers, sent) := (sink.offerAll (documents.map (settings.envelope today))).run state
      (offers.map Offer.delivery, ((documents.mapM archive).run store).2, sent) := by
  induction documents generalizing store state with
  | nil => rfl
  | cons document documents ih =>
    rcases copied : (archive document).run store with ⟨copy, kept⟩
    rcases answered : (sink (settings.envelope today document)).run state with ⟨answer, next⟩
    rcases offered : (sink.offerAll (documents.map (settings.envelope today))).run next with
      ⟨offers, sent⟩
    have first : (perform archive settings today sink document).run (store, state) =
        (⟨document.email, answer⟩, kept, next) := by
      show (Delivery.mk document.email ((sink (settings.envelope today document)).run state).1,
        ((archive document).run store).2, ((sink (settings.envelope today document)).run state).2) = _
      rw [copied, answered]
    have others := ih kept next
    rw [performAll, offered] at others
    rw [performAll, run_mapM_cons, List.map_cons, Sink.offerAll_cons, run_mapM_cons]
    simp only [first, others, answered, offered, copied]
    rfl

end Delivery
end DueReminders
