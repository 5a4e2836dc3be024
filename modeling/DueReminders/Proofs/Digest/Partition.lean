import DueReminders.Classify
import DueReminders.Proofs.Digest.Contents
import Mathlib.Data.List.Basic
import Mathlib.Data.List.Induction

/-! Sorting items is a partition of them. A recipient's buckets hold exactly the recipient's items
in source order, recipients stand in the order of their first items, and the resolver is asked for
the items that are not excluded, each once and in source order. -/
namespace DueReminders

namespace Criteria

/-- The address an item is sorted under. The item is not excluded and has a due time, and something
is left of the address when it is trimmed. -/
def addressee? (criteria : Criteria) (resolve : Item → Option String) (item : Item) : Option String :=
  if criteria.excludes item || (item.dateTime? criteria.dueField).isNone then none
  else (resolve item).filter fun email => !(Text.trim email.toList).isEmpty

/-- The item is put into a bucket of some recipient. -/
def places (criteria : Criteria) (today : Date) (resolve : Item → Option String) (item : Item) : Bool :=
  (criteria.addressee? resolve item).isSome && (criteria.bucket? today item).isSome

/-- A digest after one more item was sorted. -/
def assign (criteria : Criteria) (today : Date) (resolve : Item → Option String) (digest : Digest)
    (item : Item) : Digest :=
  match criteria.addressee? resolve item, criteria.bucket? today item with
  | none, _ => digest
  | some email, some bucket => digest.push email bucket item
  | some email, none => digest.enter email

variable {criteria : Criteria} {resolve : Item → Option String} {item : Item} {email : String}

theorem addressee?_eq_some_iff :
    criteria.addressee? resolve item = some email ↔
      criteria.excludes item = false ∧ (item.dateTime? criteria.dueField).isSome = true ∧
        resolve item = some email ∧ Text.trim email.toList ≠ [] := by
  rw [addressee?]
  cases criteria.excludes item with
  | true => simp
  | false =>
    cases item.dateTime? criteria.dueField with
    | none => simp
    | some due => simp [Option.filter_eq_some_iff]

theorem open_of_bucket? {today : Date} {bucket : Bucket}
    (found : criteria.bucket? today item = some bucket) :
    criteria.excludes item = false ∧ (item.dateTime? criteria.dueField).isSome = true := by
  rw [bucket?] at found
  cases excluded : criteria.excludes item with
  | true => simp [excluded] at found
  | false =>
    simp only [excluded, Bool.false_eq_true, if_false] at found
    obtain ⟨due, same, -⟩ := Option.bind_eq_some_iff.mp found
    exact ⟨rfl, by simp [same]⟩

theorem addressee?_bucket?_iff {today : Date} {bucket : Bucket} (solid : Text.trim email.toList ≠ []) :
    criteria.addressee? resolve item = some email ∧ criteria.bucket? today item = some bucket ↔
      resolve item = some email ∧ criteria.bucket? today item = some bucket := by
  constructor
  · rintro ⟨addressee, found⟩
    exact ⟨(addressee?_eq_some_iff.mp addressee).2.2.1, found⟩
  · rintro ⟨resolved, found⟩
    obtain ⟨included, due⟩ := open_of_bucket? found
    exact ⟨addressee?_eq_some_iff.mpr ⟨included, due, resolved, solid⟩, found⟩

end Criteria

namespace Digest

variable {σ : Type} (criteria : Criteria) (today : Date)

/-- Sorting an item asks for its address and then only depends on the answer. -/
theorem add_eq (resolve : Resolver σ) (digest : Digest) (item : Item) :
    add criteria today resolve digest item =
      if criteria.excludes item then pure digest
      else (fun answer => criteria.assign today (fun _ => answer) digest item) <$> resolve item := by
  rw [add]
  split
  · rfl
  · next included =>
    have excluded : criteria.excludes item = false := by simpa using included
    simp only [map_eq_pure_bind]
    congr 1
    funext answer
    rw [Criteria.assign, Criteria.addressee?, Criteria.bucket?, excluded]
    cases answer with
    | none => cases item.dateTime? criteria.dueField <;> rfl
    | some email =>
      cases item.dateTime? criteria.dueField with
      | none => rfl
      | some due =>
        simp only [Option.isNone_some, Bool.or_false, Bool.false_eq_true, if_false,
          Option.filter_some, Option.bind_some]
        cases blank : Text.isBlankText email with
        | true => simp [Text.isBlankText_iff.mp blank]
        | false =>
          have solid : Text.trim email.toList ≠ [] := fun empty =>
            Bool.false_ne_true (blank.symm.trans (Text.isBlankText_iff.mpr empty))
          simp only [List.isEmpty_eq_false_iff.mpr solid, Bool.not_false, if_true, Criteria.place]
          cases criteria.bucketOf today item due <;> rfl

theorem add_pure (resolve : Item → Option String) (digest : Digest) (item : Item) :
    add criteria today (fun item => (pure (resolve item) : StateM σ (Option String))) digest item =
      pure (criteria.assign today resolve digest item) := by
  rw [add_eq, map_pure]
  cases excluded : criteria.excludes item with
  | true => simp [Criteria.assign, Criteria.addressee?, excluded]
  | false => rfl

theorem classify_eq_foldl (resolve : Item → Option String) (items : List Item) :
    classify criteria today resolve items = items.foldl (criteria.assign today resolve) empty := by
  have steps : add criteria today (fun item => (pure (resolve item) : StateM Unit (Option String))) =
      fun digest item => pure (criteria.assign today resolve digest item) := by
    funext digest item
    exact add_pure criteria today resolve digest item
  rw [classify, classifyM, steps, List.foldlM_pure]
  rfl

theorem classify_concat (resolve : Item → Option String) (items : List Item) (item : Item) :
    classify criteria today resolve (items ++ [item]) =
      criteria.assign today resolve (classify criteria today resolve items) item := by
  simp only [classify_eq_foldl, List.foldl_append, List.foldl_cons, List.foldl_nil]

theorem classify_congr {resolve other : Item → Option String} {items : List Item}
    (same : ∀ item ∈ items, criteria.excludes item = false → resolve item = other item) :
    classify criteria today resolve items = classify criteria today other items := by
  rw [classify_eq_foldl, classify_eq_foldl]
  refine List.foldl_ext _ _ _ ?_
  intro digest item member
  rw [Criteria.assign, Criteria.assign, Criteria.addressee?, Criteria.addressee?]
  cases excluded : criteria.excludes item with
  | true => rfl
  | false => rw [same item member excluded]

variable {criteria today} {resolve : Item → Option String}

theorem emails_assign (digest : Digest) (item : Item) :
    (criteria.assign today resolve digest item).emails =
      match criteria.addressee? resolve item with
      | none => digest.emails
      | some email => if email ∈ digest.emails then digest.emails else digest.emails ++ [email] := by
  rw [Criteria.assign]
  cases criteria.addressee? resolve item with
  | none => rfl
  | some email =>
    cases criteria.bucket? today item with
    | none => exact emails_enter digest email
    | some bucket => exact emails_push digest email bucket item

theorem itemsOf_assign (digest : Digest) (item : Item) (email : String) (bucket : Bucket) :
    (criteria.assign today resolve digest item).itemsOf email bucket =
      if criteria.addressee? resolve item = some email ∧ criteria.bucket? today item = some bucket then
        digest.itemsOf email bucket ++ [item]
      else digest.itemsOf email bucket := by
  rw [Criteria.assign]
  cases criteria.addressee? resolve item with
  | none => simp
  | some owner =>
    cases criteria.bucket? today item with
    | none => simp [itemsOf_enter]
    | some found => simp [itemsOf_push, eq_comm]

theorem contents_assign (digest : Digest) (item : Item) :
    (criteria.assign today resolve digest item).contents.Perm
      (if criteria.places today resolve item then item :: digest.contents else digest.contents) := by
  rw [Criteria.assign, Criteria.places]
  cases criteria.addressee? resolve item with
  | none => exact .refl _
  | some email =>
    cases criteria.bucket? today item with
    | none => exact contents_enter digest email
    | some bucket => exact contents_push digest email bucket item

theorem eraseDups_concat {α : Type} [BEq α] [LawfulBEq α] (values : List α) (value : α) :
    (values ++ [value]).eraseDups =
      if value ∈ values then values.eraseDups else values.eraseDups ++ [value] := by
  rw [List.eraseDups_append]
  by_cases known : value ∈ values <;> simp [List.removeAll, List.eraseDups_cons, known]

theorem emails_classify (items : List Item) :
    (classify criteria today resolve items).emails =
      (items.filterMap (criteria.addressee? resolve)).eraseDups := by
  induction items using List.reverseRecOn with
  | nil => rfl
  | append_singleton items item ih =>
    rw [classify_concat, emails_assign, ih, List.filterMap_append]
    cases addressee : criteria.addressee? resolve item with
    | none => simp [addressee]
    | some email => simp [addressee, eraseDups_concat]

theorem itemsOf_classify (items : List Item) (email : String) (bucket : Bucket) :
    (classify criteria today resolve items).itemsOf email bucket =
      items.filter fun item =>
        criteria.addressee? resolve item = some email ∧ criteria.bucket? today item = some bucket := by
  induction items using List.reverseRecOn with
  | nil => rfl
  | append_singleton items item ih =>
    rw [classify_concat, itemsOf_assign, ih, List.filter_append]
    split
    · next both => simp [both]
    · next other => simp [other]

/-- A recipient's bucket holds what resolves to the recipient and has this bucket. -/
theorem itemsOf_classify_eq (items : List Item) (email : String) (bucket : Bucket) :
    (classify criteria today resolve items).itemsOf email bucket =
      if Text.trim email.toList = [] then []
      else items.filter fun item =>
        resolve item = some email ∧ criteria.bucket? today item = some bucket := by
  rw [itemsOf_classify]
  split
  · next blank =>
    rw [List.filter_eq_nil_iff]
    intro item _ held
    have owned := (Criteria.addressee?_eq_some_iff.mp (of_decide_eq_true held).1).2.2.2
    exact owned blank
  · next solid =>
    apply List.filter_congr
    intro item _
    exact decide_eq_decide.mpr (Criteria.addressee?_bucket?_iff solid)

theorem contents_classify (items : List Item) :
    (classify criteria today resolve items).contents.Perm
      (items.filter (criteria.places today resolve)) := by
  induction items using List.reverseRecOn with
  | nil => exact .refl _
  | append_singleton items item ih =>
    rw [classify_concat, List.filter_append]
    refine (contents_assign _ item).trans ?_
    split
    · next held =>
      rw [List.filter_cons_of_pos held]
      exact (ih.cons item).trans (List.perm_append_singleton item _).symm
    · next dropped =>
      rw [List.filter_cons_of_neg dropped]
      simpa using ih

end Digest

/-- The resolver together with a list of the items it was asked for. -/
def Resolver.recorded {σ : Type} (resolve : Resolver σ) : Resolver (σ × List Item) :=
  fun item (state, asked) =>
    let (answer, state) := (resolve item).run state
    (answer, state, asked ++ [item])

namespace Digest

variable {σ : Type} {criteria : Criteria} {today : Date}

theorem add_recorded (resolve : Resolver σ) (digest : Digest) (item : Item) (state : σ)
    (asked : List Item) :
    (add criteria today resolve.recorded digest item).run (state, asked) =
      let (added, after) := (add criteria today resolve digest item).run state
      (added, after, if criteria.excludes item then asked else asked ++ [item]) := by
  rw [add_eq, add_eq]
  cases criteria.excludes item <;> rfl

private theorem foldlM_add_recorded (resolve : Resolver σ) (items : List Item) (digest : Digest)
    (state : σ) (asked : List Item) :
    (items.foldlM (add criteria today resolve.recorded) digest).run (state, asked) =
      let (sorted, after) := (items.foldlM (add criteria today resolve) digest).run state
      (sorted, after, asked ++ items.filter fun item => !criteria.excludes item) := by
  induction items generalizing digest state asked with
  | nil =>
    rw [List.filter_nil, List.append_nil]
    rfl
  | cons item items ih =>
    simp only [List.foldlM_cons, StateT.run_bind, add_recorded]
    rcases (add criteria today resolve digest item).run state with ⟨next, after⟩
    refine (ih next after _).trans ?_
    cases excluded : criteria.excludes item with
    | true =>
      simp [excluded]
      rfl
    | false =>
      simp [excluded]
      rfl

/-- The resolver is asked for the items that are not excluded, each once and in source order, and
keeping count of this changes nothing. -/
theorem classifyM_recorded (resolve : Resolver σ) (items : List Item) (state : σ) :
    (classifyM criteria today resolve.recorded items).run (state, []) =
      let (sorted, after) := (classifyM criteria today resolve items).run state
      (sorted, after, items.filter fun item => !criteria.excludes item) :=
  foldlM_add_recorded resolve items empty state []

/-- Sorting is an exact partition that keeps the source order. The recipients are the addresses of
the items that can be sorted, in the order of their first items. A recipient's bucket holds the
items resolved to the recipient that have this bucket, and no item is lost or held twice. A resolver
with a state is asked once for every item that is not excluded. -/
theorem classify_partition (criteria : Criteria) (today : Date) (items : List Item) :
    (∀ resolve : Item → Option String,
      let digest := classify criteria today resolve items
      digest.emails = (items.filterMap (criteria.addressee? resolve)).eraseDups ∧
      (∀ email bucket, digest.itemsOf email bucket =
        if Text.trim email.toList = [] then []
        else items.filter fun item =>
          resolve item = some email ∧ criteria.bucket? today item = some bucket) ∧
      digest.contents.Perm (items.filter (criteria.places today resolve))) ∧
    ∀ {σ : Type} (resolve : Resolver σ) (state : σ),
      (classifyM criteria today resolve.recorded items).run (state, []) =
        let (sorted, after) := (classifyM criteria today resolve items).run state
        (sorted, after, items.filter fun item => !criteria.excludes item) := by
  refine ⟨?_, fun resolve state => classifyM_recorded resolve items state⟩
  exact fun resolve => ⟨emails_classify items, itemsOf_classify_eq items, contents_classify items⟩

end Digest
end DueReminders
