import DueReminders.Classify
import DueReminders.Proofs.Bucket.Partition

/-! Sorting items with arithmetic that can fail. Seconds are counted in 64 bits, and the end of a
week is counted on without a look at the end of the calendar, behind which it lies for the last two
days. No time is long enough for the first to matter, and the buckets that are tried before the week
leave no item to be judged on such a day. -/
namespace DueReminders

open Number

/-- What stops a computation. -/
inductive Overflow where
  /-- A number of seconds does not fit into 64 bits. -/
  | seconds
  /-- The calendar does not have a date. -/
  | date
  deriving DecidableEq, Repr

/-- A step that nothing can stop. -/
def unstopped {σ α : Type} (step : StateM σ α) : StateT σ (Except Overflow) α :=
  fun state => .ok (step.run state)

/-- The Saturday that ends the week of a date, counted on from it. -/
def Date.endOfWeek (date : Date) : Except Overflow Date :=
  match date.endOfWeek? with
  | some saturday => .ok saturday
  | none => .error .date

/-- A moment that lies a length of time back. The seconds are counted from midnight, over a leap
second only when it is left towards the past, and then divided into days. -/
def DateTime.back (moment : DateTime) (span : Span) : Except Overflow (Option DateTime) :=
  let time := moment.time
  let leap := 1000000000 ≤ time.nano
  let seconds : Int := time.second + (if leap ∧ 0 < span.seconds then 1 else 0) - span.seconds
  if IntegerRange.signed64.Contains seconds then
    .ok ((moment.date.addDays? (seconds / 86400)).map fun date =>
      ⟨date, (seconds % 86400).toNat,
        if leap ∧ span.seconds ≠ 0 then time.nano - 1000000000 else time.nano,
        by omega, by have := time.nano_lt; split <;> omega⟩)
  else .error .seconds

namespace Bucket

def threshold (due : DateTime) (days : Int) : Except Overflow (Option DateTime) :=
  match Span.ofDays? days with
  | some span => due.back span
  | none => .ok none

/-- The bucket of a due time, where counting seconds or the end of the week may stop it. -/
def judge (due : DateTime) (modified : Option DateTime) (today : Date) (days : Int) :
    Except Overflow (Option Bucket) := do
  if due.date = today then
    return some .today
  if due.date < today then
    match modified, ← threshold due days with
    | some time, some limit => return some (if time.Before limit then .wayOverdue else .overdue)
    | _, _ => return some .overdue
  if today.next? = some due.date then
    return some .tomorrow
  let saturday ← today.endOfWeek
  return if due.date ≤ saturday then some .thisWeek else none

end Bucket

def Criteria.judge (criteria : Criteria) (today : Date) (item : Item) :
    Except Overflow (Option Bucket) := do
  if criteria.excludes item then
    return none
  match item.dateTime? criteria.dueField with
  | none => return none
  | some due => Bucket.judge due (item.dateTime? criteria.modifiedField) today criteria.overdueDays

namespace Digest

variable {σ : Type} (criteria : Criteria) (today : Date) (resolve : Resolver σ)

def judgeItem (digest : Digest) (item : Item) : StateT σ (Except Overflow) Digest := do
  if criteria.excludes item then
    return digest
  let email ← unstopped (resolve item)
  match email, item.dateTime? criteria.dueField with
  | some email, some due =>
    if Text.isBlankText email then
      return digest
    match ← Bucket.judge due (item.dateTime? criteria.modifiedField) today criteria.overdueDays with
    | some bucket => return digest.push email bucket item
    | none => return digest.enter email
  | _, _ => return digest

def judgeItems (items : List Item) : StateT σ (Except Overflow) Digest :=
  items.foldlM (judgeItem criteria today resolve) empty

end Digest

section

variable {σ α β : Type}

theorem unstopped_bind (step : StateM σ α) (next : α → StateM σ β) :
    unstopped (step >>= next) = unstopped step >>= fun value => unstopped (next value) := rfl

theorem foldlM_unstopped (step : α → β → StateM σ α) (inputs : List β) (start : α) :
    (inputs.foldlM (fun value input => unstopped (step value input)) start) =
      unstopped (inputs.foldlM step start) := by
  induction inputs generalizing start with
  | nil => rfl
  | cons input inputs ih =>
    simp only [List.foldlM_cons, unstopped_bind, ih]

end

namespace Date

theorem endOfWeek_eq_ok_iff {date saturday : Date} :
    date.endOfWeek = .ok saturday ↔ date.endOfWeek? = some saturday := by
  rw [endOfWeek]
  cases date.endOfWeek? <;> simp

/-- The calendar ends on a Monday, so that the weeks of its last two days are not complete. -/
theorem endOfWeek_eq_error_iff {date : Date} :
    date.endOfWeek = .error .date ↔ lastNumber - 1 ≤ date.number := by
  have first := date.first_le
  have last := date.le_last
  have complete : date.endOfWeek?.isSome = true ↔ ¬lastNumber - 1 ≤ date.number := by
    rw [endOfWeek?, addDays?, ofNumber?_isSome_iff]
    unfold lastNumber firstNumber daysFromSunday
    omega
  rw [endOfWeek]
  cases found : date.endOfWeek? with
  | some saturday => simpa [found] using complete
  | none => simpa [found] using complete

end Date

theorem DateTime.back_eq_ok {moment : DateTime} {days : Int} {span : Span}
    (counted : Span.ofDays? days = some span) :
    moment.back span = .ok (moment.daysBack? days) := by
  have same := Span.ofDays?_eq_some_iff.mp counted
  have shortest := span.shortest_le
  have longest := span.le_longest
  have ends := moment.time.second_lt
  have past : 0 < span.seconds ↔ 0 < days := by omega
  have away : span.seconds ≠ 0 ↔ days ≠ 0 := by omega
  have fits : IntegerRange.signed64.Contains (moment.time.second +
      (if 1000000000 ≤ moment.time.nano ∧ 0 < span.seconds then 1 else 0) - span.seconds) := by
    simp only [IntegerRange.Contains, IntegerRange.signed64]
    split <;> omega
  rw [back, if_pos fits]
  congr 1
  apply Option.ext
  intro other
  have others := other.time.second_lt
  rw [moved_eq_some_iff, daysBack?_eq_some_iff, epochSeconds, epochSeconds]
  simp only [past, away]
  omega

namespace Bucket

theorem threshold_eq_ok (due : DateTime) (days : Int) :
    threshold due days = .ok (threshold? due days) := by
  rw [threshold]
  cases counted : Span.ofDays? days with
  | some span =>
    rw [threshold?_eq_daysBack?]
    exact DateTime.back_eq_ok counted
  | none => rw [threshold?, counted, Option.bind_none]

theorem judge_eq_ok (due : DateTime) (modified : Option DateTime) (today : Date) (days : Int) :
    judge due modified today days = .ok (ofDates due modified today days) := by
  rw [judge, ofDates]
  split
  · rfl
  · next other =>
    split
    · rw [threshold_eq_ok]
      unfold isStale
      cases modified with
      | none => rfl
      | some time =>
        cases threshold? due days with
        | none => rfl
        | some limit =>
          simp only [decide_eq_true_eq]
          rfl
    · next notPast =>
      split
      · rfl
      · next notNext =>
        have complete := endOfWeek?_isSome_of_later other notPast notNext
        have found : today.endOfWeek = .ok (today.endOfWeek?.get complete) :=
          Date.endOfWeek_eq_ok_iff.mpr (Option.some_get complete).symm
        rw [found]
        rfl

end Bucket

theorem Criteria.judge_eq_ok (criteria : Criteria) (today : Date) (item : Item) :
    criteria.judge today item = .ok (criteria.bucket? today item) := by
  rw [judge, bucket?]
  split
  · rfl
  · cases item.dateTime? criteria.dueField with
    | none => rfl
    | some due => exact Bucket.judge_eq_ok _ _ _ _

namespace Digest

variable {σ : Type} (criteria : Criteria) (today : Date) (resolve : Resolver σ)

theorem judgeItem_eq (digest : Digest) (item : Item) :
    judgeItem criteria today resolve digest item = unstopped (add criteria today resolve digest item) := by
  rw [judgeItem, add]
  split
  · rfl
  · rw [unstopped_bind]
    congr 1
    funext email
    cases email with
    | none => rfl
    | some email =>
      cases item.dateTime? criteria.dueField with
      | none => rfl
      | some due =>
        simp only [Bucket.judge_eq_ok, Criteria.place, Criteria.bucketOf]
        split
        · rfl
        · cases Bucket.ofDates due (item.dateTime? criteria.modifiedField) today
            criteria.overdueDays <;> rfl

theorem judgeItems_eq (items : List Item) :
    judgeItems criteria today resolve items = unstopped (classifyM criteria today resolve items) := by
  have steps : judgeItem criteria today resolve =
      fun digest item => unstopped (add criteria today resolve digest item) := by
    funext digest item
    exact judgeItem_eq criteria today resolve digest item
  rw [judgeItems, steps, foldlM_unstopped, classifyM]

end Digest

/-- Sorting items never leaves the numbers or the calendar. For every due time, day and number of
days the threshold is found or there is none, and the end of the week is only asked for where the
calendar has it, though it does not for its last two days; so a bucket is found for all dates, for
every item and for all items of a digest. -/
theorem judging_never_overflows :
    (∀ due modified today days,
      Bucket.judge due modified today days = .ok (Bucket.ofDates due modified today days)) ∧
    (∀ due days, Bucket.threshold due days = .ok (Bucket.threshold? due days)) ∧
    (∀ due today : Date, due = today ∨ due < today ∨ today.next? = some due ∨
      ∃ saturday, today.endOfWeek = .ok saturday) ∧
    (∀ today : Date, today.endOfWeek = .error .date ↔ Date.lastNumber - 1 ≤ today.number) ∧
    (∀ (criteria : Criteria) (today : Date) (item : Item),
      criteria.judge today item = .ok (criteria.bucket? today item)) ∧
    ∀ {σ : Type} (criteria : Criteria) (today : Date) (resolve : Resolver σ) (items : List Item)
      (state : σ),
      (Digest.judgeItems criteria today resolve items).run state =
        .ok ((Digest.classifyM criteria today resolve items).run state) := by
  refine ⟨Bucket.judge_eq_ok, Bucket.threshold_eq_ok, ?_, fun _ => Date.endOfWeek_eq_error_iff,
    Criteria.judge_eq_ok, ?_⟩
  · intro due today
    by_cases tried : due = today ∨ due < today ∨ today.next? = some due
    · rcases tried with same | past | next
      · exact .inl same
      · exact .inr (.inl past)
      · exact .inr (.inr (.inl next))
    · rw [not_or, not_or] at tried
      have complete := Bucket.endOfWeek?_isSome_of_later tried.1 tried.2.1 tried.2.2
      obtain ⟨saturday, found⟩ := Option.isSome_iff_exists.mp complete
      exact .inr (.inr (.inr ⟨saturday, Date.endOfWeek_eq_ok_iff.mpr found⟩))
  · intro σ criteria today resolve items state
    rw [Digest.judgeItems_eq]
    rfl

end DueReminders
