import DueReminders.Bucket

/-! Which bucket a due time falls into. Only its day counts, except that a past one is told apart by
exact arithmetic on the nanoseconds of its time, as far as the calendar reaches. -/
namespace DueReminders

namespace Date

theorem eq_iff {a b : Date} : a = b ↔ a.number = b.number := ⟨congrArg number, ext⟩

/-- A day with this number falls on a Saturday, whether or not the calendar has it. -/
def IsSaturday (number : Int) : Prop := (number + 4) % 7 = 6

/-- The number of the Saturday that ends the week of a date. -/
def weekEnd (date : Date) : Int := date.number + 6 - date.daysFromSunday

/-- Of seven days in a row one is a Saturday. -/
theorem eq_weekEnd_iff (date : Date) (day : Int) :
    date.number ≤ day ∧ day ≤ date.number + 6 ∧ IsSaturday day ↔ day = date.weekEnd := by
  unfold weekEnd daysFromSunday IsSaturday
  omega

theorem endOfWeek?_eq_some_iff {date saturday : Date} :
    date.endOfWeek? = some saturday ↔ saturday.number = date.weekEnd := by
  rw [endOfWeek?, addDays?, ofNumber?_eq_some_iff, weekEnd]
  omega

theorem next?_eq_some_iff {date next : Date} : date.next? = some next ↔ next.number = date.number + 1 :=
  ofNumber?_eq_some_iff

end Date

def nanosPerDay : Int := 86400000000000

namespace DateTime

/-- The nanoseconds since 1970-01-01T00:00:00 of the same wall clock. -/
def epochNanos (moment : DateTime) : Int := moment.epochSeconds * 1000000000 + moment.time.nano

/-- The calendar has a moment of so many nanoseconds. -/
def InCalendar (nanos : Int) : Prop :=
  Date.firstNumber * nanosPerDay ≤ nanos ∧ nanos < (Date.lastNumber + 1) * nanosPerDay

instance (nanos : Int) : Decidable (InCalendar nanos) := by unfold InCalendar; infer_instance

variable {moment other : DateTime} {days : Int}

theorem nano_lt_of_plain (plain : moment.time.isLeap = false) : moment.time.nano < 1000000000 :=
  Nat.lt_of_not_le (of_decide_eq_false plain)

/-- Outside of leap seconds a moment is before another one when its nanoseconds are fewer. -/
theorem before_iff (plain : moment.time.isLeap = false) (also : other.time.isLeap = false) :
    moment.Before other ↔ moment.epochNanos < other.epochNanos := by
  have first := nano_lt_of_plain plain
  have second := nano_lt_of_plain also
  have ends := moment.time.second_lt
  have others := other.time.second_lt
  rw [Before, Date.lt_iff, Date.eq_iff, epochNanos, epochNanos, epochSeconds, epochSeconds]
  omega

/-- Outside of leap seconds the nanoseconds tell whether the calendar has a moment. -/
theorem exists_epochNanos_iff (nanos : Int) :
    (∃ moment : DateTime, moment.time.isLeap = false ∧ moment.epochNanos = nanos) ↔ InCalendar nanos := by
  unfold InCalendar Date.firstNumber Date.lastNumber nanosPerDay
  constructor
  · rintro ⟨moment, plain, rfl⟩
    have small := nano_lt_of_plain plain
    have ends := moment.time.second_lt
    have first := moment.date.first_le
    have last := moment.date.le_last
    rw [epochNanos, epochSeconds]
    omega
  · intro inside
    let date : Date := ⟨nanos / 86400000000000, by omega, by omega⟩
    let time : ClockTime :=
      ⟨(nanos / 1000000000 % 86400).toNat, (nanos % 1000000000).toNat, by omega, by omega⟩
    have plain : time.isLeap = false := decide_eq_false (by simp only [time, nanosPerSecond]; omega)
    refine ⟨⟨date, time⟩, plain, ?_⟩
    simp only [epochNanos, epochSeconds, date, time]
    omega

theorem moved_eq_some_iff {date : Date} {shift : Int} {time : ClockTime} :
    ((date.addDays? shift).map fun day => (⟨day, time⟩ : DateTime)) = some other ↔
      other.date.number = date.number + shift ∧ other.time.second = time.second ∧
      other.time.nano = time.nano := by
  rw [Option.map_eq_some_iff]
  constructor
  · rintro ⟨day, found, rfl⟩
    exact ⟨Date.ofNumber?_eq_some_iff.mp found, rfl, rfl⟩
  · rintro ⟨day, second, nano⟩
    exact ⟨other.date, Date.ofNumber?_eq_some_iff.mpr day, by rw [← ClockTime.ext second nano]⟩

/-- Going back over days is exact. A move that leaves a leap second starts from one of the seconds
beside it. -/
theorem daysBack?_eq_some_iff :
    moment.daysBack? days = some other ↔
      other.epochSeconds =
          moment.epochSeconds + (if 1000000000 ≤ moment.time.nano ∧ 0 < days then 1 else 0) -
            days * 86400 ∧
        other.time.nano =
          if 1000000000 ≤ moment.time.nano ∧ days ≠ 0 then moment.time.nano - 1000000000
          else moment.time.nano := by
  have ends := moment.time.second_lt
  have others := other.time.second_lt
  rw [daysBack?, epochSeconds, epochSeconds]
  by_cases past : 1000000000 ≤ moment.time.nano ∧ 0 < days
  · have away : 1000000000 ≤ moment.time.nano ∧ days ≠ 0 := ⟨past.1, Int.ne_of_gt past.2⟩
    rw [dif_pos past, if_pos past, if_pos away]
    by_cases last : moment.time.second = 86399
    · rw [dif_pos last, moved_eq_some_iff]
      simp only
      omega
    · rw [dif_neg last, moved_eq_some_iff]
      simp only
      omega
  · rw [dif_neg past, if_neg past]
    by_cases future : 1000000000 ≤ moment.time.nano ∧ days < 0
    · have away : 1000000000 ≤ moment.time.nano ∧ days ≠ 0 := ⟨future.1, Int.ne_of_lt future.2⟩
      rw [if_pos future, if_pos away, moved_eq_some_iff]
      simp only
      omega
    · have still : ¬(1000000000 ≤ moment.time.nano ∧ days ≠ 0) := by omega
      rw [if_neg future, if_neg still, moved_eq_some_iff]
      omega

end DateTime

namespace Bucket

variable {due limit : DateTime} {modified : Option DateTime} {today : Date} {days : Int}

/-- Days that lead from one moment of the calendar to another one are never too many for a length of
time. -/
theorem threshold?_eq_daysBack? (due : DateTime) (days : Int) :
    threshold? due days = due.daysBack? days := by
  apply Option.ext
  intro limit
  rw [threshold?, Option.bind_eq_some_iff]
  constructor
  · rintro ⟨span, counted, back⟩
    rwa [Span.days_of_ofDays? counted] at back
  · intro back
    obtain ⟨seconds, -⟩ := DateTime.daysBack?_eq_some_iff.mp back
    have near : -9223372036854775 ≤ days * 86400 ∧ days * 86400 ≤ 9223372036854775 := by
      have first := due.date.first_le
      have last := due.date.le_last
      have least := limit.date.first_le
      have most := limit.date.le_last
      have ends := due.time.second_lt
      have others := limit.time.second_lt
      unfold DateTime.epochSeconds at seconds
      split at seconds <;> omega
    have counted : Span.ofDays? days = some ⟨days * 86400, near.1, near.2⟩ :=
      Span.ofDays?_eq_some_iff.mpr rfl
    exact ⟨_, counted, by rwa [Span.days_of_ofDays? counted]⟩

theorem threshold?_eq_some_iff (plain : due.time.isLeap = false) :
    threshold? due days = some limit ↔
      limit.time.isLeap = false ∧ limit.epochNanos = due.epochNanos - days * nanosPerDay := by
  have small := DateTime.nano_lt_of_plain plain
  have whole : limit.time.isLeap = false ↔ limit.time.nano < 1000000000 := by
    rw [ClockTime.isLeap, decide_eq_false_iff_not, Nat.not_le, nanosPerSecond]
  have past : ¬(1000000000 ≤ due.time.nano ∧ 0 < days) := by omega
  have away : ¬(1000000000 ≤ due.time.nano ∧ days ≠ 0) := by omega
  rw [threshold?_eq_daysBack?, DateTime.daysBack?_eq_some_iff, if_neg past, if_neg away, whole,
    DateTime.epochNanos, DateTime.epochNanos, nanosPerDay]
  omega

theorem isStale_iff (plain : due.time.isLeap = false)
    (also : ∀ time ∈ modified, time.time.isLeap = false) :
    isStale due modified days = true ↔
      ∃ time, modified = some time ∧ DateTime.InCalendar (due.epochNanos - days * nanosPerDay) ∧
        time.epochNanos < due.epochNanos - days * nanosPerDay := by
  constructor
  · intro stale
    unfold isStale at stale
    split at stale
    · next time limit found =>
      obtain ⟨whole, same⟩ := (threshold?_eq_some_iff plain).mp found
      have before := (DateTime.before_iff (also time rfl) whole).mp (of_decide_eq_true stale)
      rw [← same]
      exact ⟨time, rfl, (DateTime.exists_epochNanos_iff _).mp ⟨limit, whole, rfl⟩, before⟩
    · cases stale
  · rintro ⟨time, rfl, inside, before⟩
    obtain ⟨limit, whole, same⟩ := (DateTime.exists_epochNanos_iff _).mpr inside
    have found := (threshold?_eq_some_iff plain).mpr ⟨whole, same⟩
    rw [← same] at before
    simp only [isStale, found]
    exact decide_eq_true ((DateTime.before_iff (also time rfl) whole).mpr before)

/-! The bucket on each side of today. -/

theorem ofDates_of_eq (same : due.date.number = today.number) :
    ofDates due modified today days = some .today := dif_pos (Date.ext same)

theorem ofDates_of_lt (past : due.date.number < today.number) :
    ofDates due modified today days =
      some (if isStale due modified days then .wayOverdue else .overdue) := by
  have other : due.date ≠ today := fun same => absurd (congrArg Date.number same) (by omega)
  rw [ofDates, dif_neg other, dif_pos (Date.lt_iff.mpr past)]

theorem ofDates_of_next (next : due.date.number = today.number + 1) :
    ofDates due modified today days = some .tomorrow := by
  have other : due.date ≠ today := fun same => absurd (congrArg Date.number same) (by omega)
  have notPast : ¬due.date < today := fun past => absurd (Date.lt_iff.mp past) (by omega)
  rw [ofDates, dif_neg other, dif_neg notPast, dif_pos (Date.next?_eq_some_iff.mpr next)]

theorem ofDates_of_later (later : today.number + 2 ≤ due.date.number) :
    ofDates due modified today days =
      if due.date.number ≤ today.weekEnd then some .thisWeek else none := by
  have other : due.date ≠ today := fun same => absurd (congrArg Date.number same) (by omega)
  have notPast : ¬due.date < today := fun past => absurd (Date.lt_iff.mp past) (by omega)
  have notNext : today.next? ≠ some due.date := fun next =>
    absurd (Date.next?_eq_some_iff.mp next) (by omega)
  have ends := endOfWeek?_isSome_of_later other notPast notNext
  have saturday : (today.endOfWeek?.get ends).number = today.weekEnd :=
    Date.endOfWeek?_eq_some_iff.mp (Option.some_get ends).symm
  rw [ofDates, dif_neg other, dif_neg notPast, dif_neg notNext]
  simp only [Date.le_iff, saturday]

/-- Which days belong to a bucket, and which to none. Days are numbers here, as the Saturday that
ends the week may lie outside of the calendar. -/
def Owns (stale : Prop) (today weekEnd due : Int) : Option Bucket → Prop
  | some .wayOverdue => due < today ∧ stale
  | some .overdue => due < today ∧ ¬stale
  | some .today => due = today
  | some .tomorrow => due = today + 1
  | some .thisWeek => today + 2 ≤ due ∧ due ≤ weekEnd
  | none => today + 1 < due ∧ weekEnd < due

theorem Owns.unique {stale : Prop} {today weekEnd due : Int} {bucket other : Option Bucket}
    (owned : Owns stale today weekEnd due bucket) (also : Owns stale today weekEnd due other) :
    bucket = other := by
  rcases bucket with _ | _ | _ | _ | _ | _ <;> rcases other with _ | _ | _ | _ | _ | _ <;> grind [Owns]

theorem owns_ofDates (due : DateTime) (modified : Option DateTime) (today : Date) (days : Int) :
    Owns (isStale due modified days = true) today.number today.weekEnd due.date.number
      (ofDates due modified today days) := by
  rcases Int.lt_trichotomy due.date.number today.number with past | same | future
  · rw [ofDates_of_lt past]
    split
    · next stale => exact ⟨past, stale⟩
    · next fresh => exact ⟨past, fresh⟩
  · rw [ofDates_of_eq same]
    exact same
  · by_cases next : due.date.number = today.number + 1
    · rw [ofDates_of_next next]
      exact next
    · rw [ofDates_of_later (by omega)]
      split
      · next inside => exact ⟨by omega, inside⟩
      · next outside => exact ⟨by omega, by omega⟩

/-- A due time is in a bucket, or in none, exactly when its day is owned by it. -/
theorem ofDates_eq_iff {bucket : Option Bucket} :
    ofDates due modified today days = bucket ↔
      Owns (isStale due modified days = true) today.number today.weekEnd due.date.number bucket := by
  have owned := owns_ofDates due modified today days
  exact ⟨fun same => same ▸ owned, owned.unique⟩

/-- The buckets divide the calendar between them. Days before today are overdue, and way overdue
where the item was left alone since before an exact moment that the calendar has; today and tomorrow
are single days; the week reaches from the day after tomorrow to the one Saturday among today and
the six days that follow; what lies behind both tomorrow and that Saturday has no bucket. -/
theorem ofDates_partitions (due : DateTime) (modified : Option DateTime) (today : Date) (days : Int)
    (plain : due.time.isLeap = false) (also : ∀ time ∈ modified, time.time.isLeap = false) :
    let bucket := ofDates due modified today days
    let threshold := due.epochNanos - days * nanosPerDay
    let stale := ∃ time, modified = some time ∧ DateTime.InCalendar threshold ∧ time.epochNanos < threshold
    (bucket = some .today ↔ due.date = today) ∧
    (bucket = some .wayOverdue ↔ due.date < today ∧ stale) ∧
    (bucket = some .overdue ↔ due.date < today ∧ ¬stale) ∧
    (bucket = some .tomorrow ↔ due.date.number = today.number + 1) ∧
    ∃ saturday,
      (∀ day, today.number ≤ day ∧ day ≤ today.number + 6 ∧ Date.IsSaturday day ↔ day = saturday) ∧
      (bucket = some .thisWeek ↔ today.number + 2 ≤ due.date.number ∧ due.date.number ≤ saturday) ∧
      (bucket = none ↔ today.number + 1 < due.date.number ∧ saturday < due.date.number) := by
  intro bucket threshold stale
  have judged : (isStale due modified days = true) = stale := propext (isStale_iff plain also)
  have owned (other : Option Bucket) :
      bucket = other ↔ Owns stale today.number today.weekEnd due.date.number other :=
    judged ▸ ofDates_eq_iff
  rw [Date.eq_iff]
  exact ⟨owned _, owned _, owned _, owned _, today.weekEnd, today.eq_weekEnd_iff, owned _, owned _⟩

/-- A nanosecond more than five days before the due date is too long ago. -/
theorem ofDates_partitions_nanosecond :
    let due := DateTime.atMidnight ⟨19885, by decide, by decide⟩
    let modified : DateTime := ⟨⟨19879, by decide, by decide⟩, ⟨86399, 999999999, by decide, by decide⟩⟩
    due.time.isLeap = false ∧ modified.time.isLeap = false ∧
      ofDates due (some modified) ⟨19886, by decide, by decide⟩ 5 = some .wayOverdue := by
  intro due modified
  have plain : ∀ time ∈ some modified, time.time.isLeap = false := fun time same => by
    cases same
    rfl
  exact ⟨rfl, rfl, (ofDates_partitions due (some modified) _ 5 rfl plain).2.1.mpr
    ⟨by decide, modified, rfl, by decide, by decide⟩⟩

end Bucket
end DueReminders
