import DueReminders.Proofs.Bucket.Partition
import Mathlib.Data.List.Chain
import Mathlib.Data.List.Nodup

/-! How the bucket of an unchanged item moves on from day to day: it waits, comes up, is due
tomorrow, is due today, and is overdue from then on. -/
namespace DueReminders

namespace Date

/-- Days that follow one another without a gap. -/
def Consecutive (days : List Date) : Prop := days.IsChain fun day next => day.next? = some next

theorem weekEnd_le {day later : Date} (passed : day.number ≤ later.number) :
    day.weekEnd ≤ later.weekEnd := by
  unfold weekEnd daysFromSunday
  omega

/-- Every day but the first of the calendar has one day before it. -/
theorem exists_eve {day : Date} (room : firstNumber < day.number) :
    ∃ eve : Date, ∀ before : Date, before.next? = some day ↔ before = eve := by
  have last := day.le_last
  unfold firstNumber at room
  refine ⟨⟨day.number - 1, by omega, by omega⟩, fun before => ?_⟩
  rw [next?_eq_some_iff, eq_iff]
  show day.number = before.number + 1 ↔ before.number = day.number - 1
  omega

theorem Consecutive.pairwise_lt {days : List Date} (run : Consecutive days) :
    days.Pairwise fun day later => day.number < later.number := by
  have ascending : days.IsChain fun day later => day.number < later.number :=
    run.imp fun day next follows => by
      rw [next?_eq_some_iff.mp follows]
      omega
  exact List.isChain_iff_pairwise.mp ascending

theorem Consecutive.nodup {days : List Date} (run : Consecutive days) : days.Nodup :=
  run.pairwise_lt.imp fun before same => absurd (congrArg number same) (Int.ne_of_lt before)

theorem Consecutive.mem {days : List Date} (run : Consecutive days) {first last day : Date}
    (member : first ∈ days) (also : last ∈ days) (after : first.number ≤ day.number)
    (before : day.number ≤ last.number) : day ∈ days := by
  induction days generalizing first with
  | nil => cases member
  | cons head rest ih =>
    have ascending := List.pairwise_cons.mp run.pairwise_lt
    by_cases here : day.number = head.number
    · exact ext here ▸ List.mem_cons_self
    · have past : head.number < day.number := by
        rcases List.mem_cons.mp member with same | later
        · rw [same] at after
          omega
        · have := ascending.1 first later
          omega
      cases rest with
      | nil =>
        rw [List.mem_singleton.mp also] at before
        omega
      | cons second rest =>
        obtain ⟨follows, run⟩ := List.isChain_cons_cons.mp run
        have step := next?_eq_some_iff.mp follows
        have left : last ∈ second :: rest := by
          rcases List.mem_cons.mp also with same | later
          · rw [same] at before
            omega
          · exact later
        exact List.mem_cons_of_mem _ (ih run List.mem_cons_self left (by omega))

end Date

namespace Bucket

/-- How far a reminder has come. -/
def stage : Option Bucket → Nat
  | none => 0
  | some .thisWeek => 1
  | some .tomorrow => 2
  | some .today => 3
  | some .overdue | some .wayOverdue => 4

/-- The buckets of what is past. -/
def IsLate (bucket : Bucket) : Prop := bucket = .overdue ∨ bucket = .wayOverdue

/-- What the next day makes of a bucket. -/
inductive Advances : Option Bucket → Option Bucket → Prop where
  | waits : Advances none none
  | comesUp : Advances none (some .thisWeek)
  /-- At the end of a week, for what is due at the start of the next one. -/
  | looms : Advances none (some .tomorrow)
  | stays : Advances (some .thisWeek) (some .thisWeek)
  | nears : Advances (some .thisWeek) (some .tomorrow)
  | arrives : Advances (some .tomorrow) (some .today)
  | passes {late : Bucket} (past : IsLate late) : Advances (some .today) (some late)
  | rests {late : Bucket} (past : IsLate late) : Advances (some late) (some late)

theorem stage_of_isLate {bucket : Bucket} (late : IsLate bucket) : stage (some bucket) = 4 := by
  rcases late with rfl | rfl <;> rfl

theorem Advances.stage_le {bucket other : Option Bucket} (advances : Advances bucket other) :
    stage bucket ≤ stage other := by
  cases advances with
  | passes past =>
    rw [stage_of_isLate past]
    decide
  | rests => exact Nat.le_refl _
  | waits | comesUp | looms | stays | nears | arrives => decide

variable {due : DateTime} {modified : Option DateTime} {today tomorrow later : Date} {delta : Int}

/-- Which of the late buckets it is does not depend on the day. -/
theorem exists_late (due : DateTime) (modified : Option DateTime) (delta : Int) :
    ∃ late, IsLate late ∧ ∀ today : Date, due.date.number < today.number →
      ofDates due modified today delta = some late := by
  by_cases stale : isStale due modified delta = true
  · exact ⟨.wayOverdue, .inr rfl, fun today past => (ofDates_of_lt past).trans (by rw [if_pos stale])⟩
  · exact ⟨.overdue, .inl rfl, fun today past => (ofDates_of_lt past).trans (by rw [if_neg stale])⟩

theorem advances_next (next : today.next? = some tomorrow) :
    Advances (ofDates due modified today delta) (ofDates due modified tomorrow delta) := by
  have follows := Date.next?_eq_some_iff.mp next
  have week : today.weekEnd ≤ tomorrow.weekEnd := Date.weekEnd_le (by omega)
  obtain ⟨late, past, overdue⟩ := exists_late due modified delta
  rcases Int.lt_trichotomy due.date.number today.number with gone | same | ahead
  · rw [overdue today gone, overdue tomorrow (by omega)]
    exact .rests past
  · rw [ofDates_of_eq same, overdue tomorrow (by omega)]
    exact .passes past
  · by_cases one : due.date.number = today.number + 1
    · rw [ofDates_of_next one, ofDates_of_eq (by omega)]
      exact .arrives
    · rw [ofDates_of_later (by omega)]
      by_cases two : due.date.number = tomorrow.number + 1
      · rw [ofDates_of_next two]
        split
        · exact .nears
        · exact .looms
      · rw [ofDates_of_later (by omega)]
        split
        · next inside =>
          rw [if_pos (Int.le_trans inside week)]
          exact .stays
        · split
          · exact .comesUp
          · exact .waits

/-- However many days pass, no stage is gone back. -/
theorem stage_le_of_le (passed : today.number ≤ later.number) :
    stage (ofDates due modified today delta) ≤ stage (ofDates due modified later delta) := by
  obtain ⟨count, distance⟩ := Int.le.dest passed
  induction count generalizing later with
  | zero =>
    have same : today = later := Date.ext (by omega)
    rw [same]
  | succ count ih =>
    have room : Date.firstNumber < later.number := Int.lt_of_le_of_lt today.first_le (by omega)
    obtain ⟨before, eve⟩ := Date.exists_eve room
    have follows := (eve before).mpr rfl
    have step := Date.next?_eq_some_iff.mp follows
    exact Nat.le_trans (ih (by omega) (by omega)) (advances_next follows).stage_le

theorem count_eq_one {bucketOf : Date → Option Bucket} {bucket : Option Bucket} {only : Date}
    (alone : ∀ day, bucketOf day = bucket ↔ day = only) {days : List Date} (run : Date.Consecutive days)
    {first last : Date} (member : first ∈ days) (also : last ∈ days) (after : first.number ≤ only.number)
    (before : only.number ≤ last.number) : (days.map bucketOf).count bucket = 1 := by
  have same : (days.map bucketOf).count bucket = days.count only := by
    rw [List.count, List.countP_map, List.count]
    apply List.countP_congr
    intro day _
    simpa using alone day
  rw [same]
  exact List.count_eq_one_of_mem run.nodup (run.mem member also after before)

/-- Reminders progress day by day. The stage of an unchanged item never falls while days pass; it is
due today on its due day alone and due tomorrow on the day before alone, which exists unless the due
day is the first of the calendar; and whatever late bucket it has after the due day it keeps. So
days without a gap lead from one bucket to the next, and if they reach to both sides of the due day,
or of the day before, then the reminder for it is sent once. -/
theorem ofDates_progress (due : DateTime) (modified : Option DateTime) (delta : Int) :
    let bucketOf := fun today => ofDates due modified today delta
    (∀ today later : Date, today ≤ later → stage (bucketOf today) ≤ stage (bucketOf later)) ∧
    (∀ today, bucketOf today = some .today ↔ today = due.date) ∧
    (∀ today, bucketOf today = some .tomorrow ↔ today.next? = some due.date) ∧
    (Date.firstNumber < due.date.number → ∃! today, bucketOf today = some .tomorrow) ∧
    (∃ late, IsLate late ∧ ∀ today, due.date < today → bucketOf today = some late) ∧
    ∀ days : List Date, Date.Consecutive days →
      (days.map bucketOf).IsChain Advances ∧
      (∀ first ∈ days, ∀ last ∈ days, first ≤ due.date → due.date ≤ last →
        (days.map bucketOf).count (some .today) = 1) ∧
      ∀ first ∈ days, ∀ last ∈ days, first < due.date → due.date.number ≤ last.number + 1 →
        (days.map bucketOf).count (some .tomorrow) = 1 := by
  intro bucketOf
  have dueToday (today : Date) : bucketOf today = some .today ↔ today = due.date := by
    rw [Date.eq_iff, eq_comm (a := today.number)]
    exact ofDates_eq_iff
  have dueTomorrow (today : Date) : bucketOf today = some .tomorrow ↔ today.next? = some due.date := by
    rw [Date.next?_eq_some_iff]
    exact ofDates_eq_iff
  refine ⟨fun _ _ => stage_le_of_le, dueToday, dueTomorrow, ?_, exists_late due modified delta, ?_⟩
  · intro room
    obtain ⟨eve, alone⟩ := Date.exists_eve room
    exact ⟨eve, (dueTomorrow eve).mpr ((alone eve).mpr rfl), fun today found =>
      (alone today).mp ((dueTomorrow today).mp found)⟩
  · intro days run
    refine ⟨(List.isChain_map bucketOf).mpr (run.imp fun _ _ => advances_next), ?_, ?_⟩
    · intro first member last also after before
      exact count_eq_one dueToday run member also after before
    · intro first member last also after before
      have room : Date.firstNumber < due.date.number := Int.lt_of_le_of_lt first.first_le after
      obtain ⟨eve, alone⟩ := Date.exists_eve room
      have distance := Date.next?_eq_some_iff.mp ((alone eve).mpr rfl)
      rw [Date.lt_iff] at after
      exact count_eq_one (fun today => (dueTomorrow today).trans (alone today)) run member also
        (by omega) (by omega)

/-- A Friday to a Wednesday, with a Tuesday on which something is due: it is not yet due this week
on the Saturday. -/
theorem ofDates_progress_weekend :
    let due := DateTime.atMidnight ⟨19892, by decide, by decide⟩
    let days := [19888, 19889, 19890, 19891, 19892, 19893].filterMap Date.ofNumber?
    let buckets := [none, none, some .thisWeek, some .tomorrow, some .today, some .overdue]
    Date.Consecutive days ∧ days.map (fun today => ofDates due none today 5) = buckets ∧
    buckets.IsChain Advances ∧
      buckets.count (some .tomorrow) = 1 ∧ buckets.count (some .today) = 1 := by
  intro due days buckets
  have run : Date.Consecutive days := by
    unfold Date.Consecutive
    decide
  have shown : days.map (fun today => ofDates due none today 5) = buckets := by decide
  obtain ⟨chain, onDay, onEve⟩ := (ofDates_progress due none 5).2.2.2.2.2 days run
  rw [shown] at chain onDay onEve
  have friday : ⟨19888, by decide, by decide⟩ ∈ days := by decide
  have wednesday : ⟨19893, by decide, by decide⟩ ∈ days := by decide
  exact ⟨run, shown, chain, onEve _ friday _ wednesday (by decide) (by decide),
    onDay _ friday _ wednesday (by decide) (by decide)⟩

end Bucket
end DueReminders
