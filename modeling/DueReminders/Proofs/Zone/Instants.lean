import DueReminders.Proofs.Calendar.Timestamp
import DueReminders.Row
import DueReminders.Zone.Histories

/-! A timestamp counts as the instant it denotes. However it is written, a zone shows its own clock
at that instant; a text that denotes no instant is left to the reader of plain dates and times. -/
namespace DueReminders

open Calendar Number Text

/-- A point in time: the second of universal time since 1970 and the part of a second behind it. A
leap second has no number of its own, it is told from the second it follows. -/
structure Instant where
  second : Int
  leap : Bool
  fraction : Rat
  deriving DecidableEq

namespace DateTime

variable {moment moved : DateTime} {seconds : Int}

theorem addSeconds?_eq_some_iff :
    moment.addSeconds? seconds = some moved ↔
      moved.epochSeconds = moment.epochSeconds + seconds ∧ moved.time.nano = moment.time.nano := by
  constructor
  · intro done
    refine ⟨epochSeconds_addSeconds? done, ?_⟩
    obtain ⟨date, -, rfl⟩ := Option.map_eq_some_iff.mp done
    rfl
  · rintro ⟨total, nano⟩
    have below := moved.time.second_lt
    unfold epochSeconds at total
    have day : moved.date.number = moment.date.number + (moment.time.second + seconds) / 86400 := by omega
    have rest : ((moment.time.second + seconds) % 86400).toNat = moved.time.second := by omega
    refine Option.map_eq_some_iff.mpr ⟨moved.date, Date.ofNumber?_eq_some_iff.mpr day, ?_⟩
    exact ext_epochSeconds (by simp only [epochSeconds, rest]) nano.symm

theorem exists_addSeconds? (first : -1000003 * 86400 ≤ moment.epochSeconds + seconds)
    (last : moment.epochSeconds + seconds < 4000003 * 86400) :
    ∃ moved, moment.addSeconds? seconds = some moved := by
  have listed : (moment.date.addDays? ((moment.time.second + seconds) / 86400)).isSome = true := by
    rw [Date.addDays?, Date.ofNumber?_isSome_iff]
    unfold Date.firstNumber Date.lastNumber
    unfold epochSeconds at first last
    omega
  obtain ⟨date, found⟩ := Option.isSome_iff_exists.mp listed
  exact ⟨_, congrArg (Option.map _) found⟩

/-- The clock of a zone at an instant, to the nanosecond. -/
def Shows (moment : DateTime) (zone : Zone) (instant : Instant) : Prop :=
  moment.epochSeconds = instant.second + zone.offsetAt instant.second ∧
    moment.time.nano = (if instant.leap then 1000000000 else 0) + ⌊instant.fraction * 1000000000⌋₊

theorem Shows.unique {zone : Zone} {instant : Instant} {other : DateTime}
    (shows : moment.Shows zone instant) (again : other.Shows zone instant) : moment = other :=
  ext_epochSeconds (shows.1.trans again.1.symm) (shows.2.trans again.2.symm)

end DateTime

namespace Calendar

theorem WallText.seconds_bounds {wall : WallText} (real : wall.Exists) :
    -1000000 * 86400 ≤ wall.seconds ∧ wall.seconds < 4000001 * 86400 := by
  obtain ⟨civil, hour, minute, -⟩ := real
  have year : wall.year.value < 10000 := wall.year.value_lt
  have inside := Civil.dayNumber_bounds civil (Int.natCast_nonneg _) (Int.ofNat_lt.mpr year)
  unfold seconds
  omega

theorem OffsetText.seconds_bounds {offset : OffsetText} (near : offset.Exists) :
    -86400 < offset.seconds ∧ offset.seconds < 86400 := by
  cases offset with
  | universal letter listed =>
    show -86400 < (0 : Int) ∧ (0 : Int) < 86400
    decide
  | distance sign listed hours minutes =>
    obtain ⟨hour, minute⟩ := near
    simp only [seconds]
    split <;> omega

namespace Timestamp

variable {stamp again : Timestamp} {content : String}

/-- The instant that the figures of a timestamp denote. -/
def instant (stamp : Timestamp) : Instant :=
  ⟨stamp.wall.seconds - stamp.offset.seconds, stamp.wall.isLeap, fractionOf stamp.wall.fraction⟩

/-- White space aside a text is a timestamp of a day, a time and a distance that there are. -/
def StandsIn (stamp : Timestamp) (content : String) : Prop :=
  trim content.toList = stamp.text ∧ stamp.Exists

theorem exists_standsIn_iff : (∃ stamp : Timestamp, stamp.StandsIn content) ↔ hasOffset content = true :=
  OffsetDateTime.isSome_read?_iff.symm

/-- Wherever the clock of a timestamp is moved to universal time, and from there to that of a zone,
it stays inside of the calendar. -/
theorem exists_inZone? {result : OffsetDateTime}
    (read : OffsetDateTime.read? stamp.text = some result) (zone : Zone) :
    ∃ moment, result.inZone? zone = some moment ∧ moment.Shows zone stamp.instant := by
  obtain ⟨⟨real, near⟩, seconds, nano, offset⟩ := OffsetDateTime.read?_text_eq_some_iff.mp read
  have wall := WallText.seconds_bounds real
  have distance := OffsetText.seconds_bounds near
  obtain ⟨universal, moved⟩ : ∃ universal, result.wall.addSeconds? (-result.offset) = some universal :=
    DateTime.exists_addSeconds? (by omega) (by omega)
  obtain ⟨total, kept⟩ := DateTime.addSeconds?_eq_some_iff.mp moved
  have second : universal.epochSeconds = stamp.instant.second := by
    rw [total, seconds, offset, instant, Int.sub_eq_add_neg]
  have ahead := zone.offset_bounds stamp.instant.second
  have inside : stamp.instant.second = stamp.wall.seconds - stamp.offset.seconds := rfl
  obtain ⟨moment, shown⟩ :
      ∃ moment, universal.addSeconds? (zone.offsetAt universal.epochSeconds) = some moment :=
    DateTime.exists_addSeconds? (by rw [second]; omega) (by rw [second]; omega)
  obtain ⟨clock, same⟩ := DateTime.addSeconds?_eq_some_iff.mp shown
  refine ⟨moment, ?_, ?_, ?_⟩
  · rw [OffsetDateTime.inZone?, OffsetDateTime.toUniversal?, moved, Option.bind_some, Zone.wall?, shown]
  · rw [clock, second]
  · rw [same, kept, nano, WallText.nano, nanosOf_eq_floor, instant]

theorem StandsIn.exists_moment (stands : stamp.StandsIn content) (zone : Zone) :
    ∃ moment, readInZone? zone content = some moment ∧
      Field.ofJson? zone (.text content) = some (.moment moment) ∧
      moment.Shows zone stamp.instant := by
  obtain ⟨same, real⟩ := stands
  have carried : (OffsetDateTime.read? stamp.text).isSome = true :=
    OffsetDateTime.isSome_read?_iff.mpr ⟨stamp, rfl, real⟩
  obtain ⟨result, read⟩ := Option.isSome_iff_exists.mp carried
  obtain ⟨moment, shown, shows⟩ := exists_inZone? read zone
  have found : readOffset? content = some result := by rw [readOffset?, same, read]
  refine ⟨moment, ?_, ?_, shows⟩
  · rw [readInZone?, found]
    exact shown
  · rw [Field.ofJson?, Field.ofText?, found]
    exact congrArg (Option.map Field.moment) shown

theorem standsIn_eveOf2025 :
    ∃ stamp : Timestamp, stamp.StandsIn "2024-12-31T23:30:00Z" ∧
      stamp.instant = ⟨1735687800, false, 0⟩ := by
  let wall : WallText :=
    { year := .ofText "2024" (by decide)
      month := .ofText "12" (by decide)
      day := .ofText "31" (by decide)
      separator := 'T'
      separates := by decide
      hour := .ofText "23" (by decide)
      minute := .ofText "30" (by decide)
      second := .ofText "00" (by decide)
      fraction := []
      digits := List.forall_mem_nil _ }
  exact ⟨⟨wall, .universal 'Z' (by decide)⟩, ⟨by decide, by decide⟩, by decide +kernel⟩

theorem standsIn_eveOf2025_ahead :
    ∃ stamp : Timestamp, stamp.StandsIn " 2025-01-01 02:30:00.000+03:00\n" ∧
      stamp.instant = ⟨1735687800, false, 0⟩ := by
  let wall : WallText :=
    { year := .ofText "2025" (by decide)
      month := .ofText "01" (by decide)
      day := .ofText "01" (by decide)
      separator := ' '
      separates := by decide
      hour := .ofText "02" (by decide)
      minute := .ofText "30" (by decide)
      second := .ofText "00" (by decide)
      fraction := "000".toList
      digits := List.all_eq_true.mp (by decide) }
  let offset : OffsetText :=
    .distance '+' (by decide) (.ofText "03" (by decide)) (.ofText "00" (by decide))
  exact ⟨⟨wall, offset⟩, ⟨by decide, by decide⟩, by decide +kernel⟩

end Timestamp

end Calendar

namespace Field

/-- A text is a time exactly when it is a timestamp, and then the clock of the zone at the instant
it denotes, the same for all texts that denote it. Any other text is kept as it is and read without
regard to the zone. -/
theorem ofText_by_instant (zone : Zone) (content : String) :
    (hasOffset content = true ↔ ∃ stamp : Timestamp, stamp.StandsIn content) ∧
    (hasOffset content = false →
      ofJson? zone (.text content) = some (.text content) ∧ readInZone? zone content = read? content) ∧
    ∀ stamp : Timestamp, stamp.StandsIn content →
      ∃ moment, ofJson? zone (.text content) = some (.moment moment) ∧
      readInZone? zone content = some moment ∧
        moment.Shows zone stamp.instant ∧
        ∀ other (again : Timestamp), again.StandsIn other → again.instant = stamp.instant →
          ofJson? zone (.text other) = some (.moment moment) := by
  refine ⟨Timestamp.exists_standsIn_iff.symm, ?_, ?_⟩
  · intro plain
    have none : readOffset? content = none := by simpa [hasOffset] using plain
    rw [ofJson?, ofText?, readInZone?, none]
    exact ⟨rfl, rfl⟩
  · intro stamp stands
    obtain ⟨moment, read, field, shows⟩ := stands.exists_moment zone
    refine ⟨moment, field, read, shows, ?_⟩
    intro other again also same
    obtain ⟨shown, -, made, alike⟩ := also.exists_moment zone
    rw [made, shows.unique (same ▸ alike)]

/-- In Berlin it is half past midnight on the first day of 2025. -/
theorem ofText_by_instant_eveOf2025 :
    let berlin := Zone.ofOffsets "Europe/Berlin" Zone.Histories.berlin.offsetAt
    ofJson? berlin (.text "2024-12-31T23:30:00") = some (.text "2024-12-31T23:30:00") ∧
      ∃ moment, ofJson? berlin (.text "2024-12-31T23:30:00Z") = some (.moment moment) ∧
        ofJson? berlin (.text " 2025-01-01 02:30:00.000+03:00\n") = some (.moment moment) ∧
          moment.epochSeconds = 1735691400 ∧ moment.time.nano = 0 := by
  intro berlin
  obtain ⟨stamp, stands, second⟩ := Timestamp.standsIn_eveOf2025
  obtain ⟨again, ahead, same⟩ := Timestamp.standsIn_eveOf2025_ahead
  have plain := (ofText_by_instant berlin "2024-12-31T23:30:00").2.1 (by decide)
  obtain ⟨moment, field, -, shows, others⟩ :=
    (ofText_by_instant berlin "2024-12-31T23:30:00Z").2.2 stamp stands
  have winter : berlin.offsetAt 1735687800 = 3600 := by decide +kernel
  have whole : ⌊(0 : Rat) * 1000000000⌋₊ = 0 := by rw [zero_mul, Nat.floor_zero]
  rw [second] at shows
  refine ⟨plain.1, moment, field, others _ again ahead (same.trans second.symm), ?_, ?_⟩
  · rw [shows.1, winter]
    rfl
  · rw [shows.2, whole]
    rfl

end Field
end DueReminders
