import DueReminders.Calendar.OffsetDateTime
import DueReminders.Proofs.Number.Figures
import Mathlib.Data.List.TakeWhile

/-! Timestamps as they are written: figures for the date and the time of day, a fraction of any
length, and the distance from universal time. Exactly these texts are read, and their figures say
what they are read as. -/
namespace DueReminders

open Number

theorem Civil.dayNumber_bounds {civil : Civil} (real : civil.Exists) (first : 0 ≤ civil.year)
    (last : civil.year < 10000) : -1000000 ≤ civil.dayNumber ∧ civil.dayNumber ≤ 4000000 := by
  obtain ⟨firstMonth, lastMonth, firstDay, lastDay⟩ := real
  have short := daysInMonth_le civil.year civil.month
  unfold dayNumber
  dsimp only
  split <;> omega

theorem ClockTime.ofParts?_eq_some_iff {hour minute second nano : Nat} {time : ClockTime} :
    ofParts? hour minute second nano = some time ↔
      (hour < 24 ∧ minute < 60 ∧ second < 60 ∧ (nano < 1000000000 ∨ (second = 59 ∧ nano < 2000000000))) ∧
        time.second = hour * 3600 + minute * 60 + second ∧ time.nano = nano := by
  rw [ofParts?, Option.dite_none_right_eq_some]
  constructor
  · rintro ⟨parts, same⟩
    cases same
    exact ⟨parts, rfl, rfl⟩
  · rintro ⟨parts, second, nano⟩
    exact ⟨parts, congrArg some (ext second.symm nano.symm)⟩

theorem DateTime.ext_epochSeconds {moment other : DateTime}
    (seconds : moment.epochSeconds = other.epochSeconds)
    (nano : moment.time.nano = other.time.nano) : moment = other := by
  have below := moment.time.second_lt
  have again := other.time.second_lt
  unfold epochSeconds at seconds
  have day : moment.date = other.date := Date.ext (by omega)
  have time : moment.time = other.time := ClockTime.ext (by omega) nano
  show DateTime.mk moment.date moment.time = DateTime.mk other.date other.time
  rw [day, time]

namespace Calendar

/-- A point and the digits behind it; without digits there is no point. -/
def fractionText : List Char → List Char
  | [] => []
  | c :: rest => '.' :: c :: rest

/-- A date and a time of day, without a distance from universal time. -/
structure WallText where
  year : Figures 4
  month : Figures 2
  day : Figures 2
  separator : Char
  separates : separator ∈ ['T', 't', ' ']
  hour : Figures 2
  minute : Figures 2
  second : Figures 2
  /-- The digits behind the point. -/
  fraction : List Char
  digits : ∀ c ∈ fraction, c.isDigit = true

/-- The distance from universal time. -/
inductive OffsetText where
  | universal (letter : Char) (listed : letter ∈ ['Z', 'z'])
  | distance (sign : Char) (listed : sign ∈ ['+', '-', '\u2212']) (hours minutes : Figures 2)

structure Timestamp where
  wall : WallText
  offset : OffsetText

namespace WallText

variable (wall : WallText)

def dateText : List Char := wall.year.chars ++ '-' :: (wall.month.chars ++ '-' :: wall.day.chars)

def timeText : List Char :=
  wall.hour.chars ++ ':' :: (wall.minute.chars ++ ':' :: (wall.second.chars ++ fractionText wall.fraction))

def text : List Char := wall.dateText ++ wall.separator :: wall.timeText

def civil : Civil := ⟨wall.year.value, wall.month.value, wall.day.value⟩

/-- Second 60 is the leap second behind second 59. -/
def isLeap : Bool := wall.second.value == 60

/-- The calendar has the day and the clock the time. -/
def Exists : Prop :=
  wall.civil.Exists ∧ wall.hour.value < 24 ∧ wall.minute.value < 60 ∧ wall.second.value ≤ 60

instance : Decidable wall.Exists := by unfold Exists; infer_instance

def seconds : Int :=
  wall.civil.dayNumber * 86400 +
    (wall.hour.value * 3600 + wall.minute.value * 60 + min wall.second.value 59 : Nat)

def nano : Nat := (if wall.isLeap then 1000000000 else 0) + nanosOf wall.fraction

def reading : Reading where
  year := wall.year.value
  month := wall.month.value
  day := wall.day.value
  hour := wall.hour.value
  minute := wall.minute.value
  second := wall.second.value
  nano := nanosOf wall.fraction

theorem date?_reading_eq_some_iff {date : Date} :
    wall.reading.date? = some date ↔ wall.civil.Exists ∧ date.number = wall.civil.dayNumber := by
  have unnamed : wall.reading.date? = Date.ofCivil? wall.civil := Option.bind_fun_some _
  rw [unnamed, Date.ofCivil?, Option.ite_none_right_eq_some, Date.ofNumber?_eq_some_iff]

theorem time?_reading_eq_some_iff {time : ClockTime} :
    wall.reading.time? = some time ↔
      (wall.hour.value < 24 ∧ wall.minute.value < 60 ∧ wall.second.value ≤ 60) ∧
        time.second = wall.hour.value * 3600 + wall.minute.value * 60 + min wall.second.value 59 ∧
          time.nano = wall.nano := by
  have below := nanosOf_lt wall.digits
  by_cases leap : wall.second.value = 60
  · have made : wall.reading.time? =
        ClockTime.ofParts? wall.hour.value wall.minute.value 59
          (nanosOf wall.fraction + nanosPerSecond) := if_pos leap
    have late : wall.isLeap = true := beq_iff_eq.mpr leap
    rw [made, ClockTime.ofParts?_eq_some_iff, nano, late, if_pos rfl]
    unfold nanosPerSecond
    omega
  · have made : wall.reading.time? =
        ClockTime.ofParts? wall.hour.value wall.minute.value wall.second.value
          (nanosOf wall.fraction) := if_neg leap
    have early : wall.isLeap = false := beq_eq_false_iff_ne.mpr leap
    rw [made, ClockTime.ofParts?_eq_some_iff, nano, early, if_neg Bool.false_ne_true]
    omega

theorem exists_dateTime? (real : wall.Exists) : ∃ moment, wall.reading.dateTime? = some moment := by
  obtain ⟨civil, clock⟩ := real
  have year : wall.year.value < 10000 := wall.year.value_lt
  have inside := Civil.dayNumber_bounds civil (Int.natCast_nonneg _) (Int.ofNat_lt.mpr year)
  have listed : (Date.ofNumber? wall.civil.dayNumber).isSome = true := by
    rw [Date.ofNumber?_isSome_iff]
    unfold Date.firstNumber Date.lastNumber
    omega
  obtain ⟨date, found⟩ := Option.isSome_iff_exists.mp listed
  have dated := wall.date?_reading_eq_some_iff.mpr ⟨civil, Date.ofNumber?_eq_some_iff.mp found⟩
  have second :
      wall.hour.value * 3600 + wall.minute.value * 60 + min wall.second.value 59 < 86400 := by omega
  have nano : wall.nano < 2000000000 := by
    have below := nanosOf_lt wall.digits
    unfold WallText.nano
    split <;> omega
  have timed := wall.time?_reading_eq_some_iff.mpr
    ⟨clock, rfl, (rfl : (ClockTime.mk _ _ second nano).nano = _)⟩
  exact ⟨⟨date, _⟩, by rw [Reading.dateTime?, dated, timed]; rfl⟩

theorem dateTime?_reading_eq_some_iff {moment : DateTime} :
    wall.reading.dateTime? = some moment ↔
      wall.Exists ∧ moment.epochSeconds = wall.seconds ∧ moment.time.nano = wall.nano := by
  have told {moment : DateTime} (found : wall.reading.dateTime? = some moment) :
      wall.Exists ∧ moment.epochSeconds = wall.seconds ∧ moment.time.nano = wall.nano := by
    obtain ⟨date, dated, found⟩ := Option.bind_eq_some_iff.mp found
    obtain ⟨time, timed, same⟩ := Option.bind_eq_some_iff.mp found
    cases same
    obtain ⟨civil, number⟩ := wall.date?_reading_eq_some_iff.mp dated
    obtain ⟨clock, second, nano⟩ := wall.time?_reading_eq_some_iff.mp timed
    refine ⟨⟨civil, clock⟩, ?_, nano⟩
    rw [DateTime.epochSeconds, number, second, seconds]
  refine ⟨told, ?_⟩
  rintro ⟨real, seconds, nano⟩
  obtain ⟨other, found⟩ := wall.exists_dateTime? real
  obtain ⟨-, same, again⟩ := told found
  rw [found, DateTime.ext_epochSeconds (seconds.trans same.symm) (nano.trans again.symm)]

end WallText

namespace OffsetText

def text : OffsetText → List Char
  | .universal letter _ => [letter]
  | .distance sign _ hours minutes => sign :: (hours.chars ++ ':' :: minutes.chars)

def seconds : OffsetText → Int
  | .universal _ _ => 0
  | .distance sign _ hours minutes =>
    (if sign = '+' then 1 else -1) * (hours.value * 3600 + minutes.value * 60 : Nat)

/-- A distance stays below a day. -/
def Exists : OffsetText → Prop
  | .universal _ _ => True
  | .distance _ _ hours minutes => hours.value < 24 ∧ minutes.value < 60

instance : (offset : OffsetText) → Decidable offset.Exists
  | .universal _ _ => inferInstanceAs (Decidable True)
  | .distance _ _ hours minutes => inferInstanceAs (Decidable (hours.value < 24 ∧ minutes.value < 60))

end OffsetText

namespace Timestamp

def text (stamp : Timestamp) : List Char := stamp.wall.text ++ stamp.offset.text

def Exists (stamp : Timestamp) : Prop := stamp.wall.Exists ∧ stamp.offset.Exists

instance (stamp : Timestamp) : Decidable stamp.Exists := by unfold Exists; infer_instance

end Timestamp

section

variable {fraction text rest : List Char} {nano : Nat}

theorem takeNanos?_run (run : IsDigits fraction) (stops : ∀ c ∈ rest.head?, c.isDigit = false) :
    takeNanos? (fraction ++ rest) = some (nanosOf fraction, rest) := by
  have taken : takeDigits 9 (fraction ++ rest) = (fraction.take 9, fraction.drop 9 ++ rest) := by
    by_cases short : fraction.length ≤ 9
    · rw [takeDigits_run run.2 short stops, List.take_of_length_le short,
        List.drop_of_length_le short, List.nil_append]
    · have kept : (fraction.take 9).length = 9 := List.length_take_of_le (by omega)
      have front : ∀ c ∈ fraction.take 9, c.isDigit = true := fun c member =>
        run.2 c (List.mem_of_mem_take member)
      have exact := takeDigits_exact front (fraction.drop 9 ++ rest)
      rwa [← List.append_assoc, List.take_append_drop, kept] at exact
  have passed : (fraction.drop 9 ++ rest).dropWhile Char.isDigit = rest := by
    rw [List.dropWhile_append_of_pos fun c member => run.2 c (List.mem_of_mem_drop member)]
    cases rest with
    | nil => rfl
    | cons c rest => rw [List.dropWhile_cons_of_neg (Bool.eq_false_iff.mp (stops c rfl))]
  have filled : fraction.take 9 ≠ [] := by
    rw [ne_eq, List.take_eq_nil_iff, not_or]
    exact ⟨by decide, run.1⟩
  obtain ⟨c, others, shape⟩ := List.exists_cons_of_ne_nil filled
  rw [nanosOf_eq_take run.2, takeNanos?, taken, shape]
  show some (_, (fraction.drop 9 ++ rest).dropWhile Char.isDigit) = _
  rw [passed]

theorem takeFraction?_text (run : ∀ c ∈ fraction, c.isDigit = true)
    (stops : ∀ c ∈ rest.head?, c.isDigit = false ∧ c ≠ '.') :
    takeFraction? (fractionText fraction ++ rest) = some (nanosOf fraction, rest) := by
  cases fraction with
  | nil =>
    show takeFraction? rest = some (0, rest)
    unfold takeFraction?
    split
    · exact absurd rfl (stops '.' rfl).2
    · rfl
  | cons c fraction =>
    have later := takeNanos?_run ⟨List.cons_ne_nil c fraction, run⟩ fun d first => (stops d first).1
    exact later

theorem exists_of_takeFraction? (found : takeFraction? text = some (nano, rest)) :
    ∃ fraction, (∀ c ∈ fraction, c.isDigit = true) ∧ text = fractionText fraction ++ rest := by
  unfold takeFraction? at found
  split at found
  · next chars =>
    have run : ∀ c ∈ chars.takeWhile Char.isDigit, c.isDigit = true := fun _ => List.mem_takeWhile_imp
    have whole : chars.takeWhile Char.isDigit ++ chars.dropWhile Char.isDigit = chars :=
      List.takeWhile_append_dropWhile
    have stops : ∀ c ∈ (chars.dropWhile Char.isDigit).head?, c.isDigit = false := by
      intro c first
      have other := List.head?_dropWhile_not Char.isDigit chars
      rw [Option.mem_def.mp first] at other
      simpa using other
    generalize chars.takeWhile Char.isDigit = digits at run whole
    generalize chars.dropWhile Char.isDigit = behind at whole stops
    subst whole
    cases digits with
    | nil =>
      -- a point needs a digit behind it
      have none : takeDigits 9 ([] ++ behind) = ([], behind) := takeDigits_run (by simp) (by decide) stops
      rw [takeNanos?, none] at found
      cases found
    | cons c digits =>
      rw [takeNanos?_run ⟨List.cons_ne_nil c digits, run⟩ stops] at found
      cases found
      exact ⟨c :: digits, run, rfl⟩
  · cases found
    exact ⟨[], by simp, rfl⟩

end

end Calendar

namespace OffsetDateTime

open Calendar

section

variable {width value : Nat} {accepted text rest : List Char}

theorem takeFixed?_figures (figures : Figures width) (rest : List Char) :
    takeFixed? width (figures.chars ++ rest) = some (figures.value, rest) := by
  have taken := takeDigits_exact figures.digits rest
  rw [figures.length_eq] at taken
  rw [takeFixed?, taken]
  exact if_pos figures.length_eq

theorem exists_of_takeFixed? (found : takeFixed? width text = some (value, rest)) :
    ∃ figures : Figures width, text = figures.chars ++ rest := by
  have whole := takeDigits_append width text
  unfold takeFixed? at found
  rw [Option.ite_none_right_eq_some] at found
  obtain ⟨filled, same⟩ := found
  cases same
  exact ⟨⟨_, fun _ => isDigit_of_mem_takeDigits, filled⟩, whole.symm⟩

theorem takeChar?_cons {c : Char} (member : c ∈ accepted) (rest : List Char) :
    takeChar? accepted (c :: rest) = some rest :=
  if_pos member

theorem exists_of_takeChar? (found : takeChar? accepted text = some rest) :
    ∃ c ∈ accepted, text = c :: rest := by
  cases text with
  | nil => cases found
  | cons c text =>
    rw [takeChar?, Option.ite_none_right_eq_some] at found
    cases found.2
    exact ⟨c, found.1, rfl⟩

theorem takeOffset?_text (offset : OffsetText) :
    takeOffset? offset.text = if offset.Exists then some (offset.seconds, []) else none := by
  cases offset with
  | universal letter listed =>
    rw [OffsetText.text, takeOffset?, takeChar?_cons listed]
    exact (if_pos trivial).symm
  | distance sign listed hours minutes =>
    have last : takeFixed? 2 minutes.chars = some (minutes.value, []) := by
      have taken := takeFixed?_figures minutes []
      rwa [List.append_nil] at taken
    have lettered : sign ∉ ['Z', 'z'] := by
      intro member
      simp only [List.mem_cons, List.not_mem_nil, or_false] at listed member
      rcases listed with rfl | rfl | rfl <;> simp at member
    have unlettered : takeChar? ['Z', 'z'] (sign :: (hours.chars ++ ':' :: minutes.chars)) = none :=
      if_neg lettered
    rw [OffsetText.text, takeOffset?, unlettered]
    simp only [List.mem_cons, List.not_mem_nil, or_false] at listed
    rcases listed with rfl | rfl | rfl <;>
      simp [takeFixed?_figures, takeChar?, last, OffsetText.Exists, OffsetText.seconds]

theorem exists_of_marked {mark : Char} {between : List Char}
    (digits : takeFixed? width text = some (value, between))
    (stop : takeChar? [mark] between = some rest) :
    ∃ figures : Figures width, text = figures.chars ++ mark :: rest := by
  obtain ⟨figures, rfl⟩ := exists_of_takeFixed? digits
  obtain ⟨c, listed, rfl⟩ := exists_of_takeChar? stop
  rw [List.mem_singleton.mp listed]
  exact ⟨figures, rfl⟩

theorem exists_of_distance {factor seconds : Int}
    (found : (do
      let (hours, rest) ← takeFixed? 2 text
      let rest ← takeChar? [':'] rest
      let (minutes, rest) ← takeFixed? 2 rest
      if hours < 24 ∧ minutes < 60 then some (factor * ((hours * 3600 + minutes * 60 : Nat) : Int), rest)
      else none) = some (seconds, rest)) :
    ∃ hours minutes : Figures 2, text = hours.chars ++ ':' :: (minutes.chars ++ rest) := by
  obtain ⟨⟨hour, afterHours⟩, taken, found⟩ := Option.bind_eq_some_iff.mp found
  obtain ⟨afterColon, colon, found⟩ := Option.bind_eq_some_iff.mp found
  obtain ⟨⟨minute, afterMinutes⟩, last, found⟩ := Option.bind_eq_some_iff.mp found
  rw [Option.ite_none_right_eq_some] at found
  cases found.2
  obtain ⟨hours, front⟩ := exists_of_marked taken colon
  obtain ⟨minutes, rfl⟩ := exists_of_takeFixed? last
  exact ⟨hours, minutes, front⟩

theorem exists_of_takeOffset? {seconds : Int} (found : takeOffset? text = some (seconds, rest)) :
    ∃ offset : OffsetText, text = offset.text ++ rest := by
  have signed {sign : Char} {behind : List Char} (listed : sign ∈ ['+', '-', '\u2212'])
      (figures : ∃ hours minutes : Figures 2, behind = hours.chars ++ ':' :: (minutes.chars ++ rest)) :
      ∃ offset : OffsetText, sign :: behind = offset.text ++ rest := by
    obtain ⟨hours, minutes, rfl⟩ := figures
    refine ⟨.distance sign listed hours minutes, ?_⟩
    simp only [OffsetText.text, List.cons_append, List.append_assoc]
  unfold takeOffset? at found
  split at found
  · next left taken =>
    cases found
    obtain ⟨letter, listed, rfl⟩ := exists_of_takeChar? taken
    exact ⟨.universal letter listed, rfl⟩
  · dsimp only at found
    split at found
    · exact signed (by decide) (exists_of_distance found)
    · exact signed (by decide) (exists_of_distance found)
    · exact signed (by decide) (exists_of_distance found)
    · cases found

end

theorem stops_text (offset : OffsetText) : ∀ c ∈ offset.text.head?, c.isDigit = false ∧ c ≠ '.' := by
  intro c first
  cases offset with
  | universal letter listed =>
    cases first
    simp only [List.mem_cons, List.not_mem_nil, or_false] at listed
    rcases listed with rfl | rfl <;> decide
  | distance sign listed hours minutes =>
    cases first
    simp only [List.mem_cons, List.not_mem_nil, or_false] at listed
    rcases listed with rfl | rfl | rfl <;> decide

theorem second_le_of_dateTime? {reading : Reading} {moment : DateTime}
    (found : reading.dateTime? = some moment) :
    reading.second ≤ 60 := by
  obtain ⟨date, -, timed⟩ := Option.bind_eq_some_iff.mp found
  obtain ⟨time, made, -⟩ := Option.bind_eq_some_iff.mp timed
  by_cases leap : reading.second = 60
  · exact Nat.le_of_eq leap
  · simp only [Reading.time?, if_neg leap, ClockTime.ofParts?, Option.dite_none_right_eq_some] at made
    obtain ⟨parts, -⟩ := made
    omega

theorem text_eq (stamp : Timestamp) :
    stamp.text = stamp.wall.year.chars ++ '-' :: (stamp.wall.month.chars ++ '-' :: (stamp.wall.day.chars ++
      stamp.wall.separator :: (stamp.wall.hour.chars ++ ':' :: (stamp.wall.minute.chars ++ ':' ::
        (stamp.wall.second.chars ++ (fractionText stamp.wall.fraction ++ stamp.offset.text)))))) := by
  simp only [Timestamp.text, WallText.text, WallText.dateText, WallText.timeText, List.append_assoc,
    List.cons_append]

/-- A timestamp is read as what its figures say, if there is such a day, time and distance. -/
theorem read?_text (stamp : Timestamp) :
    read? stamp.text =
      if stamp.offset.Exists then stamp.wall.reading.dateTime?.map fun wall => ⟨wall, stamp.offset.seconds⟩
      else none := by
  obtain ⟨wall, offset⟩ := stamp
  have known {α β : Type} {taken : Option α} {value : α} (next : α → Option β)
      (found : taken = some value) :
      taken.bind next = next value := congrArg (Option.bind · next) found
  have marked {mark : Char} (rest : List Char) : takeChar? [mark] (mark :: rest) = some rest :=
    takeChar?_cons (List.mem_singleton_self mark) rest
  rw [text_eq]
  refine (known _ (takeFixed?_figures wall.year _)).trans ?_
  refine (known _ (marked _)).trans ?_
  refine (known _ (takeFixed?_figures wall.month _)).trans ?_
  refine (known _ (marked _)).trans ?_
  refine (known _ (takeFixed?_figures wall.day _)).trans ?_
  refine (known _ (takeChar?_cons wall.separates _)).trans ?_
  refine (known _ (takeFixed?_figures wall.hour _)).trans ?_
  refine (known _ (marked _)).trans ?_
  refine (known _ (takeFixed?_figures wall.minute _)).trans ?_
  refine (known _ (marked _)).trans ?_
  refine (known _ (takeFixed?_figures wall.second _)).trans ?_
  refine (known _ (takeFraction?_text wall.digits (stops_text offset))).trans ?_
  by_cases near : offset.Exists
  · refine (known _ ((takeOffset?_text offset).trans (if_pos near))).trans ?_
    rw [if_pos near]
    show (if wall.second.value ≤ 60 ∧ [] = [] then wall.reading.dateTime?.map _ else none) = _
    cases found : wall.reading.dateTime? with
    | none => exact ite_self none
    | some moment => exact if_pos ⟨second_le_of_dateTime? found, rfl⟩
  · show (takeOffset? offset.text).bind _ = _
    rw [takeOffset?_text, if_neg near, if_neg near]
    rfl

theorem exists_text_of_read? {text : List Char} {result : OffsetDateTime}
    (read : read? text = some result) :
    ∃ stamp : Timestamp, text = stamp.text := by
  obtain ⟨⟨_, afterYear⟩, years, read⟩ := Option.bind_eq_some_iff.mp read
  obtain ⟨fromMonth, yearStop, read⟩ := Option.bind_eq_some_iff.mp read
  obtain ⟨⟨_, afterMonth⟩, months, read⟩ := Option.bind_eq_some_iff.mp read
  obtain ⟨fromDay, monthStop, read⟩ := Option.bind_eq_some_iff.mp read
  obtain ⟨⟨_, afterDay⟩, days, read⟩ := Option.bind_eq_some_iff.mp read
  obtain ⟨fromHour, dayStop, read⟩ := Option.bind_eq_some_iff.mp read
  obtain ⟨⟨_, afterHour⟩, hours, read⟩ := Option.bind_eq_some_iff.mp read
  obtain ⟨fromMinute, hourStop, read⟩ := Option.bind_eq_some_iff.mp read
  obtain ⟨⟨_, afterMinute⟩, minutes, read⟩ := Option.bind_eq_some_iff.mp read
  obtain ⟨fromSecond, minuteStop, read⟩ := Option.bind_eq_some_iff.mp read
  obtain ⟨⟨_, afterSecond⟩, seconds, read⟩ := Option.bind_eq_some_iff.mp read
  obtain ⟨⟨_, afterFraction⟩, taken, read⟩ := Option.bind_eq_some_iff.mp read
  obtain ⟨⟨_, left⟩, last, read⟩ := Option.bind_eq_some_iff.mp read
  rw [Option.ite_none_right_eq_some] at read
  obtain ⟨year, year_eq⟩ := exists_of_marked years yearStop
  obtain ⟨month, month_eq⟩ := exists_of_marked months monthStop
  obtain ⟨day, day_eq⟩ := exists_of_takeFixed? days
  obtain ⟨separator, separates, separator_eq⟩ := exists_of_takeChar? dayStop
  obtain ⟨hour, hour_eq⟩ := exists_of_marked hours hourStop
  obtain ⟨minute, minute_eq⟩ := exists_of_marked minutes minuteStop
  obtain ⟨second, second_eq⟩ := exists_of_takeFixed? seconds
  obtain ⟨fraction, digits, fraction_eq⟩ := exists_of_takeFraction? taken
  obtain ⟨offset, offset_eq⟩ := exists_of_takeOffset? last
  refine ⟨⟨⟨year, month, day, separator, separates, hour, minute, second, fraction, digits⟩, offset⟩, ?_⟩
  rw [text_eq, year_eq, month_eq, day_eq, separator_eq, hour_eq, minute_eq, second_eq,
    fraction_eq, offset_eq, read.1.2, List.append_nil]

theorem read?_text_eq_some_iff {stamp : Timestamp} {result : OffsetDateTime} :
    read? stamp.text = some result ↔
      stamp.Exists ∧ result.wall.epochSeconds = stamp.wall.seconds ∧
      result.wall.time.nano = stamp.wall.nano ∧
        result.offset = stamp.offset.seconds := by
  rw [read?_text, Option.ite_none_right_eq_some, Option.map_eq_some_iff]
  constructor
  · rintro ⟨near, wall, found, rfl⟩
    obtain ⟨real, seconds, nano⟩ := stamp.wall.dateTime?_reading_eq_some_iff.mp found
    exact ⟨⟨real, near⟩, seconds, nano, rfl⟩
  · rintro ⟨⟨real, near⟩, seconds, nano, offset⟩
    refine ⟨near, result.wall, stamp.wall.dateTime?_reading_eq_some_iff.mpr ⟨real, seconds, nano⟩, ?_⟩
    rw [← offset]

/-- A text is read exactly when it is a timestamp of a day, a time and a distance that there are. -/
theorem isSome_read?_iff {text : List Char} :
    (read? text).isSome = true ↔ ∃ stamp : Timestamp, text = stamp.text ∧ stamp.Exists := by
  rw [Option.isSome_iff_exists]
  constructor
  · rintro ⟨result, read⟩
    obtain ⟨stamp, rfl⟩ := exists_text_of_read? read
    exact ⟨stamp, rfl, (read?_text_eq_some_iff.mp read).1⟩
  · rintro ⟨stamp, rfl, real, near⟩
    obtain ⟨moment, found⟩ := stamp.wall.exists_dateTime? real
    exact ⟨_, by rw [read?_text, if_pos near, found]; rfl⟩

end OffsetDateTime
end DueReminders
