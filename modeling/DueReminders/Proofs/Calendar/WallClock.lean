import DueReminders.Proofs.Calendar.CompactDate
import DueReminders.Proofs.Calendar.Timestamp

/-! A date and time is read alike with a distance from universal time behind it and without one. The
two texts are read in different ways, which agree on every figure, on fractions of any length and on
leap seconds. -/
namespace DueReminders

open Number Text

namespace Calendar

namespace Pattern

variable {pattern : Pattern} {reading : Reading} {text : List Char}

theorem readFrom?_figures {item : Item} {low high : Nat} {put : Reading → Nat → Reading}
    (bounded : item.Bounded low high put) (figures : Figures 2)
    (within : low ≤ figures.value ∧ figures.value ≤ high)
    (stops : ∀ c ∈ text.head?, c.isDigit = false) :
    readFrom? reading (item :: pattern) (figures.chars ++ text) =
      readFrom? (put reading figures.value) pattern text :=
  readFrom?_bounded bounded
    (takeBounded?_run figures.isDigits (Nat.le_of_eq figures.length_eq) within stops)

theorem readFrom?_yearFigures (figures : Figures 4) (stops : ∀ c ∈ text.head?, c.isDigit = false) :
    readFrom? reading (.year :: pattern) (figures.chars ++ text) =
      readFrom? { reading with year := figures.value } pattern text := by
  have taken : takeYear? (figures.chars ++ text) = some ((figures.value : Int), text) :=
    takeYear?_of_isDigits figures.isDigits (Nat.le_of_eq figures.length_eq) stops
  rw [readFrom?, Item.take?, taken]
  rfl

theorem readFrom?_fraction {fraction : List Char} (run : ∀ c ∈ fraction, c.isDigit = true) :
    readFrom? reading [.fraction] (fractionText fraction) =
      some { reading with nano := nanosOf fraction } := by
  have taken : takeFraction? (fractionText fraction ++ []) = some (nanosOf fraction, []) :=
    takeFraction?_text run fun c further => by cases further
  rw [List.append_nil] at taken
  rw [readFrom?, Item.take?, taken]
  rfl

end Pattern

namespace WallText

variable {wall : WallText} {pattern : Pattern} {reading : Reading} {text : List Char}

theorem readFrom?_dateText (real : wall.civil.Exists) (stops : ∀ c ∈ text.head?, c.isDigit = false) :
    Pattern.readFrom? reading (Pattern.isoDate ++ pattern) (wall.dateText ++ text) =
      Pattern.readFrom?
        { reading with
          year := wall.year.value, month := wall.month.value, day := wall.day.value }
        pattern text := by
  obtain ⟨firstMonth, lastMonth, firstDay, lastDay⟩ := real
  have short : wall.day.value ≤ 31 := Nat.le_trans lastDay (Civil.daysInMonth_le _ _)
  simp only [Pattern.isoDate, dateText, List.append_assoc, List.cons_append, List.nil_append]
  rw [Pattern.readFrom?_yearFigures wall.year (Pattern.stops_cons rfl), Pattern.readFrom?_literal,
    Pattern.readFrom?_figures Item.bounded_month wall.month ⟨firstMonth, lastMonth⟩
      (Pattern.stops_cons rfl),
    Pattern.readFrom?_literal, Pattern.readFrom?_figures Item.bounded_day wall.day ⟨firstDay, short⟩ stops]

theorem stops_fractionText (fraction : List Char) :
    ∀ c ∈ (fractionText fraction).head?, c.isDigit = false := by
  intro c first
  cases fraction with
  | nil => cases first
  | cons head rest =>
    cases first
    rfl

theorem readFrom?_timeText (hour : wall.hour.value ≤ 23) (minute : wall.minute.value ≤ 59)
    (second : wall.second.value ≤ 60) :
    Pattern.readFrom? reading Pattern.fractions wall.timeText =
      some { reading with
        hour := wall.hour.value, minute := wall.minute.value, second := wall.second.value,
        nano := nanosOf wall.fraction } := by
  simp only [Pattern.fractions, Pattern.seconds, Pattern.minutes, timeText, List.cons_append,
    List.nil_append]
  rw [Pattern.readFrom?_figures Item.bounded_hour wall.hour ⟨Nat.zero_le _, hour⟩ (Pattern.stops_cons rfl),
    Pattern.readFrom?_literal,
    Pattern.readFrom?_figures Item.bounded_minute wall.minute ⟨Nat.zero_le _, minute⟩
      (Pattern.stops_cons rfl),
    Pattern.readFrom?_literal,
    Pattern.readFrom?_figures Item.bounded_second wall.second ⟨Nat.zero_le _, second⟩
      (stops_fractionText _),
    Pattern.readFrom?_fraction wall.digits]

/-- Without a distance behind it a date and time is read by one of the patterns. -/
theorem exists_pattern (real : wall.Exists) (separated : wall.separator = 'T' ∨ wall.separator = ' ') :
    ∃ pattern ∈ Pattern.dateTimes, pattern.read? wall.text = some wall.reading := by
  obtain ⟨civil, hour, minute, second⟩ := real
  have lastHour : wall.hour.value ≤ 23 := Nat.le_of_lt_succ hour
  have lastMinute : wall.minute.value ≤ 59 := Nat.le_of_lt_succ minute
  rcases separated with letter | space
  · refine ⟨Pattern.isoDate ++ .literal 'T' :: Pattern.fractions, by decide, ?_⟩
    rw [Pattern.read?, WallText.text, letter, readFrom?_dateText civil (Pattern.stops_cons rfl),
      Pattern.readFrom?_literal]
    exact readFrom?_timeText lastHour lastMinute second
  · have solid : IsWord wall.hour.chars := isWord_of_isDigits wall.hour.isDigits
    have trimmed : trimStart wall.timeText = wall.timeText := solid.trimStart_append _
    refine ⟨Pattern.isoDate ++ .blank :: Pattern.fractions, by decide, ?_⟩
    rw [Pattern.read?, WallText.text, space, readFrom?_dateText civil (Pattern.stops_cons rfl),
      Pattern.readFrom?_blank trimmed]
    exact readFrom?_timeText lastHour lastMinute second

theorem isWord_year (wall : WallText) : IsWord wall.year.chars := isWord_of_isDigits wall.year.isDigits

theorem trim_text (wall : WallText) : trim wall.text = wall.text := by
  cases shape : wall.fraction with
  | nil =>
    have second : IsWord wall.second.chars := isWord_of_isDigits wall.second.isDigits
    have same : wall.text = wall.year.chars ++ '-' :: (wall.month.chars ++ '-' :: (wall.day.chars ++
        wall.separator :: (wall.hour.chars ++ ':' :: (wall.minute.chars ++ [':'])))) ++
          wall.second.chars := by
      simp [text, dateText, timeText, shape, fractionText]
    rw [same, trim_of_isWord wall.isWord_year second]
  | cons c fraction =>
    have run : IsWord (c :: fraction) :=
      isWord_of_isDigits ⟨List.cons_ne_nil c fraction, shape ▸ wall.digits⟩
    have same : wall.text = wall.year.chars ++ '-' :: (wall.month.chars ++ '-' :: (wall.day.chars ++
        wall.separator :: (wall.hour.chars ++ ':' ::
          (wall.minute.chars ++ ':' :: (wall.second.chars ++ ['.']))))) ++ c :: fraction := by
      simp [text, dateText, timeText, shape, fractionText]
    rw [same, trim_of_isWord wall.isWord_year run]

end WallText

theorem trim_timestamp (stamp : Timestamp) : trim stamp.text = stamp.text := by
  obtain ⟨wall, offset⟩ := stamp
  have last : ∃ front back, IsWord back ∧ offset.text = front ++ back := by
    cases offset with
    | universal letter listed =>
      refine ⟨[], [letter], ?_, rfl⟩
      simp only [List.mem_cons, List.not_mem_nil, or_false] at listed
      rcases listed with rfl | rfl <;> decide
    | distance sign listed hours minutes =>
      refine ⟨sign :: (hours.chars ++ [':']), minutes.chars, isWord_of_isDigits minutes.isDigits, ?_⟩
      simp [OffsetText.text]
  obtain ⟨front, back, word, same⟩ := last
  obtain ⟨behind, whole⟩ : ∃ behind, wall.text = wall.year.chars ++ behind := ⟨_, List.append_assoc _ _ _⟩
  rw [Timestamp.text, same, whole, ← List.append_assoc, List.append_assoc wall.year.chars,
    trim_of_isWord wall.isWord_year word]

/-- A distance from universal time does not move the clock that is read, not even over the end of a
day. The same time is read without it, which is the one that the figures say. -/
theorem read?_keeps_wall {wall : WallText} (separated : wall.separator = 'T' ∨ wall.separator = ' ')
    (offset : OffsetText) (accepted : (OffsetDateTime.read? (wall.text ++ offset.text)).isSome = true) :
    ∃ moment, read? (String.ofList (wall.text ++ offset.text)) = some moment ∧
      read? (String.ofList wall.text) = some moment ∧ moment.epochSeconds = wall.seconds ∧
        moment.time.nano = wall.nano := by
  have whole : (Timestamp.mk wall offset).text = wall.text ++ offset.text := rfl
  rw [← whole] at accepted ⊢
  obtain ⟨result, read⟩ := Option.isSome_iff_exists.mp accepted
  obtain ⟨⟨real, -⟩, seconds, nano, -⟩ := OffsetDateTime.read?_text_eq_some_iff.mp read
  have told : wall.reading.dateTime? = some result.wall :=
    wall.dateTime?_reading_eq_some_iff.mpr ⟨real, seconds, nano⟩
  obtain ⟨pattern, listed, fits⟩ := wall.exists_pattern real separated
  have patterned : Reader.dateTime pattern ∈ Reader.all :=
    List.mem_cons_of_mem _ (List.mem_append_left _ (List.mem_map.mpr ⟨pattern, listed, rfl⟩))
  refine ⟨result.wall, ?_, ?_, seconds, nano⟩
  · apply read?_of_mem (List.mem_cons_self : Reader.timestamp ∈ Reader.all)
    rw [String.toList_ofList, trim_timestamp, Reader.timestamp, read, Option.map_some]
  · apply read?_of_mem patterned
    rw [String.toList_ofList, wall.trim_text, Reader.dateTime, fits, Option.bind_some, told]

/-- The leap second at the end of 2016, with a long fraction. -/
def WallText.leap2016 : WallText where
  year := .ofText "2016" (by decide)
  month := .ofText "12" (by decide)
  day := .ofText "31" (by decide)
  separator := 'T'
  separates := by decide
  hour := .ofText "23" (by decide)
  minute := .ofText "59" (by decide)
  second := .ofText "60" (by decide)
  fraction := "1234567899".toList
  digits := List.all_eq_true.mp (by decide)

theorem read?_keeps_wall_leap :
    ∃ moment, read? "2016-12-31T23:59:60.1234567899+05:30" = some moment ∧
      read? "2016-12-31T23:59:60.1234567899" = some moment ∧ moment.epochSeconds = 1483228799 ∧
        moment.time.nano = 1123456789 := by
  have stamped : WallText.leap2016.text ++ "+05:30".toList =
      "2016-12-31T23:59:60.1234567899+05:30".toList := by decide
  have bare : WallText.leap2016.text = "2016-12-31T23:59:60.1234567899".toList := by decide
  have seconds : WallText.leap2016.seconds = 1483228799 := by decide
  have nano : WallText.leap2016.nano = 1123456789 := by decide
  have kept := read?_keeps_wall (.inl rfl : WallText.leap2016.separator = 'T' ∨ _)
    (.distance '+' (by decide) (.ofText "05" (by decide)) (.ofText "30" (by decide))) (by decide)
  rw [show OffsetText.text (.distance '+' _ _ _) = "+05:30".toList from rfl, stamped, bare, seconds, nano,
    String.ofList_toList, String.ofList_toList] at kept
  exact kept

end Calendar
end DueReminders
