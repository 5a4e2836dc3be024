import DueReminders.Classify
import DueReminders.Proofs.Calendar.LongDate

/-! The compact form of a date field is read back as the time of the field, without the fraction of
its second. An item is therefore judged and shown alike whether a field holds a time or the text the
time is compared by. -/
namespace DueReminders

open Number Text Calendar

namespace ClockTime

theorem ofParts?_split {second nano : Nat} (below : second < 86400)
    (fits : nano < 1000000000 ∨ (second % 60 = 59 ∧ nano < 2000000000)) :
    ofParts? (second / 3600) (second / 60 % 60) (second % 60) nano =
      some ⟨second, nano, below, by omega⟩ := by
  have parts : second / 3600 < 24 ∧ second / 60 % 60 < 60 ∧ second % 60 < 60 ∧
      (nano < 1000000000 ∨ (second % 60 = 59 ∧ nano < 2000000000)) := ⟨by omega, by omega, by omega, fits⟩
  rw [ofParts?, dif_pos parts]
  refine congrArg some (ext ?_ rfl)
  show second / 3600 * 3600 + second / 60 % 60 * 60 + second % 60 = second
  omega

/-- The second that is written, which is 60 in a leap second. -/
def writtenSecond (time : ClockTime) : Nat := time.secondOfMinute + (if time.isLeap then 1 else 0)

/-- A leap second inside of a minute is followed by another second of that minute. -/
theorem next_lt {time : ClockTime} (irregular : ¬time.Regular) : time.second + 1 < 86400 := by
  have inside : time.second % 60 ≠ 59 := fun last => irregular fun _ => last
  have below := time.second_lt
  omega

theorem next_parts {time : ClockTime} (irregular : ¬time.Regular) :
    (time.second + 1) / 3600 = time.hour ∧ (time.second + 1) / 60 % 60 = time.minute ∧
      (time.second + 1) % 60 = time.writtenSecond := by
  obtain ⟨leap, inside⟩ : time.isLeap = true ∧ time.second % 60 ≠ 59 := Classical.not_imp.mp irregular
  rw [hour, minute, writtenSecond, secondOfMinute, if_pos leap]
  omega

/-- The time the compact form names. A leap second inside of a minute is not told from the second
after it. -/
def written (time : ClockTime) : ClockTime :=
  if regular : time.Regular then time.truncate else ⟨time.second + 1, 0, next_lt regular, midnight.nano_lt⟩

theorem written_of_regular {time : ClockTime} (regular : time.Regular) : time.written = time.truncate :=
  dif_pos regular

theorem writtenSecond_le (time : ClockTime) : time.writtenSecond ≤ 60 := by
  unfold writtenSecond secondOfMinute
  split <;> omega

theorem written_of_irregular {time : ClockTime} (irregular : ¬time.Regular) :
    time.written.second = time.second + 1 ∧ time.written.nano = 0 := by
  rw [written, dif_neg irregular]
  exact ⟨rfl, rfl⟩

theorem compact_eq (time : ClockTime) :
    time.compact =
      padded 2 time.hour ++ ':' :: (padded 2 time.minute ++ ':' :: padded 2 time.writtenSecond) := by
  rw [compact, writtenSecond, List.append_assoc, List.cons_append]

theorem compact_written (time : ClockTime) : time.written.compact = time.compact := by
  rw [compact_eq, compact_eq]
  by_cases regular : time.Regular
  · have leap : time.truncate.isLeap = time.isLeap := by
      show decide (nanosPerSecond ≤ if time.isLeap then 1000000000 else 0) = time.isLeap
      cases time.isLeap <;> rfl
    rw [written_of_regular regular, writtenSecond, leap]
    rfl
  · have plain : time.written.isLeap = false := by
      rw [isLeap, (written_of_irregular regular).2]
      rfl
    have next := next_parts regular
    rw [writtenSecond, plain, hour, minute, secondOfMinute, (written_of_irregular regular).1,
      next.1, next.2.1, next.2.2]
    rfl

theorem time?_written (time : ClockTime) {reading : Reading} (hour : reading.hour = time.hour)
    (minute : reading.minute = time.minute) (second : reading.second = time.writtenSecond)
    (morning : reading.afternoon = false) (whole : reading.nano = 0) :
    reading.time? = some time.written := by
  have below := time.second_lt
  rw [Reading.time?, morning, hour, minute, second, whole]
  simp only [Bool.false_eq_true, if_false]
  by_cases leap : time.isLeap = true
  · by_cases last : time.second % 60 = 59
    · have regular : time.Regular := fun _ => last
      have sixty : time.writtenSecond = 60 := by
        simp only [writtenSecond, secondOfMinute, last, leap, if_true]
      rw [if_pos sixty, written_of_regular regular, ← last]
      refine (ofParts?_split below (.inr ⟨last, by decide⟩)).trans (congrArg some (ext rfl ?_))
      exact (if_pos leap).symm
    · have inside : time.writtenSecond = time.second % 60 + 1 := by
        simp only [writtenSecond, secondOfMinute, leap, if_true]
      have irregular : ¬time.Regular := fun regular => last (regular leap)
      have next := next_parts irregular
      rw [if_neg (by omega), written, dif_neg irregular, ← next.1, ← next.2.1, ← next.2.2]
      exact ofParts?_split (next_lt irregular) (.inl (by decide))
  · have plain : time.writtenSecond = time.second % 60 := by
      simp only [writtenSecond, secondOfMinute, leap, Bool.false_eq_true, if_false, Nat.add_zero]
    rw [if_neg (by omega), plain, written_of_regular fun further => absurd further leap]
    refine (ofParts?_split below (.inl (by decide))).trans (congrArg some (ext rfl ?_))
    exact (if_neg leap).symm

end ClockTime

namespace Calendar

theorem takeBounded?_padded {rest : List Char} {low high value : Nat} (within : low ≤ value ∧ value ≤ high)
    (small : value < 100) (stops : ∀ c ∈ rest.head?, c.isDigit = false) :
    takeBounded? low high (padded 2 value ++ rest) = some (value, rest) := by
  have wide : (padded 2 value).length ≤ 2 := Nat.le_of_eq (length_padded (length_digits_le_two small))
  have taken := takeBounded?_run (isDigits_padded 2 value) wide (by rwa [ofDigits_padded]) stops
  rwa [ofDigits_padded] at taken

/-- An item of one or two digits, with the bounds of its value and the place the value goes to. -/
def Item.Bounded (item : Item) (low high : Nat) (put : Reading → Nat → Reading) : Prop :=
  ∀ reading text,
    item.take? reading text =
      (takeBounded? low high text).map fun (value, rest) => (put reading value, rest)

namespace Item

theorem bounded_month : month.Bounded 1 12 fun reading value => { reading with month := value } :=
  fun _ _ => rfl

theorem bounded_day : day.Bounded 1 31 fun reading value => { reading with day := value } := fun _ _ => rfl

theorem bounded_hour : hour.Bounded 0 23 fun reading value => { reading with hour := value } :=
  fun _ _ => rfl

theorem bounded_minute : minute.Bounded 0 59 fun reading value => { reading with minute := value } :=
  fun _ _ => rfl

theorem bounded_second : second.Bounded 0 60 fun reading value => { reading with second := value } :=
  fun _ _ => rfl

end Item

namespace Pattern

variable {pattern : Pattern} {reading : Reading} {text : List Char}

theorem readFrom?_bounded {item : Item} {low high value : Nat} {put : Reading → Nat → Reading}
    {rest : List Char} (bounded : item.Bounded low high put)
    (taken : takeBounded? low high text = some (value, rest)) :
    readFrom? reading (item :: pattern) text = readFrom? (put reading value) pattern rest := by
  rw [readFrom?, bounded, taken]
  rfl

theorem readFrom?_padded {item : Item} {low high value : Nat} {put : Reading → Nat → Reading}
    (bounded : item.Bounded low high put) (within : low ≤ value ∧ value ≤ high) (small : high < 100)
    (stops : ∀ c ∈ text.head?, c.isDigit = false) :
    readFrom? reading (item :: pattern) (padded 2 value ++ text) =
      readFrom? (put reading value) pattern text :=
  readFrom?_bounded bounded (takeBounded?_padded within (by omega) stops)

theorem stops_cons {c : Char} (mark : c.isDigit = false) : ∀ d ∈ (c :: text).head?, d.isDigit = false := by
  intro d first
  cases first
  exact mark

theorem readFrom?_isoDate (date : Date) (stops : ∀ c ∈ text.head?, c.isDigit = false) :
    readFrom? reading (isoDate ++ pattern) (date.compact ++ text) =
      readFrom? { reading with year := date.year, month := date.month, day := date.day } pattern text := by
  simp only [isoDate, Date.compact, List.append_assoc, List.cons_append, List.nil_append]
  rw [readFrom?_year date.year (stops_cons rfl), readFrom?_literal,
    readFrom?_padded Item.bounded_month date.month_bounds (by decide) (stops_cons rfl), readFrom?_literal,
    readFrom?_padded Item.bounded_day date.day_bounds (by decide) stops]

theorem readFrom?_seconds (time : ClockTime) :
    readFrom? reading seconds time.compact =
      some { reading with hour := time.hour, minute := time.minute, second := time.writtenSecond } := by
  have hour : time.hour ≤ 23 := by
    have := time.second_lt
    unfold ClockTime.hour
    omega
  have minute : time.minute ≤ 59 := by
    unfold ClockTime.minute
    omega
  rw [time.compact_eq, ← List.append_nil (padded 2 time.writtenSecond)]
  simp only [seconds, minutes, List.cons_append, List.nil_append]
  rw [readFrom?_padded Item.bounded_hour ⟨Nat.zero_le _, hour⟩ (by decide) (stops_cons rfl),
    readFrom?_literal,
    readFrom?_padded Item.bounded_minute ⟨Nat.zero_le _, minute⟩ (by decide) (stops_cons rfl),
    readFrom?_literal,
    readFrom?_padded Item.bounded_second ⟨Nat.zero_le _, time.writtenSecond_le⟩ (by decide)
      (fun c further => by cases further), readFrom?]

end Pattern

end Calendar

namespace DateTime

variable (moment : DateTime)

def written : DateTime := ⟨moment.date, moment.time.written⟩

theorem written_of_regular {moment : DateTime} (regular : moment.time.Regular) :
    moment.written = moment.truncate :=
  congrArg (DateTime.mk moment.date) (ClockTime.written_of_regular regular)

theorem compact_written : moment.written.compact = moment.compact := by
  rw [compact, compact, written, ClockTime.compact_written]

theorem trim_compact : trim moment.compact = moment.compact := by
  have trimmed := trim_of_isWord (isWord_yearText moment.date.year)
    (isWord_of_isDigits (isDigits_padded 2 moment.time.writtenSecond))
    ('-' :: padded 2 moment.date.month ++ '-' :: padded 2 moment.date.day ++ 'T' ::
      padded 2 moment.time.hour ++ ':' :: padded 2 moment.time.minute ++ [':'])
  simpa only [compact, Date.compact, ClockTime.compact_eq, List.append_assoc, List.cons_append,
    List.nil_append] using trimmed

theorem dateTime?_compact :
    Reader.dateTime (Pattern.isoDate ++ .literal 'T' :: Pattern.seconds) moment.compact =
      some moment.written := by
  have day : Date.ofCivil? ⟨moment.date.year, moment.date.month, moment.date.day⟩ = some moment.date :=
    moment.date.ofCivil?_civil
  rw [Reader.dateTime, Pattern.read?, compact,
    Pattern.readFrom?_isoDate moment.date (Pattern.stops_cons rfl), Pattern.readFrom?_literal,
    Pattern.readFrom?_seconds, Option.bind_some, Reading.dateTime?,
    moment.time.time?_written rfl rfl rfl rfl rfl, Reading.date?, day]
  rfl

end DateTime

/-- The text of a date field is read back as the moment it names. -/
theorem Calendar.read?_compact (moment : DateTime) :
    Calendar.read? (Field.moment moment).raw = some moment.written := by
  have listed : Reader.dateTime (Pattern.isoDate ++ .literal 'T' :: Pattern.seconds) ∈ Reader.all :=
    List.mem_cons_of_mem _ (List.mem_append_left _ (List.mem_map.mpr ⟨_, by decide, rfl⟩))
  apply Calendar.read?_of_mem listed
  rw [Field.raw, String.toList_ofList, moment.trim_compact, moment.dateTime?_compact]

namespace Field

/-- A time as the text it is compared by; any other field as it is. -/
def spelled : Field → Field
  | .moment value => .text (Field.moment value).raw
  | field => field

/-- A time as the one its text names; any other field as it is. -/
def settled : Field → Field
  | .moment value => .moment value.written
  | field => field

theorem raw_spelled (field : Field) : field.spelled.raw = field.raw := by
  cases field <;> rfl

theorem raw_settled (field : Field) : field.settled.raw = field.raw := by
  cases field with
  | text content => rfl
  | reference id shown => rfl
  | moment value => rw [settled, raw, raw, value.compact_written]

theorem shown_spelled (field : Field) : field.spelled.shown = field.shown := by
  cases field with
  | text content => rfl
  | reference id shown => rfl
  | moment value => simp only [spelled, Field.shown, Calendar.read?_compact, DateTime.written]

theorem dateTime?_spelled (field : Field) : field.spelled.dateTime? = field.settled.dateTime? := by
  cases field with
  | text content => rfl
  | reference id shown => rfl
  | moment value => exact Calendar.read?_compact value

theorem settled_of_exact {field : Field}
    (exact : ∀ moment, field = .moment moment → moment.time.Regular ∧ moment.truncate = moment) :
    field.settled = field := by
  cases field with
  | text content => rfl
  | reference id shown => rfl
  | moment value =>
    obtain ⟨regular, whole⟩ := exact value rfl
    rw [settled, DateTime.written_of_regular regular, whole]

end Field

namespace Item

variable (convert : Field → Field) (chosen : String → Bool) (item : Item)

def convertFields : Item :=
  ⟨item.id, item.fields.filterMap fun name field => some (if chosen name then convert field else field)⟩

/-- The chosen times as texts. -/
def spell : Item := item.convertFields Field.spelled chosen

/-- The chosen times as their texts name them. -/
def settle : Item := item.convertFields Field.settled chosen

theorem get?_convertFields (name : String) :
    (item.convertFields convert chosen).get? name =
      (item.get? name).map fun field => if chosen name then convert field else field :=
  (Record.get?_filterMap _ item.fields name).trans (Option.map_eq_bind).symm

variable {convert}

theorem raw_convertFields (same : ∀ field, (convert field).raw = field.raw) (name : String) :
    (item.convertFields convert chosen).raw name = item.raw name := by
  rw [raw, raw, get?_convertFields]
  cases item.get? name with
  | none => rfl
  | some field =>
    show (if chosen name then convert field else field).raw = field.raw
    split
    · exact same field
    · rfl

theorem shown_spell : (item.spell chosen).shown = item.shown := by
  have alike (name : String) (field : Field) :
      (if chosen name then field.spelled else field).shown = field.shown := by
    split
    · exact field.shown_spelled
    · rfl
  simp only [shown, spell, convertFields, Record.map, Record.filterMap, List.filterMap_filterMap,
    Option.map_some, Option.bind_some, alike]

theorem dateTime?_convertFields (name : String) :
    (item.convertFields convert chosen).dateTime? name =
      (item.get? name).bind fun field =>
        if chosen name then (convert field).dateTime? else field.dateTime? := by
  rw [dateTime?, get?_convertFields, Option.bind_map]
  congr 1
  funext field
  exact apply_ite Field.dateTime? (chosen name = true) (convert field) field

theorem dateTime?_spell (name : String) :
    (item.spell chosen).dateTime? name = (item.settle chosen).dateTime? name := by
  simp only [spell, settle, dateTime?_convertFields, Field.dateTime?_spelled]

variable {chosen item}

theorem dateTime?_settle {name : String}
    (exact : ∀ moment, chosen name = true → item.get? name = some (.moment moment) →
      moment.time.Regular ∧ moment.truncate = moment) :
    (item.settle chosen).dateTime? name = item.dateTime? name := by
  rw [settle, dateTime?_convertFields, dateTime?]
  refine Option.bind_congr fun field found => ?_
  split
  · next picked => rw [Field.settled_of_exact fun moment same => exact moment picked (same ▸ found)]
  · rfl

end Item

namespace Criteria

variable (criteria : Criteria) (chosen : String → Bool) (item : Item)

/-- The chosen times that an item is judged by are without a fraction, and none is a leap second
inside of a minute. -/
def ExactIn : Prop :=
  ∀ name ∈ [criteria.dueField, criteria.modifiedField], ∀ moment, chosen name = true →
    item.get? name = some (.moment moment) → moment.time.Regular ∧ moment.truncate = moment

variable {criteria item}

theorem bucket?_congr {other : Item} (alike : criteria.excludes other = criteria.excludes item)
    (dates : ∀ name ∈ [criteria.dueField, criteria.modifiedField],
      other.dateTime? name = item.dateTime? name)
    (today : Date) : criteria.bucket? today other = criteria.bucket? today item := by
  have judged (due : DateTime) : criteria.bucketOf today other due = criteria.bucketOf today item due := by
    rw [bucketOf, bucketOf, dates criteria.modifiedField (by simp)]
  rw [bucket?, bucket?, alike, dates criteria.dueField (by simp), funext judged]

theorem excludes_convertFields {convert : Field → Field}
    (same : ∀ field, (convert field).raw = field.raw) :
    criteria.excludes (item.convertFields convert chosen) = criteria.excludes item := by
  rw [excludes, excludes, Item.raw_convertFields chosen item same]

theorem excludes_spell : criteria.excludes (item.spell chosen) = criteria.excludes item :=
  excludes_convertFields chosen Field.raw_spelled

theorem excludes_settle : criteria.excludes (item.settle chosen) = criteria.excludes item :=
  excludes_convertFields chosen Field.raw_settled

/-- An item with texts for times is judged by the times that the texts name. -/
theorem bucket?_spell (today : Date) :
    criteria.bucket? today (item.spell chosen) = criteria.bucket? today (item.settle chosen) :=
  bucket?_congr ((excludes_spell chosen).trans (excludes_settle chosen).symm)
    (fun name _ => item.dateTime?_spell chosen name) today

theorem bucket?_settle {chosen : String → Bool} (exact : criteria.ExactIn chosen item) (today : Date) :
    criteria.bucket? today (item.settle chosen) = criteria.bucket? today item :=
  bucket?_congr (excludes_settle chosen)
    (fun name judged => Item.dateTime?_settle (exact name judged)) today

end Criteria

/-- What the text of a date field is read back as, and what texts in the place of times do to an
item. A time is read back without the fraction of its second, where a leap second stays one if it
follows the last second of a minute; inside of a minute it is read back as the second after it. An
item is excluded and shown as before. It is judged by the times that the texts name, which for times
without a fraction and without a leap second inside of a minute is as before. -/
theorem Field.text_interchangeable :
    (∀ moment : DateTime, Calendar.read? (Field.moment moment).raw = some moment.written ∧
      (moment.time.Regular → moment.written = moment.truncate) ∧
      (¬moment.time.Regular → moment.written.date = moment.date ∧
        moment.written.time.second = moment.time.second + 1 ∧ moment.written.time.nano = 0)) ∧
    (∀ (item : Item) (chosen : String → Bool) (criteria : Criteria) (today : Date),
      criteria.excludes (item.spell chosen) = criteria.excludes item ∧
      criteria.bucket? today (item.spell chosen) = criteria.bucket? today (item.settle chosen) ∧
      (criteria.ExactIn chosen item →
        criteria.bucket? today (item.spell chosen) = criteria.bucket? today item)) ∧
    ∀ (item : Item) (chosen : String → Bool), (item.spell chosen).shown = item.shown := by
  refine ⟨?_, ?_, ?_⟩
  · intro moment
    refine ⟨Calendar.read?_compact moment, DateTime.written_of_regular, fun irregular => ⟨rfl, ?_⟩⟩
    exact ClockTime.written_of_irregular irregular
  · intro item chosen criteria today
    refine ⟨Criteria.excludes_spell chosen, Criteria.bucket?_spell chosen today, fun exact => ?_⟩
    exact (Criteria.bucket?_spell chosen today).trans (Criteria.bucket?_settle exact today)
  · intro item chosen
    exact item.shown_spell chosen

/-- A leap second at the end of a year is due on the last day of that year, also as a text. -/
theorem Field.text_interchangeable_leapSecond :
    let due : DateTime := ⟨⟨17166, by decide, by decide⟩, ⟨86399, 1000000000, by decide, by decide⟩⟩
    let item := (Item.bare 1).set "DueDate" (.moment due)
    let criteria : Criteria := ⟨"Status", "Completed", "DueDate", "Modified", 5⟩
    due.time.Regular ∧ due.truncate = due ∧ Calendar.read? (Field.moment due).raw = some due ∧
      criteria.ExactIn (fun _ => true) item ∧
      criteria.bucket? due.date (item.spell fun _ => true) = some .today := by
  intro due item criteria
  have regular : due.time.Regular := by decide
  have exact : criteria.ExactIn (fun _ => true) item := by
    intro name _ moment _ found
    have set : (Record.empty.insert "DueDate" (Field.moment due)).get? name = some (.moment moment) :=
      found
    rw [Record.get?_insert, Record.get?_empty, Option.ite_none_right_eq_some] at set
    cases set.2
    exact ⟨regular, rfl⟩
  obtain ⟨back, same, -⟩ := Field.text_interchangeable.1 due
  refine ⟨regular, rfl, back.trans (congrArg some (same regular)), exact, ?_⟩
  exact ((Field.text_interchangeable.2.1 item (fun _ => true) criteria due.date).2.2 exact).trans
    (by decide +kernel)

/-- A clock that is half a minute off shows a leap second inside of a minute. Its text names the
second after it, and an item last touched in that leap second, just before its threshold, is not way
overdue by the text. -/
theorem Field.text_misses_leapSecond :
    let touched : DateTime := ⟨⟨545, by decide, by decide⟩, ⟨83729, 1000000000, by decide, by decide⟩⟩
    let due : DateTime := ⟨⟨550, by decide, by decide⟩, ⟨83730, 0, by decide, by decide⟩⟩
    let item := ((Item.bare 1).set "DueDate" (.moment due)).set "Modified" (.moment touched)
    let criteria : Criteria := ⟨"Status", "Completed", "DueDate", "Modified", 5⟩
    let today : Date := ⟨551, by decide, by decide⟩
    touched.truncate = touched ∧ due.truncate = due ∧
      Calendar.read? (Field.moment touched).raw ≠ some touched ∧
      criteria.bucket? today item = some .wayOverdue ∧
      criteria.bucket? today (item.spell fun _ => true) = some .overdue := by
  intro touched due item criteria today
  have next : Calendar.read? (Field.moment touched).raw = some touched.written :=
    Calendar.read?_compact touched
  refine ⟨rfl, rfl, ?_, by decide +kernel, by decide +kernel⟩
  rw [next]
  decide

end DueReminders
