import DueReminders.Item
import DueReminders.Proofs.Calendar.Readers
import DueReminders.Proofs.Number.Padded

/-! Long dates are read back as the day they were written for, in every year of the calendar. What a
mail shows of a text is thus shown unchanged when it is taken for the text itself. -/
namespace DueReminders

namespace Text

/-- Some characters, none of them a blank. -/
def IsWord (text : List Char) : Prop := text ≠ [] ∧ ∀ c ∈ text, isBlank c = false

instance (text : List Char) : Decidable (IsWord text) :=
  @instDecidableAnd _ _ _ (List.decidableBAll (fun c => isBlank c = false) text)

section

variable {front back : List Char}

theorem IsWord.trimStart_append (word : IsWord front) (rest : List Char) :
    trimStart (front ++ rest) = front ++ rest := by
  obtain ⟨bare, solid⟩ := word
  cases front with
  | nil => exact absurd rfl bare
  | cons c front => exact trimStart_cons_of_not_blank (solid c List.mem_cons_self)

theorem IsWord.trimEnd_append (word : IsWord back) (text : List Char) :
    trimEnd (text ++ back) = text ++ back := by
  obtain ⟨bare, solid⟩ := word
  have turned : IsWord back.reverse :=
    ⟨List.reverse_ne_nil_iff.mpr bare, fun c member => solid c (List.mem_reverse.mp member)⟩
  rw [trimEnd, List.reverse_append]
  exact List.reverse_eq_iff.mpr ((turned.trimStart_append _).trans (List.reverse_append).symm)

theorem trim_of_isWord (first : IsWord front) (last : IsWord back) (text : List Char) :
    trim (front ++ text ++ back) = front ++ text ++ back := by
  rw [trim, List.append_assoc, first.trimStart_append, ← List.append_assoc, last.trimEnd_append]

end

end Text

namespace Calendar

open Number Text

section

variable {text rest word : List Char} {names : List String} {limit : Nat}

theorem isBlank_of_isDigit {c : Char} (digit : c.isDigit = true) : isBlank c = false := by
  have checked : ∀ code, code < 58 → (Char.ofNat code).isDigit = true →
      isBlank (Char.ofNat code) = false := by
    decide
  have ascii : c.toNat < 58 := Nat.lt_succ_of_le (of_decide_eq_true (Bool.and_eq_true_iff.mp digit).2)
  have same : Char.ofNat c.toNat = c := Char.ofNat_toNat c
  exact same ▸ checked c.toNat ascii (same.symm ▸ digit)

theorem isWord_of_isDigits (run : IsDigits text) : IsWord text :=
  ⟨run.1, fun c member => isBlank_of_isDigit (run.2 c member)⟩

theorem takeNumber?_run (run : IsDigits text) (fits : text.length ≤ limit)
    (stops : ∀ c ∈ rest.head?, c.isDigit = false) :
    takeNumber? limit (text ++ rest) = some (ofDigits text, rest) := by
  rw [takeNumber?, takeDigits_run run.2 fits stops]
  cases text with
  | nil => exact absurd rfl run.1
  | cons c text => rfl

theorem takeBounded?_run {low high : Nat} (run : IsDigits text) (fits : text.length ≤ 2)
    (within : low ≤ ofDigits text ∧ ofDigits text ≤ high) (stops : ∀ c ∈ rest.head?, c.isDigit = false) :
    takeBounded? low high (text ++ rest) = some (ofDigits text, rest) := by
  rw [takeBounded?, (isWord_of_isDigits run).trimStart_append, takeNumber?_run run fits stops]
  exact if_pos within

theorem takeBounded?_digits {low high value : Nat} (within : low ≤ value ∧ value ≤ high)
    (small : value < 100) (stops : ∀ c ∈ rest.head?, c.isDigit = false) :
    takeBounded? low high (digits value ++ rest) = some (value, rest) := by
  have same := ofDigits_digits value
  have taken := takeBounded?_run (isDigits_digits value) (length_digits_le_two small)
    (same.symm ▸ within) stops
  rwa [same] at taken

/-- Without a sign a year has at most four digits. -/
theorem takeYear?_of_isDigits (run : IsDigits text) (fits : text.length ≤ 4)
    (stops : ∀ c ∈ rest.head?, c.isDigit = false) :
    takeYear? (text ++ rest) = some ((ofDigits text : Int), rest) := by
  have taken := takeNumber?_run run fits stops
  have unsigned {sign : Char} {back : List Char} (same : text ++ rest = sign :: back) :
      sign.isDigit = true := by
    obtain ⟨first, others, rfl⟩ := List.exists_cons_of_ne_nil run.1
    exact (List.cons.inj same).1 ▸ run.2 first List.mem_cons_self
  rw [takeYear?, (isWord_of_isDigits run).trimStart_append]
  split
  · next same => exact absurd (unsigned same) (by decide)
  · next same => exact absurd (unsigned same) (by decide)
  · rw [taken]
    rfl

theorem isWord_yearText (year : Int) : IsWord (yearText year) := by
  have digits := isWord_of_isDigits (isDigits_padded 4 year.natAbs)
  unfold yearText
  split
  · exact digits
  · refine ⟨List.cons_ne_nil _ _, List.forall_mem_cons.mpr ⟨?_, digits.2⟩⟩
    split <;> rfl

/-- Years are read back whatever their sign. -/
theorem takeYear?_yearText (year : Int) (stops : ∀ c ∈ rest.head?, c.isDigit = false) :
    takeYear? (yearText year ++ rest) = some (year, rest) := by
  have run := isDigits_padded 4 year.natAbs
  unfold yearText
  split
  · next plain =>
    have wide : (padded 4 year.natAbs).length ≤ 4 :=
      Nat.le_of_eq (length_padded (length_digits_le_four (by omega)))
    have same : (year.natAbs : Int) = year := by omega
    rw [takeYear?_of_isDigits run wide stops, ofDigits_padded, same]
  · next signed =>
    have within : (padded 4 year.natAbs).length ≤ (padded 4 year.natAbs ++ rest).length := by
      rw [List.length_append]
      exact Nat.le_add_right _ _
    have taken := takeNumber?_run run within stops
    rw [ofDigits_padded] at taken
    by_cases negative : year < 0
    · have same : -(year.natAbs : Int) = year := by omega
      rw [if_pos negative, List.cons_append, takeYear?, trimStart_cons_of_not_blank rfl]
      simp only [taken, Option.map_some, same]
    · have same : (year.natAbs : Int) = year := by omega
      rw [if_neg negative, List.cons_append, takeYear?, trimStart_cons_of_not_blank rfl]
      simp only [taken, Option.map_some, same]

theorem dropWord?_append (word rest : List Char) : dropWord? word (word ++ rest) = some rest := by
  induction word with
  | nil => rfl
  | cons c word ih => rw [List.cons_append, dropWord?, if_pos rfl, ih]

theorem map_toLower_of_dropWord? (found : dropWord? word text = some rest) :
    (text.take word.length).map Char.toLower = word.map Char.toLower := by
  induction word generalizing text with
  | nil => rfl
  | cons w word ih =>
    cases text with
    | nil => cases found
    | cons c text =>
      rw [dropWord?, Option.ite_none_right_eq_some] at found
      rw [List.length_cons, List.take_succ_cons, List.map_cons, List.map_cons, ih found.2, found.1]

/-- The three letters that decide which name a text starts with. -/
def stem (name : String) : List Char := (name.toList.take 3).map Char.toLower

/-- Words of three letters or more, the first three of which tell them apart. -/
structure Telling (names : List String) : Prop where
  words : ∀ name ∈ names, IsWord name.toList
  long : ∀ name ∈ names, 3 ≤ name.toList.length
  apart : (names.map stem).Nodup

theorem telling_monthNames : Telling monthNames := ⟨by decide, by decide, by decide⟩

theorem telling_weekdayNames : Telling weekdayNames := ⟨by decide, by decide, by decide⟩

theorem Telling.position_eq (telling : Telling names) {name other : String} {position number : Nat}
    (named : names[position]? = some name) (numbered : names[number]? = some other)
    (same : stem other = stem name) : number = position := by
  have bound : number < (names.map stem).length := by
    rw [List.length_map]
    exact (List.getElem?_eq_some_iff.mp numbered).1
  apply (List.getElem?_inj bound telling.apart).mp
  rw [List.getElem?_map, List.getElem?_map, numbered, named, Option.map_some, Option.map_some, same]

theorem stem_eq_of_dropWord? {name other : String} {left : List Char} (long : 3 ≤ name.toList.length)
    (also : 3 ≤ other.toList.length)
    (start : dropWord? (other.toList.take 3) (name.toList ++ rest) = some left) :
    stem other = stem name := by
  have same := map_toLower_of_dropWord? start
  have three : (other.toList.take 3).length = 3 := by
    rw [List.length_take]
    exact Nat.min_eq_left also
  rw [three, List.take_append_of_le_length long] at same
  exact same.symm

/-- A name in full is read as the name that it is, and ends where it ends. -/
theorem takeName?_append (telling : Telling names) {name : String} {position : Nat}
    (named : names[position]? = some name) (rest : List Char) :
    takeName? names (name.toList ++ rest) = some (position, rest) := by
  have front : dropWord? (name.toList.take 3) (name.toList ++ rest) =
      some (name.toList.drop 3 ++ rest) := by
    have parts := dropWord?_append (name.toList.take 3) (name.toList.drop 3 ++ rest)
    rwa [← List.append_assoc, List.take_append_drop] at parts
  have taken : (takeName? names (name.toList ++ rest)).isSome := by
    refine List.findSome?_isSome_iff.mpr ⟨(name, position), List.mem_zipIdx_iff_getElem?.mpr named, ?_⟩
    show (Option.map _ (dropWord? (name.toList.take 3) _)).isSome = true
    rw [front]
    rfl
  -- the name that is found is the one that was written
  obtain ⟨found, read⟩ := Option.isSome_iff_exists.mp taken
  obtain ⟨⟨other, number⟩, member, later⟩ := List.exists_of_findSome?_eq_some read
  obtain ⟨left, start, rfl⟩ := Option.map_eq_some_iff.mp later
  have numbered : names[number]? = some other := List.mem_zipIdx_iff_getElem?.mp member
  have letters := stem_eq_of_dropWord? (telling.long name (List.mem_of_getElem? named))
    (telling.long other (List.mem_of_getElem? numbered)) start
  obtain rfl := telling.position_eq named numbered letters
  cases numbered.symm.trans named
  rw [front] at start
  cases start
  rw [read, dropWord?_append]
  rfl

theorem getElem?_getD {position : Nat} (inside : position < names.length) :
    names[position]? = some (names.getD position "") := by
  rw [List.getD_eq_getElem?_getD, List.getElem?_eq_getElem inside]
  rfl

end

namespace Pattern

variable {pattern : Pattern} {reading : Reading} {text : List Char}

theorem readFrom?_literal (c : Char) :
    readFrom? reading (.literal c :: pattern) (c :: text) = readFrom? reading pattern text := by
  rw [readFrom?, Item.take?, if_pos rfl]
  rfl

theorem readFrom?_blank (trimmed : trimStart text = text) :
    readFrom? reading (.blank :: pattern) (' ' :: text) = readFrom? reading pattern text := by
  have passed : trimStart (' ' :: text) = text := trimmed
  rw [readFrom?, Item.take?, passed]
  rfl

theorem readFrom?_weekdayName {name : String} {position : Nat}
    (named : weekdayNames[position]? = some name) :
    readFrom? reading (.weekdayName :: pattern) (name.toList ++ text) =
      readFrom? { reading with weekday := some position } pattern text := by
  rw [readFrom?, Item.take?, takeName?_append telling_weekdayNames named]
  rfl

theorem readFrom?_monthName {name : String} {position : Nat} (named : monthNames[position]? = some name) :
    readFrom? reading (.monthName :: pattern) (name.toList ++ text) =
      readFrom? { reading with month := position + 1 } pattern text := by
  rw [readFrom?, Item.take?, takeName?_append telling_monthNames named]
  rfl

theorem readFrom?_day {day : Nat} (within : 1 ≤ day ∧ day ≤ 31)
    (stops : ∀ c ∈ text.head?, c.isDigit = false) :
    readFrom? reading (.day :: pattern) (digits day ++ text) =
      readFrom? { reading with day := day } pattern text := by
  rw [readFrom?, Item.take?, takeBounded?_digits within (by omega) stops]
  rfl

theorem readFrom?_year (year : Int) (stops : ∀ c ∈ text.head?, c.isDigit = false) :
    readFrom? reading (.year :: pattern) (yearText year ++ text) =
      readFrom? { reading with year := year } pattern text := by
  rw [readFrom?, Item.take?, takeYear?_yearText year stops]
  rfl

end Pattern

end Calendar

namespace Date

open Calendar Number Text

variable (date : Date)

theorem getElem?_weekdayNames :
    weekdayNames[date.daysFromSunday]? = some (weekdayName date.daysFromSunday) :=
  getElem?_getD date.daysFromSunday_lt

theorem month_bounds : 1 ≤ date.month ∧ date.month ≤ 12 := by
  obtain ⟨first, last, -⟩ := Civil.exists_ofDayNumber date.number
  exact ⟨first, last⟩

theorem getElem?_monthNames : monthNames[date.month - 1]? = some (monthName date.month) :=
  getElem?_getD (Nat.lt_of_le_of_lt (Nat.sub_le_sub_right date.month_bounds.2 1) (by decide))

theorem day_bounds : 1 ≤ date.day ∧ date.day ≤ 31 := by
  obtain ⟨-, -, first, last⟩ := Civil.exists_ofDayNumber date.number
  exact ⟨first, Nat.le_trans last (Civil.daysInMonth_le _ _)⟩

theorem read?_long :
    Pattern.weekdayDate.read? date.long =
      some {
        year := date.year, month := date.month, day := date.day
        weekday := some date.daysFromSunday } := by
  have month : date.month - 1 + 1 = date.month := Nat.sub_add_cancel date.month_bounds.1
  have name : IsWord (monthName date.month).toList :=
    telling_monthNames.words _ (List.mem_of_getElem? date.getElem?_monthNames)
  rw [long, Pattern.read?, Pattern.weekdayDate, Pattern.namedDate, ← List.append_nil (yearText date.year)]
  simp only [List.append_assoc, List.cons_append, List.nil_append]
  rw [Pattern.readFrom?_weekdayName date.getElem?_weekdayNames, Pattern.readFrom?_literal,
    Pattern.readFrom?_blank (name.trimStart_append _),
    Pattern.readFrom?_monthName date.getElem?_monthNames,
    Pattern.readFrom?_blank ((isWord_of_isDigits (isDigits_digits date.day)).trimStart_append _),
    Pattern.readFrom?_day date.day_bounds (fun c comma => by cases comma; rfl), Pattern.readFrom?_literal,
    Pattern.readFrom?_blank ((isWord_yearText date.year).trimStart_append []),
    Pattern.readFrom?_year date.year (fun c further => by cases further), Pattern.readFrom?, month]

theorem trim_long : trim date.long = date.long := by
  have weekday : IsWord (weekdayName date.daysFromSunday).toList :=
    telling_weekdayNames.words _ (List.mem_of_getElem? date.getElem?_weekdayNames)
  have trimmed := trim_of_isWord weekday (isWord_yearText date.year)
    ([',', ' '] ++ ((monthName date.month).toList ++ ([' '] ++ (digits date.day ++ [',', ' ']))))
  simpa only [long, List.append_assoc] using trimmed

theorem date?_reading :
    Reading.date? {
        year := date.year, month := date.month, day := date.day
        weekday := some date.daysFromSunday } =
      some date := by
  have named : ofCivil? ⟨date.year, date.month, date.day⟩ = some date := date.ofCivil?_civil
  rw [Reading.date?, named]
  exact if_pos rfl

end Date

/-- Every date is read back from its long form, at midnight. -/
theorem Calendar.read?_longDate (date : Date) :
    Calendar.read? (longDate date) = some (.atMidnight date) := by
  have listed : Reader.date Pattern.weekdayDate ∈ Reader.all :=
    List.mem_cons_of_mem _
      (List.mem_append_right _ (List.mem_map.mpr ⟨Pattern.weekdayDate, by decide, rfl⟩))
  apply Calendar.read?_of_mem listed
  rw [longDate, String.toList_ofList, date.trim_long, Reader.date, date.read?_long, Option.bind_some,
    date.date?_reading, Option.map_some]

theorem Field.shown_shown (content : String) :
    (Field.text (Field.text content).shown).shown = (Field.text content).shown := by
  cases found : Calendar.read? content with
  | none => simp only [Field.shown, found]
  | some time => simp only [Field.shown, found, Calendar.read?_longDate, DateTime.atMidnight]

/-- Long dates read back: as the same day at midnight, so that two dates are never written alike,
and so that a text field that holds what is shown for a text is shown as it stands. -/
theorem longDate_reads_back :
    (∀ date, Calendar.read? (longDate date) = some (.atMidnight date)) ∧
      (∀ date other, longDate date = longDate other ↔ date = other) ∧
      ∀ (item : Item) (name content : String), ∃ shown,
        (item.set name (.text content)).shown.get? name = some shown ∧
          (item.set name (.text shown)).shown.get? name = some shown := by
  have written (item : Item) (name content : String) :
      (item.set name (.text content)).shown.get? name = some (Field.text content).shown := by
    rw [Item.get?_shown, Item.get?, Item.set, Record.get?_insert, if_pos rfl, Option.map_some]
  refine ⟨Calendar.read?_longDate, ?_, ?_⟩
  · intro date other
    refine ⟨fun same => ?_, congrArg longDate⟩
    have again := Calendar.read?_longDate other
    rw [← same, Calendar.read?_longDate] at again
    exact congrArg DateTime.date (Option.some.inj again)
  · intro item name content
    refine ⟨_, written item name content, ?_⟩
    rw [written, Field.shown_shown]

/-- A year before the first keeps its sign. -/
example : (Field.text "-1-3-1").shown = "Monday, March 1, -0001" := by decide +kernel

end DueReminders
