import DueReminders.Calendar.Lenient
import DueReminders.Proofs.Calendar.Marks
import DueReminders.Proofs.Calendar.Timestamp
import Mathlib.Data.List.Pairwise

/-! All the ways in which a date is read. Two of them that both take a text agree on what it stands
for, so their order is of no account. -/
namespace DueReminders

open Number Text Calendar

namespace OffsetDateTime

/-- The marks of one of some characters. -/
def oneOf (accepted : List Char) : List (List Char) := accepted.map fun c => marks [c]

/-- The date, the time and the fraction of a timestamp. -/
def wallForm : Form :=
  [oneOf ['-'], oneOf ['-'], oneOf ['T', 't', ' '], oneOf [':'], oneOf [':'], Item.fraction.spellings]

def universal : Form := [oneOf ['Z', 'z']]

def distance : Form := [oneOf ['+', '-', '\u2212'], oneOf [':']]

section

variable {width : Nat} {accepted text : List Char} {c : Char}

theorem takes_of_mark (member : c ∈ accepted) (rest : List Char) :
    Form.Takes [oneOf accepted] (c :: rest) rest :=
  Form.takes_of_mem (List.mem_map.mpr ⟨c, member, rfl⟩) (marks_cons c rest)

theorem takes_of_figures (figures : Figures width) (rest : List Char) :
    Form.Takes [] (figures.chars ++ rest) rest := by
  apply Form.takes_of_marks_eq
  rw [marks_append, marks_of_digits figures.digits, List.nil_append]

theorem takes_of_field (figures : Figures width) (member : c ∈ accepted) (rest : List Char) :
    Form.Takes [oneOf accepted] (figures.chars ++ c :: rest) rest :=
  (takes_of_figures figures (c :: rest)).trans (takes_of_mark member rest)

theorem spells_offset (offset : OffsetText) :
    universal.Spells (marks offset.text) ∨ distance.Spells (marks offset.text) := by
  cases offset with
  | universal letter listed => exact .inl (takes_of_mark listed []).spells
  | distance sign listed hours minutes =>
    have last : Form.Takes [] minutes.chars [] := Form.takes_of_marks_eq (marks_of_digits minutes.digits)
    have figures := (takes_of_field hours (List.mem_singleton_self ':') _).trans last
    exact .inr ((takes_of_mark listed _).trans figures).spells

theorem spells_of_read? {result : OffsetDateTime} (read : read? text = some result) :
    (wallForm ++ universal).Spells (marks text) ∨ (wallForm ++ distance).Spells (marks text) := by
  obtain ⟨⟨wall, offset⟩, rfl⟩ := exists_text_of_read? read
  have dash : '-' ∈ ['-'] := List.mem_singleton_self '-'
  have colon : ':' ∈ [':'] := List.mem_singleton_self ':'
  have date (rest : List Char) : Form.Takes [oneOf ['-'], oneOf ['-'], oneOf ['T', 't', ' ']]
      (wall.year.chars ++ '-' ::
        (wall.month.chars ++ '-' :: (wall.day.chars ++ wall.separator :: rest))) rest :=
    (takes_of_field wall.year dash _).trans ((takes_of_field wall.month dash _).trans
      (takes_of_field wall.day wall.separates rest))
  have fraction := takes_of_takeFraction? (takeFraction?_text wall.digits (stops_text offset))
  have time : Form.Takes [oneOf [':'], oneOf [':'], Item.fraction.spellings] (wall.hour.chars ++ ':' ::
      (wall.minute.chars ++ ':' ::
        (wall.second.chars ++ (fractionText wall.fraction ++ offset.text)))) offset.text :=
    (takes_of_field wall.hour colon _).trans ((takes_of_field wall.minute colon _).trans
      ((takes_of_figures wall.second _).trans fraction))
  have whole : wallForm.Takes (Timestamp.mk wall offset).text offset.text := by
    rw [text_eq]
    exact (date _).trans time
  obtain ⟨word, spells, same⟩ := whole
  rw [same]
  rcases spells_offset offset with universal | distance
  · exact .inl (spells.append universal)
  · exact .inr (spells.append distance)

end

end OffsetDateTime

namespace Calendar

/-- Which time a text stands for, if any. -/
abbrev Reader := List Char → Option DateTime

namespace Reader

def timestamp : Reader := fun text => (OffsetDateTime.read? text).map OffsetDateTime.wall

def dateTime (pattern : Pattern) : Reader := fun text => (pattern.read? text).bind Reading.dateTime?

def date (pattern : Pattern) : Reader := fun text =>
  ((pattern.read? text).bind Reading.date?).map DateTime.atMidnight

def all : List Reader := timestamp :: (Pattern.dateTimes.map dateTime ++ Pattern.dates.map date)

/-- What both take stands for the same time. -/
def Agree (first second : Reader) : Prop :=
  ∀ text time other, first text = some time → second text = some other → time = other

end Reader

/-- The first that takes the trimmed text decides. -/
theorem read?_eq_findSome? (text : String) :
    read? text = Reader.all.findSome? fun reader => reader (trim text.toList) := by
  rw [Reader.all, List.findSome?_cons, List.findSome?_append, List.findSome?_map,
    List.findSome?_map, read?]
  cases stamped : OffsetDateTime.read? (trim text.toList) with
  | some stamp => simp only [Reader.timestamp, stamped, Option.map_some]
  | none =>
    simp only [Reader.timestamp, stamped, Option.map_none, List.map_findSome?]
    show _ = (Pattern.dateTimes.findSome? fun pattern =>
      (pattern.read? (trim text.toList)).bind Reading.dateTime?).or _
    generalize (Pattern.dateTimes.findSome? fun pattern =>
      (pattern.read? (trim text.toList)).bind Reading.dateTime?) = timed
    cases timed <;> rfl

section

variable {reading result : Reading} {text rest : List Char}

theorem Item.nano_of_take? {item : Item} (other : item ≠ .fraction)
    (found : item.take? reading text = some (result, rest)) : result.nano = reading.nano := by
  cases item with
  | fraction => exact absurd rfl other
  | year | month | day | hour | hourOfHalf | minute | second | monthName | weekdayName =>
    obtain ⟨taken, -, same⟩ := Option.map_eq_some_iff.mp found
    cases same
    rfl
  | halfDay =>
    simp only [Item.take?] at found
    split at found <;> cases found <;> rfl
  | blank =>
    cases found
    rfl
  | literal c =>
    cases text with
    | nil => cases found
    | cons head tail =>
      rw [Item.take?, Option.ite_none_right_eq_some] at found
      cases found.2
      rfl

namespace Pattern

theorem nano_of_readFrom? {pattern : Pattern} (whole : .fraction ∉ pattern)
    (read : Pattern.readFrom? reading pattern text = some result) : result.nano = reading.nano := by
  induction pattern generalizing reading text with
  | nil =>
    cases text with
    | nil =>
      cases read
      rfl
    | cons c text => cases read
  | cons item items ih =>
    rw [List.mem_cons, not_or] at whole
    obtain ⟨⟨next, rest⟩, taken, later⟩ := Option.bind_eq_some_iff.mp read
    rw [ih whole.2 later, Item.nano_of_take? (Ne.symm whole.1) taken]

theorem readFrom?_append_fraction {pattern : Pattern}
    (read : Pattern.readFrom? reading pattern text = some result) :
    Pattern.readFrom? reading (pattern ++ [.fraction]) text = some { result with nano := 0 } := by
  induction pattern generalizing reading text with
  | nil =>
    cases text with
    | nil =>
      cases read
      rfl
    | cons c text => cases read
  | cons item items ih =>
    obtain ⟨⟨next, rest⟩, taken, later⟩ := Option.bind_eq_some_iff.mp read
    exact Option.bind_eq_some_iff.mpr ⟨(next, rest), taken, ih later⟩

theorem read?_append_fraction {pattern : Pattern} (whole : .fraction ∉ pattern)
    (read : pattern.read? text = some result) :
    Pattern.read? (pattern ++ [.fraction]) text = some result := by
  have none : result.nano = 0 := nano_of_readFrom? whole read
  have same : { result with nano := 0 } = result := by rw [← none]
  exact same ▸ readFrom?_append_fraction read

/-- Two patterns of which one text is never taken by both, or the first reads fractions and the
second is the same without them. -/
def Parted (first second : Pattern) : Prop :=
  (first = second ++ [.fraction] ∧ .fraction ∉ second) ∨ first.form.Apart second.form

instance (first second : Pattern) : Decidable (first.Parted second) := by unfold Parted; infer_instance

theorem dateTimes_parted : dateTimes.Pairwise Parted := by decide

theorem dates_apart : dates.Pairwise fun first second => first.form.Apart second.form := by decide

theorem dateTimes_apart_dates : ∀ first ∈ dateTimes, ∀ second ∈ dates, first.form.Apart second.form := by
  decide

theorem timestamps_apart :
    ∀ pattern ∈ dateTimes ++ dates,
      (OffsetDateTime.wallForm ++ OffsetDateTime.universal).Apart pattern.form ∧
        (OffsetDateTime.wallForm ++ OffsetDateTime.distance).Apart pattern.form := by
  decide

theorem not_both_read {first second : Pattern} (apart : first.form.Apart second.form) {other : Reading}
    (read : first.read? text = some result) : second.read? text ≠ some other :=
  fun again => apart.not_both (spells_of_readFrom? read) (spells_of_readFrom? again)

theorem not_stamp_and_read {pattern : Pattern} (member : pattern ∈ dateTimes ++ dates)
    {stamp : OffsetDateTime}
    (stamped : OffsetDateTime.read? text = some stamp) : pattern.read? text ≠ some result := by
  intro read
  obtain ⟨universal, distance⟩ := timestamps_apart pattern member
  rcases OffsetDateTime.spells_of_read? stamped with spells | spells
  · exact universal.not_both spells (spells_of_readFrom? read)
  · exact distance.not_both spells (spells_of_readFrom? read)

end Pattern

end

namespace Reader

variable {first second : Reader} {text : List Char}

theorem Agree.refl (reader : Reader) : reader.Agree reader := by
  intro text time other read again
  exact Option.some.inj (read.symm.trans again)

theorem Agree.symm (agree : first.Agree second) : second.Agree first := by
  intro text time other read again
  exact (agree text other time again read).symm

/-- The reader takes nothing that the pattern does not take. -/
def Follows (reader : Reader) (pattern : Pattern) : Prop :=
  ∀ text time, reader text = some time → ∃ reading, pattern.read? text = some reading

theorem follows_dateTime (pattern : Pattern) : (dateTime pattern).Follows pattern := by
  intro text time read
  obtain ⟨reading, found, -⟩ := Option.bind_eq_some_iff.mp read
  exact ⟨reading, found⟩

theorem follows_date (pattern : Pattern) : (date pattern).Follows pattern := by
  intro text time read
  obtain ⟨day, taken, -⟩ := Option.map_eq_some_iff.mp read
  obtain ⟨reading, found, -⟩ := Option.bind_eq_some_iff.mp taken
  exact ⟨reading, found⟩

theorem agree_of_apart {pattern other : Pattern} (follows : first.Follows pattern)
    (also : second.Follows other) (apart : pattern.form.Apart other.form) : first.Agree second := by
  intro text time later read again
  obtain ⟨reading, found⟩ := follows text time read
  obtain ⟨result, taken⟩ := also text later again
  exact absurd taken (Pattern.not_both_read apart found)

theorem agree_of_parted {pattern other : Pattern} (parted : pattern.Parted other) :
    (dateTime pattern).Agree (dateTime other) := by
  rcases parted with ⟨rfl, whole⟩ | apart
  · intro text time later read again
    obtain ⟨reading, found, timed⟩ := Option.bind_eq_some_iff.mp read
    obtain ⟨result, taken, dated⟩ := Option.bind_eq_some_iff.mp again
    have same := found.symm.trans (Pattern.read?_append_fraction whole taken)
    cases same
    exact Option.some.inj (timed.symm.trans dated)
  · exact agree_of_apart (follows_dateTime pattern) (follows_dateTime other) apart

theorem agree_timestamp {pattern : Pattern} (member : pattern ∈ Pattern.dateTimes ++ Pattern.dates)
    (follows : first.Follows pattern) : timestamp.Agree first := by
  intro text time other read again
  obtain ⟨stamp, stamped, -⟩ := Option.map_eq_some_iff.mp read
  obtain ⟨reading, found⟩ := follows text other again
  exact absurd found (Pattern.not_stamp_and_read member stamped)

theorem pairwise_all : all.Pairwise Agree := by
  refine List.pairwise_cons.mpr ⟨?_, List.pairwise_append.mpr ⟨?_, ?_, ?_⟩⟩
  · intro reader member
    rcases List.mem_append.mp member with timed | dated
    · obtain ⟨pattern, listed, rfl⟩ := List.mem_map.mp timed
      exact agree_timestamp (List.mem_append_left _ listed) (follows_dateTime pattern)
    · obtain ⟨pattern, listed, rfl⟩ := List.mem_map.mp dated
      exact agree_timestamp (List.mem_append_right _ listed) (follows_date pattern)
  · exact List.pairwise_map.mpr (Pattern.dateTimes_parted.imp agree_of_parted)
  · exact List.pairwise_map.mpr
      (Pattern.dates_apart.imp (agree_of_apart (follows_date _) (follows_date _)))
  · intro reader timed other dated
    obtain ⟨pattern, listed, rfl⟩ := List.mem_map.mp timed
    obtain ⟨second, present, rfl⟩ := List.mem_map.mp dated
    exact agree_of_apart (follows_dateTime pattern) (follows_date second)
      (Pattern.dateTimes_apart_dates pattern listed second present)

instance : Std.Symm Agree := ⟨fun _ _ => Agree.symm⟩

theorem agree_of_mem (listed : first ∈ all) (present : second ∈ all) : first.Agree second :=
  List.Pairwise.forall_of_forall (fun reader _ => Agree.refl reader) pairwise_all listed present

theorem findSome?_of_mem {time : DateTime} {order : List Reader} (within : ∀ reader ∈ order, reader ∈ all)
    (member : first ∈ order) (read : first text = some time) :
    (order.findSome? fun reader => reader text) = some time := by
  have present : (order.findSome? fun reader => reader text).isSome :=
    List.findSome?_isSome_iff.mpr ⟨first, member, read ▸ rfl⟩
  obtain ⟨other, found⟩ := Option.isSome_iff_exists.mp present
  obtain ⟨second, owned, again⟩ := List.exists_of_findSome?_eq_some found
  rw [found, agree_of_mem (within first member) (within second owned) text time other read again]

end Reader

/-- What one of the readers finds in a trimmed text is what the text stands for. -/
theorem read?_of_mem {reader : Reader} {text : String} {time : DateTime} (member : reader ∈ Reader.all)
    (read : reader (trim text.toList) = some time) : read? text = some time :=
  (read?_eq_findSome? text).trans (Reader.findSome?_of_mem (fun _ => id) member read)

/-- Two readers that both take the trimmed text find the same time in it, so the order in which they
are tried is of no account. -/
theorem read?_unambiguous (text : String) :
    (∀ first ∈ Reader.all, ∀ second ∈ Reader.all, ∀ time other,
      first (trim text.toList) = some time → second (trim text.toList) = some other → time = other) ∧
    ∀ order : List Reader, order.Perm Reader.all →
      (order.findSome? fun reader => reader (trim text.toList)) = read? text := by
  refine ⟨?_, ?_⟩
  · intro first listed second present time other read again
    exact Reader.agree_of_mem listed present _ time other read again
  · intro order perm
    cases found : read? text with
    | some time =>
      rw [read?_eq_findSome?] at found
      obtain ⟨reader, member, read⟩ := List.exists_of_findSome?_eq_some found
      exact Reader.findSome?_of_mem (fun _ => perm.mem_iff.mp) (perm.mem_iff.mpr member) read
    | none =>
      rw [read?_eq_findSome?, List.findSome?_eq_none_iff] at found
      rw [List.findSome?_eq_none_iff]
      intro reader member
      exact found reader (perm.mem_iff.mp member)

/-- Whole seconds are taken with an optional fraction and without one. -/
theorem read?_unambiguous_seconds :
    ∃ time,
      Reader.dateTime (Pattern.isoDate ++ .literal 'T' :: Pattern.fractions)
        (trim "2024-06-11T12:30:45".toList) = some time ∧
      Reader.dateTime (Pattern.isoDate ++ .literal 'T' :: Pattern.seconds)
        (trim "2024-06-11T12:30:45".toList) = some time := by
  have listed {pattern : Pattern} (member : pattern ∈ Pattern.dateTimes) :
      Reader.dateTime pattern ∈ Reader.all :=
    List.mem_cons_of_mem _ (List.mem_append_left _ (List.mem_map.mpr ⟨pattern, member, rfl⟩))
  have exact : (Reader.dateTime (Pattern.isoDate ++ .literal 'T' :: Pattern.fractions)
      (trim "2024-06-11T12:30:45".toList)).isSome := by decide +kernel
  have whole : (Reader.dateTime (Pattern.isoDate ++ .literal 'T' :: Pattern.seconds)
      (trim "2024-06-11T12:30:45".toList)).isSome := by decide +kernel
  obtain ⟨time, read⟩ := Option.isSome_iff_exists.mp exact
  obtain ⟨other, again⟩ := Option.isSome_iff_exists.mp whole
  have same : time = other :=
    (read?_unambiguous "2024-06-11T12:30:45").1 _ (listed (by decide)) _ (listed (by decide))
      _ _ read again
  exact ⟨time, read, same ▸ again⟩

end Calendar
end DueReminders
