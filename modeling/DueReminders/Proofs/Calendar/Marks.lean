import DueReminders.Calendar.OffsetDateTime
import Mathlib.Data.List.TakeWhile

/-! What the readers of dates pass over and what they insist on. Digits and blanks may stand or be
missing in many places; the other characters, the marks, can only come in the few words that an item
of a pattern spells. -/
namespace DueReminders

open Number Text

namespace Calendar

/-- Neither a digit nor a blank. -/
def isMark (c : Char) : Bool := !(c.isDigit || isBlank c)

/-- The marks of a text, in lower case. -/
def marks (text : List Char) : List Char := (text.filter isMark).map Char.toLower

/-- A name cut to three letters and in full. -/
def spellingsOf (names : List String) : List (List Char) :=
  names.flatMap fun name => [marks (name.toList.take 3), marks name.toList]

/-- The marks of what an item takes. -/
def Item.spellings : Item → List (List Char)
  | .year => [[], ['+'], ['-']]
  | .halfDay => [['a', 'm'], ['p', 'm']]
  | .fraction => [[], ['.']]
  | .monthName => spellingsOf monthNames
  | .weekdayName => spellingsOf weekdayNames
  | .literal c => [marks [c]]
  | .month | .day | .hour | .hourOfHalf | .minute | .second | .blank => [[]]

section

variable {text rest word : List Char} {c : Char} {limit : Nat}

theorem marks_append (front back : List Char) : marks (front ++ back) = marks front ++ marks back := by
  rw [marks, List.filter_append, List.map_append]
  rfl

theorem marks_cons (c : Char) (rest : List Char) : marks (c :: rest) = marks [c] ++ marks rest :=
  marks_append [c] rest

theorem marks_eq_nil (passed : ∀ c ∈ text, isMark c = false) : marks text = [] := by
  rw [marks, List.map_eq_nil_iff, List.filter_eq_nil_iff]
  intro c member marked
  exact Bool.false_ne_true ((passed c member).symm.trans marked)

theorem isMark_of_isDigit (digit : c.isDigit = true) : isMark c = false := by
  simp [isMark, digit]

theorem marks_of_digits (run : ∀ c ∈ text, c.isDigit = true) : marks text = [] :=
  marks_eq_nil fun c member => isMark_of_isDigit (run c member)

theorem isMark_of_isBlank (blank : isBlank c = true) : isMark c = false := by
  simp [isMark, blank]

theorem marks_cons_of_isDigit (digit : c.isDigit = true) : marks (c :: rest) = marks rest := by
  have none : marks [c] = [] := marks_eq_nil (by simpa using isMark_of_isDigit digit)
  rw [marks_cons, none, List.nil_append]

theorem marks_dropWhile {passed : Char → Bool} (plain : ∀ c, passed c = true → isMark c = false)
    (text : List Char) : marks (text.dropWhile passed) = marks text := by
  have taken : marks (text.takeWhile passed) = [] :=
    marks_eq_nil fun c member => plain c (List.mem_takeWhile_imp member)
  calc
    marks (text.dropWhile passed) = marks (text.takeWhile passed) ++ marks (text.dropWhile passed) := by
      rw [taken, List.nil_append]
    _ = marks text := by rw [← marks_append, List.takeWhile_append_dropWhile]

theorem marks_trimStart (text : List Char) : marks (trimStart text) = marks text :=
  marks_dropWhile (fun _ => isMark_of_isBlank) text

theorem marks_takeDigits (limit : Nat) (text : List Char) :
    marks (takeDigits limit text).2 = marks text := by
  induction text generalizing limit with
  | nil => cases limit <;> rfl
  | cons c rest ih =>
    cases limit with
    | zero => rfl
    | succ limit =>
      by_cases digit : c.isDigit = true
      · rw [takeDigits, if_pos digit, marks_cons_of_isDigit digit]
        exact ih limit
      · rw [takeDigits, if_neg digit]

theorem marks_of_takeNumber? {value : Nat} (found : takeNumber? limit text = some (value, rest)) :
    marks text = marks rest := by
  have passed := marks_takeDigits limit text
  unfold takeNumber? at found
  split at found
  · cases found
  · next taken left _ split =>
    cases found
    rw [← passed, split]

theorem marks_of_takeBounded? {low high value : Nat}
    (found : takeBounded? low high text = some (value, rest)) :
    marks text = marks rest := by
  unfold takeBounded? at found
  obtain ⟨⟨read, left⟩, taken, checked⟩ := Option.bind_eq_some_iff.mp found
  rw [Option.ite_none_right_eq_some] at checked
  cases checked.2
  rw [← marks_trimStart, marks_of_takeNumber? taken]

theorem marks_of_takeYear? {value : Int} (found : takeYear? text = some (value, rest)) :
    ∃ sign ∈ Item.year.spellings, marks text = sign ++ marks rest := by
  rw [← marks_trimStart]
  unfold takeYear? at found
  split at found
  · next digits trimmed =>
    obtain ⟨⟨read, left⟩, taken, same⟩ := Option.map_eq_some_iff.mp found
    cases same
    refine ⟨['-'], by decide, ?_⟩
    rw [trimmed, marks_cons, marks_of_takeNumber? taken]
    rfl
  · next digits trimmed =>
    obtain ⟨⟨read, left⟩, taken, same⟩ := Option.map_eq_some_iff.mp found
    cases same
    refine ⟨['+'], by decide, ?_⟩
    rw [trimmed, marks_cons, marks_of_takeNumber? taken]
    rfl
  · obtain ⟨⟨read, left⟩, taken, same⟩ := Option.map_eq_some_iff.mp found
    cases same
    exact ⟨[], by decide, marks_of_takeNumber? taken⟩

theorem isMark_toLower (c : Char) : isMark c.toLower = isMark c := by
  by_cases ascii : c.toNat < 128
  · have checked : ∀ code, code < 128 → isMark (Char.ofNat code).toLower = isMark (Char.ofNat code) := by
      decide
    simpa using checked c.toNat ascii
  · have same : c.toLower = c := by
      have beyond : ¬(c.val ≥ 'A'.val ∧ c.val ≤ 'Z'.val) :=
        fun inside => ascii (Nat.lt_of_le_of_lt inside.2 (by decide))
      exact dif_neg beyond
    rw [same]

theorem marks_of_dropWord? (solid : ∀ c ∈ word, isMark c = true)
    (found : dropWord? word text = some rest) :
    marks text = marks word ++ marks rest := by
  induction word generalizing text with
  | nil =>
    cases found
    rfl
  | cons w word ih =>
    obtain ⟨here, later⟩ := List.forall_mem_cons.mp solid
    cases text with
    | nil => cases found
    | cons c text =>
      rw [dropWord?] at found
      split at found
      · next same =>
        have marked : isMark c = true := by rw [← isMark_toLower, ← same, isMark_toLower, here]
        have letter : marks [c] = marks [w] := by simp [marks, marked, here, same]
        rw [marks_cons c, letter, ih later found, marks_cons w word, List.append_assoc]
      · cases found

theorem marks_of_takeName? {names : List String} {position : Nat}
    (solid : ∀ name ∈ names, name.toList.all isMark = true)
    (found : takeName? names text = some (position, rest)) :
    ∃ name ∈ spellingsOf names, marks text = name ++ marks rest := by
  unfold takeName? at found
  obtain ⟨⟨name, number⟩, member, taken⟩ := List.exists_of_findSome?_eq_some found
  obtain ⟨left, front, same⟩ := Option.map_eq_some_iff.mp taken
  obtain ⟨rfl, rfl⟩ := Prod.mk.inj same
  have listed : name ∈ names := List.fst_mem_of_mem_zipIdx member
  have letters := List.all_eq_true.mp (solid name listed)
  have short := marks_of_dropWord? (fun c inside => letters c (List.mem_of_mem_take inside)) front
  have spelled (spelling : List Char)
      (cut : spelling ∈ [marks (name.toList.take 3), marks name.toList]) : spelling ∈ spellingsOf names :=
    List.mem_flatMap.mpr ⟨name, listed, cut⟩
  cases full : dropWord? (name.toList.drop 3) left with
  | none =>
    refine ⟨_, spelled (marks (name.toList.take 3)) List.mem_cons_self, ?_⟩
    rw [short, Option.getD_none]
  | some behind =>
    have later := marks_of_dropWord? (fun c inside => letters c (List.mem_of_mem_drop inside)) full
    refine ⟨_, spelled (marks name.toList) (List.mem_cons_of_mem _ List.mem_cons_self), ?_⟩
    rw [short, later, Option.getD_some, ← List.append_assoc, ← marks_append, List.take_append_drop]

end

/-- A form of texts: words that stand one behind the other, each to be chosen from a list. -/
abbrev Form := List (List (List Char))

namespace Form

/-- The word is put together from one choice of each list. -/
def Spells : Form → List Char → Prop
  | [], word => word = []
  | choices :: form, word => ∃ choice ∈ choices, ∃ rest, word = choice ++ rest ∧ Spells form rest

/-- What is taken from the front of the text has marks of the form. -/
def Takes (form : Form) (text rest : List Char) : Prop :=
  ∃ word, form.Spells word ∧ marks text = word ++ marks rest

/-- How often the character occurs at least. -/
def fewest (c : Char) : Form → Nat
  | [] => 0
  | choices :: form => (choices.map (List.count c)).min?.getD 0 + fewest c form

/-- How often the character occurs at most. -/
def most (c : Char) : Form → Nat
  | [] => 0
  | choices :: form => (choices.map (List.count c)).max?.getD 0 + most c form

/-- One of some characters occurs too often in one of the forms for the other. -/
def ApartBy (telling : List Char) (form other : Form) : Prop :=
  ∃ c ∈ telling, form.most c < other.fewest c ∨ other.most c < form.fewest c

-- named, as another instance would try every character there is
instance (telling : List Char) (form other : Form) : Decidable (form.ApartBy telling other) :=
  List.decidableBEx _ _

/-- The readers of dates are told apart by these characters. -/
abbrev Apart (form other : Form) : Prop := form.ApartBy [',', '/', 'z', ':', 't', 'm'] other

theorem Spells.append {form other : Form} {front back : List Char} (first : form.Spells front)
    (second : other.Spells back) : Spells (form ++ other) (front ++ back) := by
  induction form generalizing front with
  | nil =>
    rw [show front = [] from first]
    exact second
  | cons choices form ih =>
    obtain ⟨choice, member, rest, rfl, later⟩ := first
    exact ⟨choice, member, rest ++ back, List.append_assoc choice rest back, ih later⟩

theorem takes_of_marks_eq {text rest : List Char} (same : marks text = marks rest) : Takes [] text rest :=
  ⟨[], rfl, same⟩

theorem takes_of_mem {choices : List (List Char)} {text rest choice : List Char}
    (member : choice ∈ choices)
    (same : marks text = choice ++ marks rest) : Takes [choices] text rest :=
  ⟨choice, ⟨choice, member, [], (List.append_nil choice).symm, rfl⟩, same⟩

theorem Takes.trans {form other : Form} {text between rest : List Char} (first : form.Takes text between)
    (second : other.Takes between rest) : Takes (form ++ other) text rest := by
  obtain ⟨front, spells, same⟩ := first
  obtain ⟨back, again, behind⟩ := second
  exact ⟨front ++ back, spells.append again, by rw [same, behind, List.append_assoc]⟩

theorem Takes.spells {form : Form} {text : List Char} (takes : form.Takes text []) :
    form.Spells (marks text) := by
  obtain ⟨word, spells, same⟩ := takes
  have whole : marks text = word := same.trans (List.append_nil word)
  exact whole ▸ spells

theorem Spells.count_mem {form : Form} {word : List Char} (spells : form.Spells word) (c : Char) :
    form.fewest c ≤ word.count c ∧ word.count c ≤ form.most c := by
  induction form generalizing word with
  | nil =>
    rw [show word = [] from spells]
    exact ⟨Nat.le_refl 0, Nat.le_refl 0⟩
  | cons choices form ih =>
    obtain ⟨choice, member, rest, rfl, later⟩ := spells
    have counted : choice.count c ∈ choices.map (List.count c) := List.mem_map.mpr ⟨choice, member, rfl⟩
    have least : (choices.map (List.count c)).min?.getD 0 ≤ choice.count c :=
      List.min?_getD_le_of_mem counted
    have largest : choice.count c ≤ (choices.map (List.count c)).max?.getD 0 :=
      List.le_max?_getD_of_mem counted
    obtain ⟨lower, upper⟩ := ih later
    rw [List.count_append, fewest, most]
    omega

/-- No word is of two forms that are apart. -/
theorem ApartBy.not_both {telling : List Char} {form other : Form} (apart : form.ApartBy telling other)
    {word : List Char} (spells : form.Spells word) : ¬other.Spells word := by
  intro again
  obtain ⟨c, -, differ⟩ := apart
  have first := spells.count_mem c
  have second := again.count_mem c
  omega

end Form

theorem takes_of_takeFraction? {nanos : Nat} {text rest : List Char}
    (found : takeFraction? text = some (nanos, rest)) :
    Form.Takes [Item.fraction.spellings] text rest := by
  unfold takeFraction? at found
  split at found
  · next digits =>
    refine Form.takes_of_mem (List.mem_cons_of_mem _ List.mem_cons_self) ?_
    have passed := marks_takeDigits 9 digits
    unfold takeNanos? at found
    split at found
    · cases found
    · next taken left _ split =>
      cases found
      rw [marks_dropWhile fun _ => isMark_of_isDigit, marks_cons, ← passed, split]
      rfl
  · cases found
    exact Form.takes_of_mem List.mem_cons_self rfl

/-- An item takes digits, blanks and one of its spellings. -/
theorem Item.takes_of_take? {item : Item} {reading after : Reading} {text rest : List Char}
    (found : item.take? reading text = some (after, rest)) :
    Form.Takes [item.spellings] text rest := by
  cases item with
  | month | day | hour | hourOfHalf | minute | second =>
    obtain ⟨⟨value, left⟩, number, same⟩ := Option.map_eq_some_iff.mp found
    cases same
    exact Form.takes_of_mem (List.mem_singleton_self []) (marks_of_takeBounded? number)
  | year =>
    obtain ⟨⟨value, left⟩, number, same⟩ := Option.map_eq_some_iff.mp found
    cases same
    obtain ⟨sign, member, same⟩ := marks_of_takeYear? number
    exact Form.takes_of_mem member same
  | fraction =>
    obtain ⟨⟨value, left⟩, number, same⟩ := Option.map_eq_some_iff.mp found
    cases same
    exact takes_of_takeFraction? number
  | monthName =>
    obtain ⟨⟨position, left⟩, name, same⟩ := Option.map_eq_some_iff.mp found
    cases same
    obtain ⟨spelling, member, same⟩ := marks_of_takeName? (by decide) name
    exact Form.takes_of_mem member same
  | weekdayName =>
    obtain ⟨⟨position, left⟩, name, same⟩ := Option.map_eq_some_iff.mp found
    cases same
    obtain ⟨spelling, member, same⟩ := marks_of_takeName? (by decide) name
    exact Form.takes_of_mem member same
  | halfDay =>
    simp only [Item.take?] at found
    split at found
    · next left _ morning =>
      cases found
      have same := marks_of_dropWord? (List.all_eq_true.mp (by decide)) morning
      exact Form.takes_of_mem List.mem_cons_self same
    · next left _ evening =>
      cases found
      have same := marks_of_dropWord? (List.all_eq_true.mp (by decide)) evening
      exact Form.takes_of_mem (List.mem_cons_of_mem _ List.mem_cons_self) same
    · cases found
  | blank =>
    cases found
    exact Form.takes_of_mem (List.mem_singleton_self []) (marks_trimStart text).symm
  | literal c =>
    cases text with
    | nil => cases found
    | cons head tail =>
      rw [Item.take?, Option.ite_none_right_eq_some] at found
      obtain ⟨rfl, same⟩ := found
      cases same
      exact Form.takes_of_mem (List.mem_singleton_self _) (marks_cons head rest)

/-- What the items of a pattern spell, one behind the other. -/
def Pattern.form (pattern : Pattern) : Form := pattern.map Item.spellings

theorem Pattern.spells_of_readFrom? {pattern : Pattern} {reading result : Reading} {text : List Char}
    (read : Pattern.readFrom? reading pattern text = some result) : pattern.form.Spells (marks text) := by
  apply Form.Takes.spells
  induction pattern generalizing reading text with
  | nil =>
    cases text with
    | nil => exact Form.takes_of_marks_eq rfl
    | cons c text => cases read
  | cons item items ih =>
    obtain ⟨⟨next, rest⟩, taken, later⟩ := Option.bind_eq_some_iff.mp read
    exact (Item.takes_of_take? taken).trans (ih later)

end Calendar
end DueReminders
