import DueReminders.Row
import DueReminders.Proofs.Calendar.Readers
import DueReminders.Proofs.Digest.Partition

/-! Written numbers and truth values are never taken for dates: their marks are those of a decimal
with an optional exponent, or of a word, and no date has such marks. An item is therefore neither
due nor left alone because of a number, and a number is shown as it is. -/
namespace DueReminders

namespace Calendar

open Number Text

/-- The forms of everything that is read as a date or time. -/
def dateForms : List Form :=
  [OffsetDateTime.wallForm ++ OffsetDateTime.universal,
    OffsetDateTime.wallForm ++ OffsetDateTime.distance] ++
    (Pattern.dateTimes ++ Pattern.dates).map Pattern.form

def signForm : Form := [[[], ['-']]]

def pointForm : Form := [[[], ['.']]]

def exponentForm : Form := [[['e', '+'], ['e', '-']]]

/-- Decimals without an exponent and with one, and the truth values. -/
def scalarForms : List Form :=
  [signForm ++ pointForm, signForm ++ (pointForm ++ exponentForm), [["true".toList, "false".toList]]]

section

variable {text : List Char} {form : Form}

theorem marks_reverse (text : List Char) : marks text.reverse = (marks text).reverse := by
  rw [marks, marks, List.filter_reverse, List.map_reverse]

theorem marks_trim (text : List Char) : marks (trim text) = marks text := by
  rw [trim, trimEnd, marks_reverse, marks_dropWhile fun _ => isMark_of_isBlank, marks_reverse,
    List.reverse_reverse, marks_trimStart]

theorem spells_of_reader {reader : Reader} {time : DateTime} (member : reader ∈ Reader.all)
    (read : reader text = some time) : ∃ form ∈ dateForms, form.Spells (marks text) := by
  have patterned {pattern : Pattern} (listed : pattern ∈ Pattern.dateTimes ++ Pattern.dates)
      (follows : reader.Follows pattern) : ∃ form ∈ dateForms, form.Spells (marks text) := by
    obtain ⟨reading, found⟩ := follows text time read
    exact ⟨_, List.mem_append_right _ (List.mem_map.mpr ⟨pattern, listed, rfl⟩),
      Pattern.spells_of_readFrom? found⟩
  rcases List.mem_cons.mp member with rfl | other
  · obtain ⟨stamp, stamped, -⟩ := Option.map_eq_some_iff.mp read
    rcases OffsetDateTime.spells_of_read? stamped with spells | spells
    · exact ⟨_, List.mem_cons_self, spells⟩
    · exact ⟨_, List.mem_cons_of_mem _ List.mem_cons_self, spells⟩
  · rcases List.mem_append.mp other with timed | dated
    · obtain ⟨pattern, listed, rfl⟩ := List.mem_map.mp timed
      exact patterned (List.mem_append_left _ listed) (Reader.follows_dateTime pattern)
    · obtain ⟨pattern, listed, rfl⟩ := List.mem_map.mp dated
      exact patterned (List.mem_append_right _ listed) (Reader.follows_date pattern)

/-- Dates have a comma or a slash, or two dashes and no letter of an exponent. -/
theorem scalars_apart :
    ∀ form ∈ scalarForms, ∀ other ∈ dateForms, form.ApartBy [',', '/', '-', 'e'] other := by
  decide

theorem read?_eq_none_of_spells (member : form ∈ scalarForms) (spells : form.Spells (marks text)) :
    read? (String.ofList text) = none := by
  rw [read?_eq_findSome?, List.findSome?_eq_none_iff]
  intro reader listed
  cases read : reader (trim (String.ofList text).toList) with
  | none => rfl
  | some time =>
    obtain ⟨other, dated, again⟩ := spells_of_reader listed read
    rw [marks_trim, String.toList_ofList] at again
    exact absurd again ((scalars_apart form member other dated).not_both spells)

theorem Form.spells_of_mem {choices : List (List Char)} {word : List Char} (member : word ∈ choices) :
    Form.Spells [choices] word :=
  ⟨word, member, [], (List.append_nil word).symm, rfl⟩

theorem marks_digits (number : Nat) : marks (digits number) = [] :=
  marks_of_digits fun _ => isDigit_of_mem_digits

theorem marks_signed (value : Int) : marks (signed value) = if value < 0 then ['-'] else [] := by
  unfold signed
  split
  · rw [marks_cons, marks_digits]
    rfl
  · exact marks_digits _

theorem marks_positional (run : ∀ c ∈ text, c.isDigit = true) (before : Int) :
    marks (Json.positional text before) = ['.'] := by
  have zeros (count : Nat) : marks (List.replicate count '0') = [] :=
    marks_of_digits fun c member => (List.mem_replicate.mp member).2 ▸ rfl
  have point : marks ['.'] = ['.'] := by decide
  unfold Json.positional
  split
  · rw [marks_cons_of_isDigit rfl, marks_cons, marks_append, zeros, marks_of_digits run, point]
    rfl
  · split
    · rw [marks_append, marks_append, marks_of_digits run, zeros]
      decide
    · rw [marks_append, marks_cons, marks_of_digits fun c member => run c (List.mem_of_mem_take member),
        marks_of_digits fun c member => run c (List.mem_of_mem_drop member), point]
      rfl

theorem spells_scientific (run : ∀ c ∈ text, c.isDigit = true) (exponent : Int) :
    (pointForm ++ exponentForm).Spells (marks (Json.scientific text exponent)) := by
  have fraction : pointForm.Spells (marks (if text.length ≤ 1 then [] else '.' :: text.drop 1)) := by
    apply Form.spells_of_mem
    split
    · decide
    · rw [marks_cons, marks_of_digits fun c member => run c (List.mem_of_mem_drop member)]
      decide
  have power : exponentForm.Spells
      (marks ('e' :: (if exponent < 0 then '-' else '+') :: digits exponent.natAbs)) := by
    apply Form.spells_of_mem
    rw [marks_cons, marks_cons (if exponent < 0 then '-' else '+'), marks_digits]
    split <;> decide
  have front : marks (text.take 1) = [] := marks_of_digits fun c member =>
    run c (List.mem_of_mem_take member)
  unfold Json.scientific
  rw [List.append_assoc, marks_append, front, List.nil_append, marks_append]
  exact fraction.append power

end

end Calendar

namespace Json

open Calendar

theorem RealLayout.spells_write (layout : RealLayout) (number : DueReminders.Number.Decimal) :
    pointForm.Spells (marks (layout.write number)) ∨
      (pointForm ++ exponentForm).Spells (marks (layout.write number)) := by
  have run : ∀ c ∈ DueReminders.Number.digits number.coefficient, c.isDigit = true :=
    fun _ => DueReminders.Number.isDigit_of_mem_digits
  unfold RealLayout.write
  dsimp only
  split
  · exact .inl (Form.spells_of_mem (by rw [marks_positional run]; decide))
  · exact .inr (spells_scientific run _)

theorem Number.spells_text (number : Number) : ∃ form ∈ scalarForms, form.Spells (marks number.text) := by
  cases number with
  | integer value =>
    refine ⟨signForm ++ pointForm, by decide, ?_⟩
    have sign : signForm.Spells (marks (DueReminders.Number.signed value)) := by
      apply Form.spells_of_mem
      rw [marks_signed]
      split <;> decide
    have whole : pointForm.Spells [] := Form.spells_of_mem List.mem_cons_self
    rw [Number.text, ← List.append_nil (marks _)]
    exact sign.append whole
  | real negative magnitude =>
    have sign : signForm.Spells (marks (if negative then ['-'] else [])) := by
      apply Form.spells_of_mem
      cases negative <;> decide
    rw [Number.text, marks_append]
    rcases layout.spells_write (.ofBinary64 magnitude) with decimal | powered
    · exact ⟨_, List.mem_cons_self, sign.append decimal⟩
    · exact ⟨_, List.mem_cons_of_mem _ List.mem_cons_self, sign.append powered⟩

/-- The words a number or a truth value is written with. -/
inductive Writes : Json → String → Prop where
  | number (value : Json.Number) : Writes (.number value) (String.ofList value.text)
  | yes : Writes (.boolean true) "true"
  | no : Writes (.boolean false) "false"

theorem Writes.read?_eq_none {value : Json} {content : String} (writes : value.Writes content) :
    Calendar.read? content = none := by
  have word (text : List Char) (listed : marks text ∈ ["true".toList, "false".toList]) :
      Calendar.read? (String.ofList text) = none := by
    have spells : Form.Spells [["true".toList, "false".toList]] (marks text) := Form.spells_of_mem listed
    exact read?_eq_none_of_spells (by decide) spells
  cases writes with
  | number value =>
    obtain ⟨form, member, spells⟩ := value.spells_text
    exact read?_eq_none_of_spells member spells
  | yes => exact word "true".toList (by decide)
  | no => exact word "false".toList (by decide)

theorem Writes.ofJson?_eq {value : Json} {content : String} (writes : value.Writes content) (zone : Zone) :
    Field.ofJson? zone value = some (.text content) := by
  cases writes <;> rfl

end Json

namespace Item

variable {item : Item} {name content : String}

theorem dateTime?_of_unread (held : item.get? name = some (.text content))
    (unread : Calendar.read? content = none) :
    item.dateTime? name = none := by
  rw [dateTime?, held]
  exact unread

theorem get?_shown_of_unread (held : item.get? name = some (.text content))
    (unread : Calendar.read? content = none) :
    item.shown.get? name = some content := by
  rw [get?_shown, held, Option.map_some, Field.shown, unread]

end Item

namespace Criteria

variable {criteria : Criteria} {item : Item}

theorem bucket?_eq_none_of_undue (undue : item.dateTime? criteria.dueField = none) (today : Date) :
    criteria.bucket? today item = none := by
  rw [bucket?, undue, Option.bind_none, ite_self]

theorem bucket?_ne_wayOverdue (unmodified : item.dateTime? criteria.modifiedField = none) (today : Date) :
    criteria.bucket? today item ≠ some .wayOverdue := by
  intro late
  rw [bucket?, Option.ite_none_left_eq_some] at late
  obtain ⟨due, -, judged⟩ := Option.bind_eq_some_iff.mp late.2
  rw [bucketOf, unmodified, Bucket.ofDates] at judged
  have fresh (days : Int) : Bucket.isStale due none days = false := rfl
  simp only [fresh] at judged
  split at judged
  · cases judged
  · split at judged
    · cases judged
    · split at judged
      · cases judged
      · split at judged <;> cases judged

end Criteria

theorem Digest.not_mem_itemsOf_classify {criteria : Criteria} {today : Date} {item : Item}
    {bucket : Bucket} (other : criteria.bucket? today item ≠ some bucket)
    (resolve : Item → Option String) (items : List Item)
    (email : String) : item ∉ (classify criteria today resolve items).itemsOf email bucket := by
  rw [itemsOf_classify, List.mem_filter, decide_eq_true_eq]
  exact fun placed => other placed.2.2

/-- Numbers and truth values stay texts that no date can be read from. An item with one in its due
field is in no bucket, one in the field of its last change never makes it way overdue, and it is
shown as it is written. -/
theorem Field.scalar_undated {value : Json} {content : String} (writes : value.Writes content)
    (zone : Zone) :
    Field.ofJson? zone value = some (.text content) ∧ Calendar.read? content = none ∧
      (∀ (item : Item) (criteria : Criteria) (today : Date),
        item.get? criteria.dueField = Field.ofJson? zone value →
          criteria.bucket? today item = none ∧ ∀ resolve items email bucket,
            item ∉ (Digest.classify criteria today resolve items).itemsOf email bucket) ∧
      (∀ (item : Item) (criteria : Criteria) (today : Date),
        item.get? criteria.modifiedField = Field.ofJson? zone value →
          criteria.bucket? today item ≠ some .wayOverdue ∧ ∀ resolve items email,
            item ∉ (Digest.classify criteria today resolve items).itemsOf email .wayOverdue) ∧
      ∀ (item : Item) (name : String),
        item.get? name = Field.ofJson? zone value → item.shown.get? name = some content := by
  have unread := writes.read?_eq_none
  rw [writes.ofJson?_eq zone]
  refine ⟨rfl, unread, ?_, ?_, fun item name held => Item.get?_shown_of_unread held unread⟩
  · intro item criteria today held
    have undue : criteria.bucket? today item = none :=
      Criteria.bucket?_eq_none_of_undue (Item.dateTime?_of_unread held unread) today
    refine ⟨undue, fun resolve items email bucket =>
      Digest.not_mem_itemsOf_classify ?_ resolve items email⟩
    rw [undue]
    exact (Option.some_ne_none bucket).symm
  · intro item criteria today held
    have fresh := Criteria.bucket?_ne_wayOverdue (Item.dateTime?_of_unread held unread) today
    exact ⟨fresh, fun resolve items email => Digest.not_mem_itemsOf_classify fresh resolve items email⟩

/-- The two minus signs of a small number do not make it a date. -/
theorem Field.scalar_undated_exponent :
    let value : Json := .number (.real true ⟨5666839779443574, -75, by decide, by decide⟩)
    let zone := Zone.universal "UTC"
    let item := (Item.bare 7).set "DueDate" (.text "-1.5e-7")
    let criteria : Criteria := ⟨"Status", "Completed", "DueDate", "Modified", 5⟩
    value.Writes "-1.5e-7" ∧ item.get? criteria.dueField = Field.ofJson? zone value ∧
      ∀ today, criteria.bucket? today item = none := by
  intro value zone item criteria
  have digits : (Json.Number.real true ⟨5666839779443574, -75, by decide, by decide⟩).text =
      "-1.5e-7".toList := by
    decide +kernel
  have text : String.ofList "-1.5e-7".toList = "-1.5e-7" := String.ofList_toList
  have writes : value.Writes "-1.5e-7" := by
    rw [← text, ← digits]
    exact .number _
  have held : item.get? criteria.dueField = Field.ofJson? zone value := by
    rw [writes.ofJson?_eq zone]
    decide
  exact ⟨writes, held, fun today => ((Field.scalar_undated writes zone).2.2.1 item criteria today held).1⟩

end DueReminders
