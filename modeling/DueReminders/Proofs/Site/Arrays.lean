import DueReminders.Proofs.Calendar.Undated
import Mathlib.Logic.Relation

/-! Columns that hold a list. Inner lists may as well be written out in their places: what is shown
are the words of the values at the ends, joined in their order, and nothing is shown only if none of
them has words. -/
namespace DueReminders

namespace Json

/-- An inner list is replaced by its elements. -/
inductive Unnests : List Json → List Json → Prop where
  | inner (front elements back : List Json) :
      Unnests (front ++ .array elements :: back) (front ++ elements ++ back)

mutual

/-- The values of a list and of the lists in it, in their order; a value that is no list is its only
one. -/
def leaves : Json → List Json
  | .array elements => allLeaves elements
  | value => [value]

def allLeaves : List Json → List Json
  | [] => []
  | value :: rest => value.leaves ++ allLeaves rest

end

/-- The words for a record: the text under the name, or the figures of the id where there is no
text. -/
inductive Members.Shows (members : Members) (name : String) (id : Int) : String → Prop where
  | words {content : String} (held : members.lookup name = some (.text content)) :
      Shows members name id content
  | figures (wordless : ∀ content, members.lookup name ≠ some (.text content)) :
      Shows members name id (String.ofList (Number.signed id))

/-- The object refers to a record, by `LookupId` or, where that holds no id, by `Id`. -/
inductive Members.Refers (members : Members) : Int → String → Prop where
  | first {id : Int} {shown : String} (held : (members.lookup "LookupId").bind int64? = some id)
      (shows : members.Shows "LookupValue" id shown) : Refers members id shown
  | second {id : Int} {shown : String} (absent : (members.lookup "LookupId").bind int64? = none)
      (held : (members.lookup "Id").bind int64? = some id) (shows : members.Shows "Title" id shown) :
      Refers members id shown

/-- The words a value that is no list adds to the list it is in. A text that carries an offset is a
time and adds none. -/
inductive Adds : Json → String → Prop where
  | text {content : String} (plain : Calendar.hasOffset content = false) : Adds (.text content) content
  | scalar {value : Json} {content : String} (writes : value.Writes content) : Adds value content
  | reference {members : Members} {id : Int} {shown : String} (refers : members.Refers id shown) :
      Adds (.object members) shown

/-- The words of values in their order. -/
inductive AddUp : List Json → List String → Prop where
  | nil : AddUp [] []
  | adds {value : Json} {content : String} {values : List Json} {contents : List String}
      (here : value.Adds content) (later : AddUp values contents) :
      AddUp (value :: values) (content :: contents)
  | silent {value : Json} {values : List Json} {contents : List String}
      (here : ∀ content, ¬value.Adds content)
      (later : AddUp values contents) : AddUp (value :: values) contents

mutual

theorem unnests_leaves (value : Json) (front back : List Json) :
    Relation.ReflTransGen Unnests (front ++ value :: back) (front ++ value.leaves ++ back) := by
  cases value with
  | array elements => exact .head (.inner front elements back) (unnests_allLeaves elements front back)
  | null | boolean | number | text | object =>
    simp only [leaves, List.append_assoc, List.singleton_append]
    exact .refl

theorem unnests_allLeaves (values front back : List Json) :
    Relation.ReflTransGen Unnests (front ++ values ++ back) (front ++ allLeaves values ++ back) := by
  cases values with
  | nil => exact .refl
  | cons value rest =>
    have first := unnests_leaves value front (rest ++ back)
    have later := unnests_allLeaves rest (front ++ value.leaves) back
    simp only [List.append_assoc, List.cons_append, allLeaves] at first later ⊢
    exact first.trans later

end

mutual

theorem leaves_bare (value : Json) : ∀ leaf ∈ value.leaves, ∀ elements, leaf ≠ .array elements := by
  cases value with
  | array elements => exact allLeaves_bare elements
  | null | boolean | number | text | object => simp [leaves]

theorem allLeaves_bare (values : List Json) :
    ∀ leaf ∈ allLeaves values, ∀ elements, leaf ≠ .array elements := by
  cases values with
  | nil => simp [allLeaves]
  | cons value rest =>
    intro leaf member
    rw [allLeaves, List.mem_append] at member
    rcases member with here | later
    · exact leaves_bare value leaf here
    · exact allLeaves_bare rest leaf later

end

section

variable {members : Members} {id : Int} {shown content : String} {value : Json}

theorem Members.shows_iff {name : String} :
    members.Shows name id shown ↔
      shown = ((members.lookup name).bind text?).getD (String.ofList (Number.signed id)) := by
  constructor
  · intro shows
    cases shows with
    | words held => rw [held]; rfl
    | figures wordless =>
      have none : (members.lookup name).bind text? = none := by
        rw [Option.bind_eq_none_iff]
        intro value held
        cases value with
        | text content => exact absurd held (wordless content)
        | null | boolean | number | array | object => rfl
      rw [none]
      rfl
  · rintro rfl
    cases held : (members.lookup name).bind text? with
    | none =>
      refine .figures fun content same => ?_
      rw [same] at held
      cases held
    | some content =>
      obtain ⟨value, found, read⟩ := Option.bind_eq_some_iff.mp held
      cases value with
      | text content =>
        cases read
        exact .words found
      | null | boolean | number | array | object => cases read

theorem reference?_eq_some_iff :
    Field.reference? members = some (.reference id shown) ↔ members.Refers id shown := by
  constructor
  · intro made
    unfold Field.reference? at made
    split at made
    · next number held =>
      cases made
      exact .first held (Members.shows_iff.mpr rfl)
    · next absent =>
      split at made
      · next number held =>
        cases made
        exact .second absent held (Members.shows_iff.mpr rfl)
      · cases made
  · intro refers
    cases refers with
    | first held shows =>
      rw [Members.shows_iff.mp shows]
      simp only [Field.reference?, held]
    | second absent held shows =>
      rw [Members.shows_iff.mp shows]
      simp only [Field.reference?, absent, held]

theorem words?_reference? :
    Field.words? (Field.reference? members) = some content ↔ ∃ id, members.Refers id content := by
  simp only [← reference?_eq_some_iff]
  unfold Field.reference?
  split
  · simp [Field.words?]
  · split
    · simp [Field.words?]
    · simp [Field.words?]

theorem words?_ofText? {zone : Zone} {text : String} :
    Field.words? (Field.ofText? zone text) = some content ↔
      Calendar.hasOffset text = false ∧ content = text := by
  unfold Field.ofText? Calendar.hasOffset
  cases Calendar.readOffset? text with
  | none => simp [Field.words?, eq_comm]
  | some stamp => cases moved : stamp.inZone? zone <;> simp [Field.words?, moved]

theorem adds_iff (zone : Zone) (bare : ∀ elements, value ≠ .array elements) :
    value.Adds content ↔ Field.words? (Field.ofJson? zone value) = some content := by
  constructor
  · intro adds
    cases adds with
    | text plain => exact words?_ofText?.mpr ⟨plain, rfl⟩
    | scalar writes => rw [writes.ofJson?_eq]; rfl
    | reference refers => exact words?_reference?.mpr ⟨_, refers⟩
  · intro joined
    cases value with
    | null => cases joined
    | boolean truth =>
      cases truth with
      | false => cases joined; exact .scalar .no
      | true => cases joined; exact .scalar .yes
    | number value => cases joined; exact .scalar (.number value)
    | text text =>
      obtain ⟨plain, rfl⟩ := words?_ofText?.mp joined
      exact .text plain
    | object members =>
      obtain ⟨id, refers⟩ := words?_reference?.mp joined
      exact .reference refers
    | array elements => exact absurd rfl (bare elements)

theorem addUp_iff (zone : Zone) {values : List Json} {contents : List String}
    (bare : ∀ value ∈ values, ∀ elements, value ≠ .array elements) :
    AddUp values contents ↔ contents = Field.allWords zone values := by
  induction values generalizing contents with
  | nil =>
    constructor
    · intro sums
      cases sums
      rfl
    · rintro rfl
      exact .nil
  | cons value values ih =>
    obtain ⟨here, later⟩ := List.forall_mem_cons.mp bare
    have adds (content : String) :
        value.Adds content ↔ Field.words? (Field.ofJson? zone value) = some content :=
      adds_iff zone here
    rw [Field.allWords]
    constructor
    · intro sums
      cases sums with
      | adds first others => rw [(adds _).mp first, (ih later).mp others]; rfl
      | silent wordless others =>
        have nothing : Field.words? (Field.ofJson? zone value) = none :=
          Option.eq_none_iff_forall_ne_some.mpr fun content same =>
            wordless content ((adds content).mpr same)
        rw [nothing, (ih later).mp others]
        rfl
    · rintro rfl
      cases words : Field.words? (Field.ofJson? zone value) with
      | none =>
        refine .silent (fun content first => ?_) ((ih later).mpr rfl)
        cases words.symm.trans ((adds content).mp first)
      | some content => exact .adds ((adds content).mpr words) ((ih later).mpr rfl)

theorem AddUp.eq_nil_iff {values : List Json} {contents : List String} (sums : AddUp values contents) :
    contents = [] ↔ ∀ value ∈ values, ∀ content, ¬value.Adds content := by
  induction sums with
  | nil => simp
  | adds here later ih =>
    refine iff_of_false (List.cons_ne_nil _ _) fun silent => ?_
    exact silent _ List.mem_cons_self _ here
  | silent here later ih =>
    rw [ih, List.forall_mem_cons]
    exact (and_iff_right here).symm

end

end Json

namespace Field

variable {zone : Zone} {front back elements others : List Json}

/-- The field of words that are joined. -/
def ofWords? : List String → Option Field
  | [] => none
  | words => some (.text ("; ".intercalate words))

theorem ofWords?_of_ne_nil {words : List String} (present : words ≠ []) :
    ofWords? words = some (.text ("; ".intercalate words)) := by
  cases words with
  | nil => exact absurd rfl present
  | cons head rest => rfl

theorem ofWords?_eq_none_iff {words : List String} : ofWords? words = none ↔ words = [] := by
  cases words <;> simp [ofWords?]

theorem ofJson?_array (zone : Zone) (elements : List Json) :
    ofJson? zone (.array elements) = ofWords? (allWords zone elements) := by
  rw [ofJson?]
  cases allWords zone elements <;> rfl

theorem allWords_append (front back : List Json) :
    allWords zone (front ++ back) = allWords zone front ++ allWords zone back := by
  induction front with
  | nil => rfl
  | cons value front ih => rw [List.cons_append, allWords, allWords, ih, List.append_assoc]

/-- Words that are joined already may stand as one among others. -/
theorem intercalate_merge (separator : String) (front back : List String) {words : List String}
    (present : words ≠ []) :
    separator.intercalate (front ++ separator.intercalate words :: back) =
      separator.intercalate (front ++ (words ++ back)) := by
  have behind :
      separator.intercalate (separator.intercalate words :: back) =
        separator.intercalate (words ++ back) := by
    cases back with
    | nil => rw [String.intercalate_singleton, List.append_nil]
    | cons next back =>
      rw [String.intercalate_cons_cons,
        String.intercalate_append_of_ne_nil present (List.cons_ne_nil next back)]
  cases front with
  | nil => exact behind
  | cons head front =>
    rw [String.intercalate_append_of_ne_nil (List.cons_ne_nil head front) (List.cons_ne_nil _ back),
      String.intercalate_append_of_ne_nil (List.cons_ne_nil head front)
        (List.append_ne_nil_of_left_ne_nil present back),
      behind]

theorem ofWords?_merge (front words back : List String) :
    ofWords? (front ++ (words? (ofWords? words)).toList ++ back) = ofWords? (front ++ words ++ back) := by
  cases words with
  | nil => rfl
  | cons head rest =>
    have present : head :: rest ≠ [] := List.cons_ne_nil head rest
    have left : front ++ ["; ".intercalate (head :: rest)] ++ back ≠ [] := by simp
    have right : front ++ (head :: rest) ++ back ≠ [] := by simp
    rw [ofWords?_of_ne_nil present]
    show ofWords? (front ++ ["; ".intercalate (head :: rest)] ++ back) = _
    rw [ofWords?_of_ne_nil left, ofWords?_of_ne_nil right, List.append_assoc, List.append_assoc,
      List.singleton_append, intercalate_merge "; " front back present]

/-- Writing out an inner list makes no difference. -/
theorem ofJson?_of_unnests (unnests : Json.Unnests elements others) :
    ofJson? zone (.array others) = ofJson? zone (.array elements) := by
  cases unnests with
  | inner front elements back =>
    rw [ofJson?_array, ofJson?_array, allWords_append, allWords_append, allWords_append, allWords,
      ofJson?_array, ← List.append_assoc, ofWords?_merge]

theorem ofJson?_of_unnested (unnested : Relation.ReflTransGen Json.Unnests elements others) :
    ofJson? zone (.array others) = ofJson? zone (.array elements) := by
  induction unnested with
  | refl => rfl
  | tail _ last ih => rw [ofJson?_of_unnests last, ih]

/-- Inner lists may be written out in any order without a difference to the field, and when all are
written out the values at the ends are left. The field is missing exactly when none of these has
words, and otherwise it is the text of their words, each as it stands and in their order, with a
semicolon and a blank in between. -/
theorem ofArray_flattens (zone : Zone) (elements : List Json) :
    let leaves := Json.allLeaves elements
    Relation.ReflTransGen Json.Unnests elements leaves ∧ (∀ leaf ∈ leaves, ∀ inner, leaf ≠ .array inner) ∧
    (∀ others, Relation.ReflTransGen Json.Unnests elements others →
      ofJson? zone (.array others) = ofJson? zone (.array elements)) ∧
    ofJson? zone (.array leaves) = ofJson? zone (.array elements) ∧
    (ofJson? zone (.array elements) = none ↔ ∀ leaf ∈ leaves, ∀ content, ¬leaf.Adds content) ∧
    (∃ contents, Json.AddUp leaves contents) ∧
    ∀ contents, Json.AddUp leaves contents → contents ≠ [] →
      ofJson? zone (.array elements) = some (.text ("; ".intercalate contents)) := by
  intro leaves
  have bare : ∀ leaf ∈ leaves, ∀ inner, leaf ≠ .array inner := Json.allLeaves_bare elements
  have reached : Relation.ReflTransGen Json.Unnests elements leaves := by
    simpa using Json.unnests_allLeaves elements [] []
  have same : ofJson? zone (.array leaves) = ofJson? zone (.array elements) := ofJson?_of_unnested reached
  have sums : Json.AddUp leaves (allWords zone leaves) := (Json.addUp_iff zone bare).mpr rfl
  refine ⟨reached, bare, fun others => ofJson?_of_unnested, same, ?_, ⟨_, sums⟩, ?_⟩
  · rw [← same, ofJson?_array, ofWords?_eq_none_iff]
    exact sums.eq_nil_iff
  · intro contents again present
    rw [← same, ofJson?_array, ← (Json.addUp_iff zone bare).mp again]
    exact ofWords?_of_ne_nil present

/-- An empty text has words, though no character; an empty list and a null have none. -/
example :
    ofJson? (.universal "UTC") (.array [.null, .array [.array [], .text ""], .boolean true]) =
      some (.text "; true") := by
  decide

end Field
end DueReminders
