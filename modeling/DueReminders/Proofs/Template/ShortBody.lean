import DueReminders.Template.ItemTemplate

/-! What a body looks like without its tags, and when it is cut. Taking tags out never makes a new
one, since what stays before a tag has no opening bracket, so a short body that is taken for the
body itself stays as it is. -/
namespace DueReminders

/-- An opening bracket, and a closing one somewhere behind it. -/
def HasTag (text : List Char) : Prop := ['<', '>'].Sublist text

/-- What is left of a text without its tags. The first opening bracket that is closed at all begins
a tag, which ends at the next closing bracket. -/
inductive Untagged : List Char → List Char → Prop where
  | plain {text : List Char} (clear : ¬HasTag text) : Untagged text text
  | tag {front inside rest left : List Char} (first : '<' ∉ front) (next : '>' ∉ inside)
      (later : Untagged rest left) : Untagged (front ++ '<' :: (inside ++ '>' :: rest)) (front ++ left)

section

variable {text front inside back rest left : List Char}

theorem hasTag_append :
    HasTag (front ++ back) ↔ HasTag front ∨ HasTag back ∨ ('<' ∈ front ∧ '>' ∈ back) := by
  constructor
  · intro tagged
    obtain ⟨before, behind, whole, first, second⟩ := List.sublist_append_iff.mp tagged
    rcases List.cons_eq_append_iff.mp whole with ⟨-, rfl⟩ | ⟨closing, rfl, split⟩
    · exact .inr (.inl second)
    · rcases List.cons_eq_append_iff.mp split with ⟨rfl, rfl⟩ | ⟨none, rfl, finished⟩
      · exact .inr (.inr ⟨List.singleton_sublist.mp first, List.singleton_sublist.mp second⟩)
      · obtain ⟨rfl, -⟩ := List.nil_eq_append_iff.mp finished
        exact .inl first
  · rintro (tagged | tagged | ⟨opened, closed⟩)
    · exact tagged.trans (List.sublist_append_left front back)
    · exact tagged.trans (List.sublist_append_right front back)
    · exact (List.singleton_sublist.mpr opened).append (List.singleton_sublist.mpr closed)

theorem hasTag_append_of_not_opened (plain : '<' ∉ front) : HasTag (front ++ back) ↔ HasTag back := by
  have bare : ¬HasTag front := fun tagged => plain (tagged.subset List.mem_cons_self)
  simp only [hasTag_append, bare, plain, false_and, or_false, false_or]

theorem hasTag_append_of_not_closed (plain : '>' ∉ back) : HasTag (front ++ back) ↔ HasTag front := by
  have bare : ¬HasTag back := fun tagged =>
    plain (tagged.subset (List.mem_cons_of_mem _ List.mem_cons_self))
  simp only [hasTag_append, bare, plain, and_false, or_false]

theorem exists_first_tag (tagged : HasTag text) :
    ∃ front inside rest, '<' ∉ front ∧ '>' ∉ inside ∧ text = front ++ '<' :: (inside ++ '>' :: rest) := by
  have opened : '<' ∈ text := tagged.subset List.mem_cons_self
  obtain ⟨front, behind, rfl, first⟩ := List.eq_append_cons_of_mem opened
  have closed : '>' ∈ behind := by
    have later : HasTag ('<' :: behind) := (hasTag_append_of_not_opened first).mp tagged
    exact List.singleton_sublist.mp (List.cons_sublist_cons.mp later)
  obtain ⟨inside, rest, rfl, next⟩ := List.eq_append_cons_of_mem closed
  exact ⟨front, inside, rest, first, next, rfl⟩

theorem dropTags_inside (next : '>' ∉ inside) :
    dropTags true (inside ++ '>' :: rest) = stripMarkup rest := by
  induction inside with
  | nil => rfl
  | cons c inside ih =>
    obtain ⟨other, later⟩ := not_or.mp (mt List.mem_cons.mpr next)
    have unclosed : (c != '>') = true := bne_iff_ne.mpr (Ne.symm other)
    rw [List.cons_append, dropTags, unclosed, ih later]

theorem stripMarkup_append (first : '<' ∉ front) :
    stripMarkup (front ++ text) = front ++ stripMarkup text := by
  induction front with
  | nil => rfl
  | cons c front ih =>
    obtain ⟨other, later⟩ := not_or.mp (mt List.mem_cons.mpr first)
    rw [List.cons_append, stripMarkup, dropTags, if_neg (Ne.symm other)]
    exact congrArg (c :: ·) (ih later)

theorem stripMarkup_tag (next : '>' ∉ inside) :
    stripMarkup ('<' :: (inside ++ '>' :: rest)) = stripMarkup rest := by
  have closed : (inside ++ '>' :: rest).contains '>' = true :=
    List.contains_iff_mem.mpr (List.mem_append_right _ List.mem_cons_self)
  rw [stripMarkup, dropTags, if_pos rfl, if_pos closed, dropTags_inside next]

theorem stripMarkup_of_not_hasTag (clear : ¬HasTag text) : stripMarkup text = text := by
  induction text with
  | nil => rfl
  | cons c text ih =>
    by_cases opened : c = '<'
    · subst opened
      have unclosed : ¬text.contains '>' = true := by
        intro closed
        have later : '>' ∈ text := List.contains_iff_mem.mp closed
        exact clear (List.cons_sublist_cons.mpr (List.singleton_sublist.mpr later))
      rw [stripMarkup, dropTags, if_pos rfl, if_neg unclosed]
    · have later : ¬HasTag text := fun tagged => clear (tagged.trans (List.sublist_cons_self c text))
      rw [stripMarkup, dropTags, if_neg opened]
      exact congrArg (c :: ·) (ih later)

/-- All tags are taken out, and nothing else. -/
theorem untagged_iff : Untagged text left ↔ left = stripMarkup text := by
  constructor
  · intro untagged
    induction untagged with
    | plain clear => exact (stripMarkup_of_not_hasTag clear).symm
    | tag first next later ih => rw [stripMarkup_append first, stripMarkup_tag next, ih]
  · rintro rfl
    -- each tag that is taken out leaves a shorter text
    induction size : text.length using Nat.strongRecOn generalizing text with
    | ind length ih =>
      by_cases tagged : HasTag text
      · obtain ⟨front, inside, rest, first, next, rfl⟩ := exists_first_tag tagged
        have shorter : rest.length < length := by
          simp only [List.length_append, List.length_cons] at size
          omega
        rw [stripMarkup_append first, stripMarkup_tag next]
        exact .tag first next (ih rest.length shorter rfl)
      · rw [stripMarkup_of_not_hasTag tagged]
        exact .plain tagged

example : stripMarkup "2 < 3 <a <b>if> so".toList = "2 if> so".toList := by decide

theorem Untagged.not_hasTag (untagged : Untagged text left) : ¬HasTag left := by
  induction untagged with
  | plain clear => exact clear
  | tag first next later ih => exact mt (hasTag_append_of_not_opened first).mp ih

theorem not_hasTag_stripMarkup (text : List Char) : ¬HasTag (stripMarkup text) :=
  (untagged_iff.mpr rfl).not_hasTag

theorem stripMarkup_eq_self_iff : stripMarkup text = text ↔ ¬HasTag text :=
  ⟨fun same => same ▸ not_hasTag_stripMarkup text, stripMarkup_of_not_hasTag⟩

theorem shorten_of_le (fits : text.length ≤ shortBodyLimit) : shorten text = text :=
  if_neg (Nat.not_lt.mpr fits)

theorem shorten_of_lt (long : shortBodyLimit < text.length) :
    shorten text = text.take shortBodyLimit ++ ['.', '.', '.'] :=
  if_pos long

theorem length_shorten_le (text : List Char) : (shorten text).length ≤ shortBodyLimit + 3 := by
  by_cases long : shortBodyLimit < text.length
  · rw [shorten_of_lt long, List.length_append]
    exact Nat.add_le_add_right (List.length_take_le _ _) 3
  · rw [shorten_of_le (Nat.not_lt.mp long)]
    omega

theorem shorten_shorten (text : List Char) : shorten (shorten text) = shorten text := by
  by_cases long : shortBodyLimit < text.length
  · have kept : (text.take shortBodyLimit).length = shortBodyLimit :=
      List.length_take_of_le (Nat.le_of_lt long)
    have again : shortBodyLimit < (text.take shortBodyLimit ++ ['.', '.', '.']).length := by
      rw [List.length_append, kept]
      exact Nat.lt_add_of_pos_right (by decide)
    rw [shorten_of_lt long, shorten_of_lt again, List.take_left' kept]
  · have whole := shorten_of_le (Nat.not_lt.mp long)
    rw [whole, whole]

theorem not_hasTag_shorten (clear : ¬HasTag text) : ¬HasTag (shorten text) := by
  by_cases long : shortBodyLimit < text.length
  · rw [shorten_of_lt long, hasTag_append_of_not_closed (by decide)]
    exact fun tagged => clear (tagged.trans (List.take_sublist shortBodyLimit text))
  · rwa [shorten_of_le (Nat.not_lt.mp long)]

end

namespace Item

theorem raw_set_text (item : Item) (name content : String) :
    (item.set name (.text content)).raw name = content := by
  rw [raw, get?, set, Record.get?_insert, if_pos rfl]
  rfl

theorem not_hasTag_shortBody (item : Item) : ¬HasTag item.shortBody :=
  not_hasTag_shorten (not_hasTag_stripMarkup _)

/-- The short body of an item is its body without the tags, of which none is left and none newly
made, cut after three hundred characters with dots behind the cut. As the body itself it is not
changed any more. -/
theorem shortBody_stable (item : Item) :
    let body := (item.raw "Body").toList
    let plain := stripMarkup body
    (∀ left, Untagged body left ↔ left = plain) ∧ ¬HasTag plain ∧ stripMarkup plain = plain ∧
      (plain = body ↔ ¬HasTag body) ∧
      item.shortBody = (if plain.length ≤ 300 then plain else plain.take 300 ++ "...".toList) ∧
      item.shortBody.length ≤ 303 ∧
      (item.set "Body" (.text (String.ofList item.shortBody))).shortBody = item.shortBody := by
  intro body plain
  have clear : ¬HasTag plain := not_hasTag_stripMarkup body
  refine ⟨fun left => untagged_iff, clear, stripMarkup_of_not_hasTag clear, stripMarkup_eq_self_iff, ?_,
    length_shorten_le plain, ?_⟩
  · show shorten plain = _
    split
    · next fits => exact shorten_of_le fits
    · next long => exact shorten_of_lt (Nat.not_le.mp long)
  · have written : ((item.set "Body" (.text (String.ofList item.shortBody))).raw "Body").toList =
      item.shortBody := by
      rw [raw_set_text, String.toList_ofList]
    calc
      (item.set "Body" (.text (String.ofList item.shortBody))).shortBody
          = shorten (stripMarkup item.shortBody) := by rw [shortBody, written]
      _ = shorten item.shortBody := by rw [stripMarkup_of_not_hasTag item.not_hasTag_shortBody]
      _ = item.shortBody := shorten_shorten plain

end Item
end DueReminders
