import DueReminders.Proofs.Text.Passing

/-! The first occurrence of a text inside another, among the characters and among the bytes. In
UTF-8 no character begins inside of another one, so the bytes of a text stand only where the text
does, and the first occurrence is the same one for both. -/
namespace DueReminders.Text

/-- The needle stands behind `before`, and nowhere earlier. -/
structure FirstAt {α : Type} (needle text before after : List α) : Prop where
  split : text = before ++ needle ++ after
  shortest : ∀ front back, text = front ++ needle ++ back → before.length ≤ front.length

namespace FirstAt

variable {α : Type} {needle text before after front back : List α}

theorem unique (first : FirstAt needle text before after) (again : FirstAt needle text front back) :
    front = before ∧ back = after := by
  have size : front.length = before.length :=
    Nat.le_antisymm (again.shortest before after first.split) (first.shortest front back again.split)
  have same : front ++ (needle ++ back) = before ++ (needle ++ after) := by
    rw [← List.append_assoc, ← List.append_assoc, ← again.split, ← first.split]
  obtain ⟨fronts, backs⟩ := List.append_inj same size
  exact ⟨fronts, List.append_cancel_left backs⟩

theorem prefix_of_split (first : FirstAt needle text before after)
    (other : text = front ++ needle ++ back) :
    before <+: front := by
  have here : before <+: text := ⟨needle ++ after, by rw [← List.append_assoc, ← first.split]⟩
  have there : front <+: text := ⟨needle ++ back, by rw [← List.append_assoc, ← other]⟩
  exact List.prefix_of_prefix_length_le here there (first.shortest front back other)

end FirstAt

theorem splitFirst?_eq_some_iff {needle text before after : List Char} :
    splitFirst? needle text = some (before, after) ↔ FirstAt needle text before after := by
  constructor
  · intro found
    exact ⟨eq_append_of_splitFirst? found, fun front back => splitFirst?_shortest found⟩
  · intro first
    cases found : splitFirst? needle text with
    | none => exact absurd first.split (splitFirst?_eq_none_iff.mp found before after)
    | some halves =>
      obtain ⟨front, back⟩ := halves
      have again : FirstAt needle text front back :=
        ⟨eq_append_of_splitFirst? found, fun other rest => splitFirst?_shortest found⟩
      obtain ⟨fronts, backs⟩ := first.unique again
      rw [fronts, backs]

theorem firstAt_of_passes {needle front : List Char} (passes : Passes (needle <+: ·) front)
    (rest : List Char) :
    FirstAt needle (front ++ needle ++ rest) front rest := by
  apply splitFirst?_eq_some_iff.mp
  rw [List.append_assoc, splitFirst?_append_of_passes passes, splitFirst?_append_self]
  simp only [Option.map_some, List.append_nil]

theorem splitFirst?_eq_none_iff_absent {needle text : List Char} :
    splitFirst? needle text = none ↔ ¬needle <:+: text := by
  rw [splitFirst?_eq_none_iff]
  constructor
  · intro apart ⟨before, after, same⟩
    exact apart before after same.symm
  · intro absent before after same
    exact absent ⟨before, after, same.symm⟩

def bytes (text : List Char) : List UInt8 := text.flatMap String.utf8EncodeChar

section

variable {needle text before after : List Char} {front back : List UInt8}

@[simp] theorem bytes_append (first second : List Char) :
    bytes (first ++ second) = bytes first ++ bytes second :=
  List.flatMap_append

theorem bytes_cons (c : Char) (rest : List Char) :
    bytes (c :: rest) = String.utf8EncodeChar c ++ bytes rest :=
  List.flatMap_cons

theorem bytes_eq_nil_iff : bytes text = [] ↔ text = [] := by
  cases text with
  | nil => exact iff_of_true rfl rfl
  | cons c rest => simp [bytes_cons, String.utf8EncodeChar_ne_nil]

theorem utf8Encode_eq (text : List Char) : text.utf8Encode = (bytes text).toByteArray := rfl

theorem prefix_of_bytes (starts : bytes needle <+: bytes text) : needle <+: text := by
  obtain ⟨back, same⟩ := starts
  apply List.isPrefix_of_utf8Encode_append_eq_utf8Encode back.toByteArray
  rw [utf8Encode_eq, utf8Encode_eq, ← same, List.toByteArray_append]

/-- Only the first byte of a character is one that a character can begin with. -/
theorem isUTF8FirstByte_iff {c : Char} {before after : List UInt8} {byte : UInt8}
    (split : String.utf8EncodeChar c = before ++ byte :: after) : byte.IsUTF8FirstByte ↔ before = [] := by
  have inside : before.length < (String.utf8EncodeChar c).length := by simp [split]
  have here : (String.utf8EncodeChar c)[before.length] = byte := by simp [split]
  rw [← here, UInt8.isUTF8FirstByte_getElem_utf8EncodeChar, List.length_eq_zero_iff]

theorem isUTF8FirstByte_of_bytes {byte : UInt8} {later : List UInt8}
    (begins : bytes text = byte :: later) :
    byte.IsUTF8FirstByte := by
  cases text with
  | nil => cases begins
  | cons c rest =>
    rw [bytes_cons] at begins
    cases split : String.utf8EncodeChar c with
    | nil => exact absurd split String.utf8EncodeChar_ne_nil
    | cons head tail =>
      have front : String.utf8EncodeChar c = [] ++ head :: tail := split
      rw [split, List.cons_append] at begins
      obtain ⟨same, -⟩ := List.cons_eq_cons.mp begins
      exact same ▸ (isUTF8FirstByte_iff front).mpr rfl

/-- The bytes of a text that stand behind the beginning of a character stand behind the whole of
it. -/
theorem exists_of_begun {c : Char} {byte : UInt8} {later : List UInt8} (solid : needle ≠ [])
    (same : String.utf8EncodeChar c ++ later = byte :: front ++ (bytes needle ++ back)) :
    ∃ behind, byte :: front = String.utf8EncodeChar c ++ behind ∧
      later = behind ++ (bytes needle ++ back) := by
  rcases List.append_eq_append_iff.mp same with passed | ⟨inside, cut, left⟩
  · exact passed
  · cases inside with
    | nil =>
      rw [List.append_nil] at cut
      exact ⟨[], by rw [cut, List.append_nil], left.symm⟩
    | cons first inside =>
      -- the first byte of the needle would be an inner byte of the character
      cases found : bytes needle with
      | nil => exact absurd (bytes_eq_nil_iff.mp found) solid
      | cons head tail =>
        rw [found] at left
        obtain ⟨equal, -⟩ := List.cons_eq_cons.mp left
        have begins : first.IsUTF8FirstByte := equal ▸ isUTF8FirstByte_of_bytes found
        exact absurd ((isUTF8FirstByte_iff cut).mp begins) (List.cons_ne_nil byte front)

theorem exists_of_bytes_eq (solid : needle ≠ []) (same : bytes text = front ++ (bytes needle ++ back)) :
    ∃ before after, text = before ++ needle ++ after ∧ front = bytes before ∧ back = bytes after := by
  induction text generalizing front with
  | nil =>
    obtain ⟨-, later⟩ := List.append_eq_nil_iff.mp same.symm
    exact absurd (bytes_eq_nil_iff.mp (List.append_eq_nil_iff.mp later).1) solid
  | cons c rest ih =>
    cases front with
    | nil =>
      obtain ⟨after, here⟩ := prefix_of_bytes ⟨back, same.symm⟩
      rw [← here, bytes_append, List.nil_append, List.append_cancel_left_eq] at same
      exact ⟨[], after, by simp [here], rfl, same.symm⟩
    | cons byte front =>
      rw [bytes_cons] at same
      obtain ⟨behind, passed, left⟩ := exists_of_begun solid same
      obtain ⟨before, after, split, fronts, backs⟩ := ih left
      exact ⟨c :: before, after, by rw [split]; rfl, by rw [passed, fronts, bytes_cons], backs⟩

theorem length_bytes_mono (starts : before <+: text) : (bytes before).length ≤ (bytes text).length := by
  obtain ⟨rest, rfl⟩ := starts
  rw [bytes_append, List.length_append]
  exact Nat.le_add_right _ _

/-- A text stands no later than its bytes do. The bytes of the empty text stand even inside of
characters, but the empty text itself stands at the very beginning. -/
theorem exists_no_later (same : bytes text = front ++ (bytes needle ++ back)) :
    ∃ before after, text = before ++ needle ++ after ∧ (bytes before).length ≤ front.length := by
  by_cases empty : needle = []
  · rw [empty]
    exact ⟨[], text, rfl, Nat.zero_le _⟩
  · obtain ⟨before, after, split, fronts, -⟩ := exists_of_bytes_eq empty same
    exact ⟨before, after, split, by rw [fronts]⟩

theorem FirstAt.bytes (first : FirstAt needle text before after) :
    FirstAt (bytes needle) (bytes text) (bytes before) (bytes after) := by
  refine ⟨by rw [first.split, bytes_append, bytes_append], ?_⟩
  intro front back same
  rw [List.append_assoc] at same
  obtain ⟨other, rest, split, noLater⟩ := exists_no_later same
  exact (length_bytes_mono (first.prefix_of_split split)).trans noLater

/-- Searching the bytes of a text finds what searching its characters finds. -/
theorem firstAt_bytes_iff :
    FirstAt (bytes needle) (bytes text) front back ↔
      ∃ before after, FirstAt needle text before after ∧ front = bytes before ∧ back = bytes after := by
  constructor
  · intro first
    have same := first.split
    rw [List.append_assoc] at same
    obtain ⟨other, rest, split, -⟩ := exists_no_later same
    cases found : splitFirst? needle text with
    | none => exact absurd split (splitFirst?_eq_none_iff.mp found other rest)
    | some halves =>
      obtain ⟨before, after⟩ := halves
      have here := splitFirst?_eq_some_iff.mp found
      obtain ⟨fronts, backs⟩ := here.bytes.unique first
      exact ⟨before, after, here, fronts, backs⟩
  · intro ⟨before, after, first, fronts, backs⟩
    rw [fronts, backs]
    exact first.bytes

end

end DueReminders.Text
