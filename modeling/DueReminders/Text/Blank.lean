/-! Blank characters and trimming. A blank is any character of the Unicode White_Space property,
so trimming also removes no-break and ideographic spaces. -/
namespace DueReminders.Text

/-- Membership in the White_Space property. -/
def isBlank (c : Char) : Bool :=
  let code := c.toNat
  (9 ≤ code && code ≤ 13) || code == 0x20 || code == 0x85 || code == 0xA0 || code == 0x1680 ||
    (0x2000 ≤ code && code ≤ 0x200A) || code == 0x2028 || code == 0x2029 || code == 0x202F ||
    code == 0x205F || code == 0x3000

def trimStart (text : List Char) : List Char := text.dropWhile isBlank

def trimEnd (text : List Char) : List Char := (text.reverse.dropWhile isBlank).reverse

def trim (text : List Char) : List Char := trimEnd (trimStart text)

def isBlankText (text : String) : Bool := text.toList.all isBlank

theorem trimStart_cons_of_not_blank {c : Char} {rest : List Char} (solid : isBlank c = false) :
    trimStart (c :: rest) = c :: rest := by
  simp [trimStart, solid]

/-- Trimming leaves nothing exactly when every character is blank. -/
theorem trim_eq_nil_iff {text : List Char} : trim text = [] ↔ ∀ c ∈ text, isBlank c = true := by
  have dropped : ∀ chars : List Char, chars.dropWhile isBlank = [] ↔ ∀ c ∈ chars, isBlank c = true := by
    intro chars
    induction chars with
    | nil => simp
    | cons head rest ih =>
      by_cases blank : isBlank head
      · simp [blank, ih]
      · simp [blank]
  rw [trim, trimEnd, List.reverse_eq_nil_iff, dropped]
  constructor
  · intro all
    apply (dropped text).mp
    by_cases empty : text.dropWhile isBlank = []
    · exact empty
    · obtain ⟨head, rest, shape⟩ := List.exists_cons_of_ne_nil empty
      have solid : isBlank head = false := by
        have := List.head?_dropWhile_not isBlank text
        rw [shape] at this
        simpa using this
      have blank := all head (by simp [trimStart, shape])
      simp [solid] at blank
  · intro all c member
    exact all c ((List.dropWhile_sublist isBlank).mem (List.mem_reverse.mp member))

theorem isBlankText_iff {text : String} : isBlankText text = true ↔ trim text.toList = [] := by
  rw [trim_eq_nil_iff, isBlankText, List.all_eq_true]

end DueReminders.Text
