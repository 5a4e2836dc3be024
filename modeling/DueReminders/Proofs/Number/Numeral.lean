import DueReminders.Number.Integer

/-! Which texts are read as whole numbers of a range, and as which numbers: digits with an optional
sign, as many as one likes, that stand for a number of the range. -/
namespace DueReminders.Number

/-- ASCII digits, at least one. -/
def IsDigits (text : List Char) : Prop := text ≠ [] ∧ ∀ c ∈ text, c.isDigit = true

theorem digitValue?_eq (c : Char) :
    digitValue? c = if c.isDigit = true then some (c.toNat - 48) else none := by
  simp only [digitValue?, Char.isDigit, Bool.and_eq_true, decide_eq_true_eq]
  rfl

theorem le_foldl_digits (text : List Char) (start : Nat) :
    start ≤ text.foldl (fun value c => value * 10 + (c.toNat - 48)) start := by
  induction text generalizing start with
  | nil => exact Nat.le_refl start
  | cons c rest ih =>
    have later := ih (start * 10 + (c.toNat - 48))
    rw [List.foldl_cons]
    omega

theorem readMagnitude_eq_ok_iff {limit start value : Nat} {beyond : IntegerRefusal} {text : List Char}
    (small : start ≤ limit) :
    readMagnitude limit beyond start text = .ok value ↔
      (∀ c ∈ text, c.isDigit = true) ∧
        text.foldl (fun value c => value * 10 + (c.toNat - 48)) start = value ∧ value ≤ limit := by
  induction text generalizing start with
  | nil =>
    simp only [readMagnitude, List.foldl_nil, Except.ok.injEq]
    constructor
    · rintro rfl
      exact ⟨by simp, rfl, small⟩
    · rintro ⟨-, same, -⟩
      exact same
  | cons c rest ih =>
    rw [readMagnitude, digitValue?_eq, List.forall_mem_cons, List.foldl_cons]
    by_cases digit : c.isDigit = true
    · rw [if_pos digit]
      by_cases fits : start * 10 + (c.toNat - 48) ≤ limit
      · simp only [if_pos fits, ih fits, digit, true_and]
      · simp only [if_neg fits, digit, true_and]
        constructor
        · intro done
          cases done
        · rintro ⟨-, same, bounded⟩
          have grown := le_foldl_digits rest (start * 10 + (c.toNat - 48))
          omega
    · simp [digit]

namespace IntegerRange

/-- A number of the range in digits, alone or behind a sign. Zeros may stand in front, and a minus
sign only where the range has negative numbers. -/
inductive Writes (range : IntegerRange) : List Char → Int → Prop where
  | plain {digits : List Char} (solid : IsDigits digits) (within : range.Contains (ofDigits digits)) :
      range.Writes digits (ofDigits digits)
  | plus {digits : List Char} (solid : IsDigits digits) (within : range.Contains (ofDigits digits)) :
      range.Writes ('+' :: digits) (ofDigits digits)
  | minus {digits : List Char} (negative : range.lowest < 0) (solid : IsDigits digits)
      (within : range.Contains (-(ofDigits digits : Int))) :
      range.Writes ('-' :: digits) (-(ofDigits digits : Int))

variable {range : IntegerRange} {digits : List Char} {number : Int}

theorem contains_iff_le_highest (zero : range.Contains 0) (value : Nat) :
    range.Contains value ↔ value ≤ range.highest.toNat := by
  obtain ⟨low, high⟩ := zero
  unfold Contains
  omega

theorem contains_neg_iff_le_lowest (zero : range.Contains 0) (value : Nat) :
    range.Contains (-(value : Int)) ↔ value ≤ (-range.lowest).toNat := by
  obtain ⟨low, high⟩ := zero
  unfold Contains
  omega

theorem map_readMagnitude_eq_ok_iff {limit : Nat} {beyond : IntegerRefusal} {sign : Nat → Int} :
    (readMagnitude limit beyond 0 digits).map sign = .ok number ↔
      (∀ c ∈ digits, c.isDigit = true) ∧ sign (ofDigits digits) = number ∧ ofDigits digits ≤ limit := by
  have magnitude (value : Nat) : readMagnitude limit beyond 0 digits = .ok value ↔ _ :=
    readMagnitude_eq_ok_iff (Nat.zero_le limit)
  cases done : readMagnitude limit beyond 0 digits with
  | error refusal =>
    simp only [done, Except.map, reduceCtorEq, false_iff, ← ofDigits.eq_1] at magnitude ⊢
    rintro ⟨each, -, bounded⟩
    exact magnitude _ ⟨each, rfl, bounded⟩
  | ok value =>
    obtain ⟨each, same, bounded⟩ := (magnitude value).mp done
    rw [← ofDigits.eq_1] at same
    subst same
    simp only [Except.map, Except.ok.injEq]
    exact ⟨fun signed => ⟨each, signed, bounded⟩, fun parts => parts.2.1⟩

theorem read_of_isDigits (solid : IsDigits digits) :
    range.read digits = (readMagnitude range.highest.toNat .tooLarge 0 digits).map Int.ofNat := by
  obtain ⟨bare, each⟩ := solid
  unfold read
  split
  · exact absurd rfl bare
  -- a sign is no digit
  · simp at each
  · simp at each
  · simp at each
  · simp at each
  · rfl

theorem read_plus (bare : digits ≠ []) :
    range.read ('+' :: digits) =
      (readMagnitude range.highest.toNat .tooLarge 0 digits).map Int.ofNat := by
  cases digits with
  | nil => exact absurd rfl bare
  | cons head tail => rfl

theorem read_minus (negative : range.lowest < 0) (bare : digits ≠ []) :
    range.read ('-' :: digits) =
      (readMagnitude (-range.lowest).toNat .tooSmall 0 digits).map
        fun (value : Nat) => -(value : Int) := by
  cases digits with
  | nil => exact absurd rfl bare
  | cons head tail => simp [read, negative]

/-- Exactly the written numbers of the range are read, each as itself. -/
theorem read_eq_ok_iff (zero : range.Contains 0) {text : List Char} :
    range.read text = .ok number ↔ range.Writes text number := by
  have highest := contains_iff_le_highest zero
  have lowest := contains_neg_iff_le_lowest zero
  constructor
  · intro done
    unfold read at done
    split at done
    · cases done
    · cases done
    · cases done
    · next bare =>
      obtain ⟨each, rfl, bounded⟩ := map_readMagnitude_eq_ok_iff.mp done
      exact .plus ⟨bare, each⟩ ((highest _).mpr bounded)
    · next bare =>
      split at done
      · next negative =>
        obtain ⟨each, rfl, bounded⟩ := map_readMagnitude_eq_ok_iff.mp done
        exact .minus negative ⟨bare, each⟩ ((lowest _).mpr bounded)
      · cases done
    · next solid _ _ _ _ =>
      obtain ⟨each, rfl, bounded⟩ := map_readMagnitude_eq_ok_iff.mp done
      exact .plain ⟨solid, each⟩ ((highest _).mpr bounded)
  · intro written
    cases written with
    | plain solid within =>
      rw [read_of_isDigits solid, map_readMagnitude_eq_ok_iff]
      exact ⟨solid.2, rfl, (highest _).mp within⟩
    | plus solid within =>
      rw [read_plus solid.1, map_readMagnitude_eq_ok_iff]
      exact ⟨solid.2, rfl, (highest _).mp within⟩
    | minus negative solid within =>
      rw [read_minus negative solid.1, map_readMagnitude_eq_ok_iff]
      exact ⟨solid.2, rfl, (lowest _).mp within⟩

end IntegerRange
end DueReminders.Number
