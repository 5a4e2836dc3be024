import DueReminders.Number.Digits
import DueReminders.Proofs.Number.Numeral

/-! Numbers as they are written and read inside of a text: how wide their digits are, what zeros in
front of them change, and where a run of digits ends. -/
namespace DueReminders.Number

section

variable {number width limit : Nat} {text rest : List Char}

theorem digits_ne_nil (number : Nat) : digits number ≠ [] := by
  rw [digits]
  split
  · exact List.cons_ne_nil _ _
  · exact List.append_ne_nil_of_right_ne_nil _ (List.cons_ne_nil _ _)

theorem isDigits_digits (number : Nat) : IsDigits (digits number) :=
  ⟨digits_ne_nil number, fun _ => isDigit_of_mem_digits⟩

theorem length_digits_of_lt_ten (small : number < 10) : (digits number).length = 1 := by
  rw [digits, if_pos small]
  rfl

theorem length_digits_le_of_tenth (shorter : (digits (number / 10)).length ≤ width) :
    (digits number).length ≤ width + 1 := by
  rw [digits]
  split
  · exact Nat.succ_le_succ (Nat.zero_le width)
  · rw [List.length_append]
    exact Nat.succ_le_succ shorter

theorem length_digits_le_two (small : number < 100) : (digits number).length ≤ 2 := by
  apply length_digits_le_of_tenth
  exact Nat.le_of_eq (length_digits_of_lt_ten (by omega))

theorem length_digits_le_four (small : number < 10000) : (digits number).length ≤ 4 := by
  apply length_digits_le_of_tenth
  apply length_digits_le_of_tenth
  exact length_digits_le_two (by omega)

theorem length_padded (fits : (digits number).length ≤ width) : (padded width number).length = width := by
  rw [padded, List.length_append, List.length_replicate]
  omega

theorem isDigits_padded (width number : Nat) : IsDigits (padded width number) := by
  refine ⟨List.append_ne_nil_of_right_ne_nil _ (digits_ne_nil number), ?_⟩
  intro c member
  rcases List.mem_append.mp member with zero | digit
  · rw [(List.mem_replicate.mp zero).2]
    rfl
  · exact isDigit_of_mem_digits digit

theorem ofDigits_padded (width number : Nat) : ofDigits (padded width number) = number := by
  have zeros (count : Nat) (text : List Char) :
      ofDigits (List.replicate count '0' ++ text) = ofDigits text := by
    induction count with
    | zero => rfl
    | succ count ih => rw [List.replicate_succ, List.cons_append, ← ih, ofDigits, List.foldl_cons]; rfl
  rw [padded, zeros, ofDigits_digits]

theorem takeDigits_run (run : ∀ c ∈ text, c.isDigit = true) (fits : text.length ≤ limit)
    (stops : ∀ c ∈ rest.head?, c.isDigit = false) : takeDigits limit (text ++ rest) = (text, rest) := by
  induction text generalizing limit with
  | nil =>
    cases limit with
    | zero => rfl
    | succ limit =>
      cases rest with
      | nil => rfl
      | cons c rest => rw [List.nil_append, takeDigits, stops c rfl, if_neg Bool.false_ne_true]
  | cons c text ih =>
    obtain ⟨digit, later⟩ := List.forall_mem_cons.mp run
    cases limit with
    | zero => cases fits
    | succ limit =>
      have taken : takeDigits limit (text ++ rest) = (text, rest) := ih later (Nat.le_of_succ_le_succ fits)
      rw [List.cons_append, takeDigits, if_pos digit, taken]

end

end DueReminders.Number
