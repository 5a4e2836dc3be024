import DueReminders.Proofs.Number.Padded
import Mathlib.Algebra.Order.Floor.Semifield
import Mathlib.Data.List.Induction
import Mathlib.Data.Rat.Floor

/-! Figures, which are digits that fill a place of a certain width, and the digits behind a decimal
point. Of a fraction of a second the whole nanoseconds count, however many digits it has. -/
namespace DueReminders.Number

section

variable {text front back rest : List Char} {limit : Nat}

theorem powerOfTen_pos (places : Nat) : 0 < Nat.pow 10 places := Nat.pow_pos (by decide)

theorem powerOfTen_add (places more : Nat) :
    Nat.pow 10 (places + more) = Nat.pow 10 places * Nat.pow 10 more :=
  Nat.pow_add 10 places more

theorem takeDigits_exact (run : ∀ c ∈ text, c.isDigit = true) (rest : List Char) :
    takeDigits text.length (text ++ rest) = (text, rest) := by
  induction text with
  | nil => cases rest <;> rfl
  | cons c text ih =>
    obtain ⟨digit, later⟩ := List.forall_mem_cons.mp run
    rw [List.length_cons, List.cons_append, takeDigits, if_pos digit, ih later]

theorem isDigit_of_mem_takeDigits {c : Char} (member : c ∈ (takeDigits limit text).1) :
    c.isDigit = true := by
  induction text generalizing limit with
  | nil => cases limit <;> cases member
  | cons head text ih =>
    cases limit with
    | zero => cases member
    | succ limit =>
      by_cases digit : head.isDigit = true
      · rw [takeDigits, if_pos digit] at member
        rcases List.mem_cons.mp member with rfl | later
        · exact digit
        · exact ih later
      · rw [takeDigits, if_neg digit] at member
        cases member

theorem ofDigits_append (front back : List Char) :
    ofDigits (front ++ back) = ofDigits front * Nat.pow 10 back.length + ofDigits back := by
  induction back using List.reverseRecOn with
  | nil => simp [ofDigits]
  | append_singleton back c ih =>
    have place : Nat.pow 10 (back.length + 1) = Nat.pow 10 back.length * 10 := rfl
    rw [← List.append_assoc, ofDigits_append_singleton, ih, ofDigits_append_singleton, List.length_append,
      List.length_singleton, place, ← Nat.mul_assoc]
    omega

theorem ofDigits_lt (run : ∀ c ∈ text, c.isDigit = true) : ofDigits text < Nat.pow 10 text.length := by
  induction text using List.reverseRecOn with
  | nil => decide
  | append_singleton text c ih =>
    obtain ⟨before, last⟩ := List.forall_mem_append.mp run
    have digit : c.toNat ≤ 57 := of_decide_eq_true (Bool.and_eq_true_iff.mp (last c List.mem_cons_self)).2
    have place : Nat.pow 10 (text.length + 1) = Nat.pow 10 text.length * 10 := rfl
    have below := ih before
    rw [ofDigits_append_singleton, List.length_append, List.length_singleton, place]
    omega

end

/-- Digits that fill a place. -/
structure Figures (width : Nat) where
  chars : List Char
  digits : ∀ c ∈ chars, c.isDigit = true
  length_eq : chars.length = width

namespace Figures

variable {width : Nat} (figures : Figures width)

def ofText (text : String) (filled : text.toList.all Char.isDigit = true ∧ text.toList.length = width) :
    Figures width :=
  ⟨text.toList, List.all_eq_true.mp filled.1, filled.2⟩

def value : Nat := ofDigits figures.chars

theorem isDigits (figures : Figures (width + 1)) : IsDigits figures.chars :=
  ⟨List.ne_nil_of_length_eq_add_one figures.length_eq, figures.digits⟩

theorem value_lt : figures.value < Nat.pow 10 width := by
  have below := ofDigits_lt figures.digits
  rwa [figures.length_eq] at below

end Figures

/-- The digits behind a decimal point as a fraction. -/
def fractionOf (fraction : List Char) : Rat :=
  (ofDigits fraction : Rat) / (Nat.pow 10 fraction.length : Nat)

/-- The whole nanoseconds of a fraction of a second. -/
def nanosOf (fraction : List Char) : Nat := ofDigits fraction * 1000000000 / Nat.pow 10 fraction.length

/-- It is the value of the digits that counts, and not how many zeros stand behind them. -/
theorem nanosOf_eq_floor (fraction : List Char) :
    nanosOf fraction = ⌊fractionOf fraction * 1000000000⌋₊ := by
  have scaled : fractionOf fraction * 1000000000 =
      ((ofDigits fraction * 1000000000 : Nat) : Rat) / (Nat.pow 10 fraction.length : Nat) := by
    rw [fractionOf, div_mul_eq_mul_div, Nat.cast_mul]
    rfl
  rw [scaled, Nat.floor_div_eq_div, nanosOf]

theorem nanosOf_lt {fraction : List Char} (run : ∀ c ∈ fraction, c.isDigit = true) :
    nanosOf fraction < 1000000000 := by
  have below := ofDigits_lt run
  rw [nanosOf, Nat.div_lt_iff_lt_mul (powerOfTen_pos _), Nat.mul_comm]
  exact Nat.mul_lt_mul_of_pos_left below (by decide)

theorem nanosOf_eq_take {fraction : List Char} (run : ∀ c ∈ fraction, c.isDigit = true) :
    nanosOf fraction = ofDigits (fraction.take 9) * Nat.pow 10 (9 - (fraction.take 9).length) := by
  have billion : 1000000000 = Nat.pow 10 9 := by decide
  by_cases short : fraction.length ≤ 9
  · have split : Nat.pow 10 9 = Nat.pow 10 (9 - fraction.length) * Nat.pow 10 fraction.length := by
      rw [← powerOfTen_add, Nat.sub_add_cancel short]
    rw [List.take_of_length_le short, nanosOf, billion, split, ← Nat.mul_assoc,
      Nat.mul_div_cancel _ (powerOfTen_pos _)]
  · have long : 9 ≤ fraction.length := by omega
    have kept : (fraction.take 9).length = 9 := List.length_take_of_le long
    have rest : ofDigits (fraction.drop 9) < Nat.pow 10 (fraction.drop 9).length :=
      ofDigits_lt fun c member => run c (List.mem_of_mem_drop member)
    have split : Nat.pow 10 fraction.length = Nat.pow 10 (fraction.drop 9).length * Nat.pow 10 9 := by
      rw [← powerOfTen_add, List.length_drop, Nat.sub_add_cancel long]
    have whole : ofDigits fraction =
        Nat.pow 10 (fraction.drop 9).length * ofDigits (fraction.take 9) + ofDigits (fraction.drop 9) := by
      conv_lhs => rw [← List.take_append_drop 9 fraction, ofDigits_append, Nat.mul_comm]
    rw [nanosOf, billion, split, Nat.mul_div_mul_right _ _ (powerOfTen_pos _), whole,
      Nat.mul_add_div (powerOfTen_pos _), Nat.div_eq_of_lt rest, kept]
    exact (Nat.mul_one _).symm

end DueReminders.Number
