/-! Decimal digits of natural numbers, written and read. -/
namespace DueReminders.Number

def digitChar (digit : Nat) : Char := Char.ofNat (48 + digit)

/-- The digit an ASCII character stands for. -/
def digitValue? (c : Char) : Option Nat :=
  if '0' ≤ c ∧ c ≤ '9' then some (c.toNat - 48) else none

/-- The shortest decimal text of a number. -/
def digits (number : Nat) : List Char :=
  if number < 10 then [digitChar number] else digits (number / 10) ++ [digitChar (number % 10)]

/-- The text with zeros in front, at least `width` characters wide. -/
def padded (width number : Nat) : List Char :=
  List.replicate (width - (digits number).length) '0' ++ digits number

def signed (number : Int) : List Char :=
  if number < 0 then '-' :: digits number.natAbs else digits number.natAbs

/-- The number a run of digits stands for; other characters are not expected here. -/
def ofDigits (text : List Char) : Nat :=
  text.foldl (fun value c => value * 10 + (c.toNat - 48)) 0

/-- The ASCII digits a text starts with, at most `limit` of them, and the rest. -/
def takeDigits : Nat → List Char → List Char × List Char
  | limit + 1, c :: rest =>
    if c.isDigit then
      let (taken, left) := takeDigits limit rest
      (c :: taken, left)
    else ([], c :: rest)
  | _, text => ([], text)

theorem takeDigits_append (limit : Nat) (text : List Char) :
    (takeDigits limit text).1 ++ (takeDigits limit text).2 = text := by
  induction text generalizing limit with
  | nil => cases limit <;> rfl
  | cons c rest ih =>
    cases limit with
    | zero => rfl
    | succ limit =>
      simp only [takeDigits]
      split
      · simp [ih]
      · rfl

theorem digitChar_toNat {digit : Nat} (small : digit < 10) : (digitChar digit).toNat = 48 + digit := by
  unfold digitChar
  have : ∀ d, d < 10 → (Char.ofNat (48 + d)).toNat = 48 + d := by decide
  exact this digit small

theorem ofDigits_append_singleton (text : List Char) (c : Char) :
    ofDigits (text ++ [c]) = ofDigits text * 10 + (c.toNat - 48) := by
  simp [ofDigits]

theorem ofDigits_digits (number : Nat) : ofDigits (digits number) = number := by
  induction number using Nat.strongRecOn with
  | ind number ih =>
    rw [digits]
    split
    · next small => simp [ofDigits, digitChar_toNat small]
    · next large =>
      rw [ofDigits_append_singleton, ih _ (by omega), digitChar_toNat (Nat.mod_lt _ (by decide))]
      omega

theorem isDigit_of_mem_digits {number : Nat} {c : Char} (member : c ∈ digits number) :
    c.isDigit = true := by
  have digit : ∀ d, d < 10 → (digitChar d).isDigit = true := by decide
  induction number using Nat.strongRecOn with
  | ind number ih =>
    rw [digits] at member
    split at member
    · next small =>
      rw [List.mem_singleton] at member
      exact member ▸ digit _ small
    · next large =>
      rcases List.mem_append.mp member with front | last
      · exact ih _ (by omega) front
      · rw [List.mem_singleton] at last
        exact last ▸ digit _ (Nat.mod_lt _ (by decide))

end DueReminders.Number
