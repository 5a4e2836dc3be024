import DueReminders.Number.Digits

/-! Whole numbers from a given range, read from ASCII digits with an optional sign. The first
character at which the reading fails decides the refusal. -/
namespace DueReminders.Number

/-- The whole numbers from `lowest` to `highest`. -/
structure IntegerRange where
  lowest : Int
  highest : Int
  deriving DecidableEq, Repr

/-- Why a text is no number of a range. -/
inductive IntegerRefusal where
  | empty
  | invalidDigit
  | tooLarge
  | tooSmall
  deriving DecidableEq, Repr

def IntegerRefusal.message : IntegerRefusal → String
  | .empty => "cannot parse integer from empty string"
  | .invalidDigit => "invalid digit found in string"
  | .tooLarge => "number too large to fit in target type"
  | .tooSmall => "number too small to fit in target type"

/-- Digits as a number of at most `limit`, after what was read before. A character that is no digit
is refused as such even where the number has become too large. -/
def readMagnitude (limit : Nat) (beyond : IntegerRefusal) : Nat → List Char → Except IntegerRefusal Nat
  | value, [] => .ok value
  | value, c :: rest =>
    match digitValue? c with
    | none => .error .invalidDigit
    | some digit =>
      if value * 10 + digit ≤ limit then readMagnitude limit beyond (value * 10 + digit) rest
      else .error beyond

namespace IntegerRange

/-- A number of the range. A minus sign is known only where the range has negative numbers. -/
def read (range : IntegerRange) (text : List Char) : Except IntegerRefusal Int :=
  match text with
  | [] => .error .empty
  | ['+'] | ['-'] => .error .invalidDigit
  | '+' :: rest => (readMagnitude range.highest.toNat .tooLarge 0 rest).map Int.ofNat
  | '-' :: rest =>
    if range.lowest < 0 then
      (readMagnitude (-range.lowest).toNat .tooSmall 0 rest).map fun (value : Nat) => -(value : Int)
    else .error .invalidDigit
  | text => (readMagnitude range.highest.toNat .tooLarge 0 text).map Int.ofNat

def word16 : IntegerRange := ⟨0, 65535⟩

def word32 : IntegerRange := ⟨0, 4294967295⟩

def signed64 : IntegerRange := ⟨-9223372036854775808, 9223372036854775807⟩

def word64 : IntegerRange := ⟨0, 18446744073709551615⟩

def Contains (range : IntegerRange) (number : Int) : Prop :=
  range.lowest ≤ number ∧ number ≤ range.highest

instance (range : IntegerRange) (number : Int) : Decidable (range.Contains number) := by
  unfold Contains
  infer_instance

end IntegerRange

end DueReminders.Number
