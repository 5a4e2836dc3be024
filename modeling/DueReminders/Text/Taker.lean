/-! Readers that take something from the front of a text. -/
namespace DueReminders.Text

/-- What is taken, and the rest of the text; none when the text starts with something else. -/
abbrev Taker (α : Type) := List Char → Option (α × List Char)

namespace Taker

variable {α β : Type}

def one (accepts : Char → Bool) : Taker Char
  | c :: rest => if accepts c then some (c, rest) else none
  | [] => none

/-- The characters of a class up to the first other one, at least one. -/
def some1 (accepts : Char → Bool) : Taker (List Char) := fun text =>
  match text.takeWhile accepts with
  | [] => none
  | taken => some (taken, text.dropWhile accepts)

def orElse (first second : Taker α) : Taker α := fun text => (first text).or (second text)

/-- As often as the reader takes something, at most `limit` times. -/
def repeated (take : Taker α) : Nat → List Char → List α × List Char
  | 0, text => ([], text)
  | limit + 1, text =>
    match take text with
    | none => ([], text)
    | some (value, rest) =>
      let (values, rest) := repeated take limit rest
      (value :: values, rest)

/-- As often as possible. Readers that take nothing but do not fail are repeated no more often than
the text has characters. -/
def many (take : Taker α) (text : List Char) : List α × List Char := repeated take text.length text

end Taker
end DueReminders.Text
