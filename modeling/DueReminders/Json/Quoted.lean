import DueReminders.Number.Digits

/-! Texts in quotes, as JSON has them: no control character stands in them as it is. -/
namespace DueReminders.Json

def hexQuad (number : Nat) : List Char :=
  [number / 4096 % 16, number / 256 % 16, number / 16 % 16, number % 16].map Nat.digitChar

def escaped (c : Char) : List Char :=
  if c = '"' ∨ c = '\\' then ['\\', c]
  else if c = '\n' then ['\\', 'n']
  else if c = '\r' then ['\\', 'r']
  else if c = '\t' then ['\\', 't']
  else if c.toNat < 0x20 then '\\' :: 'u' :: hexQuad c.toNat
  else [c]

def quoted (content : List Char) : List Char := '"' :: content.flatMap escaped ++ ['"']

end DueReminders.Json
