import DueReminders.Json.Basic

/-! Number literals. Digits are gathered into 64 bits as long as they fit; further whole digits only
raise the exponent and further fraction digits are passed over. -/
namespace DueReminders.Json

open DueReminders.Number (Binary64 digitValue? ofDigits)

/-- The parts of a number literal. -/
structure Numeral where
  negative : Bool
  whole : List Char
  fraction : Option (List Char)
  exponent : Option Int
  deriving DecidableEq, Repr

namespace Numeral

/-- The largest number of 64 bits. -/
def significandLimit : Nat := 18446744073709551615

/-- Gather digits while they fit into 64 bits; also the count of the digits left over. -/
def gather : Nat → List Char → Nat × Nat
  | value, [] => (value, 0)
  | value, c :: rest =>
    let next := value * 10 + (c.toNat - 48)
    if next ≤ significandLimit then gather next rest else (value, rest.length + 1)

/-- Largest power of ten a single scaling step uses. -/
def stepLimit : Nat := 308

def divideByPower? (value : Binary64) (places : Nat) : Option Binary64 :=
  (Binary64.ofNat? (Nat.pow 10 places)).bind value.div?

/-- Divide by the largest power of ten again and again; zero stays zero. -/
def divideInSteps? : Nat → Binary64 → Option Binary64
  | 0, value => some value
  | steps + 1, value =>
    if value.isZero then some value
    else (divideByPower? value stepLimit).bind (divideInSteps? steps)

/-- Divide by a power of ten in steps as large as possible, rounding after each. -/
def scaleDown? (value : Binary64) (places : Nat) : Option Binary64 :=
  let steps := (places - 1) / stepLimit
  (divideInSteps? steps value).bind fun smaller => divideByPower? smaller (places - steps * stepLimit)

/-- A significand scaled by a power of ten; too large a result is refused. -/
def scale? (significand : Nat) (exponent : Int) : Option Binary64 := do
  let value ← Binary64.ofNat? significand
  if exponent < 0 then scaleDown? value exponent.natAbs
  else if exponent.natAbs ≤ stepLimit then
    let power ← Binary64.ofNat? (Nat.pow 10 exponent.natAbs)
    value.mul? power
  else if value.isZero then some value
  else none

def real? (numeral : Numeral) : Option Number :=
  let (whole, raised) := gather 0 numeral.whole
  let fraction := numeral.fraction.getD []
  let (significand, passed) := gather whole fraction
  let lowered := fraction.length - passed
  (scale? significand (raised - lowered + numeral.exponent.getD 0)).map (.real numeral.negative)

/-- The number a literal stands for: whole when it is written so and fits into 64 bits, with or
without sign. A negative zero is real. -/
def number? (numeral : Numeral) : Option Number :=
  let (whole, left) := gather 0 numeral.whole
  if numeral.fraction.isSome ∨ numeral.exponent.isSome ∨ 0 < left then numeral.real?
  else if ¬numeral.negative then some (.integer whole)
  else if whole = 0 ∨ 9223372036854775808 < whole then numeral.real?
  else some (.integer (-(whole : Int)))

def takeSome? (text : List Char) : Option (List Char × List Char) :=
  match text.takeWhile Char.isDigit with
  | [] => none
  | taken => some (taken, text.dropWhile Char.isDigit)

/-- Whole digits: a zero alone, or digits that do not begin with zero. -/
def takeWhole? : List Char → Option (List Char × List Char)
  | '0' :: rest =>
    match rest with
    | c :: _ => if c.isDigit then none else some (['0'], rest)
    | [] => some (['0'], [])
  | chars => takeSome? chars

def takeFraction? : List Char → Option (Option (List Char) × List Char)
  | '.' :: rest => (takeSome? rest).map fun (taken, rest) => (some taken, rest)
  | chars => some (none, chars)

def takeExponent? : List Char → Option (Option Int × List Char)
  | c :: rest =>
    if c = 'e' ∨ c = 'E' then
      let (sign, rest) : Int × List Char :=
        match rest with
        | '+' :: rest => (1, rest)
        | '-' :: rest => (-1, rest)
        | rest => (1, rest)
      (takeSome? rest).map fun (taken, rest) => (some (sign * ofDigits taken), rest)
    else some (none, c :: rest)
  | [] => some (none, [])

def take? (text : List Char) : Option (Numeral × List Char) := do
  let (negative, rest) :=
    match text with
    | '-' :: rest => (true, rest)
    | chars => (false, chars)
  let (whole, rest) ← takeWhole? rest
  let (fraction, rest) ← takeFraction? rest
  let (exponent, rest) ← takeExponent? rest
  some (⟨negative, whole, fraction, exponent⟩, rest)

end Numeral
end DueReminders.Json
