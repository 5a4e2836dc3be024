import DueReminders.Number.Binary64
import DueReminders.Number.Digits

/-! The shortest decimal number that reads back as a given magnitude. For every count of digits the
two decimal numbers around the magnitude are tried; of two that read back the nearer one is
taken. -/
namespace DueReminders.Number

/-- The number `coefficient * 10 ^ exponent`. -/
structure Decimal where
  coefficient : Nat
  exponent : Int
  deriving DecidableEq, Repr

namespace Decimal

/-- The decimal without zeros at the end of its coefficient. -/
def trimmed (number : Decimal) : Decimal :=
  if number.coefficient = 0 ∨ number.coefficient % 10 ≠ 0 then number
  else trimmed ⟨number.coefficient / 10, number.exponent + 1⟩
termination_by number.coefficient
decreasing_by omega

/-- How many places a positive fraction has to move left to be at least one. -/
def placesBelowOne (numerator denominator : Nat) : Nat → Nat
  | 0 => 0
  | limit + 1 =>
    if denominator ≤ numerator then 0 else placesBelowOne (numerator * 10) denominator limit + 1

/-- The exponent of ten of the first digit of a positive magnitude. -/
def leadingExponent (value : Binary64) : Int :=
  let (numerator, denominator) := value.fraction
  if denominator ≤ numerator then ((digits (numerator / denominator)).length : Int) - 1
  else -(placesBelowOne numerator denominator 400 : Int)

/-- Four times a coefficient of decimals with an exponent, on the scale of `binaryUnits`. -/
def decimalUnits (coefficient : Nat) (exponent binary : Int) : Nat :=
  4 * coefficient * Nat.pow 10 exponent.toNat * Nat.pow 2 (-binary).toNat

/-- Quarters of a magnitude's last bit, on a scale where they compare with decimals. -/
def binaryUnits (quarters : Nat) (exponent binary : Int) : Nat :=
  quarters * Nat.pow 2 binary.toNat * Nat.pow 10 (-exponent).toNat

/-- A decimal lies close enough to read back as the magnitude. The ends of the interval belong to it
when the significand is even, and below a power of two the interval is half as wide. -/
def readsBack (value : Binary64) (number : Decimal) : Bool :=
  let below :=
    if value.significand = Binary64.leastNormal ∧ -1074 < value.exponent then 1 else 2
  let low := binaryUnits (4 * value.significand - below) number.exponent value.exponent
  let high := binaryUnits (4 * value.significand + 2) number.exponent value.exponent
  let here := decimalUnits number.coefficient number.exponent value.exponent
  if value.significand % 2 = 0 then low ≤ here && here ≤ high else low < here && here < high

/-- The decimal with a given exponent next to the magnitude that reads back, the nearer of two. -/
def nearest? (value : Binary64) (exponent : Int) : Option Decimal :=
  let exact := binaryUnits (4 * value.significand) exponent value.exponent
  let floor := exact / decimalUnits 1 exponent value.exponent
  let lower : Decimal := ⟨floor, exponent⟩
  let upper : Decimal := ⟨floor + 1, exponent⟩
  let sum := decimalUnits (2 * floor + 1) exponent value.exponent
  let lowerFirst := 2 * exact < sum || (2 * exact == sum && floor % 2 == 0)
  if readsBack value lower && (lowerFirst || !readsBack value upper) then some lower
  else if readsBack value upper then some upper
  else none

/-- The shortest decimal that reads back as the magnitude; seventeen digits always suffice. -/
def ofBinary64 (value : Binary64) : Decimal :=
  if value.isZero then ⟨0, 0⟩
  else
    let leading := leadingExponent value
    let found := (List.range 17).findSome? fun (extra : Nat) => nearest? value (leading - extra)
    (found.getD ⟨0, 0⟩).trimmed

end Decimal
end DueReminders.Number
