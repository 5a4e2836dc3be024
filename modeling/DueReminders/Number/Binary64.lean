/-! Magnitudes of double precision: 53 bits and a power of two. Results that are not among them are
rounded to the nearest one, a tie to the one with the even significand. -/
namespace DueReminders.Number

/-- Significands are less than two to the power 53. -/
def Binary64.significandLimit : Nat := Nat.pow 2 53

/-- The least significand of full length. -/
def Binary64.leastNormal : Nat := Nat.pow 2 52

/-- The number `significand * 2 ^ exponent`. -/
structure Binary64 where
  significand : Nat
  exponent : Int
  significand_lt : significand < Binary64.significandLimit
  exponent_bounds : -1074 ≤ exponent ∧ exponent ≤ 971

/-- The quotient to the nearest whole number, a tie to the even one. -/
def roundHalfEven (numerator denominator : Nat) : Nat :=
  let floor := numerator / denominator
  let left := numerator % denominator
  if 2 * left < denominator ∨ (2 * left = denominator ∧ floor % 2 = 0) then floor else floor + 1

namespace Binary64

instance : DecidableEq Binary64 := fun a b =>
  if same : a.significand = b.significand ∧ a.exponent = b.exponent then
    .isTrue (by cases a; cases b; simp_all)
  else .isFalse fun equal => same (equal ▸ ⟨rfl, rfl⟩)

def zero : Binary64 := ⟨0, -1074, by decide, by decide⟩

def isZero (value : Binary64) : Bool := value.significand == 0

/-- A significand and an exponent, if they are in range. -/
def ofParts? (significand : Nat) (exponent : Int) : Option Binary64 :=
  if fits : significand < significandLimit ∧ (-1074 ≤ exponent ∧ exponent ≤ 971) then
    some ⟨significand, exponent, fits.1, fits.2⟩
  else none

/-- The fraction `numerator / denominator` counted in units of `2 ^ exponent`, again as a
fraction. -/
def inUnits (numerator denominator : Nat) (exponent : Int) : Nat × Nat :=
  (numerator * Nat.pow 2 (-exponent).toNat, denominator * Nat.pow 2 exponent.toNat)

/-- The exponent that leaves 53 bits of a fraction before the point, or the least one there is. -/
def exponentFor (numerator denominator : Nat) : Int :=
  let guess : Int := max ((numerator.log2 : Int) - denominator.log2 - 52) (-1074)
  let (top, bottom) := inUnits numerator denominator guess
  if top / bottom < leastNormal ∧ -1074 < guess then guess - 1 else guess

/-- A positive fraction rounded, unless it is too large. -/
def ofFraction? (numerator denominator : Nat) : Option Binary64 :=
  if numerator = 0 then some zero
  else
    let exponent := exponentFor numerator denominator
    let (top, bottom) := inUnits numerator denominator exponent
    let rounded := roundHalfEven top bottom
    if rounded = significandLimit then ofParts? leastNormal (exponent + 1)
    else ofParts? rounded exponent

/-- The value as a fraction of whole numbers. -/
def fraction (value : Binary64) : Nat × Nat :=
  (value.significand * Nat.pow 2 value.exponent.toNat, Nat.pow 2 (-value.exponent).toNat)

def ofNat? (number : Nat) : Option Binary64 := ofFraction? number 1

def mul? (a b : Binary64) : Option Binary64 :=
  ofFraction? (a.fraction.1 * b.fraction.1) (a.fraction.2 * b.fraction.2)

/-- The rounded quotient by a value that is not zero. -/
def div? (a b : Binary64) : Option Binary64 :=
  ofFraction? (a.fraction.1 * b.fraction.2) (a.fraction.2 * b.fraction.1)

end Binary64
end DueReminders.Number
