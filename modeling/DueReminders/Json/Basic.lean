import DueReminders.Number.Shortest

/-! JSON values. Members of an object are kept in the order of their names, each name once. Numbers
are whole numbers of 64 bits or double precision numbers, which also have a negative zero. -/
namespace DueReminders

namespace Json

inductive Number where
  | integer (value : Int)
  | real (negative : Bool) (magnitude : Number.Binary64)
  deriving DecidableEq

/-- Layout of a decimal: positional while the leading exponent is from `lowest` to `highest`, else
one digit before the point and an exponent with its sign. -/
structure RealLayout where
  lowest : Int
  highest : Int

/-- Real numbers are written positionally from 0.00001 up to 16 digits before the point. -/
def layout : RealLayout := ⟨-5, 15⟩

/-- Digits with a point after the first `before` of them; at least one digit stands on either
side. -/
def positional (digits : List Char) (before : Int) : List Char :=
  if before ≤ 0 then '0' :: '.' :: (List.replicate (-before).toNat '0' ++ digits)
  else if digits.length ≤ before then
    digits ++ List.replicate (before.toNat - digits.length) '0' ++ ['.', '0']
  else digits.take before.toNat ++ '.' :: digits.drop before.toNat

/-- One digit, the others after a point, and the exponent of the first digit. -/
def scientific (digits : List Char) (exponent : Int) : List Char :=
  let fraction := if digits.length ≤ 1 then [] else '.' :: digits.drop 1
  let sign := if exponent < 0 then '-' else '+'
  digits.take 1 ++ fraction ++ 'e' :: sign :: DueReminders.Number.digits exponent.natAbs

def RealLayout.write (layout : RealLayout) (number : DueReminders.Number.Decimal) : List Char :=
  let digits := DueReminders.Number.digits number.coefficient
  let leading := number.exponent + digits.length - 1
  if number.coefficient = 0 ∨ (layout.lowest ≤ leading ∧ leading ≤ layout.highest) then
    positional digits (leading + 1)
  else scientific digits leading

namespace Number

/-- The text of a number: the shortest one that reads back. -/
def text : Number → List Char
  | .integer value => DueReminders.Number.signed value
  | .real negative magnitude =>
    (if negative then ['-'] else []) ++ layout.write (.ofBinary64 magnitude)

end Number
end Json

inductive Json where
  | null
  | boolean (value : Bool)
  | number (value : Json.Number)
  | text (content : String)
  | array (elements : List Json)
  | object (members : List (String × Json))

namespace Json

abbrev Members := List (String × Json)

/-- Write a member into its place; an earlier value of the name is lost. -/
def Members.insert (name : String) (value : Json) : Members → Members
  | [] => [(name, value)]
  | (head, old) :: rest =>
    if name < head then (name, value) :: (head, old) :: rest
    else if name = head then (name, value) :: rest
    else (head, old) :: insert name value rest

def Members.ofList (members : List (String × Json)) : Members :=
  members.foldl (fun sorted (name, value) => Members.insert name value sorted) []

/-- The whole number a value is, if it has 64 bits and a sign. -/
def int64? : Json → Option Int
  | .number (.integer value) => if value ≤ 9223372036854775807 then some value else none
  | _ => none

def text? : Json → Option String
  | .text content => some content
  | _ => none

end Json
end DueReminders
