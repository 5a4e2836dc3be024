/-! Names of any script in letters, digits and hyphens. The ASCII characters come first; the others
follow as the distances between their insertions, written as numbers of variable length. -/
namespace DueReminders.Url.Punycode

def digitBase : Nat := 36
def lowestThreshold : Nat := 1
def highestThreshold : Nat := 26
def initialBias : Nat := 72
def initialCode : Nat := 128

/-- The character of a digit below 36: letters first, then figures. -/
def digitChar (digit : Nat) : Char :=
  if digit < 26 then Char.ofNat (97 + digit) else Char.ofNat (22 + digit)

def digitValue? (c : Char) : Option Nat :=
  if 'a' ≤ c ∧ c ≤ 'z' then some (c.toNat - 97)
  else if 'A' ≤ c ∧ c ≤ 'Z' then some (c.toNat - 65)
  else if '0' ≤ c ∧ c ≤ '9' then some (c.toNat - 22)
  else none

/-- From which value on a digit is followed by another one. -/
def threshold (place bias : Nat) : Nat :=
  max lowestThreshold (min highestThreshold (digitBase * place - bias))

private def settle (distance steps : Nat) : Nat :=
  if 455 < distance then settle (distance / 35) (steps + 1)
  else digitBase * steps + digitBase * distance / (distance + 38)
termination_by distance
decreasing_by omega

/-- The bias after a distance, with `count` characters in place. -/
def adapt (distance count : Nat) (first : Bool) : Nat :=
  let scaled := if first then distance / 700 else distance / 2
  settle (scaled + scaled / count) 0

/-- A distance in digits from the given place on. -/
def writeDistance (bias : Nat) (place value : Nat) : List Char :=
  let limit := threshold place bias
  if value < limit then [digitChar value]
  else
    digitChar (limit + (value - limit) % (digitBase - limit)) ::
      writeDistance bias (place + 1) ((value - limit) / (digitBase - limit))
termination_by value
decreasing_by
  have positive : 1 ≤ threshold place bias := Nat.le_max_left _ _
  exact Nat.lt_of_le_of_lt (Nat.div_le_self _ _) (by omega)

/-- Insertions written so far, and where the next one is counted from. -/
structure Writing where
  written : List Char
  distance : Nat
  count : Nat
  bias : Nat
  first : Bool

/-- Pass one character of the name while a code point is being inserted. -/
def Writing.pass (code : Nat) (writing : Writing) (c : Char) : Writing :=
  if c.toNat < code then { writing with distance := writing.distance + 1 }
  else if c.toNat = code then
    { written := writing.written ++ writeDistance writing.bias 1 writing.distance
      distance := 0
      count := writing.count + 1
      bias := adapt writing.distance (writing.count + 1) writing.first
      first := false }
  else writing

/-- Insert the code points in ascending order. -/
def writeCodes (name : List Char) : Nat → List Nat → Writing → List Char
  | _, [], writing => writing.written
  | next, code :: rest, writing =>
    let moved := { writing with
      distance := writing.distance + (code - next) * (writing.count + 1) }
    let passed := name.foldl (Writing.pass code) moved
    writeCodes name (code + 1) rest { passed with distance := passed.distance + 1 }

def isAscii (c : Char) : Bool := c.toNat < 128

def encode (name : List Char) : List Char :=
  let basic := name.filter isAscii
  let codes := ((name.filter (!isAscii ·)).map Char.toNat).mergeSort.eraseDups
  let start : Writing := ⟨[], 0, basic.length, initialBias, true⟩
  basic ++ (if basic.isEmpty then [] else ['-']) ++ writeCodes name initialCode codes start

/-- A distance from the front of the digits, and the digits after it. -/
def readDistance? (bias : Nat) (place weight value : Nat) : List Char → Option (Nat × List Char)
  | [] => none
  | c :: rest => do
    let digit ← digitValue? c
    let limit := threshold place bias
    let value := value + digit * weight
    if digit < limit then some (value, rest)
    else readDistance? bias (place + 1) (weight * (digitBase - limit)) value rest

/-- Insert characters at the distances read; the limit is never less than the count of digits. -/
def readCodes? : Nat → (bias code position : Nat) → (first : Bool) → (name digits : List Char) →
    Option (List Char)
  | _, _, _, _, _, name, [] => some name
  | 0, _, _, _, _, _, _ => none
  | limit + 1, bias, code, position, first, name, digits => do
    let (distance, rest) ← readDistance? bias 1 1 0 digits
    let count := name.length + 1
    let code := code + (position + distance) / count
    let position := (position + distance) % count
    if code.isValidChar then
      let name := name.take position ++ Char.ofNat code :: name.drop position
      readCodes? limit (adapt distance count first) code (position + 1) false name rest
    else none

/-- The name a written form stands for. The last hyphen ends the ASCII characters. -/
def decode? (text : List Char) : Option (List Char) :=
  let back := text.reverse
  let digits := (back.takeWhile (· != '-')).reverse
  let basic := ((back.dropWhile (· != '-')).drop 1).reverse
  if basic.all isAscii then readCodes? digits.length initialBias initialCode 0 true basic digits
  else none

end DueReminders.Url.Punycode
