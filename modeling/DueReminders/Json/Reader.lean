import DueReminders.Json.Numeral
import DueReminders.Text.Taker

/-! Reading JSON texts, strictly. Containers may be nested to a limited depth, and escapes have to
stand for whole characters. -/
namespace DueReminders.Json

open DueReminders.Text (Taker)

def isSpace (c : Char) : Bool := c == ' ' || c == '\t' || c == '\n' || c == '\r'

def skipSpace (text : List Char) : List Char := text.dropWhile isSpace

def hexDigit? (c : Char) : Option Nat :=
  if '0' ≤ c ∧ c ≤ '9' then some (c.toNat - 48)
  else if 'a' ≤ c ∧ c ≤ 'f' then some (c.toNat - 87)
  else if 'A' ≤ c ∧ c ≤ 'F' then some (c.toNat - 55)
  else none

def takeUnit? : Taker Nat
  | a :: b :: c :: d :: rest => do
    let a ← hexDigit? a
    let b ← hexDigit? b
    let c ← hexDigit? c
    let d ← hexDigit? d
    some (((a * 16 + b) * 16 + c) * 16 + d, rest)
  | _ => none

/-- The character of an escape after its backslash. A high surrogate needs its low one. -/
def takeEscape? : Taker Char
  | 'u' :: rest => do
    let (unit, rest) ← takeUnit? rest
    if unit < 0xD800 ∨ 0xDFFF < unit then some (Char.ofNat unit, rest)
    else if unit < 0xDC00 then
      match rest with
      | '\\' :: 'u' :: rest => do
        let (low, rest) ← takeUnit? rest
        if 0xDC00 ≤ low ∧ low ≤ 0xDFFF then
          some (Char.ofNat (0x10000 + (unit - 0xD800) * 0x400 + (low - 0xDC00)), rest)
        else none
      | _ => none
    else none
  | '"' :: rest => some ('"', rest)
  | '\\' :: rest => some ('\\', rest)
  | '/' :: rest => some ('/', rest)
  | 'b' :: rest => some ('\x08', rest)
  | 'f' :: rest => some ('\x0c', rest)
  | 'n' :: rest => some ('\n', rest)
  | 'r' :: rest => some ('\r', rest)
  | 't' :: rest => some ('\t', rest)
  | _ => none

/-- The characters of a string after its opening quote, in reverse on top of `taken`. The limit is
never less than the length of the text. -/
def takeCharacters? (taken : List Char) : Nat → List Char → Option (List Char × List Char)
  | _, '"' :: rest => some (taken, rest)
  | limit + 1, '\\' :: rest =>
    match takeEscape? rest with
    | some (c, rest) => takeCharacters? (c :: taken) limit rest
    | none => none
  | limit + 1, c :: rest =>
    if c.toNat < 0x20 then none else takeCharacters? (c :: taken) limit rest
  | _, _ => none

def takeString? (limit : Nat) : Taker String := fun text =>
  (takeCharacters? [] limit text).map fun (taken, rest) => (String.ofList taken.reverse, rest)

/-- Elements with commas between them up to the closing character, at least one. The limit is never
less than the length of the text. -/
def takeElements? {α : Type} (close : Char) (element : Taker α) (taken : List α) :
    Nat → List Char → Option (List α × List Char)
  | 0, _ => none
  | limit + 1, chars =>
    match element (skipSpace chars) with
    | none => none
    | some (value, rest) =>
      match skipSpace rest with
      | [] => none
      | c :: rest =>
        if c = close then some ((value :: taken).reverse, rest)
        else if c = ',' then takeElements? close element (value :: taken) limit rest
        else none

def takeAll? {α : Type} (close : Char) (element : Taker α) (limit : Nat) : Taker (List α) := fun text =>
  match skipSpace text with
  | [] => none
  | c :: rest =>
    if c = close then some ([], rest) else takeElements? close element [] limit (c :: rest)

def takeMember? (value : Taker Json) (limit : Nat) : Taker (String × Json)
  | '"' :: rest => do
    let (name, rest) ← takeString? limit rest
    match skipSpace rest with
    | ':' :: rest =>
      let (value, rest) ← value (skipSpace rest)
      some ((name, value), rest)
    | _ => none
  | _ => none

/-- A value that begins at once; `nested` reads what stands inside containers. -/
def takeWith? (nested : Option (Taker Json)) (limit : Nat) : Taker Json
  | 'n' :: 'u' :: 'l' :: 'l' :: rest => some (.null, rest)
  | 't' :: 'r' :: 'u' :: 'e' :: rest => some (.boolean true, rest)
  | 'f' :: 'a' :: 'l' :: 's' :: 'e' :: rest => some (.boolean false, rest)
  | '"' :: rest => (takeString? limit rest).map fun (content, rest) => (.text content, rest)
  | '[' :: rest =>
    nested.bind fun nested =>
      (takeAll? ']' nested limit rest).map fun (elements, rest) => (.array elements, rest)
  | '{' :: rest =>
    nested.bind fun nested =>
      (takeAll? '}' (takeMember? nested limit) limit rest).map fun (members, rest) =>
        (.object (Members.ofList members), rest)
  | chars => do
    let (numeral, rest) ← Numeral.take? chars
    let number ← numeral.number?
    some (.number number, rest)

/-- A value with containers nested at most `depth` deep. -/
def takeValue? (limit : Nat) : Nat → Taker Json
  | 0 => takeWith? none limit
  | depth + 1 => takeWith? (some (takeValue? limit depth)) limit

def depthLimit : Nat := 127

/-- The value of a text, with spaces around it allowed. -/
def read? (text : String) : Option Json :=
  match takeValue? text.length depthLimit (skipSpace text.toList) with
  | some (value, rest) => if (skipSpace rest).isEmpty then some value else none
  | none => none

end DueReminders.Json
