/-! Percent encoding of texts as UTF-8, and the characters that may stand for themselves in the
parts of a URL. -/
namespace DueReminders.Url

def hexDigit (value : Nat) : Char :=
  if value < 10 then Char.ofNat (48 + value) else Char.ofNat (55 + value)

/-- A percent sign and two hexadecimal digits in capitals. -/
def percentByte (byte : UInt8) : List Char :=
  ['%', hexDigit (byte.toNat / 16), hexDigit (byte.toNat % 16)]

/-- Encode the characters that may not stand for themselves, byte by byte. -/
def percentEncode (plain : Char → Bool) (text : List Char) : List Char :=
  text.flatMap fun c =>
    if plain c then [c] else (String.utf8EncodeChar c).flatMap percentByte

def hexValue? (byte : UInt8) : Option Nat :=
  let code := byte.toNat
  if 48 ≤ code ∧ code ≤ 57 then some (code - 48)
  else if 65 ≤ code ∧ code ≤ 70 then some (code - 55)
  else if 97 ≤ code ∧ code ≤ 102 then some (code - 87)
  else none

/-- Decode percent signs that are followed by two hexadecimal digits. -/
def percentDecode : List UInt8 → List UInt8
  | 37 :: high :: low :: rest =>
    match hexValue? high, hexValue? low with
    | some a, some b => UInt8.ofNat (a * 16 + b) :: percentDecode rest
    | _, _ => 37 :: percentDecode (high :: low :: rest)
  | byte :: rest => byte :: percentDecode rest
  | [] => []

def isPrintable (c : Char) : Bool := 0x20 ≤ c.toNat && c.toNat < 0x7F

def isAlphanumeric (c : Char) : Bool := c.isAlphanum

def printableBut (excluded : List Char) (c : Char) : Bool := isPrintable c && !excluded.contains c

def fragmentPlain : Char → Bool := printableBut [' ', '"', '<', '>', '\x60']

def queryPlain : Char → Bool := printableBut [' ', '"', '<', '>', '#']

/-- In the query of a special scheme the apostrophe is encoded as well. -/
def specialQueryPlain : Char → Bool := printableBut [' ', '"', '<', '>', '#', '\x27']

def pathPlain : Char → Bool := printableBut [' ', '"', '<', '>', '\x60', '#', '?', '{', '}']

def userInfoPlain : Char → Bool :=
  printableBut [' ', '"', '<', '>', '\x60', '#', '?', '{', '}', '/', ':', ';', '=', '@', '[', '\\',
    ']', '^', '|']

end DueReminders.Url
