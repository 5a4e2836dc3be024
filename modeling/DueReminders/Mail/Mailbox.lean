import DueReminders.Mail.Address
import DueReminders.Text.Blank
import DueReminders.Text.Taker

/-! Mailboxes: an address alone, or a name and the address in angle brackets. There are no comments
and no addresses by number. -/
namespace DueReminders

structure Mailbox where
  name : Option (List Char)
  address : Address
  deriving DecidableEq, Repr

namespace Mailbox

open Text Taker

def isSpace (c : Char) : Bool := c == ' ' || c == '\t'

def isQuotedControl (c : Char) : Bool :=
  let code := c.toNat
  (1 ≤ code && code ≤ 8) || code == 11 || code == 12 || (14 ≤ code && code ≤ 31) || code == 127

def isQuotedCharacter (c : Char) : Bool :=
  let code := c.toNat
  isQuotedControl c || code == 33 || (35 ≤ code && code ≤ 91) || (93 ≤ code && code ≤ 126) || 128 ≤ code

def isEscapable (c : Char) : Bool :=
  1 ≤ c.toNat && c.toNat ≤ 127 && c != '\n' && c != '\r'

/-- Spaces and tabs; the first of them counts and the others are passed over. -/
def takeGap (text : List Char) : List Char × List Char :=
  ((text.takeWhile isSpace).take 1, text.dropWhile isSpace)

/-- Atoms with dots between them; spaces before them are passed over. -/
def dotAtom : Taker (List Char) := fun text => do
  let (first, rest) ← some1 Address.isAtomCharacter (text.dropWhile isSpace)
  let further : Taker (List Char) := fun text => do
    let (_, rest) ← one (· == '.') text
    let (atom, rest) ← some1 Address.isAtomCharacter rest
    some ('.' :: atom, rest)
  let (others, rest) := many further rest
  some (first ++ others.flatten, rest)

/-- A character between quotes, bare or after a backslash. -/
def quotedCharacter : Taker Char :=
  orElse (one isQuotedCharacter) fun text => do
    let (_, rest) ← one (· == '\\') text
    one isEscapable rest

def quoted : Taker (List Char) := fun text => do
  let (_, rest) ← one (· == '"') text
  let piece : Taker (List Char) := fun text => do
    let (gap, rest) := takeGap text
    let (c, rest) ← quotedCharacter rest
    some (gap ++ [c], rest)
  let (pieces, rest) := many piece rest
  let (_, rest) ← one (· == '"') (trimStart rest)
  some (pieces.flatten, rest)

/-- A word of a name: quoted text, or an atom with the space before it. -/
def word : Taker (List Char) :=
  orElse quoted fun text => do
    let (gap, rest) := takeGap text
    let (atom, rest) ← some1 Address.isAtomCharacter rest
    some (gap ++ atom, rest)

/-- A name: a word, then words and dots. -/
def displayName : Taker (List Char) := fun text => do
  let (first, rest) ← word text
  let dot : Taker (List Char) := fun text => do
    let (c, rest) ← one (· == '.') text
    some ([c], rest)
  let (others, rest) := many (orElse word dot) rest
  some (first ++ others.flatten, rest)

/-- The local part and the domain around an at sign. -/
def addressParts : Taker (List Char × List Char) := fun text => do
  let (user, rest) ← orElse dotAtom quoted text
  let (_, rest) ← one (· == '@') rest
  let (domain, rest) ← dotAtom rest
  some ((user, domain), rest)

def bracketed : Taker (List Char × List Char) := fun text => do
  let (_, rest) ← one (· == '<') (trimStart text)
  let (parts, rest) ← addressParts rest
  let (_, rest) ← one (· == '>') rest
  some (parts, trimStart rest)

/-- An address, or an optional name and an address in brackets. -/
def form : Taker (Option (List Char) × List Char × List Char) :=
  orElse
    (fun text => do
      let (parts, rest) ← addressParts text
      some ((none, parts), rest))
    fun text => do
      let (name, rest) : Option (List Char) × List Char :=
        match displayName text with
        | some (name, rest) => (some name, rest)
        | none => (none, text)
      let (parts, rest) ← bracketed rest
      some ((name, parts), rest)

/-- The mailbox of a text; blanks around it do not matter and nothing may be left over. -/
def read (text : String) : Except AddressError Mailbox :=
  match form (trimStart text.toList) with
  | none => .error .malformed
  | some ((name, user, domain), rest) =>
    if ¬(trimStart rest).isEmpty then .error .malformed
    else (Address.ofParts user domain).map fun address => ⟨name, address⟩

/-- Characters a name may have without quotes. Among the digits 9 is not one of them. -/
def isBare (c : Char) : Bool :=
  isSpace c || ('0' ≤ c && c ≤ '8') || c.isAlpha || 128 ≤ c.toNat ||
    ['!', '#', '$', '%', '&', '\x27', '*', '+', '-', '/', '=', '?', '^', '_', '\x60', '{', '|', '}',
      '~'].contains c

def quoteName (name : List Char) : List Char :=
  '"' :: name.flatMap (fun c => if c = '"' ∨ c = '\\' then ['\\', c] else [c]) ++ ['"']

/-- The mailbox as a header shows it; a blank name is left out. -/
def text (mailbox : Mailbox) : String :=
  let address := mailbox.address.write
  match trim (mailbox.name.getD []) with
  | [] => String.ofList address
  | name =>
    let shown := if name.all isBare then name else quoteName name
    String.ofList (shown ++ [' ', '<'] ++ address ++ ['>'])

end Mailbox
end DueReminders
