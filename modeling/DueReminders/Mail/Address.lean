import DueReminders.Failure
import DueReminders.Url.DomainName

/-! Mail addresses: a local part and a domain. -/
namespace DueReminders

/-- Why a text is no mail address. -/
inductive AddressError where
  | malformed
  | user
  | domain
  deriving DecidableEq, Repr

def AddressError.message : AddressError → String
  | .malformed => "Invalid input"
  | .user => "Invalid email user"
  | .domain => "Invalid email domain"

def AddressError.toFailure (error : AddressError) : Failure :=
  ⟨.mail, "invalid address: " ++ error.message⟩

/-- An address whose parts have been checked. -/
structure Address where
  user : List Char
  domain : List Char
  deriving DecidableEq, Repr

namespace Address

/-- Size of a text in bytes. -/
def size (text : List Char) : Nat := text.foldr (fun c total => c.utf8Size + total) 0

/-- Characters of an atom: letters, digits, a few marks, and everything outside ASCII. -/
def isAtomCharacter (c : Char) : Bool :=
  c.isAlphanum || 128 ≤ c.toNat ||
    ['!', '#', '$', '%', '&', '\x27', '*', '+', '-', '/', '=', '?', '^', '_', '\x60', '{', '|', '}',
      '~'].contains c

/-- A local part: atoms with dots between them, at most 64 bytes. -/
def isUser (user : List Char) : Bool :=
  size user ≤ 64 &&
    (Url.DomainName.labels user).all fun atom => !atom.isEmpty && atom.all isAtomCharacter

/-- Letters, digits and hyphens, with a hyphen at neither end, at most 63 of them. -/
def isLabel (label : List Char) : Bool :=
  !label.isEmpty && label.length ≤ 63 && label.all (fun c => c.isAlphanum || c == '-') &&
    label.head? != some '-' && label.getLast? != some '-'

def isAsciiDomain (domain : List Char) : Bool :=
  domain.length ≤ 254 && (Url.DomainName.labels domain).all isLabel

/-- A domain in ASCII, or one that has such a form. -/
def isDomain (domain : List Char) : Bool :=
  isAsciiDomain domain || (Url.DomainName.toAscii? domain).any isAsciiDomain

/-- The address of two parts; the local part is checked first. -/
def ofParts (user domain : List Char) : Except AddressError Address :=
  if ¬isUser user then .error .user
  else if ¬isDomain domain then .error .domain
  else .ok ⟨user, domain⟩

def write (address : Address) : List Char := address.user ++ '@' :: address.domain

def text (address : Address) : String := String.ofList address.write

end Address
end DueReminders
