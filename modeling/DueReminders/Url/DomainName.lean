import DueReminders.Text.Lowercase
import DueReminders.Url.Punycode

/-! Domain names. Names are compared in small letters; labels in other scripts travel in an ASCII
form that begins with `xn--`. -/
namespace DueReminders.Url.DomainName

/-- Characters that leave no trace in a name: soft hyphens, joiners without width and selectors. -/
def isIgnored (c : Char) : Bool :=
  let code := c.toNat
  code == 0xAD || code == 0x34F || (0x115F ≤ code && code ≤ 0x1160) ||
    (0x17B4 ≤ code && code ≤ 0x17B5) || (0x180B ≤ code && code ≤ 0x180F) || code == 0x200B ||
    (0x2060 ≤ code && code ≤ 0x2064) || (0x206A ≤ code && code ≤ 0x206F) || code == 0x3164 ||
    (0xFE00 ≤ code && code ≤ 0xFE0F) || code == 0xFEFF || code == 0xFFA0 ||
    (0xE0100 ≤ code && code ≤ 0xE01EF)

/-- Characters no name may have: controls, joiners, marks of direction and private ones. -/
def isRefused (c : Char) : Bool :=
  let code := c.toNat
  (0x80 ≤ code && code ≤ 0x9F) || code == 0x61C || (0x200C ≤ code && code ≤ 0x200F) ||
    (0x2028 ≤ code && code ≤ 0x202E) || (0x2065 ≤ code && code ≤ 0x2069) ||
    (0xE000 ≤ code && code ≤ 0xF8FF) || (0xFDD0 ≤ code && code ≤ 0xFDEF) ||
    (0xFFF9 ≤ code && code ≤ 0xFFFF) || 0x323B0 ≤ code

/-- Characters that stand for others besides small letters. -/
def variants : List (Char × String) :=
  [('\u00A0', " "), ('\u00A8', " \u0308"), ('\u00AA', "a"), ('\u00AF', " \u0304"), ('\u00B2', "2"),
    ('\u00B3', "3"), ('\u00B4', " \u0301"), ('\u00B5', "\u03BC"), ('\u00B8', " \u0327"),
    ('\u00B9', "1"), ('\u00BA', "o"), ('\u00BC', "1\u20444"), ('\u00BD', "1\u20442"),
    ('\u00BE', "3\u20444"), ('\u0130', "i\u0307"), ('\u0132', "ij"), ('\u0133', "ij"),
    ('\u013F', "l\u00B7"), ('\u0140', "l\u00B7"), ('\u0149', "\u02BCn"), ('\u017F', "s"),
    ('\u2126', "\u03C9"), ('\u212A', "k"), ('\u212B', "\u00E5"), ('\u3000', " "), ('\u3002', "."),
    ('\uFF61', ".")]

/-- The characters a character of a name stands for, or none when it is refused. -/
def fold? (c : Char) : Option (List Char) :=
  if c.toNat < 128 then some [c.toLower]
  else if isIgnored c then some []
  else if isRefused c then none
  else if 0xFF01 ≤ c.toNat ∧ c.toNat ≤ 0xFF5E then some [(Char.ofNat (c.toNat - 0xFEE0)).toLower]
  else
    match variants.lookup c with
    | some standing => some standing.toList
    | none => some [Text.lowercase c]

/-- ASCII characters that have a meaning of their own in a URL or cannot be seen. -/
def isReserved (c : Char) : Bool :=
  c.toNat ≤ 0x20 || c.toNat == 0x7F ||
    ['%', '#', '/', ':', '<', '>', '?', '@', '[', '\\', ']', '^', '|'].contains c

def labels : List Char → List (List Char)
  | [] => [[]]
  | c :: rest =>
    if c = '.' then [] :: labels rest
    else
      match labels rest with
      | [] => [[c]]
      | head :: tail => (c :: head) :: tail

def asciiMark : List Char := ['x', 'n', '-', '-']

/-- A decoded label has to be what its ASCII form would be made of. -/
def isDecodedLabel (label : List Char) : Bool :=
  !label.isEmpty && label.any (!Punycode.isAscii ·) &&
    label.all fun c => fold? c == some [c] && !isReserved c

/-- The ASCII form of a folded label. -/
def asciiLabel? (label : List Char) : Option (List Char) :=
  if asciiMark.isPrefixOf label then
    match Punycode.decode? (label.drop 4) with
    | some decoded => if label.all Punycode.isAscii && isDecodedLabel decoded then some label else none
    | none => none
  else if label.all Punycode.isAscii then some label
  else some (asciiMark ++ Punycode.encode label)

def toAscii? (name : List Char) : Option (List Char) := do
  let folded ← name.mapM fold?
  let forms ← (labels folded.flatten).mapM asciiLabel?
  some (['.'].intercalate forms)

/-- The ASCII form of a host name, which has no reserved characters. -/
def toHost? (name : List Char) : Option (List Char) :=
  (toAscii? name).filter fun host => !host.any isReserved

end DueReminders.Url.DomainName
