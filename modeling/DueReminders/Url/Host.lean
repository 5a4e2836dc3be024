import DueReminders.Number.Digits
import DueReminders.Url.DomainName
import DueReminders.Url.Percent

/-! Hosts: domain names, the two kinds of network addresses, and texts whose meaning is left to the
scheme. -/
namespace DueReminders

/-- Why a text is no URL. -/
inductive UrlError where
  | emptyHost
  | domainName
  | port
  | address4
  | address6
  | hostCharacter
  | noBase
  | opaqueBase
  deriving DecidableEq, Repr

def UrlError.message : UrlError → String
  | .emptyHost => "empty host"
  | .domainName => "invalid international domain name"
  | .port => "invalid port number"
  | .address4 => "invalid IPv4 address"
  | .address6 => "invalid IPv6 address"
  | .hostCharacter => "invalid domain character"
  | .noBase => "relative URL without a base"
  | .opaqueBase => "relative URL with a cannot-be-a-base base"

inductive Url.Host where
  | domain (name : List Char)
  | address4 (number : Nat)
  | address6 (pieces : List Nat)
  deriving DecidableEq, Repr

namespace Url.Host

def digit? (base : Nat) (c : Char) : Option Nat :=
  let value? :=
    if '0' ≤ c ∧ c ≤ '9' then some (c.toNat - 48)
    else if 'a' ≤ c ∧ c ≤ 'f' then some (c.toNat - 87)
    else if 'A' ≤ c ∧ c ≤ 'F' then some (c.toNat - 55)
    else none
  value?.filter (· < base)

def number? (base : Nat) (text : List Char) : Option Nat :=
  text.foldl (fun value c => do some ((← value) * base + (← digit? base c))) (some 0)

/-- A part of an address: hexadecimal after `0x`, octal after a zero, else decimal. -/
def part? : List Char → Option Nat
  | [] => none
  | '0' :: 'x' :: rest | '0' :: 'X' :: rest => number? 16 rest
  | '0' :: c :: rest => number? 8 (c :: rest)
  | text => number? 10 text

/-- The labels of a name without the empty one after a last dot. -/
def parts (name : List Char) : List (List Char) :=
  let all := DomainName.labels name
  if all.length ≠ 1 ∧ all.getLast? = some [] then all.dropLast else all

/-- A name whose last label is a number has to be an address. -/
def endsInNumber (name : List Char) : Bool :=
  match (parts name).getLast? with
  | some last => !last.isEmpty && (last.all Char.isDigit || (part? last).isSome)
  | none => false

/-- One to four parts; the last one fills the bytes the others leave. -/
def readAddress4 (name : List Char) : Except UrlError Nat :=
  match (parts name).mapM part? with
  | none => .error .address4
  | some numbers =>
    let leading := numbers.dropLast
    let last := numbers.getLast?.getD 0
    if 4 < numbers.length ∨ leading.any (255 < ·) ∨ Nat.pow 256 (4 - leading.length) ≤ last then
      .error .address4
    else
      let start := leading.foldl (fun value byte => value * 256 + byte) 0
      .ok (start * Nat.pow 256 (4 - leading.length) + last)

/-- Text between the colons of an address. -/
def colonParts : List Char → List (List Char)
  | [] => [[]]
  | c :: rest =>
    if c = ':' then [] :: colonParts rest
    else
      match colonParts rest with
      | [] => [[c]]
      | head :: tail => (c :: head) :: tail

/-- One to four hexadecimal digits. -/
def piece? (text : List Char) : Option Nat :=
  if 1 ≤ text.length ∧ text.length ≤ 4 then number? 16 text else none

/-- A byte in decimal without leading zeros. -/
def byte? (text : List Char) : Option Nat :=
  if text = [] ∨ (text.head? = some '0' ∧ text.length ≠ 1) then none
  else (number? 10 text).filter (· ≤ 255)

/-- The pieces of one side of an address; the last one may be written as four bytes. -/
def pieces? (dotted : Bool) : List (List Char) → Option (List Nat)
  | [] => some []
  | [last] =>
    if last.contains '.' then
      match (DomainName.labels last).mapM byte? with
      | some [a, b, c, d] => if dotted then some [a * 256 + b, c * 256 + d] else none
      | _ => none
    else (piece? last).map ([·])
  | head :: rest => do
    let first ← piece? head
    let others ← pieces? dotted rest
    some (first :: others)

/-- Eight pieces; one run of zeros may be left out between two colons. -/
def readAddress6 (text : List Char) : Except UrlError (List Nat) :=
  let side (dotted : Bool) (text : List Char) : Option (List Nat) :=
    if text = [] then some [] else pieces? dotted (colonParts text)
  let read : Option (List Nat) :=
    match gap text with
    | none => (side true text).filter (·.length == 8)
    | some (before, after) => do
      let front ← side false before
      let back ← side true after
      if front.length + back.length ≤ 7 then
        some (front ++ List.replicate (8 - front.length - back.length) 0 ++ back)
      else none
  match read with
  | some pieces => .ok pieces
  | none => .error .address6
where
  /-- The texts around the first pair of colons. -/
  gap : List Char → Option (List Char × List Char)
    | ':' :: ':' :: rest => some ([], rest)
    | c :: rest => (gap rest).map fun (before, after) => (c :: before, after)
    | [] => none

def readBracketed (text : List Char) : Except UrlError Host :=
  if text.getLast? = some ']' then (readAddress6 (text.drop 1).dropLast).map .address6
  else .error .address6

/-- The host of a scheme whose hosts are names or addresses. -/
def read (text : List Char) : Except UrlError Host :=
  if text.head? = some '[' then readBracketed text
  else
    match String.fromUTF8? ⟨(percentDecode (text.flatMap String.utf8EncodeChar)).toArray⟩ with
    | none => .error .domainName
    | some decoded =>
      match DomainName.toHost? decoded.toList with
      | none => .error .domainName
      | some [] => .error .emptyHost
      | some name => if endsInNumber name then (readAddress4 name).map .address4 else .ok (.domain name)

/-- Characters that cannot stand in the host of any scheme. -/
def refused : List Char :=
  ['\x00', '\t', '\n', '\r', ' ', '#', '/', ':', '<', '>', '?', '@', '[', '\\', ']', '^', '|']

/-- The host of a scheme that gives it its own meaning; it may be empty. -/
def readOpaque (text : List Char) : Except UrlError Host :=
  if text.head? = some '[' then readBracketed text
  else if text.any refused.contains then .error .hostCharacter
  else .ok (.domain (percentEncode isPrintable text))

def isEmpty (host : Host) : Bool := host == .domain []

def lowerHex (number : Nat) : List Char :=
  (Nat.toDigits 16 number)

/-- Where the longest run of at least two zeros starts and how long it is; the first of equals. -/
def longestZeros (pieces : List Nat) : Option (Nat × Nat) :=
  (List.range pieces.length).foldl
    (fun best start =>
      let run := ((pieces.drop start).takeWhile (· == 0)).length
      match best with
      | none => if 2 ≤ run then some (start, run) else none
      | some (_, longest) => if longest < run then some (start, run) else best)
    none

def writePieces (pieces : List Nat) : List Char := [':'].intercalate (pieces.map lowerHex)

def write : Host → List Char
  | .domain name => name
  | .address4 number =>
    ['.'].intercalate ([number / 16777216, number / 65536 % 256, number / 256 % 256, number % 256].map
      Number.digits)
  | .address6 pieces =>
    let inner :=
      match longestZeros pieces with
      | none => writePieces pieces
      | some (start, run) =>
        writePieces (pieces.take start) ++ [':', ':'] ++ writePieces (pieces.drop (start + run))
    '[' :: inner ++ [']']

end Url.Host
end DueReminders
