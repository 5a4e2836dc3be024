import DueReminders.Calendar.Writing
import DueReminders.Json.Quoted
import DueReminders.Number.Integer

/-! The log of a run and the filter that admits its entries. A filter is a list of rules: a level, a
source with a level, or a source alone. -/
namespace DueReminders

inductive LogLevel where
  | error
  | warn
  | info
  | debug
  | trace
  deriving DecidableEq, Repr

/-- How much detail a level stands for; zero is silence. -/
def LogLevel.rank : LogLevel → Nat
  | .error => 1
  | .warn => 2
  | .info => 3
  | .debug => 4
  | .trace => 5

def LogLevel.name : LogLevel → String
  | .error => "ERROR"
  | .warn => "WARN"
  | .info => "INFO"
  | .debug => "DEBUG"
  | .trace => "TRACE"

/-- A line of the log: how urgent it is, the part of the program it comes from, and its words. -/
structure LogEntry where
  level : LogLevel
  source : String
  words : String
  deriving DecidableEq, Repr

/-- The entry as an object on one line, with the instant of universal time it was made at. -/
def LogEntry.line (entry : LogEntry) (now : DateTime) : String :=
  let quoted (content : String) : String := String.ofList (Json.quoted content.toList)
  let micros := String.ofList (Number.padded 6 (now.time.nano / 1000))
  let timestamp := String.ofList now.compact ++ "." ++ micros ++ "Z"
  "\x7b\"timestamp\":" ++ quoted timestamp ++ ",\"level\":" ++ quoted entry.level.name ++
    ",\"fields\":\x7b\"message\":" ++ quoted entry.words ++ "\x7d,\"target\":" ++ quoted entry.source ++
    "\x7d"

/-- Entries from sources that begin with `source` are admitted up to the rank `limit`. A rule for
entries inside a span of time admits none, as the program opens no spans. -/
structure LogRule where
  source : List Char
  limit : Nat
  inSpan : Bool := false
  deriving DecidableEq, Repr

namespace LogRule

/-- A rank by its name in any case, or by its number. -/
def limit? (text : List Char) : Option Nat :=
  match Number.IntegerRange.word64.read text with
  | .ok number => if number ≤ 5 then some number.toNat else none
  | .error _ =>
    [("off", 0), ("error", 1), ("warn", 2), ("info", 3), ("debug", 4), ("trace", 5)].lookup
      (String.ofList (text.map Char.toLower))

/-- A rule of a filter. A source without a level is admitted in full. -/
def read? (text : List Char) : Option LogRule :=
  let source := text.takeWhile fun c => c != '=' && c != '['
  match text.dropWhile fun c => c != '=' && c != '[' with
  | '[' :: rest => if rest.contains ']' then some ⟨source, 5, true⟩ else none
  | rest =>
    if ¬text.head?.any fun c => c.isAlphanum || ['-', ':', '_'].contains c || 128 ≤ c.toNat then none
    else
      match rest with
      | [_] => some ⟨source, 5, false⟩
      | _ :: level => (limit? level).map (⟨source, ·, false⟩)
      | [] =>
        match limit? source with
        | some limit => some ⟨[], limit, false⟩
        | none => some ⟨source, 5, false⟩

def covers (rule : LogRule) (entry : LogEntry) : Bool :=
  !rule.inSpan && rule.source.isPrefixOf entry.source.toList

end LogRule

abbrev LogFilter := List LogRule

namespace LogFilter

/-- Everything but details, the filter used when none is given or it cannot be read. -/
def standard : LogFilter := [⟨[], 3, false⟩]

def items : List Char → List (List Char)
  | [] => [[]]
  | c :: rest =>
    if c = ',' then [] :: items rest
    else
      match items rest with
      | [] => [[c]]
      | head :: tail => (c :: head) :: tail

/-- A filter from its text; an empty one admits errors alone. -/
def read (text : String) : LogFilter :=
  match (items text.toList).filter (!·.isEmpty) with
  | [] => [⟨[], 1, false⟩]
  | items => (items.mapM LogRule.read?).getD standard

/-- The rule with the longest source that covers an entry, the last of equals. -/
def ruleFor? (filter : LogFilter) (entry : LogEntry) : Option LogRule :=
  (filter.filter (·.covers entry)).foldl
    (fun best rule =>
      match best with
      | some held => if held.source.length ≤ rule.source.length then some rule else best
      | none => some rule)
    none

def admits (filter : LogFilter) (entry : LogEntry) : Bool :=
  match filter.ruleFor? entry with
  | some rule => entry.level.rank ≤ rule.limit
  | none => false

end LogFilter
end DueReminders
