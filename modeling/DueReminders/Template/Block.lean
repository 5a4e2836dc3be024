import DueReminders.Failure
import DueReminders.Text.Search

/-! Conditional blocks. A block starts at the first occurrence of its start marker and ends at the
first occurrence of its end marker after that; only this one region is resolved. -/
namespace DueReminders.Template

/-- The marker that stands for a name, as in `@{TODAY}`. -/
def token (name : List Char) : List Char := ['@', '{'] ++ name ++ ['}']

/-- The marker that ends the block of a name, as in `@{/TODAY}`. -/
def endMarker (name : List Char) : List Char := ['@', '{', '/'] ++ name ++ ['}']

/-- Why a block could not be resolved. -/
inductive Unresolved where
  | noStart (start : List Char)
  | noEnd (start stop : List Char)
  deriving DecidableEq, Repr

def Unresolved.message : Unresolved → String
  | .noStart start => "block start " ++ String.ofList start ++ " not found"
  | .noEnd start stop =>
    "block end " ++ String.ofList stop ++ " not found after " ++ String.ofList start

def Unresolved.toFailure (cause : Unresolved) : Failure := ⟨.template, cause.message⟩

/-- Remove the markers of the first block and, unless `keep`, all between them. -/
def resolveBlock (template start stop : List Char) (keep : Bool) : Except Unresolved (List Char) :=
  match Text.splitFirst? start template with
  | none => .error (.noStart start)
  | some (before, rest) =>
    match Text.splitFirst? stop rest with
    | none => .error (.noEnd start stop)
    | some (body, after) => .ok (before ++ (if keep then body else []) ++ after)

theorem resolveBlock_of_found {template start stop before rest body after : List Char}
    (opened : Text.splitFirst? start template = some (before, rest))
    (closed : Text.splitFirst? stop rest = some (body, after)) (keep : Bool) :
    resolveBlock template start stop keep = .ok (before ++ (if keep then body else []) ++ after) := by
  simp only [resolveBlock, opened, closed]

def resolveNamed (template name : List Char) (keep : Bool) : Except Unresolved (List Char) :=
  resolveBlock template (token name) (endMarker name) keep

end DueReminders.Template
