import DueReminders.Program
import DueReminders.Proofs.Text.Passing

/-! What a notice to the operator says. -/
namespace DueReminders

theorem escapeMarkup_append (front back : List Char) :
    escapeMarkup (front ++ back) = escapeMarkup front ++ escapeMarkup back :=
  List.flatMap_append

theorem escapeMarkup_eq_self {text : List Char} (plain : ∀ c ∈ text, c ≠ '&' ∧ c ≠ '<' ∧ c ≠ '>') :
    escapeMarkup text = text := by
  induction text with
  | nil => rfl
  | cons c rest ih =>
    obtain ⟨⟨noAmpersand, noLess, noGreater⟩, later⟩ := List.forall_mem_cons.mp plain
    rw [escapeMarkup] at ih ⊢
    rw [List.flatMap_cons, ih later, if_neg noAmpersand, if_neg noLess, if_neg noGreater]
    rfl

theorem escapeMarkup_intercalate (separator : List Char) (texts : List (List Char)) :
    escapeMarkup (separator.intercalate texts) =
      (escapeMarkup separator).intercalate (texts.map escapeMarkup) := by
  induction texts with
  | nil => rfl
  | cons head rest ih =>
    cases rest with
    | nil => simp
    | cons next rest =>
      rw [List.intercalate_cons_cons, escapeMarkup_append, escapeMarkup_append, ih]
      simp

theorem escapeMarkup_digits (number : Nat) :
    escapeMarkup (Number.digits number) = Number.digits number := by
  refine escapeMarkup_eq_self fun c member => ?_
  have digit := Number.isDigit_of_mem_digits member
  refine ⟨?_, ?_, ?_⟩
  all_goals
    rintro rfl
    cases digit

/-- Escaping is replacing the three characters one after the other, and the ampersand first. -/
theorem escapeMarkup_eq_replaceAll (text : List Char) :
    escapeMarkup text =
      Text.replaceAll ['>'] "&gt;".toList
        (Text.replaceAll ['<'] "&lt;".toList (Text.replaceAll ['&'] "&amp;".toList text)) := by
  rw [Text.replaceAll_singleton, Text.replaceAll_singleton, Text.replaceAll_singleton,
    List.flatMap_assoc, List.flatMap_assoc, escapeMarkup]
  congr 1
  funext c
  by_cases ampersand : c = '&'
  · subst ampersand
    decide
  · by_cases less : c = '<'
    · subst less
      decide
    · simp [ampersand, less]

def escaped (text : String) : String := String.ofList (escapeMarkup text.toList)

/-- The notice tells how many mails out of how many could not be sent, and has a line for each of
these, in their order. Where the environment asks for a trace of calls, which `Problem.details`
leaves out, it follows these lines. -/
def Envelope.Lists (notice : Envelope) (report : Report) : Prop :=
  let count (number : Nat) : String := String.ofList (Number.digits number)
  notice.html = "<pre>" ++ count report.failed.length ++ " of " ++
    count (report.failed.length + report.sent.length) ++ " digest(s) could not be sent:\n" ++
    "\n".intercalate (report.failed.map fun (email, failure) =>
      escaped (email ++ ": " ++ failure.message)) ++ "</pre>"

namespace Settings

/-- The notice goes to the operator, as its recipient and in copy. -/
def Alarms (settings : Settings) (notice : Envelope) : Prop :=
  notice.recipient = settings.operator ∧ notice.copyTo = some settings.operator

theorem alarms_failureNotice (settings : Settings) (today : Date) (details : String) :
    settings.Alarms (settings.failureNotice today details) :=
  ⟨rfl, rfl⟩

theorem lists_failureNotice (settings : Settings) (today : Date) (report : Report) :
    (settings.failureNotice today (Problem.ofReport report).details).Lists report := by
  have shown (number : Nat) : escapeMarkup (Number.digits number) = Number.digits number :=
    escapeMarkup_digits number
  have between : escapeMarkup " of ".toList = " of ".toList := by decide
  have said : escapeMarkup " digest(s) could not be sent:\n".toList =
      " digest(s) could not be sent:\n".toList := by decide
  have apart : escapeMarkup "\n".toList = "\n".toList := by decide
  apply String.toList_inj.mp
  simp only [failureNotice, Problem.details, Problem.ofReport, String.toList_append, String.toList_ofList,
    String.toList_intercalate, escapeMarkup_append, escapeMarkup_intercalate, shown, between, said, apart,
    List.map_map]
  simp [escaped, Function.comp_def, escapeMarkup]

end Settings
end DueReminders
