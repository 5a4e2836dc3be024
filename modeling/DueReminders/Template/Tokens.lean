import DueReminders.Record
import DueReminders.Text.Search

/-! Replacing tokens. The keys of a table make one pattern, and a pattern is applied in one pass: at
each position the longest key that occurs there is replaced, and replaced text is not looked at
again. A search engine refuses a pattern that grows too large. Then the table is applied key by key
instead, in the order of the keys, so later keys see earlier values. -/
namespace DueReminders.Template

/-- The replacement for every token. -/
abbrev TokenTable := Record String

def keySize (key : List Char) : Nat := (String.ofList key).utf8ByteSize

def patternSize (keys : List (List Char)) : Nat := keys.foldr (fun key size => keySize key + size) 0

/-- A search engine, by the patterns it accepts. A pattern is a choice between keys. How large a
pattern may become is the engine's own affair; only small ones are sure to be accepted. -/
structure PatternEngine where
  accepts : List (List Char) → Bool
  accepts_small : ∀ keys, patternSize keys ≤ 20000 → accepts keys = true

/-- An engine that goes by the number of bytes alone. -/
def PatternEngine.ofSize (limit : Nat) (ample : 20000 ≤ limit) : PatternEngine where
  accepts keys := decide (patternSize keys ≤ limit)
  accepts_small _ small := decide_eq_true (Nat.le_trans small ample)

namespace TokenTable

/-- The nonempty keys and their values, as characters. -/
def rows (table : TokenTable) : List (List Char × List Char) :=
  (table.entries.map fun (key, value) => (key.toList, value.toList)).filter fun (key, _) => !key.isEmpty

private def longer (best : Option (List Char × List Char)) (row : List Char × List Char) :
    Option (List Char × List Char) :=
  match best with
  | none => some row
  | some held => if held.1.length < row.1.length then some row else some held

/-- The row with the longest key the text starts with. -/
def longestAt? (rows : List (List Char × List Char)) (text : List Char) :
    Option (List Char × List Char) :=
  (rows.filter fun (key, _) => key.isPrefixOf text).foldl longer none

private theorem foldl_longer_eq_none_iff {rows : List (List Char × List Char)}
    {best : Option (List Char × List Char)} :
    rows.foldl longer best = none ↔ best = none ∧ rows = [] := by
  induction rows generalizing best with
  | nil => simp
  | cons head rest ih =>
    rw [List.foldl_cons, ih]
    cases best with
    | none => simp [longer]
    | some held => by_cases larger : held.1.length < head.1.length <;> simp [longer, larger]

private theorem foldl_longer {rows : List (List Char × List Char)} {row : List Char × List Char}
    {best : Option (List Char × List Char)} (found : rows.foldl longer best = some row) :
    (best = some row ∨ row ∈ rows) ∧ (∀ held, best = some held → held.1.length ≤ row.1.length) ∧
      ∀ other ∈ rows, other.1.length ≤ row.1.length := by
  induction rows generalizing best with
  | nil =>
    simp only [List.foldl_nil] at found
    refine ⟨.inl found, ?_, by simp⟩
    intro held same
    cases found.symm.trans same
    exact Nat.le_refl _
  | cons head rest ih =>
    obtain ⟨source, bound, rows⟩ := ih found
    cases best with
    | none =>
      refine ⟨.inr ?_, by simp, List.forall_mem_cons.mpr ⟨bound head rfl, rows⟩⟩
      rcases source with same | member
      · exact List.mem_cons.mpr (.inl (Option.some.inj same).symm)
      · exact List.mem_cons_of_mem head member
    | some held =>
      by_cases larger : held.1.length < head.1.length
      · have kept : longer (some held) head = some head := by simp [longer, larger]
        have ahead := bound head kept
        refine ⟨.inr ?_, ?_, List.forall_mem_cons.mpr ⟨ahead, rows⟩⟩
        · rcases source with same | member
          · exact List.mem_cons.mpr (.inl (Option.some.inj (kept.symm.trans same)).symm)
          · exact List.mem_cons_of_mem head member
        · intro other same
          cases same
          omega
      · have kept : longer (some held) head = some held := by simp [longer, larger]
        have ahead := bound held kept
        refine ⟨?_, ?_, List.forall_mem_cons.mpr ⟨by omega, rows⟩⟩
        · rcases source with same | member
          · exact .inl (kept.symm.trans same)
          · exact .inr (List.mem_cons_of_mem head member)
        · intro other same
          cases same
          exact ahead

theorem longestAt?_eq_none_iff {rows : List (List Char × List Char)} {text : List Char} :
    longestAt? rows text = none ↔ ∀ row ∈ rows, ¬row.1 <+: text := by
  simp [longestAt?, foldl_longer_eq_none_iff, List.filter_eq_nil_iff]

/-- The row found is one the text starts with, and no such row has a longer key. -/
theorem longestAt?_spec {rows : List (List Char × List Char)} {text : List Char}
    {row : List Char × List Char} (found : longestAt? rows text = some row) :
    row ∈ rows ∧ row.1 <+: text ∧
      ∀ other ∈ rows, other.1 <+: text → other.1.length ≤ row.1.length := by
  obtain ⟨source, -, bound⟩ := foldl_longer found
  have member : row ∈ rows.filter fun row => row.1.isPrefixOf text := by
    rcases source with nowhere | member
    · cases nowhere
    · exact member
  obtain ⟨owned, starts⟩ := List.mem_filter.mp member
  refine ⟨owned, List.isPrefixOf_iff_prefix.mp starts, ?_⟩
  intro other present begins
  exact bound other (List.mem_filter.mpr ⟨present, List.isPrefixOf_iff_prefix.mpr begins⟩)

def step (rows : List (List Char × List Char)) : Text.Step := fun text =>
  (longestAt? rows text).map fun (key, value) => (key.length, value)

def replaceOnce (table : TokenTable) (template : List Char) : List Char :=
  Text.substitute (step table.rows) template

def inTurn (table : TokenTable) : List (String × String) :=
  table.entries.mergeSort fun a b => decide (a.1 ≤ b.1)

/-- Replace one key after the other, in the order of the keys. -/
def replaceInTurn (table : TokenTable) (template : List Char) : List Char :=
  table.inTurn.foldl (fun text (key, value) => Text.replaceAll key.toList value.toList text) template

/-- A pattern tries a key of more bytes first, and of two keys of one size the one that sorts
first. -/
def triedFirst (key other : List Char) : Bool :=
  decide (keySize other < keySize key) ||
    (keySize other == keySize key && decide (String.ofList key ≤ String.ofList other))

/-- Put a row in front of the first one that it is tried before. -/
def putRow (row : List Char × List Char) : List (List Char × List Char) → List (List Char × List Char)
  | [] => [row]
  | head :: rest => if triedFirst row.1 head.1 then row :: head :: rest else head :: putRow row rest

def alternatives (table : TokenTable) : List (List Char × List Char) := table.rows.foldr putRow []

/-- The keys of the pattern for a table. -/
def pattern (table : TokenTable) : List (List Char) := table.alternatives.map Prod.fst

/-- Replace every token of a template, in one pass if the engine accepts the pattern. A table
without nonempty keys leaves the template as it is. -/
def replaceWith (engine : PatternEngine) (table : TokenTable) (template : List Char) : List Char :=
  if table.pattern.isEmpty then template
  else if engine.accepts table.pattern then table.replaceOnce template
  else table.replaceInTurn template

/-- Replace every token, with a stand-in for the engine where this library runs. It accepts the
patterns that every engine accepts and refuses a key of 200000 bytes; where its limit lies between
is arbitrary. -/
def replace (table : TokenTable) (template : List Char) : List Char :=
  table.replaceWith (.ofSize 100000 (by decide)) template

end TokenTable
end DueReminders.Template
