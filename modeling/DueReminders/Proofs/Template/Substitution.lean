import DueReminders.Proofs.Template.Chunks
import DueReminders.Proofs.Template.Replacement

/-! Replacing tokens in a sequence of parts. When every key of the table is a mark, each mark of the
template is replaced by its value and all else stays; a value is copied as it is, whatever it
contains. In any other template it is the chunks that are replaced. -/
namespace DueReminders.Template

/-- What a part says where marks stand for values. A mark without a value stands for itself. -/
def Part.meaning (value? : MarkName → Option (List Char)) : Part → List Char
  | .plain text _ => text
  | .mark name => (value? name).getD name.text

variable {known : List MarkName}

namespace Chunk

def meaning (value? : MarkName → Option (List Char)) : Chunk known → List Char
  | .text chars _ => chars
  | .mark name _ => (value? name).getD name.text

theorem mem_names_of_infix {value? : MarkName → Option (List Char)}
    (free : ∀ name value, value? name = some value → '@' ∉ value) {tail : List Char} {name : MarkName}
    (listed : name ∈ known) (plain : ¬name.text <:+: tail) {chunks : List (Chunk known)}
    (found : name.text <:+: chunks.flatMap (meaning value?) ++ tail) : name ∈ names chunks := by
  by_contra absent
  refine Text.not_infix_append (Text.passes_flatMap fun chunk member => ?_) plain found
  cases chunk with
  | text chars passed => exact passed name listed
  | mark key _ =>
    have other : name ≠ key := by
      rintro rfl
      exact absent (List.mem_filterMap.mpr ⟨_, member, rfl⟩)
    cases valued : value? key with
    | none =>
      rw [meaning, valued, Option.getD_none]
      exact MarkName.passes_text other
    | some value =>
      rw [meaning, valued, Option.getD_some]
      exact name.passes_of_noAt (free key value valued)

end Chunk

namespace TokenTable

/-- Every key of the table is a mark. -/
def OfMarks (table : TokenTable) : Prop :=
  ∀ key ∈ table.names, ∃ name : MarkName, key = String.ofList name.text

def markValue? (table : TokenTable) (name : MarkName) : Option (List Char) :=
  (table.get? (String.ofList name.text)).map String.toList

variable {table : TokenTable} {name : MarkName}

theorem markValue?_insert (key name : MarkName) (value : String) :
    TokenTable.markValue? (table.insert (String.ofList key.text) value) name =
      if name = key then some value.toList else table.markValue? name := by
  by_cases same : name = key
  · simp [markValue?, Record.get?_insert, same]
  · have apart : name.text ≠ key.text := fun equal => same (MarkName.text_injective equal)
    simp [markValue?, Record.get?_insert, String.ofList_inj, same, apart]

theorem markValue?_foldl_insert {β : Type} {mark : β → MarkName}
    (injective : ∀ a b, mark a = mark b → a = b) (written : β → String) {labels : List β}
    (distinct : labels.Nodup) (table : TokenTable) (name : MarkName) :
    TokenTable.markValue?
        (labels.foldl (fun table label =>
          Record.insert table (String.ofList (mark label).text) (written label)) table) name =
      ((labels.find? fun label => name = mark label).map fun label => (written label).toList).or
        (table.markValue? name) := by
  induction labels generalizing table with
  | nil => rfl
  | cons label rest ih =>
    rw [List.nodup_cons] at distinct
    rw [List.foldl_cons, ih distinct.2, markValue?_insert]
    by_cases here : name = mark label
    · have missing : rest.find? (fun other => name = mark other) = none := by
        rw [List.find?_eq_none]
        intro other member same
        have equal := injective _ _ (here.symm.trans (of_decide_eq_true same))
        exact distinct.1 (equal ▸ member)
      rw [missing, List.find?_cons_of_pos (by simp [here])]
      simp [here]
    · rw [List.find?_cons_of_neg (by simp [here])]
      simp [here]

theorem ofMarks_empty : TokenTable.OfMarks Record.empty := by
  intro key member
  cases member

theorem OfMarks.insert (marks : table.OfMarks) (key : MarkName) (value : String) :
    TokenTable.OfMarks (Record.insert table (String.ofList key.text) value) := by
  intro other member
  rw [Record.names_insert] at member
  split at member
  · exact marks other member
  · rcases List.mem_append.mp member with old | fresh
    · exact marks other old
    · exact ⟨key, List.mem_singleton.mp fresh⟩

theorem OfMarks.foldl_insert {β : Type} (marks : table.OfMarks) (mark : β → MarkName)
    (written : β → String) (labels : List β) :
    TokenTable.OfMarks
      (labels.foldl (fun table label =>
        Record.insert table (String.ofList (mark label).text) (written label)) table) := by
  induction labels generalizing table with
  | nil => exact marks
  | cons label rest ih => exact ih (marks.insert (mark label) (written label))

theorem patternSize_foldl_insert_le {β : Type} {mark : β → MarkName} {bound : Nat}
    (short : ∀ label, (String.ofList (mark label).text).utf8ByteSize ≤ bound) (written : β → String)
    (labels : List β) (table : TokenTable) :
    patternSize (TokenTable.pattern
        (labels.foldl (fun table label =>
          Record.insert table (String.ofList (mark label).text) (written label)) table)) ≤
      patternSize table.pattern + labels.length * bound := by
  induction labels generalizing table with
  | nil => simp
  | cons label rest ih =>
    have first := patternSize_insert_le table (String.ofList (mark label).text) (written label)
    have later := ih (Record.insert table (String.ofList (mark label).text) (written label))
    have bounded := short label
    rw [List.foldl_cons, List.length_cons, Nat.succ_mul]
    omega

private theorem mem_rows_of_markValue? {value : List Char} (found : table.markValue? name = some value) :
    (name.text, value) ∈ table.rows := by
  obtain ⟨entry, present, same⟩ := Option.map_eq_some_iff.mp found
  refine List.mem_filter.mpr ⟨List.mem_map.mpr ⟨_, table.get?_eq_some_iff.mp present, ?_⟩, rfl⟩
  simp [same]

private theorem markValue?_of_mem_rows (marks : table.OfMarks) {row : List Char × List Char}
    (member : row ∈ table.rows) :
    ∃ key : MarkName, row.1 = key.text ∧ table.markValue? key = some row.2 := by
  obtain ⟨⟨key, value⟩, present, rfl⟩ := List.mem_map.mp (List.mem_filter.mp member).1
  obtain ⟨mark, rfl⟩ := marks key (List.mem_map.mpr ⟨_, present, rfl⟩)
  refine ⟨mark, String.toList_ofList, ?_⟩
  rw [markValue?, table.get?_eq_some_iff.mpr present]
  rfl

theorem longestAt?_mark (marks : table.OfMarks) (name : MarkName) (rest : List Char) :
    longestAt? table.rows (name.text ++ rest) =
      (table.markValue? name).map fun value => (name.text, value) := by
  cases answer : longestAt? table.rows (name.text ++ rest) with
  | none =>
    cases found : table.markValue? name with
    | none => rfl
    | some value =>
      have absent := longestAt?_eq_none_iff.mp answer _ (mem_rows_of_markValue? found)
      exact absurd (List.prefix_append _ _) absent
  | some row =>
    obtain ⟨member, starts, -⟩ := longestAt?_spec answer
    obtain ⟨key, same, found⟩ := markValue?_of_mem_rows marks member
    rw [same] at starts
    cases MarkName.eq_of_prefix starts
    rw [found, Option.map_some, ← same]

theorem passes_step (marks : table.OfMarks) {text : List Char}
    (each : ∀ name, (table.markValue? name).isSome → Text.Passes (name.text <+: ·) text) :
    Text.Passes (fun rest => step table.rows rest ≠ none) text := by
  intro skipped rest same solid behind answer
  obtain ⟨row, found⟩ : ∃ row, longestAt? table.rows (rest ++ behind) = some row := by
    simpa [step, Option.ne_none_iff_exists'] using answer
  obtain ⟨member, starts, -⟩ := longestAt?_spec found
  obtain ⟨key, key_eq, value⟩ := markValue?_of_mem_rows marks member
  rw [key_eq] at starts
  exact each key (by simp [value]) skipped rest same solid behind starts

/-- A mark is replaced by its value, or copied when it has none. -/
theorem substitute_mark_append (marks : table.OfMarks) (name : MarkName) (rest : List Char) :
    Text.substitute (step table.rows) (name.text ++ rest) =
      (table.markValue? name).getD name.text ++ Text.substitute (step table.rows) rest := by
  have answer : step table.rows (name.text ++ rest) =
      (table.markValue? name).map fun value => (name.text.length, value) := by
    rw [step, longestAt?_mark marks, Option.map_map]
    rfl
  cases found : table.markValue? name with
  | some value =>
    rw [found] at answer
    have solid : name.text ≠ [] := List.cons_ne_nil '@' name.rest
    rw [Option.getD_some]
    exact Text.substitute_append_of_some solid answer
  | none =>
    rw [found] at answer
    have passed := passes_step marks fun key _ => key.passes_of_noAt name.noAt_rest
    simp only [Option.getD_none, MarkName.text_eq_cons, List.cons_append] at answer ⊢
    rw [Text.substitute_cons_of_none answer, Text.substitute_append_of_passes passed]

theorem substitute_source_append (marks : table.OfMarks) (part : Part) (rest : List Char) :
    Text.substitute (step table.rows) (part.source ++ rest) =
      part.meaning table.markValue? ++ Text.substitute (step table.rows) rest := by
  cases part with
  | plain text free =>
    exact Text.substitute_append_of_passes
      (passes_step marks fun name _ => name.passes_of_noAt free) rest
  | mark name => exact substitute_mark_append marks name rest

theorem replaceOnce_source (marks : table.OfMarks) (parts : List Part) :
    table.replaceOnce (parts.flatMap Part.source) =
      parts.flatMap (Part.meaning table.markValue?) := by
  induction parts with
  | nil => rfl
  | cons part parts ih =>
    rw [replaceOnce] at ih ⊢
    rw [List.flatMap_cons, substitute_source_append marks, ih, List.flatMap_cons]

theorem substitute_eq_self (marks : table.OfMarks) {text : List Char}
    (plain : ∀ name, (table.markValue? name).isSome → ¬name.text <:+: text) :
    Text.substitute (step table.rows) text = text := by
  induction text with
  | nil => rfl
  | cons c text ih =>
    have silent : step table.rows (c :: text) = none := by
      rw [step, Option.map_eq_none_iff, longestAt?_eq_none_iff]
      intro row member starts
      obtain ⟨key, same, value⟩ := markValue?_of_mem_rows marks member
      rw [same] at starts
      exact plain key (by simp [value]) starts.isInfix
    have later := ih fun name valued found =>
      plain name valued (found.trans (List.suffix_cons c text).isInfix)
    rw [Text.substitute_cons_of_none silent, later]

theorem substitute_chunk_append (marks : table.OfMarks)
    (owned : ∀ name, (table.markValue? name).isSome → name ∈ known) (chunk : Chunk known)
    (rest : List Char) :
    Text.substitute (step table.rows) (chunk.source ++ rest) =
      chunk.meaning table.markValue? ++ Text.substitute (step table.rows) rest := by
  cases chunk with
  | text chars passed =>
    exact Text.substitute_append_of_passes
      (passes_step marks fun name valued => passed name (owned name valued)) rest
  | mark name listed => exact substitute_mark_append marks name rest

theorem replaceOnce_chunks (marks : table.OfMarks)
    (owned : ∀ name, (table.markValue? name).isSome → name ∈ known) {tail : List Char}
    (plain : ∀ name ∈ known, ¬name.text <:+: tail) (chunks : List (Chunk known)) :
    table.replaceOnce (chunks.flatMap Chunk.source ++ tail) =
      chunks.flatMap (Chunk.meaning table.markValue?) ++ tail := by
  rw [replaceOnce]
  induction chunks with
  | nil => exact substitute_eq_self marks fun name valued => plain name (owned name valued)
  | cons chunk chunks ih =>
    rw [List.flatMap_cons, List.append_assoc, substitute_chunk_append marks owned, ih, List.flatMap_cons,
      List.append_assoc]

end TokenTable
end DueReminders.Template
