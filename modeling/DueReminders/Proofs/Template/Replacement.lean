import DueReminders.Template.Tokens
import Mathlib.Algebra.Ring.Nat
import Mathlib.Data.List.Infix
import Mathlib.Data.List.Nodup
import Mathlib.Data.List.Perm.Basic
import Mathlib.Data.List.Sort

/-! What replacing tokens in one pass amounts to. A template comes apart in one way into keys and
the texts between them, where each key is the longest at the first place where any key stands. -/
namespace DueReminders

namespace Text

theorem substitute_append_of_silent {step : Step} {front rest : List Char}
    (silent : ∀ skipped tail, front = skipped ++ tail → tail ≠ [] → step (tail ++ rest) = none) :
    substitute step (front ++ rest) = front ++ substitute step rest := by
  induction front with
  | nil => rfl
  | cons c front ih =>
    have here : step (c :: (front ++ rest)) = none := silent [] (c :: front) rfl (List.cons_ne_nil c front)
    rw [List.cons_append, substitute_cons_of_none here, ih, List.cons_append]
    intro skipped tail same
    exact silent (c :: skipped) tail (by rw [same, List.cons_append])

theorem substitute_of_silent {step : Step} {text : List Char}
    (silent : ∀ skipped tail, text = skipped ++ tail → tail ≠ [] → step tail = none) :
    substitute step text = text := by
  have copied := @substitute_append_of_silent step text []
  rw [List.append_nil] at copied
  refine (copied ?_).trans (List.append_nil text)
  intro skipped tail same solid
  rw [List.append_nil]
  exact silent skipped tail same solid

end Text

namespace Template

/-- A key of a table, and the text between it and the key before. -/
structure Replacement where
  before : List Char
  key : List Char
  value : List Char

namespace Replacement

def source (replacement : Replacement) : List Char := replacement.before ++ replacement.key

/-- What is written for it. -/
def written (replacement : Replacement) : List Char := replacement.before ++ replacement.value

end Replacement

namespace TokenTable

/-- The table has a value for the key, which is not empty. -/
def Holds (table : TokenTable) (key value : List Char) : Prop :=
  key ≠ [] ∧ table.get? (String.ofList key) = some (String.ofList value)

/-- The text comes apart into replacements and a last part. -/
inductive Factors (table : TokenTable) : List Char → List Replacement → List Char → Prop where
  /-- No key occurs in the last part. -/
  | last {text : List Char} (free : ∀ key value, table.Holds key value → ¬key <:+: text) :
      Factors table text [] text
  /-- The first key stands where no key starts before it, and no longer key starts there. -/
  | cons {before key value rest last : List Char} {others : List Replacement}
      (held : table.Holds key value)
      (earliest : ∀ skipped tail other content, before = skipped ++ tail → tail ≠ [] →
        table.Holds other content → ¬other <+: tail ++ (key ++ rest))
      (longest : ∀ other content, table.Holds other content → other <+: key ++ rest →
        other.length ≤ key.length)
      (later : Factors table rest others last) :
      Factors table (before ++ (key ++ rest)) (⟨before, key, value⟩ :: others) last

section

variable {table other : TokenTable} {text rest key value last : List Char}
  {replacements : List Replacement}

theorem mem_rows_iff : (key, value) ∈ table.rows ↔ table.Holds key value := by
  rw [rows, List.mem_filter, Holds, table.get?_eq_some_iff]
  constructor
  · rintro ⟨member, solid⟩
    obtain ⟨entry, present, same⟩ := List.mem_map.mp member
    cases same
    exact ⟨by simpa using solid, by simpa using present⟩
  · rintro ⟨solid, present⟩
    exact ⟨List.mem_map.mpr ⟨_, present, by simp⟩, by simpa using solid⟩

theorem Holds.unique {second : List Char} (held : table.Holds key value)
    (again : table.Holds key second) : second = value :=
  String.ofList_injective (Option.some.inj (again.2.symm.trans held.2))

theorem step_eq_none_iff :
    step table.rows text = none ↔ ∀ key value, table.Holds key value → ¬key <+: text := by
  rw [step, Option.map_eq_none_iff, longestAt?_eq_none_iff]
  simp only [Prod.forall, mem_rows_iff]

theorem eq_of_longest {second others : List Char}
    (same : key ++ rest = second ++ others) (shorter : key.length ≤ second.length)
    (longer : second.length ≤ key.length) : key = second ∧ rest = others :=
  List.append_inj same (Nat.le_antisymm shorter longer)

theorem step_of_longest (held : table.Holds key value)
    (longest : ∀ other value, table.Holds other value → other <+: key ++ rest →
      other.length ≤ key.length) :
    step table.rows (key ++ rest) = some (key.length, value) := by
  cases found : longestAt? table.rows (key ++ rest) with
  | none =>
    exact absurd (List.prefix_append key rest) (longestAt?_eq_none_iff.mp found _ (mem_rows_iff.mpr held))
  | some row =>
    obtain ⟨other, content⟩ := row
    obtain ⟨member, ⟨behind, same⟩, longer⟩ := longestAt?_spec found
    have owned := mem_rows_iff.mp member
    obtain ⟨rfl, -⟩ := eq_of_longest same (longest other content owned ⟨behind, same⟩)
      (longer _ (mem_rows_iff.mpr held) (List.prefix_append key rest))
    cases owned.unique held
    rw [step, found]
    rfl

namespace Factors

theorem source_eq (factors : table.Factors text replacements last) :
    text = replacements.flatMap Replacement.source ++ last := by
  induction factors with
  | last free => rfl
  | cons held earliest longest later ih =>
    rw [List.flatMap_cons, List.append_assoc, ← ih, Replacement.source, List.append_assoc]

/-- One pass writes the values for the keys and copies the texts between them. -/
theorem substitute_eq (factors : table.Factors text replacements last) :
    Text.substitute (step table.rows) text = replacements.flatMap Replacement.written ++ last := by
  induction factors with
  | @last text free =>
    apply Text.substitute_of_silent
    rintro skipped tail rfl -
    rw [step_eq_none_iff]
    intro key value held starts
    exact free key value held (starts.isInfix.trans (List.suffix_append skipped tail).isInfix)
  | cons held earliest longest later ih =>
    rw [Text.substitute_append_of_silent,
      Text.substitute_append_of_some held.1 (step_of_longest held longest), ih, List.flatMap_cons,
      Replacement.written, List.append_assoc, List.append_assoc]
    intro skipped tail same solid
    rw [step_eq_none_iff]
    intro other content owned
    exact earliest skipped tail other content same solid owned

theorem prepend {c : Char} (absent : ∀ key value, table.Holds key value → ¬key <+: c :: text)
    (factors : table.Factors text replacements last) :
    ∃ replacements last, table.Factors (c :: text) replacements last := by
  cases factors with
  | last free =>
    refine ⟨[], c :: text, .last ?_⟩
    intro key value held occurs
    rcases List.infix_cons_iff.mp occurs with here | later
    · exact absent key value held here
    · exact free key value held later
  | @cons before key value rest _ others held earliest longest later =>
    refine ⟨_, last, @Factors.cons table (c :: before) key value rest last others held ?_ longest later⟩
    intro skipped tail other content same solid owned
    cases skipped with
    | nil =>
      cases same
      exact absent other content owned
    | cons head skipped =>
      obtain ⟨-, same⟩ := List.cons_eq_cons.mp same
      exact earliest skipped tail other content same solid owned

theorem length_le_of_earliest {before behind second : List Char}
    (same : before ++ (key ++ rest) = second ++ behind) (held : table.Holds key value)
    (earliest : ∀ skipped tail other content, second = skipped ++ tail → tail ≠ [] →
      table.Holds other content → ¬other <+: tail ++ behind) : second.length ≤ before.length := by
  rcases List.append_eq_append_iff.mp same with ⟨between, rfl, split⟩ | ⟨between, rfl, -⟩
  · by_cases empty : between = []
    · rw [empty, List.append_nil]
    · exact absurd ⟨rest, split⟩ (earliest before between key value rfl empty held)
  · rw [List.length_append]
    exact Nat.le_add_right _ _

theorem unique (factors : table.Factors text replacements last) {others : List Replacement}
    {rest : List Char} (again : table.Factors text others rest) : others = replacements ∧ rest = last := by
  induction factors generalizing others rest with
  | last free =>
    cases again with
    | last _ => exact ⟨rfl, rfl⟩
    | @cons before key value behind _ _ held _ _ _ =>
      exact absurd ⟨before, behind, List.append_assoc before key behind⟩ (free key value held)
  | @cons before key value behind last others held earliest longest later ih =>
    generalize same : before ++ (key ++ behind) = whole at again
    cases again with
    | last free =>
      refine absurd ⟨before, behind, ?_⟩ (free key value held)
      rw [List.append_assoc, same]
    | @cons first second content next _ _ owned sooner longer after =>
      -- neither first key stands before the other, so both stand at one place
      have size : before.length = first.length :=
        Nat.le_antisymm (length_le_of_earliest same.symm owned earliest)
          (length_le_of_earliest same held sooner)
      obtain ⟨rfl, split⟩ := List.append_inj same size
      have shorter : key.length ≤ second.length := longer key value held ⟨behind, split⟩
      obtain ⟨rfl, rfl⟩ := eq_of_longest split shorter (longest second content owned ⟨next, split.symm⟩)
      cases held.unique owned
      obtain ⟨rfl, rfl⟩ := ih after
      exact ⟨rfl, rfl⟩

theorem congr (agree : ∀ key value, other.Holds key value ↔ table.Holds key value)
    (factors : table.Factors text replacements last) : other.Factors text replacements last := by
  induction factors with
  | last free => exact .last fun key value held => free key value ((agree key value).mp held)
  | cons held earliest longest later ih =>
    refine .cons ((agree _ _).mpr held) ?_ ?_ ih
    · intro skipped tail key value same solid owned
      exact earliest skipped tail key value same solid ((agree key value).mp owned)
    · intro key value owned
      exact longest key value ((agree key value).mp owned)

end Factors

theorem exists_factors (table : TokenTable) (text : List Char) :
    ∃ replacements last, table.Factors text replacements last := by
  -- behind a key the text is shorter by the whole key, so the induction is on the length
  induction counted : text.length using Nat.strongRecOn generalizing text with
  | ind size ih =>
    cases found : longestAt? table.rows text with
    | some row =>
      obtain ⟨key, value⟩ := row
      obtain ⟨member, ⟨rest, rfl⟩, longest⟩ := longestAt?_spec found
      have held := mem_rows_iff.mp member
      have shorter : rest.length < size := by
        have solid : 0 < key.length := List.length_pos_iff.mpr held.1
        have whole : key.length + rest.length = size := List.length_append.symm.trans counted
        omega
      obtain ⟨others, last, later⟩ := ih rest.length shorter rest rfl
      refine ⟨_, last, @Factors.cons table [] key value rest last others held ?_ ?_ later⟩
      · intro skipped tail other content same solid
        exact absurd (List.append_eq_nil_iff.mp same.symm).2 solid
      · intro other content owned starts
        exact longest (other, content) (mem_rows_iff.mpr owned) starts
    | none =>
      have absent (key value : List Char) (held : table.Holds key value) : ¬key <+: text :=
        longestAt?_eq_none_iff.mp found (key, value) (mem_rows_iff.mpr held)
      cases text with
      | nil =>
        refine ⟨[], [], .last ?_⟩
        intro key value held occurs
        exact held.1 (List.infix_nil.mp occurs)
      | cons c rest =>
        subst counted
        obtain ⟨replacements, last, factors⟩ := ih rest.length (Nat.lt_succ_self _) rest rfl
        exact factors.prepend absent

/-- Replace the first key in this order that the text starts with. -/
def alternation (table : TokenTable) : Text.Step := fun text =>
  (table.alternatives.find? fun (key, _) => key.isPrefixOf text).map
    fun (key, value) => (key.length, value)

/-- Of two keys at one place the one of more bytes is the longer one. -/
theorem length_le_of_size_le {second : List Char} (starts : key <+: text) (begins : second <+: text)
    (size : keySize second ≤ keySize key) : second.length ≤ key.length := by
  by_contra longer
  obtain ⟨more, rfl⟩ := List.prefix_of_prefix_length_le starts begins (by omega)
  rw [keySize, keySize, String.ofList_append, String.utf8ByteSize_append] at size
  have empty : String.ofList more = "" := String.utf8ByteSize_eq_zero_iff.mp (by omega)
  have none : more = [] := by simpa using empty
  simp [none] at longer

theorem triedFirst_iff {second : List Char} :
    triedFirst key second = true ↔
      keySize second < keySize key ∨
        keySize second = keySize key ∧ String.ofList key ≤ String.ofList second := by
  simp [triedFirst]

theorem triedFirst_trans {first second third : List Char} (sooner : triedFirst first second = true)
    (later : triedFirst second third = true) : triedFirst first third = true := by
  rw [triedFirst_iff] at *
  rcases sooner with larger | ⟨same, before⟩ <;> rcases later with more | ⟨alike, after⟩
  · exact .inl (Nat.lt_trans more larger)
  · exact .inl (by omega)
  · exact .inl (by omega)
  · exact .inr ⟨alike.trans same, String.le_trans before after⟩

theorem triedFirst_total (first second : List Char) :
    triedFirst first second = true ∨ triedFirst second first = true := by
  rw [triedFirst_iff, triedFirst_iff]
  rcases Nat.lt_trichotomy (keySize second) (keySize first) with larger | same | smaller
  · exact .inl (.inl larger)
  · exact (String.le_total (String.ofList first) (String.ofList second)).imp
      (fun before => .inr ⟨same, before⟩) fun before => .inr ⟨same.symm, before⟩
  · exact .inr (.inl smaller)

theorem triedFirst_antisymm {first second : List Char} (sooner : triedFirst first second = true)
    (later : triedFirst second first = true) : first = second := by
  rw [triedFirst_iff] at *
  rcases sooner with larger | ⟨_, before⟩ <;> rcases later with smaller | ⟨_, after⟩
  · omega
  · omega
  · omega
  · exact String.ofList_injective (String.le_antisymm before after)

theorem alternatives_eq (table : TokenTable) :
    table.alternatives = table.rows.insertionSort fun a b => triedFirst a.1 b.1 = true := by
  have put (row : List Char × List Char) (rows : List (List Char × List Char)) :
      putRow row rows = rows.orderedInsert (fun a b => triedFirst a.1 b.1 = true) row := by
    induction rows with
    | nil => rfl
    | cons head rest ih => rw [putRow, List.orderedInsert_cons, ih]
  rw [alternatives, List.insertionSort, funext fun row => funext (put row)]

theorem alternatives_perm (table : TokenTable) : table.alternatives.Perm table.rows :=
  table.alternatives_eq ▸ List.perm_insertionSort _ _

theorem mem_alternatives_iff : (key, value) ∈ table.alternatives ↔ table.Holds key value :=
  table.alternatives_perm.mem_iff.trans mem_rows_iff

theorem pairwise_alternatives (table : TokenTable) :
    table.alternatives.Pairwise fun a b => triedFirst a.1 b.1 = true := by
  have : Std.Total fun a b : List Char × List Char => triedFirst a.1 b.1 = true :=
    ⟨fun a b => triedFirst_total a.1 b.1⟩
  have : IsTrans (List Char × List Char) fun a b => triedFirst a.1 b.1 = true :=
    ⟨fun _ _ _ => triedFirst_trans⟩
  exact table.alternatives_eq ▸ List.pairwise_insertionSort _ _

theorem keySize_le_of_triedFirst {second : List Char} (sooner : triedFirst key second = true) :
    keySize second ≤ keySize key := by
  rcases triedFirst_iff.mp sooner with larger | ⟨same, _⟩
  · exact Nat.le_of_lt larger
  · exact Nat.le_of_eq same

/-- The first key in the order of sizes is the longest. -/
theorem alternation_eq_step (table : TokenTable) : table.alternation = step table.rows := by
  funext text
  unfold alternation
  cases found : table.alternatives.find? fun (key, _) => key.isPrefixOf text with
  | none =>
    refine (step_eq_none_iff.mpr ?_).symm
    intro key value held starts
    exact List.find?_eq_none.mp found _ (mem_alternatives_iff.mpr held)
      (List.isPrefixOf_iff_prefix.mpr starts)
  | some row =>
    obtain ⟨key, value⟩ := row
    obtain ⟨begins, front, back, order, skipped⟩ := List.find?_eq_some_iff_append.mp found
    obtain ⟨rest, rfl⟩ := List.isPrefixOf_iff_prefix.mp begins
    have held : table.Holds key value := mem_alternatives_iff.mp (by simp [order])
    refine (step_of_longest held ?_).symm
    intro other content owned starts
    have member : (other, content) ∈ front ++ (key, value) :: back :=
      order ▸ mem_alternatives_iff.mpr owned
    -- a key that is tried earlier does not stand here, and one that is tried later has no more bytes
    rcases List.mem_append.mp member with earlier | later
    · have passed : (!other.isPrefixOf (key ++ rest)) = true := skipped _ earlier
      rw [List.isPrefixOf_iff_prefix.mpr starts] at passed
      cases passed
    · rcases List.mem_cons.mp later with same | later
      · cases same
        exact Nat.le_refl _
      · have sorted := table.pairwise_alternatives
        rw [order] at sorted
        have sooner := List.rel_of_pairwise_cons (List.pairwise_append.mp sorted).2.1 later
        exact length_le_of_size_le (List.prefix_append key rest) starts (keySize_le_of_triedFirst sooner)

theorem mem_names_iff (name : String) : name ∈ table.names ↔ (table.get? name).isSome = true := by
  simp only [Option.isSome_iff_exists, table.get?_eq_some_iff]
  simp [Record.names]

theorem patternSize_eq_sum (keys : List (List Char)) : patternSize keys = (keys.map keySize).sum := by
  rw [List.sum, List.foldr_map]
  rfl

/-- The empty key has no part in a pattern, but it has no size either. -/
theorem patternSize_pattern (table : TokenTable) :
    patternSize table.pattern = (table.names.map String.utf8ByteSize).sum := by
  have shuffled := ((table.alternatives_perm.map Prod.fst).map keySize).sum_nat
  rw [patternSize_eq_sum, pattern, shuffled, rows, Record.names]
  induction table.entries with
  | nil => rfl
  | cons entry entries ih =>
    have same : keySize entry.1.toList = entry.1.utf8ByteSize := by rw [keySize, String.ofList_toList]
    by_cases empty : entry.1 = ""
    · simpa [empty] using ih
    · simpa [empty, same] using ih

theorem patternSize_insert_le (table : TokenTable) (key value : String) :
    patternSize (TokenTable.pattern (table.insert key value)) ≤
      patternSize table.pattern + key.utf8ByteSize := by
  rw [patternSize_pattern, patternSize_pattern, Record.names_insert]
  split
  · exact Nat.le_add_right _ _
  · simp

/-- A table with few and short keys is accepted by every engine. -/
theorem accepts_pattern (engine : PatternEngine)
    (small : (table.names.map String.utf8ByteSize).sum ≤ 20000) : engine.accepts table.pattern = true :=
  engine.accepts_small _ (table.patternSize_pattern ▸ small)

theorem nodup_rows (table : TokenTable) : table.rows.Nodup := by
  refine List.Nodup.filter _ (List.Nodup.of_map (fun row => String.ofList row.1) ?_)
  simpa [Function.comp_def] using table.distinct

theorem holds_congr (agree : ∀ key, key ≠ "" → other.get? key = table.get? key) (key value : List Char) :
    other.Holds key value ↔ table.Holds key value := by
  refine and_congr_right fun solid => ?_
  rw [agree]
  simpa using solid

theorem pattern_congr (agree : ∀ key, key ≠ "" → other.get? key = table.get? key) :
    other.pattern = table.pattern := by
  have perm : other.rows.Perm table.rows := by
    refine (List.perm_ext_iff_of_nodup other.nodup_rows table.nodup_rows).mpr ?_
    rintro ⟨key, value⟩
    rw [mem_rows_iff, mem_rows_iff, holds_congr agree]
  rw [pattern, pattern]
  congr 1
  refine List.Perm.eq_of_pairwise ?_ other.pairwise_alternatives table.pairwise_alternatives
    (other.alternatives_perm.trans (perm.trans table.alternatives_perm.symm))
  rintro ⟨key, value⟩ ⟨second, content⟩ first later sooner behind
  -- both rows are of one table, where a key has one value
  have held := (holds_congr agree key value).mp (mem_alternatives_iff.mp first)
  have owned : table.Holds second content := mem_alternatives_iff.mp later
  obtain rfl : key = second := triedFirst_antisymm sooner behind
  rw [owned.unique held]

theorem replaceOnce_of_pattern_empty {template : List Char} (empty : table.pattern = []) :
    table.replaceOnce template = template := by
  apply Text.substitute_of_silent
  intro skipped tail _ _
  rw [step_eq_none_iff]
  intro key value held
  have listed : key ∈ table.pattern := List.mem_map.mpr ⟨_, mem_alternatives_iff.mpr held, rfl⟩
  rw [empty] at listed
  cases listed

/-- A table whose pattern is accepted is replaced in one pass. -/
theorem replaceWith_of_accepts {engine : PatternEngine} (accepted : engine.accepts table.pattern = true)
    (template : List Char) : table.replaceWith engine template = table.replaceOnce template := by
  rw [replaceWith, if_pos accepted]
  split
  · next empty => exact (replaceOnce_of_pattern_empty (List.isEmpty_iff.mp empty)).symm
  · rfl

theorem replaceWith_of_refused {engine : PatternEngine} (refused : engine.accepts table.pattern = false)
    (template : List Char) : table.replaceWith engine template = table.replaceInTurn template := by
  have solid : ¬table.pattern.isEmpty = true := by
    intro empty
    rw [List.isEmpty_iff.mp empty, engine.accepts_small [] (Nat.zero_le _)] at refused
    cases refused
  rw [replaceWith, if_neg solid, refused, if_neg Bool.false_ne_true]

/-- A template comes apart in one way into keys and the texts between them, each key the longest at
the first place where any stands. One pass writes the values for these keys and copies all else.
Trying the keys by their number of bytes comes to the same, and an empty key has no say. That is how
a table is replaced with every engine that accepts its pattern. -/
theorem replace_factors (table : TokenTable) (template : List Char) :
    (∃ replacements last, table.Factors template replacements last ∧
      (∀ others rest, table.Factors template others rest → others = replacements ∧ rest = last) ∧
      template = replacements.flatMap Replacement.source ++ last ∧
      table.replaceOnce template = replacements.flatMap Replacement.written ++ last) ∧
    table.replaceOnce template = Text.substitute table.alternation template ∧
    ∀ other : TokenTable, (∀ key, key ≠ "" → other.get? key = table.get? key) →
      other.replaceOnce template = table.replaceOnce template ∧
      ∀ engine : PatternEngine, engine.accepts table.pattern = true →
        other.replaceWith engine template = table.replaceOnce template := by
  obtain ⟨replacements, last, factors⟩ := table.exists_factors template
  refine ⟨⟨replacements, last, factors, fun _ _ => factors.unique, factors.source_eq,
    factors.substitute_eq⟩, ?_, ?_⟩
  · rw [alternation_eq_step, replaceOnce]
  · intro other agree
    have same : other.replaceOnce template = table.replaceOnce template :=
      (factors.congr (holds_congr agree)).substitute_eq.trans factors.substitute_eq.symm
    refine ⟨same, fun engine accepted => ?_⟩
    rw [← pattern_congr agree] at accepted
    exact (replaceWith_of_accepts accepted template).trans same

/-- A table whose keys overlap, and whose values are keys. -/
def overlapping : TokenTable := .ofList [("a", "b"), ("ab", "a"), ("", "!")]

theorem replace_factors_overlapping :
    (∃ replacements last, overlapping.Factors "abaxb".toList replacements last) ∧
    overlapping.replace "abaxb".toList = "abxb".toList := by
  obtain ⟨⟨replacements, last, factors, -, -, -⟩, -, same⟩ :=
    replace_factors overlapping "abaxb".toList
  have once : overlapping.replace "abaxb".toList = overlapping.replaceOnce "abaxb".toList :=
    (same overlapping fun _ _ => rfl).2 _ (accepts_pattern _ (by decide))
  exact ⟨⟨replacements, last, factors⟩, once.trans (by decide)⟩

end

end TokenTable
end Template
end DueReminders
