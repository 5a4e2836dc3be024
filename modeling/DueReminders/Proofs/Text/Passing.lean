import DueReminders.Text.Search
import Mathlib.Data.List.Infix

/-! What a search passes over. A text is passed by a search when nothing that is searched for starts
in it, whatever follows the text; so the search goes on behind it as if it were not there. -/
namespace DueReminders.Text

/-- Nothing that `found` accepts starts inside of the text, whatever follows. -/
def Passes (found : List Char → Prop) (text : List Char) : Prop :=
  ∀ skipped rest, text = skipped ++ rest → rest ≠ [] → ∀ behind, ¬found (rest ++ behind)

section

variable {found : List Char → Prop} {front back : List Char} {c : Char}

theorem passes_nil : Passes found [] := by
  intro skipped rest same solid
  exact absurd (List.append_eq_nil_iff.mp same.symm).2 solid

theorem passes_cons_iff :
    Passes found (c :: back) ↔ (∀ behind, ¬found (c :: back ++ behind)) ∧ Passes found back := by
  constructor
  · intro passes
    refine ⟨passes [] (c :: back) rfl (List.cons_ne_nil c back), ?_⟩
    intro skipped rest same
    exact passes (c :: skipped) rest (by rw [same, List.cons_append])
  · rintro ⟨here, later⟩ skipped rest same solid
    cases skipped with
    | nil =>
      rw [List.nil_append] at same
      exact same ▸ here
    | cons head tail =>
      obtain ⟨-, same⟩ := List.cons_eq_cons.mp same
      exact later tail rest same solid

theorem Passes.append (first : Passes found front) (second : Passes found back) :
    Passes found (front ++ back) := by
  induction front with
  | nil => exact second
  | cons c front ih =>
    obtain ⟨here, later⟩ := passes_cons_iff.mp first
    rw [List.cons_append, passes_cons_iff]
    refine ⟨?_, ih later⟩
    intro behind
    rw [← List.cons_append, List.append_assoc]
    exact here (back ++ behind)

theorem passes_flatMap {α : Type} {source : α → List Char} {parts : List α}
    (each : ∀ part ∈ parts, Passes found (source part)) : Passes found (parts.flatMap source) := by
  induction parts with
  | nil => exact passes_nil
  | cons part parts ih =>
    obtain ⟨here, later⟩ := List.forall_mem_cons.mp each
    exact here.append (ih later)

theorem passes_of_not_mem {first : Char} (starts : ∀ text, found text → text.head? = some first)
    (free : first ∉ front) : Passes found front := by
  intro skipped rest same solid behind here
  cases rest with
  | nil => exact solid rfl
  | cons head rest =>
    have same_head : head = first := Option.some.inj (starts _ here)
    exact free (by simp [same, same_head])

end

theorem splitFirst?_append_of_passes {needle front : List Char}
    (passes : Passes (needle <+: ·) front) (rest : List Char) :
    splitFirst? needle (front ++ rest) =
      (splitFirst? needle rest).map fun (before, after) => (front ++ before, after) := by
  induction front with
  | nil => simp
  | cons c front ih =>
    obtain ⟨here, later⟩ := passes_cons_iff.mp passes
    have absent : ¬needle <+: c :: (front ++ rest) := here rest
    rw [List.cons_append, splitFirst?_cons_of_not_prefix absent, ih later, Option.map_map]
    rfl

theorem not_infix_append {needle front rest : List Char} (passes : Passes (needle <+: ·) front)
    (absent : ¬needle <:+: rest) : ¬needle <:+: front ++ rest := by
  induction front with
  | nil => exact absent
  | cons c front ih =>
    obtain ⟨here, later⟩ := passes_cons_iff.mp passes
    rw [List.cons_append, List.infix_cons_iff, not_or]
    exact ⟨here rest, ih later⟩

theorem substitute_append_of_passes {step : Step} {front : List Char}
    (passes : Passes (fun text => step text ≠ none) front) (rest : List Char) :
    substitute step (front ++ rest) = front ++ substitute step rest := by
  induction front with
  | nil => rfl
  | cons c front ih =>
    obtain ⟨here, later⟩ := passes_cons_iff.mp passes
    have silent : step (c :: (front ++ rest)) = none := not_not.mp (here rest)
    rw [List.cons_append, substitute_cons_of_none silent, ih later, List.cons_append]

theorem replaceAll_singleton (needle : Char) (value text : List Char) :
    replaceAll [needle] value text = text.flatMap fun c => if c = needle then value else [c] := by
  show substitute (fun rest => if [needle].isPrefixOf rest then some ([needle].length, value) else none)
    text = _
  induction text with
  | nil => rfl
  | cons c rest ih =>
    rw [List.flatMap_cons, ← ih]
    by_cases same : c = needle
    · subst same
      rw [if_pos rfl]
      exact substitute_append_of_some (List.cons_ne_nil c []) (by simp)
    · rw [if_neg same]
      exact substitute_cons_of_none (by simp [Ne.symm same])

/-- What stands behind any occurrence of the needle stands behind the first one too. -/
theorem suffix_of_splitFirst? {needle text before after front back : List Char}
    (found : splitFirst? needle text = some (before, after)) (other : text = front ++ needle ++ back) :
    back <:+ after := by
  have shorter := splitFirst?_shortest found other
  have same := eq_append_of_splitFirst? found
  have size := congrArg List.length (same.symm.trans other)
  simp only [List.length_append] at size
  have last : back <:+ text := other ▸ List.suffix_append _ back
  exact List.suffix_of_suffix_length_le last (same ▸ List.suffix_append _ after) (by omega)

theorem not_infix_of_splitFirst? {needle text before after : List Char} (solid : needle ≠ [])
    (found : splitFirst? needle text = some (before, after)) : ¬needle <:+: before := by
  rintro ⟨start, between, rfl⟩
  have split : text = start ++ needle ++ (between ++ (needle ++ after)) := by
    rw [eq_append_of_splitFirst? found, List.append_assoc, List.append_assoc]
  have shorter := splitFirst?_shortest found split
  have positive := List.length_pos_iff.mpr solid
  simp only [List.length_append] at shorter
  omega

/-- The needles stand in the text one behind the other. -/
def InOrder : List (List Char) → List Char → Prop
  | [], _ => True
  | needle :: needles, text => ∃ before after, text = before ++ needle ++ after ∧ InOrder needles after

theorem InOrder.prepend {needles : List (List Char)} {text : List Char} (ordered : InOrder needles text)
    (front : List Char) : InOrder needles (front ++ text) := by
  cases needles with
  | nil => trivial
  | cons needle needles =>
    obtain ⟨before, after, rfl, later⟩ := ordered
    exact ⟨front ++ before, after, by simp, later⟩

theorem inOrder_cons_iff {needle : List Char} {needles : List (List Char)} {text : List Char} :
    InOrder (needle :: needles) text ↔
      ∃ before after, splitFirst? needle text = some (before, after) ∧ InOrder needles after := by
  constructor
  · rintro ⟨before, after, rfl, later⟩
    cases found : splitFirst? needle (before ++ needle ++ after) with
    | none => exact absurd rfl (splitFirst?_eq_none_iff.mp found before after)
    | some halves =>
      obtain ⟨first, rest⟩ := halves
      obtain ⟨between, rfl⟩ := suffix_of_splitFirst? found rfl
      exact ⟨first, between ++ after, rfl, later.prepend between⟩
  · rintro ⟨before, after, found, later⟩
    exact ⟨before, after, eq_append_of_splitFirst? found, later⟩

end DueReminders.Text
