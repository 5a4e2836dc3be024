import DueReminders.Proofs.Program.Notice
import DueReminders.Proofs.Text.Occurrence

/-! The details inside of a notice. They are shown with entities for the characters of markup, so
whatever they say, they stay between the tags of the notice, and can be read back from there. -/
namespace DueReminders

/-- The characters of markup, and the entities that stand for them. -/
def entities : List (Char × List Char) :=
  [('&', "&amp;".toList), ('<', "&lt;".toList), ('>', "&gt;".toList)]

/-- The second text has an entity for every character of markup in the first one, and all else as it
is. -/
inductive Escapes : List Char → List Char → Prop where
  | nil : Escapes [] []
  | entity {c : Char} {entity text shown : List Char} (listed : (c, entity) ∈ entities)
    (later : Escapes text shown) :
      Escapes (c :: text) (entity ++ shown)
  | plain {c : Char} {text shown : List Char} (free : c ∉ entities.map Prod.fst)
    (later : Escapes text shown) :
      Escapes (c :: text) (c :: shown)

/-- The character that the entity at the front of a text stands for. -/
def readEntity : Text.Step := fun rest =>
  (entities.find? fun (_, entity) => entity.isPrefixOf rest).map fun (c, entity) => (entity.length, [c])

/-- The text without its entities, each of them read once. -/
def unescapeMarkup (text : List Char) : List Char := Text.substitute readEntity text

section

variable {c : Char} {entity text shown back : List Char}

theorem escapes_escapeMarkup (text : List Char) : Escapes text (escapeMarkup text) := by
  induction text with
  | nil => exact .nil
  | cons c text ih =>
    have split : escapeMarkup (c :: text) = escapeMarkup [c] ++ escapeMarkup text :=
      escapeMarkup_append [c] text
    rw [split]
    by_cases marked : c ∈ entities.map Prod.fst
    · obtain ⟨⟨mark, entity⟩, listed, same⟩ := List.mem_map.mp marked
      subst same
      have shown : ∀ row ∈ entities, escapeMarkup [row.1] = row.2 := by decide
      rw [shown _ listed]
      exact .entity listed ih
    · have kept : escapeMarkup [c] = [c] := by
        apply escapeMarkup_eq_self
        simpa [entities] using marked
      rw [kept]
      exact .plain marked ih

theorem exists_of_entity (listed : (c, entity) ∈ entities) :
    ∃ tail, entity = '&' :: tail ∧ ∀ mark ∈ entities.map Prod.fst, mark ∉ tail := by
  have each : ∀ row ∈ entities, row.2 = '&' :: row.2.tail ∧
      ∀ other ∈ entities, other.1 ∉ row.2.tail := by decide
  obtain ⟨begins, free⟩ := each _ listed
  exact ⟨entity.tail, begins, List.forall_mem_map.mpr free⟩

theorem readEntity_append (listed : (c, entity) ∈ entities) (rest : List Char) :
    readEntity (entity ++ rest) = some (entity.length, [c]) := by
  simp only [entities, List.mem_cons, Prod.mk.injEq, List.not_mem_nil, or_false] at listed
  rcases listed with ⟨rfl, rfl⟩ | ⟨rfl, rfl⟩ | ⟨rfl, rfl⟩ <;> rfl

theorem readEntity_cons (free : c ∉ entities.map Prod.fst) (rest : List Char) :
    readEntity (c :: rest) = none := by
  have other : '&' ≠ c := by
    intro same
    exact free (same ▸ List.mem_cons_self)
  rw [readEntity, Option.map_eq_none_iff, List.find?_eq_none]
  intro (mark, entity) listed found
  obtain ⟨tail, begins, -⟩ := exists_of_entity listed
  rw [begins, List.isPrefixOf_iff_prefix, List.cons_prefix_cons] at found
  exact other found.1

theorem Escapes.unescapeMarkup_eq (escapes : Escapes text shown) : unescapeMarkup shown = text := by
  rw [unescapeMarkup]
  induction escapes with
  | nil => rfl
  | @entity c entity text shown listed later ih =>
    have solid : entity ≠ [] := by
      obtain ⟨tail, begins, -⟩ := exists_of_entity listed
      rw [begins]
      exact List.cons_ne_nil '&' tail
    rw [Text.substitute_append_of_some solid (readEntity_append listed shown), ih, List.singleton_append]
  | @plain c text shown free later ih =>
    rw [Text.substitute_cons_of_none (readEntity_cons free shown), ih]

theorem suffix_of_suffix_append {front rest : List Char} (absent : c ∉ front)
    (behind : c :: back <:+ front ++ rest) :
    c :: back <:+ rest := by
  induction front with
  | nil => exact behind
  | cons head front ih =>
    obtain ⟨other, absent⟩ := not_or.mp (mt List.mem_cons.mpr absent)
    rcases List.suffix_cons_iff.mp behind with whole | further
    · exact absurd (List.cons_eq_cons.mp whole).1 other
    · exact ih absent further

theorem Escapes.exists_entity (escapes : Escapes text shown) (marked : c ∈ entities.map Prod.fst)
    (behind : c :: back <:+ shown) : ∃ row ∈ entities, row.2 <+: c :: back := by
  induction escapes with
  | nil => cases List.suffix_nil.mp behind
  | @entity mark entity text shown listed later ih =>
    obtain ⟨tail, begins, free⟩ := exists_of_entity listed
    rw [begins, List.cons_append] at behind
    rcases List.suffix_cons_iff.mp behind with whole | further
    · rw [whole, ← List.cons_append, ← begins]
      exact ⟨_, listed, List.prefix_append entity shown⟩
    · exact ih (suffix_of_suffix_append (free c marked) further)
  | @plain other text shown free later ih =>
    rcases List.suffix_cons_iff.mp behind with whole | further
    · exact absurd ((List.cons_eq_cons.mp whole).1 ▸ marked) free
    · exact ih further

theorem Escapes.not_mem (escapes : Escapes text shown) (marked : c ∈ entities.map Prod.fst)
    (other : c ≠ '&') :
    c ∉ shown := by
  intro member
  obtain ⟨front, back, rfl⟩ := List.append_of_mem member
  obtain ⟨row, listed, starts⟩ := escapes.exists_entity marked (List.suffix_append front (c :: back))
  obtain ⟨tail, begins, -⟩ := exists_of_entity listed
  rw [begins, List.cons_prefix_cons] at starts
  exact other starts.1.symm

theorem escapeMarkup_injective {other : List Char} (same : escapeMarkup other = escapeMarkup text) :
    other = text := by
  rw [← (escapes_escapeMarkup other).unescapeMarkup_eq, same,
    (escapes_escapeMarkup text).unescapeMarkup_eq]

end

namespace Settings

theorem toList_html_failureNotice (settings : Settings) (today : Date) (details : String) :
    (settings.failureNotice today details).html.toList =
      "<pre>".toList ++ escapeMarkup details.toList ++ "</pre>".toList := by
  simp only [failureNotice, String.toList_append, String.toList_ofList]

/-- A notice has its details between two tags, of which the second is the first of its kind behind
the first one. What stands there has the three characters of markup replaced one after the other, so
it has no brackets and no ampersand but those that begin entities. Reading its entities once gives
the details, so notices of different details differ. -/
theorem failureNotice_encloses_details (settings : Settings) (today : Date) (details : String) :
    ∃ shown,
      (settings.failureNotice today details).html.toList = "<pre>".toList ++ shown ++ "</pre>".toList ∧
      Text.FirstAt "</pre>".toList (shown ++ "</pre>".toList) shown [] ∧
      shown = Text.replaceAll ['>'] "&gt;".toList
        (Text.replaceAll ['<'] "&lt;".toList (Text.replaceAll ['&'] "&amp;".toList details.toList)) ∧
      '<' ∉ shown ∧ '>' ∉ shown ∧
      (∀ front back, shown = front ++ '&' :: back →
        "&amp;".toList <+: '&' :: back ∨ "&lt;".toList <+: '&' :: back ∨ "&gt;".toList <+: '&' :: back) ∧
      unescapeMarkup shown = details.toList ∧
      ∀ other, (settings.failureNotice today other).html = (settings.failureNotice today details).html →
        other = details := by
  have escapes := escapes_escapeMarkup details.toList
  have unopened : '<' ∉ escapeMarkup details.toList := escapes.not_mem (by decide) (by decide)
  refine ⟨escapeMarkup details.toList, toList_html_failureNotice settings today details, ?_,
    escapeMarkup_eq_replaceAll _, unopened, escapes.not_mem (by decide) (by decide), ?_,
    escapes.unescapeMarkup_eq, ?_⟩
  · have passes : Text.Passes ("</pre>".toList <+: ·) (escapeMarkup details.toList) := by
      apply Text.passes_of_not_mem _ unopened
      intro text ⟨rest, same⟩
      rw [← same]
      rfl
    simpa using Text.firstAt_of_passes passes []
  · intro front back same
    have behind : '&' :: back <:+ escapeMarkup details.toList := ⟨front, same.symm⟩
    simpa [entities] using escapes.exists_entity (by decide) behind
  · intro other same
    have equal := congrArg String.toList same
    rw [toList_html_failureNotice, toList_html_failureNotice, List.append_cancel_right_eq,
      List.append_cancel_left_eq] at equal
    exact String.toList_inj.mp (escapeMarkup_injective equal)

/-- An entity in the details is no markup, and is read back as it was. -/
example : escapeMarkup "<b> &lt;".toList = "&lt;b&gt; &amp;lt;".toList := by decide

end Settings
end DueReminders
