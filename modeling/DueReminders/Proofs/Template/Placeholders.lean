import DueReminders.Template.ItemTemplate
import DueReminders.Proofs.Text.Passing

/-! What filling in an item template amounts to. A template comes apart in one way into placeholders
and the texts between them, and what stands for a placeholder is a matter of the item and the key
alone. -/
namespace DueReminders

namespace Template

def opening : List Char := ['@', '{']

/-- A placeholder, and the text between it and the placeholder before. -/
structure Placeholder where
  before : List Char
  key : List Char

namespace Placeholder

def source (slot : Placeholder) : List Char := slot.before ++ token slot.key

/-- What is read from it. -/
def pieces (slot : Placeholder) : List Piece := slot.before.map .plain ++ [.key slot.key]

end Placeholder

/-- The text comes apart into placeholders and a last part. -/
structure ComesApart (text : List Char) (slots : List Placeholder) (last : List Char) : Prop where
  source_eq : text = slots.flatMap Placeholder.source ++ last
  plain : ∀ slot ∈ slots, ¬opening <:+: slot.before
  closed : ∀ slot ∈ slots, '}' ∉ slot.key
  /-- What is opened in the last part is not closed. -/
  unclosed : ∀ front back, last = front ++ (opening ++ back) → '}' ∉ back

/-- What an item shows for a key. -/
inductive Shows (item : Item) (editUrl : String) : List Char → List Char → Prop where
  | editLink :
      Shows item editUrl "EditUrl".toList (editUrl.toList ++ "?ID=".toList ++ Number.signed item.id)
  | shortBody : Shows item editUrl "ShortBody".toList item.shortBody
  | field {key : List Char} {value : String} (unlinked : key ≠ "EditUrl".toList)
      (other : key ≠ "ShortBody".toList) (found : item.shown.get? (String.ofList key) = some value) :
      Shows item editUrl key value.toList
  | unknown {key : List Char} (unlinked : key ≠ "EditUrl".toList) (other : key ≠ "ShortBody".toList)
      (missing : item.shown.get? (String.ofList key) = none) :
      Shows item editUrl key ("Unknown key:".toList ++ key)

section

variable {item : Item} {editUrl : String} {text rest before key last : List Char} {c : Char}
  {slots : List Placeholder}

theorem Shows.unique {first second : List Char} (shows : Shows item editUrl key first)
    (again : Shows item editUrl key second) : second = first := by
  cases shows with
  | editLink =>
    cases again with
    | editLink => rfl
    | field unlinked _ _ => exact absurd rfl unlinked
    | unknown unlinked _ _ => exact absurd rfl unlinked
  | shortBody =>
    cases again with
    | shortBody => rfl
    | field _ other _ => exact absurd rfl other
    | unknown _ other _ => exact absurd rfl other
  | field unlinked other found =>
    cases again with
    | editLink => exact absurd rfl unlinked
    | shortBody => exact absurd rfl other
    | field _ _ same => rw [Option.some.inj (found.symm.trans same)]
    | unknown _ _ missing => cases found.symm.trans missing
  | unknown unlinked other missing =>
    cases again with
    | editLink => exact absurd rfl unlinked
    | shortBody => exact absurd rfl other
    | field _ _ found => cases missing.symm.trans found
    | unknown _ _ _ => rfl

theorem shows_itemText (item : Item) (editUrl : String) (key : List Char) :
    Shows item editUrl key (itemText item editUrl key) := by
  have named (name : String) : String.ofList key = name ↔ key = name.toList := by
    rw [← String.toList_inj, String.toList_ofList]
  unfold itemText
  by_cases link : key = "EditUrl".toList
  · rw [if_pos ((named _).mpr link), link]
    exact .editLink
  · rw [if_neg (mt (named _).mp link)]
    by_cases body : key = "ShortBody".toList
    · rw [if_pos ((named _).mpr body), body]
      exact .shortBody
    · rw [if_neg (mt (named _).mp body)]
      have shown := item.get?_shown (String.ofList key)
      cases found : item.get? (String.ofList key) with
      | none =>
        rw [found] at shown
        exact .unknown link body shown
      | some field =>
        rw [found] at shown
        exact .field link body shown

theorem piecesFrom_cons (absent : ¬opening <+: c :: text) :
    piecesFrom none (c :: text) = .plain c :: piecesFrom none text := by
  rw [piecesFrom]
  intro rest first same
  subst first
  subst same
  exact absent ⟨rest, rfl⟩

theorem piecesFrom_some_append (closed : '}' ∉ key) (read rest : List Char) :
    piecesFrom (some read) (key ++ '}' :: rest) = .key (read.reverse ++ key) :: piecesFrom none rest := by
  induction key generalizing read with
  | nil => simp [piecesFrom]
  | cons c key ih =>
    rw [List.mem_cons, not_or] at closed
    have other : c ≠ '}' := fun same => closed.1 same.symm
    rw [List.cons_append, piecesFrom, if_neg other, ih closed.2, List.reverse_cons, List.append_assoc,
      List.singleton_append]

theorem piecesFrom_token (closed : '}' ∉ key) (rest : List Char) :
    piecesFrom none (token key ++ rest) = .key key :: piecesFrom none rest := by
  have source : token key ++ rest = '@' :: '{' :: (key ++ '}' :: rest) := by simp [token]
  have found : (key ++ '}' :: rest).contains '}' = true := by simp
  rw [source, piecesFrom, if_pos found, piecesFrom_some_append closed]
  rfl

theorem not_prefix_append (plain : ¬opening <:+: c :: before) (rest : List Char) :
    ¬opening <+: c :: (before ++ (opening ++ rest)) := by
  intro opens
  obtain ⟨rfl, behind⟩ := List.cons_prefix_cons.mp opens
  cases before with
  | nil =>
    have same : '{' = '@' := (List.cons_prefix_cons.mp behind).1
    cases same
  | cons head before =>
    have same : '{' = head := (List.cons_prefix_cons.mp behind).1
    exact plain ⟨[], before, by rw [← same]; rfl⟩

/-- What stands in front of a placeholder is read as it is. -/
theorem piecesFrom_source (slot : Placeholder) (plain : ¬opening <:+: slot.before)
    (closed : '}' ∉ slot.key) (rest : List Char) :
    piecesFrom none (slot.source ++ rest) = slot.pieces ++ piecesFrom none rest := by
  obtain ⟨before, key⟩ := slot
  induction before with
  | nil => exact piecesFrom_token closed rest
  | cons c before ih =>
    have absent := not_prefix_append plain (key ++ ['}'] ++ rest)
    have later : ¬opening <:+: before := fun occurs =>
      plain (occurs.trans (List.suffix_cons c before).isInfix)
    have inner := ih later closed
    simp only [Placeholder.source, Placeholder.pieces, token, opening, List.append_assoc, List.cons_append,
      List.map_cons, List.nil_append] at absent inner ⊢
    rw [piecesFrom_cons absent, inner]

theorem piecesFrom_of_unclosed (unclosed : ∀ front back, text = front ++ (opening ++ back) → '}' ∉ back) :
    piecesFrom none text = text.map .plain := by
  induction text with
  | nil => rfl
  | cons c text ih =>
    by_cases opens : opening <+: c :: text
    · obtain ⟨back, same⟩ := opens
      have free : ¬back.contains '}' = true := by
        simpa using unclosed [] back same.symm
      rw [← same]
      exact if_neg free
    · have later := ih fun front back same => unclosed (c :: front) back (by rw [same, List.cons_append])
      rw [piecesFrom_cons opens, later, List.map_cons]

namespace ComesApart

theorem tail {slot : Placeholder} (apart : ComesApart text (slot :: slots) last) :
    ∃ rest, text = slot.source ++ rest ∧ ComesApart rest slots last := by
  refine ⟨slots.flatMap Placeholder.source ++ last, ?_, rfl, ?_, ?_, apart.unclosed⟩
  · rw [apart.source_eq, List.flatMap_cons, List.append_assoc]
  · exact fun other member => apart.plain other (List.mem_cons_of_mem slot member)
  · exact fun other member => apart.closed other (List.mem_cons_of_mem slot member)

/-- The template is read as it comes apart. -/
theorem pieces_eq (apart : ComesApart text slots last) :
    pieces text = slots.flatMap Placeholder.pieces ++ last.map .plain := by
  induction slots generalizing text with
  | nil =>
    have same : text = last := apart.source_eq
    rw [same]
    exact piecesFrom_of_unclosed apart.unclosed
  | cons slot slots ih =>
    obtain ⟨rest, rfl, later⟩ := apart.tail
    have plain := apart.plain slot List.mem_cons_self
    have closed := apart.closed slot List.mem_cons_self
    rw [pieces, piecesFrom_source slot plain closed, ← pieces, ih later, List.flatMap_cons,
      List.append_assoc]

end ComesApart

theorem Placeholder.pieces_append_inj {slot other : Placeholder} {first second : List Piece}
    (same : slot.pieces ++ first = other.pieces ++ second) : other = slot ∧ second = first := by
  obtain ⟨before, key⟩ := slot
  obtain ⟨start, name⟩ := other
  induction before generalizing start with
  | nil =>
    cases start with
    | nil =>
      cases same
      exact ⟨rfl, rfl⟩
    | cons c start => cases same
  | cons c before ih =>
    cases start with
    | nil => cases same
    | cons head start =>
      obtain ⟨here, later⟩ := List.cons_eq_cons.mp same
      cases here
      obtain ⟨equal, rfl⟩ := ih start later
      cases equal
      exact ⟨rfl, rfl⟩

theorem key_not_mem_plain (key last : List Char) : Piece.key key ∉ last.map Piece.plain := by
  intro member
  obtain ⟨c, -, same⟩ := List.mem_map.mp member
  cases same

theorem eq_of_flatMap_pieces {others : List Placeholder} {rest : List Char}
    (same : slots.flatMap Placeholder.pieces ++ last.map Piece.plain =
      others.flatMap Placeholder.pieces ++ rest.map Piece.plain) : others = slots ∧ rest = last := by
  have first_key (slot : Placeholder) (slots : List Placeholder) (last : List Char) :
      Piece.key slot.key ∈ (slot :: slots).flatMap Placeholder.pieces ++ last.map Piece.plain := by
    simp [Placeholder.pieces]
  induction slots generalizing others with
  | nil =>
    cases others with
    | nil => exact ⟨rfl, (List.map_injective_iff.mpr fun _ _ equal => Piece.plain.inj equal) same.symm⟩
    | cons other others =>
      have member := first_key other others rest
      rw [← same] at member
      exact absurd member (key_not_mem_plain other.key last)
  | cons slot slots ih =>
    cases others with
    | nil =>
      have member := first_key slot slots last
      rw [same] at member
      exact absurd member (key_not_mem_plain slot.key rest)
    | cons other others =>
      rw [List.flatMap_cons, List.flatMap_cons, List.append_assoc, List.append_assoc] at same
      obtain ⟨rfl, later⟩ := Placeholder.pieces_append_inj same
      obtain ⟨rfl, rfl⟩ := ih later.symm
      exact ⟨rfl, rfl⟩

theorem ComesApart.unique (apart : ComesApart text slots last) {others : List Placeholder}
    (again : ComesApart text others rest) : others = slots ∧ rest = last :=
  eq_of_flatMap_pieces (apart.pieces_eq.symm.trans again.pieces_eq)

theorem ComesApart.cons {slot : Placeholder} (plain : ¬opening <:+: slot.before) (closed : '}' ∉ slot.key)
    (later : ComesApart rest slots last) : ComesApart (slot.source ++ rest) (slot :: slots) last := by
  refine ⟨?_, ?_, ?_, later.unclosed⟩
  · rw [later.source_eq, List.flatMap_cons, List.append_assoc]
  · exact List.forall_mem_cons.mpr ⟨plain, later.plain⟩
  · exact List.forall_mem_cons.mpr ⟨closed, later.closed⟩

theorem exists_first {front back : List Char} (same : text = front ++ (opening ++ back))
    (closes : '}' ∈ back) :
    ∃ (slot : Placeholder) (rest : List Char),
      text = slot.source ++ rest ∧ ¬opening <:+: slot.before ∧ '}' ∉ slot.key := by
  rw [← List.append_assoc] at same
  cases found : Text.splitFirst? opening text with
  | none => exact absurd same (Text.splitFirst?_eq_none_iff.mp found front back)
  | some halves =>
    obtain ⟨before, after⟩ := halves
    have split := Text.eq_append_of_splitFirst? found
    have plain := Text.not_infix_of_splitFirst? (List.cons_ne_nil _ _) found
    have inside : '}' ∈ after := (Text.suffix_of_splitFirst? found same).subset closes
    obtain ⟨key, rest, rfl, closed⟩ := List.eq_append_cons_of_mem inside
    refine ⟨⟨before, key⟩, rest, ?_, plain, closed⟩
    rw [split, Placeholder.source, token, opening]
    simp

theorem exists_comesApart (text : List Char) : ∃ slots last, ComesApart text slots last := by
  -- behind a placeholder the text is shorter by the whole placeholder, so the induction is on the length
  induction counted : text.length using Nat.strongRecOn generalizing text with
  | ind size ih =>
    by_cases closes : ∃ front back, text = front ++ (opening ++ back) ∧ '}' ∈ back
    · obtain ⟨front, back, same, member⟩ := closes
      obtain ⟨slot, rest, rfl, plain, closed⟩ := exists_first same member
      have shorter : rest.length < size := by
        simp only [← counted, Placeholder.source, token, List.length_append, List.length_cons]
        omega
      obtain ⟨slots, last, later⟩ := ih rest.length shorter rest rfl
      exact ⟨slot :: slots, last, .cons plain closed later⟩
    · refine ⟨[], text, rfl, List.forall_mem_nil _, List.forall_mem_nil _, ?_⟩
      intro front back same member
      exact closes ⟨front, back, same, member⟩

/-- A template comes apart in one way into placeholders and the texts between them, where a
placeholder reaches to the first closing brace. An item has one text for every key. These texts take
the places of the placeholders, and all else is copied, an opening without a closing brace
included. -/
theorem renderItem_comes_apart (item : Item) (editUrl : String) (template : List Char) :
    (∀ key, ∃ text, Shows item editUrl key text ∧ ∀ other, Shows item editUrl key other → other = text) ∧
    ∃ slots last, ComesApart template slots last ∧
      (∀ others rest, ComesApart template others rest → others = slots ∧ rest = last) ∧
      ∀ text : List Char → List Char, (∀ key, Shows item editUrl key (text key)) →
        renderItem template editUrl item =
          slots.flatMap (fun slot => slot.before ++ text slot.key) ++ last := by
  refine ⟨?_, ?_⟩
  · intro key
    exact ⟨_, shows_itemText item editUrl key, fun other shows =>
      (shows_itemText item editUrl key).unique shows⟩
  · obtain ⟨slots, last, apart⟩ := exists_comesApart template
    refine ⟨slots, last, apart, fun others rest => apart.unique, ?_⟩
    intro text shows
    have same : text = itemText item editUrl :=
      funext fun key => (shows_itemText item editUrl key).unique (shows key)
    rw [renderItem, apart.pieces_eq, List.flatMap_append, List.flatMap_assoc, same]
    congr 1
    · refine List.flatMap_congr fun slot _ => ?_
      simp [Placeholder.pieces, Piece.render, List.flatMap_map]
    · simp [Piece.render, List.flatMap_map]

/-- A key may contain an opening, and a value that looks like a placeholder is not filled in
again. -/
example :
    renderItem (token ("a".toList ++ opening) ++ token "Title".toList ++ opening) "edit"
        (Item.set (.bare 5) "Title" (.text (String.ofList (token "EditUrl".toList)))) =
      "Unknown key:a".toList ++ opening ++ token "EditUrl".toList ++ opening := by
  decide

end

end Template
end DueReminders
