import DueReminders.Proofs.Template.Placeholders
import DueReminders.Proofs.Template.ShortBody

/-! A short body between two pieces of template. By itself it has no tag, but an opening bracket
that was never closed stays in it, and in the mail that bracket begins a tag which ends inside of
the template behind the body. -/
namespace DueReminders

/-- Every opening bracket has a closing one somewhere behind it. -/
def Settled (text : List Char) : Prop := ∀ before behind, text = before ++ '<' :: behind → '>' ∈ behind

section

variable {text front inside back between kept rest left right : List Char}

theorem hasTag_of_closed (closed : '>' ∈ back) : HasTag (front ++ '<' :: back) :=
  (List.cons_sublist_cons.mpr (List.singleton_sublist.mpr closed)).trans
    (List.sublist_append_right front _)

theorem Settled.of_tag (settled : Settled (front ++ '<' :: (inside ++ '>' :: rest))) : Settled rest := by
  intro before behind same
  have split : front ++ '<' :: (inside ++ '>' :: rest) =
      (front ++ '<' :: (inside ++ '>' :: before)) ++ '<' :: behind := by
    simp [same]
  exact settled _ behind split

theorem settled_concat (text : List Char) : Settled (text ++ ['>']) := by
  intro before behind same
  have last : ('<' :: behind).getLast? = some '>' := by
    rw [← List.getLast?_append_of_ne_nil before (List.cons_ne_nil _ _), ← same, List.getLast?_concat]
  cases behind with
  | nil => cases last
  | cons c behind =>
    rw [List.getLast?_cons_cons] at last
    exact List.mem_of_getLast? last

theorem Settled.not_opened (settled : Settled text) (clear : ¬HasTag text) : '<' ∉ text := by
  intro opened
  obtain ⟨before, behind, rfl⟩ := List.append_of_mem opened
  exact clear (hasTag_of_closed (settled before behind rfl))

/-- Behind a settled text the tags are those of what follows, whatever that is. -/
theorem Untagged.append (first : Untagged front left) (settled : Settled front)
    (second : Untagged back right) :
    Untagged (front ++ back) (left ++ right) := by
  induction first with
  | plain clear =>
    rw [untagged_iff] at second ⊢
    rw [stripMarkup_append (settled.not_opened clear), second]
  | tag opens next later ih =>
    have behind := Untagged.tag opens next (ih settled.of_tag)
    simpa only [List.append_assoc, List.cons_append] using behind

theorem stripMarkup_append_of_clear (clear : ¬HasTag text) (harmless : '<' ∉ text ∨ '>' ∉ back) :
    stripMarkup (text ++ back) = text ++ stripMarkup back := by
  rcases harmless with unopened | unclosed
  · exact stripMarkup_append unopened
  · have bare : ¬HasTag back := fun tagged =>
      unclosed (tagged.subset (List.mem_cons_of_mem _ List.mem_cons_self))
    have whole : ¬HasTag (text ++ back) := mt (hasTag_append_of_not_closed unclosed).mp clear
    rw [stripMarkup_of_not_hasTag whole, stripMarkup_of_not_hasTag bare]

/-- A bracket that is left open reaches into the text behind, up to the first closing bracket
there. -/
theorem stripMarkup_append_of_opened (first : '<' ∉ kept) (stays : '>' ∉ inside) (next : '>' ∉ between) :
    stripMarkup ((kept ++ '<' :: inside) ++ (between ++ '>' :: rest)) = kept ++ stripMarkup rest := by
  have unclosed : '>' ∉ inside ++ between := by
    rw [List.mem_append, not_or]
    exact ⟨stays, next⟩
  have joined : (kept ++ '<' :: inside) ++ (between ++ '>' :: rest) =
      kept ++ '<' :: ((inside ++ between) ++ '>' :: rest) := by
    simp only [List.append_assoc, List.cons_append]
  rw [joined, stripMarkup_append first, stripMarkup_tag unclosed]

theorem length_stripMarkup_le (next : '>' ∉ between) :
    (stripMarkup rest).length ≤ (stripMarkup (between ++ '>' :: rest)).length := by
  by_cases opened : '<' ∈ between
  · obtain ⟨before, behind, rfl, first⟩ := List.eq_append_cons_of_mem opened
    have later : '>' ∉ behind := fun member =>
      next (List.mem_append_right _ (List.mem_cons_of_mem _ member))
    rw [List.append_assoc, List.cons_append, stripMarkup_append first, stripMarkup_tag later,
      List.length_append]
    exact Nat.le_add_left _ _
  · have plain : '<' ∉ between ++ ['>'] := by simpa using opened
    have joined : between ++ '>' :: rest = (between ++ ['>']) ++ rest := by simp
    rw [joined, stripMarkup_append plain, List.length_append]
    exact Nat.le_add_left _ _

theorem stripMarkup_append_iff (clear : ¬HasTag text) :
    stripMarkup (text ++ back) = text ++ stripMarkup back ↔ '<' ∉ text ∨ '>' ∉ back := by
  constructor
  · intro same
    by_contra harmful
    rw [not_or, not_not, not_not] at harmful
    obtain ⟨kept, inside, rfl, first⟩ := List.eq_append_cons_of_mem harmful.1
    obtain ⟨between, rest, rfl, next⟩ := List.eq_append_cons_of_mem harmful.2
    have unclosed : '>' ∉ inside := mt hasTag_of_closed clear
    -- of the body only the part before the bracket is left, and behind it no more than is left
    -- of the template
    have fewer : (stripMarkup rest).length ≤ (stripMarkup (between ++ '>' :: rest)).length :=
      length_stripMarkup_le next
    have size := congrArg List.length same
    rw [stripMarkup_append_of_opened first unclosed next] at size
    simp only [List.length_append, List.length_cons] at size
    omega
  · exact stripMarkup_append_of_clear clear

end

namespace Template

variable {front back : List Char}

theorem renderItem_shortBody (item : Item) (editUrl : String) (before : '@' ∉ front)
    (behind : '@' ∉ back) :
    renderItem (front ++ token "ShortBody".toList ++ back) editUrl item =
      front ++ item.shortBody ++ back := by
  have apart :
      ComesApart (front ++ token "ShortBody".toList ++ back) [⟨front, "ShortBody".toList⟩] back := by
    refine ⟨?_, ?_, ?_, ?_⟩
    · simp [Placeholder.source]
    · rw [List.forall_mem_singleton]
      exact fun opens => before (opens.subset List.mem_cons_self)
    · rw [List.forall_mem_singleton]
      show '}' ∉ "ShortBody".toList
      decide
    · rintro first last rfl
      exact absurd (List.mem_append_right first List.mem_cons_self) behind
  have shown : itemText item editUrl "ShortBody".toList = item.shortBody :=
    Shows.shortBody.unique (shows_itemText item editUrl _)
  rw [renderItem, apart.pieces_eq, List.flatMap_singleton, Placeholder.pieces, List.flatMap_append,
    List.flatMap_append, List.flatMap_singleton, Piece.render, shown]
  simp [Piece.render, List.flatMap_map]

/-- Between two pieces of template, of which the first leaves no bracket open, a short body keeps
out of the markup exactly if it leaves no bracket open or if the second piece closes none. Otherwise
its first bracket and all that follows is taken for a tag, together with the template up to the
first closing bracket. -/
theorem shortBody_between (item : Item) (editUrl : String) (before : '@' ∉ front) (behind : '@' ∉ back)
    (settled : Settled front) :
    let body := item.shortBody
    let mail := renderItem (front ++ token "ShortBody".toList ++ back) editUrl item
    mail = front ++ body ++ back ∧
    (∀ plainFront plainBack, Untagged front plainFront → Untagged back plainBack →
      (Untagged mail (plainFront ++ body ++ plainBack) ↔ '<' ∉ body ∨ '>' ∉ back)) ∧
    ∀ kept inside between rest plainFront plainRest, body = kept ++ '<' :: inside → '<' ∉ kept →
      back = between ++ '>' :: rest → '>' ∉ between → Untagged front plainFront → Untagged rest plainRest →
        Untagged mail (plainFront ++ kept ++ plainRest) := by
  intro body mail
  have clear : ¬HasTag body := item.not_hasTag_shortBody
  have filled : mail = front ++ (body ++ back) := by
    rw [← List.append_assoc]
    exact renderItem_shortBody item editUrl before behind
  have stripped : stripMarkup mail = stripMarkup front ++ stripMarkup (body ++ back) := by
    rw [filled]
    exact (untagged_iff.mp ((untagged_iff.mpr rfl).append settled (untagged_iff.mpr rfl))).symm
  refine ⟨by rw [filled, List.append_assoc], ?_, ?_⟩
  · intro plainFront plainBack first last
    rw [untagged_iff] at first last ⊢
    rw [first, last, stripped, List.append_assoc, List.append_cancel_left_eq, eq_comm]
    exact stripMarkup_append_iff clear
  · intro kept inside between rest plainFront plainRest opened first closed next start last
    have unclosed : '>' ∉ inside := fun member => clear (opened ▸ hasTag_of_closed member)
    rw [untagged_iff] at start last ⊢
    rw [stripped, opened, closed, stripMarkup_append_of_opened first unclosed next, start, last,
      List.append_assoc]

/-- A body in a paragraph, with a bracket that stays and closes nothing, and one that leaves a
bracket open. -/
theorem shortBody_between_paragraph :
    let paid := Item.set (.bare 1) "Body" (.text "<b>Pay</b> if 3 > 2")
    let opened := Item.set (.bare 2) "Body" (.text "<i>Pay</i> <soon")
    let mail := renderItem ("<p>".toList ++ token "ShortBody".toList ++ "</p>".toList) "edit"
    '@' ∉ "<p>".toList ∧ '@' ∉ "</p>".toList ∧ Settled "<p>".toList ∧
      mail paid = "<p>Pay if 3 > 2</p>".toList ∧ Untagged (mail paid) "Pay if 3 > 2".toList ∧
      mail opened = "<p>Pay <soon</p>".toList ∧ Untagged (mail opened) "Pay ".toList := by
  intro paid opened mail
  have before : '@' ∉ "<p>".toList := by decide
  have behind : '@' ∉ "</p>".toList := by decide
  have settled : Settled "<p>".toList := settled_concat ['<', 'p']
  have bare : Untagged "<p>".toList [] := untagged_iff.mpr (by decide)
  obtain ⟨first, apart, -⟩ := shortBody_between paid "edit" before behind settled
  obtain ⟨second, -, swallowed⟩ := shortBody_between opened "edit" before behind settled
  have plain : paid.shortBody = "Pay if 3 > 2".toList := by decide
  have unclosed : opened.shortBody = "Pay ".toList ++ '<' :: "soon".toList := by decide
  rw [plain] at first apart
  rw [unclosed] at second
  refine ⟨before, behind, settled, first, ?_, second, ?_⟩
  · exact (apart [] [] bare (untagged_iff.mpr (by decide))).mpr (.inl (by decide))
  · exact swallowed "Pay ".toList "soon".toList "</p".toList [] [] [] unclosed (by decide) rfl
      (by decide) bare
      (untagged_iff.mpr rfl)

/-- A bracket that a body leaves open takes the end of the paragraph into a tag, and the words
behind the bracket with it. -/
theorem opened_body_swallows_template :
    let item := Item.set (.bare 1) "Body" (.text "due <soon")
    let mail := renderItem ("<p>".toList ++ token "ShortBody".toList ++ "</p>".toList) "edit" item
    '@' ∉ "<p>".toList ∧ '@' ∉ "</p>".toList ∧ Settled "<p>".toList ∧
      item.shortBody = "due <soon".toList ∧ mail = "<p>due <soon</p>".toList ∧
      Untagged mail "due ".toList ∧
      ¬Untagged mail (stripMarkup "<p>".toList ++ item.shortBody ++ stripMarkup "</p>".toList) := by
  intro item mail
  have body : item.shortBody = "due <soon".toList := by decide
  have filled : mail = "<p>due <soon</p>".toList := by decide
  have settled : Settled "<p>".toList := settled_concat ['<', 'p']
  simp only [untagged_iff]
  rw [filled, body]
  exact ⟨by decide, by decide, settled, rfl, rfl, by decide, by decide⟩

end Template
end DueReminders
