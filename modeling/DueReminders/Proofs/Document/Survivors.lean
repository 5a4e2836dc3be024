import DueReminders.Proofs.Document.Alike

/-! Which marks of blocks reach a finished document. Each block is resolved once, at the first of
its marks, so a mark that is repeated is left over; and what is dropped or replaced between two
halves of a mark puts the mark together. A template without either leaves no mark of a block in any
document. -/
namespace DueReminders

open Template

theorem Number.noAt_padded (width number : Nat) : '@' ∉ Number.padded width number := by
  intro member
  rcases List.mem_append.mp member with zeros | digits
  · cases (List.mem_replicate.mp zeros).2
  · cases Number.isDigit_of_mem_digits digits

theorem Date.noAt_long (date : Date) : '@' ∉ date.long := by
  have named (names : List String) (free : ∀ name ∈ names, '@' ∉ name.toList) (position : Nat) :
      '@' ∉ (names.getD position "").toList := by
    rw [List.getD_eq_getElem?_getD]
    cases found : names[position]? with
    | none => exact List.not_mem_nil
    | some name => exact free name (List.mem_of_getElem? found)
  have weekday (day : Nat) : '@' ∉ (Calendar.weekdayName day).toList :=
    named Calendar.weekdayNames (by decide) day
  have month (month : Nat) : '@' ∉ (Calendar.monthName month).toList :=
    named Calendar.monthNames (by decide) (month - 1)
  have year : '@' ∉ Calendar.yearText date.year := by
    rw [Calendar.yearText]
    split
    · exact Number.noAt_padded _ _
    · split <;> simp [Number.noAt_padded]
  have day : '@' ∉ Number.digits date.day := fun member => by
    cases Number.isDigit_of_mem_digits member
  simp [Date.long, weekday, month, year, day]

/-- All marks a digest template is searched for. -/
def digestMarks : List MarkName := Bucket.blockMarks ++ .today :: Bucket.all.map Bucket.listMark

namespace RecipientItems

variable {recipient : RecipientItems} {itemTemplate editUrl : String} {today : Date} {name : MarkName}

theorem mem_digestMarks_of_value? (valued : (recipient.value? itemTemplate editUrl today name).isSome) :
    name ∈ digestMarks := by
  refine List.mem_append_right _ ?_
  rw [value?] at valued
  split at valued
  · next same => exact same ▸ List.mem_cons_self
  · obtain ⟨bucket, found⟩ := Option.isSome_iff_exists.mp (Option.isSome_map.symm.trans valued)
    have same : name = bucket.listMark := by simpa using List.find?_some found
    exact List.mem_cons_of_mem _ (List.mem_map.mpr ⟨bucket, Bucket.mem_all bucket, same.symm⟩)

theorem noAt_of_value?
    (quiet : ∀ bucket, '@' ∉ renderItems itemTemplate.toList editUrl (recipient.items bucket))
    {value : List Char} (valued : recipient.value? itemTemplate editUrl today name = some value) :
    '@' ∉ value := by
  rw [value?] at valued
  split at valued
  · cases valued
    exact today.noAt_long
  · obtain ⟨bucket, -, rfl⟩ := Option.map_eq_some_iff.mp valued
    exact quiet bucket

end RecipientItems

namespace Templates

variable {templates : Templates} {editUrl : String} {today : Date} {recipient : RecipientItems}

/-- The document of a template that is not torn is what the chunks say that are left of it. -/
theorem refuses_or_render_chunks {script : Script digestMarks}
    (source : templates.digest.toList = script.source) (due : recipient.isEmpty = false) :
    templates.Refuses editUrl today recipient ∨
      ∃ rest, Bucket.naming.resolveAll? recipient.shows Bucket.all script.chunks = some rest ∧
        templates.render editUrl today recipient = .ok (some {
          email := recipient.email
          html := String.ofList
            (rest.flatMap (Chunk.meaning (recipient.value? templates.item editUrl today)) ++ script.tail)
          itemCount := recipient.total }) := by
  have resolved : (resolveBlocks script.source recipient).toOption =
      (Bucket.naming.resolveAll? recipient.shows Bucket.all script.chunks).map fun rest =>
        rest.flatMap Chunk.source ++ script.tail :=
    Naming.toOption_foldlM_resolveNamed script.plain (List.subset_append_left _ _)
      recipient.shows script.chunks
  cases blocks : resolveBlocks script.source recipient with
  | error cause =>
    refine .inl ⟨cause, ?_⟩
    rw [render_of_due _ _ _ due, source, blocks]
    rfl
  | ok document =>
    rw [blocks] at resolved
    obtain ⟨rest, final, rfl⟩ := Option.map_eq_some_iff.mp resolved.symm
    have replaced : (templates.tokens editUrl today recipient).replace
        (rest.flatMap Chunk.source ++ script.tail) =
          rest.flatMap (Chunk.meaning (recipient.value? templates.item editUrl today)) ++ script.tail := by
      rw [TokenTable.replace, replaceWith_tokens, ← markValue?_tokens]
      refine TokenTable.replaceOnce_chunks ofMarks_tokens (fun name valued => ?_) script.plain rest
      rw [markValue?_tokens] at valued
      exact RecipientItems.mem_digestMarks_of_value? valued
    refine .inr ⟨rest, final, ?_⟩
    rw [render_of_due _ _ _ due, source, blocks, Except.map, replaced]

/-- A document has only those marks of blocks that stand in the template twice, unless the template
has a torn mark or the items bring marks along. -/
theorem render_survivors (today : Date) (whole : ¬Torn digestMarks templates.digest.toList)
    (due : recipient.isEmpty = false)
    (quiet : ∀ bucket, '@' ∉ renderItems templates.item.toList editUrl (recipient.items bucket)) :
    templates.Refuses editUrl today recipient ∨
      ∃ document, templates.render editUrl today recipient = .ok (some document) ∧
        ∀ mark ∈ Bucket.blockMarks, mark.text <:+: document.html.toList →
          MarksInOrder templates.digest.toList [mark, mark] := by
  obtain ⟨script, source⟩ := Script.exists_script whole
  rcases refuses_or_render_chunks source.symm due with refused | ⟨rest, final, rendered⟩
  · exact .inl refused
  · refine .inr ⟨_, rendered, ?_⟩
    intro mark own survives
    have listed : mark ∈ digestMarks := List.mem_append_left _ own
    rw [String.toList_ofList] at survives
    have left : mark ∈ Chunk.names rest :=
      Chunk.mem_names_of_infix (fun _ _ => RecipientItems.noAt_of_value? quiet) listed
        (script.plain mark listed) survives
    obtain ⟨bucket, member, own⟩ := List.mem_flatMap.mp own
    rw [← source]
    exact (Chunk.marksInOrder_source_iff script.plain (by simpa using listed) script.chunks).mpr
      (Naming.twice_of_mem_resolveAll? final member own left)

theorem render_survivors_nested :
    ¬Torn digestMarks (nested .today .overdue).digest.toList ∧
      (RecipientItems.showing (· == .overdue)).isEmpty = false ∧
      (∀ bucket, '@' ∉ renderItems (nested .today .overdue).item.toList "edit"
        ((RecipientItems.showing (· == .overdue)).items bucket)) ∧
      ∃ document, (nested .today .overdue).render "edit" juneDay (.showing (· == .overdue)) =
          .ok (some document) ∧
        ∀ mark ∈ Bucket.blockMarks, ¬mark.text <:+: document.html.toList := by
  have whole : ¬Torn digestMarks (nested .today .overdue).digest.toList := whole_nested .today .overdue
  have due : (RecipientItems.showing (· == .overdue)).isEmpty = false := by decide
  have quiet (bucket : Bucket) : '@' ∉ renderItems (nested .today .overdue).item.toList "edit"
      ((RecipientItems.showing (· == .overdue)).items bucket) := by
    cases bucket <;> decide +kernel
  refine ⟨whole, due, quiet, ?_⟩
  rcases render_survivors juneDay whole due quiet with refused | ⟨document, rendered, survivors⟩
  · rw [refuses_nested_iff (by decide) due] at refused
    exact absurd refused.1 (by decide)
  · refine ⟨document, rendered, fun mark own found => ?_⟩
    exact not_repeats_nested .today .overdue ⟨mark, own, survivors mark own found⟩

/-- The mark stands in the document of the recipient. -/
def Survives (templates : Templates) (editUrl : String) (today : Date) (recipient : RecipientItems)
    (mark : MarkName) : Prop :=
  ∃ document, templates.render editUrl today recipient = .ok (some document) ∧
    mark.text <:+: document.html.toList

theorem survives_titles {text left : List Char} {mark : MarkName} (due : recipient.isEmpty = false)
    (resolved : resolveBlocks text recipient = .ok left)
    (found : mark.text <:+: ((titles text).tokens editUrl today recipient).replaceOnce left) :
    (titles text).Survives editUrl today recipient mark := by
  refine ⟨⟨recipient.email,
    String.ofList (((titles text).tokens editUrl today recipient).replaceOnce left),
    recipient.total⟩, ?_, ?_⟩
  · rw [render_of_due _ _ _ due, ← replaceWith_tokens]
    rw [titles, String.toList_ofList, resolved]
    rfl
  · rw [String.toList_ofList]
    exact found

/-- A block around the token for the items of its bucket. -/
def listBlock (bucket : Bucket) : List Char :=
  (Bucket.naming.parts (.block bucket [.mark bucket.listMark])).flatMap Part.source

/-- Every bucket has its block, and one bucket has it twice. -/
def repeated (twice : Bucket) : List Char := (Bucket.all ++ [twice]).flatMap listBlock

/-- Every bucket has its block; one stands between two pieces of the mark that starts another. -/
def pieced (broken between : Bucket) : List Char :=
  Bucket.all.flatMap fun bucket =>
    if bucket = between then
      broken.blockMark.text.take 7 ++ listBlock bucket ++ broken.blockMark.text.drop 7
    else listBlock bucket

/-- A second block of a bucket is left as it is, and so is a mark put together from its pieces. -/
theorem block_marks_survive :
    (RecipientItems.showing (· == .today)).isEmpty = false ∧
      (∀ bucket, '@' ∉ renderItems (titles []).item.toList "edit"
        ((RecipientItems.showing (· == .today)).items bucket)) ∧
      (titles (repeated .overdue)).Survives "edit" juneDay (.showing (· == .today))
        Bucket.overdue.blockMark ∧
      (titles (pieced .wayOverdue .tomorrow)).Survives "edit" juneDay (.showing (· == .today))
        Bucket.wayOverdue.blockMark := by
  have due : (RecipientItems.showing (· == .today)).isEmpty = false := by decide
  refine ⟨due, fun bucket => by cases bucket <;> decide +kernel, ?_, ?_⟩
  · have resolved : resolveBlocks (repeated .overdue) (.showing (· == .today)) =
        .ok (Bucket.today.listMark.text ++ listBlock .overdue) := by decide +kernel
    exact survives_titles due resolved (by decide +kernel)
  · have resolved : resolveBlocks (pieced .wayOverdue .tomorrow) (.showing (· == .today)) =
        .ok (Bucket.today.listMark.text ++ Bucket.wayOverdue.blockMark.text) := by decide +kernel
    exact survives_titles due resolved (by decide +kernel)

end Templates
end DueReminders
