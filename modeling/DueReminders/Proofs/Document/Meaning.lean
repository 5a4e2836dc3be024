import DueReminders.Document
import DueReminders.Proofs.Template.Substitution

/-! The document a digest template stands for. A template in which every bucket has its block once
can be used for every recipient, and its document is read off the template from left to right. -/
namespace DueReminders

open Template

namespace Bucket

def blockMark (bucket : Bucket) : MarkName where
  chars := bucket.blockName.toList
  noAt := by cases bucket <;> decide
  noBrace := by cases bucket <;> decide

def listMark (bucket : Bucket) : MarkName where
  chars := bucket.listToken.toList
  noAt := by cases bucket <;> decide
  noBrace := by cases bucket <;> decide

theorem blockMark_injective {a b : Bucket} (same : a.blockMark = b.blockMark) : a = b :=
  blockName_injective (String.toList_injective (congrArg MarkName.chars same))

theorem listMark_injective {a b : Bucket} (same : a.listMark = b.listMark) : a = b :=
  listToken_injective (String.toList_injective (congrArg MarkName.chars same))

theorem blockMark_ne_stop (a b : Bucket) : a.blockMark ≠ b.blockMark.stop := by
  cases a <;> cases b <;> decide

def naming : Naming Bucket where
  name := blockMark
  injective _ _ := blockMark_injective
  notStop := blockMark_ne_stop

end Bucket

def Template.MarkName.today : MarkName := ⟨"TODAY".toList, by decide, by decide⟩

/-- What a mark stands for in the document of a recipient: the day, or the items of a bucket. -/
def RecipientItems.value? (recipient : RecipientItems) (itemTemplate editUrl : String) (today : Date)
    (name : MarkName) : Option (List Char) :=
  if name = .today then some today.long
  else
    (Bucket.all.find? fun bucket => name = bucket.listMark).map fun bucket =>
      renderItems itemTemplate.toList editUrl (recipient.items bucket)

def RecipientItems.shows (recipient : RecipientItems) (bucket : Bucket) : Bool :=
  !(recipient.items bucket).isEmpty

/-- What a segment says where marks stand for values and only some blocks are shown. -/
def Template.Segment.meaning {β : Type} (value? : MarkName → Option (List Char)) (shown : β → Bool) :
    Segment β → List Char
  | .outside part => part.meaning value?
  | .block label body => if shown label then body.flatMap (Part.meaning value?) else []

theorem Template.Segment.flatMap_meaning_kept {β : Type} (value? : MarkName → Option (List Char))
    (shown : β → Bool) (segment : Segment β) :
    (segment.kept shown).flatMap (Part.meaning value?) = segment.meaning value? shown := by
  cases segment with
  | outside part => simp [kept, meaning]
  | block label body => cases keep : shown label <;> simp [kept, meaning, keep]

/-- A template with the block of every bucket once, whose other marks are no marks of blocks. -/
structure DigestLayout where
  segments : List (Segment Bucket)
  complete : (Segment.labels segments).Perm Bucket.all
  apart : ∀ key, .mark key ∈ segments.flatMap Segment.inner →
    ∀ bucket : Bucket, key ≠ bucket.blockMark ∧ key ≠ bucket.blockMark.stop

namespace DigestLayout

def source (layout : DigestLayout) : String := String.ofList (Bucket.naming.source layout.segments)

theorem clear (layout : DigestLayout) : Bucket.naming.Clear layout.segments where
  once := layout.complete.nodup_iff.mpr Bucket.nodup_all
  apart key member bucket _ := layout.apart key member bucket

/-- What the template says to a recipient: its segments from left to right. -/
def meaning (layout : DigestLayout) (itemTemplate editUrl : String) (today : Date)
    (recipient : RecipientItems) : List Char :=
  layout.segments.flatMap
    (Segment.meaning (recipient.value? itemTemplate editUrl today) recipient.shows)

end DigestLayout

namespace Templates

variable {templates : Templates} {editUrl : String} {today : Date} {recipient : RecipientItems}

theorem markValue?_tokens :
    (templates.tokens editUrl today recipient).markValue? =
      recipient.value? templates.item editUrl today := by
  funext name
  refine (TokenTable.markValue?_foldl_insert (fun _ _ => Bucket.listMark_injective) _
    Bucket.nodup_all _ name).trans ?_
  refine (congrArg (Option.or _) (TokenTable.markValue?_insert .today name (longDate today))).trans ?_
  rw [RecipientItems.value?]
  by_cases here : name = .today
  · subst here
    simp only [if_true, longDate, String.toList_ofList]
    rfl
  · simp only [here, if_false, String.toList_ofList]
    exact Option.or_none

theorem ofMarks_tokens : (templates.tokens editUrl today recipient).OfMarks :=
  (TokenTable.ofMarks_empty.insert .today _).foldl_insert Bucket.listMark _ Bucket.all

/-- The keys of a recipient's table are few and short, so every engine accepts them. -/
theorem accepts_tokens (engine : PatternEngine) :
    engine.accepts (templates.tokens editUrl today recipient).pattern = true := by
  have short (bucket : Bucket) : (String.ofList bucket.listMark.text).utf8ByteSize ≤ 20 := by
    cases bucket <;> decide
  apply engine.accepts_small
  calc patternSize (templates.tokens editUrl today recipient).pattern
    _ ≤ patternSize (TokenTable.pattern
          (Record.empty.insert (String.ofList MarkName.today.text) (longDate today))) +
          Bucket.all.length * 20 := TokenTable.patternSize_foldl_insert_le short _ Bucket.all _
    _ ≤ patternSize (TokenTable.pattern Record.empty) +
          (String.ofList MarkName.today.text).utf8ByteSize + Bucket.all.length * 20 :=
        Nat.add_le_add_right (TokenTable.patternSize_insert_le Record.empty _ _) _
    _ ≤ 20000 := by
        rw [TokenTable.patternSize_pattern]
        decide

/-- With every engine a document is made in one pass. -/
theorem replaceWith_tokens (engine : PatternEngine) (document : List Char) :
    (templates.tokens editUrl today recipient).replaceWith engine document =
      (templates.tokens editUrl today recipient).replaceOnce document :=
  TokenTable.replaceWith_of_accepts (accepts_tokens engine) document

theorem replace_source (parts : List Part) :
    (templates.tokens editUrl today recipient).replace (parts.flatMap Part.source) =
      parts.flatMap (Part.meaning (recipient.value? templates.item editUrl today)) := by
  rw [TokenTable.replace, replaceWith_tokens, TokenTable.replaceOnce_source ofMarks_tokens,
    markValue?_tokens]

theorem resolveBlocks_source (layout : DigestLayout) (recipient : RecipientItems) :
    resolveBlocks layout.source.toList recipient =
      .ok ((layout.segments.flatMap (Segment.kept recipient.shows)).flatMap Part.source) := by
  rw [DigestLayout.source, String.toList_ofList]
  exact Naming.resolve_in_order _ layout.complete layout.clear

/-- A digest template with one block for every bucket has a document for every recipient with an
item: the template's meaning from left to right. What stands in it for a mark is never searched for
marks again. -/
theorem render_layout (layout : DigestLayout) (itemTemplate editUrl : String) (today : Date)
    (recipient : RecipientItems) (due : recipient.isEmpty = false) :
    Templates.render ⟨layout.source, itemTemplate⟩ editUrl today recipient =
      .ok (some {
        email := recipient.email
        html := String.ofList (layout.meaning itemTemplate editUrl today recipient)
        itemCount := recipient.total }) := by
  have meaning : (layout.segments.flatMap (Segment.kept recipient.shows)).flatMap
      (Part.meaning (recipient.value? itemTemplate editUrl today)) =
        layout.meaning itemTemplate editUrl today recipient := by
    rw [List.flatMap_assoc, DigestLayout.meaning]
    simp only [Segment.flatMap_meaning_kept]
  rw [render_of_due _ _ _ due, resolveBlocks_source, Except.map, replace_source, meaning]

/-- The day, and the items of every bucket on lines of their own, the latest first. -/
def overview : DigestLayout where
  segments := .outside (.mark .today) :: Bucket.all.reverse.map fun bucket =>
    .block bucket [.plain ['\n'] (by decide), .mark bucket.listMark]
  complete := by decide
  apart := by
    intro key member bucket
    have listed : key = .today ∨ ∃ other ∈ Bucket.all, key = other.listMark := by
      simpa [Segment.inner, Bucket.all, or_comm, or_left_comm] using member
    rcases listed with rfl | ⟨other, -, rfl⟩
    · cases bucket <;> decide
    · cases other <;> cases bucket <;> decide

/-- A recipient of one item, whose project is called like the marks of a template. -/
def overviewRecipient : RecipientItems :=
  RecipientItems.push { email := "ann@example.org" } .today
    ((Item.bare 7).set "Project" (.reference 1 "@{TODAY}@{/HAS_TODAY_TASKS}"))

theorem render_overview :
    overviewRecipient.isEmpty = false ∧
      Templates.render ⟨overview.source, "<@{Project}>"⟩ "edit" ⟨19886, by decide, by decide⟩
          overviewRecipient =
        .ok (some ⟨"ann@example.org",
          "Wednesday, June 12, 2024\n<@{TODAY}@{/HAS_TODAY_TASKS}>", 1⟩) := by
  have meaning : overview.meaning "<@{Project}>" "edit" ⟨19886, by decide, by decide⟩ overviewRecipient =
      "Wednesday, June 12, 2024\n<@{TODAY}@{/HAS_TODAY_TASKS}>".toList := by decide +kernel
  refine ⟨by decide, (render_layout overview _ _ _ overviewRecipient (by decide)).trans ?_⟩
  rw [meaning, String.ofList_toList]
  rfl

end Templates
end DueReminders
