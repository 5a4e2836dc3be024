import DueReminders.Proofs.Text.Passing
import DueReminders.Template.Block

/-! Templates as sequences of segments: plain text, marks, and blocks around a body of both. The
blocks of such a template can be resolved one after the other in any order; what is left is the
template with the bodies of the kept blocks and nothing of the others. -/
namespace DueReminders.Template

/-- A name that marks are made of: neither the sign that starts a mark nor the brace that ends one
occurs in it. -/
structure MarkName where
  chars : List Char
  noAt : '@' ∉ chars
  noBrace : '}' ∉ chars
  deriving DecidableEq

namespace MarkName

def text (name : MarkName) : List Char := token name.chars

def stop (name : MarkName) : MarkName where
  chars := '/' :: name.chars
  noAt := by simp [name.noAt]
  noBrace := by simp [name.noBrace]

theorem text_stop (name : MarkName) : name.stop.text = endMarker name.chars := rfl

/-- A mark behind its first character. -/
def rest (name : MarkName) : List Char := '{' :: (name.chars ++ ['}'])

theorem text_eq_cons (name : MarkName) : name.text = '@' :: name.rest := rfl

theorem noAt_rest (name : MarkName) : '@' ∉ name.rest := by simp [rest, name.noAt]

theorem eq_of_prefix {a b : MarkName} {rest : List Char} (found : a.text <+: b.text ++ rest) :
    a = b := by
  have upTo (name : MarkName) (tail : List Char) :
      ((name.chars ++ ['}']) ++ tail).takeWhile (· != '}') = name.chars := by
    rw [List.append_assoc, List.takeWhile_append_of_pos]
    · simp
    · intro c member
      simp only [bne_iff_ne, ne_eq]
      rintro rfl
      exact name.noBrace member
  obtain ⟨tail, same⟩ := found
  have names : a.chars ++ ['}'] ++ tail = b.chars ++ ['}'] ++ rest := by
    simpa [text, token] using same
  have chars : a.chars = b.chars := by
    rw [← upTo a tail, names, upTo b rest]
  cases a
  cases b
  cases chars
  rfl

theorem passes_of_noAt (name : MarkName) {text : List Char} (free : '@' ∉ text) :
    Text.Passes (name.text <+: ·) text := by
  apply Text.passes_of_not_mem _ free
  rintro text ⟨rest, rfl⟩
  rfl

theorem passes_text {name other : MarkName} (apart : name ≠ other) :
    Text.Passes (name.text <+: ·) other.text := by
  rw [other.text_eq_cons, Text.passes_cons_iff]
  refine ⟨?_, name.passes_of_noAt other.noAt_rest⟩
  intro behind found
  rw [← text_eq_cons] at found
  have same : name = other := eq_of_prefix found
  exact apart same

theorem text_injective {a b : MarkName} (same : a.text = b.text) : a = b := by
  have found : a.text <+: b.text ++ [] := ⟨[], by simp [same]⟩
  exact eq_of_prefix found

end MarkName

/-- What a template consists of between the marks of blocks, and with these marks as well. -/
inductive Part where
  | plain (text : List Char) (free : '@' ∉ text)
  | mark (name : MarkName)

namespace Part

def source : Part → List Char
  | .plain text _ => text
  | .mark name => name.text

theorem splitFirst?_source_append {name : MarkName} {part : Part} (other : part ≠ .mark name)
    (rest : List Char) :
    Text.splitFirst? name.text (part.source ++ rest) =
      (Text.splitFirst? name.text rest).map fun (before, after) => (part.source ++ before, after) := by
  apply Text.splitFirst?_append_of_passes
  cases part with
  | plain text free => exact name.passes_of_noAt free
  | mark key => exact MarkName.passes_text fun same => other (by rw [same])

/-- A mark is found behind parts that are all different from it. -/
theorem splitFirst?_flatMap_source {name : MarkName} {parts : List Part}
    (absent : .mark name ∉ parts) (rest : List Char) :
    Text.splitFirst? name.text (parts.flatMap source ++ (name.text ++ rest)) =
      some (parts.flatMap source, rest) := by
  induction parts with
  | nil => exact Text.splitFirst?_append_self name.text rest
  | cons part parts ih =>
    simp only [List.mem_cons, not_or] at absent
    rw [List.flatMap_cons, List.append_assoc, splitFirst?_source_append (Ne.symm absent.1),
      ih absent.2]
    rfl

end Part

variable {β : Type}

/-- A part of a template, or a labelled block around parts. -/
inductive Segment (β : Type) where
  | outside (part : Part)
  | block (label : β) (body : List Part)

namespace Segment

def label? : Segment β → Option β
  | .outside _ => none
  | .block label _ => some label

def labels (segments : List (Segment β)) : List β := segments.filterMap label?

/-- The parts of a segment without the marks of a block. -/
def inner : Segment β → List Part
  | .outside part => [part]
  | .block _ body => body

/-- The parts that stay when the blocks are resolved. -/
def kept (keep : β → Bool) : Segment β → List Part
  | .outside part => [part]
  | .block label body => if keep label then body else []

@[simp] theorem labels_append (front back : List (Segment β)) :
    labels (front ++ back) = labels front ++ labels back := List.filterMap_append

@[simp] theorem labels_cons_block (label : β) (body : List Part) (segments : List (Segment β)) :
    labels (.block label body :: segments) = label :: labels segments := rfl

/-- What a resolved block leaves in its place. -/
def resolved (keep : Bool) (body : List Part) : List (Segment β) :=
  (if keep then body else []).map outside

@[simp] theorem labels_resolved (keep : Bool) (body : List Part) :
    labels (resolved keep body : List (Segment β)) = [] := by
  simp [labels, resolved, label?]

theorem mem_of_mem_resolved {keep : Bool} {body : List Part} {part : Part}
    (member : part ∈ (resolved keep body : List (Segment β)).flatMap inner) : part ∈ body := by
  cases keep with
  | true => simpa [resolved, List.flatMap_map, inner] using member
  | false => simp [resolved] at member

section

variable [DecidableEq β]

/-- What becomes of a segment when the listed blocks are resolved. -/
def after (keep : β → Bool) (listed : List β) : Segment β → List (Segment β)
  | .outside part => [.outside part]
  | .block label body => if label ∈ listed then resolved (keep label) body else [.block label body]

variable {keep : β → Bool} {listed : List β}

theorem after_perm {other : List β} (same : other.Perm listed) : after keep other = after keep listed := by
  funext segment
  cases segment with
  | outside part => rfl
  | block label body => simp only [after, same.mem_iff]

theorem flatMap_after_nil (segments : List (Segment β)) : segments.flatMap (after keep []) = segments := by
  have single : after keep ([] : List β) = fun segment => [segment] := by
    funext segment
    cases segment <;> rfl
  rw [single, List.flatMap_singleton']

theorem flatMap_after_resolved (shown : Bool) (body : List Part) :
    (resolved shown body).flatMap (after keep listed) = resolved shown body := by
  rw [resolved, List.flatMap_map]
  exact List.map_eq_flatMap.symm

theorem flatMap_after_cons {label : β} {segments : List (Segment β)} (absent : label ∉ labels segments) :
    segments.flatMap (after keep (label :: listed)) = segments.flatMap (after keep listed) := by
  have each : ∀ segment ∈ segments, after keep (label :: listed) segment = after keep listed segment := by
    intro segment member
    cases segment with
    | outside part => rfl
    | block other body =>
      have present : other ∈ labels segments := List.mem_filterMap.mpr ⟨_, member, rfl⟩
      have apart : other ≠ label := fun same => absent (same ▸ present)
      simp only [after, List.mem_cons, apart, false_or]
  rw [List.flatMap_def, List.map_congr_left each, ← List.flatMap_def]

end

end Segment

/-- Names for the labels of blocks. Every start and every end mark belongs to one label only. -/
structure Naming (β : Type) where
  name : β → MarkName
  injective : ∀ a b, name a = name b → a = b
  notStop : ∀ a b, name a ≠ (name b).stop

namespace Naming

variable (naming : Naming β)

/-- The parts of a segment with the marks of a block. -/
def parts : Segment β → List Part
  | .outside part => [part]
  | .block label body => .mark (naming.name label) :: body ++ [.mark (naming.name label).stop]

def source (segments : List (Segment β)) : List Char :=
  (segments.flatMap naming.parts).flatMap Part.source

/-- Every block occurs once, and no mark inside or outside of the blocks is a mark of a block. -/
structure Clear (segments : List (Segment β)) : Prop where
  once : (Segment.labels segments).Nodup
  apart : ∀ key, .mark key ∈ segments.flatMap Segment.inner →
    ∀ label ∈ Segment.labels segments,
      key ≠ naming.name label ∧ key ≠ (naming.name label).stop

variable {naming}

theorem source_append (front back : List (Segment β)) :
    naming.source (front ++ back) = naming.source front ++ naming.source back := by
  simp [source]

theorem source_map_outside (parts : List Part) :
    naming.source (parts.map .outside) = parts.flatMap Part.source := by
  simp [source, List.flatMap_map, Naming.parts]

theorem mark_mem_parts {segments : List (Segment β)} {key : MarkName}
    (member : .mark key ∈ segments.flatMap naming.parts) :
    .mark key ∈ segments.flatMap Segment.inner ∨
      ∃ label ∈ Segment.labels segments,
        key = naming.name label ∨ key = (naming.name label).stop := by
  obtain ⟨segment, present, mark⟩ := List.mem_flatMap.mp member
  cases segment with
  | outside part => exact .inl (List.mem_flatMap.mpr ⟨_, present, mark⟩)
  | block label body =>
    have labelled : label ∈ Segment.labels segments :=
      List.mem_filterMap.mpr ⟨_, present, rfl⟩
    simp only [Naming.parts, List.cons_append, List.mem_cons, Part.mark.injEq, List.mem_append,
      List.not_mem_nil, or_false] at mark
    rcases mark with start | inner | stop
    · exact .inr ⟨label, labelled, .inl start⟩
    · exact .inl (List.mem_flatMap.mpr ⟨_, present, inner⟩)
    · exact .inr ⟨label, labelled, .inr stop⟩

variable {front back : List (Segment β)} {label : β} {body : List Part}

theorem Clear.start_not_mem (clear : naming.Clear (front ++ .block label body :: back)) :
    .mark (naming.name label) ∉ front.flatMap naming.parts := by
  intro member
  have once := clear.once
  rw [Segment.labels_append, Segment.labels_cons_block, List.nodup_append] at once
  rcases mark_mem_parts member with inner | ⟨other, present, start | stop⟩
  · have inside : .mark (naming.name label) ∈
        (front ++ .block label body :: back).flatMap Segment.inner := by
      rw [List.flatMap_append]
      exact List.mem_append_left _ inner
    exact (clear.apart _ inside label (by simp)).1 rfl
  · have same := naming.injective _ _ start
    exact once.2.2 other present label List.mem_cons_self same.symm
  · exact naming.notStop _ _ stop

theorem Clear.stop_not_mem (clear : naming.Clear (front ++ .block label body :: back)) :
    .mark (naming.name label).stop ∉ body := by
  intro member
  have inside : .mark (naming.name label).stop ∈
      (front ++ .block label body :: back).flatMap Segment.inner := by
    simp [Segment.inner, member]
  exact (clear.apart _ inside label (by simp)).2 rfl

/-- What is left of a clear template when one of its blocks is resolved is clear. -/
theorem Clear.resolved (clear : naming.Clear (front ++ .block label body :: back)) (keep : Bool) :
    naming.Clear (front ++ (Segment.resolved keep body ++ back)) := by
  constructor
  · have once := clear.once
    simp only [Segment.labels_append, Segment.labels_cons_block] at once
    simp only [Segment.labels_append, Segment.labels_resolved, List.nil_append]
    exact once.sublist ((List.Sublist.refl _).append (List.sublist_cons_self label _))
  · intro key member other present
    apply clear.apart key
    · simp only [List.flatMap_append, List.flatMap_cons, List.mem_append] at member ⊢
      refine member.imp id (Or.imp ?_ id)
      exact Segment.mem_of_mem_resolved
    · simp only [Segment.labels_append, Segment.labels_resolved, List.nil_append, List.mem_append]
        at present
      simp only [Segment.labels_append, Segment.labels_cons_block, List.mem_append, List.mem_cons]
      exact present.imp id .inr

/-- Resolving a block of a clear template leaves its body, or nothing, in its place. -/
theorem Clear.resolveNamed_source (clear : naming.Clear (front ++ .block label body :: back))
    (keep : Bool) :
    resolveNamed (naming.source (front ++ .block label body :: back)) (naming.name label).chars keep =
      .ok (naming.source (front ++ (Segment.resolved keep body ++ back))) := by
  have start := Part.splitFirst?_flatMap_source clear.start_not_mem
    (body.flatMap Part.source ++ ((naming.name label).stop.text ++ naming.source back))
  have stop := Part.splitFirst?_flatMap_source clear.stop_not_mem (naming.source back)
  have shape : naming.source (front ++ .block label body :: back) =
      (front.flatMap naming.parts).flatMap Part.source ++ ((naming.name label).text ++
        (body.flatMap Part.source ++ ((naming.name label).stop.text ++ naming.source back))) := by
    simp [source, Naming.parts, Part.source]
  rw [← shape] at start
  rw [resolveNamed, ← MarkName.text_stop]
  refine (resolveBlock_of_found start stop keep).trans ?_
  simp only [source_append, Segment.resolved, source_map_outside]
  cases keep <;> simp [source]

/-- Resolving some blocks of a clear template one after the other resolves each in its place. -/
theorem Clear.resolve_listed [DecidableEq β] {segments : List (Segment β)} (clear : naming.Clear segments)
    (keep : β → Bool) {order : List β} (once : order.Nodup) (present : order ⊆ Segment.labels segments) :
    order.foldlM (fun document label => resolveNamed document (naming.name label).chars (keep label))
        (naming.source segments) =
      .ok (naming.source (segments.flatMap (Segment.after keep order))) := by
  induction order generalizing segments with
  | nil =>
    rw [Segment.flatMap_after_nil]
    rfl
  | cons label order ih =>
    obtain ⟨fresh, once⟩ := List.nodup_cons.mp once
    obtain ⟨here, later⟩ := List.cons_subset.mp present
    obtain ⟨segment, member, labelled⟩ := List.mem_filterMap.mp here
    obtain ⟨front, back, rfl⟩ := List.append_of_mem member
    cases segment with
    | outside part => cases labelled
    | block other body =>
      cases labelled
      have single := clear.once
      rw [Segment.labels_append, Segment.labels_cons_block, List.perm_middle.nodup_iff, List.nodup_cons,
        List.mem_append, not_or] at single
      have left : order ⊆ Segment.labels (front ++ (Segment.resolved (keep label) body ++ back)) := by
        intro next member
        have other : next ≠ label := fun same => fresh (same ▸ member)
        simpa [other] using later member
      rw [List.foldlM_cons, clear.resolveNamed_source]
      refine (ih (clear.resolved (keep label)) once left).trans ?_
      simp only [List.flatMap_append, List.flatMap_cons, Segment.flatMap_after_resolved,
        Segment.flatMap_after_cons single.1.1, Segment.flatMap_after_cons single.1.2, Segment.after,
        List.mem_cons_self, if_true]

theorem source_after [DecidableEq β] {keep : β → Bool} {segments : List (Segment β)} {order : List β}
    (covers : Segment.labels segments ⊆ order) :
    naming.source (segments.flatMap (Segment.after keep order)) =
      (segments.flatMap (Segment.kept keep)).flatMap Part.source := by
  have each : ∀ segment ∈ segments,
      (Segment.after keep order segment).flatMap naming.parts = Segment.kept keep segment := by
    intro segment member
    cases segment with
    | outside part => rfl
    | block label body =>
      have listed : label ∈ order := covers (List.mem_filterMap.mpr ⟨_, member, rfl⟩)
      cases shown : keep label <;>
        simp [Segment.after, Segment.kept, Segment.resolved, Naming.parts, List.flatMap_map, listed, shown]
  have parts : (segments.flatMap (Segment.after keep order)).flatMap naming.parts =
      segments.flatMap (Segment.kept keep) := by
    rw [List.flatMap_assoc, List.flatMap_def, List.map_congr_left each, ← List.flatMap_def]
  rw [source, parts]

/-- Resolving every block of a clear template, in any order, leaves the parts outside of blocks and
the bodies of the blocks kept. -/
theorem resolve_in_order (keep : β → Bool) {order : List β} {segments : List (Segment β)}
    (covers : (Segment.labels segments).Perm order) (clear : naming.Clear segments) :
    order.foldlM (fun document label => resolveNamed document (naming.name label).chars (keep label))
        (naming.source segments) =
      .ok ((segments.flatMap (Segment.kept keep)).flatMap Part.source) := by
  classical
  rw [clear.resolve_listed keep (covers.nodup_iff.mp clear.once) covers.symm.subset,
    source_after covers.subset]

end Naming

end DueReminders.Template
