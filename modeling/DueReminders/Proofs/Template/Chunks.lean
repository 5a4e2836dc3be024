import DueReminders.Proofs.Template.Layout

/-! Templates of any text, read with some marks in mind. Unless a beginning of a mark breaks off
right before a mark, a template falls into chunks: marks, and texts in which no mark can start
whatever comes to stand behind them. What is left of such a template when marks and whole regions
between marks are removed has no other marks than those that were not removed. -/
namespace DueReminders.Template

/-- The text starts with a beginning of a known mark that breaks off right before a known mark. -/
def TornAt (known : List MarkName) (text : List Char) : Prop :=
  ∃ piece back, text = piece ++ back ∧ piece ≠ [] ∧
    (∃ name ∈ known, piece <+: name.text ∧ piece ≠ name.text) ∧ ∃ name ∈ known, name.text <+: back

/-- Somewhere a beginning of a known mark breaks off right before a known mark. -/
def Torn (known : List MarkName) (text : List Char) : Prop :=
  ∃ rest, rest <:+ text ∧ TornAt known rest

variable {known : List MarkName}

theorem Torn.prepend {text : List Char} (torn : Torn known text) (front : List Char) :
    Torn known (front ++ text) := by
  obtain ⟨rest, behind, here⟩ := torn
  exact ⟨rest, behind.trans (List.suffix_append front text), here⟩

theorem torn_cons_iff {text : List Char} {c : Char} :
    Torn known (c :: text) ↔ TornAt known (c :: text) ∨ Torn known text := by
  simp only [Torn, List.suffix_cons_iff, or_and_right, exists_or, exists_eq_left]

theorem head?_of_tornAt {text : List Char} (torn : TornAt known text) : text.head? = some '@' := by
  obtain ⟨piece, back, rfl, solid, ⟨name, -, starts, -⟩, -⟩ := torn
  cases piece with
  | nil => exact absurd rfl solid
  | cons c piece =>
    rw [name.text_eq_cons, List.cons_prefix_cons] at starts
    exact congrArg some starts.1

theorem MarkName.passes_tornAt (name : MarkName) : Text.Passes (TornAt known) name.text := by
  rw [name.text_eq_cons, Text.passes_cons_iff]
  refine ⟨?_, Text.passes_of_not_mem (fun _ => head?_of_tornAt) name.noAt_rest⟩
  rintro behind ⟨piece, back, same, solid, ⟨key, -, starts, proper⟩, ⟨other, -, next⟩⟩
  rw [← text_eq_cons] at same
  have first : piece <+: name.text ++ behind := ⟨back, same.symm⟩
  rcases Nat.lt_or_ge piece.length name.text.length with shorter | longer
  · -- the mark behind the piece would start inside of this one
    obtain ⟨last, whole⟩ := List.prefix_of_prefix_length_le first (List.prefix_append _ _) shorter.le
    rw [← whole, List.append_assoc, List.append_cancel_left_eq] at same
    cases last with
    | nil => exact Nat.ne_of_lt shorter (by rw [← whole, List.append_nil])
    | cons c last =>
      rw [← same, other.text_eq_cons, List.cons_append, List.cons_prefix_cons] at next
      rw [← next.1, name.text_eq_cons] at whole
      cases piece with
      | nil => exact solid rfl
      | cons head piece =>
        have rest : piece ++ '@' :: last = name.rest := (List.cons_eq_cons.mp whole).2
        exact name.noAt_rest (by simp [← rest])
  · have inside : name.text <+: piece :=
      List.prefix_of_prefix_length_le (List.prefix_append _ _) first longer
    have equal : name = key := eq_of_prefix ((inside.trans starts).trans (List.prefix_append _ []))
    subst equal
    exact proper (starts.eq_of_length_le inside.length_le)

theorem not_torn_append {front rest : List Char} (passes : Text.Passes (TornAt known) front)
    (whole : ¬Torn known rest) : ¬Torn known (front ++ rest) := by
  induction front with
  | nil => exact whole
  | cons c front ih =>
    obtain ⟨here, later⟩ := Text.passes_cons_iff.mp passes
    rw [List.cons_append, torn_cons_iff, not_or]
    exact ⟨here rest, ih later⟩

/-- The marks stand in the text one behind the other. -/
def MarksInOrder (text : List Char) (wanted : List MarkName) : Prop :=
  Text.InOrder (wanted.map MarkName.text) text

/-- A text in which no known mark can start, or a known mark. -/
inductive Chunk (known : List MarkName) where
  | text (chars : List Char) (passed : ∀ name ∈ known, Text.Passes (name.text <+: ·) chars)
  | mark (name : MarkName) (listed : name ∈ known)

namespace Chunk

def source : Chunk known → List Char
  | .text chars _ => chars
  | .mark name _ => name.text

def name? : Chunk known → Option MarkName
  | .text _ _ => none
  | .mark name _ => some name

def names (chunks : List (Chunk known)) : List MarkName := chunks.filterMap name?

theorem names_subset (chunks : List (Chunk known)) : names chunks ⊆ known := by
  intro name member
  obtain ⟨chunk, -, marked⟩ := List.mem_filterMap.mp member
  cases chunk with
  | text chars passed => cases marked
  | mark key listed =>
    cases marked
    exact listed

theorem source_eq_text {chunk : Chunk known} {name : MarkName} (marked : chunk.name? = some name) :
    chunk.source = name.text := by
  cases chunk with
  | text chars passed => cases marked
  | mark other listed =>
    cases marked
    rfl

theorem passes_source {chunk : Chunk known} {name : MarkName} (listed : name ∈ known)
    (other : chunk.name? ≠ some name) : Text.Passes (name.text <+: ·) chunk.source := by
  cases chunk with
  | text chars passed => exact passed name listed
  | mark key _ => exact MarkName.passes_text fun same => other (by rw [name?, same])

/-- The chunks before and after the first mark of a name. -/
def split? (name : MarkName) : List (Chunk known) → Option (List (Chunk known) × List (Chunk known))
  | [] => none
  | chunk :: rest =>
    if chunk.name? = some name then some ([], rest)
    else (split? name rest).map fun (before, after) => (chunk :: before, after)

theorem names_of_split? {name : MarkName} {chunks before after : List (Chunk known)}
    (found : split? name chunks = some (before, after)) :
    names chunks = names before ++ name :: names after ∧ name ∉ names before := by
  induction chunks generalizing before with
  | nil => cases found
  | cons chunk rest ih =>
    rw [split?] at found
    split at found
    · next here =>
      cases found
      exact ⟨List.filterMap_cons_some here, List.not_mem_nil⟩
    · next other =>
      obtain ⟨⟨inner, last⟩, there, same⟩ := Option.map_eq_some_iff.mp found
      cases same
      obtain ⟨split, fresh⟩ := ih there
      cases marked : chunk.name? with
      | none =>
        rw [names, names, List.filterMap_cons_none marked, List.filterMap_cons_none marked]
        exact ⟨split, fresh⟩
      | some key =>
        rw [names, names, List.filterMap_cons_some marked, List.filterMap_cons_some marked,
          List.mem_cons, not_or]
        exact ⟨congrArg (key :: ·) split, fun same => other (by rw [marked, same]), fresh⟩

theorem split?_eq_none_iff {name : MarkName} {chunks : List (Chunk known)} :
    split? name chunks = none ↔ name ∉ names chunks := by
  induction chunks with
  | nil => simp [split?, names]
  | cons chunk rest ih =>
    rw [split?, names, List.filterMap_cons]
    cases marked : chunk.name? with
    | none => simpa [names] using ih
    | some key =>
      by_cases same : key = name
      · simp [same]
      · simpa [same, Ne.symm same, names] using ih

theorem cons_sublist_append_cons_iff {α : Type} {value : α} {wanted before after : List α}
    (fresh : value ∉ before) :
    (value :: wanted).Sublist (before ++ value :: after) ↔ wanted.Sublist after := by
  constructor
  · intro kept
    obtain ⟨first, second, same, inFront, behind⟩ := List.sublist_append_iff.mp kept
    cases first with
    | nil =>
      rw [List.nil_append] at same
      rw [← same] at behind
      exact List.cons_sublist_cons.mp behind
    | cons head _ =>
      obtain ⟨rfl, -⟩ := List.cons_eq_cons.mp same
      exact absurd (inFront.subset List.mem_cons_self) fresh
  · intro kept
    exact (List.cons_sublist_cons.mpr kept).trans (List.sublist_append_right before _)

variable {tail : List Char} {name : MarkName}

theorem splitFirst?_source (plain : ∀ name ∈ known, ¬name.text <:+: tail) (listed : name ∈ known)
    (chunks : List (Chunk known)) :
    Text.splitFirst? name.text (chunks.flatMap source ++ tail) =
      (split? name chunks).map fun (before, after) =>
        (before.flatMap source, after.flatMap source ++ tail) := by
  induction chunks with
  | nil =>
    have absent : Text.splitFirst? name.text tail = none := by
      rw [Text.splitFirst?_eq_none_iff]
      rintro before after rfl
      exact plain name listed ⟨before, after, rfl⟩
    simpa [split?] using absent
  | cons chunk rest ih =>
    rw [List.flatMap_cons, List.append_assoc, split?]
    split
    · next here =>
      rw [source_eq_text here, Text.splitFirst?_append_self]
      rfl
    · next other =>
      rw [Text.splitFirst?_append_of_passes (passes_source listed other), ih, Option.map_map,
        Option.map_map]
      rfl

/-- Marks stand one behind the other in the text as they do among the chunks. -/
theorem marksInOrder_source_iff (plain : ∀ name ∈ known, ¬name.text <:+: tail) {wanted : List MarkName}
    (listed : wanted ⊆ known) (chunks : List (Chunk known)) :
    MarksInOrder (chunks.flatMap source ++ tail) wanted ↔ wanted.Sublist (names chunks) := by
  induction wanted generalizing chunks with
  | nil => simp [MarksInOrder, Text.InOrder]
  | cons name wanted ih =>
    obtain ⟨here, others⟩ := List.cons_subset.mp listed
    rw [MarksInOrder, List.map_cons, Text.inOrder_cons_iff, splitFirst?_source plain here]
    cases found : split? name chunks with
    | none =>
      have absent := split?_eq_none_iff.mp found
      have missing : ¬(name :: wanted).Sublist (names chunks) := fun kept =>
        absent (kept.subset List.mem_cons_self)
      simp [missing]
    | some halves =>
      obtain ⟨before, after⟩ := halves
      obtain ⟨split, fresh⟩ := names_of_split? found
      rw [split, cons_sublist_append_cons_iff fresh, ← ih others after]
      simp [MarksInOrder]

end Chunk

namespace Part

def mark? : Part → Option MarkName
  | .plain _ _ => none
  | .mark name => some name

def marks (parts : List Part) : List MarkName := parts.filterMap mark?

theorem not_torn_source (parts : List Part) : ¬Torn known (parts.flatMap source) := by
  have passes : Text.Passes (TornAt known) (parts.flatMap source) := by
    refine Text.passes_flatMap fun part _ => ?_
    cases part with
    | plain text free => exact Text.passes_of_not_mem (fun _ => head?_of_tornAt) free
    | mark name => exact name.passes_tornAt
  have empty : ¬Torn known [] := by
    rintro ⟨rest, last, here⟩
    rw [List.suffix_nil.mp last] at here
    cases head?_of_tornAt here
  simpa using not_torn_append passes empty

/-- A part as a chunk; other marks are texts like any other. -/
def chunk (known : List MarkName) : Part → Chunk known
  | .plain text free => .text text fun name _ => name.passes_of_noAt free
  | .mark name =>
    if listed : name ∈ known then .mark name listed
    else .text name.text fun _ other => MarkName.passes_text fun same => listed (same ▸ other)

theorem source_chunk (known : List MarkName) (part : Part) : (part.chunk known).source = part.source := by
  cases part with
  | plain text free => rfl
  | mark name =>
    rw [chunk]
    split <;> rfl

theorem names_map_chunk {parts : List Part} (listed : marks parts ⊆ known) :
    Chunk.names (parts.map (chunk known)) = marks parts := by
  rw [Chunk.names, List.filterMap_map]
  refine List.filterMap_congr fun part member => ?_
  cases part with
  | plain text free => rfl
  | mark name =>
    have present : name ∈ known := listed (List.mem_filterMap.mpr ⟨_, member, rfl⟩)
    simp only [Function.comp_apply, chunk, present, dif_pos, Chunk.name?, mark?]

theorem marksInOrder_source (parts : List Part) :
    MarksInOrder (parts.flatMap source) = (·.Sublist (marks parts)) := by
  funext wanted
  let known := wanted ++ marks parts
  have text : parts.flatMap source = (parts.map (chunk known)).flatMap Chunk.source ++ [] := by
    simp [List.flatMap_map, source_chunk]
  have plain : ∀ name ∈ known, ¬name.text <:+: [] := fun name _ found =>
    List.cons_ne_nil _ _ (List.infix_nil.mp found)
  rw [text, Chunk.marksInOrder_source_iff plain (List.subset_append_left _ _),
    names_map_chunk (List.subset_append_right _ _)]

end Part

/-- No known mark starts in the front of a text. -/
def Unmarked (known : List MarkName) (front rest : List Char) : Prop :=
  ∀ skipped inner, front = skipped ++ inner → inner ≠ [] → ∀ key ∈ known, ¬key.text <+: inner ++ rest

namespace Unmarked

variable {front rest : List Char}

theorem nil : Unmarked known [] rest := by
  intro skipped inner same solid
  exact absurd (List.append_eq_nil_iff.mp same.symm).2 solid

theorem concat {c : Char} (unmarked : Unmarked known front (c :: rest))
    (absent : ¬∃ name ∈ known, name.text <+: c :: rest) : Unmarked known (front ++ [c]) rest := by
  intro skipped inner same solid key listed found
  obtain ⟨earlier, last, rfl⟩ := inner.eq_nil_or_concat'.resolve_left solid
  rw [← List.append_assoc, List.append_singleton_inj] at same
  obtain ⟨rfl, rfl⟩ := same
  rw [List.append_assoc, List.singleton_append] at found
  by_cases empty : earlier = []
  · exact absent ⟨key, listed, by simpa [empty] using found⟩
  · exact unmarked skipped earlier rfl empty key listed found

theorem not_infix (unmarked : Unmarked known front []) : ∀ key ∈ known, ¬key.text <:+: front := by
  rintro key listed ⟨skipped, behind, same⟩
  refine unmarked skipped (key.text ++ behind) (by simp [← same]) (List.cons_ne_nil _ _) key listed ?_
  exact ⟨behind, by simp⟩

theorem passes {name : MarkName} (unmarked : Unmarked known front (name.text ++ rest))
    (listed : name ∈ known) (whole : ¬Torn known (front ++ (name.text ++ rest))) :
    ∀ key ∈ known, Text.Passes (key.text <+: ·) front := by
  rintro key known skipped inner rfl solid behind found
  have first : inner <+: inner ++ behind := List.prefix_append _ _
  rcases Nat.lt_or_ge inner.length key.text.length with shorter | longer
  · refine whole ⟨inner ++ (name.text ++ rest), ⟨skipped, by simp⟩, inner, name.text ++ rest, rfl, solid,
      ⟨key, known, ?_, ?_⟩, name, listed, List.prefix_append _ _⟩
    · exact List.prefix_of_prefix_length_le first found (Nat.le_of_lt shorter)
    · rintro rfl
      exact Nat.lt_irrefl _ shorter
  · have inside := List.prefix_of_prefix_length_le found first longer
    exact unmarked skipped inner rfl solid key known (inside.trans (List.prefix_append _ _))

end Unmarked

/-- The chunks of a template, and the text behind its last mark. -/
structure Script (known : List MarkName) where
  chunks : List (Chunk known)
  tail : List Char
  plain : ∀ name ∈ known, ¬name.text <:+: tail

namespace Script

def source (script : Script known) : List Char := script.chunks.flatMap Chunk.source ++ script.tail

/-- A front in which no mark starts is carried along until the next mark makes a chunk of it. -/
theorem exists_script_append (front rest : List Char) (unmarked : Unmarked known front rest)
    (whole : ¬Torn known (front ++ rest)) : ∃ script : Script known, script.source = front ++ rest := by
  induction long : rest.length using Nat.strongRecOn generalizing front rest with
  | ind size ih =>
    cases rest with
    | nil => exact ⟨⟨[], front, unmarked.not_infix⟩, by simp [source]⟩
    | cons c rest =>
      by_cases marked : ∃ name ∈ known, name.text <+: c :: rest
      · obtain ⟨name, listed, back, same⟩ := marked
        rw [← same] at whole unmarked long ⊢
        have shorter : back.length < size := by
          rw [← long, name.text_eq_cons, List.cons_append, List.length_cons, List.length_append]
          omega
        have behind : ¬Torn known back := fun torn =>
          whole (by simpa using torn.prepend (front ++ name.text))
        obtain ⟨script, read⟩ := ih back.length shorter [] back .nil behind rfl
        refine ⟨⟨.text front (unmarked.passes listed whole) :: .mark name listed :: script.chunks,
          script.tail, script.plain⟩, ?_⟩
        rw [List.nil_append] at read
        simp [← read, source, Chunk.source]
      · obtain ⟨script, read⟩ :=
          ih rest.length (by simp [← long]) (front ++ [c]) rest (unmarked.concat marked)
            (by simpa using whole) rfl
        exact ⟨script, by simpa using read⟩

theorem exists_script {text : List Char} (whole : ¬Torn known text) :
    ∃ script : Script known, script.source = text :=
  exists_script_append [] text .nil whole

end Script

end DueReminders.Template
