import DueReminders.Proofs.Template.Chunks
import Mathlib.Data.List.Nodup
import Mathlib.Data.List.Perm.Basic

/-! Which templates are accepted. Blocks are resolved one after the other, each in what is left by
those before, so a block that is dropped takes along what it encloses. A template in which no mark
of a block stands twice is accepted exactly when every block is there and no dropped block encloses
a mark of a block that is resolved later. -/
namespace DueReminders.Template

theorem MarkName.stop_injective {a b : MarkName} (same : a.stop = b.stop) : a = b := by
  have chars : '/' :: a.chars = '/' :: b.chars := congrArg MarkName.chars same
  exact text_injective (congrArg token (List.cons_eq_cons.mp chars).2)

variable {known : List MarkName}

namespace Chunk

/-- What is left when the first region between two marks is kept or dropped. -/
def resolve? (start stop : MarkName) (keep : Bool) (chunks : List (Chunk known)) :
    Option (List (Chunk known)) :=
  (split? start chunks).bind fun (before, rest) =>
    (split? stop rest).map fun (body, after) => before ++ ((if keep then body else []) ++ after)

variable {start stop : MarkName} {keep : Bool} {chunks rest : List (Chunk known)}

theorem names_of_resolve? (resolved : resolve? start stop keep chunks = some rest) :
    ∃ before body after, names chunks = before ++ start :: (body ++ stop :: after) ∧
      names rest = before ++ ((if keep then body else []) ++ after) ∧
      start ∉ before ∧ stop ∉ body := by
  obtain ⟨⟨before, later⟩, opened, resolved⟩ := Option.bind_eq_some_iff.mp resolved
  obtain ⟨⟨body, after⟩, closed, rfl⟩ := Option.map_eq_some_iff.mp resolved
  obtain ⟨first, noStart⟩ := names_of_split? opened
  obtain ⟨second, noStop⟩ := names_of_split? closed
  refine ⟨names before, names body, names after, by rw [first, second], ?_, noStart, noStop⟩
  cases keep <;> simp [names]

theorem isSome_resolve?_iff :
    (resolve? start stop keep chunks).isSome ↔ [start, stop].Sublist (names chunks) := by
  rw [resolve?]
  cases opened : split? start chunks with
  | none =>
    have absent := split?_eq_none_iff.mp opened
    have missing : ¬[start, stop].Sublist (names chunks) := fun kept =>
      absent (kept.subset List.mem_cons_self)
    simp [missing]
  | some halves =>
    obtain ⟨before, later⟩ := halves
    obtain ⟨split, fresh⟩ := names_of_split? opened
    rw [split, cons_sublist_append_cons_iff fresh, List.singleton_sublist]
    simp only [Option.bind_some, Option.isSome_map]
    rw [← not_iff_not, Bool.not_eq_true, Option.isSome_eq_false_iff, Option.isNone_iff_eq_none,
      split?_eq_none_iff]

theorem names_resolve?_sublist (resolved : resolve? start stop keep chunks = some rest) :
    (names rest).Sublist (names chunks) := by
  obtain ⟨before, body, after, whole, left, -, -⟩ := names_of_resolve? resolved
  rw [whole, left]
  refine (List.Sublist.refl before).append (List.Sublist.cons start ?_)
  refine List.Sublist.append ?_ (List.sublist_cons_self stop after)
  cases keep
  · exact List.nil_sublist body
  · exact List.Sublist.refl body

theorem enclosed_iff {mark : MarkName} {before body after : List MarkName} (noStart : start ∉ before)
    (noStop : stop ∉ after) :
    [start, mark, stop].Sublist (before ++ start :: (body ++ stop :: after)) ↔ mark ∈ body := by
  have reversed : (stop :: [mark]).Sublist (after.reverse ++ stop :: body.reverse) ↔
      [mark].Sublist body.reverse := cons_sublist_append_cons_iff (by simpa using noStop)
  rw [cons_sublist_append_cons_iff noStart, ← List.reverse_sublist]
  simpa using reversed

/-- When no mark stands twice, a dropped region takes along the marks it encloses, and no others. -/
theorem mem_names_resolve?_iff (once : (names chunks).Nodup)
    (resolved : resolve? start stop keep chunks = some rest) {mark : MarkName} (notStart : mark ≠ start)
    (notStop : mark ≠ stop) :
    mark ∈ names rest ↔
      mark ∈ names chunks ∧ (keep = false → ¬[start, mark, stop].Sublist (names chunks)) := by
  obtain ⟨before, body, after, whole, remains, noStart, -⟩ := names_of_resolve? resolved
  rw [whole] at once
  obtain ⟨-, inner, early⟩ := List.nodup_append.mp once
  obtain ⟨-, behind, late⟩ := List.nodup_append.mp (List.nodup_cons.mp inner).2
  have noStop : stop ∉ after := (List.nodup_cons.mp behind).1
  have apart (inside : mark ∈ body) : mark ∉ before ∧ mark ∉ after :=
    ⟨fun first => early mark first mark (by simp [inside]) rfl,
      fun last => late mark inside mark (List.mem_cons_of_mem _ last) rfl⟩
  have listed : mark ∈ before ++ start :: (body ++ stop :: after) ↔
      mark ∈ before ∨ mark ∈ body ∨ mark ∈ after := by simp [notStart, notStop]
  rw [whole, enclosed_iff noStart noStop, remains, listed]
  cases keep with
  | true => simp
  | false =>
    simp only [Bool.false_eq_true, if_false, List.nil_append, List.mem_append, true_imp_iff]
    tauto

/-- A mark of a resolved region is gone, unless it stood there twice. -/
theorem twice_of_mem_resolve? (resolved : resolve? start stop keep chunks = some rest) {mark : MarkName}
    (own : mark = start ∨ mark = stop) (left : mark ∈ names rest) :
    [mark, mark].Sublist (names chunks) := by
  obtain ⟨before, body, after, whole, remains, noStart, noStop⟩ := names_of_resolve? resolved
  have again (front rest : List MarkName) (later : mark ∈ rest) :
      [mark, mark].Sublist (front ++ mark :: rest) :=
    ((List.singleton_sublist.mpr later).cons_cons mark).trans (List.sublist_append_right front _)
  have kept : mark ∈ before ∨ mark ∈ body ∨ mark ∈ after := by
    rw [remains, List.mem_append, List.mem_append] at left
    refine left.imp_right (Or.imp_left ?_)
    cases keep <;> simp
  rw [whole]
  rcases own with rfl | rfl
  · refine again before _ (List.mem_append.mpr ?_)
    exact (kept.resolve_left noStart).imp_right (List.mem_cons_of_mem _)
  · rcases kept.imp_right (Or.resolve_left · noStop) with early | behind
    · exact (List.singleton_sublist.mpr early).append (List.singleton_sublist.mpr (by simp))
    · simpa using again (before ++ start :: body) after behind

theorem toOption_resolveBlock {tail : List Char} (plain : ∀ name ∈ known, ¬name.text <:+: tail)
    (opens : start ∈ known) (closes : stop ∈ known) (keep : Bool) (chunks : List (Chunk known)) :
    (resolveBlock (chunks.flatMap source ++ tail) start.text stop.text keep).toOption =
      (resolve? start stop keep chunks).map fun rest => rest.flatMap source ++ tail := by
  rw [resolveBlock, splitFirst?_source plain opens, resolve?]
  cases split? start chunks with
  | none => rfl
  | some halves =>
    obtain ⟨before, later⟩ := halves
    simp only [Option.map_some, Option.bind_some, splitFirst?_source plain closes]
    cases split? stop later with
    | none => rfl
    | some halves =>
      obtain ⟨body, after⟩ := halves
      cases keep <;> simp [Except.toOption]

end Chunk

variable {β : Type}

namespace Naming

/-- The marks a block starts and ends with. -/
def marks (naming : Naming β) (label : β) : List MarkName :=
  [naming.name label, (naming.name label).stop]

def allMarks (naming : Naming β) (labels : List β) : List MarkName := labels.flatMap naming.marks

/-- What is left when blocks are resolved one after the other. -/
def resolveAll? (naming : Naming β) (keep : β → Bool) (order : List β) (chunks : List (Chunk known)) :
    Option (List (Chunk known)) :=
  order.foldlM
    (fun chunks label =>
      Chunk.resolve? (naming.name label) (naming.name label).stop (keep label) chunks)
    chunks

variable {naming : Naming β} {keep : β → Bool} {order : List β} {chunks final : List (Chunk known)}

theorem disjoint_marks {a b : β} (apart : a ≠ b) {mark : MarkName} (member : mark ∈ naming.marks a) :
    mark ∉ naming.marks b := by
  simp only [marks, List.mem_cons, List.not_mem_nil, or_false] at member ⊢
  rcases member with rfl | rfl
  · rintro (same | same)
    · exact apart (naming.injective _ _ same)
    · exact naming.notStop _ _ same
  · rintro (same | same)
    · exact naming.notStop _ _ same.symm
    · exact apart (naming.injective _ _ (MarkName.stop_injective same))

theorem resolveAll?_cons_eq_some {label : β}
    (resolved : naming.resolveAll? keep (label :: order) chunks = some final) :
    ∃ rest, Chunk.resolve? (naming.name label) (naming.name label).stop (keep label) chunks = some rest ∧
      naming.resolveAll? keep order rest = some final := by
  rw [resolveAll?, List.foldlM_cons] at resolved
  exact Option.bind_eq_some_iff.mp resolved

theorem names_resolveAll?_sublist (resolved : naming.resolveAll? keep order chunks = some final) :
    (Chunk.names final).Sublist (Chunk.names chunks) := by
  induction order generalizing chunks with
  | nil =>
    cases resolved
    exact .refl _
  | cons label order ih =>
    obtain ⟨rest, here, later⟩ := resolveAll?_cons_eq_some resolved
    exact (ih later).trans (Chunk.names_resolve?_sublist here)

/-- The marks of a resolved block are gone, unless they stood there twice. -/
theorem twice_of_mem_resolveAll? (resolved : naming.resolveAll? keep order chunks = some final)
    {label : β} (member : label ∈ order) {mark : MarkName} (own : mark ∈ naming.marks label)
    (left : mark ∈ Chunk.names final) : [mark, mark].Sublist (Chunk.names chunks) := by
  induction order generalizing chunks with
  | nil => cases member
  | cons head order ih =>
    obtain ⟨rest, here, later⟩ := resolveAll?_cons_eq_some resolved
    rcases List.mem_cons.mp member with rfl | member
    · simp only [marks, List.mem_cons, List.not_mem_nil, or_false] at own
      exact Chunk.twice_of_mem_resolve? here own ((names_resolveAll?_sublist later).subset left)
    · exact (ih later member).trans (Chunk.names_resolve?_sublist here)

theorem sublist_of_subset {α : Type} {values left wanted : List α} (once : values.Nodup)
    (fewer : left.Sublist values) (kept : wanted.Sublist values) (all : wanted ⊆ left) :
    wanted.Sublist left := by
  obtain ⟨other, permuted, inside⟩ := List.subperm_of_subset (once.sublist kept) all
  have same : other = wanted := (once.perm_iff_eq_of_sublist (inside.trans fewer) kept).mp permuted
  exact same ▸ inside

/-- The start, a mark of one block and the end of another block stand one behind the other. -/
def Encloses (naming : Naming β) (stands : List MarkName → Prop) (outer inner : β) : Prop :=
  ∃ mark ∈ naming.marks inner, stands [naming.name outer, mark, (naming.name outer).stop]

instance (naming : Naming β) (stands : List MarkName → Prop) [DecidablePred stands] (outer inner : β) :
    Decidable (naming.Encloses stands outer inner) :=
  inferInstanceAs
    (Decidable (∃ mark ∈ naming.marks inner, stands [naming.name outer, mark, (naming.name outer).stop]))

/-- All blocks are there, and none that is dropped encloses a mark of a later one. -/
structure Accepts (naming : Naming β) (stands : List MarkName → Prop) (keep : β → Bool)
    (order : List β) : Prop where
  complete : ∀ label ∈ order, stands (naming.marks label)
  clear : order.Pairwise fun outer inner => keep outer = false → ¬naming.Encloses stands outer inner

/-- Where no block encloses a mark of a later one it does not matter which are dropped. -/
theorem accepts_iff_complete {stands : List MarkName → Prop}
    (apart : order.Pairwise fun outer inner => ¬naming.Encloses stands outer inner) :
    naming.Accepts stands keep order ↔ ∀ label ∈ order, stands (naming.marks label) :=
  ⟨Accepts.complete, fun complete => ⟨complete, apart.imp fun free _ enclosed => free enclosed⟩⟩

theorem accepts_cons_iff {head : β} {rest : List (Chunk known)} (once : (Chunk.names chunks).Nodup)
    (fresh : head ∉ order)
    (resolved : Chunk.resolve? (naming.name head) (naming.name head).stop (keep head) chunks = some rest) :
    naming.Accepts (·.Sublist (Chunk.names chunks)) keep (head :: order) ↔
      naming.Accepts (·.Sublist (Chunk.names rest)) keep order := by
  have fewer := Chunk.names_resolve?_sublist resolved
  -- of the marks of later blocks just those are lost that the dropped block encloses
  have left {label : β} (member : label ∈ order) {mark : MarkName} (own : mark ∈ naming.marks label) :
      mark ∈ Chunk.names rest ↔ mark ∈ Chunk.names chunks ∧ (keep head = false →
        ¬[naming.name head, mark, (naming.name head).stop].Sublist (Chunk.names chunks)) := by
    have other : label ≠ head := fun same => fresh (same ▸ member)
    have apart : mark ∉ naming.marks head := disjoint_marks other own
    simp only [marks, List.mem_cons, List.not_mem_nil, or_false, not_or] at apart
    exact Chunk.mem_names_resolve?_iff once resolved apart.1 apart.2
  constructor
  · rintro ⟨complete, clear⟩
    obtain ⟨-, complete⟩ := List.forall_mem_cons.mp complete
    obtain ⟨first, clear⟩ := List.pairwise_cons.mp clear
    refine ⟨?_, clear.imp ?_⟩
    · intro label member
      refine sublist_of_subset once fewer (complete label member) ?_
      intro mark own
      refine (left member own).mpr ⟨(complete label member).subset own, ?_⟩
      exact fun dropped enclosed => first label member dropped ⟨mark, own, enclosed⟩
    · rintro outer inner free dropped ⟨mark, own, enclosed⟩
      exact free dropped ⟨mark, own, enclosed.trans fewer⟩
  · rintro ⟨complete, clear⟩
    refine ⟨List.forall_mem_cons.mpr ⟨?_, fun label member => (complete label member).trans fewer⟩,
      List.pairwise_cons.mpr ⟨?_, clear.imp_of_mem ?_⟩⟩
    · exact Chunk.isSome_resolve?_iff.mp (Option.isSome_iff_exists.mpr ⟨rest, resolved⟩)
    · rintro label member dropped ⟨mark, own, enclosed⟩
      exact ((left member own).mp ((complete label member).subset own)).2 dropped enclosed
    · rintro outer inner outside inside free dropped ⟨mark, own, enclosed⟩
      refine free dropped ⟨mark, own, sublist_of_subset once fewer enclosed ?_⟩
      have start := (complete outer outside).subset
      have here := (complete inner inside).subset own
      simp only [marks, List.cons_subset] at start ⊢
      exact ⟨start.1, here, start.2⟩

/-- When no mark stands twice, the blocks can be resolved exactly when the marks are accepted. -/
theorem isSome_resolveAll?_iff (once : (Chunk.names chunks).Nodup) (distinct : order.Nodup) :
    (naming.resolveAll? keep order chunks).isSome ↔
      naming.Accepts (·.Sublist (Chunk.names chunks)) keep order := by
  induction order generalizing chunks with
  | nil => exact iff_of_true rfl ⟨by simp, .nil⟩
  | cons head order ih =>
    obtain ⟨fresh, distinct⟩ := List.nodup_cons.mp distinct
    rw [resolveAll?, List.foldlM_cons]
    cases here : Chunk.resolve? (naming.name head) (naming.name head).stop (keep head) chunks with
    | none =>
      refine iff_of_false Bool.false_ne_true fun accepted => ?_
      have found : (Chunk.resolve? (naming.name head) (naming.name head).stop (keep head) chunks).isSome :=
        Chunk.isSome_resolve?_iff.mpr (accepted.complete head List.mem_cons_self)
      rw [here] at found
      cases found
    | some rest =>
      rw [accepts_cons_iff once fresh here]
      exact ih (once.sublist (Chunk.names_resolve?_sublist here)) distinct

theorem mem_allMarks {label : β} (member : label ∈ order) {mark : MarkName}
    (own : mark ∈ naming.marks label) : mark ∈ naming.allMarks order :=
  List.mem_flatMap.mpr ⟨label, member, own⟩

theorem Accepts.congr {stands others : List MarkName → Prop}
    (same : ∀ wanted, wanted ⊆ naming.allMarks order → (stands wanted ↔ others wanted))
    (accepted : naming.Accepts stands keep order) : naming.Accepts others keep order where
  complete label member :=
    (same _ fun _ own => mem_allMarks member own).mp (accepted.complete label member)
  clear := by
    refine accepted.clear.imp_of_mem ?_
    rintro outer inner outside inside free dropped ⟨mark, own, enclosed⟩
    refine free dropped ⟨mark, own, (same _ ?_).mpr enclosed⟩
    simp only [List.cons_subset, List.nil_subset, and_true]
    exact ⟨mem_allMarks outside List.mem_cons_self, mem_allMarks inside own,
      mem_allMarks outside (by simp [marks])⟩

theorem toOption_bind {ε α γ : Type} (first : Except ε α) (next : α → Except ε γ) :
    (first >>= next).toOption = first.toOption.bind fun value => (next value).toOption := by
  cases first <;> rfl

theorem isSome_toOption_iff {ε α : Type} {result : Except ε α} :
    result.toOption.isSome ↔ ∃ value, result = .ok value := by
  cases result <;> simp [Except.toOption]

theorem toOption_foldlM_resolveNamed {tail : List Char} (plain : ∀ name ∈ known, ¬name.text <:+: tail)
    (listed : naming.allMarks order ⊆ known) (keep : β → Bool) (chunks : List (Chunk known)) :
    (order.foldlM (fun document label => resolveNamed document (naming.name label).chars (keep label))
        (chunks.flatMap Chunk.source ++ tail)).toOption =
      (naming.resolveAll? keep order chunks).map fun rest => rest.flatMap Chunk.source ++ tail := by
  induction order generalizing chunks with
  | nil => rfl
  | cons label order ih =>
    have opens : naming.name label ∈ known := listed (mem_allMarks List.mem_cons_self (by simp [marks]))
    have closes : (naming.name label).stop ∈ known :=
      listed (mem_allMarks List.mem_cons_self (by simp [marks]))
    have later : naming.allMarks order ⊆ known := fun mark member =>
      listed (List.mem_append_right (naming.marks label) member)
    have here := Chunk.toOption_resolveBlock plain opens closes (keep label) chunks
    rw [List.foldlM_cons, toOption_bind, resolveNamed, ← MarkName.text_stop, ← MarkName.text, here,
      Option.bind_map, resolveAll?, List.foldlM_cons]
    refine Eq.trans ?_ Option.map_bind.symm
    exact congrArg _ (funext fun rest => ih later rest)

/-- A template in which no mark of a block is torn or stands twice can be resolved exactly when its
blocks are all there and no dropped one encloses a mark of a later one. -/
theorem resolves_iff {text : List Char} (distinct : order.Nodup)
    (whole : ¬Torn (naming.allMarks order) text)
    (once : ∀ mark ∈ naming.allMarks order, ¬MarksInOrder text [mark, mark]) :
    (∃ left, order.foldlM (fun document label =>
        resolveNamed document (naming.name label).chars (keep label)) text = .ok left) ↔
      naming.Accepts (MarksInOrder text) keep order := by
  obtain ⟨script, rfl⟩ := Script.exists_script whole
  have same (wanted : List MarkName) (listed : wanted ⊆ naming.allMarks order) :
      MarksInOrder script.source wanted ↔ wanted.Sublist (Chunk.names script.chunks) :=
    Chunk.marksInOrder_source_iff script.plain listed script.chunks
  have single : (Chunk.names script.chunks).Nodup := by
    rw [List.nodup_iff_sublist]
    intro mark twice
    have listed := Chunk.names_subset script.chunks (twice.subset List.mem_cons_self)
    exact once mark listed ((same [mark, mark] (by simpa using listed)).mpr twice)
  calc (∃ left, order.foldlM (fun document label =>
          resolveNamed document (naming.name label).chars (keep label)) script.source = .ok left)
    _ ↔ (naming.resolveAll? keep order script.chunks).isSome := by
      rw [← isSome_toOption_iff, Script.source,
        toOption_foldlM_resolveNamed script.plain (List.Subset.refl _), Option.isSome_map]
    _ ↔ naming.Accepts (·.Sublist (Chunk.names script.chunks)) keep order :=
      isSome_resolveAll?_iff single distinct
    _ ↔ naming.Accepts (MarksInOrder script.source) keep order :=
      ⟨Accepts.congr fun wanted listed => (same wanted listed).symm, Accepts.congr same⟩

end Naming

end DueReminders.Template
