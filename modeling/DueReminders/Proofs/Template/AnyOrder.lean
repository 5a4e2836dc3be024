import DueReminders.Proofs.Template.Layout

/-! Blocks of any names, resolved in any order. Where each name has one block and none of its marks
elsewhere, it makes no difference which block is resolved first, though each one is searched for in
what the others have left. -/
namespace DueReminders.Template

/-- A name that blocks can have. The sign that tells end marks from start marks is not its first
one. -/
structure BlockName extends MarkName where
  noSlash : chars.head? ≠ some '/'
  deriving DecidableEq

namespace BlockName

/-- A block goes by its own name. -/
def naming : Naming BlockName where
  name := toMarkName
  injective a b same := by
    cases a
    cases b
    cases same
    rfl
  notStop a b same := by
    apply a.noSlash
    rw [same]
    rfl

/-- The blocks of the given names are resolved one after the other, each in what is left by those
before. -/
def resolveEach (keep : BlockName → Bool) (order : List BlockName) (document : List Char) :
    Except Unresolved (List Char) :=
  order.foldlM (fun document name => resolveNamed document name.chars (keep name)) document

variable {segments : List (Segment BlockName)}

theorem resolveEach_source (clear : naming.Clear segments) (keep : BlockName → Bool)
    {order : List BlockName} (once : order.Nodup) (present : order ⊆ Segment.labels segments) :
    resolveEach keep order (naming.source segments) =
      .ok (naming.source (segments.flatMap (Segment.after keep order))) :=
  clear.resolve_listed keep once present

/-- A template of plain text, tokens, and blocks of different names around both, where no token is a
mark of a block: its blocks can be resolved in every order, and what is left is always the template
with the bodies of the blocks kept and nothing of the others. If only some blocks are resolved,
their order makes no difference either, and the others stay where they are. -/
theorem resolveEach_any_order (clear : naming.Clear segments) (keep : BlockName → Bool) :
    (∀ order, order.Perm (Segment.labels segments) →
      resolveEach keep order (naming.source segments) =
        .ok ((segments.flatMap (Segment.kept keep)).flatMap Part.source)) ∧
    ∀ order other, order.Nodup → order ⊆ Segment.labels segments → other.Perm order →
      let left := naming.source (segments.flatMap (Segment.after keep order))
      resolveEach keep order (naming.source segments) = .ok left ∧
        resolveEach keep other (naming.source segments) = .ok left := by
  constructor
  · intro order covers
    exact Naming.resolve_in_order keep covers.symm clear
  · intro order other once present same left
    refine ⟨resolveEach_source clear keep once present, ?_⟩
    have listed : other ⊆ Segment.labels segments := fun name member => present (same.subset member)
    have resolved := resolveEach_source clear keep (same.nodup_iff.mpr once) listed
    rw [Segment.after_perm same] at resolved
    exact resolved

/-- Two names of blocks, of which one begins with the other. -/
def task : BlockName where
  chars := "TASK".toList
  noAt := by decide
  noBrace := by decide
  noSlash := by decide

def tasks : BlockName where
  chars := "TASKS".toList
  noAt := by decide
  noBrace := by decide
  noSlash := by decide

/-- The end mark of a block that is not there. -/
def stray : MarkName where
  chars := "/DUE".toList
  noAt := by decide
  noBrace := by decide

/-- Blocks with names alike, among text like their names. -/
def lookalikes : List (Segment BlockName) :=
  [.outside (.plain "TASK".toList (by decide)), .block tasks [.mark stray, .plain ['S'] (by decide)],
    .outside (.plain ['S'] (by decide)), .block task [.plain "TASKS".toList (by decide), .mark stray]]

theorem clear_lookalikes : naming.Clear lookalikes := by
  have foreign : ∀ name ∈ Segment.labels lookalikes,
      stray ≠ naming.name name ∧ stray ≠ (naming.name name).stop := by decide
  refine ⟨by decide, ?_⟩
  intro key member
  have same : key = stray := by simpa [lookalikes, Segment.inner] using member
  rw [same]
  exact foreign

theorem resolveEach_lookalikes :
    let keep := fun name => decide (name = task)
    let document := "TASK@{TASKS}@{/DUE}S@{/TASKS}S@{TASK}TASKS@{/DUE}@{/TASK}".toList
    naming.Clear lookalikes ∧ naming.source lookalikes = document ∧
      [task, tasks].Perm (Segment.labels lookalikes) ∧
      resolveEach keep [task, tasks] document = .ok "TASKSTASKS@{/DUE}".toList ∧
      resolveEach keep [tasks, task] document = .ok "TASKSTASKS@{/DUE}".toList ∧
      resolveEach keep [tasks] document = .ok "TASKS@{TASK}TASKS@{/DUE}@{/TASK}".toList := by
  intro keep document
  obtain ⟨whole, part⟩ := resolveEach_any_order clear_lookalikes keep
  have swapped : [task, tasks].Perm (Segment.labels lookalikes) := List.Perm.swap tasks task []
  have first : [tasks] ⊆ Segment.labels lookalikes := by
    apply List.cons_subset.mpr
    exact ⟨List.mem_cons_self, List.nil_subset _⟩
  obtain ⟨alone, -⟩ := part [tasks] [tasks] (List.pairwise_singleton _ tasks) first (List.Perm.refl _)
  exact ⟨clear_lookalikes, rfl, swapped, whole _ swapped, whole _ (List.Perm.refl _), alone⟩

end BlockName

end DueReminders.Template
