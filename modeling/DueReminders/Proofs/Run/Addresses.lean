import DueReminders.Proofs.Digest.Partition
import DueReminders.Proofs.Run.Accounting
import DueReminders.Proofs.Run.Gathering

/-! Asking for every address once, ahead of the sorting, makes no difference to the sorting: the
users asked for are exactly those whose addresses are needed. -/
namespace DueReminders

private theorem nodup_eraseDups {α : Type} [DecidableEq α] (values : List α) :
    values.eraseDups.Nodup := by
  induction h : values.length using Nat.strongRecOn generalizing values with
  | ind size ih =>
    cases values with
    | nil => exact List.nodup_nil
    | cons head rest =>
      rw [List.eraseDups_cons, List.nodup_cons]
      constructor
      · simp [List.mem_eraseDups]
      · have shorter := List.length_filter_le (fun value => !value == head) rest
        exact ih _ (by rw [← h, List.length_cons]; omega) _ rfl

section

variable {σ : Type} {settings : Settings}

/-- A directory lists the users that open items are assigned to, each once and with the user's
address, and the digest made with it is the digest made by asking for the address of every item. -/
theorem Directory.resolve_transparent {source : ItemSource σ} {address : Int → Option String}
    (resolves : source.Resolves address) {items : List Item} {before after : σ} {directory : Directory}
    (resolved : (resolve source settings.criteria settings.assigneeField items).run.run before =
      (.ok directory, after)) :
    (directory.map Prod.fst).Nodup ∧
    (∀ user email, (user, email) ∈ directory ↔
      email = address user ∧ ∃ item ∈ items, settings.criteria.excludes item = false ∧
        item.referenceId? settings.assigneeField = some user) ∧
    (∀ item ∈ items, settings.criteria.excludes item = false → ∀ user,
      item.referenceId? settings.assigneeField = some user →
        directory.lookup user = some (address user)) ∧
    ∀ today, Plan.digest settings today directory items =
      Digest.classify settings.criteria today (settings.owner? address) items := by
  have listed : directory = (assignees settings.criteria settings.assigneeField items).map
      fun user => (user, address user) := ask_eq resolves _ resolved
  refine ⟨?_, ?_, ?_, ?_⟩
  · have users : directory.map Prod.fst = assignees settings.criteria settings.assigneeField items := by
      simp [listed, Function.comp_def]
    rw [users]
    exact nodup_eraseDups _
  · intro user email
    rw [← mem_assignees, listed, List.mem_map]
    constructor
    · rintro ⟨known, member, same⟩
      cases same
      exact ⟨rfl, member⟩
    · rintro ⟨rfl, member⟩
      exact ⟨user, member, rfl⟩
  · exact fun item member included user => lookup_of_resolve resolves resolved member included
  · intro today
    apply Digest.classify_congr
    exact fun item member included => recipient?_of_resolve resolves resolved member included

end

namespace Sample

theorem resolves_source (items : List Item) : (source items).Resolves address := by
  intro user state email after told
  cases told
  rfl

/-- Users share tasks with others, and the only task of one user is done. -/
def assigned : List Item :=
  [task 5 "Pay" today |>.set "Status" (.text "Completed"), task 4 "Pack" today, task 1 "Plan" today,
    Item.bare 7, task 1 "Pay" today |>.set "Status" (.text "Completed"), task 2 "Print" today,
    task 4 "Peel" today]

theorem resolve_transparent_sample :
    ∃ directory,
      (Directory.resolve (source assigned) settings.criteria settings.assigneeField assigned).run.run () =
        (.ok directory, ()) ∧
      directory.lookup 4 = some none ∧ directory.lookup 5 = none ∧
      Plan.digest settings today directory assigned =
        Digest.classify settings.criteria today (settings.owner? address) assigned := by
  have resolved : (Directory.resolve (source assigned) settings.criteria settings.assigneeField
      assigned).run.run () =
        (.ok [(4, none), (1, some "ann@example.org"), (2, some "bob@example.org")], ()) := by rfl
  obtain ⟨-, -, -, same⟩ := Directory.resolve_transparent (resolves_source assigned) resolved
  exact ⟨_, resolved, rfl, rfl, same today⟩

end Sample

end DueReminders
