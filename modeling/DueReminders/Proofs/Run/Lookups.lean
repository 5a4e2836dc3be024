import DueReminders.Proofs.Digest.Partition
import DueReminders.Proofs.Run.Failing

/-! Which users a source is asked for. Going through the items, a user is asked for at the first
open item that is assigned to them and never again, whatever the source answers; the first failure
ends the asking. -/
namespace DueReminders

/-- The item is open, and its assignee field refers to the user. -/
def Item.AssignedTo (criteria : Criteria) (assigneeField : String) (item : Item) (user : Int) : Prop :=
  item.raw criteria.filterField ≠ criteria.filterValue ∧
    ∃ shown, item.get? assigneeField = some (.reference user shown)

/-- The users that open items are assigned to, each once and in the order of their first items: at
the item a user is listed for, the users before are exactly those of earlier items. -/
structure Directory.FirstSeen (criteria : Criteria) (assigneeField : String) (items : List Item)
    (users : List Int) : Prop where
  distinct : users.Nodup
  mem_iff : ∀ user, user ∈ users ↔ ∃ item ∈ items, item.AssignedTo criteria assigneeField user
  first : ∀ front user back, users = front ++ user :: back →
    ∃ earlier item later, items = earlier ++ item :: later ∧ item.AssignedTo criteria assigneeField user ∧
      ∀ other, other ∈ front ↔ ∃ item ∈ earlier, item.AssignedTo criteria assigneeField other

/-- Look at one item: its user is asked for if the item is open and the user is not in the directory
yet. -/
def Directory.visit {σ : Type} (source : ItemSource σ) (criteria : Criteria) (assigneeField : String)
    (known : Directory) (item : Item) : Call σ Directory :=
  if criteria.excludes item then return known
  else
    match item.referenceId? assigneeField with
    | none => return known
    | some user =>
      if user ∈ known.map Prod.fst then return known
      else return known ++ [(user, ← source.resolveEmail user)]

/-- Asking for users in turn: what the source is asked and what comes of it. Every call finds the
source as the call before has left it. -/
inductive ItemSource.Asked {σ : Type} (source : ItemSource σ) (before : σ) (users : List Int) :
    List Enquiry → Except Failure Directory → σ → Prop where
  | all {directory : Directory} {after : σ} (tells : source.Tells before users directory after) :
      Asked source before users (told users) (.ok directory) after
  | stopped {front back : List Int} {user : Int} {known : Directory} {failure : Failure} {middle after : σ}
      (order : users = front ++ user :: back) (tells : source.Tells before front known middle)
      (refused : (source.resolveEmail user).run.run middle = (.error failure, after)) :
      Asked source before users (told front ++ [(Question.address user).refused failure])
        (.error failure) after

section

variable {criteria : Criteria} {assigneeField : String} {items : List Item} {item : Item}
  {users : List Int}
  {user : Int}

theorem Item.assignedTo_iff :
    item.AssignedTo criteria assigneeField user ↔
      criteria.excludes item = false ∧ item.referenceId? assigneeField = some user := by
  have included : criteria.excludes item = false ↔ item.raw criteria.filterField ≠ criteria.filterValue :=
    beq_eq_false_iff_ne
  have refers : item.referenceId? assigneeField = some user ↔
      ∃ shown, item.get? assigneeField = some (.reference user shown) := by
    unfold referenceId?
    split
    · next id shown found => simp [found]
    · next other =>
      simp only [reduceCtorEq, false_iff, not_exists]
      exact fun shown => other user shown
  rw [AssignedTo, included, refers]

theorem Item.AssignedTo.unique (assigned : item.AssignedTo criteria assigneeField user) {other : Int}
    (again : item.AssignedTo criteria assigneeField other) : other = user :=
  Option.some.inj ((assignedTo_iff.mp again).2.symm.trans (assignedTo_iff.mp assigned).2)

theorem Item.referenceId?_eq_none (nobody : ∀ user, ¬item.AssignedTo criteria assigneeField user)
    (included : criteria.excludes item = false) : item.referenceId? assigneeField = none := by
  refine Option.eq_none_iff_forall_ne_some.mpr fun user refers => ?_
  exact nobody user (assignedTo_iff.mpr ⟨included, refers⟩)

namespace Directory

theorem firstSeen_nil : FirstSeen criteria assigneeField [] [] := by
  refine ⟨List.nodup_nil, by simp, ?_⟩
  intro front user back same
  simp at same

theorem FirstSeen.pass (seen : FirstSeen criteria assigneeField items users)
    (known : ∀ user, item.AssignedTo criteria assigneeField user → user ∈ users) :
    FirstSeen criteria assigneeField (items ++ [item]) users := by
  refine ⟨seen.distinct, ?_, ?_⟩
  · intro user
    rw [seen.mem_iff]
    constructor
    · rintro ⟨other, member, assigned⟩
      exact ⟨other, List.mem_append_left _ member, assigned⟩
    · rintro ⟨other, member, assigned⟩
      rcases List.mem_append.mp member with earlier | last
      · exact ⟨other, earlier, assigned⟩
      · obtain rfl := List.mem_singleton.mp last
        exact (seen.mem_iff user).mp (known user assigned)
  · intro front user back same
    obtain ⟨earlier, first, later, rfl, assigned, before⟩ := seen.first front user back same
    exact ⟨earlier, first, later ++ [item], by simp, assigned, before⟩

theorem FirstSeen.add (seen : FirstSeen criteria assigneeField items users)
    (assigned : item.AssignedTo criteria assigneeField user) (new : user ∉ users) :
    FirstSeen criteria assigneeField (items ++ [item]) (users ++ [user]) := by
  refine ⟨?_, ?_, ?_⟩
  · exact List.concat_eq_append ▸ seen.distinct.concat new
  · intro other
    rw [List.mem_append, List.mem_singleton, seen.mem_iff]
    constructor
    · rintro (⟨earlier, member, held⟩ | rfl)
      · exact ⟨earlier, List.mem_append_left _ member, held⟩
      · exact ⟨item, List.mem_append_right _ (List.mem_singleton.mpr rfl), assigned⟩
    · rintro ⟨holder, member, held⟩
      rcases List.mem_append.mp member with earlier | last
      · exact .inl ⟨holder, earlier, held⟩
      · obtain rfl := List.mem_singleton.mp last
        exact .inr (assigned.unique held)
  · intro front other back same
    rcases List.eq_nil_or_concat back with rfl | ⟨between, last, rfl⟩
    · obtain ⟨rfl, equal⟩ := List.append_inj' same rfl
      cases equal
      exact ⟨items, item, [], rfl, assigned, seen.mem_iff⟩
    · rw [List.concat_eq_append, ← List.cons_append, ← List.append_assoc] at same
      obtain ⟨rfl, -⟩ := List.append_inj' same rfl
      obtain ⟨earlier, first, later, rfl, held, before⟩ := seen.first front other between rfl
      exact ⟨earlier, first, later ++ [item], by simp, held, before⟩

theorem assignees_concat_of_nobody (nobody : ∀ user, ¬item.AssignedTo criteria assigneeField user) :
    assignees criteria assigneeField (items ++ [item]) = assignees criteria assigneeField items := by
  rw [assignees, assignees, List.filter_append, List.filterMap_append]
  cases excluded : criteria.excludes item with
  | true => simp [excluded]
  | false => simp [excluded, Item.referenceId?_eq_none nobody excluded]

theorem assignees_concat (assigned : item.AssignedTo criteria assigneeField user) :
    assignees criteria assigneeField (items ++ [item]) =
      if user ∈ assignees criteria assigneeField items then assignees criteria assigneeField items
      else assignees criteria assigneeField items ++ [user] := by
  obtain ⟨included, refers⟩ := Item.assignedTo_iff.mp assigned
  simp only [assignees, List.filter_append, List.filterMap_append, List.mem_eraseDups]
  simp [included, refers, Digest.eraseDups_concat]

/-- The users to ask for come up item by item. -/
theorem firstSeen_assignees (criteria : Criteria) (assigneeField : String) (items : List Item) :
    FirstSeen criteria assigneeField items (assignees criteria assigneeField items) := by
  induction items using List.reverseRecOn with
  | nil => exact firstSeen_nil
  | append_singleton items item ih =>
    by_cases somebody : ∃ user, item.AssignedTo criteria assigneeField user
    · obtain ⟨user, assigned⟩ := somebody
      rw [assignees_concat assigned]
      split
      · next known => exact ih.pass fun other held => assigned.unique held ▸ known
      · next new => exact ih.add assigned new
    · rw [not_exists] at somebody
      rw [assignees_concat_of_nobody somebody]
      exact ih.pass fun user held => absurd held (somebody user)

section

variable {σ : Type} {source : ItemSource σ}

theorem visit_of_nobody (nobody : ∀ user, ¬item.AssignedTo criteria assigneeField user)
    (known : Directory) :
    visit source criteria assigneeField known item = pure known := by
  rw [visit]
  cases excluded : criteria.excludes item with
  | true => rfl
  | false =>
    rw [Item.referenceId?_eq_none nobody excluded]
    rfl

theorem visit_of_assigned (assigned : item.AssignedTo criteria assigneeField user) (known : Directory) :
    visit source criteria assigneeField known item =
      if user ∈ known.map Prod.fst then pure known
      else do return known ++ [(user, ← source.resolveEmail user)] := by
  obtain ⟨included, refers⟩ := Item.assignedTo_iff.mp assigned
  simp only [visit, included, refers, Bool.false_eq_true, if_false]

theorem ask_concat (users : List Int) (user : Int) :
    ask source (users ++ [user]) = do
      let known ← ask source users
      return known ++ [(user, ← source.resolveEmail user)] := by
  simp [ask, List.mapM_append]

theorem ask_bind_congr {α : Type} {next other : Directory → Call σ α}
    (alike : ∀ known, known.map Prod.fst = users → next known = other known) :
    (ask source users >>= next) = (ask source users >>= other) := by
  induction users generalizing next other with
  | nil => simp [ask, alike [] rfl]
  | cons user users ih =>
    simp only [ask, List.mapM_cons, bind_assoc, pure_bind] at ih ⊢
    refine congrArg _ (funext fun email => ih fun known same => ?_)
    exact alike _ (by rw [List.map_cons, same])

/-- Asking ahead for all users is asking for each of them at the first of their items. -/
theorem resolve_eq_foldlM (source : ItemSource σ) (criteria : Criteria) (assigneeField : String)
    (items : List Item) :
    resolve source criteria assigneeField items =
      items.foldlM (visit source criteria assigneeField) [] := by
  induction items using List.reverseRecOn with
  | nil => rfl
  | append_singleton items item ih =>
    rw [List.foldlM_append, ← ih]
    simp only [List.foldlM_cons, List.foldlM_nil, bind_pure]
    by_cases somebody : ∃ user, item.AssignedTo criteria assigneeField user
    · obtain ⟨user, assigned⟩ := somebody
      rw [resolve, resolve, assignees_concat assigned]
      split
      · next listed =>
        have same : (ask source (assignees criteria assigneeField items) >>= pure) =
            (ask source (assignees criteria assigneeField items) >>=
              fun known => visit source criteria assigneeField known item) := by
          refine ask_bind_congr fun known users => ?_
          rw [visit_of_assigned assigned, if_pos (users ▸ listed)]
        rw [← same, bind_pure]
      · next new =>
        rw [ask_concat]
        refine ask_bind_congr fun known users => ?_
        rw [visit_of_assigned assigned, if_neg (users ▸ new)]
    · rw [not_exists] at somebody
      rw [resolve, assignees_concat_of_nobody somebody, ← resolve]
      simp only [visit_of_nobody somebody, bind_pure]

end

end Directory

end

namespace ItemSource

variable {σ : Type} {source : ItemSource σ} {before after : σ} {users : List Int} {asked : List Enquiry}
  {answer : Except Failure Directory}

theorem Tells.users_eq {known : Directory} (tells : source.Tells before users known after) :
    known.map Prod.fst = users := by
  induction tells with
  | nil => rfl
  | cons _ _ ih => rw [List.map_cons, ih]

theorem exists_asked (source : ItemSource σ) (before : σ) (users : List Int) :
    ∃ asked answer after, source.Asked before users asked answer after := by
  rcases source.tells_or_refused users before with
    ⟨known, after, tells⟩ | ⟨front, user, back, known, middle, failure, after, order, tells, refused⟩
  · exact ⟨_, _, after, .all tells⟩
  · exact ⟨_, _, after, .stopped order tells refused⟩

theorem Asked.run_ask (asks : source.Asked before users asked answer after) :
    (Directory.ask source users).run.run before = (answer, after) := by
  cases asks with
  | all tells => exact tells.run_ask
  | stopped order tells refused =>
    rw [order]
    exact tells.run_ask_of_refused refused

theorem Asked.recorded (asks : source.Asked before users asked answer after) :
    (Directory.ask source.recorded users).run.run (before, []) = (answer, after, asked) := by
  cases asks with
  | all tells => exact (tells.recorded []).run_ask
  | stopped order tells refused =>
    rw [order]
    exact (tells.recorded []).run_ask_of_refused (Call.run_recorded refused _)

theorem questions_told (users : List Int) :
    (told users).map Enquiry.question = users.map Question.address := by
  simp [told, Question.answered, Function.comp_def]

theorem Asked.questions_in_order (asks : source.Asked before users asked answer after) :
    asked.map Enquiry.question <+: users.map Question.address := by
  cases asks with
  | all tells => rw [questions_told]
  | stopped order tells refused =>
    rw [order, List.map_append, questions_told, List.map_append, List.map_cons]
    exact (List.prefix_append_right_inj _).mpr ⟨_, rfl⟩

theorem Asked.eq_error_iff (asks : source.Asked before users asked answer after) {failure : Failure} :
    answer = .error failure ↔ ∃ user, (Question.address user).refused failure ∈ asked := by
  have answered (users : List Int) (user : Int) :
      (Question.address user).refused failure ∉ told users := by
    simp [told, Question.answered, Question.refused]
  cases asks with
  | all tells => simp [answered]
  | @stopped front back last known cause middle after order tells refused =>
    constructor
    · intro same
      cases same
      exact ⟨last, List.mem_append_right _ (List.mem_singleton.mpr rfl)⟩
    · rintro ⟨user, member⟩
      rcases List.mem_append.mp member with earlier | here
      · exact absurd earlier (answered front user)
      · cases List.mem_singleton.mp here
        rfl

end ItemSource

/-- Going through the items, a source is asked for the users that open items are assigned to, each
once and in the order in which they first appear, up to the first call that fails. If none fails,
all of them are asked for and listed, each with what the source answered; otherwise the failure is
the answer. -/
theorem Directory.resolve_asks_once {σ : Type} (source : ItemSource σ) (criteria : Criteria)
    (assigneeField : String) (items : List Item) (before : σ) :
    let users := assignees criteria assigneeField items
    resolve source criteria assigneeField items = items.foldlM (visit source criteria assigneeField) [] ∧
    FirstSeen criteria assigneeField items users ∧
    ∃ asked answer after,
      (resolve source criteria assigneeField items).run.run before = (answer, after) ∧
      (resolve source.recorded criteria assigneeField items).run.run (before, []) =
        (answer, after, asked) ∧
      source.Asked before users asked answer after ∧
      asked.map Enquiry.question <+: users.map Question.address ∧
      (∀ failure, answer = .error failure ↔ ∃ user, (Question.address user).refused failure ∈ asked) ∧
      ∀ directory, answer = .ok directory →
        directory.map Prod.fst = users ∧ asked.map Enquiry.question = users.map Question.address := by
  intro users
  obtain ⟨asked, answer, after, asks⟩ := source.exists_asked before users
  refine ⟨resolve_eq_foldlM source criteria assigneeField items,
    firstSeen_assignees criteria assigneeField items,
    asked, answer, after, asks.run_ask, asks.recorded, asks, asks.questions_in_order,
    fun failure => asks.eq_error_iff, ?_⟩
  rintro directory rfl
  cases asks with
  | all tells => exact ⟨tells.users_eq, ItemSource.questions_told users⟩

end DueReminders
