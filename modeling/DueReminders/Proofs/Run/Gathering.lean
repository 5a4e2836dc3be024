import DueReminders.Run.Plan

/-! What a run gathers from a source with settled answers: the form, the items, and the addresses of
exactly the users that open items are assigned to. -/
namespace DueReminders

variable {σ : Type}

theorem Call.exists_of_bind_eq_ok {α β : Type} {call : Call σ α} {next : α → Call σ β}
    {before after : σ} {result : β} (done : (call >>= next).run.run before = (.ok result, after)) :
    ∃ value middle, call.run.run before = (.ok value, middle) ∧
      (next value).run.run middle = (.ok result, after) := by
  rcases called : call.run.run before with ⟨answer, middle⟩
  rw [ExceptT.run_bind, StateT.run_bind, called] at done
  cases answer with
  | error failure => cases done
  | ok value => exact ⟨value, middle, rfl, done⟩

/-- In every state of the source, an answer is the form, the items, or the address of the user. -/
structure ItemSource.Answers (source : ItemSource σ) (editUrl : String) (items : List Item)
    (address : Int → Option String) : Prop where
  form : ∀ {state url after}, source.editFormUrl.run.run state = (.ok url, after) → url = editUrl
  fetched : ∀ {state found after}, source.fetchItems.run.run state = (.ok found, after) → found = items
  resolved : ∀ {user state email after},
    (source.resolveEmail user).run.run state = (.ok email, after) → email = address user

/-- In every state of the source, the answer for a user is the user's address. -/
def ItemSource.Resolves (source : ItemSource σ) (address : Int → Option String) : Prop :=
  ∀ {user state email after},
    (source.resolveEmail user).run.run state = (.ok email, after) → email = address user

theorem ItemSource.Answers.resolves {source : ItemSource σ} {editUrl : String} {items : List Item}
    {address : Int → Option String} (answers : source.Answers editUrl items address) :
    source.Resolves address :=
  answers.resolved

def Settings.owner? (settings : Settings) (address : Int → Option String) (item : Item) :
    Option String :=
  (item.referenceId? settings.assigneeField).bind address

namespace Directory

theorem ask_eq {source : ItemSource σ} {address : Int → Option String}
    (resolves : source.Resolves address) (users : List Int) {before after : σ} {directory : Directory}
    (asked : (ask source users).run.run before = (.ok directory, after)) :
    directory = users.map fun user => (user, address user) := by
  induction users generalizing before directory with
  | nil =>
    cases asked
    rfl
  | cons user users ih =>
    rw [ask, List.mapM_cons] at asked
    obtain ⟨known, middle, here, asked⟩ := Call.exists_of_bind_eq_ok asked
    obtain ⟨email, answered, resolved, here⟩ := Call.exists_of_bind_eq_ok here
    obtain ⟨others, last, there, asked⟩ := Call.exists_of_bind_eq_ok asked
    cases here
    cases asked
    rw [ih there, resolves resolved]
    rfl

theorem lookup_map (address : Int → Option String) {users : List Int} {user : Int}
    (member : user ∈ users) :
    (users.map fun user => (user, address user)).lookup user = some (address user) := by
  induction users with
  | nil => cases member
  | cons head rest ih =>
    rw [List.map_cons, List.lookup_cons]
    by_cases here : user = head
    · simp [here]
    · have passed : (user == head) = false := by simpa using here
      rw [passed]
      exact ih (List.mem_of_ne_of_mem here member)

theorem mem_assignees {criteria : Criteria} {assigneeField : String} {items : List Item} {user : Int} :
    user ∈ assignees criteria assigneeField items ↔
      ∃ item ∈ items, criteria.excludes item = false ∧ item.referenceId? assigneeField = some user := by
  simp only [assignees, List.mem_eraseDups, List.mem_filterMap, List.mem_filter, Bool.not_eq_true',
    and_assoc]

theorem lookup_of_resolve {source : ItemSource σ} {address : Int → Option String}
    (resolves : source.Resolves address) {criteria : Criteria} {assigneeField : String}
    {items : List Item} {before after : σ} {directory : Directory}
    (resolved : (resolve source criteria assigneeField items).run.run before = (.ok directory, after))
    {item : Item} (member : item ∈ items) (included : criteria.excludes item = false) {user : Int}
    (assigned : item.referenceId? assigneeField = some user) :
    directory.lookup user = some (address user) := by
  rw [ask_eq resolves _ resolved]
  exact lookup_map address (mem_assignees.mpr ⟨item, member, included, assigned⟩)

theorem recipient?_of_resolve {settings : Settings} {source : ItemSource σ}
    {address : Int → Option String} (resolves : source.Resolves address) {items : List Item}
    {before after : σ} {directory : Directory}
    (resolved : (resolve source settings.criteria settings.assigneeField items).run.run before =
      (.ok directory, after))
    {item : Item} (member : item ∈ items) (included : settings.criteria.excludes item = false) :
    directory.recipient? settings.assigneeField item = settings.owner? address item := by
  rw [recipient?, Settings.owner?]
  cases assigned : item.referenceId? settings.assigneeField with
  | none => rfl
  | some user =>
    show (directory.lookup user).join = address user
    rw [lookup_of_resolve resolves resolved member included assigned]
    rfl

end Directory

/-- Everything is gathered as it was answered, and an open item has the address of its assignee. -/
theorem Plan.gather_eq {settings : Settings} {source : ItemSource σ} {editUrl : String}
    {items : List Item} {address : Int → Option String}
    (answers : source.Answers editUrl items address) {before after : σ} {gathered : Gathered}
    (told : (gather settings source).run.run before = (.ok gathered, after)) :
    gathered.editUrl = editUrl ∧ gathered.items = items ∧
      ∀ item ∈ items, settings.criteria.excludes item = false →
        gathered.directory.recipient? settings.assigneeField item = settings.owner? address item := by
  rw [gather] at told
  obtain ⟨url, opened, form, told⟩ := Call.exists_of_bind_eq_ok told
  obtain ⟨found, fetched, read, told⟩ := Call.exists_of_bind_eq_ok told
  obtain ⟨directory, last, resolved, told⟩ := Call.exists_of_bind_eq_ok told
  cases told
  obtain rfl := answers.form form
  obtain rfl := answers.fetched read
  exact ⟨rfl, rfl, fun item member included =>
    Directory.recipient?_of_resolve answers.resolves resolved member included⟩

end DueReminders
