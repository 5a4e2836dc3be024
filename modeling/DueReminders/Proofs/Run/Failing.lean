import DueReminders.Proofs.Document.Alike
import DueReminders.Proofs.Run.Accounting

/-! Runs that fail. A run stops at the first failure it meets, be it the source's or that of a
template, and a run that stops has sent and kept nothing. -/
namespace DueReminders

/-- What a source is asked for. -/
inductive Question where
  | form
  | items
  | address (user : Int)
  deriving DecidableEq

/-- A question that was put to a source, and the failure if it was not answered. -/
structure Enquiry where
  question : Question
  refusal : Option Failure
  deriving DecidableEq

def Question.answered (question : Question) : Enquiry := ⟨question, none⟩

def Question.refused (question : Question) (failure : Failure) : Enquiry := ⟨question, some failure⟩

def Question.enquiry {α : Type} (question : Question) : Except Failure α → Enquiry
  | .ok _ => question.answered
  | .error failure => question.refused failure

section

variable {σ τ φ : Type}

namespace Call

/-- The call together with a list of what the source was asked. -/
def recorded {α : Type} (question : Question) (call : Call σ α) : Call (σ × List Enquiry) α :=
  ExceptT.mk fun (state, asked) =>
    let (answer, next) := call.run.run state
    (answer, next, asked ++ [question.enquiry answer])

variable {α β : Type} {question : Question} {call : Call σ α} {state next : σ} {value : α}
  {answer : Except Failure α} {failure : Failure}

theorem run_recorded (called : call.run.run state = (answer, next)) (asked : List Enquiry) :
    (call.recorded question).run.run (state, asked) =
      (answer, next, asked ++ [question.enquiry answer]) := by
  have noted : (call.recorded question).run.run (state, asked) =
      ((call.run.run state).1, (call.run.run state).2,
        asked ++ [question.enquiry (call.run.run state).1]) := rfl
  rw [noted, called]

theorem run_bind_of_ok (answered : call.run.run state = (.ok value, next)) (rest : α → Call σ β) :
    (call >>= rest).run.run state = (rest value).run.run next := by
  rw [ExceptT.run_bind, StateT.run_bind, answered]
  rfl

theorem run_bind_of_error (refused : call.run.run state = (.error failure, next))
    (rest : α → Call σ β) : (call >>= rest).run.run state = (.error failure, next) := by
  rw [ExceptT.run_bind, StateT.run_bind, refused]
  rfl

end Call

namespace ItemSource

def recorded (source : ItemSource σ) : ItemSource (σ × List Enquiry) where
  editFormUrl := Call.recorded .form source.editFormUrl
  fetchItems := Call.recorded .items source.fetchItems
  resolveEmail user := Call.recorded (.address user) (source.resolveEmail user)

/-- The source answers for one user after the other. -/
inductive Tells (source : ItemSource σ) : σ → List Int → Directory → σ → Prop where
  | nil {state : σ} : source.Tells state [] [] state
  | cons {state next after : σ} {user : Int} {users : List Int} {email : Option String}
      {known : Directory} (told : (source.resolveEmail user).run.run state = (.ok email, next))
      (others : source.Tells next users known after) :
      source.Tells state (user :: users) ((user, email) :: known) after

/-- The enquiries for users that were all answered. -/
def told (users : List Int) : List Enquiry := users.map fun user => (Question.address user).answered

variable {source : ItemSource σ}

theorem Tells.recorded {state after : σ} {users : List Int} {known : Directory}
    (tells : source.Tells state users known after) (asked : List Enquiry) :
    source.recorded.Tells (state, asked) users known (after, asked ++ told users) := by
  induction tells generalizing asked with
  | nil =>
    rw [told, List.map_nil, List.append_nil]
    exact .nil
  | @cons _ _ _ user _ _ _ here _ ih =>
    have others := ih (asked ++ [(Question.address user).answered])
    rw [List.append_assoc] at others
    exact .cons (Call.run_recorded here asked) others

theorem Tells.run_ask {state after : σ} {users : List Int} {known : Directory}
    (tells : source.Tells state users known after) :
    (Directory.ask source users).run.run state = (.ok known, after) := by
  induction tells with
  | nil => rfl
  | cons here _ ih =>
    rw [Directory.ask] at ih ⊢
    rw [List.mapM_cons, bind_assoc, Call.run_bind_of_ok here, pure_bind, Call.run_bind_of_ok ih]
    rfl

theorem Tells.run_ask_of_refused {state middle after : σ} {front back : List Int} {user : Int}
    {known : Directory} {failure : Failure} (tells : source.Tells state front known middle)
    (refused : (source.resolveEmail user).run.run middle = (.error failure, after)) :
    (Directory.ask source (front ++ user :: back)).run.run state = (.error failure, after) := by
  induction tells with
  | nil =>
    rw [Directory.ask, List.nil_append, List.mapM_cons, bind_assoc, Call.run_bind_of_error refused]
  | cons here _ ih =>
    have others := ih refused
    rw [Directory.ask] at others ⊢
    rw [List.cons_append, List.mapM_cons, bind_assoc, Call.run_bind_of_ok here, pure_bind,
      Call.run_bind_of_error others]

/-- The source answers for all users, or fails at one of them after answering for those before. -/
theorem tells_or_refused (source : ItemSource σ) (users : List Int) (state : σ) :
    (∃ known after, source.Tells state users known after) ∨
      ∃ front user back known middle failure after, users = front ++ user :: back ∧
        source.Tells state front known middle ∧
        (source.resolveEmail user).run.run middle = (.error failure, after) := by
  induction users generalizing state with
  | nil => exact .inl ⟨[], state, .nil⟩
  | cons user users ih =>
    rcases called : (source.resolveEmail user).run.run state with ⟨answer, next⟩
    cases answer with
    | error failure => exact .inr ⟨[], user, users, [], state, failure, next, rfl, .nil, called⟩
    | ok email =>
      rcases ih next with ⟨known, after, others⟩ | ⟨front, last, back, known, middle, failure, after,
        rfl, others, refused⟩
      · exact .inl ⟨_, after, .cons called others⟩
      · exact .inr ⟨user :: front, last, back, _, middle, failure, after, rfl, .cons called others,
          refused⟩

end ItemSource

namespace Settings

/-- How a run stops short of a plan: what it has asked the source, the failure it meets, and the
state it leaves the source in. -/
inductive Stopped (settings : Settings) (templates : Templates) (today : Date) (source : ItemSource σ)
    (before : σ) : List Enquiry → Failure → σ → Prop where
  | form {failure : Failure} {after : σ}
      (refused : source.editFormUrl.run.run before = (.error failure, after)) :
      Stopped settings templates today source before [Question.form.refused failure] failure after
  | items {editUrl : String} {failure : Failure} {opened after : σ}
      (form : source.editFormUrl.run.run before = (.ok editUrl, opened))
      (refused : source.fetchItems.run.run opened = (.error failure, after)) :
      Stopped settings templates today source before
        [Question.form.answered, Question.items.refused failure] failure after
  | address {editUrl : String} {items : List Item} {front back : List Int} {user : Int}
      {known : Directory} {failure : Failure} {opened read middle after : σ}
      (form : source.editFormUrl.run.run before = (.ok editUrl, opened))
      (fetched : source.fetchItems.run.run opened = (.ok items, read))
      (order : Directory.assignees settings.criteria settings.assigneeField items =
        front ++ user :: back)
      (tells : source.Tells read front known middle)
      (refused : (source.resolveEmail user).run.run middle = (.error failure, after)) :
      Stopped settings templates today source before
        (Question.form.answered :: Question.items.answered ::
          (ItemSource.told front ++ [(Question.address user).refused failure])) failure after
  | template {editUrl : String} {items : List Item} {directory : Directory}
      {front back : List RecipientItems} {recipient : RecipientItems} {cause : Template.Unresolved}
      {opened read after : σ}
      (form : source.editFormUrl.run.run before = (.ok editUrl, opened))
      (fetched : source.fetchItems.run.run opened = (.ok items, read))
      (tells : source.Tells read
        (Directory.assignees settings.criteria settings.assigneeField items) directory after)
      (order : (Plan.digest settings today directory items).recipients = front ++ recipient :: back)
      (rendered : ∀ other ∈ front, ∃ document, templates.render editUrl today other = .ok document)
      (refused : templates.render editUrl today recipient = .error cause) :
      Stopped settings templates today source before
        (Question.form.answered :: Question.items.answered ::
          ItemSource.told (Directory.assignees settings.criteria settings.assigneeField items))
        cause.toFailure after

variable {settings : Settings} {templates : Templates} {today : Date} {source : ItemSource σ}
  {before after : σ} {asked : List Enquiry} {failure : Failure}

theorem run_prepare_of_fetched {editUrl : String} {items : List Item} {opened read : σ}
    (form : source.editFormUrl.run.run before = (.ok editUrl, opened))
    (fetched : source.fetchItems.run.run opened = (.ok items, read)) :
    (Plan.prepare settings templates today source).run.run before =
      (Directory.resolve source settings.criteria settings.assigneeField items >>= fun directory =>
        liftM (Plan.ofItems settings templates today ⟨editUrl, items, directory⟩)).run.run read := by
  rw [Plan.prepare, Plan.gather, bind_assoc, Call.run_bind_of_ok form, bind_assoc,
    Call.run_bind_of_ok fetched, bind_assoc]
  rfl

theorem run_prepare_of_tells {editUrl : String} {items : List Item} {directory : Directory}
    {opened read : σ} (form : source.editFormUrl.run.run before = (.ok editUrl, opened))
    (fetched : source.fetchItems.run.run opened = (.ok items, read))
    (tells : source.Tells read
      (Directory.assignees settings.criteria settings.assigneeField items) directory after) :
    (Plan.prepare settings templates today source).run.run before =
      (Plan.ofItems settings templates today ⟨editUrl, items, directory⟩, after) := by
  rw [run_prepare_of_fetched form fetched, Directory.resolve, Call.run_bind_of_ok tells.run_ask]
  rfl

theorem Stopped.run_prepare
    (stopped : Stopped settings templates today source before asked failure after) :
    (Plan.prepare settings templates today source).run.run before = (.error failure, after) := by
  cases stopped with
  | form refused => rw [Plan.prepare, Plan.gather, bind_assoc, Call.run_bind_of_error refused]
  | items form refused =>
    rw [Plan.prepare, Plan.gather, bind_assoc, Call.run_bind_of_ok form, bind_assoc,
      Call.run_bind_of_error refused]
  | address form fetched order tells refused =>
    rw [run_prepare_of_fetched form fetched, Directory.resolve, order,
      Call.run_bind_of_error (tells.run_ask_of_refused refused)]
  | template form fetched tells order rendered refused =>
    have failed := Templates.renderAll_eq_error_iff.mpr ⟨_, _, _, order, rendered, refused⟩
    rw [run_prepare_of_tells form fetched tells, Plan.ofItems, failed]
    rfl

theorem Stopped.recorded (stopped : Stopped settings templates today source before asked failure after) :
    Stopped settings templates today source.recorded (before, []) asked failure (after, asked) := by
  cases stopped with
  | form refused => exact .form (Call.run_recorded refused [])
  | items form refused =>
    exact .items (Call.run_recorded form []) (Call.run_recorded refused _)
  | address form fetched order tells refused =>
    exact .address (Call.run_recorded form []) (Call.run_recorded fetched _) order (tells.recorded _)
      (Call.run_recorded refused _)
  | template form fetched tells order rendered refused =>
    exact .template (Call.run_recorded form []) (Call.run_recorded fetched _) (tells.recorded _) order
      rendered refused

/-- Without a reason to stop there is a plan. -/
theorem prepare_or_stopped (settings : Settings) (templates : Templates) (today : Date)
    (source : ItemSource σ) (before : σ) :
    (∃ plan after,
      (Plan.prepare settings templates today source).run.run before = (.ok plan, after)) ∨
    ∃ asked failure after, Stopped settings templates today source before asked failure after := by
  rcases form : source.editFormUrl.run.run before with ⟨answer, opened⟩
  cases answer with
  | error failure => exact .inr ⟨_, failure, opened, .form form⟩
  | ok editUrl =>
    rcases fetched : source.fetchItems.run.run opened with ⟨answer, read⟩
    cases answer with
    | error failure => exact .inr ⟨_, failure, read, .items form fetched⟩
    | ok items =>
      rcases source.tells_or_refused
          (Directory.assignees settings.criteria settings.assigneeField items) read with
        ⟨directory, after, tells⟩ | ⟨front, user, back, known, middle, failure, after, order, tells,
          refused⟩
      · cases rendered : templates.renderAll editUrl today
          (Plan.digest settings today directory items) with
        | error cause =>
          obtain ⟨front, recipient, back, order, earlier, refused⟩ :=
            Templates.renderAll_eq_error_iff.mp rendered
          exact .inr ⟨_, _, after, .template form fetched tells order earlier refused⟩
        | ok documents =>
          refine .inl ⟨⟨items.length, (Plan.digest settings today directory items).size, documents⟩,
            after, ?_⟩
          rw [run_prepare_of_tells form fetched tells, Plan.ofItems, rendered]
          rfl
      · exact .inr ⟨_, failure, after, .address form fetched order tells refused⟩

theorem Stopped.answered (stopped : Stopped settings templates today source before asked failure after) :
    ∀ enquiry ∈ asked.dropLast, enquiry.refusal = none := by
  have known (users : List Int) :
      ∀ enquiry ∈ Question.form.answered :: Question.items.answered :: ItemSource.told users,
        enquiry.refusal = none := by
    simp [ItemSource.told, Question.answered]
  cases stopped with
  | form refused => simp
  | items form refused => simp [Question.answered]
  | address form fetched order tells refused =>
    rw [← List.cons_append, ← List.cons_append, List.dropLast_concat]
    exact known _
  | template form fetched tells order rendered refused =>
    exact fun enquiry member => known _ enquiry ((List.dropLast_sublist _).subset member)

/-- A run that fails stops at the first failure met when the form is asked for, then the items, then
the addresses in the order in which the assignees first appear, and then the documents of the
recipients are rendered in their order. The sink was offered nothing, the archive was given nothing,
and the source was asked nothing after a failure. -/
theorem runKeeping_stopped {archive : Archive φ} {id : RunId} {sink : Sink τ}
    {before after : Surroundings σ τ φ}
    (failed : (settings.runKeeping archive templates today id source sink).run before =
      (.error failure, after)) :
    after.sink = before.sink ∧ after.files = before.files ∧
    ∃ asked, Stopped settings templates today source before.source asked failure after.source ∧
      (∀ enquiry ∈ asked.dropLast, enquiry.refusal = none) ∧
      (settings.runKeeping archive.recorded templates today id source.recorded sink.recorded).run
          ⟨(before.source, []), (before.sink, []), (before.files, [])⟩ =
        (.error failure, ⟨(after.source, asked), (before.sink, []), (before.files, [])⟩) := by
  rcases prepare_or_stopped settings templates today source before.source with
    ⟨plan, left, planned⟩ | ⟨asked, cause, left, stopped⟩
  · rw [runKeeping_eq, planned] at failed
    cases failed
  · rw [runKeeping_eq, stopped.run_prepare] at failed
    cases failed
    refine ⟨rfl, rfl, asked, stopped, stopped.answered, ?_⟩
    rw [runKeeping_eq, stopped.recorded.run_prepare]

end Settings

end

namespace Sample

/-- Templates whose block of today's tasks stands inside of the one of overdue tasks. -/
def nested : Templates := .nested .overdue .today

/-- Overdue tasks of the first user, and none of the second, who is rendered last. -/
def overdueTasks : List Item :=
  [task 1 "Plan" ⟨19880, by decide, by decide⟩, task 1 "Pay" today, task 2 "Print" today]

theorem runKeeping_stopped_sample :
    ∃ asked after,
      (settings.runKeeping settings.archive.recorded nested today (.ofBits 0)
          (source overdueTasks).recorded sink.recorded).run ⟨((), []), (0, []), (files, [])⟩ =
        (.error ⟨.template, "block start @\x7bHAS_TODAY_TASKS\x7d not found"⟩,
          ⟨((), asked), (0, []), (files, [])⟩) ∧
      Settings.Stopped settings nested today (source overdueTasks) () asked
        ⟨.template, "block start @\x7bHAS_TODAY_TASKS\x7d not found"⟩ after := by
  have refused : ((settings.runKeeping settings.archive nested today (.ofBits 0) (source overdueTasks)
      sink).run ⟨(), 0, files⟩).1 =
        .error ⟨.template, "block start @\x7bHAS_TODAY_TASKS\x7d not found"⟩ := by decide +kernel
  rcases failed : (settings.runKeeping settings.archive nested today (.ofBits 0) (source overdueTasks)
      sink).run ⟨(), 0, files⟩ with ⟨answer, after⟩
  rw [failed] at refused
  subst refused
  obtain ⟨-, -, asked, stopped, -, recorded⟩ := Settings.runKeeping_stopped failed
  exact ⟨asked, after.source, recorded, stopped⟩

end Sample

end DueReminders
