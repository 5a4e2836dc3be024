import DueReminders.Proofs.Files.Confinement
import DueReminders.Proofs.Run.Accounting
import Mathlib.Data.List.Basic

/-! The copies a run leaves behind. Copies whose paths lead to the same place replace each other, so
in the end such a place holds the document of the last of these recipients; all other copies are
kept. -/
namespace DueReminders

namespace Archive

variable {φ : Type}

/-- Keep copies of one document after the other, whatever the answers are. -/
def keepAll (archive : Archive φ) (documents : List Document) : StateM φ (List Copy) :=
  documents.mapM fun document => do return ⟨document, ← archive document⟩

theorem keepAll_cons (archive : Archive φ) (document : Document) (documents : List Document) (store : φ) :
    (archive.keepAll (document :: documents)).run store =
      let (answer, next) := (archive document).run store
      let (copies, after) := (archive.keepAll documents).run next
      (⟨document, answer⟩ :: copies, after) :=
  run_mapM_cons _ document documents store

theorem documents_keepAll (archive : Archive φ) (documents : List Document) (store : φ) :
    ((archive.keepAll documents).run store).1.map Copy.document = documents := by
  induction documents generalizing store with
  | nil => rfl
  | cons document documents ih =>
    rw [keepAll_cons]
    exact congrArg (document :: ·) (ih _)

theorem mapM_eq_keepAll (archive : Archive φ) (documents : List Document) (store : φ) :
    ((documents.mapM archive).run store).2 = ((archive.keepAll documents).run store).2 := by
  induction documents generalizing store with
  | nil => rfl
  | cons document documents ih =>
    rw [run_mapM_cons, keepAll_cons]
    exact ih _

theorem mapM_recorded (archive : Archive φ) (documents : List Document) (store : φ) (earlier : List Copy) :
    ((documents.mapM archive.recorded).run (store, earlier)).2 =
      let (copies, after) := (archive.keepAll documents).run store
      (after, earlier ++ copies) := by
  induction documents generalizing store earlier with
  | nil =>
    show (store, earlier) = (store, earlier ++ [])
    rw [List.append_nil]
  | cons document documents ih =>
    rcases answered : (archive document).run store with ⟨answer, next⟩
    have first : (archive.recorded document).run (store, earlier) =
        (answer, next, earlier ++ [⟨document, answer⟩]) := by
      show (((archive document).run store).1, ((archive document).run store).2,
        earlier ++ [Copy.mk document ((archive document).run store).1]) = _
      rw [answered]
    rcases kept : (archive.keepAll documents).run next with ⟨copies, after⟩
    have others := ih next (earlier ++ [⟨document, answer⟩])
    rw [kept] at others
    simp only [List.append_assoc, List.singleton_append] at others
    rw [run_mapM_cons, keepAll_cons, first, answered]
    simp only [kept]
    exact others

end Archive

namespace Settings

variable {σ τ φ : Type} {settings : Settings} {templates : Templates} {today : Date}

def copies (settings : Settings) (archive : Archive φ) (templates : Templates) (today : Date)
    (id : RunId) (source : ItemSource σ) (sink : Sink τ) (before : Surroundings σ τ φ) : List Copy :=
  ((settings.runKeeping archive.recorded templates today id source sink).run
    ⟨before.source, before.sink, (before.files, [])⟩).2.files.2

theorem runKeeping_copies (archive : Archive φ) (id : RunId) (source : ItemSource σ) (sink : Sink τ)
    (before : Surroundings σ τ φ) :
    (settings.runKeeping archive.recorded templates today id source sink).run
        ⟨before.source, before.sink, (before.files, [])⟩ =
      let (answer, after) := (settings.runKeeping archive templates today id source sink).run before
      (answer, ⟨after.source, after.sink,
        (after.files, settings.copies archive templates today id source sink before)⟩) := by
  rw [copies, runKeeping_eq, runKeeping_eq]
  rcases (Plan.prepare settings templates today source).run.run before.source with ⟨answer, asked⟩
  cases answer with
  | error failure => rfl
  | ok plan =>
    simp only [Archive.mapM_recorded, archive.mapM_eq_keepAll]
    rfl

theorem copies_of_prepare {before after : Surroundings σ τ φ} {source : ItemSource σ} {plan : Plan}
    {asked : σ} {archive : Archive φ} {id : RunId} {sink : Sink τ} {report : Report}
    (prepared : (Plan.prepare settings templates today source).run.run before.source = (.ok plan, asked))
    (done : (settings.runKeeping archive templates today id source sink).run before =
      (.ok report, after)) :
    (archive.keepAll plan.documents).run before.files =
      (settings.copies archive templates today id source sink before, after.files) := by
  rw [runKeeping_eq, prepared] at done
  have files := congrArg (fun result => result.2.files) done
  rw [copies, runKeeping_eq]
  simp only [archive.mapM_eq_keepAll] at files
  simp only [prepared, Archive.mapM_recorded]
  rw [← files]
  rfl

end Settings

def Document.copyPath (folder : String) (document : Document) : String :=
  Path.join folder (archiveName document.email)

namespace FileTree

def copyPlace (tree : FileTree) (folder : String) (document : Document) : Except FileFault Place :=
  tree.locate (.ofText (document.copyPath folder))

/-- Copies of some documents were kept: each has a place, which holds the last of the documents that
have it, and no other file has changed. -/
structure Keeps (before after : FileTree) (folder : String) (documents : List Document) : Prop where
  grown : ∃ written, before.Extends after written ∧
    ∀ place ∈ written, ∃ document ∈ documents, after.copyPlace folder document = .ok place
  placed : ∀ document ∈ documents, ∃ place, after.copyPlace folder document = .ok place
  last : ∀ {front document back place}, documents = front ++ document :: back →
    after.copyPlace folder document = .ok place →
    (∀ later ∈ back, after.copyPlace folder later ≠ .ok place) →
    after.lookup? place = some (.file document.html.toUTF8)

theorem Keeps.nil (tree : FileTree) (folder : String) : tree.Keeps tree folder [] where
  grown := ⟨[], .refl tree, by simp⟩
  placed := by simp
  last := by simp

theorem Keeps.cons {before next after : FileTree} {folder path : String} {document : Document}
    {documents : List Document}
    (kept : before.archive folder document.email document.html = (.ok path, next))
    (rest : next.Keeps after folder documents) : before.Keeps after folder (document :: documents) := by
  obtain ⟨place, found, held, step⟩ : ∃ place, next.copyPlace folder document = .ok place ∧
      next.lookup? place = some (.file document.html.toUTF8) ∧ before.Extends next [place] := by
    rcases archive_cases kept with ⟨_, stored⟩ | ⟨_, same, _⟩
    · exact stored
    · cases same
  obtain ⟨written, grown, owned⟩ := rest.grown
  have here : after.copyPlace folder document = .ok place := grown.locate found
  refine ⟨⟨[place] ++ written, step.trans grown, ?_⟩, ?_, ?_⟩
  · intro other member
    rcases List.mem_append.mp member with first | later
    · rw [List.mem_singleton] at first
      exact ⟨document, List.mem_cons_self, first ▸ here⟩
    · obtain ⟨owner, present, there⟩ := owned other later
      exact ⟨owner, List.mem_cons_of_mem _ present, there⟩
  · exact List.forall_mem_cons.mpr ⟨⟨place, here⟩, rest.placed⟩
  · intro front owner back target split there unclaimed
    cases front with
    | nil =>
      cases split
      rw [here] at there
      cases there
      have unwritten : place ∉ written := by
        intro member
        obtain ⟨later, present, same⟩ := owned place member
        exact unclaimed later present same
      exact (grown.files place unwritten _).mpr held
    | cons head front =>
      cases split
      exact rest.last rfl there unclaimed

/-- What is read in a place is the last of the documents that have it. -/
theorem Keeps.read_last {before after : FileTree} {folder : String} {documents front back : List Document}
    {document other : Document} (keeps : before.Keeps after folder documents)
    (split : documents = front ++ document :: back)
    (unclaimed : ∀ later ∈ back, after.copyPlace folder later ≠ after.copyPlace folder document)
    (same : after.copyPlace folder other = after.copyPlace folder document) :
    after.readText (other.copyPath folder) = .ok document.html := by
  obtain ⟨place, here⟩ := keeps.placed document (by rw [split]; simp)
  rw [here] at unclaimed same
  exact readText_of_lookup? same (keeps.last split here unclaimed)

theorem exists_last_same_place (tree : FileTree) (folder : String) {documents : List Document}
    {document : Document} (member : document ∈ documents) :
    ∃ front last back, documents = front ++ last :: back ∧
      tree.copyPlace folder document = tree.copyPlace folder last ∧
      ∀ later ∈ back, tree.copyPlace folder later ≠ tree.copyPlace folder last := by
  let same (other : Document) : Bool :=
    tree.copyPlace folder other = tree.copyPlace folder document
  have some_same : (documents.reverse.find? same).isSome = true :=
    List.find?_isSome.mpr ⟨document, List.mem_reverse.mpr member, by simp [same]⟩
  obtain ⟨last, found⟩ := Option.isSome_iff_exists.mp some_same
  obtain ⟨shared, back, front, split, others⟩ := List.find?_eq_some_iff_append.mp found
  have shared : tree.copyPlace folder last = tree.copyPlace folder document := by simpa [same] using shared
  refine ⟨front.reverse, last, back.reverse, ?_, shared.symm, ?_⟩
  · rw [← List.reverse_reverse documents, split]
    simp
  · intro later present equal
    have apart := others later (List.mem_reverse.mp present)
    simp [same, equal, shared] at apart

/-- All copies survive exactly when those that share a place are the same. -/
theorem Keeps.all_read_iff {before after : FileTree} {folder : String} {documents : List Document}
    (keeps : before.Keeps after folder documents) :
    (∀ document ∈ documents, after.readText (document.copyPath folder) = .ok document.html) ↔
      ∀ first ∈ documents, ∀ second ∈ documents,
        after.copyPlace folder first = after.copyPlace folder second → first.html = second.html := by
  have read {first second : Document}
      (same : after.copyPlace folder first = after.copyPlace folder second) :
      after.readText (first.copyPath folder) = after.readText (second.copyPath folder) := by
    simp only [copyPlace] at same
    simp only [readText, same]
  constructor
  · intro survive first memberFirst second memberSecond same
    have shared := read same
    rw [survive first memberFirst, survive second memberSecond] at shared
    exact Except.ok.inj shared
  · intro alike document member
    obtain ⟨front, last, back, split, same, unclaimed⟩ :=
      exists_last_same_place after folder member
    have present : last ∈ documents := by rw [split]; simp
    rw [alike document member last present same]
    exact keeps.read_last split unclaimed same

theorem Keeps.copyPlace_eq_iff {before after : FileTree} {folder : String} {documents : List Document}
    (keeps : before.Keeps after folder documents) {first second : Document} (member : first ∈ documents)
    (plainFirst : '/' ∉ first.email.toList) (plainSecond : '/' ∉ second.email.toList) :
    after.copyPlace folder first = after.copyPlace folder second ↔
      archiveName first.email = archiveName second.email := by
  constructor
  · intro same
    obtain ⟨place, found⟩ := keeps.placed first member
    have there := found
    rw [same] at there
    obtain ⟨home, reached, -, named⟩ := locate_join (isName_archiveName_iff.mpr plainFirst) found
    obtain ⟨other, reachedAgain, -, renamed⟩ :=
      locate_join (isName_archiveName_iff.mpr plainSecond) there
    rw [reached] at reachedAgain
    cases reachedAgain
    rw [named] at renamed
    exact List.singleton_inj.mp (List.append_cancel_left renamed)
  · intro same
    rw [copyPlace, copyPlace, Document.copyPath, Document.copyPath, same]

end FileTree

namespace Settings

variable {σ τ : Type} {settings : Settings} {templates : Templates} {today : Date}

theorem archive_of_folder {folder : String} (named : settings.archiveFolder = some folder)
    (document : Document) (files : FileTree) :
    (settings.archive document).run files =
      ((files.archive folder document.email document.html).1.map fun _ => (),
        (files.archive folder document.email document.html).2) := by
  rw [StateT.run, archive, named]

theorem keeps_of_keepAll {folder : String} (named : settings.archiveFolder = some folder)
    {documents : List Document} {before after : FileTree} {copies : List Copy}
    (ran : (settings.archive.keepAll documents).run before = (copies, after))
    (kept : ∀ copy ∈ copies, copy.answer = .ok ()) : before.Keeps after folder documents := by
  induction documents generalizing before copies with
  | nil =>
    cases ran
    exact .nil after folder
  | cons document documents ih =>
    rw [Archive.keepAll_cons, archive_of_folder named] at ran
    rcases archived : before.archive folder document.email document.html with ⟨answer, next⟩
    rcases others : (settings.archive.keepAll documents).run next with ⟨rest, last⟩
    simp only [archived, others] at ran
    cases ran
    obtain ⟨first, remaining⟩ := List.forall_mem_cons.mp kept
    cases answer with
    | error fault => cases first
    | ok path => exact .cons archived (ih others remaining)

/-- A run whose copies were all kept leaves each rendered document where its path leads, unless a
later one took the place: what is read there is the last of the documents with this place. So all of
them survive exactly when those that share a place are the same, and without slashes in the
addresses they share a place exactly when they share the name of the copy. -/
theorem run_keeps_last {folder : String} (named : settings.archiveFolder = some folder) {id : RunId}
    {source : ItemSource σ} {sink : Sink τ} {before after : Surroundings σ τ} {report : Report}
    (done : (settings.run templates today id source sink).run before = (.ok report, after))
    (kept : ∀ copy ∈ settings.copies settings.archive templates today id source sink before,
      copy.answer = .ok ()) :
    let copies := settings.copies settings.archive templates today id source sink before
    let documents := copies.map Copy.document
    let place := after.files.copyPlace folder
    let read (document : Document) := after.files.readText (document.copyPath folder)
    (settings.runKeeping settings.archive.recorded templates today id source sink).run
        ⟨before.source, before.sink, (before.files, [])⟩ =
      (.ok report, ⟨after.source, after.sink, (after.files, copies)⟩) ∧
    (∃ gathered, (Plan.gather settings source).run.run before.source = (.ok gathered, after.source) ∧
      List.Forall₂ (templates.Renders gathered.editUrl today)
        (Plan.digest settings today gathered.directory gathered.items).due documents) ∧
    (∀ front last back, documents = front ++ last :: back → (∀ later ∈ back, place later ≠ place last) →
      ∀ document ∈ documents, place document = place last → read document = .ok last.html) ∧
    ((∀ document ∈ documents, read document = .ok document.html) ↔
      ∀ first ∈ documents, ∀ second ∈ documents, place first = place second →
        first.html = second.html) ∧
    ∀ first ∈ documents, ∀ second ∈ documents,
      '/' ∉ first.email.toList → '/' ∉ second.email.toList →
        (place first = place second ↔ archiveName first.email = archiveName second.email) := by
  obtain ⟨plan, prepared⟩ := prepare_of_runKeeping done
  obtain ⟨gathered, told, planned⟩ := Plan.gather_of_prepare prepared
  have ran := copies_of_prepare prepared done
  have keeps := keeps_of_keepAll named ran kept
  intro copies documents place read
  have listed : documents = plan.documents := by
    have all := Archive.documents_keepAll settings.archive plan.documents before.files
    rw [ran] at all
    exact all
  rw [← listed] at keeps
  refine ⟨?_, ⟨gathered, told, ?_⟩, ?_, keeps.all_read_iff, ?_⟩
  · rw [run] at done
    rw [runKeeping_copies, done]
  · rw [listed]
    exact (Plan.renders_of_ofItems planned).2
  · intro front last back split unclaimed document _ same
    exact keeps.read_last split unclaimed same
  · intro first member second _
    exact keeps.copyPlace_eq_iff member

end Settings

namespace Sample

/-- Addresses whose copies have different names: all copies are there in the end. -/
theorem run_keeps_last_sample :
    ∃ report after, (settings.run templates today (.ofBits 0) (source tasks) sink).run ⟨(), 1, folders⟩ =
        (.ok report, after) ∧
      after.files.readText "copies/ann_example_org.html" = .ok "<Plan><Call>" ∧
      after.files.readText "copies/bob_example_org.html" = .ok "<Print>" := by
  let ann : Document := ⟨"ann@example.org", "<Plan><Call>", 2⟩
  let bob : Document := ⟨"bob@example.org", "<Print>", 1⟩
  have copied : settings.copies settings.archive templates today (.ofBits 0) (source tasks) sink
      ⟨(), 1, folders⟩ = [⟨ann, .ok ()⟩, ⟨bob, .ok ()⟩] := by decide +kernel
  have reported : ((settings.run templates today (.ofBits 0) (source tasks) sink).run
      ⟨(), 1, folders⟩).1 = .ok ⟨.ofBits 0, 5, 3, 1, [ann.email, bob.email], []⟩ := by decide +kernel
  rcases done : (settings.run templates today (.ofBits 0) (source tasks) sink).run ⟨(), 1, folders⟩ with
    ⟨answer, after⟩
  rw [done] at reported
  subst reported
  obtain ⟨-, -, last, -, names⟩ := Settings.run_keeps_last rfl done (by rw [copied]; decide)
  rw [copied] at last names
  have apart : after.files.copyPlace "copies" bob ≠ after.files.copyPlace "copies" ann := by
    rw [ne_eq, names bob (by simp) ann (by simp) (by decide) (by decide)]
    decide +kernel
  have annPath : ann.copyPath "copies" = "copies/ann_example_org.html" := by decide +kernel
  have bobPath : bob.copyPath "copies" = "copies/bob_example_org.html" := by decide +kernel
  refine ⟨_, after, rfl, ?_, ?_⟩
  · rw [← annPath]
    exact last [] ann [bob] rfl (by simpa using apart) ann (by simp) rfl
  · rw [← bobPath]
    exact last [ann] bob [] rfl (by simp) bob (by simp) rfl

/-- A source of some items, whose first two users have addresses that give their copies one name. -/
def confusable (items : List Item) : ItemSource Unit where
  editFormUrl := pure "edit"
  fetchItems := pure items
  resolveEmail user := pure <|
    if user = 1 then some "ann.lee@example.org" else if user = 2 then some "ann@lee.example.org" else none

/-- Both copies are kept, the second in place of the first. -/
theorem run_overwrites_copy :
    let run := (settings.run templates today (.ofBits 0) (confusable tasks) sink).run ⟨(), 1, folders⟩
    let copies := settings.copies settings.archive templates today (.ofBits 0) (confusable tasks) sink
      ⟨(), 1, folders⟩
    let first : Document := ⟨"ann.lee@example.org", "<Plan><Call>", 2⟩
    let second : Document := ⟨"ann@lee.example.org", "<Print>", 1⟩
    run.1 = .ok ⟨.ofBits 0, 5, 2, 0, [first.email, second.email], []⟩ ∧
      copies = [⟨first, .ok ()⟩, ⟨second, .ok ()⟩] ∧ first.copyPath "copies" = second.copyPath "copies" ∧
      run.2.files.readText (first.copyPath "copies") = .ok second.html ∧ first.html ≠ second.html := by
  decide +kernel

end Sample
end DueReminders
