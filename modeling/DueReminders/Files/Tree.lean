import DueReminders.Failure
import DueReminders.Files.Path
import DueReminders.Files.SystemFault

/-! A tree of folders and files. Entries are kept by the names that lead to them from the root, and
every step along a path needs a folder to start from. -/
namespace DueReminders

inductive FileEntry where
  | file (content : ByteArray)
  | folder

instance : DecidableEq FileEntry
  | .folder, .folder => .isTrue rfl
  | .folder, .file _ | .file _, .folder => .isFalse FileEntry.noConfusion
  | .file a, .file b =>
    match ByteArray.instDecidableEq a b with
    | .isTrue same => .isTrue (same ▸ rfl)
    | .isFalse other => .isFalse fun equal => other (FileEntry.file.inj equal)

/-- Why a file could not be used. -/
inductive FileFault where
  | system (fault : SystemFault)
  | nulInName
  | notText
  deriving DecidableEq, Repr

def FileFault.message : FileFault → String
  | .system fault => fault.message
  | .nulInName => "file name contained an unexpected NUL byte"
  | .notText => "stream did not contain valid UTF-8"

def FileFault.toFailure (fault : FileFault) : Failure := ⟨.file, fault.message⟩

/-- The place of an entry: names from the root down. -/
abbrev Place := List String

structure FileTree where
  /-- The folder relative paths start from. -/
  current : Place
  entries : List (Place × FileEntry)

namespace FileTree

/-- Bytes a single name may have. -/
def nameLimit : Nat := 255

/-- Bytes a whole path may have. -/
def pathLimit : Nat := 4096

def lookup? (tree : FileTree) (place : Place) : Option FileEntry :=
  if place = [] then some .folder else tree.entries.lookup place

def put (tree : FileTree) (place : Place) (entry : FileEntry) : FileTree :=
  { tree with entries := (place, entry) :: tree.entries.filter fun (other, _) => other != place }

/-- Follow names from a folder. The entry the last name leads to need not exist. -/
def walk (tree : FileTree) (place : Place) : List String → Except FileFault Place
  | [] => .ok place
  | piece :: rest =>
    match tree.lookup? place with
    | none => .error (.system .notFound)
    | some (.file _) => .error (.system .notFolder)
    | some .folder =>
      if piece = "" ∨ piece = "." then walk tree place rest
      else if piece = ".." then walk tree place.dropLast rest
      else if nameLimit < piece.utf8ByteSize then .error (.system .nameTooLong)
      else walk tree (place ++ [piece]) rest

def locate (tree : FileTree) (path : Path) : Except FileFault Place :=
  if path.hasNul then .error .nulInName
  else if pathLimit < path.size then .error (.system .nameTooLong)
  else tree.walk (if path.absolute then [] else tree.current) path.pieces

def isFolder (tree : FileTree) (path : Path) : Bool :=
  match tree.locate path with
  | .ok place => tree.lookup? place == some .folder
  | .error _ => false

def makeFolder (tree : FileTree) (path : Path) : Except FileFault FileTree := do
  let place ← tree.locate path.trimmed
  match tree.lookup? place with
  | some _ => .error (.system .alreadyExists)
  | none => .ok (tree.put place .folder)

/-- The tree after making a folder; it may also have been there already. -/
def settleFolder (tree : FileTree) (path : Path) : Except FileFault FileTree :=
  match tree.makeFolder path with
  | .ok made => .ok made
  | .error fault => if tree.isFolder path then .ok tree else .error fault

/-- Make a folder and all folders above it that are missing. Folders made before a fault stay. -/
def makeFolders (tree : FileTree) (path : Path) : Except FileFault Unit × FileTree :=
  if _ : path.names = [] then
    if path.pieces.all (· == "") then (.ok (), tree) else finish tree path
  else if tree.makeFolder path matches .error (.system ⟨2⟩) then
    match makeFolders tree path.parent with
    | (.ok (), above) => finish above path
    | (.error fault, above) => (.error fault, above)
  else finish tree path
termination_by path.names.length
decreasing_by exact path.length_names_parent ‹_›
where
  finish (tree : FileTree) (path : Path) : Except FileFault Unit × FileTree :=
    match tree.settleFolder path with
    | .ok made => (.ok (), made)
    | .error fault => (.error fault, tree)

def readText (tree : FileTree) (path : String) : Except FileFault String := do
  let place ← tree.locate (.ofText path)
  match tree.lookup? place with
  | none => .error (.system .notFound)
  | some .folder => .error (.system .isFolder)
  | some (.file content) =>
    match String.fromUTF8? content with
    | some text => .ok text
    | none => .error .notText

/-- Write a file whose folder exists, over any earlier content. -/
def writeText (tree : FileTree) (path text : String) : Except FileFault FileTree := do
  let place ← tree.locate (.ofText path)
  match tree.lookup? place with
  | some .folder => .error (.system .isFolder)
  | _ => .ok (tree.put place (.file text.toUTF8))

/-- Writing a place changes what is found there and nowhere else. -/
theorem lookup?_put (tree : FileTree) {place : Place} (below : place ≠ []) (other : Place)
    (entry : FileEntry) :
    (tree.put place entry).lookup? other = if other = place then some entry else tree.lookup? other := by
  have kept : ∀ entries : List (Place × FileEntry), other ≠ place →
      (entries.filter fun (name, _) => name != place).lookup other = entries.lookup other := by
    intro entries apart
    induction entries with
    | nil => rfl
    | cons head rest ih =>
      obtain ⟨name, kept⟩ := head
      by_cases same : name = place
      · have passed : (other == name) = false := by simpa [same] using apart
        rw [List.lookup_cons, passed, List.filter_cons_of_neg (by simp [same]), ih]
      · by_cases here : other = name
        · simp [same, here]
        · have passed : (other == name) = false := by simpa using here
          simp [same, List.lookup_cons, passed, ih]
  unfold lookup? put
  by_cases same : other = place
  · subst same
    simp [below]
  · have : (other == place) = false := by simpa using same
    simp [same, List.lookup_cons, this, kept tree.entries same]

end FileTree
end DueReminders
