import DueReminders.Document
import DueReminders.Files.Tree

/-! Files a run reads and writes: the two templates, and a copy of every document. -/
namespace DueReminders

def archiveName (email : String) : String :=
  String.ofList (email.toList.map fun c => if c = '@' ∨ c = '.' then '_' else c) ++ ".html"

/-- Keep a copy of a document, over an earlier one. The folder is made when missing. -/
def FileTree.archive (tree : FileTree) (folder email html : String) :
    Except FileFault String × FileTree :=
  match tree.makeFolders (.ofText folder) with
  | (.error fault, tree) => (.error fault, tree)
  | (.ok (), tree) =>
    let path := Path.join folder (archiveName email)
    match tree.writeText path html with
    | .ok written => (.ok path, written)
    | .error fault => (.error fault, tree)

namespace Templates

def digestFile : String := "email_template.html"
def itemFile : String := "task_template.html"

/-- Read a file, and name it where that fails. -/
def readNamed (tree : FileTree) (path : String) : Except Failure String :=
  (tree.readText path).mapError fun fault => ⟨.file, path ++ ": " ++ fault.message⟩

def load (tree : FileTree) (folder : String) : Except Failure Templates := do
  let digest ← readNamed tree (Path.join folder digestFile)
  let item ← readNamed tree (Path.join folder itemFile)
  return ⟨digest, item⟩

end Templates
end DueReminders
