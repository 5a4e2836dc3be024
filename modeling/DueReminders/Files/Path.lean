/-! Paths of files: names separated by slashes. A path that starts with a slash is absolute. -/
namespace DueReminders

/-- The pieces of a text between the slashes, empty ones included. -/
def Path.split : List Char → List (List Char)
  | [] => [[]]
  | c :: rest =>
    if c = '/' then [] :: split rest
    else
      match split rest with
      | [] => [[c]]
      | head :: tail => (c :: head) :: tail

/-- A path by its pieces; empty pieces and single dots lead nowhere. -/
structure Path where
  absolute : Bool
  pieces : List String
  deriving DecidableEq, Repr

namespace Path

def ofText (text : String) : Path :=
  ⟨text.toList.head? == some '/', (split text.toList).map String.ofList⟩

/-- The pieces that lead somewhere. -/
def names (path : Path) : List String := path.pieces.filter fun piece => piece != "" && piece != "."

def parent (path : Path) : Path := ⟨path.absolute, path.names.dropLast⟩

def trimmed (path : Path) : Path :=
  ⟨path.absolute, (path.pieces.reverse.dropWhile (· == "")).reverse⟩

/-- Length in bytes, slashes included. -/
def size (path : Path) : Nat :=
  path.pieces.foldr (fun piece total => piece.utf8ByteSize + 1 + total) 0

def hasNul (path : Path) : Bool := path.pieces.any fun piece => piece.toList.contains '\x00'

/-- A path below a folder. A slash is put between them unless the folder ends in one, and an
absolute path stands for itself. -/
def join (folder part : String) : String :=
  if part.toList.head? = some '/' then part
  else if folder.isEmpty ∨ folder.toList.getLast? = some '/' then folder ++ part
  else folder ++ "/" ++ part

theorem length_names_parent (path : Path) (named : path.names ≠ []) :
    path.parent.names.length < path.names.length := by
  have shorter : path.parent.names.length ≤ path.names.dropLast.length :=
    List.length_filter_le _ path.names.dropLast
  have : path.names.length ≠ 0 := fun none => named (List.length_eq_zero_iff.mp none)
  rw [List.length_dropLast] at shorter
  omega

theorem split_of_no_slash {text : List Char} (plain : '/' ∉ text) : split text = [text] := by
  induction text with
  | nil => rfl
  | cons c rest ih =>
    simp only [List.mem_cons, not_or] at plain
    simp [split, ih plain.2, Ne.symm plain.1]

end Path
end DueReminders
