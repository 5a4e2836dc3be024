import DueReminders.Files.Archive
import Mathlib.Data.List.Basic

/-! What making folders and writing files does to a tree. A folder stays a folder, so a path leads
where it led before, and a file keeps its content unless it is the one that is written. -/
namespace DueReminders.FileTree

/-- Folders may have been made and the files at some places written; all else is as it was. -/
structure Extends (before after : FileTree) (written : List Place) : Prop where
  current : after.current = before.current
  folders : ∀ place, before.lookup? place = some .folder → after.lookup? place = some .folder
  files : ∀ place, place ∉ written → ∀ content,
    after.lookup? place = some (.file content) ↔ before.lookup? place = some (.file content)

theorem Extends.refl (tree : FileTree) : tree.Extends tree [] where
  current := rfl
  folders _ found := found
  files _ _ _ := Iff.rfl

theorem Extends.trans {first second third : FileTree} {earlier later : List Place}
    (start : first.Extends second earlier) (rest : second.Extends third later) :
    first.Extends third (earlier ++ later) where
  current := rest.current.trans start.current
  folders place found := rest.folders place (start.folders place found)
  files place unwritten content := by
    rw [List.mem_append, not_or] at unwritten
    rw [rest.files place unwritten.2, start.files place unwritten.1]

theorem lookup?_nil (tree : FileTree) : tree.lookup? [] = some .folder := by
  rw [lookup?, if_pos rfl]

theorem ne_nil_of_lookup? {tree : FileTree} {place : Place} (other : tree.lookup? place ≠ some .folder) :
    place ≠ [] :=
  fun root => other (root ▸ tree.lookup?_nil)

theorem extends_put_folder {tree : FileTree} {place : Place} (vacant : tree.lookup? place = none) :
    tree.Extends (tree.put place .folder) [] where
  current := rfl
  folders other found := by
    have free : tree.lookup? place ≠ some .folder := by simp [vacant]
    rw [lookup?_put tree (ne_nil_of_lookup? free)]
    split
    · rfl
    · exact found
  files other _ content := by
    have free : tree.lookup? place ≠ some .folder := by simp [vacant]
    rw [lookup?_put tree (ne_nil_of_lookup? free)]
    split
    · next same => simp [same, vacant]
    · rfl

theorem extends_put_file {tree : FileTree} {place : Place} (free : tree.lookup? place ≠ some .folder)
    (content : ByteArray) : tree.Extends (tree.put place (.file content)) [place] where
  current := rfl
  folders other found := by
    rw [lookup?_put tree (ne_nil_of_lookup? free), if_neg]
    · exact found
    · exact fun same => free (same ▸ found)
  files other unwritten kept := by
    rw [lookup?_put tree (ne_nil_of_lookup? free), if_neg (fun same => unwritten (by simp [same]))]

theorem makeFolder_extends {tree made : FileTree} {path : Path}
    (done : tree.makeFolder path = .ok made) : tree.Extends made [] := by
  rw [makeFolder] at done
  obtain ⟨place, -, done⟩ := exists_of_bind_eq_ok done
  cases found : tree.lookup? place with
  | some entry =>
    rw [found] at done
    cases done
  | none =>
    rw [found] at done
    cases done
    exact extends_put_folder found

theorem finish_extends (tree : FileTree) (path : Path) :
    tree.Extends (makeFolders.finish tree path).2 [] := by
  rw [makeFolders.finish, settleFolder]
  cases made : tree.makeFolder path with
  | ok after => exact makeFolder_extends made
  | error fault =>
    cases tree.isFolder path with
    | true => exact .refl tree
    | false => exact .refl tree

theorem makeFolders_extends (tree : FileTree) (path : Path) :
    tree.Extends (tree.makeFolders path).2 [] := by
  induction path using makeFolders.induct tree with
  | case1 path root blank =>
    rw [makeFolders, dif_pos root, if_pos blank]
    exact .refl tree
  | case2 path root solid =>
    rw [makeFolders, dif_pos root, if_neg solid]
    exact finish_extends tree path
  | case3 path named missing above made ih =>
    rw [makeFolders, dif_neg named, if_pos missing, made]
    rw [made] at ih
    exact ih.trans (finish_extends above path)
  | case4 path named missing fault above made ih =>
    rw [makeFolders, dif_neg named, if_pos missing, made]
    rw [made] at ih
    exact ih
  | case5 path named present =>
    rw [makeFolders, dif_neg named, if_neg present]
    exact finish_extends tree path

theorem lookup?_of_walk_cons {tree : FileTree} {place target : Place} {piece : String}
    {rest : List String} (found : tree.walk place (piece :: rest) = .ok target) :
    tree.lookup? place = some .folder := by
  rw [walk] at found
  split at found
  · cases found
  · cases found
  · next folder => exact folder

theorem walk_cons {tree : FileTree} {place : Place} (folder : tree.lookup? place = some .folder)
    (piece : String) (rest : List String) :
    tree.walk place (piece :: rest) =
      if piece = "" ∨ piece = "." then tree.walk place rest
      else if piece = ".." then tree.walk place.dropLast rest
      else if nameLimit < piece.utf8ByteSize then .error (.system .nameTooLong)
      else tree.walk (place ++ [piece]) rest := by
  rw [walk, folder]

theorem walk_append (tree : FileTree) (place : Place) (front back : List String) :
    tree.walk place (front ++ back) =
      (tree.walk place front).bind fun middle => tree.walk middle back := by
  induction front generalizing place with
  | nil => rfl
  | cons piece front ih =>
    rw [List.cons_append, walk, walk]
    cases tree.lookup? place with
    | none => rfl
    | some entry =>
      cases entry with
      | file content => rfl
      | folder =>
        simp only [ih]
        split
        · rfl
        · split
          · rfl
          · split <;> rfl

theorem Extends.walk {before after : FileTree} {written : List Place}
    (grown : before.Extends after written) {names : List String} {place target : Place}
    (found : before.walk place names = .ok target) : after.walk place names = .ok target := by
  induction names generalizing place with
  | nil => exact found
  | cons piece rest ih =>
    have folder := lookup?_of_walk_cons found
    rw [walk_cons folder] at found
    rw [walk_cons (grown.folders place folder)]
    split at found
    · next skipped => rw [if_pos skipped, ih found]
    · next solid =>
      rw [if_neg solid]
      split at found
      · next up => rw [if_pos up, ih found]
      · next down =>
        rw [if_neg down]
        split at found
        · cases found
        · next fits => rw [if_neg fits, ih found]

theorem locate_eq_ok_iff {tree : FileTree} {path : Path} {place : Place} :
    tree.locate path = .ok place ↔ path.hasNul = false ∧ path.size ≤ pathLimit ∧
      tree.walk (if path.absolute then [] else tree.current) path.pieces = .ok place := by
  rw [locate]
  cases path.hasNul with
  | true => simp
  | false =>
    by_cases long : pathLimit < path.size
    · simp [long, Nat.not_le_of_lt long]
    · simp [long, Nat.le_of_not_lt long]

theorem Extends.locate {before after : FileTree} {written : List Place}
    (grown : before.Extends after written) {path : Path} {place : Place}
    (found : before.locate path = .ok place) : after.locate path = .ok place := by
  rw [locate_eq_ok_iff] at found ⊢
  rw [grown.current]
  exact ⟨found.1, found.2.1, grown.walk found.2.2⟩

theorem writeText_eq_ok {tree after : FileTree} {path text : String}
    (done : tree.writeText path text = .ok after) :
    ∃ place, tree.locate (.ofText path) = .ok place ∧
      after.lookup? place = some (.file text.toUTF8) ∧ tree.Extends after [place] := by
  rw [writeText] at done
  obtain ⟨place, found, done⟩ := exists_of_bind_eq_ok done
  have free : tree.lookup? place ≠ some .folder := by
    intro folder
    rw [folder] at done
    cases done
  refine ⟨place, found, ?_⟩
  have put : after = tree.put place (.file text.toUTF8) := by
    split at done
    · cases done
    · cases done
      rfl
  subst put
  exact ⟨by rw [lookup?_put tree (ne_nil_of_lookup? free), if_pos rfl], extends_put_file free _⟩

theorem readText_of_lookup? {tree : FileTree} {path text : String} {place : Place}
    (found : tree.locate (.ofText path) = .ok place)
    (kept : tree.lookup? place = some (.file text.toUTF8)) : tree.readText path = .ok text := by
  have valid : text.toUTF8.IsValidUTF8 := text.isValidUTF8
  have read : String.fromUTF8? text.toUTF8 = some text := by
    rw [String.fromUTF8?, dif_pos valid]
    rfl
  simp only [readText, found, bind, Except.bind, kept, read]

end DueReminders.FileTree
