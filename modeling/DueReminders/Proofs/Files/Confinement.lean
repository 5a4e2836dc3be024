import DueReminders.Proofs.Files.Extension

/-! Where the copy of a document is kept. The name of a copy is a single name of a file exactly when
the recipient's address has no slash, and then the copy stands directly in the archive folder. -/
namespace DueReminders

namespace Path

/-- A name that leads from a folder to an entry of this folder. -/
structure IsName (name : String) : Prop where
  no_slash : '/' ∉ name.toList
  ne_empty : name ≠ ""
  ne_here : name ≠ "."
  ne_up : name ≠ ".."

theorem split_ne_nil (text : List Char) : split text ≠ [] := by
  cases text with
  | nil => simp [split]
  | cons c rest =>
    rw [split]
    split
    · simp
    · split <;> simp

theorem split_append_slash (front back : List Char) :
    split (front ++ '/' :: back) = split front ++ split back := by
  induction front with
  | nil => rfl
  | cons c rest ih =>
    rw [List.cons_append, split, split, ih]
    by_cases slash : c = '/'
    · rw [if_pos slash, if_pos slash, List.cons_append]
    · rw [if_neg slash, if_neg slash]
      cases pieces : split rest with
      | nil => exact absurd pieces (split_ne_nil rest)
      | cons head tail => rfl

theorem size_append (absolute : Bool) (front back : List String) :
    size ⟨absolute, front ++ back⟩ = size ⟨absolute, front⟩ + size ⟨absolute, back⟩ := by
  induction front with
  | nil => simp [size]
  | cons piece front ih =>
    simp only [size, List.cons_append, List.foldr_cons] at ih ⊢
    omega

theorem hasNul_append (absolute : Bool) (front back : List String) :
    hasNul ⟨absolute, front ++ back⟩ = (hasNul ⟨absolute, front⟩ || hasNul ⟨absolute, back⟩) := by
  simp [hasNul]

theorem IsName.head?_ne_slash {name : String} (plain : IsName name) : name.toList.head? ≠ some '/' :=
  fun first => plain.no_slash (List.mem_of_mem_head? first)

theorem IsName.toList_join {name : String} (plain : IsName name) (folder : String) :
    (join folder name).toList =
      if folder.toList = [] ∨ folder.toList.getLast? = some '/' then folder.toList ++ name.toList
      else folder.toList ++ '/' :: name.toList := by
  have same : folder.isEmpty = true ↔ folder.toList = [] := by simp
  simp only [join, if_neg plain.head?_ne_slash, same]
  split
  · exact String.toList_append
  · rw [String.toList_append, String.toList_append, List.append_assoc]
    rfl

/-- A path to a name in a folder leads to the folder first. The folder may be written with a slash
at its end, or as the empty text. -/
theorem IsName.ofText_join {name : String} (plain : IsName name) (folder : String) :
    ∃ absolute front, ofText (join folder name) = ⟨absolute, front ++ [name]⟩ ∧
      (ofText folder = ⟨absolute, front⟩ ∨ ofText folder = ⟨absolute, front ++ [""]⟩) := by
  have single : (split name.toList).map String.ofList = [name] := by
    rw [split_of_no_slash plain.no_slash, List.map_singleton, String.ofList_toList]
  have first := plain.head?_ne_slash
  simp only [ofText, plain.toList_join]
  generalize folder.toList = text
  by_cases empty : text = []
  · subst empty
    refine ⟨false, [], ?_, .inr rfl⟩
    rw [if_pos (.inl rfl), List.nil_append, single, beq_false_of_ne first, List.nil_append]
  · have start (rest : List Char) : (text ++ rest).head? = text.head? :=
      List.head?_append_of_ne_nil _ empty
    by_cases closed : text.getLast? = some '/'
    · obtain ⟨front, rfl⟩ := List.getLast?_eq_some_iff.mp closed
      refine ⟨(front ++ ['/']).head? == some '/', (split front).map String.ofList, ?_, .inr ?_⟩
      · rw [if_pos (.inr closed), start, List.append_assoc, List.singleton_append, split_append_slash,
          List.map_append, single]
      · rw [split_append_slash, List.map_append]
        rfl
    · refine ⟨text.head? == some '/', (split text).map String.ofList, ?_, .inl rfl⟩
      rw [if_neg (not_or.mpr ⟨empty, closed⟩), start, split_append_slash, List.map_append, single]

end Path

namespace FileTree

theorem locate_join {tree : FileTree} {folder name : String} {place : Place} (plain : Path.IsName name)
    (found : tree.locate (.ofText (Path.join folder name)) = .ok place) :
    ∃ home, tree.locate (.ofText folder) = .ok home ∧ tree.lookup? home = some .folder ∧
      place = home ++ [name] := by
  obtain ⟨absolute, front, whole, folder_eq⟩ := plain.ofText_join folder
  rw [whole, locate_eq_ok_iff, Path.hasNul_append, Path.size_append, Bool.or_eq_false_iff] at found
  obtain ⟨⟨clean, -⟩, fits, found⟩ := found
  rw [walk_append] at found
  obtain ⟨home, reached, last⟩ := exists_of_bind_eq_ok found
  have opened := lookup?_of_walk_cons last
  refine ⟨home, ?_, opened, ?_⟩
  · rw [locate_eq_ok_iff]
    rcases folder_eq with same | same
    · rw [same]
      exact ⟨clean, by omega, reached⟩
    · rw [same, Path.hasNul_append, Path.size_append]
      refine ⟨by rw [clean]; rfl, ?_, ?_⟩
      · simp only [Path.size, List.foldr_cons, List.foldr_nil] at fits ⊢
        have empty : ("" : String).utf8ByteSize = 0 := rfl
        omega
      · rw [walk_append, reached]
        show tree.walk home [""] = .ok home
        rw [walk_cons opened, if_pos (.inl rfl)]
        rfl
  · rw [walk_cons opened, if_neg (not_or.mpr ⟨plain.ne_empty, plain.ne_here⟩), if_neg plain.ne_up] at last
    split at last
    · cases last
    · cases last
      rfl

/-- Either a copy is kept where its path leads and no other file has changed, or no file has. -/
theorem archive_cases {tree after : FileTree} {folder email html : String}
    {answer : Except FileFault String} (archived : tree.archive folder email html = (answer, after)) :
    (answer = .ok (Path.join folder (archiveName email)) ∧
      ∃ place, after.locate (.ofText (Path.join folder (archiveName email))) = .ok place ∧
        after.lookup? place = some (.file html.toUTF8) ∧ tree.Extends after [place]) ∨
    (∃ fault, answer = .error fault ∧ tree.Extends after []) := by
  have made := tree.makeFolders_extends (.ofText folder)
  rw [archive] at archived
  split at archived
  · next fault ready answered =>
    cases archived
    rw [answered] at made
    exact .inr ⟨fault, rfl, made⟩
  · next ready answered =>
    rw [answered] at made
    cases written : ready.writeText (Path.join folder (archiveName email)) html with
    | error fault =>
      simp only [written] at archived
      cases archived
      exact .inr ⟨fault, rfl, made⟩
    | ok filled =>
      simp only [written] at archived
      cases archived
      obtain ⟨place, found, held, grown⟩ := writeText_eq_ok written
      exact .inl ⟨rfl, place, grown.locate found, held, made.trans grown⟩

end FileTree

theorem toList_archiveName (email : String) :
    (archiveName email).toList =
      (email.toList.map fun c => if c = '@' ∨ c = '.' then '_' else c) ++ ".html".toList := by
  rw [archiveName, String.toList_append, String.toList_ofList]

/-- The copy of a recipient has a name of its own kind exactly when the address has no slash. -/
theorem isName_archiveName_iff {email : String} :
    Path.IsName (archiveName email) ↔ '/' ∉ email.toList := by
  have long : 5 ≤ (archiveName email).toList.length := by
    rw [toList_archiveName, List.length_append]
    exact Nat.le_add_left 5 _
  have slash : '/' ∈ (archiveName email).toList ↔ '/' ∈ email.toList := by
    rw [toList_archiveName, List.mem_append, List.mem_map]
    constructor
    · rintro (⟨c, member, same⟩ | ending)
      · split at same
        · exact absurd same (by decide)
        · exact same ▸ member
      · exact absurd ending (by decide)
    · exact fun member => .inl ⟨'/', member, by decide⟩
  have other {name : String} (short : name.toList.length < 5) : archiveName email ≠ name := by
    rintro rfl
    omega
  constructor
  · exact fun plain member => plain.no_slash (slash.mpr member)
  · exact fun absent => ⟨fun member => absent (slash.mp member), other (by decide), other (by decide),
      other (by decide)⟩

/-- The copies of those whose address has no slash, and of nobody else, have the name of an entry of
a folder. Such a copy stands directly in the archive folder, whatever the folder and the tree are,
and keeping it changes no other file; where it cannot be kept no file is changed at all. -/
theorem archive_confined (email : String) :
    (Path.IsName (archiveName email) ↔ '/' ∉ email.toList) ∧
    ('/' ∉ email.toList → ∀ (folder html : String) (tree after : FileTree),
      (∀ path, tree.archive folder email html = (.ok path, after) →
        path = Path.join folder (archiveName email) ∧
        ∃ home, after.locate (.ofText folder) = .ok home ∧ after.lookup? home = some .folder ∧
          after.locate (.ofText path) = .ok (home ++ [archiveName email]) ∧
          after.lookup? (home ++ [archiveName email]) = some (.file html.toUTF8) ∧
          tree.Extends after [home ++ [archiveName email]]) ∧
      ∀ fault, tree.archive folder email html = (.error fault, after) → tree.Extends after []) := by
  refine ⟨isName_archiveName_iff, ?_⟩
  intro absent folder html tree after
  constructor
  · intro path kept
    rcases FileTree.archive_cases kept with ⟨same, place, found, held, grown⟩ | ⟨_, same, _⟩
    · cases same
      obtain ⟨home, reached, opened, rfl⟩ :=
        FileTree.locate_join (isName_archiveName_iff.mpr absent) found
      exact ⟨rfl, home, reached, opened, found, held, grown⟩
    · cases same
  · intro fault refused
    rcases FileTree.archive_cases refused with ⟨same, _⟩ | ⟨_, _, unchanged⟩
    · cases same
    · exact unchanged

namespace Sample

/-- A tree with a folder of copies, one for something else in it, and a folder beside it. -/
def folders : FileTree := ⟨[], [(["copies"], .folder), (["copies", "old"], .folder), (["etc"], .folder)]⟩

/-- The archive folder may be written with a slash at its end. -/
theorem archive_confined_ann :
    ∃ after home, folders.archive "copies/" "ann@example.org" "<p>" =
        (.ok "copies/ann_example_org.html", after) ∧
      after.locate (.ofText "copies/") = .ok home ∧
      after.lookup? (home ++ ["ann_example_org.html"]) = some (.file "<p>".toUTF8) := by
  have kept : (folders.archive "copies/" "ann@example.org" "<p>").1 =
      .ok "copies/ann_example_org.html" := by decide +kernel
  have name : archiveName "ann@example.org" = "ann_example_org.html" := by decide +kernel
  rcases archived : folders.archive "copies/" "ann@example.org" "<p>" with ⟨answer, after⟩
  rw [archived] at kept
  obtain rfl : answer = .ok "copies/ann_example_org.html" := kept
  obtain ⟨-, confined⟩ := archive_confined "ann@example.org"
  obtain ⟨-, home, reached, -, -, held, -⟩ :=
    (confined (by decide) "copies/" "<p>" folders after).1 _ archived
  rw [name] at held
  exact ⟨after, home, rfl, reached, held⟩

/-- An address with a slash takes its copy out of the archive folder, to a folder below it or
anywhere. -/
theorem archive_leaves_folder :
    let below := "old/ann@example.org"
    let elsewhere := "/etc/ann@example.org"
    Text.isBlankText below = false ∧ '/' ∈ (archiveName below).toList ∧
      (folders.archive "copies" below "<p>").1 = .ok "copies/old/ann_example_org.html" ∧
      (folders.archive "copies" below "<p>").2.lookup? ["copies", "old", "ann_example_org.html"] =
        some (.file "<p>".toUTF8) ∧
    Text.isBlankText elsewhere = false ∧ (archiveName elsewhere).toList.head? = some '/' ∧
      (folders.archive "copies" elsewhere "<p>").1 = .ok "/etc/ann_example_org.html" ∧
      (folders.archive "copies" elsewhere "<p>").2.lookup? ["etc", "ann_example_org.html"] =
        some (.file "<p>".toUTF8) := by
  decide +kernel

end Sample
end DueReminders
