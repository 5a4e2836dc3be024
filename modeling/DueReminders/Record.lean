/-! Values by name, each name at most once, in the order the names were first written. -/
namespace DueReminders

structure Record (α : Type) where
  entries : List (String × α)
  distinct : (entries.map Prod.fst).Nodup

namespace Record

variable {α β : Type}

instance [DecidableEq α] : DecidableEq (Record α) := fun a b =>
  if same : a.entries = b.entries then
    .isTrue (by cases a; cases b; cases same; rfl)
  else .isFalse fun equal => same (equal ▸ rfl)

def empty : Record α := ⟨[], List.nodup_nil⟩

/-- The value of the first pair with the name. -/
def read? (name : String) : List (String × α) → Option α
  | [] => none
  | (head, value) :: rest => if head = name then some value else read? name rest

def get? (record : Record α) (name : String) : Option α := read? name record.entries

def names (record : Record α) : List String := record.entries.map Prod.fst

private def write (entries : List (String × α)) (name : String) (value : α) : List (String × α) :=
  match entries with
  | [] => [(name, value)]
  | (head, old) :: rest =>
    if head = name then (head, value) :: rest else (head, old) :: write rest name value

private theorem mem_names_write {entries : List (String × α)} {name other : String} {value : α} :
    other ∈ (write entries name value).map Prod.fst ↔
      other ∈ entries.map Prod.fst ∨ other = name := by
  induction entries with
  | nil => simp [write]
  | cons head rest ih =>
    simp only [write]
    split
    · next same =>
      subst same
      simp only [List.map_cons, List.mem_cons]
      constructor
      · rintro (here | later)
        · exact .inl (.inl here)
        · exact .inl (.inr later)
      · rintro ((here | later) | here)
        · exact .inl here
        · exact .inr later
        · exact .inl here
    · simp only [List.map_cons, List.mem_cons, ih, or_assoc]

private theorem nodup_write {entries : List (String × α)} {name : String} {value : α}
    (distinct : (entries.map Prod.fst).Nodup) : ((write entries name value).map Prod.fst).Nodup := by
  induction entries with
  | nil => simp [write]
  | cons head rest ih =>
    simp only [List.map_cons, List.nodup_cons] at distinct
    simp only [write]
    split
    · simpa using distinct
    · next other =>
      rw [List.map_cons, List.nodup_cons, mem_names_write]
      refine ⟨?_, ih distinct.2⟩
      rintro (again | same)
      · exact distinct.1 again
      · exact other same

/-- A name written again keeps its place and gets the new value. -/
def insert (record : Record α) (name : String) (value : α) : Record α :=
  ⟨write record.entries name value, nodup_write record.distinct⟩

/-- The record of a list of pairs; of equal names the last one counts. -/
def ofList (pairs : List (String × α)) : Record α :=
  pairs.foldl (fun record (name, value) => record.insert name value) empty

/-- Keep and convert the values that `convert` answers for. -/
def filterMap (convert : String → α → Option β) (record : Record α) : Record β where
  entries := record.entries.filterMap fun (name, value) => (convert name value).map (name, ·)
  distinct := by
    have kept : ((record.entries.filterMap fun (name, value) =>
        (convert name value).map (name, ·)).map Prod.fst).Sublist (record.entries.map Prod.fst) := by
      generalize record.entries = entries
      induction entries with
      | nil => exact .slnil
      | cons head rest ih =>
        cases answer : convert head.1 head.2 with
        | none => simpa [List.filterMap_cons, answer] using ih.cons head.1
        | some value => simpa [List.filterMap_cons, answer] using ih
    exact kept.nodup record.distinct

def map (convert : α → β) (record : Record α) : Record β :=
  record.filterMap fun _ value => convert value

@[simp] theorem get?_empty (name : String) : (empty : Record α).get? name = none := rfl

theorem read?_eq_none {name : String} {entries : List (String × α)}
    (absent : name ∉ entries.map Prod.fst) : read? name entries = none := by
  induction entries with
  | nil => rfl
  | cons head rest ih =>
    simp only [List.map_cons, List.mem_cons, not_or] at absent
    rw [read?, if_neg (Ne.symm absent.1), ih absent.2]

/-- Writing a name changes what that name reads as and nothing else. -/
theorem get?_insert (record : Record α) (name other : String) (value : α) :
    (record.insert name value).get? other = if other = name then some value else record.get? other := by
  obtain ⟨entries, distinct⟩ := record
  simp only [insert, get?]
  clear distinct
  induction entries with
  | nil => by_cases same : name = other <;> simp [write, read?, same, eq_comm]
  | cons head rest ih =>
    simp only [write]
    split
    · next written =>
      subst written
      by_cases same : head.1 = other
      · simp [read?, same]
      · simp [read?, same, Ne.symm same]
    · next written =>
      by_cases here : head.1 = other
      · subst here
        simp [read?, written]
      · simp [read?, here, ih]

private theorem names_write (entries : List (String × α)) (name : String) (value : α) :
    (write entries name value).map Prod.fst =
      if name ∈ entries.map Prod.fst then entries.map Prod.fst
      else entries.map Prod.fst ++ [name] := by
  induction entries with
  | nil => simp [write]
  | cons head rest ih =>
    simp only [write]
    split
    · next same => simp [same]
    · next other =>
      rw [List.map_cons, ih]
      by_cases member : name ∈ rest.map Prod.fst
      · simp only [List.map_cons, member, if_true, List.mem_cons, or_true]
      · simp only [List.map_cons, member, if_false, List.mem_cons, or_false, Ne.symm other,
          List.cons_append]

theorem names_insert (record : Record α) (name : String) (value : α) :
    (record.insert name value).names =
      if name ∈ record.names then record.names else record.names ++ [name] :=
  names_write record.entries name value

/-- A name reads as a value exactly when the pair is an entry. -/
theorem get?_eq_some_iff (record : Record α) {name : String} {value : α} :
    record.get? name = some value ↔ (name, value) ∈ record.entries := by
  obtain ⟨entries, distinct⟩ := record
  simp only [get?]
  induction entries with
  | nil => simp [read?]
  | cons head rest ih =>
    simp only [List.map_cons, List.nodup_cons] at distinct
    by_cases here : head.1 = name
    · subst here
      have absent : (head.1, value) ∉ rest := fun member =>
        distinct.1 (List.mem_map.mpr ⟨_, member, rfl⟩)
      simp [read?, absent, Prod.ext_iff, eq_comm]
    · have apart : (name, value) ≠ head := fun same => here (by rw [← same])
      simp [read?, here, apart, ih distinct.2]

/-- Of names that are written once each, every one reads as what was written. -/
theorem get?_foldl_insert {pairs : List (String × α)} (distinct : (pairs.map Prod.fst).Nodup)
    (record : Record α) (name : String) :
    (pairs.foldl (fun record (name, value) => record.insert name value) record).get? name =
      (read? name pairs).or (record.get? name) := by
  induction pairs generalizing record with
  | nil => rfl
  | cons head rest ih =>
    rw [List.map_cons, List.nodup_cons] at distinct
    rw [List.foldl_cons, ih distinct.2, get?_insert]
    by_cases here : head.1 = name
    · subst here
      simp [read?, read?_eq_none distinct.1]
    · simp [read?, here, Ne.symm here]

theorem get?_ofList {pairs : List (String × α)} (distinct : (pairs.map Prod.fst).Nodup) {name : String}
    {value : α} : (ofList pairs).get? name = some value ↔ (name, value) ∈ pairs := by
  rw [ofList, get?_foldl_insert distinct, get?_empty, Option.or_none]
  exact get?_eq_some_iff ⟨pairs, distinct⟩

theorem get?_filterMap (convert : String → α → Option β) (record : Record α) (name : String) :
    (record.filterMap convert).get? name = (record.get? name).bind (convert name) := by
  obtain ⟨entries, distinct⟩ := record
  simp only [filterMap, get?]
  induction entries with
  | nil => rfl
  | cons head rest ih =>
    simp only [List.map_cons, List.nodup_cons] at distinct
    have later := ih distinct.2
    by_cases here : head.1 = name
    · subst here
      rw [read?_eq_none distinct.1] at later
      cases answer : convert head.1 head.2 <;> simp [answer, read?]
      simpa using later
    · cases answer : convert head.1 head.2 <;> simpa [answer, read?, here] using later

end Record
end DueReminders
