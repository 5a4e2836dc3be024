import DueReminders.Proofs.Json.WellFormed
import DueReminders.Proofs.Run.Gathering
import DueReminders.Site.Client

/-! What becomes of the rows of a list. A row is an item when it has an id, whatever the other rows
are, and its data columns with a shown form are the item's fields. The id is looked for under `Id`
and, where there is no such column, under `ID`; so an id under `ID` is passed over where the column
`Id` is there but holds none. -/
namespace DueReminders

theorem Json.int64?_eq_some_iff {value : Json} (wellFormed : value.WellFormed) {number : Int} :
    value.int64? = some number ↔
      value = .number (.integer number) ∧ Number.IntegerRange.signed64.Contains number := by
  cases wellFormed with
  | @integer whole least most =>
    simp only [int64?, Json.number.injEq, Number.integer.injEq]
    split
    · next small =>
      rw [Option.some.injEq]
      exact ⟨fun same => ⟨same, same ▸ ⟨least, small⟩⟩, fun parts => parts.1⟩
    · next large =>
      constructor
      · intro none
        cases none
      · rintro ⟨rfl, -, bounded⟩
        exact absurd bounded large
  | null | boolean | real | text | array | object => simp [int64?]

namespace Row

/-- The column holds a whole number of 64 bits with a sign. -/
def Holds (row : Row) (name : String) (id : Int) : Prop :=
  (name, Json.number (.integer id)) ∈ row ∧ Number.IntegerRange.signed64.Contains id

/-- The id of a row, under `Id`, or under `ID` where there is no column `Id`. -/
inductive Identified (row : Row) (id : Int) : Prop where
  | first (held : row.Holds "Id" id) : Identified row id
  | second (absent : "Id" ∉ row.map Prod.fst) (held : row.Holds "ID" id) : Identified row id

/-- The fields of the item are the columns of the row that hold data and have a shown form. -/
def Shows (zone : Zone) (row : Row) (item : Item) : Prop :=
  ∀ name field, item.get? name = some field ↔
    ∃ value, (name, value) ∈ row ∧ ¬"odata.".toList <+: name.toList ∧ ¬"__".toList <+: name.toList ∧
      Field.ofJson? zone value = some field

/-- From the first row to the last, each row with an id is one item and each row without one is
none. -/
inductive Fetched (zone : Zone) : List Row → List Item → Prop where
  | nil : Fetched zone [] []
  | kept {row : Row} {rows : List Row} {item : Item} {items : List Item}
      (identified : row.Identified item.id) (shows : row.Shows zone item)
      (others : Fetched zone rows items) : Fetched zone (row :: rows) (item :: items)
  | dropped {row : Row} {rows : List Row} {items : List Item} (unidentified : ∀ id, ¬row.Identified id)
      (others : Fetched zone rows items) : Fetched zone (row :: rows) items

variable {row : Row} {rows : List Row} {name : String} {value : Json} {id : Int} {zone : Zone}

theorem lookup_eq_some_iff (distinct : (row.map Prod.fst).Nodup) :
    row.lookup name = some value ↔ (name, value) ∈ row := by
  induction row with
  | nil => simp
  | cons head rest ih =>
    obtain ⟨key, held⟩ := head
    rw [List.map_cons, List.nodup_cons] at distinct
    rw [List.lookup_cons, List.mem_cons]
    by_cases here : name = key
    · subst here
      have absent : (name, value) ∉ rest := fun member => distinct.1 (List.mem_map.mpr ⟨_, member, rfl⟩)
      simp [absent, eq_comm]
    · have passed : (name == key) = false := by simpa using here
      simp [passed, here, ih distinct.2]

theorem lookup_bind_int64? (wellFormed : (Json.object row).WellFormed) :
    (row.lookup name).bind Json.int64? = some id ↔ row.Holds name id := by
  cases wellFormed with
  | object distinct each =>
    rw [Option.bind_eq_some_iff]
    constructor
    · rintro ⟨value, found, read⟩
      have member := (lookup_eq_some_iff distinct).mp found
      obtain ⟨rfl, within⟩ := (Json.int64?_eq_some_iff (each _ member)).mp read
      exact ⟨member, within⟩
    · rintro ⟨member, within⟩
      exact ⟨_, (lookup_eq_some_iff distinct).mpr member,
        (Json.int64?_eq_some_iff (each _ member)).mpr ⟨rfl, within⟩⟩

theorem lookup_eq_none_iff : row.lookup name = none ↔ name ∉ row.map Prod.fst := by
  simp only [List.lookup_eq_none_iff, bne_iff_ne, List.mem_map, not_exists, not_and, ne_eq]
  exact forall₂_congr fun column _ => not_congr eq_comm

theorem id?_eq_some_iff (wellFormed : (Json.object row).WellFormed) :
    row.id? = some id ↔ row.Identified id := by
  have first : (row.lookup "Id").bind Json.int64? = some id ↔ row.Holds "Id" id :=
    lookup_bind_int64? wellFormed
  have second : (row.lookup "ID").bind Json.int64? = some id ↔ row.Holds "ID" id :=
    lookup_bind_int64? wellFormed
  rw [id?]
  cases here : row.lookup "Id" with
  | none =>
    rw [Option.none_or, second]
    constructor
    · intro held
      exact .second (lookup_eq_none_iff.mp here) held
    · intro identified
      cases identified with
      | first held => exact absurd (List.mem_map_of_mem held.1) (lookup_eq_none_iff.mp here)
      | second absent held => exact held
  | some value =>
    rw [Option.some_or, ← here, first]
    constructor
    · exact .first
    · intro identified
      cases identified with
      | first held => exact held
      | second absent held =>
        rw [lookup_eq_none_iff.mpr absent] at here
        cases here

theorem isAnnotation_eq_false_iff :
    isAnnotation name = false ↔ ¬"odata.".toList <+: name.toList ∧ ¬"__".toList <+: name.toList := by
  unfold isAnnotation
  simp [← List.isPrefixOf_iff_prefix]

/-- The column as a field, if it holds data and has a shown form. -/
def field? (zone : Zone) (column : String × Json) : Option (String × Field) :=
  if isAnnotation column.1 then none else (Field.ofJson? zone column.2).map (column.1, ·)

theorem field?_eq_some_iff {column : String × Json} {field : Field} :
    field? zone column = some (name, field) ↔
      column.1 = name ∧ isAnnotation name = false ∧ Field.ofJson? zone column.2 = some field := by
  obtain ⟨key, value⟩ := column
  simp only [field?]
  split
  · next marked =>
    constructor
    · intro none
      cases none
    · rintro ⟨rfl, unmarked, -⟩
      cases unmarked.symm.trans marked
  · next unmarked =>
    rw [Option.map_eq_some_iff]
    constructor
    · rintro ⟨shown, made, same⟩
      cases same
      exact ⟨rfl, Bool.eq_false_iff.mpr unmarked, made⟩
    · rintro ⟨rfl, -, made⟩
      exact ⟨field, made, rfl⟩

theorem distinct_fields (distinct : (row.map Prod.fst).Nodup) (zone : Zone) :
    ((row.filterMap (field? zone)).map Prod.fst).Nodup := by
  induction row with
  | nil => simp
  | cons head rest ih =>
    rw [List.map_cons, List.nodup_cons] at distinct
    rw [List.filterMap_cons]
    split
    · exact ih distinct.2
    · next column made =>
      obtain ⟨same, -, -⟩ := field?_eq_some_iff.mp made
      refine List.nodup_cons.mpr ⟨fun again => distinct.1 ?_, ih distinct.2⟩
      obtain ⟨other, member, equal⟩ := List.mem_map.mp again
      obtain ⟨source, present, read⟩ := List.mem_filterMap.mp member
      obtain ⟨named, -, -⟩ := field?_eq_some_iff.mp read
      exact List.mem_map.mpr ⟨source, present, by rw [named, equal, same]⟩

theorem get?_fields (distinct : (row.map Prod.fst).Nodup) {field : Field} :
    (row.fields zone).get? name = some field ↔
      ∃ value, (name, value) ∈ row ∧ isAnnotation name = false ∧
        Field.ofJson? zone value = some field := by
  have gathered : row.fields zone = Record.ofList (row.filterMap (field? zone)) := rfl
  rw [gathered, Record.get?_ofList (distinct_fields distinct zone), List.mem_filterMap]
  constructor
  · rintro ⟨⟨key, value⟩, member, made⟩
    obtain ⟨rfl, parts⟩ := field?_eq_some_iff.mp made
    exact ⟨value, member, parts⟩
  · rintro ⟨value, member, parts⟩
    exact ⟨(name, value), member, field?_eq_some_iff.mpr ⟨rfl, parts⟩⟩

theorem shows_fields (wellFormed : (Json.object row).WellFormed) (id : Int) :
    row.Shows zone ⟨id, row.fields zone⟩ := by
  cases wellFormed with
  | object distinct each =>
    intro name field
    rw [Item.get?, get?_fields distinct]
    simp only [isAnnotation_eq_false_iff, and_assoc]

theorem fetched_items (wellFormed : ∀ row ∈ rows, (Json.object row).WellFormed) :
    Fetched zone rows (items zone rows) := by
  induction rows with
  | nil => exact .nil
  | cons row rows ih =>
    obtain ⟨here, later⟩ := List.forall_mem_cons.mp wellFormed
    rw [items]
    cases read : row.id? with
    | some id =>
      have made : (row.item zone).toOption = some ⟨id, row.fields zone⟩ := by rw [item, read]; rfl
      rw [List.filterMap_cons, made]
      exact .kept ((id?_eq_some_iff here).mp read) (shows_fields here id) (ih later)
    | none =>
      have made : (row.item zone).toOption = none := by rw [item, read]; rfl
      rw [List.filterMap_cons, made]
      refine .dropped (fun id identified => ?_) (ih later)
      cases read.symm.trans ((id?_eq_some_iff here).mpr identified)

/-- An id is passed over exactly where it stands under `ID` and there is a column `Id` that holds
none. -/
theorem passed_over_iff :
    ((∃ id, row.Holds "Id" id ∨ row.Holds "ID" id) ∧ ∀ id, ¬row.Identified id) ↔
      "Id" ∈ row.map Prod.fst ∧ (∀ id, ¬row.Holds "Id" id) ∧ ∃ id, row.Holds "ID" id := by
  constructor
  · rintro ⟨⟨id, held⟩, unidentified⟩
    have none (id : Int) : ¬row.Holds "Id" id := fun first => unidentified id (.first first)
    have second := held.resolve_left (none id)
    refine ⟨?_, none, id, second⟩
    by_contra absent
    exact unidentified id (.second absent second)
  · rintro ⟨present, none, id, second⟩
    refine ⟨⟨id, .inr second⟩, fun other identified => ?_⟩
    cases identified with
    | first held => exact none other held
    | second absent held => exact absent present

/-- Every row with an id is one item with the row's own fields, in the order of the rows, and only
rows without one are none. A row that holds an id is taken for one without exactly when the id
stands under `ID` and the column `Id` is there but holds none. -/
theorem items_account (wellFormed : ∀ row ∈ rows, (Json.object row).WellFormed) (zone : Zone) :
    Fetched zone rows (items zone rows) ∧
    ∀ row ∈ rows, ((∃ id, row.Holds "Id" id ∨ row.Holds "ID" id) ∧ ∀ id, ¬row.Identified id) ↔
      "Id" ∈ row.map Prod.fst ∧ (∀ id, ¬row.Holds "Id" id) ∧ ∃ id, row.Holds "ID" id :=
  ⟨fetched_items wellFormed, fun _ _ => passed_over_iff⟩

end Row

namespace Sample

/-- Rows as a site sends them: one with both ids, one with the second alone, and one without any. -/
def sentRows : List Row :=
  [[("ID", .number (.integer 5)), ("Id", .number (.integer 3)), ("odata.type", .text "Task")],
    [("ID", .number (.integer 4)), ("Title", .text "Pay")],
    [("Id", .text "6"), ("Title", .text "Print")]]

theorem wellFormed_sentRows : ∀ row ∈ sentRows, (Json.object row).WellFormed := by
  have number (value : Int) (small : 0 ≤ value ∧ value < 10) :
      (Json.number (.integer value)).WellFormed := .integer (by omega) (by omega)
  simp only [sentRows, List.forall_mem_cons]
  refine ⟨.object (by decide) ?_, .object (by decide) ?_, .object (by decide) ?_, by simp⟩
  all_goals simp [number, Json.WellFormed.text]

/-- The rows with an id, and their ids in order. -/
theorem items_account_sentRows :
    (∀ row ∈ sentRows, (Json.object row).WellFormed) ∧
    Row.Fetched (.universal "UTC") sentRows (Row.items (.universal "UTC") sentRows) ∧
    (Row.items (.universal "UTC") sentRows).map Item.id = [3, 4] := by
  obtain ⟨fetched, -⟩ := Row.items_account wellFormed_sentRows (.universal "UTC")
  exact ⟨wellFormed_sentRows, fetched, by decide⟩

/-- A row with an id under `ID` is no item, because its column `Id` is null. -/
theorem row_with_id_dropped :
    let row : Row := [("ID", .number (.integer 7)), ("Id", .null), ("Title", .text "Call")]
    (Json.object row).WellFormed ∧ row.Holds "ID" 7 ∧ (∀ id, ¬row.Holds "Id" id) ∧
      Row.items (.universal "UTC") [row] = [] := by
  refine ⟨.object (by decide) ?_, ⟨by simp, by decide⟩, ?_, rfl⟩
  · simp only [List.forall_mem_cons]
    exact ⟨.integer (by decide) (by decide), .null, .text "Call", by simp⟩
  · rintro id ⟨member, -⟩
    simp at member

end Sample

namespace Site

variable {σ α : Type} {settings : Settings} {transport : Transport σ} {before after : σ}

theorem answer_of_fetch {credentials : Credentials} {address : String} {decode : Json → Option α}
    {value : α}
    (done : (fetch credentials transport address decode).run.run before = (.ok value, after)) :
    ∃ request status body answer, Request.make credentials address = .ok request ∧
      (transport request).run before = (.answer status (some body), after) ∧
      isSuccess status = true ∧ Json.read? body = some answer ∧ decode answer = some value := by
  obtain ⟨request, ready, made, done⟩ := Call.exists_of_bind_eq_ok done
  obtain ⟨reply, last, replied, done⟩ := Call.exists_of_bind_eq_ok done
  cases ask : Request.make credentials address with
  | error fault =>
    rw [ask] at made
    cases made
  | ok asked =>
    rw [ask] at made
    cases made
    cases replied
    cases told : (transport request before).1 with
    | silence =>
      rw [told] at done
      cases done
    | answer status body =>
      rw [told] at done
      dsimp only at done
      split at done
      · next success =>
        split at done
        · next found =>
          cases done
          obtain ⟨answer, parsed, decoded⟩ := Option.bind_eq_some_iff.mp found
          obtain ⟨content, rfl, parsed⟩ := Option.bind_eq_some_iff.mp parsed
          exact ⟨request, status, content, answer, rfl, Prod.ext told rfl, success, parsed, decoded⟩
        · cases done
      · cases done

theorem wellFormed_of_member? {name : String} {answer value : Json} (wellFormed : answer.WellFormed)
    (found : (member? name answer).join = some value) : value.WellFormed := by
  cases wellFormed with
  | object distinct each =>
    exact each _ ((Row.lookup_eq_some_iff distinct).mp found)
  | @array elements each =>
    match elements with
    | [] => cases found
    | [element] =>
      cases found
      exact each _ List.mem_cons_self
    | _ :: _ :: _ => cases found
  | null | boolean | integer | real | text => cases found

theorem objects_of_mapM_row? {values : List Json} {rows : List Row} (done : values.mapM row? = some rows) :
    ∀ row ∈ rows, .object row ∈ values := by
  induction values generalizing rows with
  | nil =>
    cases done
    simp
  | cons value values ih =>
    rw [List.mapM_cons] at done
    obtain ⟨row, read, done⟩ := Option.bind_eq_some_iff.mp done
    obtain ⟨others, later, done⟩ := Option.bind_eq_some_iff.mp done
    cases done
    cases value with
    | object members =>
      cases read
      exact List.forall_mem_cons.mpr
        ⟨List.mem_cons_self, fun other member => List.mem_cons_of_mem _ (ih later other member)⟩
    | null | boolean | number | text | array => cases read

theorem wellFormed_of_rows? {answer : Json} (wellFormed : answer.WellFormed) {rows : List Row}
    (done : rows? answer = some rows) : ∀ row ∈ rows, (Json.object row).WellFormed := by
  unfold rows? at done
  split at done
  · next values found =>
    cases wellFormed_of_member? wellFormed found with
    | array each => exact fun row member => each _ (objects_of_mapM_row? done row member)
  · cases done

/-- Every row of the answer that holds the items is accounted for. -/
theorem fetched_of_fetchItems {items : List Item}
    (done : (source settings transport).fetchItems.run.run before = (.ok items, after)) :
    ∃ request status body answer rows,
      Request.make settings.credentials (itemsUrl settings.siteUrl settings.listTitle settings.maxItems
        settings.assigneeField) = .ok request ∧
      (transport request).run before = (.answer status (some body), after) ∧
      isSuccess status = true ∧ Json.read? body = some answer ∧ rows? answer = some rows ∧
      Row.Fetched settings.zone rows items := by
  obtain ⟨rows, last, fetched, done⟩ := Call.exists_of_bind_eq_ok done
  cases done
  obtain ⟨request, status, body, answer, made, told, success, read, decoded⟩ := answer_of_fetch fetched
  exact ⟨request, status, body, answer, rows, made, told, success, read, decoded,
    Row.fetched_items (wellFormed_of_rows? (Json.wellFormed_of_read? read) decoded)⟩

end Site

end DueReminders
