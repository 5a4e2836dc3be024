import DueReminders.Json.Reader
import Mathlib.Order.Basic
import Mathlib.Data.String.Basic

/-! Values that reading makes. The members of an object have different names, and whole numbers have
64 bits, with or without a sign. -/
namespace DueReminders.Json

inductive WellFormed : Json → Prop where
  | null : WellFormed .null
  | boolean (value : Bool) : WellFormed (.boolean value)
  | integer {value : Int} (least : -9223372036854775808 ≤ value) (most : value ≤ 18446744073709551615) :
      WellFormed (.number (.integer value))
  | real (negative : Bool) (magnitude : DueReminders.Number.Binary64) :
      WellFormed (.number (.real negative magnitude))
  | text (content : String) : WellFormed (.text content)
  | array {elements : List Json} (each : ∀ element ∈ elements, WellFormed element) :
      WellFormed (.array elements)
  | object {members : Members} (distinct : (members.map Prod.fst).Nodup)
      (each : ∀ member ∈ members, WellFormed member.2) : WellFormed (.object members)

namespace Members

variable {name : String} {value : Json} {members : Members} {member : String × Json}

theorem eq_or_mem_of_mem_insert (present : member ∈ members.insert name value) :
    member = (name, value) ∨ member ∈ members := by
  induction members with
  | nil => exact .inl (List.mem_singleton.mp present)
  | cons head rest ih =>
    simp only [insert] at present
    split at present
    · exact List.mem_cons.mp present
    · split at present
      · rcases List.mem_cons.mp present with here | later
        · exact .inl here
        · exact .inr (List.mem_cons_of_mem head later)
      · rcases List.mem_cons.mp present with here | later
        · exact .inr (here ▸ List.mem_cons_self)
        · exact (ih later).imp_right (List.mem_cons_of_mem head)

theorem sorted_insert (sorted : members.Pairwise fun a b => a.1 < b.1) (name : String) (value : Json) :
    (members.insert name value).Pairwise fun a b => a.1 < b.1 := by
  induction members with
  | nil => simp [insert]
  | cons head rest ih =>
    obtain ⟨first, later⟩ := List.pairwise_cons.mp sorted
    simp only [insert]
    split
    · next before =>
      refine List.pairwise_cons.mpr ⟨?_, sorted⟩
      intro other present
      rcases List.mem_cons.mp present with rfl | behind
      · exact before
      · exact before.trans (first other behind)
    · next notBefore =>
      split
      · next same => exact List.pairwise_cons.mpr ⟨fun other behind => same ▸ first other behind, later⟩
      · next other =>
        have after : head.1 < name := lt_of_le_of_ne (not_lt.mp notBefore) (Ne.symm other)
        refine List.pairwise_cons.mpr ⟨?_, ih later⟩
        intro next present
        rcases eq_or_mem_of_mem_insert present with rfl | behind
        · exact after
        · exact first next behind

theorem foldl_insert_spec (added : List (String × Json)) {sorted : Members}
    (order : sorted.Pairwise fun a b => a.1 < b.1) :
    let result := added.foldl (fun sorted (name, value) => Members.insert name value sorted) sorted
    (result.Pairwise fun a b => a.1 < b.1) ∧ ∀ member ∈ result, member ∈ sorted ∨ member ∈ added := by
  induction added generalizing sorted with
  | nil => exact ⟨order, fun member present => .inl present⟩
  | cons head rest ih =>
    obtain ⟨kept, known⟩ := ih (sorted_insert order head.1 head.2)
    refine ⟨kept, fun member present => ?_⟩
    rcases known member present with old | later
    · rcases eq_or_mem_of_mem_insert old with here | earlier
      · exact .inr (here ▸ List.mem_cons_self)
      · exact .inl earlier
    · exact .inr (List.mem_cons_of_mem head later)

theorem distinct_ofList (members : List (String × Json)) :
    ((ofList members).map Prod.fst).Nodup := by
  obtain ⟨order, -⟩ := foldl_insert_spec members List.Pairwise.nil
  exact List.pairwise_map.mpr (order.imp fun before => before.ne)

theorem mem_of_mem_ofList {members : List (String × Json)} (present : member ∈ ofList members) :
    member ∈ members := by
  obtain ⟨-, known⟩ := foldl_insert_spec members List.Pairwise.nil
  exact (known member present).resolve_left List.not_mem_nil

end Members

section

open DueReminders.Text (Taker)

variable {text rest : List Char} {limit : Nat}

theorem Numeral.gather_le (digits : List Char) {value : Nat} (small : value ≤ significandLimit) :
    (gather value digits).1 ≤ significandLimit := by
  induction digits generalizing value with
  | nil => exact small
  | cons c digits ih =>
    simp only [gather]
    split
    · next fits => exact ih fits
    · exact small

theorem Numeral.wellFormed_number? {numeral : Numeral} {value : Number}
    (done : numeral.number? = some value) : WellFormed (.number value) := by
  have bounded := gather_le numeral.whole (Nat.zero_le significandLimit)
  have real {value : Number} (done : numeral.real? = some value) : WellFormed (.number value) := by
    obtain ⟨magnitude, -, rfl⟩ := Option.map_eq_some_iff.mp done
    exact .real numeral.negative magnitude
  unfold number? at done
  rcases gathered : gather 0 numeral.whole with ⟨whole, left⟩
  rw [gathered] at done bounded
  simp only [significandLimit] at done bounded
  split at done
  · exact real done
  · split at done
    · cases done
      exact .integer (by omega) (by omega)
    · split at done
      · exact real done
      · cases done
        exact .integer (by omega) (by omega)

/-- Whatever is taken has the property. -/
def Ensures {α : Type} (taker : Taker α) (property : α → Prop) : Prop :=
  ∀ {text value rest}, taker text = some (value, rest) → property value

variable {α : Type} {property : α → Prop} {element : Taker α} {close : Char}

theorem ensures_takeElements? (each : Ensures element property) {taken values : List α}
    (before : ∀ value ∈ taken, property value)
    (done : takeElements? close element taken limit text = some (values, rest)) :
    ∀ value ∈ values, property value := by
  induction limit generalizing taken text with
  | zero => cases done
  | succ limit ih =>
    simp only [takeElements?] at done
    split at done
    · cases done
    · next value left here =>
      have extended : ∀ other ∈ value :: taken, property other :=
        List.forall_mem_cons.mpr ⟨each here, before⟩
      split at done
      · cases done
      · split at done
        · cases done
          exact fun other member => extended other (List.mem_reverse.mp member)
        · split at done
          · exact ih extended done
          · cases done

theorem ensures_takeAll? (each : Ensures element property) :
    Ensures (takeAll? close element limit) fun values => ∀ value ∈ values, property value := by
  intro text values rest done
  unfold takeAll? at done
  split at done
  · cases done
  · split at done
    · cases done
      simp
    · exact ensures_takeElements? each (by simp) done

theorem ensures_takeMember? {value : Taker Json} (each : Ensures value WellFormed) :
    Ensures (takeMember? value limit) fun member => WellFormed member.2 := by
  intro text member rest done
  unfold takeMember? at done
  split at done
  · obtain ⟨⟨name, left⟩, -, done⟩ := Option.bind_eq_some_iff.mp done
    dsimp only at done
    split at done
    · obtain ⟨⟨content, left⟩, here, done⟩ := Option.bind_eq_some_iff.mp done
      cases done
      exact each here
    · cases done
  · cases done

/-- What is read inside containers decides about the containers. -/
theorem ensures_takeWith? {nested : Option (Taker Json)}
    (each : ∀ taker, nested = some taker → Ensures taker WellFormed) :
    Ensures (takeWith? nested limit) WellFormed := by
  intro text value rest done
  unfold takeWith? at done
  split at done
  · cases done
    exact .null
  · cases done
    exact .boolean true
  · cases done
    exact .boolean false
  · obtain ⟨⟨content, left⟩, -, done⟩ := Option.map_eq_some_iff.mp done
    cases done
    exact .text content
  · obtain ⟨taker, known, done⟩ := Option.bind_eq_some_iff.mp done
    obtain ⟨⟨elements, left⟩, taken, done⟩ := Option.map_eq_some_iff.mp done
    cases done
    exact .array (ensures_takeAll? (each taker known) taken)
  · obtain ⟨taker, known, done⟩ := Option.bind_eq_some_iff.mp done
    obtain ⟨⟨members, left⟩, taken, done⟩ := Option.map_eq_some_iff.mp done
    cases done
    have sound := ensures_takeAll? (ensures_takeMember? (each taker known)) taken
    exact .object (Members.distinct_ofList members) fun member present =>
      sound member (Members.mem_of_mem_ofList present)
  · obtain ⟨⟨numeral, left⟩, -, done⟩ := Option.bind_eq_some_iff.mp done
    obtain ⟨number, named, done⟩ := Option.bind_eq_some_iff.mp done
    cases done
    exact numeral.wellFormed_number? named

theorem ensures_takeValue? (depth : Nat) : Ensures (takeValue? limit depth) WellFormed := by
  induction depth with
  | zero =>
    rw [takeValue?]
    exact ensures_takeWith? (by simp)
  | succ depth ih =>
    rw [takeValue?]
    refine ensures_takeWith? fun taker known => ?_
    cases known
    exact ih

theorem wellFormed_of_read? {content : String} {value : Json} (done : read? content = some value) :
    value.WellFormed := by
  unfold read? at done
  split at done
  · next taken =>
    split at done
    · cases done
      exact ensures_takeValue? depthLimit taken
    · cases done
  · cases done

end

end DueReminders.Json
