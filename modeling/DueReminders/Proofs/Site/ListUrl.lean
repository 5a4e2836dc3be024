import DueReminders.Proofs.Text.Passing
import DueReminders.Proofs.Url.Percent
import DueReminders.Site.Endpoint
import Mathlib.Data.List.DropRight

/-! The address of a list. Whatever a title holds, quotes and percent signs included, it stays
between the quotes of the address, and can be read back from there. -/
namespace DueReminders.Site

/-- The second text has every quote of the first one twice, and all else as it is. -/
inductive Doubled : List Char → List Char → Prop where
  | nil : Doubled [] []
  | quote {text quoted : List Char} (later : Doubled text quoted) :
      Doubled ('\x27' :: text) ('\x27' :: '\x27' :: quoted)
  | other {c : Char} {text quoted : List Char} (differs : c ≠ '\x27') (later : Doubled text quoted) :
      Doubled (c :: text) (c :: quoted)

section

variable {text other quoted : List Char}

theorem doubled_quotedTitle (title : String) : Doubled title.toList (quotedTitle title) := by
  rw [quotedTitle, Text.replaceAll_singleton]
  induction title.toList with
  | nil => exact .nil
  | cons c text ih =>
    rw [List.flatMap_cons]
    split
    · next same =>
      subst same
      exact .quote ih
    · next differs => exact .other differs ih

/-- One quote for two, where two stand. -/
def halve : Text.Step := fun rest => if ['\x27', '\x27'].isPrefixOf rest then some (2, ['\x27']) else none

theorem Doubled.replaceAll_eq (doubled : Doubled text quoted) :
    Text.replaceAll ['\x27', '\x27'] ['\x27'] quoted = text := by
  show Text.substitute halve quoted = text
  induction doubled with
  | nil => rfl
  | @quote text quoted later ih =>
    have pair : halve (['\x27', '\x27'] ++ quoted) = some (2, ['\x27']) := rfl
    have halved := Text.substitute_append_of_some (List.cons_ne_nil '\x27' ['\x27']) pair
    rw [ih] at halved
    exact halved
  | @other c text quoted differs later ih =>
    have silent : halve (c :: quoted) = none := by simp [halve, List.isPrefixOf, Ne.symm differs]
    rw [Text.substitute_cons_of_none silent, ih]

theorem Doubled.unique (doubled : Doubled text quoted) (again : Doubled other quoted) : other = text :=
  again.replaceAll_eq.symm.trans doubled.replaceAll_eq

end

theorem eq_root_append (site : String) :
    ∃ slashes, site.toList = root site ++ List.replicate slashes '/' ∧
      (root site).getLast? ≠ some '/' := by
  have dropped : root site = site.toList.rdropWhile (· == '/') := rfl
  refine ⟨(site.toList.rtakeWhile (· == '/')).length, ?_, ?_⟩
  · have slashes : site.toList.rtakeWhile (· == '/') =
        List.replicate (site.toList.rtakeWhile (· == '/')).length '/' :=
      List.eq_replicate_of_mem fun c member =>
        beq_iff_eq.mp (List.mem_rtakeWhile_imp (p := (· == '/')) member)
    rw [← slashes, dropped, List.rdropWhile_append_rtakeWhile]
  · intro last
    have solid : root site ≠ [] := by
      intro empty
      rw [empty] at last
      cases last
    rw [List.getLast?_eq_some_getLast solid] at last
    exact List.rdropWhile_last_not (· == '/') site.toList solid (beq_iff_eq.mpr (Option.some.inj last))

/-- What stands between the quotes of the address of a list. -/
def encodedTitle (title : String) : List Char := Url.percentEncode Url.isAlphanumeric (quotedTitle title)

theorem toList_listUrl (site title : String) :
    (listUrl site title).toList =
      root site ++ "/_api/web/lists/GetByTitle(\x27".toList ++ encodedTitle title ++ "\x27)".toList :=
  String.toList_ofList

theorem unescape?_encodedTitle (title : String) :
    Url.unescape? (encodedTitle title) = some (String.ofList (quotedTitle title)) :=
  Url.unescape?_percentEncode (by decide) _

theorem encodedTitle_injective {title other : String} (same : encodedTitle other = encodedTitle title) :
    other = title := by
  have decoded := unescape?_encodedTitle other
  rw [same, unescape?_encodedTitle, Option.some.injEq, String.ofList_inj] at decoded
  have first := doubled_quotedTitle title
  rw [decoded] at first
  exact String.toList_inj.mp (first.unique (doubled_quotedTitle other))

/-- The address of a list is the site without slashes at its end, the query, and between quotes a
text of nothing but ASCII letters, digits and escaped bytes. Decoding that text gives a text whose
quotes are all doubled, and taking one for two gives the title. So lists with different titles have
different addresses on a site. -/
theorem listUrl_encloses_title (site title : String) :
    ∃ slashes part quoted,
      site.toList = root site ++ List.replicate slashes '/' ∧ (root site).getLast? ≠ some '/' ∧
      (listUrl site title).toList =
        root site ++ "/_api/web/lists/GetByTitle(\x27".toList ++ part ++ "\x27)".toList ∧
      Url.Escaped part ∧ Url.unescape? part = some quoted ∧
      (∀ text, Doubled text quoted.toList ↔ text = title.toList) ∧
      Text.replaceAll ['\x27', '\x27'] ['\x27'] quoted.toList = title.toList ∧
      ∀ other, listUrl site other = listUrl site title → other = title := by
  obtain ⟨slashes, split, last⟩ := eq_root_append site
  have doubled : Doubled title.toList (String.ofList (quotedTitle title)).toList := by
    rw [String.toList_ofList]
    exact doubled_quotedTitle title
  refine ⟨slashes, encodedTitle title, String.ofList (quotedTitle title), split, last,
    toList_listUrl site title,
    Url.escaped_percentEncode _, unescape?_encodedTitle title, ?_, doubled.replaceAll_eq, ?_⟩
  · intro text
    constructor
    · exact doubled.unique
    · rintro rfl
      exact doubled
  · intro other same
    have equal := congrArg String.toList same
    rw [toList_listUrl, toList_listUrl, List.append_cancel_right_eq, List.append_cancel_left_eq] at equal
    exact encodedTitle_injective equal

/-- A title with a quote, an escape of a quote, and a letter of two bytes. -/
example : encodedTitle "a\x27%27é" = "a%27%27%2527%C3%A9".toList := by decide

end DueReminders.Site
