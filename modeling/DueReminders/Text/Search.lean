/-! Finding a text inside another. The first occurrence is the one with the shortest text before
it; an empty needle occurs at every position. -/
namespace DueReminders.Text

/-- The texts before and after the first occurrence of `needle`. -/
def splitFirst? (needle : List Char) : List Char → Option (List Char × List Char)
  | [] => if needle.isEmpty then some ([], []) else none
  | c :: rest =>
    if needle.isPrefixOf (c :: rest) then some ([], (c :: rest).drop needle.length)
    else (splitFirst? needle rest).map fun (before, after) => (c :: before, after)

/-- At some positions a step names how many characters to consume and what to write instead. -/
abbrev Step := List Char → Option (Nat × List Char)

/-- One pass from left to right. Where `step` answers, its text is written and the characters it
consumes are skipped; what is written is never looked at again. -/
def substituteFrom (step : Step) : Nat → List Char → List Char
  | _, [] => []
  | skip + 1, _ :: rest => substituteFrom step skip rest
  | 0, c :: rest =>
    match step (c :: rest) with
    | some (size, written) => written ++ substituteFrom step (size - 1) rest
    | none => c :: substituteFrom step 0 rest

def substitute (step : Step) (text : List Char) : List Char := substituteFrom step 0 text

/-- Replace every occurrence of `needle`, left to right; an empty needle stands at every
boundary. -/
def replaceAll (needle value text : List Char) : List Char :=
  if needle.isEmpty then value ++ text.flatMap (fun c => c :: value)
  else
    let step : Step := fun rest =>
      if needle.isPrefixOf rest then some (needle.length, value) else none
    substitute step text

theorem isPrefixOf_eq_true_iff {needle text : List Char} :
    needle.isPrefixOf text = true ↔ ∃ rest, text = needle ++ rest := by
  rw [List.isPrefixOf_iff_prefix]
  constructor
  · rintro ⟨rest, same⟩
    exact ⟨rest, same.symm⟩
  · rintro ⟨rest, same⟩
    exact ⟨rest, same.symm⟩

/-- A found occurrence splits the text around the needle. -/
theorem eq_append_of_splitFirst? {needle text before after : List Char}
    (found : splitFirst? needle text = some (before, after)) : text = before ++ needle ++ after := by
  induction text generalizing before with
  | nil =>
    simp only [splitFirst?] at found
    split at found
    · next empty =>
      cases found
      simp_all
    · cases found
  | cons c rest ih =>
    simp only [splitFirst?] at found
    split at found
    · next here =>
      obtain ⟨tail, same⟩ := isPrefixOf_eq_true_iff.mp here
      cases found
      simp [same]
    · obtain ⟨⟨inner, last⟩, rec, same⟩ := Option.map_eq_some_iff.mp found
      cases same
      simp [ih rec]

/-- Nothing is found exactly when the needle occurs nowhere. -/
theorem splitFirst?_eq_none_iff {needle text : List Char} :
    splitFirst? needle text = none ↔ ∀ before after, text ≠ before ++ needle ++ after := by
  induction text with
  | nil =>
    by_cases empty : needle = []
    · subst empty
      constructor
      · intro missing
        simp [splitFirst?] at missing
      · intro apart
        exact absurd rfl (apart [] [])
    · simp [splitFirst?, empty]
  | cons c rest ih =>
    by_cases here : needle.isPrefixOf (c :: rest)
    · simp only [splitFirst?, here, if_true]
      obtain ⟨tail, same⟩ := isPrefixOf_eq_true_iff.mp here
      constructor
      · intro missing
        cases missing
      · intro apart
        exact absurd (by simpa using same) (apart [] tail)
    · simp only [splitFirst?, here]
      simp only [Bool.false_eq_true, if_false, Option.map_eq_none_iff, ih]
      constructor
      · intro apart before after same
        cases before with
        | nil => exact here (isPrefixOf_eq_true_iff.mpr ⟨after, by simpa using same⟩)
        | cons head tail =>
          simp only [List.cons_append, List.cons.injEq] at same
          exact apart tail after same.2
      · intro apart before after same
        exact apart (c :: before) after (by simp [same])

/-- Of all occurrences the one found has the shortest text before it. -/
theorem splitFirst?_shortest {needle text before after : List Char}
    (found : splitFirst? needle text = some (before, after)) {front back : List Char}
    (other : text = front ++ needle ++ back) : before.length ≤ front.length := by
  induction text generalizing before front with
  | nil =>
    simp only [splitFirst?] at found
    split at found
    · cases found
      simp
    · cases found
  | cons c rest ih =>
    simp only [splitFirst?] at found
    split at found
    · cases found
      simp
    · next absent =>
      obtain ⟨⟨inner, last⟩, rec, same⟩ := Option.map_eq_some_iff.mp found
      cases same
      cases front with
      | nil => exact absurd (isPrefixOf_eq_true_iff.mpr ⟨back, by simpa using other⟩) absent
      | cons head tail =>
        simp only [List.cons_append, List.cons.injEq] at other
        simpa using ih rec other.2

theorem splitFirst?_append_self (needle rest : List Char) :
    splitFirst? needle (needle ++ rest) = some ([], rest) := by
  cases text : needle ++ rest with
  | nil =>
    obtain ⟨rfl, rfl⟩ := List.append_eq_nil_iff.mp text
    rfl
  | cons c tail =>
    simp [splitFirst?, ← text]

theorem splitFirst?_cons_of_not_prefix {needle rest : List Char} {c : Char}
    (absent : ¬needle <+: c :: rest) :
    splitFirst? needle (c :: rest) =
      (splitFirst? needle rest).map fun (before, after) => (c :: before, after) := by
  have passed : needle.isPrefixOf (c :: rest) = false :=
    Bool.eq_false_iff.mpr fun found => absent (List.isPrefixOf_iff_prefix.mp found)
  simp [splitFirst?, passed]

@[simp] theorem substituteFrom_nil (step : Step) (skip : Nat) : substituteFrom step skip [] = [] := by
  cases skip <;> rfl

theorem substituteFrom_eq_drop (step : Step) (skip : Nat) (text : List Char) :
    substituteFrom step skip text = substitute step (text.drop skip) := by
  induction text generalizing skip with
  | nil => simp [substitute]
  | cons c rest ih =>
    cases skip with
    | zero => rfl
    | succ skip => simpa [substituteFrom] using ih skip

theorem substitute_cons_of_none {step : Step} {c : Char} {rest : List Char}
    (silent : step (c :: rest) = none) : substitute step (c :: rest) = c :: substitute step rest := by
  simp [substitute, substituteFrom, silent]

theorem substitute_append_of_some {step : Step} {key rest written : List Char} (solid : key ≠ [])
    (answer : step (key ++ rest) = some (key.length, written)) :
    substitute step (key ++ rest) = written ++ substitute step rest := by
  cases key with
  | nil => exact absurd rfl solid
  | cons c tail =>
    have skipped := substituteFrom_eq_drop step tail.length (tail ++ rest)
    rw [List.drop_left] at skipped
    rw [List.cons_append] at answer ⊢
    rw [substitute, substituteFrom, answer]
    simpa using skipped

end DueReminders.Text
