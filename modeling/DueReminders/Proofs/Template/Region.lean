import DueReminders.Proofs.Text.Occurrence
import DueReminders.Template.Block

/-! The region of a template that is resolved. It begins at the first start mark and ends with the
first end mark behind that, whatever the marks are: equal, overlapping, empty, or repeated. -/
namespace DueReminders.Template

open Text

/-- Behind `before` stands the first start mark, and behind `body` the first end mark of what
follows. -/
structure Region {α : Type} (start stop template before body after : List α) : Prop where
  opened : FirstAt start template before (body ++ stop ++ after)
  closed : FirstAt stop (body ++ stop ++ after) body after

theorem Region.of_firstAt {α : Type} {start stop template before body after rest : List α}
    (opened : FirstAt start template before rest) (closed : FirstAt stop rest body after) :
    Region start stop template before body after := by
  rw [closed.split] at opened closed
  exact ⟨opened, closed⟩

section

variable {template start stop result before body after rest : List Char} {keep : Bool} {cause : Unresolved}

theorem Region.split (region : Region start stop template before body after) :
    template = before ++ start ++ body ++ stop ++ after := by
  rw [region.opened.split]
  simp only [List.append_assoc]

theorem exists_region_iff :
    (∃ before body after, Region start stop template before body after) ↔
      ∃ before body after, template = before ++ start ++ body ++ stop ++ after := by
  constructor
  · intro ⟨before, body, after, region⟩
    exact ⟨before, body, after, region.split⟩
  · intro ⟨front, inside, back, same⟩
    have ordered : InOrder [start, stop] template :=
      ⟨front, inside ++ stop ++ back, by simp [same], inside, back, rfl, trivial⟩
    -- the first start mark does as well as any other, as no other has more text behind it
    obtain ⟨before, rest, opened, ordered⟩ := inOrder_cons_iff.mp ordered
    obtain ⟨body, after, closed, -⟩ := inOrder_cons_iff.mp ordered
    exact ⟨before, body, after,
      .of_firstAt (splitFirst?_eq_some_iff.mp opened) (splitFirst?_eq_some_iff.mp closed)⟩

theorem resolveBlock_of_region (region : Region start stop template before body after) (keep : Bool) :
    resolveBlock template start stop keep = .ok (before ++ (if keep then body else []) ++ after) :=
  resolveBlock_of_found (splitFirst?_eq_some_iff.mpr region.opened)
    (splitFirst?_eq_some_iff.mpr region.closed) keep

theorem resolveBlock_of_absent (absent : ¬start <:+: template) (keep : Bool) :
    resolveBlock template start stop keep = .error (.noStart start) := by
  rw [resolveBlock, splitFirst?_eq_none_iff_absent.mpr absent]

theorem resolveBlock_of_unclosed (opened : FirstAt start template before rest) (absent : ¬stop <:+: rest)
    (keep : Bool) : resolveBlock template start stop keep = .error (.noEnd start stop) := by
  rw [resolveBlock, splitFirst?_eq_some_iff.mpr opened]
  simp only [splitFirst?_eq_none_iff_absent.mpr absent]

/-- A template has a region, or no start mark, or no end mark behind its first start mark. -/
theorem region_or_absent (template start stop : List Char) :
    (∃ before body after, Region start stop template before body after) ∨ ¬start <:+: template ∨
      ∃ before rest, FirstAt start template before rest ∧ ¬stop <:+: rest := by
  cases opened : splitFirst? start template with
  | none => exact .inr (.inl (splitFirst?_eq_none_iff_absent.mp opened))
  | some halves =>
    obtain ⟨before, rest⟩ := halves
    have first := splitFirst?_eq_some_iff.mp opened
    cases closed : splitFirst? stop rest with
    | none => exact .inr (.inr ⟨before, rest, first, splitFirst?_eq_none_iff_absent.mp closed⟩)
    | some halves =>
      obtain ⟨body, after⟩ := halves
      exact .inl ⟨before, body, after, .of_firstAt first (splitFirst?_eq_some_iff.mp closed)⟩

theorem resolveBlock_eq_ok_iff :
    resolveBlock template start stop keep = .ok result ↔
      ∃ before body after, Region start stop template before body after ∧
        result = before ++ (if keep then body else []) ++ after := by
  constructor
  · intro resolved
    rcases region_or_absent template start stop with
      ⟨before, body, after, region⟩ | absent | ⟨before, rest, opened, absent⟩
    · rw [resolveBlock_of_region region] at resolved
      exact ⟨before, body, after, region, (Except.ok.inj resolved).symm⟩
    · cases (resolveBlock_of_absent absent keep).symm.trans resolved
    · cases (resolveBlock_of_unclosed opened absent keep).symm.trans resolved
  · intro ⟨before, body, after, region, same⟩
    rw [same]
    exact resolveBlock_of_region region keep

theorem resolveBlock_eq_error_iff :
    resolveBlock template start stop keep = .error cause ↔
      cause = .noStart start ∧ ¬start <:+: template ∨
        cause = .noEnd start stop ∧
          ∃ before rest, FirstAt start template before rest ∧ ¬stop <:+: rest := by
  constructor
  · intro refused
    rcases region_or_absent template start stop with
      ⟨before, body, after, region⟩ | absent | ⟨before, rest, opened, absent⟩
    · cases (resolveBlock_of_region region keep).symm.trans refused
    · cases (resolveBlock_of_absent absent keep).symm.trans refused
      exact .inl ⟨rfl, absent⟩
    · cases (resolveBlock_of_unclosed opened absent keep).symm.trans refused
      exact .inr ⟨rfl, before, rest, opened, absent⟩
  · rintro (⟨same, absent⟩ | ⟨same, before, rest, opened, absent⟩)
    · rw [same]
      exact resolveBlock_of_absent absent keep
    · rw [same]
      exact resolveBlock_of_unclosed opened absent keep

/-- The region among the bytes of a template is the region among its characters, and begins and ends
between two characters. -/
theorem region_bytes_iff {front inside back : List UInt8} :
    Region (bytes start) (bytes stop) (bytes template) front inside back ↔
      ∃ before body after, Region start stop template before body after ∧ front = bytes before ∧
        inside = bytes body ∧ back = bytes after := by
  constructor
  · intro region
    obtain ⟨before, rest, opened, fronts, behind⟩ := firstAt_bytes_iff.mp region.opened
    have closed := region.closed
    rw [behind] at closed
    obtain ⟨body, after, closed, insides, backs⟩ := firstAt_bytes_iff.mp closed
    exact ⟨before, body, after, .of_firstAt opened closed, fronts, insides, backs⟩
  · intro ⟨before, body, after, region, fronts, insides, backs⟩
    have opened := region.opened.bytes
    have closed := region.closed.bytes
    simp only [bytes_append] at opened closed
    rw [fronts, insides, backs]
    exact ⟨opened, closed⟩

theorem length_of_region (region : Region start stop template before body after)
    (resolved : resolveBlock template start stop keep = .ok result) :
    let gone := start ++ (if keep then [] else body) ++ stop
    template.length = result.length + gone.length ∧
      (bytes template).length = (bytes result).length + (bytes gone).length := by
  intro gone
  have left : before ++ (if keep then body else []) ++ after = result :=
    Except.ok.inj ((resolveBlock_of_region region keep).symm.trans resolved)
  -- both lengths add up, and the order of the pieces makes no difference to either
  have pieces : template.Perm (result ++ gone) := by
    rw [region.split, ← left, List.perm_iff_count]
    intro c
    cases keep <;> simp [gone] <;> omega
  refine ⟨by rw [pieces.length_eq, List.length_append], ?_⟩
  rw [← List.length_append, ← bytes_append]
  exact (pieces.flatMap_right String.utf8EncodeChar).length_eq

theorem mapError_resolveBlock_iff {failure : Failure} :
    (resolveBlock template start stop keep).mapError Unresolved.toFailure = .error failure ↔
      failure = ⟨.template, "block start " ++ String.ofList start ++ " not found"⟩ ∧ ¬start <:+: template ∨
      failure =
        ⟨.template, "block end " ++ String.ofList stop ++ " not found after " ++ String.ofList start⟩ ∧
        ∃ before rest, FirstAt start template before rest ∧ ¬stop <:+: rest := by
  constructor
  · intro refused
    cases outcome : resolveBlock template start stop keep with
    | ok result =>
      rw [outcome] at refused
      cases refused
    | error cause =>
      rw [outcome] at refused
      cases refused
      rcases resolveBlock_eq_error_iff.mp outcome with ⟨same, absent⟩ | ⟨same, unclosed⟩
      · exact .inl ⟨congrArg Unresolved.toFailure same, absent⟩
      · exact .inr ⟨congrArg Unresolved.toFailure same, unclosed⟩
  · rintro (⟨same, absent⟩ | ⟨same, before, rest, opened, absent⟩)
    · rw [resolveBlock_of_absent absent, same]
      rfl
    · rw [resolveBlock_of_unclosed opened absent, same]
      rfl

end

/-- Resolving a block takes one region out of the template, if there is one: that of the first start
mark and of the first end mark behind it, in characters as in bytes. Of the region its body stays or
nothing does, and all else stays as it is. A template without a region is refused for its start mark
if it has none, and else for its end mark. -/
theorem resolveBlock_splices (template start stop : List Char) (keep : Bool) :
    ((∃ result, resolveBlock template start stop keep = .ok result) ↔
      ∃ before body after, template = before ++ start ++ body ++ stop ++ after) ∧
    (∀ result, resolveBlock template start stop keep = .ok result ↔
      ∃ before body after, Region start stop template before body after ∧
        result = before ++ (if keep then body else []) ++ after) ∧
    (∀ front inside back, Region (bytes start) (bytes stop) (bytes template) front inside back ↔
      ∃ before body after, Region start stop template before body after ∧ front = bytes before ∧
        inside = bytes body ∧ back = bytes after) ∧
    (∀ before body after result, Region start stop template before body after →
      resolveBlock template start stop keep = .ok result →
        let gone := start ++ (if keep then [] else body) ++ stop
        template.length = result.length + gone.length ∧
          (bytes template).length = (bytes result).length + (bytes gone).length) ∧
    ∀ failure, (resolveBlock template start stop keep).mapError Unresolved.toFailure = .error failure ↔
      failure = ⟨.template, "block start " ++ String.ofList start ++ " not found"⟩ ∧ ¬start <:+: template ∨
      failure =
        ⟨.template, "block end " ++ String.ofList stop ++ " not found after " ++ String.ofList start⟩ ∧
        ∃ before rest, FirstAt start template before rest ∧ ¬stop <:+: rest := by
  refine ⟨?_, fun result => resolveBlock_eq_ok_iff, fun front inside back => region_bytes_iff,
    fun before body after result => length_of_region, fun failure => mapError_resolveBlock_iff⟩
  rw [← exists_region_iff]
  constructor
  · intro ⟨result, resolved⟩
    obtain ⟨before, body, after, region, -⟩ := resolveBlock_eq_ok_iff.mp resolved
    exact ⟨before, body, after, region⟩
  · intro ⟨before, body, after, region⟩
    exact ⟨_, resolveBlock_of_region region keep⟩

/-- An end mark before the start mark is none of the region, nor is one that overlaps it. -/
example : resolveBlock "éa aéa".toList "aé".toList "éa".toList true =
    .error (.noEnd "aé".toList "éa".toList) := by
  decide

end DueReminders.Template
