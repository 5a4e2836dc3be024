import DueReminders.Number.Integer

/-! Lengths of time. A length has whole seconds, and its milliseconds are a number of 64 bits either
way. -/
namespace DueReminders

open Number

/-- A length of time, towards the past when its seconds are negative. -/
structure Span where
  seconds : Int
  shortest_le : -9223372036854775 ≤ seconds
  le_longest : seconds ≤ 9223372036854775

namespace Span

def ofSeconds? (seconds : Int) : Option Span :=
  if inside : -9223372036854775 ≤ seconds ∧ seconds ≤ 9223372036854775 then
    some ⟨seconds, inside.1, inside.2⟩
  else none

/-- A length of some days. Their seconds are counted first and have to be a number of 64 bits. -/
def ofDays? (days : Int) : Option Span :=
  let seconds := days * 86400
  if IntegerRange.signed64.Contains seconds then ofSeconds? seconds else none

def days (span : Span) : Int := span.seconds.tdiv 86400

theorem ofSeconds?_eq_some_iff {seconds : Int} {span : Span} :
    ofSeconds? seconds = some span ↔ span.seconds = seconds := by
  unfold ofSeconds?
  split
  · constructor
    · intro same
      cases same
      rfl
    · rintro rfl
      rfl
  · next outside =>
    constructor
    · intro same
      cases same
    · rintro rfl
      exact absurd ⟨span.shortest_le, span.le_longest⟩ outside

/-- The seconds of a length are always a number of 64 bits, so it is the milliseconds that bound the
days. -/
theorem ofDays?_eq_some_iff {days : Int} {span : Span} :
    ofDays? days = some span ↔ span.seconds = days * 86400 := by
  have shortest := span.shortest_le
  have longest := span.le_longest
  rw [ofDays?, Option.ite_none_right_eq_some, ofSeconds?_eq_some_iff]
  refine ⟨And.right, fun same => ⟨?_, same⟩⟩
  simp only [IntegerRange.Contains, IntegerRange.signed64]
  omega

theorem days_of_ofDays? {days : Int} {span : Span} (found : ofDays? days = some span) :
    span.days = days := by
  rw [Span.days, ofDays?_eq_some_iff.mp found, Int.mul_tdiv_cancel days (by decide)]

end Span
end DueReminders
