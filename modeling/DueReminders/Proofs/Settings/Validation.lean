import DueReminders.Proofs.Number.Numeral
import DueReminders.Settings

/-! Which variables make settings. Every variable that can be refused has a demand of its own.
Settings are read exactly when all demands are met, and otherwise the error names the first variable
that does not meet its demand. -/
namespace DueReminders

/-- What is asked of a variable: whether it has to be given, and how it has to read when it is
given. -/
structure Demand where
  key : String
  required : Bool
  Readable : String → Prop

/-- The variable has a text that is not blank. -/
def Variables.Gives (given : Variables) (key content : String) : Prop :=
  given key = some content ∧ Text.isBlankText content = false

namespace Demand

def Met (demand : Demand) (given : Variables) : Prop :=
  (demand.required = true → ∃ content, given.Gives demand.key content) ∧
    ∀ content, given.Gives demand.key content → demand.Readable content

def text (key : String) : Demand := ⟨key, true, fun _ => True⟩

/-- A whole number of a range, with blanks around it allowed. -/
def number (key : String) (range : Number.IntegerRange) : Demand :=
  ⟨key, false, fun content => ∃ value, range.Writes (Text.trim content.toList) value⟩

/-- A whole number of days that is accepted. -/
def days (key : String) : Demand :=
  ⟨key, false, fun content => ∃ value, 0 ≤ value ∧ value ≤ 36500 ∧
    Number.IntegerRange.signed64.Writes (Text.trim content.toList) value⟩

/-- A word for yes or no, in any ASCII case and with blanks around it allowed. -/
def word (key : String) : Demand :=
  ⟨key, false, fun content => String.ofList ((Text.trim content.toList).map Char.toLower) ∈
    ["true", "1", "yes", "false", "0", "no"]⟩

def zoneName (key : String) : Demand := ⟨key, false, fun name => (Zone.named? name).isSome = true⟩

end Demand

namespace Settings

/-- The demands in the order they are looked at. -/
def demands : List Demand :=
  [.text "SITE_URL", .text "LIST_TITLE", .number "MAX_ITEMS" .word32, .days "WAY_OVERDUE_DELTA",
    .text "FROM_EMAIL", .text "ERROR_TO", .text "SMTP_SERVER", .number "SMTP_PORT" .word16,
    .word "SMTP_SSL", .zoneName "TIME_ZONE"]

end Settings

namespace SettingsError

/-- The message begins with the key. -/
def Names (error : SettingsError) (key : String) : Prop := ∃ rest, error.message = key ++ ": " ++ rest

/-- The error names the first variable that does not meet its demand. -/
def Blames (error : SettingsError) (given : Variables) (demands : List Demand) : Prop :=
  ∃ front demand back, demands = front ++ demand :: back ∧ (∀ earlier ∈ front, earlier.Met given) ∧
    ¬demand.Met given ∧ error.Names demand.key

theorem names_missing (key : String) : (missing key).Names key := by
  refine ⟨"environment variable not found", String.toList_inj.mp ?_⟩
  show (key ++ ": environment variable not found").toList = _
  simp

theorem names_notInteger (key : String) (cause : Number.IntegerRefusal) :
    (notInteger key cause).Names key := ⟨cause.message, rfl⟩

theorem names_daysOutOfRange (days : Int) : (daysOutOfRange days).Names "WAY_OVERDUE_DELTA" := by
  refine ⟨"expected 0 to " ++ String.ofList (Number.signed maxOverdueDays) ++ " days, got " ++
    String.ofList (Number.signed days), String.toList_inj.mp ?_⟩
  show ("WAY_OVERDUE_DELTA: expected 0 to " ++ String.ofList (Number.signed maxOverdueDays) ++
    " days, got " ++ String.ofList (Number.signed days)).toList = _
  simp

theorem names_notBoolean (key content : String) : (notBoolean key content).Names key := by
  refine ⟨"expected a boolean, got \x27" ++ content ++ "\x27", String.toList_inj.mp ?_⟩
  show (key ++ ": expected a boolean, got \x27" ++ content ++ "\x27").toList = _
  simp

theorem names_unknownZone : unknownZone.Names "TIME_ZONE" :=
  ⟨"failed to parse timezone", by decide⟩

end SettingsError

namespace Variables

variable {α β : Type} {given : Variables} {key : String} {demand : Demand} {demands : List Demand}

theorem withoutBlanks_eq_some_iff {content : String} :
    given.withoutBlanks key = some content ↔ given.Gives key content := by
  simp [withoutBlanks, Gives, Option.filter_eq_some_iff]

theorem withoutBlanks_withoutBlanks (given : Variables) :
    given.withoutBlanks.withoutBlanks = given.withoutBlanks := by
  funext key
  simp [withoutBlanks, Option.filter_filter]

/-- What reading amounts to where demands are looked at in order: it succeeds when all of them are
met, and otherwise blames the first one that is not. -/
def Verdict (given : Variables) (demands : List Demand) : Except SettingsError α → Prop
  | .ok _ => ∀ demand ∈ demands, demand.Met given
  | .error error => error.Blames given demands

theorem verdict_pure (value : α) : given.Verdict [] (pure value : Except SettingsError α) := by
  intro demand member
  cases member

/-- A step that looks at one demand comes before the steps that look at the others. -/
theorem Verdict.bind {step : Except SettingsError α} {next : α → Except SettingsError β}
    (first : given.Verdict [demand] step) (others : ∀ value, given.Verdict demands (next value)) :
    given.Verdict (demand :: demands) (step >>= next) := by
  cases step with
  | error error =>
    obtain ⟨front, other, back, order, -, refused, named⟩ := first
    cases front with
    | nil =>
      cases order
      exact ⟨[], demand, demands, rfl, by simp, refused, named⟩
    | cons head tail => simp at order
  | ok value =>
    have met : demand.Met given := first demand (List.mem_singleton_self demand)
    have rest := others value
    show given.Verdict (demand :: demands) (next value)
    cases result : next value with
    | ok last =>
      rw [result] at rest
      exact List.forall_mem_cons.mpr ⟨met, rest⟩
    | error error =>
      rw [result] at rest
      obtain ⟨front, other, back, rfl, earlier, refused, named⟩ := rest
      exact ⟨demand :: front, other, back, rfl, List.forall_mem_cons.mpr ⟨met, earlier⟩, refused, named⟩

theorem met_of_withoutBlanks_none (optional : demand.required = false)
    (missing : given.withoutBlanks demand.key = none) : demand.Met given := by
  refine ⟨fun required => absurd (optional.symm.trans required) Bool.false_ne_true, ?_⟩
  intro content gives
  cases missing.symm.trans (withoutBlanks_eq_some_iff.mpr gives)

theorem met_iff_readable {content : String} (present : given.withoutBlanks demand.key = some content) :
    demand.Met given ↔ demand.Readable content := by
  have gives := withoutBlanks_eq_some_iff.mp present
  constructor
  · intro met
    exact met.2 content gives
  · intro readable
    refine ⟨fun _ => ⟨content, gives⟩, ?_⟩
    intro other again
    cases present.symm.trans (withoutBlanks_eq_some_iff.mpr again)
    exact readable

theorem verdict_error {error : SettingsError} (refused : ¬demand.Met given)
    (named : error.Names demand.key) :
    given.Verdict [demand] (.error error : Except SettingsError α) :=
  ⟨[], demand, [], rfl, by simp, refused, named⟩

theorem verdict_ok {value : α} (met : demand.Met given) :
    given.Verdict [demand] (.ok value : Except SettingsError α) :=
  List.forall_mem_singleton.mpr met

theorem verdict_required (given : Variables) (key : String) :
    given.Verdict [.text key] (given.withoutBlanks.required key) := by
  unfold required
  split
  · next content present => exact verdict_ok ((met_iff_readable present).mpr trivial)
  · next missing =>
    refine verdict_error ?_ (SettingsError.names_missing key)
    intro met
    obtain ⟨content, gives⟩ := met.1 rfl
    cases missing.symm.trans (withoutBlanks_eq_some_iff.mpr gives)

theorem verdict_integer (given : Variables) (key : String) {range : Number.IntegerRange}
    (zero : range.Contains 0) (default : Int) :
    given.Verdict [.number key range] (given.withoutBlanks.integer key range default) := by
  unfold integer
  split
  · next content present =>
    cases read : range.read (Text.trim content.toList) with
    | ok value =>
      have written := (Number.IntegerRange.read_eq_ok_iff zero).mp read
      exact verdict_ok ((met_iff_readable present).mpr ⟨value, written⟩)
    | error refusal =>
      refine verdict_error ?_ (SettingsError.names_notInteger _ refusal)
      rw [met_iff_readable present]
      rintro ⟨value, written⟩
      cases read.symm.trans ((Number.IntegerRange.read_eq_ok_iff zero).mpr written)
  · next missing => exact verdict_ok (met_of_withoutBlanks_none rfl missing)

theorem verdict_overdueDays (given : Variables) :
    given.Verdict [.days "WAY_OVERDUE_DELTA"] given.withoutBlanks.overdueDays := by
  have reading {text : List Char} {value : Int} :
      Number.IntegerRange.signed64.read text = .ok value ↔
        Number.IntegerRange.signed64.Writes text value :=
    Number.IntegerRange.read_eq_ok_iff (by decide)
  unfold overdueDays integer
  split
  · next content present =>
    cases read : Number.IntegerRange.signed64.read (Text.trim content.toList) with
    | ok value =>
      show given.Verdict _ (if 0 ≤ value ∧ value ≤ maxOverdueDays then _ else _)
      split
      · next accepted =>
        exact verdict_ok ((met_iff_readable present).mpr ⟨value, accepted.1, accepted.2, reading.mp read⟩)
      · next outside =>
        refine verdict_error ?_ (SettingsError.names_daysOutOfRange value)
        rw [met_iff_readable present]
        rintro ⟨other, least, most, written⟩
        cases read.symm.trans (reading.mpr written)
        exact outside ⟨least, most⟩
    | error refusal =>
      refine verdict_error ?_ (SettingsError.names_notInteger _ refusal)
      rw [met_iff_readable present]
      rintro ⟨value, -, -, written⟩
      cases read.symm.trans (reading.mpr written)
  · next missing => exact verdict_ok (met_of_withoutBlanks_none rfl missing)

theorem verdict_boolean (given : Variables) (key : String) :
    given.Verdict [.word key] (given.withoutBlanks.boolean key) := by
  unfold boolean
  split
  · next missing => exact verdict_ok (met_of_withoutBlanks_none rfl missing)
  · next content present =>
    have readable : (Demand.word key).Met given ↔
        String.ofList ((Text.trim content.toList).map Char.toLower) ∈
          ["true", "1", "yes"] ++ ["false", "0", "no"] :=
      met_iff_readable present
    dsimp only
    generalize String.ofList ((Text.trim content.toList).map Char.toLower) = word at readable ⊢
    split
    · next yes => exact verdict_ok (readable.mpr (List.mem_append_left ["false", "0", "no"] yes))
    · next neither =>
      split
      · next no => exact verdict_ok (readable.mpr (List.mem_append_right ["true", "1", "yes"] no))
      · next unknown =>
        refine verdict_error ?_ (SettingsError.names_notBoolean key word)
        intro met
        rcases List.mem_append.mp (readable.mp met) with yes | no
        · exact neither yes
        · exact unknown no

theorem verdict_zone (given : Variables) :
    given.Verdict [.zoneName "TIME_ZONE"] given.withoutBlanks.zone := by
  unfold zone
  split
  · next missing => exact verdict_ok (met_of_withoutBlanks_none rfl missing)
  · next name present =>
    split
    · next zone known =>
        exact verdict_ok ((met_iff_readable present).mpr (by simp [Demand.zoneName, known]))
    · next unknown =>
      refine verdict_error ?_ SettingsError.names_unknownZone
      rw [met_iff_readable present]
      simp [Demand.zoneName, unknown]

end Variables

namespace Settings

/-- Reading settings amounts to looking at the demands in their order. -/
theorem verdict_read (given : Variables) : given.Verdict demands (read given) := by
  unfold read readSolid
  refine (given.verdict_required "SITE_URL").bind fun siteUrl => ?_
  refine (given.verdict_required "LIST_TITLE").bind fun listTitle => ?_
  refine (given.verdict_integer "MAX_ITEMS" (by decide) 100).bind fun maxItems => ?_
  refine given.verdict_overdueDays.bind fun overdueDays => ?_
  refine (given.verdict_required "FROM_EMAIL").bind fun sender => ?_
  refine (given.verdict_required "ERROR_TO").bind fun operator => ?_
  refine (given.verdict_required "SMTP_SERVER").bind fun server => ?_
  refine (given.verdict_integer "SMTP_PORT" (by decide) 25).bind fun port => ?_
  refine (given.verdict_boolean "SMTP_SSL").bind fun secure => ?_
  refine given.verdict_zone.bind fun zone => ?_
  exact Variables.verdict_pure _

/-- Blank variables count as missing, settings are read exactly when every variable meets its
demand, and an error names the first variable that does not. -/
theorem read_validates (given : Variables) :
    read given = read given.withoutBlanks ∧
    ((∃ settings, read given = .ok settings) ↔ ∀ demand ∈ demands, demand.Met given) ∧
    ∀ error, read given = .error error → error.Blames given demands := by
  have verdict := verdict_read given
  refine ⟨?_, ?_, ?_⟩
  · rw [read, read, Variables.withoutBlanks_withoutBlanks]
  · cases done : read given with
    | ok settings =>
      rw [done] at verdict
      exact ⟨fun _ => verdict, fun _ => ⟨settings, rfl⟩⟩
    | error error =>
      rw [done] at verdict
      obtain ⟨front, demand, back, order, -, refused, -⟩ := verdict
      have member : demand ∈ demands := by simp [order]
      exact ⟨fun ⟨_, same⟩ => (by cases same), fun met => absurd (met demand member) refused⟩
  · intro error done
    rw [done] at verdict
    exact verdict

end Settings
end DueReminders
