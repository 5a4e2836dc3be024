import DueReminders.Proofs.Template.Replacement

/-! Which entries of a token table matter to a template. One pass looks only at the keys that occur
in the template. Replacing key by key looks at more: a key may occur in what earlier values made of
the template, so there an entry is without effect when its key does not occur at its own turn. -/
namespace DueReminders

theorem Text.replaceAll_of_not_infix {needle text : List Char} (solid : needle ≠ [])
    (absent : ¬needle <:+: text) (value : List Char) : replaceAll needle value text = text := by
  have named : needle.isEmpty = false := List.isEmpty_eq_false_iff.mpr solid
  rw [replaceAll, named, if_neg Bool.false_ne_true]
  apply substitute_of_silent
  intro skipped tail same _
  apply if_neg
  intro starts
  have here : needle <+: tail := List.isPrefixOf_iff_prefix.mp starts
  exact absent (same ▸ here.isInfix.trans (List.suffix_append skipped tail).isInfix)

namespace Template.TokenTable

/-- The tables have the same value for every key that occurs in the text; the empty key has no
say. -/
def AgreesOn (text : List Char) (table other : TokenTable) : Prop :=
  ∀ key, key ≠ "" → key.toList <:+: text → other.get? key = table.get? key

def add (table : TokenTable) (key value : String) : TokenTable := table.insert key value

def turn (text : List Char) (entry : String × String) : List Char :=
  Text.replaceAll entry.1.toList entry.2.toList text

/-- The entries whose turn comes before that of the key. -/
def before (table : TokenTable) (key : String) : List (String × String) :=
  table.inTurn.filter fun entry => decide (entry.1 < key)

def after (table : TokenTable) (key : String) : List (String × String) :=
  table.inTurn.filter fun entry => decide (key < entry.1)

/-- What is left of the template when the turn of the key comes. -/
def untilTurn (table : TokenTable) (key : String) (template : List Char) : List Char :=
  (table.before key).foldl turn template

section

variable {table other : TokenTable} {text template : List Char} {key value : String}

theorem replaceInTurn_eq (table : TokenTable) (template : List Char) :
    table.replaceInTurn template = table.inTurn.foldl turn template := rfl

/-- Of the keys only those that occur in the template decide how it comes apart. -/
theorem Factors.congr_on {replacements : List Replacement} {last : List Char}
    (agree : ∀ key value, key <:+: text → (other.Holds key value ↔ table.Holds key value))
    (factors : table.Factors text replacements last) : other.Factors text replacements last := by
  induction factors with
  | last free =>
    refine .last ?_
    intro key value held occurs
    exact free key value ((agree key value occurs).mp held) occurs
  | @cons front key value rest last _ held earliest longest later ih =>
    have whole : key ++ rest <:+: front ++ (key ++ rest) := (List.suffix_append front _).isInfix
    have here : key <:+: front ++ (key ++ rest) := (List.prefix_append key rest).isInfix.trans whole
    refine .cons ((agree key value here).mpr held) ?_ ?_ (ih ?_)
    · intro skipped tail other content same solid owned starts
      have occurs : other <:+: front ++ (key ++ rest) := by
        rw [same, List.append_assoc]
        exact starts.isInfix.trans (List.suffix_append skipped _).isInfix
      exact earliest skipped tail other content same solid ((agree other content occurs).mp owned) starts
    · intro other content owned starts
      have occurs : other <:+: front ++ (key ++ rest) := starts.isInfix.trans whole
      exact longest other content ((agree other content occurs).mp owned) starts
    · intro other content occurs
      exact agree other content (occurs.trans ((List.suffix_append key rest).isInfix.trans whole))

theorem AgreesOn.holds_iff (agree : table.AgreesOn text other) (key value : List Char)
    (occurs : key <:+: text) : other.Holds key value ↔ table.Holds key value := by
  refine and_congr_right fun solid => ?_
  rw [agree]
  · simpa using solid
  · simpa using occurs

theorem AgreesOn.replaceOnce_eq (agree : AgreesOn text table other) :
    other.replaceOnce text = table.replaceOnce text := by
  obtain ⟨replacements, last, factors⟩ := table.exists_factors text
  have again := factors.congr_on agree.holds_iff
  exact again.substitute_eq.trans factors.substitute_eq.symm

theorem agreesOn_add (irrelevant : key = "" ∨ ¬key.toList <:+: text) :
    AgreesOn text table (table.add key value) := by
  intro name solid occurs
  rw [add, Record.get?_insert, if_neg]
  rintro rfl
  exact irrelevant.elim solid fun absent => absent occurs

theorem pairwise_inTurn (table : TokenTable) : table.inTurn.Pairwise fun a b => a.1 < b.1 := by
  have : Std.Total fun a b : String × String => a.1 ≤ b.1 := ⟨fun a b => String.le_total a.1 b.1⟩
  have : IsTrans (String × String) fun a b => a.1 ≤ b.1 := ⟨fun _ _ _ => String.le_trans⟩
  have sorted : table.inTurn.Pairwise fun a b => a.1 ≤ b.1 := List.pairwise_mergeSort' _ _
  have distinct : table.inTurn.Pairwise fun a b => a.1 ≠ b.1 := by
    have perm : (table.inTurn.map Prod.fst).Perm table.names :=
      (List.mergeSort_perm table.entries _).map Prod.fst
    exact List.pairwise_map.mp (perm.nodup_iff.mpr table.distinct)
  refine (sorted.and distinct).imp ?_
  intro a b both
  exact Std.lt_of_le_of_ne both.1 both.2

theorem mem_inTurn_iff {entry : String × String} :
    entry ∈ table.inTurn ↔ table.get? entry.1 = some entry.2 := by
  rw [inTurn, List.mem_mergeSort, table.get?_eq_some_iff]

theorem mem_names_of_mem_inTurn {entry : String × String} (member : entry ∈ table.inTurn) :
    entry.1 ∈ table.names := by
  rw [mem_names_iff, mem_inTurn_iff.mp member]
  rfl

theorem eq_of_pairwise_of_mem {first second : List (String × String)}
    (sorted : first.Pairwise fun a b => a.1 < b.1) (ordered : second.Pairwise fun a b => a.1 < b.1)
    (same : ∀ entry, entry ∈ first ↔ entry ∈ second) : first = second := by
  have nodup {entries : List (String × String)} (sorted : entries.Pairwise fun a b => a.1 < b.1) :
      entries.Nodup := by
    refine sorted.imp ?_
    rintro a b less rfl
    exact String.lt_irrefl a.1 less
  refine List.Perm.eq_of_pairwise ?_ sorted ordered
    ((List.perm_ext_iff_of_nodup (nodup sorted) (nodup ordered)).mpr same)
  intro a b _ _ less more
  exact absurd more (String.lt_asymm less)

theorem mem_before_iff {entry : String × String} :
    entry ∈ table.before key ↔ entry ∈ table.inTurn ∧ entry.1 < key := by
  rw [before, List.mem_filter, decide_eq_true_eq]

theorem mem_after_iff {entry : String × String} :
    entry ∈ table.after key ↔ entry ∈ table.inTurn ∧ key < entry.1 := by
  rw [after, List.mem_filter, decide_eq_true_eq]

theorem pairwise_around {own : List (String × String)} (sorted : own.Pairwise fun a b => a.1 < b.1)
    (named : ∀ entry ∈ own, entry.1 = key) :
    (table.before key ++ (own ++ table.after key)).Pairwise fun a b => a.1 < b.1 := by
  refine List.pairwise_append.mpr ⟨table.pairwise_inTurn.filter _, ?_, ?_⟩
  · refine List.pairwise_append.mpr ⟨sorted, table.pairwise_inTurn.filter _, ?_⟩
    intro entry member later behind
    rw [named entry member]
    exact (mem_after_iff.mp behind).2
  · intro earlier front entry member
    have small := (mem_before_iff.mp front).2
    rcases List.mem_append.mp member with here | behind
    · rw [named entry here]
      exact small
    · exact String.lt_trans small (mem_after_iff.mp behind).2

theorem inTurn_of_absent (fresh : key ∉ table.names) :
    table.inTurn = table.before key ++ table.after key := by
  have sorted := @pairwise_around table key [] List.Pairwise.nil (List.forall_mem_nil _)
  refine eq_of_pairwise_of_mem table.pairwise_inTurn sorted ?_
  intro entry
  rw [List.mem_append, mem_before_iff, mem_after_iff, ← and_or_left]
  refine ⟨fun member => ⟨member, ?_⟩, And.left⟩
  have apart : entry.1 ≠ key := fun same => fresh (same ▸ mem_names_of_mem_inTurn member)
  rcases String.le_total entry.1 key with less | more
  · exact .inl (Std.lt_of_le_of_ne less apart)
  · exact .inr (Std.lt_of_le_of_ne more apart.symm)

/-- An entry that is added has its turn between those before and those after it. -/
theorem inTurn_add (fresh : key ∉ table.names) (value : String) :
    (table.add key value).inTurn = table.before key ++ ([(key, value)] ++ table.after key) := by
  refine eq_of_pairwise_of_mem (pairwise_inTurn _) (pairwise_around (List.pairwise_singleton _ _) ?_) ?_
  · intro entry member
    rw [List.mem_singleton.mp member]
  · intro entry
    have split : entry ∈ table.inTurn ↔ entry ∈ table.before key ∨ entry ∈ table.after key := by
      rw [inTurn_of_absent fresh, List.mem_append]
    rw [List.mem_append, List.mem_append, List.mem_singleton, or_left_comm, ← split, mem_inTurn_iff,
      mem_inTurn_iff, add, Record.get?_insert]
    by_cases named : entry.1 = key
    · have missing : table.get? entry.1 = none := by
        rw [named]
        exact Option.not_isSome_iff_eq_none.mp fun known => fresh ((mem_names_iff key).mpr known)
      rw [if_pos named, missing, Prod.ext_iff]
      simp [named, eq_comm]
    · have apart : entry ≠ (key, value) := fun same => named (by rw [same])
      simp [named, apart]

theorem replaceInTurn_add (fresh : key ∉ table.names) (value : String) (template : List Char) :
    (table.add key value).replaceInTurn template =
      (table.after key).foldl turn (turn (table.untilTurn key template) (key, value)) := by
  rw [replaceInTurn_eq, inTurn_add fresh, List.foldl_append, List.foldl_append]
  rfl

theorem replaceInTurn_of_absent (fresh : key ∉ table.names) (template : List Char) :
    table.replaceInTurn template = (table.after key).foldl turn (table.untilTurn key template) := by
  rw [replaceInTurn_eq, inTurn_of_absent fresh, List.foldl_append]
  rfl

/-- An entry whose key does not occur at its turn is without effect. -/
theorem replaceInTurn_add_of_not_infix (fresh : key ∉ table.names) (solid : key ≠ "")
    (absent : ¬key.toList <:+: table.untilTurn key template) :
    (table.add key value).replaceInTurn template = table.replaceInTurn template := by
  have idle : turn (table.untilTurn key template) (key, value) = table.untilTurn key template :=
    Text.replaceAll_of_not_infix (by simpa using solid) absent value.toList
  rw [replaceInTurn_add fresh, idle, replaceInTurn_of_absent fresh]

theorem untilTurn_empty (table : TokenTable) (template : List Char) :
    table.untilTurn "" template = template := by
  have none : table.before "" = [] := by
    apply List.eq_nil_iff_forall_not_mem.mpr
    intro entry member
    exact List.not_lt_nil entry.1.toList (mem_before_iff.mp member).2
  rw [untilTurn, none]
  rfl

/-- In its turn an empty key writes its value in front of the template and behind every
character. -/
theorem replaceInTurn_add_empty (fresh : "" ∉ table.names) (value : String) (template : List Char) :
    (table.add "" value).replaceInTurn template =
      table.replaceInTurn (value.toList ++ template.flatMap fun c => c :: value.toList) := by
  rw [replaceInTurn_add fresh, untilTurn_empty, replaceInTurn_of_absent fresh, untilTurn_empty]
  rfl

theorem pattern_add_empty (table : TokenTable) (value : String) :
    (table.add "" value).pattern = table.pattern := by
  apply pattern_congr
  intro key solid
  rw [add, Record.get?_insert, if_neg solid]

/-- One pass looks only at the keys that occur in a template. So an entry whose key is empty or does
not occur is without effect with every engine that accepts the pattern of the table, with the entry
and without it. An entry that stays idle in its turn is without effect exactly when the engine
answers both patterns alike or the template comes out the same in both ways. An empty key is in no
pattern; but where the pattern is refused it is never idle and writes its value everywhere. -/
theorem replace_irrelevant (engine : PatternEngine) (fresh : key ∉ table.names)
    (irrelevant : key = "" ∨ ¬key.toList <:+: template) :
    (∀ other, table.AgreesOn template other → other.replaceOnce template = table.replaceOnce template) ∧
    (engine.accepts (table.add key value).pattern = true → engine.accepts table.pattern = true →
      (table.add key value).replaceWith engine template = table.replaceWith engine template) ∧
    (key ≠ "" → ¬key.toList <:+: table.untilTurn key template →
      ((table.add key value).replaceWith engine template = table.replaceWith engine template ↔
        engine.accepts (table.add key value).pattern = engine.accepts table.pattern ∨
          table.replaceInTurn template = table.replaceOnce template)) ∧
    (key = "" → engine.accepts table.pattern = false →
      (table.add key value).replaceWith engine template =
        table.replaceWith engine (value.toList ++ template.flatMap fun c => c :: value.toList)) := by
  have once : (table.add key value).replaceOnce template = table.replaceOnce template :=
    (agreesOn_add irrelevant).replaceOnce_eq
  refine ⟨fun other agree => agree.replaceOnce_eq, ?_, ?_, ?_⟩
  · intro added accepted
    rw [replaceWith_of_accepts added, replaceWith_of_accepts accepted, once]
  · intro solid idle
    have turns : (table.add key value).replaceInTurn template = table.replaceInTurn template :=
      replaceInTurn_add_of_not_infix fresh solid idle
    cases added : engine.accepts (table.add key value).pattern <;>
      cases accepted : engine.accepts table.pattern
    · simp [replaceWith_of_refused added, replaceWith_of_refused accepted, turns]
    · simp [replaceWith_of_refused added, replaceWith_of_accepts accepted, turns]
    · simp [replaceWith_of_accepts added, replaceWith_of_refused accepted, once, eq_comm]
    · simp [replaceWith_of_accepts added, replaceWith_of_accepts accepted, once]
  · rintro rfl refused
    have added : engine.accepts (table.add "" value).pattern = false := by rw [pattern_add_empty, refused]
    rw [replaceWith_of_refused added, replaceWith_of_refused refused, replaceInTurn_add_empty fresh]

/-- A key that the replaced text has, but not the template. -/
theorem replace_irrelevant_overlapping :
    "abx" ∉ overlapping.names ∧ ¬"abx".toList <:+: "abaxb".toList ∧
      (overlapping.add "abx" "?").replace "abaxb".toList = "abxb".toList := by
  have fresh : "abx" ∉ overlapping.names := by decide
  have absent : ¬"abx".toList <:+: "abaxb".toList := by decide
  let engine : PatternEngine := .ofSize 100000 (by decide)
  have added : engine.accepts (overlapping.add "abx" "?").pattern = true :=
    accepts_pattern engine (by decide)
  have accepted : engine.accepts overlapping.pattern = true := accepts_pattern engine (by decide)
  have kept := (@replace_irrelevant overlapping "abaxb".toList "abx" "?" engine fresh
    (.inr absent)).2.1 added accepted
  refine ⟨fresh, absent, kept.trans ?_⟩
  rw [replaceWith_of_accepts accepted]
  decide

end

/-- A table where one value is another key. -/
def chained : TokenTable := .ofList [("a", "b"), ("b", "c")]

def longKey (size : Nat) : String := String.ofList (List.replicate size 'z')

theorem length_longKey (size : Nat) : (longKey size).toList.length = size := by
  rw [longKey, String.toList_ofList, List.length_replicate]

theorem length_le_utf8ByteSize (text : List Char) : text.length ≤ (String.ofList text).utf8ByteSize := by
  induction text with
  | nil => exact Nat.zero_le _
  | cons c text ih =>
    have solid := c.utf8Size_pos
    rw [List.length_cons, String.ofList_cons, String.utf8ByteSize_append, String.utf8ByteSize_singleton]
    omega

theorem longKey_absent {text : List Char} {size : Nat} (short : text.length < size) :
    ¬(longKey size).toList <:+: text := by
  intro occurs
  have long := occurs.length_le
  rw [length_longKey] at long
  omega

theorem mem_names_chained {key : String} (member : key ∈ chained.names) : key = "a" ∨ key = "b" := by
  have names : chained.names = ["a", "b"] := by decide
  simpa [names] using member

theorem longKey_fresh {size : Nat} (long : 1 < size) : longKey size ∉ chained.names := by
  intro member
  have short : (longKey size).toList.length = 1 := by
    rcases mem_names_chained member with same | same <;> rw [same] <;> rfl
  rw [length_longKey] at short
  omega

theorem untilTurn_longKey {size : Nat} (long : 1 < size) (template : List Char) :
    chained.untilTurn (longKey size) template = chained.replaceInTurn template := by
  have last : chained.before (longKey size) = chained.inTurn := by
    apply List.filter_eq_self.mpr
    intro entry member
    obtain ⟨more, rfl⟩ : ∃ more, size = more + 1 := ⟨size - 1, by omega⟩
    rw [decide_eq_true_eq, String.lt_iff, longKey, String.toList_ofList, List.replicate_succ]
    rcases mem_names_chained (mem_names_of_mem_inTurn member) with same | same <;> rw [same]
    · exact .rel (by decide)
    · exact .rel (by decide)
  rw [untilTurn, last, replaceInTurn_eq]

/-- A long key that occurs nowhere makes a value be taken for a key, once an engine refuses the
pattern. -/
theorem chained_of_refused {engine : PatternEngine} {size : Nat} (long : 1 < size)
    (refused : engine.accepts (chained.add (longKey size) "").pattern = false) :
    chained.replaceWith engine "a".toList = "b".toList ∧
      (chained.add (longKey size) "").replaceWith engine "a".toList = "c".toList := by
  have accepted : engine.accepts chained.pattern = true := accepts_pattern engine (by decide)
  refine ⟨(replaceWith_of_accepts accepted _).trans (by decide), ?_⟩
  have ordered : chained.inTurn = chained.entries := List.mergeSort_of_pairwise (by decide)
  have replaced : chained.replaceInTurn "a".toList = "c".toList := by
    rw [replaceInTurn_eq, ordered]
    decide
  have idle : ¬(longKey size).toList <:+: chained.untilTurn (longKey size) "a".toList := by
    rw [untilTurn_longKey long, replaced]
    exact longKey_absent long
  have solid : longKey size ≠ "" := by
    intro empty
    have counted := length_longKey size
    rw [empty] at counted
    cases counted
    cases long
  rw [replaceWith_of_refused refused,
    replaceInTurn_add_of_not_infix (longKey_fresh long) solid idle, replaced]

/-- With a key of 200000 characters that occurs nowhere, a value is taken for a key. -/
theorem long_key_changes_text :
    longKey 200000 ∉ chained.names ∧ ¬(longKey 200000).toList <:+: "a".toList ∧
      chained.replace "a".toList = "b".toList ∧
      (chained.add (longKey 200000) "").replace "a".toList = "c".toList := by
  have fresh : longKey 200000 ∉ chained.names := longKey_fresh (by decide)
  have heavy : 100000 < patternSize (chained.add (longKey 200000) "").pattern := by
    have bytes := length_le_utf8ByteSize (List.replicate 200000 'z')
    rw [List.length_replicate] at bytes
    rw [patternSize_pattern, add, Record.names_insert, if_neg fresh, List.map_append, List.sum_append,
      List.map_singleton, List.sum_singleton, longKey]
    omega
  have refused : (PatternEngine.ofSize 100000 (by decide)).accepts
      (chained.add (longKey 200000) "").pattern = false := by
    rw [PatternEngine.ofSize, decide_eq_false_iff_not]
    exact Nat.not_le.mpr heavy
  have changed := chained_of_refused (by decide) refused
  exact ⟨fresh, longKey_absent (by decide), changed⟩

end Template.TokenTable
end DueReminders
