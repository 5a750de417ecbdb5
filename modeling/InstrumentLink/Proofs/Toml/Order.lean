import InstrumentLink.Proofs.Toml.Sound

/-!
What a table shows under its keys, when no key stands twice. Entries in another order show the same, and tables that are
in another order at any depth show the same texts and numbers.
-/

namespace InstrumentLink.Toml

section Lookup

variable {α : Type} {entries others : List (String × α)} {key : String} {value : α}

theorem lookup_of_mem (apart : Apart entries) (member : (key, value) ∈ entries) : entries.lookup key = some value := by
  obtain ⟨front, back, rfl⟩ := List.append_of_mem member
  refine List.lookup_eq_some_iff.mpr ⟨front, back, rfl, fun entry before => ?_⟩
  rw [Apart, List.map_append, List.map_cons] at apart
  have different := (List.nodup_append.mp apart).2.2 _ (List.mem_map_of_mem before) _ (List.mem_cons_self ..)
  exact bne_iff_ne.mpr (Ne.symm different)

theorem lookup_eq_some_iff_mem (apart : Apart entries) : entries.lookup key = some value ↔ (key, value) ∈ entries :=
  ⟨mem_of_lookup, lookup_of_mem apart⟩

theorem forall_mem_iff_lookup (apart : Apart entries) {holds : String → α → Prop} :
    (∀ entry ∈ entries, holds entry.1 entry.2) ↔ ∀ key value, entries.lookup key = some value → holds key value := by
  simp only [lookup_eq_some_iff_mem apart, Prod.forall]

theorem lookup_perm (apart : Apart entries) (perm : entries.Perm others) : entries.lookup key = others.lookup key := by
  have apartToo : Apart others := (perm.map Prod.fst).nodup_iff.mp apart
  refine Option.ext fun value => ?_
  rw [lookup_eq_some_iff_mem apart, lookup_eq_some_iff_mem apartToo, perm.mem_iff]

end Lookup

def only (names : List String) (entries : Entries) : Entries := entries.filter fun entry => entry.1 ∈ names

theorem lookup_only {names : List String} {key : String} (known : key ∈ names) (entries : Entries) :
    (only names entries).lookup key = entries.lookup key := by
  induction entries with
  | nil => rfl
  | cons entry entries ih =>
    rw [only, List.filter_cons]
    by_cases same : key = entry.1
    · subst same
      rw [if_pos (decide_eq_true known), List.lookup_cons_self, List.lookup_cons_self]
    · have other : (key == entry.1) = false := beq_eq_false_iff_ne.mpr same
      rw [List.lookup_cons, other]
      split
      · rw [List.lookup_cons, other]
        exact ih
      · exact ih

def tableAt (key : String) (entries : Entries) : Entries :=
  match entries.lookup key with
  | some (.table inner) => inner
  | _ => []

theorem tableAt_eq {key : String} {entries inner : Entries} (found : entries.lookup key = some (.table inner)) :
    tableAt key entries = inner := by
  rw [tableAt, found]

theorem tableAt_of_missing {key : String} {entries : Entries} (missing : entries.lookup key = none) :
    tableAt key entries = [] := by
  rw [tableAt, missing]

def OnlyTableAt (key : String) (entries : Entries) : Prop :=
  ∀ value, entries.lookup key = some value → ∃ inner, value = .table inner

theorem OnlyTableAt.forall_iff {key : String} {entries : Entries} (isTable : OnlyTableAt key entries)
    {holds : Value → Prop} :
    (∀ value, entries.lookup key = some value → holds value) ↔
      entries.lookup key = none ∨ holds (.table (tableAt key entries)) := by
  cases found : entries.lookup key with
  | none => simp
  | some value =>
    obtain ⟨inner, rfl⟩ := isTable value found
    simp [tableAt_eq found]

theorem Value.Sound.tableAt {entries : Entries} (sound : (Value.table entries).Sound) (key : String) :
    (Value.table (Toml.tableAt key entries)).Sound := by
  have .table _ inner := sound
  unfold Toml.tableAt
  split
  next found => exact inner _ (mem_of_lookup found)
  next => exact .table List.nodup_nil fun _ member => nomatch member

/-- The same but for the order of the entries, in a table and in those within it. -/
inductive Value.Reordered : Value → Value → Prop
  | same (value : Value) : Reordered value value
  | trans {first second third : Value} : Reordered first second → Reordered second third → Reordered first third
  | perm {entries others : Entries} : entries.Perm others → Reordered (.table entries) (.table others)
  | entry {old new : Value} (front : Entries) (key : String) (back : Entries) :
    Reordered old new → Reordered (.table (front ++ (key, old) :: back)) (.table (front ++ (key, new) :: back))
  | item {old new : Value} (front back : List Value) :
    Reordered old new → Reordered (.array (front ++ old :: back)) (.array (front ++ new :: back))

def Value.IsPlain : Value → Prop
  | .array _ | .table _ => False
  | _ => True

namespace Value.Reordered

variable {first second : Value} {entries others : Entries}

theorem eq_plain_iff (reordered : Reordered first second) {value : Value} (plain : value.IsPlain) :
    first = value ↔ second = value := by
  induction reordered with
  | same => exact Iff.rfl
  | trans _ _ before after => exact before.trans after
  | perm | entry | item =>
    constructor
    all_goals
      rintro rfl
      exact plain.elim

theorem isTable (reordered : Reordered (.table entries) second) : ∃ others, second = .table others := by
  generalize isFirst : Value.table entries = first at reordered
  induction reordered generalizing entries with
  | same => exact ⟨entries, isFirst.symm⟩
  | trans _ _ before after =>
    obtain ⟨middle, rfl⟩ := before isFirst
    exact after rfl
  | perm | entry => exact ⟨_, rfl⟩
  | item => cases isFirst

theorem lookup (reordered : Reordered first second) (isTable : first = .table entries) (apart : Apart entries) :
    ∃ others, second = .table others ∧ Apart others ∧
      ∀ key, Option.Rel Reordered (entries.lookup key) (others.lookup key) := by
  have self : ∀ shown : Option Value, Option.Rel Reordered shown shown := by
    rintro (_ | value)
    · exact .none
    · exact .some (.same value)
  -- Only where entries are permuted do the keys have to be apart, lest a later value of a key come before the first.
  induction reordered generalizing entries with
  | same => exact ⟨entries, isTable, apart, fun key => self _⟩
  | trans _ _ before after =>
    obtain ⟨middle, isMiddle, apart, old⟩ := before isTable apart
    obtain ⟨others, isOther, apart, new⟩ := after isMiddle apart
    refine ⟨others, isOther, apart, fun key => ?_⟩
    have old := old key
    have new := new key
    revert old new
    generalize entries.lookup key = start, middle.lookup key = between, others.lookup key = finish
    rintro (⟨before⟩ | _) new
    · cases new with
      | some after => exact .some (before.trans after)
    · exact new
  | perm swapped =>
    cases isTable
    exact ⟨_, rfl, (swapped.map Prod.fst).nodup_iff.mp apart, fun key => lookup_perm apart swapped ▸ self _⟩
  | @entry old new front name back inner _ =>
    cases isTable
    have sameKeys : (front ++ (name, old) :: back).map Prod.fst = (front ++ (name, new) :: back).map Prod.fst := by
      simp
    refine ⟨_, rfl, by rwa [Apart, ← sameKeys], fun key => ?_⟩
    rw [List.lookup_append, List.lookup_append]
    cases front.lookup key with
    | some value => exact self _
    | none =>
      rw [Option.none_or, Option.none_or, List.lookup_cons, List.lookup_cons]
      split
      · exact .some inner
      · exact self _
  | item => cases isTable

end Value.Reordered

/-- Tables with the same keys, that show the same texts and numbers. -/
structure Similar (entries others : Entries) : Prop where
  missing (key : String) : entries.lookup key = none ↔ others.lookup key = none
  plain (key : String) {value : Value} : value.IsPlain →
    (entries.lookup key = some value ↔ others.lookup key = some value)

theorem Similar.refl (entries : Entries) : Similar entries entries := ⟨fun _ => Iff.rfl, fun _ _ _ => Iff.rfl⟩

theorem Similar.allowed {entries others : Entries} (similar : Similar entries others) {key : String}
    {allowed : Value → Prop} (plain : ∀ value, allowed value → value.IsPlain)
    (each : ∀ value, entries.lookup key = some value → allowed value) :
    ∀ value, others.lookup key = some value → allowed value := by
  intro value found
  cases before : entries.lookup key with
  | none =>
    rw [(similar.missing key).mp before] at found
    cases found
  | some old =>
    have isAllowed := each old before
    rw [(similar.plain key (plain old isAllowed)).mp before] at found
    exact Option.some.inj found ▸ isAllowed

theorem Similar.symm {entries others : Entries} (similar : Similar entries others) : Similar others entries :=
  ⟨fun key => (similar.missing key).symm, fun key _ isPlain => (similar.plain key isPlain).symm⟩

namespace Value.Reordered

variable {root others entries : Entries} {key : String}

theorem eq_none_iff_of_rel {first second : Option Value} (rel : Option.Rel Reordered first second) :
    first = none ↔ second = none := by
  cases rel <;> simp

theorem eq_some_iff_of_rel {first second : Option Value} (rel : Option.Rel Reordered first second) {value : Value}
    (plain : value.IsPlain) : first = some value ↔ second = some value := by
  cases rel with
  | none => simp
  | some reordered => rw [Option.some_inj, Option.some_inj, reordered.eq_plain_iff plain]

theorem exists_table (reordered : Reordered (.table root) (.table others)) (apart : Apart root)
    (found : root.lookup key = some (.table entries)) :
    ∃ inner, others.lookup key = some (.table inner) ∧ Reordered (.table entries) (.table inner) := by
  obtain ⟨_, same, -, shown⟩ := reordered.lookup rfl apart
  cases same
  have here := shown key
  rw [found] at here
  generalize others.lookup key = there at here
  cases here with
  | some inner =>
    obtain ⟨_, rfl⟩ := inner.isTable
    exact ⟨_, rfl, inner⟩

theorem similar (reordered : Reordered (.table entries) (.table others)) (apart : Apart entries) :
    Similar entries others := by
  obtain ⟨_, same, -, shown⟩ := reordered.lookup rfl apart
  cases same
  exact ⟨fun key => eq_none_iff_of_rel (shown key), fun key _ plain => eq_some_iff_of_rel (shown key) plain⟩

theorem similar_tableAt (reordered : Reordered (.table root) (.table others)) (sound : (Value.table root).Sound)
    (isTable : OnlyTableAt key root) : Similar (tableAt key root) (tableAt key others) := by
  have .table apart _ := sound
  cases found : root.lookup key with
  | none =>
    have missing := ((reordered.similar apart).missing key).mp found
    rw [tableAt_of_missing found, tableAt_of_missing missing]
    exact .refl []
  | some value =>
    obtain ⟨entries, rfl⟩ := isTable value found
    obtain ⟨inner, there, within⟩ := reordered.exists_table apart found
    have .table innerApart _ := sound.tableAt key
    rw [tableAt_eq found] at innerApart ⊢
    rw [tableAt_eq there]
    exact within.similar innerApart

theorem onlyTableAt (reordered : Reordered (.table root) (.table others)) (apart : Apart root)
    (isTable : OnlyTableAt key root) : OnlyTableAt key others := by
  intro value found
  cases before : root.lookup key with
  | none =>
    rw [((reordered.similar apart).missing key).mp before] at found
    cases found
  | some old =>
    obtain ⟨entries, rfl⟩ := isTable old before
    obtain ⟨inner, there, -⟩ := reordered.exists_table apart before
    exact ⟨inner, Option.some.inj (found.symm.trans there)⟩

end Value.Reordered

end InstrumentLink.Toml
