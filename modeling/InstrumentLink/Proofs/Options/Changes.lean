import Mathlib.Data.List.Nodup
import InstrumentLink.Options.Basic
import InstrumentLink.Proofs.Settings

/-!
Options as changes. Options say at most one change of each field, and in whatever order changes of different fields are
given, they come to the same options.
-/

namespace InstrumentLink

namespace Change

variable {changes : List Change} {place : Field} {change : Change}

theorem of_lastOf (last : lastOf place changes = some change) : change ∈ changes ∧ change.field = place := by
  simpa using List.mem_filter.mp (List.mem_of_getLast? last)

theorem lastOf_eq_some_iff (once : (changes.map field).Nodup) :
    lastOf place changes = some change ↔ change ∈ changes ∧ change.field = place := by
  refine ⟨of_lastOf, ?_⟩
  rintro ⟨member, rfl⟩
  have filtered : (changes.filter fun other => other.field = change.field) ≠ [] :=
    List.ne_nil_of_mem (List.mem_filter.mpr ⟨member, decide_eq_true rfl⟩)
  obtain ⟨other, last⟩ : ∃ other, lastOf change.field changes = some other :=
    ⟨_, List.getLast?_eq_some_getLast filtered⟩
  obtain ⟨there, same⟩ := of_lastOf last
  rw [last, List.inj_on_of_nodup_map once there member same]

end Change

namespace Options

def give (change : Change) (options : Options) : Options :=
  match change with
  | .dataHost host => { options with dataHost := some host }
  | .dataPort port => { options with dataPort := some port }
  | .commandHost host => { options with commandHost := some host }
  | .commandPort port => { options with commandPort := some port }
  | .devicePath path => { options with device := some path }
  | .baudRate rate => { options with baudRate := some rate }

def giveAll (changes : List Change) (options : Options) : Options :=
  changes.foldl (fun options change => options.give change) options

def change? (options : Options) : Field → Option Change
  | .dataHost => options.dataHost.map .dataHost
  | .dataPort => options.dataPort.map .dataPort
  | .commandHost => options.commandHost.map .commandHost
  | .commandPort => options.commandPort.map .commandPort
  | .devicePath => options.device.map .devicePath
  | .baudRate => options.baudRate.map .baudRate

variable {options : Options}

theorem change?_give (change : Change) (options : Options) (place : Field) :
    (options.give change).change? place = if change.field = place then some change else options.change? place := by
  cases change <;> cases place <;> rfl

theorem field_of_change? {place : Field} {change : Change} (said : options.change? place = some change) :
    change.field = place := by
  cases place <;> obtain ⟨_, _, rfl⟩ := Option.map_eq_some_iff.mp said <;> rfl

theorem change?_giveAll (changes : List Change) (options : Options) (place : Field) :
    (options.giveAll changes).change? place = (Change.lastOf place changes).or (options.change? place) := by
  induction changes generalizing options with
  | nil => rfl
  | cons change rest ih =>
    have unrolled : options.giveAll (change :: rest) = (options.give change).giveAll rest := rfl
    rw [unrolled, ih, change?_give, Change.lastOf_cons, Option.or_assoc]
    by_cases same : change.field = place
    · rw [if_pos same, if_pos same, Option.some_or]
    · rw [if_neg same, if_neg same, Option.none_or]

theorem changes_eq (options : Options) :
    options.changes = [Field.dataHost, .dataPort, .commandHost, .commandPort, .devicePath, .baudRate].filterMap
      options.change? := rfl

theorem mem_changes {change : Change} : change ∈ options.changes ↔ options.change? change.field = some change := by
  rw [changes_eq, List.mem_filterMap]
  constructor
  · rintro ⟨place, -, said⟩
    rwa [field_of_change? said]
  · intro said
    refine ⟨change.field, ?_, said⟩
    generalize change.field = place
    cases place <;> decide

theorem nodup_changes (options : Options) : options.changes.Nodup := by
  rw [changes_eq]
  refine List.Nodup.filterMap (fun first second change here there => ?_) (by decide)
  exact (field_of_change? here).symm.trans (field_of_change? there)

theorem nodup_fields (options : Options) : (options.changes.map Change.field).Nodup := by
  refine List.Nodup.map_on (fun first here second there same => ?_) options.nodup_changes
  have said := mem_changes.mp here
  rw [same, mem_changes.mp there] at said
  exact (Option.some.inj said).symm

theorem rest_giveAll (changes : List Change) (options : Options) :
    (options.giveAll changes).config = options.config ∧ (options.giveAll changes).verbose = options.verbose ∧
      (options.giveAll changes).once = options.once := by
  induction changes generalizing options with
  | nil => exact ⟨rfl, rfl, rfl⟩
  | cons change rest ih =>
    obtain ⟨config, verbose, once⟩ := ih (options.give change)
    have same : (options.give change).config = options.config ∧ (options.give change).verbose = options.verbose ∧
        (options.give change).once = options.once := by
      cases change <;> exact ⟨rfl, rfl, rfl⟩
    exact ⟨config.trans same.1, verbose.trans same.2.1, once.trans same.2.2⟩

theorem ext_change? {first second : Options} (config : first.config = second.config)
    (verbose : first.verbose = second.verbose) (once : first.once = second.once)
    (same : ∀ place, first.change? place = second.change? place) : first = second := by
  have dataHost := Option.map_injective (fun _ _ => Change.dataHost.inj) (same .dataHost)
  have dataPort := Option.map_injective (fun _ _ => Change.dataPort.inj) (same .dataPort)
  have commandHost := Option.map_injective (fun _ _ => Change.commandHost.inj) (same .commandHost)
  have commandPort := Option.map_injective (fun _ _ => Change.commandPort.inj) (same .commandPort)
  have device := Option.map_injective (fun _ _ => Change.devicePath.inj) (same .devicePath)
  have baudRate := Option.map_injective (fun _ _ => Change.baudRate.inj) (same .baudRate)
  cases first
  cases second
  simp_all only

theorem giveAll_perm {changes others : List Change} (order : others.Perm changes)
    (once : (changes.map Change.field).Nodup) (options : Options) :
    options.giveAll others = options.giveAll changes := by
  have onceToo : (others.map Change.field).Nodup := (order.map Change.field).nodup_iff.mpr once
  obtain ⟨config, verbose, single⟩ := options.rest_giveAll changes
  obtain ⟨configToo, verboseToo, singleToo⟩ := options.rest_giveAll others
  refine ext_change? (configToo.trans config.symm) (verboseToo.trans verbose.symm) (singleToo.trans single.symm) ?_
  intro place
  have last : Change.lastOf place others = Change.lastOf place changes := by
    ext change
    rw [Change.lastOf_eq_some_iff onceToo, Change.lastOf_eq_some_iff once, order.mem_iff]
  rw [change?_giveAll, change?_giveAll, last]

theorem lastOf_changes (options : Options) (place : Field) :
    Change.lastOf place options.changes = options.change? place := by
  ext change
  rw [Change.lastOf_eq_some_iff options.nodup_fields, mem_changes]
  constructor
  · rintro ⟨said, rfl⟩
    exact said
  · intro said
    have same := field_of_change? said
    exact ⟨by rwa [same], same⟩

section Given

variable {changes : List Change} (once : (changes.map Change.field).Nodup)

include once

/-- The options that some changes of different fields come to say these changes, and no others. -/
theorem change?_default (change : Change) :
    (default.giveAll changes).change? change.field = some change ↔ change ∈ changes := by
  have unsaid : default.change? change.field = none := by cases change <;> rfl
  rw [change?_giveAll, unsaid, Option.or_none, Change.lastOf_eq_some_iff once]
  exact and_iff_left rfl

theorem change?_default_of_away {place : Field} (away : ∀ change ∈ changes, change.field ≠ place) :
    (default.giveAll changes).change? place = none := by
  refine Option.eq_none_iff_forall_ne_some.mpr fun change said => ?_
  have same := field_of_change? said
  subst same
  exact away change ((change?_default once change).mp said) rfl

theorem changes_giveAll_perm : (default.giveAll changes).changes.Perm changes := by
  refine (List.perm_ext_iff_of_nodup (nodup_changes _) once.of_map).mpr fun change => ?_
  rw [mem_changes, change?_default once]

end Given

end Options

theorem ConnectionSettings.value?_override (settings : ConnectionSettings) (options : Options) (place : Field) :
    (settings.kept.setAll options.changes).value? place =
      if settings.kind.keeps place then (options.change? place).or (settings.value? place)
      else (unset settings.kind).value? place := by
  rw [value?_setAll, value?_kept, kind_kept, options.lastOf_changes]
  split <;> rfl
end InstrumentLink
