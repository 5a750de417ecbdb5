import InstrumentLink.Toml.Reader

/-!
Whatever a document holds, its whole numbers are below 2 to the 63, and none of its tables has a key twice. It is so for
every number that is read, and what puts tables together adds a key only where it is missing.
-/

namespace InstrumentLink.Toml

theorem mem_of_lookup {α : Type} {key : String} {entries : List (String × α)} {found : α}
    (shown : entries.lookup key = some found) : (key, found) ∈ entries := by
  obtain ⟨front, back, rfl, -⟩ := List.lookup_eq_some_iff.mp shown
  simp

abbrev Apart {α : Type} (entries : List (String × α)) : Prop := (entries.map Prod.fst).Nodup

theorem Apart.concat {α : Type} {key : String} {entries : List (String × α)} (apart : Apart entries)
    (missing : entries.lookup key = none) (new : α) : Apart (entries ++ [(key, new)]) := by
  have absent : key ∉ entries.map Prod.fst := by
    intro member
    obtain ⟨⟨_, old⟩, inside, rfl⟩ := List.mem_map.mp member
    exact absurd (List.lookup_eq_none_iff.mp missing _ inside) (by simp)
  rw [Apart, List.map_append]
  refine List.nodup_append.mpr ⟨apart, by simp, ?_⟩
  rintro name member _ isKey rfl
  rw [List.mem_singleton.mp isKey] at member
  exact absent member

/-- A value whose whole numbers, at any depth, are below 2 to the 63, and whose tables have no key twice. -/
inductive Value.Sound : Value → Prop
  | string (text : String) : Sound (.string text)
  | integer {n : Int} : n < 0x8000000000000000 → Sound (.integer n)
  | float (x : Binary64) : Sound (.float x)
  | boolean (b : Bool) : Sound (.boolean b)
  | moment : Sound .moment
  | array {items : List Value} : (∀ item ∈ items, Sound item) → Sound (.array items)
  | table {entries : Entries} : Apart entries → (∀ entry ∈ entries, Sound entry.2) → Sound (.table entries)

inductive Node.Sound : Node → Prop
  | value {value : Value} : value.Sound → Sound (.value value)
  | table {implicit dotted : Bool} {entries : Nodes} :
    Apart entries → (∀ entry ∈ entries, Sound entry.2) → Sound (.table implicit dotted entries)
  | tables {items : List Nodes} :
    (∀ entries ∈ items, Apart entries) → (∀ entries ∈ items, ∀ entry ∈ entries, Sound entry.2) → Sound (.tables items)

structure Nodes.Sound (entries : Nodes) : Prop where
  apart : Apart entries
  inner : ∀ entry ∈ entries, entry.2.Sound

theorem Node.sound_table {implicit dotted : Bool} {entries : Nodes} :
    (Node.table implicit dotted entries).Sound ↔ entries.Sound :=
  ⟨fun (.table apart inner) => ⟨apart, inner⟩, fun sound => .table sound.apart sound.inner⟩

theorem Node.sound_tables {items : List Nodes} : (Node.tables items).Sound ↔ ∀ entries ∈ items, entries.Sound where
  mp := fun (.tables apart inner) entries member => ⟨apart entries member, inner entries member⟩
  mpr sound := .tables (fun entries member => (sound entries member).apart) fun entries member =>
    (sound entries member).inner

theorem keys_valuesOf (entries : Nodes) : (valuesOf entries).map Prod.fst = entries.map Prod.fst := by
  induction entries with
  | nil => rfl
  | cons entry entries ih => exact congrArg (entry.1 :: ·) ih

theorem Apart.valuesOf {entries : Nodes} (apart : Apart entries) : Apart (valuesOf entries) := by
  rwa [Apart, keys_valuesOf]

mutual

theorem Node.Sound.toValue : (node : Node) → node.Sound → node.toValue.Sound
  | .value _, .value sound => sound
  | .table _ _ entries, .table apart sound => .table apart.valuesOf (sound_valuesOf entries sound)
  | .tables items, .tables apart sound => .array (sound_tablesOf items apart sound)

theorem sound_valuesOf : (entries : Nodes) → (∀ entry ∈ entries, entry.2.Sound) →
    ∀ entry ∈ valuesOf entries, entry.2.Sound
  | [], _, _, member => nomatch member
  | (_, node) :: entries, sound, _, member => by
    rcases List.mem_cons.mp member with rfl | member
    · exact Node.Sound.toValue node (sound _ (List.mem_cons_self ..))
    · exact sound_valuesOf entries (fun entry inside => sound entry (List.mem_cons_of_mem _ inside)) _ member

theorem sound_tablesOf : (items : List Nodes) → (∀ entries ∈ items, Apart entries) →
    (∀ entries ∈ items, ∀ entry ∈ entries, entry.2.Sound) → ∀ table ∈ tablesOf items, table.Sound
  | [], _, _, _, member => nomatch member
  | entries :: items, apart, sound, _, member => by
    rcases List.mem_cons.mp member with rfl | member
    · exact .table (apart _ (List.mem_cons_self ..)).valuesOf (sound_valuesOf entries (sound _ (List.mem_cons_self ..)))
    · exact sound_tablesOf items (fun entry inside => apart entry (List.mem_cons_of_mem _ inside))
        (fun entry inside => sound entry (List.mem_cons_of_mem _ inside)) _ member

end

theorem Nodes.Sound.table {entries : Nodes} (sound : entries.Sound) : (Value.table (valuesOf entries)).Sound :=
  .table sound.apart.valuesOf (sound_valuesOf entries sound.inner)

/-! Putting tables together. -/

namespace Nodes

variable {key : String} {entries result : Nodes} {node : Node} {path : List String}

theorem Sound.nil : Sound [] := ⟨List.nodup_nil, fun _ member => nomatch member⟩

theorem Sound.concat (sound : entries.Sound) (missing : List.lookup key entries = none) (new : node.Sound) :
    Sound (entries ++ [(key, node)]) where
  apart := sound.apart.concat missing node
  inner := by
    intro entry member
    rcases List.mem_append.mp member with old | last
    · exact sound.inner entry old
    · rw [List.mem_singleton.mp last]
      exact new

theorem Sound.lookup (sound : entries.Sound) (found : List.lookup key entries = some node) : node.Sound :=
  sound.inner (key, node) (mem_of_lookup found)

theorem keys_replace (key : String) (node : Node) (entries : Nodes) :
    (Nodes.replace key node entries).map Prod.fst = entries.map Prod.fst := by
  rw [Nodes.replace, List.map_map]
  refine List.map_congr_left fun entry _ => ?_
  dsimp only [Function.comp]
  split
  next same => exact same.symm
  next => rfl

theorem Sound.replace (sound : entries.Sound) (new : node.Sound) : Sound (Nodes.replace key node entries) where
  apart := by
    rw [Apart, keys_replace]
    exact sound.apart
  inner := by
    intro entry member
    obtain ⟨old, inside, rfl⟩ := List.mem_map.mp member
    split
    · exact new
    · exact sound.inner old inside

theorem Sound.erase (sound : entries.Sound) : Sound (Nodes.erase key entries) where
  apart := sound.apart.sublist (List.filter_sublist.map Prod.fst)
  inner := fun entry member => sound.inner entry (List.mem_filter.mp member).1

theorem lookup_erase (key : String) (entries : Nodes) : List.lookup key (Nodes.erase key entries) = none := by
  rw [List.lookup_eq_none_iff]
  intro entry member
  rw [bne_iff_ne]
  rintro rfl
  exact of_decide_eq_true (List.mem_filter.mp member).2 rfl

theorem lookup_replace (found : (List.lookup key entries).isSome) :
    List.lookup key (Nodes.replace key node entries) = some node := by
  induction entries with
  | nil => cases found
  | cons entry entries ih =>
    obtain ⟨name, old⟩ := entry
    rw [Nodes.replace, List.map_cons]
    by_cases same : name = key
    · rw [if_pos same, List.lookup_cons_self]
    · have other : (key == name) = false := beq_eq_false_iff_ne.mpr (Ne.symm same)
      rw [List.lookup_cons, other] at found
      rw [if_neg same, List.lookup_cons, other]
      exact ih found

theorem lookup_concat (missing : List.lookup key entries = none) :
    List.lookup key (entries ++ [(key, node)]) = some node := by
  rw [List.lookup_append, missing, Option.none_or, List.lookup_cons_self]

end Nodes

open Document.openTable (entriesAt)

theorem entriesAt_nil (path : List String) : entriesAt path [] = [] := by
  cases path <;> rfl

namespace Nodes

variable {key : String} {entries result : Nodes} {node : Node} {path : List String}

theorem within_entriesAt {byKey : Bool} {change : Bool → Nodes → Option Nodes} {dotted : Bool}
    (changed : Nodes.within byKey change dotted path entries = some result) :
    ∃ dotted, change dotted (entriesAt path entries) = some (entriesAt path result) := by
  induction path generalizing dotted entries result with
  | nil => exact ⟨dotted, changed⟩
  | cons key path ih =>
    unfold Nodes.within at changed
    split at changed
    next missing =>
      simp only [bind, pure, Option.bind_eq_some_iff, Option.some.injEq] at changed
      obtain ⟨inner, made, rfl⟩ := changed
      rw [entriesAt, missing, entriesAt, lookup_concat missing]
      rw [← entriesAt_nil path]
      exact ih made
    · cases changed
    next found =>
      split at changed
      · cases changed
      · simp only [bind, pure, Option.bind_eq_some_iff, Option.some.injEq] at changed
        obtain ⟨inner, made, rfl⟩ := changed
        rw [entriesAt, found, entriesAt, lookup_replace (by rw [found]; rfl)]
        exact ih made
    next items found =>
      simp only [bind, pure, Option.bind_eq_some_iff, Option.some.injEq] at changed
      obtain ⟨last, isLast, inner, made, rfl⟩ := changed
      rw [entriesAt, found, entriesAt, lookup_replace (by rw [found]; rfl)]
      simp only [List.getLastD_eq_getLast?, isLast, Option.getD_some, List.getLast?_append, List.getLast?_singleton,
        Option.some_or]
      exact ih made

/-- A change at the end of a path keeps a document sound if it keeps the table sound that it is made to. -/
theorem Sound.within {byKey : Bool} {change : Bool → Nodes → Option Nodes} {dotted : Bool}
    (kept : ∀ {dotted result}, Sound (entriesAt path entries) → change dotted (entriesAt path entries) = some result →
      Sound result)
    (sound : entries.Sound) (changed : Nodes.within byKey change dotted path entries = some result) :
    result.Sound := by
  -- On the way each table keeps its other entries, and gets back the one that the path goes through.
  induction path generalizing dotted entries result with
  | nil => exact kept sound changed
  | cons key path ih =>
    unfold Nodes.within at changed
    unfold entriesAt at kept
    split at changed
    next missing =>
      simp only [bind, pure, Option.bind_eq_some_iff, Option.some.injEq] at changed
      obtain ⟨inner, made, rfl⟩ := changed
      rw [missing, ← entriesAt_nil path] at kept
      exact sound.concat missing (Node.sound_table.mpr (ih kept .nil made))
    · cases changed
    next found =>
      split at changed
      · cases changed
      · simp only [bind, pure, Option.bind_eq_some_iff, Option.some.injEq] at changed
        obtain ⟨inner, made, rfl⟩ := changed
        rw [found] at kept
        have old := Node.sound_table.mp (sound.lookup found)
        exact sound.replace (Node.sound_table.mpr (ih kept old made))
    next items found =>
      simp only [bind, pure, Option.bind_eq_some_iff, Option.some.injEq] at changed
      obtain ⟨last, isLast, inner, made, rfl⟩ := changed
      rw [found] at kept
      simp only [List.getLastD_eq_getLast?, isLast, Option.getD_some] at kept
      have old := Node.sound_tables.mp (sound.lookup found)
      have new := ih kept (old last (List.mem_of_getLast? isLast)) made
      refine sound.replace (Node.sound_tables.mpr (List.forall_mem_append.mpr ⟨fun table others => ?_, ?_⟩))
      · exact old table (List.dropLast_subset _ others)
      · exact List.forall_mem_singleton.mpr new

theorem Sound.assign {path : List String} {value : Value} (sound : entries.Sound) (new : value.Sound)
    (assigned : Nodes.assign path value entries = some result) : result.Sound := by
  simp only [Nodes.assign, bind, Option.bind_eq_some_iff] at assigned
  obtain ⟨key, -, changed⟩ := assigned
  refine sound.within (fun {_ _} before added => ?_) changed
  split at added
  · cases added
  next free =>
    cases added
    have missing := Option.not_isSome_iff_eq_none.mp fun there => free (.inr there)
    exact before.concat missing (.value new)

end Nodes

namespace Document

/-- What is finished is sound, and the table at hand, which has its place still free if its header stands in single
brackets. -/
structure Sound (document : Document) : Prop where
  root : document.root.Sound
  entries : document.entries.Sound
  vacant : ∀ key, document.path.getLast? = some key → document.repeated = false →
    List.lookup key (entriesAt document.path.dropLast document.root) = none

variable {document result : Document} {path : List String}

theorem Sound.empty : Sound empty := ⟨.nil, .nil, fun _ last => nomatch last⟩

theorem Sound.assign (sound : document.Sound) {value : Value} (new : value.Sound)
    (assigned : document.assign path value = some result) : result.Sound := by
  simp only [Document.assign, bind, pure, Option.bind_eq_some_iff, Option.some.injEq] at assigned
  obtain ⟨entries, added, rfl⟩ := assigned
  exact ⟨sound.root, sound.entries.assign new added, sound.vacant⟩

theorem Sound.close (sound : document.Sound) {root : Nodes} (closed : document.close = some root) : root.Sound := by
  unfold Document.close at closed
  split at closed
  · cases closed
    exact sound.entries
  next key last =>
    refine sound.root.within (fun {_ _} before added => ?_) closed
    split at added
    · split at added
      next found =>
        cases added
        have old := Node.sound_tables.mp (before.lookup found)
        have last := List.forall_mem_singleton.mpr sound.entries
        exact before.replace (Node.sound_tables.mpr (List.forall_mem_append.mpr ⟨old, last⟩))
      · cases added
    next single =>
      cases added
      have missing := sound.vacant key last (by simpa using single)
      exact before.concat missing (Node.sound_table.mpr sound.entries)

theorem sound_entriesAt {entries : Nodes} (sound : entries.Sound) : (entriesAt path entries).Sound := by
  induction path generalizing entries with
  | nil => exact sound
  | cons key path ih =>
    unfold openTable.entriesAt
    split
    next found => exact ih (Node.sound_table.mp (sound.lookup found))
    next items found =>
      refine ih ?_
      rw [List.getLastD_eq_getLast?]
      cases last : items.getLast? with
      | none => exact .nil
      | some table => exact Node.sound_tables.mp (sound.lookup found) table (List.mem_of_getLast? last)
    · exact .nil

/-- A header leaves its place free, whether there was no table yet or one on the way to another. -/
theorem Sound.openTable (sound : document.Sound) (opened : document.openTable path = some result) : result.Sound := by
  simp only [Document.openTable, bind, pure, Option.bind_eq_some_iff, Option.some.injEq] at opened
  obtain ⟨root, closed, key, last, changed, made, rfl⟩ := opened
  have before := sound.close closed
  refine ⟨before.within (fun {_ _} before kept => ?_) made, sound_entriesAt before, fun name isLast _ => ?_⟩
  · split at kept
    · cases kept
      exact before
    · cases kept
      exact before.erase
    · cases kept
  · cases last.symm.trans isLast
    obtain ⟨_, placed⟩ := Nodes.within_entriesAt made
    split at placed
    next missing => rwa [← Option.some.inj placed]
    next => rw [← Option.some.inj placed, Nodes.lookup_erase]
    next => cases placed

theorem Sound.openRepeated (sound : document.Sound) (opened : document.openRepeated path = some result) :
    result.Sound := by
  simp only [Document.openRepeated, bind, pure, Option.bind_eq_some_iff, Option.some.injEq] at opened
  obtain ⟨root, closed, key, -, changed, made, rfl⟩ := opened
  refine ⟨(sound.close closed).within (fun {_ _} before kept => ?_) made, .nil, fun _ _ single => nomatch single⟩
  split at kept
  next missing =>
    cases kept
    exact before.concat missing (Node.sound_tables.mpr fun _ member => nomatch member)
  · cases kept
    exact before
  · cases kept

theorem Sound.finish (sound : document.Sound) {entries : Entries} (finished : document.finish = some entries) :
    (Value.table entries).Sound := by
  obtain ⟨root, closed, rfl⟩ := Option.map_eq_some_iff.mp finished
  exact (sound.close closed).table

end Document

/-! Reading. -/

theorem inRange?_eq_some {n m : Int} (inRange : inRange? n = some m) : m < 0x8000000000000000 := by
  unfold inRange? at inRange
  split at inRange
  · cases inRange
    omega
  · cases inRange

theorem integer?_eq_some {text : List Char} {n : Int} (read : integer? text = some n) : n < 0x8000000000000000 := by
  unfold integer? at read
  split at read
  all_goals
    obtain ⟨m, -, inRange⟩ := Option.bind_eq_some_iff.mp read
    exact inRange?_eq_some inRange

theorem sound_scalarOf? {text : List Char} {value : Value} (read : scalarOf? text = some value) : value.Sound := by
  unfold scalarOf? at read
  split at read
  · cases read
    exact .boolean true
  · split at read
    · cases read
      exact .boolean false
    · split at read
      · cases read
        exact .moment
      · rcases Option.or_eq_some_iff.mp read with isFloat | ⟨-, isInteger⟩
        · obtain ⟨x, -, rfl⟩ := Option.map_eq_some_iff.mp isFloat
          exact .float x
        · obtain ⟨n, whole, rfl⟩ := Option.map_eq_some_iff.mp isInteger
          exact .integer (integer?_eq_some whole)

def ReadsSound (read? : List Char → Option (Value × List Char)) : Prop :=
  ∀ {text value rest}, read? text = some (value, rest) → value.Sound

theorem readsSound_scalar? : ReadsSound scalar? := by
  intro text value rest read
  have whole : ∀ {token behind}, (scalarOf? token).map (·, behind) = some (value, rest) → value.Sound := by
    intro token behind shown
    obtain ⟨_, isScalar, same⟩ := Option.map_eq_some_iff.mp shown
    cases same
    exact sound_scalarOf? isScalar
  unfold scalar? at read
  dsimp only at read
  split at read
  · split at read
    · cases read
      exact .moment
    · exact whole read
  · exact whole read

section Reading

variable {read? : List Char → Option (Value × List Char)} {text rest : List Char}

theorem sound_items? (sound : ReadsSound read?) {count : Nat} {items : List Value}
    (read : items? read? count text = some (items, rest)) : ∀ item ∈ items, item.Sound := by
  induction count generalizing text items rest with
  | zero => cases read
  | succ count ih =>
    unfold items? at read
    split at read
    · cases read
      exact fun _ member => nomatch member
    · simp only [bind, Option.bind_eq_some_iff] at read
      obtain ⟨⟨first, behind⟩, isFirst, read⟩ := read
      split at read
      · simp only [pure, Option.bind_eq_some_iff, Option.some.injEq] at read
        obtain ⟨⟨others, last⟩, isOthers, same⟩ := read
        cases same
        exact List.forall_mem_cons.mpr ⟨sound isFirst, ih isOthers⟩
      · cases read
        exact List.forall_mem_cons.mpr ⟨sound isFirst, fun _ member => nomatch member⟩
      · cases read

theorem sound_assignment? (sound : ReadsSound read?) {path : List String} {value : Value}
    (read : assignment? read? text = some ((path, value), rest)) : value.Sound := by
  simp only [assignment?, bind, Option.bind_eq_some_iff] at read
  obtain ⟨⟨key, behind⟩, -, read⟩ := read
  split at read
  · simp only [pure, Option.bind_eq_some_iff, Option.some.injEq] at read
    obtain ⟨⟨inner, last⟩, isValue, same⟩ := read
    cases same
    exact sound isValue
  · cases read

theorem sound_assignments? (sound : ReadsSound read?) {count : Nat} {assignments : List (List String × Value)}
    (read : assignments? read? count text = some (assignments, rest)) :
    ∀ assignment ∈ assignments, assignment.2.Sound := by
  induction count generalizing text assignments rest with
  | zero => cases read
  | succ count ih =>
    simp only [assignments?, bind, Option.bind_eq_some_iff] at read
    obtain ⟨⟨first, behind⟩, isFirst, read⟩ := read
    split at read
    · simp only [pure, Option.bind_eq_some_iff, Option.some.injEq] at read
      obtain ⟨⟨others, last⟩, isOthers, same⟩ := read
      cases same
      exact List.forall_mem_cons.mpr ⟨sound_assignment? sound isFirst, ih isOthers⟩
    · cases read
      exact List.forall_mem_cons.mpr ⟨sound_assignment? sound isFirst, fun _ member => nomatch member⟩
    · cases read

end Reading

theorem sound_foldlM_assign {assignments : List (List String × Value)} {entries result : Nodes}
    (news : ∀ assignment ∈ assignments, assignment.2.Sound) (sound : entries.Sound)
    (built : assignments.foldlM (fun entries (path, value) => Nodes.assign path value entries) entries = some result) :
    result.Sound := by
  induction assignments generalizing entries with
  | nil =>
    cases built
    exact sound
  | cons assignment assignments ih =>
    obtain ⟨new, others⟩ := List.forall_mem_cons.mp news
    rw [List.foldlM_cons] at built
    obtain ⟨next, assigned, built⟩ := Option.bind_eq_some_iff.mp built
    exact ih others (sound.assign new assigned) built

theorem sound_inlineTable? {assignments : List (List String × Value)} {value : Value}
    (news : ∀ assignment ∈ assignments, assignment.2.Sound) (built : inlineTable? assignments = some value) :
    value.Sound := by
  obtain ⟨entries, made, rfl⟩ := Option.map_eq_some_iff.mp built
  exact (sound_foldlM_assign news .nil made).table

/-- By induction on the depth: an array and a table in braces hold values of a smaller one. -/
theorem readsSound_value? (depth : Nat) : ReadsSound (value? depth) := by
  induction depth using Nat.strongRecOn with
  | ind depth ih =>
    intro text value rest read
    unfold value? at read
    split at read
    next =>
      split at read
      · cases read
      · obtain ⟨⟨items, behind⟩, isItems, same⟩ := Option.map_eq_some_iff.mp read
        cases same
        exact .array (sound_items? (ih _ (Nat.lt_succ_self _)) isItems)
    next =>
      split at read
      · cases read
      · split at read
        · cases read
          exact .table List.nodup_nil fun _ member => nomatch member
        · simp only [bind, pure, Option.bind_eq_some_iff, Option.some.injEq] at read
          obtain ⟨⟨assignments, behind⟩, isAssignments, table, built, same⟩ := read
          cases same
          exact sound_inlineTable? (sound_assignments? (ih _ (Nat.lt_succ_self _)) isAssignments) built
    next =>
      have text : ∀ {shown : Read String}, shown.map (Prod.map .string id) = some (value, rest) → value.Sound := by
        intro shown isText
        obtain ⟨_, -, same⟩ := Option.map_eq_some_iff.mp isText
        cases same
        exact .string _
      split at read
      · exact text read
      · exact text read
      · exact readsSound_scalar? read

theorem sound_line? {document result : Document} {text rest : List Char} (sound : document.Sound)
    (read : line? document text = some (result, rest)) : result.Sound := by
  unfold line? at read
  split at read
  · simp only [bind, pure, Option.bind_eq_some_iff, Option.some.injEq] at read
    obtain ⟨_, -, same⟩ := read
    cases same
    exact sound
  · simp only [bind, pure, Option.bind_eq_some_iff, Option.some.injEq] at read
    obtain ⟨⟨path, behind⟩, -, opened, isOpened, same⟩ := read
    cases same
    exact sound.openRepeated isOpened
  · simp only [bind, pure, Option.bind_eq_some_iff, Option.some.injEq] at read
    obtain ⟨⟨path, behind⟩, -, opened, isOpened, same⟩ := read
    cases same
    exact sound.openTable isOpened
  · simp only [bind, pure, Option.bind_eq_some_iff, Option.some.injEq] at read
    obtain ⟨⟨⟨path, value⟩, behind⟩, isAssignment, assigned, isAssigned, last, -, same⟩ := read
    cases same
    exact sound.assign (sound_assignment? (readsSound_value? depthLimit) isAssignment) isAssigned

theorem sound_lines? {count : Nat} {document result : Document} {text : List Char} (sound : document.Sound)
    (read : lines? count document text = some result) : result.Sound := by
  induction count generalizing document text with
  | zero => cases read
  | succ count ih =>
    unfold lines? at read
    split at read
    · cases read
      exact sound
    · split at read
      · exact ih sound read
      · simp only [bind, Option.bind_eq_some_iff] at read
        obtain ⟨⟨next, behind⟩, isLine, read⟩ := read
        exact ih (sound_line? sound isLine) read

theorem sound_read? {text : String} {entries : Entries} (read : read? text = some entries) :
    (Value.table entries).Sound := by
  obtain ⟨document, isDocument, finished⟩ := Option.bind_eq_some_iff.mp read
  exact (sound_lines? .empty isDocument).finish finished

end InstrumentLink.Toml
