import InstrumentLink.Proofs.RoundTrip
import InstrumentLink.Proofs.Toml.Order

/-!
What is read of a table. Each field is read on its own, from the value under its key, and the others leave it as it is.
So a table is read if and only if each of its entries is, and it makes no difference what stands under other keys.
-/

namespace InstrumentLink

inductive FieldType where
  | text
  /-- A whole number, with its least and its largest value. -/
  | number (least most : Nat)

def FieldType.Allows : FieldType → Toml.Value → Prop
  | text, value => ∃ content, value = .string content
  | number least most, value => ∃ n : Nat, value = .integer n ∧ least ≤ n ∧ n ≤ most

def NetworkSettings.fieldTypes : List (String × FieldType) :=
  [("data_host", .text), ("data_port", .number 0 65535), ("command_host", .text), ("command_port", .number 0 65535)]

def SerialSettings.fieldTypes (leastRate : Nat) : List (String × FieldType) :=
  [("device_path", .text), ("baud_rate", .number leastRate 4294967295)]

/-! A value is read as what it was written for. -/

theorem bind_eq_ok_iff {ε α β : Type} {answer : Except ε α} {f : α → Except ε β} {b : β} :
    answer >>= f = .ok b ↔ ∃ a, answer = .ok a ∧ f a = .ok b := by
  cases answer <;> simp [bind, Except.bind]

theorem readText_eq_ok_iff {value : Toml.Value} {content : String} :
    readText value = .ok content ↔ value = .string content := by
  cases value <;> simp [readText]

theorem readKind_eq_ok_iff {value : Toml.Value} {kind : Kind} :
    ConnectionSettings.readKind value = .ok kind ↔ value = .string kind.name := by
  refine ⟨fun read => ?_, fun isName => isName ▸ readKind_name kind⟩
  unfold ConnectionSettings.readKind at read
  split at read
  · split at read
    next isKind =>
      cases read
      have same := List.find?_some isKind
      rw [of_decide_eq_true same]
    next => cases read
  · cases read

/-! Records are filled from the entries of a table, one after the other. -/

section Filling

variable {S α : Type} {readField : S → String → Toml.Value → Except ReadError S} {entries : Toml.Entries}
  {start result : S}

/-- A part of a record that one key fills with what is read of its value. -/
structure Fills (readField : S → String → Toml.Value → Except ReadError S) (key : String) (part : S → α)
    (read : Toml.Value → Except ReadError α) : Prop where
  own {record filled : S} {value : Toml.Value} :
    readField record key value = .ok filled → read value = .ok (part filled)
  other {record filled : S} {name : String} {value : Toml.Value} :
    name ≠ key → readField record name value = .ok filled → part filled = part record

theorem Fills.of_put {key : String} {part : S → α} {read : Toml.Value → Except ReadError α} (put : S → α → S)
    (reads : ∀ record value, readField record key value = (read value).map (put record))
    (part_put : ∀ record a, part (put record a) = a)
    (other : ∀ {record filled name value}, readField record name value = .ok filled → name ≠ key →
      part filled = part record) : Fills readField key part read where
  own {record filled value} filledBy := by
    rw [reads] at filledBy
    obtain ⟨a, isRead, rfl⟩ := map_eq_ok_iff.mp filledBy
    rw [part_put, isRead]
  other different filledBy := other filledBy different

theorem Fills.foldlM {key : String} {part : S → α} {readPart : Toml.Value → Except ReadError α}
    (fills : Fills readField key part readPart) (apart : Toml.Apart entries)
    (read : entries.foldlM (fun record (name, value) => readField record name value) start = .ok result) :
    (entries.lookup key = none ∧ part result = part start) ∨
      ∃ value, entries.lookup key = some value ∧ readPart value = .ok (part result) := by
  induction entries generalizing start with
  | nil =>
    cases read
    exact .inl ⟨rfl, rfl⟩
  | cons entry entries ih =>
    obtain ⟨name, value⟩ := entry
    obtain ⟨absent, apart⟩ := List.nodup_cons.mp apart
    rw [List.foldlM_cons] at read
    cases first : readField start name value with
    | error error =>
      simp only [first] at read
      cases read
    | ok next =>
      simp only [first] at read
      by_cases same : name = key
      · subst same
        rw [List.lookup_cons_self]
        refine .inr ⟨value, rfl, ?_⟩
        -- The key is not there again, so the rest leaves the part as this entry has filled it.
        rcases ih apart read with ⟨-, kept⟩ | ⟨_, again, -⟩
        · rw [kept]
          exact fills.own first
        · exact absurd (List.mem_map_of_mem (Toml.mem_of_lookup again)) absent
      · have different : (key == name) = false := beq_eq_false_iff_ne.mpr (Ne.symm same)
        rw [List.lookup_cons, different, ← fills.other same first]
        exact ih apart read

theorem exists_foldlM_iff {Readable : String → Toml.Value → Prop}
    (readable : ∀ record key value, (∃ filled, readField record key value = .ok filled) ↔ Readable key value)
    (start : S) :
    (∃ result, entries.foldlM (fun record (name, value) => readField record name value) start = .ok result) ↔
      ∀ entry ∈ entries, Readable entry.1 entry.2 := by
  induction entries generalizing start with
  | nil =>
    refine iff_of_true ⟨start, rfl⟩ ?_
    intro entry member
    cases member
  | cons entry entries ih =>
    obtain ⟨name, value⟩ := entry
    rw [List.forall_mem_cons, ← readable start, List.foldlM_cons]
    cases first : readField start name value with
    | error error =>
      simp only [first]
      constructor
      · rintro ⟨_, same⟩
        cases same
      · rintro ⟨⟨_, same⟩, -⟩
        cases same
    | ok next =>
      simp only [first]
      exact (ih next).trans (and_iff_right ⟨next, rfl⟩).symm

theorem exists_foldlM_iff_lookup (apart : Toml.Apart entries) {Readable : String → Toml.Value → Prop}
    (readable : ∀ record key value, (∃ filled, readField record key value = .ok filled) ↔ Readable key value) :
    (∃ result, entries.foldlM (fun record (name, value) => readField record name value) start = .ok result) ↔
      ∀ key value, entries.lookup key = some value → Readable key value :=
  (exists_foldlM_iff readable start).trans (Toml.forall_mem_iff_lookup apart)

theorem foldlM_only {names : List String}
    (unknown : ∀ record key value, key ∉ names → readField record key value = .ok record) (start : S) :
    (Toml.only names entries).foldlM (fun record (name, value) => readField record name value) start =
      entries.foldlM (fun record (name, value) => readField record name value) start := by
  induction entries generalizing start with
  | nil => rfl
  | cons entry entries ih =>
    obtain ⟨name, value⟩ := entry
    rw [Toml.only, List.filter_cons]
    split
    · rw [List.foldlM_cons, List.foldlM_cons]
      exact congrArg _ (funext ih)
    next foreign =>
      have same := unknown start name value (by simpa using foreign)
      rw [List.foldlM_cons]
      simp only [same]
      exact ih start

end Filling

/-! What is readable under the key of a field. -/

theorem exists_readText_iff {value : Toml.Value} :
    (∃ content, readText value = .ok content) ↔ FieldType.text.Allows value :=
  exists_congr fun _ => readText_eq_ok_iff

theorem exists_readNumber_iff {expected : Expected} {most : Nat} {value : Toml.Value} :
    (∃ n, readNumber expected (most + 1) value = .ok n) ↔ (FieldType.number 0 most).Allows value := by
  simp only [readNumber_eq_ok_iff, FieldType.Allows, Nat.zero_le, true_and, Nat.lt_succ_iff]

theorem exists_map_iff {ε α β : Type} {answer : Except ε α} {f : α → β} :
    (∃ b, answer.map f = .ok b) ↔ ∃ a, answer = .ok a := by
  cases answer <;> simp [Except.map]

theorem exists_readPort_iff {value : Toml.Value} :
    (∃ port, readPort value = .ok port) ↔ (FieldType.number 0 65535).Allows value :=
  exists_map_iff.trans exists_readNumber_iff

theorem exists_readRate_iff {value : Toml.Value} :
    (∃ rate, readRate value = .ok rate) ↔ (FieldType.number 0 4294967295).Allows value :=
  exists_map_iff.trans exists_readNumber_iff

theorem exists_readInterval_iff {value : Toml.Value} :
    (∃ interval, readInterval value = .ok interval) ↔ (FieldType.number 0 18446744073709551615).Allows value :=
  exists_map_iff.trans exists_readNumber_iff

namespace NetworkSettings

variable {network result : NetworkSettings} {key : String} {value : Toml.Value}

theorem exists_readField_iff (network : NetworkSettings) (key : String) (value : Toml.Value) :
    (∃ result, network.readField key value = .ok result) ↔ ∀ type, (key, type) ∈ fieldTypes → type.Allows value := by
  unfold readField
  split
  · rw [exists_map_iff, exists_readText_iff]
    simp [fieldTypes]
  · rw [exists_map_iff, exists_readPort_iff]
    simp [fieldTypes]
  · rw [exists_map_iff, exists_readText_iff]
    simp [fieldTypes]
  · rw [exists_map_iff, exists_readPort_iff]
    simp [fieldTypes]
  · simp_all [fieldTypes]

theorem readField_other (read : network.readField key value = .ok result) :
    (key ≠ "data_host" → result.dataHost = network.dataHost) ∧
      (key ≠ "data_port" → result.dataPort = network.dataPort) ∧
      (key ≠ "command_host" → result.commandHost = network.commandHost) ∧
      (key ≠ "command_port" → result.commandPort = network.commandPort) := by
  unfold readField at read
  split at read
  case h_5 =>
    cases read
    simp
  all_goals
    obtain ⟨_, -, rfl⟩ := map_eq_ok_iff.mp read
    simp

theorem fills_dataHost : Fills readField "data_host" dataHost readText :=
  .of_put (fun network host => { network with dataHost := host }) (fun _ _ => rfl) (fun _ _ => rfl)
    fun read => (readField_other read).1

theorem fills_dataPort : Fills readField "data_port" dataPort readPort :=
  .of_put (fun network port => { network with dataPort := port }) (fun _ _ => rfl) (fun _ _ => rfl)
    fun read => (readField_other read).2.1

theorem fills_commandHost : Fills readField "command_host" commandHost readText :=
  .of_put (fun network host => { network with commandHost := host }) (fun _ _ => rfl) (fun _ _ => rfl)
    fun read => (readField_other read).2.2.1

theorem fills_commandPort : Fills readField "command_port" commandPort readPort :=
  .of_put (fun network port => { network with commandPort := port }) (fun _ _ => rfl) (fun _ _ => rfl)
    fun read => (readField_other read).2.2.2

end NetworkSettings

namespace SerialSettings

variable {line result : SerialSettings} {key : String} {value : Toml.Value}

theorem exists_readField_iff (line : SerialSettings) (key : String) (value : Toml.Value) :
    (∃ result, line.readField key value = .ok result) ↔ ∀ type, (key, type) ∈ fieldTypes 0 → type.Allows value := by
  unfold readField
  split
  · rw [exists_map_iff, exists_readText_iff]
    simp [fieldTypes]
  · rw [exists_map_iff, exists_readRate_iff]
    simp [fieldTypes]
  · simp_all [fieldTypes]

theorem readField_other (read : line.readField key value = .ok result) :
    (key ≠ "device_path" → result.devicePath = line.devicePath) ∧
      (key ≠ "baud_rate" → result.baudRate = line.baudRate) := by
  unfold readField at read
  split at read
  case h_3 =>
    cases read
    simp
  all_goals
    obtain ⟨_, -, rfl⟩ := map_eq_ok_iff.mp read
    simp

theorem fills_devicePath : Fills readField "device_path" devicePath readText :=
  .of_put (fun line path => { line with devicePath := path }) (fun _ _ => rfl) (fun _ _ => rfl)
    fun read => (readField_other read).1

theorem fills_baudRate : Fills readField "baud_rate" baudRate readRate :=
  .of_put (fun line rate => { line with baudRate := rate }) (fun _ _ => rfl) (fun _ _ => rfl)
    fun read => (readField_other read).2

end SerialSettings

namespace Settings

variable {settings result : Settings} {key : String} {value : Toml.Value}

theorem exists_readField_iff (settings : Settings) (key : String) (value : Toml.Value) :
    (∃ result, settings.readField key value = .ok result) ↔
      (key = "agent" → ∃ interval, readAgent value = .ok interval) ∧
        (key = "connection" → ∃ connection, ConnectionSettings.read value = .ok connection) := by
  unfold readField
  split
  · rw [exists_map_iff]
    simp
  · rw [exists_map_iff]
    simp
  · simp_all

theorem readField_other (read : settings.readField key value = .ok result) :
    (key ≠ "agent" → result.pollInterval = settings.pollInterval) ∧
      (key ≠ "connection" → result.connection = settings.connection) := by
  unfold readField at read
  split at read
  case h_3 =>
    cases read
    simp
  all_goals
    obtain ⟨_, -, rfl⟩ := map_eq_ok_iff.mp read
    simp

theorem fills_pollInterval : Fills readField "agent" pollInterval readAgent :=
  .of_put (fun settings interval => { settings with pollInterval := interval }) (fun _ _ => rfl) (fun _ _ => rfl)
    fun read => (readField_other read).1

theorem fills_connection : Fills readField "connection" connection ConnectionSettings.read :=
  .of_put (fun settings connection => { settings with connection }) (fun _ _ => rfl) (fun _ _ => rfl)
    fun read => (readField_other read).2

end Settings

/-! What stands under other keys does not count. -/

theorem NetworkSettings.readField_unknown {names : List String} (all : fieldNames ⊆ names) (network : NetworkSettings)
    (key : String) (value : Toml.Value) (unknown : key ∉ names) : network.readField key value = .ok network := by
  have foreign : key ∉ fieldNames := fun known => unknown (all known)
  unfold readField
  split
  case h_5 => rfl
  all_goals exact absurd (by decide) foreign

theorem SerialSettings.readField_unknown {names : List String} (all : fieldNames ⊆ names) (line : SerialSettings)
    (key : String) (value : Toml.Value) (unknown : key ∉ names) : line.readField key value = .ok line := by
  have foreign : key ∉ fieldNames := fun known => unknown (all known)
  unfold readField
  split
  case h_3 => rfl
  all_goals exact absurd (by decide) foreign

namespace ConnectionSettings

/-- The keys that count in the table of a connection: that of the kind, and those of the fields that the kind has. -/
def knownKeys (entries : Toml.Entries) : List String :=
  match entries.lookup "type" with
  | some (.string "rsn") | some (.string "tcp") | some (.string "udp") =>
    ["type", "data_host", "data_port", "command_host", "command_port"]
  | some (.string "serial") => ["type", "device_path", "baud_rate"]
  | _ => ["type"]

end ConnectionSettings

namespace Settings

def relevantPart : String → Toml.Value → Toml.Value
  | "agent", .table entries => .table (Toml.only ["poll_interval_ms"] entries)
  | "connection", .table entries => .table (Toml.only (ConnectionSettings.knownKeys entries) entries)
  | _, value => value

def relevant (root : Toml.Entries) : Toml.Entries :=
  (Toml.only ["agent", "connection"] root).map fun (key, value) => (key, relevantPart key value)

end Settings

namespace ConnectionSettings

theorem mem_knownKeys (entries : Toml.Entries) : "type" ∈ knownKeys entries := by
  unfold knownKeys
  split <;> simp

theorem readFields_only {kind : Kind} {entries : Toml.Entries}
    (isKind : entries.lookup "type" = some (.string kind.name)) :
    readFields kind (Toml.only (knownKeys entries) entries) = readFields kind entries := by
  cases kind with
  | rsn | tcp | udp =>
    have all : NetworkSettings.fieldNames ⊆ knownKeys entries := by
      rw [knownKeys, isKind]
      simp [NetworkSettings.fieldNames, Kind.name]
    exact congrArg (Except.map _) (foldlM_only (NetworkSettings.readField_unknown all) _)
  | serial =>
    have all : SerialSettings.fieldNames ⊆ knownKeys entries := by
      rw [knownKeys, isKind]
      simp [SerialSettings.fieldNames, Kind.name]
    exact congrArg (Except.map _) (foldlM_only (SerialSettings.readField_unknown all) _)

theorem read_only (entries : Toml.Entries) :
    read (.table (Toml.only (knownKeys entries) entries)) = read (.table entries) := by
  rw [read, read, Toml.lookup_only (mem_knownKeys entries)]
  cases found : entries.lookup "type" with
  | none => rfl
  | some name =>
    cases isKind : readKind name with
    | error error =>
      simp only [isKind]
      rfl
    | ok kind =>
      obtain rfl := readKind_eq_ok_iff.mp isKind
      simp only [isKind]
      exact readFields_only found

end ConnectionSettings

namespace Settings

theorem readField_relevantPart (settings : Settings) (key : String) (value : Toml.Value) :
    settings.readField key (relevantPart key value) = settings.readField key value := by
  unfold relevantPart
  split
  next entries =>
    refine congrArg (Except.map _) ?_
    rw [readAgent, readAgent, Toml.lookup_only (List.mem_singleton_self _)]
  next entries => exact congrArg (Except.map _) (ConnectionSettings.read_only entries)
  next => rfl

theorem read_relevant (root : Toml.Entries) : Settings.read (relevant root) = Settings.read root := by
  have unknown (settings : Settings) (key : String) (value : Toml.Value) (foreign : key ∉ ["agent", "connection"]) :
      settings.readField key value = .ok settings := by
    unfold readField
    split
    case h_3 => rfl
    all_goals exact absurd (by decide) foreign
  rw [Settings.read, relevant, List.foldlM_map]
  simp only [readField_relevantPart]
  exact foldlM_only unknown _

end Settings
end InstrumentLink
