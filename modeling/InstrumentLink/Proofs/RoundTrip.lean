import InstrumentLink.Proofs.Toml.Sound
import InstrumentLink.Proofs.Toml.Tables
import InstrumentLink.Settings.Reader
import InstrumentLink.Settings.Writer

/-!
Settings that are written are read back: the text is a document of two tables, and each field is read as it was.
-/

namespace InstrumentLink

open Toml (Datum Line Table)

/-! The text is made of the lines of two tables. -/

def NetworkSettings.fields (network : NetworkSettings) : Toml.Fields :=
  [("data_host", .string network.dataHost), ("data_port", .number network.dataPort.toNat),
    ("command_host", .string network.commandHost), ("command_port", .number network.commandPort.toNat)]

def SerialSettings.fields (line : SerialSettings) : Toml.Fields :=
  [("device_path", .string line.devicePath), ("baud_rate", .number line.baudRate.toNat)]

def ConnectionSettings.kindFields : ConnectionSettings → Toml.Fields
  | rsn network | tcp network | udp network => network.fields
  | serial line => line.fields

def ConnectionSettings.fields (connection : ConnectionSettings) : Toml.Fields :=
  ("type", .string connection.kind.name) :: connection.kindFields

def Settings.tables (settings : Settings) : List Table :=
  [⟨"agent", [("poll_interval_ms", .number settings.pollInterval.toNat)]⟩, ⟨"connection", settings.connection.fields⟩]

theorem toList_textLine (key text : String) : (textLine key text).toList = (Line.field key (.string text)).chars := by
  simp [textLine, Toml.stringText, Line.chars, Datum.chars]

theorem toList_numberLine (key : String) (n : Nat) :
    (numberLine key n).toList = (Line.field key (.number n)).chars := by
  simp [numberLine, Line.chars, Datum.chars]

theorem toList_lines (connection : ConnectionSettings) :
    connection.lines.toList = connection.fields.flatMap fun (key, datum) => (Line.field key datum).chars := by
  cases connection <;>
    simp [ConnectionSettings.lines, ConnectionSettings.fieldLines, NetworkSettings.lines, SerialSettings.lines,
      ConnectionSettings.fields, ConnectionSettings.kindFields, NetworkSettings.fields, SerialSettings.fields,
      toList_textLine, toList_numberLine]

abbrev Writable (interval : UInt64) : Prop := interval.toNat < 0x8000000000000000

theorem render_eq {settings : Settings} (writable : Writable settings.pollInterval) :
    settings.render = .ok (String.ofList ((Toml.documentLines settings.tables).flatMap Line.chars)) := by
  rw [Settings.render, if_pos writable]
  refine congrArg _ (String.ext ?_)
  simp [Settings.tables, Toml.documentLines, Table.lines, Line.chars, toList_numberLine, toList_lines, List.flatMap_map]

theorem inRange_port (port : UInt16) : (Datum.number port.toNat).InRange :=
  Nat.lt_trans port.toNat_lt (by decide)

theorem inRange_rate (rate : UInt32) : (Datum.number rate.toNat).InRange :=
  Nat.lt_trans rate.toNat_lt (by decide)

theorem NetworkSettings.wellFormed_fields (network : NetworkSettings) :
    ∀ field ∈ network.fields, Toml.isBareKey field.1 = true ∧ field.2.InRange := by
  simp only [fields, List.forall_mem_cons]
  refine ⟨⟨by decide, trivial⟩, ⟨by decide, inRange_port _⟩, ⟨by decide, trivial⟩, ⟨by decide, inRange_port _⟩, ?_⟩
  simp

theorem SerialSettings.wellFormed_fields (line : SerialSettings) :
    ∀ field ∈ line.fields, Toml.isBareKey field.1 = true ∧ field.2.InRange := by
  simp only [fields, List.forall_mem_cons]
  refine ⟨⟨by decide, trivial⟩, ⟨by decide, inRange_rate _⟩, ?_⟩
  simp

/-- The keys are written without quotes, no key twice, and every port and every rate has a number of TOML. -/
theorem ConnectionSettings.wellFormed_table (connection : ConnectionSettings) :
    Table.WellFormed ⟨"connection", connection.fields⟩ where
  bare := show Toml.isBareKey "connection" = true by decide
  fields := by
    have bare : Toml.isBareKey "type" = true := by decide
    refine List.forall_mem_cons.mpr ⟨⟨bare, trivial⟩, ?_⟩
    cases connection with
    | rsn network | tcp network | udp network => exact network.wellFormed_fields
    | serial line => exact line.wellFormed_fields
  apart := by
    cases connection <;> simp [ConnectionSettings.fields, kindFields, NetworkSettings.fields, SerialSettings.fields]

theorem Settings.wellFormed_tables {settings : Settings} (writable : Writable settings.pollInterval) :
    ∀ table ∈ settings.tables, table.WellFormed := by
  have bare : Toml.isBareKey "agent" = true ∧ Toml.isBareKey "poll_interval_ms" = true := by decide
  have agent : Table.WellFormed ⟨"agent", [("poll_interval_ms", .number settings.pollInterval.toNat)]⟩ :=
    ⟨bare.1, by simpa using ⟨bare.2, writable⟩, by simp⟩
  simpa [Settings.tables] using ⟨agent, settings.connection.wellFormed_table⟩

/-! Each field is read as it was written. -/

theorem map_eq_ok_iff {ε α β : Type} {answer : Except ε α} {f : α → β} {b : β} :
    answer.map f = .ok b ↔ ∃ a, answer = .ok a ∧ f a = b := by
  cases answer <;> simp [Except.map]

theorem readNumber_eq_ok_iff {expected : Expected} {bound n : Nat} {value : Toml.Value} :
    readNumber expected bound value = .ok n ↔ value = .integer n ∧ n < bound := by
  constructor
  · intro read
    unfold readNumber at read
    split at read
    · split at read
      next inside =>
        cases read
        rw [Int.toNat_of_nonneg inside.1]
        exact ⟨rfl, by omega⟩
      next => cases read
    · cases read
  · rintro ⟨rfl, small⟩
    rw [readNumber, if_pos ⟨by omega, by omega⟩, Int.toNat_natCast]

theorem map_readNumber_eq_ok_iff {α : Type} {expected : Expected} {bound : Nat} {ofNat : Nat → α} {toNat : α → Nat}
    (small : ∀ a, toNat a < bound) (back : ∀ a, ofNat (toNat a) = a)
    (forth : ∀ {n}, n < bound → toNat (ofNat n) = n) {value : Toml.Value} {a : α} :
    (readNumber expected bound value).map ofNat = .ok a ↔ value = .integer (toNat a) := by
  rw [map_eq_ok_iff]
  constructor
  · rintro ⟨n, isNumber, rfl⟩
    obtain ⟨rfl, inside⟩ := readNumber_eq_ok_iff.mp isNumber
    rw [forth inside]
  · rintro rfl
    exact ⟨toNat a, readNumber_eq_ok_iff.mpr ⟨rfl, small a⟩, back a⟩

theorem readPort_eq_ok_iff {value : Toml.Value} {port : UInt16} :
    readPort value = .ok port ↔ value = .integer port.toNat :=
  map_readNumber_eq_ok_iff UInt16.toNat_lt_size (fun _ => UInt16.ofNat_toNat) UInt16.toNat_ofNat_of_lt'

theorem readRate_eq_ok_iff {value : Toml.Value} {rate : UInt32} :
    readRate value = .ok rate ↔ value = .integer rate.toNat :=
  map_readNumber_eq_ok_iff UInt32.toNat_lt_size (fun _ => UInt32.ofNat_toNat) UInt32.toNat_ofNat_of_lt'

theorem readInterval_eq_ok_iff {value : Toml.Value} {interval : UInt64} :
    readInterval value = .ok interval ↔ value = .integer interval.toNat :=
  map_readNumber_eq_ok_iff UInt64.toNat_lt_size (fun _ => UInt64.ofNat_toNat) UInt64.toNat_ofNat_of_lt'

theorem readKind_name (kind : Kind) : ConnectionSettings.readKind (.string kind.name) = .ok kind := by
  cases kind <;> rfl

theorem NetworkSettings.read_fields (network : NetworkSettings) (name : Toml.Value) :
    NetworkSettings.read (("type", name) :: Toml.entriesOf network.fields) = .ok network := by
  simp only [NetworkSettings.read, NetworkSettings.fields, Toml.entriesOf, List.map_cons, List.map_nil,
    List.foldlM_cons, List.foldlM_nil, NetworkSettings.readField, Datum.value, readPort_eq_ok_iff.mpr rfl, readText]
  rfl

theorem SerialSettings.read_fields (line : SerialSettings) (name : Toml.Value) :
    SerialSettings.read (("type", name) :: Toml.entriesOf line.fields) = .ok line := by
  simp only [SerialSettings.read, SerialSettings.fields, Toml.entriesOf, List.map_cons, List.map_nil, List.foldlM_cons,
    List.foldlM_nil, SerialSettings.readField, Datum.value, readRate_eq_ok_iff.mpr rfl, readText]
  rfl

theorem ConnectionSettings.readFields_fields (connection : ConnectionSettings) (name : Toml.Value) :
    readFields connection.kind (("type", name) :: Toml.entriesOf connection.kindFields) = .ok connection := by
  cases connection with
  | rsn network => rw [kind, kindFields, readFields, network.read_fields, Except.map]
  | tcp network => rw [kind, kindFields, readFields, network.read_fields, Except.map]
  | udp network => rw [kind, kindFields, readFields, network.read_fields, Except.map]
  | serial line => rw [kind, kindFields, readFields, line.read_fields, Except.map]

theorem ConnectionSettings.read_fields (connection : ConnectionSettings) :
    ConnectionSettings.read (.table (Toml.entriesOf connection.fields)) = .ok connection := by
  have fields := connection.readFields_fields (.string connection.kind.name)
  have kind := readKind_name connection.kind
  rw [ConnectionSettings.fields, Toml.entriesOf, List.map_cons, ConnectionSettings.read]
  simp only [List.lookup_cons_self, Datum.value, kind]
  exact fields

theorem Settings.read_tables (settings : Settings) :
    Settings.read (settings.tables.map Table.entry) = .ok settings := by
  have interval : readAgent (.table (Toml.entriesOf [("poll_interval_ms", .number settings.pollInterval.toNat)])) =
      .ok settings.pollInterval := readInterval_eq_ok_iff.mpr rfl
  have connection := settings.connection.read_fields
  simp only [Settings.read, tables, List.map_cons, List.map_nil, List.foldlM_cons, List.foldlM_nil, Table.entry,
    readField, interval, connection]
  rfl

theorem render_isOk_iff (settings : Settings) :
    (∃ text, settings.render = .ok text) ↔ Writable settings.pollInterval := by
  unfold Settings.render
  split <;> simp_all

theorem render_eq_error_iff (settings : Settings) :
    (∃ reason, settings.render = .error reason) ↔ 0x7fffffffffffffff < settings.pollInterval.toNat := by
  unfold Settings.render
  split
  · simp; omega
  · simp; omega

theorem decode_of_render {settings : Settings} {text : String} (rendered : settings.render = .ok text) :
    Settings.decode text = .ok settings := by
  have writable := (render_isOk_iff settings).mp ⟨text, rendered⟩
  rw [render_eq writable] at rendered
  cases rendered
  have read := Toml.read?_documentLines (Settings.wellFormed_tables writable) (by simp [Settings.tables])
  rw [Settings.decode, read]
  exact settings.read_tables

/-! What is read can be written: TOML has no interval that is too large. -/

theorem readInterval_writable {value : Toml.Value} (sound : value.Sound) {interval : UInt64}
    (read : readInterval value = .ok interval) : Writable interval := by
  cases sound with
  | integer small =>
    rw [readInterval, readNumber] at read
    split at read
    · cases read
      rw [Writable, UInt64.toNat_ofNat']
      omega
    · cases read
  | string | float | boolean | moment | array | table => cases read

theorem readAgent_writable {value : Toml.Value} (sound : value.Sound) {interval : UInt64}
    (read : Settings.readAgent value = .ok interval) : Writable interval := by
  have byDefault : Writable Settings.defaultPollInterval := by decide
  unfold Settings.readAgent at read
  split at read
  · split at read
    · cases read
      exact byDefault
    next found =>
      have .table _ inner := sound
      exact readInterval_writable (inner _ (Toml.mem_of_lookup found)) read
  · cases read
    exact byDefault
  · have .array inner := sound
    exact readInterval_writable (inner _ (List.mem_cons_self ..)) read
  · cases read
    exact byDefault
  · cases read

/-- A field leaves the interval one that can be written, whether it is the agent's or another. -/
theorem readField_writable {settings result : Settings} (writable : Writable settings.pollInterval)
    {key : String} {value : Toml.Value} (sound : value.Sound) (read : settings.readField key value = .ok result) :
    Writable result.pollInterval := by
  unfold Settings.readField at read
  split at read
  · obtain ⟨interval, isInterval, rfl⟩ := map_eq_ok_iff.mp read
    exact readAgent_writable sound isInterval
  · obtain ⟨connection, -, rfl⟩ := map_eq_ok_iff.mp read
    exact writable
  · cases read
    exact writable

theorem foldlM_readField_writable {entries : Toml.Entries} (sound : ∀ entry ∈ entries, entry.2.Sound)
    {start settings : Settings} (writable : Writable start.pollInterval)
    (read : entries.foldlM (fun settings (key, value) => settings.readField key value) start = .ok settings) :
    Writable settings.pollInterval := by
  induction entries generalizing start with
  | nil =>
    cases read
    exact writable
  | cons entry entries ih =>
    obtain ⟨first, others⟩ := List.forall_mem_cons.mp sound
    rw [List.foldlM_cons] at read
    cases next : start.readField entry.1 entry.2 with
    | error error =>
      simp only [next] at read
      cases read
    | ok after =>
      simp only [next] at read
      exact ih others (readField_writable writable first next) read

theorem decode_writable {text : String} {settings : Settings} (decoded : Settings.decode text = .ok settings) :
    Writable settings.pollInterval := by
  have byDefault : Writable Settings.default.pollInterval := by decide
  unfold Settings.decode at decoded
  split at decoded
  next read =>
    have .table _ inner := Toml.sound_read? read
    exact foldlM_readField_writable inner byDefault decoded
  next => cases decoded

theorem parse_of_decode {text : String} {settings : Settings} (decoded : Settings.decode text = .ok settings) :
    Settings.parse text = settings.validate.map fun _ => settings := by
  rw [Settings.parse, decoded]

theorem decode_of_parse {text : String} {settings : Settings} (parsed : Settings.parse text = .ok settings) :
    Settings.decode text = .ok settings := by
  unfold Settings.parse at parsed
  split at parsed
  · cases parsed
  next decoded =>
    obtain ⟨_, -, rfl⟩ := map_eq_ok_iff.mp parsed
    exact decoded

/-- Writing settings and reading them are inverse. Only settings with an interval above the largest number of TOML, one
less than 2 to the 63, have no text. The text of any others is read as these settings if they are valid, and is refused
for the same reason as they are if not. All that was ever read can be written, and is read again as it was. -/
theorem parse_inverts_render (settings : Settings) :
    ((∃ reason, settings.render = .error reason) ↔ 0x7fffffffffffffff < settings.pollInterval.toNat) ∧
      (∀ text, settings.render = .ok text →
        (Settings.parse text = .ok settings ↔ settings.validate = .ok ()) ∧
          ∀ failure, settings.validate = .error failure → Settings.parse text = .error failure) ∧
      (∀ source, Settings.parse source = .ok settings →
        ∃ text, settings.render = .ok text ∧ Settings.parse text = .ok settings) := by
  refine ⟨render_eq_error_iff settings, fun text rendered => ?_, fun source parsed => ?_⟩
  · have read := parse_of_decode (decode_of_render rendered)
    rw [read]
    refine ⟨?_, fun failure refused => ?_⟩
    · cases settings.validate <;> simp [Except.map]
    · rw [refused]
      rfl
  · have decoded := decode_of_parse parsed
    obtain ⟨text, rendered⟩ := (render_isOk_iff settings).mpr (decode_writable decoded)
    refine ⟨text, rendered, ?_⟩
    rw [parse_of_decode (decode_of_render rendered), ← parse_of_decode decoded, parsed]

def awkwardSettings : Settings := ⟨500, .serial ⟨"\"\"\"\x27\x27\x27\n\\\x01\"", 115200⟩⟩

theorem parse_inverts_render_awkward :
    Settings.parse ("[agent]\npoll_interval_ms = 500\n\n[connection]\ntype = \"serial\"\n" ++
      "device_path = \"\"\"\n\"\"\\\"\x27\x27\x27\n\\\\\\u0001\"\"\"\"\nbaud_rate = 115200\n") = .ok awkwardSettings := by
  have rendered : awkwardSettings.render =
      .ok ("[agent]\npoll_interval_ms = 500\n\n[connection]\ntype = \"serial\"\n" ++
        "device_path = \"\"\"\n\"\"\\\"\x27\x27\x27\n\\\\\\u0001\"\"\"\"\nbaud_rate = 115200\n") :=
    (if_pos (by decide)).trans (congrArg Except.ok (by decide +kernel))
  exact ((parse_inverts_render awkwardSettings).2.1 _ rendered).1.mpr rfl

end InstrumentLink
