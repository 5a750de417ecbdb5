import InstrumentLink.Proofs.Reading

/-!
What a document has to say of the settings. A setting is given by what stands under its key, or by default where nothing
does. A table is read if all that stands under its known keys has the right type, and then as what it gives. Documents
that differ in the order of their entries give the same.
-/

namespace InstrumentLink

def Kind.fieldTypes (leastRate : Nat) : Kind → List (String × FieldType)
  | .rsn | .tcp | .udp => NetworkSettings.fieldTypes
  | .serial => SerialSettings.fieldTypes leastRate

/-- The table of a connection has a kind, and what stands under the keys of its fields may stand there. -/
def ConnectionSettings.WellTyped (leastRate : Nat) (entries : Toml.Entries) : Prop :=
  ∃ kind : Kind, entries.lookup "type" = some (.string kind.name) ∧
    ∀ key value, entries.lookup key = some value →
      ∀ type, (key, type) ∈ kind.fieldTypes leastRate → type.Allows value

structure Settings.WellTyped (least : Nat) (root : Toml.Entries) : Prop where
  interval : ∀ value, (Toml.tableAt "agent" root).lookup "poll_interval_ms" = some value →
    ∃ n : Nat, value = .integer n ∧ least ≤ n
  connection : root.lookup "connection" = none ∨ ConnectionSettings.WellTyped least (Toml.tableAt "connection" root)

/-- A setting is what stands under its key, or its default if the key is missing. -/
def Given {α : Type} (entries : Toml.Entries) (key : String) (written : α → Toml.Value) (byDefault setting : α) :
    Prop :=
  entries.lookup key = some (written setting) ∨ entries.lookup key = none ∧ setting = byDefault

structure NetworkSettings.GivenBy (entries : Toml.Entries) (network : NetworkSettings) : Prop where
  dataHost : Given entries "data_host" .string "" network.dataHost
  dataPort : Given entries "data_port" (fun port => .integer port.toNat) 0 network.dataPort
  commandHost : Given entries "command_host" .string "" network.commandHost
  commandPort : Given entries "command_port" (fun port => .integer port.toNat) 0 network.commandPort

structure SerialSettings.GivenBy (entries : Toml.Entries) (line : SerialSettings) : Prop where
  devicePath : Given entries "device_path" .string "" line.devicePath
  baudRate : Given entries "baud_rate" (fun rate => .integer rate.toNat) 9600 line.baudRate

namespace ConnectionSettings

def FieldsGivenBy (entries : Toml.Entries) : ConnectionSettings → Prop
  | rsn network | tcp network | udp network => network.GivenBy entries
  | serial line => line.GivenBy entries

structure GivenBy (entries : Toml.Entries) (connection : ConnectionSettings) : Prop where
  kind : entries.lookup "type" = some (.string connection.kind.name)
  fields : connection.FieldsGivenBy entries

end ConnectionSettings

structure Settings.GivenBy (root : Toml.Entries) (settings : Settings) : Prop where
  interval : Given (Toml.tableAt "agent" root) "poll_interval_ms" (fun interval => .integer interval.toNat) 1000
    settings.pollInterval
  connection : (root.lookup "connection" = none ∧ settings.connection = .rsn ⟨"", 4001, "", 0⟩) ∨
    (root.lookup "connection" ≠ none ∧ settings.connection.GivenBy (Toml.tableAt "connection" root))

def Settings.IntervalIsZero (root : Toml.Entries) : Prop :=
  (Toml.tableAt "agent" root).lookup "poll_interval_ms" = some (.integer 0)

def Settings.RateIsZero (root : Toml.Entries) : Prop :=
  (Toml.tableAt "connection" root).lookup "type" = some (.string "serial") ∧
    (Toml.tableAt "connection" root).lookup "baud_rate" = some (.integer 0)

/-! What is read is what is given. -/

section Given

variable {S α : Type} {readField : S → String → Toml.Value → Except ReadError S} {entries : Toml.Entries}
  {start result : S}

theorem Fills.given {key : String} {part : S → α} {readPart : Toml.Value → Except ReadError α}
    {written : α → Toml.Value} (fills : Fills readField key part readPart)
    (faithful : ∀ {value a}, readPart value = .ok a ↔ value = written a) (apart : Toml.Apart entries)
    (read : entries.foldlM (fun record (name, value) => readField record name value) start = .ok result) :
    Given entries key written (part start) (part result) := by
  rcases fills.foldlM apart read with ⟨missing, same⟩ | ⟨_, found, isRead⟩
  · exact .inr ⟨missing, same⟩
  · rw [faithful.mp isRead] at found
    exact .inl found

end Given

section Tables

variable {entries : Toml.Entries}

theorem NetworkSettings.givenBy_of_read (apart : Toml.Apart entries) {network : NetworkSettings}
    (read : NetworkSettings.read entries = .ok network) : network.GivenBy entries where
  dataHost := fills_dataHost.given readText_eq_ok_iff apart read
  dataPort := fills_dataPort.given readPort_eq_ok_iff apart read
  commandHost := fills_commandHost.given readText_eq_ok_iff apart read
  commandPort := fills_commandPort.given readPort_eq_ok_iff apart read

theorem SerialSettings.givenBy_of_read (apart : Toml.Apart entries) {line : SerialSettings}
    (read : SerialSettings.read entries = .ok line) : line.GivenBy entries where
  devicePath := fills_devicePath.given readText_eq_ok_iff apart read
  baudRate := fills_baudRate.given readRate_eq_ok_iff apart read

namespace ConnectionSettings

variable {kind : Kind} {connection : ConnectionSettings}

theorem givenBy_of_readFields (apart : Toml.Apart entries) (read : readFields kind entries = .ok connection) :
    connection.kind = kind ∧ connection.FieldsGivenBy entries := by
  cases kind with
  | rsn | tcp | udp =>
    obtain ⟨network, isNetwork, rfl⟩ := map_eq_ok_iff.mp read
    exact ⟨rfl, NetworkSettings.givenBy_of_read apart isNetwork⟩
  | serial =>
    obtain ⟨line, isLine, rfl⟩ := map_eq_ok_iff.mp read
    exact ⟨rfl, SerialSettings.givenBy_of_read apart isLine⟩

theorem exists_readFields_iff (apart : Toml.Apart entries) (kind : Kind) :
    (∃ connection, readFields kind entries = .ok connection) ↔
      ∀ key value, entries.lookup key = some value → ∀ type, (key, type) ∈ kind.fieldTypes 0 → type.Allows value := by
  cases kind with
  | rsn | tcp | udp =>
    exact exists_map_iff.trans (exists_foldlM_iff_lookup apart NetworkSettings.exists_readField_iff)
  | serial => exact exists_map_iff.trans (exists_foldlM_iff_lookup apart SerialSettings.exists_readField_iff)

theorem read_table_eq_ok_iff :
    read (.table entries) = .ok connection ↔
      ∃ kind : Kind, entries.lookup "type" = some (.string kind.name) ∧ readFields kind entries = .ok connection := by
  rw [read]
  cases entries.lookup "type" with
  | none => simp
  | some name => simp only [bind_eq_ok_iff, readKind_eq_ok_iff, Option.some_inj]

theorem givenBy_of_read_table (apart : Toml.Apart entries) (isRead : read (.table entries) = .ok connection) :
    connection.GivenBy entries := by
  obtain ⟨kind, found, fields⟩ := read_table_eq_ok_iff.mp isRead
  obtain ⟨rfl, given⟩ := givenBy_of_readFields apart fields
  exact ⟨found, given⟩

theorem exists_read_table_iff (apart : Toml.Apart entries) :
    (∃ connection, read (.table entries) = .ok connection) ↔ WellTyped 0 entries := by
  simp only [read_table_eq_ok_iff, WellTyped, ← exists_readFields_iff apart]
  constructor
  · rintro ⟨connection, kind, found, fields⟩
    exact ⟨kind, found, connection, fields⟩
  · rintro ⟨kind, found, connection, fields⟩
    exact ⟨connection, kind, found, fields⟩

end ConnectionSettings

namespace Settings

theorem given_of_readAgent_table {interval : UInt64} (isRead : readAgent (.table entries) = .ok interval) :
    Given entries "poll_interval_ms" (fun interval => .integer interval.toNat) 1000 interval := by
  unfold Given
  rw [readAgent] at isRead
  cases found : entries.lookup "poll_interval_ms" with
  | none =>
    simp only [found] at isRead
    cases isRead
    exact .inr ⟨rfl, rfl⟩
  | some value =>
    simp only [found] at isRead
    exact .inl (congrArg some (readInterval_eq_ok_iff.mp isRead))

theorem exists_readAgent_table_iff (sound : (Toml.Value.table entries).Sound) :
    (∃ interval, readAgent (.table entries) = .ok interval) ↔
      ∀ value, entries.lookup "poll_interval_ms" = some value → ∃ n : Nat, value = .integer n ∧ 0 ≤ n := by
  have .table _ inner := sound
  rw [readAgent]
  cases found : entries.lookup "poll_interval_ms" with
  | none => simp
  | some value =>
    simp only [exists_readInterval_iff, Option.some_inj, forall_eq']
    constructor
    · rintro ⟨n, rfl, least, -⟩
      exact ⟨n, rfl, least⟩
    · rintro ⟨n, rfl, least⟩
      -- A whole number of TOML is never too large for an interval.
      cases inner _ (Toml.mem_of_lookup found) with
      | integer small => exact ⟨n, rfl, least, by omega⟩

end Settings

end Tables

/-! Given settings are the only ones that are given. -/

section Unique

variable {entries : Toml.Entries}

theorem Given.unique {α : Type} {key : String} {written : α → Toml.Value} {byDefault one other : α}
    (injective : ∀ {a b}, written a = written b → a = b) (given : Given entries key written byDefault one)
    (again : Given entries key written byDefault other) : one = other := by
  rcases given with found | ⟨missing, rfl⟩ <;> rcases again with foundToo | ⟨missingToo, rfl⟩
  · exact injective (Option.some.inj (found.symm.trans foundToo))
  · cases found.symm.trans missingToo
  · cases missing.symm.trans foundToo
  · rfl

theorem NetworkSettings.GivenBy.unique {network other : NetworkSettings} (given : network.GivenBy entries)
    (again : other.GivenBy entries) : network = other := by
  have port {a b : UInt16} (same : Toml.Value.integer a.toNat = .integer b.toNat) : a = b :=
    UInt16.toNat_inj.mp (Int.ofNat_inj.mp (Toml.Value.integer.inj same))
  cases network
  cases other
  congr 1
  · exact given.dataHost.unique Toml.Value.string.inj again.dataHost
  · exact given.dataPort.unique port again.dataPort
  · exact given.commandHost.unique Toml.Value.string.inj again.commandHost
  · exact given.commandPort.unique port again.commandPort

theorem SerialSettings.GivenBy.unique {line other : SerialSettings} (given : line.GivenBy entries)
    (again : other.GivenBy entries) : line = other := by
  have rate {a b : UInt32} (same : Toml.Value.integer a.toNat = .integer b.toNat) : a = b :=
    UInt32.toNat_inj.mp (Int.ofNat_inj.mp (Toml.Value.integer.inj same))
  cases line
  cases other
  congr 1
  · exact given.devicePath.unique Toml.Value.string.inj again.devicePath
  · exact given.baudRate.unique rate again.baudRate

theorem Kind.name_injective {kind other : Kind} (same : kind.name = other.name) : kind = other := by
  cases kind <;> cases other <;> simp_all [Kind.name]

theorem ConnectionSettings.GivenBy.unique {connection other : ConnectionSettings} (given : connection.GivenBy entries)
    (again : other.GivenBy entries) : connection = other := by
  have names := Toml.Value.string.inj (Option.some.inj (given.kind.symm.trans again.kind))
  have kinds := Kind.name_injective names
  have fields := given.fields
  have fieldsToo := again.fields
  cases connection <;> cases other <;> cases kinds
  case rsn.rsn | tcp.tcp | udp.udp => exact congrArg _ (NetworkSettings.GivenBy.unique fields fieldsToo)
  case serial.serial => exact congrArg _ (SerialSettings.GivenBy.unique fields fieldsToo)

theorem Settings.GivenBy.unique {settings other : Settings} (given : settings.GivenBy entries)
    (again : other.GivenBy entries) : settings = other := by
  have interval {a b : UInt64} (same : Toml.Value.integer a.toNat = .integer b.toNat) : a = b :=
    UInt64.toNat_inj.mp (Int.ofNat_inj.mp (Toml.Value.integer.inj same))
  have connection : settings.connection = other.connection := by
    rcases given.connection with ⟨missing, byDefault⟩ | ⟨there, connection⟩ <;>
      rcases again.connection with ⟨missingToo, byDefaultToo⟩ | ⟨thereToo, connectionToo⟩
    · rw [byDefault, byDefaultToo]
    · exact absurd missing thereToo
    · exact absurd missingToo there
    · exact connection.unique connectionToo
  cases settings
  cases other
  congr 1
  exact given.interval.unique interval again.interval

end Unique

/-! Tables that are similar allow the same and give the same. -/

section Similar

open Toml (Similar)

variable {entries others root : Toml.Entries}

theorem FieldType.Allows.isPlain {type : FieldType} {value : Toml.Value} (allowed : type.Allows value) :
    value.IsPlain := by
  cases type with
  | text =>
    obtain ⟨_, rfl⟩ := allowed
    trivial
  | number least most =>
    obtain ⟨_, rfl, -⟩ := allowed
    trivial

theorem ConnectionSettings.WellTyped.similar {leastRate : Nat} (wellTyped : WellTyped leastRate entries)
    (similar : Similar entries others) : WellTyped leastRate others := by
  obtain ⟨kind, found, fields⟩ := wellTyped
  have isText : (Toml.Value.string kind.name).IsPlain := trivial
  refine ⟨kind, (similar.plain "type" isText).mp found, fun key value there type isField => ?_⟩
  have before old (shown : entries.lookup key = some old) : type.Allows old := fields key old shown type isField
  exact similar.allowed (fun _ => FieldType.Allows.isPlain) before value there

theorem Given.similar {α : Type} {key : String} {written : α → Toml.Value} {byDefault setting : α}
    (given : Given entries key written byDefault setting) (similar : Similar entries others)
    (plain : (written setting).IsPlain) : Given others key written byDefault setting :=
  given.imp (similar.plain key plain).mp (And.imp_left (similar.missing key).mp)

theorem NetworkSettings.GivenBy.similar {network : NetworkSettings} (given : network.GivenBy entries)
    (similar : Similar entries others) : network.GivenBy others where
  dataHost := given.dataHost.similar similar trivial
  dataPort := given.dataPort.similar similar trivial
  commandHost := given.commandHost.similar similar trivial
  commandPort := given.commandPort.similar similar trivial

theorem SerialSettings.GivenBy.similar {line : SerialSettings} (given : line.GivenBy entries)
    (similar : Similar entries others) : line.GivenBy others where
  devicePath := given.devicePath.similar similar trivial
  baudRate := given.baudRate.similar similar trivial

theorem ConnectionSettings.GivenBy.similar {connection : ConnectionSettings} (given : connection.GivenBy entries)
    (similar : Similar entries others) : connection.GivenBy others where
  kind := by
    have isText : (Toml.Value.string connection.kind.name).IsPlain := trivial
    exact (similar.plain "type" isText).mp given.kind
  fields := by
    have fields := given.fields
    cases connection with
    | rsn | tcp | udp => exact NetworkSettings.GivenBy.similar fields similar
    | serial => exact SerialSettings.GivenBy.similar fields similar

structure Settings.SimilarParts (root others : Toml.Entries) : Prop where
  agent : Similar (Toml.tableAt "agent" root) (Toml.tableAt "agent" others)
  missing : root.lookup "connection" = none ↔ others.lookup "connection" = none
  connection : Similar (Toml.tableAt "connection" root) (Toml.tableAt "connection" others)

namespace Settings

theorem WellTyped.similar {least : Nat} (wellTyped : WellTyped least root) (similar : SimilarParts root others) :
    WellTyped least others where
  interval := similar.agent.allowed (by rintro _ ⟨_, rfl, -⟩; trivial) wellTyped.interval
  connection := wellTyped.connection.imp similar.missing.mp fun connection => connection.similar similar.connection

theorem GivenBy.similar {settings : Settings} (given : settings.GivenBy root) (similar : SimilarParts root others) :
    settings.GivenBy others where
  interval := given.interval.similar similar.agent trivial
  connection := given.connection.imp (And.imp_left similar.missing.mp) fun ⟨there, connection⟩ =>
    ⟨fun missing => there (similar.missing.mpr missing), connection.similar similar.connection⟩

theorem SimilarParts.symm (similar : SimilarParts root others) : SimilarParts others root :=
  ⟨similar.agent.symm, similar.missing.symm, similar.connection.symm⟩

end Settings

end Similar

/-! An interval and a rate of 0 are read, and not accepted. -/

theorem FieldType.allows_one_iff {most : Nat} {value : Toml.Value} :
    (number 1 most).Allows value ↔ (number 0 most).Allows value ∧ value ≠ .integer 0 := by
  constructor
  · rintro ⟨n, rfl, positive, small⟩
    refine ⟨⟨n, rfl, Nat.zero_le n, small⟩, fun zero => ?_⟩
    have isZero := Toml.Value.integer.inj zero
    omega
  · rintro ⟨⟨n, rfl, -, small⟩, nonzero⟩
    refine ⟨n, rfl, Nat.one_le_iff_ne_zero.mpr ?_, small⟩
    rintro rfl
    exact nonzero rfl

theorem Kind.forall_fieldTypes_one_iff {kind : Kind} {key : String} {value : Toml.Value} :
    (∀ type, (key, type) ∈ kind.fieldTypes 1 → type.Allows value) ↔
      (∀ type, (key, type) ∈ kind.fieldTypes 0 → type.Allows value) ∧
        (kind = .serial → key = "baud_rate" → value ≠ .integer 0) := by
  cases kind with
  | rsn | tcp | udp => simp [Kind.fieldTypes]
  | serial =>
    simp only [Kind.fieldTypes, SerialSettings.fieldTypes, List.mem_cons, Prod.mk.injEq, List.not_mem_nil, or_false]
    constructor
    · intro fields
      refine ⟨?_, fun _ isRate => (FieldType.allows_one_iff.mp (fields _ (.inr ⟨isRate, rfl⟩))).2⟩
      rintro type (⟨isPath, rfl⟩ | ⟨isRate, rfl⟩)
      · exact fields _ (.inl ⟨isPath, rfl⟩)
      · exact (FieldType.allows_one_iff.mp (fields _ (.inr ⟨isRate, rfl⟩))).1
    · rintro ⟨fields, nonzero⟩ type (⟨isPath, rfl⟩ | ⟨isRate, rfl⟩)
      · exact fields _ (.inl ⟨isPath, rfl⟩)
      · exact FieldType.allows_one_iff.mpr ⟨fields _ (.inr ⟨isRate, rfl⟩), nonzero trivial isRate⟩

theorem ConnectionSettings.wellTyped_one_iff {entries : Toml.Entries} :
    WellTyped 1 entries ↔
      WellTyped 0 entries ∧
        ¬(entries.lookup "type" = some (.string "serial") ∧ entries.lookup "baud_rate" = some (.integer 0)) := by
  constructor
  · rintro ⟨kind, found, fields⟩
    refine ⟨⟨kind, found, fun key value there => (Kind.forall_fieldTypes_one_iff.mp (fields key value there)).1⟩, ?_⟩
    rintro ⟨isSerial, zero⟩
    have named := Toml.Value.string.inj (Option.some.inj (found.symm.trans isSerial))
    have serial : kind = .serial := Kind.name_injective named
    exact (Kind.forall_fieldTypes_one_iff.mp (fields _ _ zero)).2 serial rfl rfl
  · rintro ⟨⟨kind, found, fields⟩, nonzero⟩
    refine ⟨kind, found, fun key value there => Kind.forall_fieldTypes_one_iff.mpr ⟨fields key value there, ?_⟩⟩
    rintro rfl rfl rfl
    exact nonzero ⟨found, there⟩

namespace Settings

variable {root : Toml.Entries} {settings : Settings}

theorem GivenBy.interval_eq_zero_iff (given : settings.GivenBy root) :
    settings.pollInterval = 0 ↔ IntervalIsZero root := by
  unfold IntervalIsZero
  rcases given.interval with found | ⟨missing, byDefault⟩
  · rw [found]
    simp [← UInt64.toNat_inj]
  · rw [missing, byDefault]
    simp

theorem GivenBy.rate_eq_zero_iff (given : settings.GivenBy root) :
    (∃ path, settings.connection = .serial ⟨path, 0⟩) ↔ RateIsZero root := by
  unfold RateIsZero
  rcases given.connection with ⟨missing, byDefault⟩ | ⟨-, kind, fields⟩
  · simp [byDefault, Toml.tableAt_of_missing missing]
  · rw [kind]
    cases isConnection : settings.connection with
    | rsn | tcp | udp => simp [ConnectionSettings.kind, Kind.name]
    | serial line =>
      rw [isConnection] at fields
      obtain ⟨-, found | ⟨missing, byDefault⟩⟩ := fields
      · obtain ⟨path, rate⟩ := line
        simp [found, ConnectionSettings.kind, Kind.name, ← UInt32.toNat_inj]
      · have positive : line.baudRate ≠ 0 := by
          rw [byDefault]
          decide
        have other : ∀ path, line ≠ ⟨path, 0⟩ := by
          rintro path rfl
          exact positive rfl
        simp [missing, other]

theorem wellTyped_one_iff : WellTyped 1 root ↔ WellTyped 0 root ∧ ¬IntervalIsZero root ∧ ¬RateIsZero root := by
  constructor
  · rintro ⟨interval, connection⟩
    refine ⟨⟨fun value there => ?_, connection.imp_right fun typed => ?_⟩, fun zero => ?_, fun zero => ?_⟩
    · obtain ⟨n, rfl, -⟩ := interval value there
      exact ⟨n, rfl, Nat.zero_le n⟩
    · exact (ConnectionSettings.wellTyped_one_iff.mp typed).1
    · obtain ⟨n, same, positive⟩ := interval _ zero
      have isZero := Toml.Value.integer.inj same
      omega
    · rcases connection with missing | typed
      · rw [RateIsZero, Toml.tableAt_of_missing missing] at zero
        cases zero.1
      · exact (ConnectionSettings.wellTyped_one_iff.mp typed).2 zero
  · rintro ⟨⟨interval, connection⟩, positive, nonzero⟩
    refine ⟨fun value there => ?_, connection.imp_right fun typed => ?_⟩
    · obtain ⟨n, rfl, -⟩ := interval value there
      refine ⟨n, rfl, Nat.one_le_iff_ne_zero.mpr ?_⟩
      rintro rfl
      exact positive there
    · exact ConnectionSettings.wellTyped_one_iff.mpr ⟨typed, nonzero⟩

end Settings
end InstrumentLink
