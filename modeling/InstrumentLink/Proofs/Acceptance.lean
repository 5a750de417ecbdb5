import InstrumentLink.Proofs.Given

/-!
Which texts hold settings, and what settings they hold. A text is accepted if what stands under the known keys has the
right type and neither the interval nor the rate of a serial line is 0. Its settings are those that stand there, and the
default where nothing does. What else stands in the text does not count, nor does the order.
-/

namespace InstrumentLink.Settings

variable {text : String} {root : Toml.Entries} {settings : Settings}

/-- A text is a TOML document, with a table for the agent and one for the connection if it has anything for them. -/
structure IsDocument (text : String) (root : Toml.Entries) : Prop where
  read : Toml.read? text = some root
  agent : Toml.OnlyTableAt "agent" root
  connection : Toml.OnlyTableAt "connection" root

/-! What is wrong with settings that are not valid. -/

section Validity

variable {failure : Failure}

theorem validate_cases (settings : Settings) :
    (settings.pollInterval = 0 ∧ settings.validate = .error (.invalidSettings .pollInterval notZero)) ∨
      (settings.pollInterval ≠ 0 ∧ (∃ path, settings.connection = .serial ⟨path, 0⟩) ∧
        settings.validate = .error (.invalidSettings .baudRate notZero)) ∨
      (settings.pollInterval ≠ 0 ∧ (¬∃ path, settings.connection = .serial ⟨path, 0⟩) ∧ settings.validate = .ok ()) := by
  unfold validate
  split
  next zero => exact .inl ⟨zero, rfl⟩
  next positive =>
    refine .inr ?_
    split
    next line isLine =>
      obtain ⟨path, rate⟩ := line
      split
      next zero => exact .inl ⟨positive, ⟨path, zero ▸ isLine⟩, rfl⟩
      next nonzero =>
        refine .inr ⟨positive, ?_, rfl⟩
        rintro ⟨_, isZero⟩
        cases isLine.symm.trans isZero
        exact nonzero rfl
    next other => exact .inr ⟨positive, fun ⟨path, isLine⟩ => other _ isLine, rfl⟩

theorem validate_eq_error_iff :
    settings.validate = .error failure ↔
      (failure = .invalidSettings .pollInterval notZero ∧ settings.pollInterval = 0) ∨
        (failure = .invalidSettings .baudRate notZero ∧ settings.pollInterval ≠ 0 ∧
          ∃ path, settings.connection = .serial ⟨path, 0⟩) := by
  rcases settings.validate_cases with ⟨zero, verdict⟩ | ⟨positive, zero, verdict⟩ | ⟨positive, nonzero, verdict⟩
  · simp [zero, verdict, eq_comm]
  · simp [positive, zero, verdict, eq_comm]
  · simp [positive, nonzero, verdict]

theorem validate_eq_ok_iff :
    settings.validate = .ok () ↔ settings.pollInterval ≠ 0 ∧ ¬∃ path, settings.connection = .serial ⟨path, 0⟩ := by
  rcases settings.validate_cases with ⟨zero, verdict⟩ | ⟨positive, zero, verdict⟩ | ⟨positive, nonzero, verdict⟩
  · simp [zero, verdict]
  · simp [positive, zero, verdict]
  · simp [positive, nonzero, verdict]

theorem parse_eq_error_iff {text : String} :
    parse text = .error failure ↔
      (∃ error, decode text = .error error ∧ failure = .invalidSettings .document error.message) ∨
        ∃ settings, decode text = .ok settings ∧ settings.validate = .error failure := by
  rw [parse]
  cases decode text with
  | error error => simp [eq_comm]
  | ok settings => cases validity : settings.validate <;> simp [validity, Except.map]

theorem parse_eq_ok_iff {text : String} :
    parse text = .ok settings ↔ decode text = .ok settings ∧ settings.validate = .ok () := by
  refine ⟨fun parsed => ?_, fun ⟨decoded, valid⟩ => ?_⟩
  · have decoded := decode_of_parse parsed
    rw [parse_of_decode decoded] at parsed
    obtain ⟨_, valid, -⟩ := map_eq_ok_iff.mp parsed
    exact ⟨decoded, valid⟩
  · rw [parse_of_decode decoded, valid, Except.map]

end Validity

variable {other : String} {others : Toml.Entries}

theorem parse_eq_of_relevant (read : Toml.read? text = some root) (readOther : Toml.read? other = some others)
    (same : relevant others = relevant root) : parse other = parse text := by
  have decoded : decode other = decode text := by
    rw [decode, decode, read, readOther]
    dsimp only
    rw [← read_relevant, same, read_relevant]
  rw [parse, parse, decoded]

theorem forall_parts_iff {agent connection : Toml.Value → Prop} :
    (∀ key value, root.lookup key = some value →
        (key = "agent" → agent value) ∧ (key = "connection" → connection value)) ↔
      (∀ value, root.lookup "agent" = some value → agent value) ∧
        ∀ value, root.lookup "connection" = some value → connection value := by
  refine ⟨fun both => ⟨fun _ found => (both _ _ found).1 rfl, fun _ found => (both _ _ found).2 rfl⟩, ?_⟩
  rintro ⟨agent, connection⟩ key value found
  exact ⟨fun isAgent => agent value (isAgent ▸ found), fun isConnection => connection value (isConnection ▸ found)⟩

namespace IsDocument

variable (document : IsDocument text root)
include document

theorem decode_eq : decode text = Settings.read root := by
  rw [decode, document.read]

theorem givenBy (decoded : decode text = .ok settings) : settings.GivenBy root := by
  have .table apart inner := Toml.sound_read? document.read
  rw [document.decode_eq] at decoded
  constructor
  · rcases fills_pollInterval.foldlM apart decoded with ⟨missing, same⟩ | ⟨_, found, isInterval⟩
    · rw [Toml.tableAt_of_missing missing]
      exact .inr ⟨rfl, same⟩
    · obtain ⟨entries, rfl⟩ := document.agent _ found
      rw [Toml.tableAt_eq found]
      exact given_of_readAgent_table isInterval
  · rcases fills_connection.foldlM apart decoded with ⟨missing, same⟩ | ⟨_, found, isConnection⟩
    · exact .inl ⟨missing, same⟩
    · obtain ⟨entries, rfl⟩ := document.connection _ found
      have .table apart _ := inner _ (Toml.mem_of_lookup found)
      rw [Toml.tableAt_eq found]
      exact .inr ⟨by simp [found], ConnectionSettings.givenBy_of_read_table apart isConnection⟩

theorem exists_decode_iff : (∃ settings, decode text = .ok settings) ↔ WellTyped 0 root := by
  have sound := Toml.sound_read? document.read
  have .table apart _ := sound
  have .table connectionApart _ := sound.tableAt "connection"
  rw [document.decode_eq, Settings.read, exists_foldlM_iff_lookup apart exists_readField_iff, forall_parts_iff,
    document.agent.forall_iff, document.connection.forall_iff, exists_readAgent_table_iff (sound.tableAt "agent"),
    ConnectionSettings.exists_read_table_iff connectionApart]
  -- An agent that is missing counts as an empty table, but a connection that is missing does not: that would lack a kind.
  constructor
  · rintro ⟨missing | interval, connection⟩
    · exact ⟨by simp [Toml.tableAt_of_missing missing], connection⟩
    · exact ⟨interval, connection⟩
  · rintro ⟨interval, connection⟩
    exact ⟨.inr interval, connection⟩

theorem decode_eq_ok_iff : decode text = .ok settings ↔ WellTyped 0 root ∧ settings.GivenBy root := by
  refine ⟨fun decoded => ⟨document.exists_decode_iff.mp ⟨settings, decoded⟩, document.givenBy decoded⟩, ?_⟩
  rintro ⟨wellTyped, given⟩
  obtain ⟨found, decoded⟩ := document.exists_decode_iff.mpr wellTyped
  rwa [given.unique (document.givenBy decoded)]

theorem decode_similar (another : IsDocument other others) (similar : SimilarParts root others) :
    decode text = .ok settings ↔ decode other = .ok settings := by
  rw [document.decode_eq_ok_iff, another.decode_eq_ok_iff]
  exact ⟨fun ⟨wellTyped, given⟩ => ⟨wellTyped.similar similar, given.similar similar⟩,
    fun ⟨wellTyped, given⟩ => ⟨wellTyped.similar similar.symm, given.similar similar.symm⟩⟩

theorem reordered (readOther : Toml.read? other = some others)
    (reordered : Toml.Value.Reordered (.table root) (.table others)) :
    IsDocument other others ∧ SimilarParts root others := by
  have sound := Toml.sound_read? document.read
  have .table apart _ := sound
  refine ⟨⟨readOther, reordered.onlyTableAt apart document.agent, reordered.onlyTableAt apart document.connection⟩, ?_⟩
  exact ⟨reordered.similar_tableAt sound document.agent, (reordered.similar apart).missing "connection",
    reordered.similar_tableAt sound document.connection⟩

theorem parse_reordered (readOther : Toml.read? other = some others)
    (reordered : Toml.Value.Reordered (.table root) (.table others)) :
    parse text = .ok settings ↔ parse other = .ok settings := by
  obtain ⟨another, similar⟩ := document.reordered readOther reordered
  rw [parse_eq_ok_iff, parse_eq_ok_iff, document.decode_similar another similar]

theorem not_wellTyped {error : ReadError} (undecoded : decode text = .error error) : ¬WellTyped 0 root := by
  rw [← document.exists_decode_iff, undecoded]
  rintro ⟨_, decoded⟩
  cases decoded

theorem exists_parse_iff : (∃ settings, parse text = .ok settings) ↔ WellTyped 1 root := by
  rw [wellTyped_one_iff]
  cases decoded : decode text with
  | error error => simp [parse_eq_ok_iff, decoded, document.not_wellTyped decoded]
  | ok settings =>
    obtain ⟨wellTyped, given⟩ := document.decode_eq_ok_iff.mp decoded
    rw [← given.interval_eq_zero_iff, ← given.rate_eq_zero_iff]
    simp only [parse_eq_ok_iff, decoded, Except.ok.injEq, exists_eq_left', wellTyped, true_and]
    exact validate_eq_ok_iff

theorem parse_eq_error_iff {failure : Failure} : parse text = .error failure ↔
    (failure = .invalidSettings .pollInterval notZero ∧ WellTyped 0 root ∧ IntervalIsZero root) ∨
      (failure = .invalidSettings .baudRate notZero ∧ WellTyped 0 root ∧ ¬IntervalIsZero root ∧ RateIsZero root) ∨
      ∃ error, decode text = .error error ∧ failure = .invalidSettings .document error.message := by
  rw [Settings.parse_eq_error_iff]
  cases decoded : decode text with
  | error error => simp [document.not_wellTyped decoded]
  | ok settings =>
    obtain ⟨wellTyped, given⟩ := document.decode_eq_ok_iff.mp decoded
    rw [← given.interval_eq_zero_iff, ← given.rate_eq_zero_iff]
    simp [wellTyped, validate_eq_error_iff]

end IsDocument

/-- A text is accepted if and only if its document has nothing of the wrong type under the keys that are known, the
interval is not 0 and the rate of a serial line is not 0. Its settings are what stands under these keys, and the default
where nothing does. Other keys can be left out, added and changed, and the order of all keys and tables makes no
difference to settings that are accepted. If settings can be read and are refused, an interval of 0 is blamed, or else a
rate of 0; if they cannot, the document is. -/
theorem parse_accepts_well_typed (document : IsDocument text root) :
    ((∃ settings, parse text = .ok settings) ↔ WellTyped 1 root) ∧
      (∀ settings, parse text = .ok settings → settings.GivenBy root) ∧
      (∀ other others, Toml.read? other = some others → relevant others = relevant root → parse other = parse text) ∧
      (∀ other others, Toml.read? other = some others → Toml.Value.Reordered (.table root) (.table others) →
        ∀ settings, parse text = .ok settings ↔ parse other = .ok settings) ∧
      ((∃ settings, decode text = .ok settings) ↔ WellTyped 0 root) ∧
      ∀ failure, parse text = .error failure ↔
        (failure = .invalidSettings .pollInterval notZero ∧ WellTyped 0 root ∧ IntervalIsZero root) ∨
          (failure = .invalidSettings .baudRate notZero ∧ WellTyped 0 root ∧ ¬IntervalIsZero root ∧ RateIsZero root) ∨
          ∃ error, decode text = .error error ∧ failure = .invalidSettings .document error.message :=
  ⟨document.exists_parse_iff, fun _ parsed => document.givenBy (decode_of_parse parsed),
    fun _ _ readOther same => parse_eq_of_relevant document.read readOther same,
    fun _ _ readOther reordered _ => document.parse_reordered readOther reordered, document.exists_decode_iff,
    fun _ => document.parse_eq_error_iff⟩

def scatteredFields : Toml.Fields := [("baud_rate", .string "x"), ("type", .string "udp"), ("data_port", .number 7)]

def agentTable : Toml.Table := ⟨"agent", [("poll_interval_ms", .number 5)]⟩

def scatteredTables : List Toml.Table := [⟨"connection", scatteredFields⟩, agentTable]

def scatteredText : String :=
  "[connection]\nbaud_rate = \"x\"\ntype = \"udp\"\ndata_port = 7\n\n[agent]\npoll_interval_ms = 5\n"

def plainTables : List Toml.Table := [⟨"connection", [("type", .string "udp"), ("data_port", .number 7)]⟩, agentTable]

def plainText : String := "[connection]\ntype = \"udp\"\ndata_port = 7\n\n[agent]\npoll_interval_ms = 5\n"

def reorderedTables : List Toml.Table :=
  [agentTable, ⟨"connection", [("type", .string "udp"), ("baud_rate", .string "x"), ("data_port", .number 7)]⟩]

def reorderedText : String :=
  "[agent]\npoll_interval_ms = 5\n\n[connection]\ntype = \"udp\"\nbaud_rate = \"x\"\ndata_port = 7\n"

theorem wellFormed_agentTable : agentTable.WellFormed :=
  ⟨by decide, List.forall_mem_singleton.mpr ⟨by decide, inRange_port 5⟩, by decide⟩

theorem wellFormed_connectionTable {fields : Toml.Fields} (known : fields ⊆ scatteredFields)
    (apart : (fields.map Prod.fst).Nodup) : Toml.Table.WellFormed ⟨"connection", fields⟩ := by
  have each : ∀ field ∈ scatteredFields, Toml.isBareKey field.1 = true ∧ field.2.InRange :=
    List.forall_mem_cons.mpr ⟨⟨by decide, trivial⟩,
      List.forall_mem_cons.mpr ⟨⟨by decide, trivial⟩, List.forall_mem_singleton.mpr ⟨by decide, inRange_port 7⟩⟩⟩
  exact ⟨show Toml.isBareKey "connection" = true by decide, fun field member => each field (known member), apart⟩

theorem read?_of_written {tables : List Toml.Table} (wellFormed : ∀ table ∈ tables, table.WellFormed)
    (apart : (tables.map Toml.Table.name).Nodup)
    (written : text = String.ofList ((Toml.documentLines tables).flatMap Toml.Line.chars)) :
    Toml.read? text = some (tables.map Toml.Table.entry) := by
  rw [written, Toml.read?_documentLines wellFormed apart]

theorem read?_scatteredText : Toml.read? scatteredText = some (scatteredTables.map Toml.Table.entry) := by
  have connection := wellFormed_connectionTable (List.Subset.refl scatteredFields) (by decide)
  have wellFormed := List.forall_mem_cons.mpr ⟨connection, List.forall_mem_singleton.mpr wellFormed_agentTable⟩
  exact read?_of_written wellFormed (by decide) (by decide +kernel)

theorem read?_plainText : Toml.read? plainText = some (plainTables.map Toml.Table.entry) := by
  have connection := wellFormed_connectionTable (List.subset_cons_self _ _) (by decide)
  have wellFormed := List.forall_mem_cons.mpr ⟨connection, List.forall_mem_singleton.mpr wellFormed_agentTable⟩
  exact read?_of_written wellFormed (by decide) (by decide +kernel)

theorem read?_reorderedText : Toml.read? reorderedText = some (reorderedTables.map Toml.Table.entry) := by
  have connection := wellFormed_connectionTable (List.Perm.swap _ _ _).subset (by decide)
  have wellFormed := List.forall_mem_cons.mpr ⟨wellFormed_agentTable, List.forall_mem_singleton.mpr connection⟩
  exact read?_of_written wellFormed (by decide) (by decide +kernel)

theorem isDocument_scatteredText : IsDocument scatteredText (scatteredTables.map Toml.Table.entry) where
  read := read?_scatteredText
  agent := by
    intro value found
    cases found
    exact ⟨_, rfl⟩
  connection := by
    intro value found
    cases found
    exact ⟨_, rfl⟩

theorem reordered_scatteredTables :
    Toml.Value.Reordered (.table (scatteredTables.map Toml.Table.entry))
      (.table (reorderedTables.map Toml.Table.entry)) :=
  .trans (.perm (.swap _ _ [])) (.entry [agentTable.entry] "connection" [] (.perm (.swap _ _ _)))

theorem parse_accepts_well_typed_scattered :
    WellTyped 1 (scatteredTables.map Toml.Table.entry) ∧
      GivenBy (scatteredTables.map Toml.Table.entry) ⟨5, .udp ⟨"", 7, "", 0⟩⟩ ∧
      parse plainText = .ok ⟨5, .udp ⟨"", 7, "", 0⟩⟩ ∧ parse reorderedText = .ok ⟨5, .udp ⟨"", 7, "", 0⟩⟩ := by
  obtain ⟨accepted, given, relevant, reordered, -⟩ := parse_accepts_well_typed isDocument_scatteredText
  have parsed : parse scatteredText = .ok ⟨5, .udp ⟨"", 7, "", 0⟩⟩ := by decide +kernel
  refine ⟨accepted.mp ⟨_, parsed⟩, given _ parsed, ?_, ?_⟩
  · rw [relevant _ _ read?_plainText rfl, parsed]
  · exact (reordered _ _ read?_reorderedText reordered_scatteredTables _).mp parsed

/-- Without headers. -/
example : parse "connection = \x7b baud_rate = 0.5, type = \"udp\", data_port = 7 \x7d\nagent.poll_interval_ms = 5\n" =
    .ok ⟨5, .udp ⟨"", 7, "", 0⟩⟩ := by
  decide +kernel

end InstrumentLink.Settings
