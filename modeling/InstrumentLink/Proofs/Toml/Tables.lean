import InstrumentLink.Proofs.Toml.Lines

/-!
A document of tables, each with a header and a line for every key, is read as these tables, in the order in which they
are written.
-/

namespace InstrumentLink.Toml

abbrev Fields := List (String × Datum)

def nodesOf (fields : Fields) : Nodes := fields.map fun (key, datum) => (key, .value datum.value)

def entriesOf (fields : Fields) : Entries := fields.map fun (key, datum) => (key, datum.value)

theorem valuesOf_nodesOf (fields : Fields) : valuesOf (nodesOf fields) = entriesOf fields := by
  induction fields with
  | nil => rfl
  | cons field fields ih =>
    rw [nodesOf, List.map_cons, valuesOf, Node.toValue]
    exact congrArg _ ih

structure Table where
  name : String
  fields : Fields

namespace Table

def lines (table : Table) : List Line :=
  .header table.name :: table.fields.map fun (key, datum) => .field key datum

def node (table : Table) : String × Node := (table.name, .table false false (nodesOf table.fields))

def entry (table : Table) : String × Value := (table.name, .table (entriesOf table.fields))

structure WellFormed (table : Table) : Prop where
  bare : isBareKey table.name = true
  fields : ∀ field ∈ table.fields, isBareKey field.1 = true ∧ field.2.InRange
  apart : (table.fields.map Prod.fst).Nodup

theorem WellFormed.lines {table : Table} (wellFormed : table.WellFormed) : ∀ line ∈ table.lines, line.WellFormed := by
  intro line member
  rcases List.mem_cons.mp member with rfl | isField
  · exact wellFormed.bare
  · obtain ⟨field, inside, rfl⟩ := List.mem_map.mp isField
    exact wellFormed.fields field inside

end Table

theorem valuesOf_node (tables : List Table) : valuesOf (tables.map Table.node) = tables.map Table.entry := by
  induction tables with
  | nil => rfl
  | cons table tables ih =>
    rw [List.map_cons, Table.node, valuesOf, Node.toValue, valuesOf_nodesOf, ih]
    rfl

theorem lookup_eq_none_of_notMem {α : Type} {key : String} {entries : List (String × α)}
    (absent : key ∉ entries.map Prod.fst) : entries.lookup key = none := by
  rw [List.lookup_eq_none_iff]
  intro entry member
  rw [bne_iff_ne]
  rintro rfl
  exact absent (List.mem_map_of_mem member)

namespace Document

variable {document : Document} {root : Nodes}

theorem assign_new {key : String} (absent : key ∉ document.entries.map Prod.fst) (value : Value) :
    document.assign [key] value = some { document with entries := document.entries ++ [(key, .value value)] } := by
  have nothing := lookup_eq_none_of_notMem absent
  simp [Document.assign, Nodes.assign, Nodes.within, nothing]

theorem openTable_new {name : String} (closed : document.close = some root) (absent : name ∉ root.map Prod.fst) :
    document.openTable [name] = some ⟨root, [name], false, []⟩ := by
  have nothing := lookup_eq_none_of_notMem absent
  simp [Document.openTable, openTable.entriesAt, closed, Nodes.within, nothing]

theorem foldlM_fields (fields : Fields) (apart : (document.entries.map Prod.fst ++ fields.map Prod.fst).Nodup) :
    (fields.map fun (key, datum) => Line.field key datum).foldlM Line.apply document =
      some { document with entries := document.entries ++ nodesOf fields } := by
  induction fields generalizing document with
  | nil => simp [nodesOf]
  | cons field fields ih =>
    obtain ⟨key, datum⟩ := field
    have absent : key ∉ document.entries.map Prod.fst := by
      intro member
      exact (List.nodup_append.mp apart).2.2 _ member _ (List.mem_cons_self ..) rfl
    have later := @ih { document with entries := document.entries ++ [(key, .value datum.value)] } (by
      rw [List.map_append, List.append_assoc]
      exact apart)
    rw [List.map_cons, List.foldlM_cons, Line.apply, assign_new absent, Option.bind_eq_bind, Option.bind_some, later]
    simp [nodesOf]

theorem foldlM_table {table : Table} (wellFormed : table.WellFormed) (closed : document.close = some root)
    (absent : table.name ∉ root.map Prod.fst) :
    table.lines.foldlM Line.apply document = some ⟨root, [table.name], false, nodesOf table.fields⟩ := by
  have filled := @foldlM_fields ⟨root, [table.name], false, []⟩ table.fields wellFormed.apart
  rw [Table.lines, List.foldlM_cons, Line.apply, openTable_new closed absent, Option.bind_eq_bind, Option.bind_some,
    filled]
  rfl

theorem close_table (root : Nodes) (table : Table) :
    (Document.mk root [table.name] false (nodesOf table.fields)).close = some (root ++ [table.node]) := rfl

theorem foldlM_tables {tables : List Table} (wellFormed : ∀ table ∈ tables, table.WellFormed)
    (closed : document.close = some root) (apart : (root.map Prod.fst ++ tables.map Table.name).Nodup) :
    ∃ last, (tables.flatMap fun table => .blank :: table.lines).foldlM Line.apply document = some last ∧
      last.close = some (root ++ tables.map Table.node) := by
  -- What a table leaves open is closed by the next, so the finished ones grow from step to step.
  induction tables generalizing document root with
  | nil => exact ⟨document, rfl, by simpa using closed⟩
  | cons table tables ih =>
    obtain ⟨first, others⟩ := List.forall_mem_cons.mp wellFormed
    have absent : table.name ∉ root.map Prod.fst := by
      intro member
      exact (List.nodup_append.mp apart).2.2 _ member _ (List.mem_cons_self ..) rfl
    obtain ⟨last, read, lastClosed⟩ := ih others (close_table root table) (by
      rw [List.map_append, List.append_assoc]
      exact apart)
    refine ⟨last, ?_, ?_⟩
    · rw [List.flatMap_cons, List.foldlM_append, List.foldlM_cons, Line.apply, Option.bind_eq_bind, Option.bind_some,
        foldlM_table first closed absent, Option.bind_some, read]
    · rw [lastClosed, List.append_assoc]
      rfl

end Document

def documentLines (tables : List Table) : List Line := (tables.flatMap fun table => .blank :: table.lines).drop 1

/-- A document of tables with different names, each with different keys, is read as it is written. -/
theorem read?_documentLines {tables : List Table} (wellFormed : ∀ table ∈ tables, table.WellFormed)
    (apart : (tables.map Table.name).Nodup) :
    read? (String.ofList ((documentLines tables).flatMap Line.chars)) = some (tables.map Table.entry) := by
  have lines : ∀ line ∈ documentLines tables, line.WellFormed := by
    intro line member
    obtain ⟨table, inside, isLine⟩ := List.mem_flatMap.mp (List.mem_of_mem_drop member)
    rcases List.mem_cons.mp isLine with rfl | isLine
    · trivial
    · exact (wellFormed table inside).lines line isLine
  obtain ⟨last, read, closed⟩ := @Document.foldlM_tables .empty [] tables wellFormed rfl apart
  have dropped : (documentLines tables).foldlM Line.apply .empty = some last := by
    rw [← read]
    cases tables <;> rfl
  rw [read?_lines lines, dropped, Option.bind_some, Document.finish, closed, Option.map_some, List.nil_append,
    valuesOf_node]

end InstrumentLink.Toml
