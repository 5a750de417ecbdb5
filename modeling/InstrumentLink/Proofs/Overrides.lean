import InstrumentLink.Proofs.Options.Arguments
import InstrumentLink.Proofs.Startup

/-!
What a command line makes of a connection that is made from settings. To make the changes that it gives replaces just
these fields, and does nothing else to the world than to talk about what is ignored.
-/

namespace InstrumentLink

namespace Connection

def ignoredLines (kind : Kind) (changes : List Change) : List LogEntry :=
  (changes.filter fun change => !kind.keeps change.field).map (ignoredLine · kind)

theorem ignoredLines_cons (kind : Kind) (change : Change) (rest : List Change) :
    ignoredLines kind (change :: rest) = ignoredLines kind [change] ++ ignoredLines kind rest := by
  rw [ignoredLines, ← List.singleton_append, List.filter_append, List.map_append]
  rfl

variable {connection : Connection}

/-- While nothing is held, a change does nothing to the world but to be talked about, and only if it is ignored. -/
theorem Bare.apply_world (bare : connection.Bare) (change : Change) (world : World) :
    ((connection.apply change).result world).1.kind = connection.kind ∧
      ((connection.apply change).result world).2 = world.tell (ignoredLines connection.kind [change]) := by
  by_cases keeps : connection.kind.keeps change.field = true
  · rw [bare.apply keeps, kind_ofSettings, ConnectionSettings.kind_set, kind_settings]
    simp [ignoredLines, keeps]
  · have absent : connection.kind.keeps change.field = false := by simpa using keeps
    have foreign : change.appliesTo connection.kind = false := by rw [Change.appliesTo_eq, absent]
    rw [apply_foreign foreign]
    simp [ignoredLines, absent]

theorem Bare.applyAll_world (bare : connection.Bare) (changes : List Change) (world : World) :
    ((connection.applyAll changes).result world).2 = world.tell (ignoredLines connection.kind changes) := by
  induction changes generalizing connection world with
  | nil => exact world.tell_nil.symm
  | cons change rest ih =>
    obtain ⟨stillBare, -⟩ := bare.apply_settings change world
    obtain ⟨kind, told⟩ := bare.apply_world change world
    calc
      _ = ((((connection.apply change).result world).1.applyAll rest).result
          ((connection.apply change).result world).2).2 := rfl
      _ = (world.tell (ignoredLines connection.kind [change])).tell (ignoredLines connection.kind rest) := by
        rw [ih stillBare, kind, told]
      _ = _ := by rw [World.tell_tell, ← ignoredLines_cons]

structure Overridden (settings : ConnectionSettings) (changes : List Change) (world : World)
    (outcome : Connection × World) : Prop where
  kind : outcome.1.kind = settings.kind
  /-- The fields that are given and kept show what is given. -/
  given : ∀ change ∈ changes, settings.kind.keeps change.field = true →
    outcome.1.settings.value? change.field = some change
  /-- The others that are kept show what they did. -/
  others : ∀ place, settings.kind.keeps place = true → (∀ change ∈ changes, change.field ≠ place) →
    outcome.1.settings.value? place = settings.value? place
  /-- What is not kept shows as unset. -/
  unset : ∀ place, settings.kind.keeps place = false →
    outcome.1.settings.value? place = (ConnectionSettings.unset settings.kind).value? place
  /-- Nothing is open. -/
  bare : outcome.1.Bare
  disconnected : ∀ role later, (outcome.1.isConnected role).result later = (false, later)
  /-- What is ignored is told, and nothing else happens to the world. -/
  told : ∃ lines, lines.Perm (ignoredLines settings.kind changes) ∧ outcome.2 = world.tell lines

theorem overridden {changes : List Change} (once : (changes.map Change.field).Nodup) (settings : ConnectionSettings)
    (world : World) :
    Overridden settings changes world
      (((ofSettings settings).applyAll (Options.default.giveAll changes).changes).result world) := by
  have said := Options.change?_default once
  have unsaid := @Options.change?_default_of_away changes once
  have same := Options.changes_giveAll_perm once
  generalize Options.default.giveAll changes = options at said unsaid same ⊢
  have bare := bare_ofSettings settings
  obtain ⟨stillBare, replaced⟩ := bare.applyAll_settings options.changes world
  have told := bare.applyAll_world options.changes world
  generalize ((ofSettings settings).applyAll options.changes).result world = outcome at stillBare replaced told
  rw [settings_ofSettings] at replaced
  rw [kind_ofSettings] at told
  refine ⟨?kind, ?given, ?others, ?unset, stillBare, stillBare.isConnected, _, (same.filter _).map _, told⟩
  case kind =>
    rw [← kind_settings, replaced, ConnectionSettings.kind_setAll, ConnectionSettings.kind_kept]
  case given =>
    intro change member keeps
    rw [replaced, settings.value?_override, if_pos keeps, (said change).mpr member, Option.some_or]
  case others =>
    intro place keeps away
    rw [replaced, settings.value?_override, if_pos keeps, unsaid away, Option.none_or]
  case unset =>
    intro place absent
    rw [replaced, settings.value?_override, absent]
    rfl

end Connection

/-- Options on the command line replace fields of the settings. Let each of some options be given once, with its value
behind an equals sign: any text for a host or a path, and a number in decimal for a port or a rate. In whatever order
they stand, they are read as the same options, which say just these values and have the defaults otherwise. To make
their changes to a connection that is made from settings leaves one of the same kind that shows the given fields that
the kind keeps as they are given, the others that it keeps as they were, and what it does not keep as unset. Nothing is
opened and no role is connected, and all that is left in the world is one line for each given option that the kind has
no field for. -/
theorem overrides_replace_fields {given : List Override} (once : (given.map (·.change.field)).Nodup) :
    ∃ options : Options,
      (∀ order : List Override, order.Perm given → Options.parse (order.map Override.argument) = .ok options) ∧
      options.config = Settings.defaultFile ∧ options.verbose = false ∧ options.once = false ∧
      (∀ change, options.change? change.field = some change ↔ change ∈ given.map Override.change) ∧
      ∀ settings world, Connection.Overridden settings (given.map Override.change) world
        (((Connection.ofSettings settings).applyAll options.changes).result world) := by
  have apart : ((given.map Override.change).map Change.field).Nodup := by rwa [List.map_map]
  obtain ⟨config, verbose, single⟩ := Options.default.rest_giveAll (given.map Override.change)
  refine ⟨Options.default.giveAll (given.map Override.change), fun order same => ?_, config, verbose, single,
    Options.change?_default apart, Connection.overridden apart⟩
  have onceToo : (order.map (·.change.field)).Nodup := (same.map _).nodup_iff.mpr once
  rw [Options.parse_overrides onceToo, Options.giveAll_perm (same.map Override.change) apart]

def datagramOverrides : List Override :=
  [⟨.commandPort 4002, "04002", show readNat? 10 "04002".toList = some 4002 by decide +kernel⟩,
    ⟨.dataHost "-x", "-x", rfl⟩, ⟨.devicePath "", "", rfl⟩]

/-- With datagrams the host is replaced, and there is a line for each of the others. -/
theorem overrides_replace_fields_datagram :
    ∃ options,
      Options.parse ["--command-port=04002", "--data-host=-x", "--device="] = .ok options ∧
      Options.parse ["--device=", "--data-host=-x", "--command-port=04002"] = .ok options ∧
      ∀ world,
        let connection := Connection.ofSettings (.udp ⟨"127.0.0.1", 7000, "10.0.0.5", 7001⟩)
        let outcome := (connection.applyAll options.changes).result world
        outcome.1.settings.value? .dataHost = some (.dataHost "-x") ∧
        outcome.1.settings.value? .dataPort = some (.dataPort 7000) ∧
        outcome.1.settings.value? .commandPort = some (.commandPort 0) ∧
        outcome.2.log.length = world.log.length + 2 := by
  have once : (datagramOverrides.map (·.change.field)).Nodup := by decide
  obtain ⟨options, parsed, -, -, -, -, changed⟩ := overrides_replace_fields once
  have reversed := parsed datagramOverrides.reverse (List.reverse_perm _)
  refine ⟨options, parsed datagramOverrides (List.Perm.refl _), reversed, fun world => ?_⟩
  intro connection outcome
  have came := changed (.udp ⟨"127.0.0.1", 7000, "10.0.0.5", 7001⟩) world
  refine ⟨came.given (.dataHost "-x") (by decide) rfl, came.others .dataPort rfl (by decide),
    came.unset .commandPort rfl, ?_⟩
  obtain ⟨lines, told, after⟩ := came.told
  rw [after, World.tell_log, List.length_append, told.length_eq]
  rfl

end InstrumentLink
