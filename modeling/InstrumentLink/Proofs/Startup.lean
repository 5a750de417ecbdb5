import InstrumentLink.Program
import InstrumentLink.Proofs.Copies
import InstrumentLink.Proofs.Options.Changes
import InstrumentLink.Proofs.RoundTrip

/-!
What a program runs with once it has read its settings and made the changes that its command line asks for. The settings
in a file are looked at before they are used, and the changes are not: a serial line can be given a rate of 0 so, and
nothing else can be given that a file may not hold.
-/

namespace InstrumentLink

namespace Settings

theorem validate_default : default.validate = .ok () := rfl

theorem validate_of_parse {text : String} {settings : Settings} (parsed : parse text = .ok settings) :
    settings.validate = .ok () := by
  rw [parse_of_decode (decode_of_parse parsed)] at parsed
  cases verdict : settings.validate with
  | error failure =>
    rw [verdict] at parsed
    cases parsed
  | ok _ => rfl

theorem validate_of_load {path : String} {world : World} {settings : Settings}
    (loaded : ((load path).result world).1 = .ok settings) : settings.validate = .ok () := by
  unfold load at loaded
  rw [Act.result_bind] at loaded
  split at loaded
  · cases loaded
    exact validate_default
  next content _ =>
    split at loaded
    · exact validate_of_parse loaded
    · cases loaded
  · cases loaded
  · cases loaded
  · cases loaded
    exact validate_default

theorem validate_eq (settings : Settings) (interval : settings.pollInterval ≠ 0) :
    settings.validate =
      if settings.connection.value? .baudRate = some (.baudRate 0) then .error (.invalidSettings .baudRate notZero)
      else .ok () := by
  obtain ⟨pollInterval, connection⟩ := settings
  unfold validate
  rw [if_neg interval]
  cases connection with
  | serial line => simp [ConnectionSettings.value?, SerialSettings.value?]
  | rsn network | tcp network | udp network => rfl

end Settings

theorem Options.lastOf_baudRate (options : Options) :
    Change.lastOf .baudRate options.changes = options.baudRate.map .baudRate :=
  options.lastOf_changes .baudRate

namespace Connection

variable {connection : Connection}

/-- While nothing is held, a change is stored or talked about, whatever the world is like. -/
theorem Bare.apply_settings (bare : connection.Bare) (change : Change) (world : World) :
    ((connection.apply change).result world).1.Bare ∧
      ((connection.apply change).result world).1.settings = connection.settings.set change := by
  by_cases keeps : connection.kind.keeps change.field = true
  · rw [bare.apply keeps]
    refine ⟨bare_ofSettings _, ?_⟩
    rw [settings_ofSettings, ConnectionSettings.kept_set, kept_settings]
  · have absent : connection.kind.keeps change.field = false := by simpa using keeps
    have foreign : change.appliesTo connection.kind = false := by rw [Change.appliesTo_eq, absent]
    rw [apply_foreign foreign]
    refine ⟨bare, ?_⟩
    rw [ConnectionSettings.set_of_not_keeps]
    rw [kind_settings, absent]

theorem Bare.applyAll_settings (bare : connection.Bare) (changes : List Change) (world : World) :
    ((connection.applyAll changes).result world).1.Bare ∧
      ((connection.applyAll changes).result world).1.settings = connection.settings.setAll changes := by
  induction changes generalizing connection world with
  | nil => exact ⟨bare, rfl⟩
  | cons change rest ih =>
    obtain ⟨stillBare, first⟩ := bare.apply_settings change world
    obtain ⟨after, others⟩ := ih stillBare ((connection.apply change).result world).2
    refine ⟨after, others.trans ?_⟩
    rw [first]
    rfl

end Connection

/-- The rate is unset after some changes if the last of them has unset it, or if it was before and none has set it. -/
theorem ConnectionSettings.baudRate_setAll {settings : ConnectionSettings}
    (set : settings.value? .baudRate ≠ some (.baudRate 0))
    (options : Options) :
    (settings.kept.setAll options.changes).value? .baudRate = some (.baudRate 0) ↔
      settings.kind = .serial ∧ options.baudRate = some 0 := by
  rw [value?_setAll, value?_kept, kind_kept, options.lastOf_baudRate]
  cases settings with
  | serial line =>
    cases rate : options.baudRate with
    | none => simpa [kind, Kind.keeps] using set
    | some rate => simp [kind, Kind.keeps]
  | rsn network | tcp network | udp network => simp [kind, Kind.keeps, value?, NetworkSettings.value?, unset]

namespace Program

variable {options : Options} {world : World} {settings : Settings} {agent : Agent}

/-- A program that starts has read its settings, and has made its agent of them and of the changes. -/
theorem start_eq_ok (started : ((start options).result world).1.2 = .ok (settings, agent)) :
    ((Settings.load options.config).result world).1 = .ok settings ∧
      ∃ between, agent = ((agentOf options settings).result between).1 := by
  have loaded : ((recording (Settings.load options.config)).result world).1.1 =
      ((Settings.load options.config).result world).1 := rfl
  rw [start, Act.result_bind] at started
  generalize (recording (Settings.load options.config)).result world = read at loaded started
  obtain ⟨⟨answer, lines⟩, between⟩ := read
  rw [← loaded]
  cases answer with
  | error failure => cases started
  | ok read =>
    cases started
    exact ⟨rfl, between, rfl⟩

end Program

/-- What a program runs with, whatever its settings hold and whatever its options are: the settings that were read are valid,
and the agent has them with the changes made. Were that looked at as well, one thing alone could be wrong, that the options
set the rate of a serial line to 0; and a text with the same settings would be refused for that reason, and accepted
otherwise. -/
theorem runs_unchecked_in_rate_alone {options : Options} {world : World} {settings : Settings} {agent : Agent}
    (started : ((Program.start options).result world).1.2 = .ok (settings, agent)) :
    let running : Settings := ⟨settings.pollInterval, agent.connection.settings⟩
    let verdict : Except Failure Unit :=
      if settings.connection.kind = .serial ∧ options.baudRate = some 0 then
        .error (.invalidSettings .baudRate Settings.notZero)
      else .ok ()
    settings.validate = .ok () ∧ running.pollInterval ≠ 0 ∧
    running.connection = settings.connection.kept.setAll options.changes ∧
    running.validate = verdict ∧
    ∀ text, Settings.decode text = .ok running → Settings.parse text = verdict.map fun _ => running := by
  intro running verdict
  obtain ⟨loaded, between, made⟩ := Program.start_eq_ok started
  have valid := Settings.validate_of_load loaded
  have interval : settings.pollInterval ≠ 0 := by
    intro zero
    rw [Settings.validate, if_pos zero] at valid
    cases valid
  have rate : settings.connection.value? .baudRate ≠ some (.baudRate 0) := by
    intro zero
    rw [settings.validate_eq interval, if_pos zero] at valid
    cases valid
  have changed : running.connection = settings.connection.kept.setAll options.changes := by
    have bare := Connection.bare_ofSettings settings.connection
    have applied := (bare.applyAll_settings options.changes between).2
    rw [Connection.settings_ofSettings] at applied
    rw [← applied]
    change agent.connection.settings = _
    rw [made]
    rfl
  have checked : running.validate = verdict := by
    rw [running.validate_eq interval, changed]
    exact if_congr (ConnectionSettings.baudRate_setAll rate options) rfl rfl
  refine ⟨valid, interval, changed, checked, ?_⟩
  intro text decoded
  rw [parse_of_decode decoded, checked]

def serialMachine : World :=
  let files := FileTree.standard.provide Settings.defaultFile (.plain "[connection]\ntype = \"serial\"\n".toUTF8.toList)
  { World.ofRoutes .loopback with devices := { Devices.standard with files } }

def rateZero : List String := ["--once", "--baud-rate", "0", "--device", "/dev/null"]

def rateZeroOptions : Options := { Options.default with once := true, device := some "/dev/null", baudRate := some 0 }

/-- The program starts with these, though the settings that it runs with are not valid. -/
theorem runs_unchecked_in_rate_alone_zero : ∃ settings agent,
    ((Program.start rateZeroOptions).result serialMachine).1.2 = .ok (settings, agent) ∧ settings.validate = .ok () ∧
      (⟨settings.pollInterval, agent.connection.settings⟩ : Settings).validate =
        .error (.invalidSettings .baudRate Settings.notZero) := by
  have serial : ((Program.start rateZeroOptions).result serialMachine).1.2.map (·.1.connection.kind) = .ok .serial := by
    decide +kernel
  cases started : ((Program.start rateZeroOptions).result serialMachine).1.2 with
  | error failure =>
    rw [started] at serial
    cases serial
  | ok made =>
    obtain ⟨settings, agent⟩ := made
    rw [started] at serial
    obtain ⟨valid, -, -, verdict, -⟩ := runs_unchecked_in_rate_alone started
    have unset : settings.connection.kind = .serial ∧ rateZeroOptions.baudRate = some 0 := ⟨Except.ok.inj serial, rfl⟩
    exact ⟨settings, agent, rfl, valid, verdict.trans (if_pos unset)⟩

/-- So it polls and ends well, where a file with this rate is refused. -/
theorem rate_zero_is_polled :
    ((Program.run rateZero none []).result serialMachine).1 =
        ⟨0, ["INFO serial connection: data: unconfigured, command: unsupported",
          "data: unconfigured, command: unsupported"], ""⟩ ∧
      Settings.parse "[connection]\ntype = \"serial\"\ndevice_path = \"/dev/null\"\nbaud_rate = 0\n" =
        .error (.invalidSettings .baudRate Settings.notZero) := by
  decide +kernel

end InstrumentLink
