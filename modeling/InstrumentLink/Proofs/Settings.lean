import InstrumentLink.Connection.Change

/-!
Settings as a table of fields. A kind keeps some fields; a change writes one field of those that are kept, and what a
field shows after many changes is what the last change of the field has written.
-/

namespace InstrumentLink

inductive Field where
  | dataHost
  | dataPort
  | commandHost
  | commandPort
  | devicePath
  | baudRate
  deriving DecidableEq, Repr

namespace Change

def field : Change → Field
  | dataHost _ => .dataHost
  | dataPort _ => .dataPort
  | commandHost _ => .commandHost
  | commandPort _ => .commandPort
  | devicePath _ => .devicePath
  | baudRate _ => .baudRate

def role : Change → Role
  | dataHost _ | dataPort _ => .data
  | commandHost _ | commandPort _ => .command
  | devicePath _ | baudRate _ => .data

def lastOf (field : Field) (changes : List Change) : Option Change :=
  (changes.filter fun change => change.field = field).getLast?

theorem lastOf_cons (field : Field) (change : Change) (rest : List Change) :
    lastOf field (change :: rest) = (lastOf field rest).or (if change.field = field then some change else none) := by
  unfold lastOf
  by_cases same : change.field = field
  · rw [List.filter_cons_of_pos (by simpa using same), if_pos same, List.getLast?_cons]
    cases (rest.filter fun change => change.field = field).getLast? <;> rfl
  · rw [List.filter_cons_of_neg (by simpa using same), if_neg same, Option.or_none]

end Change

def Kind.keeps : Kind → Field → Bool
  | .rsn, field | .tcp, field =>
    field = .dataHost || field = .dataPort || field = .commandHost || field = .commandPort
  | .udp, field => field = .dataHost || field = .dataPort
  | .serial, field => field = .devicePath || field = .baudRate

theorem Change.appliesTo_eq (change : Change) (kind : Kind) : change.appliesTo kind = kind.keeps change.field := by
  cases change <;> cases kind <;> rfl

namespace NetworkSettings

def write (change : Change) (network : NetworkSettings) : NetworkSettings :=
  match change with
  | .dataHost dataHost => { network with dataHost }
  | .dataPort dataPort => { network with dataPort }
  | .commandHost commandHost => { network with commandHost }
  | .commandPort commandPort => { network with commandPort }
  | .devicePath _ | .baudRate _ => network

def value? (network : NetworkSettings) : Field → Option Change
  | .dataHost => some (.dataHost network.dataHost)
  | .dataPort => some (.dataPort network.dataPort)
  | .commandHost => some (.commandHost network.commandHost)
  | .commandPort => some (.commandPort network.commandPort)
  | .devicePath | .baudRate => none

def changes (network : NetworkSettings) : List Change :=
  [.dataHost network.dataHost, .dataPort network.dataPort, .commandHost network.commandHost,
    .commandPort network.commandPort]

theorem value?_write (change : Change) (network : NetworkSettings) (field : Field) :
    (network.write change).value? field =
      if change.field = field ∧ (network.value? field).isSome then some change else network.value? field := by
  cases change <;> cases field <;> rfl

theorem ext_value? {network other : NetworkSettings} (same : ∀ field, network.value? field = other.value? field) :
    network = other := by
  have dataHost : network.dataHost = other.dataHost := by simpa [value?] using same .dataHost
  have dataPort : network.dataPort = other.dataPort := by simpa [value?] using same .dataPort
  have commandHost : network.commandHost = other.commandHost := by simpa [value?] using same .commandHost
  have commandPort : network.commandPort = other.commandPort := by simpa [value?] using same .commandPort
  cases network
  cases other
  simp_all only

end NetworkSettings

namespace SerialSettings

def write (change : Change) (line : SerialSettings) : SerialSettings :=
  match change with
  | .devicePath path => line.withPath path
  | .baudRate rate => line.withRate rate
  | .dataHost _ | .dataPort _ | .commandHost _ | .commandPort _ => line

def value? (line : SerialSettings) : Field → Option Change
  | .devicePath => some (.devicePath line.devicePath)
  | .baudRate => some (.baudRate line.baudRate)
  | .dataHost | .dataPort | .commandHost | .commandPort => none

def changes (line : SerialSettings) : List Change := [.devicePath line.devicePath, .baudRate line.baudRate]

theorem value?_write (change : Change) (line : SerialSettings) (field : Field) :
    (line.write change).value? field =
      if change.field = field ∧ (line.value? field).isSome then some change else line.value? field := by
  cases change <;> cases field <;> rfl

theorem ext_value? {line other : SerialSettings} (same : ∀ field, line.value? field = other.value? field) :
    line = other := by
  have devicePath : line.devicePath = other.devicePath := by simpa [value?] using same .devicePath
  have baudRate : line.baudRate = other.baudRate := by simpa [value?] using same .baudRate
  cases line
  cases other
  simp_all only

end SerialSettings

namespace ConnectionSettings

def write (change : Change) : ConnectionSettings → ConnectionSettings
  | rsn network => rsn (network.write change)
  | tcp network => tcp (network.write change)
  | udp network => udp (network.write change)
  | serial line => serial (line.write change)

/-- The settings after a change. A field that the kind does not keep is not written. -/
def set (change : Change) (settings : ConnectionSettings) : ConnectionSettings :=
  if settings.kind.keeps change.field then settings.write change else settings

def setAll (changes : List Change) (settings : ConnectionSettings) : ConnectionSettings :=
  changes.foldl (fun settings change => settings.set change) settings

def value? : ConnectionSettings → Field → Option Change
  | rsn network, field | tcp network, field | udp network, field => network.value? field
  | serial line, field => line.value? field

/-- The settings without what the kind does not keep: datagrams have no command address. -/
def kept : ConnectionSettings → ConnectionSettings
  | rsn network => rsn network
  | tcp network => tcp network
  | udp network => udp { network with commandHost := "", commandPort := 0 }
  | serial line => serial line

def changes : ConnectionSettings → List Change
  | rsn network => network.changes
  | tcp network => network.changes
  | udp network => [.dataHost network.dataHost, .dataPort network.dataPort]
  | serial line => line.changes

variable {settings : ConnectionSettings}

@[simp] theorem kind_write (change : Change) (settings : ConnectionSettings) :
    (settings.write change).kind = settings.kind := by
  cases settings <;> rfl

@[simp] theorem kind_set (change : Change) (settings : ConnectionSettings) :
    (settings.set change).kind = settings.kind := by
  unfold set
  split
  · exact kind_write change settings
  · rfl

@[simp] theorem kind_kept (settings : ConnectionSettings) : settings.kept.kind = settings.kind := by
  cases settings <;> rfl

@[simp] theorem kind_unset (kind : Kind) : (unset kind).kind = kind := by
  cases kind <;> rfl

theorem isSome_value?_of_keeps {field : Field} (keeps : settings.kind.keeps field = true) :
    (settings.value? field).isSome := by
  cases settings <;> cases field <;> first | rfl | cases keeps

theorem value?_write (change : Change) (settings : ConnectionSettings) (field : Field) :
    (settings.write change).value? field =
      if change.field = field ∧ (settings.value? field).isSome then some change else settings.value? field := by
  cases settings with
  | rsn network => exact network.value?_write change field
  | tcp network => exact network.value?_write change field
  | udp network => exact network.value?_write change field
  | serial line => exact line.value?_write change field

/-- A change is what its field shows from then on, and the other fields show what they did. -/
theorem value?_set (change : Change) (settings : ConnectionSettings) (field : Field) :
    (settings.set change).value? field =
      if settings.kind.keeps field ∧ change.field = field then some change else settings.value? field := by
  by_cases keeps : settings.kind.keeps change.field = true
  · rw [set, if_pos keeps, value?_write]
    by_cases same : change.field = field
    · subst same
      rw [if_pos ⟨rfl, isSome_value?_of_keeps keeps⟩, if_pos ⟨keeps, rfl⟩]
    · rw [if_neg fun both => same both.1, if_neg fun both => same both.2]
  · rw [set, if_neg keeps, if_neg]
    rintro ⟨keepsToo, rfl⟩
    exact keeps keepsToo

theorem ext_value? {other : ConnectionSettings} (kind : settings.kind = other.kind)
    (same : ∀ field, settings.value? field = other.value? field) : settings = other := by
  cases settings <;> cases other <;> first
    | cases kind
      done
    | exact congrArg _ (NetworkSettings.ext_value? same)
    | exact congrArg _ (SerialSettings.ext_value? same)

theorem set_shown {change : Change} (shown : settings.value? change.field = some change) :
    settings.set change = settings := by
  refine ext_value? (kind_set change settings) fun field => ?_
  rw [value?_set]
  split
  next both => rw [← both.2, shown]
  next => rfl

theorem set_of_not_keeps {change : Change} (foreign : settings.kind.keeps change.field = false) :
    settings.set change = settings := by
  rw [set, foreign]
  rfl

@[simp] theorem kind_setAll (changes : List Change) (settings : ConnectionSettings) :
    (settings.setAll changes).kind = settings.kind := by
  induction changes generalizing settings with
  | nil => rfl
  | cons change rest ih => exact (ih _).trans (kind_set change settings)

theorem setAll_append (first second : List Change) (settings : ConnectionSettings) :
    settings.setAll (first ++ second) = (settings.setAll first).setAll second :=
  List.foldl_append ..

/-- A field that is kept shows its last change, or what it showed before all of them; any other field shows what it
did. -/
theorem value?_setAll (changes : List Change) (settings : ConnectionSettings) (field : Field) :
    (settings.setAll changes).value? field =
      if settings.kind.keeps field then (Change.lastOf field changes).or (settings.value? field)
      else settings.value? field := by
  induction changes generalizing settings with
  | nil => exact (ite_self _).symm
  | cons change rest ih =>
    have unrolled : settings.setAll (change :: rest) = (settings.set change).setAll rest := rfl
    rw [unrolled, ih, kind_set, value?_set, Change.lastOf_cons]
    by_cases keeps : settings.kind.keeps field = true
    · by_cases same : change.field = field
      · simp [keeps, same]
      · simp [keeps, same]
    · simp [keeps]

theorem value?_kept (settings : ConnectionSettings) (field : Field) :
    settings.kept.value? field =
      if settings.kind.keeps field then settings.value? field else (unset settings.kind).value? field := by
  cases settings <;> cases field <;> rfl

/-- Every field that is kept is written by the changes that make the settings, with what it shows. -/
theorem lastOf_changes {field : Field} (keeps : settings.kind.keeps field = true) :
    Change.lastOf field settings.changes = settings.value? field := by
  cases settings <;> cases field <;> first | rfl | cases keeps

theorem kept_set (change : Change) (settings : ConnectionSettings) :
    (settings.set change).kept = settings.kept.set change := by
  apply ext_value? (by simp)
  intro field
  rw [value?_kept, value?_set, value?_set, value?_kept, kind_kept, kind_set]
  by_cases keeps : settings.kind.keeps field = true
  · simp [keeps]
  · simp [keeps]

theorem keeps_of_mem_changes {change : Change} (member : change ∈ settings.changes) :
    settings.kind.keeps change.field = true := by
  have all : ∀ change ∈ settings.changes, settings.kind.keeps change.field = true := by
    cases settings with
    | rsn network | tcp network | udp network =>
      simp [changes, NetworkSettings.changes, kind, Kind.keeps, Change.field]
    | serial line => simp [changes, SerialSettings.changes, kind, Kind.keeps, Change.field]
  exact all change member

theorem setAll_changes (settings : ConnectionSettings) :
    (unset settings.kind).setAll settings.changes = settings.kept := by
  refine ext_value? (by simp) fun field => ?_
  rw [value?_setAll, value?_kept, kind_unset]
  by_cases keeps : settings.kind.keeps field = true
  · obtain ⟨change, shown⟩ := Option.isSome_iff_exists.mp (isSome_value?_of_keeps keeps)
    simp [keeps, lastOf_changes keeps, shown]
  · simp [keeps]

end ConnectionSettings
end InstrumentLink
