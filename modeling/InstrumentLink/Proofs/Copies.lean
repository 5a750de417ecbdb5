import InstrumentLink.Proofs.Connection.Settings

/-!
A connection is its settings and what it holds, and nothing else: made from settings it holds nothing, a copy of it has
the settings alone, and once every role has let go the connection is its own copy.
-/

namespace InstrumentLink

namespace ConnectionSettings

theorem ofSettings_kept (settings : ConnectionSettings) :
    Connection.ofSettings settings.kept = Connection.ofSettings settings := by
  cases settings <;> rfl

end ConnectionSettings

namespace Connection

variable {connection : Connection} {world : World}

theorem kept_settings (connection : Connection) : connection.settings.kept = connection.settings := by
  cases connection <;> rfl

@[simp] theorem settings_duplicate (connection : Connection) : connection.duplicate.settings = connection.settings := by
  rw [duplicate, settings_ofSettings, kept_settings]

@[simp] theorem kind_duplicate (connection : Connection) : connection.duplicate.kind = connection.kind := by
  rw [duplicate, kind_ofSettings, kind_settings]

theorem duplicate_duplicate (connection : Connection) : connection.duplicate.duplicate = connection.duplicate := by
  rw [duplicate, settings_duplicate, duplicate]

theorem Bare.duplicate_eq (bare : connection.Bare) : connection.duplicate = connection := by
  have empty : ∀ {transport} {endpoint : Endpoint transport}, ⟨transport, endpoint⟩ ∈ connection.endpoints →
      Endpoint.ofTarget endpoint.target = endpoint := by
    intro transport endpoint member
    rw [Endpoint.ofTarget, ← bare member]
  cases connection with
  | rsn data command => exact congrArg₂ rsn (empty (by simp [endpoints])) (empty (by simp [endpoints]))
  | tcp data command => exact congrArg₂ tcp (empty (by simp [endpoints])) (empty (by simp [endpoints]))
  | udp data => exact congrArg udp (empty (by simp [endpoints]))
  | serial data => exact congrArg serial (empty (by simp [endpoints]))

theorem Bare.endpoint_fill {transport : Transport} {place : Place transport} {endpoint : Endpoint transport}
    (bare : (place.fill endpoint).Bare) : endpoint.handle = none :=
  bare ((place.mem_endpoints_fill endpoint _).mpr (.inl rfl))

theorem Bare.fill {transport : Transport} {place : Place transport} {before after : Endpoint transport}
    (bare : (place.fill before).Bare) (down : after.handle = none) : (place.fill after).Bare := by
  intro other endpoint member
  rcases (place.mem_endpoints_fill after _).mp member with same | away
  · cases same
    exact down
  · exact bare ((place.mem_endpoints_fill before _).mpr (.inr away))

theorem Bare.apply (bare : connection.Bare) {change : Change} (keeps : connection.kind.keeps change.field = true)
    (world : World) : (connection.apply change).result world = (ofSettings (connection.settings.set change), world) := by
  cases connection.taken change with
  | stored place endpoint target filled applies addressed written result =>
    subst filled
    have changed : (endpoint.change target).result world = (⟨target, none⟩, world) :=
      Endpoint.change_of_handle_eq_none bare.endpoint_fill target world
    have bareToo : (place.fill ⟨target, none⟩).Bare := bare.fill rfl
    rw [result, changed, ← written none]
    exact congrArg (·, world) bareToo.duplicate_eq.symm
  | ignored foreign result =>
    rw [Change.appliesTo_eq, keeps] at foreign
    cases foreign

theorem Bare.applyAll (bare : connection.Bare) {changes : List Change}
    (keeps : ∀ change ∈ changes, connection.kind.keeps change.field = true) (world : World) :
    (connection.applyAll changes).result world = (ofSettings (connection.settings.setAll changes), world) := by
  induction changes generalizing connection with
  | nil => exact congrArg (·, world) bare.duplicate_eq.symm
  | cons change rest ih =>
    have first := bare.apply (keeps change List.mem_cons_self) world
    have shown : (ofSettings (connection.settings.set change)).settings = connection.settings.set change := by
      rw [settings_ofSettings, ConnectionSettings.kept_set, kept_settings]
    have kept : ∀ other ∈ rest, (ofSettings (connection.settings.set change)).kind.keeps other.field = true := by
      intro other member
      rw [kind_ofSettings, ConnectionSettings.kind_set, kind_settings]
      exact keeps other (List.mem_cons_of_mem _ member)
    calc
      (connection.applyAll (change :: rest)).result world =
          (((connection.apply change).result world).1.applyAll rest).result ((connection.apply change).result world).2 :=
        rfl
      _ = ((ofSettings (connection.settings.set change)).applyAll rest).result world := by rw [first]
      _ = _ := ih (bare_ofSettings _) kept
      _ = _ := by rw [shown]; rfl

/-- To make a connection of a kind and then set its fields one after another gives the connection that is made from the
settings, and touches nothing. -/
theorem applyAll_changes (settings : ConnectionSettings) (world : World) :
    ((ofKind settings.kind).applyAll settings.changes).result world = (ofSettings settings, world) := by
  have kind : (ofKind settings.kind).kind = settings.kind := by
    rw [ofKind, kind_ofSettings, ConnectionSettings.kind_unset]
  have unset : (ofKind settings.kind).settings = .unset settings.kind := by
    rw [ofKind, settings_ofSettings]
    cases settings <;> rfl
  have keeps : ∀ change ∈ settings.changes, (ofKind settings.kind).kind.keeps change.field = true := by
    intro change member
    rw [kind]
    exact ConnectionSettings.keeps_of_mem_changes member
  calc
    _ = (ofSettings ((ofKind settings.kind).settings.setAll settings.changes), world) :=
      (bare_ofSettings _).applyAll keeps world
    _ = (ofSettings settings, world) := by
      rw [unset, ConnectionSettings.setAll_changes, ConnectionSettings.ofSettings_kept]

theorem Bare.isConnected (bare : connection.Bare) (role : Role) (world : World) :
    (connection.isConnected role).result world = (false, world) := by
  unfold Connection.isConnected
  cases found : connection.endpoint? role with
  | none => rfl
  | some behind =>
    obtain ⟨transport, endpoint⟩ := behind
    have down := bare (mem_endpoints found)
    dsimp only
    rw [Endpoint.isConnected, down]
    rfl

theorem Bare.dispose (bare : connection.Bare) (world : World) : connection.dispose.result world = ((), world) := by
  have quiet : ∀ {transport} (endpoint : Endpoint transport), ⟨transport, endpoint⟩ ∈ connection.endpoints →
      ∀ world, endpoint.dispose.result world = ((), world) := by
    intro transport endpoint member world
    rw [Endpoint.dispose, bare member]
    rfl
  cases connection with
  | rsn data command | tcp data command =>
    rw [Connection.dispose, Act.result_bind, quiet data (by simp [endpoints]),
      quiet command (by simp [endpoints])]
  | udp data | serial data => exact quiet data (by simp [endpoints]) world

def without (role : Role) : Connection → Connection
  | rsn data command =>
    match role with
    | .data => rsn data.released command
    | .command => rsn data command
  | tcp data command =>
    match role with
    | .data => tcp data.released command
    | .command => tcp data command.released
  | udp data =>
    match role with
    | .data => udp data.released
    | .command => udp data
  | serial data =>
    match role with
    | .data => serial data.released
    | .command => serial data

theorem released_release {transport : Transport} (role : Role) (endpoint : Endpoint transport) (world : World) :
    ((release role endpoint).result world).1.1 = endpoint.released := by
  unfold release
  cases held : endpoint.hasHandle with
  | true => simp only [if_true, Act.result_bind, Endpoint.disconnect_result, Act.result_pure]
  | false =>
    have down : endpoint.handle = none := by simpa [Endpoint.hasHandle] using held
    simp only [Bool.false_eq_true, if_false, Act.result_pure, Endpoint.released, ← down]

theorem disconnect_eq (role : Role) (connection : Connection) (world : World) :
    ((connection.disconnect role).result world).1 = connection.without role := by
  cases connection with
  | rsn data command =>
    cases role with
    | data => exact congrArg (rsn · command) (released_release .data data world)
    | command => rfl
  | tcp data command =>
    cases role with
    | data => exact congrArg (tcp · command) (released_release .data data world)
    | command => exact congrArg (tcp data) (released_release .command command world)
  | udp data =>
    cases role with
    | data => exact congrArg udp (released_release .data data world)
    | command => rfl
  | serial data =>
    cases role with
    | data => exact congrArg serial (released_release .data data world)
    | command => rfl

/-- Once both roles have let go, in either order, a connection is its own copy: what only keeps an address never held
anything. -/
theorem without_without (order : connection.InOrder world) (role : Role) :
    (connection.without role).without role.other = connection.duplicate := by
  cases connection with
  | rsn data command =>
    have down : command.handle = none := order.stored rfl
    have empty : Endpoint.ofTarget command.target = command := by rw [Endpoint.ofTarget, ← down]
    cases role <;> exact congrArg (rsn data.released) empty.symm
  | tcp data command => cases role <;> rfl
  | udp data => cases role <;> rfl
  | serial data => cases role <;> rfl

end Connection

/-- A connection that is made from settings, field after field, opens nothing, tells nothing and holds nothing; it shows
the settings, but for the command address of datagrams. The copy of any connection, whatever has happened to it, is made
just so from what it shows, and leaves the world, and with it all that the connection holds, as it is. A connection of
which every role has let go is equal to its copy, and a copy is its own copy. -/
theorem copies_settings_alone {agent : Agent} {world : World} (reached : Reachable agent world) :
    (∀ (settings : ConnectionSettings) (world : World),
      ((Connection.ofKind settings.kind).applyAll settings.changes).result world = (.ofSettings settings, world) ∧
      (Connection.ofSettings settings).Bare ∧
      (Connection.ofSettings settings).kind = settings.kind ∧
      (Connection.ofSettings settings).settings = settings.kept) ∧
    let connection := agent.connection
    let copy := connection.duplicate
    ((Connection.ofKind connection.kind).applyAll connection.settings.changes).result world = (copy, world) ∧
    copy.Bare ∧
    copy.kind = connection.kind ∧
    copy.settings = connection.settings ∧
    (∀ role, copy.isConfigured role = connection.isConfigured role) ∧
    (∀ role later, (copy.isConnected role).result later = (false, later)) ∧
    (∀ later, copy.dispose.result later = ((), later)) ∧
    (∀ role, ((((connection.disconnect role).result world).1.disconnect role.other).result
      ((connection.disconnect role).result world).2).1 = copy) ∧
    copy.duplicate = copy := by
  have made : ∀ (settings : ConnectionSettings) (world : World),
      ((Connection.ofKind settings.kind).applyAll settings.changes).result world = (.ofSettings settings, world) :=
    Connection.applyAll_changes
  have order := inOrder_of_reachable reached
  have bare : agent.connection.duplicate.Bare := Connection.bare_ofSettings _
  refine ⟨fun settings world => ⟨made settings world, Connection.bare_ofSettings settings,
    Connection.kind_ofSettings settings, Connection.settings_ofSettings settings⟩, ?_, bare,
    Connection.kind_duplicate _, Connection.settings_duplicate _, Connection.isConfigured_duplicate _,
    bare.isConnected, bare.dispose, fun role => ?_, Connection.duplicate_duplicate _⟩
  · rw [← Connection.kind_settings]
    exact made agent.connection.settings world
  · rw [Connection.disconnect_eq, Connection.disconnect_eq]
    exact Connection.without_without order role

def attachedPeer : Agent × World :=
  (Agent.performAll [.establish, .event (.dial ⟨.v4 .localhost, 4001⟩), .poll, .change (.commandPort 4002)]
    (.ofConnection (.ofSettings (.rsn ⟨"", 4001, "", 0⟩)))).result (World.ofRoutes .loopback)

theorem reachable_attachedPeer : Reachable attachedPeer.1 attachedPeer.2 :=
  Reachable.performAll (.start (.ofRoutes .loopback) _) _

/-- It holds its socket and the peer; its copy has both addresses, and is what is left of it in the end. -/
theorem copies_settings_alone_attached :
    attachedPeer.1.connection.assets = [.socket 2, .socket 0] ∧
      attachedPeer.1.connection.duplicate.settings = .rsn ⟨"", 4001, "", 4002⟩ ∧
      attachedPeer.1.connection.duplicate.Bare ∧
      ((((attachedPeer.1.connection.disconnect .data).result attachedPeer.2).1.disconnect .command).result
        ((attachedPeer.1.connection.disconnect .data).result attachedPeer.2).2).1 =
          attachedPeer.1.connection.duplicate := by
  have copied := copies_settings_alone reachable_attachedPeer
  refine ⟨by decide +kernel, ?_, copied.2.2.1, copied.2.2.2.2.2.2.2.2.1 .data⟩
  rw [copied.2.2.2.2.1]
  decide +kernel

end InstrumentLink
