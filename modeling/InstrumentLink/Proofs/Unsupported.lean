import InstrumentLink.Proofs.Connection.Settings

/-!
The roles that a kind of connection has not got. Nothing that is done with such a role does anything, in any state that
an agent can come to, and nothing is ever opened for it; an address that is only kept stays an address.
-/

namespace InstrumentLink
namespace Connection

variable {connection : Connection} {world : World} {role : Role}

structure Inert (role : Role) (connection : Connection) (world : World) : Prop where
  endpoint : connection.endpoint? role = none
  configured : connection.isConfigured role = false
  initialized : connection.isInitialized role = false
  connected : (connection.isConnected role).result world = (false, world)
  channel : (connection.channel? role).result world = (none, world)
  attempt : (connection.establishRole role).result world = ((connection, .unsupported), world)
  report : (connection.establish.result world).1.2.outcome role = .unsupported
  disconnect : (connection.disconnect role).result world = (connection, world)
  status : ((connection.status.result world).1.role role).text = "unsupported"

theorem transport?_eq (connection : Connection) (role : Role) :
    connection.kind.transport? role = (connection.endpoint? role).map Sigma.fst := by
  cases connection <;> cases role <;> rfl

theorem endpoint?_of_not_supports (absent : connection.kind.supports role = false) :
    connection.endpoint? role = none := by
  rw [supports_eq] at absent
  exact Option.isNone_iff_eq_none.mp (by rw [← Option.not_isSome, absent]; rfl)

theorem inert_of_not_supports (order : connection.InOrder world) (absent : connection.kind.supports role = false) :
    connection.Inert role world := by
  have none := endpoint?_of_not_supports absent
  have unset : connection.isConfigured role = false := by rw [isConfigured, none]
  have tells := (establish_tells order role).unsupported.mpr absent
  constructor
  case endpoint => exact none
  case configured => exact unset
  case initialized => exact unset
  case connected =>
    rw [isConnected, none]
    rfl
  case channel =>
    rw [channel?_result order.sound.network, lent?, none]
  case attempt =>
    rw [establishRole, Act.result_bind, onRole_of_absent none]
    rfl
  case report => exact tells
  case disconnect =>
    rw [Connection.disconnect, Act.result_bind, onRole_of_absent none]
    rfl
  case status =>
    have shown : ((connection.status.result world).1.role role).supported = connection.kind.supports role := by
      cases role <;> rfl
    rw [RoleState.text, shown, absent]
    rfl

theorem value?_apply (sound : world.network.Sound) {change : Change}
    (applies : change.appliesTo connection.kind = true) :
    ((connection.apply change).result world).1.settings.value? change.field = some change := by
  have keeps : connection.settings.kind.keeps change.field = true := by
    rw [kind_settings, ← Change.appliesTo_eq]
    exact applies
  rw [settings_apply sound, ConnectionSettings.value?_set, if_pos ⟨keeps, rfl⟩]

/-- A change that is addressed to a role that is not there touches no socket and no device: either there is an address to
keep, and nothing is said of it, or there is not. -/
theorem apply_of_not_supports (order : connection.InOrder world) (absent : connection.kind.supports role = false)
    {change : Change} (addressed : change.role = role) :
    ((connection.apply change).result world).2 =
      world.tell (if change.appliesTo connection.kind then [] else [ignoredLine change connection.kind]) := by
  cases connection.taken change with
  | stored place endpoint target filled applies toRole written result =>
    subst filled
    have unused : place.role? = none := by
      cases carried : place.role? with
      | none => rfl
      | some other =>
        have same : other = role := (toRole other carried).symm.trans addressed
        rw [supports_eq, Place.endpoint?_fill (same ▸ carried)] at absent
        cases absent
    have changed := Endpoint.change_of_handle_eq_none (order.handle_eq_none unused) target world
    rw [result, changed, if_pos applies, World.tell_nil]
  | ignored foreign result => rw [result, foreign, if_neg Bool.false_ne_true]

/-- The address that is kept for commands takes every change, and nothing is opened for it. -/
theorem apply_rsn_command (data : Endpoint .listener) {command : Endpoint .listener} (down : command.handle = none)
    {change : Change} (addressed : change.role = .command) (world : World) :
    ∃ kept : Endpoint .listener, kept.handle = none ∧
      ((rsn data command).apply change).result world = (rsn data kept, world) := by
  cases change with
  | dataHost _ | dataPort _ | devicePath _ | baudRate _ => cases addressed
  | commandHost host =>
    have changed := Endpoint.change_of_handle_eq_none down (HostPort.withHost host command.target) world
    refine ⟨⟨HostPort.withHost host command.target, none⟩, rfl, ?_⟩
    rw [apply, Act.result_bind, changed]
    rfl
  | commandPort port =>
    have changed := Endpoint.change_of_handle_eq_none down (HostPort.withPort port command.target) world
    refine ⟨⟨HostPort.withPort port command.target, none⟩, rfl, ?_⟩
    rw [apply, Act.result_bind, changed]
    rfl

theorem InOrder.carried (order : connection.InOrder world) {asset : Asset} (isOpen : (world.ledger asset).isSome) :
    ∃ (role : Role) (transport : Transport) (endpoint : Endpoint transport),
      connection.endpoint? role = some ⟨transport, endpoint⟩ ∧ asset ∈ endpoint.assets := by
  obtain ⟨⟨transport, endpoint⟩, member, inside⟩ := List.mem_flatMap.mp ((order.owned asset).mp isOpen)
  cases connection with
  | rsn data command =>
    rcases List.mem_cons.mp member with same | rest
    · exact ⟨.data, transport, endpoint, congrArg some same.symm, inside⟩
    · cases List.mem_singleton.mp rest
      rw [Endpoint.assets_eq_nil (order.stored rfl)] at inside
      cases inside
  | tcp data command =>
    rcases List.mem_cons.mp member with same | rest
    · exact ⟨.data, transport, endpoint, congrArg some same.symm, inside⟩
    · exact ⟨.command, transport, endpoint, congrArg some (List.mem_singleton.mp rest).symm, inside⟩
  | udp data => exact ⟨.data, transport, endpoint, congrArg some (List.mem_singleton.mp member).symm, inside⟩
  | serial data => exact ⟨.data, transport, endpoint, congrArg some (List.mem_singleton.mp member).symm, inside⟩

end Connection

/-- Whatever has happened, a role that the kind of the connection does not support is inert, and a change that is
addressed to it touches no socket and no device. The command address of a connection that listens takes every change and
shows it, and nothing is ever held for it. All that is open belongs to a role that is supported. A change that the kind
has no field for is told of in one line and does nothing else. -/
theorem unsupported_roles_are_inert {agent : Agent} {world : World} (reached : Reachable agent world) :
    let connection := agent.connection
    (∀ role, connection.kind.supports role = false →
      connection.Inert role world ∧
      ∀ change, change.role = role →
        ((connection.apply change).result world).2.network = world.network ∧
        ((connection.apply change).result world).2.devices = world.devices ∧
        ((connection.apply change).result world).2.journal = world.journal) ∧
    (∀ {data command}, connection = .rsn data command →
      command.handle = none ∧
      ∀ change, change.role = .command → ∃ kept : Endpoint .listener,
        kept.handle = none ∧
        (connection.apply change).result world = (.rsn data kept, world) ∧
        (Connection.rsn data kept).settings.value? change.field = some change) ∧
    (∀ asset, (world.ledger asset).isSome → ∃ (role : Role) (transport : Transport) (endpoint : Endpoint transport),
      connection.kind.transport? role = some transport ∧
      connection.endpoint? role = some ⟨transport, endpoint⟩ ∧ asset ∈ endpoint.assets) ∧
    ∀ change, change.appliesTo connection.kind = false →
      (connection.apply change).result world =
        (connection, world.tell [⟨.debug, .connection,
          change.name ++ " does not apply to " ++ connection.kind.name ++ " connections, ignored"⟩]) := by
  have order := inOrder_of_reachable reached
  refine ⟨fun role absent => ⟨Connection.inert_of_not_supports order absent, fun change addressed => ?_⟩, ?_, ?_,
    fun change foreign => Connection.apply_foreign foreign world⟩
  · rw [Connection.apply_of_not_supports order absent addressed]
    exact ⟨rfl, rfl, rfl⟩
  · intro data command same
    have down : command.handle = none := order.stored same
    refine ⟨down, fun change addressed => ?_⟩
    have applies : change.appliesTo agent.connection.kind = true := by
      rw [same]
      cases change <;> first | rfl | cases addressed
    obtain ⟨kept, empty, result⟩ := Connection.apply_rsn_command data down addressed world
    have shown := Connection.value?_apply order.sound.network applies
    rw [same, result] at shown
    exact ⟨kept, empty, by rw [same, result], shown⟩
  · intro asset isOpen
    obtain ⟨role, transport, endpoint, found, inside⟩ := order.carried isOpen
    exact ⟨role, transport, endpoint, by rw [Connection.transport?_eq, found]; rfl, found, inside⟩

def keptAddress : Agent × World :=
  (Agent.performAll [.change (.commandPort 4002), .establish, .event (.dial ⟨.v4 .localhost, 4001⟩), .poll,
    .change (.commandHost "127.0.0.1"), .change (.baudRate 1)]
    (.ofConnection (.ofSettings (.rsn ⟨"", 4001, "", 0⟩)))).result (World.ofRoutes .loopback)

theorem reachable_keptAddress : Reachable keptAddress.1 keptAddress.2 :=
  Reachable.performAll (.start (.ofRoutes .loopback) _) _

/-- The command role is inert all the same, and its address can be changed again. -/
theorem unsupported_roles_are_inert_kept :
    keptAddress.1.connection.settings = .rsn ⟨"", 4001, "127.0.0.1", 4002⟩ ∧
      keptAddress.1.connection.Inert .command keptAddress.2 ∧
      ((keptAddress.1.connection.apply (.commandPort 4003)).result keptAddress.2).2.journal =
        keptAddress.2.journal ∧
      (keptAddress.1.connection.apply (.devicePath "")).result keptAddress.2 =
        (keptAddress.1.connection, keptAddress.2.tell [⟨.debug, .connection,
          "set_device_path does not apply to rsn connections, ignored"⟩]) := by
  have inert := unsupported_roles_are_inert reachable_keptAddress
  have kind : keptAddress.1.connection.kind = .rsn := by decide +kernel
  have command := inert.1 .command (by rw [kind]; rfl)
  have foreign := inert.2.2.2 (.devicePath "") (by rw [kind]; rfl)
  rw [kind] at foreign
  exact ⟨by decide +kernel, command.1, (command.2 (.commandPort 4003) rfl).2.2, foreign⟩

end InstrumentLink
