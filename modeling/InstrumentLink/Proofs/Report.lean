import InstrumentLink.Proofs.Connection.Verdict
import InstrumentLink.Proofs.History

/-!
The report of an attempt to bring a connection up is true: for each role it tells what the role was before and what it
is after, every failure is warned of once, and the settings stay what they are.
-/

namespace InstrumentLink

theorem Role.map_filter_all {α : Type} (p : Role → Prop) [DecidablePred p] (f : Role → α) :
    (all.filter fun role => p role).map f = (if p .data then [f .data] else []) ++ if p .command then [f .command] else [] := by
  by_cases data : p .data
  · by_cases command : p .command <;> simp [all, data, command]
  · by_cases command : p .command <;> simp [all, data, command]

namespace Connection

variable {connection : Connection} {world : World}

def holds (connection : Connection) (role : Role) : Bool :=
  (connection.endpoint? role).any fun endpoint => endpoint.2.hasHandle

theorem supports_eq (connection : Connection) (role : Role) :
    connection.kind.supports role = (connection.endpoint? role).isSome := by
  cases connection <;> cases role <;> rfl

theorem transport?_of_endpoint? {role : Role} {transport : Transport} {endpoint : Endpoint transport}
    (found : connection.endpoint? role = some ⟨transport, endpoint⟩) :
    connection.kind.transport? role = some transport := by
  cases connection <;> cases role <;> cases found <;> rfl

theorem holds_of_endpoint? {role : Role} {transport : Transport} {endpoint : Endpoint transport}
    (found : connection.endpoint? role = some ⟨transport, endpoint⟩) :
    connection.holds role = endpoint.hasHandle := by
  rw [holds, found]
  rfl

theorem settings_fill {transport : Transport} (place : Place transport) {before after : Endpoint transport}
    (same : after.target = before.target) : (place.fill after).settings = (place.fill before).settings := by
  cases place <;> simp [Place.fill, settings, same]

theorem target_bringUp {transport : Transport} {endpoint : Endpoint transport} (sound : world.Sound)
    (fits : endpoint.Fits world) (role : Role) :
    ((bringUp role endpoint).result world).1.1.target = endpoint.target := by
  have brought := bringUp_spec sound fits role
  generalize (bringUp role endpoint).result world = outcome at brought ⊢
  cases brought with
  | unconfigured unset => rfl
  | alreadyConnected set up => rfl
  | underWay set down connecting => rfl
  | @attempted set down settled told quiet after answer later reopened =>
    have kept := endpoint.target_reopen (world.tell told)
    rw [reopened] at kept
    exact kept

theorem settings_establishRole (order : connection.InOrder world) (role : Role) :
    ((connection.establishRole role).result world).1.1.settings = connection.settings := by
  rcases connection.establishRole_result role with ⟨transport, place, endpoint, rfl, _, result⟩ | ⟨_, result⟩
  · rw [result]
    exact settings_fill place (target_bringUp order.sound order.fits_fill role)
  · rw [result]

theorem settings_establish (order : connection.InOrder world) :
    (connection.establish.result world).1.1.settings = connection.settings := by
  rw [establish_result]
  exact (settings_establishRole (order.establishRole .data) .command).trans (settings_establishRole order .data)

theorem warnings_establishRole (order : connection.InOrder world) (role : Role) : ∃ why,
    (((connection.establishRole role).result world).1.2 = .failed →
      ∃ (transport : Transport) (endpoint : Endpoint transport),
        connection.endpoint? role = some ⟨transport, endpoint⟩ ∧
          endpoint.CanFailWith world.network.routes.names why) ∧
    ((connection.establishRole role).result world).2.warnings = world.warnings ++
      if ((connection.establishRole role).result world).1.2 = .failed then [failureLine role why] else [] := by
  rcases connection.establishRole_result role with ⟨transport, place, endpoint, rfl, carries, result⟩ | ⟨_, result⟩
  · rw [result]
    have warned := warnings_bringUp order.sound order.fits_fill role
    by_cases failed : ((bringUp role endpoint).result world).1.2 = .failed
    · obtain ⟨why, about, shown⟩ := warned.2 failed
      exact ⟨why, fun _ => ⟨transport, endpoint, Place.endpoint?_fill carries endpoint, about⟩,
        by rw [shown, if_pos failed]⟩
    · exact ⟨.resolve "" 0, fun other => absurd other failed, by rw [warned.1 failed, if_neg failed, List.append_nil]⟩
  · rw [result]
    refine ⟨.resolve "" 0, fun failed => ?_, (List.append_nil _).symm⟩
    cases (failed : Outcome.unsupported = .failed)

theorem routes_establishRole (order : connection.InOrder world) (role : Role) :
    ((connection.establishRole role).result world).2.network.routes = world.network.routes := by
  rcases connection.establishRole_result role with ⟨transport, place, endpoint, rfl, _, result⟩ | ⟨_, result⟩
  · rw [result]
    exact (bringUp_handover order.sound order.fits_fill role).routes
  · rw [result]

theorem warnings_establish (order : connection.InOrder world) : ∃ why : Role → Failure,
    (∀ role, (connection.establish.result world).1.2.outcome role = .failed →
      ∃ (transport : Transport) (endpoint : Endpoint transport),
        connection.endpoint? role = some ⟨transport, endpoint⟩ ∧
          endpoint.CanFailWith world.network.routes.names (why role)) ∧
    (connection.establish.result world).2.warnings = world.warnings ++
      (Role.all.filter fun role => (connection.establish.result world).1.2.outcome role = .failed).map fun role =>
        failureLine role (why role) := by
  obtain ⟨first, aboutData, warnedData⟩ := warnings_establishRole order .data
  obtain ⟨second, aboutCommand, warnedCommand⟩ := warnings_establishRole (order.establishRole .data) .command
  rw [routes_establishRole order, endpoint?_establishRole (by decide)] at aboutCommand
  rw [establish_result]
  dsimp only
  refine ⟨fun role => if role = .data then first else second, fun role failed => ?_, ?_⟩
  · cases role with
    | data => exact aboutData failed
    | command => exact aboutCommand failed
  · rw [warnedCommand, warnedData, List.append_assoc, Role.map_filter_all]
    rfl

/-- What the report says of a role, and what it stands for: the role before the attempt, in the world as it was, and the
role after it, in the world as it is then. -/
structure Tells (role : Role) (outcome : Outcome) (before : Connection) (world : World) (after : Connection)
    (later : World) : Prop where
  unsupported : outcome = .unsupported ↔ before.kind.supports role = false
  unconfigured : outcome = .unconfigured ↔ before.kind.supports role = true ∧ before.isConfigured role = false
  untouched : outcome = .unconfigured → after.endpoint? role = before.endpoint? role ∧ before.holds role = false
  alreadyConnected : outcome = .alreadyConnected ↔ ((before.isConnected role).result world).1 = true
  kept : outcome = .alreadyConnected → after.endpoint? role = before.endpoint? role
  connected : outcome = .connected ↔ before.isConfigured role = true ∧
    ((before.isConnected role).result world).1 = false ∧ ((after.isConnected role).result later).1 = true
  pending : outcome = .pending ↔ before.isConfigured role = true ∧ after.holds role = true ∧
    ((after.isConnected role).result later).1 = false
  underWay : outcome = .pending → before.kind.transport? role = some .client
  failed : outcome = .failed ↔ before.isConfigured role = true ∧ after.holds role = false

theorem tells_of_endpoint?_eq_none {role : Role} {after : Connection} {later : World}
    (absent : connection.endpoint? role = none) : Tells role .unsupported connection world after later := by
  have unsupported : connection.kind.supports role = false := by rw [supports_eq, absent]; rfl
  have unset : connection.isConfigured role = false := by rw [isConfigured, absent]
  have down : ((connection.isConnected role).result world).1 = false := by rw [isConnected, absent]; rfl
  constructor <;> simp [unsupported, unset, down]

theorem tells_of_verdict {role : Role} {outcome : Outcome} {transport : Transport} {before after : Endpoint transport}
    {connectionAfter : Connection} {later : World} (order : connection.InOrder world)
    (orderAfter : connectionAfter.InOrder later) (found : connection.endpoint? role = some ⟨transport, before⟩)
    (foundAfter : connectionAfter.endpoint? role = some ⟨transport, after⟩)
    (verdict : Verdict before after world later outcome) :
    Tells role outcome connection world connectionAfter later := by
  have supported : connection.kind.supports role = true := by rw [supports_eq, found]; rfl
  have carried := transport?_of_endpoint? found
  have configured := isConfigured_of_endpoint? found
  have held := holds_of_endpoint? found
  have heldAfter := holds_of_endpoint? foundAfter
  have wasUp : ((connection.isConnected role).result world).1 = before.live world := by
    rw [isConnected_result order.sound.network, live_of_endpoint? found]
  have isUp : ((connectionAfter.isConnected role).result later).1 = after.live later := by
    rw [isConnected_result orderAfter.sound.network, live_of_endpoint? foundAfter]
  cases verdict with
  | unconfigured unset same =>
    have empty := (order.fits (mem_endpoints found)).handle_eq_none unset
    have noHandle : before.hasHandle = false := by rw [Endpoint.hasHandle, empty]; rfl
    have down : before.live world = false := by rw [Endpoint.live, empty]; rfl
    subst same
    constructor <;> simp [supported, configured, held, wasUp, found, foundAfter, unset, noHandle, down]
  | alreadyConnected set wasLive same up =>
    subst same
    constructor <;> simp [supported, configured, heldAfter, wasUp, isUp, found, foundAfter, set, wasLive, up,
      Endpoint.hasHandle_of_live up]
  | connected set wasDown up =>
    constructor <;> simp [supported, configured, heldAfter, wasUp, isUp, set, wasDown, up,
      Endpoint.hasHandle_of_live up]
  | pending set wasDown client holds down =>
    have hasHandle : after.hasHandle = true := holds
    constructor <;> simp [supported, carried, configured, heldAfter, wasUp, isUp, set, wasDown, client, hasHandle, down]
  | failed set wasDown empty =>
    have noHandle : after.hasHandle = false := by rw [Endpoint.hasHandle, empty]; rfl
    have down : after.live later = false := by rw [Endpoint.live, empty]; rfl
    constructor <;> simp [supported, configured, heldAfter, wasUp, isUp, set, wasDown, noHandle, down]

theorem establish_tells (order : connection.InOrder world) (role : Role) :
    Tells role ((connection.establish.result world).1.2.outcome role) connection world
      (connection.establish.result world).1.1 (connection.establish.result world).2 := by
  rcases establish_verdict order role with
    ⟨absent, outcome⟩ | ⟨transport, before, after, found, foundAfter, verdict⟩
  · rw [outcome]
    exact tells_of_endpoint?_eq_none absent
  · exact tells_of_verdict order order.establish found foundAfter verdict

end Connection

/-- Whatever has happened, the report of an attempt to bring a connection up tells for each role what it was before and
what it is when the attempt returns; each failed role is warned of once, with a reason that concerns its own address,
and nothing else is; no setting changes. -/
theorem report_is_true {agent : Agent} {world : World} (reached : Reachable agent world) :
    let before := agent.connection
    let after := (before.establish.result world).1.1
    let report := (before.establish.result world).1.2
    let later := (before.establish.result world).2
    (∀ role, Connection.Tells role (report.outcome role) before world after later) ∧
    (∃ why : Role → Failure,
      (∀ role, report.outcome role = .failed → ∃ (transport : Transport) (endpoint : Endpoint transport),
        before.endpoint? role = some ⟨transport, endpoint⟩ ∧
          endpoint.CanFailWith world.network.routes.names (why role)) ∧
      later.warnings = world.warnings ++ (Role.all.filter fun role => report.outcome role = .failed).map fun role =>
        ⟨.warn, .connection, role.name ++ " channel not initialized: " ++ (why role).message⟩) ∧
    after.settings = before.settings := by
  have order := inOrder_of_reachable reached
  exact ⟨Connection.establish_tells order, Connection.warnings_establish order, Connection.settings_establish order⟩

def halfServed : Agent × World :=
  (Agent.performAll [.event (.serve ⟨.v4 .localhost, 4001⟩ 0 true), .poll, .event (.close 0)]
    (.ofConnection (.ofSettings (.tcp ⟨"127.0.0.1", 4001, "nowhere", 4002⟩)))).result (World.ofRoutes .loopback)

theorem reachable_halfServed : Reachable halfServed.1 halfServed.2 :=
  Reachable.performAll (.start (.ofRoutes .loopback) _) _

/-- The next attempt leaves the first role under way and the second with nothing, and warns of the second alone. -/
theorem report_is_true_halfServed :
    (halfServed.1.connection.establish.result halfServed.2).1.1.holds .data = true ∧
      (halfServed.1.connection.establish.result halfServed.2).1.1.holds .command = false ∧
      ∃ why : Failure, (halfServed.1.connection.establish.result halfServed.2).2.warnings =
        halfServed.2.warnings ++ [⟨.warn, .connection, "command channel not initialized: " ++ why.message⟩] := by
  obtain ⟨tells, ⟨why, _, warned⟩, _⟩ := report_is_true reachable_halfServed
  have report : (halfServed.1.connection.establish.result halfServed.2).1.2 = ⟨.pending, .failed⟩ := by decide +kernel
  simp only [report] at tells warned
  exact ⟨((tells .data).pending.mp rfl).2.1, ((tells .command).failed.mp rfl).2, why .command, warned⟩

end InstrumentLink
