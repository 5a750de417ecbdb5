import InstrumentLink.Proofs.Connection.Apart
import InstrumentLink.Proofs.Connection.Verdict
import InstrumentLink.Proofs.Network.Room

/-!
When an endpoint is ready to come up: its address stands for something that can be had, and no handshake of its own is
under way. It then comes up in one attempt, and what the other role does meanwhile takes no more room than its own.
-/

namespace InstrumentLink

/-- A request can be granted, once what is held is let go of and so many have dialled each server. -/
def Request.Available (request : Request) (held : List Asset) (crowd : SocketId → Nat) (world : World) : Prop :=
  match request with
  | .listen address =>
    world.network.routes.bindFault address = none ∧
      (∀ id socket, world.network.socket? id = some socket → socket.state.blocks address true = true →
        .socket id ∈ held) ∧
      ∀ left ∈ world.network.lingering, left.blocks address true = false
  | .connect remote =>
    world.network.routes.connectFault remote = none ∧ ∃ server listening,
      world.network.listenerAt? remote = some (server, listening) ∧
        listening.queue.length + crowd server ≤ listening.backlog + 1
  | .associate remote =>
    world.network.routes.bindFault ⟨Network.anyLike remote.ip, 0⟩ = none ∧
      world.network.routes.associateFault remote = none
  | .openLine path baudRate => (world.devices.openLine path baudRate).1.isOk = true

theorem Network.isLive_connect {network : Network} {remote : SocketAddress} {server : SocketId} {listening : Listening}
    (up : network.routes.connectFault remote = none)
    (reached : network.listenerAt? remote = some (server, listening)) (room : hasRoom listening = true) :
    (network.connect .agent remote).2.isLive network.sockets.next = true := by
  have near : (network.add ⟨.agent, .stream (network.nearEnd remote)⟩).stream? network.sockets.next =
      some (network.nearEnd remote) := by
    rw [stream?_add, if_pos rfl]
    rfl
  have found : ((network.add ⟨.agent, .stream (network.nearEnd remote)⟩).answered network.sockets.next server
      (network.nearEnd remote) listening).stream? network.sockets.next =
        some { network.nearEnd remote with phase := .established, mate := some (network.sockets.next + 1) } := by
    rw [stream?_answered near, next_add, if_neg (Nat.ne_of_lt (Nat.lt_succ_self _)), if_pos rfl]
  rw [connect_answered up reached room]
  exact (isLive_stream found).trans rfl

namespace Request

variable {request : Request} {world : World}

theorem Available.granted (available : request.Available [] (fun _ => 1) world) :
    ∃ id, (request.act.result world).1 = .ok id := by
  cases request with
  | listen address =>
    obtain ⟨up, free, nothing⟩ := available
    have untaken : world.network.taken world.network.sockets.next address true = false := by
      rw [Bool.eq_false_iff, ne_eq, Network.taken_next_iff]
      rintro (⟨id, socket, found, blocks⟩ | ⟨left, lingers, blocks⟩)
      · cases free id socket found blocks
      · rw [nothing left lingers] at blocks
        cases blocks
    refine ⟨world.network.sockets.next, ?_⟩
    rw [act, Act.result_listen, Network.listen_eq, up]
    dsimp only
    rw [untaken]
    rfl
  | connect remote =>
    refine ⟨world.network.sockets.next, ?_⟩
    rw [act, Act.result_connect, Network.connect_eq, available.1]
  | associate remote =>
    obtain ⟨binds, up⟩ := available
    refine ⟨world.network.sockets.next, ?_⟩
    rw [act, Act.result_associate, Network.associate_eq, binds, up]
    rfl
  | openLine path baudRate =>
    rw [act, Act.result_openLine]
    cases opened : (world.devices.openLine path baudRate).1 with
    | ok id => exact ⟨id, rfl⟩
    | error error =>
      rw [Available, opened] at available
      cases available

theorem Available.mono {held : List Asset} {crowd fewer : SocketId → Nat} (available : request.Available held crowd world)
    (fits : ∀ remote server listening, request = .connect remote →
      world.network.listenerAt? remote = some (server, listening) → fewer server ≤ crowd server) :
    request.Available held fewer world := by
  cases request with
  | connect remote =>
    obtain ⟨up, server, listening, reached, room⟩ := available
    refine ⟨up, server, listening, reached, ?_⟩
    have less := fits remote server listening rfl reached
    omega
  | listen address => exact available
  | associate remote => exact available
  | openLine path baudRate => exact available

end Request

namespace Endpoint

variable {transport : Transport} {endpoint : Endpoint transport} {world : World}

/-- The address of an endpoint stands for something that can be had now, and no handshake of its own is under way. -/
structure Ready (endpoint : Endpoint transport) (crowd : SocketId → Nat) (world : World) : Prop where
  settled : endpoint.underWay world = false
  available : ∃ request, transport.request? world.network.routes.names endpoint.target = .ok request ∧
    request.Available endpoint.assets crowd world

def dials? (endpoint : Endpoint transport) (world : World) : Option SocketId :=
  if endpoint.isConfigured && !endpoint.live world && !endpoint.underWay world then
    match transport.request? world.network.routes.names endpoint.target with
    | .ok (.connect remote) => (world.network.listenerAt? remote).map Prod.fst
    | _ => none
  else none

theorem Ready.mono {crowd fewer : SocketId → Nat} (ready : endpoint.Ready crowd world)
    (set : endpoint.isConfigured = true) (down : endpoint.live world = false)
    (less : ∀ server, endpoint.dials? world = some server → fewer server ≤ crowd server) :
    endpoint.Ready fewer world := by
  obtain ⟨request, asked, available⟩ := ready.available
  refine ⟨ready.settled, request, asked, available.mono fun remote server listening same reached => ?_⟩
  apply less
  rw [same] at asked
  simp only [dials?, set, down, ready.settled, asked, reached]
  rfl

theorem devices_afterRelease_serial {endpoint : Endpoint .serial} {id : Nat} (held : endpoint.handle = some id)
    (world : World) : (endpoint.afterRelease world).devices = world.devices.closeLine id := by
  rw [afterRelease, partings_of_handle held]
  rfl

theorem available_afterRelease (sound : world.Sound) (fits : endpoint.Fits world) (down : endpoint.live world = false)
    {request : Request} (asked : transport.request? world.network.routes.names endpoint.target = .ok request)
    (available : request.Available endpoint.assets (fun _ => 1) world) :
    request.Available [] (fun _ => 1) (endpoint.afterRelease world) := by
  have routes := routes_afterRelease endpoint world
  obtain ⟨target, handle⟩ := endpoint
  cases transport with
  | client =>
    obtain ⟨remote, _, rfl⟩ := map_eq_ok asked
    obtain ⟨up, server, listening, reached, room⟩ := available
    refine ⟨by rw [routes]; exact up, server, listening, ?_, room⟩
    rw [Network.listenerAt?_of_listening? (listening?_afterRelease fits sound), reached]
  | listener =>
    obtain ⟨address, _, rfl⟩ := map_eq_ok asked
    cases handle with
    | none =>
      rw [afterRelease_of_handle_eq_none rfl]
      exact available
    | some held =>
      rw [fits.live_listener sound rfl] at down
      cases down
  | udp =>
    obtain ⟨remote, _, rfl⟩ := map_eq_ok asked
    rw [Request.Available, routes]
    exact available
  | serial =>
    cases asked
    cases handle with
    | none =>
      rw [afterRelease_of_handle_eq_none rfl]
      exact available
    | some id =>
      rw [Request.Available, devices_afterRelease_serial rfl]
      exact (Devices.isOk_openLine_closeLine ..).trans available

theorem raise_up (sound : world.Sound) {request : Request}
    (asked : transport.request? world.network.routes.names endpoint.target = .ok request)
    (available : request.Available [] (fun _ => 1) world) :
    (endpoint.raise.result world).1.1.live (endpoint.raise.result world).2 = true := by
  obtain ⟨id, made⟩ := available.granted
  by_cases client : transport = .client
  · subst client
    obtain ⟨target, _⟩ := endpoint
    obtain ⟨remote, _, rfl⟩ := map_eq_ok asked
    obtain ⟨up, server, listening, reached, room⟩ := available
    have free : Network.hasRoom listening = true := decide_eq_true (Nat.le_of_succ_le_succ room)
    have granted := Network.isLive_connect up reached free
    have number : id = world.network.sockets.next := by
      rw [Request.act, Act.result_connect, Network.connect_answered up reached free] at made
      cases made
      rfl
    rw [raise_result, asked]
    dsimp only
    rw [made, number]
    exact granted
  · refine raise_live sound client ?_
    rw [raise_result, asked]
    dsimp only
    rw [made]

theorem reopen_up (sound : world.Sound) (fits : endpoint.Fits world) (down : endpoint.live world = false)
    (ready : endpoint.Ready (fun _ => 1) world) (told : List LogEntry) :
    (endpoint.reopen.result (world.tell told)).1.1.live (endpoint.reopen.result (world.tell told)).2 = true := by
  obtain ⟨request, asked, available⟩ := ready.available
  have downToo : endpoint.live (world.tell told) = false := by rw [live_tell, down]
  have released := available_afterRelease (sound.tell told) (fits.tell told) downToo asked available
  rw [reopen_result]
  refine raise_up (sound_afterRelease (sound.tell told) (fits.tell told)) ?_ released
  rw [routes_afterRelease]
  exact asked

theorem bringUp_up (sound : world.Sound) (fits : endpoint.Fits world) (set : endpoint.isConfigured = true)
    (ready : endpoint.live world = false → endpoint.Ready (fun _ => 1) world) (role : Role) :
    ((Connection.bringUp role endpoint).result world).1.1.live ((Connection.bringUp role endpoint).result world).2 =
      true := by
  have brought := Connection.bringUp_spec sound fits role
  generalize (Connection.bringUp role endpoint).result world = outcome at brought ⊢
  cases brought with
  | unconfigured unset =>
    rw [set] at unset
    cases unset
  | alreadyConnected _ up => exact up
  | underWay _ down connecting =>
    rw [(ready down).settled] at connecting
    cases connecting
  | @attempted _ down settled told quiet after answer later reopened =>
    have up := reopen_up sound fits down (ready down) told
    rw [reopened] at up
    rw [live_tell]
    exact up

theorem joined_raise {endpoint : Endpoint .client} {remote : SocketAddress}
    (asked : Transport.client.request? world.network.routes.names endpoint.target = .ok (.connect remote)) :
    world.network.Joined (endpoint.raise.result world).2.network fun server =>
      if (world.network.listenerAt? remote).map Prod.fst = some server then 1 else 0 := by
  have joined := world.network.joined_connect remote
  rw [raise_result, asked]
  dsimp only
  split
  · exact joined
  · exact joined

theorem joined_reopen {endpoint : Endpoint .client} (sound : world.Sound) (fits : endpoint.Fits world)
    (set : endpoint.isConfigured = true) (down : endpoint.live world = false)
    (settled : endpoint.underWay world = false) (told : List LogEntry) :
    world.network.Joined (endpoint.reopen.result (world.tell told)).2.network fun server =>
      if endpoint.dials? world = some server then 1 else 0 := by
  have released : ∀ id, (endpoint.afterRelease (world.tell told)).network.listening? id =
      world.network.listening? id :=
    listening?_afterRelease (fits.tell told) (sound.tell told)
  have routes : (endpoint.afterRelease (world.tell told)).network.routes = world.network.routes :=
    routes_afterRelease endpoint _
  rw [reopen_result]
  cases asked : Transport.client.request? world.network.routes.names endpoint.target with
  | error failure =>
    have nothing := endpoint.released.raise_result (endpoint.afterRelease (world.tell told))
    rw [routes, show endpoint.released.target = endpoint.target from rfl, asked] at nothing
    rw [nothing]
    exact .of_same released
  | ok request =>
    obtain ⟨remote, _, rfl⟩ := map_eq_ok asked
    have dials : endpoint.dials? world = (world.network.listenerAt? remote).map Prod.fst := by
      rw [dials?, set, down, settled, asked]
      rfl
    have askedThen : Transport.client.request? (endpoint.afterRelease (world.tell told)).network.routes.names
        endpoint.released.target = .ok (.connect remote) := by
      rw [routes]
      exact asked
    have joined := joined_raise askedThen
    rw [Network.listenerAt?_of_listening? released, ← dials] at joined
    exact joined.of_before released

end Endpoint

namespace Connection

variable {connection : Connection} {world : World}

theorem joined_bringUp {endpoint : Endpoint .client} (sound : world.Sound) (fits : endpoint.Fits world) (role : Role) :
    world.network.Joined ((bringUp role endpoint).result world).2.network fun server =>
      if endpoint.dials? world = some server then 1 else 0 := by
  have brought := bringUp_spec sound fits role
  generalize (bringUp role endpoint).result world = outcome at brought ⊢
  cases brought with
  | unconfigured unset => exact .of_same fun _ => rfl
  | alreadyConnected set up => exact .of_same fun _ => rfl
  | underWay set down connecting => exact .of_same fun _ => rfl
  | @attempted set down settled told quiet after answer later reopened =>
    have joined := Endpoint.joined_reopen sound fits set down settled told
    rw [reopened] at joined
    exact joined

/-- Of two clients, one that is brought up leaves the other ready, if there was room for both. -/
theorem ready_bringUp_other {endpoint other : Endpoint .client} (sound : world.Sound) (fits : endpoint.Fits world)
    (otherFits : other.Fits world) (apart : ∀ asset ∈ other.assets, asset ∉ endpoint.assets) (role : Role)
    (ready : other.Ready (fun server => (if endpoint.dials? world = some server then 1 else 0) + 1) world) :
    other.Ready (fun _ => 1) ((bringUp role endpoint).result world).2 := by
  obtain ⟨settled, request, asked, available⟩ := ready
  have routes := (bringUp_handover sound fits role).routes
  obtain ⟨remote, _, rfl⟩ := map_eq_ok asked
  obtain ⟨up, server, listening, reached, room⟩ := available
  obtain ⟨newcomers, few, reachedNow⟩ := (joined_bringUp sound fits role).listenerAt? reached
  refine ⟨?_, .connect remote, by rw [routes]; exact asked, by rw [routes]; exact up, server, _, reachedNow, ?_⟩
  · rw [underWay_bringUp_other sound fits otherFits apart, settled]
  · dsimp only at room ⊢
    rw [List.length_append]
    omega

def dials? (connection : Connection) (role : Role) (world : World) : Option SocketId :=
  match connection.endpoint? role with
  | some ⟨_, endpoint⟩ => endpoint.dials? world
  | none => none

theorem dials?_of_endpoint? {role : Role} {transport : Transport} {endpoint : Endpoint transport}
    (found : connection.endpoint? role = some ⟨transport, endpoint⟩) (world : World) :
    connection.dials? role world = endpoint.dials? world := by
  rw [dials?, found]

def crowd (connection : Connection) (world : World) (server : SocketId) : Nat :=
  (Role.all.filter fun role => connection.dials? role world = some server).length

theorem crowd_eq (connection : Connection) (world : World) (server : SocketId) :
    connection.crowd world server = (if connection.dials? .data world = some server then 1 else 0) +
      if connection.dials? .command world = some server then 1 else 0 := by
  by_cases data : connection.dials? .data world = some server
  · by_cases command : connection.dials? .command world = some server <;> simp [crowd, Role.all, data, command]
  · by_cases command : connection.dials? .command world = some server <;> simp [crowd, Role.all, data, command]

theorem establishRole_up (order : connection.InOrder world) {role : Role} (set : connection.isConfigured role = true)
    (ready : ∀ {transport : Transport} {endpoint : Endpoint transport},
      connection.endpoint? role = some ⟨transport, endpoint⟩ → endpoint.live world = false →
        endpoint.Ready (fun _ => 1) world) :
    ((connection.establishRole role).result world).1.1.live role ((connection.establishRole role).result world).2 =
      true := by
  rcases connection.establishRole_result role with ⟨transport, place, endpoint, rfl, carries, result⟩ | ⟨absent, _⟩
  · have found := Place.endpoint?_fill carries endpoint
    have foundAfter := Place.endpoint?_fill carries ((bringUp role endpoint).result world).1.1
    rw [isConfigured, found] at set
    rw [result, live, foundAfter]
    exact Endpoint.bringUp_up order.sound order.fits_fill set (ready found) role
  · rw [isConfigured, absent] at set
    cases set

/-- The attempt of the data role leaves the command role ready, if there was room for both. -/
theorem ready_establishRole_data (order : connection.InOrder world) {transport : Transport}
    {endpoint : Endpoint transport} (found : connection.endpoint? .command = some ⟨transport, endpoint⟩)
    (ready : endpoint.Ready (fun server => (if connection.dials? .data world = some server then 1 else 0) + 1) world) :
    endpoint.Ready (fun _ => 1) ((connection.establishRole .data).result world).2 := by
  cases connection with
  | rsn data command => cases found
  | udp data => cases found
  | serial data => cases found
  | tcp data command =>
    cases found
    have place : ((Place.tcpData command).fill data).InOrder world := order
    have once := ((Place.tcpData command).nodup_assets_fill data).mp place.once
    have otherFits : command.Fits world := order.fits (by simp [endpoints])
    refine ready_bringUp_other order.sound place.fits_fill otherFits (fun asset inOther here => ?_) .data ready
    exact once.2.2 asset here (by simpa [Place.rest, Place.others] using inOther)

/-- Where each role that is set and down is ready, with room for all that dial, one attempt brings every role up. -/
theorem establish_up (order : connection.InOrder world)
    (ready : ∀ {role : Role} {transport : Transport} {endpoint : Endpoint transport},
      connection.endpoint? role = some ⟨transport, endpoint⟩ → endpoint.isConfigured = true →
        endpoint.live world = false → endpoint.Ready (connection.crowd world) world)
    {role : Role} (set : connection.isConfigured role = true) :
    (connection.establish.result world).1.1.live role (connection.establish.result world).2 = true := by
  have orderFirst := order.establishRole .data
  have crowded := connection.crowd_eq world
  rw [establish_result]
  cases role with
  | data =>
    have stays := live_establishRole_other orderFirst (show Role.data ≠ .command by decide)
    refine stays.trans (establishRole_up order set fun found down => ?_)
    have configured := (isConfigured_of_endpoint? found).symm.trans set
    refine (ready found configured down).mono configured down fun server dials => ?_
    rw [crowded, dials?_of_endpoint? found, dials, if_pos rfl]
    omega
  | command =>
    have same := endpoint?_establishRole (show Role.command ≠ .data by decide) connection world
    have setAfter : ((connection.establishRole .data).result world).1.1.isConfigured .command = true := by
      rw [isConfigured, same]
      exact set
    refine establishRole_up orderFirst setAfter fun foundAfter down => ?_
    have found := same.symm.trans foundAfter
    have configured := (isConfigured_of_endpoint? found).symm.trans set
    have was := live_establishRole_other order (show Role.command ≠ .data by decide)
    rw [live_of_endpoint? foundAfter, live_of_endpoint? found, down] at was
    refine ready_establishRole_data order found ((ready found configured was.symm).mono configured was.symm ?_)
    intro server dials
    refine Nat.le_of_eq ?_
    rw [crowded, dials?_of_endpoint? found, dials, if_pos rfl]

end Connection
end InstrumentLink
