import InstrumentLink.Proofs.Connection.Ready

/-!
When attempts change nothing any more. An endpoint is settled if another attempt to bring it up, in a world that stays
as it is, leaves it as up or as down as it is: it is not set, or up, or its handshake waits for a listener without room,
or nothing can come of what it asks for. After one attempt every endpoint is settled.
-/

namespace InstrumentLink

namespace Network

variable {network : Network} {remote : SocketAddress} {id : SocketId}

/-- What becomes of a connection that could be started: it waits for an answer, or it was answered by a listener. -/
theorem connect_cases_ok (made : (network.connect .agent remote).1 = .ok id) :
    (network.connect .agent remote).2.stream? id = some (network.nearEnd remote) ∨
      network.listenerAt? remote ≠ none ∧ (network.connect .agent remote).2.isLive id = true := by
  have added := network.listening?_addStream .agent (network.nearEnd remote)
  have near : (network.add ⟨.agent, .stream (network.nearEnd remote)⟩).stream? network.sockets.next =
      some (network.nearEnd remote) := by
    rw [stream?_add, if_pos rfl]
    rfl
  rcases network.connect_cases .agent remote with ⟨error, refused⟩ | granted
  · rw [refused] at made
    cases made
  · rw [granted] at made ⊢
    cases made
    dsimp only
    rcases answer_cases network.sockets.next (network.add ⟨.agent, .stream (network.nearEnd remote)⟩) with
      same | ⟨stream, server, listening, there, _, reached, _, answered⟩
    · rw [same]
      exact .inl near
    · rw [near] at there
      cases there
      rw [listenerAt?_of_listening? added] at reached
      refine .inr ⟨fun nobody => ?_, ?_⟩
      · rw [show (network.nearEnd remote).there = remote from rfl, nobody] at reached
        cases reached
      · rw [answered, isLive_stream (by
          rw [stream?_answered near, next_add, if_neg (Nat.ne_of_lt (Nat.lt_succ_self _)), if_pos rfl])]
        rfl

end Network

namespace Request

variable {request : Request} {world : World}

/-- Nothing can come of a request: it is refused, or nobody listens where it dials. -/
def Hopeless (request : Request) (world : World) : Prop :=
  match request with
  | .listen address => world.network.routes.bindFault address ≠ none ∨ world.network.Blocked address true
  | .connect remote => world.network.routes.connectFault remote ≠ none ∨ world.network.listenerAt? remote = none
  | .associate remote =>
    (world.network.routes.bindFault ⟨Network.anyLike remote.ip, 0⟩).or (world.network.routes.associateFault remote) ≠
      none
  | .openLine path baudRate => (world.devices.openLine path baudRate).1.isOk = false

theorem hopeless_of_refused {error : IoError} (refused : (request.act.result world).1 = .error error) :
    request.Hopeless (request.act.result world).2 := by
  -- What was made on the way is gone, so the same fault is in the way of the next request.
  cases request with
  | listen address =>
    rw [act, Act.result_listen, Network.listen_eq] at refused ⊢
    cases fault : world.network.routes.bindFault address with
    | some error => exact .inl (by simp [fault, Network.skip])
    | none =>
      rw [fault] at refused
      dsimp only at refused ⊢
      split at refused
      next taken =>
        rw [if_pos taken]
        exact .inr (Network.blocked_skip.mpr (Network.taken_next_iff.mp taken))
      next => cases refused
  | connect remote =>
    rw [act, Act.result_connect, Network.connect_eq] at refused ⊢
    cases fault : world.network.routes.connectFault remote with
    | some error => exact .inl (by simp [fault, Network.skip])
    | none =>
      rw [fault] at refused
      cases refused
  | associate remote =>
    rw [act, Act.result_associate, Network.associate_eq] at refused ⊢
    cases fault : (world.network.routes.bindFault ⟨Network.anyLike remote.ip, 0⟩).or
        (world.network.routes.associateFault remote) with
    | some error =>
      rw [Hopeless]
      simp [fault, Network.skip]
    | none =>
      rw [fault] at refused
      cases refused
  | openLine path baudRate =>
    rw [act, Act.result_openLine] at refused ⊢
    have failed : (world.devices.openLine path baudRate).1 = .error error := refused
    rw [Hopeless]
    dsimp only
    rcases Devices.openLine_error failed with same | skipped
    · rw [same, failed]
      rfl
    · rw [skipped, Devices.isOk_openLine_skipLine, failed]
      rfl

theorem Hopeless.dials (hopeless : request.Hopeless world) {id : Nat} (made : (request.act.result world).1 = .ok id) :
    ∃ remote, request = .connect remote ∧ world.network.listenerAt? remote = none := by
  cases request with
  | listen address =>
    rw [act, Act.result_listen, Network.listen_eq] at made
    rcases hopeless with fault | taken
    · obtain ⟨error, why⟩ := Option.ne_none_iff_exists'.mp fault
      rw [why] at made
      cases made
    · split at made
      · cases made
      · rw [if_pos (Network.taken_next_iff.mpr taken)] at made
        cases made
  | connect remote =>
    refine ⟨remote, rfl, ?_⟩
    rcases hopeless with fault | nobody
    · obtain ⟨error, why⟩ := Option.ne_none_iff_exists'.mp fault
      rw [act, Act.result_connect, Network.connect_eq, why] at made
      cases made
    · exact nobody
  | associate remote =>
    obtain ⟨error, why⟩ := Option.ne_none_iff_exists'.mp hopeless
    rw [act, Act.result_associate, Network.associate_eq, why] at made
    cases made
  | openLine path baudRate =>
    rw [act, Act.result_openLine] at made
    have opened : (world.devices.openLine path baudRate).1 = .ok id := made
    rw [Hopeless, opened] at hopeless
    cases hopeless

theorem Hopeless.of_heard {later : World} {remote : SocketAddress} (hopeless : (connect remote).Hopeless world)
    (routes : later.network.routes = world.network.routes)
    (heard : (later.network.listenerAt? remote).map Prod.fst = (world.network.listenerAt? remote).map Prod.fst) :
    (connect remote).Hopeless later := by
  rcases hopeless with fault | nobody
  · refine .inl ?_
    rw [routes]
    exact fault
  · refine .inr ?_
    rw [nobody] at heard
    exact Option.map_eq_none_iff.mp heard

end Request

namespace Endpoint

variable {transport : Transport} {endpoint : Endpoint transport} {world : World}

def Hopeless (endpoint : Endpoint transport) (world : World) : Prop :=
  ∀ request, transport.request? world.network.routes.names endpoint.target = .ok request → request.Hopeless world

inductive Settled (endpoint : Endpoint transport) (world : World) : Prop
  | unset (unset : endpoint.isConfigured = false)
  | up (up : endpoint.live world = true)
  /-- Somebody listens who has no room or has not answered yet. -/
  | waiting (connecting : endpoint.underWay world = true) (heard : ¬endpoint.Hopeless world)
  | down (down : endpoint.live world = false) (hopeless : endpoint.Hopeless world)

theorem live_of_handle_eq_none (empty : endpoint.handle = none) (world : World) : endpoint.live world = false := by
  rw [live, empty]
  rfl

theorem live_of_underWay (connecting : endpoint.underWay world = true) : endpoint.live world = false := by
  obtain ⟨rfl, held⟩ := client_of_underWay connecting
  obtain ⟨id, holds⟩ := Option.isSome_iff_exists.mp held
  rw [underWay, holds] at connecting
  have waits : world.network.isConnecting id = true := connecting
  cases found : world.network.stream? id with
  | none =>
    simp [Network.isConnecting, found] at waits
  | some stream =>
    have phase : stream.phase = .connecting := by simpa [Network.isConnecting_stream found] using waits
    rw [live, holds]
    refine (Network.isLive_stream found).trans ?_
    rw [Stream.isLive, Stream.peerAddress?_isSome, phase]
    rfl

theorem settled_of_underWay (connecting : endpoint.underWay world = true) : endpoint.Settled world := by
  by_cases hopeless : endpoint.Hopeless world
  · exact .down (live_of_underWay connecting) hopeless
  · exact .waiting connecting hopeless

theorem Settled.tell (settled : endpoint.Settled world) (entries : List LogEntry) :
    endpoint.Settled (world.tell entries) := by
  cases settled with
  | unset unset => exact .unset unset
  | up up => exact .up (by rw [live_tell, up])
  | waiting connecting heard => exact .waiting (by rw [underWay_tell, connecting]) heard
  | down down hopeless => exact .down (by rw [live_tell, down]) hopeless

theorem client_of_dials {names : HostNames} {target : transport.Target} {remote : SocketAddress}
    (asked : transport.request? names target = .ok (.connect remote)) : transport = .client := by
  cases transport with
  | client => rfl
  | listener =>
    obtain ⟨_, _, same⟩ := map_eq_ok asked
    cases same
  | udp =>
    obtain ⟨_, _, same⟩ := map_eq_ok asked
    cases same
  | serial => cases asked

theorem raise_settled (sound : world.Sound) (empty : endpoint.handle = none) :
    (endpoint.raise.result world).1.1.Settled (endpoint.raise.result world).2 := by
  have up := @raise_live _ endpoint _ sound
  rw [raise_result] at up ⊢
  cases asked : transport.request? world.network.routes.names endpoint.target with
  | error failure =>
    refine .down (live_of_handle_eq_none empty world) fun request granted => ?_
    rw [asked] at granted
    cases granted
  | ok request =>
    rw [asked] at up
    dsimp only at up ⊢
    cases made : (request.act.result world).1 with
    | error error =>
      refine .down (live_of_handle_eq_none empty _) fun other askedToo => ?_
      rw [World.routes_request, asked] at askedToo
      cases askedToo
      exact Request.hopeless_of_refused made
    | ok id =>
      rw [made] at up
      by_cases client : transport = .client
      · subst client
        obtain ⟨target, _⟩ := endpoint
        obtain ⟨remote, _, rfl⟩ := map_eq_ok asked
        rcases Network.connect_cases_ok made with waits | ⟨_, live⟩
        · exact settled_of_underWay (Network.isConnecting_stream waits)
        · exact .up live
      · exact .up (up client rfl)

theorem live_raise_of_hopeless (empty : endpoint.handle = none) (hopeless : endpoint.Hopeless world) :
    (endpoint.raise.result world).1.1.live (endpoint.raise.result world).2 = false := by
  rw [raise_result]
  cases asked : transport.request? world.network.routes.names endpoint.target with
  | error failure => exact live_of_handle_eq_none empty world
  | ok request =>
    dsimp only
    cases made : (request.act.result world).1 with
    | error error => exact live_of_handle_eq_none empty _
    | ok id =>
      obtain ⟨remote, rfl, nobody⟩ := (hopeless request asked).dials made
      obtain rfl := client_of_dials asked
      rcases Network.connect_cases_ok made with waits | ⟨heard, _⟩
      · exact live_of_underWay (Network.isConnecting_stream waits)
      · exact absurd nobody heard

theorem hopeless_afterRelease (sound : world.Sound) (fits : endpoint.Fits world) (down : endpoint.live world = false)
    (hopeless : endpoint.Hopeless world) : endpoint.released.Hopeless (endpoint.afterRelease world) := by
  intro request asked
  have routes := routes_afterRelease endpoint world
  rw [routes] at asked
  have before := hopeless request asked
  obtain ⟨target, handle⟩ := endpoint
  cases transport with
  | client =>
    obtain ⟨remote, _, rfl⟩ := map_eq_ok asked
    refine before.of_heard routes ?_
    rw [Network.listenerAt?_of_listening? (listening?_afterRelease fits sound)]
  | listener =>
    cases handle with
    | none =>
      rw [afterRelease_of_handle_eq_none rfl]
      exact before
    | some held =>
      rw [fits.live_listener sound rfl] at down
      cases down
  | udp =>
    obtain ⟨remote, _, rfl⟩ := map_eq_ok asked
    rw [Request.Hopeless, routes]
    exact before
  | serial =>
    cases asked
    cases handle with
    | none =>
      rw [afterRelease_of_handle_eq_none rfl]
      exact before
    | some id =>
      rw [Request.Hopeless, devices_afterRelease_serial rfl]
      exact (Devices.isOk_openLine_closeLine ..).trans before

theorem bringUp_settled (sound : world.Sound) (fits : endpoint.Fits world) (role : Role) :
    ((Connection.bringUp role endpoint).result world).1.1.Settled ((Connection.bringUp role endpoint).result world).2 := by
  have brought := Connection.bringUp_spec sound fits role
  generalize (Connection.bringUp role endpoint).result world = outcome at brought ⊢
  cases brought with
  | unconfigured unset => exact .unset unset
  | alreadyConnected set up => exact .up up
  | underWay set down connecting => exact (settled_of_underWay connecting).tell _
  | @attempted set down settled told quiet after answer later reopened =>
    have raised : (endpoint.released.raise.result _).1.1.Settled _ :=
      raise_settled (sound_afterRelease (sound.tell told) (fits.tell told)) rfl
    rw [← reopen_result, reopened] at raised
    exact raised.tell _

theorem live_bringUp_of_settled (sound : world.Sound) (fits : endpoint.Fits world) (settled : endpoint.Settled world)
    (role : Role) :
    ((Connection.bringUp role endpoint).result world).1.1.live ((Connection.bringUp role endpoint).result world).2 =
      endpoint.live world := by
  have brought := Connection.bringUp_spec sound fits role
  generalize (Connection.bringUp role endpoint).result world = outcome at brought ⊢
  cases brought with
  | unconfigured unset => exact endpoint.live_tell _ world
  | alreadyConnected set up => rfl
  | underWay set down connecting => exact endpoint.live_tell _ world
  | @attempted set down idle told quiet after answer later reopened =>
    rw [live_tell, down]
    cases settled with
    | unset unset =>
      rw [set] at unset
      cases unset
    | up up =>
      rw [up] at down
      cases down
    | waiting connecting heard =>
      rw [connecting] at idle
      cases idle
    | down down hopeless =>
      have downToo : endpoint.live (world.tell told) = false := by rw [live_tell, down]
      have stays : (endpoint.released.raise.result _).1.1.live _ = false := live_raise_of_hopeless rfl
        (hopeless_afterRelease (sound.tell told) (fits.tell told) downToo hopeless)
      rw [← reopen_result, reopened] at stays
      exact stays

end Endpoint
end InstrumentLink
