import InstrumentLink.Proofs.Endpoint.Holding

/-!
What the looks at an endpoint show. A look at a thing that is up changes nothing; a look at one that is not takes at
most an error from a socket that is closed next, so that closing it afterwards is as good as closing it at once.
-/

namespace InstrumentLink

theorem Registry.modify_same {α : Type} {registry : Registry α} {id : Nat} {f : α → α}
    (same : ∀ a, registry.find? id = some a → f a = a) : registry.modify id f = registry := by
  have slots : registry.slots.modify id (Option.map f) = registry.slots := by
    refine List.ext_getElem? fun other => ?_
    rw [List.getElem?_modify]
    by_cases there : id = other
    · subst there
      rcases slot : registry.slots[id]? with _ | _ | a
      · rfl
      · simp
      · have found : registry.find? id = some a := by simp [find?, slot]
        simp [same a found]
    · simp [there]
  unfold modify
  rw [slots]

namespace Stream

def isLive (stream : Stream) : Bool := stream.peerAddress?.isSome && !stream.peek.isOver

theorem Sound.error_eq_none {stream : Stream} (sound : stream.Sound) (alive : stream.phase ≠ .dead) :
    stream.error = none := by
  cases told : stream.error with
  | none => rfl
  | some error => exact absurd (sound.dead_of_error (by simp [told])) alive

theorem afterPeek_of_error {stream : Stream} (quiet : stream.error = none) : stream.afterPeek = stream := by
  rcases stream.afterPeek_cases with same | ⟨changed, _⟩
  · exact same
  · rw [changed, ← quiet]

theorem peerAddress?_isSome (stream : Stream) : stream.peerAddress?.isSome = decide (stream.phase = .established) := by
  unfold peerAddress?
  split <;> simp [*]

theorem Sound.peek_connecting {stream : Stream} (sound : stream.Sound) (connecting : stream.phase = .connecting) :
    stream.peek.isOver = false := by
  have quiet := sound.error_eq_none (by simp [connecting])
  unfold Stream.peek
  rw [(sound.connecting connecting).2, quiet, connecting]
  cases stream.inbox.isEmpty <;> rfl

theorem Sound.peek_dead {stream : Stream} (sound : stream.Sound) (dead : stream.phase = .dead)
    (quiet : stream.error = none) : stream.peek.isOver = true := by
  have empty : stream.inbox = [] := by
    rcases sound.dead dead with told | empty
    · simp [quiet] at told
    · exact empty
  unfold Stream.peek
  rw [empty, quiet, dead]
  cases stream.ended <;> rfl

theorem Sound.not_isUp_of_not_isLive {stream : Stream} (sound : stream.Sound) (down : stream.isLive = false) :
    ¬stream.IsUp := by
  intro up
  have quiet := sound.error_eq_none (by simp [up.1])
  have known : stream.peerAddress?.isSome = true := by simp [peerAddress?_isSome, up.1]
  rw [isLive, known, Stream.peek, quiet, up.1, up.2] at down
  cases empty : stream.inbox.isEmpty <;> simp [empty, Peek.isOver] at down

end Stream

namespace Network

theorem mapStream_same {network : Network} {id : SocketId} {f : Stream → Stream}
    (same : ∀ stream, network.stream? id = some stream → f stream = stream) :
    network.modify id (Socket.mapStream f) = network := by
  unfold modify
  rw [Registry.modify_same]
  intro socket there
  have found : network.socket? id = some socket := there
  rcases socket with ⟨owner, stream | _ | _ | _⟩
  · have shown : network.stream? id = some stream := by rw [stream?_eq_bind, found]; rfl
    simp [Socket.mapStream, same stream shown]
  · rfl
  · rfl
  · rfl

theorem own?_stream {network : Network} {id : SocketId} {remote : SocketAddress}
    (own : network.own? id = some (.stream remote)) : ∃ stream, network.stream? id = some stream ∧
      stream.there = remote ∧ network.socket? id = some ⟨.agent, .stream stream⟩ := by
  obtain ⟨⟨owner, state⟩, found, shown⟩ := Option.bind_eq_some_iff.mp own
  unfold Socket.own? at shown
  split at shown
  next owned =>
    cases state with
    | stream stream =>
      cases shown
      dsimp only at owned
      exact ⟨stream, by rw [stream?_eq_bind, found]; rfl, rfl, by rw [found, owned]⟩
    | listening listening => cases shown
    | datagram there => cases shown
    | idle idle => rcases idle with ⟨_ | _, _, _⟩ <;> cases shown
  · cases shown

theorem own?_listening {network : Network} {id : SocketId} {address : SocketAddress}
    (own : network.own? id = some (.listening address)) :
    (∃ listening, network.socket? id = some ⟨.agent, .listening listening⟩ ∧ listening.address = address) ∨
      ∃ error shares, network.socket? id = some ⟨.agent, .idle ⟨some address, error, shares⟩⟩ := by
  obtain ⟨⟨owner, state⟩, found, shown⟩ := Option.bind_eq_some_iff.mp own
  unfold Socket.own? at shown
  split at shown
  next owned =>
    dsimp only at owned
    rw [found, owned]
    cases state with
    | stream stream => cases shown
    | listening listening =>
      cases shown
      exact .inl ⟨listening, rfl, rfl⟩
    | datagram there => cases shown
    | idle idle =>
      rcases idle with ⟨_ | address, error, shares⟩
      · cases shown
      · cases shown
        exact .inr ⟨error, shares, rfl⟩
  · cases shown

theorem localAddress?_of_own? {network : Network} {id : SocketId} {address : SocketAddress}
    (own : network.own? id = some (.listening address)) : network.localAddress? id = some address := by
  rw [localAddress?]
  rcases own?_listening own with ⟨listening, there, rfl⟩ | ⟨error, shares, there⟩
  all_goals
    rw [there]
    rfl

theorem own?_datagram {network : Network} {id : SocketId} {remote : SocketAddress}
    (own : network.own? id = some (.datagram remote)) : network.socket? id = some ⟨.agent, .datagram remote⟩ := by
  obtain ⟨⟨owner, state⟩, found, shown⟩ := Option.bind_eq_some_iff.mp own
  unfold Socket.own? at shown
  split at shown
  next owned =>
    cases state with
    | stream stream => cases shown
    | listening listening => cases shown
    | datagram there =>
      cases shown
      dsimp only at owned
      rw [found, owned]
    | idle idle => rcases idle with ⟨_ | _, _, _⟩ <;> cases shown
  · cases shown

theorem peerAddress?_stream {network : Network} {id : SocketId} {stream : Stream}
    (found : network.stream? id = some stream) : network.peerAddress? id = stream.peerAddress? := by
  rw [stream?_eq_bind] at found
  obtain ⟨⟨owner, state⟩, there, shown⟩ := Option.bind_eq_some_iff.mp found
  cases state <;> cases shown
  simp [peerAddress?, there]

theorem state_of_stream? {network : Network} {id : SocketId} {stream : Stream}
    (found : network.stream? id = some stream) :
    (network.socket? id).map Socket.state = some (.stream stream) := by
  rw [stream?_eq_bind] at found
  obtain ⟨⟨owner, state⟩, there, shown⟩ := Option.bind_eq_some_iff.mp found
  cases state <;> cases shown
  rw [there]
  rfl

def isLive (network : Network) (id : SocketId) : Bool :=
  (network.peerAddress? id).isSome && !(network.peek id).1.isOver

def isConnecting (network : Network) (id : SocketId) : Bool :=
  (network.stream? id).any fun stream => stream.phase = .connecting

theorem isLive_stream {network : Network} {id : SocketId} {stream : Stream}
    (found : network.stream? id = some stream) : network.isLive id = stream.isLive := by
  rw [isLive, peerAddress?_stream found, Network.peek, found]
  rfl

theorem isConnecting_stream {network : Network} {id : SocketId} {stream : Stream}
    (found : network.stream? id = some stream) : network.isConnecting id = decide (stream.phase = .connecting) := by
  rw [isConnecting, found]
  rfl

theorem takeError_quiet {network : Network} {id : SocketId} {stream : Stream}
    (found : network.stream? id = some stream) (quiet : stream.error = none) :
    network.takeError id = (none, network) := by
  rw [takeError, state_of_stream? found]
  dsimp only
  rw [quiet, mapStream_same]
  intro other there
  rw [found] at there
  cases there
  rw [← quiet]

theorem peek_quiet {network : Network} {id : SocketId} {stream : Stream}
    (found : network.stream? id = some stream) (quiet : stream.error = none) :
    network.peek id = (stream.peek, network) := by
  rw [peek, found]
  dsimp only
  rw [mapStream_same]
  intro other there
  rw [found] at there
  cases there
  exact Stream.afterPeek_of_error quiet

theorem Sound.peek_same {network : Network} (sound : network.Sound) {id : SocketId}
    (known : (network.peerAddress? id).isSome) : (network.peek id).2 = network := by
  cases found : network.stream? id with
  | none =>
    rw [Network.peek, found]
  | some stream =>
    rw [peerAddress?_stream found, stream.peerAddress?_isSome] at known
    have established : stream.phase = .established := by simpa using known
    have quiet := (sound.streams found).error_eq_none (by simp [established])
    rw [peek_quiet found quiet]

end Network

namespace Transport

def live : (transport : Transport) → transport.Handle → World → Bool
  | .client, id, world => world.network.isLive id
  | .listener, held, world => (world.network.localAddress? (Listener.socket held)).isSome
  | .udp, id, world => (world.network.peerAddress? id).isSome
  | .serial, id, world => world.devices.isAlive id

def underWay : (transport : Transport) → transport.Handle → World → Bool
  | .client, id, world => world.network.isConnecting id
  | .listener, _, _ => false
  | .udp, _, _ => false
  | .serial, _, _ => false

theorem isUsable_client {world : World} (sound : world.network.Sound) (id : SocketId) :
    (isUsable .client id).result world = (world.network.isLive id, world) := by
  by_cases known : (world.network.peerAddress? id).isSome
  · have looked : ({ world with network := (world.network.peek id).2 } : World) = world := by
      rw [sound.peek_same known]
    simp [isUsable, Network.isLive, Act.result_isOver, known, looked]
  · simp [isUsable, Network.isLive, known]

theorem isUsable_result {world : World} (sound : world.network.Sound) (transport : Transport)
    (handle : transport.Handle) : (transport.isUsable handle).result world = (transport.live handle world, world) := by
  cases transport with
  | client => exact isUsable_client sound handle
  | listener => rfl
  | udp => rfl
  | serial => rfl

/-- A look at a client that is down. It goes on only if the handshake is under way; else closing it is all that is
left, and the look has changed nothing that shows after that. -/
theorem isUnderWay_client {world : World} (sound : world.network.Sound) {id : SocketId} {stream : Stream}
    (found : world.network.stream? id = some stream) (address : HostPort) :
    (isUnderWay .client address id).result world = (true, world) ∧ world.network.isConnecting id = true ∨
      world.network.isConnecting id = false ∧ ∃ told looked,
        (isUnderWay .client address id).result world =
          (false, ({ world with network := looked } : World).tell told) ∧
        (∀ entry ∈ told, entry.level = .debug ∧ ∃ what, entry.text = client.describe address ++ what) ∧
        ∀ ways, looked.part ways id = world.network.part ways id := by
  have streamSound := sound.streams found
  -- The three looks of the code: at the address of the peer, at the pending error, and at what has come.
  cases phase : stream.phase with
  | connecting =>
    have quiet := streamSound.error_eq_none (by simp [phase])
    have unknown : world.network.peerAddress? id = none := by
      simp [Network.peerAddress?_stream found, Stream.peerAddress?, phase]
    refine .inl ⟨?_, by simp [Network.isConnecting_stream found, phase]⟩
    simp [isUnderWay, unknown, Act.result_takeError, Network.takeError_quiet found quiet, Act.result_isOver,
      Network.peek_quiet found quiet, streamSound.peek_connecting phase]
  | established =>
    have known : (world.network.peerAddress? id).isSome := by
      simp [Network.peerAddress?_stream found, Stream.peerAddress?, phase]
    refine .inr ⟨by simp [Network.isConnecting_stream found, phase], [], world.network, ?_, by simp, fun _ => rfl⟩
    simp [isUnderWay, known]
  | dead =>
    have unknown : world.network.peerAddress? id = none := by
      simp [Network.peerAddress?_stream found, Stream.peerAddress?, phase]
    refine .inr ⟨by simp [Network.isConnecting_stream found, phase], ?_⟩
    cases told : stream.error with
    | some error =>
      have asked : world.network.takeError id = (some error,
          world.network.modify id (Socket.mapStream fun stream => { stream with error := none })) := by
        rw [Network.takeError, Network.state_of_stream? found, ← told]
      refine ⟨[⟨.debug, .transport .client, client.describe address ++ ": connect failed: " ++ error.message⟩],
        world.network.modify id (Socket.mapStream fun stream => { stream with error := none }), ?_, ?_, ?_⟩
      · simp [isUnderWay, unknown, Act.result_takeError, asked, Transport.say]
      · intro entry member
        rw [List.mem_singleton.mp member]
        exact ⟨rfl, _, String.append_assoc⟩
      · exact Network.part_blind (by intro _; exact ⟨none, rfl⟩) world.network id
    | none =>
      refine ⟨[], world.network, ?_, by simp, fun _ => rfl⟩
      simp [isUnderWay, unknown, Act.result_takeError, Network.takeError_quiet found told, Act.result_isOver,
        Network.peek_quiet found told, streamSound.peek_dead phase told]

end Transport

namespace Endpoint

variable {transport : Transport}

def live (endpoint : Endpoint transport) (world : World) : Bool :=
  endpoint.handle.any fun handle => transport.live handle world

def underWay (endpoint : Endpoint transport) (world : World) : Bool :=
  endpoint.handle.any fun handle => transport.underWay handle world

theorem isConnected_result {world : World} (sound : world.network.Sound) (endpoint : Endpoint transport) :
    endpoint.isConnected.result world = (endpoint.live world, world) := by
  unfold isConnected live
  cases endpoint.handle with
  | none => rfl
  | some handle => exact transport.isUsable_result sound handle

@[simp] theorem live_tell (endpoint : Endpoint transport) (entries : List LogEntry) (world : World) :
    endpoint.live (world.tell entries) = endpoint.live world := by
  unfold live
  cases endpoint.handle with
  | none => rfl
  | some handle => cases transport <;> rfl

@[simp] theorem underWay_tell (endpoint : Endpoint transport) (entries : List LogEntry) (world : World) :
    endpoint.underWay (world.tell entries) = endpoint.underWay world := by
  unfold underWay
  cases endpoint.handle with
  | none => rfl
  | some handle => cases transport <;> rfl

theorem hasHandle_of_live {endpoint : Endpoint transport} {world : World} (up : endpoint.live world = true) :
    endpoint.hasHandle = true := by
  cases held : endpoint.handle with
  | none => simp [live, held] at up
  | some handle => rw [hasHandle, held]; rfl

theorem client_of_underWay {endpoint : Endpoint transport} {world : World} (connecting : endpoint.underWay world = true) :
    transport = .client ∧ endpoint.handle.isSome = true := by
  cases held : endpoint.handle with
  | none => simp [underWay, held] at connecting
  | some handle => cases transport <;> simp [underWay, held, Transport.underWay] at connecting ⊢

theorem Fits.isConfigured_of_live {endpoint : Endpoint transport} {world : World} (fits : endpoint.Fits world)
    (up : endpoint.live world = true) : endpoint.isConfigured = true := by
  cases held : endpoint.handle with
  | none => simp [live, held] at up
  | some handle => exact fits.isConfigured held

theorem Fits.stream {endpoint : Endpoint .client} {world : World} (fits : endpoint.Fits world) (sound : world.Sound)
    {id : SocketId} (held : endpoint.handle = some id) : ∃ stream, world.network.stream? id = some stream := by
  obtain ⟨request, asked, own⟩ := fits.own? sound held
  obtain ⟨remote, _, rfl⟩ := map_eq_ok asked
  obtain ⟨stream, found, _⟩ := Network.own?_stream own
  exact ⟨stream, found⟩

theorem Fits.live_listener {endpoint : Endpoint .listener} {world : World} (fits : endpoint.Fits world)
    (sound : world.Sound) {held : Listener} (holds : endpoint.handle = some held) : endpoint.live world = true := by
  obtain ⟨request, asked, own⟩ := fits.own? sound holds
  obtain ⟨address, _, rfl⟩ := map_eq_ok asked
  have known : world.network.localAddress? held.socket = some address := Network.localAddress?_of_own? own
  rw [live, holds]
  change (world.network.localAddress? held.socket).isSome = true
  rw [known]
  rfl

end Endpoint
end InstrumentLink
