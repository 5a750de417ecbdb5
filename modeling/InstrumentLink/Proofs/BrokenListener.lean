import InstrumentLink.Proofs.Endpoint.Fault
import InstrumentLink.Proofs.InLine

/-!
A listening socket that has broken keeps its error until it is asked for it. Only an attempt of the endpoint's own asks,
and a connection makes none where its listener is up, as a broken one is: so the error stays, poll after poll, and the
listener is not bound again.
-/

namespace InstrumentLink
namespace Network

variable {network later : Network} {id door : SocketId}

theorem fault?_of_idle? (same : later.idle? door = network.idle? door) : later.fault? door = network.fault? door := by
  rw [fault?, fault?, same]

theorem idle?_add_other {socket : Socket} (other : socket.idle? = none) (door : SocketId) (network : Network) :
    (network.add socket).idle? door = network.idle? door := by
  rw [idle?_add]
  split
  next new => rw [new, idle?, socket?_next, other]; rfl
  next => rfl

theorem idle?_answer (id door : SocketId) (network : Network) : (network.answer id).idle? door = network.idle? door := by
  rcases network.answer_cases id with same | ⟨stream, listener, _, _, _, _, _, answered⟩
  · rw [same]
  · rw [answered, Network.answered, idle?_mapListening, idle?_mapStream, idle?_add_other rfl]

theorem idle?_made {owner : Owner} {state : SocketState} {answer : Except IoError SocketId × Network}
    (made : network.Made owner state answer) (door : SocketId) : answer.2.idle? door = network.idle? door := by
  cases made with
  | refused error => exact idle?_skip network door
  | granted fresh => exact (idle?_answer _ door _).trans (idle?_add_other fresh.ready door network)

theorem idle?_accept (owner : Owner) (id door : SocketId) (network : Network) :
    (network.accept owner id).2.idle? door = network.idle? door := by
  unfold accept
  split
  · rfl
  · split
    · rfl
    · split
      · rfl
      · rw [idle?_mapListening, idle?_setOwner]

theorem idle?_peek (id door : SocketId) (network : Network) : (network.peek id).2.idle? door = network.idle? door := by
  unfold peek
  split
  · exact idle?_mapStream ..
  · rfl

theorem idle?_send (id door : SocketId) (bytes : List UInt8) (network : Network) :
    (network.send id bytes).2.idle? door = network.idle? door := by
  unfold send
  split
  · rfl
  · split
    · rfl
    · split
      · exact idle?_mapStream ..
      · rw [idle?_mapLingering, idle?_mapStream]

theorem idle?_receive (id door : SocketId) (count : Nat) (network : Network) :
    (network.receive id count).2.idle? door = network.idle? door := by
  unfold receive
  split
  · exact idle?_mapStream ..
  · rfl

theorem idle?_abort (id door : SocketId) (network : Network) : (network.abort id).idle? door = network.idle? door := by
  cases found : network.stream? id with
  | none => rw [abort_of_stream?_none found]
  | some stream => exact (gone_abort found).idle? found door

theorem idle?_abortAll (ids : List SocketId) (door : SocketId) (network : Network) :
    (network.abortAll ids).idle? door = network.idle? door := by
  induction ids generalizing network with
  | nil => rfl
  | cons id rest ih => exact (ih _).trans (idle?_abort ..)

theorem Sound.idle?_part (sound : network.Sound) (different : id ≠ door) (ways : Option Ways) :
    (network.part ways id).idle? door = network.idle? door := by
  have removed : (network.remove id).idle? door = network.idle? door := by rw [idle?_remove, if_neg different]
  cases found : network.stream? id with
  | some stream => exact (gone_part found (sound.streams found).unshut ways).idle? found door
  | none =>
    rw [part_of_stream?_none found]
    rcases network.close_cases id with ⟨stream, there⟩ | ⟨listening, _, closed⟩ | closed
    · rw [there] at found
      cases found
    · rw [closed, idle?_abortAll, removed]
    · rw [closed, removed]

theorem idle?_refuseIdle (door : SocketId) (network : Network) : network.refuseIdle.idle? door = network.idle? door := by
  simp only [idle?, refuseIdle, socket?, Registry.find?_map]
  rcases network.sockets.find? door with _ | ⟨owner, _ | _ | _ | _⟩ <;> rfl

theorem idle?_fault (broken : (network.idle? door).isSome) (listener : SocketId) (error : IoError) :
    (network.fault listener error).idle? door = network.idle? door := by
  unfold fault
  split
  · rfl
  next listening there =>
    rw [idle?_abortAll, idle?, idle?, socket?_modify]
    split
    next same =>
      subst same
      obtain ⟨⟨owner, state⟩, found, shown⟩ :=
        Option.bind_eq_some_iff.mp ((network.listening?_eq_bind listener).symm.trans there)
      cases state <;> cases shown
      rw [idle?, found] at broken
      cases broken
    next => rfl

theorem idle?_outside {f : Network → Network} (own : network.owner? door = some .agent)
    (same : id ≠ door → (f network).idle? door = network.idle? door) :
    (network.outside id f).idle? door = network.idle? door := by
  unfold outside
  split
  next others =>
    refine same fun isDoor => ?_
    subst isDoor
    obtain ⟨socket, there, owner⟩ := Option.map_eq_some_iff.mp own
    rw [there] at others
    simp [owner] at others
  next => rfl

/-- Whatever happens around the agent, a socket of its own that has broken is broken still, with the same error. -/
theorem Sound.idle?_event (sound : network.Sound) (own : network.owner? door = some .agent)
    (broken : (network.idle? door).isSome) (event : Event) :
    (event.onNetwork network).idle? door = network.idle? door := by
  cases event with
  | serve address backlog shares => exact idle?_made (network.listen_made .outside address backlog shares) door
  | dial remote => exact idle?_made (network.connect_made .outside remote) door
  | take server => exact idle?_outside own fun _ => idle?_accept ..
  | send id bytes => exact idle?_outside own fun _ => idle?_send ..
  | receive id count => exact idle?_outside own fun _ => idle?_receive ..
  | close id => exact idle?_outside own fun different => sound.idle?_part different none
  | reset id => exact idle?_outside own fun _ => idle?_abort ..
  | answer id => exact idle?_answer ..
  | refuse id error => exact idle?_mapStream ..
  | refuseIdle => exact idle?_refuseIdle ..
  | fault listener error => exact idle?_fault broken ..
  | expire id => rfl
  | plug _ | unplug _ | deviceSend _ _ | deviceReceive _ _ => rfl

theorem isSome_idle?_of_fault? (broken : (network.fault? door).isSome) : (network.idle? door).isSome := by
  rw [fault?] at broken
  cases there : network.idle? door with
  | none =>
    rw [there] at broken
    cases broken
  | some idle => rfl

theorem accept_broken (broken : (network.fault? door).isSome) (owner : Owner) :
    network.accept owner door = (.error .invalidArgument, network) := by
  obtain ⟨idle, found⟩ := Option.isSome_iff_exists.mp (isSome_idle?_of_fault? broken)
  obtain ⟨⟨_, state⟩, there, shown⟩ := Option.bind_eq_some_iff.mp found
  cases state <;> cases shown
  have deaf : network.listening? door = none := by
    rw [listening?_eq_bind, there]
    rfl
  rw [accept, deaf, there]
  rfl

end Network

namespace Listener

theorem fault?_releaseClosedPeer (listener : Listener) {world : World} {door : SocketId} (sound : world.Sound)
    (apart : ∀ peer, listener.peer = some peer → peer ≠ door) :
    (listener.releaseClosedPeer.result world).1.1.socket = listener.socket ∧
      (listener.releaseClosedPeer.result world).2.network.fault? door = world.network.fault? door := by
  rw [releaseClosedPeer_result]
  obtain ⟨socket, _ | peer⟩ := listener
  · exact ⟨rfl, rfl⟩
  · dsimp only
    split
    · exact ⟨rfl, Network.fault?_of_idle? (sound.network.idle?_part (apart peer rfl) (some .both))⟩
    · exact ⟨rfl, rfl⟩

theorem acceptPeer_broken {listener : Listener} {world : World} (broken : (world.network.fault? listener.socket).isSome) :
    listener.acceptPeer.result world = ((listener, .error .invalidArgument), world) := by
  rw [acceptPeer, Act.result_bind, Act.result_accept, Network.accept_broken broken]
  simp [Act.acceptDeeds]

theorem fault?_hasLivePeer (listener : Listener) (world : World) (door : SocketId) :
    (listener.hasLivePeer.result world).2.network.fault? door = world.network.fault? door := by
  obtain ⟨socket, _ | peer⟩ := listener
  · rfl
  · exact Network.fault?_of_idle? (Network.idle?_peek peer door world.network)

end Listener

namespace Connection

def fault? (connection : Connection) (world : World) : Option IoError :=
  connection.listener?.bind fun listener => world.network.fault? listener.socket

def door? (connection : Connection) : Option SocketId := connection.listener?.map Listener.socket

structure Broken (connection : Connection) (world : World) (door : SocketId) : Prop where
  order : connection.InOrder world
  door : connection.door? = some door
  fault : (connection.fault? world).isSome

variable {connection : Connection} {world : World} {door : SocketId}

theorem Broken.eq (broken : connection.Broken world door) : ∃ target peer command,
    connection = rsn (.ofListener target ⟨door, peer⟩) command ∧ (world.network.fault? door).isSome := by
  obtain ⟨⟨socket, peer⟩, listens, rfl⟩ := Option.map_eq_some_iff.mp broken.door
  obtain ⟨target, command, rfl⟩ := eq_of_listener? listens
  exact ⟨target, peer, command, rfl, broken.fault⟩

theorem Broken.after (broken : connection.Broken world door) (event : Event) :
    connection.Broken (world.after event) door := by
  obtain ⟨target, peer, command, rfl, fault⟩ := broken.eq
  have order := broken.order
  obtain ⟨request, _, own⟩ := order.listener_fits.own? order.sound rfl
  have owned : world.network.owner? door = some .agent := Network.owner?_of_own? own
  exact {
    order := order.of_kept (World.kept_after order.sound event)
    door := rfl
    fault := by
      have kept := order.sound.network.idle?_event owned (Network.isSome_idle?_of_fault? fault) event
      exact (congrArg Option.isSome (Network.fault?_of_idle? kept)).trans fault }

theorem Broken.afterAll (broken : connection.Broken world door) (events : List Event) :
    connection.Broken (world.afterAll events) door := by
  induction events generalizing world with
  | nil => exact broken
  | cons first rest ih => exact ih (broken.after first)

theorem Broken.tell (broken : connection.Broken world door) (entries : List LogEntry) :
    connection.Broken (world.tell entries) door :=
  ⟨broken.order.of_kept (.tell broken.order.sound entries), broken.door, broken.fault⟩

theorem Broken.takePeer (broken : connection.Broken world door) :
    ((Agent.takePeer connection).result world).1.Broken ((Agent.takePeer connection).result world).2 door := by
  have order := broken.order.takePeer
  obtain ⟨target, peer, command, rfl, fault⟩ := broken.eq
  obtain ⟨told, result, _⟩ := takePeer_listener broken.order
  obtain ⟨socket, released⟩ := Listener.fault?_releaseClosedPeer ⟨door, peer⟩ broken.order.sound
    fun _ => broken.order.listener_fits.peer_apart
  have still : (((⟨door, peer⟩ : Listener).releaseClosedPeer.result world).2.network.fault?
      ((⟨door, peer⟩ : Listener).releaseClosedPeer.result world).1.1.socket).isSome := by
    rw [socket, released]
    exact fault
  rw [result, Listener.acceptPeer_broken still] at order ⊢
  exact ⟨order, congrArg some socket, still⟩

theorem Broken.status (broken : connection.Broken world door) :
    connection.Broken (connection.status.result world).2 door := by
  have kept := broken.order.status_kept
  have looked := broken.order.world_status
  obtain ⟨target, peer, command, rfl, fault⟩ := broken.eq
  refine ⟨broken.order.of_kept kept, rfl, ?_⟩
  change (Network.fault? (World.network _) door).isSome
  rw [looked]
  change (Network.fault? ((Listener.hasLivePeer _).result world).2.network door).isSome
  rw [Listener.fault?_hasLivePeer]
  exact fault

theorem Broken.establish (broken : connection.Broken world door) :
    connection.establish.result world = ((connection, ⟨.alreadyConnected, .unsupported⟩), world) := by
  obtain ⟨target, peer, command, rfl, _⟩ := broken.eq
  exact establish_listening broken.order

end Connection

namespace Agent

open Connection

variable {agent : Agent} {world : World} {door : SocketId}

theorem broken_poll (broken : agent.connection.Broken world door) :
    (agent.poll.result world).1.1.connection.Broken (agent.poll.result world).2 door := by
  rw [poll_eq, broken.establish]
  exact (((broken.tell _).takePeer).status).tell _

theorem broken_afterPolls {start : Agent × World} (broken : start.1.connection.Broken start.2 door)
    (between : Nat → List Event) (count : Nat) :
    (afterPolls between start count).1.connection.Broken (afterPolls between start count).2 door := by
  induction count with
  | zero => exact broken
  | succ count ih => exact broken_poll (ih.afterAll (between count))

end Agent

/-- Whatever has happened, once its listening socket has broken an attempt of the connection finds the role connected
already and does nothing, and whatever happens between its polls an agent has the same socket after any number of them,
with an error that it has not told. The endpoint would only have to be asked: its own attempt takes the error, lets go
of the socket and of the peer, and opens what the address asks for. -/
theorem broken_listener_stays_broken {start : Agent × World} (reached : Reachable start.1 start.2) {error : IoError}
    (broken : start.1.connection.fault? start.2 = some error) :
    start.1.connection.establish.result start.2 =
        ((start.1.connection, ⟨.alreadyConnected, .unsupported⟩), start.2) ∧
      (∀ between count,
        let state := Agent.afterPolls between start count
        state.1.connection.door? = start.1.connection.door? ∧ (state.1.connection.fault? state.2).isSome = true) ∧
      ∀ data command, start.1.connection = .rsn data command → ∃ listener, data.handle = some listener ∧
        data.establish.result start.2 = data.reopen.result (data.afterFault listener.socket error start.2) := by
  have order := inOrder_of_reachable reached
  obtain ⟨listener, listens, told⟩ := Option.bind_eq_some_iff.mp broken
  have door : start.1.connection.door? = some listener.socket := congrArg (Option.map Listener.socket) listens
  have stuck : start.1.connection.Broken start.2 listener.socket := ⟨order, door, by rw [broken]; rfl⟩
  refine ⟨stuck.establish, fun between count => ?_, fun data command is => ?_⟩
  · have still := Agent.broken_afterPolls stuck between count
    exact ⟨still.door.trans door.symm, still.fault⟩
  · rw [is] at order listens
    have fits : data.Fits start.2 := order.fits (by simp [Connection.endpoints])
    refine ⟨listener, listens, Endpoint.establish_broken listens (fits.isConfigured listens) ?_⟩
    exact (Endpoint.fault?_listener listens).trans told

def brokenListener : Agent × World :=
  (Agent.performAll [.poll, .event (.dial ⟨.v4 .localhost, 4001⟩), .poll, .event (.fault 0 (.os 103))]
    (.ofConnection (.ofSettings (.rsn ⟨"", 4001, "", 0⟩)))).result (World.ofRoutes .loopback)

theorem reachable_brokenListener : Reachable brokenListener.1 brokenListener.2 :=
  Reachable.performAll (.start (.ofRoutes .loopback) _) _

theorem broken_listener_stays_broken_with_peer :
    brokenListener.1.connection.fault? brokenListener.2 = some (.os 103) ∧
      ∀ count, (Agent.afterPolls (fun _ => []) brokenListener count).1.connection.door? = some 0 := by
  have broken : brokenListener.1.connection.fault? brokenListener.2 = some (.os 103) := by decide +kernel
  have door : brokenListener.1.connection.door? = some 0 := by decide +kernel
  have stays := (broken_listener_stays_broken reachable_brokenListener broken).2.1 (fun _ => [])
  exact ⟨broken, fun count => (stays count).1.trans door⟩

/-- An attempt of a connection does not rebind a listener that has broken. -/
theorem broken_listener_is_not_rebound :
    ¬ ∀ {agent : Agent} {world : World}, Reachable agent world → (agent.connection.fault? world).isSome = true →
      let established := agent.connection.establish.result world
      (established.1.2.data = .connected ∨ established.1.2.data = .failed) ∧
        established.1.1.fault? established.2 = none := by
  intro rebound
  have broken : (brokenListener.1.connection.fault? brokenListener.2).isSome = true := by decide +kernel
  obtain ⟨outcome, _⟩ := rebound reachable_brokenListener broken
  have nothing : (brokenListener.1.connection.establish.result brokenListener.2).1.2.data = .alreadyConnected := by
    decide +kernel
  rw [nothing] at outcome
  rcases outcome with connected | failed
  · cases connected
  · cases failed

end InstrumentLink
