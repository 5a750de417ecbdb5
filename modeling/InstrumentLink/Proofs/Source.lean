import InstrumentLink.Proofs.Connection.Streams
import InstrumentLink.Proofs.InLine
import InstrumentLink.Proofs.Network.Ends

/-!
Nothing that the other end of a stream sends is lost, however often the agent looks whether it is still there, and the
stream is kept until all is read. Only when the other end has closed and the last byte is read the role is seen to be down,
or the peer to be gone; the next attempt or the next poll then closes the stream.
-/

namespace InstrumentLink

open Relation (ReflTransGen)

def Agent.read (asked : Role) (count : Nat) (agent : Agent) : Act Received := do
  match ← agent.connection.channel? asked with
  | none => return .nothing
  | some channel => channel.read count

theorem Listener.acceptPeer_nobody (listener : Listener) {world : World}
    (nobody : world.network.waiting listener.socket = 0) :
    ∃ answer, listener.acceptPeer.result world = ((listener, answer), world) := by
  obtain ⟨none, _⟩ := Network.accept_of_waiting nobody
  have answers : ((Act.accept listener.socket).result world).1 = (world.network.accept .agent listener.socket).1 := by
    rw [Act.result_accept]
  rw [acceptPeer, Act.result_bind, world_accept_nobody none, answers]
  rcases outcome : (world.network.accept .agent listener.socket).1 with error | _ | taker
  · exact ⟨_, rfl⟩
  · exact ⟨_, rfl⟩
  · exact absurd outcome (none taker)

namespace Connection

variable {connection : Connection} {world : World} {role : Role} {own : SocketId} {stream : Stream}

/-- The stream that is read through a role: the one that its client holds, or the peer of its listener. -/
def source? : Connection → Role → Option SocketId
  | rsn data _, .data => data.handle.bind Listener.peer
  | tcp data _, .data => data.handle
  | tcp _ command, .command => command.handle
  | _, _ => none

theorem source?_of_tcp (isTcp : connection.kind = .tcp) (role : Role) :
    connection.source? role = connection.dialled? role := by
  obtain ⟨data, command, rfl⟩ := eq_tcp_of_kind isTcp
  cases role <;> rfl

theorem source_cases (held : connection.source? role = some own) : connection.dialled? role = some own ∨
    role = .data ∧ ∃ target listener command, connection = rsn (.ofListener target listener) command ∧
      listener.peer = some own := by
  cases connection with
  | rsn data command =>
    cases role with
    | data =>
      obtain ⟨target, _ | listener⟩ := data
      · cases held
      · exact .inr ⟨rfl, target, listener, command, rfl, held⟩
    | command => cases held
  | tcp data command => exact .inl ((source?_of_tcp rfl role).symm.trans held)
  | udp data | serial data => cases held

theorem InOrder.stream_of_source (order : connection.InOrder world) (held : connection.source? role = some own) :
    ∃ stream, world.network.stream? own = some stream ∧ world.network.owner? own = some .agent := by
  rcases source_cases held with dialled | ⟨_, target, listener, command, rfl, had⟩
  · obtain ⟨place, endpoint, rfl, _, holds⟩ := exists_of_dialled dialled
    obtain ⟨request, _, isOwn⟩ := order.fits_fill.own? order.sound holds
    obtain ⟨stream, found⟩ := order.fits_fill.stream order.sound holds
    exact ⟨stream, found, Network.owner?_of_own? isOwn⟩
  · obtain ⟨purpose, own, remote, rfl⟩ := order.sound.own?_of_ledger ((order.listener_fits listener rfl).peer _ had)
    obtain ⟨stream, found, _⟩ := Network.own?_stream own
    exact ⟨stream, found, Network.owner?_of_own? own⟩

theorem InOrder.source?_ne (order : connection.InOrder world) (gone : world.network.socket? own = none) (role : Role) :
    connection.source? role ≠ some own := by
  intro held
  obtain ⟨stream, found, _⟩ := order.stream_of_source held
  rw [Network.stream?_eq_bind, gone] at found
  cases found

/-- A role that has dialled is up, and a listener shows its peer, until the stream is over. -/
theorem InOrder.seen_of_source (order : connection.InOrder world) (held : connection.source? role = some own)
    (found : world.network.stream? own = some stream) (established : stream.phase = .established) :
    (connection.kind = .tcp → ((connection.isConnected role).result world).1 = !stream.peek.isOver) ∧
      (connection.kind = .rsn → (connection.status.result world).1.peerAttached = some (!stream.peek.isOver)) := by
  rcases source_cases held with dialled | ⟨_, target, listener, command, rfl, had⟩
  · have isTcp := kind_of_dialled dialled
    refine ⟨fun _ => ?_, fun isRsn => by rw [isTcp] at isRsn; cases isRsn⟩
    rw [isConnected_result order.sound.network, live_of_dialled dialled, Network.isLive_stream found, Stream.isLive,
      Stream.peerAddress?_isSome, established]
    rfl
  · refine ⟨(fun isTcp => by cases isTcp), fun _ => ?_⟩
    rw [(status_result order).1]
    have shown : listener.attached world = !world.network.isOver own := by
      rw [Listener.attached, had]
      rfl
    exact congrArg some (shown.trans (by rw [Network.isOver_of_found found]))

end Connection

/-- Whether a move lets go of a stream that is over: a poll does, and for a client every attempt. -/
def Move.letsGo (kind : Kind) : Move → Bool
  | .establish => kind = .tcp
  | .poll => true
  | _ => false

namespace Agent

open Connection

variable {agent : Agent} {world : World} {role : Role} {own : SocketId} {stream : Stream} {move : Move}

theorem perform_read_eq (agent : Agent) (asked : Role) (count : Nat) (world : World) :
    (agent.perform (.read asked count)).result world = (agent, ((agent.read asked count).result world).2) := by
  rw [perform, read, Act.result_bind, Act.result_bind]
  generalize (agent.connection.channel? asked).result world = lent
  obtain ⟨_ | channel, later⟩ := lent <;> rfl

/-- Reading through a role takes what is asked for from the front of its stream, and touches no other. -/
theorem read_source (order : agent.connection.InOrder world) (held : agent.connection.source? role = some own)
    (found : world.network.stream? own = some stream) (established : stream.phase = .established) (count : Nat) :
    let taken := (agent.read role count).result world
    taken.1.bytes = stream.inbox.take count ∧
      taken.2.network.stream? own = some { stream with inbox := stream.inbox.drop count } ∧
      world.network.Around (some own) taken.2.network := by
  have sound := order.sound.network.streams found
  obtain ⟨bytes, rest⟩ := sound.receive_established established count
  have receives : (world.network.receive own count).1.bytes = stream.inbox.take count ∧
      (world.network.receive own count).2.stream? own = some { stream with inbox := stream.inbox.drop count } := by
    rw [Network.receive, found]
    refine ⟨bytes, ?_⟩
    rw [Network.stream?_mapStream, if_pos rfl, found, Option.map_some, rest]
  dsimp only
  rw [read, Act.result_bind, channel?_result order.sound.network]
  rcases source_cases held with dialled | ⟨rfl, target, listener, command, listens, had⟩
  · obtain ⟨place, endpoint, filled, carries, holds⟩ := exists_of_dialled dialled
    have carried : agent.connection.endpoint? role = some ⟨.client, endpoint⟩ := by
      rw [filled, Place.endpoint?_fill carries]
    rw [lent?, carried]
    dsimp only
    cases up : endpoint.live world with
    | true =>
      rw [if_pos rfl, holds]
      exact ⟨receives.1, receives.2, .receive own count world.network⟩
    | false =>
      -- A client is down only when there is nothing left to read.
      have finished : stream.peek.isOver = true := by
        have seen := (order.seen_of_source held found established).1 (kind_of_dialled dialled)
        rw [isConnected_result order.sound.network, live_of_endpoint? carried, up] at seen
        simpa using seen.symm
      rw [sound.isOver_of_established established, Bool.and_eq_true, List.isEmpty_iff] at finished
      rw [if_neg Bool.false_ne_true]
      refine ⟨by rw [finished.2, List.take_nil]; rfl, ?_, .refl _ _⟩
      rw [finished.2, List.drop_nil, ← finished.2]
      exact found
  · have up : (Endpoint.ofListener target listener).live world = true := by
      rw [listens] at order
      exact order.listener_fits.live_listener order.sound rfl
    have lends : agent.connection.lent? .data world = some (.listener listener) := by
      rw [listens]
      change (if (Endpoint.ofListener target listener).live world = true then _ else _) = _
      rw [if_pos up]
      rfl
    rw [lends]
    dsimp only
    rw [Channel.read, had]
    exact ⟨receives.1, receives.2, .receive own count world.network⟩

theorem read_beside (order : agent.connection.InOrder world) (outward : world.Outward)
    (held : agent.connection.source? role = some own) {asked : Role} (different : asked ≠ role) (count : Nat) :
    ((agent.read asked count).result world).2.network.stream? own = world.network.stream? own := by
  rcases source_cases held with dialled | ⟨rfl, target, listener, command, listens, had⟩
  · have beside := beside_read order outward dialled count (.inl different)
    rw [perform_read_eq] at beside
    exact beside.stream
  · cases asked with
    | data => exact absurd rfl different
    | command =>
      rw [read, Act.result_bind, channel?_result order.sound.network, listens]
      rfl

/-- A poll that finds a peer that talks and nobody who waits only looks. -/
theorem poll_calm {target : HostPort} {socket : SocketId} {command : Endpoint .listener} {lastStatus : Option Status}
    (order : (rsn (.ofListener target ⟨socket, some own⟩) command).InOrder world)
    (nobody : world.network.waiting socket = 0) (talks : world.network.isOver own = false) :
    ((poll ⟨rsn (.ofListener target ⟨socket, some own⟩) command, lastStatus⟩).result world).1.1.connection =
        rsn (.ofListener target ⟨socket, some own⟩) command ∧
      ((poll ⟨rsn (.ofListener target ⟨socket, some own⟩) command, lastStatus⟩).result world).2.network =
        (world.network.peek own).2 := by
  have released : (⟨socket, some own⟩ : Listener).releaseClosedPeer.result world =
      ((⟨socket, some own⟩, false), world) := by
    rw [Listener.releaseClosedPeer_result]
    dsimp only
    rw [talks, if_neg Bool.false_ne_true]
  obtain ⟨answer, accepted⟩ := Listener.acceptPeer_nobody ⟨socket, some own⟩ nobody
  obtain ⟨told, taken, _⟩ := takePeer_listener order
  rw [released] at taken
  dsimp only at taken
  rw [accepted] at taken
  have looked := (order.of_kept (.tell order.sound told)).world_status
  have silent : pendingLines ⟨.alreadyConnected, .unsupported⟩ = [] := rfl
  rw [poll_eq, establish_listening order]
  dsimp only
  rw [silent, World.tell_nil, taken]
  exact ⟨rfl, congrArg World.network looked⟩

/-- A listener whose peer has not hung up, or that is not polled, keeps the peer, and the network stays as it is. -/
theorem perform_listening {target : HostPort} {listener : Listener} {command : Endpoint .listener}
    (order : agent.connection.InOrder world) (listens : agent.connection = rsn (.ofListener target listener) command)
    (had : listener.peer = some own) (found : world.network.stream? own = some stream)
    (established : stream.phase = .established) (spares : move.Spares .data agent.connection)
    (calm : move = .poll → world.network.waiting listener.socket = 0 ∧ stream.peek.isOver = false) :
    ((agent.perform move).result world).1.connection.source? .data = some own ∧
      ((agent.perform move).result world).2.network = world.network := by
  obtain ⟨connection, lastStatus⟩ := agent
  obtain ⟨socket, _⟩ := listener
  dsimp only at listens had order spares
  subst listens had
  have still : (world.network.peek own).2 = world.network := order.sound.network.peek_established found established
  have changed : ∀ {change : Change}, ((rsn (.ofListener target ⟨socket, some own⟩) command).settings.value? change.field =
      some change ∨ change.appliesTo .rsn = false) →
      ((perform (.change change) ⟨rsn (.ofListener target ⟨socket, some own⟩) command, lastStatus⟩).result
          world).1.connection.source? .data = some own ∧
        ((perform (.change change) ⟨rsn (.ofListener target ⟨socket, some own⟩) command, lastStatus⟩).result
          world).2.network = world.network := by
    intro change idle
    obtain ⟨told, result⟩ := apply_idle order.sound.network idle
    rw [perform, Act.result_bind, result]
    exact ⟨rfl, rfl⟩
  cases spares with
  | establish =>
    rw [perform, Act.result_bind, establish_listening order]
    exact ⟨rfl, rfl⟩
  | poll =>
    obtain ⟨nobody, talking⟩ := calm rfl
    obtain ⟨same, looked⟩ := poll_calm order nobody ((Network.isOver_of_found found).trans talking)
    rw [perform, Act.result_bind]
    exact ⟨congrArg (fun connection => connection.source? .data) same, looked.trans still⟩
  | askStatus => exact ⟨rfl, (congrArg World.network order.world_status).trans still⟩
  | askConnected role =>
    rw [perform, Act.result_bind, isConnected_result order.sound.network]
    exact ⟨rfl, rfl⟩
  | lend role =>
    rw [perform, Act.result_bind, channel?_result order.sound.network]
    exact ⟨rfl, rfl⟩
  | askPeer => exact ⟨rfl, still⟩
  | shown shown => exact changed (.inl shown)
  | foreign foreign => exact changed (.inr foreign)
  | @beside change different =>
    cases taken : (rsn (.ofListener target ⟨socket, some own⟩) command).taken change with
    | ignored foreign _ => exact changed (.inr foreign)
    | @stored transport place endpoint goal filled applies addressed written result =>
      -- Of the two places the change can only be at the other one, and there is nothing there.
      cases place with
      | rsnData _ => exact absurd (addressed .data rfl) different
      | rsnCommand data =>
        cases filled
        rw [perform, Act.result_bind, result, Endpoint.change_of_handle_eq_none (order.stored rfl)]
        exact ⟨rfl, rfl⟩
      | tcpData _ | tcpCommand _ | udpData | serialData => cases filled
  | @disconnect other different =>
    cases other with
    | data => exact absurd rfl different
    | command => exact ⟨rfl, rfl⟩

end Agent

namespace Connection

variable {connection : Connection} {world : World} {role : Role} {own : SocketId} {stream : Stream}

theorem establishRole_drops (order : connection.InOrder world) (held : connection.dialled? role = some own)
    (lost : ¬connection.Steady role world) :
    ((connection.establishRole role).result world).2.network.socket? own = none := by
  rcases connection.establishRole_result role with ⟨transport, place, endpoint, rfl, carries, result⟩ | ⟨absent, _⟩
  · have behind := Place.endpoint?_fill carries endpoint
    have holds : endpoint.dialled? = some own := by
      rw [dialled?, behind] at held
      exact held
    cases transport with
    | listener | udp | serial => cases holds
    | client =>
      have fits := order.fits_fill
      obtain ⟨stream, found⟩ := fits.stream order.sound holds
      have brought := bringUp_spec order.sound fits role
      rw [result]
      generalize (bringUp role endpoint).result world = outcome at brought ⊢
      cases brought with
      | unconfigured unset =>
        rw [fits.isConfigured holds] at unset
        cases unset
      | alreadyConnected set up => exact absurd (.inl ((live_of_endpoint? behind world).trans up)) lost
      | underWay set down connecting =>
        refine absurd (.inr ?_) lost
        rw [Connection.underWay, behind]
        exact connecting
      | @attempted set down settled told quiet after answer later reopened =>
        have closed : (endpoint.afterRelease (world.tell told)).network = world.network.part (some .sending) own :=
          Endpoint.network_afterRelease_client holds _
        have gone := Network.gone_part found (order.sound.network.streams found).unshut (some .sending)
        have old : own < (world.network.part (some .sending) own).sockets.next := by
          rw [gone.next]
          exact Network.lt_next_of_stream? found
        have onward := (World.lasting_onward _).raise endpoint.released (endpoint.afterRelease (world.tell told)) (.refl _)
        rw [← Endpoint.reopen_result, reopened, closed] at onward
        exact onward.gone old gone.socket?_eq_none
  · rw [dialled?, absent] at held
    cases held

theorem establish_drops (order : connection.InOrder world) (outward : world.Outward)
    (held : connection.dialled? role = some own) (lost : ¬connection.Steady role world) :
    (connection.establish.result world).2.network.socket? own = none := by
  obtain ⟨stream, found⟩ := stream_of_dialled order held
  have old := Network.lt_next_of_stream? found
  rw [establish_result]
  dsimp only
  cases role with
  | data =>
    have first := (World.lasting_onward world.network).establishRole connection .data world (.refl _)
    have second := (World.lasting_onward _).establishRole ((connection.establishRole .data).result world).1.1 .command
      ((connection.establishRole .data).result world).2 (.refl _)
    exact second.gone (Nat.lt_of_lt_of_le old first.next) (establishRole_drops order held lost)
  | command =>
    have beside := Beside.establishRole order outward held .data (fun same => by cases same)
    refine establishRole_drops (order.establishRole .data) (dialled?_of_asides beside.asides held) fun steady => lost ?_
    exact steady.imp (beside.live_eq held order).symm.trans (beside.underWay_eq held).symm.trans

end Connection

namespace Agent

open Connection

variable {agent : Agent} {world : World} {role : Role} {own : SocketId} {stream : Stream} {move : Move}

theorem poll_drops {target : HostPort} {listener : Listener} {command : Endpoint .listener}
    (order : agent.connection.InOrder world) (listens : agent.connection = rsn (.ofListener target listener) command)
    (had : listener.peer = some own) (found : world.network.stream? own = some stream)
    (finished : stream.peek.isOver = true) : (agent.poll.result world).2.network.socket? own = none := by
  obtain ⟨connection, lastStatus⟩ := agent
  obtain ⟨socket, _⟩ := listener
  dsimp only at listens had order
  subst listens had
  have isOver : world.network.isOver own = true := (Network.isOver_of_found found).trans finished
  have gone := Network.gone_part found (order.sound.network.streams found).unshut (some .both)
  have old : own < (world.network.part (some .both) own).sockets.next := by
    rw [gone.next]
    exact Network.lt_next_of_stream? found
  obtain ⟨later, released, closed⟩ : ∃ later, (⟨socket, some own⟩ : Listener).releaseClosedPeer.result world =
      ((⟨socket, none⟩, true), later) ∧ later.network = world.network.part (some .both) own := by
    rw [Listener.releaseClosedPeer_result]
    dsimp only
    rw [isOver, if_pos rfl]
    exact ⟨_, rfl, rfl⟩
  obtain ⟨told, taken, _⟩ := takePeer_listener order
  rw [released] at taken
  -- The peer is closed, and whatever comes after that leaves it so.
  have accepted := (World.lasting_onward later.network).acceptPeer ⟨socket, none⟩ later (.refl _)
  dsimp only at taken
  generalize (Listener.acceptPeer ⟨socket, none⟩).result later = outcome at taken accepted
  have asked := (World.lasting_onward later.network).status (rsn (.ofListener target outcome.1.1) command)
    (outcome.2.tell told) accepted
  have silent : pendingLines ⟨.alreadyConnected, .unsupported⟩ = [] := rfl
  rw [poll_eq, establish_listening order]
  dsimp only
  rw [silent, World.tell_nil, taken]
  rw [closed] at asked
  exact asked.gone old gone.socket?_eq_none

/-- As long as a stream is not over, no move that spares its role lets go of it, and one that would not let go of it leaves
it in any case. -/
theorem perform_in_touch (order : agent.connection.InOrder world) (outward : world.Outward)
    (held : agent.connection.source? role = some own) (found : world.network.stream? own = some stream)
    (established : stream.phase = .established) (spares : move.Spares role agent.connection)
    (alone : move = .poll → agent.connection.waiting world = 0)
    (talking : move.letsGo agent.connection.kind = true → stream.peek.isOver = false) :
    ((agent.perform move).result world).1.connection.source? role = some own ∧
      ((agent.perform move).result world).2.network.stream? own = world.network.stream? own := by
  rcases source_cases held with dialled | ⟨rfl, target, listener, command, listens, had⟩
  · have isTcp := kind_of_dialled dialled
    have beside := beside_perform order outward dialled spares fun attempt => by
      left
      have letsGo : move.letsGo agent.connection.kind = true := by
        rw [isTcp]
        rcases attempt with rfl | rfl <;> rfl
      rw [live_of_dialled dialled, Network.isLive_stream found, Stream.isLive, Stream.peerAddress?_isSome, established,
        talking letsGo]
      rfl
    refine ⟨?_, beside.stream⟩
    rw [source?_of_tcp ((kind_of_asides beside.asides).trans isTcp)]
    exact dialled?_of_asides beside.asides dialled
  · obtain ⟨kept, same⟩ := perform_listening order listens had found established spares fun isPoll => by
      subst isPoll
      refine ⟨?_, talking rfl⟩
      have nobody := alone rfl
      rw [listens] at nobody
      exact nobody
    exact ⟨kept, by rw [same]⟩

theorem perform_drops (order : agent.connection.InOrder world) (outward : world.Outward)
    (held : agent.connection.source? role = some own) (found : world.network.stream? own = some stream)
    (established : stream.phase = .established) (finished : stream.peek.isOver = true)
    (letsGo : move.letsGo agent.connection.kind = true) :
    ((agent.perform move).result world).2.network.socket? own = none := by
  rcases source_cases held with dialled | ⟨rfl, target, listener, command, listens, had⟩
  · have isTcp := kind_of_dialled dialled
    have lost : ¬agent.connection.Steady role world := by
      rintro (up | connecting)
      · rw [live_of_dialled dialled, Network.isLive_stream found, Stream.isLive, finished, Bool.not_true,
          Bool.and_false] at up
        cases up
      · rw [underWay_of_dialled dialled, Network.isConnecting, found, Option.any_some, established] at connecting
        cases connecting
    have dropped := establish_drops order outward dialled lost
    cases move with
    | establish => exact dropped
    | poll =>
      obtain ⟨told, _, result⟩ := poll_of_deaf order (by rw [isTcp]; decide)
      change (agent.poll.result world).2.network.socket? own = none
      rw [result]
      exact dropped
    | _ => cases letsGo
  · cases move with
    | poll => exact poll_drops order listens had found finished
    | establish =>
      rw [listens] at letsGo
      cases letsGo
    | _ => cases letsGo

end Agent
end InstrumentLink
