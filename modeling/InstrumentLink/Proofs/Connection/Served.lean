import InstrumentLink.Proofs.Connection.Settled
import InstrumentLink.Proofs.Endpoint.Attached
import InstrumentLink.Proofs.Status
import InstrumentLink.Proofs.Undisturbed

/-!
A poll serves one of those who wait at the listener of a connection. Where both roles are settled and nobody waits, it
finds the status that it has left before.
-/

namespace InstrumentLink
namespace Connection

variable {connection : Connection} {world : World} {role : Role}

def attached? (connection : Connection) (world : World) : Option Bool :=
  match connection with
  | rsn data _ => some (data.handle.any fun held => Listener.attached held world)
  | _ => none

def waiting (connection : Connection) (world : World) : Nat :=
  match connection.listener? with
  | some listener => world.network.waiting listener.socket
  | none => 0

def statusIn (connection : Connection) (world : World) : Status where
  data := ⟨connection.kind.supports .data, connection.isConfigured .data, connection.live .data world⟩
  command := ⟨connection.kind.supports .command, connection.isConfigured .command, connection.live .command world⟩
  peerAttached := connection.attached? world

@[simp] theorem statusIn_tell (connection : Connection) (entries : List LogEntry) (world : World) :
    connection.statusIn (world.tell entries) = connection.statusIn world := by
  rw [statusIn, statusIn, live_tell, live_tell]
  rfl

/-- A step of a connection that serves so many of those who wait. Where nobody waits, nobody is taken, and the peer that is
seen stays. -/
structure Served (count : Nat) (before after : Connection) (world later : World) : Prop where
  waiting : after.waiting later = before.waiting world - count
  attached : before.waiting world = 0 → after.attached? later = before.attached? world
  taken : before.waiting world = 0 → later.peersTaken = world.peersTaken

namespace Served

theorem refl (connection : Connection) (world : World) : Served 0 connection connection world world :=
  ⟨rfl, fun _ => rfl, fun _ => rfl⟩

theorem trans {first second : Nat} {before middle after : Connection} {world between later : World}
    (one : Served first before middle world between) (two : Served second middle after between later) :
    Served (first + second) before after world later := by
  have nobody : before.waiting world = 0 → middle.waiting between = 0 := by
    intro none
    rw [one.waiting, none, Nat.zero_sub]
  refine ⟨?_, fun none => ?_, fun none => ?_⟩
  · rw [two.waiting, one.waiting, Nat.sub_sub]
  · exact (two.attached (nobody none)).trans (one.attached none)
  · exact (two.taken (nobody none)).trans (one.taken none)

theorem tell (connection : Connection) (world : World) (entries : List LogEntry) :
    Served 0 connection connection world (world.tell entries) := by
  cases connection <;> exact ⟨rfl, fun _ => rfl, fun _ => rfl⟩

theorem of_deaf {count : Nat} {before after : Connection} {world later : World} (deaf : before.listener? = none)
    (deafAfter : after.listener? = none) (attached : after.attached? later = before.attached? world)
    (taken : later.peersTaken = world.peersTaken) : Served count before after world later := by
  refine ⟨?_, fun _ => attached, fun _ => taken⟩
  rw [Connection.waiting, Connection.waiting, deaf, deafAfter, Nat.zero_sub]

theorem of_turn {target : HostPort} {before after : Listener} {command : Endpoint .listener} {world later : World}
    (turn : Listener.Turn before after world later) :
    Served 1 (rsn (.ofListener target before) command) (rsn (.ofListener target after) command) world later :=
  ⟨turn.waiting, fun none => congrArg some (turn.attached none), turn.taken⟩

end Served

theorem peersTaken_of_handover {transport : Transport} {before after : Endpoint transport} {world later : World}
    (handover : Endpoint.Handover before after world later) : later.peersTaken = world.peersTaken := by
  obtain ⟨deeds, exchange, noted⟩ := handover.exchange
  have closing : ∀ deed ∈ before.closings, deed.isAccept = false := by
    intro deed member
    obtain ⟨parting, _, noted⟩ := List.mem_flatMap.mp member
    rcases Parting.deed_cases noted with ⟨_, _, rfl, _⟩ | ⟨_, rfl, _⟩ | ⟨_, rfl, _⟩ <;> rfl
  refine World.peersTaken_of_journal noted fun deed member => ?_
  cases exchange with
  | keep same => cases member
  | release down => exact closing deed member
  | replace request made asked configured held new =>
    rcases List.mem_append.mp member with old | asking
    · exact closing deed old
    · rw [List.mem_singleton.mp asking]
      cases request <;> rfl

theorem waiting_listen {network : Network} {address : SocketAddress} {backlog id : Nat}
    (made : (network.listen .agent address backlog true).1 = .ok id) :
    (network.listen .agent address backlog true).2.waiting id = 0 := by
  rw [network.listen_eq] at made ⊢
  revert made
  split
  · intro made
    cases made
  · split
    · intro made
      cases made
    · intro made
      cases made
      rw [Network.waiting, Network.listening?_add, if_pos rfl]
      rfl

theorem served_bringUp_listener {target : HostPort} {command : Endpoint .listener} (sound : world.Sound) (role : Role) :
    let brought := (bringUp role (⟨target, none⟩ : Endpoint .listener)).result world
    Served 0 (rsn ⟨target, none⟩ command) (rsn brought.1.1 command) world brought.2 := by
  have fits : (⟨target, none⟩ : Endpoint .listener).Fits world := Endpoint.fits_of_handle_eq_none rfl world
  have taken := peersTaken_of_handover (bringUp_handover sound fits role)
  have brought := bringUp_spec sound fits role
  generalize (bringUp role (⟨target, none⟩ : Endpoint .listener)).result world = outcome at brought taken ⊢
  cases brought with
  | unconfigured unset => exact .of_deaf rfl rfl rfl taken
  | alreadyConnected set up => cases up
  | underWay set down connecting => cases connecting
  | @attempted set down settled told quiet after answer later reopened =>
    have raised := Endpoint.raise_result (⟨target, none⟩ : Endpoint .listener) (world.tell told)
    rw [Endpoint.reopen_result, Endpoint.afterRelease_of_handle_eq_none rfl,
      show Endpoint.released (⟨target, none⟩ : Endpoint .listener) = ⟨target, none⟩ from rfl, raised] at reopened
    cases asked : Transport.listener.request? (world.tell told).network.routes.names target with
    | error failure =>
      rw [asked] at reopened
      cases reopened
      exact .of_deaf rfl rfl rfl taken
    | ok request =>
      obtain ⟨address, _, rfl⟩ := map_eq_ok asked
      rw [asked] at reopened
      dsimp only at reopened
      cases made : ((Request.listen address).act.result (world.tell told)).1 with
      | error error =>
        rw [made] at reopened
        cases reopened
        exact .of_deaf rfl rfl rfl taken
      | ok id =>
        rw [made] at reopened
        cases reopened
        exact ⟨waiting_listen made, fun _ => rfl, fun _ => taken⟩

theorem served_establishRole (order : connection.InOrder world) (role : Role) :
    Served 0 connection ((connection.establishRole role).result world).1.1 world
      ((connection.establishRole role).result world).2 := by
  rcases connection.establishRole_result role with ⟨transport, place, endpoint, rfl, carries, result⟩ | ⟨_, result⟩
  · have taken := peersTaken_of_handover (bringUp_handover order.sound order.fits_fill role)
    rw [result]
    cases place with
    | rsnData command =>
      obtain ⟨target, _ | listener⟩ := endpoint
      · exact served_bringUp_listener order.sound role
      · have up := order.fits_fill.live_listener order.sound rfl
        rw [bringUp_of_live order.sound order.fits_fill up]
        exact .refl _ world
    | rsnCommand data => cases carries
    | tcpData command => exact .of_deaf rfl rfl rfl taken
    | tcpCommand data => exact .of_deaf rfl rfl rfl taken
    | udpData => exact .of_deaf rfl rfl rfl taken
    | serialData => exact .of_deaf rfl rfl rfl taken
  · rw [result]
    exact .refl _ world

theorem served_establish (order : connection.InOrder world) :
    Served 0 connection (connection.establish.result world).1.1 world (connection.establish.result world).2 :=
  (served_establishRole order .data).trans (served_establishRole (order.establishRole .data) .command)

/-- What a listener does with its peers is one turn of it, with some talk where nobody can be taken. -/
theorem takePeer_listener {target : HostPort} {listener : Listener} {command : Endpoint .listener}
    (order : (rsn (.ofListener target listener) command).InOrder world) :
    let released := listener.releaseClosedPeer.result world
    let accepted := released.1.1.acceptPeer.result released.2
    ∃ told, (Agent.takePeer (rsn (.ofListener target listener) command)).result world =
        (rsn (.ofListener target accepted.1.1) command, accepted.2.tell told) ∧
      ∀ taken, accepted.1.2 = .ok taken → told = [] := by
  have up := order.listener_fits.live_listener order.sound rfl
  have lent : (rsn (.ofListener target listener) command).lent? .data world = some (.listener listener) := by
    change (if (Endpoint.ofListener target listener).live world = true then _ else _) = _
    rw [if_pos up]
    rfl
  rw [Agent.takePeer, Act.result_bind, channel?_result order.sound.network, lent]
  simp only [Act.result_bind, Option.bind_some, Channel.listener?]
  cases ((listener.releaseClosedPeer.result world).1.1.acceptPeer.result (listener.releaseClosedPeer.result world).2).1.2 with
  | ok taken => exact ⟨[], by rw [World.tell_nil]; rfl, fun _ _ => rfl⟩
  | error error => exact ⟨_, rfl, by simp⟩

theorem took_of_order {target : HostPort} {listener : Listener} {command : Endpoint .listener}
    (order : (rsn (.ofListener target listener) command).InOrder world) : listener.Took world :=
  fun peer had => ⟨_, (order.listener_fits listener rfl).peer peer had⟩

theorem served_takePeer_listener {target : HostPort} {listener : Listener} {command : Endpoint .listener}
    (order : (rsn (.ofListener target listener) command).InOrder world) :
    let taken := (Agent.takePeer (rsn (.ofListener target listener) command)).result world
    Served 1 (rsn (.ofListener target listener) command) taken.1 world taken.2 := by
  obtain ⟨told, result, _⟩ := takePeer_listener order
  obtain ⟨socket, listening, attached, taken⟩ := Listener.releaseClosedPeer_frame order.sound (took_of_order order)
  have handover := Listener.releaseClosedPeer_handover order.sound (Endpoint.holds_of_fits order.listener_fits)
  have orderReleased := order.peer handover
  rw [result]
  generalize listener.releaseClosedPeer.result world = released at *
  obtain ⟨⟨middle, gone⟩, between⟩ := released
  have turn := Listener.acceptPeer_turn orderReleased.sound (took_of_order orderReleased)
  have waiting : between.network.waiting middle.socket = world.network.waiting listener.socket := by
    rw [show middle.socket = listener.socket from socket]
    exact Network.waiting_of_listening? (listening listener.socket)
  have released : Served 0 (rsn (.ofListener target listener) command) (rsn (.ofListener target middle) command)
      world between := ⟨waiting, fun _ => congrArg some attached, fun _ => taken⟩
  exact (released.trans (.of_turn turn)).trans (.tell _ _ told)

theorem served_takePeer (order : connection.InOrder world) :
    Served 1 connection ((Agent.takePeer connection).result world).1 world
      ((Agent.takePeer connection).result world).2 := by
  cases connection with
  | rsn data command =>
    obtain ⟨target, _ | listener⟩ := data
    · have deaf : (Agent.takePeer (rsn ⟨target, none⟩ command)).result world = (rsn ⟨target, none⟩ command, world) := by
        rw [Agent.takePeer, Act.result_bind, channel?_result order.sound.network]
        rfl
      rw [deaf]
      exact .of_deaf rfl rfl rfl rfl
    · exact served_takePeer_listener order
  | tcp data command | udp data | serial data =>
    have took := takePeer_spec order
    generalize (Agent.takePeer _).result world = outcome at took ⊢
    cases took with
    | deaf => exact .of_deaf rfl rfl rfl rfl
    | listening is => cases is

theorem peerAttached_result (order : connection.InOrder world) :
    (connection.peerAttached.result world).1 = connection.attached? world ∧
      connection.attached? (connection.peerAttached.result world).2 = connection.attached? world ∧
      Served 0 connection connection world (connection.peerAttached.result world).2 := by
  cases connection with
  | rsn data command =>
    obtain ⟨target, _ | listener⟩ := data
    · exact ⟨rfl, rfl, .refl _ world⟩
    · obtain ⟨seen, looked⟩ := Listener.hasLivePeer_looked order.sound listener
      have still := congrArg some (looked.attached listener)
      refine ⟨congrArg some seen, still, ?_, fun _ => still, fun _ => ?_⟩
      · exact Network.waiting_of_listening? (looked.listening listener.socket)
      · exact congrArg (List.filter Deed.isAccept) looked.journal
  | tcp data command | udp data | serial data => exact ⟨rfl, rfl, .refl _ world⟩

theorem status_result (order : connection.InOrder world) :
    (connection.status.result world).1 = connection.statusIn world ∧
      connection.statusIn (connection.status.result world).2 = connection.statusIn world ∧
      Served 0 connection connection world (connection.status.result world).2 := by
  obtain ⟨seen, still, served⟩ := peerAttached_result order
  have shown : connection.status.result world =
      (⟨⟨connection.kind.supports .data, connection.isConfigured .data, connection.live .data world⟩,
        ⟨connection.kind.supports .command, connection.isConfigured .command, connection.live .command world⟩,
        (connection.peerAttached.result world).1⟩, (connection.peerAttached.result world).2) := by
    have kept := order.peerAttached_kept
    rw [status, Act.result_bind, Act.result_bind, isConnected_result kept.sound.network, Act.result_bind,
      isConnected_result kept.sound.network, live_peerAttached order, live_peerAttached order]
    rfl
  rw [shown]
  refine ⟨by rw [seen]; rfl, ?_, served⟩
  rw [statusIn, statusIn, live_peerAttached order, live_peerAttached order, still]

end Connection

namespace Agent

open Connection

variable {agent : Agent} {world : World}

/-- What a poll comes to: the status that it returns is that of the connection then, both roles are settled, and one of those
who wait is served. -/
structure Polled (before : Connection) (world : World) (after : Connection) (later : World) (status : Status) : Prop where
  status : status = after.statusIn later
  settled : ∀ role, after.Settled role later
  served : Served 1 before after world later
  live : (∀ role, before.Settled role world) → ∀ role, after.live role later = before.live role world

theorem poll_polled (order : agent.connection.InOrder world) :
    Polled agent.connection world (agent.poll.result world).1.1.connection (agent.poll.result world).2
      (agent.poll.result world).1.2 := by
  obtain ⟨told, more, result⟩ := agent.poll_result world
  have spoken := order.establish.of_kept (.tell order.establish.sound told)
  have taken := spoken.takePeer
  obtain ⟨status, still, served⟩ := status_result taken
  have asked := taken.world_status
  rw [result]
  constructor
  · rw [statusIn_tell, still]
    exact status
  · intro role
    have settled := settled_takePeer spoken ((settled_establish order role).tell told)
    refine Settled.tell ?_ more
    dsimp only
    rw [asked]
    exact settled_peerAttached taken settled
  · exact (((served_establish order).trans (.tell _ _ told)).trans (served_takePeer spoken)).trans
      (served.trans (.tell _ _ more))
  · intro settled role
    dsimp only
    rw [live_tell, asked, live_peerAttached taken, live_takePeer spoken, live_tell]
    exact live_establish_of_settled order settled role

end Agent
end InstrumentLink
