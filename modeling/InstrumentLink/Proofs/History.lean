import InstrumentLink.Proofs.Connection.BringUp
import InstrumentLink.Options.Basic

/-!
Histories of an agent: it is made from settings in a world that it has not touched, and then anything is done with it
and anything happens around it, in any order. `inOrder_of_reachable` says that its books are in order all along.
-/

namespace InstrumentLink

namespace Channel

/-- A read from what is lent out; of a listener, from its peer. Datagrams are not read. -/
def read (count : Nat) : Channel → Act Received
  | listener held =>
    match held.peer with
    | some peer => Act.receive peer count
    | none => return .nothing
  | stream id => Act.receive id count
  | udp _ => return .nothing
  | serial id => Act.lineReceive id count

def write (bytes : List UInt8) : Channel → Act Bool
  | listener held =>
    match held.peer with
    | some peer => Act.send peer bytes
    | none => return false
  | stream id => Act.send id bytes
  | udp _ => return false
  | serial id => Act.lineSend id bytes

end Channel

inductive Move where
  | change (change : Change)
  /-- The changes that a command line asks for. -/
  | override (options : Options)
  | establish
  | poll
  | disconnect (role : Role)
  | askStatus
  | askConnected (role : Role)
  | lend (role : Role)
  /-- Somebody reads from what a role lends out. -/
  | read (role : Role) (count : Nat)
  | write (role : Role) (bytes : List UInt8)
  | askPeer
  | acceptPeer
  | releasePeer
  | dropPeer
  /-- Something happens outside. -/
  | event (event : Event)

namespace Agent

def onListener (act : Listener → Act Listener) (agent : Agent) : Act Agent :=
  match agent.connection.listener? with
  | none => return agent
  | some listener => do
    let listener ← act listener
    return { agent with connection := agent.connection.withListener listener }

def perform (move : Move) (agent : Agent) : Act Agent :=
  match move with
  | .change change => do return { agent with connection := ← agent.connection.apply change }
  | .override options => do return { agent with connection := ← agent.connection.applyAll options.changes }
  | .establish => do
    let (connection, _) ← agent.connection.establish
    return { agent with connection }
  | .poll => do
    let (agent, _) ← agent.poll
    return agent
  | .disconnect role => do return { agent with connection := ← agent.connection.disconnect role }
  | .askStatus => do
    let _ ← agent.connection.status
    return agent
  | .askConnected role => do
    let _ ← agent.connection.isConnected role
    return agent
  | .lend role => do
    let _ ← agent.connection.channel? role
    return agent
  | .read role count => do
    match ← agent.connection.channel? role with
    | none => return agent
    | some channel =>
      let _ ← channel.read count
      return agent
  | .write role bytes => do
    match ← agent.connection.channel? role with
    | none => return agent
    | some channel =>
      let _ ← channel.write bytes
      return agent
  | .askPeer => agent.onListener fun listener => do
    let _ ← listener.livePeer?
    return listener
  | .acceptPeer => agent.onListener fun listener => do
    let (listener, _) ← listener.acceptPeer
    return listener
  | .releasePeer => agent.onListener fun listener => do
    let (listener, _) ← listener.releaseClosedPeer
    return listener
  | .dropPeer => agent.onListener Listener.dropPeer
  | .event event => do
    modify (·.after event)
    return agent

def performAll (moves : List Move) (agent : Agent) : Act Agent :=
  moves.foldlM (fun agent move => agent.perform move) agent

end Agent

/-- An agent and the world it is in, as they can be after some history. -/
inductive Reachable : Agent → World → Prop where
  | start {world : World} (untouched : world.Untouched) (settings : ConnectionSettings) :
    Reachable (.ofConnection (.ofSettings settings)) world
  | step {agent : Agent} {world : World} (reached : Reachable agent world) (move : Move) :
    Reachable ((agent.perform move).result world).1 ((agent.perform move).result world).2

theorem Reachable.performAll {agent : Agent} {world : World} (reached : Reachable agent world) (moves : List Move) :
    Reachable ((agent.performAll moves).result world).1 ((agent.performAll moves).result world).2 := by
  induction moves generalizing agent world with
  | nil => exact reached
  | cons move rest ih => exact ih (reached.step move)

theorem Act.receive_kept {world : World} (sound : world.Sound) (id : SocketId) (count : Nat) :
    world.Kept ((Act.receive id count).result world).2 := by
  rw [Act.result_receive]
  exact .withNetwork sound (sound.network.receive id count) (world.network.own?_receive id count)
    (world.network.routes_receive id count)

theorem Act.send_kept {world : World} (sound : world.Sound) (id : SocketId) (bytes : List UInt8) :
    world.Kept ((Act.send id bytes).result world).2 := by
  rw [Act.result_send]
  exact .withNetwork sound (sound.network.send id bytes) (world.network.own?_send id bytes)
    (world.network.routes_send id bytes)

theorem Channel.read_kept {world : World} (sound : world.Sound) (count : Nat) (channel : Channel) :
    world.Kept ((channel.read count).result world).2 := by
  cases channel with
  | listener held =>
    unfold read
    dsimp only
    cases held.peer with
    | none => exact .refl sound
    | some peer => exact Act.receive_kept sound peer count
  | stream id => exact Act.receive_kept sound id count
  | udp id => exact .refl sound
  | serial id =>
    exact .withDevices sound (sound.devices.receive id count) (world.devices.line?_receive id count)

theorem Channel.write_kept {world : World} (sound : world.Sound) (bytes : List UInt8) (channel : Channel) :
    world.Kept ((channel.write bytes).result world).2 := by
  cases channel with
  | listener held =>
    unfold write
    dsimp only
    cases held.peer with
    | none => exact .refl sound
    | some peer => exact Act.send_kept sound peer bytes
  | stream id => exact Act.send_kept sound id bytes
  | udp id => exact .refl sound
  | serial id =>
    exact .withDevices sound (sound.devices.send id bytes) (world.devices.line?_send id bytes)

theorem World.kept_after {world : World} (sound : world.Sound) (event : Event) : world.Kept (world.after event) :=
  ⟨sound.event event, Network.routes_event event world.network, rfl⟩

namespace Agent

variable {agent : Agent} {world : World}

theorem inOrder_onListener (order : agent.connection.InOrder world) (act : Listener → Act Listener)
    (handover : ∀ {listener : Listener}, listener.Holds world →
      Listener.PeerHandover listener ((act listener).result world).1 world ((act listener).result world).2) :
    ((agent.onListener act).result world).1.connection.InOrder ((agent.onListener act).result world).2 := by
  unfold onListener
  cases held : agent.connection.listener? with
  | none => exact order
  | some listener =>
    obtain ⟨connection, status⟩ := agent
    cases connection with
    | rsn data command =>
      obtain ⟨target, _⟩ := data
      cases held
      have holds : listener.Holds world := Endpoint.holds_of_fits (Connection.InOrder.listener_fits order)
      exact Connection.InOrder.peer order (handover holds)
    | tcp data command => cases held
    | udp data => cases held
    | serial data => cases held

theorem inOrder_perform (order : agent.connection.InOrder world) (move : Move) :
    ((agent.perform move).result world).1.connection.InOrder ((agent.perform move).result world).2 := by
  cases move with
  | change change => exact order.apply change
  | override options => exact order.applyAll options.changes
  | establish => exact order.establish
  | poll => exact poll_inOrder order
  | disconnect role => exact order.disconnect role
  | askStatus => exact order.of_kept order.status_kept
  | askConnected role =>
    have asked : ((agent.perform (.askConnected role)).result world) =
        (agent, ((agent.connection.isConnected role).result world).2) := rfl
    rw [asked, Connection.isConnected_result order.sound.network]
    exact order
  | lend role =>
    have asked : ((agent.perform (.lend role)).result world) =
        (agent, ((agent.connection.channel? role).result world).2) := rfl
    rw [asked, Connection.channel?_result order.sound.network]
    exact order
  | read role count =>
    simp only [perform, Act.result_bind, Connection.channel?_result order.sound.network]
    cases agent.connection.lent? role world with
    | none => exact order
    | some channel => exact order.of_kept (channel.read_kept order.sound count)
  | write role bytes =>
    simp only [perform, Act.result_bind, Connection.channel?_result order.sound.network]
    cases agent.connection.lent? role world with
    | none => exact order
    | some channel => exact order.of_kept (channel.write_kept order.sound bytes)
  | askPeer =>
    exact inOrder_onListener order _ fun _ => .of_kept (Listener.livePeer?_kept order.sound _) _
  | acceptPeer =>
    exact inOrder_onListener order _ fun holds => Listener.acceptPeer_handover order.sound holds
  | releasePeer =>
    exact inOrder_onListener order _ fun holds => Listener.releaseClosedPeer_handover order.sound holds
  | dropPeer => exact inOrder_onListener order _ fun holds => Listener.dropPeer_handover order.sound holds
  | event event => exact order.of_kept (World.kept_after order.sound event)

end Agent

theorem inOrder_of_reachable {agent : Agent} {world : World} (reached : Reachable agent world) :
    agent.connection.InOrder world := by
  induction reached with
  | start untouched settings => exact .start untouched settings
  | step _ move order => exact Agent.inOrder_perform order move

end InstrumentLink
