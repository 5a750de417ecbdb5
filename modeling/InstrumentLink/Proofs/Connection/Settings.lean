import InstrumentLink.Proofs.History
import InstrumentLink.Proofs.Report

/-!
What a connection shows of its settings. Only changes write them: nothing else that is done with an agent, nor anything
that happens to its sockets and devices, has a say in them.
-/

namespace InstrumentLink

theorem Place.target_eq_of_settings {transport : Transport} {place : Place transport} {first second : Endpoint transport}
    (same : (place.fill first).settings = (place.fill second).settings) : first.target = second.target := by
  have both : ∀ {first second : HostPort}, first.host = second.host → first.port = second.port → first = second := by
    intro first second host port
    cases first
    cases second
    cases host
    cases port
    rfl
  cases place <;>
    simp only [fill, Connection.settings, NetworkSettings.ofAddresses, ConnectionSettings.rsn.injEq,
      ConnectionSettings.tcp.injEq, ConnectionSettings.udp.injEq, NetworkSettings.mk.injEq] at same
  case serialData => exact ConnectionSettings.serial.inj same
  case rsnCommand | tcpCommand => exact both same.2.2.1 same.2.2.2
  case rsnData | tcpData | udpData => exact both same.1 same.2.1

namespace Connection

variable {connection : Connection} {world : World}

@[simp] theorem kind_settings (connection : Connection) : connection.settings.kind = connection.kind := by
  cases connection <;> rfl

@[simp] theorem kind_ofSettings (settings : ConnectionSettings) : (ofSettings settings).kind = settings.kind := by
  cases settings <;> rfl

theorem settings_ofSettings (settings : ConnectionSettings) : (ofSettings settings).settings = settings.kept := by
  cases settings <;> rfl

theorem isConfigured_duplicate (connection : Connection) (role : Role) :
    connection.duplicate.isConfigured role = connection.isConfigured role := by
  cases connection <;> cases role <;> rfl

theorem isConfigured_of_settings {first second : Connection} (same : first.settings = second.settings) (role : Role) :
    first.isConfigured role = second.isConfigured role := by
  calc
    first.isConfigured role = (ofSettings first.settings).isConfigured role := (isConfigured_duplicate first role).symm
    _ = (ofSettings second.settings).isConfigured role := by rw [same]
    _ = second.isConfigured role := isConfigured_duplicate second role

theorem settings_apply (sound : world.network.Sound) (change : Change) (connection : Connection) :
    ((connection.apply change).result world).1.settings = connection.settings.set change := by
  cases connection.taken change with
  | stored place endpoint target filled applies addressed written result =>
    have moved := Endpoint.target_change sound endpoint target
    rw [result]
    generalize ((endpoint.change target).result world).1 = after at moved
    obtain ⟨_, handle⟩ := after
    cases moved
    exact written handle
  | ignored foreign result =>
    rw [Change.appliesTo_eq, ← kind_settings] at foreign
    rw [result, ConnectionSettings.set_of_not_keeps foreign]

theorem settings_applyAll (order : connection.InOrder world) (changes : List Change) :
    ((connection.applyAll changes).result world).1.settings = connection.settings.setAll changes := by
  induction changes generalizing connection world with
  | nil => rfl
  | cons change rest ih =>
    have first := settings_apply order.sound.network change connection
    calc
      _ = ((connection.apply change).result world).1.settings.setAll rest := ih (order.apply change)
      _ = (connection.settings.set change).setAll rest := by rw [first]

theorem settings_disconnect (role : Role) (connection : Connection) (world : World) :
    ((connection.disconnect role).result world).1.settings = connection.settings := by
  rcases connection.onRole_result role with ⟨transport, place, endpoint, rfl, _, _, result⟩ | ⟨_, result⟩
  · have released : ((release role endpoint).result world).1.1.target = endpoint.target := by
      unfold release
      split
      · rw [Act.result_bind, Act.result_bind, Endpoint.disconnect_result]
        rfl
      · rfl
    rw [disconnect, Act.result_bind, result]
    exact settings_fill place released
  · rw [disconnect, Act.result_bind, result]
    rfl

@[simp] theorem settings_withListener (listener : Listener) (connection : Connection) :
    (connection.withListener listener).settings = connection.settings := by
  cases connection <;> rfl

theorem settings_takePeer (order : connection.InOrder world) :
    ((Agent.takePeer connection).result world).1.settings = connection.settings := by
  have took := takePeer_spec order
  generalize (Agent.takePeer connection).result world = outcome at took ⊢
  cases took with
  | deaf => rfl
  | listening is released taken =>
    subst is
    rfl

end Connection

def Move.changes : Move → List Change
  | change made => [made]
  | override options => options.changes
  | _ => []

namespace Agent

variable {agent : Agent} {world : World}

theorem settings_poll (order : agent.connection.InOrder world) :
    (agent.poll.result world).1.1.connection.settings = agent.connection.settings := by
  obtain ⟨told, more, result⟩ := agent.poll_result world
  have spoken := order.establish.of_kept (.tell order.establish.sound told)
  rw [result]
  exact (Connection.settings_takePeer spoken).trans (Connection.settings_establish order)

theorem settings_onListener (act : Listener → Act Listener) (agent : Agent) (world : World) :
    ((agent.onListener act).result world).1.connection.settings = agent.connection.settings := by
  unfold onListener
  cases agent.connection.listener? with
  | none => rfl
  | some listener =>
    rw [Act.result_bind]
    exact Connection.settings_withListener _ agent.connection

theorem settings_perform (order : agent.connection.InOrder world) (move : Move) :
    ((agent.perform move).result world).1.connection.settings = agent.connection.settings.setAll move.changes := by
  cases move with
  | change change => exact Connection.settings_apply order.sound.network change agent.connection
  | override options => exact Connection.settings_applyAll order options.changes
  | establish => exact Connection.settings_establish order
  | poll => exact settings_poll order
  | disconnect role => exact Connection.settings_disconnect role agent.connection world
  | askStatus | askConnected _ | lend _ | event _ => rfl
  | read role count =>
    rw [perform, Act.result_bind]
    split <;> rfl
  | write role bytes =>
    rw [perform, Act.result_bind]
    split <;> rfl
  | askPeer | acceptPeer | releasePeer | dropPeer => exact settings_onListener _ agent world

theorem settings_performAll (order : agent.connection.InOrder world) (moves : List Move) :
    ((agent.performAll moves).result world).1.connection.settings =
      agent.connection.settings.setAll (moves.flatMap Move.changes) := by
  induction moves generalizing agent world with
  | nil => rfl
  | cons move rest ih =>
    have first := settings_perform order move
    calc
      _ = ((agent.perform move).result world).1.connection.settings.setAll (rest.flatMap Move.changes) :=
        ih (inOrder_perform order move)
      _ = agent.connection.settings.setAll ((move :: rest).flatMap Move.changes) := by
        rw [first, List.flatMap_cons, ConnectionSettings.setAll_append]

end Agent
end InstrumentLink
