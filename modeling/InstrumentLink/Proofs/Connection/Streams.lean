import InstrumentLink.Proofs.Endpoint.Settled
import InstrumentLink.Proofs.Noninterference
import InstrumentLink.Proofs.Undisturbed
import InstrumentLink.Proofs.Views

/-!
What a client holds is as it was after anything that is done to the client behind the other role.
-/

namespace InstrumentLink

open Relation (ReflTransGen)

namespace Endpoint

def dialled? : {transport : Transport} → Endpoint transport → Option SocketId
  | .client, endpoint => endpoint.handle
  | _, _ => none

variable {endpoint : Endpoint .client} {world : World}

theorem around_bringUp (sound : world.Sound) (fits : endpoint.Fits world) (role : Role) :
    world.network.Around endpoint.handle ((Connection.bringUp role endpoint).result world).2.network := by
  have brought := Connection.bringUp_spec sound fits role
  generalize (Connection.bringUp role endpoint).result world = outcome at brought ⊢
  cases brought with
  | unconfigured unset => exact .refl _ _
  | alreadyConnected set up => exact .refl _ _
  | underWay set down connecting => exact .refl _ _
  | @attempted set down settled told quiet after answer later reopened =>
    have raised := around_raise endpoint.released (endpoint.afterRelease (world.tell told))
    rw [← reopen_result, reopened] at raised
    exact (around_afterRelease sound fits rfl told).trans_none raised

end Endpoint

namespace Connection

variable {connection : Connection} {world later : World} {role : Role} {own : SocketId}

def dialled? (connection : Connection) (role : Role) : Option SocketId :=
  (connection.endpoint? role).bind fun carrier => carrier.2.dialled?

def underWay (connection : Connection) (role : Role) (world : World) : Bool :=
  match connection.endpoint? role with
  | some ⟨_, endpoint⟩ => endpoint.underWay world
  | none => false

theorem exists_of_dialled (held : connection.dialled? role = some own) :
    ∃ (place : Place .client) (endpoint : Endpoint .client), connection = place.fill endpoint ∧
      place.role? = some role ∧ endpoint.handle = some own := by
  cases connection with
  | tcp data command =>
    cases role with
    | data => exact ⟨.tcpData command, data, rfl, rfl, held⟩
    | command => exact ⟨.tcpCommand data, command, rfl, rfl, held⟩
  | rsn data command | udp data | serial data => cases role <;> cases held

theorem kind_of_dialled (held : connection.dialled? role = some own) : connection.kind = .tcp := by
  obtain ⟨place, endpoint, rfl, _, _⟩ := exists_of_dialled held
  cases place <;> rfl

theorem dialled?_iff (isTcp : connection.kind = .tcp) :
    connection.dialled? role = some own ↔ connection.thing? role = some (.socket own) := by
  obtain ⟨data, command, rfl⟩ := eq_tcp_of_kind isTcp
  have shown : ∀ handle : Option SocketId, handle = some own ↔ handle.map Asset.socket = some (.socket own) := by
    intro handle
    cases handle <;> simp
  cases role with
  | data => exact shown data.handle
  | command => exact shown command.handle

theorem dialled?_of_asides {start finish : Connection × World} (asides : ReflTransGen (Aside role) start finish)
    (held : start.1.dialled? role = some own) : finish.1.dialled? role = some own := by
  have isTcp := kind_of_dialled held
  rw [dialled?_iff isTcp] at held
  rw [dialled?_iff ((kind_of_asides asides).trans isTcp)]
  exact (thing?_of_asides asides).trans held

theorem live_of_dialled (held : connection.dialled? role = some own) (world : World) :
    connection.live role world = world.network.isLive own := by
  obtain ⟨place, endpoint, rfl, carries, holds⟩ := exists_of_dialled held
  rw [live_of_endpoint? (Place.endpoint?_fill carries endpoint), Endpoint.live, holds]
  rfl

theorem underWay_of_dialled (held : connection.dialled? role = some own) (world : World) :
    connection.underWay role world = world.network.isConnecting own := by
  obtain ⟨place, endpoint, rfl, carries, holds⟩ := exists_of_dialled held
  rw [underWay, Place.endpoint?_fill carries endpoint]
  dsimp only
  rw [Endpoint.underWay, holds]
  rfl

theorem stream_of_dialled (order : connection.InOrder world) (held : connection.dialled? role = some own) :
    ∃ stream, world.network.stream? own = some stream := by
  obtain ⟨place, endpoint, rfl, _, holds⟩ := exists_of_dialled held
  exact (order.fits_fill).stream order.sound holds

theorem stream?_fill_apart {transport : Transport} {place : Place transport} {before : Endpoint transport}
    (order : (place.fill before).InOrder world) (outward : world.Outward) (apart : place.role? ≠ some role)
    (held : (place.fill before).dialled? role = some own)
    (around : transport = .client → world.network.Around before.dialled? later.network) :
    later.network.stream? own = world.network.stream? own := by
  have leaves : ∀ {endpoint other : Endpoint .client} {place : Place .client}, (place.fill endpoint).InOrder world →
      ⟨_, other⟩ ∈ place.others → other.handle = some own → world.network.Around endpoint.handle later.network →
        later.network.stream? own = world.network.stream? own := by
    intro endpoint other place order member holds around
    have otherFits := order.fits ((place.mem_endpoints_fill endpoint _).mpr (.inr member))
    refine Endpoint.stream?_of_around order.sound outward order.fits_fill otherFits ?_ holds around
    intro asset inOther here
    exact ((place.nodup_assets_fill endpoint).mp order.once).2.2 asset here (List.mem_flatMap.mpr ⟨_, member, inOther⟩)
  cases place with
  | tcpData command =>
    cases role with
    | data => exact absurd rfl apart
    | command => exact leaves order (List.mem_singleton.mpr rfl) held (around rfl)
  | tcpCommand data =>
    cases role with
    | data => exact leaves order (List.mem_singleton.mpr rfl) held (around rfl)
    | command => exact absurd rfl apart
  | rsnData command => cases role <;> cases held
  | rsnCommand data => cases role <;> cases held
  | udpData => cases role <;> cases held
  | serialData => cases role <;> cases held

structure Beside (role : Role) (own : SocketId) (start finish : Connection × World) : Prop where
  asides : ReflTransGen (Aside role) start finish
  stream : finish.2.network.stream? own = start.2.network.stream? own

namespace Beside

theorem refl (role : Role) (own : SocketId) (start : Connection × World) : Beside role own start start :=
  ⟨.refl, rfl⟩

theorem trans {start middle finish : Connection × World} (first : Beside role own start middle)
    (second : Beside role own middle finish) : Beside role own start finish :=
  ⟨first.asides.trans second.asides, second.stream.trans first.stream⟩

theorem tell (order : connection.InOrder world) (role : Role) (own : SocketId) (entries : List LogEntry) :
    Beside role own (connection, world) (connection, world.tell entries) :=
  ⟨.single (.quiet connection (.tell order.sound entries)), rfl⟩

theorem live_eq {start finish : Connection × World} (beside : Beside role own start finish)
    (held : start.1.dialled? role = some own) (order : start.1.InOrder start.2) :
    finish.1.live role finish.2 = start.1.live role start.2 := by
  obtain ⟨stream, found⟩ := stream_of_dialled order held
  rw [live_of_dialled held, live_of_dialled (dialled?_of_asides beside.asides held), Network.isLive_stream found,
    Network.isLive_stream (beside.stream.trans found)]

theorem underWay_eq {start finish : Connection × World} (beside : Beside role own start finish)
    (held : start.1.dialled? role = some own) : finish.1.underWay role finish.2 = start.1.underWay role start.2 := by
  rw [underWay_of_dialled held, underWay_of_dialled (dialled?_of_asides beside.asides held), Network.isConnecting,
    Network.isConnecting, beside.stream]

end Beside

theorem establishRole_of_underWay (order : connection.InOrder world) (connecting : connection.underWay role world = true) :
    ∃ told, (connection.establishRole role).result world = ((connection, .pending), world.tell told) := by
  rcases connection.establishRole_result role with ⟨transport, place, endpoint, rfl, carries, result⟩ | ⟨absent, _⟩
  · have connecting : endpoint.underWay world = true := by
      rw [underWay, Place.endpoint?_fill carries endpoint] at connecting
      exact connecting
    rw [result]
    have brought := bringUp_spec order.sound order.fits_fill role
    generalize (bringUp role endpoint).result world = outcome at brought ⊢
    cases brought with
    | unconfigured unset =>
      obtain ⟨_, held⟩ := Endpoint.client_of_underWay connecting
      rw [order.fits_fill.handle_eq_none unset] at held
      cases held
    | alreadyConnected set up =>
      rw [Endpoint.live_of_underWay connecting] at up
      cases up
    | underWay set down connecting => exact ⟨_, rfl⟩
    | attempted set down settled quiet reopened =>
      rw [settled] at connecting
      cases connecting
  · rw [underWay, absent] at connecting
    cases connecting

/-- An attempt leaves a client to itself that is up or on its way. -/
def Steady (connection : Connection) (role : Role) (world : World) : Prop :=
  connection.live role world = true ∨ connection.underWay role world = true

namespace Beside

theorem steady {start finish : Connection × World} (beside : Beside role own start finish)
    (held : start.1.dialled? role = some own) (order : start.1.InOrder start.2) (steady : start.1.Steady role start.2) :
    finish.1.Steady role finish.2 :=
  steady.imp (beside.live_eq held order).trans (beside.underWay_eq held).trans

theorem establishRole (order : connection.InOrder world) (outward : world.Outward)
    (held : connection.dialled? role = some own) (tried : Role) (steady : tried = role → connection.Steady role world) :
    Beside role own (connection, world) (((connection.establishRole tried).result world).1.1,
      ((connection.establishRole tried).result world).2) := by
  by_cases same : tried = role
  · subst same
    rcases steady rfl with up | connecting
    · rw [establishRole_of_live order up]
      exact .refl tried own _
    · obtain ⟨told, result⟩ := establishRole_of_underWay order connecting
      rw [result]
      exact .tell order tried own told
  · refine ⟨asides_establishRole order same, ?_⟩
    rcases connection.establishRole_result tried with ⟨transport, place, endpoint, rfl, carries, result⟩ | ⟨_, result⟩
    · rw [result]
      refine stream?_fill_apart order outward (Place.role?_ne carries (Ne.symm same)) held (fun isClient => ?_)
      subst isClient
      exact Endpoint.around_bringUp order.sound order.fits_fill tried
    · rw [result]

theorem establish (order : connection.InOrder world) (outward : world.Outward)
    (held : connection.dialled? role = some own) (steady : connection.Steady role world) :
    Beside role own (connection, world) ((connection.establish.result world).1.1, (connection.establish.result world).2) := by
  have first := establishRole order outward held .data fun _ => steady
  have outwardMiddle := World.Outward.lasting.establishRole connection .data world outward
  exact first.trans (establishRole (order.establishRole .data) outwardMiddle (dialled?_of_asides first.asides held)
    .command fun _ => first.steady held order steady)

theorem apply (order : connection.InOrder world) (outward : world.Outward) (held : connection.dialled? role = some own)
    {change : Change} (spared : connection.settings.value? change.field = some change ∨
      change.appliesTo connection.kind = false ∨ change.role ≠ role) :
    Beside role own (connection, world)
      (((connection.apply change).result world).1, ((connection.apply change).result world).2) := by
  refine ⟨asides_apply order spared, ?_⟩
  rw [← or_assoc] at spared
  rcases spared with idle | different
  · obtain ⟨told, result⟩ := apply_idle order.sound.network idle
    rw [result]
    rfl
  · cases connection.taken change with
    | ignored foreign result =>
      rw [result]
      rfl
    | stored place endpoint target filled applies addressed written result =>
      subst filled
      rw [result]
      refine stream?_fill_apart order outward (fun carried => different (addressed role carried)) held (fun isClient => ?_)
      subst isClient
      exact Endpoint.around_change order.sound order.fits_fill target

theorem disconnect (order : connection.InOrder world) (outward : world.Outward)
    (held : connection.dialled? role = some own) {other : Role} (different : other ≠ role) :
    Beside role own (connection, world)
      (((connection.disconnect other).result world).1, ((connection.disconnect other).result world).2) := by
  refine ⟨asides_disconnect order different, ?_⟩
  rw [Connection.disconnect, Act.result_bind]
  rcases connection.onRole_result other with ⟨transport, place, endpoint, rfl, carries, _, result⟩ | ⟨_, result⟩
  · rw [result]
    refine stream?_fill_apart order outward (Place.role?_ne carries different.symm) held (fun isClient => ?_)
    subst isClient
    exact Endpoint.around_release order.sound order.fits_fill other
  · rw [result]
    rfl

end Beside

theorem takePeer_of_deaf (order : connection.InOrder world) (deaf : connection.kind ≠ .rsn) :
    (Agent.takePeer connection).result world = (connection, world) := by
  have took := takePeer_spec order
  generalize (Agent.takePeer connection).result world = outcome at took ⊢
  cases took with
  | deaf => rfl
  | listening is released taken =>
    subst is
    exact absurd rfl deaf

theorem status_of_deaf (order : connection.InOrder world) (deaf : connection.kind ≠ .rsn) :
    (connection.status.result world).2 = world := by
  rw [order.world_status]
  cases connection with
  | rsn data command => exact absurd rfl deaf
  | tcp data command | udp data | serial data => rfl

end Connection

namespace Agent

open Connection

variable {agent : Agent} {world : World} {role : Role} {own : SocketId}

theorem poll_of_deaf (order : agent.connection.InOrder world) (deaf : agent.connection.kind ≠ .rsn) : ∃ told,
    (agent.poll.result world).1.1.connection = (agent.connection.establish.result world).1.1 ∧
      (agent.poll.result world).2 = (agent.connection.establish.result world).2.tell told := by
  have established := order.establish
  have deafStill : (agent.connection.establish.result world).1.1.kind ≠ .rsn := by
    rw [← kind_settings, settings_establish order, kind_settings]
    exact deaf
  obtain ⟨told, more, result⟩ := agent.poll_result world
  have spoken := established.of_kept (.tell established.sound told)
  dsimp only at result
  rw [takePeer_of_deaf spoken deafStill] at result
  dsimp only at result
  rw [status_of_deaf spoken deafStill, World.tell_tell] at result
  exact ⟨told ++ more, by rw [result], by rw [result]⟩

/-- Moves that are no reason to touch a role happen beside it, also where it is not up, as long as nobody attempts to
bring up what is down. -/
theorem beside_perform (order : agent.connection.InOrder world) (outward : world.Outward)
    (held : agent.connection.dialled? role = some own) {move : Move} (spares : move.Spares role agent.connection)
    (steady : move = .establish ∨ move = .poll → agent.connection.Steady role world) :
    Beside role own (agent.connection, world)
      (((agent.perform move).result world).1.connection, ((agent.perform move).result world).2) := by
  have deaf : agent.connection.kind ≠ .rsn := by
    rw [kind_of_dialled held]
    decide
  cases spares with
  | establish => exact .establish order outward held (steady (.inl rfl))
  | poll =>
    obtain ⟨told, kept, result⟩ := poll_of_deaf order deaf
    change Beside role own _ ((agent.poll.result world).1.1.connection, (agent.poll.result world).2)
    rw [kept, result]
    exact (Beside.establish order outward held (steady (.inr rfl))).trans (.tell order.establish role own told)
  | askStatus =>
    change Beside role own _ (agent.connection, (agent.connection.status.result world).2)
    rw [status_of_deaf order deaf]
    exact .refl role own _
  | askConnected asked =>
    change Beside role own _ (agent.connection, ((agent.connection.isConnected asked).result world).2)
    rw [isConnected_result order.sound.network]
    exact .refl role own _
  | lend asked =>
    change Beside role own _ (agent.connection, ((agent.connection.channel? asked).result world).2)
    rw [channel?_result order.sound.network]
    exact .refl role own _
  | askPeer =>
    obtain ⟨connection, lastStatus⟩ := agent
    cases connection with
    | rsn data command => exact absurd rfl deaf
    | tcp data command | udp data | serial data => exact .refl role own _
  | shown shown => exact .apply order outward held (.inl shown)
  | foreign foreign => exact .apply order outward held (.inr (.inl foreign))
  | beside different => exact .apply order outward held (.inr (.inr different))
  | disconnect different => exact .disconnect order outward held different

theorem perform_read (sound : world.network.Sound) (agent : Agent) (asked : Role) (count : Nat) :
    (agent.perform (.read asked count)).result world =
      (agent, ((agent.connection.lent? asked world).map fun channel => ((channel.read count).result world).2).getD world) := by
  simp only [perform, Act.result_bind, channel?_result sound]
  cases agent.connection.lent? asked world <;> rfl

theorem perform_write (sound : world.network.Sound) (agent : Agent) (asked : Role) (bytes : List UInt8) :
    (agent.perform (.write asked bytes)).result world =
      (agent, ((agent.connection.lent? asked world).map fun channel => ((channel.write bytes).result world).2).getD world) := by
  simp only [perform, Act.result_bind, channel?_result sound]
  cases agent.connection.lent? asked world <;> rfl

theorem ne_of_lent {connection : Connection} {asked : Role} {channel : Channel}
    (lent : connection.lent? asked world = some channel) (apart : asked ≠ role ∨ connection.live role world = false) :
    asked ≠ role := by
  rintro rfl
  have up := isSome_lent? connection asked world
  rw [lent] at up
  rcases apart with different | down
  · exact different rfl
  · rw [down] at up
    cases up

theorem beside_talk {connection : Connection} {later : World} (order : connection.InOrder world) (outward : world.Outward)
    (held : connection.dialled? role = some own) {asked : Role} {channel : Channel} (different : asked ≠ role)
    (lent : connection.lent? asked world = some channel) (kept : world.Kept later)
    (around : ∀ id, channel = .stream id → world.network.Around (some id) later.network) :
    Beside role own (connection, world) (connection, later) := by
  refine ⟨.single (.quiet connection kept), ?_⟩
  obtain ⟨transport, endpoint, handle, found, _, holds, rfl⟩ := lent?_eq_some lent
  rcases connection.onRole_result asked with ⟨_, place, _, rfl, carries, foundToo, _⟩ | ⟨absent, _⟩
  · rw [found] at foundToo
    cases foundToo
    refine stream?_fill_apart order outward (Place.role?_ne carries different.symm) held (fun isClient => ?_)
    subst isClient
    have dialled : endpoint.dialled? = some handle := holds
    rw [dialled]
    exact around handle rfl
  · rw [absent] at found
    cases found

theorem beside_read (order : agent.connection.InOrder world) (outward : world.Outward)
    (held : agent.connection.dialled? role = some own) {asked : Role} (count : Nat)
    (apart : asked ≠ role ∨ agent.connection.live role world = false) :
    Beside role own (agent.connection, world) (((agent.perform (.read asked count)).result world).1.connection,
      ((agent.perform (.read asked count)).result world).2) := by
  rw [perform_read order.sound.network]
  cases lent : agent.connection.lent? asked world with
  | none => exact .refl role own _
  | some channel =>
    refine beside_talk order outward held (ne_of_lent lent apart) lent (channel.read_kept order.sound count) ?_
    rintro id rfl
    exact .receive id count world.network

theorem beside_write (order : agent.connection.InOrder world) (outward : world.Outward)
    (held : agent.connection.dialled? role = some own) {asked : Role} (bytes : List UInt8)
    (apart : asked ≠ role ∨ agent.connection.live role world = false) :
    Beside role own (agent.connection, world) (((agent.perform (.write asked bytes)).result world).1.connection,
      ((agent.perform (.write asked bytes)).result world).2) := by
  rw [perform_write order.sound.network]
  cases lent : agent.connection.lent? asked world with
  | none => exact .refl role own _
  | some channel =>
    refine beside_talk order outward held (ne_of_lent lent apart) lent (channel.write_kept order.sound bytes) ?_
    rintro id rfl
    exact .send id bytes world.network

end Agent
end InstrumentLink
