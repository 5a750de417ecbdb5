import InstrumentLink.Proofs.Connection.Aside
import InstrumentLink.Proofs.Endpoint.Settled

/-!
When attempts change nothing any more for a role. After one attempt to bring the connection up both roles are settled,
and while they are no attempt brings one up or lets one down.
-/

namespace InstrumentLink

theorem Endpoint.Settled.beside {endpoint other : Endpoint .client} {world : World} (settled : other.Settled world)
    (sound : world.Sound) (fits : endpoint.Fits world) (otherFits : other.Fits world)
    (apart : ∀ asset ∈ other.assets, asset ∉ endpoint.assets) (role : Role) :
    other.Settled ((Connection.bringUp role endpoint).result world).2 := by
  have live := Connection.live_bringUp_other sound fits otherFits apart role
  have underWay := Connection.underWay_bringUp_other sound fits otherFits apart role
  have routes := (Connection.bringUp_handover sound fits role).routes
  have heard := (Connection.joined_bringUp sound fits role).heard
  generalize ((Connection.bringUp role endpoint).result world).2 = later at live underWay routes heard ⊢
  have hopeless : other.Hopeless later ↔ other.Hopeless world := by
    constructor
    · intro hopeless request asked
      obtain ⟨remote, _, rfl⟩ := map_eq_ok asked
      exact (hopeless (.connect remote) (by rw [routes]; exact asked)).of_heard routes.symm (heard remote).symm
    · intro hopeless request asked
      rw [routes] at asked
      obtain ⟨remote, _, rfl⟩ := map_eq_ok asked
      exact (hopeless (.connect remote) asked).of_heard routes (heard remote)
  cases settled with
  | unset unset => exact .unset unset
  | up up => exact .up (live.trans up)
  | waiting connecting hope => exact .waiting (underWay.trans connecting) (mt hopeless.mp hope)
  | down down none => exact .down (live.trans down) (hopeless.mpr none)

namespace Connection

variable {connection : Connection} {world : World} {role : Role}

def Settled (connection : Connection) (role : Role) (world : World) : Prop :=
  ∀ ⦃transport : Transport⦄ ⦃endpoint : Endpoint transport⦄,
    connection.endpoint? role = some ⟨transport, endpoint⟩ → endpoint.Settled world

theorem settled_establishRole (order : connection.InOrder world) (role : Role) :
    ((connection.establishRole role).result world).1.1.Settled role
      ((connection.establishRole role).result world).2 := by
  intro transport endpoint found
  rcases connection.establishRole_result role with ⟨transport, place, before, rfl, carries, result⟩ | ⟨absent, result⟩
  · rw [result] at found ⊢
    rw [Place.endpoint?_fill carries] at found
    cases found
    exact Endpoint.bringUp_settled order.sound order.fits_fill role
  · rw [result, absent] at found
    cases found

theorem client_of_other {transport another : Transport} {place : Place transport} {own : Endpoint transport}
    {other : Role} (carries : place.role? = some role) (different : other ≠ role) {endpoint : Endpoint another}
    (found : (place.fill own).endpoint? other = some ⟨another, endpoint⟩) :
    transport = .client ∧ another = .client ∧ ⟨another, endpoint⟩ ∈ place.others := by
  cases place with
  | tcpData command =>
    cases carries
    cases other with
    | data => exact absurd rfl different
    | command =>
      cases found
      exact ⟨rfl, rfl, List.mem_singleton.mpr rfl⟩
  | tcpCommand data =>
    cases carries
    cases other with
    | data =>
      cases found
      exact ⟨rfl, rfl, List.mem_singleton.mpr rfl⟩
    | command => exact absurd rfl different
  | rsnCommand data => cases carries
  | rsnData command | udpData | serialData =>
    cases carries
    cases other with
    | data => exact absurd rfl different
    | command => cases found

theorem settled_establishRole_other (order : connection.InOrder world) {other : Role} (different : other ≠ role)
    (settled : connection.Settled other world) :
    ((connection.establishRole role).result world).1.1.Settled other
      ((connection.establishRole role).result world).2 := by
  intro transport endpoint found
  rw [endpoint?_establishRole different] at found
  have before := settled found
  have fits := order.fits (mem_endpoints found)
  rcases connection.establishRole_result role with ⟨_, place, own, rfl, carries, result⟩ | ⟨_, result⟩
  · have once := (place.nodup_assets_fill own).mp order.once
    obtain ⟨rfl, rfl, member⟩ := client_of_other carries different found
    have apart : ∀ asset ∈ endpoint.assets, asset ∉ own.assets := fun asset inOther here =>
      once.2.2 asset here (List.mem_flatMap.mpr ⟨_, member, inOther⟩)
    rw [result]
    exact before.beside order.sound order.fits_fill fits apart role
  · rw [result]
    exact before

theorem live_establishRole_of_settled (order : connection.InOrder world) (settled : connection.Settled role world) :
    ((connection.establishRole role).result world).1.1.live role ((connection.establishRole role).result world).2 =
      connection.live role world := by
  rcases connection.establishRole_result role with ⟨transport, place, endpoint, rfl, carries, result⟩ | ⟨_, result⟩
  · have found := Place.endpoint?_fill carries endpoint
    rw [result, live_of_endpoint? found, live_of_endpoint? (Place.endpoint?_fill carries _)]
    exact Endpoint.live_bringUp_of_settled order.sound order.fits_fill (settled found) role
  · rw [result]

theorem settled_establish (order : connection.InOrder world) (role : Role) :
    (connection.establish.result world).1.1.Settled role (connection.establish.result world).2 := by
  have orderFirst := order.establishRole .data
  have different : Role.data ≠ .command := by decide
  rw [establish_result]
  cases role with
  | data => exact settled_establishRole_other orderFirst different (settled_establishRole order .data)
  | command => exact settled_establishRole orderFirst .command

theorem live_establish_of_settled (order : connection.InOrder world) (settled : ∀ role, connection.Settled role world)
    (role : Role) :
    (connection.establish.result world).1.1.live role (connection.establish.result world).2 =
      connection.live role world := by
  have orderFirst := order.establishRole .data
  have different : Role.data ≠ .command := by decide
  rw [establish_result]
  cases role with
  | data =>
    have first := live_establishRole_of_settled order (settled .data)
    exact (live_establishRole_other orderFirst different).trans first
  | command =>
    have still := settled_establishRole_other order different.symm (settled .command)
    exact (live_establishRole_of_settled orderFirst still).trans (live_establishRole_other order different.symm)

theorem Settled.tell (settled : connection.Settled role world) (entries : List LogEntry) :
    connection.Settled role (world.tell entries) :=
  fun _ _ found => (settled found).tell entries

theorem settled_of_listener {target : HostPort} {listener : Listener} {command : Endpoint .listener}
    (order : (rsn (.ofListener target listener) command).InOrder world) (role : Role) :
    (rsn (.ofListener target listener) command).Settled role world := by
  intro transport endpoint found
  cases role with
  | data =>
    cases found
    exact .up (order.listener_fits.live_listener order.sound rfl)
  | command => cases found

theorem settled_takePeer (order : connection.InOrder world) (settled : connection.Settled role world) :
    ((Agent.takePeer connection).result world).1.Settled role ((Agent.takePeer connection).result world).2 := by
  have took := takePeer_spec order
  have after := order.takePeer
  generalize (Agent.takePeer connection).result world = outcome at took after ⊢
  cases took with
  | deaf => exact settled
  | listening is released taken => exact settled_of_listener after role

theorem live_takePeer (order : connection.InOrder world) (role : Role) :
    ((Agent.takePeer connection).result world).1.live role ((Agent.takePeer connection).result world).2 =
      connection.live role world := by
  have took := takePeer_spec order
  generalize (Agent.takePeer connection).result world = outcome at took ⊢
  cases took with
  | deaf => rfl
  | @listening target command before middle after between later is released taken =>
    subst is
    have asides : Relation.ReflTransGen (Aside role) (rsn (.ofListener target before) command, world)
        (rsn (.ofListener target after) command, later) := .head (.peer _ _ released) (.single (.peer _ _ taken))
    exact live_of_asides asides order rfl

theorem live_peerAttached (order : connection.InOrder world) (role : Role) :
    connection.live role (connection.peerAttached.result world).2 = connection.live role world := by
  cases connection with
  | rsn data command =>
    rw [live_of_kind_eq_rsn order rfl, live_of_kind_eq_rsn (order.of_kept order.peerAttached_kept) rfl]
  | tcp data command | udp data | serial data => rfl

theorem settled_peerAttached (order : connection.InOrder world) (settled : connection.Settled role world) :
    connection.Settled role (connection.peerAttached.result world).2 := by
  have later := order.of_kept order.peerAttached_kept
  cases connection with
  | rsn data command =>
    obtain ⟨target, _ | listener⟩ := data
    · exact settled
    · exact settled_of_listener later role
  | tcp data command | udp data | serial data => exact settled

end Connection
end InstrumentLink
