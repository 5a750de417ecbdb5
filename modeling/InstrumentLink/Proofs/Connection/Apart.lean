import InstrumentLink.Proofs.Connection.BringUp
import InstrumentLink.Proofs.Network.Frame

/-!
The roles of a connection keep apart: bringing one up leaves the other as up or as down as it was. Only a connection
with two clients has two roles, and a client that is brought up touches no stream but its own.
-/

namespace InstrumentLink
namespace Endpoint

variable {endpoint : Endpoint .client} {world : World}

theorem Fits.not_isUp (fits : endpoint.Fits world) (sound : world.Sound) (down : endpoint.live world = false)
    {id : SocketId} (held : endpoint.handle = some id) :
    ∃ stream, world.network.stream? id = some stream ∧ ¬stream.IsUp := by
  obtain ⟨stream, found⟩ := fits.stream sound held
  have notLive : stream.isLive = false := by
    rw [← Network.isLive_stream found, ← down, live, held]
    rfl
  exact ⟨stream, found, (sound.network.streams found).not_isUp_of_not_isLive notLive⟩

theorem network_afterRelease_client {id : SocketId} (held : endpoint.handle = some id) (world : World) :
    (endpoint.afterRelease world).network = world.network.part (some .sending) id := by
  rw [afterRelease, partings_of_handle held]
  rfl

theorem Fits.gone_afterRelease (fits : endpoint.Fits world) (sound : world.Sound) {id : SocketId}
    (held : endpoint.handle = some id) : ∃ stream, world.network.stream? id = some stream ∧
      world.network.Gone id stream (endpoint.afterRelease world).network := by
  obtain ⟨stream, found⟩ := fits.stream sound held
  rw [network_afterRelease_client held]
  exact ⟨stream, found, Network.gone_part found (sound.network.streams found).unshut _⟩

theorem stream?_afterRelease (fits : endpoint.Fits world) (sound : world.Sound) (down : endpoint.live world = false)
    {other : SocketId} (apart : .socket other ∉ endpoint.assets) :
    (endpoint.afterRelease world).network.stream? other = world.network.stream? other := by
  cases held : endpoint.handle with
  | none => rw [afterRelease_of_handle_eq_none held]
  | some id =>
    obtain ⟨stream, found, gone⟩ := fits.gone_afterRelease sound held
    obtain ⟨same, shown, notUp⟩ := fits.not_isUp sound down held
    obtain rfl := Option.some.inj (found.symm.trans shown)
    have different : id ≠ other := by
      rintro rfl
      exact apart (by simp [assets_of_handle held, Transport.assets, Transport.asset, Transport.number])
    exact (gone.stream?_down sound.network found notUp other).trans (if_neg different)

theorem listening?_afterRelease (fits : endpoint.Fits world) (sound : world.Sound) (id : SocketId) :
    (endpoint.afterRelease world).network.listening? id = world.network.listening? id := by
  cases held : endpoint.handle with
  | none => rw [afterRelease_of_handle_eq_none held]
  | some own =>
    obtain ⟨stream, found, gone⟩ := fits.gone_afterRelease sound held
    exact gone.listening? found id

theorem stream?_raise {other : SocketId} (there : (world.network.stream? other).isSome) :
    (endpoint.raise.result world).2.network.stream? other = world.network.stream? other := by
  rw [raise_result]
  cases asked : Transport.client.request? world.network.routes.names endpoint.target with
  | error failure => rfl
  | ok request =>
    obtain ⟨target, _⟩ := endpoint
    obtain ⟨remote, _, rfl⟩ := map_eq_ok asked
    have kept : ((Request.connect remote).act.result world).2.network.stream? other = world.network.stream? other :=
      Network.stream?_made (world.network.connect_made .agent remote) there
    dsimp only
    split
    · exact kept
    · exact kept

theorem stream?_reopen (fits : endpoint.Fits world) (sound : world.Sound) (down : endpoint.live world = false)
    (told : List LogEntry) {other : SocketId} (there : (world.network.stream? other).isSome)
    (apart : .socket other ∉ endpoint.assets) :
    (endpoint.reopen.result (world.tell told)).2.network.stream? other = world.network.stream? other := by
  have downToo : endpoint.live (world.tell told) = false := by rw [live_tell, down]
  have released : (endpoint.afterRelease (world.tell told)).network.stream? other = world.network.stream? other :=
    stream?_afterRelease (fits.tell told) (sound.tell told) downToo apart
  rw [reopen_result, stream?_raise (by rw [released]; exact there), released]

theorem stream?_bringUp (sound : world.Sound) (fits : endpoint.Fits world) (role : Role) {other : SocketId}
    (there : (world.network.stream? other).isSome) (apart : .socket other ∉ endpoint.assets) :
    ((Connection.bringUp role endpoint).result world).2.network.stream? other = world.network.stream? other := by
  have brought := Connection.bringUp_spec sound fits role
  generalize (Connection.bringUp role endpoint).result world = outcome at brought ⊢
  cases brought with
  | unconfigured unset => rfl
  | alreadyConnected set up => rfl
  | underWay set down connecting => rfl
  | @attempted set down settled told quiet after answer later reopened =>
    have kept := stream?_reopen fits sound down told there apart
    rw [reopened] at kept
    exact kept

theorem live_of_stream? (fits : endpoint.Fits world) (sound : world.Sound) {later : World}
    (same : ∀ id, endpoint.handle = some id → later.network.stream? id = world.network.stream? id) :
    endpoint.live later = endpoint.live world := by
  cases held : endpoint.handle with
  | none => simp [live, held]
  | some id =>
    obtain ⟨stream, found⟩ := fits.stream sound held
    have foundLater := (same id held).trans found
    have before : endpoint.live world = stream.isLive := by
      rw [live, held]
      exact Network.isLive_stream found
    have after : endpoint.live later = stream.isLive := by
      rw [live, held]
      exact Network.isLive_stream foundLater
    rw [before, after]

theorem underWay_of_stream? {later : World}
    (same : ∀ id, endpoint.handle = some id → later.network.stream? id = world.network.stream? id) :
    endpoint.underWay later = endpoint.underWay world := by
  cases held : endpoint.handle with
  | none => simp [underWay, held]
  | some id =>
    rw [underWay, underWay, held]
    change (later.network.stream? id).any _ = (world.network.stream? id).any _
    rw [same id held]

def LeavesOthers {transport : Transport} (endpoint : Endpoint transport) (world later : World) : Prop :=
  ∀ {other : Endpoint transport}, other.Fits world → (∀ asset ∈ other.assets, asset ∉ endpoint.assets) →
    other.live later = other.live world

end Endpoint

namespace Connection

variable {connection : Connection} {world : World}

theorem live_tell (connection : Connection) (role : Role) (entries : List LogEntry) (world : World) :
    connection.live role (world.tell entries) = connection.live role world := by
  unfold live
  cases connection.endpoint? role with
  | none => rfl
  | some behind => exact behind.2.live_tell entries world

/-- Where an endpoint shares a connection with a role that it does not carry, it is a client or only keeps an address. -/
theorem live_fill_apart {transport : Transport} {place : Place transport} {before : Endpoint transport} {role : Role}
    {later : World} (order : (place.fill before).InOrder world) (apart : place.role? ≠ some role)
    (leaves : transport = .client ∨ place.role? = none → before.LeavesOthers world later)
    (after : Endpoint transport) : (place.fill after).live role later = (place.fill before).live role world := by
  have once := ((place.nodup_assets_fill before).mp order.once).2.2
  have beside : ∀ {other : Endpoint transport}, (transport = .client ∨ place.role? = none) →
      ⟨transport, other⟩ ∈ place.others → other.live later = other.live world := by
    intro other alone member
    refine leaves alone (order.fits ((place.mem_endpoints_fill before _).mpr (.inr member))) fun asset inOther here => ?_
    exact once asset here (List.mem_flatMap.mpr ⟨_, member, inOther⟩)
  rw [live, live, place.endpoint?_fill_apart apart before after]
  cases place with
  | rsnData command => cases role <;> first | rfl | exact absurd rfl apart
  | rsnCommand data =>
    cases role with
    | data => exact beside (.inr rfl) (List.mem_singleton.mpr rfl)
    | command => rfl
  | tcpData command =>
    cases role with
    | data => exact absurd rfl apart
    | command => exact beside (.inl rfl) (List.mem_singleton.mpr rfl)
  | tcpCommand data =>
    cases role with
    | data => exact beside (.inl rfl) (List.mem_singleton.mpr rfl)
    | command => exact absurd rfl apart
  | udpData => cases role <;> first | rfl | exact absurd rfl apart
  | serialData => cases role <;> first | rfl | exact absurd rfl apart

theorem stream?_bringUp_other {endpoint other : Endpoint .client} (sound : world.Sound) (fits : endpoint.Fits world)
    (otherFits : other.Fits world) (apart : ∀ asset ∈ other.assets, asset ∉ endpoint.assets) (role : Role)
    {id : SocketId} (held : other.handle = some id) :
    ((bringUp role endpoint).result world).2.network.stream? id = world.network.stream? id := by
  obtain ⟨stream, found⟩ := otherFits.stream sound held
  refine Endpoint.stream?_bringUp sound fits role (by rw [found]; rfl) (apart _ ?_)
  simp [Endpoint.assets_of_handle held, Transport.assets, Transport.asset, Transport.number]

theorem live_bringUp_other {endpoint other : Endpoint .client} (sound : world.Sound) (fits : endpoint.Fits world)
    (otherFits : other.Fits world) (apart : ∀ asset ∈ other.assets, asset ∉ endpoint.assets) (role : Role) :
    other.live ((bringUp role endpoint).result world).2 = other.live world :=
  Endpoint.live_of_stream? otherFits sound fun _ held => stream?_bringUp_other sound fits otherFits apart role held

theorem underWay_bringUp_other {endpoint other : Endpoint .client} (sound : world.Sound) (fits : endpoint.Fits world)
    (otherFits : other.Fits world) (apart : ∀ asset ∈ other.assets, asset ∉ endpoint.assets) (role : Role) :
    other.underWay ((bringUp role endpoint).result world).2 = other.underWay world :=
  Endpoint.underWay_of_stream? fun _ held => stream?_bringUp_other sound fits otherFits apart role held

theorem live_establishRole_other (order : connection.InOrder world) {role other : Role} (different : other ≠ role) :
    ((connection.establishRole role).result world).1.1.live other ((connection.establishRole role).result world).2 =
      connection.live other world := by
  rcases connection.establishRole_result role with ⟨transport, place, endpoint, rfl, carries, result⟩ | ⟨_, result⟩
  · rw [result]
    refine live_fill_apart order (Place.role?_ne carries different) (fun alone => ?_) _
    rcases alone with rfl | unused
    · intro other fits apart
      exact live_bringUp_other order.sound order.fits_fill fits apart role
    · rw [carries] at unused
      cases unused
  · rw [result]

end Connection
end InstrumentLink
