import InstrumentLink.Proofs.Connection.Apart
import InstrumentLink.Proofs.Network.Around
import InstrumentLink.Proofs.Outward

/-!
What one role has to do with the other: nothing. A change that is addressed to one role, and letting go of it, leaves what
stands behind the other and leaves it as up or as down as it was.
-/

namespace InstrumentLink

namespace Endpoint

section Client

variable {endpoint other : Endpoint .client} {world later : World} {id : SocketId}

theorem Fits.dialled (fits : endpoint.Fits world) (held : endpoint.handle = some id) :
    ∃ remote, world.ledger (.socket id) = some (.connect remote (some id)) := by
  obtain ⟨request, asked, made⟩ := (fits id held).made
  obtain ⟨remote, _, rfl⟩ := map_eq_ok asked
  exact ⟨remote, made⟩

theorem around_afterRelease (sound : world.Sound) (fits : endpoint.Fits world) {empty : Endpoint .client}
    (same : empty.handle = endpoint.handle) (told : List LogEntry) :
    world.network.Around endpoint.handle (empty.afterRelease (world.tell told)).network := by
  cases owned : endpoint.handle with
  | none =>
    rw [afterRelease_of_handle_eq_none (same.trans owned)]
    exact .refl none _
  | some id =>
    obtain ⟨stream, found⟩ := fits.stream sound owned
    rw [network_afterRelease_client (same.trans owned)]
    exact .gone found (Network.gone_part found (sound.network.streams found).unshut _)

theorem around_raise (endpoint : Endpoint .client) (world : World) :
    world.network.Around none (endpoint.raise.result world).2.network :=
  .of_none stream?_raise

theorem stream?_raiseMoved (there : (world.network.stream? id).isSome) :
    (endpoint.raiseMoved.result world).2.network.stream? id = world.network.stream? id := by
  unfold raiseMoved
  split
  · rfl
  · have kept : (endpoint.raise.result world).2.network.stream? id = world.network.stream? id := stream?_raise there
    simp only [Act.result_bind]
    generalize endpoint.raise.result world = outcome at kept ⊢
    obtain ⟨⟨after, answer⟩, later⟩ := outcome
    cases answer with
    | ok _ => exact kept
    | error failure => exact kept

theorem around_raiseMoved (endpoint : Endpoint .client) (world : World) :
    world.network.Around none (endpoint.raiseMoved.result world).2.network :=
  .of_none stream?_raiseMoved

theorem around_change (sound : world.Sound) (fits : endpoint.Fits world) (target : Transport.client.Target) :
    world.network.Around endpoint.handle ((endpoint.change target).result world).2.network := by
  have moved : world.network.Around endpoint.handle (endpoint.afterMove target world).network :=
    around_afterRelease sound fits (rfl : (endpoint.moved target).handle = endpoint.handle) _
  rw [change_result sound.network]
  split
  · exact .refl _ _
  · split
    · exact moved.trans_none (around_raiseMoved _ _)
    · exact moved

theorem around_release (sound : world.Sound) (fits : endpoint.Fits world) (role : Role) :
    world.network.Around endpoint.handle ((Connection.release role endpoint).result world).2.network := by
  unfold Connection.release
  split
  · simp only [Connection.say, Act.result_bind, Act.result_say, disconnect_result]
    exact around_afterRelease sound fits rfl _
  · exact .refl _ _

theorem stream?_of_around (sound : world.Sound) (outward : world.Outward) (fits : endpoint.Fits world)
    (otherFits : other.Fits world) (apart : ∀ asset ∈ other.assets, asset ∉ endpoint.assets)
    (held : other.handle = some id) (around : world.network.Around endpoint.handle later.network) :
    later.network.stream? id = world.network.stream? id := by
  obtain ⟨stream, found⟩ := otherFits.stream sound held
  have isAsset : ∀ {client : Endpoint .client} {id : SocketId}, client.handle = some id → .socket id ∈ client.assets := by
    intro client id holds
    rw [assets_of_handle holds]
    exact List.mem_singleton.mpr rfl
  refine around (fun same => apart _ (isAsset held) (isAsset same)) (by rw [found]; rfl) ?_
  intro near nearStream owned nearFound
  obtain ⟨remote, dialled⟩ := fits.dialled owned
  obtain ⟨otherRemote, otherDialled⟩ := otherFits.dialled held
  exact outward.stranger sound.network dialled otherDialled nearFound found

theorem leavesOthers_of_around (sound : world.Sound) (outward : world.Outward) (fits : endpoint.Fits world)
    (around : world.network.Around endpoint.handle later.network) : endpoint.LeavesOthers world later :=
  fun otherFits apart =>
    live_of_stream? otherFits sound fun _ held => stream?_of_around sound outward fits otherFits apart held around

end Client

variable {transport : Transport} {endpoint : Endpoint transport} {world : World}

theorem leavesOthers_change (sound : world.Sound) (outward : world.Outward) (fits : endpoint.Fits world)
    (alone : transport = .client ∨ endpoint.handle = none) (target : transport.Target) :
    endpoint.LeavesOthers world ((endpoint.change target).result world).2 := by
  rcases alone with rfl | down
  · exact leavesOthers_of_around sound outward fits (around_change sound fits target)
  · intro other _ _
    rw [change_of_handle_eq_none down]

theorem leavesOthers_release (sound : world.Sound) (outward : world.Outward) (fits : endpoint.Fits world)
    (alone : transport = .client ∨ endpoint.handle = none) (role : Role) :
    endpoint.LeavesOthers world ((Connection.release role endpoint).result world).2 := by
  rcases alone with rfl | down
  · exact leavesOthers_of_around sound outward fits (around_release sound fits role)
  · intro other _ _
    rw [Connection.release, hasHandle, down]
    rfl

end Endpoint

namespace Connection

variable {connection : Connection} {world : World} {role : Role}

theorem live_apply_other (order : connection.InOrder world) (outward : world.Outward) {change : Change}
    (different : change.role ≠ role) :
    ((connection.apply change).result world).1.live role ((connection.apply change).result world).2 =
      connection.live role world := by
  cases connection.taken change with
  | stored place endpoint target filled applies addressed written result =>
    subst filled
    rw [result]
    refine live_fill_apart order (fun carried => different (addressed role carried)) (fun alone => ?_) _
    exact Endpoint.leavesOthers_change order.sound outward order.fits_fill (alone.imp_right order.handle_eq_none) target
  | ignored foreign result => rw [result, live_tell]

theorem live_disconnect_other (order : connection.InOrder world) (outward : world.Outward) {other : Role}
    (different : other ≠ role) :
    ((connection.disconnect other).result world).1.live role ((connection.disconnect other).result world).2 =
      connection.live role world := by
  rw [disconnect, Act.result_bind]
  rcases connection.onRole_result other with ⟨transport, place, endpoint, rfl, carries, _, result⟩ | ⟨_, result⟩
  · rw [result]
    refine live_fill_apart order (Place.role?_ne carries different.symm) (fun alone => ?_) _
    exact Endpoint.leavesOthers_release order.sound outward order.fits_fill (alone.imp_right order.handle_eq_none) other
  · rw [result]
    rfl

end Connection
end InstrumentLink
