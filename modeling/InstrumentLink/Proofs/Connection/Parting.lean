import InstrumentLink.Proofs.Connection.Verdict

/-!
The end of a connection. It lets go of all that it owns, endpoint by endpoint, and what is left in order is a connection
with the same settings and empty hands. So nothing of the agent's is open any more.
-/

namespace InstrumentLink
namespace Endpoint

variable {transport : Transport} {endpoint : Endpoint transport} {world : World}

def partingLines (endpoint : Endpoint transport) : List LogEntry :=
  if transport = .client then endpoint.closingLines else []

theorem partingLines_debug (endpoint : Endpoint transport) : ∀ entry ∈ endpoint.partingLines, entry.level = .debug := by
  intro entry member
  unfold partingLines at member
  split at member
  · exact endpoint.closingLines_debug entry member
  · cases member

theorem dispose_result (endpoint : Endpoint transport) (world : World) :
    (endpoint.dispose.result world).2 =
      ((Act.shutAll endpoint.partings).result (world.tell endpoint.partingLines)).2 := by
  obtain ⟨target, _ | handle⟩ := endpoint
  · simp [dispose, partingLines, closingLines, hasHandle, partings, Act.shutAll]
  · by_cases client : transport = .client
    · subst client
      rfl
    · simp [dispose, partingLines, partings, client, Transport.discard_result]

theorem journal_dispose (endpoint : Endpoint transport) (world : World) :
    (endpoint.dispose.result world).2.journal = world.journal ++ endpoint.closings := by
  rw [dispose_result, World.journal_shutAll, World.tell_journal, closings]

theorem log_dispose (endpoint : Endpoint transport) (world : World) :
    (endpoint.dispose.result world).2.log = world.log ++ endpoint.partingLines := by
  rw [dispose_result, World.log_shutAll, World.tell_log]

theorem dispose_handover (sound : world.Sound) (fits : endpoint.Fits world) :
    Handover endpoint endpoint.released world (endpoint.dispose.result world).2 := by
  have routes : (endpoint.dispose.result world).2.network.routes = world.network.routes := by
    rw [dispose_result, World.routes_shutAll, World.tell_network]
  have later : (endpoint.dispose.result world).2.Sound := by
    rw [dispose_result]
    exact sound_shutAll (sound.tell endpoint.partingLines) fits
  exact ⟨⟨_, .release rfl, endpoint.journal_dispose world⟩, later, routes⟩

end Endpoint

namespace Connection

variable {connection : Connection} {world : World}

structure Parted (connection : Connection) (world later : World) : Prop where
  order : connection.duplicate.InOrder later
  journal : later.journal = world.journal ++ connection.closings
  log : ∃ told, (∀ entry ∈ told, entry.level = .debug) ∧ later.log = world.log ++ told

theorem InOrder.dispose {transport : Transport} {place : Place transport} {endpoint : Endpoint transport}
    (order : (place.fill endpoint).InOrder world) :
    (place.fill endpoint.released).InOrder (endpoint.dispose.result world).2 :=
  order.handover (Endpoint.dispose_handover order.sound order.fits_fill) fun _ => rfl

theorem parted_both {transport : Transport} {data command : Endpoint transport}
    (closings : connection.closings = data.closings ++ command.closings)
    (order : connection.duplicate.InOrder (command.dispose.result (data.dispose.result world).2).2) :
    Parted connection world (command.dispose.result (data.dispose.result world).2).2 where
  order := order
  journal := by
    rw [Endpoint.journal_dispose, Endpoint.journal_dispose, closings, List.append_assoc]
  log := by
    refine ⟨data.partingLines ++ command.partingLines, ?_, ?_⟩
    · intro entry member
      rcases List.mem_append.mp member with first | second
      · exact data.partingLines_debug entry first
      · exact command.partingLines_debug entry second
    · rw [Endpoint.log_dispose, Endpoint.log_dispose, List.append_assoc]

theorem parted_single {transport : Transport} {data : Endpoint transport} (closings : connection.closings = data.closings)
    (order : connection.duplicate.InOrder (data.dispose.result world).2) :
    Parted connection world (data.dispose.result world).2 where
  order := order
  journal := by rw [Endpoint.journal_dispose, closings]
  log := ⟨data.partingLines, data.partingLines_debug, data.log_dispose world⟩

/-- A connection that ends closes what it owns and nothing else, with no word above the lowest level. -/
theorem parted_dispose (order : connection.InOrder world) : Parted connection world (connection.dispose.result world).2 := by
  cases connection with
  | rsn data command =>
    have first : ((Place.rsnData command).fill data).InOrder world := order
    have second : ((Place.rsnCommand data.released).fill command).InOrder (data.dispose.result world).2 := first.dispose
    exact parted_both (by simp [closings, endpoints]) second.dispose
  | tcp data command =>
    have first : ((Place.tcpData command).fill data).InOrder world := order
    have second : ((Place.tcpCommand data.released).fill command).InOrder (data.dispose.result world).2 := first.dispose
    exact parted_both (by simp [closings, endpoints]) second.dispose
  | udp data =>
    have only : (Place.udpData.fill data).InOrder world := order
    exact parted_single (by simp [closings, endpoints]) only.dispose
  | serial data =>
    have only : (Place.serialData.fill data).InOrder world := order
    exact parted_single (by simp [closings, endpoints]) only.dispose

theorem InOrder.nothing (order : connection.duplicate.InOrder world) (asset : Asset) :
    world.own? asset = none ∧ ¬StillOpen world.journal asset := by
  have empty : connection.duplicate.assets = [] := (bare_ofSettings connection.settings).assets_eq_nil
  have absent : world.ledger asset = none := by
    rw [← Option.not_isSome_iff_eq_none, order.owned asset, empty]
    exact List.not_mem_nil
  constructor
  · rw [← Option.not_isSome_iff_eq_none, ← order.sound.isSome_ledger, absent]
    exact Bool.false_ne_true
  · rw [stillOpen_iff]
    change ¬(world.ledger asset).isSome = true
    rw [absent]
    exact Bool.false_ne_true

end Connection
end InstrumentLink
