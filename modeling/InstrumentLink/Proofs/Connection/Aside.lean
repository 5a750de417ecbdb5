import InstrumentLink.Proofs.Connection.Beside
import InstrumentLink.Proofs.Report
import Mathlib.Logic.Relation

/-!
What happens beside a role. While a role is up, no change of what the other role is set to, no letting go of it, no
attempt to bring the connection up, no poll and no question does anything to what the role holds: all that happens is an
exchange in another place, or the peer of a listener that comes or goes.
-/

namespace InstrumentLink

def Deed.isAttempt : Deed → Bool
  | listen _ _ | connect _ _ | associate _ _ | openLine _ _ _ => true
  | accept _ _ | shutdown _ _ | close _ | closeLine _ => false

theorem Parting.deeds_apart {thing : Asset} {gone : List Parting} (away : thing ∉ gone.map Parting.asset) :
    ∀ deed ∈ gone.flatMap Parting.deeds,
      deed.made? ≠ some thing ∧ deed.ended? ≠ some thing ∧ deed.isAttempt = false := by
  intro deed member
  obtain ⟨parting, inGone, noted⟩ := List.mem_flatMap.mp member
  have different : parting.asset ≠ thing := fun same => away (same ▸ List.mem_map_of_mem inGone)
  rcases parting.deed_cases noted with ⟨_, _, rfl, is⟩ | ⟨_, rfl, is⟩ | ⟨_, rfl, is⟩ <;>
    rw [is] at different <;> simp [Deed.made?, Deed.ended?, Deed.isAttempt, different]

theorem Endpoint.Exchange.apart {transport : Transport} {before after : Endpoint transport} {world : World}
    {deeds : List Deed} (exchange : Exchange world before after deeds) {thing : Asset} (away : thing ∉ before.assets)
    (isOpen : (world.ledger thing).isSome) :
    ∀ deed ∈ deeds, deed.made? ≠ some thing ∧ deed.ended? ≠ some thing := by
  rw [← map_asset_partings] at away
  have closings : ∀ deed ∈ before.closings, deed.made? ≠ some thing ∧ deed.ended? ≠ some thing :=
    fun deed member => ⟨(Parting.deeds_apart away deed member).1, (Parting.deeds_apart away deed member).2.1⟩
  rw [map_asset_partings] at away
  cases exchange with
  | keep same => simp
  | release down => exact closings
  | replace request made asked configured holds new =>
    intro deed member
    rcases List.mem_append.mp member with closing | asking
    · exact closings deed closing
    · rw [List.mem_singleton.mp asking, request.made?_deed, request.ended?_deed]
      refine ⟨fun same => ?_, by simp⟩
      -- What is granted is new, and what is open is not.
      obtain ⟨id, got, rfl⟩ := Option.map_eq_some_iff.mp same
      rw [Transport.asset_of_request? asked] at away isOpen
      rcases new id got with here | absent
      · exact away here
      · rw [absent] at isOpen
        cases isOpen

theorem Listener.PeerExchange.apart {before after : Listener} {world : World} {deeds : List Deed}
    (exchange : PeerExchange world before after deeds) {target : HostPort}
    (fits : (Endpoint.ofListener target before).Fits world) :
    ∀ deed ∈ deeds, deed.made? ≠ some (.socket before.socket) ∧ deed.ended? ≠ some (.socket before.socket) ∧
      deed.isAttempt = false := by
  have isOpen : (world.ledger (.socket before.socket)).isSome :=
    fits.isOpen (Endpoint.mem_assets_ofListener.mpr (.inr rfl))
  have notPeer : Asset.socket before.socket ∉ (before.peer.toList.map Parting.peer).map Parting.asset := by
    intro member
    obtain ⟨_, isPeer, same⟩ := List.mem_map.mp member
    obtain ⟨peer, had, rfl⟩ := List.mem_map.mp isPeer
    cases same
    exact Endpoint.peer_ne_socket fits (Option.mem_toList.mp had) rfl
  have closings := Parting.deeds_apart notPeer
  cases exchange with
  | keep same => simp
  | drop peer had alone =>
    rw [had] at closings
    simpa using closings
  | take peer has new =>
    rw [List.flatMap_map] at closings
    intro deed member
    rcases List.mem_cons.mp member with isTaking | closing
    · rw [isTaking]
      refine ⟨fun same => ?_, by simp [Deed.ended?], rfl⟩
      rw [Option.some.inj same] at new
      rw [new] at isOpen
      cases isOpen
    · exact closings deed closing

namespace Connection

/-- What the endpoint behind a role has opened and holds: its socket or its line, but not the peer of a listener. -/
def thing? (connection : Connection) (role : Role) : Option Asset :=
  (connection.endpoint? role).bind fun behind =>
    behind.2.handle.map fun handle => behind.1.asset (behind.1.number handle)

/-- One thing that happens to a connection and its world, beside a role. -/
inductive Aside (role : Role) : Connection × World → Connection × World → Prop
  /-- Nothing is opened, taken or closed. -/
  | quiet (connection : Connection) {world later : World} (kept : world.Kept later) :
    Aside role (connection, world) (connection, later)
  /-- An address that is only kept becomes another. -/
  | stored (data : Endpoint .listener) (before after : HostPort) (world : World) :
    Aside role (rsn data ⟨before, none⟩, world) (rsn data ⟨after, none⟩, world)
  /-- The endpoint behind the other role makes an exchange. -/
  | exchange {transport : Transport} (place : Place transport) {other : Role} (carries : place.role? = some other)
      (different : other ≠ role) {before after : Endpoint transport} {world later : World}
      (handover : Endpoint.Handover before after world later) :
    Aside role (place.fill before, world) (place.fill after, later)
  /-- The peer of a listener comes or goes. -/
  | peer (target : HostPort) (command : Endpoint .listener) {before after : Listener} {world later : World}
      (handover : Listener.PeerHandover before after world later) :
    Aside role (rsn (.ofListener target before) command, world) (rsn (.ofListener target after) command, later)

theorem socket_of_peerHandover {before after : Listener} {world later : World}
    (handover : Listener.PeerHandover before after world later) : after.socket = before.socket := by
  obtain ⟨deeds, exchange, _⟩ := handover.exchange
  cases exchange with
  | keep same => rw [same]
  | drop peer had alone => rw [alone]
  | take peer has new => rw [has]

/-- Where one role holds something and another is carried, there are two clients, and what the one holds is owned beside
the other. -/
theorem thing?_fill {transport : Transport} {place : Place transport} {role other : Role}
    (carries : place.role? = some other) (different : other ≠ role) {endpoint : Endpoint transport} {thing : Asset}
    (held : (place.fill endpoint).thing? role = some thing) :
    (place.fill endpoint).kind = .tcp ∧ thing ∈ place.rest := by
  have inside : ∀ (client : Endpoint .client), (client.handle.map Asset.socket) = some thing → thing ∈ client.assets := by
    intro client shown
    obtain ⟨id, holds, rfl⟩ := Option.map_eq_some_iff.mp shown
    rw [Endpoint.assets_of_handle holds]
    exact List.mem_singleton.mpr rfl
  cases place with
  | rsnCommand data => cases carries
  | tcpData command =>
    cases carries
    cases role with
    | data => exact absurd rfl different
    | command => exact ⟨rfl, by simpa [Place.rest, Place.others] using inside command held⟩
  | tcpCommand data =>
    cases carries
    cases role with
    | data => exact ⟨rfl, by simpa [Place.rest, Place.others] using inside data held⟩
    | command => exact absurd rfl different
  | rsnData _ | udpData | serialData =>
    cases carries
    cases role with
    | data => exact absurd rfl different
    | command => cases held

namespace Aside

variable {role : Role} {start finish : Connection × World}

theorem inOrder (aside : Aside role start finish) (order : start.1.InOrder start.2) : finish.1.InOrder finish.2 := by
  cases aside with
  | quiet connection kept => exact order.of_kept kept
  | stored data before after world =>
    have nothing : Endpoint.Handover (⟨before, none⟩ : Endpoint .listener) ⟨after, none⟩ world world :=
      ⟨⟨[], .release rfl, (List.append_nil _).symm⟩, order.sound, rfl⟩
    have placed : ((Place.rsnCommand data).fill ⟨before, none⟩).InOrder world := order
    exact placed.handover nothing fun _ => rfl
  | exchange place carries different handover =>
    refine order.handover handover fun unused => ?_
    rw [carries] at unused
    cases unused
  | peer target command handover => exact order.peer handover

theorem kind_eq (aside : Aside role start finish) : finish.1.kind = start.1.kind := by
  cases aside with
  | quiet connection kept => rfl
  | stored data before after world => rfl
  | exchange place carries different handover => cases place <;> rfl
  | peer target command handover => rfl

theorem thing?_eq (aside : Aside role start finish) : finish.1.thing? role = start.1.thing? role := by
  cases aside with
  | quiet connection kept => rfl
  | stored data before after world => cases role <;> rfl
  | exchange place carries different handover =>
    rw [thing?, thing?, Place.endpoint?_fill_other carries (Ne.symm different)]
  | peer target command handover =>
    cases role with
    | data => exact congrArg (fun id => some (Asset.socket id)) (socket_of_peerHandover handover)
    | command => rfl

/-- Nothing that is noted opens, takes, shuts down or closes what the role holds, and only another client attempts anything. -/
theorem journal (aside : Aside role start finish) (order : start.1.InOrder start.2) {thing : Asset}
    (held : start.1.thing? role = some thing) :
    ∃ deeds, finish.2.journal = start.2.journal ++ deeds ∧
      ∀ deed ∈ deeds, deed.made? ≠ some thing ∧ deed.ended? ≠ some thing ∧
        (deed.isAttempt = true → start.1.kind = .tcp) := by
  cases aside with
  | quiet connection kept => exact ⟨[], by rw [kept.journal, List.append_nil], by simp⟩
  | stored data before after world => exact ⟨[], (List.append_nil _).symm, by simp⟩
  | @exchange transport place other carries different before after world later handover =>
    obtain ⟨deeds, exchange, noted⟩ := handover.exchange
    obtain ⟨isTcp, inRest⟩ := thing?_fill carries different held
    have away : thing ∉ before.assets := fun here => ((place.nodup_assets_fill before).mp order.once).2.2 thing here inRest
    have isOpen : (world.ledger thing).isSome :=
      (order.owned thing).mpr ((place.mem_assets_fill before thing).mpr (.inr inRest))
    refine ⟨deeds, noted, fun deed member => ?_⟩
    obtain ⟨made, closed⟩ := exchange.apart away isOpen deed member
    exact ⟨made, closed, fun _ => isTcp⟩
  | @peer target command before after world later handover =>
    obtain ⟨deeds, exchange, noted⟩ := handover.exchange
    have isSocket : thing = .socket before.socket := by
      cases role with
      | data => exact (Option.some.inj held).symm
      | command => cases held
    subst isSocket
    have fits : (Endpoint.ofListener target before).Fits world := order.listener_fits
    refine ⟨deeds, noted, fun deed member => ?_⟩
    obtain ⟨made, closed, quiet⟩ := exchange.apart fits deed member
    exact ⟨made, closed, fun attempt => absurd attempt (by rw [quiet]; exact Bool.false_ne_true)⟩

end Aside

/-! One thing after another. -/

section Chain

open Relation (ReflTransGen)

variable {role : Role} {start finish : Connection × World}

theorem InOrder.of_asides (order : start.1.InOrder start.2) (asides : ReflTransGen (Aside role) start finish) :
    finish.1.InOrder finish.2 := by
  induction asides with
  | refl => exact order
  | tail asides aside ih => exact aside.inOrder ih

theorem kind_of_asides (asides : ReflTransGen (Aside role) start finish) : finish.1.kind = start.1.kind := by
  induction asides with
  | refl => rfl
  | tail asides aside ih => exact aside.kind_eq.trans ih

theorem thing?_of_asides (asides : ReflTransGen (Aside role) start finish) :
    finish.1.thing? role = start.1.thing? role := by
  induction asides with
  | refl => rfl
  | tail asides aside ih => exact aside.thing?_eq.trans ih

theorem journal_of_asides (asides : ReflTransGen (Aside role) start finish) (order : start.1.InOrder start.2)
    {thing : Asset} (held : start.1.thing? role = some thing) :
    ∃ deeds, finish.2.journal = start.2.journal ++ deeds ∧
      ∀ deed ∈ deeds, deed.made? ≠ some thing ∧ deed.ended? ≠ some thing ∧
        (deed.isAttempt = true → start.1.kind = .tcp) := by
  induction asides with
  | refl => exact ⟨[], (List.append_nil _).symm, by simp⟩
  | tail asides aside ih =>
    obtain ⟨first, noted, apart⟩ := ih
    obtain ⟨second, notedLast, apartLast⟩ :=
      aside.journal (order.of_asides asides) ((thing?_of_asides asides).trans held)
    rw [kind_of_asides asides] at apartLast
    refine ⟨first ++ second, by rw [notedLast, noted, List.append_assoc], fun deed member => ?_⟩
    rcases List.mem_append.mp member with earlier | last
    · exact apart deed earlier
    · exact apartLast deed last

theorem live_of_kind_eq_rsn {connection : Connection} {world : World} (order : connection.InOrder world)
    (listens : connection.kind = .rsn) (role : Role) : connection.live role world = (connection.thing? role).isSome := by
  cases connection with
  | rsn data command =>
    cases role with
    | data =>
      rw [live, thing?]
      change data.live world = (data.handle.map _).isSome
      rw [Option.isSome_map]
      cases held : data.handle with
      | none => simp [Endpoint.live, held]
      | some listener =>
        have member : ⟨.listener, data⟩ ∈ (rsn data command).endpoints := List.mem_cons_self ..
        exact (order.fits member).live_listener order.sound held
    | command => rfl
  | tcp data command => cases listens
  | udp data => cases listens
  | serial data => cases listens

theorem live_of_asides (asides : ReflTransGen (Aside role) start finish) (order : start.1.InOrder start.2)
    (listens : start.1.kind = .rsn) : finish.1.live role finish.2 = start.1.live role start.2 := by
  rw [live_of_kind_eq_rsn order listens, live_of_kind_eq_rsn (order.of_asides asides) ((kind_of_asides asides).trans listens),
    thing?_of_asides asides]

end Chain

end Connection
end InstrumentLink
