import InstrumentLink.Proofs.Network.Frame

/-!
Which listener an address reaches, and how much room it has. A connection that is opened takes one place at the
listener that it reaches, and none at any other.
-/

namespace InstrumentLink

/-- What is found below a bound is found below every larger one, if there is nothing beyond. -/
theorem findSome?_range_of_le {α : Type} {f : Nat → Option α} {small large : Nat} (le : small ≤ large)
    (beyond : ∀ id, small ≤ id → f id = none) : (List.range large).findSome? f = (List.range small).findSome? f := by
  obtain ⟨more, rfl⟩ := Nat.exists_eq_add_of_le le
  have nothing : ((List.range more).map (small + ·)).findSome? f = none := by
    refine List.findSome?_eq_none_iff.mpr fun id member => ?_
    obtain ⟨offset, _, rfl⟩ := List.mem_map.mp member
    exact beyond _ (Nat.le_add_right ..)
  rw [List.range_add, List.findSome?_append, nothing, Option.or_none]

namespace Network

def reached? (network : Network) (address : SocketAddress) (id : SocketId) : Option (SocketId × Listening) :=
  (network.listening? id).bind fun listening =>
    if listening.address.hears address then some (id, listening) else none

theorem reached?_of_next_le {network : Network} {id : SocketId} (new : network.sockets.next ≤ id)
    (address : SocketAddress) : network.reached? address id = none := by
  have absent : network.socket? id = none := Registry.find?_of_next_le new
  rw [reached?, listening?_eq_bind, absent]
  rfl

theorem listenerAt?_eq (network : Network) (address : SocketAddress) {bound : Nat}
    (large : network.sockets.next ≤ bound) :
    network.listenerAt? address = (List.range bound).findSome? (network.reached? address) := by
  rw [findSome?_range_of_le large fun id new => reached?_of_next_le new address, listenerAt?, Registry.toList,
    ← List.head?_filterMap, List.filterMap_filterMap, List.head?_filterMap]
  congr 1
  funext id
  rw [reached?, listening?_eq_bind, socket?]
  cases network.sockets.find? id with
  | none => rfl
  | some socket => rcases socket with ⟨owner, _ | _ | _ | _⟩ <;> rfl

/-- What is the same of all listeners that an address can reach is the same of the one that it reaches. -/
theorem map_listenerAt? {α : Type} {network later : Network} {address : SocketAddress}
    (view : SocketId × Listening → α)
    (alike : ∀ id, (later.reached? address id).map view = (network.reached? address id).map view) :
    (later.listenerAt? address).map view = (network.listenerAt? address).map view := by
  rw [later.listenerAt?_eq address (Nat.le_max_left later.sockets.next network.sockets.next),
    network.listenerAt?_eq address (Nat.le_max_right later.sockets.next network.sockets.next),
    List.map_findSome?, List.map_findSome?]
  congr 1
  funext id
  exact alike id

theorem listenerAt?_of_listening? {network later : Network}
    (same : ∀ id, later.listening? id = network.listening? id) (address : SocketAddress) :
    later.listenerAt? address = network.listenerAt? address := by
  have unchanged : (later.listenerAt? address).map id = (network.listenerAt? address).map id :=
    map_listenerAt? id fun server => by rw [reached?, reached?, same]
  rwa [Option.map_id, id, id] at unchanged

theorem listenerAt?_of_addresses {network later : Network}
    (same : ∀ id, (later.listening? id).map Listening.address = (network.listening? id).map Listening.address)
    (address : SocketAddress) :
    (later.listenerAt? address).map Prod.fst = (network.listenerAt? address).map Prod.fst := by
  refine map_listenerAt? Prod.fst fun id => ?_
  have here := same id
  unfold reached?
  cases before : network.listening? id with
  | none =>
    rw [before] at here
    rw [Option.map_eq_none_iff.mp here]
  | some listening =>
    rw [before] at here
    obtain ⟨now, after, shown⟩ := Option.map_eq_some_iff.mp here
    rw [after, Option.bind_some, Option.bind_some, shown]
    split <;> rfl

/-- What listens listens still, on the same address, and no more than so many have joined each queue. -/
def Joined (network later : Network) (crowd : SocketId → Nat) : Prop :=
  ∀ id, ∃ newcomers : List SocketId, newcomers.length ≤ crowd id ∧
    later.listening? id = (network.listening? id).map fun listening =>
      { listening with queue := listening.queue ++ newcomers }

theorem Joined.of_same {network later : Network} {crowd : SocketId → Nat}
    (same : ∀ id, later.listening? id = network.listening? id) : network.Joined later crowd := by
  intro id
  refine ⟨[], Nat.zero_le _, ?_⟩
  rw [same]
  cases network.listening? id <;> simp

theorem Joined.of_before {network middle later : Network} {crowd : SocketId → Nat} (joined : middle.Joined later crowd)
    (same : ∀ id, middle.listening? id = network.listening? id) : network.Joined later crowd := by
  intro id
  obtain ⟨newcomers, bound, shown⟩ := joined id
  exact ⟨newcomers, bound, by rw [shown, same]⟩

theorem Joined.heard {network later : Network} {crowd : SocketId → Nat} (joined : network.Joined later crowd)
    (address : SocketAddress) :
    (later.listenerAt? address).map Prod.fst = (network.listenerAt? address).map Prod.fst := by
  refine listenerAt?_of_addresses (fun id => ?_) address
  obtain ⟨newcomers, _, shown⟩ := joined id
  rw [shown]
  cases network.listening? id <;> rfl

/-- An address reaches the listener that it reached before, and finds no more than the newcomers in its queue. -/
theorem Joined.listenerAt? {network later : Network} {crowd : SocketId → Nat} (joined : network.Joined later crowd)
    {address : SocketAddress} {server : SocketId} {listening : Listening}
    (reached : network.listenerAt? address = some (server, listening)) :
    ∃ newcomers : List SocketId, newcomers.length ≤ crowd server ∧
      later.listenerAt? address = some (server, { listening with queue := listening.queue ++ newcomers }) := by
  have shown := joined.heard address
  rw [reached] at shown
  obtain ⟨⟨found, now⟩, reachedNow, isServer⟩ := Option.map_eq_some_iff.mp shown
  obtain rfl : found = server := isServer
  obtain ⟨newcomers, bound, known⟩ := joined found
  rw [(listenerAt?_eq_some reached).1, (listenerAt?_eq_some reachedNow).1] at known
  cases known
  exact ⟨newcomers, bound, reachedNow⟩

theorem connect_answered {network : Network} {remote : SocketAddress} {server : SocketId} {listening : Listening}
    (up : network.routes.connectFault remote = none)
    (reached : network.listenerAt? remote = some (server, listening)) (room : hasRoom listening = true) :
    network.connect .agent remote = (.ok network.sockets.next,
      (network.add ⟨.agent, .stream (network.nearEnd remote)⟩).answered network.sockets.next server
        (network.nearEnd remote) listening) := by
  have near : (network.add ⟨.agent, .stream (network.nearEnd remote)⟩).stream? network.sockets.next =
      some (network.nearEnd remote) := by
    rw [stream?_add, if_pos rfl]
    rfl
  have reachedToo := listenerAt?_of_listening? (network.listening?_addStream .agent (network.nearEnd remote)) remote
  rw [reached] at reachedToo
  have answers : (network.add ⟨.agent, .stream (network.nearEnd remote)⟩).answer network.sockets.next =
      (network.add ⟨.agent, .stream (network.nearEnd remote)⟩).answered network.sockets.next server
        (network.nearEnd remote) listening := by
    rw [answer, near]
    dsimp only
    rw [show (network.nearEnd remote).there = remote from rfl, reachedToo]
    exact if_pos ⟨rfl, room⟩
  rw [← answers, connect_eq, up]

theorem joined_connect (network : Network) (remote : SocketAddress) :
    network.Joined (network.connect .agent remote).2 fun id =>
      if (network.listenerAt? remote).map Prod.fst = some id then 1 else 0 := by
  have added := network.listening?_addStream .agent (network.nearEnd remote)
  rcases network.connect_cases .agent remote with ⟨error, refused⟩ | granted
  · rw [refused]
    exact .of_same network.listening?_skip
  · rw [granted]
    dsimp only
    rcases answer_cases network.sockets.next (network.add ⟨.agent, .stream (network.nearEnd remote)⟩) with
      same | ⟨stream, server, listening, near, _, reached, _, answered⟩
    · rw [same]
      exact .of_same added
    · rw [stream?_add, if_pos rfl] at near
      cases near
      rw [listenerAt?_of_listening? added] at reached
      rw [answered]
      intro id
      rw [listening?_answered, added]
      by_cases isServer : server = id
      · subst isServer
        have dials : (network.listenerAt? remote).map Prod.fst = some server := congrArg (Option.map Prod.fst) reached
        refine ⟨[_], ?_, by rw [if_pos rfl]⟩
        dsimp only
        rw [if_pos dials]
        exact Nat.le_refl 1
      · refine ⟨[], Nat.zero_le _, ?_⟩
        rw [if_neg isServer]
        cases network.listening? id <;> simp

end Network
end InstrumentLink
