import InstrumentLink.Proofs.Lasting
import InstrumentLink.Proofs.Network.Onward

/-!
The agent's own clients never talk to each other. The other end of a connection that the agent has dialled came into the
world after it, so that of two that the agent has dialled neither can be the other end of the other.
-/

namespace InstrumentLink

theorem Network.lt_next_of_accept {network : Network} {owner : Owner} {listener : SocketId} {taken : Nat}
    {address : SocketAddress} (accepted : (network.accept owner listener).1 = .ok (some (taken, address))) :
    taken < network.sockets.next := by
  unfold Network.accept at accepted
  split at accepted
  · cases accepted
  · split at accepted
    · cases accepted
    · split at accepted
      · cases accepted
      next found =>
        cases accepted
        exact lt_next_of_stream? found

namespace World

/-- What the agent has dialled has greater numbers at its other ends. -/
structure Outward (world : World) : Prop where
  numbered : ∀ {id : Nat}, (world.ledger (.socket id)).isSome → id < world.network.sockets.next
  ahead : ∀ {id mate : Nat} {remote made stream}, world.ledger (.socket id) = some (.connect remote made) →
    world.network.stream? id = some stream → stream.mate = some mate → id < mate

namespace Outward

variable {world later : World}

theorem start (untouched : world.Untouched) : world.Outward := by
  have nothing : ∀ id, world.ledger (.socket id) = none := by
    intro id
    rw [ledger, untouched.journal]
    rfl
  constructor
  · intro id isOpen
    rw [nothing] at isOpen
    cases isOpen
  · intro id mate remote made stream dialled
    rw [nothing] at dialled
    cases dialled

theorem onward (outward : world.Outward) (onward : world.network.Onward later.network)
    (old : ∀ {id deed}, later.ledger (.socket id) = some deed → world.ledger (.socket id) = some deed) :
    later.Outward := by
  have numbered : ∀ {id : Nat}, (later.ledger (.socket id)).isSome → id < world.network.sockets.next := by
    intro id isOpen
    obtain ⟨deed, found⟩ := Option.isSome_iff_exists.mp isOpen
    exact outward.numbered (Option.isSome_of_eq_some (old found))
  constructor
  · intro id isOpen
    have small := numbered isOpen
    have grown := onward.next
    omega
  · intro id mate remote made stream dialled found known
    have small := numbered (Option.isSome_of_eq_some dialled)
    rcases onward.mates small found known with greater | ⟨before, foundBefore, knownBefore⟩
    · exact greater
    · exact outward.ahead (old dialled) foundBefore knownBefore

theorem withNetwork (outward : world.Outward) {network : Network} (onward : world.network.Onward network) :
    ({ world with network } : World).Outward :=
  outward.onward onward fun found => found

/-- Something new of the agent's, without another end, in a network that has gone on from there. -/
theorem added (outward : world.Outward) (socket : Socket) (deed : Deed)
    (alone : ∀ stream, socket.stream? = some stream → stream.mate = none)
    (nobody : ∀ listening, socket.listening? = some listening → listening.queue = [])
    (onward : (world.network.add socket).Onward later.network)
    (entered : ∀ id : Nat, later.ledger (.socket id) =
      if id = world.network.sockets.next then some deed else world.ledger (.socket id)) : later.Outward := by
  have grown := onward.next
  rw [Network.next_add] at grown
  constructor
  · intro id isOpen
    rw [entered] at isOpen
    split at isOpen
    next new => omega
    next =>
      have small := outward.numbered isOpen
      omega
  · intro id mate remote made stream dialled found known
    rw [entered] at dialled
    by_cases new : id = world.network.sockets.next
    · have small : id < (world.network.add socket).sockets.next := by
        rw [Network.next_add]
        omega
      rcases onward.mates small found known with greater | ⟨before, foundBefore, knownBefore⟩
      · exact greater
      · rw [Network.stream?_add, if_pos new] at foundBefore
        rw [alone before foundBefore] at knownBefore
        cases knownBefore
    · rw [if_neg new] at dialled
      have small := outward.numbered (Option.isSome_of_eq_some dialled)
      rcases ((Network.Onward.add nobody world.network).trans onward).mates small found known with
        greater | ⟨before, foundBefore, knownBefore⟩
      · exact greater
      · exact outward.ahead dialled foundBefore knownBefore

theorem onward_request (request : Request) (world : World) :
    world.network.Onward (request.act.result world).2.network := by
  rcases request_made request world with ⟨state, made, _⟩ | ⟨path, baudRate, rfl⟩
  · exact .made made
  · exact .refl world.network

theorem onward_shut (gone : Parting) (world : World) : world.network.Onward ((Act.shut gone).result world).2.network := by
  obtain ⟨id | id, ways⟩ := gone
  · rw [result_shut_socket]
    exact .part ways id world.network
  · exact .refl world.network

/-- A request that is refused enters nothing; what a granted one gets is new, and knows no other end that is not newer
still. -/
theorem request (outward : world.Outward) (request : Request) : (request.act.result world).2.Outward := by
  have entered := fun id => ledger_request request (.socket id) world
  rcases request_made request world with ⟨state, made, _, asks, _⟩ | ⟨path, baudRate, rfl⟩
  · generalize isMade : ((request.act.result world).1, (request.act.result world).2.network) = outcome at made
    cases made with
    | refused error =>
      obtain ⟨got, network⟩ := Prod.mk.inj isMade
      refine outward.onward (onward_request request world) fun {id deed} found => ?_
      rw [entered, got] at found
      exact found
    | granted fresh =>
      obtain ⟨got, network⟩ := Prod.mk.inj isMade
      refine outward.added ⟨.agent, state⟩ (request.deed (some world.network.sockets.next)) fresh.alone fresh.nobody ?_
        fun id => ?_
      · rw [network]
        exact .answer _ _
      · rw [entered, got]
        simp only [Act.toOption, Option.map_some, Option.some.injEq, asks, Asset.socket.injEq, eq_comm]
  · refine outward.onward (onward_request _ world) fun {id deed} found => ?_
    rw [entered] at found
    split at found
    next new =>
      obtain ⟨got, _, isSocket⟩ := Option.map_eq_some_iff.mp new
      cases isSocket
    next => exact found

theorem shut (outward : world.Outward) (gone : Parting) : ((Act.shut gone).result world).2.Outward := by
  refine outward.onward (onward_shut gone world) fun {id deed} found => ?_
  rw [ledger, journal_shut, ledger_parting] at found
  split at found
  · cases found
  · exact found

theorem accept (outward : world.Outward) (listener : SocketId) : ((Act.accept listener).result world).2.Outward := by
  have onward : world.network.Onward ((Act.accept listener).result world).2.network := by
    rw [Act.result_accept]
    exact .accept .agent listener world.network
  have journal : ((Act.accept listener).result world).2.journal =
      world.journal ++ Act.acceptDeeds listener ((Act.accept listener).result world).1 := by
    rw [Act.result_accept]
  -- Where nobody is taken nothing is entered in the journal.
  have nobody : Act.acceptDeeds listener ((Act.accept listener).result world).1 = [] →
      ((Act.accept listener).result world).2.Outward := by
    intro none
    rw [none, List.append_nil] at journal
    refine outward.onward onward fun {id deed} found => ?_
    rw [ledger, journal] at found
    exact found
  rcases outcome : ((Act.accept listener).result world).1 with error | _ | ⟨taken, address⟩
  · exact nobody (by rw [outcome]; rfl)
  · exact nobody (by rw [outcome]; rfl)
  · rw [outcome, Act.acceptDeeds] at journal
    have shown : ∀ id : Nat, ((Act.accept listener).result world).2.ledger (.socket id) =
        if taken = id then some (.accept listener taken) else world.ledger (.socket id) := by
      intro id
      rw [ledger, journal, ledger_append, Deed.enter]
      simp [Deed.made?, Deed.closed?, ledger]
    have there : taken < world.network.sockets.next := by
      rw [Act.result_accept] at outcome
      exact Network.lt_next_of_accept outcome
    constructor
    · intro id isOpen
      have grown := onward.next
      rw [shown] at isOpen
      split at isOpen
      next same =>
        subst same
        exact Nat.lt_of_lt_of_le there grown
      next =>
        have small := outward.numbered isOpen
        omega
    · intro id mate remote made stream dialled found known
      rw [shown] at dialled
      split at dialled
      · cases dialled
      · have small := outward.numbered (Option.isSome_of_eq_some dialled)
        rcases onward.mates small found known with greater | ⟨before, foundBefore, knownBefore⟩
        · exact greater
        · exact outward.ahead dialled foundBefore knownBefore

theorem tell (outward : world.Outward) (entries : List LogEntry) : (world.tell entries).Outward :=
  ⟨outward.numbered, outward.ahead⟩

theorem lasting : World.Lasting World.Outward where
  tell _ outward := outward.tell _
  request asked outward := outward.request asked
  shut gone outward := outward.shut gone
  accept listener outward := outward.accept listener
  takeError id outward := outward.withNetwork (.takeError id _)
  isOver id outward := outward.withNetwork (.peek id _)
  receive id count outward := outward.withNetwork (.receive id count _)
  send id bytes outward := outward.withNetwork (.send id bytes _)
  lineReceive _ _ outward := ⟨outward.numbered, outward.ahead⟩
  lineSend _ _ outward := ⟨outward.numbered, outward.ahead⟩
  event event outward := outward.onward (.event event _) fun found => found

theorem stranger (outward : world.Outward) (sound : world.network.Sound) {id other : Nat}
    {remote otherRemote : SocketAddress} {made otherMade : Option SocketId} {stream otherStream : Stream}
    (dialled : world.ledger (.socket id) = some (.connect remote made))
    (otherDialled : world.ledger (.socket other) = some (.connect otherRemote otherMade))
    (found : world.network.stream? id = some stream) (otherFound : world.network.stream? other = some otherStream) :
    stream.mate ≠ some other := by
  intro known
  have back := (sound.mates found known otherFound).2
  have first := outward.ahead dialled found known
  have second := outward.ahead otherDialled otherFound back
  omega

end Outward

theorem lasting_onward (network : Network) : World.Lasting fun world => network.Onward world.network where
  tell _ onward := onward
  request {world} request onward := onward.trans (Outward.onward_request request world)
  shut {world} gone onward := onward.trans (Outward.onward_shut gone world)
  accept listener onward := by
    rw [Act.result_accept]
    exact onward.trans (.accept .agent listener _)
  takeError id onward := onward.trans (.takeError id _)
  isOver id onward := onward.trans (.peek id _)
  receive id count onward := onward.trans (.receive id count _)
  send id bytes onward := onward.trans (.send id bytes _)
  lineReceive _ _ onward := onward
  lineSend _ _ onward := onward
  event event onward := onward.trans (.event event _)

theorem onward_perform (move : Move) (agent : Agent) (world : World) :
    world.network.Onward ((agent.perform move).result world).2.network :=
  (lasting_onward world.network).perform (fun _ onward => onward) move agent world (.refl _)

theorem outward_of_reachable {agent : Agent} {world : World} (reached : Reachable agent world) : world.Outward :=
  Outward.lasting.of_reachable (fun entries outward => outward.tell entries) Outward.start reached

end World
end InstrumentLink
