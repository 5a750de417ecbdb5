import InstrumentLink.Proofs.Endpoint.Taking
import InstrumentLink.Proofs.Inward
import InstrumentLink.Proofs.Settling

/-!
Those who wait at a listener are taken in line, one with each poll. Nobody is left out and nobody is taken twice, and
whoever was attached before is shut down and closed in the poll that takes the next one.
-/

namespace InstrumentLink

namespace Network

def line (network : Network) (listener : SocketId) : List SocketId :=
  match network.listening? listener with
  | some listening => listening.queue
  | none => []

theorem line_of_listening? {network : Network} {listener : SocketId} {listening : Listening}
    (there : network.listening? listener = some listening) : network.line listener = listening.queue := by
  rw [line, there]

theorem localAddress?_of_listening? {network : Network} {listener : SocketId} {listening : Listening}
    (there : network.listening? listener = some listening) :
    network.localAddress? listener = some listening.address := by
  obtain ⟨socket, found, shown⟩ := Option.bind_eq_some_iff.mp ((network.listening?_eq_bind listener).symm.trans there)
  rcases socket with ⟨owner, _ | _ | _ | _⟩ <;> cases shown
  rw [localAddress?, found]
  rfl

end Network

/-- A listener once so many of those who wait have been taken. -/
def Listener.afterTaking (listener : Listener) (queue : List SocketId) : Nat → Listener
  | 0 => listener
  | count + 1 => ⟨listener.socket, queue[count]?⟩

theorem Listener.socket_afterTaking (listener : Listener) (queue : List SocketId) (count : Nat) :
    (listener.afterTaking queue count).socket = listener.socket := by
  cases count <;> rfl

namespace Connection

variable {target : HostPort} {listener : Listener} {command : Endpoint .listener} {world : World}

theorem eq_of_listener? {connection : Connection} (listens : connection.listener? = some listener) :
    ∃ target command, connection = rsn (.ofListener target listener) command := by
  cases connection with
  | rsn data command =>
    obtain ⟨target, _⟩ := data
    cases listens
    exact ⟨target, command, rfl⟩
  | tcp data command | udp data | serial data => cases listens

/-- A listener that is up is left alone by an attempt, and there is no handshake to speak of. -/
theorem establish_listening (order : (rsn (.ofListener target listener) command).InOrder world) :
    (rsn (.ofListener target listener) command).establish.result world =
      ((rsn (.ofListener target listener) command, ⟨.alreadyConnected, .unsupported⟩), world) := by
  have up : (rsn (.ofListener target listener) command).live .data world = true :=
    order.listener_fits.live_listener order.sound rfl
  rw [establish_result, establishRole_of_live order up]
  rfl

theorem InOrder.peer_not_waiting (order : (rsn (.ofListener target listener) command).InOrder world)
    {listening : Listening} {door next : SocketId} (there : world.network.listening? door = some listening)
    (waits : next ∈ listening.queue) : listener.peer ≠ some next := by
  intro had
  obtain ⟨purpose, own, remote, rfl⟩ := order.sound.own?_of_ledger ((order.listener_fits listener rfl).peer next had)
  obtain ⟨stream, _, _, found⟩ := Network.own?_stream own
  have owned := (order.sound.network.queued there waits).1
  rw [Network.owner?, found] at owned
  cases owned

end Connection

namespace Agent

open Connection

variable {agent : Agent} {world later : World} {target : HostPort} {listener : Listener} {command : Endpoint .listener}

structure TakesNext (target : HostPort) (listener : Listener) (command : Endpoint .listener) (next : SocketId)
    (stream : Stream) (agent : Agent) (world : World) (polled : (Agent × Status) × World) : Prop where
  alone : polled.1.1.connection = rsn (.ofListener target ⟨listener.socket, some next⟩) command
  noted : polled.2.journal =
    world.journal ++ Listener.takingDeeds listener.socket listener.peer (listener.hungUp world) next
  said : polled.2.log = world.log ++ Listener.takingLines listener.peer (listener.hungUp world) stream.there ++
    if agent.lastStatus = some polled.1.2 then [] else [transition .rsn polled.1.2]
  attached : polled.1.2.peerAttached = some (!world.network.isOver next)
  seen : polled.2.network.isOver next = world.network.isOver next
  streams : ∀ id, next ≠ id → listener.peer ≠ some id →
    (∀ peer stream, listener.peer = some peer → world.network.stream? peer = some stream → stream.mate ≠ some id) →
      polled.2.network.stream? id = world.network.stream? id
  closed : ∀ peer, listener.peer = some peer → polled.2.network.socket? peer = none
  ended : ∀ peer near mate far, listener.peer = some peer → world.network.stream? peer = some near →
    near.mate = some mate → polled.2.network.stream? mate = some far → far.ended = true

theorem poll_takes_next {listening : Listening} {next : SocketId} {rest : List SocketId} {stream : Stream}
    (order : agent.connection.InOrder world) (listens : agent.connection = rsn (.ofListener target listener) command)
    (there : world.network.listening? listener.socket = some listening) (queue : listening.queue = next :: rest)
    (found : world.network.stream? next = some stream)
    (stranger : ∀ peer stream, listener.peer = some peer → world.network.stream? peer = some stream →
      stream.mate ≠ some next) :
    TakesNext target listener command next stream agent world (agent.poll.result world) ∧
      (agent.poll.result world).2.network.listening? listener.socket = some { listening with queue := rest } := by
  obtain ⟨connection, lastStatus⟩ := agent
  dsimp only at listens order
  subst listens
  have waits : next ∈ listening.queue := by rw [queue]; exact List.mem_cons_self
  have apart := order.peer_not_waiting there waits
  obtain ⟨accepted, takes, listenings⟩ :=
    Listener.takes_next order.sound (took_of_order order) there queue found apart stranger
  obtain ⟨told, result, quiet⟩ := takePeer_listener order
  have orderTaken := order.takePeer
  rw [result, quiet _ accepted, World.tell_nil] at orderTaken
  rw [quiet _ accepted, World.tell_nil] at result
  generalize (listener.releaseClosedPeer.result world).1.1.acceptPeer.result
    (listener.releaseClosedPeer.result world).2 = taken at accepted takes listenings result orderTaken
  obtain ⟨⟨after, answer⟩, middle⟩ := taken
  obtain ⟨rfl, noted, said, streams, closed, ended⟩ := takes
  dsimp only at noted said streams closed listenings result orderTaken
  -- What is left of the poll is the look at the new peer.
  have shown := (status_result orderTaken).1
  have looked : ((rsn (.ofListener target ⟨listener.socket, some next⟩) command).status.result middle).2 =
      { middle with network := (middle.network.peek next).2 } := orderTaken.world_status
  have same : middle.network.isOver next = world.network.isOver next :=
    Network.isOver_of_stream? (streams next apart stranger)
  have attached : (rsn (.ofListener target ⟨listener.socket, some next⟩) command).attached? middle =
      some (!world.network.isOver next) := by
    rw [← same]
    rfl
  rw [poll_eq, establish_listening order]
  have silent : pendingLines ⟨.alreadyConnected, .unsupported⟩ = [] := rfl
  dsimp only
  rw [silent, World.tell_nil, result]
  dsimp only
  rw [looked]
  constructor
  · constructor
    case alone => rfl
    case noted => exact noted
    case said => rw [World.tell_log, said]; rfl
    case attached => rw [shown]; exact attached
    case seen => exact (orderTaken.sound.network.isOver_peek next next).trans same
    case streams =>
      intro id other notPeer unknown
      refine Eq.trans ?_ (streams id notPeer unknown)
      exact Network.stream?_peek_other other middle.network
    case closed =>
      exact fun peer had => Network.gone_peek next (closed peer had)
    case ended =>
      intro peer near mate far had foundNear known there
      have other : next ≠ mate := fun same => stranger peer near had foundNear (same ▸ known)
      exact ended peer near mate far had foundNear known ((Network.stream?_peek_other other _).symm.trans there)
  · rw [World.tell_network, Network.listening?_peek, listenings, if_pos rfl]

theorem stranger_of_reachable (reached : Reachable agent world)
    (listens : agent.connection = rsn (.ofListener target listener) command) {listening : Listening}
    (there : world.network.listening? listener.socket = some listening) {id : SocketId} (waits : id ∈ listening.queue) :
    ∀ peer stream, listener.peer = some peer → world.network.stream? peer = some stream → stream.mate ≠ some id := by
  intro peer stream had found
  have order := inOrder_of_reachable reached
  rw [listens] at order
  obtain ⟨first, inward⟩ := World.inward_of_reachable reached
  obtain ⟨_, made, accepted⟩ := order.listener_fits listener rfl
  obtain ⟨request, asked, opened⟩ := made
  obtain ⟨address, _, rfl⟩ := map_eq_ok asked
  have own : first ≤ listener.socket := inward.opened opened
  obtain ⟨other, otherFound⟩ := Option.isSome_iff_exists.mp (order.sound.network.queued there waits).2
  have far : world.network.Far peer := inward.taken (accepted peer had) own
  exact far.stranger order.sound.network (inward.waiting own there waits) found otherFound

/-- How things stand once so many of those who waited at the start have been taken. -/
structure InLine (start : World) (target : HostPort) (listener : Listener) (command : Endpoint .listener)
    (listening : Listening) (count : Nat) (agent : Agent) (world : World) : Prop where
  attached : agent.connection = rsn (.ofListener target (listener.afterTaking listening.queue count)) command
  waiting : world.network.listening? listener.socket = some { listening with queue := listening.queue.drop count }
  unseen : ∀ id ∈ listening.queue.drop count, world.network.stream? id = start.network.stream? id
  seen : (listener.afterTaking listening.queue count).hungUp world =
    (listener.afterTaking listening.queue count).hungUp start
  closed : ∀ earlier < count, ∀ peer, (listener.afterTaking listening.queue earlier).peer = some peer →
    peer < world.network.sockets.next ∧ world.network.socket? peer = none
  taken : world.peersTaken = start.peersTaken ++ (listening.queue.take count).map (Deed.accept listener.socket)

theorem peersTaken_takingDeeds {world later : World} {door next : SocketId} {previous : Option SocketId} {hungUp : Bool}
    (noted : later.journal = world.journal ++ Listener.takingDeeds door previous hungUp next) :
    later.peersTaken = world.peersTaken ++ [.accept door next] := by
  rw [World.peersTaken, noted, List.filter_append]
  congr 1
  cases previous with
  | none => rfl
  | some peer => cases hungUp <;> rfl

theorem InLine.poll {start : World} {listening : Listening} {count : Nat} {next : SocketId}
    (inLine : InLine start target listener command listening count agent world) (reached : Reachable agent world)
    (nth : listening.queue[count]? = some next) :
    ∃ stream, start.network.stream? next = some stream ∧
      TakesNext target (listener.afterTaking listening.queue count) command next stream agent world
        (agent.poll.result world) ∧
      InLine start target listener command listening (count + 1) (agent.poll.result world).1.1
        (agent.poll.result world).2 := by
  have order := inOrder_of_reachable reached
  obtain ⟨small, isNext⟩ := List.getElem?_eq_some_iff.mp nth
  have queue : listening.queue.drop count = next :: listening.queue.drop (count + 1) := by
    rw [← isNext, List.getElem_cons_drop]
  have socket := listener.socket_afterTaking listening.queue count
  have there := inLine.waiting
  rw [← socket] at there
  have waits : ∀ id ∈ listening.queue.drop (count + 1), id ∈ listening.queue.drop count := by
    intro id later
    rw [queue]
    exact List.mem_cons_of_mem next later
  have isFirst : next ∈ listening.queue.drop count := by
    rw [queue]
    exact List.mem_cons_self
  obtain ⟨stream, found⟩ := Option.isSome_iff_exists.mp (order.sound.network.queued there isFirst).2
  have onward : world.network.Onward (agent.poll.result world).2.network := World.onward_perform .poll agent world
  obtain ⟨takes, left⟩ := poll_takes_next order inLine.attached there queue found
    (stranger_of_reachable reached inLine.attached there isFirst)
  have foundStart : start.network.stream? next = some stream := (inLine.unseen next isFirst).symm.trans found
  -- Nobody waits twice, so the rest of the queue has not been touched yet.
  have once : (next :: listening.queue.drop (count + 1)).Nodup := queue ▸ order.sound.network.once there
  have orderNow := order
  rw [inLine.attached] at orderNow
  refine ⟨stream, foundStart, takes, ?_⟩
  constructor
  case attached =>
    rw [takes.alone, socket, Listener.afterTaking, nth]
  case waiting =>
    rw [← socket, left]
  case unseen =>
    intro id later
    have different : next ≠ id := fun same => (List.nodup_cons.mp once).1 (same ▸ later)
    refine (takes.streams id different ?_ ?_).trans (inLine.unseen id (waits id later))
    · exact orderNow.peer_not_waiting there (waits id later)
    · exact stranger_of_reachable reached inLine.attached there (waits id later)
  case seen =>
    have same : world.network.isOver next = start.network.isOver next :=
      Network.isOver_of_stream? (inLine.unseen next isFirst)
    rw [Listener.afterTaking, Listener.hungUp, Listener.hungUp, nth]
    exact takes.seen.trans same
  case closed =>
    intro earlier before peer had
    rcases Nat.lt_succ_iff_lt_or_eq.mp before with long | last
    · obtain ⟨old, gone⟩ := inLine.closed earlier long peer had
      exact ⟨Nat.lt_of_lt_of_le old onward.next, onward.gone old gone⟩
    · subst last
      have isOpen := Option.isSome_of_eq_some ((orderNow.listener_fits _ rfl).peer peer had)
      have old : peer < world.network.sockets.next := (World.outward_of_reachable reached).numbered isOpen
      exact ⟨Nat.lt_of_lt_of_le old onward.next, takes.closed peer had⟩
  case taken =>
    rw [peersTaken_takingDeeds takes.noted, inLine.taken, socket, List.take_add_one, nth, List.map_append,
      List.append_assoc]
    rfl

theorem reachable_afterPolls {start : Agent × World} (reached : Reachable start.1 start.2) (count : Nat) :
    Reachable (afterPolls (fun _ => []) start count).1 (afterPolls (fun _ => []) start count).2 := by
  induction count with
  | zero => exact reached
  | succ count ih => exact ih.step .poll

theorem inLine_afterPolls {start : Agent × World} (reached : Reachable start.1 start.2)
    (listens : start.1.connection = rsn (.ofListener target listener) command) {listening : Listening}
    (there : start.2.network.listening? listener.socket = some listening) {count : Nat}
    (enough : count ≤ listening.queue.length) :
    InLine start.2 target listener command listening count (afterPolls (fun _ => []) start count).1
      (afterPolls (fun _ => []) start count).2 := by
  induction count with
  | zero =>
    constructor
    case attached => exact listens
    case waiting => exact there
    case unseen => exact fun _ _ => rfl
    case seen => rfl
    case closed => exact fun earlier before => absurd before (Nat.not_lt_zero earlier)
    case taken => exact (List.append_nil _).symm
  | succ count ih =>
    have nth := List.getElem?_eq_getElem (Nat.lt_of_succ_le enough)
    obtain ⟨stream, _, _, next⟩ := (ih (Nat.le_of_succ_le enough)).poll (reachable_afterPolls reached count) nth
    exact next

end Agent

/-- Whatever has happened to an agent that listens, let nothing happen from now on but its polls. Each of them takes the
one who has waited longest, as long as anybody waits: so many polls later so many have been taken, in the order in which
they stood at the start, the last of them is attached, all before are closed, and the listener is bound as it was. The poll
that takes the next one shuts down whoever was attached, both ways and once, and closes it, so that the other end sees the
end of the stream; it says of a peer that had hung up that it has, and of any other that it is replaced; and it returns that
a peer is attached just if the new one has not hung up. Whether somebody has hung up is seen at the start. -/
theorem waiting_peers_are_taken_in_line {start : Agent × World} (reached : Reachable start.1 start.2)
    {listener : Listener} (listens : start.1.connection.listener? = some listener) :
    let callers := start.2.network.line listener.socket
    ∃ address, ∀ count ≤ callers.length,
      let state := Agent.afterPolls (fun _ => []) start count
      let present := listener.afterTaking callers count
      state.1.connection = start.1.connection.withListener present ∧
      state.2.network.localAddress? listener.socket = some address ∧
      state.2.network.line listener.socket = callers.drop count ∧
      state.2.peersTaken = start.2.peersTaken ++ (callers.take count).map (Deed.accept listener.socket) ∧
      (∀ earlier < count, ∀ peer, (listener.afterTaking callers earlier).peer = some peer →
        state.2.network.socket? peer = none) ∧
      ∀ next, callers[count]? = some next →
        ∃ stream, start.2.network.stream? next = some stream ∧
          let polled := Agent.pollAfter [] state
          let hungUp := present.hungUp start.2
          polled.2.journal = state.2.journal ++ Listener.takingDeeds listener.socket present.peer hungUp next ∧
          polled.2.log = state.2.log ++ Listener.takingLines present.peer hungUp stream.there ++
            (if state.1.lastStatus = some polled.1.2 then [] else [Agent.transition .rsn polled.1.2]) ∧
          polled.1.2.peerAttached = some (!start.2.network.isOver next) ∧
          ∀ peer near mate far, present.peer = some peer → state.2.network.stream? peer = some near →
            near.mate = some mate → polled.2.network.stream? mate = some far → far.ended = true := by
  intro callers
  obtain ⟨target, command, is⟩ := Connection.eq_of_listener? listens
  have order := inOrder_of_reachable reached
  rw [is] at order
  obtain ⟨request, asked, own⟩ := order.listener_fits.own? order.sound rfl
  obtain ⟨address, _, rfl⟩ := map_eq_ok asked
  refine ⟨address, fun count enough => ?_⟩
  intro state present
  have bound : start.2.network.localAddress? listener.socket = some address := Network.localAddress?_of_own? own
  cases there : start.2.network.listening? listener.socket with
  | none =>
    -- A listener that is broken has nobody who waits.
    have empty : callers = [] := by
      change start.2.network.line listener.socket = []
      rw [Network.line, there]
    obtain rfl : count = 0 := by simpa [empty] using enough
    refine ⟨by rw [is]; exact is, bound, ?_, ?_, fun earlier before => absurd before (Nat.not_lt_zero earlier), fun next nth => ?_⟩
    · rfl
    · exact (List.append_nil _).symm
    · rw [empty] at nth
      cases nth
  | some listening =>
    have queue : callers = listening.queue := Network.line_of_listening? there
    rw [Network.localAddress?_of_listening? there] at bound
    have reachedThen : Reachable state.1 state.2 := Agent.reachable_afterPolls reached count
    have inLine : Agent.InLine start.2 target listener command listening count state.1 state.2 :=
      Agent.inLine_afterPolls reached is there (queue ▸ enough)
    dsimp only [present]
    rw [queue, is]
    refine ⟨inLine.attached, ?_, ?_, inLine.taken, fun earlier before peer had =>
      (inLine.closed earlier before peer had).2, fun next nth => ?_⟩
    · exact (Network.localAddress?_of_listening? inLine.waiting).trans bound
    · exact Network.line_of_listening? inLine.waiting
    · obtain ⟨stream, found, takes, later⟩ := inLine.poll reachedThen nth
      have isNext : next ∈ listening.queue.drop count := by
        rw [List.mem_iff_getElem?]
        exact ⟨0, by rw [List.getElem?_drop, Nat.add_zero, nth]⟩
      have same : state.2.network.isOver next = start.2.network.isOver next :=
        Network.isOver_of_stream? (inLine.unseen next isNext)
      have noted := takes.noted
      have said := takes.said
      rw [inLine.seen] at noted said
      rw [listener.socket_afterTaking] at noted
      exact ⟨stream, found, noted, said, takes.attached.trans (congrArg (fun gone => some (!gone)) same), takes.ended⟩

def callersInLine : Agent × World :=
  (Agent.performAll [.poll, .event (.dial ⟨.v4 .localhost, 5001⟩), .poll, .event (.dial ⟨.v4 .localhost, 5001⟩),
      .event (.dial ⟨.v4 .localhost, 5001⟩), .event (.close 3)]
    (.ofConnection (.ofSettings (.rsn ⟨"", 5001, "", 0⟩)))).result (World.ofRoutes .loopback)

theorem reachable_callersInLine : Reachable callersInLine.1 callersInLine.2 :=
  Reachable.performAll (.start (.ofRoutes .loopback) _) _

/-- The first poll replaces the peer with one who has hung up, and the second says so and takes the last. Either way the
peer before is shut down and closed; the other end of the first is there still and sees the end. -/
theorem waiting_peers_are_taken_in_line_callers :
    callersInLine.1.connection.listener? = some ⟨0, some 2⟩ ∧
      (Agent.pollAfter [] (Agent.afterPolls (fun _ => []) callersInLine 0)).1.2.peerAttached = some false ∧
      (Agent.pollAfter [] (Agent.afterPolls (fun _ => []) callersInLine 1)).1.2.peerAttached = some true ∧
      (Agent.pollAfter [] (Agent.afterPolls (fun _ => []) callersInLine 0)).2.journal =
        (Agent.afterPolls (fun _ => []) callersInLine 0).2.journal ++ [.accept 0 4, .shutdown 2 .both, .close 2] ∧
      (Agent.pollAfter [] (Agent.afterPolls (fun _ => []) callersInLine 1)).2.journal =
        (Agent.afterPolls (fun _ => []) callersInLine 1).2.journal ++ [.shutdown 4 .both, .close 4, .accept 0 6] ∧
      ∃ far, (Agent.pollAfter [] (Agent.afterPolls (fun _ => []) callersInLine 0)).2.network.stream? 1 = some far ∧
        far.ended = true := by
  have listens : callersInLine.1.connection.listener? = some ⟨0, some 2⟩ := by decide +kernel
  have queue : callersInLine.2.network.line 0 = [4, 6] := by decide +kernel
  have attached : callersInLine.2.network.isOver 2 = false := by decide +kernel
  have first : callersInLine.2.network.isOver 4 = true := by decide +kernel
  have second : callersInLine.2.network.isOver 6 = false := by decide +kernel
  have known : ((Agent.afterPolls (fun _ => []) callersInLine 0).2.network.stream? 2).map Stream.mate = some (some 1) := by
    decide +kernel
  have there : ((Agent.pollAfter [] (Agent.afterPolls (fun _ => []) callersInLine 0)).2.network.stream? 1).isSome := by
    decide +kernel
  obtain ⟨address, taken⟩ := waiting_peers_are_taken_in_line reachable_callersInLine listens
  dsimp only at taken
  rw [queue] at taken
  obtain ⟨_, _, _, _, _, one⟩ := taken 0 (Nat.zero_le 2)
  obtain ⟨_, _, noted, _, seen, ended⟩ := one 4 rfl
  obtain ⟨_, _, _, _, _, two⟩ := taken 1 (Nat.le_succ 1)
  obtain ⟨_, _, notedToo, _, seenToo, _⟩ := two 6 rfl
  obtain ⟨near, nearFound, isMate⟩ := Option.map_eq_some_iff.mp known
  obtain ⟨far, farFound⟩ := Option.isSome_iff_exists.mp there
  rw [first] at seen
  rw [second] at seenToo
  simp only [Listener.afterTaking, Listener.hungUp, Option.any_some, attached] at noted
  simp only [Listener.afterTaking, Listener.hungUp, List.getElem?_cons_zero, Option.any_some, first] at notedToo
  exact ⟨listens, seen, seenToo, noted, notedToo, far, farFound, ended 2 near 1 far rfl nearFound isMate farFound⟩

end InstrumentLink
