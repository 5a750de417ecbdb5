import InstrumentLink.Proofs.Network.Room

/-!
Two networks that differ at most in what dead streams have still to tell. Whatever is done to both, but asking one of these
streams for its error, gives the same and leaves them so.
-/

namespace InstrumentLink

/-- What a read gives, whether or not the error of a dead stream was still to be told. -/
def Received.seen : Received → Received
  | .failed _ => .ended
  | received => received

namespace Stream

/-- The same stream, but for an error that is still to be told. Only a dead stream has any. -/
def Like (stream other : Stream) : Prop :=
  ∃ error, other = { stream with error } ∧ (stream.error.isSome ∨ error.isSome → stream.phase = .dead)

theorem Sound.like {stream : Stream} (sound : stream.Sound) : stream.Like stream :=
  ⟨stream.error, rfl, fun told => sound.dead_of_error (told.elim id id)⟩

theorem afterReceive_of_empty {stream : Stream} (empty : stream.inbox = []) {count : Nat} :
    stream.afterReceive count = stream.afterPeek := by
  obtain ⟨here, there, mate, phase, inbox, ended, error, shut, shares⟩ := stream
  obtain rfl : inbox = [] := empty
  cases ended <;> cases error <;> cases phase <;> rfl

namespace Like

variable {stream other : Stream}

theorem eq_of_phase (like : stream.Like other) (alive : stream.phase ≠ .dead) : other = stream ∧ stream.error = none := by
  obtain ⟨error, rfl, dead⟩ := like
  have none : stream.error = none ∧ error = none := by
    constructor
    · exact Option.not_isSome_iff_eq_none.mp fun told => alive (dead (.inl told))
    · exact Option.not_isSome_iff_eq_none.mp fun told => alive (dead (.inr told))
  refine ⟨?_, none.1⟩
  obtain ⟨here, there, mate, phase, inbox, ended, _, shut, shares⟩ := stream
  rw [none.2, ← none.1]

theorem of_quiet (quiet : stream.error = none) : stream.Like stream :=
  ⟨stream.error, rfl, fun told => by simp [quiet] at told⟩

theorem seen (like : stream.Like other) (count : Nat) :
    other.peek.isOver = stream.peek.isOver ∧ (other.receive count).seen = (stream.receive count).seen := by
  obtain ⟨error, rfl, dead⟩ := like
  obtain ⟨here, there, mate, phase, inbox, ended, told, shut, shares⟩ := stream
  cases inbox with
  | cons first rest => exact ⟨rfl, rfl⟩
  | nil =>
    cases ended with
    | true => exact ⟨rfl, rfl⟩
    | false =>
      cases told with
      | some before =>
        obtain rfl : phase = .dead := dead (.inl rfl)
        cases error <;> exact ⟨rfl, rfl⟩
      | none =>
        cases error with
        | none => exact ⟨rfl, rfl⟩
        | some after =>
          obtain rfl : phase = .dead := dead (.inr rfl)
          exact ⟨rfl, rfl⟩

theorem symm (like : stream.Like other) : other.Like stream := by
  obtain ⟨error, rfl, dead⟩ := like
  exact ⟨stream.error, rfl, fun told => dead told.symm⟩

theorem peek (like : stream.Like other) : stream.Like other.afterPeek := by
  unfold Stream.afterPeek
  split
  · obtain ⟨error, rfl, dead⟩ := like
    exact ⟨none, rfl, fun told => dead (told.imp_right fun none => nomatch none)⟩
  · exact like

theorem afterPeek (like : stream.Like other) : stream.afterPeek.Like other.afterPeek := like.symm.peek.symm.peek

theorem afterReceive (like : stream.Like other) (count : Nat) :
    (stream.afterReceive count).Like (other.afterReceive count) := by
  have looked := like.afterPeek
  obtain ⟨error, rfl, dead⟩ := like
  obtain ⟨here, there, mate, phase, inbox, ended, told, shut, shares⟩ := stream
  cases inbox with
  | nil =>
    rw [afterReceive_of_empty rfl, afterReceive_of_empty rfl]
    exact looked
  | cons first rest => exact ⟨error, rfl, dead⟩

theorem arrive (like : stream.Like other) (bytes : List UInt8) : (stream.arrive bytes).Like (other.arrive bytes) := by
  obtain ⟨error, rfl, dead⟩ := like
  exact ⟨error, rfl, dead⟩

theorem finish (like : stream.Like other) : stream.finish.Like other.finish := by
  obtain ⟨error, rfl, dead⟩ := like
  exact ⟨error, rfl, dead⟩

theorem shutDown (like : stream.Like other) (ways : Ways) : (stream.shutDown ways).Like (other.shutDown ways) := by
  obtain ⟨error, rfl, dead⟩ := like
  exact ⟨error, rfl, dead⟩

theorem fail (like : stream.Like other) (error : IoError) : (stream.fail error).Like (other.fail error) := by
  obtain ⟨_, rfl, _⟩ := like
  exact ⟨some error, rfl, fun _ => rfl⟩

theorem reset (like : stream.Like other) : stream.reset.Like other.reset := by
  obtain ⟨_, rfl, _⟩ := like
  exact ⟨_, rfl, fun _ => rfl⟩

theorem failIf (like : stream.Like other) (hit : Stream → Prop) [DecidablePred hit] (same : hit other ↔ hit stream)
    (error : IoError) :
    (if hit stream then stream.fail error else stream).Like (if hit other then other.fail error else other) := by
  by_cases broken : hit stream
  · rw [if_pos broken, if_pos (same.mpr broken)]
    exact like.fail error
  · rw [if_neg broken, if_neg fun hits => broken (same.mp hits)]
    exact like

end Like
end Stream

inductive Socket.Like : Socket → Socket → Prop
  | stream (owner : Owner) {stream other : Stream} (like : stream.Like other) :
    Like ⟨owner, .stream stream⟩ ⟨owner, .stream other⟩
  | listening (owner : Owner) (listening : Listening) : Like ⟨owner, .listening listening⟩ ⟨owner, .listening listening⟩
  | datagram (owner : Owner) (there : SocketAddress) : Like ⟨owner, .datagram there⟩ ⟨owner, .datagram there⟩
  | idle (owner : Owner) (idle : Idle) : Like ⟨owner, .idle idle⟩ ⟨owner, .idle idle⟩

namespace Socket.Like

variable {socket other : Socket}

theorem mapStream {f g : Stream → Stream} (like : socket.Like other)
    (alike : ∀ {stream other}, stream.Like other → (f stream).Like (g other)) :
    (socket.mapStream f).Like (other.mapStream g) := by
  cases like with
  | stream owner like => exact .stream owner (alike like)
  | listening owner listening => exact .listening owner listening
  | datagram owner there => exact .datagram owner there
  | idle owner idle => exact .idle owner idle

theorem mapRight {f : Stream → Stream} (like : socket.Like other)
    (alike : ∀ {stream other : Stream}, stream.Like other → stream.Like (f other)) : socket.Like (other.mapStream f) := by
  cases like with
  | stream owner like => exact .stream owner (alike like)
  | listening owner listening => exact .listening owner listening
  | datagram owner there => exact .datagram owner there
  | idle owner idle => exact .idle owner idle

theorem mapListening (like : socket.Like other) (f : Listening → Listening) :
    (socket.mapListening f).Like (other.mapListening f) := by
  cases like with
  | stream owner like => exact .stream owner like
  | listening owner listening => exact .listening owner (f listening)
  | datagram owner there => exact .datagram owner there
  | idle owner idle => exact .idle owner idle

theorem setOwner (like : socket.Like other) (owner : Owner) : Like { socket with owner } { other with owner } := by
  cases like with
  | stream _ like => exact .stream owner like
  | listening _ listening => exact .listening owner listening
  | datagram _ there => exact .datagram owner there
  | idle _ idle => exact .idle owner idle

theorem blocks (like : socket.Like other) (address : SocketAddress) (shares : Bool) :
    other.state.blocks address shares = socket.state.blocks address shares := by
  cases like with
  | stream owner like =>
    obtain ⟨_, rfl, _⟩ := like
    rfl
  | listening owner listening => rfl
  | datagram owner there => rfl
  | idle owner idle => rfl

end Socket.Like

namespace Network

/-- The same network, but for what dead streams have still to tell. -/
structure Like (network later : Network) : Prop where
  routes : later.routes = network.routes
  next : later.sockets.next = network.sockets.next
  sockets : ∀ id, Option.Rel Socket.Like (network.socket? id) (later.socket? id)
  lingering : later.lingering = network.lingering

theorem Sound.like {network : Network} (sound : network.Sound) : network.Like network := by
  refine ⟨rfl, rfl, fun id => ?_, rfl⟩
  cases found : network.socket? id with
  | none => exact .none
  | some socket =>
    refine .some ?_
    obtain ⟨owner, state⟩ := socket
    cases state with
    | stream stream => exact .stream owner (sound.streams (stream?_of_state (by rw [found]; rfl))).like
    | listening listening => exact .listening owner listening
    | datagram there => exact .datagram owner there
    | idle idle => exact .idle owner idle

namespace Like

variable {network later : Network}

theorem socket_cases (like : network.Like later) (id : SocketId) :
    network.socket? id = none ∧ later.socket? id = none ∨
      ∃ socket other, network.socket? id = some socket ∧ later.socket? id = some other ∧ socket.Like other := by
  have alike := like.sockets id
  cases found : network.socket? id with
  | none =>
    rw [found] at alike
    generalize later.socket? id = there at alike
    cases alike
    exact .inl ⟨rfl, rfl⟩
  | some socket =>
    rw [found] at alike
    cases foundToo : later.socket? id with
    | none =>
      rw [foundToo] at alike
      cases alike
    | some other =>
      rw [foundToo] at alike
      cases alike with
      | some alike => exact .inr ⟨socket, other, rfl, rfl, alike⟩

theorem stream_cases (like : network.Like later) (id : SocketId) :
    network.stream? id = none ∧ later.stream? id = none ∨
      ∃ stream other, network.stream? id = some stream ∧ later.stream? id = some other ∧ stream.Like other := by
  rw [stream?_eq_bind, stream?_eq_bind]
  rcases like.socket_cases id with ⟨none, noneToo⟩ | ⟨socket, other, found, foundToo, alike⟩
  · rw [none, noneToo]
    exact .inl ⟨rfl, rfl⟩
  · rw [found, foundToo]
    cases alike with
    | stream owner alike => exact .inr ⟨_, _, rfl, rfl, alike⟩
    | listening owner listening => exact .inl ⟨rfl, rfl⟩
    | datagram owner there => exact .inl ⟨rfl, rfl⟩
    | idle owner idle => exact .inl ⟨rfl, rfl⟩

theorem listening? (like : network.Like later) (id : SocketId) : later.listening? id = network.listening? id := by
  rw [listening?_eq_bind, listening?_eq_bind]
  rcases like.socket_cases id with ⟨none, noneToo⟩ | ⟨socket, other, found, foundToo, alike⟩
  · rw [none, noneToo]
  · rw [found, foundToo]
    cases alike <;> rfl

theorem localAddress? (like : network.Like later) (id : SocketId) : later.localAddress? id = network.localAddress? id := by
  rw [Network.localAddress?, Network.localAddress?]
  rcases like.socket_cases id with ⟨none, noneToo⟩ | ⟨socket, other, found, foundToo, alike⟩
  · rw [none, noneToo]
  · rw [found, foundToo]
    cases alike with
    | stream owner alike =>
      obtain ⟨error, rfl, _⟩ := alike
      rfl
    | listening owner listening => rfl
    | datagram owner there => rfl
    | idle owner idle => rfl

theorem isSome_stream? (like : network.Like later) (id : SocketId) :
    (later.stream? id).isSome = (network.stream? id).isSome := by
  rcases like.stream_cases id with ⟨none, noneToo⟩ | ⟨stream, other, found, foundToo, _⟩
  · rw [none, noneToo]
  · rw [found, foundToo]
    rfl

/-! ### What is done to both leaves them alike -/

theorem add (like : network.Like later) {socket other : Socket} (alike : socket.Like other) :
    (network.add socket).Like (later.add other) := by
  refine ⟨like.routes, ?_, fun id => ?_, like.lingering⟩
  · rw [next_add, next_add, like.next]
  · rw [socket?_add, socket?_add, like.next]
    split
    · exact .some alike
    · exact like.sockets id

theorem remove (like : network.Like later) (id : SocketId) : (network.remove id).Like (later.remove id) := by
  refine ⟨like.routes, ?_, fun other => ?_, like.lingering⟩
  · rw [next_remove, next_remove, like.next]
  · rw [socket?_remove, socket?_remove]
    split
    · exact .none
    · exact like.sockets other

theorem modify (like : network.Like later) {id : SocketId} {f g : Socket → Socket}
    (alike : ∀ {socket other}, network.socket? id = some socket → socket.Like other → (f socket).Like (g other)) :
    (network.modify id f).Like (later.modify id g) := by
  refine ⟨like.routes, ?_, fun other => ?_, like.lingering⟩
  · rw [next_modify, next_modify, like.next]
  · rw [socket?_modify, socket?_modify]
    split
    next same =>
      subst same
      rcases like.socket_cases id with ⟨none, noneToo⟩ | ⟨socket, other, found, foundToo, before⟩
      · rw [none, noneToo]
        exact .none
      · rw [found, foundToo]
        exact .some (alike found before)
    next => exact like.sockets other

theorem modifyRight (like : network.Like later) {id : SocketId} {f : Socket → Socket}
    (alike : ∀ {socket other : Socket}, socket.Like other → socket.Like (f other)) : network.Like (later.modify id f) := by
  refine ⟨like.routes, ?_, fun other => ?_, like.lingering⟩
  · rw [next_modify, like.next]
  · rw [socket?_modify]
    split
    · rcases like.socket_cases other with ⟨none, noneToo⟩ | ⟨socket, twin, found, foundToo, before⟩
      · rw [none, noneToo]
        exact .none
      · rw [found, foundToo]
        exact .some (alike before)
    · exact like.sockets other

theorem mapStream (like : network.Like later) {id : SocketId} {f g : Stream → Stream}
    (alike : ∀ {stream other}, stream.Like other → (f stream).Like (g other)) :
    (network.modify id (Socket.mapStream f)).Like (later.modify id (Socket.mapStream g)) :=
  like.modify fun _ before => before.mapStream alike

theorem mapListening (like : network.Like later) {id : SocketId} (f : Listening → Listening) :
    (network.modify id (Socket.mapListening f)).Like (later.modify id (Socket.mapListening f)) :=
  like.modify fun _ before => before.mapListening f

theorem listenerAt? (like : network.Like later) (address : SocketAddress) :
    later.listenerAt? address = network.listenerAt? address :=
  listenerAt?_of_listening? like.listening? address

theorem mapLingering (like : network.Like later) (f : List Lingering → List Lingering) :
    (network.mapLingering f).Like (later.mapLingering f) :=
  ⟨like.routes, like.next, like.sockets, congrArg f like.lingering⟩

theorem skip (like : network.Like later) : network.skip.Like later.skip := by
  refine ⟨like.routes, ?_, fun id => ?_, like.lingering⟩
  · rw [next_skip, next_skip, like.next]
  · rw [socket?_skip, socket?_skip]
    exact like.sockets id

theorem blocked (like : network.Like later) (address : SocketAddress) (shares : Bool) :
    later.Blocked address shares ↔ network.Blocked address shares := by
  unfold Blocked
  rw [like.lingering]
  refine or_congr (exists_congr fun id => ?_) Iff.rfl
  rcases like.socket_cases id with ⟨none, noneToo⟩ | ⟨socket, other, found, foundToo, alike⟩
  · rw [none, noneToo]
  · rw [found, foundToo]
    simp only [Option.some.injEq, exists_eq_left', alike.blocks]

theorem taken (like : network.Like later) (address : SocketAddress) (shares : Bool) :
    later.taken later.sockets.next address shares = network.taken network.sockets.next address shares := by
  rw [Bool.eq_iff_iff, taken_next_iff, taken_next_iff, like.blocked]

theorem listen (like : network.Like later) (owner : Owner) (address : SocketAddress) (backlog : Nat) (shares : Bool) :
    (later.listen owner address backlog shares).1 = (network.listen owner address backlog shares).1 ∧
      (network.listen owner address backlog shares).2.Like (later.listen owner address backlog shares).2 := by
  rw [listen_eq, listen_eq, like.routes, like.taken, like.next]
  split
  · exact ⟨rfl, like.skip⟩
  · split
    · exact ⟨rfl, like.skip⟩
    · exact ⟨rfl, like.add (.listening owner _)⟩

theorem answer (like : network.Like later) (id : SocketId) : (network.answer id).Like (later.answer id) := by
  unfold Network.answer
  rcases like.stream_cases id with ⟨none, noneToo⟩ | ⟨stream, other, found, foundToo, alike⟩
  · rw [none, noneToo]
    exact like
  · rw [found, foundToo]
    obtain ⟨error, rfl, dead⟩ := alike
    dsimp only
    rw [like.listenerAt?, like.next]
    split
    · exact like
    next listening _ =>
      split
      next free =>
        refine Like.mapListening (Like.modify (like.add (.stream .queue (.of_quiet rfl))) ?_) _
        intro socket other there before
        have still : (network.add ⟨.queue, .stream (farEnd id stream listening)⟩).stream? id = some stream := by
          rw [stream?_add, if_neg (Nat.ne_of_lt (lt_next_of_stream? found)), found]
        rw [stream?_eq_bind, there] at still
        cases before with
        | stream owner alike =>
          cases still
          -- A handshake under way has nothing to tell.
          obtain ⟨rfl, quiet⟩ := alike.eq_of_phase (by rw [free.1]; decide)
          exact .stream owner (.of_quiet quiet)
        | listening owner listening => cases still
        | datagram owner there => cases still
        | idle owner idle => cases still
      next => exact like

theorem connect (like : network.Like later) (owner : Owner) (remote : SocketAddress) :
    (later.connect owner remote).1 = (network.connect owner remote).1 ∧
      (network.connect owner remote).2.Like (later.connect owner remote).2 := by
  have near : later.nearEnd remote = network.nearEnd remote := by
    rw [nearEnd, nearEnd, dialled, dialled, like.routes, like.next]
  rw [connect_eq, connect_eq, like.routes, like.next, near]
  split
  · exact ⟨rfl, like.skip⟩
  · exact ⟨rfl, (like.add (.stream owner (.of_quiet rfl))).answer _⟩

theorem isSome_socket? (like : network.Like later) (id : SocketId) :
    (later.socket? id).isSome = (network.socket? id).isSome := by
  rcases like.socket_cases id with ⟨none, noneToo⟩ | ⟨_, _, found, foundToo, _⟩
  · rw [none, noneToo]
  · rw [found, foundToo]
    rfl

theorem adjust (like : network.Like later) (id : SocketId) :
    (Network.adjust id later).1 = (Network.adjust id network).1 ∧
      (Network.adjust id network).2.Like (Network.adjust id later).2 := by
  rw [Network.adjust, Network.adjust, like.isSome_socket?]
  split <;> exact ⟨rfl, like⟩

theorem accept (like : network.Like later) (owner : Owner) (door : SocketId) :
    (later.accept owner door).1 = (network.accept owner door).1 ∧
      (network.accept owner door).2.Like (later.accept owner door).2 := by
  unfold Network.accept
  rw [like.listening?]
  cases network.listening? door with
  | none =>
    dsimp only
    rw [like.isSome_socket?]
    exact ⟨rfl, like⟩
  | some listening =>
    dsimp only
    cases listening.queue with
    | nil => exact ⟨rfl, like⟩
    | cons first rest =>
      dsimp only
      rcases like.stream_cases first with ⟨none, noneToo⟩ | ⟨stream, other, found, foundToo, alike⟩
      · rw [none, noneToo]
        exact ⟨rfl, like⟩
      · rw [found, foundToo]
        obtain ⟨error, rfl, _⟩ := alike
        exact ⟨rfl, (like.modify fun _ before => before.setOwner owner).mapListening _⟩

theorem isOver (like : network.Like later) (id : SocketId) :
    (later.peek id).1.isOver = (network.peek id).1.isOver ∧ (network.peek id).2.Like (later.peek id).2 := by
  unfold Network.peek
  rcases like.stream_cases id with ⟨none, noneToo⟩ | ⟨stream, other, found, foundToo, alike⟩
  · rw [none, noneToo]
    exact ⟨rfl, like⟩
  · rw [found, foundToo]
    exact ⟨(alike.seen 0).1, like.mapStream fun before => before.afterPeek⟩

theorem peek (like : network.Like later) (id : SocketId) : network.Like (later.peek id).2 := by
  unfold Network.peek
  rcases like.stream_cases id with ⟨none, noneToo⟩ | ⟨stream, other, found, foundToo, alike⟩
  · rw [noneToo]
    exact like
  · rw [foundToo]
    exact like.modifyRight fun before => before.mapRight fun alike => alike.peek

theorem send (like : network.Like later) (id : SocketId) (bytes : List UInt8) :
    (later.send id bytes).1 = (network.send id bytes).1 ∧ (network.send id bytes).2.Like (later.send id bytes).2 := by
  unfold Network.send
  rcases like.stream_cases id with ⟨none, noneToo⟩ | ⟨stream, other, found, foundToo, alike⟩
  · rw [none, noneToo]
    exact ⟨rfl, like⟩
  · rw [found, foundToo]
    obtain ⟨error, rfl, _⟩ := alike
    have reached : (fun mate => (later.stream? mate).isSome) = fun mate => (network.stream? mate).isSome :=
      funext like.isSome_stream?
    dsimp only
    rw [reached]
    split
    · exact ⟨rfl, like⟩
    · split
      · exact ⟨rfl, like.mapStream fun before => before.arrive bytes⟩
      · exact ⟨rfl, (like.mapStream fun before => before.fail .brokenPipe).mapLingering _⟩

theorem receive (like : network.Like later) (id : SocketId) (count : Nat) :
    (later.receive id count).1.seen = (network.receive id count).1.seen ∧
      (network.receive id count).2.Like (later.receive id count).2 := by
  unfold Network.receive
  rcases like.stream_cases id with ⟨none, noneToo⟩ | ⟨stream, other, found, foundToo, alike⟩
  · rw [none, noneToo]
    exact ⟨rfl, like⟩
  · rw [found, foundToo]
    exact ⟨(alike.seen count).2, like.mapStream fun before => before.afterReceive count⟩

theorem tellMate (like : network.Like later) {stream other : Stream} (alike : stream.Like other) {f : Stream → Stream}
    (keeps : ∀ {stream other : Stream}, stream.Like other → (f stream).Like (f other)) :
    (network.tellMate stream f).Like (later.tellMate other f) := by
  obtain ⟨_, rfl, _⟩ := alike
  unfold Network.tellMate
  cases stream.mate with
  | none => exact like
  | some mate => exact like.mapStream keeps

theorem sendEnd (like : network.Like later) (id : SocketId) {stream other : Stream} (alike : stream.Like other) :
    (network.sendEnd id stream).Like (later.sendEnd id other) := by
  have told := like.tellMate alike Stream.Like.finish
  obtain ⟨_, rfl, _⟩ := alike
  exact told.mapLingering _

theorem sendReset (like : network.Like later) (id : SocketId) {stream other : Stream} (alike : stream.Like other) :
    (network.sendReset id stream).Like (later.sendReset id other) := by
  have told := like.tellMate alike Stream.Like.reset
  obtain ⟨_, rfl, _⟩ := alike
  exact told.mapLingering _

theorem shutdown (like : network.Like later) (id : SocketId) (ways : Ways) :
    (network.shutdown id ways).Like (later.shutdown id ways) := by
  unfold Network.shutdown
  rcases like.stream_cases id with ⟨none, noneToo⟩ | ⟨stream, other, found, foundToo, alike⟩
  · rw [none, noneToo]
    exact like
  · rw [found, foundToo]
    have shut : (network.modify id (Socket.mapStream (Stream.shutDown ways))).Like
        (later.modify id (Socket.mapStream (Stream.shutDown ways))) :=
      like.mapStream fun before => Stream.Like.shutDown before ways
    have ends := shut.sendEnd id alike
    obtain ⟨_, rfl, _⟩ := alike
    dsimp only
    split
    · refine like.mapStream fun {stream other} before => ?_
      obtain ⟨error, rfl, _⟩ := before
      exact ⟨error, rfl, fun _ => rfl⟩
    · split
      · exact shut
      · exact ends
    · exact like

theorem abort (like : network.Like later) (id : SocketId) : (network.abort id).Like (later.abort id) := by
  unfold Network.abort
  rcases like.stream_cases id with ⟨none, noneToo⟩ | ⟨stream, other, found, foundToo, alike⟩
  · rw [none, noneToo]
    exact like
  · rw [found, foundToo]
    exact (like.remove id).sendReset id alike

theorem abortAll (like : network.Like later) (ids : List SocketId) :
    (network.abortAll ids).Like (later.abortAll ids) := by
  induction ids generalizing network later with
  | nil => exact like
  | cons first rest ih => exact ih (like.abort first)

theorem close (like : network.Like later) (id : SocketId) : (network.close id).Like (later.close id) := by
  unfold Network.close
  rcases like.socket_cases id with ⟨none, noneToo⟩ | ⟨socket, other, found, foundToo, alike⟩
  · rw [none, noneToo]
    exact like
  · rw [found, foundToo, Option.map_some, Option.map_some]
    cases alike with
    | stream owner alike =>
      have reset := (like.remove id).sendReset id alike
      have ends := (like.remove id).sendEnd id alike
      obtain ⟨_, rfl, _⟩ := alike
      dsimp only
      split
      · exact reset
      · split
        · exact like.remove id
        · exact ends
    | listening owner listening => exact (like.remove id).abortAll listening.queue
    | datagram owner there => exact like.remove id
    | idle owner idle => exact like.remove id

theorem refuse (like : network.Like later) (id : SocketId) (error : IoError) :
    (network.refuse id error).Like (later.refuse id error) := by
  refine like.mapStream fun {stream other} before => before.failIf (fun stream => stream.phase = .connecting) ?_ error
  obtain ⟨_, rfl, _⟩ := before
  exact Iff.rfl

theorem refuseIdle (like : network.Like later) : network.refuseIdle.Like later.refuseIdle := by
  refine ⟨like.routes, ?_, fun id => ?_, like.lingering⟩
  · rw [Network.refuseIdle, Network.refuseIdle, Registry.next_map, Registry.next_map, like.next]
  · rw [socket?, socket?, Network.refuseIdle, Network.refuseIdle, Registry.find?_map, Registry.find?_map]
    rcases like.socket_cases id with ⟨none, noneToo⟩ | ⟨socket, other, found, foundToo, alike⟩
    · rw [socket?] at none noneToo
      rw [none, noneToo]
      exact .none
    · rw [socket?] at found foundToo
      rw [found, foundToo]
      refine .some (alike.mapStream fun {stream other} before => ?_)
      simp only [like.listenerAt?]
      refine before.failIf (fun stream => stream.phase = .connecting ∧ (network.listenerAt? stream.there).isNone) ?_ _
      obtain ⟨_, rfl, _⟩ := before
      exact Iff.rfl

theorem fault (like : network.Like later) (door : SocketId) (error : IoError) :
    (network.fault door error).Like (later.fault door error) := by
  unfold Network.fault
  rw [like.listening?]
  split
  · exact like
  · refine Like.abortAll (like.modify fun _ before => ?_) _
    cases before <;> exact .idle ..

theorem outside (like : network.Like later) (id : SocketId) (f : Network → Network)
    (alike : (f network).Like (f later)) : (network.outside id f).Like (later.outside id f) := by
  have owned : (later.socket? id).any (·.owner = .outside) = (network.socket? id).any (·.owner = .outside) := by
    rcases like.socket_cases id with ⟨none, noneToo⟩ | ⟨socket, other, found, foundToo, before⟩
    · rw [none, noneToo]
    · rw [found, foundToo]
      cases before <;> rfl
  unfold Network.outside
  rw [owned]
  split
  · exact alike
  · exact like

theorem event (like : network.Like later) (event : Event) : (event.onNetwork network).Like (event.onNetwork later) := by
  cases event with
  | serve address backlog shares => exact (like.listen .outside address backlog shares).2
  | dial remote => exact (like.connect .outside remote).2
  | take server => exact like.outside server (fun network => (network.accept .outside server).2) (like.accept .outside server).2
  | send id bytes => exact like.outside id (fun network => (network.send id bytes).2) (like.send id bytes).2
  | receive id count => exact like.outside id (fun network => (network.receive id count).2) (like.receive id count).2
  | close id => exact like.outside id (Network.close id) (like.close id)
  | reset id => exact like.outside id (Network.abort id) (like.abort id)
  | answer id => exact like.answer id
  | refuse id error => exact like.refuse id error
  | refuseIdle => exact like.refuseIdle
  | fault door error => exact like.fault door error
  | expire id => exact like.mapLingering _
  | plug _ | unplug _ | deviceSend _ _ | deviceReceive _ _ => exact like

end Like
end Network
end InstrumentLink
