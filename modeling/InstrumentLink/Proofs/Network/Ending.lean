import InstrumentLink.Proofs.Network.Sound

/-!
How sockets go. Whether a stream is closed, shut down and closed, or reset, it is gone, its other end has been told, and nothing
else has happened but to what lingers.
-/

namespace InstrumentLink

/-- What becomes of one end of a connection when the other goes: it ends, it breaks, or one after the other. -/
inductive Stream.Parted : (Stream → Stream) → Prop
  | finish : Parted Stream.finish
  | reset : Parted Stream.reset
  | both : Parted (Stream.reset ∘ Stream.finish)

namespace Stream.Parted

variable {f : Stream → Stream} {stream : Stream}

theorem sound (parted : Parted f) (sound : stream.Sound) (up : stream.IsUp) : (f stream).Sound := by
  cases parted with
  | finish => exact sound.finish up
  | reset => exact sound.fail _
  | both => exact (sound.finish up).fail _

theorem mate (parted : Parted f) (stream : Stream) : (f stream).mate = stream.mate := by
  cases parted <;> rfl

theorem there (parted : Parted f) (stream : Stream) : (f stream).there = stream.there := by
  cases parted <;> rfl

end Stream.Parted

namespace Network

/-! ### Changes that do not depend on their order -/

theorem remove_modify (network : Network) (id other : SocketId) (f : Socket → Socket) :
    (network.modify other f).remove id = (network.remove id).modify other f := by
  refine ext_socket? rfl (by simp) (fun number => ?_) rfl
  simp only [socket?_remove, socket?_modify]
  split <;> split <;> rfl

theorem remove_modify_self (network : Network) (id : SocketId) (f : Socket → Socket) :
    (network.modify id f).remove id = network.remove id := by
  refine ext_socket? rfl (by simp) (fun number => ?_) rfl
  simp only [socket?_remove, socket?_modify]
  split <;> rfl

theorem remove_tellMate (network : Network) (id : SocketId) (stream : Stream) (f : Stream → Stream) :
    (network.tellMate stream f).remove id = (network.remove id).tellMate stream f := by
  unfold tellMate
  cases stream.mate with
  | none => rfl
  | some mate => exact remove_modify ..

theorem tellMate_mapLingering (network : Network) (stream : Stream) (f : Stream → Stream)
    (g : List Lingering → List Lingering) :
    (network.mapLingering g).tellMate stream f = (network.tellMate stream f).mapLingering g := by
  unfold tellMate
  cases stream.mate <;> rfl

theorem remove_mapLingering (network : Network) (id : SocketId) (g : List Lingering → List Lingering) :
    (network.mapLingering g).remove id = (network.remove id).mapLingering g := rfl

theorem mapLingering_mapLingering (network : Network) (f g : List Lingering → List Lingering) :
    (network.mapLingering f).mapLingering g = network.mapLingering (g ∘ f) := rfl

theorem tellMate_tellMate (network : Network) (stream : Stream) (f g : Stream → Stream) :
    (network.tellMate stream f).tellMate stream g = network.tellMate stream (g ∘ f) := by
  unfold tellMate
  cases stream.mate with
  | none => rfl
  | some mate =>
    refine ext_socket? rfl (by simp) (fun number => ?_) rfl
    simp only [socket?_modify]
    split
    · rcases network.socket? number with _ | ⟨owner, _ | _ | _ | _⟩ <;> rfl
    · rfl

/-! ### Streams that go -/

/-- A stream is gone and its other end has been told. -/
def Gone (id : SocketId) (stream : Stream) (network later : Network) : Prop :=
  ∃ f g, Stream.Parted f ∧ later = ((network.remove id).tellMate stream f).mapLingering g

theorem close_stream {network : Network} {id : SocketId} {stream : Stream} (found : network.stream? id = some stream) :
    network.close id =
      if !stream.inbox.isEmpty then (network.remove id).sendReset id stream
      else if stream.shut then network.remove id
      else (network.remove id).sendEnd id stream := by
  obtain ⟨socket, there, shown⟩ := Option.bind_eq_some_iff.mp ((network.stream?_eq_bind id).symm.trans found)
  rcases socket with ⟨owner, _ | _ | _ | _⟩ <;> cases shown
  unfold close
  rw [there]
  rfl

section Gone

variable {network : Network} {id : SocketId} {stream : Stream}

theorem gone_abort (found : network.stream? id = some stream) : network.Gone id stream (network.abort id) :=
  ⟨_, _, .reset, by rw [abort, found]; rfl⟩

theorem gone_close (found : network.stream? id = some stream) (unshut : stream.shut = false) :
    network.Gone id stream (network.close id) := by
  rw [close_stream found, unshut]
  split
  · exact ⟨_, _, .reset, rfl⟩
  · exact ⟨_, _, .finish, rfl⟩

theorem stream?_changed (found : network.stream? id = some stream) (f : Stream → Stream) :
    (network.modify id (Socket.mapStream f)).stream? id = some (f stream) := by
  rw [stream?_mapStream, if_pos rfl, found]
  rfl

def part (ways : Option Ways) (id : SocketId) (network : Network) : Network :=
  match ways with
  | none => network.close id
  | some ways => (network.shutdown id ways).close id

/-- A connection that works and is shut down: the other end sees the end of the stream, if it has not before. -/
theorem shutdown_established (found : network.stream? id = some stream) (established : stream.phase = .established)
    (ways : Ways) :
    network.shutdown id ways =
      if stream.shut then network.modify id (Socket.mapStream (Stream.shutDown ways))
      else (network.modify id (Socket.mapStream (Stream.shutDown ways))).sendEnd id stream := by
  unfold shutdown
  rw [found]
  dsimp only
  rw [established]

theorem stream?_shutdown_established (found : network.stream? id = some stream)
    (established : stream.phase = .established) (ways : Ways) :
    ∃ shut, (network.shutdown id ways).stream? id = some shut ∧ shut.shut = true ∧ shut.inbox = stream.inbox ∧
      shut.mate = stream.mate := by
  rw [shutdown_established found established]
  split
  · exact ⟨_, stream?_changed found _, rfl, rfl, rfl⟩
  · rw [sendEnd, stream?_mapLingering, stream?_tellMate, stream?_changed found]
    split <;> exact ⟨_, rfl, rfl, rfl, rfl⟩

theorem remove_shutdown_established (found : network.stream? id = some stream)
    (established : stream.phase = .established) (ways : Ways) :
    (network.shutdown id ways).remove id =
      if stream.shut then network.remove id else (network.remove id).sendEnd id stream := by
  rw [shutdown_established found established]
  split
  · exact remove_modify_self network id _
  · rw [sendEnd, remove_mapLingering, remove_tellMate, remove_modify_self]
    rfl

/-- A connection that works sends its end when it is shut down, and a reset after that if bytes are left. -/
theorem part_established (found : network.stream? id = some stream) (established : stream.phase = .established)
    (ways : Ways) :
    network.part (some ways) id =
      let rest := if stream.shut then network.remove id else (network.remove id).sendEnd id stream
      if !stream.inbox.isEmpty then rest.sendReset id stream else rest := by
  obtain ⟨shut, foundShut, isShut, inbox, mate⟩ := stream?_shutdown_established found established ways
  have resets (network : Network) : network.sendReset id shut = network.sendReset id stream := by
    rw [sendReset, sendReset, tellMate, tellMate, mate]
  rw [part, close_stream foundShut, remove_shutdown_established found established, if_pos isShut, inbox, resets]

theorem part_connecting (found : network.stream? id = some stream) (connecting : stream.phase = .connecting) (ways : Ways) :
    network.part (some ways) id =
      (network.modify id (Socket.mapStream fun stream => { stream with phase := .dead })).close id := by
  rw [part, shutdown, found]
  dsimp only
  rw [connecting]

theorem part_dead (found : network.stream? id = some stream) (dead : stream.phase = .dead) (ways : Ways) :
    network.part (some ways) id = network.close id := by
  rw [part, shutdown, found]
  dsimp only
  rw [dead]

theorem gone_part (found : network.stream? id = some stream) (unshut : stream.shut = false) (ways : Option Ways) :
    network.Gone id stream (network.part ways id) := by
  cases ways with
  | none => exact gone_close found unshut
  | some ways =>
    cases phase : stream.phase with
    | established =>
      rw [part_established found phase]
      simp only [unshut, Bool.false_eq_true, if_false]
      split
      · rw [sendReset, sendEnd, tellMate_mapLingering, tellMate_tellMate, mapLingering_mapLingering]
        exact ⟨_, _, .both, rfl⟩
      · exact ⟨_, _, .finish, rfl⟩
    | connecting =>
      obtain ⟨f, g, parted, shown⟩ := gone_close (stream?_changed found fun stream => { stream with phase := .dead }) unshut
      refine ⟨f, g, parted, ?_⟩
      rw [part_connecting found phase, shown, remove_modify_self]
      rfl
    | dead =>
      rw [part_dead found phase]
      exact gone_close found unshut

theorem part_of_stream?_none (other : network.stream? id = none) (ways : Option Ways) :
    network.part ways id = network.close id := by
  cases ways with
  | none => rfl
  | some ways => rw [part, shutdown, other]

theorem mapStream_of_stream?_none (other : network.stream? id = none) (f : Stream → Stream) :
    network.modify id (Socket.mapStream f) = network := by
  refine ext_socket? rfl (by simp) (fun number => ?_) rfl
  rw [socket?_modify]
  split
  next same =>
    subst same
    rw [stream?_eq_bind] at other
    rcases there : network.socket? id with _ | ⟨owner, _ | _ | _ | _⟩
    · rfl
    · rw [there] at other
      cases other
    · rfl
    · rfl
    · rfl
  next => rfl

theorem close_blind {f : Stream → Stream} (blind : ∀ stream, ∃ error, f stream = { stream with error })
    (found : network.stream? id = some stream) :
    (network.modify id (Socket.mapStream f)).close id = network.close id := by
  obtain ⟨error, shown⟩ := blind stream
  rw [close_stream (stream?_changed found f), close_stream found, remove_modify_self, shown]
  rfl

theorem part_blind {f : Stream → Stream} (blind : ∀ stream, ∃ error, f stream = { stream with error })
    (network : Network) (id : SocketId) (ways : Option Ways) :
    (network.modify id (Socket.mapStream f)).part ways id = network.part ways id := by
  cases found : network.stream? id with
  | none => rw [mapStream_of_stream?_none found]
  | some stream =>
    obtain ⟨error, shown⟩ := blind stream
    have later := stream?_changed found f
    rw [shown] at later
    cases ways with
    | none => exact close_blind blind found
    | some ways =>
      cases phase : stream.phase with
      | established =>
        rw [part_established later phase, part_established found phase, remove_modify_self]
        rfl
      | connecting =>
        have before := stream?_changed found fun stream => { stream with phase := .dead }
        have after := stream?_changed later fun stream => { stream with phase := .dead }
        rw [part_connecting later phase, part_connecting found phase, close_stream before, close_stream after,
          remove_modify_self, remove_modify_self, remove_modify_self]
        rfl
      | dead => rw [part_dead later phase, part_dead found phase, close_blind blind found]

/-! ### What others see of it -/

variable {later : Network} (gone : network.Gone id stream later)
include gone

theorem Gone.stream? : ∃ f, Stream.Parted f ∧ ∀ other, later.stream? other =
    if id = other then none
    else if stream.mate = some other then (network.stream? other).map f else network.stream? other := by
  obtain ⟨f, g, parted, rfl⟩ := gone
  refine ⟨f, parted, fun other => ?_⟩
  rw [stream?_mapLingering, stream?_tellMate, stream?_remove]
  split <;> split <;> rfl

theorem Gone.socket?_eq_none : later.socket? id = none := by
  obtain ⟨f, g, parted, rfl⟩ := gone
  unfold tellMate
  cases stream.mate with
  | none => rw [socket?_mapLingering, socket?_remove, if_pos rfl]
  | some mate =>
    rw [socket?_mapLingering, socket?_modify, socket?_remove, if_pos rfl]
    exact ite_self none

theorem Gone.next : later.sockets.next = network.sockets.next := by
  obtain ⟨f, g, parted, rfl⟩ := gone
  rw [next_mapLingering, next_tellMate, next_remove]

theorem Gone.routes : later.routes = network.routes := by
  obtain ⟨f, g, parted, rfl⟩ := gone
  unfold tellMate
  cases stream.mate <;> rfl

theorem Gone.listening? (found : network.stream? id = some stream) (other : SocketId) :
    later.listening? other = network.listening? other := by
  obtain ⟨f, g, parted, rfl⟩ := gone
  rw [listening?_mapLingering, listening?_tellMate, listening?_remove]
  split
  next same =>
    cases there : network.listening? other with
    | none => rfl
    | some listening =>
      rw [same, stream?_of_listening? there] at found
      cases found
  next => rfl

theorem Gone.idle? (found : network.stream? id = some stream) (other : SocketId) :
    later.idle? other = network.idle? other := by
  obtain ⟨f, g, parted, rfl⟩ := gone
  rw [idle?_mapLingering, idle?_tellMate, idle?_remove]
  split
  next same =>
    obtain ⟨⟨owner, state⟩, there, shown⟩ := Option.bind_eq_some_iff.mp ((network.stream?_eq_bind id).symm.trans found)
    cases state <;> cases shown
    rw [← same, Network.idle?, there]
    rfl
  next => rfl

theorem Gone.stream?_apart {other : SocketId} (different : id ≠ other) (stranger : stream.mate ≠ some other) :
    later.stream? other = network.stream? other := by
  obtain ⟨f, parted, shown⟩ := gone.stream?
  rw [shown, if_neg different, if_neg stranger]

end Gone

theorem Sound.gone {network later : Network} (sound : network.Sound) {id : SocketId} {stream : Stream}
    (gone : network.Gone id stream later) (found : network.stream? id = some stream) (free : network.Free id) :
    later.Sound := by
  obtain ⟨f, g, parted, rfl⟩ := gone
  unfold tellMate
  cases known : stream.mate with
  | none => exact (sound.remove free).mapLingering g
  | some mate =>
    refine Sound.mapLingering ?_ g
    refine (sound.remove free).mapStream (fun other there => ?_) (fun other back near there otherKnown backThere => ?_)
    all_goals
      rw [stream?_remove] at there
      split at there
      · cases there
    · have both := sound.mates found known there
      have up := (sound.mates there both.2 found).1
      exact ⟨parted.sound (sound.streams there) up, parted.mate other⟩
    · have both := sound.mates found known there
      rw [both.2] at otherKnown
      cases otherKnown
      rw [stream?_remove, if_pos rfl] at backThere
      cases backThere

/-- Where a connection is shut down, the other end sees the end of it, whatever was left unread. -/
theorem Sound.ended_part {network : Network} (sound : network.Sound) {id mate : SocketId} {stream far : Stream}
    (found : network.stream? id = some stream) (known : stream.mate = some mate) (ways : Ways)
    (there : (network.part (some ways) id).stream? mate = some far) : far.ended = true := by
  have unshut := (sound.streams found).unshut
  obtain ⟨f, _, shown⟩ := (gone_part found unshut (some ways)).stream?
  have both : (network.stream? mate).isSome ∧ id ≠ mate := by
    have before := (shown mate).symm.trans there
    split at before
    · cases before
    next different =>
      obtain ⟨other, foundOther, _⟩ := Option.map_eq_some_iff.mp before
      exact ⟨by rw [foundOther]; rfl, different⟩
  obtain ⟨other, foundOther⟩ := Option.isSome_iff_exists.mp both.1
  have up := (sound.mates found known foundOther).1
  have rest : (network.remove id).stream? mate = some other := by rw [stream?_remove, if_neg both.2, foundOther]
  rw [part_established found up.1] at there
  simp only [unshut, Bool.false_eq_true, if_false] at there
  split at there
  · simp only [sendReset, sendEnd, stream?_mapLingering, stream?_tellMate, known, if_true, rest, Option.map_some] at there
    cases there
    rfl
  · simp only [sendEnd, stream?_mapLingering, stream?_tellMate, known, if_true, rest, Option.map_some] at there
    cases there
    rfl

/-! ### Sockets that go, and those that wait at them -/

theorem abort_of_stream?_none {network : Network} {id : SocketId} (other : network.stream? id = none) :
    network.abort id = network := by
  rw [abort, other]

theorem Sound.abort {network : Network} (sound : network.Sound) {id : SocketId} (free : network.Free id) :
    (network.abort id).Sound := by
  cases found : network.stream? id with
  | none => rwa [abort_of_stream?_none found]
  | some stream => exact sound.gone (gone_abort found) found free

theorem listening?_abort (network : Network) (id other : SocketId) :
    (network.abort id).listening? other = network.listening? other := by
  cases found : network.stream? id with
  | none => rw [abort_of_stream?_none found]
  | some stream => exact (gone_abort found).listening? found other

theorem Free.of_listening? {network later : Network} (same : ∀ id, later.listening? id = network.listening? id)
    {id : SocketId} (free : network.Free id) : later.Free id :=
  fun listener listening there => free listener listening (same listener ▸ there)

theorem Sound.abortAll {network : Network} (sound : network.Sound) {ids : List SocketId}
    (free : ∀ id ∈ ids, network.Free id) : (network.abortAll ids).Sound := by
  induction ids generalizing network with
  | nil => exact sound
  | cons id rest ih =>
    refine ih (sound.abort (free id List.mem_cons_self)) (fun other member => ?_)
    exact (free other (List.mem_cons_of_mem _ member)).of_listening? (listening?_abort network id)

theorem Sound.free_of_waiting {network later : Network} (sound : network.Sound) {listener : SocketId} {listening : Listening}
    (there : network.listening? listener = some listening)
    (without : ∀ id, later.listening? id = if listener = id then none else network.listening? id) :
    ∀ id ∈ listening.queue, later.Free id := by
  intro id waits other before shown waitsToo
  rw [without] at shown
  split at shown
  · cases shown
  next different => exact different (sound.apart there shown waits waitsToo)

theorem close_listening {network : Network} {id : SocketId} {listening : Listening}
    (there : network.listening? id = some listening) : network.close id = (network.remove id).abortAll listening.queue := by
  obtain ⟨socket, found, shown⟩ := Option.bind_eq_some_iff.mp ((network.listening?_eq_bind id).symm.trans there)
  rcases socket with ⟨owner, _ | _ | _ | _⟩ <;> cases shown
  unfold close
  rw [found]
  rfl

theorem close_cases (id : SocketId) (network : Network) :
    (∃ stream, network.stream? id = some stream) ∨
      (∃ listening, network.listening? id = some listening ∧
        network.close id = (network.remove id).abortAll listening.queue) ∨
      network.close id = network.remove id := by
  rcases found : network.socket? id with _ | ⟨owner, _ | listening | _ | _⟩
  · refine .inr (.inr ?_)
    rw [close, found]
    refine (ext_socket? rfl (by simp) (fun other => ?_) rfl : network = network.remove id)
    rw [socket?_remove]
    split
    next same => rw [← same, found]
    next => rfl
  · exact .inl ⟨_, stream?_of_state (by rw [found]; rfl)⟩
  · have there : network.listening? id = some listening := listening?_of_state (by rw [found]; rfl)
    exact .inr (.inl ⟨_, there, close_listening there⟩)
  · exact .inr (.inr (by rw [close, found]; rfl))
  · exact .inr (.inr (by rw [close, found]; rfl))

theorem Sound.part {network : Network} (sound : network.Sound) {id : SocketId} (free : network.Free id)
    (ways : Option Ways) : (network.part ways id).Sound := by
  cases found : network.stream? id with
  | some stream => exact sound.gone (gone_part found (sound.streams found).unshut ways) found free
  | none =>
    rw [part_of_stream?_none found]
    rcases network.close_cases id with ⟨stream, there⟩ | ⟨listening, there, closed⟩ | closed
    · rw [there] at found
      cases found
    · rw [closed]
      exact (sound.remove free).abortAll (sound.free_of_waiting there fun other => listening?_remove id network other)
    · rw [closed]
      exact sound.remove free

theorem Sound.close {network : Network} (sound : network.Sound) {id : SocketId} (free : network.Free id) :
    (network.close id).Sound :=
  sound.part free none

theorem Sound.fault {network : Network} (sound : network.Sound) (listener : SocketId) (error : IoError) :
    (network.fault listener error).Sound := by
  unfold Network.fault
  split
  · exact sound
  next listening there =>
    exact (sound.setIdle there _).abortAll (sound.free_of_waiting there (listening?_setIdle network listener _))

end Network
end InstrumentLink
