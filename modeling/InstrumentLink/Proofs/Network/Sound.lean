import InstrumentLink.Proofs.Network.Opening

/-!
What is true of every network that sockets have been put into one operation at a time: no stream contradicts itself,
the two ends of a connection know each other, and what waits at a listener waits there alone. `Network.Sound` says
so, and each operation keeps it.
-/

namespace InstrumentLink

namespace Stream

def IsUp (stream : Stream) : Prop := stream.phase = .established ∧ stream.ended = false

/-- A stream that could have come about. -/
structure Sound (stream : Stream) : Prop where
  /-- Only a dead stream has an error to tell. -/
  dead_of_error : stream.error.isSome → stream.phase = .dead
  /-- A handshake under way has no other end yet. -/
  connecting : stream.phase = .connecting → stream.mate = none ∧ stream.ended = false
  /-- Once a dead stream has told its error, nothing is left to read. -/
  dead : stream.phase = .dead → stream.error.isSome ∨ stream.inbox = []
  /-- A connection is shut down only on the way to its end. -/
  unshut : stream.shut = false

theorem Sound.finish {stream : Stream} (sound : stream.Sound) (up : stream.IsUp) : stream.finish.Sound where
  dead_of_error := sound.dead_of_error
  connecting connecting := by
    have established : stream.phase = .established := up.1
    simp [Stream.finish, established] at connecting
  dead := sound.dead
  unshut := sound.unshut

theorem Sound.fail {stream : Stream} (sound : stream.Sound) (error : IoError) : (stream.fail error).Sound where
  dead_of_error _ := rfl
  connecting connecting := by simp [Stream.fail] at connecting
  dead _ := .inl rfl
  unshut := sound.unshut

theorem Sound.arrive {stream : Stream} (sound : stream.Sound) (up : stream.IsUp) (bytes : List UInt8) :
    (stream.arrive bytes).Sound where
  dead_of_error := sound.dead_of_error
  connecting := sound.connecting
  dead dead := by
    have established : stream.phase = .established := up.1
    simp [Stream.arrive, established] at dead
  unshut := sound.unshut

theorem peek_failed {stream : Stream} {error : IoError} (failed : stream.peek = .failed error) :
    stream.inbox = [] ∧ stream.error = some error := by
  unfold Stream.peek at failed
  split at failed
  · cases failed
  next empty =>
    have empty : stream.inbox = [] := by simpa using empty
    split at failed
    · cases failed
    · split at failed
      next told found => exact ⟨empty, by cases failed; exact found⟩
      next => split at failed <;> cases failed

theorem afterPeek_cases (stream : Stream) :
    stream.afterPeek = stream ∨ stream.afterPeek = { stream with error := none } ∧ stream.inbox = [] := by
  unfold Stream.afterPeek
  split
  next error failed => exact .inr ⟨rfl, (peek_failed failed).1⟩
  next => exact .inl rfl

theorem Sound.afterPeek {stream : Stream} (sound : stream.Sound) : stream.afterPeek.Sound := by
  rcases stream.afterPeek_cases with same | ⟨changed, empty⟩
  · rwa [same]
  · rw [changed]
    exact ⟨by simp, sound.connecting, fun _ => .inr empty, sound.unshut⟩

theorem Sound.afterReceive {stream : Stream} (sound : stream.Sound) (count : Nat) :
    (stream.afterReceive count).Sound := by
  unfold Stream.afterReceive
  split
  · refine ⟨sound.dead_of_error, sound.connecting, fun dead => ?_, sound.unshut⟩
    rcases sound.dead dead with error | empty
    · exact .inl error
    · exact .inr (by simp [empty])
  · exact sound.afterPeek

@[simp] theorem afterPeek_mate (stream : Stream) : stream.afterPeek.mate = stream.mate := by
  rcases stream.afterPeek_cases with same | ⟨changed, _⟩ <;> simp [*]

@[simp] theorem afterReceive_mate (stream : Stream) (count : Nat) :
    (stream.afterReceive count).mate = stream.mate := by
  unfold Stream.afterReceive
  split <;> simp

@[simp] theorem afterPeek_phase (stream : Stream) : stream.afterPeek.phase = stream.phase := by
  rcases stream.afterPeek_cases with same | ⟨changed, _⟩ <;> simp [*]

@[simp] theorem afterReceive_phase (stream : Stream) (count : Nat) :
    (stream.afterReceive count).phase = stream.phase := by
  unfold Stream.afterReceive
  split <;> simp

theorem IsUp.afterPeek {stream : Stream} (up : stream.IsUp) : stream.afterPeek.IsUp := by
  rcases stream.afterPeek_cases with same | ⟨changed, _⟩
  · rwa [same]
  · rw [changed]
    exact up

theorem IsUp.afterReceive {stream : Stream} (up : stream.IsUp) (count : Nat) : (stream.afterReceive count).IsUp := by
  unfold Stream.afterReceive
  split
  · exact up
  · exact up.afterPeek

end Stream

namespace Network

/-- A network that could have come about. -/
structure Sound (network : Network) : Prop where
  streams : ∀ {id stream}, network.stream? id = some stream → stream.Sound
  /-- While both ends of a connection are there, each knows the other and is up. -/
  mates : ∀ {id stream mate other}, network.stream? id = some stream → stream.mate = some mate →
    network.stream? mate = some other → stream.IsUp ∧ other.mate = some id
  known : ∀ {id stream mate}, network.stream? id = some stream → stream.mate = some mate →
    mate < network.sockets.next
  /-- What waits at a listener is there and belongs to nobody. -/
  queued : ∀ {listener listening id}, network.listening? listener = some listening → id ∈ listening.queue →
    network.owner? id = some .queue ∧ (network.stream? id).isSome
  once : ∀ {listener listening}, network.listening? listener = some listening → listening.queue.Nodup
  /-- Nothing waits at two listeners. -/
  apart : ∀ {first second listening other id}, network.listening? first = some listening →
    network.listening? second = some other → id ∈ listening.queue → id ∈ other.queue → first = second

theorem Sound.ofRoutes (routes : Routes) : (Network.ofRoutes routes).Sound := by
  have empty : ∀ id, (Network.ofRoutes routes).socket? id = none := fun id => Registry.find?_empty id
  constructor <;> simp [stream?_eq_bind, listening?_eq_bind, empty]

theorem Sound.of_fewer {network other : Network} (sound : network.Sound)
    (streams : ∀ id, other.stream? id = network.stream? id)
    (listenings : ∀ {id listening}, other.listening? id = some listening → network.listening? id = some listening)
    (owners : ∀ id, other.owner? id = network.owner? id)
    (next : other.sockets.next = network.sockets.next) : other.Sound := by
  refine ⟨?_, ?_, ?_, ?_, fun there => sound.once (listenings there), fun there thereToo =>
    sound.apart (listenings there) (listenings thereToo)⟩
  all_goals simp only [streams, owners, next]
  · exact sound.streams
  · exact sound.mates
  · exact sound.known
  · exact fun there => sound.queued (listenings there)

theorem Sound.of_views {network other : Network} (sound : network.Sound)
    (streams : ∀ id, other.stream? id = network.stream? id)
    (listenings : ∀ id, other.listening? id = network.listening? id)
    (owners : ∀ id, other.owner? id = network.owner? id)
    (next : other.sockets.next = network.sockets.next) : other.Sound :=
  sound.of_fewer streams (fun there => listenings _ ▸ there) owners next

theorem Sound.skip {network : Network} (sound : network.Sound) : network.skip.Sound := by
  constructor
  case known =>
    intro id stream mate found known
    rw [stream?_skip] at found
    rw [next_skip]
    exact Nat.lt_succ_of_lt (sound.known found known)
  all_goals simp only [stream?_skip, listening?_skip, owner?_skip]
  · exact sound.streams
  · exact sound.mates
  · exact sound.queued
  · exact sound.once
  · exact sound.apart

theorem Sound.mapLingering {network : Network} (sound : network.Sound) (f : List Lingering → List Lingering) :
    (network.mapLingering f).Sound :=
  sound.of_views (fun _ => rfl) (fun _ => rfl) (fun _ => rfl) rfl

theorem Sound.mapIdle {network : Network} (sound : network.Sound) (id : SocketId) (f : Idle → Idle) :
    (network.modify id (Socket.mapIdle f)).Sound :=
  sound.of_views (stream?_mapIdle network id f) (listening?_mapIdle network id f) (owner?_mapIdle network id f)
    (next_modify id _ network)

theorem Sound.setIdle {network : Network} (sound : network.Sound) {listener : SocketId} {listening : Listening}
    (there : network.listening? listener = some listening) (idle : Idle) :
    (network.modify listener fun socket => { socket with state := .idle idle }).Sound := by
  refine sound.of_fewer (stream?_setIdle there idle) (fun {id other} shown => ?_) (owner?_setIdle network listener idle)
    (next_modify listener _ network)
  rw [listening?_setIdle] at shown
  split at shown
  · cases shown
  · exact shown

/-- Nobody waits at a listener under the number. -/
def Free (network : Network) (id : SocketId) : Prop :=
  ∀ listener listening, network.listening? listener = some listening → id ∉ listening.queue

theorem Sound.free_of_owner {network : Network} (sound : network.Sound) {id : SocketId}
    (owned : network.owner? id ≠ some .queue) : network.Free id :=
  fun _ _ found waits => owned (sound.queued found waits).1

theorem Sound.add {network : Network} (sound : network.Sound) {socket : Socket}
    (stream : ∀ stream, socket.stream? = some stream → stream.Sound ∧ stream.mate = none)
    (listening : ∀ listening, socket.listening? = some listening → listening.queue = []) :
    (network.add socket).Sound := by
  constructor
  case streams =>
    intro id found there
    rw [stream?_add] at there
    split at there
    · exact (stream found there).1
    · exact sound.streams there
  case mates =>
    intro id found mate other there known mateThere
    rw [stream?_add] at there mateThere
    split at there
    · rw [(stream found there).2] at known
      cases known
    · have old : mate ≠ network.sockets.next := Nat.ne_of_lt (sound.known there known)
      -- An other end is known by a number given out before, so it is not the new socket.
      rw [if_neg old] at mateThere
      exact sound.mates there known mateThere
  case known =>
    intro id found mate there known
    rw [stream?_add] at there
    rw [next_add]
    split at there
    · rw [(stream found there).2] at known
      cases known
    · exact Nat.lt_succ_of_lt (sound.known there known)
  case queued =>
    intro listener found id there waits
    rw [listening?_add] at there
    split at there
    · rw [listening found there] at waits
      cases waits
    · have queued := sound.queued there waits
      obtain ⟨stream, streamThere⟩ := Option.isSome_iff_exists.mp queued.2
      have old : id ≠ network.sockets.next := Nat.ne_of_lt (lt_next_of_stream? streamThere)
      rw [owner?_add, stream?_add, if_neg old, if_neg old]
      exact queued
  case once =>
    intro listener found there
    rw [listening?_add] at there
    split at there
    · rw [listening found there]
      exact List.nodup_nil
    · exact sound.once there
  case apart =>
    intro first second one two id firstThere secondThere waits waitsToo
    rw [listening?_add] at firstThere secondThere
    split at firstThere
    · rw [listening one firstThere] at waits
      cases waits
    · split at secondThere
      · rw [listening two secondThere] at waitsToo
        cases waitsToo
      · exact sound.apart firstThere secondThere waits waitsToo

/-- A stream may change as long as its other end stays the same and, while that is there, it stays up. -/
theorem Sound.mapStream {network : Network} (sound : network.Sound) {id : SocketId} {f : Stream → Stream}
    (change : ∀ stream, network.stream? id = some stream → (f stream).Sound ∧ (f stream).mate = stream.mate)
    (up : ∀ stream mate other, network.stream? id = some stream → stream.mate = some mate →
      network.stream? mate = some other → (f stream).IsUp) :
    (network.modify id (Socket.mapStream f)).Sound := by
  -- What a stream was before it is seen through; the change matters for `mates` alone.
  have shown : ∀ {other stream}, (network.modify id (Socket.mapStream f)).stream? other = some stream →
      ∃ before, network.stream? other = some before ∧ stream.mate = before.mate ∧ stream.Sound ∧
        stream = if id = other then f before else before := by
    intro other stream there
    rw [stream?_mapStream] at there
    split at there
    next same =>
      obtain ⟨before, found, rfl⟩ := Option.map_eq_some_iff.mp there
      have kept := change before (same ▸ found)
      exact ⟨before, found, kept.2, kept.1, (if_pos same).symm⟩
    next different => exact ⟨stream, there, rfl, sound.streams there, (if_neg different).symm⟩
  constructor
  case streams =>
    intro other stream there
    obtain ⟨_, _, _, kept, _⟩ := shown there
    exact kept
  case mates =>
    intro other stream mate opposite there known mateThere
    obtain ⟨before, found, sameMate, _, changed⟩ := shown there
    obtain ⟨oppositeBefore, oppositeFound, oppositeMate, _, _⟩ := shown mateThere
    rw [sameMate] at known
    have both := sound.mates found known oppositeFound
    rw [oppositeMate, changed]
    refine ⟨?_, both.2⟩
    split
    next same => exact up before mate oppositeBefore (same ▸ found) known oppositeFound
    next => exact both.1
  case known =>
    intro other stream mate there known
    obtain ⟨before, found, sameMate, _, _⟩ := shown there
    rw [next_modify]
    exact sound.known found (sameMate ▸ known)
  case queued =>
    intro listener listening other there waits
    rw [listening?_mapStream] at there
    rw [owner?_mapStream, stream?_mapStream]
    have queued := sound.queued there waits
    refine ⟨queued.1, ?_⟩
    split
    · rw [Option.isSome_map]
      exact queued.2
    · exact queued.2
  case once =>
    intro listener listening there
    exact sound.once (listening?_mapStream .. ▸ there)
  case apart =>
    intro first second one two other firstThere secondThere
    exact sound.apart (listening?_mapStream .. ▸ firstThere) (listening?_mapStream .. ▸ secondThere)

theorem Sound.mapListening {network : Network} (sound : network.Sound) {id : SocketId} {f : Listening → Listening}
    (change : ∀ listening, network.listening? id = some listening → (f listening).queue.Sublist listening.queue) :
    (network.modify id (Socket.mapListening f)).Sound := by
  have shown : ∀ {other listening}, (network.modify id (Socket.mapListening f)).listening? other = some listening →
      ∃ before, network.listening? other = some before ∧ listening.queue.Sublist before.queue := by
    intro other listening there
    rw [listening?_mapListening] at there
    split at there
    next same =>
      obtain ⟨before, found, rfl⟩ := Option.map_eq_some_iff.mp there
      exact ⟨before, found, change before (same ▸ found)⟩
    next => exact ⟨listening, there, List.Sublist.refl _⟩
  constructor
  case streams =>
    intro other stream there
    exact sound.streams (stream?_mapListening .. ▸ there)
  case mates =>
    intro other stream mate opposite there known mateThere
    exact sound.mates (stream?_mapListening .. ▸ there) known (stream?_mapListening .. ▸ mateThere)
  case known =>
    intro other stream mate there known
    rw [next_modify]
    exact sound.known (stream?_mapListening .. ▸ there) known
  case queued =>
    intro listener listening other there waits
    obtain ⟨before, found, fewer⟩ := shown there
    rw [owner?_mapListening, stream?_mapListening]
    exact sound.queued found (fewer.subset waits)
  case once =>
    intro listener listening there
    obtain ⟨before, found, fewer⟩ := shown there
    exact fewer.nodup (sound.once found)
  case apart =>
    intro first second one two other firstThere secondThere waits waitsToo
    obtain ⟨firstBefore, firstFound, firstFewer⟩ := shown firstThere
    obtain ⟨secondBefore, secondFound, secondFewer⟩ := shown secondThere
    exact sound.apart firstFound secondFound (firstFewer.subset waits) (secondFewer.subset waitsToo)

theorem Sound.setOwner {network : Network} (sound : network.Sound) {id : SocketId} (owner : Owner)
    (free : network.Free id) : (network.modify id fun socket => { socket with owner }).Sound := by
  constructor
  case queued =>
    intro listener listening other there waits
    rw [listening?_setOwner] at there
    have different : id ≠ other := fun same => free listener listening there (same ▸ waits)
    rw [owner?_setOwner, stream?_setOwner, if_neg different]
    exact sound.queued there waits
  all_goals simp only [stream?_setOwner, listening?_setOwner, next_modify]
  · exact sound.streams
  · exact sound.mates
  · exact sound.known
  · exact sound.once
  · exact sound.apart

theorem Sound.remove {network : Network} (sound : network.Sound) {id : SocketId} (free : network.Free id) :
    (network.remove id).Sound := by
  constructor
  case streams =>
    intro other stream there
    rw [stream?_remove] at there
    split at there
    · cases there
    · exact sound.streams there
  case mates =>
    intro other stream mate opposite there known mateThere
    rw [stream?_remove] at there mateThere
    split at there
    · cases there
    · split at mateThere
      · cases mateThere
      · exact sound.mates there known mateThere
  case known =>
    intro other stream mate there known
    rw [stream?_remove] at there
    rw [next_remove]
    split at there
    · cases there
    · exact sound.known there known
  case queued =>
    intro listener listening other there waits
    rw [listening?_remove] at there
    split at there
    · cases there
    · have different : id ≠ other := fun same => free listener listening there (same ▸ waits)
      rw [owner?_remove, stream?_remove, if_neg different, if_neg different]
      exact sound.queued there waits
  case once =>
    intro listener listening there
    rw [listening?_remove] at there
    split at there
    · cases there
    · exact sound.once there
  case apart =>
    intro first second one two other firstThere secondThere
    rw [listening?_remove] at firstThere secondThere
    split at firstThere
    · cases firstThere
    · split at secondThere
      · cases secondThere
      · exact sound.apart firstThere secondThere

end Network
end InstrumentLink
