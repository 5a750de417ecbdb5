import InstrumentLink.Proofs.Network.Ending
import InstrumentLink.World.Event

/-!
Each operation on a network, and each event, keeps it sound.
-/

namespace InstrumentLink
namespace Network

theorem listenerAt?_eq_some {network : Network} {address : SocketAddress} {id : SocketId} {listening : Listening}
    (found : network.listenerAt? address = some (id, listening)) :
    network.listening? id = some listening ∧ listening.address.hears address = true := by
  obtain ⟨⟨number, socket⟩, member, shown⟩ := List.exists_of_findSome?_eq_some found
  have there : network.socket? number = some socket := Registry.mem_toList.mp member
  rcases socket with ⟨owner, _ | waiting | _ | _⟩
  · cases shown
  · by_cases reached : waiting.address.hears address
    · simp only [if_pos reached, Option.some.injEq, Prod.mk.injEq] at shown
      obtain ⟨rfl, rfl⟩ := shown
      exact ⟨by rw [listening?_eq_bind, there]; rfl, reached⟩
    · simp only [if_neg reached, reduceCtorEq] at shown
  · cases shown
  · cases shown

def answered (id listener : SocketId) (stream : Stream) (listening : Listening) (network : Network) : Network :=
  ((network.add ⟨.queue, .stream (farEnd id stream listening)⟩).modify id
    (Socket.mapStream fun stream =>
      { stream with phase := .established, mate := some network.sockets.next })).modify listener
    (Socket.mapListening fun listening => { listening with queue := listening.queue ++ [network.sockets.next] })

theorem answer_cases (id : SocketId) (network : Network) :
    network.answer id = network ∨
      ∃ stream listener listening, network.stream? id = some stream ∧ stream.phase = .connecting ∧
        network.listenerAt? stream.there = some (listener, listening) ∧ hasRoom listening = true ∧
        network.answer id = network.answered id listener stream listening := by
  unfold Network.answer
  split
  · exact .inl rfl
  next stream found =>
    split
    · exact .inl rfl
    next listener listening reached =>
      split
      next free => exact .inr ⟨stream, listener, listening, found, free.1, reached, free.2, rfl⟩
      next => exact .inl rfl

theorem stream?_answered {network : Network} {id listener : SocketId} {stream : Stream} {listening : Listening}
    (found : network.stream? id = some stream) (other : SocketId) :
    (network.answered id listener stream listening).stream? other =
      if other = network.sockets.next then some (farEnd id stream listening)
      else if other = id then
        some { stream with phase := .established, mate := some network.sockets.next }
      else network.stream? other := by
  have old : id ≠ network.sockets.next := Nat.ne_of_lt (lt_next_of_stream? found)
  simp only [answered, stream?_mapListening, stream?_mapStream, stream?_add, eq_comm (a := id)]
  by_cases new : other = network.sockets.next
  · simp [new, old.symm, Socket.stream?]
  · by_cases same : other = id
    · subst same
      simp [old, found]
    · simp [new, same]

theorem listening?_addStream (owner : Owner) (stream : Stream) (network : Network) (id : SocketId) :
    (network.add ⟨owner, .stream stream⟩).listening? id = network.listening? id := by
  rw [listening?_add]
  split
  next new => rw [new, listening?_next]; rfl
  next => rfl

theorem listening?_answered (network : Network) (id listener : SocketId) (stream : Stream) (listening : Listening)
    (other : SocketId) :
    (network.answered id listener stream listening).listening? other =
      if listener = other then
        (network.listening? other).map fun listening =>
          { listening with queue := listening.queue ++ [network.sockets.next] }
      else network.listening? other := by
  simp only [answered, listening?_mapListening, listening?_mapStream, listening?_addStream]

theorem owner?_answered (network : Network) (id listener : SocketId) (stream : Stream) (listening : Listening)
    (other : SocketId) :
    (network.answered id listener stream listening).owner? other =
      if other = network.sockets.next then some .queue else network.owner? other := by
  simp only [answered, owner?_mapListening, owner?_mapStream, owner?_add]

theorem next_answered (network : Network) (id listener : SocketId) (stream : Stream) (listening : Listening) :
    (network.answered id listener stream listening).sockets.next = network.sockets.next + 1 := by
  simp [answered]

section Answered

variable {network : Network} {id listener : SocketId} {stream : Stream} {waiting : Listening}

theorem Sound.streams_answered (sound : network.Sound) (found : network.stream? id = some stream)
    (connecting : stream.phase = .connecting) {other : SocketId} {there : Stream}
    (shown : (network.answered id listener stream waiting).stream? other = some there) : there.Sound := by
  rw [stream?_answered found] at shown
  split at shown
  · cases shown
    exact ⟨by simp [farEnd], by simp [farEnd], fun dead => by simp [farEnd] at dead, rfl⟩
  · split at shown
    · cases shown
      have noError : stream.error = none := by
        cases told : stream.error with
        | none => rfl
        | some error =>
          have dead := (sound.streams found).dead_of_error (by simp [told])
          rw [connecting] at dead
          cases dead
      exact ⟨by simp [noError], by simp, fun dead => by simp at dead, (sound.streams found).unshut⟩
    · exact sound.streams shown

/-- The two ends know each other, and nobody knew the near end while the handshake was under way. -/
theorem Sound.mates_answered (sound : network.Sound) (found : network.stream? id = some stream)
    (connecting : stream.phase = .connecting) {other mate : SocketId} {there opposite : Stream}
    (shown : (network.answered id listener stream waiting).stream? other = some there) (known : there.mate = some mate)
    (mateShown : (network.answered id listener stream waiting).stream? mate = some opposite) :
    there.IsUp ∧ opposite.mate = some other := by
  have alone := (sound.streams found).connecting connecting
  have old : id ≠ network.sockets.next := Nat.ne_of_lt (lt_next_of_stream? found)
  rw [stream?_answered found] at shown mateShown
  split at shown
  next far =>
    cases shown
    have near : mate = id := by simpa [farEnd, eq_comm] using known
    subst near
    rw [if_neg old, if_pos rfl] at mateShown
    cases mateShown
    exact ⟨⟨rfl, rfl⟩, by rw [far]⟩
  next notFar =>
    split at shown
    next near =>
      cases shown
      have far : mate = network.sockets.next := by simpa [eq_comm] using known
      subst far
      rw [if_pos rfl] at mateShown
      cases mateShown
      exact ⟨⟨rfl, alone.2⟩, by rw [near]; rfl⟩
    next notNear =>
      have mateOld : mate ≠ network.sockets.next := Nat.ne_of_lt (sound.known shown known)
      have mateNotNear : mate ≠ id := by
        rintro rfl
        have both := sound.mates shown known found
        rw [alone.1] at both
        cases both.2
      rw [if_neg mateOld, if_neg mateNotNear] at mateShown
      exact sound.mates shown known mateShown

theorem Sound.known_answered (sound : network.Sound) (found : network.stream? id = some stream)
    {other mate : SocketId} {there : Stream}
    (shown : (network.answered id listener stream waiting).stream? other = some there)
    (known : there.mate = some mate) : mate < (network.answered id listener stream waiting).sockets.next := by
  rw [stream?_answered found] at shown
  rw [next_answered]
  split at shown
  · cases shown
    have near : mate = id := by simpa [farEnd, eq_comm] using known
    rw [near]
    exact Nat.lt_succ_of_lt (lt_next_of_stream? found)
  · split at shown
    · cases shown
      have far : mate = network.sockets.next := by simpa [eq_comm] using known
      rw [far]
      exact Nat.lt_succ_self _
    · exact Nat.lt_succ_of_lt (sound.known shown known)

theorem Sound.waiting_ne_next (sound : network.Sound) {number other : SocketId} {listening : Listening}
    (there : network.listening? number = some listening) (waits : other ∈ listening.queue) :
    other ≠ network.sockets.next := by
  obtain ⟨waiting, found⟩ := Option.isSome_iff_exists.mp (sound.queued there waits).2
  exact Nat.ne_of_lt (lt_next_of_stream? found)

theorem waiting_answered {number other : SocketId} {listening : Listening}
    (shown : (network.answered id listener stream waiting).listening? number = some listening)
    (waits : other ∈ listening.queue) :
    (other = network.sockets.next ∧ number = listener) ∨
      ∃ before, network.listening? number = some before ∧ other ∈ before.queue := by
  rw [listening?_answered] at shown
  split at shown
  next same =>
    obtain ⟨before, there, rfl⟩ := Option.map_eq_some_iff.mp shown
    rcases List.mem_append.mp waits with earlier | last
    · exact .inr ⟨before, there, earlier⟩
    · exact .inl ⟨List.mem_singleton.mp last, same.symm⟩
  next => exact .inr ⟨listening, shown, waits⟩

theorem Sound.answered (sound : network.Sound) (found : network.stream? id = some stream)
    (connecting : stream.phase = .connecting) : (network.answered id listener stream waiting).Sound where
  streams := sound.streams_answered found connecting
  mates := sound.mates_answered found connecting
  known := sound.known_answered found
  queued := by
    intro number listening other shown waits
    rw [owner?_answered, stream?_answered found]
    rcases waiting_answered shown waits with ⟨rfl, _⟩ | ⟨before, there, waited⟩
    · simp
    · have old := sound.waiting_ne_next there waited
      rw [if_neg old, if_neg old]
      refine ⟨(sound.queued there waited).1, ?_⟩
      split
      · rfl
      · exact (sound.queued there waited).2
  once := by
    intro number listening shown
    rw [listening?_answered] at shown
    split at shown
    · obtain ⟨before, there, rfl⟩ := Option.map_eq_some_iff.mp shown
      refine List.nodup_append.mpr ⟨sound.once there, by simp, ?_⟩
      intro one waits two isNew
      rw [List.mem_singleton.mp isNew]
      exact sound.waiting_ne_next there waits
    · exact sound.once shown
  apart := by
    intro first second one two other firstShown secondShown waits waitsToo
    rcases waiting_answered firstShown waits with ⟨new, firstIs⟩ | ⟨firstBefore, firstThere, firstWaits⟩
    · rcases waiting_answered secondShown waitsToo with ⟨_, secondIs⟩ | ⟨secondBefore, secondThere, secondWaits⟩
      · rw [firstIs, secondIs]
      · exact absurd new (sound.waiting_ne_next secondThere secondWaits)
    · rcases waiting_answered secondShown waitsToo with ⟨new, _⟩ | ⟨secondBefore, secondThere, secondWaits⟩
      · exact absurd new (sound.waiting_ne_next firstThere firstWaits)
      · exact sound.apart firstThere secondThere firstWaits secondWaits

end Answered

theorem Sound.answer {network : Network} (sound : network.Sound) (id : SocketId) : (network.answer id).Sound := by
  rcases network.answer_cases id with same | ⟨stream, listener, listening, found, connecting, _, _, answered⟩
  · rwa [same]
  · rw [answered]
    exact sound.answered found connecting

theorem Fresh.sound {network : Network} {owner : Owner} {state : SocketState} (fresh : network.Fresh state)
    (stream : Stream) (is : (⟨owner, state⟩ : Socket).stream? = some stream) : stream.Sound := by
  cases fresh <;> cases is
  exact ⟨by simp [nearEnd, dialled], by simp [nearEnd, dialled], fun dead => by simp [nearEnd, dialled] at dead, rfl⟩

theorem Sound.made {network : Network} (sound : network.Sound) {owner : Owner} {state : SocketState}
    {answer : Except IoError SocketId × Network} (made : network.Made owner state answer) : answer.2.Sound := by
  cases made with
  | refused error => exact sound.skip
  | granted fresh =>
    have added : (network.add ⟨owner, state⟩).Sound :=
      sound.add (fun stream is => ⟨fresh.sound stream is, fresh.alone stream is⟩) fresh.nobody
    exact added.answer network.sockets.next

/-- Taking a connection out of the queue that it waits in makes it free, so that it may belong to somebody. -/
theorem Sound.accept {network : Network} (sound : network.Sound) (owner : Owner) (listener : SocketId) :
    (network.accept owner listener).2.Sound := by
  unfold Network.accept
  split
  · exact sound
  next listening there =>
    split
    · exact sound
    next id rest queue =>
      split
      · exact sound
      next stream found =>
        have notListening : listener ≠ id := by
          rintro rfl
          rw [stream?_of_listening? there] at found
          cases found
        have first := sound.once there
        rw [queue] at first
        have shorter : (network.modify listener
            (Socket.mapListening fun listening => { listening with queue := rest })).Sound := by
          refine sound.mapListening (fun before beforeThere => ?_)
          rw [there] at beforeThere
          cases beforeThere
          rw [queue]
          exact List.sublist_cons_self id rest
        have free : (network.modify listener
            (Socket.mapListening fun listening => { listening with queue := rest })).Free id := by
          intro number before shown waits
          rw [listening?_mapListening] at shown
          split at shown
          · obtain ⟨_, _, rfl⟩ := Option.map_eq_some_iff.mp shown
            exact (List.nodup_cons.mp first).1 waits
          next different =>
            refine different (sound.apart there shown ?_ waits)
            rw [queue]
            exact List.mem_cons_self
        refine (shorter.setOwner owner free).of_views ?_ ?_ ?_ ?_
        · simp
        · simp [listening?_mapListening]
        · simp [owner?_setOwner]
        · simp

theorem Sound.peek {network : Network} (sound : network.Sound) (id : SocketId) : (network.peek id).2.Sound := by
  unfold Network.peek
  split
  · refine sound.mapStream (fun stream found => ⟨(sound.streams found).afterPeek, stream.afterPeek_mate⟩) ?_
    intro stream mate other found known mateThere
    exact (sound.mates found known mateThere).1.afterPeek
  · exact sound

theorem Sound.receive {network : Network} (sound : network.Sound) (id : SocketId) (count : Nat) :
    (network.receive id count).2.Sound := by
  unfold Network.receive
  split
  · refine sound.mapStream
      (fun stream found => ⟨(sound.streams found).afterReceive count, stream.afterReceive_mate count⟩) ?_
    intro stream mate other found known mateThere
    exact (sound.mates found known mateThere).1.afterReceive count
  · exact sound

theorem Sound.send {network : Network} (sound : network.Sound) (id : SocketId) (bytes : List UInt8) :
    (network.send id bytes).2.Sound := by
  unfold Network.send
  split
  · exact sound
  next stream found =>
    split
    · exact sound
    · split
      next mate reached =>
        obtain ⟨known, there⟩ := Option.filter_eq_some_iff.mp reached
        obtain ⟨opposite, mateThere⟩ := Option.isSome_iff_exists.mp there
        have both := sound.mates found known mateThere
        refine sound.mapStream (fun other otherThere => ?_) (fun other back near otherThere otherKnown backThere => ?_)
        · rw [mateThere] at otherThere
          cases otherThere
          have up := (sound.mates mateThere both.2 found).1
          exact ⟨(sound.streams mateThere).arrive up bytes, rfl⟩
        · exact (sound.mates otherThere otherKnown backThere).1
      next gone =>
        refine Sound.mapLingering ?_ _
        refine sound.mapStream (fun other there => ⟨(sound.streams there).fail _, rfl⟩)
          (fun other mate near there known mateThere => ?_)
        rw [found] at there
        cases there
        rw [known] at gone
        simp [Option.filter, mateThere] at gone

theorem Sound.refuse {network : Network} (sound : network.Sound) (id : SocketId) (error : IoError) :
    (network.refuse id error).Sound := by
  refine sound.mapStream (fun stream found => ?_) (fun stream mate other found known mateThere => ?_)
  · split
    · exact ⟨(sound.streams found).fail error, rfl⟩
    · exact ⟨sound.streams found, rfl⟩
  · have up := (sound.mates found known mateThere).1
    rw [if_neg (by simp [up.1])]
    exact up

theorem stream?_refuseIdle (network : Network) (id : SocketId) :
    network.refuseIdle.stream? id = (network.stream? id).map fun stream =>
      if stream.phase = .connecting ∧ (network.listenerAt? stream.there).isNone then
        stream.fail .connectionRefused
      else stream := by
  simp only [stream?_eq_bind, refuseIdle, socket?, Registry.find?_map]
  rcases network.sockets.find? id with _ | ⟨owner, _ | _ | _ | _⟩ <;> rfl

theorem listening?_refuseIdle (network : Network) (id : SocketId) :
    network.refuseIdle.listening? id = network.listening? id := by
  simp only [listening?_eq_bind, refuseIdle, socket?, Registry.find?_map]
  rcases network.sockets.find? id with _ | ⟨owner, _ | _ | _ | _⟩ <;> rfl

theorem owner?_refuseIdle (network : Network) (id : SocketId) : network.refuseIdle.owner? id = network.owner? id := by
  simp only [owner?, refuseIdle, socket?, Registry.find?_map]
  rcases network.sockets.find? id with _ | ⟨owner, _ | _ | _ | _⟩ <;> rfl

theorem Sound.refuseIdle {network : Network} (sound : network.Sound) : network.refuseIdle.Sound := by
  -- A stream that is up is not idle, so of two that know each other neither is refused.
  have shown : ∀ {id stream}, network.refuseIdle.stream? id = some stream →
      ∃ before, network.stream? id = some before ∧ stream.mate = before.mate ∧ stream.Sound ∧
        (before.IsUp → stream = before) := by
    intro id stream there
    rw [stream?_refuseIdle] at there
    obtain ⟨before, found, changed⟩ := Option.map_eq_some_iff.mp there
    refine ⟨before, found, ?_⟩
    split at changed
    next idle =>
      refine ⟨changed ▸ rfl, changed ▸ (sound.streams found).fail _, fun up => ?_⟩
      rw [up.1] at idle
      cases idle.1
    next => exact ⟨changed ▸ rfl, changed ▸ sound.streams found, fun _ => changed.symm⟩
  have next : network.refuseIdle.sockets.next = network.sockets.next := Registry.next_map ..
  constructor
  case streams =>
    intro id stream there
    obtain ⟨_, _, _, kept, _⟩ := shown there
    exact kept
  case mates =>
    intro id stream mate opposite there known mateThere
    obtain ⟨before, found, sameMate, _, kept⟩ := shown there
    obtain ⟨oppositeBefore, oppositeFound, oppositeMate, _⟩ := shown mateThere
    have both := sound.mates found (sameMate ▸ known) oppositeFound
    rw [kept both.1, oppositeMate]
    exact both
  case known =>
    intro id stream mate there known
    obtain ⟨before, found, sameMate, _⟩ := shown there
    rw [next]
    exact sound.known found (sameMate ▸ known)
  case queued =>
    intro listener listening id there waits
    rw [listening?_refuseIdle] at there
    rw [owner?_refuseIdle, stream?_refuseIdle, Option.isSome_map]
    exact sound.queued there waits
  case once =>
    intro listener listening there
    exact sound.once (listening?_refuseIdle .. ▸ there)
  case apart =>
    intro first second one two id firstThere secondThere
    exact sound.apart (listening?_refuseIdle .. ▸ firstThere) (listening?_refuseIdle .. ▸ secondThere)

theorem Sound.outside {network : Network} (sound : network.Sound) {id : SocketId} (f : Network → Network)
    (change : network.Free id → (f network).Sound) : (network.outside id f).Sound := by
  unfold Network.outside
  split
  next owned =>
    refine change (sound.free_of_owner ?_)
    unfold owner?
    cases found : network.socket? id with
    | none => simp
    | some socket =>
      rw [found] at owned
      have outside : socket.owner = .outside := by simpa using owned
      simp [outside]
  next => exact sound

theorem Sound.event {network : Network} (sound : network.Sound) (event : Event) :
    (event.onNetwork network).Sound := by
  cases event with
  | serve address backlog shares => exact sound.made (network.listen_made .outside address backlog shares)
  | dial remote => exact sound.made (network.connect_made .outside remote)
  | take server => exact sound.outside (fun network => (network.accept .outside server).2) fun _ => sound.accept ..
  | send id bytes => exact sound.outside (fun network => (network.send id bytes).2) fun _ => sound.send id bytes
  | receive id count =>
    exact sound.outside (fun network => (network.receive id count).2) fun _ => sound.receive id count
  | close id => exact sound.outside (Network.close id) sound.close
  | reset id => exact sound.outside (Network.abort id) sound.abort
  | answer id => exact sound.answer id
  | refuse id error => exact sound.refuse id error
  | refuseIdle => exact sound.refuseIdle
  | fault listener error => exact sound.fault listener error
  | expire id => exact sound.mapLingering _
  | plug _ | unplug _ | deviceSend _ _ | deviceReceive _ _ => exact sound

end Network
end InstrumentLink
