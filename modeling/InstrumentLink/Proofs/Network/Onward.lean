import InstrumentLink.Proofs.Network.Operations

/-!
Numbers only grow, and so do the other ends that sockets come by: whatever is done in a network, a socket that was there
before gets no other end with a smaller number than its own. Only an answer gives a stream another end, and that is new.
So is whoever joins a queue, and its own other end was there before it. What is gone stays gone.
-/

namespace InstrumentLink

/-- How a stream with a number may go on: a handshake that is over stays over, and only one that is under way gets another
end. -/
structure Stream.Onward (id : SocketId) (before after : Stream) : Prop where
  settled : before.phase ≠ .connecting → after.phase ≠ .connecting
  mate : after.mate = before.mate ∨
    before.phase = .connecting ∧ after.phase ≠ .connecting ∧ ∃ mate, after.mate = some mate ∧ id < mate

namespace Stream.Onward

variable {id : SocketId} {before middle after : Stream}

theorem refl (id : SocketId) (stream : Stream) : Stream.Onward id stream stream := ⟨fun settled => settled, .inl rfl⟩

/-- Whatever else becomes of it, a stream keeps its other end, and its handshake does not begin again. -/
theorem of_mate (mate : after.mate = before.mate) (settled : before.phase ≠ .connecting → after.phase ≠ .connecting) :
    Stream.Onward id before after :=
  ⟨settled, .inl mate⟩

theorem trans (first : Stream.Onward id before middle) (second : Stream.Onward id middle after) :
    Stream.Onward id before after where
  settled past := second.settled (first.settled past)
  mate := by
    rcases second.mate with same | ⟨connecting, settled, new⟩
    · rw [same]
      rcases first.mate with kept | ⟨connecting, settled, new⟩
      · exact .inl kept
      · exact .inr ⟨connecting, second.settled settled, new⟩
    · have began : before.phase = .connecting :=
        Decidable.of_not_not fun settled => first.settled settled connecting
      exact .inr ⟨began, settled, new⟩

end Stream.Onward

namespace Network

/-- What a number stands for was not dialled: its other end was there before it. -/
def Far (network : Network) (id : SocketId) : Prop :=
  id < network.sockets.next ∧ ∀ stream, network.stream? id = some stream →
    stream.phase ≠ .connecting ∧ ∃ mate, stream.mate = some mate ∧ mate < id

/-- What later networks have to do with earlier ones. -/
structure Onward (network later : Network) : Prop where
  next : network.sockets.next ≤ later.sockets.next
  streams : ∀ {id stream}, id < network.sockets.next → later.stream? id = some stream →
    ∃ before, network.stream? id = some before ∧ before.Onward id stream
  queues : ∀ {listener listening id}, later.listening? listener = some listening → id ∈ listening.queue →
    network.sockets.next ≤ id ∧ later.Far id ∨ ∃ before, network.listening? listener = some before ∧ id ∈ before.queue
  owners : ∀ {id}, id < network.sockets.next → network.Free id →
    later.owner? id = network.owner? id ∨ later.owner? id = none
  gone : ∀ {id}, id < network.sockets.next → network.socket? id = none → later.socket? id = none

namespace Onward

variable {network middle later : Network}

theorem far (onward : network.Onward later) {id : SocketId} (far : network.Far id) : later.Far id := by
  refine ⟨Nat.lt_of_lt_of_le far.1 onward.next, fun stream found => ?_⟩
  obtain ⟨before, foundBefore, kept⟩ := onward.streams far.1 found
  obtain ⟨settled, mate, known, smaller⟩ := far.2 before foundBefore
  rcases kept.mate with same | ⟨connecting, _⟩
  · exact ⟨kept.settled settled, mate, same.trans known, smaller⟩
  · exact absurd connecting settled

theorem free (onward : network.Onward later) {id : SocketId} (old : id < network.sockets.next) (free : network.Free id) :
    later.Free id := by
  intro listener listening there waits
  rcases onward.queues there waits with ⟨new, _⟩ | ⟨before, thereBefore, waited⟩
  · exact Nat.not_lt_of_le new old
  · exact free listener before thereBefore waited

theorem mates (onward : network.Onward later) {id mate : SocketId} {stream : Stream} (old : id < network.sockets.next)
    (found : later.stream? id = some stream) (known : stream.mate = some mate) :
    id < mate ∨ ∃ before, network.stream? id = some before ∧ before.mate = some mate := by
  obtain ⟨before, foundBefore, kept⟩ := onward.streams old found
  rcases kept.mate with same | ⟨_, _, new, isNew, greater⟩
  · exact .inr ⟨before, foundBefore, same.symm.trans known⟩
  · rw [known] at isNew
    exact .inl (Option.some.inj isNew ▸ greater)

theorem refl (network : Network) : network.Onward network :=
  ⟨Nat.le_refl _, fun _ found => ⟨_, found, .refl _ _⟩, fun there waits => .inr ⟨_, there, waits⟩, fun _ _ => .inl rfl,
    fun _ gone => gone⟩

theorem trans (first : network.Onward middle) (second : middle.Onward later) : network.Onward later where
  next := Nat.le_trans first.next second.next
  streams := by
    intro id stream old found
    obtain ⟨between, foundBetween, after⟩ := second.streams (Nat.lt_of_lt_of_le old first.next) found
    obtain ⟨before, foundBefore, kept⟩ := first.streams old foundBetween
    exact ⟨before, foundBefore, kept.trans after⟩
  queues := by
    intro listener listening id there waits
    rcases second.queues there waits with ⟨new, far⟩ | ⟨between, thereBetween, waitsBetween⟩
    · exact .inl ⟨Nat.le_trans first.next new, far⟩
    · exact (first.queues thereBetween waitsBetween).imp_left fun ⟨new, far⟩ => ⟨new, second.far far⟩
  owners old free := by
    rcases second.owners (Nat.lt_of_lt_of_le old first.next) (first.free old free) with same | gone
    · rw [same]
      exact first.owners old free
    · exact .inr gone
  gone old gone := second.gone (Nat.lt_of_lt_of_le old first.next) (first.gone old gone)

theorem of_views (next : network.sockets.next ≤ later.sockets.next)
    (streams : ∀ {id stream}, id < network.sockets.next → later.stream? id = some stream →
      ∃ before, network.stream? id = some before ∧ before.Onward id stream)
    (queues : ∀ {listener listening id}, later.listening? listener = some listening → id ∈ listening.queue →
      ∃ before, network.listening? listener = some before ∧ id ∈ before.queue)
    (owners : ∀ {id}, id < network.sockets.next → network.Free id →
      later.owner? id = network.owner? id ∨ later.owner? id = none)
    (gone : ∀ {id}, id < network.sockets.next → network.socket? id = none → later.socket? id = none) :
    network.Onward later :=
  ⟨next, streams, fun there waits => .inr (queues there waits), owners, gone⟩

theorem gone_modify {id : SocketId} {f : Socket → Socket} {other : SocketId} (gone : network.socket? other = none) :
    (network.modify id f).socket? other = none := by
  rw [socket?_modify, gone]
  split <;> rfl

theorem add {socket : Socket} (nobody : ∀ listening, socket.listening? = some listening → listening.queue = [])
    (network : Network) : network.Onward (network.add socket) := by
  apply of_views
  · rw [next_add]
    omega
  · intro id stream old found
    rw [stream?_add, if_neg (Nat.ne_of_lt old)] at found
    exact ⟨stream, found, .refl id stream⟩
  · intro listener listening id there waits
    rw [listening?_add] at there
    split at there
    · rw [nobody listening there] at waits
      cases waits
    · exact ⟨listening, there, waits⟩
  · intro id old _
    rw [owner?_add, if_neg (Nat.ne_of_lt old)]
    exact .inl rfl
  · intro id old gone
    rw [socket?_add, if_neg (Nat.ne_of_lt old), gone]

theorem remove (id : SocketId) (network : Network) : network.Onward (network.remove id) := by
  apply of_views
  · exact Nat.le_of_eq (next_remove id network).symm
  · intro other stream old found
    rw [stream?_remove] at found
    split at found
    · cases found
    · exact ⟨stream, found, .refl other stream⟩
  · intro listener listening other there waits
    rw [listening?_remove] at there
    split at there
    · cases there
    · exact ⟨listening, there, waits⟩
  · intro other _ _
    rw [owner?_remove]
    split
    · exact .inr rfl
    · exact .inl rfl
  · intro other _ gone
    rw [socket?_remove, gone]
    split <;> rfl

theorem mapStream {f : Stream → Stream} (onward : ∀ id stream, Stream.Onward id stream (f stream)) (id : SocketId)
    (network : Network) : network.Onward (network.modify id (Socket.mapStream f)) := by
  apply of_views
  · exact Nat.le_of_eq (next_modify id _ network).symm
  · intro other stream old found
    rw [stream?_mapStream] at found
    split at found
    · obtain ⟨before, foundBefore, rfl⟩ := Option.map_eq_some_iff.mp found
      exact ⟨before, foundBefore, onward other before⟩
    · exact ⟨stream, found, .refl other stream⟩
  · intro listener listening other there waits
    rw [listening?_mapStream] at there
    exact ⟨listening, there, waits⟩
  · exact fun _ _ => .inl (owner?_mapStream ..)
  · exact fun _ gone => gone_modify gone

theorem mapListening {id : SocketId} {f : Listening → Listening}
    (fewer : ∀ listening, network.listening? id = some listening → (f listening).queue ⊆ listening.queue) :
    network.Onward (network.modify id (Socket.mapListening f)) := by
  apply of_views
  · exact Nat.le_of_eq (next_modify id _ network).symm
  · intro other stream old found
    rw [stream?_mapListening] at found
    exact ⟨stream, found, .refl other stream⟩
  · intro listener listening other there waits
    rw [listening?_mapListening] at there
    split at there
    next same =>
      subst same
      obtain ⟨before, thereBefore, rfl⟩ := Option.map_eq_some_iff.mp there
      exact ⟨before, thereBefore, fewer before thereBefore waits⟩
    next => exact ⟨listening, there, waits⟩
  · exact fun _ _ => .inl (owner?_mapListening ..)
  · exact fun _ gone => gone_modify gone

theorem setOwner {id : SocketId} (waits : ¬network.Free id) (owner : Owner) :
    network.Onward (network.modify id fun socket => { socket with owner }) := by
  apply of_views
  · exact Nat.le_of_eq (next_modify id _ network).symm
  · intro other stream old found
    rw [stream?_setOwner] at found
    exact ⟨stream, found, .refl other stream⟩
  · intro listener listening other there waits
    rw [listening?_setOwner] at there
    exact ⟨listening, there, waits⟩
  · intro other _ free
    rw [owner?_setOwner]
    split
    next same => exact absurd (same ▸ free) waits
    next => exact .inl rfl
  · exact fun _ gone => gone_modify gone

theorem answer (id : SocketId) (network : Network) : network.Onward (network.answer id) := by
  rcases network.answer_cases id with same | ⟨near, listener, _, foundNear, connecting, _, _, answered⟩
  · rw [same]
    exact .refl network
  · rw [answered]
    have small : id < network.sockets.next := lt_next_of_stream? foundNear
    refine ⟨?_, fun {other stream} old found => ?_, fun {number listening other} there waits => ?_, fun {other} old _ => ?_,
      fun {other} old gone => ?_⟩
    · rw [next_answered]
      omega
    · rw [stream?_answered foundNear, if_neg (Nat.ne_of_lt old)] at found
      split at found
      next isNear =>
        subst isNear
        cases found
        exact ⟨near, foundNear, by simp, .inr ⟨connecting, by simp, _, rfl, old⟩⟩
      next => exact ⟨stream, found, .refl other stream⟩
    · rcases waiting_answered there waits with ⟨isNew, _⟩ | before
      · subst isNew
        refine .inl ⟨Nat.le_refl _, by rw [next_answered]; exact Nat.lt_succ_self _, fun stream found => ?_⟩
        rw [stream?_answered foundNear, if_pos rfl] at found
        cases found
        exact ⟨by simp [farEnd], id, rfl, small⟩
      · exact .inr before
    · rw [owner?_answered, if_neg (Nat.ne_of_lt old)]
      exact .inl rfl
    · refine gone_modify (gone_modify ?_)
      rw [socket?_add, if_neg (Nat.ne_of_lt old), gone]

theorem skip (network : Network) : network.Onward network.skip := by
  apply of_views
  · rw [next_skip]
    omega
  · intro id stream old found
    rw [stream?_skip] at found
    exact ⟨stream, found, .refl id stream⟩
  · intro listener listening id there waits
    rw [listening?_skip] at there
    exact ⟨listening, there, waits⟩
  · exact fun _ _ => .inl (owner?_skip ..)
  · intro id _ gone
    rw [socket?_skip, gone]

theorem made {owner : Owner} {state : SocketState} {answer : Except IoError SocketId × Network}
    (made : network.Made owner state answer) : network.Onward answer.2 := by
  cases made with
  | refused error => exact .skip network
  | granted fresh => exact (Onward.add fresh.nobody network).trans (.answer _ _)

theorem accept (owner : Owner) (listener : SocketId) (network : Network) :
    network.Onward (network.accept owner listener).2 := by
  unfold Network.accept
  split
  · exact .refl network
  next listening there =>
    split
    · exact .refl network
    next id rest queue =>
      split
      · exact .refl network
      · have waits : ¬network.Free id := by
          intro free
          refine free listener listening there ?_
          rw [queue]
          exact List.mem_cons_self
        refine (Onward.setOwner waits owner).trans (.mapListening fun before found => ?_)
        rw [listening?_setOwner, there] at found
        cases found
        rw [queue]
        exact List.subset_cons_self id rest

theorem peek (id : SocketId) (network : Network) : network.Onward (network.peek id).2 := by
  unfold Network.peek
  split
  · exact .mapStream (fun _ stream => .of_mate stream.afterPeek_mate (by simp)) id network
  · exact .refl network

theorem receive (id : SocketId) (count : Nat) (network : Network) : network.Onward (network.receive id count).2 := by
  unfold Network.receive
  split
  · exact .mapStream (fun _ stream => .of_mate (stream.afterReceive_mate count) (by simp)) id network
  · exact .refl network

theorem mapIdle (id : SocketId) (f : Idle → Idle) (network : Network) :
    network.Onward (network.modify id (Socket.mapIdle f)) := by
  apply of_views
  · exact Nat.le_of_eq (next_modify id _ network).symm
  · intro other stream old found
    rw [stream?_mapIdle] at found
    exact ⟨stream, found, .refl other stream⟩
  · intro listener listening other there waits
    rw [listening?_mapIdle] at there
    exact ⟨listening, there, waits⟩
  · exact fun _ _ => .inl (owner?_mapIdle ..)
  · exact fun _ gone => gone_modify gone

theorem takeError (id : SocketId) (network : Network) : network.Onward (network.takeError id).2 := by
  unfold Network.takeError
  split
  · exact .mapStream (fun _ _ => by exact .of_mate rfl fun settled => settled) id network
  · exact .mapIdle id _ network
  · exact .refl network

theorem breaks (id : SocketId) (error : IoError) (network : Network) :
    network.Onward (network.modify id (Socket.mapStream (Stream.fail error))) :=
  .mapStream (fun _ _ => by exact .of_mate rfl (by simp [Stream.fail])) id network

theorem mapLingering (f : List Lingering → List Lingering) (network : Network) :
    network.Onward (network.mapLingering f) :=
  of_views (Nat.le_refl _) (fun _ found => ⟨_, found, .refl _ _⟩) (fun there waits => ⟨_, there, waits⟩)
    (fun _ _ => .inl rfl) fun _ gone => gone

theorem send (id : SocketId) (bytes : List UInt8) (network : Network) : network.Onward (network.send id bytes).2 := by
  unfold Network.send
  split
  · exact .refl network
  · split
    · exact .refl network
    · split
      next mate _ => exact .mapStream (fun _ _ => by exact .of_mate rfl fun settled => settled) mate network
      next => exact (Onward.breaks id _ network).trans (.mapLingering _ _)

theorem tellMate {f : Stream → Stream} (onward : ∀ id stream, Stream.Onward id stream (f stream)) (stream : Stream)
    (network : Network) : network.Onward (network.tellMate stream f) := by
  unfold Network.tellMate
  cases stream.mate with
  | none => exact .refl network
  | some mate => exact .mapStream onward mate network

theorem sendEnd (id : SocketId) (stream : Stream) (network : Network) : network.Onward (network.sendEnd id stream) :=
  (Onward.tellMate (fun _ _ => by exact .of_mate rfl fun settled => settled) stream network).trans (.mapLingering _ _)

theorem sendReset (id : SocketId) (stream : Stream) (network : Network) : network.Onward (network.sendReset id stream) :=
  (Onward.tellMate (fun _ _ => by exact .of_mate rfl (by simp [Stream.reset, Stream.fail])) stream network).trans
    (.mapLingering _ _)

theorem shutdown (id : SocketId) (ways : Ways) (network : Network) : network.Onward (network.shutdown id ways) := by
  unfold Network.shutdown
  split
  · exact .refl network
  next stream _ =>
    split
    · exact .mapStream (fun _ _ => by exact .of_mate rfl (by simp)) id network
    · have shut : network.Onward (network.modify id (Socket.mapStream (Stream.shutDown ways))) :=
        .mapStream (fun _ _ => by exact .of_mate rfl fun settled => settled) id network
      dsimp only
      split
      · exact shut
      · exact shut.trans (.sendEnd id stream _)
    · exact .refl network

theorem abort (id : SocketId) (network : Network) : network.Onward (network.abort id) := by
  unfold Network.abort
  split
  · exact .refl network
  next stream _ => exact (Onward.remove id network).trans (.sendReset id stream _)

theorem abortAll (ids : List SocketId) (network : Network) : network.Onward (network.abortAll ids) := by
  induction ids generalizing network with
  | nil => exact .refl network
  | cons id rest ih => exact (Onward.abort id network).trans (ih _)

theorem afterRemove (id : SocketId) (network : Network) : (network.remove id).Onward (network.close id) := by
  rcases network.close_cases id with ⟨stream, found⟩ | ⟨listening, _, closed⟩ | closed
  · rw [close_stream found]
    split
    · exact .sendReset id stream _
    · split
      · exact .refl _
      · exact .sendEnd id stream _
  · rw [closed]
    exact .abortAll listening.queue _
  · rw [closed]
    exact .refl _

theorem close (id : SocketId) (network : Network) : network.Onward (network.close id) :=
  (Onward.remove id network).trans (.afterRemove id network)

theorem part (ways : Option Ways) (id : SocketId) (network : Network) : network.Onward (network.part ways id) := by
  cases ways with
  | none => exact .close id network
  | some ways => exact (Onward.shutdown id ways network).trans (.close id _)

theorem fault (listener : SocketId) (error : IoError) (network : Network) :
    network.Onward (network.fault listener error) := by
  unfold Network.fault
  split
  · exact .refl network
  next listening there =>
    refine Onward.trans ?_ (.abortAll listening.queue _)
    apply of_views
    · exact Nat.le_of_eq (next_modify listener _ network).symm
    · intro id stream old found
      rw [stream?_setIdle there] at found
      exact ⟨stream, found, .refl id stream⟩
    · intro other before id shown waits
      rw [listening?_setIdle] at shown
      split at shown
      · cases shown
      · exact ⟨before, shown, waits⟩
    · exact fun _ _ => .inl (owner?_setIdle ..)
    · exact fun _ gone => gone_modify gone

theorem refuseIdle (network : Network) : network.Onward network.refuseIdle := by
  apply of_views
  · exact Nat.le_of_eq (Registry.next_map ..).symm
  · intro id stream old found
    rw [stream?_refuseIdle] at found
    obtain ⟨before, foundBefore, rfl⟩ := Option.map_eq_some_iff.mp found
    refine ⟨before, foundBefore, ?_⟩
    split
    · exact .of_mate rfl (by simp [Stream.fail])
    · exact .refl id before
  · intro listener listening id there waits
    rw [listening?_refuseIdle] at there
    exact ⟨listening, there, waits⟩
  · exact fun _ _ => .inl (owner?_refuseIdle ..)
  · intro id _ gone
    unfold Network.socket? at gone ⊢
    rw [Network.refuseIdle, Registry.find?_map, gone]
    rfl

theorem outside {f : Network → Network} (onward : ∀ network : Network, network.Onward (f network)) (id : SocketId)
    (network : Network) : network.Onward (network.outside id f) := by
  unfold Network.outside
  split
  · exact onward network
  · exact .refl network

theorem event (event : Event) (network : Network) : network.Onward (event.onNetwork network) := by
  cases event with
  | serve address backlog shares => exact .made (network.listen_made .outside address backlog shares)
  | dial remote => exact .made (network.connect_made .outside remote)
  | take server => exact .outside (.accept .outside server) server network
  | send id bytes => exact .outside (.send id bytes) id network
  | receive id count => exact .outside (.receive id count) id network
  | close id => exact .outside (.close id) id network
  | reset id => exact .outside (.abort id) id network
  | answer id => exact .answer id network
  | refuse id error =>
    refine .mapStream (fun number stream => ?_) id network
    split
    · exact .of_mate rfl (by simp [Stream.fail])
    · exact .refl number stream
  | refuseIdle => exact .refuseIdle network
  | fault listener error => exact .fault listener error network
  | expire id => exact .mapLingering _ network
  | plug _ | unplug _ | deviceSend _ _ | deviceReceive _ _ => exact .refl network

end Onward

theorem socket?_close_self (id : SocketId) (network : Network) : (network.close id).socket? id = none := by
  by_cases old : id < network.sockets.next
  · refine (Onward.afterRemove id network).gone ?_ ?_
    · rwa [next_remove]
    · rw [socket?_remove, if_pos rfl]
  · have absent : network.socket? id = none := Registry.find?_of_next_le (Nat.le_of_not_lt old)
    rw [close, absent]
    exact absent

theorem socket?_make_failed {owner : Owner} {steps : SocketId → List Step} {network later : Network} {error : IoError}
    (failed : make owner steps network = (.error error, later)) : later.socket? network.sockets.next = none := by
  unfold make at failed
  dsimp only at failed
  split at failed
  · cases failed
    exact socket?_close_self ..
  · cases failed

end Network
end InstrumentLink
