import InstrumentLink.Proofs.Endpoint.Taking

/-!
The two ends of a connection. What is sent at the one arrives at the other behind what is there, reading takes from the
front, and an end that has read all that it got closes in good order: the other sees that only when it has read all.
-/

namespace InstrumentLink

def Received.bytes : Received → List UInt8
  | .data bytes => bytes
  | _ => []

namespace Stream

variable {stream : Stream}

theorem Sound.isOver_of_established (sound : stream.Sound) (established : stream.phase = .established) :
    stream.peek.isOver = (stream.ended && stream.inbox.isEmpty) := by
  have quiet := sound.error_eq_none (by simp [established])
  rw [peek, quiet, established]
  cases stream.inbox <;> cases stream.ended <;> rfl

theorem Sound.receive_established (sound : stream.Sound) (established : stream.phase = .established) (count : Nat) :
    (stream.receive count).bytes = stream.inbox.take count ∧
      stream.afterReceive count = { stream with inbox := stream.inbox.drop count } := by
  have quiet := sound.error_eq_none (by simp [established])
  obtain ⟨here, there, mate, phase, inbox, ended, error, shut, shares⟩ := stream
  obtain rfl : error = none := quiet
  obtain rfl : phase = .established := established
  cases inbox with
  | nil =>
    rw [List.take_nil, List.drop_nil]
    cases ended <;> exact ⟨rfl, rfl⟩
  | cons first rest => exact ⟨rfl, rfl⟩

end Stream

namespace Network

variable {network : Network} {own mate : SocketId} {stream : Stream}

theorem Sound.far_end (sound : network.Sound) (found : network.stream? own = some stream) (known : stream.mate = some mate)
    (there : (network.stream? mate).isSome) :
    ∃ far, network.stream? mate = some far ∧ far.mate = some own ∧ stream.IsUp ∧ far.IsUp := by
  obtain ⟨far, farFound⟩ := Option.isSome_iff_exists.mp there
  obtain ⟨up, back⟩ := sound.mates found known farFound
  exact ⟨far, farFound, back, up, (sound.mates farFound back found).1⟩

theorem outside_of_owner? (owned : network.owner? mate = some .outside) (f : Network → Network) :
    network.outside mate f = f network := by
  obtain ⟨socket, found, isOutside⟩ := Option.map_eq_some_iff.mp owned
  rw [outside, found, Option.any_some, decide_eq_true isOutside, if_pos rfl]

theorem Sound.after_send (sound : network.Sound) (found : network.stream? own = some stream)
    (known : stream.mate = some mate) (owned : network.owner? mate = some .outside)
    (there : (network.stream? mate).isSome) (bytes : List UInt8) :
    (Event.send mate bytes).onNetwork network = network.modify own (Socket.mapStream (Stream.arrive bytes)) := by
  obtain ⟨far, farFound, back, _, up⟩ := sound.far_end found known there
  have working : ¬(far.phase ≠ .established ∨ far.shut = true) := by
    simp [up.1, (sound.streams farFound).unshut]
  have reached : far.mate.filter (fun mate => (network.stream? mate).isSome) = some own := by
    rw [back, Option.filter_some, found]
    rfl
  rw [Event.onNetwork, outside_of_owner? owned, Network.send, farFound]
  dsimp only
  rw [if_neg working, reached]

/-- Where the other end closes that has read all it got, this end sees the end of the stream. -/
theorem Sound.after_close (sound : network.Sound) (found : network.stream? own = some stream)
    (known : stream.mate = some mate) (owned : network.owner? mate = some .outside)
    (there : (network.stream? mate).isSome) (different : mate ≠ own)
    (read : ∀ far, network.stream? mate = some far → far.inbox = []) :
    ((Event.close mate).onNetwork network).stream? own = some stream.finish := by
  obtain ⟨far, farFound, back, _⟩ := sound.far_end found known there
  have closed : network.close mate = (network.remove mate).sendEnd mate far := by
    rw [close_stream farFound, read far farFound, (sound.streams farFound).unshut]
    rfl
  rw [Event.onNetwork, outside_of_owner? owned, closed, sendEnd, stream?_mapLingering, stream?_tellMate, if_pos back,
    stream?_remove, if_neg different, found, Option.map_some]

theorem Sound.peek_established (sound : network.Sound) (found : network.stream? own = some stream)
    (established : stream.phase = .established) : (network.peek own).2 = network := by
  rw [peek_quiet found ((sound.streams found).error_eq_none (by simp [established]))]

theorem isOver_of_found (found : network.stream? own = some stream) : network.isOver own = stream.peek.isOver := by
  rw [isOver, peek, found]

end Network
end InstrumentLink
