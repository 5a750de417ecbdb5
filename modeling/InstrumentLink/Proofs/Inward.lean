import InstrumentLink.Proofs.Outward

/-!
Those who come to a listener of the agent's are strangers to each other. Whoever waits there, and whoever was taken from
there, was dialled by somebody who was there before, so that of two neither can be the other end of the other.
-/

namespace InstrumentLink

theorem Network.Far.stranger {network : Network} (sound : network.Sound) {id other : SocketId} (far : network.Far id)
    (otherFar : network.Far other) {stream otherStream : Stream} (found : network.stream? id = some stream)
    (otherFound : network.stream? other = some otherStream) : stream.mate ≠ some other := by
  intro known
  obtain ⟨_, mate, isMate, smaller⟩ := far.2 stream found
  obtain ⟨_, back, isBack, smallerBack⟩ := otherFar.2 otherStream otherFound
  rw [known] at isMate
  rw [(sound.mates found known otherFound).2] at isBack
  cases isMate
  cases isBack
  exact Nat.lt_asymm smaller smallerBack

theorem Network.mem_queue_of_accept {network : Network} {owner : Owner} {listener taken : SocketId}
    {address : SocketAddress} (accepted : (network.accept owner listener).1 = .ok (some (taken, address))) :
    ∃ listening, network.listening? listener = some listening ∧ taken ∈ listening.queue := by
  unfold Network.accept at accepted
  split at accepted
  · cases accepted
  next listening there =>
    split at accepted
    · cases accepted
    next id rest queue =>
      split at accepted
      · cases accepted
      · cases accepted
        refine ⟨listening, there, ?_⟩
        rw [queue]
        exact List.mem_cons_self

namespace World

/-- From a number on, nobody who waits or was taken was dialled, and all that the agent listens with is from there on. -/
structure Inward (first : SocketId) (world : World) : Prop where
  started : first ≤ world.network.sockets.next
  opened : ∀ {id : SocketId} {address made}, world.ledger (.socket id) = some (.listen address made) → first ≤ id
  waiting : ∀ {listener listening id}, first ≤ listener → world.network.listening? listener = some listening →
    id ∈ listening.queue → world.network.Far id
  taken : ∀ {id door : SocketId}, world.ledger (.socket id) = some (.accept door id) → first ≤ door →
    world.network.Far id

namespace Inward

variable {world later : World} {first : SocketId}

theorem start (untouched : world.Untouched) : world.Inward world.network.sockets.next := by
  have nothing : ∀ id, world.ledger (.socket id) = none := by
    intro id
    rw [ledger, untouched.journal]
    rfl
  constructor
  · exact Nat.le_refl _
  · intro id address made opened
    rw [nothing] at opened
    cases opened
  · intro listener listening id new there waits
    have old : listener < world.network.sockets.next := by
      rw [Network.listening?_eq_bind] at there
      obtain ⟨socket, found, _⟩ := Option.bind_eq_some_iff.mp there
      exact Registry.lt_next_of_find? found
    exact absurd old (Nat.not_lt_of_le new)
  · intro id door taken
    rw [nothing] at taken
    cases taken

/-- Nothing new that the agent listens with or has taken, and nothing backwards in the network. -/
theorem onward (inward : world.Inward first) (onward : world.network.Onward later.network)
    (opened : ∀ {id : SocketId} {address made}, later.ledger (.socket id) = some (.listen address made) →
      world.ledger (.socket id) = some (.listen address made) ∨ world.network.sockets.next ≤ id)
    (taken : ∀ {id door : SocketId}, later.ledger (.socket id) = some (.accept door id) →
      world.ledger (.socket id) = some (.accept door id) ∨
        ∃ listening, world.network.listening? door = some listening ∧ id ∈ listening.queue) :
    later.Inward first where
  started := Nat.le_trans inward.started onward.next
  opened made := (opened made).elim inward.opened (Nat.le_trans inward.started)
  waiting new there waits := by
    rcases onward.queues there waits with ⟨_, far⟩ | ⟨before, thereBefore, waited⟩
    · exact far
    · exact onward.far (inward.waiting new thereBefore waited)
  taken accepted new := by
    rcases taken accepted with before | ⟨listening, there, waited⟩
    · exact onward.far (inward.taken before new)
    · exact onward.far (inward.waiting new there waited)

theorem withNetwork (inward : world.Inward first) {network : Network} (onward : world.network.Onward network) :
    ({ world with network } : World).Inward first :=
  inward.onward onward .inl .inl

theorem request (inward : world.Inward first) (request : Request) : (request.act.result world).2.Inward first := by
  have entered := fun id => ledger_request request (.socket id) world
  refine inward.onward (Outward.onward_request request world) (fun {id address made} found => ?_)
    fun {id door} found => ?_
  · rw [entered] at found
    split at found
    next new =>
      obtain ⟨got, isGot, isSocket⟩ := Option.map_eq_some_iff.mp new
      cases request with
      | listen wanted =>
        cases isSocket
        have granted : (world.network.listen .agent wanted Act.backlog true).1 = .ok id := Act.toOption_eq_some.mp isGot
        exact .inr (Nat.le_of_eq ((world.network.listen_made .agent wanted Act.backlog true).next granted).symm)
      | connect remote => cases found
      | associate remote => cases found
      | openLine path baudRate => cases found
    next => exact .inl found
  · rw [entered] at found
    split at found
    · cases request <;> cases found
    · exact .inl found

theorem shut (inward : world.Inward first) (gone : Parting) : ((Act.shut gone).result world).2.Inward first := by
  have old : ∀ {id : SocketId} {deed}, ((Act.shut gone).result world).2.ledger (.socket id) = some deed →
      world.ledger (.socket id) = some deed := by
    intro id deed found
    rw [ledger, journal_shut, ledger_parting] at found
    split at found
    · cases found
    · exact found
  exact inward.onward (Outward.onward_shut gone world) (fun found => .inl (old found)) fun found => .inl (old found)

theorem accept (inward : world.Inward first) (listener : SocketId) :
    ((Act.accept listener).result world).2.Inward first := by
  have onward : world.network.Onward (world.network.accept .agent listener).2 := .accept .agent listener world.network
  have nobody : Act.acceptDeeds listener (world.network.accept .agent listener).1 = [] →
      ((Act.accept listener).result world).2.Inward first := by
    intro none
    rw [Act.result_accept, none, List.append_nil]
    exact inward.onward onward .inl .inl
  rw [Act.result_accept] at nobody ⊢
  rcases outcome : (world.network.accept .agent listener).1 with error | _ | ⟨taken, address⟩
  · rw [outcome] at nobody
    exact nobody rfl
  · rw [outcome] at nobody
    exact nobody rfl
  · have waited := Network.mem_queue_of_accept outcome
    refine inward.onward onward (fun {id address made} found => ?_) fun {id door} found => ?_
    · rw [ledger, Act.acceptDeeds, ledger_append, Deed.enter] at found
      split at found
      · cases found
      · exact .inl found
    · rw [ledger, Act.acceptDeeds, ledger_append, Deed.enter] at found
      split at found
      · cases found
        exact .inr waited
      · exact .inl found

theorem lasting (first : SocketId) : World.Lasting (World.Inward first) where
  tell _ inward := inward.onward (.refl _) .inl .inl
  request asked inward := inward.request asked
  shut gone inward := inward.shut gone
  accept listener inward := inward.accept listener
  takeError id inward := inward.withNetwork (.takeError id _)
  isOver id inward := inward.withNetwork (.peek id _)
  receive id count inward := inward.withNetwork (.receive id count _)
  send id bytes inward := inward.withNetwork (.send id bytes _)
  lineReceive _ _ inward := inward.onward (.refl _) .inl .inl
  lineSend _ _ inward := inward.onward (.refl _) .inl .inl
  event event inward := inward.onward (.event event _) .inl .inl

end Inward

theorem inward_of_reachable {agent : Agent} {world : World} (reached : Reachable agent world) :
    ∃ first, world.Inward first := by
  induction reached with
  | start untouched settings => exact ⟨_, .start untouched⟩
  | step _ move inward =>
    obtain ⟨first, inward⟩ := inward
    exact ⟨first, (Inward.lasting first).perform (fun _ inward => inward.onward (.refl _) .inl .inl) move _ _ inward⟩

end World
end InstrumentLink
