import InstrumentLink.Proofs.Endpoint.Exchange

/-!
The peer of a listener comes and goes: a listener gives its peer up, or takes another one and gives the one before it
up. What is taken becomes the agent's own.
-/

namespace InstrumentLink

namespace Network

theorem own?_accept {network : Network} (sound : network.Sound) {listener taken : SocketId} {address : SocketAddress}
    (accepted : (network.accept .agent listener).1 = .ok (some (taken, address))) (other : SocketId) :
    network.own? taken = none ∧
      (network.accept .agent listener).2.own? other =
        if taken = other then some (.stream address) else network.own? other := by
  unfold Network.accept at accepted ⊢
  split at accepted
  · cases accepted
  next listening there =>
    split at accepted
    · cases accepted
    next id rest queue =>
      split at accepted
      · cases accepted
      next stream found =>
        cases accepted
        have waits : taken ∈ listening.queue := by rw [queue]; exact List.mem_cons_self
        have queued := (sound.queued there waits).1
        refine ⟨own?_of_owner? (by rw [queued]; simp), ?_⟩
        dsimp only
        rw [own?_mapListening (by intro _; rfl), own?_setOwner]
        split
        next same =>
          rw [← same]
          rw [stream?_eq_bind] at found
          obtain ⟨socket, socketThere, shown⟩ := Option.bind_eq_some_iff.mp found
          rw [socketThere]
          rcases socket with ⟨owner, _ | _ | _ | _⟩
          · cases shown
            rfl
          · cases shown
          · cases shown
          · cases shown
        next => rfl

theorem accept_none {network : Network} {listener : SocketId}
    (nobody : ∀ peer, (network.accept .agent listener).1 ≠ .ok (some peer)) :
    (network.accept .agent listener).2 = network := by
  unfold Network.accept at nobody ⊢
  split
  · rfl
  · split
    · rfl
    · split
      · rfl
      next id rest queue stream found => simp [*] at nobody

theorem adjust_accepted {network : Network} (sound : network.Sound) {listener taken : SocketId} {address : SocketAddress}
    (accepted : (network.accept .agent listener).1 = .ok (some (taken, address))) :
    (network.accept .agent listener).2.adjust taken = (.ok (), (network.accept .agent listener).2) := by
  have own := (own?_accept sound accepted taken).2
  rw [if_pos rfl] at own
  obtain ⟨socket, found, _⟩ := Option.bind_eq_some_iff.mp own
  rw [adjust, found]
  rfl

end Network

namespace World

variable {world : World}

theorem Sound.accept (sound : world.Sound) (listener : SocketId) : ((Act.accept listener).result world).2.Sound := by
  rw [Act.result_accept]
  have network := sound.network.accept .agent listener
  rcases accepted : (world.network.accept .agent listener).1 with error | _ | ⟨taken, address⟩
  · have same : (world.network.accept .agent listener).2 = world.network := Network.accept_none (by simp [accepted])
    simpa [Act.acceptDeeds, same] using sound
  · have same : (world.network.accept .agent listener).2 = world.network := Network.accept_none (by simp [accepted])
    simpa [Act.acceptDeeds, same] using sound
  · refine ⟨network, sound.devices, fun asset => ?_⟩
    dsimp only [Act.acceptDeeds]
    rw [ledger, ledger_append, Deed.enter]
    cases asset with
    | socket id =>
      simp only [Deed.made?, Deed.closed?, own?, (Network.own?_accept sound.network accepted id).2, Option.some.injEq,
        Asset.socket.injEq, reduceCtorEq, if_false]
      split
      · exact .some ⟨address, rfl⟩
      · exact sound.truthful (.socket id)
    | line id => exact sound.truthful (.line id)

theorem Sound.stopWaiting_accepted (sound : world.Sound) {listener taken : SocketId} {address : SocketAddress}
    (accepted : (world.network.accept .agent listener).1 = .ok (some (taken, address))) :
    (Act.stopWaiting taken).result ((Act.accept listener).result world).2 =
      (.ok (), ((Act.accept listener).result world).2) := by
  rw [Act.result_stopWaiting, Act.result_accept, Network.adjust_accepted sound.network accepted]

end World

structure World.Kept (world later : World) : Prop where
  sound : later.Sound
  routes : later.network.routes = world.network.routes
  journal : later.journal = world.journal

namespace World.Kept

variable {world : World}

theorem refl (sound : world.Sound) : world.Kept world := ⟨sound, rfl, rfl⟩

theorem tell (sound : world.Sound) (entries : List LogEntry) : world.Kept (world.tell entries) :=
  ⟨sound.tell entries, rfl, rfl⟩

theorem trans {middle later : World} (first : world.Kept middle) (second : middle.Kept later) : world.Kept later :=
  ⟨second.sound, second.routes.trans first.routes, second.journal.trans first.journal⟩

theorem ledger {later : World} (kept : world.Kept later) (asset : Asset) :
    later.ledger asset = world.ledger asset := by
  rw [World.ledger, kept.journal]
  rfl

theorem withNetwork (sound : world.Sound) {network : Network} (kept : network.Sound)
    (same : ∀ id, network.own? id = world.network.own? id) (routes : network.routes = world.network.routes) :
    world.Kept { world with network } :=
  ⟨sound.withNetwork kept same, routes, rfl⟩

theorem withDevices (sound : world.Sound) {devices : Devices} (kept : devices.Sound)
    (same : ∀ id, devices.line? id = world.devices.line? id) : world.Kept { world with devices } :=
  ⟨sound.withDevices kept same, rfl, rfl⟩

end World.Kept

theorem Act.isOver_kept {world : World} (sound : world.Sound) (id : SocketId) :
    world.Kept ((Act.isOver id).result world).2 := by
  rw [Act.result_isOver]
  exact .withNetwork sound (sound.network.peek id) (world.network.own?_peek id) (world.network.routes_peek id)

namespace Listener

theorem livePeer?_kept {world : World} (sound : world.Sound) (listener : Listener) :
    world.Kept (listener.livePeer?.result world).2 := by
  unfold livePeer?
  cases listener.peer with
  | none => exact .refl sound
  | some peer => exact Act.isOver_kept sound peer

theorem hasLivePeer_kept {world : World} (sound : world.Sound) (listener : Listener) :
    world.Kept (listener.hasLivePeer.result world).2 :=
  livePeer?_kept sound listener

/-- How a listener changes its peer, with all that is noted on the way. -/
inductive PeerExchange (world : World) (before after : Listener) : List Deed → Prop
  | keep (same : after = before) : PeerExchange world before after []
  | drop (peer : SocketId) (had : before.peer = some peer) (alone : after = { before with peer := none }) :
      PeerExchange world before after (Parting.peer peer).deeds
  | take (peer : SocketId) (has : after = { before with peer := some peer })
      (new : world.ledger (.socket peer) = none) :
      PeerExchange world before after
        (.accept before.socket peer :: before.peer.toList.flatMap fun old => (Parting.peer old).deeds)

structure PeerHandover (before after : Listener) (world later : World) : Prop where
  exchange : ∃ deeds, PeerExchange world before after deeds ∧ later.journal = world.journal ++ deeds
  sound : later.Sound
  routes : later.network.routes = world.network.routes

theorem PeerHandover.of_kept {world later : World} (kept : world.Kept later) (listener : Listener) :
    PeerHandover listener listener world later :=
  ⟨⟨[], .keep rfl, by rw [kept.journal, List.append_nil]⟩, kept.sound, kept.routes⟩

theorem PeerHandover.tell {before after : Listener} {world later : World}
    (handover : PeerHandover before after world later) (entries : List LogEntry) :
    PeerHandover before after world (later.tell entries) :=
  ⟨handover.exchange, handover.sound.tell entries, handover.routes⟩

/-- What happens before an exchange without the agent's opening or closing anything is no part of it. -/
theorem PeerHandover.after_kept {before after : Listener} {world middle later : World} (kept : world.Kept middle)
    (handover : PeerHandover before after middle later) : PeerHandover before after world later := by
  obtain ⟨deeds, exchange, journal⟩ := handover.exchange
  refine ⟨⟨deeds, ?_, by rw [journal, kept.journal]⟩, handover.sound, handover.routes.trans kept.routes⟩
  cases exchange with
  | keep same => exact .keep same
  | drop peer had alone => exact .drop peer had alone
  | take peer has new => exact .take peer has (kept.ledger (.socket peer) ▸ new)

def Holds (listener : Listener) (world : World) : Prop :=
  ∀ peer, listener.peer = some peer → (world.ledger (.socket peer)).isSome

theorem dropPeer_handover {listener : Listener} {world : World} (sound : world.Sound) (holds : listener.Holds world) :
    PeerHandover listener (listener.dropPeer.result world).1 world (listener.dropPeer.result world).2 := by
  unfold dropPeer
  cases had : listener.peer with
  | none => exact .of_kept (.refl sound) listener
  | some peer =>
    have closed : ((Act.shut (.peer peer)).result world).2.Sound := sound.shut (holds peer had)
    exact ⟨⟨_, .drop peer had rfl, World.journal_shut (.peer peer) world⟩, closed, World.routes_shut (.peer peer) world⟩

theorem releaseClosedPeer_handover {listener : Listener} {world : World} (sound : world.Sound)
    (holds : listener.Holds world) :
    PeerHandover listener (listener.releaseClosedPeer.result world).1.1 world
      (listener.releaseClosedPeer.result world).2 := by
  have kept := hasLivePeer_kept sound listener
  rw [releaseClosedPeer, Act.result_bind]
  split
  · exact .of_kept kept listener
  · rw [Act.result_bind]
    have told := kept.trans (.tell kept.sound [⟨.info, .transport .listener, "Peer hung up"⟩])
    have stillHolds : listener.Holds ((hasLivePeer listener).result world).2 := by
      intro peer had
      rw [kept.ledger]
      exact holds peer had
    exact (dropPeer_handover told.sound stillHolds).after_kept told

theorem acceptPeer_handover {listener : Listener} {world : World} (sound : world.Sound)
    (holds : listener.Holds world) :
    PeerHandover listener (listener.acceptPeer.result world).1.1 world (listener.acceptPeer.result world).2 := by
  have accepted := sound.accept listener.socket
  have routes : ((Act.accept listener.socket).result world).2.network.routes = world.network.routes := by
    rw [Act.result_accept]
    exact world.network.routes_accept ..
  have journal : ((Act.accept listener.socket).result world).2.journal =
      world.journal ++ Act.acceptDeeds listener.socket ((Act.accept listener.socket).result world).1 := by
    rw [Act.result_accept]
  rw [acceptPeer, Act.result_bind]
  rcases outcome : ((Act.accept listener.socket).result world).1 with error | _ | ⟨peer, address⟩
  · rw [outcome] at journal
    exact ⟨⟨[], .keep rfl, journal⟩, accepted, routes⟩
  · rw [outcome] at journal
    exact ⟨⟨[], .keep rfl, journal⟩, accepted, routes⟩
  · rw [outcome] at journal
    -- It waited in the queue, so the agent had nothing under its number.
    have new : world.ledger (.socket peer) = none := by
      rw [Act.result_accept] at outcome
      exact sound.ledger_of_own? (Network.own?_accept sound.network outcome peer).1
    dsimp only
    rw [Act.result_accept] at outcome
    rw [Act.result_bind, sound.stopWaiting_accepted outcome]
    dsimp only
    cases had : listener.peer with
    | none =>
      simp only [say, dropPeer, had, Option.isSome_none, Bool.false_eq_true, if_false, Act.result_bind,
        Act.result_say, Act.result_pure]
      exact .tell ⟨⟨_, .take peer rfl new, by rw [journal, had]; rfl⟩, accepted, routes⟩ _
    | some old =>
      simp only [say, dropPeer, had, Option.isSome_some, if_true, Act.result_bind, Act.result_say, Act.result_pure]
      have replaced := accepted.tell [⟨.debug, .transport .listener, "Replacing previous peer with " ++ address.text⟩]
      have held : (World.ledger (((Act.accept listener.socket).result world).2) (.socket old)).isSome := by
        rw [World.ledger, journal, Act.acceptDeeds, ledger_append, Deed.enter]
        split
        · rfl
        · exact holds old had
      have closed : ((Act.shut (.peer old)).result (World.tell _ _)).2.Sound := replaced.shut held
      refine .tell ⟨⟨_, .take peer rfl new, ?_⟩, closed, ?_⟩ _
      · have noted := World.journal_shut (.peer old)
          (((Act.accept listener.socket).result world).2.tell
            [⟨.debug, .transport .listener, "Replacing previous peer with " ++ address.text⟩])
        rw [World.tell_journal, journal] at noted
        rw [had]
        exact noted.trans (List.append_assoc ..)
      · exact (World.routes_shut (.peer old) _).trans routes

end Listener
end InstrumentLink
