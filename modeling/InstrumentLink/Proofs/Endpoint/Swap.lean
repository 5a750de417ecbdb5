import InstrumentLink.Proofs.Endpoint.Peer

/-!
What exchanges of either sort have in common, seen from outside of the endpoint: what is gone is closed, what is new was
nobody's, everything else is as it was, and the endpoint fits again.
-/

namespace InstrumentLink
namespace Endpoint

variable {transport : Transport}

structure Swap (before after : Endpoint transport) (world later : World) : Prop where
  sound : later.Sound
  routes : later.network.routes = world.network.routes
  gone : ∀ asset ∈ before.assets, asset ∉ after.assets → later.ledger asset = none
  new : ∀ asset ∈ after.assets, asset ∈ before.assets ∨ world.ledger asset = none
  others : ∀ asset, asset ∉ before.assets → asset ∉ after.assets → later.ledger asset = world.ledger asset
  fits : after.Fits later
  tidy : Tidy world.journal → Tidy later.journal

theorem Swap.of_kept {endpoint : Endpoint transport} {world later : World} (kept : world.Kept later)
    (fits : endpoint.Fits world) : Swap endpoint endpoint world later where
  sound := kept.sound
  routes := kept.routes
  gone _ member away := absurd member away
  new _ member := .inl member
  others asset _ _ := kept.ledger asset
  fits := fits.of_same kept.routes fun asset _ => kept.ledger asset
  tidy tidy := by rwa [kept.journal]

theorem swap_of_release {before after : Endpoint transport} {world later : World} (fits : before.Fits world)
    (sound : later.Sound) (routes : later.network.routes = world.network.routes) (down : after.handle = none)
    (journal : later.journal = world.journal ++ before.closings) : Swap before after world later := by
  have shown : ∀ asset, later.ledger asset = if asset ∈ before.assets then none else world.ledger asset := by
    intro asset
    rw [World.ledger, journal, ledger_closings]
    rfl
  refine ⟨sound, routes, ?_, ?_, ?_, fits_of_handle_eq_none down later, fun tidy => journal ▸ fits.tidy tidy⟩
  · intro asset member _
    rw [shown, if_pos member]
  · intro asset member
    rw [assets_eq_nil down] at member
    cases member
  · intro asset away _
    rw [shown, if_neg away]

theorem ledger_of_replace {before after : Endpoint transport} {world later : World} {request : Request}
    {made : Option Nat} (asked : transport.request? world.network.routes.names after.target = .ok request)
    (assets : after.assets = made.toList.map transport.asset)
    (journal : later.journal = world.journal ++ (before.closings ++ [request.deed made]))
    (asset : Asset) :
    later.ledger asset = if asset ∈ after.assets then some (request.deed made)
      else if asset ∈ before.assets then none
      else world.ledger asset := by
  rw [World.ledger, journal, ← List.append_assoc, ledger_append, Deed.enter, request.made?_deed,
    request.closed?_deed, ledger_closings, assets]
  cases made with
  | none => simp [World.ledger]
  | some id => simp [Transport.asset_of_request? asked, World.ledger, eq_comm]

theorem swap_of_replace {before after : Endpoint transport} {world later : World} (fits : before.Fits world)
    (sound : later.Sound) (routes : later.network.routes = world.network.routes) {request : Request} {made : Option Nat}
    (asked : transport.request? world.network.routes.names after.target = .ok request)
    (configured : after.isConfigured = true) (held : after.handle = made.map transport.fresh)
    (new : ∀ id, made = some id → transport.asset id ∈ before.assets ∨ world.ledger (transport.asset id) = none)
    (journal : later.journal = world.journal ++ (before.closings ++ [request.deed made])) :
    Swap before after world later := by
  have assets : after.assets = made.toList.map transport.asset := by
    cases made with
    | none => exact assets_eq_nil held
    | some id => exact (assets_of_handle held).trans (transport.assets_fresh id)
  have shown := ledger_of_replace asked assets journal
  refine ⟨sound, routes, ?_, ?_, ?_, ?_, fun tidy => ?_⟩
  · intro asset member away
    rw [shown, if_neg away, if_pos member]
  · intro asset member
    rw [assets] at member
    obtain ⟨id, got, rfl⟩ := List.mem_map.mp member
    exact new id (Option.mem_toList.mp got)
  · intro asset awayBefore awayAfter
    rw [shown, if_neg awayAfter, if_neg awayBefore]
  · intro handle holds
    rw [held] at holds
    obtain ⟨id, rfl, rfl⟩ := Option.map_eq_some_iff.mp holds
    refine ⟨configured, ⟨request, by rw [routes]; exact asked, ?_⟩, fun peer had => ?_⟩
    · rw [transport.number_fresh, shown, assets, if_pos (by simp)]
    · rw [transport.peer?_fresh] at had
      cases had
  · rw [journal]
    exact (Exchange.replace request made asked configured held new).tidy fits tidy

theorem Handover.swap {before after : Endpoint transport} {world later : World}
    (handover : Handover before after world later) (fits : before.Fits world) : Swap before after world later := by
  obtain ⟨deeds, exchange, journal⟩ := handover.exchange
  cases exchange with
  | keep same =>
    subst same
    exact .of_kept ⟨handover.sound, handover.routes, by rw [journal, List.append_nil]⟩ fits
  | release down => exact swap_of_release fits handover.sound handover.routes down journal
  | replace request made asked configured held new =>
    exact swap_of_replace fits handover.sound handover.routes asked configured held new journal

def ofListener (target : HostPort) (listener : Listener) : Endpoint .listener := ⟨target, some listener⟩

theorem assets_ofListener (target : HostPort) (listener : Listener) :
    (ofListener target listener).assets =
      listener.peer.toList.map Asset.socket ++ [.socket listener.socket] := rfl

theorem mem_assets_ofListener {target : HostPort} {listener : Listener} {asset : Asset} :
    asset ∈ (ofListener target listener).assets ↔
      (∃ peer, listener.peer = some peer ∧ Asset.socket peer = asset) ∨ asset = .socket listener.socket := by
  simp [assets_ofListener]

theorem holds_of_fits {target : HostPort} {listener : Listener} {world : World}
    (fits : (ofListener target listener).Fits world) : listener.Holds world := by
  intro peer had
  have accepted := (fits listener rfl).peer peer had
  rw [accepted]
  rfl

theorem peer_ne_socket {target : HostPort} {listener : Listener} {world : World}
    (fits : (ofListener target listener).Fits world) {peer : SocketId} (had : listener.peer = some peer) :
    peer ≠ listener.socket := by
  have once := fits.once
  rw [assets_ofListener, had] at once
  simpa using once

/-- A listener fits as long as its socket stays open and its peer, if any, was taken from it. -/
theorem fits_ofListener {target : HostPort} {before after : Listener} {world later : World}
    (fits : (ofListener target before).Fits world) (routes : later.network.routes = world.network.routes)
    (socket : after.socket = before.socket)
    (same : later.ledger (.socket before.socket) = world.ledger (.socket before.socket))
    (peer : ∀ peer, after.peer = some peer → later.ledger (.socket peer) = some (.accept before.socket peer)) :
    (ofListener target after).Fits later := by
  intro handle holds
  cases holds
  have all := fits before rfl
  obtain ⟨request, asked, made⟩ := all.made
  refine ⟨all.configured, ⟨request, by rw [routes]; exact asked, ?_⟩, fun other had => ?_⟩
  · change later.ledger (.socket after.socket) = some (request.deed (some after.socket))
    rw [socket, same]
    exact made
  · change later.ledger (.socket other) = some (.accept after.socket other)
    rw [socket]
    exact peer other had

theorem tidy_of_peerExchange {before after : Listener} {world : World} {target : HostPort} {deeds : List Deed}
    (exchange : Listener.PeerExchange world before after deeds) (fits : (ofListener target before).Fits world)
    (tidy : Tidy world.journal) : Tidy (world.journal ++ deeds) := by
  have taken := (fits before rfl).peer
  cases exchange with
  | keep same => rwa [List.append_nil]
  | drop peer had alone => exact tidy.give (taken peer had)
  | take peer has new =>
    have got : Tidy (world.journal ++ [.accept before.socket peer]) :=
      tidy.get rfl fun asset made => Option.some.inj made ▸ new
    cases held : before.peer with
    | none => exact got
    | some old =>
      have different : peer ≠ old := by
        rintro rfl
        rw [taken peer held] at new
        cases new
      have still : InstrumentLink.ledger (world.journal ++ [.accept before.socket peer]) (.socket old) =
          some (.accept before.socket old) := by
        rw [ledger_append, Deed.enter, if_neg (by simpa [Deed.made?] using different), if_neg (by simp [Deed.closed?])]
        exact taken old held
      have gone := got.give still
      rw [List.append_assoc] at gone
      exact gone

theorem swap_of_drop {before : Listener} {world later : World} {target : HostPort} {peer : SocketId}
    (sound : later.Sound) (routes : later.network.routes = world.network.routes)
    (fits : (ofListener target before).Fits world) (had : before.peer = some peer)
    (journal : later.journal = world.journal ++ (Parting.peer peer).deeds) :
    Swap (ofListener target before) (ofListener target { before with peer := none }) world later := by
  have shown : ∀ asset, later.ledger asset = if Asset.socket peer = asset then none else world.ledger asset := by
    intro asset
    rw [World.ledger, journal]
    exact ledger_parting world.journal (.peer peer) asset
  refine ⟨sound, routes, ?_, ?_, ?_, ?_, fun tidy => ?_⟩
  · intro asset member away
    rw [mem_assets_ofListener] at member away
    rcases member with ⟨other, hadOther, rfl⟩ | isSocket
    · rw [had] at hadOther
      cases hadOther
      rw [shown, if_pos rfl]
    · exact absurd (.inr isSocket) away
  · intro asset member
    rcases mem_assets_ofListener.mp member with ⟨other, hadOther, _⟩ | isSocket
    · cases hadOther
    · exact .inl (mem_assets_ofListener.mpr (.inr isSocket))
  · intro asset away _
    rw [shown, if_neg fun same => away (mem_assets_ofListener.mpr (.inl ⟨peer, had, same⟩))]
  · refine fits_ofListener fits routes rfl ?_ (by simp)
    rw [shown, if_neg (by simpa using peer_ne_socket fits had)]
  · rw [journal]
    exact tidy_of_peerExchange (.drop peer had rfl) fits tidy

theorem ledger_of_take {before : Listener} {world later : World} {peer : SocketId}
    (journal : later.journal = world.journal ++
      .accept before.socket peer :: before.peer.toList.flatMap fun old => (Parting.peer old).deeds) (asset : Asset) :
    later.ledger asset = if asset ∈ before.peer.toList.map Asset.socket then none
      else if Asset.socket peer = asset then some (.accept before.socket peer)
      else world.ledger asset := by
  have noted : later.journal = (world.journal ++ [.accept before.socket peer]) ++
      (before.peer.toList.map Parting.peer).flatMap Parting.deeds := by
    rw [journal, List.flatMap_map, List.append_assoc]
    rfl
  rw [World.ledger, noted, ledger_partings, ledger_append, Deed.enter, List.map_map]
  simp [Deed.made?, Deed.closed?, World.ledger, Function.comp_def, Parting.peer]

theorem swap_of_take {before : Listener} {world later : World} {target : HostPort} {peer : SocketId}
    (sound : later.Sound) (routes : later.network.routes = world.network.routes)
    (fits : (ofListener target before).Fits world) (new : world.ledger (.socket peer) = none)
    (journal : later.journal = world.journal ++
      .accept before.socket peer :: before.peer.toList.flatMap fun old => (Parting.peer old).deeds) :
    Swap (ofListener target before) (ofListener target { before with peer := some peer }) world later := by
  have shown := ledger_of_take journal
  -- Of the things before only the old peer is given up; the socket stays.
  have isOld : ∀ {asset}, asset ∈ before.peer.toList.map Asset.socket →
      ∃ other, before.peer = some other ∧ Asset.socket other = asset := by
    intro asset member
    obtain ⟨other, had, same⟩ := List.mem_map.mp member
    exact ⟨other, Option.mem_toList.mp had, same⟩
  refine ⟨sound, routes, ?_, ?_, ?_, ?_, fun tidy => ?_⟩
  · intro asset member away
    rw [mem_assets_ofListener] at member away
    rcases member with ⟨other, had, rfl⟩ | isSocket
    · rw [shown, if_pos (by simp [had])]
    · exact absurd (.inr isSocket) away
  · intro asset member
    rcases mem_assets_ofListener.mp member with ⟨other, has, rfl⟩ | isSocket
    · cases has
      exact .inr new
    · exact .inl (mem_assets_ofListener.mpr (.inr isSocket))
  · intro asset awayBefore awayAfter
    rw [mem_assets_ofListener] at awayBefore awayAfter
    rw [shown, if_neg fun member => awayBefore (.inl (isOld member)),
      if_neg fun same => awayAfter (.inl ⟨peer, rfl, same⟩)]
  · refine fits_ofListener fits routes rfl ?_ ?_
    · have notSocket : peer ≠ before.socket := by
        intro same
        obtain ⟨request, _, made⟩ := (fits before rfl).made
        change world.ledger (.socket before.socket) = _ at made
        rw [← same, new] at made
        cases made
      rw [shown, if_neg, if_neg (by simpa using notSocket)]
      intro member
      obtain ⟨other, had, same⟩ := isOld member
      cases same
      exact peer_ne_socket fits had rfl
    · intro other has
      cases has
      rw [shown, if_neg, if_pos rfl]
      intro member
      obtain ⟨old, had, same⟩ := isOld member
      cases same
      have isOpen := holds_of_fits fits peer had
      rw [new] at isOpen
      cases isOpen
  · rw [journal]
    exact tidy_of_peerExchange (.take peer rfl new) fits tidy

theorem swap_of_peerHandover {before after : Listener} {world later : World} {target : HostPort}
    (handover : Listener.PeerHandover before after world later) (fits : (ofListener target before).Fits world) :
    Swap (ofListener target before) (ofListener target after) world later := by
  obtain ⟨deeds, exchange, journal⟩ := handover.exchange
  cases exchange with
  | keep same =>
    subst same
    exact .of_kept ⟨handover.sound, handover.routes, by rw [journal, List.append_nil]⟩ fits
  | drop peer had alone =>
    subst alone
    exact swap_of_drop handover.sound handover.routes fits had journal
  | take peer has new =>
    subst has
    exact swap_of_take handover.sound handover.routes fits new journal

end Endpoint
end InstrumentLink
