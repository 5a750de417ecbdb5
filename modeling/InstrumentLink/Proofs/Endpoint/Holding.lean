import InstrumentLink.Proofs.Closing
import InstrumentLink.Proofs.Request
import InstrumentLink.Endpoint.Lifecycle

/-!
What an endpoint holds and what that was opened for. An endpoint `Fits` a world if it is configured whenever it holds
something, and what it holds came from the very request that its address stands for now.
-/

namespace InstrumentLink

theorem map_eq_ok {ε α β : Type} {f : α → β} {answer : Except ε α} {b : β} (same : answer.map f = .ok b) :
    ∃ a, answer = .ok a ∧ f a = b := by
  cases answer with
  | error failure => cases same
  | ok a =>
    cases same
    exact ⟨a, rfl, rfl⟩

def Request.text : Request → String
  | listen address => "Listening on " ++ address.text
  | connect remote => "Connecting to " ++ remote.text
  | associate remote => "UDP socket associated with " ++ remote.text
  | openLine path baudRate => "Opened " ++ path ++ " @ " ++ toString baudRate.toNat ++ " baud"

namespace Transport

def request? (names : HostNames) : (transport : Transport) → transport.Target → Except Failure Request
  | .client, ⟨host, port⟩ => (InstrumentLink.resolve names host port).map .connect
  | .listener, ⟨host, port⟩ => (InstrumentLink.resolve names (listenerHost ⟨host, port⟩) port).map .listen
  | .udp, ⟨host, port⟩ => (InstrumentLink.resolve names host port).map .associate
  | .serial, ⟨path, baudRate⟩ => .ok (.openLine path baudRate)

def refusal : (transport : Transport) → transport.Target → IoError → Failure
  | .client, ⟨host, port⟩, error => .connect host port error
  | .listener, ⟨_, port⟩, error => .listen port error
  | .udp, ⟨host, port⟩, error => .associate host port error
  | .serial, ⟨path, _⟩, error => .openDevice path error

def fresh : (transport : Transport) → Nat → transport.Handle
  | .client, id => id
  | .listener, id => (⟨id, none⟩ : Listener)
  | .udp, id => id
  | .serial, id => id

def number : (transport : Transport) → transport.Handle → Nat
  | .client, id => id
  | .listener, held => Listener.socket held
  | .udp, id => id
  | .serial, id => id

def asset : Transport → Nat → Asset
  | .client, id => .socket id
  | .listener, id => .socket id
  | .udp, id => .socket id
  | .serial, id => .line id

def peer? : (transport : Transport) → transport.Handle → Option SocketId
  | .listener, held => Listener.peer held
  | .client, _ => none
  | .udp, _ => none
  | .serial, _ => none

def assets (transport : Transport) (handle : transport.Handle) : List Asset :=
  (transport.peer? handle).toList.map Asset.socket ++ [transport.asset (transport.number handle)]

def ways? : Transport → Option Ways
  | .client => some .sending
  | .listener => none
  | .udp => none
  | .serial => none

/-- How a handle is given up, the peer of a listener first. -/
def partings (transport : Transport) (handle : transport.Handle) : List Parting :=
  (transport.peer? handle).toList.map Parting.peer ++
    [⟨transport.asset (transport.number handle), transport.ways?⟩]

theorem map_asset_partings (transport : Transport) (handle : transport.Handle) :
    (transport.partings handle).map Parting.asset = transport.assets handle := by
  simp [partings, assets, Function.comp_def, Parting.peer]

@[simp] theorem number_fresh (transport : Transport) (id : Nat) : transport.number (transport.fresh id) = id := by
  cases transport <;> rfl

@[simp] theorem peer?_fresh (transport : Transport) (id : Nat) : transport.peer? (transport.fresh id) = none := by
  cases transport <;> rfl

@[simp] theorem assets_fresh (transport : Transport) (id : Nat) :
    transport.assets (transport.fresh id) = [transport.asset id] := by
  simp [assets]

theorem asset_of_request? {transport : Transport} {names : HostNames} {target : transport.Target} {request : Request}
    (asked : transport.request? names target = .ok request) (id : Nat) : request.asset id = transport.asset id := by
  cases transport with
  | client => obtain ⟨remote, _, rfl⟩ := map_eq_ok asked; rfl
  | listener => obtain ⟨address, _, rfl⟩ := map_eq_ok asked; rfl
  | udp => obtain ⟨remote, _, rfl⟩ := map_eq_ok asked; rfl
  | serial => cases asked; rfl

theorem ways?_of_request? {transport : Transport} {names : HostNames} {target : transport.Target} {request : Request}
    (asked : transport.request? names target = .ok request) (made : Option Nat) :
    (request.deed made).ways? = transport.ways? := by
  cases transport with
  | client => obtain ⟨remote, _, rfl⟩ := map_eq_ok asked; rfl
  | listener => obtain ⟨address, _, rfl⟩ := map_eq_ok asked; rfl
  | udp => obtain ⟨remote, _, rfl⟩ := map_eq_ok asked; rfl
  | serial => cases asked; rfl

theorem openHandle_result (transport : Transport) (target : transport.Target) (world : World) :
    (transport.openHandle target).result world =
      match transport.request? world.network.routes.names target with
      | .error failure => (.error failure, world)
      | .ok request =>
        match (request.act.result world).1 with
        | .error error => (.error (transport.refusal target error), (request.act.result world).2)
        | .ok id =>
          (.ok (transport.fresh id),
            (request.act.result world).2.tell [⟨.debug, .transport transport, request.text⟩]) := by
  cases transport with
  | client =>
    obtain ⟨host, port⟩ := target
    simp only [openHandle, request?, Act.result_bind, Act.result_resolve]
    cases InstrumentLink.resolve world.network.routes.names host port with
    | error failure => rfl
    | ok remote =>
      simp only [Except.map, Request.act, Act.result_bind]
      cases ((Act.connect remote).result world).1 <;> rfl
  | listener =>
    obtain ⟨host, port⟩ := target
    simp only [openHandle, request?, Act.result_bind, Act.result_resolve]
    cases InstrumentLink.resolve world.network.routes.names (listenerHost ⟨host, port⟩) port with
    | error failure => rfl
    | ok address =>
      simp only [Except.map, Request.act, Act.result_bind]
      cases ((Act.listen address).result world).1 <;> rfl
  | udp =>
    obtain ⟨host, port⟩ := target
    simp only [openHandle, request?, Act.result_bind, Act.result_resolve]
    cases InstrumentLink.resolve world.network.routes.names host port with
    | error failure => rfl
    | ok remote =>
      simp only [Except.map, Request.act, Act.result_bind]
      cases ((Act.associate remote).result world).1 <;> rfl
  | serial =>
    obtain ⟨path, baudRate⟩ := target
    simp only [openHandle, request?, Act.result_bind, Request.act]
    cases ((Act.openLine path baudRate).result world).1 <;> rfl

theorem discard_result (transport : Transport) (handle : transport.Handle) (world : World) :
    (transport.discard handle).result world = (Act.shutAll (transport.partings handle)).result world := by
  cases transport with
  | client => rfl
  | udp => rfl
  | serial => rfl
  | listener =>
    obtain ⟨socket, _ | peer⟩ := handle
    · rfl
    · rfl

/-- A held thing came from the request that a target stands for, and a peer from the listener that holds it. -/
structure Fits (transport : Transport) (names : HostNames) (ledger : Asset → Option Deed) (target : transport.Target)
    (handle : transport.Handle) : Prop where
  configured : transport.isConfigured target = true
  made : ∃ request, transport.request? names target = .ok request ∧
    ledger (transport.asset (transport.number handle)) = some (request.deed (some (transport.number handle)))
  peer : ∀ peer, transport.peer? handle = some peer →
    ledger (.socket peer) = some (.accept (transport.number handle) peer)

end Transport

namespace Endpoint

variable {transport : Transport}

def assets (endpoint : Endpoint transport) : List Asset :=
  match endpoint.handle with
  | none => []
  | some handle => transport.assets handle

def partings (endpoint : Endpoint transport) : List Parting :=
  match endpoint.handle with
  | none => []
  | some handle => transport.partings handle

def closings (endpoint : Endpoint transport) : List Deed := endpoint.partings.flatMap Parting.deeds

theorem map_asset_partings (endpoint : Endpoint transport) : endpoint.partings.map Parting.asset = endpoint.assets := by
  unfold partings assets
  cases endpoint.handle with
  | none => rfl
  | some handle => exact transport.map_asset_partings handle

/-- An endpoint is configured whenever it holds something, which was opened for the address that it has now. -/
def Fits (endpoint : Endpoint transport) (world : World) : Prop :=
  ∀ handle, endpoint.handle = some handle →
    transport.Fits world.network.routes.names world.ledger endpoint.target handle

theorem fits_of_handle_eq_none {endpoint : Endpoint transport} (down : endpoint.handle = none) (world : World) :
    endpoint.Fits world := by
  intro handle held
  rw [down] at held
  cases held

theorem assets_eq_nil {endpoint : Endpoint transport} (down : endpoint.handle = none) : endpoint.assets = [] := by
  simp [assets, down]

theorem assets_of_handle {endpoint : Endpoint transport} {handle : transport.Handle}
    (held : endpoint.handle = some handle) : endpoint.assets = transport.assets handle := by
  simp [assets, held]

theorem partings_of_handle {endpoint : Endpoint transport} {handle : transport.Handle}
    (held : endpoint.handle = some handle) : endpoint.partings = transport.partings handle := by
  simp [partings, held]

theorem closings_eq_nil {endpoint : Endpoint transport} (down : endpoint.handle = none) : endpoint.closings = [] := by
  simp [closings, partings, down]

theorem ledger_closings (journal : List Deed) (endpoint : Endpoint transport) (asset : Asset) :
    ledger (journal ++ endpoint.closings) asset =
      if asset ∈ endpoint.assets then none else ledger journal asset := by
  rw [closings, ledger_partings, map_asset_partings]

variable {endpoint : Endpoint transport} {world : World}

theorem Fits.isOpen (fits : endpoint.Fits world) {asset : Asset} (member : asset ∈ endpoint.assets) :
    (world.ledger asset).isSome := by
  cases held : endpoint.handle with
  | none =>
    rw [assets_eq_nil held] at member
    cases member
  | some handle =>
    rw [assets_of_handle held] at member
    rcases List.mem_append.mp member with isPeer | isOwn
    · obtain ⟨peer, there, rfl⟩ := List.mem_map.mp isPeer
      rw [(fits handle held).peer peer (Option.mem_toList.mp there)]
      rfl
    · obtain ⟨request, _, made⟩ := (fits handle held).made
      rw [List.mem_singleton.mp isOwn, made]
      rfl

theorem Fits.once (fits : endpoint.Fits world) : endpoint.assets.Nodup := by
  cases held : endpoint.handle with
  | none =>
    rw [assets_eq_nil held]
    exact List.nodup_nil
  | some handle =>
    rw [assets_of_handle held, Transport.assets]
    cases taken : transport.peer? handle with
    | none => simp
    | some peer =>
      have accepted := (fits handle held).peer peer taken
      obtain ⟨request, _, made⟩ := (fits handle held).made
      have different : Asset.socket peer ≠ transport.asset (transport.number handle) := by
        intro same
        rw [same, made] at accepted
        cases request <;> cases accepted
      simpa using different

theorem Fits.right (fits : endpoint.Fits world) : ∀ parting ∈ endpoint.partings, parting.Right world.journal := by
  intro parting member
  cases held : endpoint.handle with
  | none =>
    rw [partings, held] at member
    cases member
  | some handle =>
    rw [partings_of_handle held] at member
    rcases List.mem_append.mp member with isPeer | isOwn
    · obtain ⟨peer, there, rfl⟩ := List.mem_map.mp isPeer
      exact ⟨_, (fits handle held).peer peer (Option.mem_toList.mp there), rfl⟩
    · obtain ⟨request, asked, made⟩ := (fits handle held).made
      rw [List.mem_singleton.mp isOwn]
      exact ⟨_, made, (Transport.ways?_of_request? asked _).symm⟩

theorem Fits.tidy (fits : endpoint.Fits world) (tidy : Tidy world.journal) : Tidy (world.journal ++ endpoint.closings) := by
  refine tidy.partings ?_ fits.right
  rw [map_asset_partings]
  exact fits.once

theorem Fits.of_same (fits : endpoint.Fits world) {later : World}
    (routes : later.network.routes = world.network.routes)
    (same : ∀ asset ∈ endpoint.assets, later.ledger asset = world.ledger asset) : endpoint.Fits later := by
  intro handle held
  have all := fits handle held
  rw [assets_of_handle held] at same
  refine ⟨all.configured, ?_, fun peer there => ?_⟩
  · obtain ⟨request, asked, made⟩ := all.made
    refine ⟨request, by rw [routes]; exact asked, ?_⟩
    rw [same _ (by simp [Transport.assets])]
    exact made
  · rw [same _ (by simp [Transport.assets, there])]
    exact all.peer peer there

theorem Fits.own? (fits : endpoint.Fits world) (sound : world.Sound) {handle : transport.Handle}
    (held : endpoint.handle = some handle) :
    ∃ request, transport.request? world.network.routes.names endpoint.target = .ok request ∧
      world.own? (transport.asset (transport.number handle)) = some request.purpose := by
  obtain ⟨request, asked, made⟩ := (fits handle held).made
  obtain ⟨purpose, own, explains⟩ := sound.own?_of_ledger made
  rw [request.explains_deed] at explains
  exact ⟨request, asked, explains ▸ own⟩

theorem Fits.isConfigured (fits : endpoint.Fits world) {handle : transport.Handle}
    (held : endpoint.handle = some handle) : endpoint.isConfigured = true :=
  (fits handle held).configured

theorem Fits.handle_eq_none (fits : endpoint.Fits world) (unset : endpoint.isConfigured = false) :
    endpoint.handle = none := by
  cases held : endpoint.handle with
  | none => rfl
  | some handle =>
    have set := fits.isConfigured held
    rw [unset] at set
    cases set

end Endpoint
end InstrumentLink
