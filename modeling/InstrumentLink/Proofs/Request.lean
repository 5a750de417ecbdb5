import InstrumentLink.Proofs.World

/-!
What the agent can ask the system for. A request is granted or refused, it is noted either way, and what is granted is
new and the agent's own.
-/

namespace InstrumentLink

/-- What a channel asks of the system. -/
inductive Request where
  | listen (address : SocketAddress)
  | connect (remote : SocketAddress)
  | associate (remote : SocketAddress)
  | openLine (path : String) (baudRate : UInt32)
  deriving DecidableEq, Repr

namespace Request

def act : Request → Act (Except IoError Nat)
  | listen address => Act.listen address
  | connect remote => Act.connect remote
  | associate remote => Act.associate remote
  | openLine path baudRate => Act.openLine path baudRate

def deed : Request → Option Nat → Deed
  | listen address, made => .listen address made
  | connect remote, made => .connect remote made
  | associate remote, made => .associate remote made
  | openLine path baudRate, made => .openLine path baudRate made

def asset : Request → Nat → Asset
  | listen _, id => .socket id
  | connect _, id => .socket id
  | associate _, id => .socket id
  | openLine _ _, id => .line id

def purpose : Request → Purpose
  | listen address => .listening address
  | connect remote => .stream remote
  | associate remote => .datagram remote
  | openLine path baudRate => .line path baudRate

theorem made?_deed (request : Request) (made : Option Nat) : (request.deed made).made? = made.map request.asset := by
  cases request <;> rfl

theorem closed?_deed (request : Request) (made : Option Nat) : (request.deed made).closed? = none := by
  cases request <;> rfl

theorem ended?_deed (request : Request) (made : Option Nat) : (request.deed made).ended? = none := by
  cases request <;> rfl

theorem explains_deed (request : Request) (made : Option Nat) (purpose : Purpose) :
    (request.deed made).Explains purpose ↔ purpose = request.purpose := by
  cases request <;> rfl

end Request

namespace World

variable {world : World}

/-- What comes of a request: it is refused, and nothing of what was set up on the way is left, or the agent has one thing
more than before, under a new number. -/
inductive Answered (request : Request) (world : World) : Except IoError Nat × World → Prop
  | refused (error : IoError) {later : World} (sockets : ∀ id, later.network.socket? id = world.network.socket? id)
      (lines : ∀ id, later.devices.line? id = world.devices.line? id) : Answered request world (.error error, later)
  | granted (id : Nat) {later : World} (new : world.own? (request.asset id) = none)
      (owned : ∀ asset, later.own? asset = if request.asset id = asset then some request.purpose else world.own? asset) :
      Answered request world (.ok id, later)

/-- A request is for a socket, which is made in the network, or for a serial line, and then the network is left alone. -/
theorem request_made (request : Request) (world : World) :
    (∃ state, world.network.Made .agent state ((request.act.result world).1, (request.act.result world).2.network) ∧
      state.purpose = request.purpose ∧ (∀ id, request.asset id = .socket id) ∧
        (request.act.result world).2.devices = world.devices) ∨
      ∃ path baudRate, request = .openLine path baudRate := by
  cases request with
  | listen address =>
    exact .inl ⟨_, world.network.listen_made .agent address Act.backlog true, rfl, fun _ => rfl, rfl⟩
  | connect remote => exact .inl ⟨_, world.network.connect_made .agent remote, rfl, fun _ => rfl, rfl⟩
  | associate remote => exact .inl ⟨_, world.network.associate_made .agent remote, rfl, fun _ => rfl, rfl⟩
  | openLine path baudRate => exact .inr ⟨path, baudRate, rfl⟩

theorem answered_of_made {request : Request} {state : SocketState} {answer : Except IoError SocketId} {later : World}
    (asks : ∀ id, request.asset id = .socket id) (purpose : state.purpose = request.purpose)
    (made : world.network.Made .agent state (answer, later.network)) (devices : later.devices = world.devices) :
    Answered request world (answer, later) := by
  generalize isMade : (answer, later.network) = outcome at made
  cases made with
  | refused error =>
    obtain ⟨rfl, network⟩ := Prod.mk.inj isMade
    refine .refused error (fun id => ?_) fun id => by rw [devices]
    rw [network]
    exact world.network.socket?_skip id
  | granted fresh =>
    obtain ⟨rfl, network⟩ := Prod.mk.inj isMade
    refine .granted _ ?_ fun asset => ?_
    · rw [asks]
      exact world.network.own?_next
    · rw [asks]
      cases asset with
      | socket id =>
        simp only [own?, Asset.socket.injEq, eq_comm (a := world.network.sockets.next)]
        rw [network, Network.own?_answer, Network.own?_add, Socket.own?, if_pos rfl, purpose]
      | line id => simp [own?, devices]

theorem request_answered (request : Request) (world : World) : Answered request world (request.act.result world) := by
  rcases request_made request world with ⟨state, made, purpose, asks, devices⟩ | ⟨path, baudRate, rfl⟩
  · exact answered_of_made asks purpose made devices
  · rw [Request.act, Act.result_openLine]
    cases opened : (world.devices.openLine path baudRate).1 with
    | error error =>
      refine .refused error (fun _ => rfl) fun id => ?_
      rcases Devices.openLine_error opened with same | skipped
      · rw [same]
      · rw [skipped]
        exact world.devices.line?_skipLine id
    | ok made =>
      obtain ⟨rfl, file, shown⟩ := Devices.line?_openLine opened
      have absent : world.devices.line? world.devices.lines.next = none := Registry.find?_of_next_le (Nat.le_refl _)
      refine .granted _ (by simp [own?, Request.asset, absent]) fun asset => ?_
      cases asset with
      | socket id => simp [own?, Request.asset]
      | line id =>
        simp only [own?, shown, Request.asset, Asset.line.injEq, eq_comm (a := world.devices.lines.next)]
        split <;> rfl

theorem own?_request (request : Request) (asset : Asset) (world : World) :
    (request.act.result world).2.own? asset =
      if (Act.toOption (request.act.result world).1).map request.asset = some asset then some request.purpose
      else world.own? asset := by
  have answered := request_answered request world
  generalize request.act.result world = answer at answered ⊢
  cases answered with
  | refused error sockets lines =>
    cases asset with
    | socket id => simp [own?, Network.own?, sockets, Act.toOption]
    | line id => simp [own?, lines, Act.toOption]
  | granted id new owned => simp [owned, Act.toOption]

theorem own?_request_made {request : Request} {id : Nat} (made : (request.act.result world).1 = .ok id) :
    world.own? (request.asset id) = none := by
  have answered := request_answered request world
  generalize request.act.result world = answer at answered made
  cases answered with
  | refused error sockets lines => cases made
  | granted id new owned =>
    cases made
    exact new

theorem journal_request (request : Request) (world : World) :
    (request.act.result world).2.journal =
      world.journal ++ [request.deed (Act.toOption (request.act.result world).1)] := by
  cases request <;> rfl

theorem log_request (request : Request) (world : World) : (request.act.result world).2.log = world.log := by
  cases request <;> rfl

theorem routes_request (request : Request) (world : World) :
    (request.act.result world).2.network.routes = world.network.routes := by
  rcases request_made request world with ⟨state, made, _⟩ | ⟨path, baudRate, rfl⟩
  · exact made.routes
  · rfl

theorem ledger_request (request : Request) (asset : Asset) (world : World) :
    (request.act.result world).2.ledger asset =
      if (Act.toOption (request.act.result world).1).map request.asset = some asset then
        some (request.deed (Act.toOption (request.act.result world).1))
      else world.ledger asset := by
  rw [ledger, journal_request, ledger_append, Deed.enter, request.made?_deed, request.closed?_deed]
  rfl

theorem Sound.request (sound : world.Sound) (request : Request) : (request.act.result world).2.Sound where
  network := by
    rcases request_made request world with ⟨state, made, _⟩ | ⟨path, baudRate, rfl⟩
    · exact sound.network.made made
    · exact sound.network
  devices := by
    cases request with
    | openLine path baudRate => exact sound.devices.openLine path baudRate
    | _ => exact sound.devices
  truthful asset := by
    rw [ledger_request, own?_request]
    split
    · exact .some ((request.explains_deed _ _).mpr rfl)
    · exact sound.truthful asset

end World

end InstrumentLink
