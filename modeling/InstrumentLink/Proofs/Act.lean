import InstrumentLink.Connection.Channel

/-!
What an act gives and the world that it leaves, for acts made of others and for each thing that the agent can do.
-/

namespace InstrumentLink

namespace World

def tell (entries : List LogEntry) (world : World) : World := { world with log := world.log ++ entries }

@[simp] theorem tell_network (entries : List LogEntry) (world : World) : (world.tell entries).network = world.network :=
  rfl

@[simp] theorem tell_journal (entries : List LogEntry) (world : World) : (world.tell entries).journal = world.journal :=
  rfl

@[simp] theorem tell_log (entries : List LogEntry) (world : World) :
    (world.tell entries).log = world.log ++ entries :=
  rfl

@[simp] theorem tell_nil (world : World) : world.tell [] = world := by simp [tell]

@[simp] theorem tell_tell (first second : List LogEntry) (world : World) :
    (world.tell first).tell second = world.tell (first ++ second) := by
  simp [tell, List.append_assoc]

end World

namespace Act

variable {α β : Type}

theorem toOption_eq_some {ε : Type} {answer : Except ε α} {a : α} : toOption answer = some a ↔ answer = .ok a := by
  cases answer <;> simp [toOption]

def result (act : Act α) (world : World) : α × World := act.run world

@[simp] theorem result_pure (a : α) (world : World) : (pure a : Act α).result world = (a, world) := rfl

@[simp] theorem result_bind (act : Act α) (next : α → Act β) (world : World) :
    (act >>= next).result world = (next (act.result world).1).result (act.result world).2 := rfl

@[simp] theorem result_map (f : α → β) (act : Act α) (world : World) :
    (f <$> act).result world = (f (act.result world).1, (act.result world).2) := rfl

theorem result_onNetwork (f : Network → α × Network) (world : World) :
    (onNetwork f).result world = ((f world.network).1, { world with network := (f world.network).2 }) := rfl

@[simp] theorem result_say (level : Level) (origin : Origin) (text : String) (world : World) :
    (say level origin text).result world = ((), world.tell [⟨level, origin, text⟩]) := rfl

@[simp] theorem result_resolve (host : String) (port : UInt16) (world : World) :
    (resolve host port).result world = (InstrumentLink.resolve world.network.routes.names host port, world) := rfl

theorem result_listen (address : SocketAddress) (world : World) :
    (listen address).result world =
      ((world.network.listen .agent address backlog true).1,
        { world with
          network := (world.network.listen .agent address backlog true).2
          journal := world.journal ++ [.listen address (toOption (world.network.listen .agent address backlog true).1)] }) :=
  rfl

theorem result_connect (remote : SocketAddress) (world : World) :
    (connect remote).result world =
      ((world.network.connect .agent remote).1,
        { world with
          network := (world.network.connect .agent remote).2
          journal := world.journal ++ [.connect remote (toOption (world.network.connect .agent remote).1)] }) :=
  rfl

theorem result_associate (remote : SocketAddress) (world : World) :
    (associate remote).result world =
      ((world.network.associate .agent remote).1,
        { world with
          network := (world.network.associate .agent remote).2
          journal := world.journal ++ [.associate remote (toOption (world.network.associate .agent remote).1)] }) :=
  rfl

theorem result_openLine (path : String) (baudRate : UInt32) (world : World) :
    (openLine path baudRate).result world =
      ((world.devices.openLine path baudRate).1,
        { world with
          devices := (world.devices.openLine path baudRate).2
          journal := world.journal ++ [.openLine path baudRate (toOption (world.devices.openLine path baudRate).1)] }) :=
  rfl

def acceptDeeds (listener : SocketId) : Except IoError (Option (SocketId × SocketAddress)) → List Deed
  | .ok (some (taken, _)) => [.accept listener taken]
  | _ => []

theorem result_accept (listener : SocketId) (world : World) :
    (accept listener).result world =
      ((world.network.accept .agent listener).1,
        { world with
          network := (world.network.accept .agent listener).2
          journal := world.journal ++ acceptDeeds listener (world.network.accept .agent listener).1 }) := by
  unfold accept
  rw [result_bind, result_onNetwork]
  generalize world.network.accept .agent listener = outcome
  obtain ⟨taken, network⟩ := outcome
  cases taken with
  | error error => simp [acceptDeeds]
  | ok waiting =>
    cases waiting with
    | none => simp [acceptDeeds]
    | some peer => rfl

theorem result_hangUp (id : SocketId) (ways : Ways) (world : World) :
    (hangUp id ways).result world =
      ((), { world with
        network := (world.network.shutdown id ways).close id
        journal := world.journal ++ [.shutdown id ways] ++ [.close id] }) :=
  rfl

theorem result_stopWaiting (id : SocketId) (world : World) :
    (stopWaiting id).result world =
      ((world.network.adjust id).1, { world with network := (world.network.adjust id).2 }) := rfl

theorem result_closeLine (id : Nat) (world : World) :
    (closeLine id).result world =
      ((), { world with devices := world.devices.closeLine id, journal := world.journal ++ [.closeLine id] }) :=
  rfl

@[simp] theorem result_localAddress? (id : SocketId) (world : World) :
    (localAddress? id).result world = (world.network.localAddress? id, world) := rfl

@[simp] theorem result_peerAddress? (id : SocketId) (world : World) :
    (peerAddress? id).result world = (world.network.peerAddress? id, world) := rfl

theorem result_takeError (id : SocketId) (world : World) :
    (takeError id).result world =
      ((world.network.takeError id).1, { world with network := (world.network.takeError id).2 }) := rfl

theorem result_isOver (id : SocketId) (world : World) :
    (isOver id).result world =
      ((world.network.peek id).1.isOver, { world with network := (world.network.peek id).2 }) := rfl

theorem result_receive (id : SocketId) (count : Nat) (world : World) :
    (receive id count).result world =
      ((world.network.receive id count).1, { world with network := (world.network.receive id count).2 }) := rfl

theorem result_send (id : SocketId) (bytes : List UInt8) (world : World) :
    (send id bytes).result world =
      ((world.network.send id bytes).1, { world with network := (world.network.send id bytes).2 }) := rfl

@[simp] theorem result_lineIsAlive (id : Nat) (world : World) :
    (lineIsAlive id).result world = (world.devices.isAlive id, world) := rfl

end Act
end InstrumentLink
