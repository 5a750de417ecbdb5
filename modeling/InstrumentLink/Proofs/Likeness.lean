import InstrumentLink.Proofs.Network.Likeness
import InstrumentLink.Proofs.History

/-!
Acts that are blind to what dead streams have still to tell: they give the same in two worlds that differ in nothing else,
and leave them so. All that a listener does is blind, as it looks at its peer and never asks for the error; only a client that
looks after its handshake is not.
-/

namespace InstrumentLink

theorem Connection.eq_rsn_of_kind {connection : Connection} (listens : connection.kind = .rsn) :
    ∃ data command, connection = rsn data command := by
  cases connection with
  | rsn data command => exact ⟨data, command, rfl⟩
  | tcp data command | udp data | serial data => cases listens

/-- The same world, but for what dead streams have still to tell. -/
structure World.Like (world later : World) : Prop where
  network : world.network.Like later.network
  devices : later.devices = world.devices
  log : later.log = world.log
  journal : later.journal = world.journal

namespace World.Like

variable {world later : World}

theorem tell (like : world.Like later) (entries : List LogEntry) : (world.tell entries).Like (later.tell entries) :=
  ⟨like.network, like.devices, congrArg (· ++ entries) like.log, like.journal⟩

theorem after (like : world.Like later) (event : Event) : (world.after event).Like (later.after event) :=
  ⟨like.network.event event, congrArg event.onDevices like.devices, like.log, like.journal⟩

end World.Like

/-- An act gives the same in worlds that are alike, and leaves them alike. -/
def Act.Blind {α : Type} (act : Act α) : Prop :=
  ∀ ⦃world later⦄, world.Like later →
    (act.result later).1 = (act.result world).1 ∧ (act.result world).2.Like (act.result later).2

namespace Act.Blind

variable {α β : Type}

theorem pure (a : α) : Blind (Pure.pure a : Act α) := fun _ _ like => ⟨rfl, like⟩

theorem bind {act : Act α} {next : α → Act β} (first : act.Blind) (second : ∀ a, (next a).Blind) :
    (act >>= next).Blind := by
  intro world later like
  obtain ⟨same, alike⟩ := first like
  rw [result_bind, result_bind, same]
  exact second _ alike

/-- Where something is known of what the first act gives, the second need not be blind for anything else. -/
theorem bind_of {act : Act α} {next : α → Act β} {P : α → Prop} (first : act.Blind)
    (known : ∀ world, P (act.result world).1) (second : ∀ a, P a → (next a).Blind) : (act >>= next).Blind := by
  intro world later like
  obtain ⟨same, alike⟩ := first like
  rw [result_bind, result_bind, same]
  exact second _ (known world) alike

theorem say (level : Level) (origin : Origin) (text : String) : (Act.say level origin text).Blind :=
  fun _ _ like => ⟨rfl, like.tell _⟩

theorem of_view {act : Act α} {view : World → α} (shown : ∀ world, act.result world = (view world, world))
    (same : ∀ {world later}, world.Like later → view later = view world) : act.Blind := by
  intro world later like
  rw [shown, shown]
  exact ⟨same like, like⟩

theorem note (deed : Deed) : (Act.note deed).Blind :=
  fun _ _ like => ⟨rfl, like.network, like.devices, like.log, congrArg (· ++ [deed]) like.journal⟩

theorem onNetwork {f : Network → α × Network}
    (same : ∀ {network later}, network.Like later → (f later).1 = (f network).1 ∧ (f network).2.Like (f later).2) :
    (Act.onNetwork f).Blind :=
  fun _ _ like => ⟨(same like.network).1, (same like.network).2, like.devices, like.log, like.journal⟩

theorem listen (address : SocketAddress) : (Act.listen address).Blind :=
  .bind (.onNetwork fun like => like.listen .agent address backlog true) fun _ => .bind (.note _) fun _ => .pure _

theorem accept (door : SocketId) : (Act.accept door).Blind := by
  refine .bind (.onNetwork fun like => like.accept .agent door) fun taken => ?_
  dsimp only
  split
  · exact .bind (.note _) fun _ => .pure _
  · exact .bind (.pure _) fun _ => .pure _

theorem close (id : SocketId) : (Act.close id).Blind :=
  .bind (.onNetwork fun like => ⟨rfl, like.close id⟩) fun _ => .note _

theorem stopWaiting (id : SocketId) : (Act.stopWaiting id).Blind := .onNetwork fun like => like.adjust id

theorem shutdown (id : SocketId) (ways : Ways) : (Act.shutdown id ways).Blind :=
  .bind (.onNetwork fun like => ⟨rfl, like.shutdown id ways⟩) fun _ => .note _

theorem hangUp (id : SocketId) (ways : Ways) : (Act.hangUp id ways).Blind :=
  .bind (.shutdown id ways) fun _ => .close id

theorem isOver (id : SocketId) : (Act.isOver id).Blind := by
  intro world later like
  obtain ⟨same, alike⟩ := like.network.isOver id
  exact ⟨same, alike, like.devices, like.log, like.journal⟩

theorem send (id : SocketId) (bytes : List UInt8) : (Act.send id bytes).Blind :=
  .onNetwork fun like => like.send id bytes

theorem resolve (host : String) (port : UInt16) : (Act.resolve host port).Blind :=
  .of_view (fun _ => rfl) fun like => by rw [like.network.routes]

theorem localAddress? (id : SocketId) : (Act.localAddress? id).Blind :=
  .of_view (fun _ => rfl) fun like => like.network.localAddress? id

/-! ### What a listener does with its peer -/

section Listener

variable (listener : Listener)

theorem livePeer? : listener.livePeer?.Blind := by
  unfold Listener.livePeer?
  split
  · exact .pure _
  next peer _ => exact .bind (.isOver peer) fun ended => .pure _

theorem hasLivePeer : listener.hasLivePeer.Blind := .bind (.livePeer? listener) fun _ => .pure _

theorem dropPeer : listener.dropPeer.Blind := by
  unfold Listener.dropPeer
  split
  · exact .pure _
  next peer _ => exact .bind (.hangUp peer .both) fun _ => .pure _

theorem releaseClosedPeer : listener.releaseClosedPeer.Blind := by
  refine .bind (.hasLivePeer listener) fun live => ?_
  split
  · exact .pure _
  · exact .bind (.say ..) fun _ => .bind (.dropPeer listener) fun _ => .pure _

theorem acceptPeer : listener.acceptPeer.Blind := by
  refine .bind (.accept listener.socket) fun taken => ?_
  split
  · exact .pure _
  · exact .pure _
  next peer address =>
    have drop : (do
        let listener ← listener.dropPeer
        Listener.say .info ("Accepted peer " ++ address.text)
        return (({ listener with peer := some peer }, .ok (some address)) :
          Listener × Except IoError (Option SocketAddress)) : Act _).Blind :=
      .bind (.dropPeer listener) fun _ => .bind (.say ..) fun _ => .pure _
    refine .bind (.stopWaiting peer) fun answer => ?_
    cases answer with
    | error error => exact .bind (.close peer) fun _ => .pure _
    | ok _ =>
      dsimp only
      split
      · exact .bind (.say ..) fun _ => drop
      · exact drop

end Listener

/-! ### What an endpoint that listens does -/

section Endpoint

variable (endpoint : Endpoint .listener)

theorem isConnected : endpoint.isConnected.Blind := by
  unfold Endpoint.isConnected
  split
  · exact .pure _
  next handle _ => exact .bind (.localAddress? (Listener.socket handle)) fun _ => .pure _

theorem disconnect : endpoint.disconnect.Blind := by
  unfold Endpoint.disconnect
  split
  · exact .pure _
  next handle _ =>
    refine .bind (.say ..) fun _ => .bind ?_ fun _ => .pure _
    exact .bind (.dropPeer handle) fun held => .close held.socket

theorem raise : endpoint.raise.Blind := by
  obtain ⟨⟨host, port⟩, handle⟩ := endpoint
  refine .bind (.bind (.resolve _ port) fun found => ?_) fun answer => ?_
  · cases found with
    | error failure => exact .pure _
    | ok address =>
      refine .bind (.listen address) fun made => ?_
      cases made with
      | error error => exact .pure _
      | ok id => exact .bind (.say ..) fun _ => .pure _
  · cases answer <;> exact .pure _

theorem raiseMoved : endpoint.raiseMoved.Blind := by
  unfold Endpoint.raiseMoved
  split
  · exact .bind (.say ..) fun _ => .pure _
  · refine .bind (.raise endpoint) fun outcome => ?_
    obtain ⟨after, answer⟩ := outcome
    cases answer with
    | ok _ => exact .pure _
    | error failure => exact .bind (.say ..) fun _ => .pure _

theorem settle {endpoint : Endpoint .listener} (down : endpoint.handle = none) (connected : Bool) :
    (endpoint.settle connected).Blind := by
  intro world later like
  rw [Endpoint.settle_result down, Endpoint.settle_result down]
  split
  · exact raiseMoved endpoint like
  · exact ⟨rfl, like⟩

theorem change (target : Transport.listener.Target) : (endpoint.change target).Blind := by
  rw [Endpoint.change_eq]
  refine .bind (.isConnected endpoint) fun connected => ?_
  split
  · exact .pure _
  · split
    · have gone : (endpoint.moved target).released.handle = none := rfl
      have known : ∀ world, ((endpoint.moved target).disconnect.result world).1.handle = none :=
        fun world => by rw [Endpoint.disconnect_result, gone]
      exact .bind (.say ..) fun _ => .bind_of (.disconnect _) known fun _ empty => .settle empty connected
    next empty => exact .settle (Option.not_isSome_iff_eq_none.mp empty) connected

theorem lend : endpoint.lend.Blind := by
  unfold Endpoint.lend
  split
  · exact .pure _
  · exact .pure _

theorem release (role : Role) : (Connection.release role endpoint).Blind := by
  unfold Connection.release
  split
  · exact .bind (.say ..) fun _ => .bind (.disconnect endpoint) fun _ => .pure _
  · exact .pure _

theorem bringUp_bare (role : Role) (target : HostPort) :
    (Connection.bringUp role (⟨target, none⟩ : Endpoint .listener)).Blind := by
  have establish : (Endpoint.establish (⟨target, none⟩ : Endpoint .listener)).Blind := by
    change (if !Endpoint.isConfigured (⟨target, none⟩ : Endpoint .listener) then
        return (⟨target, none⟩, .error (.notConfigured (Endpoint.describe (⟨target, none⟩ : Endpoint .listener))))
      else Endpoint.raise (⟨target, none⟩ : Endpoint .listener) : Act _).Blind
    split
    · exact .pure _
    · exact .raise _
  unfold Connection.bringUp
  split
  · exact .bind (.say ..) fun _ => .pure _
  · refine .bind (.isConnected _) fun connected => ?_
    split
    · exact .pure _
    · refine .bind (.say ..) fun _ => .bind establish fun outcome => ?_
      obtain ⟨after, answer⟩ := outcome
      cases answer with
      | error failure => exact .bind (.say ..) fun _ => .pure _
      | ok _ => exact .bind (.isConnected after) fun up => .pure _

end Endpoint

/-! ### What a connection that listens does -/

section Connection

variable {connection : Connection} (listens : connection.kind = .rsn)

include listens

theorem connection_isConnected (role : Role) : (connection.isConnected role).Blind := by
  obtain ⟨data, command, rfl⟩ := Connection.eq_rsn_of_kind listens
  cases role with
  | data => exact .isConnected data
  | command => exact .pure _

theorem channel? (role : Role) : (connection.channel? role).Blind := by
  refine .bind (.connection_isConnected listens role) fun connected => ?_
  obtain ⟨data, command, rfl⟩ := Connection.eq_rsn_of_kind listens
  split
  · exact .pure _
  · cases role with
    | data => exact .lend data
    | command => exact .pure _

theorem apply (asked : Change) : (connection.apply asked).Blind := by
  obtain ⟨data, command, rfl⟩ := Connection.eq_rsn_of_kind listens
  cases asked with
  | dataHost host => exact .bind (.change data _) fun _ => .pure _
  | dataPort port => exact .bind (.change data _) fun _ => .pure _
  | commandHost host => exact .bind (.change command _) fun _ => .pure _
  | commandPort port => exact .bind (.change command _) fun _ => .pure _
  | devicePath _ | baudRate _ => exact .bind (.say ..) fun _ => .pure _

theorem applyAll (changes : List Change) : (connection.applyAll changes).Blind := by
  induction changes generalizing connection with
  | nil => exact .pure _
  | cons first rest ih =>
    refine .bind_of (.apply listens first) (fun world => ?_) fun changed listensStill => ih listensStill
    obtain ⟨data, command, rfl⟩ := Connection.eq_rsn_of_kind listens
    cases first <;> rfl

theorem connection_disconnect (role : Role) : (connection.disconnect role).Blind := by
  obtain ⟨data, command, rfl⟩ := Connection.eq_rsn_of_kind listens
  cases role with
  | data => exact .bind (.bind (.release data .data) fun _ => .pure _) fun _ => .pure _
  | command => exact .pure _

theorem peerAttached : connection.peerAttached.Blind := by
  obtain ⟨⟨target, _ | held⟩, command, rfl⟩ := Connection.eq_rsn_of_kind listens
  · exact .pure _
  · exact .bind (.hasLivePeer held) fun _ => .pure _

theorem status : connection.status.Blind :=
  .bind (.peerAttached listens) fun _ => .bind (.connection_isConnected listens .data) fun _ =>
    .bind (.connection_isConnected listens .command) fun _ => .pure _

theorem takePeer : (Agent.takePeer connection).Blind := by
  refine .bind (.channel? listens .data) fun channel => ?_
  dsimp only
  split
  · exact .pure _
  next listener _ =>
    refine .bind (.releaseClosedPeer listener) fun released => ?_
    refine .bind (.acceptPeer released.1) fun outcome => ?_
    obtain ⟨taken, answer⟩ := outcome
    cases answer with
    | ok _ => exact .pure _
    | error error => exact .bind (.say ..) fun _ => .pure _

omit listens in
theorem establish_bare (target : HostPort) (command : Endpoint .listener) :
    (Connection.rsn ⟨target, none⟩ command).establish.Blind := by
  change (do
    let (data, outcome) ← Connection.bringUp .data (⟨target, none⟩ : Endpoint .listener)
    return (Connection.rsn data command, (⟨outcome, .unsupported⟩ : Report))).Blind
  exact .bind (.bringUp_bare .data target) fun _ => .pure _

end Connection

theorem onDevices {f : Devices → α × Devices} : (Act.onDevices f).Blind := by
  intro world later like
  have given : (f later.devices).1 = (f world.devices).1 := by rw [like.devices]
  have left : (f later.devices).2 = (f world.devices).2 := by rw [like.devices]
  exact ⟨given, like.network, left, like.log, like.journal⟩

theorem write (bytes : List UInt8) (channel : Channel) : (channel.write bytes).Blind := by
  cases channel with
  | listener held =>
    unfold Channel.write
    dsimp only
    split
    · exact .send _ bytes
    · exact .pure _
  | stream id => exact .send id bytes
  | udp id => exact .pure _
  | serial id => exact .onDevices

end Act.Blind

theorem Channel.read_like {world later : World} (like : world.Like later) (count : Nat) (channel : Channel) :
    ((channel.read count).result later).1.seen = ((channel.read count).result world).1.seen ∧
      ((channel.read count).result world).2.Like ((channel.read count).result later).2 := by
  have received : ∀ id, ((Act.receive id count).result later).1.seen = ((Act.receive id count).result world).1.seen ∧
      ((Act.receive id count).result world).2.Like ((Act.receive id count).result later).2 := by
    intro id
    obtain ⟨same, alike⟩ := like.network.receive id count
    exact ⟨same, alike, like.devices, like.log, like.journal⟩
  cases channel with
  | listener held =>
    unfold read
    dsimp only
    split
    · exact received _
    · exact ⟨rfl, like⟩
  | stream id => exact received id
  | udp id => exact ⟨rfl, like⟩
  | serial id =>
    obtain ⟨same, alike⟩ := Act.Blind.onDevices (f := (·.receive id count)) like
    exact ⟨congrArg Received.seen same, alike⟩

end InstrumentLink
