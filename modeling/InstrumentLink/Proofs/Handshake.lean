import InstrumentLink.Proofs.Connection.Streams
import InstrumentLink.Proofs.Endpoint.Taking

/-!
A handshake that takes its time is neither started again nor trusted. While it is under way its role keeps the one socket,
is not up and lends nothing out, and every attempt reports it as pending. Only another address ends it: the socket is
closed, and the role holds nothing until the next attempt, which dials the address that is set by then.
-/

namespace InstrumentLink

open Relation (ReflTransGen)

namespace Endpoint

variable {transport : Transport} {endpoint : Endpoint transport} {world : World}

theorem isUnderWay_shown (sound : world.Sound) (fits : endpoint.Fits world) :
    (endpoint.isUnderWay.result world).1 = endpoint.underWay world := by
  obtain ⟨target, _ | handle⟩ := endpoint
  · rfl
  · cases transport with
    | client =>
      obtain ⟨stream, found⟩ := fits.stream sound rfl
      have shown : (⟨target, some handle⟩ : Endpoint .client).underWay world = world.network.isConnecting handle := rfl
      rw [shown]
      change ((Transport.isUnderWay .client target handle).result world).1 = _
      rcases Transport.isUnderWay_client sound.network found target with
        ⟨result, connecting⟩ | ⟨settled, told, looked, result, _⟩
      · rw [result, connecting]
      · rw [result, settled]
    | listener | udp | serial => rfl

theorem prospect_of_underWay {endpoint : Endpoint .client} (fits : endpoint.Fits world)
    (connecting : endpoint.underWay world = true) : endpoint.prospect world = .underWay := by
  obtain ⟨_, held⟩ := client_of_underWay connecting
  obtain ⟨id, holds⟩ := Option.isSome_iff_exists.mp held
  rw [prospect, fits.isConfigured holds, live_of_underWay connecting, connecting]
  rfl

def aim? (endpoint : Endpoint .client) (world : World) : Option SocketAddress :=
  if endpoint.isConfigured then
    Act.toOption (resolve world.network.routes.names (HostPort.host endpoint.target) (HostPort.port endpoint.target))
  else none

/-- With empty hands a client dials the address that it is set to, once, and does nothing else. -/
theorem Tried.dials {endpoint after : Endpoint .client} {outcome : Outcome} {middle later : World}
    (tried : endpoint.Tried middle (endpoint.prospect world) ((after, outcome), later)) (empty : endpoint.handle = none) :
    (endpoint.prospect world).deeds endpoint.closings after.handle =
      (endpoint.aim? world).toList.map fun remote => .connect remote after.handle := by
  have down : endpoint.live world = false := live_of_handle_eq_none empty world
  have settled : endpoint.underWay world = false := by rw [underWay, empty]; rfl
  rw [closings_eq_nil empty]
  cases set : endpoint.isConfigured with
  | false =>
    have unset : endpoint.prospect world = .unset := by rw [prospect, set]; rfl
    rw [unset, aim?, set]
    rfl
  | true =>
    have foreseen := prospect_of_down set down settled
    rw [aim?, set, if_pos rfl]
    cases resolved : resolve world.network.routes.names (HostPort.host endpoint.target) (HostPort.port endpoint.target) with
    | error failure =>
      rw [resolved] at foreseen
      rw [foreseen]
      rfl
    | ok remote =>
      rw [resolved] at foreseen
      dsimp only at foreseen
      split at foreseen
      · rw [foreseen] at tried ⊢
        have nothing : after.handle = none := by
          cases tried with
          | left still told => rcases still with other | other | other <;> cases other
          | failed lost heard journal => rfl
        rw [nothing]
        rfl
      · rw [foreseen]
        rfl

end Endpoint

namespace Connection

variable {connection : Connection} {world : World} {role : Role} {id : SocketId}

def isUnderWay (connection : Connection) (role : Role) : Act Bool :=
  match connection.endpoint? role with
  | some ⟨_, endpoint⟩ => endpoint.isUnderWay
  | none => return false

theorem isUnderWay_shown (order : connection.InOrder world) (role : Role) :
    ((connection.isUnderWay role).result world).1 = connection.underWay role world := by
  unfold isUnderWay underWay
  cases found : connection.endpoint? role with
  | none => rfl
  | some carrier => exact Endpoint.isUnderWay_shown order.sound (order.fits (mem_endpoints found))

theorem client?_of_endpoint? {endpoint : Endpoint .client} (found : connection.endpoint? role = some ⟨.client, endpoint⟩) :
    connection.client? role = some endpoint := by
  rw [client?, found]

def aim? (connection : Connection) (role : Role) (world : World) : Option SocketAddress :=
  (connection.client? role).bind fun endpoint => endpoint.aim? world

theorem live_of_underWay (connecting : connection.underWay role world = true) :
    connection.live role world = false := by
  unfold underWay at connecting
  unfold live
  cases found : connection.endpoint? role with
  | none => rfl
  | some carrier =>
    rw [found] at connecting
    exact Endpoint.live_of_underWay connecting

structure Awaits (role : Role) (id : SocketId) (connection : Connection) (world : World) : Prop where
  held : connection.dialled? role = some id
  underWay : ((connection.isUnderWay role).result world).1 = true
  pending : (connection.establish.result world).1.2.outcome role = .pending
  /-- An attempt does nothing for the role. -/
  idle : connection.attempt (connection.establish.result world).1.1 role world = []
  down : ((connection.isConnected role).result world).1 = false
  lent : ((connection.channel? role).result world).1 = none
  shown : ((connection.status.result world).1.role role).connected = false

theorem awaits_of_underWay (order : connection.InOrder world) (held : connection.dialled? role = some id)
    (connecting : connection.underWay role world = true) : Awaits role id connection world := by
  have isTcp := kind_of_dialled held
  obtain ⟨place, endpoint, filled, carries, holds⟩ := exists_of_dialled held
  have found : connection.endpoint? role = some ⟨.client, endpoint⟩ := by rw [filled, Place.endpoint?_fill carries]
  have behind := client?_of_endpoint? found
  have waits : endpoint.underWay world = true := by
    rw [underWay, found] at connecting
    exact connecting
  have foreseen : endpoint.prospect world = .underWay :=
    Endpoint.prospect_of_underWay (order.fits (mem_endpoints found)) waits
  have prospect : connection.prospect role world = .underWay := by
    rw [prospect, behind]
    exact foreseen
  have down : connection.live role world = false := by
    rw [live_of_endpoint? found, Endpoint.live_of_underWay waits]
  have alone : role = .command → ¬connection.Competes world := by
    rintro rfl ⟨server, listening, _, seeks, _⟩
    rw [seeks?, prospect] at seeks
    cases seeks
  constructor
  case held => exact held
  case underWay => rw [isUnderWay_shown order, connecting]
  case pending => rw [(establish_foreseen order isTcp alone).1, prospect]; rfl
  case idle =>
    unfold attempt
    rw [behind]
    split
    next before later isBefore _ =>
      cases isBefore
      rw [foreseen]
      rfl
    next => rfl
  case down => rw [isConnected_result order.sound.network, down]
  case lent =>
    have nothing := isSome_lent? connection role world
    rw [down, Option.isSome_eq_false_iff, Option.isNone_iff_eq_none] at nothing
    rw [channel?_result order.sound.network, nothing]
  case shown =>
    rw [(status_result order).1]
    cases role with
    | data => exact down
    | command => exact down

/-- What happens to a connection while a role holds nothing: something beside the role, or the role is set to another
address. -/
inductive Idle (role : Role) : Connection × World → Connection × World → Prop
  | aside {start finish : Connection × World} (aside : Aside role start finish) : Idle role start finish
  | address (place : Place .client) (carries : place.role? = some role) (before after : HostPort) (world : World) :
    Idle role (place.fill ⟨before, none⟩, world) (place.fill ⟨after, none⟩, world)

/-- What the next attempt does for a role that holds nothing: it dials the address that is set, once, if that stands for
one. -/
structure Dials (role : Role) (agent : Agent) (world : World) : Prop where
  noted : (agent.connection.establish.result world).2.journal = world.journal ++
    agent.connection.attempt (agent.connection.establish.result world).1.1 .data world ++
    agent.connection.attempt (agent.connection.establish.result world).1.1 .command world
  once : agent.connection.attempt (agent.connection.establish.result world).1.1 role world =
    (agent.connection.aim? role world).toList.map fun remote =>
      .connect remote ((agent.connection.establish.result world).1.1.dialled? role)
  /-- A poll does the same. -/
  polled : (agent.poll.result world).2.journal = (agent.connection.establish.result world).2.journal

theorem dials_of_nothing {agent : Agent} (order : agent.connection.InOrder world) (isTcp : agent.connection.kind = .tcp)
    (empty : agent.connection.dialled? role = none) : Dials role agent world := by
  constructor
  case noted => exact journal_establish order isTcp
  case once =>
    obtain ⟨data, command, two⟩ := eq_tcp_of_kind isTcp
    rw [two] at order empty ⊢
    have steps := establish_steps order
    generalize (tcp data command).establish.result world = established at steps ⊢
    cases steps with
    | intro dataTried commandTried commandKept dataKept =>
      cases role with
      | data => exact dataTried.dials empty
      | command => exact commandTried.dials empty
  case polled =>
    obtain ⟨told, _, result⟩ := Agent.poll_of_deaf order (by rw [isTcp]; decide)
    rw [result]
    rfl

/-- Another address costs a role the handshake that is under way, and nothing is attempted in its place. -/
theorem change_lets_go (order : connection.InOrder world) (held : connection.dialled? role = some id)
    (connecting : connection.underWay role world = true) {change : Change} (addressed : change.role = role)
    (applies : change.appliesTo connection.kind = true)
    (different : connection.settings.value? change.field ≠ some change) :
    ((connection.apply change).result world).2.journal = world.journal ++ [.shutdown id .sending, .close id] ∧
      ((connection.apply change).result world).2.network.socket? id = none ∧
      ((connection.apply change).result world).1.dialled? role = none := by
  have isTcp := kind_of_dialled held
  cases connection.taken change with
  | ignored foreign result =>
    rw [foreign] at applies
    cases applies
  | @stored transport place endpoint target filled applies addressedToo written result =>
    have carries : transport = .client ∧ place.role? = some role := by
      rw [filled] at isTcp
      cases place with
      | tcpData command => exact ⟨rfl, by rw [← addressed, addressedToo .data rfl]; rfl⟩
      | tcpCommand data => exact ⟨rfl, by rw [← addressed, addressedToo .command rfl]; rfl⟩
      | rsnData _ | rsnCommand _ | udpData | serialData => cases isTcp
    obtain ⟨rfl, carries⟩ := carries
    have found : connection.endpoint? role = some ⟨.client, endpoint⟩ := by rw [filled, Place.endpoint?_fill carries]
    have holds : endpoint.handle = some id := by
      rw [dialled?, found] at held
      exact held
    have waits : endpoint.underWay world = true := by
      rw [underWay, found] at connecting
      exact connecting
    have moved : target ≠ endpoint.target := by
      rintro rfl
      -- What is written is what was shown.
      have same : connection.settings.set change = connection.settings := by
        rw [← written endpoint.handle, filled]
      have keeps : connection.settings.kind.keeps change.field = true := by
        rw [kind_settings, ← Change.appliesTo_eq]
        exact applies
      have shown := connection.settings.value?_set change change.field
      rw [if_pos ⟨keeps, rfl⟩, same] at shown
      exact different shown
    obtain ⟨stream, there⟩ := (order.fits (mem_endpoints found)).stream order.sound holds
    have holdsStill : (endpoint.moved target).handle = some id := holds
    have closings : (endpoint.moved target).closings = [.shutdown id .sending, .close id] := by
      rw [Endpoint.closings, Endpoint.partings_of_handle holdsStill]
      rfl
    rw [result, Endpoint.change_result order.sound.network, if_neg moved, Endpoint.live_of_underWay waits,
      if_neg Bool.false_ne_true]
    refine ⟨?_, ?_, ?_⟩
    · refine (Endpoint.journal_afterRelease (endpoint.moved target) _).trans ?_
      rw [closings]
      rfl
    · have left := Endpoint.network_afterRelease_client holdsStill (world.tell (endpoint.moved target).changedLines)
      have gone := Network.gone_part there (order.sound.network.streams there).unshut (some .sending)
      exact (congrArg (Network.socket? · id) left).trans gone.socket?_eq_none
    · rw [dialled?, Place.endpoint?_fill carries]
      rfl

structure Empty (role : Role) (start finish : Connection × World) : Prop where
  idles : ReflTransGen (Idle role) start finish
  isTcp : finish.1.kind = .tcp
  nothing : finish.1.dialled? role = none

namespace Empty

theorem refl (isTcp : connection.kind = .tcp) (nothing : connection.dialled? role = none) :
    Empty role (connection, world) (connection, world) :=
  ⟨.refl, isTcp, nothing⟩

theorem trans {start middle finish : Connection × World} (first : Empty role start middle)
    (second : Empty role middle finish) : Empty role start finish :=
  ⟨first.idles.trans second.idles, second.isTcp, second.nothing⟩

theorem of_asides {start finish : Connection × World} (isTcp : start.1.kind = .tcp)
    (nothing : start.1.dialled? role = none) (asides : ReflTransGen (Aside role) start finish) :
    Empty role start finish := by
  have isTcpStill : finish.1.kind = .tcp := (kind_of_asides asides).trans isTcp
  refine ⟨Relation.ReflTransGen.mono (fun _ _ aside => Idle.aside aside) _ _ asides, isTcpStill, ?_⟩
  cases held : finish.1.dialled? role with
  | none => rfl
  | some id =>
    rw [dialled?_iff isTcpStill, thing?_of_asides asides, ← dialled?_iff isTcp, nothing] at held
    cases held

theorem quiet {later : World} (isTcp : connection.kind = .tcp) (nothing : connection.dialled? role = none)
    (kept : world.Kept later) : Empty role (connection, world) (connection, later) :=
  .of_asides isTcp nothing (.single (.quiet connection kept))

theorem apply (order : connection.InOrder world) (isTcp : connection.kind = .tcp)
    (nothing : connection.dialled? role = none) (change : Change) :
    Empty role (connection, world)
      (((connection.apply change).result world).1, ((connection.apply change).result world).2) := by
  by_cases addressed : change.role = role
  · cases connection.taken change with
    | ignored foreign result =>
      rw [result]
      exact .quiet isTcp nothing (.tell order.sound _)
    | stored place endpoint target filled applies addressedToo written result =>
      subst filled
      have moves : ∀ {place : Place .client} {endpoint : Endpoint .client} (target : Transport.client.Target),
          place.role? = some role → (place.fill endpoint).dialled? role = none →
          Empty role (place.fill endpoint, world) (place.fill ((endpoint.change target).result world).1,
            ((endpoint.change target).result world).2) := by
        intro place endpoint target carries nothing
        rw [dialled?, Place.endpoint?_fill carries] at nothing
        have down : endpoint.handle = none := nothing
        rw [Endpoint.change_of_handle_eq_none down]
        obtain ⟨before, _⟩ := endpoint
        cases down
        refine ⟨.single (.address place carries before target world), by cases place <;> rfl, ?_⟩
        rw [dialled?, Place.endpoint?_fill carries]
        rfl
      rw [result]
      cases place with
      | tcpData command => exact moves target (by rw [← addressed, addressedToo .data rfl]; rfl) nothing
      | tcpCommand data => exact moves target (by rw [← addressed, addressedToo .command rfl]; rfl) nothing
      | rsnData _ | rsnCommand _ | udpData | serialData => cases isTcp
  · exact .of_asides isTcp nothing (asides_apply order (.inr (.inr addressed)))

theorem applyAll (order : connection.InOrder world) (isTcp : connection.kind = .tcp)
    (nothing : connection.dialled? role = none) (changes : List Change) :
    Empty role (connection, world)
      (((connection.applyAll changes).result world).1, ((connection.applyAll changes).result world).2) := by
  induction changes generalizing connection world with
  | nil => exact .refl isTcp nothing
  | cons change rest ih =>
    have first := Empty.apply order isTcp nothing change
    exact first.trans (ih (order.apply change) first.isTcp first.nothing)

theorem disconnect (order : connection.InOrder world) (isTcp : connection.kind = .tcp)
    (nothing : connection.dialled? role = none) (gone : Role) :
    Empty role (connection, world)
      (((connection.disconnect gone).result world).1, ((connection.disconnect gone).result world).2) := by
  by_cases same : gone = role
  · subst same
    obtain ⟨data, command, rfl⟩ := eq_tcp_of_kind isTcp
    have left : ((tcp data command).disconnect gone).result world = (tcp data command, world) := by
      have kept : ∀ endpoint : Endpoint .client, endpoint.handle = none →
          (release gone endpoint).result world = ((endpoint, ()), world) := by
        intro endpoint down
        rw [release, Endpoint.hasHandle, down]
        rfl
      cases gone with
      | data => rw [Connection.disconnect, Act.result_bind, onRole, Act.result_bind, kept data nothing]; rfl
      | command => rw [Connection.disconnect, Act.result_bind, onRole, Act.result_bind, kept command nothing]; rfl
    rw [left]
    exact .refl isTcp nothing
  · exact .of_asides isTcp nothing (asides_disconnect order same)

end Empty

end Connection

/-- Whether a move attempts to bring up what is down. -/
def Move.attempts : Move → Bool
  | .establish | .poll => true
  | _ => false

namespace Agent

open Connection

variable {agent : Agent} {world : World} {role : Role} {id : SocketId}

theorem empty_perform (order : agent.connection.InOrder world) (isTcp : agent.connection.kind = .tcp)
    (nothing : agent.connection.dialled? role = none) {move : Move} (calm : move.attempts = false) :
    Empty role (agent.connection, world)
      (((agent.perform move).result world).1.connection, ((agent.perform move).result world).2) := by
  have deaf : agent.connection.kind ≠ .rsn := by rw [isTcp]; decide
  have unheard : ∀ act : Listener → Act Listener, (agent.onListener act).result world = (agent, world) := by
    obtain ⟨data, command, two⟩ := eq_tcp_of_kind isTcp
    intro act
    rw [onListener, two]
    rfl
  have still : Empty role (agent.connection, world) (agent.connection, world) := .refl isTcp nothing
  cases move with
  | establish | poll => cases calm
  | change change => exact .apply order isTcp nothing change
  | override options => exact .applyAll order isTcp nothing options.changes
  | disconnect gone => exact .disconnect order isTcp nothing gone
  | askStatus =>
    change Empty role _ (agent.connection, (agent.connection.status.result world).2)
    rw [status_of_deaf order deaf]
    exact still
  | askConnected asked =>
    change Empty role _ (agent.connection, ((agent.connection.isConnected asked).result world).2)
    rw [isConnected_result order.sound.network]
    exact still
  | lend asked =>
    change Empty role _ (agent.connection, ((agent.connection.channel? asked).result world).2)
    rw [channel?_result order.sound.network]
    exact still
  | read asked count =>
    rw [perform_read order.sound.network]
    cases agent.connection.lent? asked world with
    | none => exact still
    | some channel => exact .quiet isTcp nothing (channel.read_kept order.sound count)
  | write asked bytes =>
    rw [perform_write order.sound.network]
    cases agent.connection.lent? asked world with
    | none => exact still
    | some channel => exact .quiet isTcp nothing (channel.write_kept order.sound bytes)
  | askPeer | acceptPeer | releasePeer | dropPeer =>
    rw [perform, unheard]
    exact still
  | event event => exact .quiet isTcp nothing (World.kept_after order.sound event)

theorem empty_performAll (reached : Reachable agent world) (isTcp : agent.connection.kind = .tcp)
    (nothing : agent.connection.dialled? role = none) {moves : List Move}
    (calm : ∀ move ∈ moves, move.attempts = false) :
    Empty role (agent.connection, world)
      (((agent.performAll moves).result world).1.connection, ((agent.performAll moves).result world).2) := by
  induction moves generalizing agent world with
  | nil => exact .refl isTcp nothing
  | cons move rest ih =>
    have first := empty_perform (inOrder_of_reachable reached) isTcp nothing (calm move List.mem_cons_self)
    exact first.trans (ih (reached.step move) first.isTcp first.nothing fun later member =>
      calm later (List.mem_cons_of_mem move member))

end Agent

/-- A run in which every move spares a role, or reads or writes, and in which nothing that happens outside ends the
handshake of the role. -/
inductive Awaited (role : Role) : List Move → Agent → World → Prop
  | done (agent : Agent) (world : World) : Awaited role [] agent world
  | move {move : Move} {rest : List Move} {agent : Agent} {world : World} (spares : move.Spares role agent.connection)
      (later : Awaited role rest ((agent.perform move).result world).1 ((agent.perform move).result world).2) :
    Awaited role (move :: rest) agent world
  | read {asked : Role} {count : Nat} {rest : List Move} {agent : Agent} {world : World}
      (later : Awaited role rest ((agent.perform (.read asked count)).result world).1
        ((agent.perform (.read asked count)).result world).2) :
    Awaited role (.read asked count :: rest) agent world
  | write {asked : Role} {bytes : List UInt8} {rest : List Move} {agent : Agent} {world : World}
      (later : Awaited role rest ((agent.perform (.write asked bytes)).result world).1
        ((agent.perform (.write asked bytes)).result world).2) :
    Awaited role (.write asked bytes :: rest) agent world
  | event {event : Event} {rest : List Move} {agent : Agent} {world : World}
      (underWay : ((agent.connection.isUnderWay role).result (world.after event)).1 = true)
      (later : Awaited role rest agent (world.after event)) : Awaited role (.event event :: rest) agent world

theorem Awaited.of_append {role : Role} {first rest : List Move} {agent : Agent} {world : World}
    (awaited : Awaited role (first ++ rest) agent world) : Awaited role first agent world := by
  induction first generalizing agent world with
  | nil => exact .done agent world
  | cons move more ih =>
    cases awaited with
    | move spares later => exact .move spares (ih later)
    | read later => exact .read (ih later)
    | write later => exact .write (ih later)
    | event underWay later => exact .event underWay (ih later)

namespace Agent

open Connection

/-- All that happens while a handshake is awaited happens beside its role, and leaves it under way. -/
theorem asides_of_awaited {agent : Agent} {world : World} (reached : Reachable agent world) {role : Role} {id : SocketId}
    (held : agent.connection.dialled? role = some id) (connecting : agent.connection.underWay role world = true)
    {moves : List Move} (awaited : Awaited role moves agent world) :
    ReflTransGen (Aside role) (agent.connection, world)
        (((agent.performAll moves).result world).1.connection, ((agent.performAll moves).result world).2) ∧
      ((agent.performAll moves).result world).1.connection.underWay role ((agent.performAll moves).result world).2 =
        true := by
  induction awaited with
  | done agent world => exact ⟨.refl, connecting⟩
  | @move move rest agent world spares later ih =>
    have step := beside_perform (inOrder_of_reachable reached) (World.outward_of_reachable reached) held spares
      fun _ => .inr connecting
    obtain ⟨asides, still⟩ := ih (reached.step move) (dialled?_of_asides step.asides held)
      ((step.underWay_eq held).trans connecting)
    exact ⟨step.asides.trans asides, still⟩
  | @read asked count rest agent world later ih =>
    have order := inOrder_of_reachable reached
    have step := beside_read order (World.outward_of_reachable reached) held count
      (.inr (live_of_underWay connecting) : asked ≠ role ∨ _)
    obtain ⟨asides, still⟩ := ih (reached.step _) (dialled?_of_asides step.asides held)
      ((step.underWay_eq held).trans connecting)
    exact ⟨step.asides.trans asides, still⟩
  | @write asked bytes rest agent world later ih =>
    have order := inOrder_of_reachable reached
    have step := beside_write order (World.outward_of_reachable reached) held bytes
      (.inr (live_of_underWay connecting) : asked ≠ role ∨ _)
    obtain ⟨asides, still⟩ := ih (reached.step _) (dialled?_of_asides step.asides held)
      ((step.underWay_eq held).trans connecting)
    exact ⟨step.asides.trans asides, still⟩
  | @event event rest agent world underWay later ih =>
    have kept := World.kept_after (inOrder_of_reachable reached).sound event
    have orderAfter := (inOrder_of_reachable reached).of_kept kept
    rw [isUnderWay_shown orderAfter] at underWay
    obtain ⟨asides, still⟩ := ih (reached.step (.event event)) held underWay
    exact ⟨.head (.quiet agent.connection kept) asides, still⟩

end Agent

/-- Whatever has happened, a role whose handshake is under way is left to it by every run of attempts, polls, questions,
changes that change nothing, and whatever is done with the other role, as long as nothing outside ends the handshake. At
every moment of the run the role holds the same socket, is not up and lends nothing out, an attempt reports it as pending
and does nothing for it, and all that has happened has happened beside the role: nothing has opened, shut down or
closed the socket. The first change that gives the role another address shuts the socket down, closes it and attempts
nothing. From then on the role holds nothing, whatever is done that is no attempt, and the next attempt or poll dials once,
to the address that is set by then, or not at all if that is not complete or stands for none. -/
theorem slow_handshake_is_left_alone {agent : Agent} {world : World} (reached : Reachable agent world) {role : Role}
    {id : SocketId} (held : agent.connection.dialled? role = some id)
    (underWay : ((agent.connection.isUnderWay role).result world).1 = true) {moves : List Move}
    (awaited : Awaited role moves agent world) :
    (∀ first rest, moves = first ++ rest →
      let middle := (agent.performAll first).result world
      Connection.Awaits role id middle.1.connection middle.2 ∧
      ReflTransGen (Connection.Aside role) (agent.connection, world) (middle.1.connection, middle.2) ∧
      ∃ deeds, middle.2.journal = world.journal ++ deeds ∧
        ∀ deed ∈ deeds, deed.made? ≠ some (.socket id) ∧ deed.ended? ≠ some (.socket id)) ∧
    ∀ change : Change, change.role = role → change.appliesTo .tcp = true →
      let waiting := (agent.performAll moves).result world
      waiting.1.connection.settings.value? change.field ≠ some change →
      let changed := (waiting.1.perform (.change change)).result waiting.2
      changed.2.journal = waiting.2.journal ++ [.shutdown id .sending, .close id] ∧ changed.2.network.socket? id = none ∧
      ∀ more : List Move, (∀ move ∈ more, move.attempts = false) →
        let idle := (changed.1.performAll more).result changed.2
        idle.1.connection.dialled? role = none ∧
        ReflTransGen (Connection.Idle role) (changed.1.connection, changed.2) (idle.1.connection, idle.2) ∧
        Connection.Dials role idle.1 idle.2 := by
  have order := inOrder_of_reachable reached
  rw [Connection.isUnderWay_shown order] at underWay
  constructor
  · rintro first rest rfl
    have orderMiddle := inOrder_of_reachable (reached.performAll first)
    obtain ⟨asides, still⟩ := Agent.asides_of_awaited reached held underWay awaited.of_append
    have thing := (Connection.dialled?_iff (Connection.kind_of_dialled held)).mp held
    obtain ⟨deeds, noted, apart⟩ := Connection.journal_of_asides asides order thing
    refine ⟨Connection.awaits_of_underWay orderMiddle (Connection.dialled?_of_asides asides held) still, asides, deeds,
      noted, fun deed member => ?_⟩
    obtain ⟨made, closed, _⟩ := apart deed member
    exact ⟨made, closed⟩
  · intro change addressed applies waiting different
    -- The change is the first thing that is not beside the role; nothing has touched the socket until then.
    have reachedWaiting := reached.performAll moves
    have orderWaiting := inOrder_of_reachable reachedWaiting
    obtain ⟨asides, still⟩ := Agent.asides_of_awaited reached held underWay awaited
    have heldStill := Connection.dialled?_of_asides asides held
    have isTcp := Connection.kind_of_dialled heldStill
    rw [← isTcp] at applies
    obtain ⟨noted, closed, nothing⟩ :=
      Connection.change_lets_go orderWaiting heldStill still addressed applies different
    have isTcpStill : ((waiting.1.connection.apply change).result waiting.2).1.kind = .tcp := by
      rw [← Connection.kind_settings, Connection.settings_apply orderWaiting.sound.network, ConnectionSettings.kind_set,
        Connection.kind_settings]
      exact isTcp
    refine ⟨noted, closed, fun more calm => ?_⟩
    have reachedChanged := reachedWaiting.step (.change change)
    have empty := Agent.empty_performAll reachedChanged isTcpStill nothing calm
    exact ⟨empty.nothing, empty.idles, Connection.dials_of_nothing
      (inOrder_of_reachable (reachedChanged.performAll more)) empty.isTcp empty.nothing⟩

def unanswered : Agent × World :=
  (Agent.performAll [.event (.serve ⟨.v4 .localhost, 4002⟩ 4 true), .establish]
    (.ofConnection (.ofSettings (.tcp ⟨"127.0.0.1", 4001, "127.0.0.1", 4002⟩)))).result (World.ofRoutes .loopback)

theorem reachable_unanswered : Reachable unanswered.1 unanswered.2 :=
  Reachable.performAll (.start (.ofRoutes .loopback) _) _

def meanwhile : List Move :=
  [.poll, .askStatus, .change (.dataPort 4001), .write .command [7], .disconnect .command,
    .event (.serve ⟨.v4 .localhost, 4003⟩ 0 true), .establish]

theorem awaited_meanwhile : Awaited .data meanwhile unanswered.1 unanswered.2 := by
  refine .move .poll (.move .askStatus (.move (.shown (by decide +kernel)) (.write ?_)))
  refine .move (.disconnect (by decide)) (.event (by decide +kernel) ?_)
  exact .move .establish (.done _ _)

def stillUnanswered : Agent × World := (unanswered.1.performAll meanwhile).result unanswered.2

def readdressed : Agent × World := (stillUnanswered.1.perform (.change (.dataPort 4005))).result stillUnanswered.2

def readdressedAgain : Agent × World :=
  (readdressed.1.performAll [.change (.commandPort 4009), .lend .data, .change (.dataPort 4006)]).result readdressed.2

/-- The role waits with its first socket, closes it for the new port, and dials the last one that it is given. -/
theorem slow_handshake_is_left_alone_unanswered :
    (stillUnanswered.1.connection.establish.result stillUnanswered.2).1.2.outcome .data = .pending ∧
      readdressed.2.journal = stillUnanswered.2.journal ++ [.shutdown 1 .sending, .close 1] ∧
      readdressedAgain.1.connection.dialled? .data = none ∧
      readdressedAgain.1.connection.attempt
          (readdressedAgain.1.connection.establish.result readdressedAgain.2).1.1 .data readdressedAgain.2 =
        [.connect ⟨.v4 .localhost, 4006⟩
          ((readdressedAgain.1.connection.establish.result readdressedAgain.2).1.1.dialled? .data)] := by
  have aim : readdressedAgain.1.connection.aim? .data readdressedAgain.2 = some ⟨.v4 .localhost, 4006⟩ := by
    decide +kernel
  obtain ⟨awaits, changes⟩ := slow_handshake_is_left_alone reachable_unanswered
    (by decide +kernel : unanswered.1.connection.dialled? .data = some 1) (by decide +kernel) awaited_meanwhile
  obtain ⟨noted, _, rests⟩ := changes (.dataPort 4005) rfl rfl (by decide +kernel)
  obtain ⟨nothing, _, dials⟩ := rests [.change (.commandPort 4009), .lend .data, .change (.dataPort 4006)] (by decide)
  have once := dials.once
  unfold readdressedAgain readdressed stillUnanswered at aim ⊢
  rw [aim] at once
  exact ⟨(awaits meanwhile [] (List.append_nil _).symm).1.pending, noted, nothing, once⟩

end InstrumentLink
