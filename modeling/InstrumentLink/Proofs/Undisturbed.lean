import InstrumentLink.Proofs.Connection.Aside
import InstrumentLink.Proofs.Connection.Settings

/-!
A channel that works is left alone. Bringing the connection up, polling it, asking it anything, changes that change
nothing and whatever is done with the other role happens beside a role that is up, and leaves it up.
-/

namespace InstrumentLink

open Relation (ReflTransGen)

namespace Connection

variable {connection : Connection} {world : World} {role : Role}

theorem bringUp_of_live {transport : Transport} {endpoint : Endpoint transport} (sound : world.Sound)
    (fits : endpoint.Fits world) (up : endpoint.live world = true) (role : Role) :
    (bringUp role endpoint).result world = ((endpoint, .alreadyConnected), world) := by
  have brought := bringUp_spec sound fits role
  generalize (bringUp role endpoint).result world = outcome at brought ⊢
  cases brought with
  | unconfigured unset =>
    rw [fits.isConfigured_of_live up] at unset
    cases unset
  | alreadyConnected set live => rfl
  | underWay set down connecting =>
    rw [up] at down
    cases down
  | attempted set down settled quiet reopened =>
    rw [up] at down
    cases down

theorem establishRole_of_live (order : connection.InOrder world) (up : connection.live role world = true) :
    (connection.establishRole role).result world = ((connection, .alreadyConnected), world) := by
  rcases connection.establishRole_result role with ⟨transport, place, endpoint, rfl, carries, result⟩ | ⟨absent, _⟩
  · rw [live_of_endpoint? (Place.endpoint?_fill carries endpoint)] at up
    rw [result, bringUp_of_live order.sound order.fits_fill up]
  · rw [live, absent] at up
    cases up

/-! Whether a role is up or not, what is done to the other is done beside it. -/

section Asides

theorem asides_establishRole (order : connection.InOrder world) {tried : Role} (different : tried ≠ role) :
    ReflTransGen (Aside role) (connection, world) (((connection.establishRole tried).result world).1.1,
      ((connection.establishRole tried).result world).2) := by
  rcases connection.establishRole_result tried with ⟨transport, place, endpoint, rfl, carries, result⟩ | ⟨_, result⟩
  · rw [result]
    exact .single (.exchange place carries different (bringUp_handover order.sound order.fits_fill tried))
  · rw [result]

theorem asides_takePeer (order : connection.InOrder world) (role : Role) :
    ReflTransGen (Aside role) (connection, world)
      (((Agent.takePeer connection).result world).1, ((Agent.takePeer connection).result world).2) := by
  have took := takePeer_spec order
  generalize (Agent.takePeer connection).result world = outcome at took ⊢
  cases took with
  | deaf => exact .refl
  | listening is released taken =>
    subst is
    exact .head (.peer _ _ released) (.single (.peer _ _ taken))

theorem asides_status (order : connection.InOrder world) (role : Role) :
    ReflTransGen (Aside role) (connection, world) (connection, (connection.status.result world).2) :=
  .single (.quiet connection order.status_kept)

/-- A change that the settings show already, or that the kind has no field for, is at most talked about. -/
theorem apply_idle (sound : world.network.Sound) {change : Change}
    (idle : connection.settings.value? change.field = some change ∨ change.appliesTo connection.kind = false) :
    ∃ told, (connection.apply change).result world = (connection, world.tell told) := by
  cases connection.taken change with
  | ignored foreign result => exact ⟨_, result world⟩
  | stored place endpoint target filled applies addressed written result =>
    subst filled
    rcases idle with shown | foreign
    · have unchanged : target = endpoint.target :=
        Place.target_eq_of_settings ((written none).trans (ConnectionSettings.set_shown shown))
      refine ⟨[], ?_⟩
      rw [result, Endpoint.change_result sound, if_pos unchanged, World.tell_nil]
    · rw [foreign] at applies
      cases applies

/-- A change leaves a role alone if it changes nothing, does not apply, or is addressed to the other role. -/
theorem asides_apply (order : connection.InOrder world) {change : Change}
    (spared : connection.settings.value? change.field = some change ∨
      change.appliesTo connection.kind = false ∨ change.role ≠ role) :
    ReflTransGen (Aside role) (connection, world)
      (((connection.apply change).result world).1, ((connection.apply change).result world).2) := by
  rw [← or_assoc] at spared
  rcases spared with idle | different
  · obtain ⟨told, result⟩ := apply_idle order.sound.network idle
    rw [result]
    exact .single (.quiet connection (.tell order.sound told))
  · cases connection.taken change with
    | ignored foreign result =>
      rw [result]
      exact .single (.quiet connection (.tell order.sound _))
    | stored place endpoint target filled applies addressed written result =>
      subst filled
      rw [result]
      cases carried : place.role? with
      | some other =>
        refine .single (.exchange place carried ?_ (Endpoint.change_handover order.sound order.fits_fill target))
        rw [← addressed other carried]
        exact different
      | none =>
        have down : endpoint.handle = none := order.handle_eq_none carried
        rw [Endpoint.change_of_handle_eq_none down]
        cases place with
        | rsnCommand data =>
          obtain ⟨before, _⟩ := endpoint
          cases down
          exact .single (.stored data before target world)
        | _ => cases carried

theorem asides_disconnect (order : connection.InOrder world) {other : Role} (different : other ≠ role) :
    ReflTransGen (Aside role) (connection, world)
      (((connection.disconnect other).result world).1, ((connection.disconnect other).result world).2) := by
  rw [Connection.disconnect, Act.result_bind]
  rcases connection.onRole_result other with ⟨transport, place, endpoint, rfl, carries, _, result⟩ | ⟨_, result⟩
  · rw [result]
    exact .single (.exchange place carries different (release_handover order.sound order.fits_fill other))
  · rw [result]
    exact .refl

end Asides

/-- From one moment to another a role that is up has been left alone, and is up. -/
structure Undisturbed (role : Role) (start finish : Connection × World) : Prop where
  asides : ReflTransGen (Aside role) start finish
  up : finish.1.live role finish.2 = true

namespace Undisturbed

theorem refl (up : connection.live role world = true) : Undisturbed role (connection, world) (connection, world) :=
  ⟨.refl, up⟩

theorem trans {start middle finish : Connection × World} (first : Undisturbed role start middle)
    (second : Undisturbed role middle finish) : Undisturbed role start finish :=
  ⟨first.asides.trans second.asides, second.up⟩

theorem tell (order : connection.InOrder world) (up : connection.live role world = true) (entries : List LogEntry) :
    Undisturbed role (connection, world) (connection, world.tell entries) :=
  ⟨.single (.quiet connection (.tell order.sound entries)), by rw [live_tell, up]⟩

theorem establishRole (order : connection.InOrder world) (up : connection.live role world = true) (tried : Role) :
    Undisturbed role (connection, world) (((connection.establishRole tried).result world).1.1,
      ((connection.establishRole tried).result world).2) := by
  by_cases same : tried = role
  · subst same
    rw [establishRole_of_live order up]
    exact .refl up
  · exact ⟨asides_establishRole order same, (live_establishRole_other order (Ne.symm same)).trans up⟩

theorem establish (order : connection.InOrder world) (up : connection.live role world = true) :
    Undisturbed role (connection, world) ((connection.establish.result world).1.1, (connection.establish.result world).2) := by
  have first := establishRole order up .data
  exact first.trans (establishRole (order.establishRole .data) first.up .command)

theorem of_listener {data command : Endpoint .listener} {finish : Connection × World}
    (order : (rsn data command).InOrder world) (up : (rsn data command).live role world = true)
    (asides : ReflTransGen (Aside role) (rsn data command, world) finish) :
    Undisturbed role (rsn data command, world) finish :=
  ⟨asides, (live_of_asides asides order rfl).trans up⟩

theorem takePeer (order : connection.InOrder world) (up : connection.live role world = true) :
    Undisturbed role (connection, world)
      (((Agent.takePeer connection).result world).1, ((Agent.takePeer connection).result world).2) := by
  have asides := asides_takePeer order role
  have took := takePeer_spec order
  generalize (Agent.takePeer connection).result world = outcome at asides took ⊢
  cases took with
  | deaf => exact .refl up
  | listening is released taken =>
    subst is
    exact of_listener order up asides

theorem status (order : connection.InOrder world) (up : connection.live role world = true) :
    Undisturbed role (connection, world) (connection, (connection.status.result world).2) := by
  cases connection with
  | rsn data command => exact of_listener order up (asides_status order role)
  | tcp data command | udp data | serial data =>
    refine ⟨asides_status order role, ?_⟩
    rw [order.world_status]
    exact up

theorem apply (order : connection.InOrder world) (outward : world.Outward) (up : connection.live role world = true)
    {change : Change} (spared : connection.settings.value? change.field = some change ∨
      change.appliesTo connection.kind = false ∨ change.role ≠ role) :
    Undisturbed role (connection, world)
      (((connection.apply change).result world).1, ((connection.apply change).result world).2) := by
  refine ⟨asides_apply order spared, ?_⟩
  rw [← or_assoc] at spared
  rcases spared with idle | different
  · obtain ⟨told, result⟩ := apply_idle order.sound.network idle
    rw [result, live_tell]
    exact up
  · exact (live_apply_other order outward different).trans up

theorem disconnect (order : connection.InOrder world) (outward : world.Outward)
    (up : connection.live role world = true) {other : Role} (different : other ≠ role) :
    Undisturbed role (connection, world)
      (((connection.disconnect other).result world).1, ((connection.disconnect other).result world).2) :=
  ⟨asides_disconnect order different, (live_disconnect_other order outward different).trans up⟩

end Undisturbed
end Connection

namespace Agent

open Connection

variable {agent : Agent} {world : World} {role : Role}

theorem undisturbed_poll (order : agent.connection.InOrder world) (up : agent.connection.live role world = true) :
    Undisturbed role (agent.connection, world)
      ((agent.poll.result world).1.1.connection, (agent.poll.result world).2) := by
  obtain ⟨told, more, result⟩ := agent.poll_result world
  have established := Undisturbed.establish order up
  have spoken := established.trans (.tell order.establish established.up told)
  have taken := spoken.trans (.takePeer (order.of_asides spoken.asides) spoken.up)
  have asked := taken.trans (.status (order.of_asides taken.asides) taken.up)
  rw [result]
  exact asked.trans (.tell (order.of_asides asked.asides) asked.up more)

theorem undisturbed_askPeer (order : agent.connection.InOrder world) (up : agent.connection.live role world = true) :
    Undisturbed role (agent.connection, world)
      (((agent.perform .askPeer).result world).1.connection, ((agent.perform .askPeer).result world).2) := by
  obtain ⟨connection, lastStatus⟩ := agent
  cases connection with
  | rsn data command =>
    obtain ⟨target, _ | listener⟩ := data
    · exact .refl up
    · exact .of_listener order up (.single (.quiet _ (Listener.livePeer?_kept order.sound listener)))
  | tcp data command | udp data | serial data => exact .refl up

end Agent

/-- The moves that are no reason to touch what a role holds. Settings and copies are read off a connection without any
move. -/
inductive Move.Spares (role : Role) (connection : Connection) : Move → Prop
  | establish : Spares role connection .establish
  | poll : Spares role connection .poll
  | askStatus : Spares role connection .askStatus
  | askConnected (asked : Role) : Spares role connection (.askConnected asked)
  | lend (asked : Role) : Spares role connection (.lend asked)
  | askPeer : Spares role connection .askPeer
  /-- The field shows this already. -/
  | shown {change : Change} (shown : connection.settings.value? change.field = some change) :
    Spares role connection (.change change)
  /-- The kind has no such field. -/
  | foreign {change : Change} (foreign : change.appliesTo connection.kind = false) :
    Spares role connection (.change change)
  | beside {change : Change} (different : change.role ≠ role) : Spares role connection (.change change)
  | disconnect {other : Role} (different : other ≠ role) : Spares role connection (.disconnect other)

namespace Agent

open Connection

variable {agent : Agent} {world : World} {role : Role}

theorem undisturbed_perform (order : agent.connection.InOrder world) (outward : world.Outward)
    (up : agent.connection.live role world = true) {move : Move} (spares : move.Spares role agent.connection) :
    Undisturbed role (agent.connection, world)
      (((agent.perform move).result world).1.connection, ((agent.perform move).result world).2) := by
  cases spares with
  | establish => exact .establish order up
  | poll => exact undisturbed_poll order up
  | askStatus => exact .status order up
  | askConnected asked =>
    have result : (agent.perform (.askConnected asked)).result world =
        (agent, ((agent.connection.isConnected asked).result world).2) := rfl
    rw [result, isConnected_result order.sound.network]
    exact .refl up
  | lend asked =>
    have result : (agent.perform (.lend asked)).result world =
        (agent, ((agent.connection.channel? asked).result world).2) := rfl
    rw [result, channel?_result order.sound.network]
    exact .refl up
  | askPeer => exact undisturbed_askPeer order up
  | shown shown => exact .apply order outward up (.inl shown)
  | foreign foreign => exact .apply order outward up (.inr (.inl foreign))
  | beside different => exact .apply order outward up (.inr (.inr different))
  | disconnect different => exact .disconnect order outward up different

end Agent

/-- A run in which every move spares a role, and in which nothing that happens outside brings it down. -/
inductive Spared (role : Role) : List Move → Agent → World → Prop
  | done (agent : Agent) (world : World) : Spared role [] agent world
  | move {move : Move} {rest : List Move} {agent : Agent} {world : World} (spares : move.Spares role agent.connection)
      (later : Spared role rest ((agent.perform move).result world).1 ((agent.perform move).result world).2) :
    Spared role (move :: rest) agent world
  | event {event : Event} {rest : List Move} {agent : Agent} {world : World}
      (connected : ((agent.connection.isConnected role).result (world.after event)).1 = true)
      (later : Spared role rest agent (world.after event)) : Spared role (.event event :: rest) agent world

theorem Spared.of_append {role : Role} {first rest : List Move} {agent : Agent} {world : World}
    (spared : Spared role (first ++ rest) agent world) : Spared role first agent world := by
  induction first generalizing agent world with
  | nil => exact .done agent world
  | cons move more ih =>
    cases spared with
    | move spares later => exact .move spares (ih later)
    | event connected later => exact .event connected (ih later)

namespace Agent

open Connection

theorem undisturbed_performAll {agent : Agent} {world : World} (reached : Reachable agent world) {role : Role}
    (up : agent.connection.live role world = true) {moves : List Move} (spared : Spared role moves agent world) :
    Undisturbed role (agent.connection, world)
      (((agent.performAll moves).result world).1.connection, ((agent.performAll moves).result world).2) := by
  induction spared with
  | done agent world => exact .refl up
  | @move move rest agent world spares later ih =>
    have order := inOrder_of_reachable reached
    have step := undisturbed_perform order (World.outward_of_reachable reached) up spares
    exact step.trans (ih (reached.step move) step.up)
  | @event event rest agent world connected later ih =>
    have kept := World.kept_after (inOrder_of_reachable reached).sound event
    rw [isConnected_result kept.sound.network] at connected
    have step : Undisturbed role (agent.connection, world) (agent.connection, world.after event) :=
      ⟨.single (.quiet agent.connection kept), connected⟩
    exact step.trans (ih (reached.step (.event event)) connected)

end Agent

/-- A role that is up holds one thing, and keeps it through any run of attempts to bring the connection up, polls,
questions, changes that change nothing or do not apply, and whatever is done with the other role, as long as nothing
outside brings it down. At every moment of the run the role is up, an attempt reports it as connected already, and all
that has happened to the agent has happened beside the role: nothing that was noted has opened, taken, shut down or
closed the thing, and only a connection with two clients has attempted to open anything, for its other role. -/
theorem undisturbed_while_up {agent : Agent} {world : World} (reached : Reachable agent world) {role : Role}
    (up : ((agent.connection.isConnected role).result world).1 = true) {moves : List Move}
    (spared : Spared role moves agent world) :
    ∃ thing, agent.connection.thing? role = some thing ∧ ∀ first rest, moves = first ++ rest →
      let middle := ((agent.performAll first).result world).1.connection
      let later := ((agent.performAll first).result world).2
      ((middle.isConnected role).result later).1 = true ∧
      middle.thing? role = some thing ∧
      (middle.establish.result later).1.2.outcome role = .alreadyConnected ∧
      ReflTransGen (Connection.Aside role) (agent.connection, world) (middle, later) ∧
      ∃ deeds, later.journal = world.journal ++ deeds ∧
        ∀ deed ∈ deeds, deed.made? ≠ some thing ∧ deed.ended? ≠ some thing ∧
          (deed.isAttempt = true → agent.connection.kind = .tcp) := by
  have order := inOrder_of_reachable reached
  rw [Connection.isConnected_result order.sound.network] at up
  obtain ⟨transport, endpoint, handle, found, held⟩ := Connection.exists_of_live up
  have thing : agent.connection.thing? role = some (transport.asset (transport.number handle)) := by
    rw [Connection.thing?, found, Option.bind_some, held]
    rfl
  refine ⟨_, thing, ?_⟩
  rintro first rest rfl
  have orderMiddle := inOrder_of_reachable (reached.performAll first)
  obtain ⟨asides, stillUp⟩ := Agent.undisturbed_performAll reached up spared.of_append
  have connected : ((((agent.performAll first).result world).1.connection.isConnected role).result
      ((agent.performAll first).result world).2).1 = true := by
    rw [Connection.isConnected_result orderMiddle.sound.network]
    exact stillUp
  have reported := (Connection.establish_tells orderMiddle role).alreadyConnected.mpr connected
  exact ⟨connected, (Connection.thing?_of_asides asides).trans thing, reported, asides,
    Connection.journal_of_asides asides order thing⟩

def halfUp : Agent × World :=
  (Agent.performAll [.event (.serve ⟨.v4 .localhost, 4001⟩ 4 true), .establish]
    (.ofConnection (.ofSettings (.tcp ⟨"127.0.0.1", 4001, "127.0.0.1", 4002⟩)))).result (World.ofRoutes .loopback)

theorem reachable_halfUp : Reachable halfUp.1 halfUp.2 :=
  Reachable.performAll (.start (.ofRoutes .loopback) _) _

def besides : List Move :=
  [.change (.dataPort 4001), .event (.serve ⟨.v4 .localhost, 4002⟩ 4 true), .event (.answer 3), .poll,
    .change (.commandPort 4001), .askStatus, .change (.baudRate 1), .disconnect .command, .establish]

theorem spared_besides : Spared .data besides halfUp.1 halfUp.2 := by
  refine .move (.shown (by decide +kernel)) ?_
  refine .event (by decide +kernel) (.event (by decide +kernel) ?_)
  refine .move .poll (.move (.beside (by decide)) (.move .askStatus ?_))
  exact .move (.foreign (by decide +kernel)) (.move (.disconnect (by decide)) (.move .establish (.done _ _)))

/-- The first role holds its socket all along. -/
theorem undisturbed_while_up_besides :
    halfUp.1.connection.thing? .data = some (.socket 1) ∧
      ((halfUp.1.performAll besides).result halfUp.2).1.connection.thing? .data = some (.socket 1) ∧
      (((halfUp.1.performAll besides).result halfUp.2).1.connection.establish.result
        ((halfUp.1.performAll besides).result halfUp.2).2).1.2.outcome .data = .alreadyConnected := by
  obtain ⟨thing, held, kept⟩ := undisturbed_while_up reachable_halfUp (by decide +kernel) spared_besides
  have isSocket : halfUp.1.connection.thing? .data = some (.socket 1) := by decide +kernel
  rw [isSocket] at held
  cases held
  obtain ⟨_, stillHeld, reported, _⟩ := kept besides [] (List.append_nil _).symm
  exact ⟨isSocket, stillHeld, reported⟩

end InstrumentLink
