import InstrumentLink.Proofs.Connection.Served
import InstrumentLink.Proofs.Transitions

/-!
Polling settles. Let nothing happen but the polls of an agent and the refusals of its own handshakes. As soon as those
who waited at its listener are served, and at the latest after the first poll where nobody waited, every poll returns
the same status, and none of them says, takes or replaces anything that could be seen.
-/

namespace InstrumentLink

namespace Network

variable {network : Network} {stream : Stream} {other : SocketId}

theorem stream?_refuse (id : SocketId) (error : IoError) (found : network.stream? other = some stream) :
    (network.refuse id error).stream? other =
      some (if id = other ∧ stream.phase = .connecting then stream.fail error else stream) := by
  rw [refuse, stream?_mapStream, found]
  by_cases same : id = other
  · simp [same]
  · simp [same]

theorem listenerAt?_refuse (id : SocketId) (error : IoError) (network : Network) (address : SocketAddress) :
    (network.refuse id error).listenerAt? address = network.listenerAt? address :=
  listenerAt?_of_listening? (fun _ => listening?_mapStream ..) address

theorem isLive_refuse (id : SocketId) (error : IoError) (found : network.stream? other = some stream) :
    (network.refuse id error).isLive other = network.isLive other := by
  rw [isLive_stream (stream?_refuse id error found), isLive_stream found]
  split
  next ended => simp [Stream.isLive, Stream.peerAddress?_isSome, ended.2, Stream.fail]
  next => rfl

end Network

namespace Connection

variable {connection : Connection} {world later : World} {event : Event}

/-- A handshake of a connection's own is refused that nobody listens for. -/
def Refusal (connection : Connection) (world : World) (event : Event) : Prop :=
  ∃ role endpoint id error, event = .refuse id error ∧
    connection.endpoint? role = some ⟨.client, endpoint⟩ ∧ endpoint.handle = some id ∧
      ∀ stream, world.network.stream? id = some stream → world.network.listenerAt? stream.there = none

end Connection

namespace Endpoint

variable {endpoint : Endpoint .client} {world : World} {id : SocketId}

theorem live_refuse (sound : world.Sound) (fits : endpoint.Fits world) (id : SocketId) (error : IoError) :
    endpoint.live (world.after (.refuse id error)) = endpoint.live world := by
  cases held : endpoint.handle with
  | none => simp [live, held]
  | some own =>
    obtain ⟨stream, found⟩ := fits.stream sound held
    rw [live, live, held]
    exact Network.isLive_refuse id error found

theorem Settled.refuse (settled : endpoint.Settled world) (sound : world.Sound) (fits : endpoint.Fits world)
    (error : IoError)
    (nobody : ∀ stream, world.network.stream? id = some stream → world.network.listenerAt? stream.there = none) :
    endpoint.Settled (world.after (.refuse id error)) := by
  have live := live_refuse sound fits id error
  have heard := world.network.listenerAt?_refuse id error
  have hopeless : endpoint.Hopeless (world.after (.refuse id error)) ↔ endpoint.Hopeless world := by
    refine forall_congr' fun request => imp_congr_right fun asked => ?_
    obtain ⟨remote, _, rfl⟩ := map_eq_ok asked
    exact or_congr_right (iff_of_eq (congrArg (· = none) (heard remote)))
  cases settled with
  | unset unset => exact .unset unset
  | up up => exact .up (live.trans up)
  | down down none => exact .down (live.trans down) (hopeless.mpr none)
  | waiting connecting hope =>
    refine .waiting ?_ (mt hopeless.mp hope)
    rw [← connecting]
    refine underWay_of_stream? fun own held => ?_
    obtain ⟨request, asked, owned⟩ := fits.own? sound held
    obtain ⟨remote, _, rfl⟩ := map_eq_ok asked
    obtain ⟨stream, found, there, _⟩ := Network.own?_stream owned
    -- Somebody listens where this one dials, so that it is another that is refused.
    have another : id ≠ own := by
      rintro rfl
      refine hope fun other askedToo => ?_
      rw [asked] at askedToo
      cases askedToo
      exact .inr (there ▸ nobody stream found)
    rw [show world.network.stream? own = some stream from found]
    refine (Network.stream?_refuse id error found).trans ?_
    rw [if_neg fun both => another both.1]

end Endpoint

namespace Connection

variable {connection : Connection} {world later : World} {event : Event}

/-- Nothing has happened to a connection that a poll could find. -/
structure Unmoved (connection : Connection) (world later : World) : Prop where
  order : connection.InOrder later
  status : connection.statusIn later = connection.statusIn world
  settled : ∀ role, connection.Settled role world → connection.Settled role later
  served : Served 0 connection connection world later

theorem Unmoved.refl (order : connection.InOrder world) : connection.Unmoved world world :=
  ⟨order, rfl, fun _ settled => settled, .refl connection world⟩

theorem Unmoved.trans {middle : World} (first : connection.Unmoved world middle)
    (second : connection.Unmoved middle later) : connection.Unmoved world later :=
  ⟨second.order, second.status.trans first.status, fun role settled => second.settled role (first.settled role settled),
    first.served.trans second.served⟩

theorem Refusal.unmoved (refusal : connection.Refusal world event) (order : connection.InOrder world) :
    connection.Unmoved world (world.after event) := by
  obtain ⟨role, endpoint, id, error, rfl, found, held, nobody⟩ := refusal
  have later : connection.InOrder (world.after (.refuse id error)) := order.of_kept (World.kept_after order.sound _)
  cases connection with
  | rsn data command | udp data | serial data => cases role <;> cases found
  | tcp data command =>
    have fitsData : data.Fits world := order.fits (by simp [endpoints])
    have fitsCommand : command.Fits world := order.fits (by simp [endpoints])
    have liveData := Endpoint.live_refuse order.sound fitsData id error
    have liveCommand := Endpoint.live_refuse order.sound fitsCommand id error
    refine ⟨later, ?_, fun asked settled => ?_, .of_deaf rfl rfl rfl rfl⟩
    · rw [statusIn, statusIn, live_of_endpoint? rfl, live_of_endpoint? rfl, live_of_endpoint? rfl, live_of_endpoint? rfl,
        liveData, liveCommand]
      rfl
    · intro transport own foundOwn
      cases asked with
      | data =>
        cases foundOwn
        exact (settled rfl).refuse order.sound fitsData error nobody
      | command =>
        cases foundOwn
        exact (settled rfl).refuse order.sound fitsCommand error nobody

theorem Refusal.after {other : Event} (refusal : connection.Refusal world event) (first : connection.Refusal world other) :
    connection.Refusal (world.after other) event := by
  obtain ⟨role, endpoint, id, error, rfl, found, held, nobody⟩ := refusal
  obtain ⟨_, _, gone, why, rfl, _⟩ := first
  refine ⟨role, endpoint, id, error, rfl, found, held, fun stream there => ?_⟩
  have reached := world.network.listenerAt?_refuse gone why stream.there
  refine Eq.trans reached ?_
  cases before : world.network.stream? id with
  | none =>
    have absent : (world.after (.refuse gone why)).network.stream? id = none := by
      refine (Network.stream?_mapStream ..).trans ?_
      rw [before]
      split <;> rfl
    rw [absent] at there
    cases there
  | some was =>
    have shown : (world.after (.refuse gone why)).network.stream? id = _ := Network.stream?_refuse gone why before
    rw [there] at shown
    have same : stream.there = was.there := by
      rw [Option.some.inj shown]
      split <;> rfl
    rw [same]
    exact nobody was before

theorem unmoved_afterAll (order : connection.InOrder world) {events : List Event}
    (quiet : ∀ event ∈ events, connection.Refusal world event) : connection.Unmoved world (world.afterAll events) := by
  induction events generalizing world with
  | nil => exact .refl order
  | cons first rest ih =>
    have refused := quiet first (List.mem_cons_self ..)
    have moved := refused.unmoved order
    exact moved.trans (ih moved.order fun event member => (quiet event (List.mem_cons_of_mem _ member)).after refused)

end Connection

namespace Agent

open Connection

def pollAfter (events : List Event) (state : Agent × World) : (Agent × Status) × World :=
  state.1.poll.result (state.2.afterAll events)

def afterPolls (between : Nat → List Event) (start : Agent × World) : Nat → Agent × World
  | 0 => start
  | count + 1 =>
    let polled := pollAfter (between count) (afterPolls between start count)
    (polled.1.1, polled.2)

/-- Nothing happens before each of the polls but refusals of the agent's own handshakes that nobody listens for. -/
def Quiet (between : Nat → List Event) (start : Agent × World) : Prop :=
  ∀ count, ∀ event ∈ between count,
    (afterPolls between start count).1.connection.Refusal (afterPolls between start count).2 event

variable {agent : Agent} {world : World}

/-- Both roles are settled, nobody waits, and the status is the one that the last poll has returned. -/
structure Calm (agent : Agent) (world : World) : Prop where
  order : agent.connection.InOrder world
  settled : ∀ role, agent.connection.Settled role world
  nobody : agent.connection.waiting world = 0
  remembered : agent.lastStatus = some (agent.connection.statusIn world)

theorem statusIn_poll_of_settled (order : agent.connection.InOrder world)
    (settled : ∀ role, agent.connection.Settled role world) (nobody : agent.connection.waiting world = 0) :
    (agent.poll.result world).1.1.connection.statusIn (agent.poll.result world).2 = agent.connection.statusIn world := by
  have polled := poll_polled order
  have kind : (agent.poll.result world).1.1.connection.kind = agent.connection.kind := kind_perform order .poll
  have configured := isConfigured_of_settings (settings_poll order)
  rw [statusIn, statusIn, kind, configured, configured, polled.live settled, polled.live settled,
    polled.served.attached nobody]

theorem Calm.poll (calm : Calm agent world) {events : List Event}
    (quiet : ∀ event ∈ events, agent.connection.Refusal world event) :
    let later := world.afterAll events
    let polled := agent.poll.result later
    Calm polled.1.1 polled.2 ∧ polled.1.2 = agent.connection.statusIn world ∧
      polled.1.1.connection.statusIn polled.2 = agent.connection.statusIn world ∧
      polled.2.Gained later.log [] ∧ polled.2.peersTaken = later.peersTaken := by
  intro later polled
  have moved := unmoved_afterAll calm.order quiet
  have settled := fun role => moved.settled role (calm.settled role)
  have nobody : agent.connection.waiting later = 0 := by rw [moved.served.waiting, calm.nobody]
  have result := poll_polled moved.order
  have still := (statusIn_poll_of_settled moved.order settled nobody).trans moved.status
  have returned : polled.1.2 = agent.connection.statusIn world := result.status.trans still
  have gained := gained_poll moved.order (.refl later)
  rw [calm.remembered, show (agent.poll.result later).1.2 = _ from returned, if_pos rfl] at gained
  refine ⟨?_, returned, still, gained, result.served.taken nobody⟩
  exact {
    order := poll_inOrder moved.order
    settled := result.settled
    nobody := by rw [result.served.waiting, nobody]
    remembered := by rw [lastStatus_poll, result.status] }

/-- As many have been served as there were polls, and since the first poll both roles are settled. -/
theorem afterPolls_spec {start : Agent × World} (order : start.1.connection.InOrder start.2)
    {between : Nat → List Event} (quiet : Quiet between start) (count : Nat) :
    let state := afterPolls between start count
    state.1.connection.InOrder state.2 ∧
      state.1.connection.waiting state.2 = start.1.connection.waiting start.2 - count ∧
      (0 < count → (∀ role, state.1.connection.Settled role state.2) ∧
        state.1.lastStatus = some (state.1.connection.statusIn state.2)) := by
  induction count with
  | zero => exact ⟨order, rfl, fun none => absurd none (Nat.lt_irrefl 0)⟩
  | succ count ih =>
    obtain ⟨before, served, _⟩ := ih
    have moved := unmoved_afterAll before (quiet count)
    have polled := poll_polled moved.order
    refine ⟨poll_inOrder moved.order, ?_, fun _ => ⟨polled.settled, ?_⟩⟩
    · refine polled.served.waiting.trans ?_
      rw [moved.served.waiting, served, Nat.sub_zero, Nat.sub_sub]
    · exact (lastStatus_poll ..).trans (congrArg some polled.status)

/-- From the poll on that has served the last one who waited, every state between the polls is calm and shows the same. -/
theorem calm_afterPolls {start : Agent × World} (order : start.1.connection.InOrder start.2)
    {between : Nat → List Event} (quiet : Quiet between start) {settled count : Nat} (later : settled ≤ count)
    (first : 0 < settled) (served : start.1.connection.waiting start.2 ≤ settled) :
    let state := afterPolls between start count
    Calm state.1 state.2 ∧ state.1.connection.statusIn state.2 =
      (afterPolls between start settled).1.connection.statusIn (afterPolls between start settled).2 := by
  induction count, later using Nat.le_induction with
  | base =>
    obtain ⟨inOrder, waiting, settles⟩ := afterPolls_spec order quiet settled
    obtain ⟨settledRoles, remembered⟩ := settles first
    exact ⟨⟨inOrder, settledRoles, waiting.trans (Nat.sub_eq_zero_of_le served), remembered⟩, rfl⟩
  | succ count later ih =>
    obtain ⟨calm, same⟩ := ih
    obtain ⟨calmNext, _, still, _⟩ := calm.poll (quiet count)
    exact ⟨calmNext, still.trans same⟩

end Agent

/-- Whatever has happened, let nothing happen from now on but polls, and before each of them refusals of the agent's own
handshakes that nobody listens for. With the poll that serves the last one who waits, or with the first where nobody
waits, the agent has settled: this poll and all that follow return the same status, and those that follow tell of no
transition, take no peer, and leave what a connected role holds as it is. -/
theorem polling_settles {start : Agent × World} (reached : Reachable start.1 start.2) {between : Nat → List Event}
    (quiet : Agent.Quiet between start) :
    let settled := max (start.1.connection.waiting start.2) 1
    ∃ status, ∀ count, settled ≤ count + 1 →
      let before := Agent.afterPolls between start count
      let polled := Agent.pollAfter (between count) before
      polled.1.2 = status ∧
      (settled ≤ count →
        let now := before.2.afterAll (between count)
        polled.2.Gained now.log [] ∧ polled.2.peersTaken = now.peersTaken ∧
        ∀ role, ((before.1.connection.isConnected role).result now).1 = true →
          polled.1.1.connection.thing? role = before.1.connection.thing? role) := by
  intro settled
  have order := inOrder_of_reachable reached
  have first : 0 < settled := Nat.lt_of_lt_of_le Nat.zero_lt_one (Nat.le_max_right ..)
  have served : start.1.connection.waiting start.2 ≤ settled := Nat.le_max_left ..
  let calmly := Agent.afterPolls between start settled
  refine ⟨calmly.1.connection.statusIn calmly.2, fun count late => ?_⟩
  intro before polled
  obtain ⟨inOrder, _, _⟩ := Agent.afterPolls_spec order quiet count
  have moved := Connection.unmoved_afterAll inOrder (quiet count)
  rcases Nat.lt_or_ge count settled with early | late
  · have last : count + 1 = settled := by omega
    refine ⟨?_, fun impossible => absurd early (Nat.not_lt_of_ge impossible)⟩
    have returned := (Agent.poll_polled moved.order).status
    rw [show calmly = (polled.1.1, polled.2) from congrArg _ last.symm]
    exact returned
  · obtain ⟨calm, same⟩ := Agent.calm_afterPolls order quiet late first served
    obtain ⟨_, returned, _, gained, taken⟩ := calm.poll (quiet count)
    refine ⟨returned.trans same, fun _ => ⟨gained, taken, fun role up => ?_⟩⟩
    rw [Connection.isConnected_result moved.order.sound.network] at up
    exact Connection.thing?_of_asides (Agent.undisturbed_poll moved.order up).asides

def twoWaiting : Agent × World :=
  (Agent.performAll [.poll, .event (.dial ⟨.v4 .localhost, 5001⟩), .event (.dial ⟨.v4 .localhost, 5001⟩)]
    (.ofConnection (.ofSettings (.rsn ⟨"", 5001, "", 0⟩)))).result (World.ofRoutes .loopback)

theorem reachable_twoWaiting : Reachable twoWaiting.1 twoWaiting.2 :=
  Reachable.performAll (.start (.ofRoutes .loopback) _) _

/-- From the second poll on every poll returns that its peer is attached. -/
theorem polling_settles_twoWaiting :
    twoWaiting.1.connection.waiting twoWaiting.2 = 2 ∧
      ∀ count, 1 ≤ count → (Agent.pollAfter [] (Agent.afterPolls (fun _ => []) twoWaiting count)).1.2 =
        ⟨⟨true, true, true⟩, ⟨false, false, false⟩, some true⟩ := by
  have waiting : twoWaiting.1.connection.waiting twoWaiting.2 = 2 := by decide +kernel
  have quiet : Agent.Quiet (fun _ => []) twoWaiting := fun _ _ member => by cases member
  obtain ⟨status, settles⟩ := polling_settles reachable_twoWaiting quiet
  rw [waiting] at settles
  have second : (Agent.pollAfter [] (Agent.afterPolls (fun _ => []) twoWaiting 1)).1.2 =
      ⟨⟨true, true, true⟩, ⟨false, false, false⟩, some true⟩ := by
    decide +kernel
  have same := (settles 1 (Nat.le_refl 2)).1.symm.trans second
  refine ⟨waiting, fun count late => ?_⟩
  rw [← same]
  exact (settles count (Nat.succ_le_succ late)).1

end InstrumentLink
