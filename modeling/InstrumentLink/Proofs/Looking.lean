import InstrumentLink.Proofs.Likeness
import InstrumentLink.Proofs.Source
import InstrumentLink.Proofs.Transitions

/-!
Looking changes nothing. An agent may be asked at any time whether a role is set or up, what it lends out, for its status, or
for its peer, and as often as one likes: every later move gives the same reply, and what is said, opened, taken and closed is
the same as if nobody had looked. A look may take the error of a peer that is gone, which nobody asks for; it never takes the
error of a handshake that failed, which the next attempt tells.
-/

namespace InstrumentLink

inductive Look where
  | configured (role : Role)
  | initialized (role : Role)
  | connected (role : Role)
  | endpoint (role : Role)
  /-- What a role lends out. -/
  | object (role : Role)
  /-- What the endpoint behind a role lends out. -/
  | handle (role : Role)
  | snapshot
  | status
  | peer
  | peerConnected

namespace Connection

/-- Has a look. What is set is read off the connection; the rest is seen by asking for it. -/
def look (look : Look) (connection : Connection) : Act Unit :=
  match look with
  | .configured _ | .initialized _ | .endpoint _ | .snapshot => return
  | .connected role => do
    let _ ← connection.isConnected role
  | .object role => do
    let _ ← connection.channel? role
  | .handle role =>
    match connection.endpoint? role with
    | none => return
    | some ⟨_, endpoint⟩ => do
      let _ ← endpoint.lend
  | .status => do
    let _ ← connection.status
  | .peer =>
    match connection.listener? with
    | none => return
    | some listener => do
      let _ ← listener.livePeer?
  | .peerConnected =>
    match connection.listener? with
    | none => return
    | some listener => do
      let _ ← listener.hasLivePeer

end Connection

inductive Reply where
  | done
  | report (report : Report)
  | status (status : Status)
  | connected (connected : Bool)
  | lent (channel : Option Channel)
  | received (received : Received)
  | sent (sent : Bool)
  | peer (peer : Option SocketId)
  | taken (taken : Except IoError (Option SocketAddress))
  | hungUp (hungUp : Bool)

/-- A reply, whether or not the error of a dead stream was still to be told to one who reads. -/
def Reply.seen : Reply → Reply
  | received got => received got.seen
  | reply => reply

namespace Agent

def askListener (act : Listener → Act (Listener × Reply)) (agent : Agent) : Act (Agent × Reply) :=
  match agent.connection.listener? with
  | none => return (agent, .done)
  | some listener => do
    let (listener, reply) ← act listener
    return ({ agent with connection := agent.connection.withListener listener }, reply)

def answer (move : Move) (agent : Agent) : Act (Agent × Reply) :=
  match move with
  | .change change => do return ({ agent with connection := ← agent.connection.apply change }, .done)
  | .override options => do return ({ agent with connection := ← agent.connection.applyAll options.changes }, .done)
  | .establish => do
    let (connection, report) ← agent.connection.establish
    return ({ agent with connection }, .report report)
  | .poll => do
    let (agent, status) ← agent.poll
    return (agent, .status status)
  | .disconnect role => do return ({ agent with connection := ← agent.connection.disconnect role }, .done)
  | .askStatus => do return (agent, .status (← agent.connection.status))
  | .askConnected role => do return (agent, .connected (← agent.connection.isConnected role))
  | .lend role => do return (agent, .lent (← agent.connection.channel? role))
  | .read role count => do return (agent, .received (← agent.read role count))
  | .write role bytes => do
    match ← agent.connection.channel? role with
    | none => return (agent, .sent false)
    | some channel => return (agent, .sent (← channel.write bytes))
  | .askPeer => agent.askListener fun listener => do return (listener, .peer (← listener.livePeer?))
  | .acceptPeer => agent.askListener fun listener => do
    let (listener, taken) ← listener.acceptPeer
    return (listener, .taken taken)
  | .releasePeer => agent.askListener fun listener => do
    let (listener, hungUp) ← listener.releaseClosedPeer
    return (listener, .hungUp hungUp)
  | .dropPeer => agent.askListener fun listener => do return (← listener.dropPeer, .done)
  | .event event => do
    modify (·.after event)
    return (agent, .done)

theorem perform_eq_answer (agent : Agent) (move : Move) (world : World) :
    (agent.perform move).result world = (((agent.answer move).result world).1.1, ((agent.answer move).result world).2) := by
  have listener : ∀ (act : Listener → Act Listener) (ask : Listener → Act (Listener × Reply)),
      (∀ listener world, (act listener).result world =
        (((ask listener).result world).1.1, ((ask listener).result world).2)) →
      (agent.onListener act).result world =
        (((agent.askListener ask).result world).1.1, ((agent.askListener ask).result world).2) := by
    intro act ask same
    unfold onListener askListener
    cases agent.connection.listener? with
    | none => rfl
    | some held =>
      dsimp only
      rw [Act.result_bind, Act.result_bind, same]
      rfl
  cases move with
  | change _ | override _ | establish | poll | disconnect _ | askStatus | askConnected _ | lend _ | event _ => rfl
  | read role count => exact perform_read_eq agent role count world
  | write role bytes =>
    rw [perform, answer, Act.result_bind, Act.result_bind]
    generalize (agent.connection.channel? role).result world = lent
    obtain ⟨_ | channel, later⟩ := lent <;> rfl
  | askPeer | acceptPeer | releasePeer | dropPeer => exact listener _ _ fun _ _ => rfl

end Agent

inductive Call where
  | move (move : Move)
  | look (look : Look)

namespace Call

def isMove : Call → Bool
  | move _ => true
  | look _ => false

@[simp]
theorem filter_isMove_move (first : Move) (rest : List Call) :
    (move first :: rest).filter isMove = move first :: rest.filter isMove := rfl

@[simp]
theorem filter_isMove_look (first : Look) (rest : List Call) :
    (look first :: rest).filter isMove = rest.filter isMove := rfl

end Call

namespace Agent

def answerAll : List Call → Agent → Act (Agent × List Reply)
  | [], agent => return (agent, [])
  | .move move :: rest, agent => do
    let (agent, reply) ← agent.answer move
    let (agent, replies) ← answerAll rest agent
    return (agent, reply :: replies)
  | .look look :: rest, agent => do
    agent.connection.look look
    answerAll rest agent

end Agent

namespace Connection

variable {connection : Connection} {world : World}

theorem lend_world {transport : Transport} (sound : world.network.Sound) (endpoint : Endpoint transport) :
    (endpoint.lend.result world).2 = world := by
  unfold Endpoint.lend
  split
  · rfl
  · split
    · rw [Act.result_bind, transport.isUsable_result sound]
      rfl
    · rfl

theorem look_world (order : connection.InOrder world) (look : Look) :
    ((connection.look look).result world).2 = world ∨
      connection.kind = .rsn ∧ ∃ peer, ((connection.look look).result world).2 = ((Act.isOver peer).result world).2 := by
  have peeks : ∀ listener : Listener, (listener.livePeer?.result world).2 = world ∨
      ∃ peer, (listener.livePeer?.result world).2 = ((Act.isOver peer).result world).2 := by
    rintro ⟨socket, _ | peer⟩
    · exact .inl rfl
    · exact .inr ⟨peer, rfl⟩
  -- Only an agent that listens looks at anybody, and only at its peer.
  cases look with
  | configured _ | initialized _ | endpoint _ | snapshot => exact .inl rfl
  | connected role =>
    left
    rw [Connection.look, Act.result_bind, isConnected_result order.sound.network]
    rfl
  | object role =>
    left
    rw [Connection.look, Act.result_bind, channel?_result order.sound.network]
    rfl
  | handle role =>
    left
    unfold Connection.look
    dsimp only
    split
    · rfl
    next endpoint _ => exact lend_world order.sound.network endpoint
  | status =>
    change (connection.status.result world).2 = world ∨ _ ∧ ∃ peer, (connection.status.result world).2 = _
    rw [order.world_status]
    cases connection with
    | rsn data command =>
      obtain ⟨target, _ | listener⟩ := data
      · exact .inl rfl
      · exact (peeks listener).imp_right fun peeked => ⟨rfl, peeked⟩
    | tcp data command | udp data | serial data => exact .inl rfl
  | peer | peerConnected =>
    cases connection with
    | rsn data command =>
      obtain ⟨target, _ | listener⟩ := data
      · exact .inl rfl
      · exact (peeks listener).imp_right fun peeked => ⟨rfl, peeked⟩
    | tcp data command | udp data | serial data => exact .inl rfl

end Connection

/-! ### Worlds that are alike stay alike -/

namespace Connection

variable {connection : Connection} {world later : World}

theorem kind_takePeer (connection : Connection) (world : World) :
    ((Agent.takePeer connection).result world).1.kind = connection.kind := by
  have put : ∀ listener, (connection.withListener listener).kind = connection.kind := by
    intro listener
    cases connection <;> rfl
  rw [Agent.takePeer, Act.result_bind]
  split
  · rfl
  next listener _ =>
    simp only [Act.result_bind]
    split
    · exact put _
    · exact put _

theorem establish_like (listens : connection.kind = .rsn) (order : connection.InOrder world)
    (orderToo : connection.InOrder later) (like : world.Like later) :
    (connection.establish.result later).1 = (connection.establish.result world).1 ∧
      (connection.establish.result world).2.Like (connection.establish.result later).2 := by
  obtain ⟨⟨target, handle⟩, command, rfl⟩ := eq_rsn_of_kind listens
  cases handle with
  | none => exact Act.Blind.establish_bare target command like
  | some listener =>
    have one : (rsn ⟨target, some listener⟩ command).establish.result world = _ := establish_listening order
    have two : (rsn ⟨target, some listener⟩ command).establish.result later = _ := establish_listening orderToo
    rw [one, two]
    exact ⟨rfl, like⟩

end Connection

namespace Agent

open Connection

variable {agent : Agent} {world later : World}

theorem poll_like (listens : agent.connection.kind = .rsn) (order : agent.connection.InOrder world)
    (orderToo : agent.connection.InOrder later) (like : world.Like later) :
    (agent.poll.result later).1 = (agent.poll.result world).1 ∧
      (agent.poll.result world).2.Like (agent.poll.result later).2 := by
  have established := establish_like listens order orderToo like
  have listensEstablished : (agent.connection.establish.result world).1.1.kind = .rsn := by
    rw [← kind_settings, settings_establish order, kind_settings, listens]
  rw [poll_eq, poll_eq]
  generalize agent.connection.establish.result world = one at established listensEstablished ⊢
  generalize agent.connection.establish.result later = two at established ⊢
  obtain ⟨⟨connection, report⟩, middle⟩ := one
  obtain ⟨_, middleToo⟩ := two
  obtain ⟨rfl, alike⟩ := established
  dsimp only at alike listensEstablished ⊢
  have listensTaken := (kind_takePeer connection (middle.tell (pendingLines report))).trans listensEstablished
  obtain ⟨sameTaken, alikeTaken⟩ := Act.Blind.takePeer listensEstablished (alike.tell (pendingLines report))
  rw [sameTaken]
  obtain ⟨sameAsked, alikeAsked⟩ := Act.Blind.status listensTaken alikeTaken
  rw [sameAsked]
  exact ⟨rfl, alikeAsked.tell _⟩

theorem askListener_blind {act : Listener → Act (Listener × Reply)} (blind : ∀ listener, (act listener).Blind) :
    (agent.askListener act).Blind := by
  unfold askListener
  split
  · exact .pure _
  · exact .bind (blind _) fun _ => .pure _

theorem answer_like (listens : agent.connection.kind = .rsn) (order : agent.connection.InOrder world)
    (orderToo : agent.connection.InOrder later) (like : world.Like later) (move : Move) :
    ((agent.answer move).result later).1.1 = ((agent.answer move).result world).1.1 ∧
      ((agent.answer move).result later).1.2.seen = ((agent.answer move).result world).1.2.seen ∧
      ((agent.answer move).result world).2.Like ((agent.answer move).result later).2 := by
  have ofBlind : (agent.answer move).Blind → ((agent.answer move).result later).1.1 =
      ((agent.answer move).result world).1.1 ∧ ((agent.answer move).result later).1.2.seen =
      ((agent.answer move).result world).1.2.seen ∧
      ((agent.answer move).result world).2.Like ((agent.answer move).result later).2 := by
    intro blind
    obtain ⟨same, alike⟩ := blind like
    exact ⟨congrArg Prod.fst same, congrArg (Reply.seen ∘ Prod.snd) same, alike⟩
  -- Most moves are blind to what differs; attempts, polls and reads are not, and have lemmas of their own.
  cases move with
  | change change => exact ofBlind (.bind (.apply listens change) fun _ => .pure _)
  | override options => exact ofBlind (.bind (.applyAll listens options.changes) fun _ => .pure _)
  | establish =>
    obtain ⟨same, alike⟩ := establish_like listens order orderToo like
    rw [answer, Act.result_bind, Act.result_bind, same]
    exact ⟨rfl, rfl, alike⟩
  | poll =>
    obtain ⟨same, alike⟩ := poll_like listens order orderToo like
    rw [answer, Act.result_bind, Act.result_bind, same]
    exact ⟨rfl, rfl, alike⟩
  | disconnect role => exact ofBlind (.bind (.connection_disconnect listens role) fun _ => .pure _)
  | askStatus => exact ofBlind (.bind (.status listens) fun _ => .pure _)
  | askConnected role => exact ofBlind (.bind (.connection_isConnected listens role) fun _ => .pure _)
  | lend role => exact ofBlind (.bind (.channel? listens role) fun _ => .pure _)
  | read role count =>
    obtain ⟨same, alike⟩ := Act.Blind.channel? listens role like
    simp only [answer, read, Act.result_bind, same]
    cases ((agent.connection.channel? role).result world).1 with
    | none => exact ⟨rfl, rfl, alike⟩
    | some channel =>
      obtain ⟨seen, alikeToo⟩ := channel.read_like alike count
      exact ⟨rfl, congrArg Reply.received seen, alikeToo⟩
  | write role bytes =>
    refine ofBlind (.bind (.channel? listens role) fun lent => ?_)
    cases lent with
    | none => exact .pure _
    | some channel => exact .bind (.write bytes channel) fun _ => .pure _
  | askPeer => exact ofBlind (askListener_blind fun listener => .bind (.livePeer? listener) fun _ => .pure _)
  | acceptPeer => exact ofBlind (askListener_blind fun listener => .bind (.acceptPeer listener) fun _ => .pure _)
  | releasePeer =>
    exact ofBlind (askListener_blind fun listener => .bind (.releaseClosedPeer listener) fun _ => .pure _)
  | dropPeer => exact ofBlind (askListener_blind fun listener => .bind (.dropPeer listener) fun _ => .pure _)
  | event event => exact ⟨rfl, rfl, like.after event⟩

end Agent

/-! ### A run with looks, and the same run without -/

theorem Agent.answerAll_of_unheard {agent : Agent} {world : World} (order : agent.connection.InOrder world)
    (unheard : agent.connection.kind ≠ .rsn) (calls : List Call) :
    (agent.answerAll calls).result world = (agent.answerAll (calls.filter Call.isMove)).result world ∧
      ((agent.answerAll calls).result world).2.Sound := by
  induction calls generalizing agent world with
  | nil => exact ⟨rfl, order.sound⟩
  | cons call rest ih =>
    cases call with
    | look look =>
      have unseen := (Connection.look_world order look).resolve_right fun peeked => unheard peeked.1
      rw [Call.filter_isMove_look, answerAll, Act.result_bind, unseen]
      exact ih order unheard
    | move move =>
      have orderAfter := inOrder_perform order move
      have kind := kind_perform order move
      rw [perform_eq_answer] at orderAfter kind
      obtain ⟨same, sound⟩ := ih orderAfter (kind ▸ unheard)
      simp only [Call.filter_isMove_move, answerAll, Act.result_bind]
      rw [← same]
      exact ⟨rfl, sound⟩

/-- One agent that listens in two worlds, in the second of which somebody has looked. -/
structure Agent.Abreast (agent : Agent) (plain looked : World) : Prop where
  listens : agent.connection.kind = .rsn
  order : agent.connection.InOrder plain
  orderToo : agent.connection.InOrder looked
  like : plain.Like looked

namespace Agent.Abreast

variable {agent : Agent} {plain looked : World}

theorem look (abreast : agent.Abreast plain looked) (look : Look) :
    agent.Abreast plain ((agent.connection.look look).result looked).2 := by
  obtain ⟨listens, order, orderToo, like⟩ := abreast
  rcases Connection.look_world orderToo look with unseen | ⟨_, peer, peeked⟩
  · rw [unseen]
    exact ⟨listens, order, orderToo, like⟩
  · rw [peeked]
    exact ⟨listens, order, orderToo.of_kept (Act.isOver_kept orderToo.sound peer), like.network.peek peer, like.devices,
      like.log, like.journal⟩

theorem move (abreast : agent.Abreast plain looked) (move : Move) :
    ((agent.answer move).result looked).1.1 = ((agent.answer move).result plain).1.1 ∧
      ((agent.answer move).result looked).1.2.seen = ((agent.answer move).result plain).1.2.seen ∧
      ((agent.answer move).result plain).1.1.Abreast ((agent.answer move).result plain).2
        ((agent.answer move).result looked).2 := by
  have kind := kind_perform abreast.order move
  have order := inOrder_perform abreast.order move
  have orderToo := inOrder_perform abreast.orderToo move
  rw [perform_eq_answer] at kind order orderToo
  obtain ⟨agrees, replies, alike⟩ := answer_like abreast.listens abreast.order abreast.orderToo abreast.like move
  exact ⟨agrees, replies, kind.trans abreast.listens, order, agrees ▸ orderToo, alike⟩

theorem answerAll (abreast : agent.Abreast plain looked) (calls : List Call) :
    ((agent.answerAll calls).result looked).1.1 = ((agent.answerAll (calls.filter Call.isMove)).result plain).1.1 ∧
      ((agent.answerAll calls).result looked).1.2.map Reply.seen =
        ((agent.answerAll (calls.filter Call.isMove)).result plain).1.2.map Reply.seen ∧
      ((agent.answerAll (calls.filter Call.isMove)).result plain).2.Like ((agent.answerAll calls).result looked).2 := by
  induction calls generalizing agent plain looked with
  | nil => exact ⟨rfl, rfl, abreast.like⟩
  | cons call rest ih =>
    cases call with
    | look look => exact ih (abreast.look look)
    | move move =>
      obtain ⟨agrees, replies, after⟩ := abreast.move move
      obtain ⟨agreesRest, repliesRest, alike⟩ := ih after
      simp only [Call.filter_isMove_move, Agent.answerAll, Act.result_bind, agrees]
      exact ⟨agreesRest, congrArg₂ List.cons replies repliesRest, alike⟩

end Agent.Abreast

/-- Looks change nothing, however many of them stand between the moves of a run and wherever they stand. The agent is the
same, and so are its replies, its log, its journal and the devices; the network is the same but for what streams that are
dead have still to tell to one who reads. Where nobody listens it is the same in full, with the errors of failed handshakes. -/
theorem looking_changes_nothing {agent : Agent} {world : World} (reached : Reachable agent world) (calls : List Call) :
    let looked := (agent.answerAll calls).result world
    let plain := (agent.answerAll (calls.filter Call.isMove)).result world
    looked.1.1 = plain.1.1 ∧ looked.1.2.map Reply.seen = plain.1.2.map Reply.seen ∧
      looked.2.log = plain.2.log ∧ looked.2.journal = plain.2.journal ∧ plain.2.Like looked.2 ∧
      (agent.connection.kind ≠ .rsn → looked = plain) := by
  have order := inOrder_of_reachable reached
  have itself : ∀ world : World, world.Sound → world.Like world := fun _ sound => ⟨sound.network.like, rfl, rfl, rfl⟩
  by_cases listens : agent.connection.kind = .rsn
  · have abreast : agent.Abreast world world := ⟨listens, order, order, itself world order.sound⟩
    obtain ⟨agrees, replies, alike⟩ := abreast.answerAll calls
    exact ⟨agrees, replies, alike.log, alike.journal, alike, fun other => absurd listens other⟩
  · obtain ⟨same, sound⟩ := Agent.answerAll_of_unheard order listens calls
    dsimp only
    rw [← same]
    exact ⟨rfl, rfl, rfl, rfl, itself _ sound, fun _ => rfl⟩

def watchedRefusal : List Call :=
  [.move .establish, .look (.connected .data), .look .status, .move (.event .refuseIdle), .look (.handle .data),
    .look (.object .data), .look (.connected .data), .look .status, .move .establish]

def watchedReset : List Call :=
  [.move .poll, .move (.event (.dial ⟨.v4 .localhost, 5001⟩)), .move .poll, .look .peer, .move (.event (.reset 1)),
    .look .status, .look .peerConnected]

def watchedClient : Agent := .ofConnection (.ofSettings (.tcp ⟨"127.0.0.1", 4001, "", 0⟩))

def watchedListener : Agent := .ofConnection (.ofSettings (.rsn ⟨"", 5001, "", 0⟩))

theorem reachable_watched :
    Reachable watchedClient (.ofRoutes .loopback) ∧ Reachable watchedListener (.ofRoutes .loopback) :=
  ⟨.start (.ofRoutes .loopback) _, .start (.ofRoutes .loopback) _⟩

/-- The next attempt tells why the handshake failed, for all the looks. A look takes the error of a peer, and the next poll says
and does the same without it. -/
theorem looking_changes_nothing_watched :
    ⟨.debug, .transport .client, "tcp client 127.0.0.1:4001: connect failed: Connection refused (os error 111)"⟩ ∈
        ((watchedClient.answerAll watchedRefusal).result (.ofRoutes .loopback)).2.log ∧
      (((watchedListener.answerAll watchedReset).result (.ofRoutes .loopback)).2.network.stream? 2).map Stream.error =
        some none ∧
      (((watchedListener.answerAll (watchedReset.filter Call.isMove)).result (.ofRoutes .loopback)).2.network.stream?
        2).map Stream.error = some (some .connectionReset) ∧
      ⟨.info, .transport .listener, "Peer hung up"⟩ ∈
        ((watchedListener.answerAll (watchedReset ++ [Call.move .poll])).result (.ofRoutes .loopback)).2.log := by
  have why : ⟨.debug, .transport .client,
      "tcp client 127.0.0.1:4001: connect failed: Connection refused (os error 111)"⟩ ∈
      ((watchedClient.answerAll (watchedRefusal.filter Call.isMove)).result (.ofRoutes .loopback)).2.log := by
    decide +kernel
  have gone : ⟨.info, .transport .listener, "Peer hung up"⟩ ∈ ((watchedListener.answerAll
      ((watchedReset ++ [Call.move .poll]).filter Call.isMove)).result (.ofRoutes .loopback)).2.log := by
    decide +kernel
  have told := (looking_changes_nothing reachable_watched.1 watchedRefusal).2.2.1
  have toldToo := (looking_changes_nothing reachable_watched.2 (watchedReset ++ [Call.move .poll])).2.2.1
  rw [← told] at why
  rw [← toldToo] at gone
  exact ⟨why, by decide +kernel, by decide +kernel, gone⟩

end InstrumentLink
