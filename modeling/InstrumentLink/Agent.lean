import InstrumentLink.Connection.Change
import InstrumentLink.Connection.Channel
import InstrumentLink.Status
import InstrumentLink.World.Event

/-!
The agent: a connection that is polled. A poll brings up what is down, takes one waiting peer, and tells the status
when it is another than after the poll before.
-/

namespace InstrumentLink

namespace Connection

/-- Whether a listener has a peer that has not hung up; nothing for a connection that has no listener. -/
def peerAttached : Connection → Act (Option Bool)
  | .rsn ⟨_, some held⟩ _ => do return some (← Listener.hasLivePeer held)
  | .rsn ⟨_, none⟩ _ => return some false
  | _ => return none

def status (connection : Connection) : Act Status := do
  let peerAttached ← connection.peerAttached
  let data ← connection.isConnected .data
  let command ← connection.isConnected .command
  return {
    data := ⟨connection.kind.supports .data, connection.isConfigured .data, data⟩
    command := ⟨connection.kind.supports .command, connection.isConfigured .command, command⟩
    peerAttached }

end Connection

structure Agent where
  connection : Connection
  /-- The status after the last poll. -/
  lastStatus : Option Status

namespace Agent

def ofConnection (connection : Connection) : Agent := ⟨connection, none⟩

def ofSettings (settings : Settings) : Agent := ofConnection (.ofSettings settings.connection)

def say (level : Level) (text : String) : Act Unit := Act.say level .agent text

def takePeer (connection : Connection) : Act Connection := do
  let channel ← connection.channel? .data
  match channel.bind Channel.listener? with
  | none => return connection
  | some listener =>
    let (listener, _) ← listener.releaseClosedPeer
    let (listener, result) ← listener.acceptPeer
    match result with
    | .ok _ => return connection.withListener listener
    | .error error =>
      say .warn ("Accept on data listener failed: " ++ error.message)
      return connection.withListener listener

def tellPending (report : Report) : Act Unit :=
  Role.all.forM fun role =>
    if report.outcome role = .pending then say .debug (role.name ++ " channel handshake in progress")
    else return

def poll (agent : Agent) : Act (Agent × Status) := do
  let (connection, report) ← agent.connection.establish
  tellPending report
  let connection ← takePeer connection
  let status ← connection.status
  if agent.lastStatus = some status then return (⟨connection, some status⟩, status)
  else
    say .info (connection.kind.name ++ " connection: " ++ status.text)
    return (⟨connection, some status⟩, status)

end Agent

/-- One turn of the loop as the world around it sees it: whether somebody has asked it to stop by the time it
looks, whether somebody asks while it waits for its next tick, and what else happens until it polls. -/
structure Turn where
  stopBefore : Bool
  stopWhileWaiting : Bool
  outside : List Event

def Turn.quiet : Turn := ⟨false, false, []⟩

namespace Agent

def stop (agent : Agent) : Act Unit := do
  say .info "Agent stopped"
  agent.connection.dispose

/-- Polls in every turn until it sees that it has been asked to stop. What remains is the agent that still runs,
or nothing once it has stopped. -/
def run (stopped : Bool) : List Turn → Agent → Act (Option Agent)
  | [], agent => return some agent
  | turn :: rest, agent => do
    let stopped := stopped || turn.stopBefore
    if stopped then
      agent.stop
      return none
    else
      modify (·.afterAll turn.outside)
      let (agent, _) ← agent.poll
      run (stopped || turn.stopWhileWaiting) rest agent

/-- A loop needs a time between its ticks. -/
def run? (interval : UInt64) (turns : List Turn) (agent : Agent) : Option (Act (Option Agent)) :=
  if interval = 0 then none else some (agent.run false turns)

end Agent
end InstrumentLink
