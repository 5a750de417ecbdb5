import InstrumentLink.Kind

/-!
What can be seen of a connection: the state of each role, the status of the whole, and what one attempt to
bring a role up came to.
-/

namespace InstrumentLink

structure RoleState where
  supported : Bool
  configured : Bool
  connected : Bool
  deriving DecidableEq, Repr

/-- A role that is not supported counts as nothing else, and one not configured is never called connected. -/
def RoleState.text (state : RoleState) : String :=
  if !state.supported then "unsupported"
  else if !state.configured then "unconfigured"
  else if state.connected then "connected"
  else "disconnected"

/-- The state of a connection. Only a listener can have a peer. -/
structure Status where
  data : RoleState
  command : RoleState
  peerAttached : Option Bool
  deriving DecidableEq, Repr

namespace Status

def role (status : Status) : Role → RoleState
  | .data => status.data
  | .command => status.command

def peerText : Option Bool → String
  | none => ""
  | some true => ", peer: attached"
  | some false => ", peer: waiting"

def text (status : Status) : String :=
  "data: " ++ status.data.text ++ ", command: " ++ status.command.text ++ peerText status.peerAttached

end Status

inductive Outcome where
  /-- The kind has no such role. -/
  | unsupported
  /-- A field is missing; nothing was tried. -/
  | unconfigured
  /-- It was up before and is left alone. -/
  | alreadyConnected
  /-- It came up now. -/
  | connected
  /-- A handshake is under way. -/
  | pending
  /-- It could not be brought up; the next attempt tries again. -/
  | failed
  deriving DecidableEq, Repr

structure Report where
  data : Outcome
  command : Outcome
  deriving DecidableEq, Repr

def Report.outcome (report : Report) : Role → Outcome
  | .data => report.data
  | .command => report.command

end InstrumentLink
