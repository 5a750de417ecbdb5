/-!
The two roles of an instrument connection, the transports that can carry a role, and the four kinds of
connection, which say what carries each role.
-/

namespace InstrumentLink

/-- What a channel is for: streamed data, or commands to the instrument. -/
inductive Role where
  | data
  | command
  deriving DecidableEq, Repr

inductive Transport where
  | client
  | listener
  | udp
  | serial
  deriving DecidableEq, Repr

inductive Kind where
  /-- The instrument dials in. -/
  | rsn
  /-- The agent dials out, once for each role. -/
  | tcp
  /-- Datagrams. -/
  | udp
  /-- A serial line. -/
  | serial
  deriving DecidableEq, Repr

namespace Role

/-- In the order in which they are brought up. -/
def all : List Role := [.data, .command]

def name : Role → String
  | .data => "data"
  | .command => "command"

def other : Role → Role
  | .data => .command
  | .command => .data

end Role

def Transport.name : Transport → String
  | .client => "tcp client"
  | .listener => "tcp listener"
  | .udp => "udp"
  | .serial => "serial"

namespace Kind

def all : List Kind := [.rsn, .tcp, .udp, .serial]

def name : Kind → String
  | .rsn => "rsn"
  | .tcp => "tcp"
  | .udp => "udp"
  | .serial => "serial"

def ofName? (text : String) : Option Kind :=
  all.find? (·.name = text)

def transport? : Kind → Role → Option Transport
  | .rsn, .data => some .listener
  | .tcp, .data => some .client
  | .tcp, .command => some .client
  | .udp, .data => some .udp
  | .serial, .data => some .serial
  | _, .command => none

def supports (kind : Kind) (role : Role) : Bool :=
  (kind.transport? role).isSome

def unknownName (text : String) : String :=
  "unknown variant `" ++ text ++ "`, expected one of `rsn`, `tcp`, `udp`, `serial`"

end Kind
end InstrumentLink
