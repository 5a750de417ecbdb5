import InstrumentLink.Network.Basic

/-!
What one end of a connection shows. Data that has arrived comes first, then the end of the stream, and only then
an error, which is told once; a stream that is dead and has told its error looks ended.
-/

namespace InstrumentLink

inductive Peek where
  | data
  | ended
  | failed (error : IoError)
  | nothing
  deriving DecidableEq, Repr

def Peek.isOver : Peek → Bool
  | .ended | .failed _ => true
  | .data | .nothing => false

inductive Ways where
  | sending
  | both
  deriving DecidableEq, Repr

inductive Received where
  | data (bytes : List UInt8)
  | ended
  | failed (error : IoError)
  | nothing
  deriving DecidableEq, Repr

namespace Stream

def peek (stream : Stream) : Peek :=
  if !stream.inbox.isEmpty then .data
  else if stream.ended then .ended
  else
    match stream.error with
    | some error => .failed error
    | none => if stream.phase = .dead then .ended else .nothing

/-- A look takes nothing away but an error that it shows. -/
def afterPeek (stream : Stream) : Stream :=
  match stream.peek with
  | .failed _ => { stream with error := none }
  | _ => stream

def receive (count : Nat) (stream : Stream) : Received :=
  match stream.peek with
  | .data => .data (stream.inbox.take count)
  | .ended => .ended
  | .failed error => .failed error
  | .nothing => .nothing

def afterReceive (count : Nat) (stream : Stream) : Stream :=
  match stream.peek with
  | .data => { stream with inbox := stream.inbox.drop count }
  | _ => stream.afterPeek

/-- The other end is known once the handshake is done, and until the connection is refused or reset. -/
def peerAddress? (stream : Stream) : Option SocketAddress :=
  if stream.phase = .established then some stream.there else none

def finish (stream : Stream) : Stream := { stream with ended := true }

def fail (error : IoError) (stream : Stream) : Stream :=
  { stream with phase := .dead, error := some error }

/-- The other end breaks the connection. A stream that has seen the end already takes it for a broken pipe. -/
def reset (stream : Stream) : Stream :=
  stream.fail (if stream.ended then .brokenPipe else .connectionReset)

/-- Nothing more is sent, and if both ways are shut, nothing more is read than what has arrived. -/
def shutDown (ways : Ways) (stream : Stream) : Stream :=
  { stream with shut := true, ended := stream.ended || ways = .both }

def arrive (bytes : List UInt8) (stream : Stream) : Stream :=
  { stream with inbox := stream.inbox ++ bytes }

end Stream
end InstrumentLink
