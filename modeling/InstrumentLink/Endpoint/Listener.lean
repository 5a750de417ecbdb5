import InstrumentLink.Endpoint.Basic

/-!
The peer of a listener. There is at most one; a new one takes the place of the one before.
-/

namespace InstrumentLink
namespace Listener

def say (level : Level) (text : String) : Act Unit := Act.say level (.transport .listener) text

def livePeer? (listener : Listener) : Act (Option SocketId) := do
  match listener.peer with
  | none => return none
  | some peer => return if ← Act.isOver peer then none else some peer

def hasLivePeer (listener : Listener) : Act Bool := do
  return (← listener.livePeer?).isSome

def dropPeer (listener : Listener) : Act Listener := do
  match listener.peer with
  | none => return listener
  | some peer =>
    Act.hangUp peer .both
    return { listener with peer := none }

def releaseClosedPeer (listener : Listener) : Act (Listener × Bool) := do
  let live ← listener.hasLivePeer
  if listener.peer.isNone || live then return (listener, false)
  else
    say .info "Peer hung up"
    return (← listener.dropPeer, true)

/-- Takes the connection that has waited longest, if any, and lets the peer before it go. -/
def acceptPeer (listener : Listener) : Act (Listener × Except IoError (Option SocketAddress)) := do
  match ← Act.accept listener.socket with
  | .error error => return (listener, .error error)
  | .ok none => return (listener, .ok none)
  | .ok (some (peer, address)) =>
    match ← Act.stopWaiting peer with
    | .error error =>
      Act.close peer
      return (listener, .error error)
    | .ok () =>
      if listener.peer.isSome then say .debug ("Replacing previous peer with " ++ address.text)
      let listener ← listener.dropPeer
      say .info ("Accepted peer " ++ address.text)
      return ({ listener with peer := some peer }, .ok (some address))

end Listener
end InstrumentLink
