import InstrumentLink.Address.IPv6
import InstrumentLink.Failure

/-!
Socket addresses, hosts with ports as they stand in the settings, and the way from one to the other. A host that
is an address in its usual form means that address whatever the system's names say; `resolve_port` says that
an answer always has the port asked for.
-/

namespace InstrumentLink

inductive IpAddress where
  | v4 (ip : IPv4)
  /-- With the number of the link it is good for, 0 for any. -/
  | v6 (ip : IPv6) (scope : UInt32)
  deriving DecidableEq, Repr

namespace IpAddress

/-- An IPv6 address that stands for an IPv4 address is that address. -/
def plain : IpAddress → IpAddress
  | v4 ip => v4 ip
  | v6 ip scope => (ip.mapped?.map v4).getD (v6 ip scope)

def shownTo : IpAddress → IpAddress → IpAddress
  | v4 _, ip => ip.plain
  | v6 _ _, v4 ip => v6 (.mapped ip) 0
  | v6 _ _, v6 ip scope => v6 ip scope

/-- Where a connection to an address goes. All bits clear stand for the machine itself. -/
def destination (ip : IpAddress) : IpAddress :=
  match ip.plain with
  | v4 ip => v4 (if ip = .any then .localhost else ip)
  | v6 ip scope => if ip = .any then v6 .localhost 0 else v6 ip scope

/-- Whether who is bound to an address is bound to another one as well. All bits clear stand for every address of their
kind, and in IPv6 for those of IPv4 too. -/
def covers (bound ip : IpAddress) : Bool :=
  match bound.plain, ip.plain with
  | v4 bound, v4 ip => bound = .any || bound = ip
  | v4 _, v6 _ _ => false
  | v6 bound _, v4 _ => bound = .any
  | v6 bound link, v6 ip scope => bound = .any || bound = ip && (link = scope || !ip.isLinkLocal)

end IpAddress

structure SocketAddress where
  ip : IpAddress
  port : UInt16
  deriving DecidableEq, Repr

namespace SocketAddress

def text (address : SocketAddress) : String :=
  match address.ip with
  | .v4 ip => ip.text ++ ":" ++ toString address.port.toNat
  | .v6 ip scope =>
    let link := if scope = 0 then "" else "%" ++ toString scope.toNat
    "[" ++ ip.text ++ link ++ "]:" ++ toString address.port.toNat

def shownTo (viewer address : SocketAddress) : SocketAddress := ⟨viewer.ip.shownTo address.ip, address.port⟩

/-- Two addresses that only sockets can have that share them. -/
def clashes (a b : SocketAddress) : Bool := a.port = b.port && (a.ip.covers b.ip || b.ip.covers a.ip)

/-- Whether a connection to an address comes to who listens on a bound one. -/
def hears (bound remote : SocketAddress) : Bool := bound.port = remote.port && bound.ip.covers remote.ip.destination

end SocketAddress

abbrev HostNames := String → Option IpAddress

/-- An address in its usual form, with nothing around it. -/
def IpAddress.ofLiteral? (host : String) : Option IpAddress :=
  ((IPv4.read? host.toList).map .v4).or ((IPv6.read? host.toList).map (.v6 · 0))

def links : List (String × UInt32) := [("lo", 1)]

/-- A link by name, where the address is good on one link only, or by number. -/
def readScope? (ip : IPv6) (text : List Char) : Option UInt32 :=
  (if ip.isLinkLocal then links.lookup (String.ofList text) else none).or
    ((readNatUpTo? 10 0xffffffff text).map .ofNat)

def IpAddress.ofScoped? (host : List Char) : Option IpAddress :=
  match host.dropWhile (· ≠ '%') with
  | '%' :: scope => do
    let ip ← IPv6.read? (host.takeWhile (· ≠ '%'))
    return .v6 ip (← readScope? ip scope)
  | _ => none

def numericHosts : HostNames := fun host =>
  ((IPv4.readLoose? host.toList).map .v4).or (IpAddress.ofScoped? host.toList)

/-- Tries the literal forms before it asks the system. -/
def resolve (names : HostNames) (host : String) (port : UInt16) : Except Failure SocketAddress :=
  match (IpAddress.ofLiteral? host).or (names host) with
  | some ip => .ok ⟨ip, port⟩
  | none => .error (.resolve host port)

/-- A host and a port as they stand in the settings; an empty host and a port of 0 are not set. -/
structure HostPort where
  host : String
  port : UInt16
  deriving DecidableEq, Repr

namespace HostPort

def unset : HostPort := ⟨"", 0⟩

def hasHost (address : HostPort) : Bool := address.host ≠ ""

def hasPort (address : HostPort) : Bool := address.port ≠ 0

def withHost (host : String) (address : HostPort) : HostPort := { address with host }

def withPort (port : UInt16) (address : HostPort) : HostPort := { address with port }

def text (address : HostPort) : String :=
  address.host ++ ":" ++ toString address.port.toNat

end HostPort

theorem resolve_port {names : HostNames} {host : String} {port : UInt16} {address : SocketAddress}
    (h : resolve names host port = .ok address) : address.port = port := by
  unfold resolve at h
  split at h <;> simp_all
  exact h ▸ rfl

end InstrumentLink
