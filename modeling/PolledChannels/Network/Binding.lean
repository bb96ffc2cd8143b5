import PolledChannels.Network.Basic

/-!
# Binding addresses

Which addresses a socket may take, and when two sockets stand in each other's way. Two sockets
conflict when they ask for one port on addresses that overlap, unless both allow addresses to be
used again and the other does not listen.
-/

namespace PolledChannels.Network

def bindable4 (h : Host) (ip : Ipv4) : Bool :=
  match h with
  | .isolated => true
  | .loopback =>
    ip.a == 0 || ip.isLoopback || (224 ≤ ip.a && ip.a < 240) || ip == ⟨255, 255, 255, 255⟩

def bindable6 (h : Host) (ip : Ipv6) : Bool :=
  match h with
  | .isolated => ip == Ipv6.any
  | .loopback => ip == Ipv6.any || ip == Ipv6.loopback

/-- The port is kept for services of the system. -/
def reservedPort (port : UInt16) : Bool := 0 < port && port < 1024

/-- What stands against a socket taking an address, apart from other sockets: the family, then the
address, then the port. -/
def addressFault? (h : Host) (s : Socket) (e : Endpoint) : Option Errno :=
  match s.ipv6, e with
  | false, .v6 _ _ _ _ => some .familyNotSupported
  | true, .v4 _ _ => some .invalidArgument
  | false, .v4 ip port => fault? (bindable4 h ip) port
  | true, .v6 ip port _ _ => fault? (bindable6 h ip) port
where
  /-- What stands against a port of an address. -/
  fault? (bindable : Bool) (port : UInt16) : Option Errno :=
    if !bindable then some .addressNotAvailable
    else if reservedPort port then some .accessDenied
    else none

/-- The endpoint stands for every interface of its family. -/
def isWildcard (e : Endpoint) : Bool :=
  match e with
  | .v4 ip _ => ip == Ipv4.any
  | .v6 ip _ _ _ => ip == Ipv6.any

/-- The two endpoints share an interface: both are the same address, or one stands for every
interface of both families. -/
def overlap (a b : Endpoint) : Bool :=
  match a, b with
  | .v4 _ _, .v4 _ _ => a.ip == b.ip || isWildcard a || isWildcard b
  | .v6 _ _ _ _, .v6 _ _ _ _ => a.ip == b.ip || isWildcard a || isWildcard b
  | .v6 _ _ _ _, .v4 _ _ => isWildcard a
  | .v4 _ _, .v6 _ _ _ _ => isWildcard b

/-- The other socket stands in the way of a socket that asks for an endpoint. -/
def conflicts (s : Socket) (e : Endpoint) (other : Socket) : Bool :=
  match other.address with
  | none => false
  | some taken =>
    other.holdsPort && taken.port == e.port && overlap e taken &&
      !(s.settings.reuseAddress && other.settings.reuseAddress && !other.isListening)

/-- Some other socket stands in the way of socket `fd` taking an endpoint. -/
def inUse (n : Network) (fd : FileNumber) (s : Socket) (e : Endpoint) : Bool :=
  n.sockets.any fun p => p.1 != fd && conflicts s e p.2

end PolledChannels.Network
