/-!
# Addresses

Internet addresses of the two families, and endpoints: an address with a port.
-/

namespace PolledChannels

structure Ipv4 where
  a : UInt8
  b : UInt8
  c : UInt8
  d : UInt8
  deriving DecidableEq, Repr

/-- An IPv6 address: eight groups of sixteen bits. -/
structure Ipv6 where
  groups : Vector UInt16 8
  deriving DecidableEq, Repr

/-- An address of either family. -/
inductive Ip where
  | v4 (ip : Ipv4)
  | v6 (ip : Ipv6)
  deriving DecidableEq, Repr

/-- An address with a port. An IPv6 endpoint also carries flow information and a scope. -/
inductive Endpoint where
  | v4 (ip : Ipv4) (port : UInt16)
  | v6 (ip : Ipv6) (port : UInt16) (flow scope : UInt32)
  deriving DecidableEq, Repr

namespace Ipv4

def any : Ipv4 := ⟨0, 0, 0, 0⟩

def loopback : Ipv4 := ⟨127, 0, 0, 1⟩

def isLoopback (ip : Ipv4) : Bool := ip.a == 127

end Ipv4

namespace Ipv6

def ofGroups (g0 g1 g2 g3 g4 g5 g6 g7 : UInt16) : Ipv6 :=
  ⟨#v[g0, g1, g2, g3, g4, g5, g6, g7]⟩

def any : Ipv6 := ofGroups 0 0 0 0 0 0 0 0

def loopback : Ipv6 := ofGroups 0 0 0 0 0 0 0 1

def joinBytes (high low : UInt8) : UInt16 :=
  high.toUInt16 <<< 8 ||| low.toUInt16

/-- The IPv6 address that stands for an IPv4 address. -/
def ofMapped (ip : Ipv4) : Ipv6 :=
  ofGroups 0 0 0 0 0 0xFFFF (joinBytes ip.a ip.b) (joinBytes ip.c ip.d)

/-- The IPv4 address that the address stands for, if it is a mapped one. -/
def mapped? (ip : Ipv6) : Option Ipv4 :=
  match ip.groups.toList with
  | [0, 0, 0, 0, 0, 0xFFFF, high, low] =>
    some ⟨(high >>> 8).toUInt8, high.toUInt8, (low >>> 8).toUInt8, low.toUInt8⟩
  | _ => none

end Ipv6

namespace Endpoint

def ip : Endpoint → Ip
  | v4 ip _ => .v4 ip
  | v6 ip _ _ _ => .v6 ip

def port : Endpoint → UInt16
  | v4 _ port => port
  | v6 _ port _ _ => port

def withPort (e : Endpoint) (port : UInt16) : Endpoint :=
  match e with
  | v4 ip _ => v4 ip port
  | v6 ip _ flow scope => v6 ip port flow scope

/-- Every IPv4 interface and a port that the system picks. -/
def wildcard : Endpoint := v4 Ipv4.any 0

end Endpoint
end PolledChannels
