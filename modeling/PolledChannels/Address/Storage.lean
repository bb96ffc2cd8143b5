import PolledChannels.Address.Basic
import PolledChannels.Failure.Basic

/-!
# Addresses in the form of the kernel

The kernel keeps an address as a family and bytes. An IPv4 endpoint takes 16 bytes with its family,
an IPv6 endpoint 28. Ports and addresses stand with the high byte first; flow information and scope
stand with the low byte first.
-/

namespace PolledChannels

/-- Room for an address of any family. -/
structure Storage where
  family : UInt16
  bytes : Vector UInt8 126
  deriving DecidableEq

namespace Storage

def inet : UInt16 := 2

def inet6 : UInt16 := 10

def unix : UInt16 := 1

def inetLength : Nat := 16

def inet6Length : Nat := 28

def padded (bytes : List UInt8) : Vector UInt8 126 := Vector.ofFn fun i => bytes.getD i.val 0

def highFirst (n : UInt16) : List UInt8 := [(n >>> 8).toUInt8, n.toUInt8]

def lowFirst (n : UInt32) : List UInt8 :=
  [n.toUInt8, (n >>> 8).toUInt8, (n >>> 16).toUInt8, (n >>> 24).toUInt8]

def joinLowFirst (b0 b1 b2 b3 : UInt8) : UInt32 :=
  b0.toUInt32 ||| b1.toUInt32 <<< 8 ||| b2.toUInt32 <<< 16 ||| b3.toUInt32 <<< 24

/-- The storage of an endpoint, and how much of it counts. -/
def ofEndpoint : Endpoint → Storage × Nat
  | .v4 ip port => (⟨inet, padded (highFirst port ++ [ip.a, ip.b, ip.c, ip.d])⟩, inetLength)
  | .v6 ip port flow scope =>
    (⟨inet6, padded (highFirst port ++ lowFirst flow ++ ip.groups.toList.flatMap highFirst ++
      lowFirst scope)⟩, inet6Length)

/-- How an address that is neither of the two kinds, or is cut off, is refused. -/
def unreadable : IoError := .custom .invalidInput "unsupported address family"

/-- The endpoint in a storage of which `length` bytes count. -/
def toEndpoint (s : Storage) (length : Nat) : Except IoError Endpoint :=
  let b := s.bytes
  let port := Ipv6.joinBytes b[0] b[1]
  if s.family = inet ∧ inetLength ≤ length then .ok (.v4 ⟨b[2], b[3], b[4], b[5]⟩ port)
  else if s.family = inet6 ∧ inet6Length ≤ length then
    let group (i : Nat) (h : i < 8) : UInt16 := Ipv6.joinBytes b[6 + 2 * i] b[7 + 2 * i]
    .ok (.v6 ⟨Vector.ofFn fun i => group i.val i.isLt⟩ port
      (joinLowFirst b[2] b[3] b[4] b[5]) (joinLowFirst b[22] b[23] b[24] b[25]))
  else .error unreadable

end Storage
end PolledChannels
