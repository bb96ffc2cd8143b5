/-!
# Readiness masks

Two spaces of bits meet here. A native mask holds what the kernel reports for a descriptor; an
operation mask holds what a registration waits for or has found ready. Both are 32-bit words, shown
as signed integers.

`Readiness.translate` turns a native mask into the next ready set of a listening channel, and
`Readiness.acceptEvents` turns an interest set into the native mask to wait for.
-/

namespace PolledChannels

/-- A set of bits in a 32-bit word. -/
abbrev Mask := BitVec 32

namespace Mask

/-- The two masks share a bit. -/
def meets (a b : Mask) : Bool := a &&& b != 0

/-- Every bit of `a` is a bit of `b`. -/
def within (a b : Mask) : Bool := a &&& ~~~b == 0

end Mask

namespace Native

/-- Data, or a connection, can be taken without waiting. -/
def input : Mask := 1
/-- Urgent data can be read. -/
def urgent : Mask := 2
/-- Data can be written without waiting. -/
def output : Mask := 4
/-- The descriptor is in an error state. -/
def failed : Mask := 8
/-- The other side hung up, or the socket is not connected. -/
def hangUp : Mask := 16
/-- The descriptor is not open. -/
def invalid : Mask := 32

def names : List (Mask × String) :=
  [(input, "POLLIN"), (urgent, "POLLPRI"), (output, "POLLOUT"), (failed, "POLLERR"),
    (hangUp, "POLLHUP"), (invalid, "POLLNVAL")]

def describe (events : Mask) : List String :=
  (names.filter fun p => events.meets p.1).map Prod.snd

end Native

namespace Operation

def read : Mask := 1
def write : Mask := 4
def connect : Mask := 8
def accept : Mask := 16

/-- What a listening channel can wait for. -/
def ofListener : Mask := accept

/-- What a connected channel can wait for. -/
def ofConnection : Mask := read ||| write ||| connect

end Operation

inductive Reading where
  /-- The descriptor was not open: there is no new ready set. -/
  | invalid
  /-- The next ready set, and whether it has a bit the old one lacks. -/
  | ready (ops : Mask) (changed : Bool)
  deriving DecidableEq, Repr

namespace Reading

/-- A bit became ready. -/
def changed : Reading → Bool
  | invalid => false
  | ready _ changed => changed

end Reading

namespace Readiness

/-- The native mask that a listening channel with this interest set waits for. -/
def acceptEvents (interest : Mask) : Mask :=
  if interest.meets Operation.accept then Native.input else 0

/-- The next ready set of a listening channel. An error or a hang-up makes everything ready that
the registration waits for, so that the next operation meets the failure. Otherwise the set starts
from `initial` and gains acceptance when a connection is pending and waited for. -/
def translate (events initial interest old : Mask) : Reading :=
  if events.meets Native.invalid then
    .invalid
  else if events.meets (Native.failed ||| Native.hangUp) then
    .ready interest (!interest.within old)
  else
    let ops :=
      if events.meets Native.input && interest.meets Operation.accept then
        initial ||| Operation.accept
      else
        initial
    .ready ops (!ops.within old)

end Readiness
end PolledChannels
