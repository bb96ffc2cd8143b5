import PolledChannels.Failure.Basic
import PolledChannels.Interrupt

/-!
# Registration of channels with selectors

A key ties one channel to one selector. A channel that can be registered has a
core: whether it is open, whether it blocks, the keys that name it, and the thread
whose interrupt closed it. 
This module holds the decisions, one function for each stretch under a lock. What they decide
about, a selector, a socket, an event log, is joined to them elsewhere.
-/

namespace PolledChannels

/-- Stands for a key object. Keys are told apart as objects, so no number comes twice; what is
shown of it is a word. -/
abbrev KeyId := Nat

abbrev SelectorId := Nat

/-- The tie between one channel and one selector. -/
structure Key where
  selector : SelectorId
  /-- The channel, by its place among the channels. -/
  channel : Nat
  interest : Mask := 0
  ready : Mask := 0
  valid : Bool := true
  deriving DecidableEq, Repr

namespace Key

/-- What stands against a new interest set, given what the channel may be asked for,
if it is still there. -/
def checkInterest (k : Key) (supported : Option Mask) (ops : Mask) : Except Failure Unit :=
  if !k.valid then .error .illegalSelector
  else
    match supported with
    | none => .error .closed
    | some mask => if ops.within mask then .ok () else .error (.invalidInterest ops)

def describe (k : Key) (id : KeyId) : String :=
  s!"SelectionKey \x7b id: {id.toUInt64}, interest_ops: {k.interest.toInt}, " ++
    s!"ready_ops: {k.ready.toInt}, valid: {k.valid}, .. \x7d"

end Key

/-- What every channel that can be registered has. -/
structure Core where
  isOpen : Bool := true
  blocking : Bool := true
  /-- The keys that name the channel, valid or cancelled, oldest first. -/
  keys : List KeyId := []
  /-- The thread whose interrupt closed the channel, until it has heard of it. -/
  interruptedBy : Option ThreadId := none
  deriving DecidableEq, Repr

namespace Core

def registered (c : Core) : Bool := !c.keys.isEmpty

/-- What a change of the blocking mode comes to: refused, or whether the socket has to be changed.
`keyed` says that some key of the channel is valid. -/
def changeMode (c : Core) (keyed block : Bool) : Except Failure Bool :=
  if !c.isOpen then .error .closed
  else if c.blocking = block then .ok false
  else if block && keyed then .error .illegalBlockingMode
  else .ok true

/-- What a registration comes to. -/
inductive Admission where
  /-- A valid key is there: its interest set is replaced. -/
  | renew (key : KeyId)
  | create
  deriving DecidableEq, Repr

/-- What a registration comes to, given what the channel may be asked for, the valid key it has with
that selector, and whether the selector is open. -/
def admission (c : Core) (supported ops : Mask) (current : Option KeyId) (selectorOpen : Bool) :
    Except Failure Admission :=
  if !c.isOpen then .error .closed
  else if !ops.within supported then .error (.invalidInterest ops)
  else if c.blocking then .error .illegalBlockingMode
  else
    match current with
    | some key => .ok (.renew key)
    | none => if selectorOpen then .ok .create else .error .illegalSelector

/-- Takes a key off the channel; the answer says whether the channel is closed and has no key left.
-/
def dropKey (c : Core) (key : KeyId) : Core × Bool :=
  let c := { c with keys := c.keys.filter fun k => k != key }
  (c, c.keys.isEmpty && !c.isOpen)

/-- Flips an open channel to closed, on behalf of an interrupt aimed at a thread or of nobody. -/
def shut? (c : Core) (target : Option ThreadId) : Option Core :=
  if c.isOpen then
    some { c with isOpen := false
                  interruptedBy := match target with
                    | some t => some t
                    | none => c.interruptedBy }
  else none

/-- Thread `me` ends an operation: it hears once of its own interrupt, and of a close if the
operation took nothing. -/
def conclude (c : Core) (me : ThreadId) (completed : Bool) : Core × Except Failure Unit :=
  if c.interruptedBy = some me then ({ c with interruptedBy := none }, .error .closedByInterrupt)
  else if !completed && !c.isOpen then (c, .error .asynchronousClose)
  else (c, .ok ())

end Core
end PolledChannels
