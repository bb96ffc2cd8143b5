import PolledChannels.Address.Listening
import PolledChannels.Descriptor
import PolledChannels.Event
import PolledChannels.Lifecycle
import PolledChannels.Network.Basic
import PolledChannels.Policy
import PolledChannels.Registration
import PolledChannels.Settings.Modes

/-!
# The state of a station

A station holds everything that channels share: the network, the provider's settings, listening
channels, the connections they took, selectors and keys, the table of interrupts, the threads, and a
clock in milliseconds.

Channels and selectors are named by their place in the station's lists; keys are numbered from 1.
-/

namespace PolledChannels

abbrev ListenerId := Nat

abbrev ConnectionId := Nat

/-- What an accept answers: a connection, or none if none was there. -/
abbrev AcceptAnswer := Except Failure (Option ConnectionId)

/-- What every channel of a provider consults. -/
structure Provider where
  policy : Option Policy := none
  logging : Bool := false
  invalid : InvalidPolicy := .lenient
  deriving DecidableEq, Repr

namespace Provider

def checkListen (p : Provider) (port : UInt16) : Except Denial Unit :=
  match p.policy with
  | some policy => policy.checkListen port
  | none => .ok ()

/-- May a channel keep a connection from the endpoint? The policy is asked with the
text of the address. -/
def checkAccept (p : Provider) (remote : Endpoint) : Except Denial Unit :=
  match p.policy with
  | some policy => policy.checkAccept remote.ip.render remote.port
  | none => .ok ()

def describe (p : Provider) : String :=
  s!"SelectorProvider \x7b security: {p.policy.isSome}, sink: {p.logging}, " ++
    s!"pollnval: {p.invalid.describe} \x7d"

end Provider

structure Listener where
  /-- The number under which events name the channel. -/
  id : Nat
  descriptor : Descriptor
  core : Core := {}
  lifecycle : Lifecycle := .inUse
  localAddress : Option Endpoint := none
  /-- The thread that waits in accept, as a close finds it. -/
  acceptor : Option ThreadId := none
  /-- The thread that binds or accepts; the others wait for their turn. -/
  turn : Option ThreadId := none
  /-- Who keeps the channel: the application, and threads that operate on it. -/
  owners : Nat := 1
  /-- The timeout of the blocking view in milliseconds, once somebody asked for the view. -/
  timeout : Option UInt32 := none
  deriving DecidableEq, Repr

namespace Listener

/-- The channel is still kept. -/
def alive (l : Listener) : Bool := 0 < l.owners

def isBound (l : Listener) : Bool := l.localAddress.isSome

def render (l : Listener) : String :=
  let inside :=
    if l.core.isOpen then
      match l.localAddress with
      | some e => e.render
      | none => "unbound"
    else "closed"
  "ServerSocketChannel[" ++ inside ++ "]"

def describe (l : Listener) : String :=
  s!"ServerSocketChannel \x7b id: {l.id.toUInt64}, fd: {l.descriptor.number}, " ++
    s!"open: {l.core.isOpen}, .. \x7d"

end Listener

/-- A connection that a listening channel took. -/
structure Connection where
  id : Nat
  descriptor : Descriptor
  remote : Endpoint
  blocking : Bool := true
  deriving DecidableEq, Repr

structure Selector where
  isOpen : Bool := true
  /-- The keys with the masks they wait for, oldest first. -/
  registered : List (KeyId × Mask) := []
  cancelled : List KeyId := []
  selected : List KeyId := []
  wake : Pipe := {}
  /-- Who keeps the selector: the application, and threads that select. -/
  owners : Nat := 1
  deriving DecidableEq, Repr

namespace Selector

def alive (s : Selector) : Bool := 0 < s.owners

def keys (s : Selector) : List KeyId := s.registered.map Prod.fst

def describe (s : Selector) : String :=
  s!"PollSelector \x7b open: {s.isOpen}, keys: {s.registered.length}, .. \x7d"

end Selector

/-- What an observer of an event sees of the listening channel at that moment. -/
structure Sighting where
  isOpen : Bool
  bound : Bool
  registered : Bool
  lifecycle : Lifecycle
  deriving DecidableEq, Repr

/-- An event that was kept, with what an observer saw. -/
structure Report where
  event : Event
  sighting : Option Sighting
  deriving DecidableEq, Repr

/-- On whose behalf a thread accepts. -/
inductive Caller where
  /-- The channel itself. -/
  | channel
  /-- The blocking view without a timeout. -/
  | view
  /-- The blocking view with a timeout in milliseconds, for the first time. -/
  | timed (timeout : Nat)
  /-- The blocking view again, before a deadline. -/
  | again (deadline : Nat)
  deriving DecidableEq, Repr

/-- What a selection polls: a key, its descriptor and the mask asked for. -/
structure Polled where
  key : KeyId
  number : FileNumber
  mask : Mask
  deriving DecidableEq, Repr

/-- Where a thread stands in an operation that may wait. -/
inductive Point where
  /-- About to bind, when its turn comes. -/
  | bind (c : ListenerId) (address : Option Endpoint) (backlog : Int)
  /-- About to accept, when its turn comes. -/
  | accept (c : ListenerId) (caller : Caller)
  /-- Has the turn and is about to try. -/
  | attempt (c : ListenerId) (caller : Caller)
  /-- Waits in the kernel for a connection. -/
  | inAccept (c : ListenerId) (caller : Caller)
  /-- About to accept through the blocking view. -/
  | view (c : ListenerId)
  /-- About to see whether there is time left. -/
  | timed (c : ListenerId) (deadline : Nat)
  /-- Waits in the kernel for a connection until a deadline. -/
  | inPoll (c : ListenerId) (deadline : Nat)
  | select (s : SelectorId) (timeout : Option Nat)
  /-- Waits in the kernel for a key to become ready. -/
  | inSelect (s : SelectorId) (polled : List Polled) (deadline : Option Nat)
  deriving DecidableEq, Repr

inductive Outcome where
  | bound (r : Except Failure Unit)
  | accepted (r : AcceptAnswer)
  | viewed (r : Except Failure ConnectionId)
  | selected (r : Except Failure Nat)

inductive Activity where
  | running (point : Point)
  /-- The operation is over; the flag is what the thread's own test of its
  interrupt gave at the end. -/
  | finished (outcome : Outcome) (interrupted : Bool)

structure Thread where
  activity : Activity
  /-- A signal waits for the call that the thread is in. -/
  signalled : Bool := false

/-- Everything that channels share. -/
structure Station where
  network : Network := {}
  provider : Provider := {}
  listeners : List Listener := []
  connections : List Connection := []
  selectors : List Selector := []
  keys : List Key := []
  nextId : Nat := 1
  interrupts : Interrupts ListenerId := {}
  /-- The threads beside the main thread. -/
  threads : List Thread := []
  /-- The events that were kept, oldest first. -/
  reports : List Report := []
  /-- Milliseconds since the station began. -/
  now : Nat := 0

namespace Station

def mainThread : ThreadId := 0

def threadId (t : Nat) : ThreadId := t + 1

def key? (st : Station) (k : KeyId) : Option Key := if k = 0 then none else st.keys[k - 1]?

def modifyKey (st : Station) (k : KeyId) (f : Key → Key) : Station :=
  if k = 0 then st else { st with keys := st.keys.modify (k - 1) f }

def modifyListener (st : Station) (c : ListenerId) (f : Listener → Listener) : Station :=
  { st with listeners := st.listeners.modify c f }

def modifyConnection (st : Station) (i : ConnectionId) (f : Connection → Connection) : Station :=
  { st with connections := st.connections.modify i f }

def modifySelector (st : Station) (s : SelectorId) (f : Selector → Selector) : Station :=
  { st with selectors := st.selectors.modify s f }

def listenerAlive (st : Station) (c : ListenerId) : Bool :=
  match st.listeners[c]? with
  | some l => l.alive
  | none => false

def selectorAlive (st : Station) (s : SelectorId) : Bool :=
  match st.selectors[s]? with
  | some x => x.alive
  | none => false

def keyValid (st : Station) (k : KeyId) : Bool :=
  match st.key? k with
  | some key => key.valid
  | none => false

def sighting (st : Station) (c : ListenerId) : Option Sighting :=
  st.listeners[c]?.bind fun l =>
    if l.alive then some ⟨l.core.isOpen, l.isBound, l.core.registered, l.lifecycle⟩ else none

end Station

/-- An operation on a station. What it changed before it failed stays changed. -/
abbrev Action := ExceptT Failure (StateM Station)

namespace Action

/-- A listening channel; one that is gone counts as closed. -/
def listener (c : ListenerId) : Action Listener := do
  match (← get).listeners[c]? with
  | some l => return l
  | none => throw .closed

/-- A selector; one that is gone is of no use. -/
def selector (s : SelectorId) : Action Selector := do
  match (← get).selectors[s]? with
  | some x => return x
  | none => throw .illegalSelector

/-- Runs an operation and hands its outcome on as a value. -/
def observe {α : Type} (a : Action α) : Action (Except Failure α) :=
  tryCatch (do return .ok (← a)) fun f => return .error f

/-- Runs a call of the network and hands its outcome on as a value. -/
def network {α : Type} (a : Net α) : Action (Except IoError α) := do
  let st ← get
  let r := a.run st.network
  set { st with network := r.2 }
  return r.1

/-- Fails where a call of the network failed. -/
def demand {α : Type} : Except IoError α → Action α
  | .ok a => return a
  | .error e => throw (.io e)

/-- Keeps an event, with what an observer sees of a listening channel. -/
def emit (seen : Option ListenerId) (event : Event) : Action Unit :=
  modify fun st =>
    if st.provider.logging then
      { st with reports := st.reports ++ [⟨event, seen.bind st.sighting⟩] } else st

def takeId : Action Nat := do
  let st ← get
  set { st with nextId := st.nextId + 1 }
  return st.nextId

end Action
end PolledChannels
