import PolledChannels.Channels.Streams
import PolledChannels.Session.Schedule

/-!
# Commands of a session

What can be asked of a session: settings of the provider, operations on channels,
their blocking views and options, on selectors and keys, on connections and
clients, and on threads. 
Channels, selectors, connections, clients and threads are named by their places, keys by their
numbers.
-/

namespace PolledChannels
namespace Session

/-- A socket that was made elsewhere and is handed to a channel. -/
inductive SocketKind where
  | unbound
  | bound
  | listening
  | listening6
  | dual6
  | pipe
  | socketPair
  deriving DecidableEq, Repr

inductive ViewCommand where
  | bind (address : Option String) (backlog : Int)
  | accept
  | setTimeout (ms : Nat)
  | close
  | reuseAddress
  | setReuseAddress (on : Bool)
  | receiveBuffer
  | setReceiveBuffer (size : Int)
  | show
  deriving DecidableEq, Repr

inductive OptionCommand where
  | get (o : SocketOption)
  | set (o : SocketOption) (value : Int)
  | show
  deriving DecidableEq, Repr

inductive ListenerCommand where
  | bind (address : Option String) (backlog : Int)
  | accept
  | configureBlocking (block : Bool)
  | close
  | kill
  | drop
  | show
  | register (s : SelectorId) (ops : Mask)
  | keyFor (s : SelectorId)
  | translateInterest (k : KeyId) (ops : Mask)
  | translateSet (k : KeyId) (events : Mask)
  | translateUpdate (k : KeyId) (events : Mask)
  | deregister (k : KeyId)
  /-- A client connects to the channel, from an address of its own. -/
  | connect (source : Option Ipv4)
  deriving DecidableEq, Repr

inductive SelectorCommand where
  | select (ms : Nat)
  | wakeup
  | close
  | drop
  | show
  | clearSelected
  | removeSelected (k : KeyId)
  deriving DecidableEq, Repr

inductive KeyCommand where
  | setInterest (ops : Mask)
  | setReady (ops : Mask)
  | putEvents (events : Mask)
  | cancel
  | show
  deriving DecidableEq, Repr

inductive ClientCommand where
  | write (data : String)
  | read (n : Nat)
  | close
  deriving DecidableEq, Repr

inductive ConnectionCommand where
  | write (data : String)
  | read (n : Nat)
  | configureBlocking (block : Bool)
  | shutdown
  | close
  | drop
  | show
  deriving DecidableEq, Repr

inductive Task where
  | accept (c : ListenerId)
  | viewAccept (c : ListenerId)
  | bind (c : ListenerId) (address : Option String) (backlog : Int)
  | select (s : SelectorId) (ms : Option Nat)
  deriving DecidableEq, Repr

inductive ThreadCommand where
  | finished
  | interrupt
  | signal
  | join
  deriving DecidableEq, Repr

inductive Command where
  | setPolicy (policy : Option Policy)
  | setInvalid (policy : InvalidPolicy)
  | setLogging (on : Bool)
  | openListener
  | adopt (kind : SocketKind)
  | openSelector
  | listener (c : ListenerId) (command : ListenerCommand)
  | view (c : ListenerId) (command : ViewCommand)
  | options (c : ListenerId) (command : OptionCommand)
  | selector (s : SelectorId) (command : SelectorCommand)
  | key (k : KeyId) (command : KeyCommand)
  | client (x : Nat) (command : ClientCommand)
  | connection (sc : Nat) (command : ConnectionCommand)
  | spawn (task : Task) (touch interrupted : Bool)
  | thread (t : Nat) (command : ThreadCommand)
  | interruptSelf
  | takeFlag
  | malformed (reason : String)
  deriving DecidableEq, Repr

end Session

/-- A session: a station, and what answers call the things in it. -/
structure Session where
  station : Station
  joined : List Bool := []
  /-- Ports with their names, one for each. -/
  ports : List (Nat × String) := []
  bindings : Nat := 0
  /-- The channels that the session has let go of. A thread may still keep one. -/
  droppedListeners : List ListenerId := []
  droppedSelectors : List SelectorId := []
  /-- The accepted connections that were handed out. -/
  accepted : List (Option ConnectionId) := []
  /-- The clients that tried to connect, and the files of those that are connected. -/
  clients : List (Option FileNumber) := []
  /-- The channels whose options were asked for. -/
  optionUsers : List ListenerId := []
  returned : List KeyId := []

namespace Session

/-- The channel, if the session still holds it. -/
def listener? (s : Session) (c : ListenerId) : Option Listener :=
  if s.droppedListeners.contains c then none else s.station.listeners[c]?

def selector? (s : Session) (x : SelectorId) : Option Selector :=
  if s.droppedSelectors.contains x then none else s.station.selectors[x]?

/-- Every thread that was started was joined. -/
def isFree (s : Session) : Bool := s.joined.all id

end Session
end PolledChannels
