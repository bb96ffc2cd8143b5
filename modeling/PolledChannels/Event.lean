import PolledChannels.Address.Text
import PolledChannels.Json.Writer

/-!
# Events of channels

What happens to a channel is told as an event. Refusals and reports of invalid descriptors are
warnings, all other events are information. An event is written as one JSON object on a line.
-/

namespace PolledChannels

inductive EventKind where
  | opened
  | bound
  | listenDenied
  | accepted
  | acceptDenied
  | closed
  | killed
  | invalidDescriptor
  | interrupted
  deriving DecidableEq, Repr

inductive Level where
  | trace
  | debug
  | info
  | warn
  | error
  deriving DecidableEq, Repr

namespace Level

def name : Level → String
  | trace => "trace"
  | debug => "debug"
  | info => "info"
  | warn => "warn"
  | error => "error"

/-- Every level, least severe first. -/
def all : List Level := [trace, debug, info, warn, error]

def ofName? (s : String) : Option Level := all.find? fun l => l.name == s

end Level

namespace EventKind

def all : List EventKind :=
  [opened, bound, listenDenied, accepted, acceptDenied, closed, killed,
    invalidDescriptor, interrupted]

def name : EventKind → String
  | opened => "open"
  | bound => "bind"
  | listenDenied => "listen_denied"
  | accepted => "accept"
  | acceptDenied => "accept_denied"
  | closed => "close"
  | killed => "kill"
  | invalidDescriptor => "pollnval_without_preclose"
  | interrupted => "interrupt"

def level : EventKind → Level
  | listenDenied | acceptDenied | invalidDescriptor => .warn
  | _ => .info

end EventKind

structure Event where
  kind : EventKind
  channel : UInt64
  fd : Option Int32 := none
  localAddress : Option String := none
  remoteAddress : Option String := none
  errno : Option Int32 := none
  detail : Option String := none
  deriving DecidableEq, Repr

namespace Event

def level (e : Event) : Level := e.kind.level

/-- A member that is left out where there is no value. -/
def optional {α : Type} (key : String) (value : Option α) (encode : α → Json) : Members :=
  match value with
  | some a => [(key, encode a)]
  | none => []

/-- The members of an event, in the order in which they are written. -/
def members (e : Event) : Members :=
  [("event", .string e.kind.name), ("level", .string e.level.name),
    ("channel", .int e.channel.toNat)] ++
    optional "fd" e.fd (fun n => .int n.toInt) ++
    optional "local" e.localAddress .string ++
    optional "remote" e.remoteAddress .string ++
    optional "errno" e.errno (fun n => .int n.toInt) ++
    optional "detail" e.detail .string

def line (e : Event) : String := (Json.object e.members).toText

def describeLineSink : String := "JsonlSink \x7b .. \x7d"

end Event

/-- Events kept in memory, oldest first. -/
structure EventMemory where
  events : List Event := []
  deriving DecidableEq, Repr

namespace EventMemory

def emit (m : EventMemory) (e : Event) : EventMemory := ⟨m.events ++ [e]⟩

def kinds (m : EventMemory) : List EventKind := m.events.map Event.kind

def ofChannel (m : EventMemory) (channel : UInt64) : List Event :=
  m.events.filter fun e => e.channel == channel

def clear (_ : EventMemory) : EventMemory := ⟨[]⟩

end EventMemory
end PolledChannels
