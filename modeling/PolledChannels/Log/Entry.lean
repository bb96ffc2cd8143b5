import PolledChannels.Event
import PolledChannels.Time.Timestamp

/-!
# Log entries

A log entry is one JSON object on a line. Timestamp, trace id, level and event are always there;
the other members are left out where they have no value.
-/

namespace PolledChannels.Log

inductive Outcome where
  | pass
  | fail
  | skip
  | error
  | timeout
  deriving DecidableEq, Repr

inductive Stream where
  | unit
  | endToEnd
  | performance
  deriving DecidableEq, Repr

namespace Outcome

def name : Outcome → String
  | pass => "pass"
  | fail => "fail"
  | skip => "skip"
  | error => "error"
  | timeout => "timeout"

def all : List Outcome := [pass, fail, skip, error, timeout]

def ofName? (s : String) : Option Outcome := all.find? fun o => o.name == s

end Outcome

namespace Stream

def name : Stream → String
  | unit => "unit"
  | endToEnd => "e2e"
  | performance => "perf"

def describe : Stream → String
  | unit => "Unit"
  | endToEnd => "E2e"
  | performance => "Perf"

def all : List Stream := [unit, endToEnd, performance]

def ofName? (s : String) : Option Stream := all.find? fun x => x.name == s

end Stream

structure Entry where
  timestamp : String
  traceId : String
  level : Level
  event : String
  stream : Option Stream := none
  scenario : Option String := none
  channelId : Option UInt64 := none
  fd : Option Int32 := none
  localAddress : Option String := none
  remoteAddress : Option String := none
  outcome : Option Outcome := none
  errno : Option Int32 := none
  durationMs : Option UInt64 := none
  details : Option Json := none
  deriving Repr

namespace Entry

/-- The members of an entry, in the order in which they are written. -/
def members (e : Entry) : Members :=
  [("timestamp", .string e.timestamp), ("trace_id", .string e.traceId),
    ("level", .string e.level.name), ("event", .string e.event)] ++
    Event.optional "stream" e.stream (fun s => .string s.name) ++
    Event.optional "scenario" e.scenario .string ++
    Event.optional "channel_id" e.channelId (fun n => .int n.toNat) ++
    Event.optional "fd" e.fd (fun n => .int n.toInt) ++
    Event.optional "local_addr" e.localAddress .string ++
    Event.optional "remote_addr" e.remoteAddress .string ++
    Event.optional "outcome" e.outcome (fun o => .string o.name) ++
    Event.optional "errno" e.errno (fun n => .int n.toInt) ++
    Event.optional "duration_ms" e.durationMs (fun n => .int n.toNat) ++
    Event.optional "details" e.details id

def line (e : Entry) : String := (Json.object e.members).toText

/-- The entry of a channel event. Its trace id is left for the emitter to fill in. -/
def ofEvent (clock : Clock) (e : Event) : Entry where
  timestamp := clock.timestamp
  traceId := ""
  level := e.level
  event := e.kind.name
  channelId := some e.channel
  fd := e.fd
  localAddress := e.localAddress
  remoteAddress := e.remoteAddress
  errno := e.errno
  details := e.detail.map fun d => Json.object [("detail", .string d)]

end Entry
end PolledChannels.Log
